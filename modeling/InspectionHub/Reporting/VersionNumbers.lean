import InspectionHub.Reporting.PublicationStore
import InspectionHub.Reporting.SemanticReport

/-!
# The numbers of a job's versions

A recipient tells versions by the numbers that callers give them. An amendment
names the version it replaces and is not asked for a greater number; where the
callers see to that, the numbers rise along every history.
-/

namespace InspectionHub.Reporting

/-- The number a version shows in its title, its file name and its sentences. -/
def PublishedReportVersion.shownNumber (runtime : Runtime) (version : PublishedReportVersion) :
    String := runtime.string version.snapshot.versionNumber

/-- The later version has the greater number. -/
def Advanced (version later : PublishedReportVersion) : Prop :=
  version.snapshot.versionNumber < later.snapshot.versionNumber

instance : Trans Advanced Advanced Advanced := ⟨lt_trans⟩

/-- The numbers rise along every history. -/
def VersionsAdvance (s : Store) : Prop :=
  ∀ organizationId jobId versions, s.history organizationId jobId = .ok versions →
    versions.Pairwise Advanced

/-- A publication's number is greater than that of its job's current version. -/
def NumbersOn (s : Store) : PublicationCall → Prop
  | .publish input _ => ∀ version, s.current input.organizationId input.jobId = some version →
      version.snapshot.versionNumber < input.versionNumber
  | .withdraw _ => True

/-- Every stored number is an integer. -/
def StoredIntegers (s : Store) : Prop :=
  ∀ id version, s.byId.get? id = some version →
    Js.isInteger version.snapshot.versionNumber = true

variable {host : Js.Host} {digest : String → String} {s t : Store}

/-! ## One publication -/

variable {input : ReportSnapshotInput}

theorem isInteger_of_created {snapshot : ReportSnapshot}
    (h : createReportSnapshot host digest input = .ok snapshot) :
    Js.isInteger input.versionNumber = true := by
  obtain ⟨u, hvalid, -⟩ := Throwing.bind_ok h
  obtain ⟨_, hnumber, -⟩ := Throwing.bind_ok hvalid
  have hnot := Throwing.throwIf_ok hnumber
  exact Bool.eq_true_of_not_eq_false fun hfraction => hnot (.inr hfraction)

variable {version : PublishedReportVersion}

theorem publish_created {renderer : ReportRenderer}
    (h : publish host digest input renderer s = .ok version t) :
    ∃ snapshot, createReportSnapshot host digest input = .ok snapshot := by
  unfold publish at h
  obtain ⟨before, s₁, hread, h⟩ := Tx.bind_ok h
  obtain ⟨-, h⟩ := Tx.throwIf_ok h
  obtain ⟨u, s₂, -, h⟩ := Tx.bind_ok h
  obtain ⟨snapshot, hsnapshot, -⟩ := Tx.ofExcept_ok h
  cases hcreated : createReportSnapshot host digest input with
  | error e =>
      rw [hcreated] at hsnapshot
      cases hsnapshot
  | ok created => exact ⟨created, rfl⟩

theorem Publishes.versionNumber (h : Publishes input version s t) :
    version.snapshot.versionNumber = input.versionNumber :=
  congrArg ReportSnapshotInput.versionNumber h.written

/-- The chain of the version's job grows by it, the chains of other jobs stay. -/
theorem Publishes.chain (h : Publishes input version s t) {jobKey : String}
    {versions later : List PublishedReportVersion} (hbefore : Chain s jobKey versions)
    (hafter : Chain t jobKey later) :
    later = if jobKey = jobKeyOf input.organizationId input.jobId then versions ++ [version]
      else versions := by
  obtain ⟨more, rfl⟩ := hbefore.extends hafter h.grows
  have hids := hafter.ids
  rw [h.historyIds, List.map_append, hbefore.ids] at hids
  by_cases hkey : jobKey = jobKeyOf input.organizationId input.jobId
  · rw [if_pos hkey] at hids ⊢
    have hone := List.append_cancel_left hids
    obtain ⟨last, rfl, hid⟩ := List.map_eq_singleton_iff.mp hone
    have hstored := (hafter.stored last (List.mem_append_right _ List.mem_cons_self)).1
    rw [hid, ← h.reportVersionId, h.byId, Table.get?_put_self] at hstored
    rw [Option.some_inj.mp hstored]
  · rw [if_neg hkey] at hids ⊢
    have hnone := List.append_right_eq_self.mp hids
    rw [List.map_eq_nil_iff.mp hnone, List.append_nil]

/-- Histories rise together with the chains. -/
theorem VersionsAdvance.chain (h : VersionsAdvance s) {organizationId jobId : String}
    {versions : List PublishedReportVersion}
    (hchain : Chain s (jobKeyOf organizationId jobId) versions) :
    versions.Pairwise Advanced := h organizationId jobId versions hchain.history

/-- A number put at the end of a rising history is greater than all others when it is
greater than the last. -/
theorem pairwise_snoc {versions : List PublishedReportVersion} :
    (versions ++ [version]).Pairwise Advanced ↔
      versions.Pairwise Advanced ∧ ∀ last ∈ versions.getLast?, Advanced last version := by
  rw [← List.isChain_iff_pairwise, ← List.isChain_iff_pairwise, List.isChain_append]
  constructor
  · rintro ⟨hrising, -, hlast⟩
    exact ⟨hrising, fun last hmem => hlast last hmem version rfl⟩
  · rintro ⟨hrising, hlast⟩
    refine ⟨hrising, List.isChain_singleton _, ?_⟩
    intro last hmem next hnext
    rw [← Option.some_inj.mp hnext]
    exact hlast last hmem

/-- **Exactness of a publication.** It keeps the numbers rising just when its own is greater
than the current version's. -/
theorem Publishes.versionsAdvance_iff {renderer : ReportRenderer}
    (h : Publishes input version s t) (hs : Chains s) (hrising : VersionsAdvance s) :
    VersionsAdvance t ↔ NumbersOn s (.publish input renderer) := by
  have ht := h.chains hs
  constructor
  · intro hafter current hcurrent
    obtain ⟨versions, hchain⟩ := hs (jobKeyOf input.organizationId input.jobId)
    obtain ⟨later, hlater⟩ := ht (jobKeyOf input.organizationId input.jobId)
    have hpairwise := hafter.chain hlater
    rw [h.chain hchain hlater, if_pos rfl, pairwise_snoc] at hpairwise
    rw [hchain.current_answer] at hcurrent
    rw [← h.versionNumber]
    exact hpairwise.2 current hcurrent
  · intro hnumbers organizationId jobId later hhistory
    obtain ⟨versions, hchain⟩ := hs (jobKeyOf organizationId jobId)
    obtain ⟨answered, hlater⟩ := ht (jobKeyOf organizationId jobId)
    rw [hlater.history] at hhistory
    cases hhistory
    rw [h.chain hchain hlater]
    by_cases hkey : jobKeyOf organizationId jobId = jobKeyOf input.organizationId input.jobId
    · rw [if_pos hkey, pairwise_snoc]
      refine ⟨hrising.chain hchain, ?_⟩
      intro last hlast
      have hcurrent : s.current input.organizationId input.jobId = some last := by
        rw [hkey] at hchain
        rw [hchain.current_answer]
        exact hlast
      unfold Advanced
      rw [h.versionNumber]
      exact hnumbers last hcurrent
    · rw [if_neg hkey]
      exact hrising.chain hchain

theorem Publishes.storedIntegers (h : Publishes input version s t)
    (hinteger : Js.isInteger input.versionNumber = true) (hs : StoredIntegers s) :
    StoredIntegers t := by
  intro id stored hstored
  rw [h.byId, Table.get?_put] at hstored
  split at hstored
  · cases hstored
    rw [h.versionNumber]
    exact hinteger
  · exact hs id stored hstored

/-! ## Runs -/

/-- **Step lemma.** -/
theorem perform_advances {call : PublicationCall} (hs : Chains s) (hrising : VersionsAdvance s)
    (hintegers : StoredIntegers s) (hcall : NumbersOn s call) :
    VersionsAdvance (Tx.after (perform host digest call s)) ∧
      StoredIntegers (Tx.after (perform host digest call s)) := by
  cases hperform : perform host digest call s with
  | error e t =>
      obtain rfl := perform_error hperform
      exact ⟨hrising, hintegers⟩
  | ok u t =>
      cases call with
      | publish input renderer =>
          obtain ⟨version, t', hpublish, hdone⟩ := Tx.bind_ok hperform
          cases hdone
          obtain ⟨snapshot, hcreated⟩ := publish_created hpublish
          have hpublishes := publish_ok hpublish
          exact ⟨(hpublishes.versionsAdvance_iff hs hrising).mpr hcall,
            hpublishes.storedIntegers (isInteger_of_created hcreated) hintegers⟩
      | withdraw notice =>
          obtain ⟨stored, t', hwithdraw, hdone⟩ := Tx.bind_ok hperform
          cases hdone
          obtain rfl := withdraw_ok hwithdraw
          exact ⟨hrising, hintegers⟩

theorem advance_inductive : (publications host digest).Inductive NumbersOn
    fun s => Chains s ∧ VersionsAdvance s ∧ StoredIntegers s where
  init := by
    rintro _ rfl
    refine ⟨chains_empty, ?_, nofun⟩
    intro organizationId jobId versions hhistory
    cases hhistory
    exact List.Pairwise.nil
  step := by
    rintro s call _ ⟨hchains, hrising, hintegers⟩ hcall rfl
    exact ⟨(perform_preserves call hchains).1, perform_advances hchains hrising hintegers hcall⟩

theorem num_cast_of_isInteger {x : ℚ} (h : Js.isInteger x = true) : (x.num : ℚ) = x :=
  (Rat.den_eq_one_iff x).mp (of_decide_eq_true h)

/-- Distinct numbers are shown as distinct texts. -/
theorem shownNumber_ne {runtime : Runtime} {version later : PublishedReportVersion}
    (hstring : ∀ m n : ℤ, runtime.string m = runtime.string n → m = n)
    (hversion : Js.isInteger version.snapshot.versionNumber = true)
    (hlater : Js.isInteger later.snapshot.versionNumber = true) (h : Advanced version later) :
    version.shownNumber runtime ≠ later.shownNumber runtime := by
  intro hsame
  unfold PublishedReportVersion.shownNumber at hsame
  rw [← num_cast_of_isInteger hversion, ← num_cast_of_isInteger hlater] at hsame
  have hnumbers : version.snapshot.versionNumber = later.snapshot.versionNumber := by
    rw [← num_cast_of_isInteger hversion, ← num_cast_of_isInteger hlater,
      hstring _ _ hsame]
  exact absurd hnumbers (ne_of_lt h)

/-- **Versions advance.** In a run whose publications number on from the current version the
numbers rise along every history, and no two of its versions show the same number. A
publication that does not number on breaks the order at once. -/
theorem version_numbers_advance (runtime : Runtime)
    (hstring : ∀ m n : ℤ, runtime.string m = runtime.string n → m = n) :
    (∀ s, (publications host digest).Reachable NumbersOn s →
      ∀ organizationId jobId, ∃ versions, s.history organizationId jobId = .ok versions ∧
        versions.Pairwise (fun version later =>
          version.snapshot.versionNumber < later.snapshot.versionNumber ∧
            version.shownNumber runtime ≠ later.shownNumber runtime)) ∧
    ∀ s t input renderer version, (publications host digest).Reachable TSys.any s →
      VersionsAdvance s → publish host digest input renderer s = .ok version t →
      (VersionsAdvance t ↔ NumbersOn s (.publish input renderer)) := by
  refine ⟨?_, ?_⟩
  · intro s hs organizationId jobId
    obtain ⟨hchains, hrising, hintegers⟩ := advance_inductive.invariant hs
    obtain ⟨versions, hchain⟩ := hchains (jobKeyOf organizationId jobId)
    refine ⟨versions, hchain.history, ?_⟩
    refine (hrising.chain hchain).imp_of_mem ?_
    intro version later hversion hlater hadvanced
    have hinteger := hintegers _ version (hchain.stored version hversion).1
    have hinteger' := hintegers _ later (hchain.stored later hlater).1
    exact ⟨hadvanced, shownNumber_ne hstring hinteger hinteger' hadvanced⟩
  · intro s t input renderer version hs hrising hpublish
    exact (publish_ok hpublish).versionsAdvance_iff (chains_inductive.invariant hs) hrising

namespace Sample

/-- Integers that are not safe are written after a letter. -/
def lettered : Runtime where
  dateText _ := ""
  numberText value := String.ofList ('n' :: Json.intText value.num)
  toLocaleLowerCase := id
  sha256 _ := ""

theorem lettered_injective : ∀ m n : ℤ, lettered.string m = lettered.string n → m = n := by
  have hapart : ∀ m n : ℤ, String.ofList (Json.intText m) ≠
      String.ofList ('n' :: Json.intText n) := by
    intro m n heq
    have hchars := String.ofList_inj.mp heq
    rcases Json.intText_chars m 'n' (hchars ▸ List.mem_cons_self) with hdigit | hsign
    · exact absurd hdigit (by decide)
    · exact absurd hsign (by decide)
  intro m n h
  unfold Runtime.string at h
  split at h <;> split at h
  · exact Json.intText_injective (String.ofList_inj.mp h)
  · exact absurd h (hapart m n)
  · exact absurd h.symm (hapart n m)
  · exact Json.intText_injective (List.cons.inj (String.ofList_inj.mp h)).2

theorem reachable_numbered : (publications reads id).Reachable NumbersOn reissued := by
  have hissued : (publications reads id).Reachable NumbersOn issued := by
    refine TSys.Reachable.step (TSys.Reachable.init rfl) (a := .publish original renderer) ?_ rfl
    intro version hcurrent
    cases hcurrent
  refine hissued.step (a := .publish amended renderer) ?_ rfl
  intro version hcurrent
  have hfirst : (issued.current "org" "job").map (·.snapshot.versionNumber) = some 1 := by
    decide +kernel
  rw [show issued.current "org" "job" = some version from hcurrent] at hfirst
  have hone : version.snapshot.versionNumber = 1 := Option.some_inj.mp hfirst
  rw [hone]
  decide +kernel

theorem reissued_advances : ∃ versions, reissued.history "org" "job" = .ok versions ∧
    versions.Pairwise (fun version later =>
      version.snapshot.versionNumber < later.snapshot.versionNumber ∧
        version.shownNumber lettered ≠ later.shownNumber lettered) :=
  (version_numbers_advance lettered lettered_injective).1 reissued reachable_numbered "org" "job"

/-- An amendment that keeps the number of the version it replaces. -/
def renewed : Store := next issued (.publish { amended with versionNumber := 1 } renderer)

/-- Both versions of the job show the number one. -/
theorem renewed_repeats : (publications reads id).Reachable TSys.any renewed ∧
    ¬ VersionsAdvance renewed ∧
    (renewed.current "org" "job").map (·.shownNumber lettered) =
      (issued.current "org" "job").map (·.shownNumber lettered) := by
  refine ⟨TSys.reachable_foldl Store.empty next
    [.publish original renderer, .publish { amended with versionNumber := 1 } renderer], ?_, ?_⟩
  · intro hrising
    have hnumbers : (renewed.history "org" "job").toOption.map
        (·.map (·.snapshot.versionNumber)) = some [1, 1] := by decide +kernel
    cases hhistory : renewed.history "org" "job" with
    | error e =>
        rw [hhistory] at hnumbers
        cases hnumbers
    | ok versions =>
        rw [hhistory] at hnumbers
        have hpairwise : (versions.map (·.snapshot.versionNumber)).Pairwise (· < ·) :=
          List.pairwise_map.mpr (hrising "org" "job" versions hhistory)
        have hones : versions.map (·.snapshot.versionNumber) = [1, 1] :=
          Option.some_inj.mp hnumbers
        rw [hones] at hpairwise
        exact absurd (List.rel_of_pairwise_cons hpairwise List.mem_cons_self) (lt_irrefl 1)
  · decide +kernel

end Sample

end InspectionHub.Reporting
