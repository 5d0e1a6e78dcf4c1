import InspectionHub.Lib.Words
import InspectionHub.Reporting.PublicationStore

/-!
# Whose versions a job's answers are

The publication store keeps a job under its organization's id and its own, with
a colon between them. Two jobs share what is kept when the ids have colons of
their own; else a job's answers are its own versions, and what other jobs
published decides nothing about it.
-/

namespace InspectionHub.Reporting

/-! ## The key of a job -/

/-- The organization and the job a report names. -/
@[ext]
structure JobIdentity where
  organizationId : String
  jobId : String
deriving DecidableEq

namespace JobIdentity

def key (job : JobIdentity) : String := jobKeyOf job.organizationId job.jobId

/-- Neither id has a colon. -/
def ColonFree (job : JobIdentity) : Prop :=
  ':' ∉ job.organizationId.toList ∧ ':' ∉ job.jobId.toList

instance (job : JobIdentity) : Decidable job.ColonFree := inferInstanceAs (Decidable (_ ∧ _))

theorem toList_key (job : JobIdentity) :
    job.key.toList = job.organizationId.toList ++ ':' :: job.jobId.toList := by
  unfold key jobKeyOf
  rw [String.toList_append, String.toList_append, List.append_assoc]
  rfl

/-- A colon that stands alone tells where the ids end. -/
theorem key_inj {a b : JobIdentity} (ha : a.ColonFree) (h : a.key = b.key) : a = b := by
  obtain ⟨horganization, hjob⟩ := ha
  have hlists := congrArg String.toList h
  rw [toList_key, toList_key] at hlists
  have hids := Words.append_cons_inj horganization hjob hlists
  exact JobIdentity.ext (String.toList_inj.mp hids.1) (String.toList_inj.mp hids.2)

/-- A colon in an id can be read as the one between them. -/
theorem exists_same_key {a : JobIdentity} (h : ¬ a.ColonFree) : ∃ b, b ≠ a ∧ b.key = a.key := by
  by_cases horganization : ':' ∈ a.organizationId.toList
  · obtain ⟨front, back, hsplit⟩ := List.append_of_mem horganization
    refine ⟨⟨String.ofList front, String.ofList (back ++ ':' :: a.jobId.toList)⟩, ?_, ?_⟩
    · intro heq
      have hlength := congrArg (fun job => job.organizationId.toList.length) heq
      simp [hsplit] at hlength
    · rw [← String.toList_inj, toList_key, toList_key, hsplit]
      simp
  · have hjob : ':' ∈ a.jobId.toList := not_not.mp fun hjob => h ⟨horganization, hjob⟩
    obtain ⟨front, back, hsplit⟩ := List.append_of_mem hjob
    refine ⟨⟨String.ofList (a.organizationId.toList ++ ':' :: front), String.ofList back⟩, ?_, ?_⟩
    · intro heq
      have hlength := congrArg (fun job => job.organizationId.toList.length) heq
      simp at hlength
    · rw [← String.toList_inj, toList_key, toList_key, hsplit]
      simp

end JobIdentity

def ReportSnapshotInput.job (input : ReportSnapshotInput) : JobIdentity :=
  ⟨input.organizationId, input.jobId⟩

def PublishedReportVersion.job (version : PublishedReportVersion) : JobIdentity :=
  version.snapshot.toReportSnapshotInput.job

/-! ## What is asked of the answers -/

/-- The answers about a job are its own versions. -/
structure ReadsOwn (s : Store) (job : JobIdentity) : Prop where
  current : ∀ version, s.current job.organizationId job.jobId = some version → version.job = job
  history : ∀ versions, s.history job.organizationId job.jobId = .ok versions →
    ∀ version ∈ versions, version.job = job

/-- A call that publishes names ids without colons. -/
def ColonFreeCall : PublicationCall → Prop
  | .publish input _ => input.job.ColonFree
  | .withdraw _ => True

/-- A call that does not publish for another job. -/
def PublicationCall.isOwn (job : JobIdentity) : PublicationCall → Bool
  | .publish input _ => input.job = job
  | .withdraw _ => true

/-- No other job publishes under an identity that `job` publishes under. -/
def OwnIdentities (job : JobIdentity) (calls : List PublicationCall) : Prop :=
  ∀ own renderer other renderer', .publish own renderer ∈ calls →
    .publish other renderer' ∈ calls → own.job = job → other.job ≠ job →
    own.reportVersionId ≠ other.reportVersionId

/-- What a call answers or throws. -/
def outcome {α : Type} : EStateM.Result PublicationError Store α → Except PublicationError α
  | .ok a _ => .ok a
  | .error e _ => .error e

variable (host : Js.Host) (digest : String → String)

/-- The store after some calls. -/
def afterCalls (calls : List PublicationCall) : Store :=
  calls.foldl (fun s call => Tx.after (perform host digest call s)) .empty

variable {host digest} {s s' t : Store}

/-! ## Answers -/

def StoredColonFree (s : Store) : Prop :=
  ∀ id version, s.byId.get? id = some version → version.job.ColonFree

variable {input : ReportSnapshotInput} {version : PublishedReportVersion}

theorem Publishes.job (h : Publishes input version s t) : version.job = input.job := by
  unfold PublishedReportVersion.job
  rw [h.written]

theorem Publishes.storedColonFree (h : Publishes input version s t) (hinput : input.job.ColonFree)
    (hs : StoredColonFree s) : StoredColonFree t := by
  intro id stored hstored
  rw [h.byId, Table.get?_put] at hstored
  split at hstored
  · cases hstored
    rw [h.job]
    exact hinput
  · exact hs id stored hstored

theorem storedColonFree_inductive : (publications host digest).Inductive
    (fun _ call => ColonFreeCall call) fun s => Chains s ∧ StoredColonFree s where
  init := by
    rintro _ rfl
    exact ⟨chains_empty, nofun⟩
  step := by
    rintro s call _ ⟨hchains, hs⟩ hcall rfl
    refine ⟨(perform_preserves call hchains).1, ?_⟩
    change StoredColonFree (Tx.after (perform host digest call s))
    cases hperform : perform host digest call s with
    | error e t =>
        obtain rfl := perform_error hperform
        exact hs
    | ok u t =>
        cases call with
        | publish input renderer =>
            obtain ⟨version, t', hpublish, hdone⟩ := Tx.bind_ok hperform
            cases hdone
            exact (publish_ok hpublish).storedColonFree hcall hs
        | withdraw notice =>
            obtain ⟨stored, t', hwithdraw, hdone⟩ := Tx.bind_ok hperform
            cases hdone
            obtain rfl := withdraw_ok hwithdraw
            exact hs

/-- The versions of a chain name its job, when the ids of what is stored have no colons. -/
theorem readsOwn_of_colonFree (hchains : Chains s) (hs : StoredColonFree s) (job : JobIdentity) :
    ReadsOwn s job := by
  obtain ⟨versions, hchain⟩ := hchains job.key
  have hown : ∀ version ∈ versions, version.job = job := by
    intro version hversion
    obtain ⟨hstored, hkey⟩ := hchain.stored version hversion
    exact JobIdentity.key_inj (hs _ version hstored) hkey
  constructor
  · intro version hcurrent
    rw [hchain.current_answer] at hcurrent
    exact hown version (List.mem_of_getLast? hcurrent)
  · intro answered hhistory
    rw [hchain.history] at hhistory
    cases hhistory
    exact hown

/-- A version whose ids have a colon is answered to another job as well. -/
theorem Publishes.colonFree_of_readsOwn (h : Publishes input version s t)
    (hread : ∀ job, ReadsOwn t job) : version.job.ColonFree := by
  by_contra hcolon
  obtain ⟨job, hne, hkey⟩ := JobIdentity.exists_same_key hcolon
  have hcurrent : t.current job.organizationId job.jobId = some version := by
    have hid : t.currentByJob.get? job.key = some input.reportVersionId := by
      rw [hkey, h.job, h.current]
      exact OMap.get?_set_self _ _ _
    unfold Store.current
    change (t.currentByJob.get? job.key).bind _ = _
    rw [hid, h.byId, ← h.reportVersionId]
    exact Table.get?_put_self _ _
  exact hne ((hread job).current version hcurrent).symm

/-! ## What other jobs decide -/

/-- Two stores that answer `job` the same. -/
structure Agrees (job : JobIdentity) (own : String → Prop) (s t : Store) : Prop where
  current : s.currentByJob.get? job.key = t.currentByJob.get? job.key
  used : ∀ id, own id → (s.byId.get? id = none ↔ t.byId.get? id = none)

theorem outcome_throwIf {c c' : Prop} [Decidable c] [Decidable c'] {e : PublicationError}
    {α : Type} {f g : PUnit → StoreCall α} (hc : c ↔ c')
    (h : outcome (f ⟨⟩ s) = outcome (g ⟨⟩ t)) :
    outcome ((Tx.throwIf c e >>= f) s) = outcome ((Tx.throwIf c' e >>= g) t) := by
  by_cases hthrows : c
  · have hthrows' := hc.mp hthrows
    rw [Tx.bind_throws (if_pos hthrows : (Tx.throwIf c e : StoreCall PUnit) s = .error e s) f,
      Tx.bind_throws (if_pos hthrows' : (Tx.throwIf c' e : StoreCall PUnit) t = .error e t) g]
    rfl
  · rw [Tx.bind_of (Tx.throwIf_of hthrows) f, Tx.bind_of (Tx.throwIf_of (hthrows ∘ hc.mpr)) g]
    exact h

theorem outcome_ofExcept {α β : Type} {r : Except PublicationError α} {f : α → StoreCall β}
    (h : ∀ a, outcome (f a s) = outcome (f a t)) :
    outcome ((Tx.ofExcept r >>= f) s) = outcome ((Tx.ofExcept r >>= f) t) := by
  cases r with
  | error e => rfl
  | ok a => exact h a

theorem outcome_checkAmendment {currentId : Option String} {α : Type} {f : PUnit → StoreCall α}
    (h : outcome (f ⟨⟩ s) = outcome (f ⟨⟩ t)) :
    outcome ((checkAmendment input currentId >>= f) s) =
      outcome ((checkAmendment input currentId >>= f) t) := by
  unfold checkAmendment
  cases input.amendment with
  | none => exact outcome_throwIf Iff.rfl h
  | some amendment => exact outcome_throwIf Iff.rfl h

variable {own : String → Prop}

/-- A publication reads whether its identity is used and what its job's current version is. -/
theorem Agrees.outcome_publish (h : Agrees input.job own s t) (hown : own input.reportVersionId)
    (renderer : ReportRenderer) :
    outcome (publish host digest input renderer s) =
      outcome (publish host digest input renderer t) := by
  have hcurrent : s.currentByJob.get? (jobKeyOf input.organizationId input.jobId) =
      t.currentByJob.get? (jobKeyOf input.organizationId input.jobId) := h.current
  unfold publish
  refine outcome_throwIf (not_congr (h.used _ hown)) ?_
  rw [hcurrent]
  refine outcome_checkAmendment ?_
  exact outcome_ofExcept fun _ => outcome_ofExcept fun _ => outcome_ofExcept fun _ => rfl

variable {job : JobIdentity}

theorem Publishes.agrees {u : Store} {version version' : PublishedReportVersion}
    (h : Publishes input version s s') (h' : Publishes input version' t u)
    (hjob : input.job = job) (hagrees : Agrees job own s t) : Agrees job own s' u where
  current := by
    rw [h.current, h'.current]
    subst hjob
    exact (OMap.get?_set_self _ _ _).trans (OMap.get?_set_self _ _ _).symm
  used id hown := by
    rw [h.byId, h'.byId, Table.get?_put, Table.get?_put, h.reportVersionId, h'.reportVersionId]
    split
    · exact iff_of_false (Option.some_ne_none _) (Option.some_ne_none _)
    · exact hagrees.used id hown

/-- A version of another job leaves the answers about `job`. -/
theorem Publishes.agrees_left (h : Publishes input version s s') (hfree : input.job.ColonFree)
    (hjob : input.job ≠ job) (hown : ¬ own input.reportVersionId) (hagrees : Agrees job own s t) :
    Agrees job own s' t where
  current := by
    have hkey : job.key ≠ input.job.key := fun hkey =>
      hjob (JobIdentity.key_inj hfree hkey.symm)
    rw [h.current, ← hagrees.current]
    exact OMap.get?_set_of_ne _ _ hkey
  used id hid := by
    have hne : id ≠ version.reportVersionId := by
      rw [h.reportVersionId]
      rintro rfl
      exact hown hid
    rw [h.byId, Table.get?_put_of_ne _ _ hne]
    exact hagrees.used id hid

/-- Both publish or neither does. -/
theorem Agrees.perform_publish (h : Agrees input.job own s t) (hown : own input.reportVersionId)
    (renderer : ReportRenderer) :
    Agrees input.job own (Tx.after (perform host digest (.publish input renderer) s))
      (Tx.after (perform host digest (.publish input renderer) t)) := by
  have hsame : outcome (publish host digest input renderer s) =
      outcome (publish host digest input renderer t) := h.outcome_publish hown renderer
  cases hs : perform host digest (.publish input renderer) s with
  | error e s' =>
      obtain rfl := perform_error hs
      cases ht : perform host digest (.publish input renderer) t with
      | error e' t' =>
          obtain rfl := perform_error ht
          exact h
      | ok u t' =>
          obtain ⟨version, t₁, hpublish, -⟩ := Tx.bind_ok ht
          obtain hthrown | ⟨version', s₁, -, hdone⟩ := Tx.bind_error hs
          · rw [hthrown, hpublish] at hsame
            cases hsame
          · cases hdone
  | ok u s' =>
      obtain ⟨version, s₁, hpublish, hdone⟩ := Tx.bind_ok hs
      cases hdone
      cases ht : perform host digest (.publish input renderer) t with
      | error e t' =>
          obtain hthrown | ⟨version', t₁, -, hdone⟩ := Tx.bind_error ht
          · rw [hpublish, hthrown] at hsame
            cases hsame
          · cases hdone
      | ok u' t' =>
          obtain ⟨version', t₁, hpublish', hdone⟩ := Tx.bind_ok ht
          cases hdone
          exact (publish_ok hpublish).agrees (publish_ok hpublish') rfl h

theorem Agrees.perform_withdraw (h : Agrees job own s t) (notice : ReportWithdrawalNotice) :
    Agrees job own (Tx.after (perform host digest (.withdraw notice) s))
      (Tx.after (perform host digest (.withdraw notice) t)) := by
  have hkeeps : ∀ s : Store, ∃ withdrawals,
      Tx.after (perform host digest (.withdraw notice) s) =
        { s with withdrawals := withdrawals } := by
    intro s
    cases hs : perform host digest (.withdraw notice) s with
    | error e s' =>
        obtain rfl := perform_error hs
        exact ⟨s'.withdrawals, rfl⟩
    | ok u s' =>
        obtain ⟨stored, s₁, hwithdraw, hdone⟩ := Tx.bind_ok hs
        cases hdone
        exact ⟨_, withdraw_ok hwithdraw⟩
  obtain ⟨withdrawals, hs⟩ := hkeeps s
  obtain ⟨withdrawals', ht⟩ := hkeeps t
  rw [hs, ht]
  exact ⟨h.current, h.used⟩

/-- A publication for another job leaves the answers about `job`. -/
theorem Agrees.perform_other (h : Agrees job own s t) (hfree : input.job.ColonFree)
    (hjob : input.job ≠ job) (hown : ¬ own input.reportVersionId) (renderer : ReportRenderer) :
    Agrees job own (Tx.after (perform host digest (.publish input renderer) s)) t := by
  cases hs : perform host digest (.publish input renderer) s with
  | error e s' =>
      obtain rfl := perform_error hs
      exact h
  | ok u s' =>
      obtain ⟨version, s₁, hpublish, hdone⟩ := Tx.bind_ok hs
      cases hdone
      exact (publish_ok hpublish).agrees_left hfree hjob hown h

/-- The identities that `job` publishes under. -/
def ownIdentity (job : JobIdentity) (calls : List PublicationCall) (id : String) : Prop :=
  ∃ input renderer, .publish input renderer ∈ calls ∧ input.job = job ∧
    input.reportVersionId = id

/-- **Unwinding.** Runs with and without the other jobs' publications stay in agreement. -/
theorem Agrees.run {calls : List PublicationCall} (h : Agrees job own s t)
    (hfree : ∀ call ∈ calls, ColonFreeCall call)
    (hown : ∀ input renderer, .publish input renderer ∈ calls →
      (own input.reportVersionId ↔ input.job = job)) :
    Agrees job own (calls.foldl (fun s call => Tx.after (perform host digest call s)) s)
      ((calls.filter (·.isOwn job)).foldl
        (fun s call => Tx.after (perform host digest call s)) t) := by
  induction calls generalizing s t with
  | nil => exact h
  | cons call calls ih =>
      obtain ⟨hcall, hcalls⟩ := List.forall_mem_cons.mp hfree
      have hrest : ∀ input renderer, .publish input renderer ∈ calls →
          (own input.reportVersionId ↔ input.job = job) := by
        intro input renderer hmem
        exact hown input renderer (List.mem_cons_of_mem call hmem)
      cases call with
      | withdraw notice => exact ih (h.perform_withdraw notice) hcalls hrest
      | publish input renderer =>
          have hid := hown input renderer List.mem_cons_self
          by_cases hjob : input.job = job
          · subst hjob
            have hmine : (PublicationCall.publish input renderer).isOwn input.job = true :=
              decide_eq_true rfl
            rw [List.filter_cons_of_pos hmine]
            exact ih (h.perform_publish (hid.mpr rfl) renderer) hcalls hrest
          · have hother : ¬ (PublicationCall.publish input renderer).isOwn job = true :=
              fun hyes => hjob (of_decide_eq_true hyes)
            rw [List.filter_cons_of_neg hother]
            exact ih (h.perform_other hcall hjob (fun hmem => hjob (hid.mp hmem)) renderer)
              hcalls hrest

/-- **Tenants apart.** In a run whose publications name ids without colons the answers about
a job are its own versions, and a publication ends as it would without those of the other
jobs, unless one of them has its identity. A version whose ids have a colon is answered to
another job as soon as it is published. -/
theorem tenants_apart :
    (∀ s, (publications host digest).Reachable (fun _ call => ColonFreeCall call) s →
      ∀ job, ReadsOwn s job) ∧
    (∀ calls input renderer, (∀ call ∈ calls, ColonFreeCall call) →
      OwnIdentities input.job (calls ++ [.publish input renderer]) →
      outcome (publish host digest input renderer (afterCalls host digest calls)) =
        outcome (publish host digest input renderer
          (afterCalls host digest (calls.filter (·.isOwn input.job))))) ∧
    ∀ s t input renderer version, publish host digest input renderer s = .ok version t →
      (∀ job, ReadsOwn t job) → version.job.ColonFree := by
  refine ⟨fun s hs job => ?_, fun calls input renderer hfree hids => ?_, ?_⟩
  · obtain ⟨hchains, hstored⟩ := storedColonFree_inductive.invariant hs
    exact readsOwn_of_colonFree hchains hstored job
  · have hlast : PublicationCall.publish input renderer ∈
        calls ++ [PublicationCall.publish input renderer] :=
      List.mem_append_right _ (List.mem_singleton.mpr rfl)
    have hagrees : Agrees input.job
        (ownIdentity input.job (calls ++ [.publish input renderer])) .empty .empty :=
      ⟨rfl, fun _ _ => Iff.rfl⟩
    refine (hagrees.run hfree ?_).outcome_publish ⟨input, renderer, hlast, rfl, rfl⟩ renderer
    intro other renderer' hmem
    constructor
    · rintro ⟨own, renderer'', hown, hjob, hid⟩
      by_contra hother
      exact hids own renderer'' other renderer' hown (List.mem_append_left _ hmem) hjob hother hid
    · exact fun hjob => ⟨other, renderer', List.mem_append_left _ hmem, hjob, rfl⟩
  · intro s t input renderer version hpublish hread
    exact (publish_ok hpublish).colonFree_of_readsOwn hread

namespace Sample

/-- A tenant's job, and another tenant's whose ids compose to the same text. -/
def firstTenant : ReportSnapshotInput :=
  { original with organizationId := "tenant", jobId := "a:b" }

def secondTenant : ReportSnapshotInput :=
  { original with reportVersionId := "second", organizationId := "tenant:a", jobId := "b" }

def shared : Store := next .empty (.publish firstTenant renderer)

/-- The second tenant reads the first one's report and cannot publish its own. -/
theorem tenants_share :
    (publications reads id).Reachable TSys.any shared ∧
    (shared.current "tenant:a" "b").map (·.job) = some ⟨"tenant", "a:b"⟩ ∧
    (shared.byId.get? "second").isNone = true ∧
    outcome (publish reads id secondTenant renderer .empty) ≠
      outcome (publish reads id secondTenant renderer shared) := by
  refine ⟨TSys.reachable_foldl Store.empty next [.publish firstTenant renderer], ?_, ?_, ?_⟩
  · decide +kernel
  · decide +kernel
  · intro hsame
    have halone : (outcome (publish reads id secondTenant renderer .empty)).isOk = true := by
      decide +kernel
    have hafter : (outcome (publish reads id secondTenant renderer shared)).isOk = false := by
      decide +kernel
    rw [hsame, hafter] at halone
    cases halone

end Sample

end InspectionHub.Reporting
