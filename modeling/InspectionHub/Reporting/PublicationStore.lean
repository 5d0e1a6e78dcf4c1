import InspectionHub.Lib.OMap
import InspectionHub.Lib.TSys
import InspectionHub.Lib.Tx
import InspectionHub.Reporting.RecipientReport

/-!
# The publication store

`InMemoryReportPublicationStore` of
`packages/reporting/src/render/report-publication-store.ts`: published report
versions by identity, the current version and the history of each job, and the
withdrawals. A call that throws keeps what it wrote before.
-/

namespace InspectionHub.Reporting

/-- A rendered document. `frozen` is `Object.isFrozen`. -/
structure PdfArtifact where
  reportVersionId : String
  module : ReportModule
  fileName : String
  bytes : List UInt8
  contentHash : String
  pageCount : Nat
  requiredText : List String
  frozen : Bool
deriving DecidableEq

inductive PublicationError where
  /-- `ReportPublicationConflictError`. -/
  | conflict (message : String)
  | invalid (e : ReportSnapshotValidationError)
  /-- What the renderer threw. -/
  | renderer (thrown : JsVal)
  /-- A plain `Error`. -/
  | other (message : String)
  /-- The `TypeError` of `Object.freeze` on bytes. -/
  | bytesNotFrozen

/-- What a renderer answers or throws. -/
abbrev ReportRenderer := ReportSnapshot → ReportModule → Except JsVal PdfArtifact

structure PublishedReportVersion where
  snapshot : ReportSnapshot
  pdfs : List (ReportModule × PdfArtifact)
  publishedAt : String

def PublishedReportVersion.reportVersionId (version : PublishedReportVersion) : String :=
  version.snapshot.reportVersionId

structure ReportWithdrawalNotice where
  withdrawalId : String
  reportVersionId : String
  module : ReportModule
  withdrawnAt : String
  withdrawnBy : String
  reason : String
  replacementReportVersionId : Option String
deriving DecidableEq

structure Store where
  byId : Table String PublishedReportVersion PublishedReportVersion.reportVersionId
  currentByJob : OMap String String
  historyByJob : OMap String (List String)
  withdrawals : List ReportWithdrawalNotice

def Store.empty : Store := ⟨.empty, .empty, .empty, []⟩

abbrev StoreCall (α : Type) := Tx PublicationError Store α

/-- `${organizationId}:${jobId}`. -/
def jobKeyOf (organizationId jobId : String) : String := organizationId ++ ":" ++ jobId

/-! ## Publishing -/

/-- The modules of a snapshot, as `publish` renders them. -/
def ReportSnapshot.modules (snapshot : ReportSnapshot) : List ReportModule :=
  (if snapshot.building = none then [] else [.building]) ++
    (if snapshot.timberPest = none then [] else [.timber_pest])

/-- `deepFreezeReport` of an artifact: it stops at what is frozen, and bytes
there are cannot be frozen. -/
def freezeArtifact (artifact : PdfArtifact) : Except PublicationError PdfArtifact :=
  if artifact.frozen = false ∧ artifact.bytes ≠ [] then .error .bytesNotFrozen
  else .ok { artifact with frozen := true }

def render (renderer : ReportRenderer) (snapshot : ReportSnapshot) :
    Except PublicationError (List (ReportModule × PdfArtifact)) :=
  snapshot.modules.mapM fun module => do
    let artifact ← (renderer snapshot module).mapError .renderer
    return (module, artifact)

def freezeRendered (rendered : List (ReportModule × PdfArtifact)) :
    Except PublicationError (List (ReportModule × PdfArtifact)) :=
  rendered.mapM fun (module, artifact) => do
    let frozen ← freezeArtifact artifact
    return (module, frozen)

/-- An amendment replaces the current version, and only an amendment does. -/
def checkAmendment (input : ReportSnapshotInput) (currentId : Option String) :
    StoreCall PUnit :=
  match input.amendment with
  | some amendment =>
      Tx.throwIf (currentId ≠ some amendment.priorReportVersionId)
        (.conflict "An amendment must replace the exact current immutable version")
  | none =>
      Tx.throwIf (currentId ≠ none)
        (.conflict "A later report version requires an amendment notice")

def setVersion (published : PublishedReportVersion) : StoreCall Unit := fun s =>
  .ok () { s with byId := s.byId.put published }

def setCurrent (jobKey reportVersionId : String) : StoreCall Unit := fun s =>
  .ok () { s with currentByJob := s.currentByJob.set jobKey reportVersionId }

def appendHistory (jobKey reportVersionId : String) : StoreCall Unit := fun s =>
  .ok () { s with
    historyByJob := s.historyByJob.set jobKey
      ((s.historyByJob.get? jobKey).getD [] ++ [reportVersionId]) }

variable (host : Js.Host) (digest : String → String)

def publish (input : ReportSnapshotInput) (renderer : ReportRenderer) :
    StoreCall PublishedReportVersion := do
  let jobKey := jobKeyOf input.organizationId input.jobId
  let before : Store ← fun s => .ok s s
  Tx.throwIf (before.byId.get? input.reportVersionId ≠ none)
    (.conflict "A report version identity cannot be reused")
  checkAmendment input (before.currentByJob.get? jobKey)
  let snapshot ← Tx.ofExcept ((createReportSnapshot host digest input).mapError .invalid)
  let rendered ← Tx.ofExcept (render renderer snapshot)
  let pdfs ← Tx.ofExcept (freezeRendered rendered)
  let published : PublishedReportVersion := { snapshot, pdfs, publishedAt := input.issuedAt }
  setVersion published
  setCurrent jobKey snapshot.reportVersionId
  appendHistory jobKey snapshot.reportVersionId
  return published

def withdraw (notice : ReportWithdrawalNotice) : StoreCall ReportWithdrawalNotice := do
  let before : Store ← fun s => .ok s s
  Tx.throwIf (before.byId.get? notice.reportVersionId = none)
    (.conflict "A withdrawal must reference an immutable report version")
  Tx.throwIf (before.withdrawals.any (·.withdrawalId = notice.withdrawalId) = true)
    (.conflict "A withdrawal identity cannot be reused")
  fun s => .ok notice { s with withdrawals := s.withdrawals ++ [notice] }

/-! ## Answers -/

namespace Store

def current (s : Store) (organizationId jobId : String) : Option PublishedReportVersion :=
  (s.currentByJob.get? (jobKeyOf organizationId jobId)).bind s.byId.get?

/-- The entry of a history, which must be stored. -/
def historyEntry (s : Store) (reportVersionId : String) :
    Except PublicationError PublishedReportVersion :=
  match s.byId.get? reportVersionId with
  | none => .error (.other "Report history references a missing immutable version")
  | some version => .ok version

def history (s : Store) (organizationId jobId : String) :
    Except PublicationError (List PublishedReportVersion) :=
  ((s.historyByJob.get? (jobKeyOf organizationId jobId)).getD []).mapM s.historyEntry

def withdrawal (s : Store) (reportVersionId : String) (module : ReportModule) :
    Option ReportWithdrawalNotice :=
  s.withdrawals.reverse.find? fun notice =>
    notice.reportVersionId = reportVersionId && notice.module = module

end Store

/-! ## Runs -/

inductive PublicationCall where
  | publish (input : ReportSnapshotInput) (renderer : ReportRenderer)
  | withdraw (notice : ReportWithdrawalNotice)

def perform : PublicationCall → StoreCall Unit
  | .publish input renderer => do
      let _ ← publish host digest input renderer
      return ()
  | .withdraw notice => do
      let _ ← withdraw notice
      return ()

/-- A new store, under any calls in any order. -/
def publications : TSys Store PublicationCall :=
  .ofFun .empty fun s call => Tx.after (perform host digest call s)

/-! ## What a call does -/

variable {host digest} {s s' t : Store}

/-- What `publish` did when it returned. -/
structure Publishes (input : ReportSnapshotInput) (version : PublishedReportVersion)
    (s t : Store) : Prop where
  written : version.snapshot.toReportSnapshotInput = input
  unused : s.byId.get? input.reportVersionId = none
  amends : s.currentByJob.get? (jobKeyOf input.organizationId input.jobId) =
    input.amendment.map (·.priorReportVersionId)
  byId : t.byId = s.byId.put version
  current : t.currentByJob =
    s.currentByJob.set (jobKeyOf input.organizationId input.jobId) input.reportVersionId
  history : t.historyByJob = s.historyByJob.set (jobKeyOf input.organizationId input.jobId)
    ((s.historyByJob.get? (jobKeyOf input.organizationId input.jobId)).getD [] ++
      [input.reportVersionId])
  withdrawals : t.withdrawals = s.withdrawals

variable {input : ReportSnapshotInput}

theorem checkAmendment_ok {currentId : Option String} {u : PUnit}
    (h : checkAmendment input currentId s = .ok u t) :
    currentId = input.amendment.map (·.priorReportVersionId) ∧ s = t := by
  unfold checkAmendment at h
  cases hamendment : input.amendment with
  | some amendment =>
      rw [hamendment] at h
      obtain ⟨hsame, hst⟩ := Tx.throwIf_returned h
      exact ⟨not_not.mp hsame, hst⟩
  | none =>
      rw [hamendment] at h
      obtain ⟨hnone, hst⟩ := Tx.throwIf_returned h
      exact ⟨not_not.mp hnone, hst⟩

variable {version : PublishedReportVersion}

theorem publish_ok {renderer : ReportRenderer}
    (h : publish host digest input renderer s = .ok version t) : Publishes input version s t := by
  unfold publish at h
  obtain ⟨before, s₁, hread, h⟩ := Tx.bind_ok h
  cases hread
  obtain ⟨hunused, h⟩ := Tx.throwIf_ok h
  obtain ⟨u, s₂, hamends, h⟩ := Tx.bind_ok h
  obtain ⟨hcurrent, rfl⟩ := checkAmendment_ok hamends
  obtain ⟨snapshot, hsnapshot, h⟩ := Tx.ofExcept_ok h
  obtain ⟨rendered, -, h⟩ := Tx.ofExcept_ok h
  obtain ⟨pdfs, -, h⟩ := Tx.ofExcept_ok h
  cases h
  have hinput : snapshot.toReportSnapshotInput = input := by
    cases hcreated : createReportSnapshot host digest input with
    | error e =>
        rw [hcreated] at hsnapshot
        cases hsnapshot
    | ok created =>
        rw [hcreated] at hsnapshot
        cases hsnapshot
        exact createReportSnapshot_ok hcreated
  subst hinput
  exact ⟨rfl, not_not.mp hunused, hcurrent, rfl, rfl, rfl, rfl⟩

theorem withdraw_ok {notice stored : ReportWithdrawalNotice}
    (h : withdraw notice s = .ok stored t) :
    t = { s with withdrawals := s.withdrawals ++ [notice] } := by
  unfold withdraw at h
  obtain ⟨before, s₁, hread, h⟩ := Tx.bind_ok h
  cases hread
  obtain ⟨-, h⟩ := Tx.throwIf_ok h
  obtain ⟨-, h⟩ := Tx.throwIf_ok h
  cases h
  rfl

/-! ## Calls that throw -/

/-- A call that reads and checks. -/
abbrev ReadOnly {α : Type} (x : StoreCall α) : Prop := Tx.Within Eq x

/-- A call that throws before it writes. -/
abbrev Atomic {α : Type} (x : StoreCall α) : Prop := Tx.OnError Eq x

theorem Atomic.bind {α β : Type} {x : StoreCall α} {f : α → StoreCall β} (hx : ReadOnly x)
    (hf : ∀ a, Atomic (f a)) : Atomic (x >>= f) := Tx.OnError.bind (R := Eq) Eq.trans hx hf

theorem reads_throwIf (c : Prop) [Decidable c] (e : PublicationError) :
    ReadOnly (Tx.throwIf c e : StoreCall PUnit) := Tx.Within.throwIf (fun _ => rfl) c e

theorem reads_ofExcept {α : Type} (r : Except PublicationError α) :
    ReadOnly (Tx.ofExcept r : StoreCall α) := Tx.Within.ofExcept (fun _ => rfl) r

theorem reads_checkAmendment (input : ReportSnapshotInput) (currentId : Option String) :
    ReadOnly (checkAmendment input currentId) := by
  unfold checkAmendment
  split
  · exact reads_throwIf _ _
  · exact reads_throwIf _ _

/-- Every document is rendered before the first write. -/
theorem publish_atomic (input : ReportSnapshotInput) (renderer : ReportRenderer) :
    Atomic (publish host digest input renderer) :=
  Atomic.bind (fun _ => rfl) fun _ => Atomic.bind (reads_throwIf _ _) fun _ =>
    Atomic.bind (reads_checkAmendment _ _) fun _ => Atomic.bind (reads_ofExcept _) fun _ =>
      Atomic.bind (reads_ofExcept _) fun _ => Atomic.bind (reads_ofExcept _) fun _ =>
        Tx.OnError.total fun _ => ⟨_, _, rfl⟩

theorem withdraw_atomic (notice : ReportWithdrawalNotice) : Atomic (withdraw notice) :=
  Atomic.bind (fun _ => rfl) fun _ => Atomic.bind (reads_throwIf _ _) fun _ =>
    Atomic.bind (reads_throwIf _ _) fun _ => Tx.OnError.total fun _ => ⟨_, _, rfl⟩

/-- A call that throws changes nothing. -/
theorem perform_error {call : PublicationCall} {e : PublicationError}
    (h : perform host digest call s = .error e t) : t = s := by
  cases call with
  | publish input renderer =>
      rcases Tx.bind_error h with hthrown | ⟨version, u, -, hdone⟩
      · exact (publish_atomic input renderer s e t hthrown).symm
      · cases hdone
  | withdraw notice =>
      rcases Tx.bind_error h with hthrown | ⟨stored, u, -, hdone⟩
      · exact (withdraw_atomic notice s e t hthrown).symm
      · cases hdone

/-! ## Histories -/

/-- The versions of one job: each names the one before it as the version it
amends, the first the one given. -/
def Amends : Option String → List PublishedReportVersion → Prop
  | _, [] => True
  | prior, version :: versions =>
      version.snapshot.amendment.map (·.priorReportVersionId) = prior ∧
        Amends (some version.reportVersionId) versions

variable {versions : List PublishedReportVersion}

theorem Amends.snoc {prior : Option String} (h : Amends prior versions)
    (hversion : version.snapshot.amendment.map (·.priorReportVersionId) =
      ((versions.map (·.reportVersionId)).getLast?).or prior) :
    Amends prior (versions ++ [version]) := by
  induction versions generalizing prior with
  | nil => exact ⟨hversion, trivial⟩
  | cons first versions ih =>
      refine ⟨h.1, ih h.2 ?_⟩
      rw [hversion, List.map_cons, List.getLast?_cons]
      cases (versions.map (·.reportVersionId)).getLast? <;> rfl

def Store.historyIds (s : Store) (jobKey : String) : List String :=
  (s.historyByJob.get? jobKey).getD []

/-- The history of a job is the chain of its stored versions, each once, and the
current version its last. -/
structure Chain (s : Store) (jobKey : String) (versions : List PublishedReportVersion) :
    Prop where
  ids : versions.map (·.reportVersionId) = s.historyIds jobKey
  stored : ∀ version ∈ versions, s.byId.get? version.reportVersionId = some version ∧
    jobKeyOf version.snapshot.organizationId version.snapshot.jobId = jobKey
  amends : Amends none versions
  once : (versions.map (·.reportVersionId)).Nodup
  current : s.currentByJob.get? jobKey = (s.historyIds jobKey).getLast?

def Chains (s : Store) : Prop := ∀ jobKey, ∃ versions, Chain s jobKey versions

/-- What was written is still there. -/
structure Grows (s t : Store) : Prop where
  byId : ∀ id version, s.byId.get? id = some version → t.byId.get? id = some version
  history : ∀ jobKey, s.historyIds jobKey <+: t.historyIds jobKey
  withdrawals : s.withdrawals <+: t.withdrawals

theorem Grows.refl (s : Store) : Grows s s :=
  ⟨fun _ _ h => h, fun _ => List.prefix_refl _, List.prefix_refl _⟩

theorem Grows.trans {s t u : Store} (h : Grows s t) (h' : Grows t u) : Grows s u where
  byId id version hversion := h'.byId id version (h.byId id version hversion)
  history jobKey := (h.history jobKey).trans (h'.history jobKey)
  withdrawals := h.withdrawals.trans h'.withdrawals

/-! ## What a call preserves -/

theorem Publishes.reportVersionId (h : Publishes input version s t) :
    version.reportVersionId = input.reportVersionId :=
  congrArg ReportSnapshotInput.reportVersionId h.written

theorem Publishes.historyIds (h : Publishes input version s t) (jobKey : String) :
    t.historyIds jobKey = if jobKey = jobKeyOf input.organizationId input.jobId then
      s.historyIds jobKey ++ [input.reportVersionId] else s.historyIds jobKey := by
  unfold Store.historyIds
  rw [h.history, OMap.get?_set]
  by_cases hkey : jobKey = jobKeyOf input.organizationId input.jobId
  · rw [if_pos hkey, if_pos hkey, hkey]
    rfl
  · rw [if_neg hkey, if_neg hkey]

theorem Publishes.grows (h : Publishes input version s t) : Grows s t where
  byId id old hold := by
    have hne : id ≠ version.reportVersionId := by
      rintro rfl
      rw [h.reportVersionId, h.unused] at hold
      cases hold
    rw [h.byId, Table.get?_put_of_ne _ _ hne]
    exact hold
  history jobKey := by
    rw [h.historyIds]
    by_cases hkey : jobKey = jobKeyOf input.organizationId input.jobId
    · rw [if_pos hkey]
      exact List.prefix_append _ _
    · rw [if_neg hkey]
  withdrawals := by rw [h.withdrawals]

/-- The new version extends the chain of its own job. -/
theorem Publishes.chains (h : Publishes input version s t) (hs : Chains s) : Chains t := by
  intro jobKey
  obtain ⟨versions, hchain⟩ := hs jobKey
  have hstored : ∀ old ∈ versions, t.byId.get? old.reportVersionId = some old ∧
      jobKeyOf old.snapshot.organizationId old.snapshot.jobId = jobKey := by
    intro old hold
    exact ⟨h.grows.byId _ old (hchain.stored old hold).1, (hchain.stored old hold).2⟩
  by_cases hkey : jobKey = jobKeyOf input.organizationId input.jobId
  · have hids : t.historyIds jobKey = s.historyIds jobKey ++ [input.reportVersionId] := by
      rw [h.historyIds, if_pos hkey]
    refine ⟨versions ++ [version], ?_, ?_, ?_, ?_, ?_⟩
    · rw [List.map_append, hchain.ids, hids, List.map_singleton, h.reportVersionId]
    · intro found hfound
      rcases List.mem_append.mp hfound with hold | hnew
      · exact hstored found hold
      · obtain rfl := List.mem_singleton.mp hnew
        refine ⟨?_, ?_⟩
        · rw [h.byId, Table.get?_put_self]
        · have hwritten := h.written
          rw [hkey, ← hwritten]
    · refine hchain.amends.snoc ?_
      rw [hchain.ids, Option.or_none, ← hchain.current, hkey, h.amends, ← h.written]
    · rw [List.map_append, List.map_singleton, List.nodup_append]
      refine ⟨hchain.once, List.nodup_singleton _, ?_⟩
      -- The identity was not in use, so no version of this job has it.
      intro id hid new hnew heq
      obtain ⟨old, hold, rfl⟩ := List.mem_map.mp hid
      rw [List.mem_singleton.mp hnew, h.reportVersionId] at heq
      have hused := (hchain.stored old hold).1
      rw [heq, h.unused] at hused
      cases hused
    · rw [hids, h.current, OMap.get?_set, if_pos hkey, List.getLast?_concat]
  · have hids : t.historyIds jobKey = s.historyIds jobKey := by
      rw [h.historyIds, if_neg hkey]
    refine ⟨versions, hids ▸ hchain.ids, hstored, hchain.amends, hchain.once, ?_⟩
    rw [hids, h.current, OMap.get?_set, if_neg hkey]
    exact hchain.current

theorem chains_withdrawals {withdrawals : List ReportWithdrawalNotice} (hs : Chains s) :
    Chains { s with withdrawals := withdrawals } := by
  intro jobKey
  obtain ⟨versions, hchain⟩ := hs jobKey
  exact ⟨versions, hchain.ids, hchain.stored, hchain.amends, hchain.once, hchain.current⟩

/-- **Step lemma.** Whatever is called, chains stay chains and what was written stays. -/
theorem perform_preserves (call : PublicationCall) (hs : Chains s) :
    Chains (Tx.after (perform host digest call s)) ∧
      Grows s (Tx.after (perform host digest call s)) := by
  cases hcall : perform host digest call s with
  | error e t =>
      obtain rfl := perform_error hcall
      exact ⟨hs, .refl t⟩
  | ok u t =>
      cases call with
      | publish input renderer =>
          obtain ⟨version, t', hpublish, hdone⟩ := Tx.bind_ok hcall
          cases hdone
          exact ⟨(publish_ok hpublish).chains hs, (publish_ok hpublish).grows⟩
      | withdraw notice =>
          obtain ⟨stored, t', hwithdraw, hdone⟩ := Tx.bind_ok hcall
          cases hdone
          obtain rfl := withdraw_ok hwithdraw
          exact ⟨chains_withdrawals hs, fun _ _ h => h, fun _ => List.prefix_refl _,
            List.prefix_append _ _⟩

theorem chains_empty : Chains .empty := fun _ => ⟨[], rfl, nofun, trivial, List.nodup_nil, rfl⟩

theorem chains_inductive : (publications host digest).Inductive TSys.any Chains where
  init := by
    rintro _ rfl
    exact chains_empty
  step := by
    rintro s call _ hs - rfl
    exact (perform_preserves call hs).1

/-- **Append-only.** Nothing written is taken back in the rest of a run. -/
theorem grows_later (hs : (publications host digest).Reachable TSys.any s)
    (hlater : (publications host digest).Later TSys.any s s') : Grows s s' := by
  refine chains_inductive.stable (P := fun t => Grows s t) ?_ hs hlater (.refl s)
  rintro t call _ ht hgrows - rfl
  exact hgrows.trans (perform_preserves call ht).2

/-! ## Answers -/

theorem historyEntries
    (h : ∀ version ∈ versions, s.byId.get? version.reportVersionId = some version) :
    (versions.map (·.reportVersionId)).mapM s.historyEntry = .ok versions := by
  induction versions with
  | nil => rfl
  | cons version versions ih =>
      have hentry : s.historyEntry version.reportVersionId = .ok version := by
        rw [Store.historyEntry, h version (List.mem_cons_self ..)]
      rw [List.map_cons, List.mapM_cons, hentry,
        ih fun old hold => h old (List.mem_cons_of_mem _ hold)]
      rfl

/-- The chain is what `history` answers. -/
theorem Chain.history {organizationId jobId : String}
    (h : Chain s (jobKeyOf organizationId jobId) versions) :
    s.history organizationId jobId = .ok versions := by
  have hids := h.ids
  unfold Store.historyIds at hids
  unfold Store.history
  rw [← hids]
  exact historyEntries fun version hversion => (h.stored version hversion).1

theorem Chain.current_answer {organizationId jobId : String}
    (h : Chain s (jobKeyOf organizationId jobId) versions) :
    s.current organizationId jobId = versions.getLast? := by
  unfold Store.current
  rw [h.current, ← h.ids, List.getLast?_map]
  cases hlast : versions.getLast? with
  | none => rfl
  | some version => exact (h.stored version (List.mem_of_getLast? hlast)).1

/-- Stored versions are told apart by their identities. -/
theorem prefix_of_ids {versions later : List PublishedReportVersion}
    (h : ∀ version ∈ versions, s.byId.get? version.reportVersionId = some version)
    (h' : ∀ version ∈ later, s.byId.get? version.reportVersionId = some version)
    (hids : versions.map (·.reportVersionId) <+: later.map (·.reportVersionId)) :
    versions <+: later := by
  induction versions generalizing later with
  | nil => exact List.nil_prefix
  | cons version versions ih =>
      cases later with
      | nil => exact absurd hids (by simp)
      | cons first later =>
          rw [List.map_cons, List.map_cons, List.cons_prefix_cons] at hids
          have hfirst := h' first (List.mem_cons_self ..)
          rw [← hids.1, h version (List.mem_cons_self ..)] at hfirst
          obtain rfl := Option.some_inj.mp hfirst
          rw [List.cons_prefix_cons]
          exact ⟨rfl, ih (fun old hold => h old (List.mem_cons_of_mem _ hold))
            (fun old hold => h' old (List.mem_cons_of_mem _ hold)) hids.2⟩

/-- A chain of a later state starts with the chain of the earlier one. -/
theorem Chain.extends {jobKey : String} {versions later : List PublishedReportVersion}
    (h : Chain s jobKey versions) (h' : Chain s' jobKey later) (hgrows : Grows s s') :
    versions <+: later := by
  refine prefix_of_ids (s := s') ?_ (fun version hversion => (h'.stored version hversion).1) ?_
  · intro version hversion
    exact hgrows.byId _ version (h.stored version hversion).1
  · rw [h.ids, h'.ids]
    exact hgrows.history jobKey

/-- **The publication history.** At any time in any run, the history of a job is a
chain of amendments of versions published once each, the current version its
last; later histories extend it, versions and withdrawals stay as they are, no
identity is published again, and a call that throws changes no answer. -/
theorem publication_history (hs : (publications host digest).Reachable TSys.any s)
    (hlater : (publications host digest).Later TSys.any s s') :
    (∀ organizationId jobId, ∃ versions more,
      s.history organizationId jobId = .ok versions ∧
      s'.history organizationId jobId = .ok (versions ++ more) ∧
      Amends none versions ∧
      s.current organizationId jobId = versions.getLast? ∧
      (versions.map (·.reportVersionId)).Nodup ∧
      ∀ version ∈ versions, jobKeyOf version.snapshot.organizationId version.snapshot.jobId =
        jobKeyOf organizationId jobId) ∧
    (∀ id version, s.byId.get? id = some version → s'.byId.get? id = some version ∧
      ∀ input renderer published t, input.reportVersionId = id →
        publish host digest input renderer s' ≠ .ok published t) ∧
    s.withdrawals <+: s'.withdrawals ∧
    ∀ call e t, perform host digest call s = .error e t → t = s := by
  have hgrows := grows_later hs hlater
  have hchains := chains_inductive.invariant hs
  have hchains' := chains_inductive.invariant (hs.later hlater)
  refine ⟨?_, ?_, hgrows.withdrawals, fun call e t h => perform_error h⟩
  · intro organizationId jobId
    obtain ⟨versions, hchain⟩ := hchains (jobKeyOf organizationId jobId)
    obtain ⟨later, hchain'⟩ := hchains' (jobKeyOf organizationId jobId)
    obtain ⟨more, rfl⟩ := hchain.extends hchain' hgrows
    exact ⟨versions, more, hchain.history, hchain'.history, hchain.amends, hchain.current_answer,
      hchain.once, fun version hversion => (hchain.stored version hversion).2⟩
  · intro id version hversion
    have hstill := hgrows.byId id version hversion
    refine ⟨hstill, ?_⟩
    rintro input renderer published t rfl hpublish
    rw [(publish_ok hpublish).unused] at hstill
    cases hstill

namespace Sample

def reads : Js.Host := { Js.Host.plain with dateParse := fun _ => some 0 }

def inspector : ReportInspectorAttribution := ⟨"Inspector", "Licence", "now"⟩

def original : ReportSnapshotInput where
  reportVersionId := "first"
  versionNumber := 1
  organizationId := "org"
  jobId := "job"
  propertyLabel := "House"
  inspectionDate := "now"
  issuedAt := "now"
  templateVersion := "one"
  building := some ⟨"Sound", "None", [], [], inspector⟩
  timberPest := none
  amendment := none

def amended : ReportSnapshotInput :=
  { original with
    reportVersionId := "second"
    versionNumber := 2
    amendment := some ⟨"first", "Typing error", "now", "Inspector", "Corrected"⟩ }

def renderer : ReportRenderer := fun snapshot module =>
  .ok ⟨snapshot.reportVersionId, module, "report.pdf", [1], "hash", 1, [], true⟩

def next (s : Store) (call : PublicationCall) : Store := Tx.after (perform reads id call s)

def issued : Store := next .empty (.publish original renderer)

def reissued : Store := next issued (.publish amended renderer)

theorem reachable_issued : (publications reads id).Reachable TSys.any issued :=
  TSys.reachable_foldl Store.empty next [.publish original renderer]

theorem later_reissued : (publications reads id).Later TSys.any issued reissued :=
  TSys.later_foldl Store.empty next issued [.publish amended renderer]

/-- An amendment extends the history of its job. -/
theorem reissued_extends :
    ((issued.current "org" "job").isSome ∧ (reissued.byId.get? "second").isSome) ∧
    ∃ versions more, issued.history "org" "job" = .ok versions ∧
      reissued.history "org" "job" = .ok (versions ++ more) ∧ Amends none versions := by
  refine ⟨by decide, ?_⟩
  obtain ⟨hhistory, -⟩ := publication_history reachable_issued later_reissued
  obtain ⟨versions, more, hbefore, hafter, hamends, -⟩ := hhistory "org" "job"
  exact ⟨versions, more, hbefore, hafter, hamends⟩

end Sample

end InspectionHub.Reporting
