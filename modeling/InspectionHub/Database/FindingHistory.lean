import InspectionHub.Database.Findings
import InspectionHub.Lib.Digest
import InspectionHub.Lib.TSys

/-!
# The history of a finding has no gaps and no duplicates

What an accepted append does to the tables (`append_ok`), the invariant every
run keeps (`FindingInv`), and what the receipt of an accepted call decides
about every later call under its key (`replayed`, `conflicting`).
-/

namespace InspectionHub.Database

namespace FindingTables

variable {columnSize : JsVal → Nat} {sha256 : String → String} {db db' : FindingTables}

/-! ## Runs -/

def empty : FindingTables where
  context := ⟨.empty, [], [], []⟩
  findings := .empty
  findingVersions := .empty
  findingEvidence := .empty
  professionalTransitionReceipts := .empty

/-- A call of the command, or the other commands at the rows it reads. -/
inductive FindingStep where
  | append (call : Call) (c : AppendFindingVersion)
  | other (context : FindingContext)

/-- A raised error rolls the call back. -/
def perform (columnSize : JsVal → Nat) (sha256 : String → String) (db : FindingTables) :
    FindingStep → FindingTables
  | .append call c =>
      match commandAppendFindingVersion columnSize sha256 call c db with
      | .ok (_, db') => db'
      | .error _ => db
  | .other context => { db with context := context }

def findingSystem (columnSize : JsVal → Nat) (sha256 : String → String) :
    TSys FindingTables FindingStep :=
  .ofFun .empty (perform columnSize sha256)

/-! ## An accepted append -/

/-- A pass of the evidence loop touches the evidence alone. -/
theorem appendEvidence_ok {organizationId jobId versionId : Uuid} {item : JsVal × Nat}
    (h : appendEvidence organizationId jobId versionId db item = .ok db') :
    ∃ evidence, db' = { db with findingEvidence := evidence } := by
  unfold appendEvidence at h
  split at h
  · obtain ⟨-, h⟩ := Sql.check_ok h
    obtain ⟨artifact?, -, h⟩ := Sql.bind_ok h
    obtain ⟨-, h⟩ := Sql.check_ok h
    obtain ⟨artifactId, -, h⟩ := Sql.bind_ok h
    obtain ⟨role, -, h⟩ := Sql.bind_ok h
    obtain ⟨-, h⟩ := Sql.check_ok h
    obtain ⟨next, -, hdone⟩ := Sql.bind_ok h
    cases hdone
    exact ⟨next.1, rfl⟩
  · cases h

theorem appendEvidence_all {organizationId jobId versionId : Uuid} {items : List (JsVal × Nat)}
    (h : items.foldlM (appendEvidence organizationId jobId versionId) db = .ok db') :
    ∃ evidence, db' = { db with findingEvidence := evidence } := by
  induction items generalizing db with
  | nil =>
      cases h
      exact ⟨_, rfl⟩
  | cons item items ih =>
      rw [List.foldlM_cons] at h
      obtain ⟨mid, hfirst, hrest⟩ := Sql.bind_ok h
      obtain ⟨_, rfl⟩ := appendEvidence_ok hfirst
      obtain ⟨evidence, rfl⟩ := ih hrest
      exact ⟨evidence, rfl⟩

/-- The finding a request appends to, among the rows it is appended among. -/
inductive Opened (db : FindingTables) (f : Finding) : List Finding → Prop
  | found (mem : f ∈ db.findings.rows) : Opened db f db.findings.rows
  | created (revision : f.revision = 0) (current : f.currentVersionId = none)
      (fresh : ∀ g ∈ db.findings.rows, g.id ≠ f.id) : Opened db f (db.findings.rows ++ [f])

variable {q : FindingRequest} {f : Finding}

theorem findOrCreate_ok {organizationId : Uuid} {module : InspectionModule}
    (h : db.findOrCreate organizationId module q = .ok (f, db')) :
    f.id = q.findingId ∧ f.organizationId = organizationId ∧
      ∃ t, Opened db f t.rows ∧ db' = { db with findings := t } := by
  unfold findOrCreate at h
  split at h
  · next found hfind =>
      obtain ⟨-, h⟩ := Sql.check_ok h
      obtain ⟨-, h⟩ := Sql.check_ok h
      cases h
      have hkey := List.find?_some hfind
      obtain ⟨hid, horg⟩ := of_decide_eq_true hkey
      exact ⟨hid, horg, db.findings, .found (List.mem_of_find?_eq_some hfind), rfl⟩
  · obtain ⟨-, h⟩ := Sql.check_ok h
    obtain ⟨next, hnext, hdone⟩ := Sql.bind_ok h
    cases hdone
    refine ⟨rfl, rfl, next.1, ?_, rfl⟩
    rw [next.2]
    exact .created rfl rfl (Sql.Table.insert_ok hnext)

/-- What an append does once no receipt is found. -/
structure Appended (sha256 : String → String) (call : Call) (actorId : Uuid)
    (c : AppendFindingVersion) (q : FindingRequest) (db db' : FindingTables) (f : Finding)
    (v : FindingVersion) : Prop where
  finding : f.id = q.findingId ∧ f.organizationId = c.organizationId
  opened : ∃ rows, Opened db f rows ∧
    db'.findings.rows = rows.map (advanced f q.shouldConfirm call.versionId)
  revision : f.revision = q.expectedRevision
  version : v.id = call.versionId ∧ v.findingId = q.findingId ∧
    v.expectedFindingRevision = f.revision ∧ v.isConfirmed = q.shouldConfirm
  number : v.version = Sql.maxOf ((db.findingVersions.rows.filter fun w =>
    w.findingId = q.findingId).map FindingVersion.version) + 1
  eligible : v.isConfirmed = true → v.verifierState.isIneligible = false
  versions : db'.findingVersions.rows = db.findingVersions.rows ++ [v]
  receipts : db'.professionalTransitionReceipts.rows = db.professionalTransitionReceipts.rows ++
    [⟨c.organizationId, actorId, .append_finding_version, sha256 q.idempotencyKey,
      q.fingerprint sha256 actorId c.moduleId, call.versionId⟩]

variable {c : AppendFindingVersion}

/-- A validated request has the arguments of its command, none of them null. -/
theorem validate_ok (h : c.validate columnSize = .ok q) :
    (c.findingId = some q.findingId ∧ c.expectedFindingRevision = some (q.expectedRevision : Int) ∧
      c.payload = some q.payload ∧ c.evidence = some q.evidence ∧
      c.rawIdempotencyKey = some q.idempotencyKey) ∧
    ¬ (q.shouldConfirm = true ∧
      (q.verifierState.bind VerifierState.ofText?).any VerifierState.isIneligible = true) := by
  unfold AppendFindingVersion.validate at h
  split at h
  · next findingId expected payload evidence key hargs =>
      split at h
      · obtain ⟨hsizes, h⟩ := Sql.check_ok h
        split at h
        · obtain ⟨-, h⟩ := Sql.check_ok h
          obtain ⟨packet, -, h⟩ := Sql.bind_ok h
          obtain ⟨verdict, -, h⟩ := Sql.bind_ok h
          obtain ⟨-, h⟩ := Sql.check_ok h
          obtain ⟨hconfirm, h⟩ := Sql.check_ok h
          cases h
          simp only [Prod.mk.injEq] at hargs
          have hnonneg : 0 ≤ expected := by
            simp only [not_or, Int.not_lt] at hsizes
            exact hsizes.1
          refine ⟨⟨hargs.1, ?_, hargs.2.2⟩, hconfirm⟩
          rw [hargs.2.1, Int.toNat_of_nonneg hnonneg]
        · cases h
      · cases h
  · cases h

/-- A version whose verifier has not cleared it is not confirmed. -/
theorem validate_eligible {state : VerifierState} (h : c.validate columnSize = .ok q)
    (hstate : q.verifierState.bind VerifierState.ofText? = some state)
    (hconfirm : q.shouldConfirm = true) : state.isIneligible = false := by
  have hcleared := (validate_ok h).2
  rw [hstate] at hcleared
  simpa [hconfirm] using hcleared

theorem updateFinding_ok {shouldConfirm : Bool} {versionId : Uuid}
    (h : db.updateFinding f shouldConfirm versionId = .ok db') :
    db' = { db with
      findings := db.findings.map (advanced f shouldConfirm versionId)
        (advanced_clash f shouldConfirm versionId) } := by
  obtain ⟨_, -, hdone⟩ := Sql.bind_ok h
  cases hdone
  rfl

variable {v : FindingVersion}

theorem insertFindingVersion_ok (h : db.insertFindingVersion v = .ok db') :
    ∃ t, t.rows = db.findingVersions.rows ++ [v] ∧ db' = { db with findingVersions := t } := by
  obtain ⟨-, h⟩ := Sql.check_ok h
  obtain ⟨next, -, hdone⟩ := Sql.bind_ok h
  cases hdone
  exact ⟨next.1, next.2, rfl⟩

variable {call : Call}

theorem append_ok {actorId id : Uuid} (hvalid : c.validate columnSize = .ok q)
    (h : append sha256 call actorId c q db = .ok (id, db')) :
    id = call.versionId ∧ ∃ f v, Appended sha256 call actorId c q db db' f v := by
  unfold append at h
  split at h
  · next module hmodule =>
      obtain ⟨-, h⟩ := Sql.check_ok h
      obtain ⟨⟨f, opened⟩, hopen, h⟩ := Sql.bind_ok h
      obtain ⟨hrevision, h⟩ := Sql.check_ok h
      obtain ⟨-, h⟩ := Sql.check_ok h
      obtain ⟨-, h⟩ := Sql.check_ok h
      obtain ⟨origin, -, h⟩ := Sql.bind_ok h
      obtain ⟨taxonomy, -, h⟩ := Sql.bind_ok h
      obtain ⟨observation, -, h⟩ := Sql.bind_ok h
      obtain ⟨state, hstate, h⟩ := Sql.bind_ok h
      obtain ⟨inserted, hinsert, h⟩ := Sql.bind_ok h
      obtain ⟨evidenced, hevidence, h⟩ := Sql.bind_ok h
      obtain ⟨updated, hupdate, h⟩ := Sql.bind_ok h
      obtain ⟨receipts, -, hdone⟩ := Sql.bind_ok h
      cases hdone
      obtain ⟨hid, horg, t, hopened, rfl⟩ := findOrCreate_ok hopen
      obtain ⟨u, hversions, rfl⟩ := insertFindingVersion_ok hinsert
      obtain ⟨evidence, rfl⟩ := appendEvidence_all hevidence
      cases updateFinding_ok hupdate
      refine ⟨rfl, f, _, ⟨hid, horg⟩, ⟨t.rows, hopened, rfl⟩, not_not.mp hrevision,
        ⟨rfl, rfl, rfl, ?_⟩, rfl, ?_, hversions, receipts.2⟩
      · cases q.shouldConfirm <;> rfl
      · intro hconfirmed
        refine validate_eligible hvalid (Sql.notNull_ok hstate) ?_
        cases hq : q.shouldConfirm with
        | true => rfl
        | false => simp [FindingVersion.isConfirmed, hq] at hconfirmed
  · cases h

/-! ## The invariant -/

/-- The versions of a finding, in the order they were appended. -/
def versionsOf (db : FindingTables) (findingId : Uuid) : List FindingVersion :=
  db.findingVersions.rows.filter fun v => v.findingId = findingId

theorem versionsOf_append (h : db'.findingVersions.rows = db.findingVersions.rows ++ [v])
    (findingId : Uuid) :
    db'.versionsOf findingId =
      db.versionsOf findingId ++ if v.findingId = findingId then [v] else [] := by
  rw [versionsOf, h, List.filter_append]
  simp only [List.filter_cons, decide_eq_true_eq, List.filter_nil]
  rfl

/-- Confirmed by an inspector and eligible for publication. -/
def isPublishable (v : FindingVersion) : Bool := v.isConfirmed && !v.verifierState.isIneligible

/-- A finding and its versions: numbered up to its revision, each written
against the revision before, the latest publishable one current. -/
structure History (versions : List FindingVersion) (f : Finding) : Prop where
  numbered : Numbered FindingVersion.version versions
  revision : f.revision = versions.length
  expected : ∀ v ∈ versions, v.version = v.expectedFindingRevision + 1
  eligible : ∀ v ∈ versions, v.isConfirmed = true → v.verifierState.isIneligible = false
  current : f.currentVersionId =
    (versions.filter isPublishable).getLast?.map FindingVersion.id

theorem History.nil (hrevision : f.revision = 0) (hcurrent : f.currentVersionId = none) :
    History [] f where
  numbered := .nil _
  revision := hrevision
  expected := List.forall_mem_nil _
  eligible := List.forall_mem_nil _
  current := hcurrent

/-- One version more, and the finding advanced past it. -/
theorem History.snoc {versions : List FindingVersion} {f g : Finding} (h : History versions f)
    (hversion : v.version = versions.length + 1)
    (hexpected : v.expectedFindingRevision = f.revision)
    (heligible : v.isConfirmed = true → v.verifierState.isIneligible = false)
    (hrevision : g.revision = f.revision + 1)
    (hcurrent : g.currentVersionId = if v.isConfirmed then some v.id else f.currentVersionId) :
    History (versions ++ [v]) g := by
  refine ⟨h.numbered.snoc hversion, ?_, ?_, ?_, ?_⟩
  · rw [hrevision, h.revision, List.length_append, List.length_singleton]
  · intro w hw
    rcases List.mem_append.mp hw with hw | hw
    · exact h.expected w hw
    · cases List.mem_singleton.mp hw
      rw [hversion, hexpected, h.revision]
  · intro w hw
    rcases List.mem_append.mp hw with hw | hw
    · exact h.eligible w hw
    · cases List.mem_singleton.mp hw
      exact heligible
  · rw [hcurrent, List.filter_append]
    cases hconfirmed : v.isConfirmed with
    | true =>
        have hpublishable : isPublishable v = true := by
          rw [isPublishable, hconfirmed, heligible hconfirmed]
          rfl
        rw [List.filter_cons_of_pos hpublishable, List.filter_nil, List.getLast?_concat]
        rfl
    | false =>
        have hnot : ¬ isPublishable v = true := by simp [isPublishable, hconfirmed]
        rw [List.filter_cons_of_neg hnot, List.filter_nil, List.append_nil]
        exact h.current

structure FindingInv (db : FindingTables) : Prop where
  history : ∀ f ∈ db.findings.rows, History (db.versionsOf f.id) f
  owned : ∀ v ∈ db.findingVersions.rows, ∃ f ∈ db.findings.rows, f.id = v.findingId
  recorded : ∀ r ∈ db.professionalTransitionReceipts.rows,
    ∃ v ∈ db.findingVersions.rows, v.id = r.resultRecordId

theorem FindingInv.empty : FindingInv FindingTables.empty :=
  ⟨List.forall_mem_nil _, List.forall_mem_nil _, List.forall_mem_nil _⟩

variable {rows : List Finding}

/-- The finding a request appends to has its history, empty for a new one. -/
theorem Opened.history (h : Opened db f rows) (hi : FindingInv db) :
    History (db.versionsOf f.id) f := by
  cases h with
  | found mem => exact hi.history f mem
  | created revision current fresh =>
      have hnone : db.versionsOf f.id = [] := by
        refine List.filter_eq_nil_iff.mpr fun v hv hown => ?_
        obtain ⟨g, hg, hid⟩ := hi.owned v hv
        exact fresh g hg (hid.trans (of_decide_eq_true hown))
      rw [hnone]
      exact .nil revision current

/-- Among those rows it is the only one of its identity, and the others were
there before. -/
theorem Opened.cases_mem {f g : Finding} (h : Opened db f rows) (hg : g ∈ rows) :
    g = f ∨ (g.id ≠ f.id ∧ g ∈ db.findings.rows) := by
  cases h with
  | found mem =>
      by_cases hid : g.id = f.id
      · exact .inl (db.findings.eq_of_key (f := Finding.id) (fun _ _ heq => heq) hg mem hid)
      · exact .inr ⟨hid, hg⟩
  | created revision current fresh =>
      rcases List.mem_append.mp hg with hg | hg
      · exact .inr ⟨fresh g hg, hg⟩
      · exact .inl (List.mem_singleton.mp hg)

theorem Opened.mem (h : Opened db f rows) : f ∈ rows := by
  cases h with
  | found mem => exact mem
  | created revision current fresh => exact List.mem_append_right _ List.mem_cons_self

theorem Opened.subset {f g : Finding} (h : Opened db f rows) (hg : g ∈ db.findings.rows) :
    g ∈ rows := by
  cases h with
  | found mem => exact hg
  | created revision current fresh => exact List.mem_append_left _ hg

theorem Appended.inv {actorId : Uuid} (h : Appended sha256 call actorId c q db db' f v)
    (hi : FindingInv db) : FindingInv db' := by
  obtain ⟨rows, hopened, hrows⟩ := h.opened
  obtain ⟨hid, hfinding, hexpected, hconfirmed⟩ := h.version
  have hown : v.findingId = f.id := hfinding.trans h.finding.1.symm
  refine ⟨?_, ?_, ?_⟩
  · intro g hg
    rw [hrows] at hg
    obtain ⟨row, hrow, rfl⟩ := List.mem_map.mp hg
    rw [advanced_id, versionsOf_append h.versions]
    rcases hopened.cases_mem hrow with rfl | ⟨hother, hrow⟩
    · have hhistory := hopened.history hi
      rw [if_pos hown]
      refine hhistory.snoc ?_ hexpected h.eligible ?_ ?_
      · rw [h.number, ← h.finding.1]
        exact congrArg (· + 1) (Sql.maxOf_numbered hhistory.numbered)
      · rw [advanced, if_pos ⟨rfl, rfl⟩]
      · rw [advanced, if_pos ⟨rfl, rfl⟩, hconfirmed, hid]
    · rw [if_neg fun hsame => hother (hsame.symm.trans hown), List.append_nil, advanced,
        if_neg fun hsame => hother hsame.1]
      exact hi.history row hrow
  · intro w hw
    rw [h.versions] at hw
    have hmap : ∀ row ∈ rows, ∃ g ∈ db'.findings.rows, g.id = row.id := by
      intro row hrow
      refine ⟨advanced f q.shouldConfirm call.versionId row, ?_, advanced_id _ _ _ row⟩
      rw [hrows]
      exact List.mem_map_of_mem hrow
    rcases List.mem_append.mp hw with hw | hw
    · obtain ⟨g, hg, hgid⟩ := hi.owned w hw
      obtain ⟨g', hg', hsame⟩ := hmap g (hopened.subset hg)
      exact ⟨g', hg', hsame.trans hgid⟩
    · cases List.mem_singleton.mp hw
      obtain ⟨g', hg', hsame⟩ := hmap f hopened.mem
      exact ⟨g', hg', hsame.trans hown.symm⟩
  · intro r hr
    rw [h.receipts] at hr
    rw [h.versions]
    rcases List.mem_append.mp hr with hr | hr
    · obtain ⟨w, hw, hwid⟩ := hi.recorded r hr
      exact ⟨w, List.mem_append_left _ hw, hwid⟩
    · cases List.mem_singleton.mp hr
      exact ⟨v, List.mem_append_right _ List.mem_cons_self, hid⟩

/-! ## One call -/

/-- The receipt an accepted call leaves or finds. -/
structure Receipted (sha256 : String → String) (call : Call) (c : AppendFindingVersion)
    (q : FindingRequest) (id : Uuid) (r : ProfessionalTransitionReceipt) : Prop where
  actor : call.actorId = some r.actorId
  organization : r.organizationId = c.organizationId
  command : r.commandName = .append_finding_version
  key : r.idempotencyKeySha256 = sha256 q.idempotencyKey
  fingerprint : r.requestFingerprintSha256 = q.fingerprint sha256 r.actorId c.moduleId
  result : r.resultRecordId = id

variable {id : Uuid}

/-- An accepted call found its receipt and changed nothing, or appended. -/
theorem command_ok (h : commandAppendFindingVersion columnSize sha256 call c db = .ok (id, db')) :
    ∃ q, c.validate columnSize = .ok q ∧
      ∃ r ∈ db'.professionalTransitionReceipts.rows, Receipted sha256 call c q id r ∧
        (db' = db ∨ ∃ f v, Appended sha256 call r.actorId c q db db' f v) := by
  unfold commandAppendFindingVersion at h
  split at h
  · next actorId hactor =>
      obtain ⟨-, h⟩ := Sql.check_ok h
      obtain ⟨q, hvalid, h⟩ := Sql.bind_ok h
      refine ⟨q, hvalid, ?_⟩
      split at h
      · next prior hprior =>
          obtain ⟨hsame, hdone⟩ := Sql.check_ok h
          cases hdone
          obtain ⟨hmem, horg, hcommand, hkey⟩ := ReceiptTable.prior?_some hprior
          obtain ⟨hactor', hfingerprint⟩ := not_or.mp hsame
          rw [not_not] at hactor' hfingerprint
          refine ⟨prior, hmem, ⟨?_, horg, hcommand, hkey, ?_, rfl⟩, .inl rfl⟩
          · rw [hactor, hactor']
          · rw [hfingerprint, hactor']
      · obtain ⟨rfl, f, v, happended⟩ := append_ok hvalid h
        let r : ProfessionalTransitionReceipt :=
          ⟨c.organizationId, actorId, .append_finding_version, sha256 q.idempotencyKey,
            q.fingerprint sha256 actorId c.moduleId, call.versionId⟩
        refine ⟨r, ?_, ⟨hactor, rfl, rfl, rfl, rfl, rfl⟩, .inr ⟨f, v, happended⟩⟩
        rw [happended.receipts]
        exact List.mem_append_right _ List.mem_cons_self
  · cases h

theorem perform_append (call : Call) (c : AppendFindingVersion) (db : FindingTables) :
    db.perform columnSize sha256 (.append call c) = db ∨
      ∃ actorId q f v, Appended sha256 call actorId c q db
        (db.perform columnSize sha256 (.append call c)) f v := by
  rw [perform]
  split
  · next id db' h =>
      obtain ⟨q, -, r, -, -, rfl | ⟨f, v, happended⟩⟩ := command_ok h
      · exact .inl rfl
      · exact .inr ⟨r.actorId, q, f, v, happended⟩
  · exact .inl rfl

theorem findingInv_inductive (columnSize : JsVal → Nat) (sha256 : String → String) :
    (findingSystem columnSize sha256).Inductive TSys.any FindingInv where
  init := by
    rintro _ rfl
    exact FindingInv.empty
  step := by
    rintro db step _ hi - rfl
    cases step with
    | append call c =>
        rcases @perform_append columnSize sha256 call c db with
          hsame | ⟨actorId, q, f, v, happended⟩
        · exact hsame.symm ▸ hi
        · exact happended.inv hi
    | other context => exact ⟨hi.history, hi.owned, hi.recorded⟩

variable {r : ProfessionalTransitionReceipt}

/-- Receipts are never removed. -/
theorem receipts_later {s s' : FindingTables}
    (h : (findingSystem columnSize sha256).Later TSys.any s s')
    (hr : r ∈ s.professionalTransitionReceipts.rows) :
    r ∈ s'.professionalTransitionReceipts.rows := by
  refine h.preserves (P := fun s => r ∈ s.professionalTransitionReceipts.rows) ?_ hr
  rintro db step _ hmem - rfl
  cases step with
  | append call c =>
      rcases @perform_append columnSize sha256 call c db with
        hsame | ⟨actorId, q, f, v, happended⟩
      · exact hsame.symm ▸ hmem
      · show r ∈ (db.perform columnSize sha256 (.append call c)).professionalTransitionReceipts.rows
        rw [happended.receipts]
        exact List.mem_append_left _ hmem
  | other context => exact hmem

/-! ## Calls under a key that is taken -/

/-- The fingerprint determines the request. -/
theorem fingerprint_injective (hsha : Function.Injective sha256) {q q' : FindingRequest}
    {actorId moduleId moduleId' : Uuid}
    (h : q.fingerprint sha256 actorId moduleId = q'.fingerprint sha256 actorId moduleId') :
    moduleId = moduleId' ∧ q.findingId = q'.findingId ∧
      q.expectedRevision = q'.expectedRevision ∧ q.payload = q'.payload ∧
      q.evidence = q'.evidence := by
  have htext := Jsonb.text_injective (hsha h)
  simp only [JsVal.obj.injEq, List.cons.injEq, Prod.mk.injEq, JsVal.str.injEq, JsVal.num.injEq,
    JsNum.int.injEq, Int.natCast_inj, true_and, and_true] at htext
  obtain ⟨hpayload, hevidence, hmodule, hfinding, hrevision⟩ := htext
  exact ⟨Uuid.text_injective hmodule, Uuid.text_injective hfinding, hrevision, hpayload, hevidence⟩

/-- The same request by the same actor is answered from its receipt. -/
theorem replayed (hvalid : c.validate columnSize = .ok q)
    (hr : r ∈ db.professionalTransitionReceipts.rows) (h : Receipted sha256 call c q id r)
    (hassigned : isAssignedModuleInspector db.context.inspectionModules.rows
      db.context.organizationMembers call.actorId c.organizationId c.moduleId = true) :
    commandAppendFindingVersion columnSize sha256 call c db = .ok (id, db) := by
  have hprior := ReceiptTable.prior?_of_mem hr
  rw [h.organization, h.command, h.key] at hprior
  rw [h.actor] at hassigned
  unfold commandAppendFindingVersion
  rw [h.actor]
  dsimp only
  rw [Sql.check_of (by rw [hassigned]; simp), Sql.bind_of hvalid]
  simp only [hprior]
  rw [Sql.check_of (by simp [h.fingerprint]), h.result]
  rfl

/-- Another request, or another actor, under the same key raises. -/
theorem conflicting (hsha : Function.Injective sha256) {call call' : Call}
    {c c' : AppendFindingVersion} (hvalid : c.validate columnSize = .ok q)
    (hr : r ∈ db.professionalTransitionReceipts.rows) (h : Receipted sha256 call c q id r)
    (horg : c'.organizationId = c.organizationId)
    (hkey : c'.rawIdempotencyKey = c.rawIdempotencyKey)
    (hother : c' ≠ c ∨ call'.actorId ≠ call.actorId) :
    ∃ e, commandAppendFindingVersion columnSize sha256 call' c' db = .error e := by
  cases hresult : commandAppendFindingVersion columnSize sha256 call' c' db with
  | error e => exact ⟨e, rfl⟩
  | ok p =>
      obtain ⟨id', db'⟩ := p
      obtain ⟨q', hvalid', r', hr', h', heffect⟩ := command_ok hresult
      have hkept : r ∈ db'.professionalTransitionReceipts.rows := by
        rcases heffect with rfl | ⟨f, v, happended⟩
        · exact hr
        · rw [happended.receipts]
          exact List.mem_append_left _ hr
      obtain ⟨⟨hfinding, hrevision, hpayload, hevidence, hraw⟩, -⟩ := validate_ok hvalid
      obtain ⟨⟨hfinding', hrevision', hpayload', hevidence', hraw'⟩, -⟩ := validate_ok hvalid'
      have hsameKey : q'.idempotencyKey = q.idempotencyKey :=
        Option.some.inj (hraw'.symm.trans (hkey.trans hraw))
      -- the table holds one receipt under the key, so both calls have the same
      have hsame : r' = r := by
        refine ReceiptTable.unique hr' hkept ⟨?_, ?_, ?_⟩
        · rw [h'.organization, horg, h.organization]
        · rw [h'.command, h.command]
        · rw [h'.key, hsameKey, h.key]
      subst hsame
      obtain ⟨hmodule, hfindings, hrevisions, hpayloads, hevidences⟩ :=
        fingerprint_injective hsha (h'.fingerprint.symm.trans h.fingerprint)
      have hcommand : c' = c := by
        cases c
        cases c'
        simp only at *
        simp_all
      rcases hother with hother | hother
      · exact absurd hcommand hother
      · exact absurd (h'.actor.trans h.actor.symm) hother

/-! ## The history of every run -/

/-- The answer of an accepted call, in a later state: the same request gets it
again while its caller is assigned, and any other request under the key is
refused. -/
structure ExactlyOnce (columnSize : JsVal → Nat) (sha256 : String → String) (call : Call)
    (c : AppendFindingVersion) (id : Uuid) (later : FindingTables) : Prop where
  replay : isAssignedModuleInspector later.context.inspectionModules.rows
      later.context.organizationMembers call.actorId c.organizationId c.moduleId = true →
    ∀ call', call'.actorId = call.actorId →
      commandAppendFindingVersion columnSize sha256 call' c later = .ok (id, later)
  conflict : ∀ call' c', c'.organizationId = c.organizationId →
    c'.rawIdempotencyKey = c.rawIdempotencyKey → (c' ≠ c ∨ call'.actorId ≠ call.actorId) →
      (∃ e, commandAppendFindingVersion columnSize sha256 call' c' later = .error e) ∧
        later.perform columnSize sha256 (.append call' c') = later

/-- **Histories are gap-free, and a request is carried out once.** -/
theorem finding_history_exactly_once (hsha : Function.Injective sha256) {s : FindingTables}
    (hs : (findingSystem columnSize sha256).Reachable TSys.any s) :
    (∀ f ∈ s.findings.rows, History (s.versionsOf f.id) f) ∧
    (∀ r ∈ s.professionalTransitionReceipts.rows, ∀ r' ∈ s.professionalTransitionReceipts.rows,
      r.clash r' → r = r') ∧
    ∀ call c id s', commandAppendFindingVersion columnSize sha256 call c s = .ok (id, s') →
      (∃ v ∈ s'.findingVersions.rows, v.id = id) ∧
      ∀ later, (findingSystem columnSize sha256).Later TSys.any s' later →
        ExactlyOnce columnSize sha256 call c id later := by
  have hi := (findingInv_inductive columnSize sha256).invariant hs
  refine ⟨hi.history, fun r hr r' hr' => ReceiptTable.unique hr hr', ?_⟩
  intro call c id s' hcall
  obtain ⟨q, hvalid, r, hr, hreceipted, heffect⟩ := command_ok hcall
  have hi' : FindingInv s' := by
    rcases heffect with rfl | ⟨f, v, happended⟩
    · exact hi
    · exact happended.inv hi
  refine ⟨?_, fun later hlater => ⟨?_, ?_⟩⟩
  · obtain ⟨v, hv, hresult⟩ := hi'.recorded r hr
    exact ⟨v, hv, hresult.trans hreceipted.result⟩
  · intro hassigned call' hactor
    have hreceipted' : Receipted sha256 call' c q id r :=
      { hreceipted with actor := hactor.trans hreceipted.actor }
    rw [← hactor] at hassigned
    exact replayed hvalid (receipts_later hlater hr) hreceipted' hassigned
  · intro call' c' horg hkey hother
    obtain ⟨e, herror⟩ :=
      conflicting hsha hvalid (receipts_later hlater hr) hreceipted horg hkey hother
    refine ⟨⟨e, herror⟩, ?_⟩
    rw [perform, herror]

/-! ## A first version -/

namespace Sample

def tenant : Uuid := ⟨"aaaaaaaa-0000-0000-0000-000000000001", by decide⟩
def job : Uuid := ⟨"aaaa0000-0000-0000-0000-000000000001", by decide⟩
def buildingModule : Uuid := ⟨"aaaa1000-0000-0000-0000-000000000001", by decide⟩
def inspector : Uuid := ⟨"11111111-0000-0000-0000-000000000001", by decide⟩
def photo : Uuid := ⟨"cccc0000-0000-0000-0000-000000000001", by decide⟩
def finding : Uuid := ⟨"ffff0000-0000-0000-0000-000000000001", by decide⟩
def firstVersion : Uuid := ⟨"ffff1000-0000-0000-0000-000000000001", by decide⟩
def secondVersion : Uuid := ⟨"ffff1000-0000-0000-0000-000000000002", by decide⟩

def photoHash : String := String.ofList (List.replicate 64 '7')

/-- A module with its inspector and one durable photo. -/
def assigned : FindingContext where
  inspectionModules := ⟨[⟨buildingModule, tenant, job, .building, inspector, .in_progress, 0, none,
    none⟩], List.pairwise_singleton _ _⟩
  organizationMembers := [⟨tenant, inspector, .inspector, .active⟩]
  artifacts := [⟨photo, tenant, job, photo, 1, .photo, photoHash, 10, "image/jpeg", "photo", none, 0,
    none, .accepted⟩]
  artifactDurabilityReceipts := [⟨tenant, photo, "1", photoHash, 10⟩]

/-- A confirmed defect. -/
def payload : JsVal :=
  .obj [("confirm", .bool true), ("observation", .str "crack"),
    ("taxonomyCode", .str "minor_defect"), ("verifierState", .str "not_required"),
    ("authorshipOrigin", .str "human")]

/-- Its photo. -/
def evidence : JsVal := .arr [.obj [("role", .str "close_up"), ("artifactId", .str photo.text)]]

def request : AppendFindingVersion :=
  ⟨tenant, buildingModule, some finding, some 0, some payload, some evidence,
    some "finding-request-1"⟩

/-- Its content and its fingerprint, as the store projects them. -/
def content : JsVal :=
  .obj [("payload", payload), ("evidence", evidence), ("moduleId", .str buildingModule.text),
    ("findingId", .str finding.text), ("moduleType", .str "building"),
    ("organizationId", .str tenant.text)]

def fingerprint : JsVal :=
  .obj [("actorId", .str inspector.text), ("payload", payload), ("evidence", evidence),
    ("moduleId", .str buildingModule.text), ("findingId", .str finding.text),
    ("expectedRevision", .num (.int 0))]

def findingDigest : String → String := digestOf [
  ("finding-request-1", "a1345528dbecf6446f03c308b3158c4fd5252cf2ebaa89681f1bab356097ed8f"),
  (Jsonb.text fingerprint, "eaa5db31bc24de840707917069c5c4fb4973d53c816365d1bd450fe1aa361867"),
  (Jsonb.text content, "33878a26082e7ade0489554afb048bb865fc960c5a63d669ecb22b737815395f")]

theorem findingDigest_injective : Function.Injective findingDigest :=
  digestOf_injective (by decide) (by decide)

def firstCall : Call := ⟨some inspector, firstVersion, 0⟩
def secondCall : Call := ⟨some inspector, secondVersion, 1⟩

def storageSize (v : JsVal) : Nat := (Jsonb.render v).length

def opened : FindingTables := FindingTables.empty.perform storageSize findingDigest (.other assigned)

theorem accepted :
    ((commandAppendFindingVersion storageSize findingDigest firstCall request opened).map fun p =>
      (p.1, isAssignedModuleInspector p.2.context.inspectionModules.rows
        p.2.context.organizationMembers (some inspector) tenant buildingModule)).toOption =
      some (firstVersion, true) := by
  decide +kernel

/-- Sent again, the request is answered with the version it appended. -/
theorem request_exactly_once :
    ∃ s, commandAppendFindingVersion storageSize findingDigest firstCall request opened =
        .ok (firstVersion, s) ∧
      commandAppendFindingVersion storageSize findingDigest secondCall request s =
        .ok (firstVersion, s) := by
  have haccepted := accepted
  cases hresult :
      commandAppendFindingVersion storageSize findingDigest firstCall request opened with
  | error e =>
      rw [hresult] at haccepted
      cases haccepted
  | ok p =>
      obtain ⟨id, s⟩ := p
      rw [hresult] at haccepted
      have hanswer := Option.some.inj haccepted
      obtain ⟨rfl, hassigned⟩ := Prod.mk.inj hanswer
      have hreachable := TSys.reachable_foldl FindingTables.empty
        (perform storageSize findingDigest) [.other assigned]
      have hhistory := finding_history_exactly_once findingDigest_injective hreachable
      obtain ⟨-, honce⟩ := hhistory.2.2 firstCall request firstVersion s hresult
      exact ⟨s, rfl, (honce s (.refl s)).replay hassigned secondCall rfl⟩

end Sample

end FindingTables

end InspectionHub.Database
