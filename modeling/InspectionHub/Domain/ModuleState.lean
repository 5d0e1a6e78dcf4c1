import InspectionHub.Domain.Snapshots

/-!
# Professional module state

The record of one professional module (its snapshots, approvals and
amendments), the schema every new state passes through, and the transitions.
-/

namespace InspectionHub.Domain

open Contracts Schema

inductive ModuleType where
  | building
  | timber_pest
deriving DecidableEq

def ModuleType.text : ModuleType → String
  | .building => "building"
  | .timber_pest => "timber_pest"

inductive ModuleStatus where
  | draft
  | approved
  | withdrawn
  | evidence_at_risk
deriving DecidableEq

def ModuleStatus.text : ModuleStatus → String
  | .draft => "draft"
  | .approved => "approved"
  | .withdrawn => "withdrawn"
  | .evidence_at_risk => "evidence_at_risk"

structure ModuleApproval where
  approvalId : String
  organizationId : String
  jobId : String
  moduleId : String
  module : ModuleType
  snapshotId : String
  snapshotHash : String
  inspectorId : String
  approvedAt : String
deriving DecidableEq

structure AmendmentRecord where
  amendmentId : String
  priorSnapshotId : String
  replacementSnapshotId : String
  reason : String
  amendedByInspectorId : String
  amendedAt : String
deriving DecidableEq

structure WithdrawalRecord where
  reason : String
  withdrawnByInspectorId : String
  withdrawnAt : String
  withdrawnSnapshotId : String
deriving DecidableEq

inductive EvidenceRiskReason where
  | device_lost_before_server_durability
deriving DecidableEq

structure EvidenceRiskRecord where
  artifactIds : List String
  reason : EvidenceRiskReason
  recordedAt : String
deriving DecidableEq

/-- The state of a module; its snapshots are JSON documents. -/
structure ProfessionalModuleState where
  organizationId : String
  jobId : String
  moduleId : String
  module : ModuleType
  revision : Int
  status : ModuleStatus
  snapshots : List JsVal
  approvals : List ModuleApproval
  amendments : List AmendmentRecord
  currentSnapshotId : Option String
  currentApprovalId : Option String
  withdrawal : Option WithdrawalRecord
  evidenceRisk : Option EvidenceRiskRecord
deriving DecidableEq

/-! ## The schema of a state -/

variable (env : Env)

/-- The field `k` fails its check. -/
def failing (k : String) (message : Option String) (ok : Bool) : List Issue :=
  if ok then [] else [⟨[.name k], message⟩]

def idField (k s : String) : List Issue := failing k none (env.formats.uuid s)

def hashField (k s : String) : List Issue :=
  failing k (some "Expected a lowercase SHA-256 digest") (Js.isHexDigest s)

def timestampField (k s : String) : List Issue := failing k none (env.formats.datetime s)

/-- `NonEmptyTextSchema`, whose output is the trimmed text. -/
def nonEmptyTextField (k s : String) : List Issue :=
  failing k none (1 ≤ Js.length (Js.trim s) && Js.length (Js.trim s) ≤ 4000)

/-- The value, unless there are issues. -/
def accept {α : Type} (a : α) : List Issue → Parsed α
  | [] => .ok a
  | issues => .error issues

def ModuleApproval.parse (a : ModuleApproval) : Parsed ModuleApproval :=
  accept a
    (idField env "approvalId" a.approvalId ++ idField env "organizationId" a.organizationId ++
      idField env "jobId" a.jobId ++ idField env "moduleId" a.moduleId ++
      idField env "snapshotId" a.snapshotId ++ hashField "snapshotHash" a.snapshotHash ++
      idField env "inspectorId" a.inspectorId ++ timestampField env "approvedAt" a.approvedAt)

def AmendmentRecord.parse (a : AmendmentRecord) : Parsed AmendmentRecord :=
  accept { a with reason := Js.trim a.reason }
    (idField env "amendmentId" a.amendmentId ++ idField env "priorSnapshotId" a.priorSnapshotId ++
      idField env "replacementSnapshotId" a.replacementSnapshotId ++
      nonEmptyTextField "reason" a.reason ++
      idField env "amendedByInspectorId" a.amendedByInspectorId ++
      timestampField env "amendedAt" a.amendedAt)

def WithdrawalRecord.parse (w : WithdrawalRecord) : Parsed WithdrawalRecord :=
  accept { w with reason := Js.trim w.reason }
    (nonEmptyTextField "reason" w.reason ++
      idField env "withdrawnByInspectorId" w.withdrawnByInspectorId ++
      timestampField env "withdrawnAt" w.withdrawnAt ++
      idField env "withdrawnSnapshotId" w.withdrawnSnapshotId)

def EvidenceRiskRecord.parse (e : EvidenceRiskRecord) : Parsed EvidenceRiskRecord :=
  accept e
    (failing "artifactIds" none (!e.artifactIds.isEmpty) ++
      (e.artifactIds.mapIdx fun i id =>
        if env.formats.uuid id then [] else [⟨[.name "artifactIds", .index i], none⟩]).flatten ++
      timestampField env "recordedAt" e.recordedAt)

/-- The elements of an array of records. -/
def parseAll {α : Type} (f : α → Parsed α) : Nat → List α → Parsed (List α)
  | _, [] => .ok []
  | i, a :: l => both List.cons (under (.index i) (f a)) (parseAll f (i + 1) l)

/-- `schema.nullable()` of a record. -/
def parseNullable {α : Type} (f : α → Parsed α) : Option α → Parsed (Option α)
  | none => .ok none
  | some a => (f a).map some

/-- The strict object, before its refinement. -/
def ProfessionalModuleState.parseFields (v : ProfessionalModuleState) :
    Parsed ProfessionalModuleState :=
  both (fun _ s => s)
    (accept ()
      (idField env "organizationId" v.organizationId ++ idField env "jobId" v.jobId ++
        idField env "moduleId" v.moduleId ++
        failing "revision" none (0 ≤ v.revision && v.revision.natAbs ≤ 2 ^ 53 - 1))) <|
  both (fun l s => { s with snapshots := l })
    (under (.name "snapshots") (elements (moduleSnapshotSchema env.formats) 0 v.snapshots)) <|
  both (fun l s => { s with approvals := l })
    (under (.name "approvals") (parseAll (ModuleApproval.parse env) 0 v.approvals)) <|
  both (fun l s => { s with amendments := l })
    (under (.name "amendments") (parseAll (AmendmentRecord.parse env) 0 v.amendments)) <|
  both (fun _ s => s)
    (accept ()
      ((v.currentSnapshotId.toList.map (idField env "currentSnapshotId")).flatten ++
        (v.currentApprovalId.toList.map (idField env "currentApprovalId")).flatten)) <|
  both (fun w s => { s with withdrawal := w })
    (under (.name "withdrawal") (parseNullable (WithdrawalRecord.parse env) v.withdrawal)) <|
  both (fun e s => { s with evidenceRisk := e })
    (under (.name "evidenceRisk") (parseNullable (EvidenceRiskRecord.parse env) v.evidenceRisk))
    (.ok v)

/-- The current approval must bind the current snapshot. -/
def bindsCurrent (value : ProfessionalModuleState) : Bool :=
  match value.approvals.find? (fun a => some a.approvalId = value.currentApprovalId),
    value.snapshots.find? (fun s => s.str? "snapshotId" = value.currentSnapshotId) with
  | some approval, some snapshot =>
      snapshot.str? "snapshotId" = some approval.snapshotId ∧
        snapshot.str? "canonicalHash" = some approval.snapshotHash
  | _, _ => false

/-- The refinement of the state schema, in the source's order. -/
def stateIssues (value : ProfessionalModuleState) : List Issue :=
  failing "snapshots" (some "Snapshot module mismatch")
    (!value.snapshots.any fun snapshot =>
      snapshot.str? "organizationId" ≠ some value.organizationId ∨
        snapshot.str? "jobId" ≠ some value.jobId ∨
        snapshot.str? "module" ≠ some value.module.text ∨
        snapshot.str? "moduleId" ≠ some value.moduleId) ++
  failing "approvals" (some "Approval module mismatch")
    (!value.approvals.any fun approval =>
      approval.organizationId ≠ value.organizationId ∨ approval.jobId ≠ value.jobId ∨
        approval.module ≠ value.module ∨ approval.moduleId ≠ value.moduleId) ++
  failing "currentSnapshotId" (some "Current snapshot is missing")
    (value.currentSnapshotId = none ∨
      value.snapshots.any fun snapshot => snapshot.str? "snapshotId" = value.currentSnapshotId) ++
  failing "currentApprovalId" (some "Current approval is missing")
    (value.currentApprovalId = none ∨
      value.approvals.any fun approval => some approval.approvalId = value.currentApprovalId) ++
  failing "currentApprovalId" (some "Approved module needs an approval")
    (¬ (value.status = .approved ∧ value.currentApprovalId = none)) ++
  failing "currentApprovalId"
    (some "Current approval must bind the exact current snapshot and canonical hash")
    (¬ (value.status = .approved ∧ value.currentApprovalId ≠ none ∧
        value.currentSnapshotId ≠ none) ∨ bindsCurrent value) ++
  failing "withdrawal" (some "Withdrawal details are required")
    (¬ (value.status = .withdrawn ∧ value.withdrawal = none)) ++
  failing "evidenceRisk" (some "Evidence risk details are required")
    (¬ (value.status = .evidence_at_risk ∧ value.evidenceRisk = none)) ++
  failing "currentApprovalId"
    (some "Withdrawn or evidence-at-risk modules cannot retain a current approval")
    (¬ ((value.status = .withdrawn ∨ value.status = .evidence_at_risk) ∧
        value.currentApprovalId ≠ none)) ++
  failing "withdrawal" (some "Only withdrawn modules retain current withdrawal state")
    (¬ (value.status ≠ .withdrawn ∧ value.withdrawal ≠ none)) ++
  failing "evidenceRisk"
    (some "Only evidence-at-risk modules retain current evidence risk state")
    (¬ (value.status ≠ .evidence_at_risk ∧ value.evidenceRisk ≠ none))

/-- `ProfessionalModuleStateSchema.parse(input)`. -/
def ProfessionalModuleState.parse (v : ProfessionalModuleState) :
    Parsed ProfessionalModuleState :=
  (v.parseFields env).bind fun s => accept s (stateIssues s)

def freezeModuleState (input : ProfessionalModuleState) :
    Except DomainError ProfessionalModuleState :=
  Domain.parse (input.parse env)

/-! ## Transitions -/

structure ModuleIdentity where
  organizationId : String
  jobId : String
  moduleId : String
  module : ModuleType

def createInitialModuleState (identity : ModuleIdentity) :
    Except DomainError ProfessionalModuleState :=
  freezeModuleState env
    { organizationId := identity.organizationId
      jobId := identity.jobId
      moduleId := identity.moduleId
      module := identity.module
      revision := 0
      status := .draft
      snapshots := []
      approvals := []
      amendments := []
      currentSnapshotId := none
      currentApprovalId := none
      withdrawal := none
      evidenceRisk := none }

def assertRevision (actualRevision expectedRevision : Int) : Except DomainError Unit :=
  require (actualRevision = expectedRevision) "stale_revision" "Expected revision is stale"
    [("expectedRevision", expectedRevision), ("actualRevision", actualRevision)]

def getCurrentSnapshot (state : ProfessionalModuleState) : Except DomainError JsVal :=
  match state.currentSnapshotId with
  | none => .error (.conflict "snapshot_missing" "No current immutable snapshot exists" [])
  | some id =>
      match state.snapshots.find? fun snapshot => snapshot.str? "snapshotId" = some id with
      | none => .error (.conflict "snapshot_missing" "Current snapshot reference is invalid" [])
      | some snapshot => .ok snapshot

def assertSnapshotForState (state : ProfessionalModuleState) (snapshot : JsVal) :
    Except DomainError Unit := do
  let _ ← parse (moduleSnapshotSchema env.formats snapshot)
  let valid ← verifyModuleSnapshotHash env snapshot
  require (valid = true) "snapshot_hash_invalid" "Snapshot canonical hash is invalid" []
  require
    (snapshot.str? "organizationId" = some state.organizationId ∧
      snapshot.str? "jobId" = some state.jobId ∧
      snapshot.str? "moduleId" = some state.moduleId ∧
      snapshot.str? "module" = some state.module.text)
    "snapshot_module_mismatch" "Snapshot does not belong to this professional module" []

/-- The string property `k` of a parsed snapshot. -/
def text (v : JsVal) (k : String) : String := (v.str? k).getD ""

def registerModuleSnapshot (state : ProfessionalModuleState) (snapshot : JsVal)
    (expectedRevision : Int) : Except DomainError ProfessionalModuleState := do
  assertRevision state.revision expectedRevision
  require (state.snapshots = []) "amendment_reason_required"
    "A later professional snapshot must use the explicit amendment transition" []
  assertSnapshotForState env state snapshot
  require (snapshot.int? "revision" = some 1) "snapshot_revision_mismatch"
    "The initial module snapshot revision must be 1" []
  freezeModuleState env
    { state with
      revision := state.revision + 1
      status := .draft
      snapshots := state.snapshots ++ [snapshot]
      currentSnapshotId := snapshot.str? "snapshotId"
      currentApprovalId := none
      withdrawal := none
      evidenceRisk := none }

structure ApprovalCommand where
  expectedRevision : Int
  approvalId : String
  snapshotId : String
  snapshotHash : String
  inspectorId : String
  approvedAt : String

def approveModule (state : ProfessionalModuleState) (command : ApprovalCommand) :
    Except DomainError ProfessionalModuleState := do
  assertRevision state.revision command.expectedRevision
  require (state.status = .draft) "module_not_approvable"
    ("A " ++ state.status.text ++ " module cannot be approved") []
  let snapshot ← getCurrentSnapshot state
  require
    (snapshot.str? "snapshotId" = some command.snapshotId ∧
      snapshot.str? "canonicalHash" = some command.snapshotHash)
    "snapshot_conflict" "Approval must reference the exact current immutable snapshot"
    [("currentSnapshotId", .str (text snapshot "snapshotId")),
      ("currentSnapshotHash", .str (text snapshot "canonicalHash"))]
  let approval ← parse (ModuleApproval.parse env
    { approvalId := command.approvalId
      organizationId := state.organizationId
      jobId := state.jobId
      moduleId := state.moduleId
      module := state.module
      snapshotId := text snapshot "snapshotId"
      snapshotHash := text snapshot "canonicalHash"
      inspectorId := command.inspectorId
      approvedAt := command.approvedAt })
  freezeModuleState env
    { state with
      revision := state.revision + 1
      status := .approved
      approvals := state.approvals ++ [approval]
      currentApprovalId := some approval.approvalId
      withdrawal := none
      evidenceRisk := none }

structure AmendmentCommand where
  expectedRevision : Int
  amendmentId : String
  reason : String
  amendedByInspectorId : String
  amendedAt : String
  replacementSnapshot : JsVal

def amendModule (state : ProfessionalModuleState) (command : AmendmentCommand) :
    Except DomainError ProfessionalModuleState := do
  assertRevision state.revision command.expectedRevision
  require (state.status = .approved) "module_not_amendable"
    "Only an approved professional module may be amended" []
  let prior ← getCurrentSnapshot state
  assertSnapshotForState env state command.replacementSnapshot
  require (command.replacementSnapshot.int? "revision" = (prior.int? "revision").map (· + 1))
    "snapshot_revision_mismatch" "Replacement snapshot must advance one revision" []
  freezeModuleState env
    { state with
      revision := state.revision + 1
      status := .draft
      snapshots := state.snapshots ++ [command.replacementSnapshot]
      amendments := state.amendments ++
        [{ amendmentId := command.amendmentId
           priorSnapshotId := text prior "snapshotId"
           replacementSnapshotId := text command.replacementSnapshot "snapshotId"
           reason := command.reason
           amendedByInspectorId := command.amendedByInspectorId
           amendedAt := command.amendedAt }]
      currentSnapshotId := command.replacementSnapshot.str? "snapshotId"
      currentApprovalId := none
      withdrawal := none
      evidenceRisk := none }

structure WithdrawalCommand where
  expectedRevision : Int
  reason : String
  withdrawnByInspectorId : String
  withdrawnAt : String

def withdrawModule (state : ProfessionalModuleState) (command : WithdrawalCommand) :
    Except DomainError ProfessionalModuleState := do
  assertRevision state.revision command.expectedRevision
  require (state.status = .approved) "module_not_withdrawable"
    "Only a currently approved module may be withdrawn" []
  let snapshot ← getCurrentSnapshot state
  freezeModuleState env
    { state with
      revision := state.revision + 1
      status := .withdrawn
      currentApprovalId := none
      withdrawal := some
        { reason := command.reason
          withdrawnByInspectorId := command.withdrawnByInspectorId
          withdrawnAt := command.withdrawnAt
          withdrawnSnapshotId := text snapshot "snapshotId" }
      evidenceRisk := none }

structure EvidenceAtRiskCommand where
  expectedRevision : Int
  artifactIds : List String
  reason : EvidenceRiskReason
  recordedAt : String

def markEvidenceAtRisk (state : ProfessionalModuleState) (command : EvidenceAtRiskCommand) :
    Except DomainError ProfessionalModuleState := do
  assertRevision state.revision command.expectedRevision
  require (state.status ≠ .withdrawn) "withdrawn_module"
    "A withdrawn module cannot transition to evidence-at-risk" []
  freezeModuleState env
    { state with
      revision := state.revision + 1
      status := .evidence_at_risk
      currentApprovalId := none
      withdrawal := none
      evidenceRisk := some
        { artifactIds := command.artifactIds
          reason := command.reason
          recordedAt := command.recordedAt } }

/-! ## What the schema keeps -/

theorem accept_ok {α : Type} {a b : α} {issues : List Issue} (h : accept a issues = .ok b) :
    b = a ∧ issues = [] := by
  cases issues with
  | nil =>
      cases h
      exact ⟨rfl, rfl⟩
  | cons i l => cases h

theorem failing_eq_nil {k : String} {m : Option String} {b : Bool} (h : failing k m b = []) :
    b = true := by
  unfold failing at h
  split at h
  · assumption
  · cases h

/-- Parsing approvals returns them unchanged. -/
theorem parseAll_approvals {env : Env} {i : Nat} {l r : List ModuleApproval}
    (h : parseAll (ModuleApproval.parse env) i l = .ok r) : r = l := by
  induction l generalizing i r with
  | nil =>
      cases h
      rfl
  | cons a l ih =>
      obtain ⟨b, r', hb, hr, rfl⟩ := both_ok h
      rw [(accept_ok (under_ok hb)).1, ih hr]

/-- A snapshot as a state stores it: its identity is the one registered. -/
def SameIdentity (stored given : JsVal) : Prop :=
  ∀ k ∈ identityKeys, stored.get? k = given.get? k

/-- What a state becomes when it is frozen. -/
structure Frozen (v s : ProfessionalModuleState) : Prop where
  organizationId : s.organizationId = v.organizationId
  jobId : s.jobId = v.jobId
  moduleId : s.moduleId = v.moduleId
  module : s.module = v.module
  revision : s.revision = v.revision
  status : s.status = v.status
  snapshots : List.Forall₂ (fun given stored => SameIdentity stored given) v.snapshots s.snapshots
  approvals : s.approvals = v.approvals
  currentSnapshotId : s.currentSnapshotId = v.currentSnapshotId
  currentApprovalId : s.currentApprovalId = v.currentApprovalId
  refined : stateIssues s = []

theorem freezeModuleState_ok {v s : ProfessionalModuleState}
    (h : freezeModuleState env v = .ok s) : Frozen v s := by
  have h := parse_ok h
  unfold ProfessionalModuleState.parse at h
  obtain ⟨t, ht, h⟩ := bind_ok h
  obtain ⟨rfl, hissues⟩ := accept_ok h
  obtain ⟨-, s₁, -, h₁, rfl⟩ := both_ok ht
  obtain ⟨snapshots, s₂, hsnap, h₂, rfl⟩ := both_ok h₁
  obtain ⟨approvals, s₃, happ, h₃, rfl⟩ := both_ok h₂
  obtain ⟨amendments, s₄, -, h₄, rfl⟩ := both_ok h₃
  obtain ⟨-, s₅, -, h₅, rfl⟩ := both_ok h₄
  obtain ⟨withdrawal, s₆, -, h₆, rfl⟩ := both_ok h₅
  obtain ⟨risk, s₇, -, h₇, rfl⟩ := both_ok h₆
  cases h₇
  refine ⟨rfl, rfl, rfl, rfl, rfl, rfl, ?_, parseAll_approvals (under_ok happ), rfl, rfl,
    hissues⟩
  refine (elements_ok (under_ok hsnap)).imp ?_
  intro given stored hstored k hk
  exact moduleSnapshot_get env.formats hstored hk

/-- The refinement of the schema, read as what an approved state satisfies. -/
theorem approved_binds {s : ProfessionalModuleState} (h : stateIssues s = [])
    (happ : s.status = .approved) (hcur : s.currentSnapshotId ≠ none) : bindsCurrent s = true := by
  simp only [stateIssues, List.append_eq_nil_iff] at h
  obtain ⟨⟨⟨⟨⟨⟨⟨-, hneed⟩, hbind⟩, -⟩, -⟩, -⟩, -⟩, -⟩ := h
  have hneed := failing_eq_nil hneed
  have hbind := failing_eq_nil hbind
  simp only [happ, true_and, decide_eq_true_eq] at hneed
  simp only [happ, true_and, decide_eq_true_eq] at hbind
  rcases hbind with hnot | hb
  · exact absurd ⟨hneed, hcur⟩ hnot
  · exact hb

end InspectionHub.Domain
