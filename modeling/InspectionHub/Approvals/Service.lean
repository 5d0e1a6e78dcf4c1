import InspectionHub.Lib.Tx
import InspectionHub.Reporting.SnapshotStore

/-!
# The approval service

`InMemoryApprovalService` of `packages/approvals/src/approval-service.ts`,
over the snapshot store and the assignment of inspectors it consults. The
world holds all three: snapshots and assignments change beside the service.

`#state` stores a fresh record for a module it has not met. No reader can tell
such a record from a missing one, which is what `World.state` says.
-/

namespace InspectionHub.Approvals

open Domain Reporting

inductive ApprovalErrorCode where
  | approval_revision_conflict
  | approval_snapshot_stale
  | approval_inspector_not_assigned
  | approval_inspector_ineligible
  | approval_recent_auth_required
  | approval_credential_mismatch
  | approval_module_withdrawn
  | approval_missing_snapshot
deriving DecidableEq

inductive ServiceError where
  /-- `ApprovalError`. -/
  | approval (code : ApprovalErrorCode) (message : String)
  /-- The validation library's error. -/
  | schema (issues : List Issue)
deriving DecidableEq

structure ApprovalRecord extends ModuleApproval where
  snapshotRevision : Int
  credentialVersion : String
  moduleRevision : Nat
deriving DecidableEq

inductive EventType where
  | recorded | invalidated | withdrawn
deriving DecidableEq

structure ApprovalAuditEvent where
  eventId : String
  type : EventType
  key : ModuleSnapshotKey
  moduleRevision : Nat
  snapshotId : String
  approvalId : Option String
  inspectorId : String
  recordedAt : String
  reasonCode : String
deriving DecidableEq

structure ApprovalCommand where
  key : ModuleSnapshotKey
  snapshotId : String
  snapshotHash : String
  expectedModuleRevision : Int
  inspectorId : String
  credentialVersion : String
  recentAuthentication : Bool
  idempotencyKey : String
  approvedAt : String

structure InspectorAuthority where
  assignedInspectorId : String
  eligible : Bool
  credentialVersion : String
deriving DecidableEq

/-- What an idempotency key was used for. -/
structure Receipt where
  fingerprint : String
  approval : ApprovalRecord

structure ModuleApprovalState where
  revision : Nat
  currentApproval : Option ApprovalRecord
  withdrawn : Bool
  withdrawnSnapshotId : Option String
  idempotency : OMap String Receipt

def ModuleApprovalState.fresh : ModuleApprovalState := ⟨0, none, false, none, .empty⟩

/-- The service, and the snapshots and assignments it reads. -/
structure World where
  snapshots : SnapshotStore
  authorities : OMap String InspectorAuthority
  states : OMap String ModuleApprovalState
  events : List ApprovalAuditEvent
  /-- How many identifiers were generated. -/
  ids : Nat

def World.initial : World := ⟨.empty, .empty, .empty, [], 0⟩

/-- The surroundings of the service. -/
structure Surroundings where
  domain : Domain.Env
  /-- The `n`-th identifier `ids()` returns. -/
  ids : Nat → String

variable (env : Surroundings)

abbrev Call (α : Type) := Tx ServiceError World α

def moduleIdentity (key : ModuleSnapshotKey) : String :=
  key.organizationId ++ ":" ++ key.jobId ++ ":" ++ key.module.text

/-- The record of a module, or the one it would start with. -/
def World.state (w : World) (key : ModuleSnapshotKey) : ModuleApprovalState :=
  (w.states.get? (moduleIdentity key)).getD .fresh

/-- `#state(key)`. -/
def state (key : ModuleSnapshotKey) : Call ModuleApprovalState := fun w =>
  match w.states.get? (moduleIdentity key) with
  | some existing => .ok existing w
  | none => .ok .fresh { w with states := w.states.set (moduleIdentity key) .fresh }

/-- The record is mutated in place. -/
def setState (key : ModuleSnapshotKey) (s : ModuleApprovalState) : Call Unit := fun w =>
  .ok () { w with states := w.states.set (moduleIdentity key) s }

/-- `this.ids()`. -/
def nextId : Call String := fun w => .ok (env.ids w.ids) { w with ids := w.ids + 1 }

def pushEvent (e : ApprovalAuditEvent) : Call Unit := fun w =>
  .ok () { w with events := w.events ++ [e] }

/-- `InMemoryInspectorAuthority.getAuthority`. -/
def getAuthority (key : ModuleSnapshotKey) : Call InspectorAuthority := fun w =>
  match w.authorities.get? (moduleIdentity key) with
  | some authority => .ok authority w
  | none => .error (.approval .approval_inspector_not_assigned
      "No inspector is assigned to this module") w

/-- `this.snapshots.getCurrent(key)`. -/
def currentSnapshot (key : ModuleSnapshotKey) : Call (Option JsVal) := fun w =>
  .ok (w.snapshots.getCurrent key) w

/-- The same, with the error of a caller that needs it. -/
def requireSnapshot (key : ModuleSnapshotKey) (message : String) : Call JsVal := fun w =>
  match w.snapshots.getCurrent key with
  | some snapshot => .ok snapshot w
  | none => .error (.approval .approval_missing_snapshot message) w

def approvalFingerprint (command : ApprovalCommand) : String :=
  ":".intercalate [command.key.organizationId, command.key.jobId, command.key.module.text,
    command.snapshotId, command.snapshotHash, toString command.expectedModuleRevision,
    command.inspectorId, command.credentialVersion]

def assertExactSnapshot (snapshot : JsVal) (command : ApprovalCommand) : Call PUnit :=
  Tx.throwIf
    (snapshot.str? "organizationId" ≠ some command.key.organizationId ∨
      snapshot.str? "jobId" ≠ some command.key.jobId ∨
      snapshot.str? "module" ≠ some command.key.module.text ∨
      snapshot.str? "snapshotId" ≠ some command.snapshotId ∨
      snapshot.str? "canonicalHash" ≠ some command.snapshotHash)
    (.approval .approval_snapshot_stale
      "Approval must bind the exact current snapshot identity and hash")

/-- A key that was used before answers with the approval it recorded. -/
def replayApproval (replay : Receipt) (command : ApprovalCommand) : Call ApprovalRecord := do
  Tx.throwIf (replay.fingerprint ≠ approvalFingerprint command)
    (.approval .approval_revision_conflict
      "Approval idempotency key was reused for different content")
  return replay.approval

/-- The checks on who approves. -/
def assertAuthority (authority : InspectorAuthority) (command : ApprovalCommand) : Call PUnit := do
  Tx.throwIf (authority.assignedInspectorId ≠ command.inspectorId)
    (.approval .approval_inspector_not_assigned
      "Only the single assigned inspector can approve this module")
  Tx.throwIf (authority.eligible = false)
    (.approval .approval_inspector_ineligible
      "The assigned inspector is not currently eligible to approve")
  Tx.throwIf (authority.credentialVersion ≠ command.credentialVersion)
    (.approval .approval_credential_mismatch
      "Approval credential version is no longer current")

/-- The approval that is parsed before anything is written. -/
def newApproval (command : ApprovalCommand) (snapshot : JsVal) (approvalId : String) :
    ModuleApproval where
  approvalId := approvalId
  organizationId := command.key.organizationId
  jobId := command.key.jobId
  moduleId := text snapshot "moduleId"
  module := command.key.module
  snapshotId := text snapshot "snapshotId"
  snapshotHash := text snapshot "canonicalHash"
  inspectorId := command.inspectorId
  approvedAt := command.approvedAt

/-- The part of `approve` after the idempotency check. -/
def recordApproval (s : ModuleApprovalState) (command : ApprovalCommand) :
    Call ApprovalRecord := do
  Tx.throwIf ((s.revision : Int) ≠ command.expectedModuleRevision)
    (.approval .approval_revision_conflict
      s!"Expected module revision {command.expectedModuleRevision}, current revision is {s.revision}")
  Tx.throwIf (s.withdrawn = true) (.approval .approval_module_withdrawn
    "A withdrawn module requires a new snapshot before approval")
  Tx.throwIf (command.recentAuthentication = false) (.approval .approval_recent_auth_required
    "Approval requires refreshed authentication")
  let authority ← getAuthority command.key
  assertAuthority authority command
  let snapshot ← requireSnapshot command.key "No current immutable module snapshot exists"
  assertExactSnapshot snapshot command
  Tx.throwIf
    (snapshot.strAt? ["inspector", "inspectorId"] ≠ some command.inspectorId ∨
      snapshot.strAt? ["inspector", "credentialVersion"] ≠ some command.credentialVersion)
    (.approval .approval_credential_mismatch
      "Snapshot inspector attribution does not match this approval authority")
  let moduleRevision := s.revision + 1
  let approvalId ← nextId env
  let parsed ← Tx.ofExcept
    (((newApproval command snapshot approvalId).parse env.domain).mapError .schema)
  let approval : ApprovalRecord :=
    { toModuleApproval := parsed
      snapshotRevision := (snapshot.int? "revision").getD 0
      credentialVersion := command.credentialVersion
      moduleRevision }
  setState command.key { s with
    revision := moduleRevision
    currentApproval := some approval
    idempotency := s.idempotency.set command.idempotencyKey
      { fingerprint := approvalFingerprint command, approval } }
  let eventId ← nextId env
  pushEvent
    { eventId, type := .recorded, key := command.key, moduleRevision
      snapshotId := text snapshot "snapshotId", approvalId := some approval.approvalId
      inspectorId := command.inspectorId, recordedAt := command.approvedAt
      reasonCode := "exact_snapshot_approved" }
  return approval

def approve (command : ApprovalCommand) : Call ApprovalRecord := do
  let s ← state command.key
  match s.idempotency.get? command.idempotencyKey with
  | some replay => replayApproval replay command
  | none => recordApproval env s command

structure SnapshotEdit where
  key : ModuleSnapshotKey
  expectedModuleRevision : Int
  priorSnapshotId : String
  newSnapshotId : String
  inspectorId : String
  recordedAt : String

def invalidateForSnapshotEdit (input : SnapshotEdit) : Call Nat := do
  let s ← state input.key
  Tx.throwIf ((s.revision : Int) ≠ input.expectedModuleRevision)
    (.approval .approval_revision_conflict
      "Module changed before approval invalidation was recorded")
  let current ← currentSnapshot input.key
  Tx.throwIf
    (current.bind (·.str? "snapshotId") ≠ some input.newSnapshotId ∨
      (current.bind (·.int? "revision")).any (· < 1))
    (.approval .approval_snapshot_stale "Invalidation must name the exact new current snapshot")
  Tx.throwIf (s.currentApproval.any (·.snapshotId ≠ input.priorSnapshotId))
    (.approval .approval_snapshot_stale "The current approval is not for the edited snapshot")
  let revision := s.revision + 1
  setState input.key { s with
    revision, currentApproval := none, withdrawn := false, withdrawnSnapshotId := none }
  let eventId ← nextId env
  pushEvent
    { eventId, type := .invalidated, key := input.key, moduleRevision := revision
      snapshotId := input.newSnapshotId, approvalId := s.currentApproval.map (·.approvalId)
      inspectorId := input.inspectorId, recordedAt := input.recordedAt
      reasonCode := "module_snapshot_edited" }
  return revision

structure Withdrawal where
  key : ModuleSnapshotKey
  expectedModuleRevision : Int
  inspectorId : String
  recentAuthentication : Bool
  recordedAt : String
  reasonCode : String

def withdraw (input : Withdrawal) : Call Nat := do
  let s ← state input.key
  Tx.throwIf ((s.revision : Int) ≠ input.expectedModuleRevision)
    (.approval .approval_revision_conflict "Module revision changed before withdrawal")
  Tx.throwIf (input.recentAuthentication = false)
    (.approval .approval_recent_auth_required "Withdrawal requires refreshed authentication")
  let authority ← getAuthority input.key
  Tx.throwIf (authority.assignedInspectorId ≠ input.inspectorId)
    (.approval .approval_inspector_not_assigned
      "Only the assigned signing inspector may withdraw the module")
  let snapshot ← requireSnapshot input.key "No current snapshot exists to withdraw"
  let revision := s.revision + 1
  let snapshotId := text snapshot "snapshotId"
  setState input.key { s with
    revision, currentApproval := none, withdrawn := true, withdrawnSnapshotId := some snapshotId }
  let eventId ← nextId env
  pushEvent
    { eventId, type := .withdrawn, key := input.key, moduleRevision := revision, snapshotId
      approvalId := s.currentApproval.map (·.approvalId)
      inspectorId := input.inspectorId, recordedAt := input.recordedAt
      reasonCode := input.reasonCode }
  return revision

def reopenWithNewSnapshot (key : ModuleSnapshotKey) : Call Unit := do
  let s ← state key
  let current ← requireSnapshot key
    "A new current snapshot is required to reopen a withdrawn module"
  Tx.throwIf
    (s.withdrawn = false ∨ s.withdrawnSnapshotId = none ∨
      current.str? "snapshotId" = s.withdrawnSnapshotId)
    (.approval .approval_snapshot_stale
      "Reopening a withdrawn module requires a new replacement snapshot")
  setState key { s with
    revision := s.revision + 1, currentApproval := none, withdrawn := false
    withdrawnSnapshotId := none }

def getCurrentApproval (key : ModuleSnapshotKey) : Call (Option ApprovalRecord) := do
  let s ← state key
  return s.currentApproval

def getRevision (key : ModuleSnapshotKey) : Call Nat := do
  let s ← state key
  return s.revision

def isWithdrawn (key : ModuleSnapshotKey) : Call Bool := do
  let s ← state key
  return s.withdrawn

end InspectionHub.Approvals
