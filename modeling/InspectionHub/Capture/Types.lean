import InspectionHub.Inspection.Investigation

/-!
# What a capture ledger holds

`apps/mobile/src/capture/types.ts` and `apps/mobile/src/sync/queue-machine.ts`.
Fields whose type has one value (the `evidenceRole` of an intent, the
`immutable` of an artifact) are left out. Two records whose `JSON.stringify`
is compared list their properties in one order, so their texts agree when the
records do.
-/

namespace InspectionHub.Capture

open Domain (ModuleType)

inductive CaptureKind where
  | photo
  | voice
deriving DecidableEq

inductive QueueLane where
  | manual_note_sync
  | photo_upload
  | voice_upload
deriving DecidableEq

inductive CaptureIntentState where
  | acknowledged
  | durable
  | evidence_at_risk
  | failed
  | pending
  | quarantined
deriving DecidableEq

structure CaptureIntent where
  areaId : String
  captureId : String
  capturedAt : String
  deviceId : String
  failureCode : Option String
  jobId : String
  kind : CaptureKind
  sequence : ℚ
  state : CaptureIntentState
deriving DecidableEq

inductive DirectorySync where
  | synced
  | unsupported
deriving DecidableEq

/-- The lanes an artifact is uploaded in. -/
inductive UploadLane where
  | photo_upload
  | voice_upload
deriving DecidableEq

def UploadLane.lane : UploadLane → QueueLane
  | .photo_upload => .photo_upload
  | .voice_upload => .voice_upload

structure DurableArtifact where
  byteLength : ℚ
  captureId : String
  directorySync : DirectorySync
  fileUri : String
  queueLane : UploadLane
  sha256 : String
deriving DecidableEq

inductive CaptureQueueState where
  | blocked_revoked
  | blocked_session
  | failed
  | pending
  | server_durable
  | uploading
deriving DecidableEq

structure CaptureQueueItem where
  captureId : String
  lane : QueueLane
  state : CaptureQueueState
deriving DecidableEq

structure ManualNote where
  areaId : String
  jobId : String
  noteId : String
  recordedAt : String
  text : String
deriving DecidableEq

inductive LocalCaptureEventType where
  | artifact_committed
  | capture_intent_reserved
  | capture_intent_state_changed
  | manual_note_recorded
  | queue_enqueued
  | queue_state_changed
deriving DecidableEq

structure LocalCaptureEvent where
  captureId : String
  code : Option String
  ordinal : Nat
  type : LocalCaptureEventType
deriving DecidableEq

inductive InteractionType where
  | shutter_acknowledgement
  | voice_start
deriving DecidableEq

/-- A latency `none` is a `NaN` or an infinity. -/
structure CapturePerformanceSample where
  captureId : String
  interactionLatencyMs : Option ℚ
  interactionType : InteractionType
  kind : CaptureKind
  localDurableSaveMs : Option ℚ
  recordedAt : String
deriving DecidableEq

/-! ## The field session -/

inductive FieldDeliveryState where
  | cancelled
  | failed
  | provider_accepted
  | queued
  | sending
  | sent
  | unknown
  | waiting_for_approval
  | waiting_for_evidence
deriving DecidableEq

inductive WorkflowTransition where
  | delivery_state_changed
  | investigation_completed
  | investigation_paused
  | investigation_reconciled
  | investigation_resumed
  | investigation_started
  | module_approved
  | package_confirmed
  | review_changed
  | workflow_initialized
deriving DecidableEq

inductive ReviewStatus where
  | accepted
  | awaiting_decision
  | rejected
  | stale
deriving DecidableEq

/-- `content` is the finding, its provenance, the checks and what else a stored
review item carries along. -/
structure ReviewItem where
  reviewId : String
  investigationId : String
  module : ModuleType
  status : ReviewStatus
  content : JsVal
deriving DecidableEq

/-- The investigation status `none` is the source's `"none"`. -/
structure FieldWorkflowSnapshot where
  approvedModules : List ModuleType
  deliveryState : FieldDeliveryState
  investigationStatus : Option Inspection.InvestigationStatus
  lastTransition : WorkflowTransition
  packageManifestSha256 : Option String
  reviewItems : List ReviewItem
  revision : ℚ
  updatedAt : String
deriving DecidableEq

inductive DeviceState where
  | enrolled
  | lost
  | revoked
deriving DecidableEq

inductive SessionState where
  | expired
  | valid
deriving DecidableEq

structure FieldSessionSnapshot where
  activeInvestigationId : Option String
  areaId : String
  cachedAssignedJobIds : List String
  deviceId : String
  deviceState : DeviceState
  jobId : String
  lastInvestigationId : Option String
  nextSequence : ℚ
  session : SessionState
  updatedAt : String
  workflow : Option FieldWorkflowSnapshot
deriving DecidableEq

/-! ## The queue machine -/

inductive QueueEvent where
  | begin_upload
  | block_revoked
  | block_session
  | confirm_server_durable
  | fail
  | retry
deriving DecidableEq

def QueueEvent.text : QueueEvent → String
  | .begin_upload => "begin_upload"
  | .block_revoked => "block_revoked"
  | .block_session => "block_session"
  | .confirm_server_durable => "confirm_server_durable"
  | .fail => "fail"
  | .retry => "retry"

/-- `queueTransitions[state][event]`. -/
def queueTransitions : CaptureQueueState → QueueEvent → Option CaptureQueueState
  | .blocked_session, .retry => some .pending
  | .failed, .retry => some .pending
  | .pending, .begin_upload => some .uploading
  | .pending, .block_revoked => some .blocked_revoked
  | .pending, .block_session => some .blocked_session
  | .pending, .fail => some .failed
  | .uploading, .block_revoked => some .blocked_revoked
  | .uploading, .block_session => some .blocked_session
  | .uploading, .confirm_server_durable => some .server_durable
  | .uploading, .fail => some .failed
  | .uploading, .retry => some .pending
  | _, _ => none

def CaptureQueueState.text : CaptureQueueState → String
  | .blocked_revoked => "blocked_revoked"
  | .blocked_session => "blocked_session"
  | .failed => "failed"
  | .pending => "pending"
  | .server_durable => "server_durable"
  | .uploading => "uploading"

/-! ## Errors -/

inductive LedgerError where
  /-- `Error`. -/
  | error (message : String)
  /-- The database rejects a statement: the constraint that fails. -/
  | constraint (name : String)
  /-- The storage fails before a transaction commits. -/
  | storage
deriving DecidableEq

/-- Throw unless `p`. -/
def check (p : Prop) [Decidable p] (e : LedgerError) : Except LedgerError Unit :=
  if p then .ok () else .error e

theorem check_ok {p : Prop} [Decidable p] {e : LedgerError} {u : Unit}
    (h : check p e = .ok u) : p := by
  unfold check at h
  split at h
  · assumption
  · cases h

theorem check_of {p : Prop} [Decidable p] (h : p) (e : LedgerError) : check p e = .ok () :=
  if_pos h

/-- `transitionQueueState(state, event)`. -/
def transitionQueueState (state : CaptureQueueState) (event : QueueEvent) :
    Except LedgerError CaptureQueueState :=
  match queueTransitions state event with
  | some next => .ok next
  | none =>
      .error (.error ("Invalid queue transition: " ++ state.text ++ " -> " ++ event.text))

end InspectionHub.Capture
