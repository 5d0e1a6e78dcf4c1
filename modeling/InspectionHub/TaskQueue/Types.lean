import InspectionHub.Lib.Js
import InspectionHub.Lib.OMap

/-!
# Durable task records

The task record, its events and the lease command, as
`packages/task-queue/src/types.ts` declares them. Optional fields are
`Option`; counters are `Nat`.
-/

namespace InspectionHub.TaskQueue

inductive TaskState where
  | queued | running | retryWait | succeeded | unknown | deadLetter | superseded | cancelled
deriving DecidableEq, Repr

structure EnqueueTask where
  taskId : Option String := none
  organizationId : String
  taskType : String
  aggregateType : String
  aggregateId : String
  idempotencyKey : String
  requestFingerprint : String
  payloadArtifactId : Option String := none
  dependencyTaskIds : Option (List String) := none
  packetId : Option String := none
  packetRevision : Option ℚ := none
  maxAttempts : Option ℚ := none
  availableAt : Option String := none

structure TaskCheckpoint where
  checkpointId : String
  name : String
  artifactRefs : List String
  metadataHashes : List String
  recordedAt : String
deriving DecidableEq

structure AsyncTaskRecord where
  taskId : String
  organizationId : String
  taskType : String
  aggregateType : String
  aggregateId : String
  idempotencyKey : String
  requestFingerprint : String
  payloadArtifactId : Option String
  dependencyTaskIds : List String
  packetId : Option String
  packetRevision : Option ℚ
  state : TaskState
  attemptCount : Nat
  maxAttempts : Nat
  availableAt : String
  leaseGeneration : Nat
  leaseToken : Option String
  leasedBy : Option String
  leasedUntil : Option String
  heartbeatAt : Option String
  resultArtifactId : Option String
  lastErrorCode : Option String
  supersededByRevision : Option ℚ
  unknownReconciliationHash : Option String
  checkpoints : List TaskCheckpoint
  createdAt : String
  updatedAt : String
deriving DecidableEq

structure TaskLease where
  task : AsyncTaskRecord
  generation : Nat
  leaseToken : String
  leasedUntil : String
deriving DecidableEq

/-- What a worker presents with every call under its lease. -/
structure LeaseCommand where
  taskId : String
  generation : Nat
  leaseToken : String
deriving DecidableEq, Repr

inductive ToolPhase where
  | requested | started | result
deriving DecidableEq, Repr

inductive EventType where
  | taskEnqueued | taskReplayed | taskLeased | taskHeartbeat | taskCheckpoint
  | taskRetryScheduled | taskCompleted | taskUnknown | taskDeadLettered
  | taskSuperseded | taskCancelled
  | tool (phase : ToolPhase)
deriving DecidableEq, Repr

/-- A `safeMetadata` value. -/
inductive Meta where
  | str (s : String)
  | num (n : ℚ)
  | bool (b : Bool)
deriving DecidableEq

structure SafeTaskEvent where
  eventId : String
  taskId : String
  organizationId : String
  eventType : EventType
  safeMetadata : List (String × Meta)
  recordedAt : String
deriving DecidableEq

/-- The lease command a worker builds from the lease it was given. -/
def TaskLease.command (l : TaskLease) : LeaseCommand :=
  { taskId := l.task.taskId, generation := l.generation, leaseToken := l.leaseToken }

end InspectionHub.TaskQueue
