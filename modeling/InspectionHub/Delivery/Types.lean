import InspectionHub.Lib.Canonical
import InspectionHub.Lib.OMap

/-!
# Delivery records

Packages, their send messages and audit events, as
`packages/delivery/src/types.ts` declares them, and what delivery reads of
snapshots, approvals and the professional status of a job.
-/

namespace InspectionHub.Delivery

inductive ModuleType where
  | building | timberPest
deriving DecidableEq, Repr

def ModuleType.text : ModuleType → String
  | .building => "building"
  | .timberPest => "timber_pest"

inductive DurabilityEntryStatus where
  | verified | missing | quarantined | checksumMismatch
deriving DecidableEq, Repr

def DurabilityEntryStatus.text : DurabilityEntryStatus → String
  | .verified => "verified"
  | .missing => "missing"
  | .quarantined => "quarantined"
  | .checksumMismatch => "checksum_mismatch"

structure DurabilityManifestEntry where
  artifactId : String
  contentHash : String
  byteLength : Int
  requiredOriginal : Bool
  status : DurabilityEntryStatus
  verifiedAt : Option String
deriving DecidableEq

structure DurabilityManifest where
  manifestId : String
  organizationId : String
  jobId : String
  revision : Int
  entries : List DurabilityManifestEntry
  canonicalHash : String
deriving DecidableEq

structure FrozenModuleReference where
  module : ModuleType
  moduleId : String
  snapshotId : String
  snapshotHash : String
  snapshotRevision : Int
  approvalId : String
  approvalModuleRevision : Int
deriving DecidableEq

inductive DeliveryState where
  | waitingForApproval | waitingForEvidence | queued | sending | providerAccepted
  | sent | failed | unknown | cancelled
deriving DecidableEq, Repr

def DeliveryState.text : DeliveryState → String
  | .waitingForApproval => "waiting_for_approval"
  | .waitingForEvidence => "waiting_for_evidence"
  | .queued => "queued"
  | .sending => "sending"
  | .providerAccepted => "provider_accepted"
  | .sent => "sent"
  | .failed => "failed"
  | .unknown => "unknown"
  | .cancelled => "cancelled"

structure DeliveryPackageRecord where
  packageId : String
  organizationId : String
  jobId : String
  commissionedModules : List ModuleType
  moduleSnapshots : List FrozenModuleReference
  durabilityManifestId : String
  durabilityManifestHash : String
  revision : Int
  state : DeliveryState
  idempotencyKey : String
  frozenAt : Option String
  updatedAt : String
  providerReference : Option String
  failureCode : Option String
  interventionRequired : Bool
  cancellationReason : Option String
deriving DecidableEq

inductive OutboxState where
  | queued | processing | completed | cancelled
deriving DecidableEq, Repr

structure DeliveryOutboxRecord where
  outboxId : String
  packageId : String
  organizationId : String
  jobId : String
  state : OutboxState
  idempotencyKey : String
  requestFingerprint : String
  createdAt : String
  updatedAt : String
deriving DecidableEq

inductive EventType where
  | waitingForApproval | waitingForEvidence | packageFrozen | sendStarted | providerAccepted
  | sent | failed | unknown | cancelled
deriving DecidableEq, Repr

structure DeliveryAuditEvent where
  eventId : String
  packageId : String
  organizationId : String
  jobId : String
  type : EventType
  packageRevision : Int
  recordedAt : String
  safeMetadata : Fields
deriving DecidableEq

structure DeliveryProviderRequest where
  packageId : String
  organizationId : String
  jobId : String
  idempotencyKey : String
  requestFingerprint : String
deriving DecidableEq

inductive DeliveryProviderResult where
  | accepted (providerReference : String)
  | sent (providerReference : String)
  | failed (code : String) (retryable : Bool)
  | unknown (reconciliationKey : String)
deriving DecidableEq

structure ProfessionalDeliveryStatus where
  jobCancelled : Bool
  withdrawnModules : List ModuleType
deriving DecidableEq

/-- `readStatus`, by organisation and job. -/
abbrev ProfessionalDeliveryStatusPort := String → String → ProfessionalDeliveryStatus

inductive DeliveryError where
  | conflict (message : String)
  | gate (code message : String)
  | other (message : String)
deriving DecidableEq

/-! ## What delivery reads elsewhere -/

structure ModuleSnapshotKey where
  organizationId : String
  jobId : String
  module : ModuleType
deriving DecidableEq

structure ModuleSnapshot where
  module : ModuleType
  moduleId : String
  snapshotId : String
  canonicalHash : String
  revision : Int
  evidenceHashes : List String
deriving DecidableEq

structure ApprovalRecord where
  approvalId : String
  snapshotId : String
  snapshotHash : String
  snapshotRevision : Int
  moduleRevision : Int
deriving DecidableEq

/-- The snapshot and approval readers a `confirm` consults. -/
structure Readers where
  getCurrent : ModuleSnapshotKey → Option ModuleSnapshot
  getCurrentApproval : ModuleSnapshotKey → Option ApprovalRecord
  isWithdrawn : ModuleSnapshotKey → Bool

end InspectionHub.Delivery
