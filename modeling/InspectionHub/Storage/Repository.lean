import InspectionHub.Lib.Throwing
import InspectionHub.Storage.Types

/-!
# The sync repository

`InMemorySyncRepository` of `packages/storage/src/repository.ts`. A commit is
one critical section: the task sink is asked first, and what follows cannot
fail.
-/

namespace InspectionHub.Storage

open Throwing

universe u

def captureKey (organizationId captureId : String) : String :=
  organizationId ++ ":" ++ captureId

def DurableArtifactRecord.captureKey (artifact : DurableArtifactRecord) : String :=
  Storage.captureKey artifact.organizationId artifact.captureId

structure InMemorySyncRepository where
  artifacts : Table String DurableArtifactRecord (·.artifactId) := .empty
  captureIndex : Table String DurableArtifactRecord DurableArtifactRecord.captureKey := .empty
  storageIndex : Table String DurableArtifactRecord DurableArtifactRecord.storageKey := .empty
  receipts : List String := []
  assessments : Table String ContentAssessment ContentAssessment.artifactId := .empty
  proxies : Table String SafeProxyRecord SafeProxyRecord.artifactId := .empty
  events : List SafeSyncEvent := []
  outbox : List SyncOutboxRecord := []
  duplicateKeys : List String := []
  unknownProviderKeys : List String := []
  deletionSuppressions : List String := []

/-- `set.add(key)`. -/
def addKey (keys : List String) (key : String) : List String :=
  if key ∈ keys then keys else keys ++ [key]

/-- The queue a repository hands its tasks to, with the state the queue is in. -/
abbrev TaskSink (τ : Type u) :=
  DurabilityTaskIntent → τ → Except String DurabilityTaskReceipt × τ

structure DurabilityInput where
  descriptor : UploadDescriptor
  storageKey : String
  objectVersion : String
  observedSha256 : String
  observedByteLength : Nat
deriving DecidableEq

def DurabilityInput.captureKey (input : DurabilityInput) : String :=
  Storage.captureKey input.descriptor.organizationId input.descriptor.captureId

namespace InMemorySyncRepository

variable (env : Env) (repository : InMemorySyncRepository)

def appendEvent (eventId : String) (recordedAt : Int) (organizationId aggregateId : String)
    (eventType : SyncEventType) (safeMetadata : List (String × Meta)) :
    InMemorySyncRepository :=
  { repository with
    events := repository.events ++ [{
      eventId, organizationId, aggregateId, eventType, safeMetadata
      recordedAt := env.host.toISOString recordedAt }] }

/-! ## Durability -/

/-- The row of a capture that is committed. -/
def newArtifact (fresh : Fresh) (input : DurabilityInput) : DurableArtifactRecord :=
  { toUploadDescriptor := input.descriptor
    storageKey := input.storageKey
    objectVersion := input.objectVersion
    observedAt := env.host.toISOString (fresh.now 0) }

def taskIntent (artifact : DurableArtifactRecord) : DurabilityTaskIntent where
  organizationId := artifact.organizationId
  taskType := "content.validate_and_proxy"
  aggregateType := "artifact"
  aggregateId := artifact.artifactId
  idempotencyKey := "content:" ++ artifact.artifactId
  requestFingerprint := artifact.sha256

/-- The outbox message of a committed row. -/
def outboxRecord (fresh : Fresh) (artifact : DurableArtifactRecord)
    (taskReceipt : Option DurabilityTaskReceipt) : SyncOutboxRecord where
  outboxId := fresh.randomUUID 1
  organizationId := artifact.organizationId
  aggregateId := artifact.artifactId
  idempotencyKey := "content:" ++ artifact.artifactId
  requestFingerprint := artifact.sha256
  taskId := taskReceipt.map DurabilityTaskReceipt.taskId
  state := if taskReceipt.isNone then .pendingDispatch else .observedSuccess
  observedResult := if taskReceipt.isNone then .taskSinkUnbound else .taskEnqueuedAtomically
  createdAt := env.host.toISOString (fresh.now 2)

/-- The writes of a commit, after the sink has answered. -/
def record (fresh : Fresh) (input : DurabilityInput)
    (taskReceipt : Option DurabilityTaskReceipt) : InMemorySyncRepository :=
  let artifact := newArtifact env fresh input
  let repository := { repository with
    artifacts := repository.artifacts.put artifact
    captureIndex := repository.captureIndex.put artifact
    storageIndex := repository.storageIndex.put artifact
    receipts := addKey repository.receipts artifact.artifactId }
  let repository := repository.appendEvent env (fresh.randomUUID 0) (fresh.now 1)
    artifact.organizationId artifact.artifactId .durabilityVerified
    [("byteLength", .num artifact.byteLength), ("objectVersion", .str artifact.objectVersion),
      ("sha256", .str artifact.sha256)]
  { repository with
    outbox := repository.outbox ++ [outboxRecord env fresh artifact taskReceipt] }

variable {τ : Type u}

def commitVerifiedDurability (enqueueTask : Option (TaskSink τ)) (fresh : Fresh)
    (input : DurabilityInput) (tasks : τ) :
    Except String DurabilityCommitResult × InMemorySyncRepository × τ :=
  match repository.captureIndex.get? input.captureKey with
  | some existing =>
      if existing.sha256 ≠ input.observedSha256 ∨
          existing.byteLength ≠ input.observedByteLength then
        (.ok ⟨.hashDivergence, existing⟩,
          repository.appendEvent env (fresh.randomUUID 0) (fresh.now 0) existing.organizationId
            existing.artifactId .hashDivergence [("captureId", .str existing.captureId)], tasks)
      else
        let repository := { repository with
          duplicateKeys := addKey repository.duplicateKeys existing.storageKey }
        (.ok ⟨.duplicateAttempt, existing⟩,
          repository.appendEvent env (fresh.randomUUID 0) (fresh.now 0) existing.organizationId
            existing.artifactId .duplicateAttempt [("captureId", .str existing.captureId)], tasks)
  | none =>
      if (repository.artifacts.get? input.descriptor.artifactId).isSome then
        (.error "Artifact identity already belongs to another capture", repository, tasks)
      else
        let artifact := newArtifact env fresh input
        match enqueueTask with
        | none => (.ok ⟨.recorded, artifact⟩, repository.record env fresh input none, tasks)
        | some enqueueTask =>
            match enqueueTask (taskIntent artifact) tasks with
            | (.error e, tasks) => (.error e, repository, tasks)
            | (.ok taskReceipt, tasks) =>
                (.ok ⟨.recorded, artifact⟩,
                  repository.record env fresh input (some taskReceipt), tasks)

/-! ## Assessments -/

/-- Whether a proxy derives from `original`, as far as its row says. -/
def ProxyProvenance (original : DurableArtifactRecord) (proxy : SafeProxyRecord) : Prop :=
  proxy.parentArtifactId = original.artifactId ∧ proxy.parentSha256 = original.sha256 ∧
    proxy.organizationId = original.organizationId

instance (original : DurableArtifactRecord) (proxy : SafeProxyRecord) :
    Decidable (ProxyProvenance original proxy) :=
  inferInstanceAs (Decidable (_ ∧ _ ∧ _))

/-- The event of an assessment. -/
def assessmentEvent (assessment : ContentAssessment) : SyncEventType × List (String × Meta) :=
  match assessment.state with
  | .accepted => (.contentAccepted, [("decoderVersion", .str assessment.decoderVersion)])
  | .rejected =>
      (.contentRejected, [("decoderVersion", .str assessment.decoderVersion),
        ("reasonCode", .str (assessment.reasonCode.getD "unspecified"))])

def recordAssessment (fresh : Fresh) (assessment : ContentAssessment)
    (proxy : Option SafeProxyRecord) : Except String InMemorySyncRepository := do
  throwIf (repository.assessments.get? assessment.artifactId).isSome
    "Content assessment is append-only and already exists"
  let some original := repository.artifacts.get? assessment.artifactId
    | throw "Assessment must reference a tenant-owned durable original"
  throwIf (original.organizationId ≠ assessment.organizationId)
    "Assessment must reference a tenant-owned durable original"
  throwIf (assessment.state = .accepted ∧ proxy = none)
    "Accepted content requires a safe proxy"
  throwIf (assessment.state = .rejected ∧ proxy ≠ none)
    "Rejected content cannot have a safe proxy"
  throwIf (proxy.any fun proxy => ¬ ProxyProvenance original proxy)
    "Safe proxy provenance does not match the original"
  let repository := { repository with
    assessments := repository.assessments.put assessment
    proxies := proxy.elim repository.proxies repository.proxies.put }
  let (eventType, safeMetadata) := assessmentEvent assessment
  return repository.appendEvent env (fresh.randomUUID 0) (fresh.now 0)
    assessment.organizationId assessment.artifactId eventType safeMetadata

/-! ## Reads and observations -/

def artifactByStorageKey (key : String) : Option DurableArtifactRecord :=
  repository.storageIndex.get? key

def hasDurabilityReceipt (artifactId : String) : Bool := artifactId ∈ repository.receipts

def proxyByStorageKey (key : String) : Option SafeProxyRecord :=
  repository.proxies.values.find? fun proxy => proxy.storageKey = key

def recordUnknownProvider (key : String) : InMemorySyncRepository :=
  { repository with unknownProviderKeys := addKey repository.unknownProviderKeys key }

end InMemorySyncRepository

end InspectionHub.Storage
