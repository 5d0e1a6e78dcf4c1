import InspectionHub.Database.Artifacts
import InspectionHub.Database.AsyncTasks

/-!
# Recording durable artifacts

`record_verified_artifact_durability` of `20260715000500_u6_evidence_async.sql`
and the tables it writes: `artifacts` and `artifact_durability_receipts`,
`session_events`, `async_tasks`, `outbox_records` and
`artifact_reconciliation_observations`.

Any argument may be null. A condition on a null is unknown and raises nothing;
what it lets through, a column that is not null refuses.
-/

namespace InspectionHub.Database

/-! ## Rows -/

structure OutboxRecord where
  organizationId : Uuid
  asyncTaskId : Uuid
  destination : String
  action : String
  aggregateType : String
  aggregateId : Uuid
  idempotencyKey : String
  requestFingerprint : String
  state : String
  providerObservationRef : String
deriving DecidableEq

/-- `unique (organization_id, idempotency_key)` -/
def OutboxRecord.clash (a b : OutboxRecord) : Prop :=
  a.organizationId = b.organizationId ∧ a.idempotencyKey = b.idempotencyKey

instance : DecidableRel OutboxRecord.clash := fun _ _ => inferInstanceAs (Decidable (_ ∧ _))

inductive ReconciliationState where
  | divergent_checksum | duplicate_attempt
deriving DecidableEq

structure ArtifactReconciliationObservation where
  organizationId : Uuid
  artifactId : Uuid
  storageKey : String
  reconciliationState : ReconciliationState
  safeDetailCode : String

/-- The check constraints of `artifacts`. -/
def Artifact.checked (a : Artifact) : Bool :=
  decide (0 < a.captureSequence) && Js.isHexDigest a.contentSha256 && decide (0 ≤ a.byteSize) &&
    decide (trimmedWithin 1 160 a.mediaType) && decide (trimmedWithin 1 1024 a.storageKey)

/-- The check constraints of `artifact_durability_receipts`. -/
def ArtifactDurabilityReceipt.checked (r : ArtifactDurabilityReceipt) : Bool :=
  Js.isHexDigest r.observedSha256 && decide (0 ≤ r.observedByteSize)

structure DurabilityTables where
  /-- Other commands write the jobs. -/
  jobs : Sql.Table Job Job.clash
  artifacts : Sql.Table Artifact Artifact.clash
  artifactDurabilityReceipts :
    Sql.Table ArtifactDurabilityReceipt ArtifactDurabilityReceipt.clash
  sessionEvents : SessionEventTable
  asyncTasks : AsyncTaskTable
  outboxRecords : Sql.Table OutboxRecord OutboxRecord.clash
  artifactReconciliationObservations : List ArtifactReconciliationObservation

/-! ## The request -/

structure RecordDurability where
  organizationId : Option Uuid
  jobId : Option Uuid
  artifactId : Option Uuid
  captureId : Option Uuid
  captureSequence : Option Int
  artifactKind : Option String
  expectedSha256 : Option String
  expectedByteSize : Option Int
  expectedMediaType : Option String
  storageKey : Option String
  capturedAt : Option Int
  captureArea : Option String
  deviceId : Option Uuid
  observedSha256 : Option String
  observedByteSize : Option Int
  observedObjectVersion : Option String
  objectIsReadable : Option Bool
  durabilityIdempotencyKey : Option String

/-- What a call generates. -/
structure DurabilityCall where
  durabilityEventId : Uuid
  taskId : Uuid
  taskEventId : Uuid
  now : Int

inductive DurabilityResult where
  | recorded | hash_divergence | duplicate_attempt
deriving DecidableEq

/-- `quarantine/<organization>/<job>/<capture>/<artifact>.` -/
def stagingPath (organizationId jobId captureId artifactId : String) : String :=
  "quarantine/" ++ organizationId ++ "/" ++ jobId ++ "/" ++ captureId ++ "/" ++ artifactId ++ "."

/-- `expected_prefix` -/
def RecordDurability.expectedPrefix (c : RecordDurability) : String :=
  stagingPath (uuidText c.organizationId) (uuidText c.jobId) (uuidText c.captureId)
    (uuidText c.artifactId)

/-- `position('..' in key) > 0` -/
def climbs (key : String) : Prop := ['.', '.'] <:+: key.toList

instance (key : String) : Decidable (climbs key) := inferInstanceAs (Decidable (_ <:+: _))

/-- The checks of the arguments alone. -/
def RecordDurability.check (c : RecordDurability) : Except Sql.Error Unit := do
  Sql.raiseIf (Sql.anyTrue [
      c.objectIsReadable.map not, c.expectedSha256.map fun t => !Js.isHexDigest t,
      some (c.observedSha256 ≠ c.expectedSha256), some (c.observedByteSize ≠ c.expectedByteSize),
      c.expectedByteSize.map fun n => n ≤ 0,
      c.observedObjectVersion.map fun t => btrim t = ""]) "23514"
    "independent durability observation does not match the upload descriptor"
  Sql.raiseIf (Sql.anyTrue [
      c.storageKey.map fun key => !Sql.like key.toList (c.expectedPrefix.toList ++ ['%']),
      c.storageKey.map fun key => climbs key]) "23514"
    "storage key is outside the tenant/job/capture staging path"

/-- The row of a new artifact, no column of it null that may not be. -/
def RecordDurability.artifact (c : RecordDurability) : Except Sql.Error Artifact := do
  let id ← Sql.notNull "id" c.artifactId
  let organizationId ← Sql.notNull "organization_id" c.organizationId
  let jobId ← Sql.notNull "job_id" c.jobId
  let captureId ← Sql.notNull "capture_id" c.captureId
  let captureSequence ← Sql.notNull "capture_sequence" c.captureSequence
  let artifactKind ← Sql.notNull "artifact_kind" c.artifactKind
  let contentSha256 ← Sql.notNull "content_sha256" c.observedSha256
  let byteSize ← Sql.notNull "byte_size" c.observedByteSize
  let mediaType ← Sql.notNull "media_type" c.expectedMediaType
  let storageKey ← Sql.notNull "storage_key" c.storageKey
  let capturedAt ← Sql.notNull "captured_at" c.capturedAt
  let some artifactKind := ArtifactKind.ofText? artifactKind
    | throw ⟨"23514", "artifacts_artifact_kind_check"⟩
  return ⟨id, organizationId, jobId, captureId, captureSequence, artifactKind, contentSha256,
    byteSize, mediaType, storageKey, c.captureArea, capturedAt, c.deviceId, .pending⟩

/-! ## Rows of an artifact -/

/-- `artifact.durability_verified`, at the head of the artifact's stream. -/
def durabilityEvent (call : DurabilityCall) (key : Option String) (a : Artifact)
    (objectVersion : String) (stream : List SessionEvent) : SessionEvent where
  id := call.durabilityEventId
  organizationId := a.organizationId
  aggregateType := "artifact"
  aggregateId := a.id
  aggregateVersion := Sql.maxOf (stream.map SessionEvent.aggregateVersion) + 1
  sessionId := none
  eventType := "artifact.durability_verified"
  actorId := none
  clientOccurredAt := none
  recordedAt := call.now
  idempotencyKey := key
  safeMetadata := .obj [("sha256", .str a.contentSha256), ("byte_size", .num (.int a.byteSize)),
    ("storage_scope", .str "tenant_quarantine"), ("object_version", .str objectVersion)]
  protectedArtifactRefs := [a.id]
  correlationId := none
  causationId := none
  schemaVersion := 1
  payloadSha256 := a.contentSha256
  previousEventSha256 := (headOf stream).map SessionEvent.eventSha256
  checkpointEventId := none
  eventSha256 := placeholderSha

/-- The content task of an artifact. -/
def contentTask (call : DurabilityCall) (a : Artifact) : AsyncTask where
  id := call.taskId
  organizationId := a.organizationId
  taskType := "content.validate_and_proxy"
  aggregateType := "artifact"
  aggregateId := a.id
  idempotencyKey := "content:" ++ a.id.text
  requestFingerprint := a.contentSha256
  state := .queued
  attemptCount := 0
  maxAttempts := 5
  availableAt := call.now
  leaseGeneration := 0
  leaseToken := none
  leasedBy := none
  leasedUntil := none
  heartbeatAt := none
  resultArtifactId := none
  lastErrorCode := none
  createdAt := call.now
  packetId := none
  packetRevision := none
  supersededByRevision := none
  unknownReconciliationHash := none
  deadLetteredAt := none

def outboxRecord (call : DurabilityCall) (a : Artifact) : OutboxRecord where
  organizationId := a.organizationId
  asyncTaskId := call.taskId
  destination := "internal_task_queue"
  action := "content.validate_and_proxy"
  aggregateType := "artifact"
  aggregateId := a.id
  idempotencyKey := "outbox:content:" ++ a.id.text
  requestFingerprint := a.contentSha256
  state := "observed_success"
  providerObservationRef := "task_enqueued_atomically"

namespace DurabilityTables

/-- `insert into artifact_reconciliation_observations` -/
def observe (db : DurabilityTables) (a : Artifact) (key : Option String)
    (state : ReconciliationState) (code : String) : Except Sql.Error DurabilityTables := do
  let storageKey ← Sql.notNull "storage_key" key
  return { db with
    artifactReconciliationObservations := db.artifactReconciliationObservations ++
      [⟨a.organizationId, a.id, storageKey, state, code⟩] }

/-- `insert into artifacts` -/
def insertArtifact (db : DurabilityTables) (a : Artifact) : Except Sql.Error DurabilityTables := do
  Sql.raiseIf (¬ a.checked) "23514" "artifacts"
  Sql.raiseIf (¬ ∃ j ∈ db.jobs.rows, j.id = a.jobId ∧ j.organizationId = a.organizationId) "23503"
    "artifacts_job_id_fkey"
  let next ← db.artifacts.insert "artifacts" a
  return { db with artifacts := next.1 }

/-- `insert into artifact_durability_receipts` -/
def insertReceipt (db : DurabilityTables) (r : ArtifactDurabilityReceipt) :
    Except Sql.Error DurabilityTables := do
  Sql.raiseIf (¬ r.checked) "23514" "artifact_durability_receipts"
  let next ← db.artifactDurabilityReceipts.insert "artifact_durability_receipts" r
  return { db with artifactDurabilityReceipts := next.1 }

variable (server : Server)

/-- The rows of an artifact that is not there yet. -/
def recordArtifact (call : DurabilityCall) (c : RecordDurability) (db : DurabilityTables) :
    Except Sql.Error (Uuid × DurabilityTables) := do
  let a ← c.artifact
  let db ← db.insertArtifact a
  let objectVersion ← Sql.notNull "object_version" c.observedObjectVersion
  let db ← db.insertReceipt ⟨a.organizationId, a.id, objectVersion, a.contentSha256, a.byteSize⟩
  let stream := streamOf db.sessionEvents.rows a.organizationId "artifact" a.id
  let events ← insertSessionEvent server call.now
    (durabilityEvent call c.durabilityIdempotencyKey a objectVersion stream) db.sessionEvents
  let task := contentTask call a
  Sql.raiseIf (¬ task.checked) "23514" "async_tasks"
  let tasks ← db.asyncTasks.insert "async_tasks" task
  let events ← appendTaskEvent server call.now call.taskEventId task "system.task_enqueued"
    (.obj [("task_type", .str "content.validate_and_proxy")]) events
  let outbox ← db.outboxRecords.insert "outbox_records" (outboxRecord call a)
  return (a.id, { db with
    sessionEvents := events, asyncTasks := tasks.1, outboxRecords := outbox.1 })

/-- `record_verified_artifact_durability` -/
def recordVerifiedArtifactDurability (call : DurabilityCall) (c : RecordDurability)
    (db : DurabilityTables) : Except Sql.Error ((DurabilityResult × Uuid) × DurabilityTables) := do
  c.check
  match db.artifacts.rows.find? fun a =>
      some a.organizationId = c.organizationId ∧ some a.captureId = c.captureId with
  | some existing =>
      if some existing.contentSha256 ≠ c.observedSha256 ∨
          some existing.byteSize ≠ c.observedByteSize then do
        let db ← db.observe existing c.storageKey .divergent_checksum "capture_hash_divergence"
        return ((.hash_divergence, existing.id), db)
      else do
        let db ← db.observe existing c.storageKey .duplicate_attempt "capture_finalize_replayed"
        return ((.duplicate_attempt, existing.id), db)
  | none =>
      let (id, db) ← db.recordArtifact server call c
      return ((.recorded, id), db)

end DurabilityTables

end InspectionHub.Database
