import InspectionHub.Database.SessionEvents

/-!
# Durable tasks

`async_tasks` of `20260714000300_u2_reports_continuity.sql` with the columns
that `20260715000500_u6_evidence_async.sql` adds, and `u6_append_task_event`
of the latter.
-/

namespace InspectionHub.Database

inductive AsyncTaskState where
  | queued | running | retry_wait | succeeded | unknown | cancelled | dead_letter | superseded
deriving DecidableEq

structure AsyncTask where
  id : Uuid
  organizationId : Uuid
  taskType : String
  aggregateType : String
  aggregateId : Uuid
  idempotencyKey : String
  requestFingerprint : String
  state : AsyncTaskState
  attemptCount : Nat
  maxAttempts : Nat
  availableAt : Int
  leaseGeneration : Nat
  leaseToken : Option Uuid
  leasedBy : Option String
  leasedUntil : Option Int
  heartbeatAt : Option Int
  resultArtifactId : Option Uuid
  lastErrorCode : Option String
  createdAt : Int
  packetId : Option Uuid
  packetRevision : Option Nat
  supersededByRevision : Option Nat
  unknownReconciliationHash : Option String
  deadLetteredAt : Option Int
deriving DecidableEq

/-- `primary key (id)`, `unique (organization_id, idempotency_key)` -/
def AsyncTask.clash (a b : AsyncTask) : Prop :=
  a.id = b.id ∨ (a.organizationId = b.organizationId ∧ a.idempotencyKey = b.idempotencyKey)

instance : DecidableRel AsyncTask.clash := fun _ _ => inferInstanceAs (Decidable (_ ∨ _))

/-- The check constraints of `async_tasks`. -/
def AsyncTask.checked (t : AsyncTask) : Bool :=
  decide (trimmedWithin 1 240 t.idempotencyKey) && Js.isHexDigest t.requestFingerprint &&
    (decide (1 ≤ t.maxAttempts) && t.maxAttempts ≤ 100) &&
    (t.state ≠ .running || t.leaseToken.isSome && t.leasedBy.isSome && t.leasedUntil.isSome) &&
    (t.packetId.isNone == t.packetRevision.isNone) && t.packetRevision.all (0 < ·) &&
    t.supersededByRevision.all (0 < ·) && t.unknownReconciliationHash.all Js.isHexDigest

abbrev AsyncTaskTable := Sql.Table AsyncTask AsyncTask.clash

/-- `event_type ~ '^(tool|system)\.[a-z0-9_]+'` -/
def isTaskEventType (s : String) : Bool :=
  ["tool.", "system."].any fun start =>
    start.toList.isPrefixOf s.toList && (s.toList.drop start.toList.length).head?.any isEventNameChar

/-- `u6_append_task_event`; `eventId` is the identity the row is given. -/
def appendTaskEvent (server : Server) (now : Int) (eventId : Uuid) (task : AsyncTask)
    (eventType : String) (safeMetadata : JsVal) (events : SessionEventTable) :
    Except Sql.Error SessionEventTable := do
  Sql.raiseIf (¬ isTaskEventType eventType ∨ (Jsonb.object? safeMetadata).isNone) "22023"
    "invalid safe task event"
  let stream := streamOf events.rows task.organizationId "async_task" task.id
  insertSessionEvent server now
    { id := eventId
      organizationId := task.organizationId
      aggregateType := "async_task"
      aggregateId := task.id
      aggregateVersion := Sql.maxOf (stream.map SessionEvent.aggregateVersion) + 1
      sessionId := none
      eventType
      actorId := none
      clientOccurredAt := none
      recordedAt := now
      idempotencyKey := none
      safeMetadata
      protectedArtifactRefs := []
      correlationId := none
      causationId := none
      schemaVersion := 1
      payloadSha256 := server.sha256 (Jsonb.text safeMetadata)
      previousEventSha256 := (headOf stream).map SessionEvent.eventSha256
      checkpointEventId := none
      eventSha256 := placeholderSha } events

/-- A task event that is recorded extends the stream of its task. -/
theorem appendTaskEvent_ok {server : Server} {now : Int} {eventId : Uuid} {task : AsyncTask}
    {eventType : String} {safeMetadata : JsVal} {events events' : SessionEventTable}
    (hstreams : Streams events.rows)
    (h : appendTaskEvent server now eventId task eventType safeMetadata events = .ok events') :
    ∃ e, e.eventType = eventType ∧ e.aggregateType = "async_task" ∧ e.aggregateId = task.id ∧
      events'.rows = events.rows ++ [e] ∧ Streams events'.rows := by
  obtain ⟨-, h⟩ := Sql.check_ok h
  obtain ⟨e, hrows, hprepared, hstreams'⟩ := insertSessionEvent_ok hstreams h
  exact ⟨e, by rw [hprepared.row], by rw [hprepared.row], by rw [hprepared.row], hrows, hstreams'⟩

end InspectionHub.Database
