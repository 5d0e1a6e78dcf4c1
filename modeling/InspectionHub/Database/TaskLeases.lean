import InspectionHub.Database.Artifacts
import InspectionHub.Database.AsyncTasks

/-!
# Leasing durable tasks

`lease_async_task` and the functions after it of
`20260715000500_u6_evidence_async.sql`, with `async_task_dependencies` and
`async_task_checkpoints`. A worker holds a task under a generation and a token
until its lease runs out.

Any argument may be null. A condition on a null is unknown: it raises nothing
and selects nothing; a column that is not null refuses it.
-/

namespace InspectionHub.Database

/-! ## Rows -/

structure AsyncTaskDependency where
  organizationId : Uuid
  taskId : Uuid
  dependsOnTaskId : Uuid
deriving DecidableEq

/-- `primary key (task_id, depends_on_task_id)` -/
def AsyncTaskDependency.clash (a b : AsyncTaskDependency) : Prop :=
  a.taskId = b.taskId ∧ a.dependsOnTaskId = b.dependsOnTaskId

instance : DecidableRel AsyncTaskDependency.clash :=
  fun _ _ => inferInstanceAs (Decidable (_ ∧ _))

structure AsyncTaskCheckpoint where
  organizationId : Uuid
  taskId : Uuid
  leaseGeneration : Int
  checkpointName : String
  artifactRefs : List Uuid
  metadataHashes : List String

/-- `unique (organization_id, task_id, lease_generation, checkpoint_name)` -/
def AsyncTaskCheckpoint.clash (a b : AsyncTaskCheckpoint) : Prop :=
  a.organizationId = b.organizationId ∧ a.taskId = b.taskId ∧
    a.leaseGeneration = b.leaseGeneration ∧ a.checkpointName = b.checkpointName

instance : DecidableRel AsyncTaskCheckpoint.clash :=
  fun _ _ => inferInstanceAs (Decidable (_ ∧ _))

/-- `text ~ '^[a-z][a-z0-9_.-]{0,79}$'` -/
def isSafeName (text : String) : Bool :=
  match text.toList with
  | [] => false
  | c :: rest =>
      ('a' ≤ c && c ≤ 'z') && rest.length ≤ 79 &&
        rest.all fun c => ('a' ≤ c && c ≤ 'z') || c.isDigit || c == '_' || c == '.' || c == '-'

/-- `text ~ '^[A-Za-z0-9][A-Za-z0-9._-]{0,79}$'` -/
def isWorkerId (text : String) : Bool :=
  match text.toList with
  | [] => false
  | c :: rest =>
      c.isAlphanum && rest.length ≤ 79 &&
        rest.all fun c => c.isAlphanum || c == '_' || c == '.' || c == '-'

/-- The check constraints of `async_task_checkpoints`. -/
def AsyncTaskCheckpoint.checked (c : AsyncTaskCheckpoint) : Bool :=
  decide (0 < c.leaseGeneration) && isSafeName c.checkpointName &&
    c.metadataHashes.all Js.isHexDigest

structure TaskTables where
  /-- Other commands write the artifacts. -/
  artifacts : Sql.Table Artifact Artifact.clash
  asyncTasks : AsyncTaskTable
  asyncTaskDependencies : Sql.Table AsyncTaskDependency AsyncTaskDependency.clash
  asyncTaskCheckpoints : Sql.Table AsyncTaskCheckpoint AsyncTaskCheckpoint.clash
  sessionEvents : SessionEventTable

/-! ## Calls -/

/-- `task_id`, `expected_generation` and `expected_lease_token` -/
structure LeaseClaim where
  taskId : Option Uuid
  expectedGeneration : Option Int
  expectedLeaseToken : Option Uuid
deriving DecidableEq

inductive TaskCall where
  | lease (workerId : Option String) (leaseFor : Option Int)
  | complete (claim : LeaseClaim) (resultArtifact : Option Uuid)
  | heartbeat (claim : LeaseClaim) (extendFor : Option Int)
  | checkpoint (claim : LeaseClaim) (checkpointName : Option String)
      (artifactRefs : Option (List Uuid)) (metadataHashes : Option (List String))
  | fail (claim : LeaseClaim) (safeErrorCode : Option String) (isRetryable : Option Bool)
      (retryAfter : Option Int)
  | markUnknown (claim : LeaseClaim) (reconciliationKeyHash : Option String)
  | recordUnknownObservation (taskId : Option Uuid)
      (expectedRequestFingerprint reconciliationKeyHash : Option String)
  | reconcileUnknown (taskId : Option Uuid)
      (expectedReconciliationHash observedState safeResultCode : Option String)
      (resultArtifact : Option Uuid)
  | supersedePacket (targetOrganizationId targetPacketId : Option Uuid)
      (newerPacketRevision : Option Int)

/-- What the server gives a call: the time of its statement, the token of a
lease, and the identities of the events, by the task and the event's type. -/
structure TaskStatement where
  now : Int
  leaseToken : Uuid
  eventId : Uuid → String → Uuid

inductive TaskReply where
  /-- The row that was leased, if one was. -/
  | leased (row : Option AsyncTask)
  | flag (changed : Bool)
  | state (text : String)
  | count (changed : Nat)
deriving DecidableEq

/-- The columns of `async_tasks` that an insert gives. -/
structure NewTask where
  id : Uuid
  organizationId : Uuid
  taskType : String
  aggregateType : String
  aggregateId : Uuid
  idempotencyKey : String
  requestFingerprint : String
  maxAttempts : Nat
  availableAt : Int
  packetId : Option Uuid
  packetRevision : Option Nat

/-- What happens to the queue: a task is inserted, or made to wait for another,
or one of the functions is called. -/
inductive TaskAction where
  | enqueue (task : NewTask)
  | depend (dependency : AsyncTaskDependency)
  | call (call : TaskCall)

/-- `interval '15 minutes'`, in microseconds. -/
def maxLease : Int := 15 * 60 * 1000000

/-- `interval '1 day'` -/
def maxRetryAfter : Int := 24 * 60 * 60 * 1000000

/-- A value of `jsonb_build_object` that may be null. -/
def jsonbText : Option String → JsVal
  | none => .null
  | some text => .str text

def jsonbInt : Option Int → JsVal
  | none => .null
  | some n => (n : JsVal)

def AsyncTaskState.text : AsyncTaskState → String
  | .queued => "queued"
  | .running => "running"
  | .retry_wait => "retry_wait"
  | .succeeded => "succeeded"
  | .unknown => "unknown"
  | .cancelled => "cancelled"
  | .dead_letter => "dead_letter"
  | .superseded => "superseded"

variable (server : Server) (st : TaskStatement)

/-! ## Inserts -/

/-- The row of a task that is inserted: the other columns take their defaults. -/
def NewTask.row (task : NewTask) : AsyncTask where
  id := task.id
  organizationId := task.organizationId
  taskType := task.taskType
  aggregateType := task.aggregateType
  aggregateId := task.aggregateId
  idempotencyKey := task.idempotencyKey
  requestFingerprint := task.requestFingerprint
  state := .queued
  attemptCount := 0
  maxAttempts := task.maxAttempts
  availableAt := task.availableAt
  leaseGeneration := 0
  leaseToken := none
  leasedBy := none
  leasedUntil := none
  heartbeatAt := none
  resultArtifactId := none
  lastErrorCode := none
  createdAt := st.now
  packetId := task.packetId
  packetRevision := task.packetRevision
  supersededByRevision := none
  unknownReconciliationHash := none
  deadLetteredAt := none

namespace TaskTables

variable (db : TaskTables)

/-- `insert into async_tasks` -/
def enqueue (task : NewTask) : Except Sql.Error TaskTables := do
  let row := task.row st
  Sql.raiseIf (¬ row.checked) "23514" "async_tasks"
  let tasks ← db.asyncTasks.insert "async_tasks" row
  return { db with asyncTasks := tasks.1 }

/-- `b` is in the `chain` of `a`: as long a path as the rows can make. -/
def chains (organizationId : Uuid) : Nat → Uuid → Uuid → Bool
  | 0, a, b => a = b
  | n + 1, a, b => a = b ∨ ∃ d ∈ db.asyncTaskDependencies.rows,
      d.organizationId = organizationId ∧ d.taskId = a ∧
        chains organizationId n d.dependsOnTaskId b

/-- `insert into async_task_dependencies`, after `u6_reject_task_dependency_cycle` -/
def depend (dependency : AsyncTaskDependency) : Except Sql.Error TaskTables := do
  Sql.raiseIf (db.chains dependency.organizationId db.asyncTaskDependencies.rows.length
    dependency.dependsOnTaskId dependency.taskId) "23514"
    "async task dependency cycle is not allowed"
  let dependencies ← db.asyncTaskDependencies.insert "async_task_dependencies" dependency
  Sql.raiseIf (¬ ∀ id ∈ [dependency.taskId, dependency.dependsOnTaskId],
    ∃ t ∈ db.asyncTasks.rows, t.id = id ∧ t.organizationId = dependency.organizationId) "23503"
    "async_task_dependencies"
  return { db with asyncTaskDependencies := dependencies.1 }

end TaskTables

/-! ## Updates -/

/-- The row without its lease. -/
def AsyncTask.released (t : AsyncTask) : AsyncTask :=
  { t with leaseToken := none, leasedBy := none, leasedUntil := none, heartbeatAt := none }

/-- What an update writes: the columns that identify a task stay. -/
structure TaskUpdate where
  set : AsyncTask → AsyncTask
  id : ∀ t, (set t).id = t.id := by intro; rfl
  organizationId : ∀ t, (set t).organizationId = t.organizationId := by intro; rfl
  idempotencyKey : ∀ t, (set t).idempotencyKey = t.idempotencyKey := by intro; rfl

/-- The row where it meets the condition, and else the row it was. -/
def TaskUpdate.apply (u : TaskUpdate) (p : AsyncTask → Bool) (t : AsyncTask) : AsyncTask :=
  if p t then u.set t else t

theorem TaskUpdate.apply_clash (u : TaskUpdate) (p : AsyncTask → Bool) (a b : AsyncTask)
    (h : AsyncTask.clash (u.apply p a) (u.apply p b)) : AsyncTask.clash a b := by
  have hid : ∀ t, (u.apply p t).id = t.id := by
    intro t
    unfold TaskUpdate.apply
    split
    · exact u.id t
    · rfl
  have horganization : ∀ t, (u.apply p t).organizationId = t.organizationId := by
    intro t
    unfold TaskUpdate.apply
    split
    · exact u.organizationId t
    · rfl
  have hkey : ∀ t, (u.apply p t).idempotencyKey = t.idempotencyKey := by
    intro t
    unfold TaskUpdate.apply
    split
    · exact u.idempotencyKey t
    · rfl
  unfold AsyncTask.clash at h ⊢
  rw [hid, hid, horganization, horganization, hkey, hkey] at h
  exact h

namespace TaskTables

variable (db : TaskTables)

/-- `update async_tasks t set … where … returning t.*` -/
def update (p : AsyncTask → Bool) (u : TaskUpdate) :
    Except Sql.Error (TaskTables × List AsyncTask) := do
  let returned := (db.asyncTasks.rows.filter p).map u.set
  Sql.raiseIf (∃ t ∈ returned, ¬ t.checked) "23514" "async_tasks"
  Sql.raiseIf (∃ t ∈ returned, ∃ id ∈ t.resultArtifactId, ¬ ∃ a ∈ db.artifacts.rows,
      a.id = id ∧ a.organizationId = t.organizationId) "23503" "async_tasks"
  return ({ db with asyncTasks := db.asyncTasks.map (u.apply p) (u.apply_clash p) }, returned)

/-- `perform u6_append_task_event(task_row, …)` -/
def record (task : AsyncTask) (eventType : String) (safeMetadata : JsVal) :
    Except Sql.Error TaskTables := do
  let sessionEvents ← appendTaskEvent server st.now (st.eventId task.id eventType) task eventType
    safeMetadata db.sessionEvents
  return { db with sessionEvents }

/-- The events of every row that an update returned. -/
def recordAll (rows : List AsyncTask) (eventType : AsyncTask → String)
    (safeMetadata : AsyncTask → JsVal) : Except Sql.Error TaskTables :=
  rows.foldlM (fun db row => db.record server st row (eventType row) (safeMetadata row)) db

/-- An update of one row, with its event where a row was changed; whether one
was. -/
def updateOne (p : AsyncTask → Bool) (u : TaskUpdate) (eventType : AsyncTask → String)
    (safeMetadata : AsyncTask → JsVal) : Except Sql.Error (TaskTables × Option AsyncTask) := do
  let (db, returned) ← db.update p u
  match returned with
  | [] => return (db, none)
  | row :: _ => do
      let db ← db.record server st row (eventType row) (safeMetadata row)
      return (db, some row)

end TaskTables

/-! ## Leasing -/

/-- The dead ends of a task that another may wait for. -/
def terminalStates : List AsyncTaskState := [.dead_letter, .cancelled, .superseded]

/-- `case when t.attempt_count < t.max_attempts then 'retry_wait' else 'dead_letter' end` -/
def AsyncTask.retried (t : AsyncTask) : AsyncTaskState :=
  if t.attemptCount < t.maxAttempts then .retry_wait else .dead_letter

/-- `dead_lettered_at` beside it. -/
def AsyncTask.deadLettered (t : AsyncTask) (now : Int) : Option Int :=
  if t.attemptCount < t.maxAttempts then none else some now

/-- The type of the event of a task that was retried or given up. -/
def AsyncTask.retryEvent (t : AsyncTask) : String :=
  if t.state = .retry_wait then "system.task_retry" else "system.task_dead_lettered"

namespace TaskTables

variable (db : TaskTables)

/-- Leases that ran out. -/
def recoverExpired : Except Sql.Error TaskTables := do
  let (db, returned) ← db.update
    (fun t => t.state = .running ∧ ∃ leasedUntil ∈ t.leasedUntil, leasedUntil < st.now)
    { set := fun t => { t.released with
        state := t.retried
        lastErrorCode := some "lease_expired"
        deadLetteredAt := t.deadLettered st.now
        availableAt := st.now } }
  db.recordAll server st returned AsyncTask.retryEvent fun t =>
    .obj [("error_code", .str "lease_expired"), ("attempt", (t.attemptCount : Int))]

/-- `dependency.task_id = t.id and dependency.organization_id = t.organization_id` -/
def dependencies (t : AsyncTask) : List AsyncTaskDependency :=
  db.asyncTaskDependencies.rows.filter fun d =>
    d.taskId = t.id ∧ d.organizationId = t.organizationId

/-- The task that is required. -/
def required (d : AsyncTaskDependency) : Option AsyncTask :=
  db.asyncTasks.rows.find? fun t =>
    t.id = d.dependsOnTaskId ∧ t.organizationId = d.organizationId

/-- Tasks that wait for one that came to a dead end. -/
def cancelBlocked : Except Sql.Error TaskTables := do
  let (db, returned) ← db.update
    (fun t => t.state ∈ [AsyncTaskState.queued, .retry_wait] ∧ ∃ d ∈ db.dependencies t,
      ∃ required ∈ db.required d, required.state ∈ terminalStates)
    { set := fun t => { t with
        state := .cancelled
        lastErrorCode := some "dependency_terminal" } }
  db.recordAll server st returned (fun _ => "system.task_cancelled") fun _ =>
    .obj [("reason_code", .str "dependency_terminal")]

/-- The task can be leased now. -/
def eligible (t : AsyncTask) : Bool :=
  t.state ∈ [AsyncTaskState.queued, .retry_wait] ∧ t.availableAt ≤ st.now ∧
    t.attemptCount < t.maxAttempts ∧
    ∀ d ∈ db.dependencies t, (db.required d).map (·.state) = some .succeeded

/-- `t.available_at, t.created_at, t.id` -/
def comesFirst (a b : AsyncTask) : Bool :=
  a.availableAt < b.availableAt ∨ (a.availableAt = b.availableAt ∧
    (a.createdAt < b.createdAt ∨ (a.createdAt = b.createdAt ∧ a.id.text ≤ b.id.text)))

def candidateId : Option Uuid :=
  let eligible := db.asyncTasks.rows.filter (db.eligible st)
  (eligible.find? fun a => eligible.all (comesFirst a)).map (·.id)

/-- `lease_async_task` -/
def leaseAsyncTask (workerId : Option String) (leaseFor : Option Int) :
    Except Sql.Error (TaskTables × Option AsyncTask) := do
  Sql.raiseIf (Sql.anyTrue [workerId.map fun w => !isWorkerId w, leaseFor.map fun n => n ≤ 0,
      leaseFor.map fun n => maxLease < n]) "22023" "invalid worker lease request"
  let db ← db.recoverExpired server st
  let db ← db.cancelBlocked server st
  match db.candidateId st with
  | none => return (db, none)
  | some candidateId =>
      db.updateOne server st (fun t => t.id = candidateId)
        { set := fun t => { t with
            state := .running
            attemptCount := t.attemptCount + 1
            leaseGeneration := t.leaseGeneration + 1
            leaseToken := some st.leaseToken
            leasedBy := workerId
            leasedUntil := leaseFor.map fun n => st.now + n
            heartbeatAt := some st.now } }
        (fun _ => "tool.task_lease_started") fun t =>
          .obj [("attempt", (t.attemptCount : Int)), ("generation", (t.leaseGeneration : Int)),
            ("worker_id", jsonbText workerId)]

end TaskTables

/-! ## Working under a lease -/

/-- The task is held under the claim. -/
def AsyncTask.heldUnder (t : AsyncTask) (claim : LeaseClaim) (now : Int) : Bool :=
  some t.id = claim.taskId ∧ t.state = .running ∧
    some (t.leaseGeneration : Int) = claim.expectedGeneration ∧
    t.leaseToken ≠ none ∧ t.leaseToken = claim.expectedLeaseToken ∧
    ∃ leasedUntil ∈ t.leasedUntil, now ≤ leasedUntil

namespace TaskTables

variable (db : TaskTables)

/-- `complete_async_task` -/
def completeAsyncTask (claim : LeaseClaim) (resultArtifact : Option Uuid) :
    Except Sql.Error (TaskTables × Bool) := do
  let (db, row) ← db.updateOne server st (fun t => t.heldUnder claim st.now)
    { set := fun t => { t.released with
        state := .succeeded
        resultArtifactId := resultArtifact } }
    (fun _ => "system.task_completed") fun _ =>
      .obj [("generation", jsonbInt claim.expectedGeneration),
        ("result_recorded", .bool resultArtifact.isSome)]
  return (db, row.isSome)

/-- `heartbeat_async_task` -/
def heartbeatAsyncTask (claim : LeaseClaim) (extendFor : Option Int) :
    Except Sql.Error (TaskTables × Bool) := do
  Sql.raiseIf (Sql.anyTrue [extendFor.map fun n => n ≤ 0, extendFor.map fun n => maxLease < n])
    "22023" "invalid heartbeat extension"
  let (db, row) ← db.updateOne server st (fun t => t.heldUnder claim st.now)
    { set := fun t => { t with
        heartbeatAt := some st.now
        leasedUntil := extendFor.map fun n => st.now + n } }
    (fun _ => "tool.task_lease_heartbeat") fun _ =>
      .obj [("generation", jsonbInt claim.expectedGeneration)]
  return (db, row.isSome)

/-- `checkpoint_async_task` -/
def checkpointAsyncTask (claim : LeaseClaim) (checkpointName : Option String)
    (artifactRefs : Option (List Uuid)) (metadataHashes : Option (List String)) :
    Except Sql.Error (TaskTables × Bool) := do
  match db.asyncTasks.rows.find? fun t => t.heldUnder claim st.now with
  | none => return (db, false)
  | some task => do
      let leaseGeneration ← Sql.notNull "lease_generation" claim.expectedGeneration
      let checkpointName ← Sql.notNull "checkpoint_name" checkpointName
      let artifactRefs ← Sql.notNull "artifact_refs" artifactRefs
      let metadataHashes ← Sql.notNull "metadata_hashes" metadataHashes
      let checkpoint : AsyncTaskCheckpoint :=
        { organizationId := task.organizationId
          taskId := task.id
          leaseGeneration, checkpointName, artifactRefs, metadataHashes }
      Sql.raiseIf (¬ checkpoint.checked) "23514" "async_task_checkpoints"
      let checkpoints ← db.asyncTaskCheckpoints.insert "async_task_checkpoints" checkpoint
      let db ← { db with asyncTaskCheckpoints := checkpoints.1 }.record server st task
        "tool.task_checkpoint" (.obj [("generation", leaseGeneration),
          ("checkpoint_name", .str checkpointName),
          ("artifact_ref_count", (artifactRefs.length : Int)),
          ("metadata_hash_count", (metadataHashes.length : Int))])
      return (db, true)

/-- `fail_async_task` -/
def failAsyncTask (claim : LeaseClaim) (safeErrorCode : Option String)
    (isRetryable : Option Bool) (retryAfter : Option Int) :
    Except Sql.Error (TaskTables × String) := do
  Sql.raiseIf (Sql.anyTrue [safeErrorCode.map fun code => !isSafeName code,
      retryAfter.map fun n => n < 0, retryAfter.map fun n => maxRetryAfter < n]) "22023"
    "invalid task failure metadata"
  let held := fun t : AsyncTask => t.heldUnder claim st.now
  Sql.raiseIf (retryAfter = none ∧ ∃ t ∈ db.asyncTasks.rows, held t) "23502" "available_at"
  let (db, row) ← db.updateOne server st held
    { set := fun t => { t.released with
        state := if isRetryable = some true then t.retried else .dead_letter
        availableAt := st.now + retryAfter.getD 0
        lastErrorCode := safeErrorCode
        deadLetteredAt := if isRetryable = some true then t.deadLettered st.now else some st.now } }
    AsyncTask.retryEvent fun t =>
      .obj [("attempt", (t.attemptCount : Int)), ("error_code", jsonbText safeErrorCode)]
  return (db, match row with
    | none => "fenced"
    | some row => row.state.text)

/-- `mark_async_task_unknown` -/
def markAsyncTaskUnknown (claim : LeaseClaim) (reconciliationKeyHash : Option String) :
    Except Sql.Error (TaskTables × Bool) := do
  Sql.raiseIf (Sql.anyTrue [reconciliationKeyHash.map fun hash => !Js.isHexDigest hash]) "22023"
    "invalid reconciliation key hash"
  let (db, row) ← db.updateOne server st (fun t => t.heldUnder claim st.now)
    { set := fun t => { t.released with
        state := .unknown
        unknownReconciliationHash := reconciliationKeyHash } }
    (fun _ => "system.task_unknown") fun _ =>
      .obj [("reconciliation_key_hash", jsonbText reconciliationKeyHash)]
  return (db, row.isSome)

/-! ## Without a lease -/

/-- `record_async_task_unknown_observation` -/
def recordAsyncTaskUnknownObservation (taskId : Option Uuid)
    (expectedRequestFingerprint reconciliationKeyHash : Option String) :
    Except Sql.Error (TaskTables × Bool) := do
  Sql.raiseIf (Sql.anyTrue [expectedRequestFingerprint.map fun hash => !Js.isHexDigest hash,
      reconciliationKeyHash.map fun hash => !Js.isHexDigest hash]) "22023"
    "invalid provider observation hash"
  match db.asyncTasks.rows.find? fun t => some t.id = taskId with
  | none => return (db, false)
  | some task =>
      if some task.requestFingerprint ≠ expectedRequestFingerprint then return (db, false)
      else if task.state = .unknown then do
        Sql.raiseIf (task.unknownReconciliationHash ≠ reconciliationKeyHash) "23514"
          "provider unknown observation diverged"
        return (db, true)
      else if task.state ∈ AsyncTaskState.succeeded :: terminalStates then return (db, false)
      else do
        let (db, _) ← db.updateOne server st (fun t => t.id = task.id)
          { set := fun t => { t.released with
              state := .unknown
              unknownReconciliationHash := reconciliationKeyHash } }
          (fun _ => "system.task_unknown") fun _ =>
            .obj [("reconciliation_key_hash", jsonbText reconciliationKeyHash)]
        return (db, true)

/-- `reconcile_unknown_async_task` -/
def reconcileUnknownAsyncTask (taskId : Option Uuid)
    (expectedReconciliationHash observedState safeResultCode : Option String)
    (resultArtifact : Option Uuid) : Except Sql.Error (TaskTables × String) := do
  Sql.raiseIf (Sql.anyTrue [expectedReconciliationHash.map fun hash => !Js.isHexDigest hash,
      observedState.map fun state => decide (state ∉ ["succeeded", "retry", "failed"]),
      safeResultCode.map fun code => !isSafeName code]) "22023"
    "invalid unknown reconciliation observation"
  match db.asyncTasks.rows.find? fun t => some t.id = taskId ∧ t.state = .unknown ∧
      t.unknownReconciliationHash ≠ none ∧
      t.unknownReconciliationHash = expectedReconciliationHash with
  | none => return (db, "fenced")
  | some task => do
      let resultingState : AsyncTaskState :=
        if observedState = some "succeeded" then .succeeded
        else if observedState = some "retry" then task.retried
        else .dead_letter
      let (db, _) ← db.updateOne server st (fun t => t.id = task.id)
        { set := fun t => { t with
            state := resultingState
            resultArtifactId := if resultingState = .succeeded then resultArtifact else none
            availableAt := st.now
            lastErrorCode := if resultingState = .succeeded then none else safeResultCode
            deadLetteredAt := if resultingState = .dead_letter then some st.now else none } }
        (fun t => if t.state = .succeeded then "system.task_completed" else t.retryEvent) fun _ =>
          .obj [("reconciled", .bool true), ("result_code", jsonbText safeResultCode)]
      return (db, resultingState.text)

/-- `supersede_packet_tasks` -/
def supersedePacketTasks (targetOrganizationId targetPacketId : Option Uuid)
    (newerPacketRevision : Option Int) : Except Sql.Error (TaskTables × Nat) := do
  Sql.raiseIf (Sql.anyTrue [newerPacketRevision.map fun n => n < 1]) "22023"
    "invalid packet revision"
  let (db, returned) ← db.update
    (fun t => some t.organizationId = targetOrganizationId ∧ t.packetId ≠ none ∧
      t.packetId = targetPacketId ∧
      (∃ revision ∈ t.packetRevision, ∃ newer ∈ newerPacketRevision, (revision : Int) < newer) ∧
      t.state ∉ terminalStates)
    { set := fun t => { t.released with
        state := .superseded
        supersededByRevision := newerPacketRevision.map Int.toNat } }
  let db ← db.recordAll server st returned (fun _ => "system.task_superseded") fun _ =>
    .obj [("newer_packet_revision", jsonbInt newerPacketRevision)]
  return (db, returned.length)

/-! ## The queue -/

/-- One of the calls, with what it returns. -/
def perform : TaskCall → Except Sql.Error (TaskTables × TaskReply)
  | .lease workerId leaseFor =>
      (db.leaseAsyncTask server st workerId leaseFor).map (Prod.map id .leased)
  | .complete claim resultArtifact =>
      (db.completeAsyncTask server st claim resultArtifact).map (Prod.map id .flag)
  | .heartbeat claim extendFor =>
      (db.heartbeatAsyncTask server st claim extendFor).map (Prod.map id .flag)
  | .checkpoint claim checkpointName artifactRefs metadataHashes =>
      (db.checkpointAsyncTask server st claim checkpointName artifactRefs metadataHashes).map
        (Prod.map id .flag)
  | .fail claim safeErrorCode isRetryable retryAfter =>
      (db.failAsyncTask server st claim safeErrorCode isRetryable retryAfter).map
        (Prod.map id .state)
  | .markUnknown claim reconciliationKeyHash =>
      (db.markAsyncTaskUnknown server st claim reconciliationKeyHash).map (Prod.map id .flag)
  | .recordUnknownObservation taskId expectedRequestFingerprint reconciliationKeyHash =>
      (db.recordAsyncTaskUnknownObservation server st taskId expectedRequestFingerprint
        reconciliationKeyHash).map (Prod.map id .flag)
  | .reconcileUnknown taskId expectedReconciliationHash observedState safeResultCode
      resultArtifact =>
      (db.reconcileUnknownAsyncTask server st taskId expectedReconciliationHash observedState
        safeResultCode resultArtifact).map (Prod.map id .state)
  | .supersedePacket targetOrganizationId targetPacketId newerPacketRevision =>
      (db.supersedePacketTasks server st targetOrganizationId targetPacketId
        newerPacketRevision).map (Prod.map id .count)

/-- The tables after an action; one that raises leaves them as they were. -/
def next (action : TaskStatement × TaskAction) : TaskTables :=
  let result : Except Sql.Error TaskTables := match action.2 with
    | .enqueue task => db.enqueue action.1 task
    | .depend dependency => db.depend dependency
    | .call call => (db.perform server action.1 call).map Prod.fst
  match result with
  | .ok db' => db'
  | .error _ => db

end TaskTables

end InspectionHub.Database
