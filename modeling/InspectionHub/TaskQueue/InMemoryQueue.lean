import InspectionHub.TaskQueue.Types

/-!
# The in-memory durable task queue

`InMemoryDurableTaskQueue` of `packages/task-queue/src/in-memory-queue.ts`,
operation by operation. An operation returns its result or the text of the
error it throws, together with the queue as the call leaves it: what was
written before a throw stays written.

The injected clock and `randomUUID` are streams; the queue counts how often
each was consulted, so the two readings inside one call may differ.
-/

namespace InspectionHub.TaskQueue

open Js

/-- The surroundings of a queue: host functions, clock and identifier streams. -/
structure Env where
  host : Host
  /-- The `n`-th reading of the injected clock, in milliseconds. -/
  now : Nat → Int
  /-- The `n`-th generated identifier. -/
  randomUUID : Nat → String

structure Queue where
  tasks : OMap String AsyncTaskRecord
  idempotencyIndex : OMap String String
  events : List SafeTaskEvent
  clockReads : Nat
  uuids : Nat

/-- A result or a thrown error, and the queue afterwards. -/
abbrev Outcome (α : Type) := Except String α × Queue

def Queue.initial : Queue := ⟨.empty, .empty, [], 0, 0⟩

variable (env : Env)

namespace Queue

def now (q : Queue) : Int × Queue := (env.now q.clockReads, { q with clockReads := q.clockReads + 1 })

def randomUUID (q : Queue) : String × Queue :=
  (env.randomUUID q.uuids, { q with uuids := q.uuids + 1 })

/-- Store a task under its own identifier. -/
def put (q : Queue) (t : AsyncTaskRecord) : Queue := { q with tasks := q.tasks.set t.taskId t }

def event (q : Queue) (task : AsyncTaskRecord) (eventType : EventType)
    (safeMetadata : List (String × Meta)) : Queue :=
  let (eventId, q) := q.randomUUID env
  let (now, q) := q.now env
  { q with events := q.events ++ [{
      eventId, taskId := task.taskId, organizationId := task.organizationId,
      eventType, safeMetadata, recordedAt := env.host.toISOString now }] }

end Queue

def clearLease (task : AsyncTaskRecord) : AsyncTaskRecord :=
  { task with leaseToken := none, leasedBy := none, leasedUntil := none, heartbeatAt := none }

/-- `Math.min(60_000, 1000 * 2 ** Math.min(attempt - 1, 6))`; attempts start at 1. -/
def boundedBackoff (attempt : Nat) : Int := min 60000 (1000 * 2 ^ min (attempt - 1) 6)

/-- `/^[a-z][a-z0-9_.-]{0,79}$/`. -/
def isSafeCode (value : String) : Bool :=
  match value.toList with
  | [] => false
  | c :: rest =>
      ('a' ≤ c && c ≤ 'z') && rest.length ≤ 79 &&
      rest.all fun c => ('a' ≤ c && c ≤ 'z') || ('0' ≤ c && c ≤ '9') ||
        c = '_' || c = '.' || c = '-'

def safeCode (value : String) : Except String String :=
  if isSafeCode value then .ok value
  else .error "Task error/reason code is not safe metadata"

/-- The lease durations `lease` and `heartbeat` accept. -/
def leaseDurationOk (leaseDurationMs : ℚ) : Bool :=
  isInteger leaseDurationMs && 1000 ≤ leaseDurationMs && leaseDurationMs ≤ 900000

def validateEnqueue (input : EnqueueTask) : Except String Unit := do
  for (label, value) in [
      ("organizationId", input.organizationId),
      ("taskType", input.taskType),
      ("aggregateType", input.aggregateType),
      ("aggregateId", input.aggregateId),
      ("idempotencyKey", input.idempotencyKey)] do
    if isBlank value || 240 < Js.length value then throw s!"{label} is invalid"
  unless isHexDigest input.requestFingerprint do
    throw "Task request fingerprint is invalid"
  if input.maxAttempts.any fun n => !isSafeInteger n || n < 1 || 100 < n then
    throw "Task max attempts is outside policy"
  if input.packetId.isNone != input.packetRevision.isNone ||
      input.packetRevision.any fun n => !isSafeInteger n || n < 1 then
    throw "Packet task must bind an ID and positive revision together"
  if input.availableAt.any fun at' => (env.host.dateParse at').isNone then
    throw "Task availableAt timestamp is invalid"
  let dependencies := input.dependencyTaskIds.getD []
  if ¬ dependencies.Nodup || input.taskId.any dependencies.contains then
    throw "Task dependencies must be unique and cannot reference self"

namespace Queue

variable (q : Queue)

def requireTask (taskId : String) : Except String AsyncTaskRecord :=
  match q.tasks.get? taskId with
  | some task => .ok task
  | none => .error "Task was not found"

/-- The record `enqueue` builds for a request that is no replay. -/
def newTask (input : EnqueueTask) (taskId now : String) : AsyncTaskRecord where
  taskId := taskId
  organizationId := input.organizationId
  taskType := input.taskType
  aggregateType := input.aggregateType
  aggregateId := input.aggregateId
  idempotencyKey := input.idempotencyKey
  requestFingerprint := input.requestFingerprint
  payloadArtifactId := input.payloadArtifactId
  dependencyTaskIds := input.dependencyTaskIds.getD []
  packetId := input.packetId
  packetRevision := input.packetRevision
  state := .queued
  attemptCount := 0
  maxAttempts := match input.maxAttempts with
    | some n => n.num.toNat
    | none => 5
  availableAt := input.availableAt.getD now
  leaseGeneration := 0
  leaseToken := none
  leasedBy := none
  leasedUntil := none
  heartbeatAt := none
  resultArtifactId := none
  lastErrorCode := none
  supersededByRevision := none
  unknownReconciliationHash := none
  checkpoints := []
  createdAt := now
  updatedAt := now

/-- `input.taskId ?? randomUUID()`. -/
def chooseTaskId (taskId : Option String) : String × Queue :=
  match taskId with
  | some taskId => (taskId, q)
  | none => q.randomUUID env

/-- Store a new task and its idempotency key, unless the identifier is taken. -/
def insertTask (idempotencyIndexKey : String) (task : AsyncTaskRecord) :
    Outcome (AsyncTaskRecord × Bool) :=
  if q.tasks.has task.taskId then (.error "Task identity already exists", q)
  else
    let q := q.put task
    let q := { q with
      idempotencyIndex := q.idempotencyIndex.set idempotencyIndexKey task.taskId }
    (.ok (task, false), q.event env task .taskEnqueued [("taskType", .str task.taskType)])

/-- `enqueue`; the reply is the task and whether it was replayed. -/
def enqueue (input : EnqueueTask) : Outcome (AsyncTaskRecord × Bool) :=
  match validateEnqueue env input with
  | .error e => (.error e, q)
  | .ok () =>
    let idempotencyIndexKey := input.organizationId ++ ":" ++ input.idempotencyKey
    match q.idempotencyIndex.get? idempotencyIndexKey with
    | some priorId =>
      match q.requireTask priorId with
      | .error e => (.error e, q)
      | .ok prior =>
        if prior.requestFingerprint ≠ input.requestFingerprint then
          (.error "Task idempotency key cannot be reused with a different fingerprint", q)
        else (.ok (prior, true), q.event env prior .taskReplayed [])
    | none =>
      let (ms, q) := q.now env
      let (taskId, q) := q.chooseTaskId env input.taskId
      q.insertTask env idempotencyIndexKey (newTask input taskId (env.host.toISOString ms))

/-- `#validLease`: the running task the command's lease still holds. -/
def validLease (command : LeaseCommand) : Option AsyncTaskRecord × Queue :=
  match q.tasks.get? command.taskId with
  | none => (none, q)
  | some task =>
    if task.state ≠ .running || task.leaseGeneration ≠ command.generation ||
        task.leaseToken ≠ some command.leaseToken then (none, q)
    else match task.leasedUntil with
      | none => (none, q)
      | some leasedUntil =>
        let (now, q) := q.now env
        if env.host.parsesBefore leasedUntil now then (none, q) else (some task, q)

def dependenciesSucceeded (task : AsyncTaskRecord) : Bool :=
  task.dependencyTaskIds.all fun taskId =>
    (q.tasks.get? taskId).map AsyncTaskRecord.state = some .succeeded

/-- Recover one task, if its lease has run out. -/
def recoverOne (nowMs : Int) (acc : List String × Queue) (taskId : String) :
    List String × Queue :=
  let (recovered, q) := acc
  match q.tasks.get? taskId with
  | none => (recovered, q)
  | some task =>
    if task.state = .running ∧ task.leasedUntil.any (env.host.parsesBefore · nowMs) then
      let (now, q) := q.now env
      let task := clearLease { task with
        state := if task.attemptCount < task.maxAttempts then .retryWait else .deadLetter
        lastErrorCode := some "lease_expired"
        availableAt := env.host.toISOString now
        updatedAt := env.host.toISOString now }
      let q := q.put task
      (recovered ++ [taskId], q.event env task
        (if task.state = .retryWait then .taskRetryScheduled else .taskDeadLettered)
        [("errorCode", .str "lease_expired")])
    else (recovered, q)

def recoverExpiredLeases : List String × Queue :=
  let (nowMs, q) := q.now env
  q.tasks.keys.foldl (recoverOne env nowMs) ([], q)

/-- Cancel one waiting task, if a dependency of it ended without success. -/
def reconcileOne (acc : List String × Queue) (taskId : String) : List String × Queue :=
  let (cancelled, q) := acc
  match q.tasks.get? taskId with
  | none => (cancelled, q)
  | some task =>
    if (task.state = .queued ∨ task.state = .retryWait) ∧
        task.dependencyTaskIds.any (fun taskId =>
          match (q.tasks.get? taskId).map AsyncTaskRecord.state with
          | some .deadLetter | some .cancelled | some .superseded => true
          | _ => false) then
      let (now, q) := q.now env
      let task := { task with
        state := .cancelled
        lastErrorCode := some "dependency_terminal"
        updatedAt := env.host.toISOString now }
      let q := q.put task
      (cancelled ++ [taskId], q.event env task .taskCancelled
        [("reasonCode", .str "dependency_terminal")])
    else (cancelled, q)

def reconcileBlockedDependencies : List String × Queue :=
  q.tasks.keys.foldl (reconcileOne env) ([], q)

/-- The tasks `lease` may hand out at `nowMs`. -/
def leasable (nowMs : Int) (task : AsyncTaskRecord) : Bool :=
  (task.state = .queued || task.state = .retryWait) &&
  env.host.parsesAtOrBefore task.availableAt nowMs &&
  task.attemptCount < task.maxAttempts && q.dependenciesSucceeded task

/-- The text candidates are ordered by. -/
def leaseOrder (task : AsyncTaskRecord) : String :=
  task.availableAt ++ ":" ++ task.createdAt ++ ":" ++ task.taskId

/-- The tasks `lease` may hand out, the next one first. -/
def candidates (nowMs : Int) : List AsyncTaskRecord :=
  (q.tasks.values.filter (q.leasable env nowMs)).mergeSort
    fun left right => env.host.localeCompare (leaseOrder left) (leaseOrder right) ≠ .gt

/-- The candidate as it runs under a new lease. -/
def leased (candidate : AsyncTaskRecord) (workerId leaseToken leasedUntil now : String) :
    AsyncTaskRecord :=
  { candidate with
    state := .running
    attemptCount := candidate.attemptCount + 1
    leaseGeneration := candidate.leaseGeneration + 1
    leaseToken := some leaseToken
    leasedBy := some workerId
    leasedUntil := some leasedUntil
    heartbeatAt := some now
    updatedAt := now }

/-- Hand the candidate out. -/
def startLease (candidate : AsyncTaskRecord) (workerId : String) (nowMs : Int)
    (leaseDurationMs : ℚ) : TaskLease × Queue :=
  let (leaseToken, q) := q.randomUUID env
  let leasedUntil := env.host.toISOString (nowMs + leaseDurationMs.num)
  let (now, q) := q.now env
  let task := leased candidate workerId leaseToken leasedUntil (env.host.toISOString now)
  let q := (q.put task).event env task .taskLeased [
    ("attempt", .num task.attemptCount),
    ("generation", .num task.leaseGeneration), ("workerId", .str workerId)]
  ({ task, generation := task.leaseGeneration, leaseToken, leasedUntil }, q)

def lease (workerId : String) (leaseDurationMs : ℚ) : Outcome (Option TaskLease) :=
  if isBlank workerId || !leaseDurationOk leaseDurationMs then
    (.error "Worker lease must be named and between 1 and 900 seconds", q)
  else
    let (_, q) := q.recoverExpiredLeases env
    let (_, q) := q.reconcileBlockedDependencies env
    let (nowMs, q) := q.now env
    match q.candidates env nowMs with
    | [] => (.ok none, q)
    | candidate :: _ =>
      let (lease, q) := q.startLease env candidate workerId nowMs leaseDurationMs
      (.ok (some lease), q)

def heartbeat (command : LeaseCommand) (leaseDurationMs : ℚ) : Outcome Bool :=
  match q.validLease env command with
  | (none, q) => (.ok false, q)
  | (some task, q) =>
    if !leaseDurationOk leaseDurationMs then
      (.error "Heartbeat lease extension is outside policy", q)
    else
      let (now, q) := q.now env
      let task := { task with
        heartbeatAt := some (env.host.toISOString now)
        leasedUntil := some (env.host.toISOString (now + leaseDurationMs.num))
        updatedAt := env.host.toISOString now }
      let q := q.put task
      (.ok true, q.event env task .taskHeartbeat [("generation", .num task.leaseGeneration)])

/-- The caller's part of a checkpoint. -/
structure CheckpointInput where
  name : String
  artifactRefs : List String
  metadataHashes : List String

def checkpoint (command : LeaseCommand) (checkpoint : CheckpointInput) : Outcome Bool :=
  match q.validLease env command with
  | (none, q) => (.ok false, q)
  | (some task, q) =>
    if !isSafeCode checkpoint.name then (.error "Checkpoint name is invalid", q)
    else if !checkpoint.metadataHashes.all isHexDigest then
      (.error "Checkpoint metadata must be hashes", q)
    else
      let (checkpointId, q) := q.randomUUID env
      let (now, q) := q.now env
      let recordedAt := env.host.toISOString now
      let task := { task with
        checkpoints := task.checkpoints ++ [{
          checkpointId, name := checkpoint.name, artifactRefs := checkpoint.artifactRefs
          metadataHashes := checkpoint.metadataHashes, recordedAt }]
        updatedAt := recordedAt }
      let q := q.put task
      (.ok true, q.event env task .taskCheckpoint [
        ("checkpoint", .str checkpoint.name),
        ("artifactRefCount", .num checkpoint.artifactRefs.length)])

def recordToolEvent (command : LeaseCommand) (phase : ToolPhase) (toolName : String)
    (resultCode : Option String) : Outcome Bool :=
  match q.validLease env command with
  | (none, q) => (.ok false, q)
  | (some task, q) =>
    match safeCode toolName, resultCode.mapM safeCode with
    | .error e, _ => (.error e, q)
    | _, .error e => (.error e, q)
    | .ok safeToolName, .ok safeResult =>
      (.ok true, q.event env task (.tool phase) (
        [("toolName", .str safeToolName)] ++
        safeResult.toList.map (fun r => ("resultCode", .str r)) ++
        [("generation", .num command.generation)]))

def assertLease (command : LeaseCommand) : Outcome Unit :=
  match q.validLease env command with
  | (none, q) => (.error "Worker lease is no longer valid for a side-effect commit", q)
  | (some _, q) => (.ok (), q)

def complete (command : LeaseCommand) (resultArtifactId : Option String) : Outcome Bool :=
  match q.validLease env command with
  | (none, q) => (.ok false, q)
  | (some task, q) =>
    let (now, q) := q.now env
    let task := { clearLease { task with
        state := .succeeded
        resultArtifactId := resultArtifactId <|> task.resultArtifactId } with
      updatedAt := env.host.toISOString now }
    let q := q.put task
    (.ok true, q.event env task .taskCompleted [
      ("generation", .num command.generation),
      ("resultRecorded", .bool resultArtifactId.isSome)])

def fail (command : LeaseCommand) (errorCode : String) (retryable : Bool)
    (retryDelayMs : Option ℚ) : Outcome Bool :=
  if retryDelayMs.any fun n => !isSafeInteger n || n < 0 || 86400000 < n then
    (.error "Task retry delay is outside policy", q)
  else match q.validLease env command with
  | (none, q) => (.ok false, q)
  | (some task, q) =>
    match safeCode errorCode with
    | .error e => (.error e, q)
    | .ok lastErrorCode =>
      let retryable := retryable && task.attemptCount < task.maxAttempts
      let (now, q) := q.now env
      let delay := match retryDelayMs with
        | some n => n.num
        | none => boundedBackoff task.attemptCount
      let (updated, q) := q.now env
      let task := { clearLease { task with
          lastErrorCode := some lastErrorCode
          state := if retryable then .retryWait else .deadLetter
          availableAt := env.host.toISOString (now + delay) } with
        updatedAt := env.host.toISOString updated }
      let q := q.put task
      (.ok true, q.event env task (if retryable then .taskRetryScheduled else .taskDeadLettered)
        [("attempt", .num task.attemptCount), ("errorCode", .str lastErrorCode)])

/-- The write `markUnknown` and `recordUnknownObservation` share. -/
def becomeUnknown (task : AsyncTaskRecord) (reconciliationKeyHash : String) : Queue :=
  let (now, q) := q.now env
  let task := { clearLease { task with
      state := .unknown
      unknownReconciliationHash := some reconciliationKeyHash } with
    updatedAt := env.host.toISOString now }
  (q.put task).event env task .taskUnknown [("reconciliationKeyHash", .str reconciliationKeyHash)]

def markUnknown (command : LeaseCommand) (reconciliationKeyHash : String) : Outcome Bool :=
  if !isHexDigest reconciliationKeyHash then
    (.error "Unknown provider reconciliation key must be hashed", q)
  else match q.validLease env command with
  | (none, q) => (.ok false, q)
  | (some task, q) => (.ok true, q.becomeUnknown env task reconciliationKeyHash)

def recordUnknownObservation (taskId requestFingerprint reconciliationKeyHash : String) :
    Outcome Bool :=
  if !isHexDigest reconciliationKeyHash then
    (.error "Unknown provider reconciliation key must be hashed", q)
  else match q.requireTask taskId with
  | .error e => (.error e, q)
  | .ok task =>
    if task.requestFingerprint ≠ requestFingerprint then
      (.error "Unknown provider observation fingerprint diverged", q)
    else if task.state = .unknown then
      if task.unknownReconciliationHash ≠ some reconciliationKeyHash then
        (.error "Unknown provider reconciliation observation diverged", q)
      else (.ok true, q)
    else if task.state ∈ [.succeeded, .deadLetter, .cancelled, .superseded] then (.ok false, q)
    else (.ok true, q.becomeUnknown env task reconciliationKeyHash)

/-- What a reconciliation observed. -/
inductive Observed where
  | succeeded | retry | failed
deriving DecidableEq, Repr

def reconcileUnknown (taskId expectedReconciliationKeyHash : String) (observed : Observed) :
    Outcome Bool :=
  match q.requireTask taskId with
  | .error e => (.error e, q)
  | .ok task =>
    if task.state ≠ .unknown ∨
        task.unknownReconciliationHash ≠ some expectedReconciliationKeyHash then (.ok false, q)
    else
      let (now, q) := q.now env
      let task := { task with
        state := match observed with
          | .succeeded => .succeeded
          | .retry => if task.attemptCount < task.maxAttempts then .retryWait else .deadLetter
          | .failed => .deadLetter
        availableAt := env.host.toISOString now
        updatedAt := env.host.toISOString now }
      let q := q.put task
      (.ok true, q.event env task
        (match task.state with
          | .succeeded => .taskCompleted
          | .retryWait => .taskRetryScheduled
          | _ => .taskDeadLettered)
        [("reconciled", .bool true)])

/-- Supersede one task, if it belongs to an older revision of the packet. -/
def supersedeOne (organizationId packetId : String) (newerRevision : ℚ)
    (acc : List String × Queue) (taskId : String) : List String × Queue :=
  let (superseded, q) := acc
  match q.tasks.get? taskId with
  | none => (superseded, q)
  | some task =>
    if task.organizationId = organizationId ∧ task.packetId = some packetId ∧
        task.packetRevision.any (· < newerRevision) ∧
        task.state ∉ [.deadLetter, .cancelled, .superseded] then
      let (now, q) := q.now env
      let task := { clearLease { task with
          state := .superseded
          supersededByRevision := some newerRevision } with
        updatedAt := env.host.toISOString now }
      let q := q.put task
      (superseded ++ [taskId],
        q.event env task .taskSuperseded [("newerRevision", .num newerRevision)])
    else (superseded, q)

def supersedePacket (organizationId packetId : String) (newerRevision : ℚ) :
    Outcome (List String) :=
  if !isSafeInteger newerRevision || newerRevision < 1 then
    (.error "New packet revision is invalid", q)
  else
    let (superseded, q) :=
      q.tasks.keys.foldl (supersedeOne env organizationId packetId newerRevision) ([], q)
    (.ok superseded, q)

/-- `cancel`: the state and the lease are written before the reason is checked. -/
def cancel (taskId reasonCode : String) : Outcome Bool :=
  match q.requireTask taskId with
  | .error e => (.error e, q)
  | .ok task =>
    if task.state ∈ [.succeeded, .deadLetter, .cancelled, .superseded] then (.ok false, q)
    else
      let task := clearLease { task with state := .cancelled }
      match safeCode reasonCode with
      | .error e => (.error e, q.put task)
      | .ok lastErrorCode =>
        let (now, q) := q.now env
        let task := { task with
          lastErrorCode := some lastErrorCode
          updatedAt := env.host.toISOString now }
        let q := q.put task
        (.ok true, q.event env task .taskCancelled [("reasonCode", .str lastErrorCode)])

end Queue

end InspectionHub.TaskQueue
