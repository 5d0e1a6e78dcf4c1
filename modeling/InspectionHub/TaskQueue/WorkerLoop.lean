import InspectionHub.Lib.Hoare
import InspectionHub.TaskQueue.Lease

/-!
# A worker cycle

`runWorkerCycle` of `packages/task-queue/src/worker-loop.ts`: lease a task, run
its handler under the lease, and complete or fail the task. While the handler
is awaited its own calls, the heartbeats and the calls of everyone else take
turns. Around it the cycle is synchronous.
-/

namespace InspectionHub.TaskQueue

/-- A thrown error, as the cycle tells errors apart. -/
inductive TaskError where
  /-- `RetryableTaskError` -/
  | retryable (code : String)
  /-- `UnknownTaskOutcome` -/
  | unknown (reconciliationKeyHash : String)
  | other (message : String)

inductive HandlerOutcome where
  | returned (resultArtifactId : Option String)
  | threw (error : TaskError)

/-- What happens until a handler settles. A call of the handler is followed by
whatever it makes of the answer. -/
inductive Handling where
  | settles (outcome : HandlerOutcome)
  /-- The heartbeat timer fires. -/
  | heartbeat (rest : Handling)
  | assertLease (rest : Except String Unit → Handling)
  | checkpoint (input : Queue.CheckpointInput) (rest : Except String Unit → Handling)
  /-- Any other call of the queue, by whomever. -/
  | call (c : Call) (rest : Except String Reply → Handling)

/-- A handler, given the task. -/
abbrev TaskHandler := AsyncTaskRecord → Handling

structure WorkerOptions where
  workerId : String
  leaseDurationMs : ℚ
  handlers : OMap String TaskHandler
  heartbeatIntervalMs : Option ℚ

inductive CycleResult where
  | idle | succeeded | retry_wait | unknown | dead_letter
deriving DecidableEq

/-- A computation on the queue that returns or throws. -/
abbrev Cycle (α : Type) := Tx TaskError Queue α

/-- A call of the queue; what it throws is an error like any other. -/
def call {α : Type} (operation : Queue → Outcome α) : Cycle α := fun q =>
  match operation q with
  | (.ok a, q) => .ok a q
  | (.error message, q) => .error (.other message) q

/-- `if (!operation) throw new Error(message)` -/
def require (operation : Queue → Outcome Bool) (message : String) : Cycle PUnit := do
  let accepted ← call operation
  Tx.throwIf (accepted = false) (.other message)

variable (env : Env)

/-- The handler runs under the lease; the flag is `heartbeatLost`. -/
def handle (command : LeaseCommand) (leaseDurationMs : ℚ) :
    Handling → Bool → Cycle (Option String)
  | .settles (.returned resultArtifactId), _ => fun q => .ok resultArtifactId q
  | .settles (.threw error), _ => fun q => .error error q
  | .heartbeat rest, heartbeatLost => fun q =>
      match q.heartbeat env command leaseDurationMs with
      | (.ok false, q) => handle command leaseDurationMs rest true q
      -- an accepted duration is within the policy, so the timer does not throw
      | (_, q) => handle command leaseDurationMs rest heartbeatLost q
  | .assertLease rest, heartbeatLost => fun q =>
      if heartbeatLost then
        handle command leaseDurationMs (rest (.error "Worker heartbeat lost its lease"))
          heartbeatLost q
      else
        let (answer, q) := q.assertLease env command
        handle command leaseDurationMs (rest answer) heartbeatLost q
  | .checkpoint input rest, heartbeatLost => fun q =>
      let (answer, q) := q.checkpoint env command input
      let answer : Except String Unit := answer.bind fun accepted =>
        if accepted then .ok () else .error "Worker lease was fenced before checkpoint commit"
      handle command leaseDurationMs (rest answer) heartbeatLost q
  | .call c rest, heartbeatLost => fun q =>
      let (answer, q) := exec env q c
      handle command leaseDurationMs (rest answer) heartbeatLost q

/-- The `try` block. -/
def tryTask (command : LeaseCommand) (leaseDurationMs : ℚ) (handling : Handling) :
    Cycle CycleResult := do
  require (·.recordToolEvent env command .requested "task.handler" none)
    "Worker lease was fenced before tool request"
  require (·.recordToolEvent env command .started "task.handler" none)
    "Worker lease was fenced before tool start"
  let resultArtifactId ← handle env command leaseDurationMs handling false
  require (·.recordToolEvent env command .result "task.handler" (some "success"))
    "Worker lease was fenced before tool result"
  require (·.complete env command resultArtifactId)
    "Worker lease was fenced before completion commit"
  return .succeeded

def TaskError.resultCode : TaskError → String
  | .unknown _ => "unknown"
  | .retryable _ => "retryable_failure"
  | .other _ => "terminal_failure"

/-- Fail the task the error was thrown for. -/
def failTask (command : LeaseCommand) (code : String) (retryable : Bool) (error : TaskError) :
    Cycle CycleResult := do
  let changed ← call (·.fail env command code retryable none)
  Tx.throwIf (changed = false) error
  let q ← get
  return if (q.tasks.get? command.taskId).map AsyncTaskRecord.state = some .retryWait then
    .retry_wait else .dead_letter

/-- The `catch` block. -/
def catchTask (task : AsyncTaskRecord) (command : LeaseCommand) (error : TaskError) :
    Cycle CycleResult := do
  let _ ← call (·.recordToolEvent env command .result "task.handler" (some error.resultCode))
  match error with
  | .unknown reconciliationKeyHash => do
      require (·.recordUnknownObservation env task.taskId task.requestFingerprint
          reconciliationKeyHash)
        "Provider unknown observation reached a terminal task"
      return .unknown
  | .retryable code => failTask env command code true error
  | .other _ => failTask env command "unhandled_task_error" false error

/-- `options.heartbeatIntervalMs ?? Math.max(100, Math.floor(options.leaseDurationMs / 3))` -/
def WorkerOptions.interval (options : WorkerOptions) : ℚ :=
  options.heartbeatIntervalMs.getD (max 100 (options.leaseDurationMs / 3).floor)

/-- The heartbeat intervals a cycle accepts. -/
def WorkerOptions.IntervalOk (options : WorkerOptions) : Prop :=
  Js.isSafeInteger options.interval = true ∧ 50 ≤ options.interval ∧
    options.interval < options.leaseDurationMs

instance (options : WorkerOptions) : Decidable options.IntervalOk :=
  inferInstanceAs (Decidable (_ ∧ _ ∧ _))

/-- The cycle, once it has a lease. -/
def runLease (options : WorkerOptions) (lease : TaskLease) : Cycle CycleResult :=
  match options.handlers.get? lease.task.taskType with
  | none => do
      let _ ← call (·.fail env lease.command "handler_not_registered" false none)
      return .dead_letter
  | some handler => do
      Tx.throwIf (¬ options.IntervalOk)
        (.other "Worker heartbeat interval must be shorter than its lease")
      Tx.catching (tryTask env lease.command options.leaseDurationMs (handler lease.task))
        (catchTask env lease.task lease.command)

def runWorkerCycle (options : WorkerOptions) : Cycle CycleResult := do
  match ← call (·.lease env options.workerId options.leaseDurationMs) with
  | none => return .idle
  | some lease => runLease env options lease

end InspectionHub.TaskQueue
