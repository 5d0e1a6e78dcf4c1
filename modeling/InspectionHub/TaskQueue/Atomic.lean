import InspectionHub.TaskQueue.Lease

/-!
# What a throw leaves behind

Every operation checks its arguments against the task it found before it
writes to it, with one exception: `cancel` writes the state and clears the
lease, and only then is the reason code checked. So a throw leaves the queue
as it was unless it is the throw of a `cancel` that got past its guard.

A throw does consume clock readings and identifiers; the contents of the
queue are its tasks, its idempotency index and its event log.
-/

namespace InspectionHub.TaskQueue

open Js

/-- Any public operation that can throw or write: the calls of a session, and
the assertion a worker makes before a side effect. -/
inductive Operation where
  | call (c : Call)
  | assertLease (command : LeaseCommand)

variable (env : Env)

/-- The reply is `none` where the operation returns nothing. -/
def perform (q : Queue) : Operation → Outcome (Option Reply)
  | .call c => ((exec env q c).1.map some, (exec env q c).2)
  | .assertLease command =>
      ((q.assertLease env command).1.map fun _ => none, (q.assertLease env command).2)

/-- The queue after a sequence of operations, thrown or not. -/
def queueAfter (ops : List Operation) : Queue :=
  ops.foldl (fun q op => (perform env q op).2) .initial

/-- The queues hold the same tasks, idempotency keys and events. -/
structure SameContents (q q' : Queue) : Prop where
  tasks : q'.tasks = q.tasks
  idempotencyIndex : q'.idempotencyIndex = q.idempotencyIndex
  events : q'.events = q.events

/-- If the operation throws, the contents are as before it. -/
def Atomic (q : Queue) (op : Operation) : Prop :=
  ∀ e, (perform env q op).1 = .error e → SameContents q (perform env q op).2

/-- The operation cancels a task that has not ended, for a reason that is no
safe code. -/
def CancelsUnsafely (q : Queue) (op : Operation) : Prop :=
  ∃ taskId reasonCode t, op = .call (.cancel taskId reasonCode) ∧
    q.tasks.get? taskId = some t ∧
    t.state ∉ [.succeeded, .deadLetter, .cancelled, .superseded] ∧ isSafeCode reasonCode = false

/-! ## Tasks stay under their own identifier -/

variable {env} {q : Queue}

theorem SameContents.refl (q : Queue) : SameContents q q := ⟨rfl, rfl, rfl⟩

variable (env) (q) in
/-- Looking a lease up only reads the clock. -/
theorem validLease_same (c : LeaseCommand) : SameContents q (q.validLease env c).2 := by
  unfold Queue.validLease
  split
  · exact .refl q
  · split
    · exact .refl q
    · split
      · exact .refl q
      · dsimp only
        split <;> exact ⟨rfl, rfl, rfl⟩

variable (env) (q) in
theorem assertLease_same (c : LeaseCommand) : SameContents q (q.assertLease env c).2 := by
  have h := validLease_same env q c
  unfold Queue.assertLease
  split
  · next heq =>
      rw [heq] at h
      exact h
  · next heq =>
      rw [heq] at h
      exact h

theorem keyed_perform (hk : Keyed q) (op : Operation) : Keyed (perform env q op).2 := by
  cases op with
  | call c => exact keyed_exec hk c
  | assertLease c =>
      intro id t ht
      rw [show (perform env q (.assertLease c)).2.tasks = q.tasks from
        (assertLease_same env q c).tasks] at ht
      exact hk id t ht

variable (env) in
theorem keyed_queueAfter (ops : List Operation) : Keyed (queueAfter env ops) := by
  have hstep : ∀ q op q', Keyed q → TSys.any q op →
      (TSys.ofFun Queue.initial fun q op => (perform env q op).2).Step q op q' → Keyed q' := by
    rintro q op q' hk - rfl
    exact keyed_perform hk op
  have hinit : Keyed .initial := fun id t h => by simp [Queue.initial] at h
  exact TSys.Inductive.invariant ⟨fun q h => h ▸ hinit, hstep⟩ (TSys.reachable_foldl _ _ ops)

/-! ## One lemma per operation that can throw -/

section Throws

variable (env) (q)

/-- A throw of the outcome leaves the contents as they were. -/
def Clean {α : Type} (q : Queue) (o : Outcome α) : Prop :=
  ∀ e, o.1 = .error e → SameContents q o.2

variable {env q}

variable {α : Type}

theorem clean_of_same {o : Outcome α} (h : SameContents q o.2) : Clean q o :=
  fun _ _ => h

theorem clean_ok {a : α} {q' : Queue} : Clean q (.ok a, q') := nofun

theorem Clean.reply {o : Outcome α} {f : α → Reply} (h : Clean q o) :
    Clean q (Outcome.reply o f) := by
  intro e he
  obtain ⟨r, q'⟩ := o
  cases r with
  | error e' => exact h e' rfl
  | ok a => cases he

variable (env) (q)

theorem chooseTaskId_same (taskId : Option String) :
    SameContents q (q.chooseTaskId env taskId).2 := by
  cases taskId <;> exact ⟨rfl, rfl, rfl⟩

theorem insertTask_clean {q' : Queue} (h : SameContents q q') (key : String)
    (task : AsyncTaskRecord) : Clean q (q'.insertTask env key task) := by
  unfold Queue.insertTask
  split
  · exact clean_of_same h
  · exact clean_ok

theorem enqueue_clean (input : EnqueueTask) : Clean q (q.enqueue env input) := by
  unfold Queue.enqueue
  split
  · exact clean_of_same (.refl q)
  · dsimp only
    split
    · split
      · exact clean_of_same (.refl q)
      · split
        · exact clean_of_same (.refl q)
        · exact clean_ok
    · -- the clock and the generator are read before a taken identifier is noticed
      have h := chooseTaskId_same env (q.now env).2 input.taskId
      exact insertTask_clean env q ⟨h.tasks, h.idempotencyIndex, h.events⟩ _ _

theorem lease_clean (workerId : String) (d : ℚ) : Clean q (q.lease env workerId d) := by
  unfold Queue.lease
  split
  · exact clean_of_same (.refl q)
  · dsimp only
    split <;> exact clean_ok

/-- Under a lease: `f` acts on the task found, in a queue of the same contents. -/
theorem underLease_clean {command : LeaseCommand} {o : Outcome Bool}
    {f : AsyncTaskRecord → Queue → Outcome Bool}
    (ho : o = match q.validLease env command with
      | (none, q) => (.ok false, q)
      | (some task, q) => f task q)
    (hf : ∀ task q', SameContents q q' → Clean q (f task q')) : Clean q o := by
  have h := validLease_same env q command
  subst ho
  split
  · exact clean_ok
  · next heq =>
      rw [heq] at h
      exact hf _ _ h

theorem heartbeat_clean (c : LeaseCommand) (d : ℚ) : Clean q (q.heartbeat env c d) := by
  refine underLease_clean env q rfl fun task q' h => ?_
  dsimp only
  split
  · exact clean_of_same h
  · exact clean_ok

theorem checkpoint_clean (c : LeaseCommand) (i : Queue.CheckpointInput) :
    Clean q (q.checkpoint env c i) := by
  refine underLease_clean env q rfl fun task q' h => ?_
  dsimp only
  split
  · exact clean_of_same h
  · split
    · exact clean_of_same h
    · exact clean_ok

theorem recordToolEvent_clean (c : LeaseCommand) (p : ToolPhase) (n : String)
    (r : Option String) : Clean q (q.recordToolEvent env c p n r) := by
  refine underLease_clean env q rfl fun task q' h => ?_
  split
  · exact clean_of_same h
  · exact clean_of_same h
  · exact clean_ok

theorem complete_clean (c : LeaseCommand) (r : Option String) :
    Clean q (q.complete env c r) :=
  underLease_clean env q rfl fun _ _ _ => clean_ok

theorem fail_clean (c : LeaseCommand) (errorCode : String) (r : Bool) (d : Option ℚ) :
    Clean q (q.fail env c errorCode r d) := by
  unfold Queue.fail
  split
  · exact clean_of_same (.refl q)
  · refine underLease_clean env q rfl fun task q' h => ?_
    dsimp only
    split
    · exact clean_of_same h
    · exact clean_ok

theorem markUnknown_clean (c : LeaseCommand) (hash : String) :
    Clean q (q.markUnknown env c hash) := by
  unfold Queue.markUnknown
  split
  · exact clean_of_same (.refl q)
  · exact underLease_clean env q rfl fun _ _ _ => clean_ok

theorem recordUnknownObservation_clean (id f hash : String) :
    Clean q (q.recordUnknownObservation env id f hash) := by
  unfold Queue.recordUnknownObservation
  split
  · exact clean_of_same (.refl q)
  · split
    · exact clean_of_same (.refl q)
    · split
      · exact clean_of_same (.refl q)
      · split
        · split
          · exact clean_of_same (.refl q)
          · exact clean_ok
        · split <;> exact clean_ok

theorem reconcileUnknown_clean (id hash : String) (o : Queue.Observed) :
    Clean q (q.reconcileUnknown env id hash o) := by
  unfold Queue.reconcileUnknown
  split
  · exact clean_of_same (.refl q)
  · split <;> exact clean_ok

theorem supersedePacket_clean (o p : String) (r : ℚ) :
    Clean q (q.supersedePacket env o p r) := by
  unfold Queue.supersedePacket
  split
  · exact clean_of_same (.refl q)
  · exact clean_ok

end Throws

variable (env) in
/-- Apart from `cancel`, no call that throws has written anything. -/
theorem exec_clean {c : Call} (hc : ∀ id r, c ≠ .cancel id r) : Clean q (exec env q c) := by
  cases c with
  | enqueue input => exact (enqueue_clean env q input).reply
  | lease w d => exact (lease_clean env q w d).reply
  | heartbeat l d => exact (heartbeat_clean env q l d).reply
  | checkpoint l i => exact (checkpoint_clean env q l i).reply
  | recordToolEvent l p n r => exact (recordToolEvent_clean env q l p n r).reply
  | complete l r => exact (complete_clean env q l r).reply
  | fail l e r d => exact (fail_clean env q l e r d).reply
  | markUnknown l hash => exact (markUnknown_clean env q l hash).reply
  | recordUnknownObservation id f hash =>
      exact (recordUnknownObservation_clean env q id f hash).reply
  | reconcileUnknown id hash o => exact (reconcileUnknown_clean env q id hash o).reply
  | supersedePacket o p r => exact (supersedePacket_clean env q o p r).reply
  | cancel id r => exact absurd rfl (hc id r)
  | recoverExpiredLeases => exact clean_ok
  | reconcileBlockedDependencies => exact clean_ok

/-! ## Cancelling -/

/-- A throw of `cancel` leaves the contents as they were unless the task had
not ended: then the task it stored is a cancelled one. -/
theorem cancel_clean_iff (hk : Keyed q) (id reason : String) :
    Clean q (q.cancel env id reason) ↔
      ¬ CancelsUnsafely q (.call (.cancel id reason)) := by
  constructor
  · rintro hclean ⟨_, _, t, heq, ht, hlive, hunsafe⟩
    cases heq
    have hout : q.cancel env id reason =
        (.error "Task error/reason code is not safe metadata",
          q.put (clearLease { t with state := .cancelled })) := by
      simp [Queue.cancel, Queue.requireTask, ht, hlive, safeCode, hunsafe]
    rw [hout] at hclean
    have htasks := (hclean _ rfl).tasks
    have hstored : q.tasks.get? id = some (clearLease { t with state := .cancelled }) := by
      have hid : (clearLease { t with state := .cancelled }).taskId = id := hk id t ht
      rw [← htasks, put_tasks, hid, OMap.get?_set_self]
    rw [ht] at hstored
    have hstate := congrArg AsyncTaskRecord.state (Option.some.inj hstored)
    exact hlive (by rw [hstate]; simp [clearLease])
  · intro hnot
    unfold Queue.cancel
    split
    · exact clean_of_same (.refl q)
    · next t hfound =>
        split
        · exact clean_ok
        · next hlive =>
            -- the reason is safe here, so the write is not followed by a throw
            have hsafe : isSafeCode reason = true := by
              by_contra hunsafe
              exact hnot ⟨id, reason, t, rfl, requireTask_ok hfound, hlive, by simpa using hunsafe⟩
            simp only [safeCode, hsafe, if_true]
            exact clean_ok

/-! ## Failure atomicity -/

theorem atomic_call_iff (c : Call) : Atomic env q (.call c) ↔ Clean q (exec env q c) := by
  unfold Atomic Clean
  show (∀ e, (exec env q c).1.map some = .error e → SameContents q (exec env q c).2) ↔ _
  cases (exec env q c).1 with
  | error e => exact ⟨fun h _ _ => h e rfl, fun h _ _ => h e rfl⟩
  | ok r => exact ⟨fun _ => nofun, fun _ => nofun⟩

/-- **Failure atomicity.** After any operations, a throw of the next one leaves
tasks, idempotency index and event log as they were, exactly if it does not
cancel a task that has not ended for a reason that is no safe code. -/
theorem failure_atomic_iff (env : Env) (ops : List Operation) (op : Operation) :
    Atomic env (queueAfter env ops) op ↔ ¬ CancelsUnsafely (queueAfter env ops) op := by
  have hk := keyed_queueAfter env ops
  generalize queueAfter env ops = q at hk ⊢
  cases op with
  | assertLease c =>
      refine iff_of_true (fun _ _ => assertLease_same env q c) ?_
      rintro ⟨_, _, _, heq, -⟩
      cases heq
  | call c =>
      rw [atomic_call_iff]
      by_cases hc : ∃ id r, c = .cancel id r
      · obtain ⟨id, r, rfl⟩ := hc
        rw [← cancel_clean_iff hk]
        refine ⟨fun h e he => h e ?_, fun h => h.reply⟩
        exact congrArg (Except.map Reply.bool) he
      · refine iff_of_true (exec_clean env fun id r heq => hc ⟨id, r, heq⟩) ?_
        rintro ⟨id, r, _, heq, -⟩
        cases heq
        exact hc ⟨id, r, rfl⟩

namespace Sample

/-- A platform whose clock stands still. -/
def still : Env where
  host := ⟨fun _ => none, fun _ => "1970-01-01T00:00:00.000Z", fun _ _ => .eq⟩
  now _ := 0
  randomUUID _ := "00000000-0000-4000-8000-000000000000"

def request : EnqueueTask where
  taskId := some "task-1"
  organizationId := "org"
  taskType := "report"
  aggregateType := "module"
  aggregateId := "m"
  idempotencyKey := "k"
  requestFingerprint := "0000000000000000000000000000000000000000000000000000000000000000"

/-- The reason is refused, and the task is cancelled without an event. -/
theorem cancel_not_atomic :
    ¬ ∀ env ops op, Atomic env (queueAfter env ops) op := by
  intro h
  have hq := h still [.call (.enqueue request)] (.call (.cancel "task-1" "Bad Reason"))
  have hevents := (hq _ rfl).tasks
  have hstate := congrArg (fun tasks => (tasks.get? "task-1").map AsyncTaskRecord.state) hevents
  exact absurd hstate (by decide)

end Sample

end InspectionHub.TaskQueue
