import InspectionHub.TaskQueue.Requests
import InspectionHub.TaskQueue.WorkerLoop

/-!
# What a worker cycle leaves behind

A cycle gives its lease back by completing the task, failing it or putting an
unknown outcome on record. The calls that do so refuse an expired lease, and
throw on codes and hashes that are not well formed, so the cycle leaves the
task running under its lease exactly when it comes to that (`Settles`).
-/

namespace InspectionHub.TaskQueue

open Js

variable {env : Env} {q : Queue} {command : LeaseCommand}

/-! ## Live leases -/

instance (t : AsyncTaskRecord) (command : LeaseCommand) : Decidable (t.Holds command) :=
  inferInstanceAs (Decidable (_ ∧ _ ∧ _))

instance (q : Queue) (command : LeaseCommand) : Decidable (q.Held command) :=
  decidable_of_iff (∃ t ∈ q.tasks.get? command.taskId, t.Holds command) (by
    simp only [Option.mem_def]
    rfl)

variable (env) in
/-- The next reading of the clock finds the task running under the lease,
which has not run out. -/
def Live (q : Queue) (command : LeaseCommand) : Prop := (q.validLease env command).1.isSome = true

instance (env : Env) (q : Queue) (command : LeaseCommand) : Decidable (Live env q command) :=
  inferInstanceAs (Decidable (_ = true))

variable {q' : Queue}

theorem held_same (htasks : q'.tasks = q.tasks) : q'.Held command ↔ q.Held command := by
  unfold Queue.Held
  rw [htasks]

/-- What a lookup finds: nothing, or the task that the lease holds. -/
theorem validLease_live (env : Env) (q : Queue) (command : LeaseCommand) :
    (¬ Live env q command ∧ ∃ q', q.validLease env command = (none, q') ∧ q'.tasks = q.tasks) ∨
      Live env q command ∧ ∃ t q', q.validLease env command = (some t, q') ∧
        q'.tasks = q.tasks ∧ q.tasks.get? command.taskId = some t ∧ t.Holds command := by
  unfold Live
  obtain ⟨q', hq', h | ⟨t, u, h, ht, hholds, -⟩⟩ := validLease_cases env q command
  · refine .inl ⟨?_, q', h, hq'⟩
    rw [h]
    exact nofun
  · refine .inr ⟨?_, t, q', h, hq', ht, hholds⟩
    rw [h]
    rfl

theorem Live.held (h : Live env q command) : q.Held command := by
  rcases validLease_live env q command with ⟨hnot, -⟩ | ⟨-, t, -, -, -, ht, hholds⟩
  · exact absurd h hnot
  · exact ⟨t, ht, hholds⟩

/-! ## The calls of a cycle -/

variable (env q command) in
/-- An event with well formed codes is recorded for a live lease. -/
theorem recordToolEvent_live (phase : ToolPhase) {name : String} {code : Option String}
    (hname : safeCode name = .ok name) (hcode : code.mapM safeCode = .ok code) :
    ∃ q', q.recordToolEvent env command phase name code =
      (.ok (decide (Live env q command)), q') ∧ q'.tasks = q.tasks := by
  rcases validLease_live env q command with ⟨hlive, q', h, htasks⟩ | ⟨hlive, t, q', h, htasks, -⟩
  · refine ⟨q', ?_, htasks⟩
    rw [decide_eq_false hlive]
    simp only [Queue.recordToolEvent, h]
  · rw [decide_eq_true hlive]
    simp only [Queue.recordToolEvent, h, hname, hcode]
    exact ⟨_, rfl, htasks⟩

variable (env command) in
/-- A live lease is completed. -/
theorem complete_live (hk : Keyed q) (resultArtifactId : Option String) :
    ∃ q', q.complete env command resultArtifactId = (.ok (decide (Live env q command)), q') ∧
      if Live env q command then ¬ q'.Held command else q'.tasks = q.tasks := by
  rcases validLease_live env q command with ⟨hlive, q', h, htasks⟩ | ⟨hlive, t, q', h, -⟩
  · refine ⟨q', ?_, by rwa [if_neg hlive]⟩
    rw [decide_eq_false hlive]
    simp only [Queue.complete, h]
  · have hok : (q.complete env command resultArtifactId).1 = .ok true := by
      simp only [Queue.complete, h]
    refine ⟨(q.complete env command resultArtifactId).2, ?_, ?_⟩
    · rw [decide_eq_true hlive, ← hok]
    · rw [if_pos hlive]
      exact (complete_stops env hk hok).not_held (List.mem_singleton_self _)

variable (env command) in
/-- Failing a live lease stops the task, if the code is well formed. -/
theorem fail_live (hk : Keyed q) (code : String) (retryable : Bool) :
    if Live env q command then
      if isSafeCode code then ∃ q', q.fail env command code retryable none = (.ok true, q') ∧
        ¬ q'.Held command
      else ∃ e q', q.fail env command code retryable none = (.error e, q') ∧ q'.tasks = q.tasks
    else ∃ q', q.fail env command code retryable none = (.ok false, q') ∧ q'.tasks = q.tasks := by
  rcases validLease_live env q command with ⟨hlive, q', h, htasks⟩ | ⟨hlive, t, q', h, htasks, -⟩
  · rw [if_neg hlive]
    refine ⟨q', ?_, htasks⟩
    rw [Queue.fail, Option.any_none, if_neg Bool.false_ne_true, h]
  · rw [if_pos hlive]
    split
    · next hsafe =>
        have hcode : safeCode code = .ok code := if_pos hsafe
        have hok : (q.fail env command code retryable none).1 = .ok true := by
          rw [Queue.fail, Option.any_none, if_neg Bool.false_ne_true, h]
          simp only [hcode]
        exact ⟨_, Prod.ext hok rfl, (fail_stops env hk hok).not_held (List.mem_singleton_self _)⟩
    · next hunsafe =>
        have hcode : safeCode code = .error "Task error/reason code is not safe metadata" :=
          if_neg hunsafe
        refine ⟨"Task error/reason code is not safe metadata", q', ?_, htasks⟩
        rw [Queue.fail, Option.any_none, if_neg Bool.false_ne_true, h]
        simp only [hcode]

variable (env) in
theorem becomeUnknown_unknown (q : Queue) (t : AsyncTaskRecord) (hash : String) :
    ∃ t', (q.becomeUnknown env t hash).tasks.get? t.taskId = some t' ∧ t'.state = .unknown := by
  refine ⟨{ clearLease { t with
      state := .unknown
      unknownReconciliationHash := some hash } with
    updatedAt := env.host.toISOString (q.now env).1 }, ?_, rfl⟩
  exact OMap.get?_set_self _ _ _

/-- An observation whose hash is not well formed is thrown out. -/
theorem recordUnknownObservation_unhashed {taskId fingerprint hash : String}
    (h : ¬ isHexDigest hash = true) : q.recordUnknownObservation env taskId fingerprint hash =
      (.error "Unknown provider reconciliation key must be hashed", q) := by
  unfold Queue.recordUnknownObservation
  rw [if_pos]
  rw [Bool.not_eq_true] at h
  rw [h]
  rfl

variable (env) in
/-- An observation with a well formed hash leaves the task under no lease, and
is accepted only when the task is then unknown. -/
theorem recordUnknownObservation_ends (hk : Keyed q) {t : AsyncTaskRecord}
    (ht : q.tasks.get? command.taskId = some t) {hash : String} (hhash : isHexDigest hash = true) :
    ¬ (q.recordUnknownObservation env command.taskId t.requestFingerprint hash).2.Held command ∧
      ((q.recordUnknownObservation env command.taskId t.requestFingerprint hash).1 = .ok true →
        ∃ t', (q.recordUnknownObservation env command.taskId t.requestFingerprint hash).2.tasks.get?
          command.taskId = some t' ∧ t'.state = .unknown) := by
  have hrequire : q.requireTask command.taskId = .ok t := by
    rw [Queue.requireTask, ht]
  have hnot : ∀ state, t.state = state → state ≠ .running → ¬ q.Held command := by
    rintro state hstate hrunning ⟨u, hu, hholds⟩
    rw [ht] at hu
    cases hu
    exact hrunning (hstate ▸ hholds.1)
  simp only [Queue.recordUnknownObservation, hhash, hrequire, Bool.not_true, Bool.false_eq_true,
    if_false, ne_eq, not_true_eq_false]
  by_cases hunknown : t.state = .unknown
  · rw [if_pos hunknown]
    split
    · exact ⟨hnot _ hunknown (by decide), (by rintro ⟨⟩)⟩
    · exact ⟨hnot _ hunknown (by decide), fun _ => ⟨t, ht, hunknown⟩⟩
  · rw [if_neg hunknown]
    split
    · next hended =>
        refine ⟨hnot _ rfl ?_, (by rintro ⟨⟩)⟩
        rintro hrunning
        rw [hrunning] at hended
        exact absurd hended (by decide)
    · refine ⟨(becomeUnknown_stops env hk ht hash).not_held (List.mem_singleton_self _), fun _ => ?_⟩
      rw [← hk _ _ ht]
      exact becomeUnknown_unknown env q t hash

/-! ## Steps of a cycle -/

theorem call_of {α : Type} {operation : Queue → Outcome α} {q q' : Queue} {a : α}
    (h : operation q = (.ok a, q')) : call operation q = .ok a q' := by
  unfold call
  rw [h]

theorem call_throws {α : Type} {operation : Queue → Outcome α} {q q' : Queue} {e : String}
    (h : operation q = (.error e, q')) : call operation q = .error (.other e) q' := by
  unfold call
  rw [h]

variable {operation : Queue → Outcome Bool}

/-- A call that must be accepted, and was. -/
theorem require_of {q q' : Queue} (h : operation q = (.ok true, q')) (message : String) :
    require operation message q = .ok ⟨⟩ q' := by
  unfold require
  rw [Tx.bind_of (call_of h)]
  rfl

/-- A call that must be accepted, and was not. -/
theorem require_refused {q q' : Queue} (h : operation q = (.ok false, q')) (message : String) :
    require operation message q = .error (.other message) q' := by
  unfold require
  rw [Tx.bind_of (call_of h)]
  rfl

theorem require_throws {q q' : Queue} {e : String} (h : operation q = (.error e, q'))
    (message : String) : require operation message q = .error (.other e) q' := by
  unfold require
  rw [Tx.bind_throws (call_throws h)]

/-- The queue after a required call is the one the call leaves. -/
theorem after_require (operation : Queue → Outcome Bool) (message : String) (q : Queue) :
    Tx.after (require operation message q) = (operation q).2 := by
  rcases h : operation q with ⟨e | accepted, q'⟩
  · rw [require_throws h message]
    rfl
  · cases accepted with
    | false =>
        rw [require_refused h message]
        rfl
    | true =>
        rw [require_of h message]
        rfl

/-- Returning leaves the queue alone. -/
theorem after_returning {α β : Type} (x : Cycle α) (result : β) (q : Queue) :
    Tx.after ((x >>= fun _ => (pure result : Cycle β)) q) = Tx.after (x q) := by
  cases h : x q with
  | ok a q' =>
      rw [Tx.bind_of h]
      rfl
  | error e q' =>
      rw [Tx.bind_throws h]
      rfl

/-- What returned past a required call was accepted. -/
theorem require_returned {message : String} {q q' : Queue}
    (h : require operation message q = .ok ⟨⟩ q') : operation q = (.ok true, q') := by
  rcases hop : operation q with ⟨e | accepted, q''⟩
  · rw [require_throws hop message] at h
    cases h
  · cases accepted with
    | false =>
        rw [require_refused hop message] at h
        cases h
    | true =>
        rw [require_of hop message] at h
        cases h
        rfl

theorem handler_code : safeCode "task.handler" = .ok "task.handler" := if_pos (by decide +kernel)

theorem no_code : (none : Option String).mapM safeCode = .ok none := rfl

theorem success_code : (some "success").mapM safeCode = .ok (some "success") := by
  have h : safeCode "success" = .ok "success" := if_pos (by decide +kernel)
  simp only [Option.mapM, h]
  rfl

theorem resultCode_code (error : TaskError) :
    (some error.resultCode).mapM safeCode = .ok (some error.resultCode) := by
  have hcodes : isSafeCode "unknown" = true ∧ isSafeCode "retryable_failure" = true ∧
      isSafeCode "terminal_failure" = true := by decide +kernel
  have h : safeCode error.resultCode = .ok error.resultCode := by
    cases error with
    | unknown hash => exact if_pos hcodes.1
    | retryable code => exact if_pos hcodes.2.1
    | other message => exact if_pos hcodes.2.2
  simp only [Option.mapM, h]
  rfl

/-! ## The `catch` block -/

variable (env) in
/-- The error can be put on record, should the task still run under the lease. -/
def Releases (command : LeaseCommand) (error : TaskError) (q : Queue) : Prop :=
  q.Held command →
    let q₁ := (q.recordToolEvent env command .result "task.handler" (some error.resultCode)).2
    match error with
    | .unknown reconciliationKeyHash => isHexDigest reconciliationKeyHash = true
    | .retryable code => Live env q₁ command ∧ isSafeCode code = true
    | .other _ => Live env q₁ command

instance (command : LeaseCommand) (error : TaskError) (q : Queue) :
    Decidable (Releases env command error q) :=
  match error with
  | .unknown hash => inferInstanceAs (Decidable (q.Held command → isHexDigest hash = true))
  | .retryable code =>
      inferInstanceAs (Decidable (q.Held command → Live env _ command ∧ isSafeCode code = true))
  | .other _ => inferInstanceAs (Decidable (q.Held command → Live env _ command))

/-- Failing gives a held lease back if it is live and the code well formed. -/
theorem failTask_released (hk : Keyed q) (code : String) (retryable : Bool) (error : TaskError) :
    ¬ (Tx.after (failTask env command code retryable error q)).Held command ↔
      (q.Held command → Live env q command ∧ isSafeCode code = true) := by
  have hfail := fail_live env command hk code retryable
  by_cases hlive : Live env q command
  · rw [if_pos hlive] at hfail
    split at hfail
    · next hsafe =>
        obtain ⟨q', hok, hnot⟩ := hfail
        rw [failTask, Tx.bind_of (call_of hok)]
        exact iff_of_true hnot fun _ => ⟨hlive, hsafe⟩
    · next hunsafe =>
        obtain ⟨e, q', herror, htasks⟩ := hfail
        rw [failTask, Tx.bind_throws (call_throws herror)]
        refine iff_of_false (not_not.mpr ?_) fun h => hunsafe (h hlive.held).2
        exact (held_same htasks).mpr hlive.held
  · rw [if_neg hlive] at hfail
    obtain ⟨q', hrefused, htasks⟩ := hfail
    rw [failTask, Tx.bind_of (call_of hrefused)]
    show ¬ q'.Held command ↔ _
    rw [held_same htasks]
    exact ⟨fun hnot hheld => absurd hheld hnot, fun h hheld => hlive (h hheld).1⟩

/-- The queue holds the task, with the request it was leased with. -/
def Stored (task : AsyncTaskRecord) (q : Queue) : Prop :=
  Keyed q ∧ ∃ t, q.tasks.get? task.taskId = some t ∧ t.request = task.request

theorem Stored.same {task : AsyncTaskRecord} (h : Stored task q) (htasks : q'.tasks = q.tasks) :
    Stored task q' := by
  unfold Stored Keyed
  rw [htasks]
  exact h

theorem Stored.exec {task : AsyncTaskRecord} (h : Stored task q) (c : Call) :
    Stored task (exec env q c).2 := by
  obtain ⟨hk, t, ht, hrequest⟩ := h
  obtain ⟨t', ht', hsame⟩ := exec_request env hk c ht
  exact ⟨keyed_exec hk c, t', ht', hsame.trans hrequest⟩

section Catch

variable {task : AsyncTaskRecord} (htask : task.taskId = command.taskId) (hstored : Stored task q)

include htask hstored

/-- The `catch` block gives a held lease back if the error can be put on record. -/
theorem catchTask_released (error : TaskError) :
    ¬ (Tx.after (catchTask env task command error q)).Held command ↔
      Releases env command error q := by
  obtain ⟨q₁, hevent, htasks⟩ := recordToolEvent_live env q command .result handler_code (resultCode_code error)
  have hstored₁ := hstored.same htasks
  unfold catchTask
  rw [Tx.bind_of (call_of hevent), Releases, hevent, ← held_same htasks]
  cases error with
  | retryable code => exact failTask_released hstored₁.1 code true _
  | other message =>
      have hsafe : isSafeCode "unhandled_task_error" = true := by decide +kernel
      refine (failTask_released hstored₁.1 _ _ _).trans ?_
      simp only [hsafe, and_true]
  | unknown hash =>
      obtain ⟨hk, t, ht, hrequest⟩ := hstored₁
      have hfingerprint : t.requestFingerprint = task.requestFingerprint :=
        congrArg TaskRequest.requestFingerprint hrequest
      rw [htask] at ht
      show ¬ (Tx.after ((require (·.recordUnknownObservation env task.taskId
        task.requestFingerprint hash) _ >>= fun _ => (pure .unknown : Cycle CycleResult)) q₁)).Held
          command ↔ (q₁.Held command → isHexDigest hash = true)
      rw [after_returning, after_require, htask, ← hfingerprint]
      by_cases hhash : isHexDigest hash = true
      · exact iff_of_true (recordUnknownObservation_ends env hk ht hhash).1 fun _ => hhash
      · rw [recordUnknownObservation_unhashed hhash]
        exact ⟨fun hnot hheld => absurd hheld hnot, fun h hheld => hhash (h hheld)⟩

/-- What the `catch` block returns is never `succeeded`, and `unknown` only for
a task that is. -/
theorem catchTask_returned {error : TaskError} {result : CycleResult}
    (h : catchTask env task command error q = .ok result q') :
    result ≠ .succeeded ∧ (result = .unknown →
      ∃ t, q'.tasks.get? command.taskId = some t ∧ t.state = .unknown) := by
  obtain ⟨q₁, hevent, htasks⟩ := recordToolEvent_live env q command .result handler_code (resultCode_code error)
  unfold catchTask at h
  rw [Tx.bind_of (call_of hevent)] at h
  have hfailed : ∀ code retryable error, failTask env command code retryable error q₁ = .ok result q' →
      result = .retry_wait ∨ result = .dead_letter := by
    intro code retryable error h
    obtain ⟨changed, q₂, -, h⟩ := Tx.bind_ok h
    obtain ⟨-, h⟩ := Tx.throwIf_ok h
    change EStateM.Result.ok (if _ then _ else _) q₂ = _ at h
    split at h
    · cases h
      exact .inl rfl
    · cases h
      exact .inr rfl
  have hended : result = .retry_wait ∨ result = .dead_letter → result ≠ .succeeded ∧
      (result = .unknown → ∃ t, q'.tasks.get? command.taskId = some t ∧ t.state = .unknown) := by
    rintro (rfl | rfl)
    · exact ⟨nofun, nofun⟩
    · exact ⟨nofun, nofun⟩
  cases error with
  | retryable code => exact hended (hfailed _ _ _ h)
  | other message => exact hended (hfailed _ _ _ h)
  | unknown hash =>
      obtain ⟨hk, t, ht, hrequest⟩ := hstored.same htasks
      have hfingerprint : t.requestFingerprint = task.requestFingerprint :=
        congrArg TaskRequest.requestFingerprint hrequest
      rw [htask] at ht
      obtain ⟨_, q₂, haccepted, h⟩ := Tx.bind_ok h
      cases h
      have hobserved := require_returned haccepted
      rw [htask, ← hfingerprint] at hobserved
      have hhash : isHexDigest hash = true := by
        by_contra hhash
        rw [recordUnknownObservation_unhashed hhash] at hobserved
        cases hobserved
      have hended := recordUnknownObservation_ends env hk ht hhash
      rw [hobserved] at hended
      exact ⟨nofun, fun _ => hended.2 rfl⟩

end Catch

/-! ## The `try` block -/

variable (env command) in
/-- The task stays stored while its handler runs. -/
theorem handle_stored {task : AsyncTaskRecord} (leaseDurationMs : ℚ) (handling : Handling)
    (heartbeatLost : Bool) (h : Stored task q) :
    Stored task (Tx.after (handle env command leaseDurationMs handling heartbeatLost q)) := by
  induction handling generalizing heartbeatLost q with
  | settles outcome =>
      cases outcome with
      | returned resultArtifactId => exact h
      | threw error => exact h
  | heartbeat rest ih =>
      have hbeat : Stored task (q.heartbeat env command leaseDurationMs).2 :=
        h.exec (.heartbeat command leaseDurationMs)
      unfold handle
      split
      · next q' heq =>
          rw [heq] at hbeat
          exact ih _ hbeat
      · next answer q' _ heq =>
          rw [heq] at hbeat
          exact ih _ hbeat
  | assertLease rest ih =>
      unfold handle
      split
      · exact ih _ _ h
      · exact ih _ _ (h.same (assertLease_same env q command).tasks)
  | checkpoint input rest ih => exact ih _ _ (h.exec (.checkpoint command input))
  | call c rest ih => exact ih _ _ (h.exec c)

variable (env) in
/-- What the handler comes to can be put on record, should the task still run
under the lease. -/
def Settles (command : LeaseCommand) : EStateM.Result TaskError Queue (Option String) → Prop
  | .error error q => Releases env command error q
  | .ok resultArtifactId q =>
      let q₁ := (q.recordToolEvent env command .result "task.handler" (some "success")).2
      if Live env q command then
        Live env q₁ command ∨
          Releases env command (.other "Worker lease was fenced before completion commit")
            (q₁.complete env command resultArtifactId).2
      else Releases env command (.other "Worker lease was fenced before tool result") q₁

instance (command : LeaseCommand) (result : EStateM.Result TaskError Queue (Option String)) :
    Decidable (Settles env command result) :=
  match result with
  | .error error q => inferInstanceAs (Decidable (Releases env command error q))
  | .ok _ q => inferInstanceAs (Decidable (if Live env q command then
      Live env _ command ∨ Releases env command _ _ else Releases env command _ _))

variable (env) in
/-- The lease is given back by a cycle that starts to run its task. -/
def GivesBack (command : LeaseCommand) (leaseDurationMs : ℚ) (handling : Handling) (q : Queue) :
    Prop :=
  let q₁ := (q.recordToolEvent env command .requested "task.handler" none).2
  let q₂ := (q₁.recordToolEvent env command .started "task.handler" none).2
  if Live env q command then
    if Live env q₁ command then
      Settles env command (handle env command leaseDurationMs handling false q₂)
    else Releases env command (.other "Worker lease was fenced before tool start") q₂
  else Releases env command (.other "Worker lease was fenced before tool request") q₁

instance (command : LeaseCommand) (leaseDurationMs : ℚ) (handling : Handling) (q : Queue) :
    Decidable (GivesBack env command leaseDurationMs handling q) :=
  inferInstanceAs (Decidable (if Live env q command then
    if Live env _ command then Settles env command _ else Releases env command _ _
    else Releases env command _ _))

section Try

variable {task : AsyncTaskRecord} (htask : task.taskId = command.taskId)

variable (env command) in
/-- An event of the `try` block is recorded, or its refusal thrown. -/
theorem require_event (phase : ToolPhase) {code : Option String}
    (hcode : code.mapM safeCode = .ok code) (message : String) (q : Queue) :
    ∃ q', (q.recordToolEvent env command phase "task.handler" code).2 = q' ∧
      q'.tasks = q.tasks ∧
      require (·.recordToolEvent env command phase "task.handler" code) message q =
        if Live env q command then .ok ⟨⟩ q' else .error (.other message) q' := by
  obtain ⟨q', hevent, htasks⟩ := recordToolEvent_live env q command phase handler_code hcode
  refine ⟨q', congrArg Prod.snd hevent, htasks, ?_⟩
  split
  · next hlive =>
      rw [decide_eq_true hlive] at hevent
      exact require_of hevent message
  · next hlive =>
      rw [decide_eq_false hlive] at hevent
      exact require_refused hevent message

include htask

/-- After the handler returned. -/
theorem completing_released (hstored : Stored task q) (resultArtifactId : Option String) :
    ¬ (Tx.after (Tx.catching (require (·.recordToolEvent env command .result "task.handler"
          (some "success")) "Worker lease was fenced before tool result" >>= fun _ =>
        require (·.complete env command resultArtifactId)
          "Worker lease was fenced before completion commit" >>= fun _ =>
            (pure .succeeded : Cycle CycleResult))
        (catchTask env task command) q)).Held command ↔
      Settles env command (.ok resultArtifactId q) := by
  obtain ⟨q₁, hq₁, htasks, hevent⟩ := require_event env command .result
    success_code "Worker lease was fenced before tool result" q
  have hstored₁ := hstored.same htasks
  rw [Settles, hq₁]
  by_cases hlive : Live env q command
  · rw [if_pos hlive] at hevent ⊢
    rw [Tx.catching_of hevent]
    obtain ⟨q₂, hcomplete, hq₂⟩ := complete_live env command hstored₁.1 resultArtifactId
    by_cases hlive₁ : Live env q₁ command
    · rw [decide_eq_true hlive₁] at hcomplete
      rw [if_pos hlive₁] at hq₂
      rw [Tx.catching_of (require_of hcomplete _)]
      exact iff_of_true hq₂ (.inl hlive₁)
    · rw [decide_eq_false hlive₁] at hcomplete
      rw [if_neg hlive₁] at hq₂
      rw [Tx.catching_throws (require_refused hcomplete _), hcomplete, or_iff_right hlive₁]
      exact catchTask_released htask (hstored₁.same hq₂) _
  · rw [if_neg hlive] at hevent ⊢
    rw [Tx.catching_throws hevent]
    exact catchTask_released htask hstored₁ _

/-- A cycle that starts to run its task. -/
theorem tryTask_released (hstored : Stored task q) (leaseDurationMs : ℚ) (handling : Handling) :
    ¬ (Tx.after (Tx.catching (tryTask env command leaseDurationMs handling)
        (catchTask env task command) q)).Held command ↔
      GivesBack env command leaseDurationMs handling q := by
  obtain ⟨q₁, hq₁, htasks₁, hrequested⟩ := require_event env command .requested no_code "Worker lease was fenced before tool request" q
  obtain ⟨q₂, hq₂, htasks₂, hstarted⟩ := require_event env command .started no_code "Worker lease was fenced before tool start" q₁
  have hstored₁ := hstored.same htasks₁
  have hstored₂ := hstored₁.same htasks₂
  rw [GivesBack, hq₁, hq₂, tryTask]
  by_cases hlive : Live env q command
  · rw [if_pos hlive] at hrequested ⊢
    rw [Tx.catching_of hrequested]
    by_cases hlive₁ : Live env q₁ command
    · rw [if_pos hlive₁] at hstarted ⊢
      rw [Tx.catching_of hstarted]
      have hhandled := handle_stored env command leaseDurationMs handling false hstored₂
      cases hresult : handle env command leaseDurationMs handling false q₂ with
      | ok resultArtifactId q₃ =>
          rw [hresult] at hhandled
          rw [Tx.catching_of hresult]
          exact completing_released htask hhandled resultArtifactId
      | error error q₃ =>
          rw [hresult] at hhandled
          rw [Tx.catching_throws hresult]
          exact catchTask_released htask hhandled error
    · rw [if_neg hlive₁] at hstarted ⊢
      rw [Tx.catching_throws hstarted]
      exact catchTask_released htask hstored₂ _
  · rw [if_neg hlive] at hrequested ⊢
    rw [Tx.catching_throws hrequested]
    exact catchTask_released htask hstored₁ _

end Try

/-! ## A whole cycle -/

variable (env command) in
/-- The task stays stored in the `try` block. -/
theorem tryTask_stored {task : AsyncTaskRecord} (hstored : Stored task q) (leaseDurationMs : ℚ)
    (handling : Handling) :
    Stored task (Tx.after (tryTask env command leaseDurationMs handling q)) := by
  have htrans : ∀ {s t u : Queue}, (Stored task s → Stored task t) →
      (Stored task t → Stored task u) → Stored task s → Stored task u := fun h h' hs => h' (h hs)
  have hrequire : ∀ (c : Call) (operation : Queue → Outcome Bool) message,
      (∀ q, (operation q).2 = (exec env q c).2) →
        Tx.Within (fun s t => Stored task s → Stored task t) (require operation message) := by
    intro c operation message hcall s hs
    rw [after_require, hcall]
    exact hs.exec c
  refine Tx.Within.bind (R := fun s t => Stored task s → Stored task t) htrans
    (hrequire (.recordToolEvent command .requested "task.handler" none) _ _ fun _ => rfl)
    (fun _ => ?_) q hstored
  refine Tx.Within.bind (R := fun s t => Stored task s → Stored task t) htrans
    (hrequire (.recordToolEvent command .started "task.handler" none) _ _ fun _ => rfl) fun _ => ?_
  refine Tx.Within.bind (R := fun s t => Stored task s → Stored task t) htrans
    (fun s hs => handle_stored env command leaseDurationMs handling false hs) fun id => ?_
  refine Tx.Within.bind (R := fun s t => Stored task s → Stored task t) htrans
    (hrequire (.recordToolEvent command .result "task.handler" (some "success")) _ _ fun _ => rfl)
    fun _ => ?_
  exact Tx.Within.bind (R := fun s t => Stored task s → Stored task t) htrans
    (hrequire (.complete command id) _ _ fun _ => rfl) fun _ s hs => hs

/-- The cycle gives the lease back, and answers `succeeded` only when the
completion was accepted and `unknown` only for a task that is. -/
structure KeepsLease (env : Env) (command : LeaseCommand)
    (result : EStateM.Result TaskError Queue CycleResult) : Prop where
  released : ¬ (Tx.after result).Held command
  succeeded : ∀ q', result = .ok .succeeded q' →
    ∃ (q : Queue) (id : _), q.complete env command id = (.ok true, q')
  unknown : ∀ q', result = .ok .unknown q' →
    ∃ t, q'.tasks.get? command.taskId = some t ∧ t.state = .unknown

variable {lease : TaskLease}

/-- What a cycle answers is so. -/
theorem runLease_returned {options : WorkerOptions} {result : CycleResult}
    (hstored : Stored lease.task q) (h : runLease env options lease q = .ok result q') :
    (result = .succeeded → ∃ (q₀ : Queue) (id : _), q₀.complete env lease.command id = (.ok true, q')) ∧
      (result = .unknown → ∃ t, q'.tasks.get? lease.command.taskId = some t ∧
        t.state = .unknown) := by
  unfold runLease at h
  cases hhandler : options.handlers.get? lease.task.taskType with
  | none =>
      rw [hhandler] at h
      obtain ⟨_, _, -, h⟩ := Tx.bind_ok h
      cases h
      exact ⟨nofun, nofun⟩
  | some handler =>
      rw [hhandler] at h
      obtain ⟨-, h⟩ := Tx.throwIf_ok h
      unfold Tx.catching at h
      cases htried : tryTask env lease.command options.leaseDurationMs (handler lease.task) q with
      | error error q₁ =>
          have hstored₁ := tryTask_stored env lease.command hstored options.leaseDurationMs
            (handler lease.task)
          rw [htried] at h hstored₁
          obtain ⟨hnot, hunknown⟩ := catchTask_returned rfl hstored₁ h
          exact ⟨fun heq => absurd heq hnot, hunknown⟩
      | ok answer q₁ =>
          rw [htried] at h
          cases h
          obtain ⟨_, _, -, h⟩ := Tx.bind_ok htried
          obtain ⟨_, _, -, h⟩ := Tx.bind_ok h
          obtain ⟨id, _, -, h⟩ := Tx.bind_ok h
          obtain ⟨_, _, -, h⟩ := Tx.bind_ok h
          obtain ⟨_, q₂, hcompleted, h⟩ := Tx.bind_ok h
          cases h
          exact ⟨fun _ => ⟨_, id, require_returned hcompleted⟩, nofun⟩

variable (env) in
/-- There is a handler and an interval for it, and what it comes to can be put
on record; without a handler, the lease has not run out. -/
def LeaseReturned (options : WorkerOptions) (lease : TaskLease) (q : Queue) : Prop :=
  match options.handlers.get? lease.task.taskType with
  | none => Live env q lease.command
  | some handler => options.IntervalOk ∧
      GivesBack env lease.command options.leaseDurationMs (handler lease.task) q

instance (options : WorkerOptions) (lease : TaskLease) (q : Queue) :
    Decidable (LeaseReturned env options lease q) := by
  unfold LeaseReturned
  cases options.handlers.get? lease.task.taskType <;> infer_instance

theorem runLease_released {options : WorkerOptions} (hstored : Stored lease.task q)
    (hheld : q.Held lease.command) :
    ¬ (Tx.after (runLease env options lease q)).Held lease.command ↔
      LeaseReturned env options lease q := by
  unfold runLease LeaseReturned
  cases options.handlers.get? lease.task.taskType with
  | none =>
      have hsafe : isSafeCode "handler_not_registered" = true := by decide +kernel
      have hfail := fail_live env lease.command hstored.1 "handler_not_registered" false
      rw [if_pos hsafe] at hfail
      by_cases hlive : Live env q lease.command
      · rw [if_pos hlive] at hfail
        obtain ⟨q', hok, hnot⟩ := hfail
        refine iff_of_true ?_ hlive
        dsimp only
        rw [after_returning, call_of hok]
        exact hnot
      · rw [if_neg hlive] at hfail
        obtain ⟨q', hrefused, htasks⟩ := hfail
        refine iff_of_false (not_not.mpr ?_) hlive
        dsimp only
        rw [after_returning, call_of hrefused]
        exact (held_same htasks).mpr hheld
  | some handler =>
      dsimp only
      by_cases hinterval : options.IntervalOk
      · rw [Tx.bind_of (Tx.throwIf_of (not_not.mpr hinterval)),
          tryTask_released rfl hstored]
        exact (and_iff_right hinterval).symm
      · have hthrows : (Tx.throwIf (¬ options.IntervalOk)
            (.other "Worker heartbeat interval must be shorter than its lease") : Cycle PUnit) q =
              .error (.other "Worker heartbeat interval must be shorter than its lease") q :=
          if_pos hinterval
        rw [Tx.bind_throws hthrows]
        exact iff_of_false (not_not.mpr hheld) fun h => hinterval h.1

/-- A lease handed out is held, for a task that is stored. -/
theorem leased_stored {workerId : String} {leaseDurationMs : ℚ} (hk : Keyed q)
    (h : q.lease env workerId leaseDurationMs = (.ok (some lease), q')) :
    Stored lease.task q' ∧ q'.Held lease.command := by
  have hkeyed : Keyed (q.lease env workerId leaseDurationMs).2 :=
    keyed_exec hk (.lease workerId leaseDurationMs)
  rcases lease_cases env hk workerId leaseDurationMs with ⟨-, hnone⟩ | ⟨l, q₁, t, hl, hleases⟩
  · exact absurd (congrArg Prod.fst h) (hnone lease)
  · rw [h] at hkeyed hl hleases
    cases hl
    have hget : q'.tasks.get? lease.task.taskId = some lease.task := by
      rw [hleases.stored, hleases.taskId]
      exact OMap.get?_set_self _ _ _
    refine ⟨⟨hkeyed, lease.task, hget, rfl⟩, lease.task, hget, hleases.state, ?_, hleases.token⟩
    rw [hleases.generation.1]
    exact hleases.generation.2.symm

/-- **Worker cycles.** On any queue, with any options, whatever the handler
does and whoever calls the queue meanwhile: a cycle that leases a task keeps
its lease exactly if there is a handler whose heartbeat interval is accepted,
and, should the task still run under the lease when the handler is done, the
lease has not run out, and what was thrown carries a well formed code or hash. -/
theorem worker_cycle_keeps_lease (env : Env) (ops : List Operation) (options : WorkerOptions)
    {lease : TaskLease} {q : Queue}
    (hlease : (queueAfter env ops).lease env options.workerId options.leaseDurationMs =
      (.ok (some lease), q)) :
    KeepsLease env lease.command (runWorkerCycle env options (queueAfter env ops)) ↔
      LeaseReturned env options lease q := by
  obtain ⟨hstored, hheld⟩ := leased_stored (keyed_queueAfter env ops) hlease
  have hcycle : runWorkerCycle env options (queueAfter env ops) = runLease env options lease q := by
    unfold runWorkerCycle
    rw [Tx.bind_of (call_of hlease)]
  rw [hcycle, ← runLease_released hstored hheld]
  refine ⟨KeepsLease.released, fun hreleased => ⟨hreleased, fun q' h => ?_, fun q' h => ?_⟩⟩
  · exact (runLease_returned hstored h).1 rfl
  · exact (runLease_returned hstored h).2 rfl

/-! ## A code of the provider -/

namespace Sample

/-- A clock that stands still, and two texts of times. -/
def standing : Env where
  host :=
    { dateParse := fun text => if text = "1970-01-01T00:00:00.000Z" then some 0 else some 1000
      toISOString := fun ms =>
        if ms = 0 then "1970-01-01T00:00:00.000Z" else "1970-01-01T00:00:01.000Z"
      localeCompare := compare }
  now _ := 0
  randomUUID _ := "00000000-0000-4000-8000-000000000000"

/-- A worker whose handler has one outcome. -/
def working (outcome : HandlerOutcome) : WorkerOptions where
  workerId := "worker-1"
  leaseDurationMs := 1000
  handlers := OMap.empty.set "report" fun _ => .settles outcome
  heartbeatIntervalMs := none

/-- The queue with one task waiting, and the lease the worker is given. -/
def given (outcome : HandlerOutcome) : Outcome (Option TaskLease) :=
  (queueAfter standing [.call (.enqueue request)]).lease standing (working outcome).workerId
    (working outcome).leaseDurationMs

/-- What holds of the lease and the queue it is given in. -/
def afterLease (outcome : HandlerOutcome) (p : TaskLease → Queue → Bool) : Bool :=
  match given outcome with
  | (.ok (some lease), q) => p lease q
  | _ => false

theorem exists_lease {outcome : HandlerOutcome} {p : TaskLease → Queue → Bool}
    (h : afterLease outcome p = true) :
    ∃ lease q, given outcome = (.ok (some lease), q) ∧ p lease q = true := by
  unfold afterLease at h
  split at h
  · next lease q heq => exact ⟨lease, q, heq, h⟩
  · cases h

theorem cycle_completes : ∃ lease q, given (.returned none) = (.ok (some lease), q) ∧
    KeepsLease standing lease.command (runWorkerCycle standing (working (.returned none))
      (queueAfter standing [.call (.enqueue request)])) := by
  have hreturned : afterLease (.returned none) (fun lease q =>
      decide (LeaseReturned standing (working (.returned none)) lease q)) = true := by
    decide +kernel
  obtain ⟨lease, q, hlease, hreturned⟩ := exists_lease hreturned
  refine ⟨lease, q, hlease, ?_⟩
  exact (worker_cycle_keeps_lease standing [.call (.enqueue request)] (working (.returned none))
    hlease).mpr (of_decide_eq_true hreturned)

/-- The code a handler passes on is no safe code, and the task stays running. -/
theorem cycle_abandons_lease :
    ¬ ∀ (env : Env) ops (options : WorkerOptions) (lease : TaskLease) q,
      (queueAfter env ops).lease env options.workerId options.leaseDurationMs =
        (.ok (some lease), q) →
      KeepsLease env lease.command (runWorkerCycle env options (queueAfter env ops)) := by
  intro h
  have hrunning : afterLease (.threw (.retryable "RATE_LIMITED")) (fun lease _ =>
      decide ((Tx.after (runWorkerCycle standing (working (.threw (.retryable "RATE_LIMITED")))
        (queueAfter standing [.call (.enqueue request)]))).Held lease.command)) = true := by
    decide +kernel
  obtain ⟨lease, q, hlease, hrunning⟩ := exists_lease hrunning
  exact (h standing [.call (.enqueue request)] _ lease q hlease).released
    (of_decide_eq_true hrunning)

end Sample

end InspectionHub.TaskQueue
