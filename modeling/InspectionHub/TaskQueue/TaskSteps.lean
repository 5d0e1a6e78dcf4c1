import InspectionHub.TaskQueue.InMemoryQueue

/-!
# What a call does to a task

Every call except `lease` moves each task by a `Quiet` step: the attempt
count and the lease generation stay, no task starts running, and a running
task keeps its token. `lease` is a quiet step of all tasks followed by one
task starting to run under the next generation. The invariants of the queue
are derived from these two facts.
-/

namespace InspectionHub.TaskQueue

open Js

/-- The task runs under the lease `p` was given. -/
def AsyncTaskRecord.Holds (t : AsyncTaskRecord) (p : LeaseCommand) : Prop :=
  t.state = .running ∧ t.leaseGeneration = p.generation ∧ t.leaseToken = some p.leaseToken

/-- Lease fields are present exactly while running; attempts count leases. -/
structure WellLeased (t : AsyncTaskRecord) : Prop where
  token : t.leaseToken.isSome ↔ t.state = .running
  until' : t.leasedUntil.isSome ↔ t.state = .running
  attempts : t.leaseGeneration = t.attemptCount

/-- What a task may undergo in a call that leases nothing. -/
structure Quiet (t t' : AsyncTaskRecord) : Prop where
  taskId : t'.taskId = t.taskId
  generation : t'.leaseGeneration = t.leaseGeneration
  attempts : t'.attemptCount = t.attemptCount
  running : t'.state = .running → t.state = .running ∧ t'.leaseToken = t.leaseToken
  wellLeased : WellLeased t → WellLeased t'

theorem Quiet.refl (t : AsyncTaskRecord) : Quiet t t :=
  ⟨rfl, rfl, rfl, fun h => ⟨h, rfl⟩, id⟩

theorem Quiet.trans {t t' t'' : AsyncTaskRecord} (h : Quiet t t') (h' : Quiet t' t'') :
    Quiet t t'' where
  taskId := h'.taskId.trans h.taskId
  generation := h'.generation.trans h.generation
  attempts := h'.attempts.trans h.attempts
  running hr := by
    obtain ⟨hr', htok'⟩ := h'.running hr
    obtain ⟨hr'', htok⟩ := h.running hr'
    exact ⟨hr'', htok'.trans htok⟩
  wellLeased hw := h'.wellLeased (h.wellLeased hw)

variable {t t' : AsyncTaskRecord}

/-- A lease that a quiet step leaves held was held before it. -/
theorem Quiet.holds (h : Quiet t t') {p : LeaseCommand} (hp : t'.Holds p) : t.Holds p := by
  obtain ⟨hrun, hgen, htok⟩ := hp
  obtain ⟨hrun', htok'⟩ := h.running hrun
  exact ⟨hrun', h.generation ▸ hgen, htok' ▸ htok⟩

/-- Leaving or staying out of `running` with the lease cleared is quiet. -/
theorem quiet_clearLease (hid : t'.taskId = t.taskId)
    (hgen : t'.leaseGeneration = t.leaseGeneration) (hatt : t'.attemptCount = t.attemptCount)
    (hstate : t'.state ≠ .running) (htok : t'.leaseToken = none) (huntil : t'.leasedUntil = none) :
    Quiet t t' where
  taskId := hid
  generation := hgen
  attempts := hatt
  running h := absurd h hstate
  wellLeased hw := ⟨by simp [htok, hstate], by simp [huntil, hstate], by
    rw [hgen, hatt]; exact hw.attempts⟩

/-- A task that was not running and moves to another state is quiet. -/
theorem quiet_waiting (hid : t'.taskId = t.taskId) (hgen : t'.leaseGeneration = t.leaseGeneration)
    (hatt : t'.attemptCount = t.attemptCount) (hold : t.state ≠ .running)
    (hnew : t'.state ≠ .running) (htok : t'.leaseToken = t.leaseToken)
    (huntil : t'.leasedUntil = t.leasedUntil) :
    Quiet t t' where
  taskId := hid
  generation := hgen
  attempts := hatt
  running h := absurd h hnew
  wellLeased hw := by
    have htok' := hw.token
    have huntil' := hw.until'
    simp only [hold, iff_false, ← htok, ← huntil] at htok' huntil'
    exact ⟨by simp [hnew, htok'], by simp [hnew, huntil'], by rw [hgen, hatt]; exact hw.attempts⟩

/-- A running task whose lease is prolonged in place is quiet. -/
theorem quiet_extend (hid : t'.taskId = t.taskId) (hgen : t'.leaseGeneration = t.leaseGeneration)
    (hatt : t'.attemptCount = t.attemptCount) (hold : t.state = .running)
    (hnew : t'.state = .running) (htok : t'.leaseToken = t.leaseToken)
    (huntil : t'.leasedUntil.isSome = t.leasedUntil.isSome) : Quiet t t' where
  taskId := hid
  generation := hgen
  attempts := hatt
  running _ := ⟨hold, htok⟩
  wellLeased hw := by
    have htok' := hw.token
    have huntil' := hw.until'
    simp only [hold, iff_true, ← htok, ← huntil] at htok' huntil'
    exact ⟨by simp [hnew, htok'], by simp [hnew, huntil'], by rw [hgen, hatt]; exact hw.attempts⟩

/-! ## Quiet calls -/

/-- Every task is stored under its own identifier. -/
def Keyed (q : Queue) : Prop := ∀ id t, q.tasks.get? id = some t → t.taskId = id

/-- No task appears or disappears, and each moves quietly. -/
def QuietTasks (q q' : Queue) : Prop :=
  ∀ id, Option.Rel Quiet (q.tasks.get? id) (q'.tasks.get? id)

theorem QuietTasks.of_eq {q q' : Queue} (h : q'.tasks = q.tasks) : QuietTasks q q' := by
  intro id
  rw [h]
  cases q.tasks.get? id with
  | none => exact .none
  | some t => exact .some (.refl t)

theorem QuietTasks.refl (q : Queue) : QuietTasks q q := .of_eq rfl

theorem QuietTasks.trans {q q' q'' : Queue} (h : QuietTasks q q') (h' : QuietTasks q' q'') :
    QuietTasks q q'' := by
  intro id
  have h₁ := h id
  have h₂ := h' id
  revert h₁ h₂
  cases q.tasks.get? id <;> cases q'.tasks.get? id <;> cases q''.tasks.get? id <;>
    simp only [Option.rel_some_some, Option.rel_none_none, Option.not_rel_some_none,
      Option.not_rel_none_some, imp_self, IsEmpty.forall_iff, implies_true, imp_false]
  exact Quiet.trans

variable {id : String}

theorem QuietTasks.forward {q q' : Queue} (h : QuietTasks q q') {t : AsyncTaskRecord}
    (ht : q.tasks.get? id = some t) : ∃ t', q'.tasks.get? id = some t' ∧ Quiet t t' := by
  have hid := h id
  rw [ht] at hid
  cases hq : q'.tasks.get? id with
  | none => rw [hq] at hid; cases hid
  | some t' =>
      rw [hq] at hid
      cases hid with
      | some hquiet => exact ⟨t', rfl, hquiet⟩

theorem QuietTasks.back {q q' : Queue} (h : QuietTasks q q') {t' : AsyncTaskRecord}
    (ht : q'.tasks.get? id = some t') : ∃ t, q.tasks.get? id = some t ∧ Quiet t t' := by
  have hid := h id
  rw [ht] at hid
  cases hq : q.tasks.get? id with
  | none => rw [hq] at hid; cases hid
  | some t =>
      rw [hq] at hid
      cases hid with
      | some hquiet => exact ⟨t, rfl, hquiet⟩

theorem QuietTasks.keyed {q q' : Queue} (h : QuietTasks q q') (hk : Keyed q) : Keyed q' := by
  intro id t' ht'
  obtain ⟨t, ht, hquiet⟩ := h.back ht'
  rw [hquiet.taskId]
  exact hk id t ht

/-- Replacing one stored task by a quiet successor is quiet. -/
theorem quietTasks_put {q q' : Queue} (hk : Keyed q) (ht : q.tasks.get? id = some t)
    (hquiet : Quiet t t') (hq' : q'.tasks = q.tasks.set t'.taskId t') : QuietTasks q q' := by
  intro j
  have hid : t'.taskId = id := hquiet.taskId.trans (hk id t ht)
  rw [hq', hid, OMap.get?_set]
  split
  · next h => rw [h, ht]; exact .some hquiet
  · exact QuietTasks.refl q j

/-! ## The parts that store no task -/

variable (env : Env) (q : Queue)

@[simp] theorem now_tasks : (q.now env).2.tasks = q.tasks := rfl

@[simp] theorem randomUUID_tasks : (q.randomUUID env).2.tasks = q.tasks := rfl

@[simp] theorem event_tasks (t : AsyncTaskRecord) (e : EventType) (m : List (String × Meta)) :
    (q.event env t e m).tasks = q.tasks := rfl

@[simp] theorem put_tasks (t : AsyncTaskRecord) : (q.put t).tasks = q.tasks.set t.taskId t := rfl

/-- Some stored task runs under `p`. -/
def Queue.Held (p : LeaseCommand) : Prop := ∃ t, q.tasks.get? p.taskId = some t ∧ t.Holds p

/-- `#validLease` refuses, or finds the task that runs under the lease. -/
theorem validLease_cases (c : LeaseCommand) :
    ∃ q₁, q₁.tasks = q.tasks ∧
      (q.validLease env c = (none, q₁) ∨
        ∃ t u, q.validLease env c = (some t, q₁) ∧ q.tasks.get? c.taskId = some t ∧
          t.Holds c ∧ t.leasedUntil = some u) := by
  unfold Queue.validLease
  cases ht : q.tasks.get? c.taskId with
  | none => exact ⟨q, rfl, .inl rfl⟩
  | some t =>
      dsimp only
      split
      · exact ⟨q, rfl, .inl rfl⟩
      · next hcond =>
          simp only [Bool.or_eq_true, decide_eq_true_eq, not_or, not_not] at hcond
          cases hu : t.leasedUntil with
          | none => exact ⟨q, rfl, .inl rfl⟩
          | some u =>
              refine ⟨(q.now env).2, rfl, ?_⟩
              by_cases hexp : env.host.parsesBefore u (env.now q.clockReads)
              · exact .inl (by simp [Queue.now, hexp])
              · exact .inr ⟨t, u, by simp [Queue.now, hexp], rfl,
                  ⟨hcond.1.1, hcond.1.2, hcond.2⟩, hu⟩

/-! ## One lemma per call -/

section Calls

variable {q : Queue} (hk : Keyed q)

omit hk in
theorem requireTask_ok {t : AsyncTaskRecord} (h : q.requireTask id = .ok t) :
    q.tasks.get? id = some t := by
  unfold Queue.requireTask at h
  split at h
  · next ht => cases h; exact ht
  · cases h

omit hk in
theorem recordToolEvent_tasks (c : LeaseCommand) (p : ToolPhase) (n : String)
    (r : Option String) : (q.recordToolEvent env c p n r).2.tasks = q.tasks := by
  obtain ⟨q₁, hq₁, h | ⟨t, u, h, -⟩⟩ := validLease_cases env q c
  · simp only [Queue.recordToolEvent, h]
    exact hq₁
  · simp only [Queue.recordToolEvent, h]
    split <;> exact hq₁

include hk

theorem quiet_put_event {r : Queue} (hr : r.tasks = q.tasks) (ht : q.tasks.get? id = some t)
    (hquiet : Quiet t t') (e : EventType) (m : List (String × Meta)) :
    QuietTasks q ((r.put t').event env t' e m) :=
  quietTasks_put hk ht hquiet (by rw [event_tasks, put_tasks, hr])

theorem becomeUnknown_quiet {q₁ : Queue} (hq₁ : q₁.tasks = q.tasks) {t : AsyncTaskRecord}
    (ht : q.tasks.get? id = some t) (hash : String) :
    QuietTasks q (q₁.becomeUnknown env t hash) := by
  refine quiet_put_event env hk (r := (q₁.now env).2) hq₁ ht ?_ _ _
  exact quiet_clearLease rfl rfl rfl (by simp [clearLease]) rfl rfl

theorem heartbeat_quiet (c : LeaseCommand) (d : ℚ) : QuietTasks q (q.heartbeat env c d).2 := by
  obtain ⟨q₁, hq₁, h | ⟨t, u, h, ht, hheld, hu⟩⟩ := validLease_cases env q c
  · simp only [Queue.heartbeat, h]
    exact .of_eq hq₁
  · simp only [Queue.heartbeat, h]
    split
    · exact .of_eq hq₁
    · refine quiet_put_event env hk (r := (q₁.now env).2) hq₁ ht ?_ _ _
      exact quiet_extend rfl rfl rfl hheld.1 hheld.1 rfl (by simp [hu])

theorem checkpoint_quiet (c : LeaseCommand) (i : Queue.CheckpointInput) :
    QuietTasks q (q.checkpoint env c i).2 := by
  obtain ⟨q₁, hq₁, h | ⟨t, u, h, ht, hheld, hu⟩⟩ := validLease_cases env q c
  · simp only [Queue.checkpoint, h]
    exact .of_eq hq₁
  · simp only [Queue.checkpoint, h]
    split
    · exact .of_eq hq₁
    · split
      · exact .of_eq hq₁
      · refine quiet_put_event env hk (r := ((q₁.randomUUID env).2.now env).2) hq₁ ht ?_ _ _
        exact quiet_extend rfl rfl rfl hheld.1 hheld.1 rfl rfl

theorem complete_quiet (c : LeaseCommand) (r : Option String) :
    QuietTasks q (q.complete env c r).2 := by
  obtain ⟨q₁, hq₁, h | ⟨t, u, h, ht, hheld, hu⟩⟩ := validLease_cases env q c
  · simp only [Queue.complete, h]
    exact .of_eq hq₁
  · simp only [Queue.complete, h]
    refine quiet_put_event env hk (r := (q₁.now env).2) hq₁ ht ?_ _ _
    exact quiet_clearLease rfl rfl rfl (by simp [clearLease]) rfl rfl

theorem fail_quiet (c : LeaseCommand) (e : String) (r : Bool) (d : Option ℚ) :
    QuietTasks q (q.fail env c e r d).2 := by
  unfold Queue.fail
  split
  · exact .refl q
  · obtain ⟨q₁, hq₁, h | ⟨t, u, h, ht, hheld, hu⟩⟩ := validLease_cases env q c
    · simp only [h]
      exact .of_eq hq₁
    · simp only [h]
      split
      · exact .of_eq hq₁
      · refine quiet_put_event env hk (r := ((q₁.now env).2.now env).2) hq₁ ht ?_ _ _
        refine quiet_clearLease rfl rfl rfl ?_ rfl rfl
        simp only [clearLease]
        split <;> decide

theorem markUnknown_quiet (c : LeaseCommand) (hash : String) :
    QuietTasks q (q.markUnknown env c hash).2 := by
  unfold Queue.markUnknown
  split
  · exact .refl q
  · obtain ⟨q₁, hq₁, h | ⟨t, u, h, ht, hheld, hu⟩⟩ := validLease_cases env q c
    · simp only [h]
      exact .of_eq hq₁
    · simp only [h]
      exact becomeUnknown_quiet env hk hq₁ ht hash

theorem recordUnknownObservation_quiet (id f hash : String) :
    QuietTasks q (q.recordUnknownObservation env id f hash).2 := by
  unfold Queue.recordUnknownObservation
  split
  · exact .refl q
  · split
    · exact .refl q
    · next t ht =>
        split
        · exact .refl q
        · split
          · split <;> exact .refl q
          · split
            · exact .refl q
            · exact becomeUnknown_quiet env hk rfl (requireTask_ok ht) hash

theorem reconcileUnknown_quiet (id hash : String) (o : Queue.Observed) :
    QuietTasks q (q.reconcileUnknown env id hash o).2 := by
  unfold Queue.reconcileUnknown
  split
  · exact .refl q
  · next t ht =>
      split
      · exact .refl q
      · next hcond =>
          simp only [ne_eq, not_or, not_not] at hcond
          refine quiet_put_event env hk (r := (q.now env).2) rfl (requireTask_ok ht) ?_ _ _
          refine quiet_waiting rfl rfl rfl (by simp [hcond.1]) ?_ rfl rfl
          dsimp only
          cases o with
          | succeeded => exact nofun
          | failed => exact nofun
          | retry => dsimp only; split <;> exact nofun

theorem cancel_quiet (id r : String) : QuietTasks q (q.cancel env id r).2 := by
  unfold Queue.cancel
  split
  · exact .refl q
  · next t ht =>
      split
      · exact .refl q
      · dsimp only
        split
        · refine quietTasks_put hk (requireTask_ok ht) ?_ (put_tasks q _)
          exact quiet_clearLease rfl rfl rfl (by simp [clearLease]) rfl rfl
        · refine quiet_put_event env hk (r := (q.now env).2) rfl (requireTask_ok ht) ?_ _ _
          exact quiet_clearLease rfl rfl rfl (by simp [clearLease]) rfl rfl

/-! ## Sweeps over all tasks -/

/-- The tasks a sweep reports are not running when it ends. -/
def Reported (ids : List String) (q : Queue) : Prop :=
  ∀ id ∈ ids, ∃ t, q.tasks.get? id = some t ∧ t.state ≠ .running

omit hk in
theorem Reported.quiet {ids : List String} {q' : Queue} (h : Reported ids q)
    (hq : QuietTasks q q') : Reported ids q' := by
  intro id hid
  obtain ⟨t, ht, hrun⟩ := h id hid
  obtain ⟨t', ht', hquiet⟩ := hq.forward ht
  exact ⟨t', ht', fun hr => hrun (hquiet.running hr).1⟩

/-- One iteration of a sweep: a quiet step that may report tasks it stopped. -/
structure Sweep (f : List String × Queue → String → List String × Queue) : Prop where
  quiet : ∀ acc id, Keyed acc.2 → QuietTasks acc.2 (f acc id).2
  reports : ∀ acc id, Keyed acc.2 → Reported acc.1 acc.2 → Reported (f acc id).1 (f acc id).2

omit hk in
theorem Sweep.foldl {f : List String × Queue → String → List String × Queue} (hf : Sweep f)
    (ids : List String) (acc : List String × Queue) (hacc : Keyed acc.2)
    (hr : Reported acc.1 acc.2) :
    QuietTasks acc.2 (ids.foldl f acc).2 ∧ Reported (ids.foldl f acc).1 (ids.foldl f acc).2 := by
  induction ids generalizing acc with
  | nil => exact ⟨.refl acc.2, hr⟩
  | cons id ids ih =>
      have hstep := hf.quiet acc id hacc
      obtain ⟨hrest, hrep⟩ := ih (f acc id) (hstep.keyed hacc) (hf.reports acc id hacc hr)
      exact ⟨hstep.trans hrest, hrep⟩

omit hk in
/-- A sweep that replaces some tasks by stopped ones and reports them. -/
theorem sweep_of_cases {f : List String × Queue → String → List String × Queue}
    (hf : ∀ acc id, (f acc id) = acc ∨ ∃ (t t' : AsyncTaskRecord) (q₁ : Queue)
      (e : EventType) (m : List (String × Meta)), acc.2.tasks.get? id = some t ∧
      q₁.tasks = acc.2.tasks ∧ Quiet t t' ∧ t'.state ≠ .running ∧
      f acc id = (acc.1 ++ [id], (q₁.put t').event env t' e m)) : Sweep f where
  quiet acc id hacc := by
    rcases hf acc id with h | ⟨t, t', q₁, e, m, ht, hq₁, hquiet, -, h⟩
    · rw [h]
      exact .refl acc.2
    · rw [h]
      exact quiet_put_event env hacc hq₁ ht hquiet e m
  reports acc id hacc hr := by
    rcases hf acc id with h | ⟨t, t', q₁, e, m, ht, hq₁, hquiet, hstop, h⟩
    · rw [h]
      exact hr
    · rw [h]
      intro i hi
      rcases List.mem_append.mp hi with hi | hi
      · exact hr.quiet (quiet_put_event env hacc hq₁ ht hquiet e m) i hi
      · have hid : t'.taskId = i := by
          rw [List.mem_singleton.mp hi]
          exact hquiet.taskId.trans (hacc id t ht)
        refine ⟨t', ?_, hstop⟩
        rw [event_tasks, put_tasks, hid, OMap.get?_set_self]

omit hk in
theorem recoverOne_sweep (nowMs : Int) : Sweep (Queue.recoverOne env nowMs) := by
  refine sweep_of_cases env fun acc id => ?_
  unfold Queue.recoverOne
  dsimp only
  split
  · exact .inl rfl
  · next t ht =>
      split
      · refine .inr ⟨t, _, (acc.2.now env).2, _, _, ht, rfl, ?_, ?_, rfl⟩
        · refine quiet_clearLease rfl rfl rfl ?_ rfl rfl
          simp only [clearLease]
          split <;> decide
        · simp only [clearLease]
          split <;> decide
      · exact .inl rfl

omit hk in
theorem reconcileOne_sweep : Sweep (Queue.reconcileOne env) := by
  refine sweep_of_cases env fun acc id => ?_
  unfold Queue.reconcileOne
  dsimp only
  split
  · exact .inl rfl
  · next t ht =>
      split
      · next hcond =>
          have hold : t.state ≠ .running := by
            rcases hcond.1 with h | h <;> simp [h]
          refine .inr ⟨t, _, (acc.2.now env).2, _, _, ht, rfl, ?_, ?_, rfl⟩
          · exact quiet_waiting rfl rfl rfl hold nofun rfl rfl
          · exact nofun
      · exact .inl rfl

omit hk in
theorem supersedeOne_sweep (org packet : String) (r : ℚ) :
    Sweep (Queue.supersedeOne env org packet r) := by
  refine sweep_of_cases env fun acc id => ?_
  unfold Queue.supersedeOne
  dsimp only
  split
  · exact .inl rfl
  · next t ht =>
      split
      · refine .inr ⟨t, _, (acc.2.now env).2, _, _, ht, rfl, ?_, ?_, rfl⟩
        · exact quiet_clearLease rfl rfl rfl (by simp [clearLease]) rfl rfl
        · simp [clearLease]
      · exact .inl rfl

omit hk in
theorem reported_nil : Reported [] q := fun _ h => absurd h List.not_mem_nil

theorem recoverExpiredLeases_spec :
    QuietTasks q (q.recoverExpiredLeases env).2 ∧
      Reported (q.recoverExpiredLeases env).1 (q.recoverExpiredLeases env).2 :=
  (recoverOne_sweep env _).foldl _ ([], (q.now env).2) hk reported_nil

theorem reconcileBlockedDependencies_spec :
    QuietTasks q (q.reconcileBlockedDependencies env).2 ∧
      Reported (q.reconcileBlockedDependencies env).1 (q.reconcileBlockedDependencies env).2 :=
  (reconcileOne_sweep env).foldl _ ([], q) hk reported_nil

theorem supersedePacket_spec (org packet : String) (r : ℚ) :
    QuietTasks q (q.supersedePacket env org packet r).2 ∧
      ∀ ids, (q.supersedePacket env org packet r).1 = .ok ids →
        Reported ids (q.supersedePacket env org packet r).2 := by
  unfold Queue.supersedePacket
  split
  · exact ⟨.refl q, nofun⟩
  · obtain ⟨hquiet, hrep⟩ := (supersedeOne_sweep env org packet r).foldl q.tasks.keys ([], q) hk
      reported_nil
    refine ⟨hquiet, ?_⟩
    rintro ids ⟨⟩
    exact hrep

/-! ## Calls that stop a task -/

theorem reported_put_event {r : Queue} (ht : q.tasks.get? id = some t)
    (hid : t'.taskId = t.taskId) (hstop : t'.state ≠ .running) (e : EventType)
    (m : List (String × Meta)) : Reported [id] ((r.put t').event env t' e m) := by
  intro i hi
  refine ⟨t', ?_, hstop⟩
  rw [event_tasks, put_tasks, hid, hk id t ht, List.mem_singleton.mp hi, OMap.get?_set_self]

theorem becomeUnknown_stops {q₁ : Queue} {t : AsyncTaskRecord} (ht : q.tasks.get? id = some t)
    (hash : String) : Reported [id] (q₁.becomeUnknown env t hash) := by
  refine reported_put_event env hk (r := (q₁.now env).2) ht ?_ ?_ _ _
  · rfl
  · simp [clearLease]

variable {c : LeaseCommand}

theorem complete_stops {r : Option String} (h : (q.complete env c r).1 = .ok true) :
    Reported [c.taskId] (q.complete env c r).2 := by
  obtain ⟨q₁, -, hv | ⟨t, u, hv, ht, -, -⟩⟩ := validLease_cases env q c
  · simp [Queue.complete, hv] at h
  · simp only [Queue.complete, hv]
    refine reported_put_event env hk (r := (q₁.now env).2) ht ?_ ?_ _ _
    · rfl
    · simp [clearLease]

theorem fail_stops {e : String} {r : Bool} {d : Option ℚ} (h : (q.fail env c e r d).1 = .ok true) :
    Reported [c.taskId] (q.fail env c e r d).2 := by
  unfold Queue.fail at h ⊢
  split at h
  · cases h
  · next hdelay =>
      rw [if_neg hdelay]
      obtain ⟨q₁, -, hv | ⟨t, u, hv, ht, -, -⟩⟩ := validLease_cases env q c
      · simp [hv] at h
      · simp only [hv] at h ⊢
        cases hcode : safeCode e with
        | error m => simp [hcode] at h
        | ok code =>
            refine reported_put_event env hk (r := ((q₁.now env).2.now env).2) ht ?_ ?_ _ _
            · rfl
            · simp only [clearLease]
              split <;> decide

theorem markUnknown_stops {hash : String} (h : (q.markUnknown env c hash).1 = .ok true) :
    Reported [c.taskId] (q.markUnknown env c hash).2 := by
  unfold Queue.markUnknown at h ⊢
  split at h
  · cases h
  · next hhash =>
      rw [if_neg hhash]
      obtain ⟨q₁, -, hv | ⟨t, u, hv, ht, -, -⟩⟩ := validLease_cases env q c
      · simp [hv] at h
      · simp only [hv]
        exact becomeUnknown_stops env hk ht hash

theorem recordUnknownObservation_stops {id f hash : String}
    (h : (q.recordUnknownObservation env id f hash).1 = .ok true) :
    Reported [id] (q.recordUnknownObservation env id f hash).2 := by
  unfold Queue.recordUnknownObservation at h ⊢
  split at h
  · cases h
  · next hhash =>
      rw [if_neg hhash]
      cases hreq : q.requireTask id with
      | error e => simp [hreq] at h
      | ok t =>
          have ht := requireTask_ok hreq
          simp only [hreq] at h ⊢
          split at h
          · cases h
          · next hfp =>
              rw [if_neg hfp]
              by_cases hstate : t.state = .unknown
              · have stays : Reported [id] q := by
                  intro i hi
                  rw [List.mem_singleton.mp hi]
                  exact ⟨t, ht, by simp [hstate]⟩
                simp only [hstate, if_true]
                split <;> exact stays
              · simp only [hstate, if_false] at h ⊢
                split at h
                · cases h
                · next hend =>
                    rw [if_neg hend]
                    exact becomeUnknown_stops env hk ht hash

theorem cancel_stops {id r : String} (h : (q.cancel env id r).1 = .ok true) :
    Reported [id] (q.cancel env id r).2 := by
  unfold Queue.cancel at h ⊢
  cases hreq : q.requireTask id with
  | error e => simp [hreq] at h
  | ok t =>
      have ht := requireTask_ok hreq
      simp only [hreq] at h ⊢
      by_cases hend : t.state ∈ [.succeeded, .deadLetter, .cancelled, .superseded]
      · simp [hend] at h
      · simp only [hend, if_false] at h ⊢
        cases hcode : safeCode r with
        | error m => simp [hcode] at h
        | ok code =>
            refine reported_put_event env hk (r := (q.now env).2) ht ?_ ?_ _ _
            · rfl
            · simp [clearLease]

/-! ## The two calls that are not quiet -/

/-- A task as `enqueue` first stores it. -/
structure Fresh (t : AsyncTaskRecord) : Prop where
  state : t.state = .queued
  token : t.leaseToken = none
  until' : t.leasedUntil = none
  generation : t.leaseGeneration = 0
  attempts : t.attemptCount = 0

omit hk in
variable (q) in
/-- `enqueue` stores nothing, or the new task of a valid request under a fresh
identifier. -/
theorem enqueue_stores (input : EnqueueTask) :
    (q.enqueue env input).2.tasks = q.tasks ∨
      ∃ taskId now, validateEnqueue env input = .ok () ∧ q.tasks.get? taskId = none ∧
        (q.enqueue env input).2.tasks = q.tasks.set taskId (Queue.newTask input taskId now) := by
  unfold Queue.enqueue
  cases validateEnqueue env input with
  | error e => exact .inl rfl
  | ok u =>
      dsimp only
      cases q.idempotencyIndex.get? (input.organizationId ++ ":" ++ input.idempotencyKey) with
      | some priorId =>
          dsimp only
          cases q.requireTask priorId with
          | error e => exact .inl rfl
          | ok prior => dsimp only; split <;> exact .inl rfl
      | none =>
          have hchoose : ((q.now env).2.chooseTaskId env input.taskId).2.tasks = q.tasks := by
            unfold Queue.chooseTaskId
            split <;> rfl
          dsimp only
          unfold Queue.insertTask
          split
          · exact .inl hchoose
          · next hid =>
              refine .inr ⟨((q.now env).2.chooseTaskId env input.taskId).1,
                env.host.toISOString (q.now env).1, rfl, ?_, ?_⟩
              · simpa [OMap.has, hchoose, Queue.newTask] using hid
              · rw [← hchoose]
                rfl

omit hk in
variable (q) in
/-- `enqueue` stores nothing, or one new queued task under a fresh identifier. -/
theorem enqueue_tasks (input : EnqueueTask) :
    (q.enqueue env input).2.tasks = q.tasks ∨
      ∃ t, Fresh t ∧ q.tasks.get? t.taskId = none ∧
        (q.enqueue env input).2.tasks = q.tasks.set t.taskId t := by
  rcases enqueue_stores env q input with h | ⟨taskId, now, -, hid, hset⟩
  · exact .inl h
  · exact .inr ⟨Queue.newTask input taskId now, ⟨rfl, rfl, rfl, rfl, rfl⟩, hid, hset⟩

/-- What a `lease` that hands out a task does: a quiet step to `q₁`, then the
candidate, waiting with all dependencies succeeded, starts to run under the
next generation. -/
structure Leases (q q' : Queue) (l : TaskLease) (q₁ : Queue) (t : AsyncTaskRecord) : Prop where
  quiet : QuietTasks q q₁
  found : q₁.tasks.get? t.taskId = some t
  waiting : t.state = .queued ∨ t.state = .retryWait
  succeeded : ∀ d ∈ t.dependencyTaskIds,
    (q₁.tasks.get? d).map AsyncTaskRecord.state = some .succeeded
  taskId : l.task.taskId = t.taskId
  dependencies : l.task.dependencyTaskIds = t.dependencyTaskIds
  state : l.task.state = .running
  generation : l.task.leaseGeneration = t.leaseGeneration + 1 ∧
    l.generation = t.leaseGeneration + 1
  attempts : l.task.attemptCount = t.attemptCount + 1
  token : l.task.leaseToken = some l.leaseToken
  until' : l.task.leasedUntil = some l.leasedUntil
  stored : q'.tasks = q₁.tasks.set t.taskId l.task

omit hk in
theorem mem_candidates {nowMs : Int} {c : AsyncTaskRecord} :
    c ∈ q.candidates env nowMs ↔ c ∈ q.tasks.values ∧ q.leasable env nowMs c := by
  rw [Queue.candidates, List.mem_mergeSort, List.mem_filter]

omit hk in
theorem leasable_iff {nowMs : Int} {t : AsyncTaskRecord} (h : q.leasable env nowMs t) :
    (t.state = .queued ∨ t.state = .retryWait) ∧
      ∀ d ∈ t.dependencyTaskIds,
        (q.tasks.get? d).map AsyncTaskRecord.state = some .succeeded := by
  simp only [Queue.leasable, Bool.and_eq_true, Bool.or_eq_true, decide_eq_true_eq,
    Queue.dependenciesSucceeded, List.all_eq_true] at h
  exact ⟨h.1.1.1, h.2⟩

theorem lease_cases (workerId : String) (d : ℚ) :
    (QuietTasks q (q.lease env workerId d).2 ∧
        ∀ l, (q.lease env workerId d).1 ≠ .ok (some l)) ∨
      ∃ l q₁ t, (q.lease env workerId d).1 = .ok (some l) ∧
        Leases q (q.lease env workerId d).2 l q₁ t := by
  by_cases hargs : (isBlank workerId || !leaseDurationOk d) = true
  · simp only [Queue.lease, hargs, if_true]
    exact .inl ⟨.refl q, fun l h => by cases h⟩
  · simp only [Queue.lease, hargs, if_false, Bool.false_eq_true]
    obtain ⟨hrec, -⟩ := recoverExpiredLeases_spec env hk
    obtain ⟨hblk, -⟩ := reconcileBlockedDependencies_spec env (hrec.keyed hk)
    have hquiet := hrec.trans hblk
    generalize ((q.recoverExpiredLeases env).2.reconcileBlockedDependencies env).2 = q₁ at hquiet
    cases hc : (q₁.now env).2.candidates env (q₁.now env).1 with
    | nil => exact .inl ⟨hquiet, fun l h => by cases h⟩
    | cons c rest =>
        obtain ⟨hval, hleasable⟩ := (mem_candidates env).mp (hc ▸ List.mem_cons_self)
        obtain ⟨id, hid⟩ := (OMap.mem_values_iff _ _).mp hval
        obtain ⟨hwait, hdeps⟩ := leasable_iff env hleasable
        have hfound : q₁.tasks.get? c.taskId = some c := by
          rw [(hquiet.keyed hk) id c hid]
          exact hid
        exact .inr ⟨_, q₁, c, rfl, hquiet, hfound, hwait, hdeps, rfl, rfl, rfl, ⟨rfl, rfl⟩,
          rfl, rfl, rfl, rfl⟩

end Calls

end InspectionHub.TaskQueue
