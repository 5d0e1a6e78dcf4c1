import InspectionHub.Lib.TSys
import InspectionHub.TaskQueue.TaskSteps

/-!
# Lease exclusivity

Runs of the queue: any calls, by any workers, in any order, over any clock
and any generated identifiers. The session remembers, beside the queue, every
lease it ever handed out.

The fence is the generation. A lease handed out carries the generation the
task then has; only `lease` raises it, and no call makes a task run again
under a generation it already left. So one of the leases of a task is valid
at most, and a lease that ended stays dead. Neither the order of the clock
readings nor the distinctness of the tokens is needed for this.
-/

namespace InspectionHub.TaskQueue

open Js

/-- A public call of the queue. -/
inductive Call where
  | enqueue (input : EnqueueTask)
  | lease (workerId : String) (leaseDurationMs : ℚ)
  | heartbeat (command : LeaseCommand) (leaseDurationMs : ℚ)
  | checkpoint (command : LeaseCommand) (input : Queue.CheckpointInput)
  | recordToolEvent (command : LeaseCommand) (phase : ToolPhase) (toolName : String)
      (resultCode : Option String)
  | complete (command : LeaseCommand) (resultArtifactId : Option String)
  | fail (command : LeaseCommand) (errorCode : String) (retryable : Bool)
      (retryDelayMs : Option ℚ)
  | markUnknown (command : LeaseCommand) (reconciliationKeyHash : String)
  | recordUnknownObservation (taskId requestFingerprint reconciliationKeyHash : String)
  | reconcileUnknown (taskId expectedReconciliationKeyHash : String) (observed : Queue.Observed)
  | supersedePacket (organizationId packetId : String) (newerRevision : ℚ)
  | cancel (taskId reasonCode : String)
  | recoverExpiredLeases
  | reconcileBlockedDependencies

inductive Reply where
  | task (task : AsyncTaskRecord) (replayed : Bool)
  | lease (lease : Option TaskLease)
  | bool (b : Bool)
  | taskIds (ids : List String)
deriving DecidableEq

/-- The lease a call presents. -/
def Call.command? : Call → Option LeaseCommand
  | .heartbeat c _ | .checkpoint c _ | .recordToolEvent c _ _ _ | .complete c _
  | .fail c _ _ _ | .markUnknown c _ => some c
  | _ => none

def Outcome.reply {α : Type} (o : Outcome α) (f : α → Reply) : Outcome Reply := (o.1.map f, o.2)

variable (env : Env)

def exec (q : Queue) : Call → Outcome Reply
  | .enqueue input => Outcome.reply (q.enqueue env input) fun r => .task r.1 r.2
  | .lease w d => Outcome.reply (q.lease env w d) .lease
  | .heartbeat c d => Outcome.reply (q.heartbeat env c d) .bool
  | .checkpoint c i => Outcome.reply (q.checkpoint env c i) .bool
  | .recordToolEvent c p n r => Outcome.reply (q.recordToolEvent env c p n r) .bool
  | .complete c r => Outcome.reply (q.complete env c r) .bool
  | .fail c e r d => Outcome.reply (q.fail env c e r d) .bool
  | .markUnknown c h => Outcome.reply (q.markUnknown env c h) .bool
  | .recordUnknownObservation i f h =>
      Outcome.reply (q.recordUnknownObservation env i f h) .bool
  | .reconcileUnknown i h o => Outcome.reply (q.reconcileUnknown env i h o) .bool
  | .supersedePacket o p r => Outcome.reply (q.supersedePacket env o p r) .taskIds
  | .cancel i r => Outcome.reply (q.cancel env i r) .bool
  | .recoverExpiredLeases =>
      (.ok (.taskIds (q.recoverExpiredLeases env).1), (q.recoverExpiredLeases env).2)
  | .reconcileBlockedDependencies =>
      (.ok (.taskIds (q.reconcileBlockedDependencies env).1),
        (q.reconcileBlockedDependencies env).2)

/-- The lease a reply hands out. -/
def issued : Except String Reply → List LeaseCommand
  | .ok (.lease (some l)) => [l.command]
  | _ => []

/-- The queue and every lease handed out so far. -/
structure Session where
  queue : Queue
  leases : List LeaseCommand

def Session.initial : Session := ⟨.initial, []⟩

def Session.next (s : Session) (c : Call) : Session :=
  ⟨(exec env s.queue c).2, s.leases ++ issued (exec env s.queue c).1⟩

/-- The session after a sequence of calls. -/
def run (calls : List Call) : Session := calls.foldl (Session.next env) .initial

/-- The queue as a transition system over its sessions. -/
def system : TSys Session Call := .ofFun .initial (Session.next env)

/-! ## Every call is quiet, inserts, or leases -/

variable {env} {q : Queue}

/-- The calls that may do more than move tasks quietly. -/
def Call.Loud : Call → Prop
  | .enqueue _ | .lease _ _ => True
  | _ => False

variable (env) in
theorem exec_quiet (hk : Keyed q) {c : Call} (hc : ¬ c.Loud) : QuietTasks q (exec env q c).2 := by
  cases c with
  | enqueue input => exact absurd trivial hc
  | lease w d => exact absurd trivial hc
  | heartbeat c d => exact heartbeat_quiet env hk c d
  | checkpoint c i => exact checkpoint_quiet env hk c i
  | recordToolEvent c p n r => exact .of_eq (recordToolEvent_tasks env c p n r)
  | complete c r => exact complete_quiet env hk c r
  | fail c e r d => exact fail_quiet env hk c e r d
  | markUnknown c h => exact markUnknown_quiet env hk c h
  | recordUnknownObservation i f h => exact recordUnknownObservation_quiet env hk i f h
  | reconcileUnknown i h o => exact reconcileUnknown_quiet env hk i h o
  | supersedePacket o p r => exact (supersedePacket_spec env hk o p r).1
  | cancel i r => exact cancel_quiet env hk i r
  | recoverExpiredLeases => exact (recoverExpiredLeases_spec env hk).1
  | reconcileBlockedDependencies => exact (reconcileBlockedDependencies_spec env hk).1

variable (env) in
theorem exec_cases (hk : Keyed q) (c : Call) :
    (QuietTasks q (exec env q c).2 ∧ issued (exec env q c).1 = []) ∨
      (∃ t, Fresh t ∧ q.tasks.get? t.taskId = none ∧ issued (exec env q c).1 = [] ∧
        (exec env q c).2.tasks = q.tasks.set t.taskId t) ∨
      ∃ l q₁ t, (exec env q c).1 = .ok (.lease (some l)) ∧
        Leases q (exec env q c).2 l q₁ t := by
  have bools : ∀ o : Outcome Bool, issued (Outcome.reply o .bool).1 = [] := by
    rintro ⟨_ | _, _⟩ <;> rfl
  cases c with
  | enqueue input =>
      have hnone : issued (exec env q (.enqueue input)).1 = [] := by
        simp only [exec, Outcome.reply]
        cases (q.enqueue env input).1 <;> rfl
      rcases enqueue_tasks env q input with h | ⟨t, hfresh, hid, h⟩
      · exact .inl ⟨.of_eq h, hnone⟩
      · exact .inr (.inl ⟨t, hfresh, hid, hnone, h⟩)
  | lease w d =>
      rcases lease_cases env hk w d with ⟨hquiet, hno⟩ | ⟨l, q₁, t, hl, hleases⟩
      · refine .inl ⟨hquiet, ?_⟩
        simp only [exec, Outcome.reply]
        cases hr : (q.lease env w d).1 with
        | error e => rfl
        | ok o =>
            cases o with
            | none => rfl
            | some l => exact absurd hr (hno l)
      · refine .inr (.inr ⟨l, q₁, t, ?_, hleases⟩)
        simp only [exec, Outcome.reply, hl, Except.map]
  | heartbeat c d => exact .inl ⟨exec_quiet env hk id, bools (q.heartbeat env c d)⟩
  | checkpoint c i => exact .inl ⟨exec_quiet env hk id, bools (q.checkpoint env c i)⟩
  | recordToolEvent c p n r =>
      exact .inl ⟨exec_quiet env hk id, bools (q.recordToolEvent env c p n r)⟩
  | complete c r => exact .inl ⟨exec_quiet env hk id, bools (q.complete env c r)⟩
  | fail c e r d => exact .inl ⟨exec_quiet env hk id, bools (q.fail env c e r d)⟩
  | markUnknown c h => exact .inl ⟨exec_quiet env hk id, bools (q.markUnknown env c h)⟩
  | recordUnknownObservation i f h =>
      exact .inl ⟨exec_quiet env hk id, bools (q.recordUnknownObservation env i f h)⟩
  | reconcileUnknown i h o =>
      exact .inl ⟨exec_quiet env hk id, bools (q.reconcileUnknown env i h o)⟩
  | supersedePacket o p r =>
      refine .inl ⟨exec_quiet env hk id, ?_⟩
      simp only [exec, Outcome.reply]
      cases (q.supersedePacket env o p r).1 <;> rfl
  | cancel i r => exact .inl ⟨exec_quiet env hk id, bools (q.cancel env i r)⟩
  | recoverExpiredLeases => exact .inl ⟨exec_quiet env hk id, rfl⟩
  | reconcileBlockedDependencies => exact .inl ⟨exec_quiet env hk id, rfl⟩

/-- Every call leaves the tasks under their own identifiers. -/
theorem keyed_exec (hk : Keyed q) (c : Call) : Keyed (exec env q c).2 := by
  rcases exec_cases env hk c with ⟨hquiet, -⟩ | ⟨t, -, -, -, hset⟩ | ⟨l, q₁, t, -, hl⟩
  · exact hquiet.keyed hk
  · intro id t' ht'
    rw [hset, OMap.get?_set] at ht'
    split at ht'
    · next heq => cases ht'; exact heq.symm
    · exact hk id t' ht'
  · intro id t' ht'
    rw [hl.stored, OMap.get?_set] at ht'
    split at ht'
    · next heq => cases ht'; exact hl.taskId.trans heq.symm
    · exact hl.quiet.keyed hk id t' ht'

/-! ## The session invariant -/

/-- The generation a task identifier has reached; 0 while no task is stored. -/
def Queue.generationOf (q : Queue) (id : String) : Nat :=
  ((q.tasks.get? id).map AsyncTaskRecord.leaseGeneration).getD 0

/-- The leases handed out for one task, oldest first. -/
def Session.leasesOf (s : Session) (id : String) : List LeaseCommand :=
  s.leases.filter fun p => p.taskId = id

/-- Tasks are well leased, and the leases of each task are numbered from 1. -/
structure Fenced (s : Session) : Prop where
  keyed : Keyed s.queue
  wellLeased : ∀ id t, s.queue.tasks.get? id = some t → WellLeased t
  numbered : ∀ id, (s.leasesOf id).map LeaseCommand.generation =
    List.range' 1 (s.queue.generationOf id)

theorem generationOf_quiet {q q' : Queue} (h : QuietTasks q q') (id : String) :
    q'.generationOf id = q.generationOf id := by
  unfold Queue.generationOf
  cases hq : q.tasks.get? id with
  | none =>
      cases hq' : q'.tasks.get? id with
      | none => rfl
      | some t' =>
          obtain ⟨t, ht, -⟩ := h.back hq'
          rw [hq] at ht
          cases ht
  | some t =>
      obtain ⟨t', ht', hquiet⟩ := h.forward hq
      rw [ht']
      exact hquiet.generation

theorem Fresh.wellLeased {t : AsyncTaskRecord} (h : Fresh t) : WellLeased t :=
  ⟨by simp [h.token, h.state], by simp [h.until', h.state], by rw [h.generation, h.attempts]⟩

theorem Leases.wellLeased {q q' q₁ : Queue} {l : TaskLease} {t : AsyncTaskRecord}
    (h : Leases q q' l q₁ t) (ht : WellLeased t) : WellLeased l.task :=
  ⟨by simp [h.token, h.state], by simp [h.until', h.state], by
    rw [h.generation.1, h.attempts, ht.attempts]⟩

variable {s : Session}

theorem fenced_step (h : Fenced s) (c : Call) : Fenced (s.next env c) := by
  rcases exec_cases env h.keyed c with ⟨hquiet, hnone⟩ | ⟨t, hfresh, hid, hnone, hset⟩ |
      ⟨l, q₁, t, hreply, hl⟩
  · refine ⟨keyed_exec h.keyed c, ?_, ?_⟩
    · intro id t' ht'
      obtain ⟨t, ht, hq⟩ := hquiet.back ht'
      exact hq.wellLeased (h.wellLeased id t ht)
    · intro id
      simp only [Session.next, Session.leasesOf, hnone, List.append_nil]
      rw [generationOf_quiet hquiet]
      exact h.numbered id
  · refine ⟨keyed_exec h.keyed c, ?_, ?_⟩
    · intro id t' ht'
      simp only [Session.next, hset, OMap.get?_set] at ht'
      split at ht'
      · cases ht'; exact hfresh.wellLeased
      · exact h.wellLeased id t' ht'
    · intro id
      have hn := h.numbered id
      simp only [Session.next, Session.leasesOf, hnone, List.append_nil] at hn ⊢
      rw [hn]
      simp only [Queue.generationOf, hset, OMap.get?_set]
      split
      · next heq => simp [heq, hid, hfresh.generation]
      · rfl
  · have hcommand : l.command.taskId = t.taskId := hl.taskId
    refine ⟨keyed_exec h.keyed c, ?_, ?_⟩
    · have hwell₁ : ∀ id t', q₁.tasks.get? id = some t' → WellLeased t' := by
        intro id t' ht'
        obtain ⟨t₀, ht₀, hq⟩ := hl.quiet.back ht'
        exact hq.wellLeased (h.wellLeased id t₀ ht₀)
      intro id t' ht'
      simp only [Session.next, hl.stored, OMap.get?_set] at ht'
      split at ht'
      · cases ht'; exact hl.wellLeased (hwell₁ _ t hl.found)
      · exact hwell₁ id t' ht'
    · intro id
      have hn := h.numbered id
      rw [← generationOf_quiet hl.quiet] at hn
      simp only [Session.leasesOf] at hn
      simp only [Session.next, Session.leasesOf, hreply, issued, List.filter_append,
        List.map_append, hn]
      simp only [Queue.generationOf, hl.stored, OMap.get?_set]
      split
      · next heq =>
          rw [heq, hl.found]
          simp only [hcommand, List.filter_cons, List.filter_nil, decide_true, if_true,
            List.map_cons, List.map_nil, Option.map_some, Option.getD_some, hl.generation.1,
            List.range'_concat]
          rw [TaskLease.command, hl.generation.2]
          simp [Nat.add_comm]
      · next hne =>
          have hne' : t.taskId ≠ id := fun h => hne h.symm
          simp [hcommand, hne']

theorem fenced_initial : Fenced .initial where
  keyed id t h := by simp [Session.initial, Queue.initial] at h
  wellLeased id t h := by simp [Session.initial, Queue.initial] at h
  numbered _ := rfl

theorem fenced_inductive : (system env).Inductive TSys.any Fenced where
  init s h := h ▸ fenced_initial
  step := by
    rintro s c s' h - rfl
    exact fenced_step h c

variable (env) in
theorem fenced_run (calls : List Call) : Fenced (run env calls) :=
  fenced_inductive.invariant (TSys.reachable_foldl _ _ calls)

/-! ## Leases that ended stay dead -/

/-- Some call accepts the lease `p`. -/
def Accepts (env : Env) (q : Queue) (p : LeaseCommand) : Prop :=
  ∃ c : Call, c.command? = some p ∧ (exec env q c).1 = .ok (.bool true)

variable {p : LeaseCommand}

/-- A call under a lease that no task holds is refused and changes no task. -/
theorem exec_unheld (hp : ¬ q.Held p) (c : Call) (hc : c.command? = some p) :
    (exec env q c).2.tasks = q.tasks ∧ (exec env q c).1 ≠ .ok (.bool true) := by
  obtain ⟨q₁, hq₁, h | ⟨t, u, -, ht, hheld, -⟩⟩ := validLease_cases env q p
  · cases c with
    | heartbeat c d =>
        cases hc
        simp [exec, Outcome.reply, Queue.heartbeat, h, hq₁, Except.map]
    | checkpoint c i =>
        cases hc
        simp [exec, Outcome.reply, Queue.checkpoint, h, hq₁, Except.map]
    | recordToolEvent c ph n r =>
        cases hc
        simp [exec, Outcome.reply, Queue.recordToolEvent, h, hq₁, Except.map]
    | complete c r =>
        cases hc
        simp [exec, Outcome.reply, Queue.complete, h, hq₁, Except.map]
    | fail c e r d =>
        cases hc
        simp only [exec, Outcome.reply, Queue.fail]
        split <;> simp [h, hq₁, Except.map]
    | markUnknown c hash =>
        cases hc
        simp only [exec, Outcome.reply, Queue.markUnknown]
        split <;> simp [h, hq₁, Except.map]
    | _ => cases hc
  · exact absurd ⟨t, ht, hheld⟩ hp

/-- The lease `p` was handed out for a stored task, which no longer runs under
it. -/
def Spent (p : LeaseCommand) (q : Queue) : Prop :=
  ∃ t, q.tasks.get? p.taskId = some t ∧ p.generation ≤ t.leaseGeneration ∧ ¬ t.Holds p

theorem Spent.not_held (h : Spent p q) : ¬ q.Held p := by
  rintro ⟨t', ht', hheld⟩
  obtain ⟨t, ht, -, hnot⟩ := h
  rw [ht] at ht'
  cases ht'
  exact hnot hheld

theorem Spent.quiet {q' : Queue} (h : Spent p q) (hq : QuietTasks q q') : Spent p q' := by
  obtain ⟨t, ht, hgen, hnot⟩ := h
  obtain ⟨t', ht', hquiet⟩ := hq.forward ht
  exact ⟨t', ht', by rw [hquiet.generation]; exact hgen, fun hh => hnot (hquiet.holds hh)⟩

theorem spent_step (hk : Keyed q) (h : Spent p q) (c : Call) : Spent p (exec env q c).2 := by
  rcases exec_cases env hk c with ⟨hquiet, -⟩ | ⟨t, -, hid, -, hset⟩ | ⟨l, q₁, t, -, hl⟩
  · exact h.quiet hquiet
  · obtain ⟨t₀, ht₀, hrest⟩ := h
    have hne : p.taskId ≠ t.taskId := by
      intro heq
      rw [heq, hid] at ht₀
      cases ht₀
    exact ⟨t₀, by rw [hset, OMap.get?_set_of_ne _ _ hne]; exact ht₀, hrest⟩
  · obtain ⟨t₁, ht₁, hgen, hnot⟩ := h.quiet hl.quiet
    by_cases heq : p.taskId = t.taskId
    · have htt : t₁ = t := by
        rw [heq, hl.found] at ht₁
        cases ht₁
        rfl
      subst htt
      refine ⟨l.task, by rw [hl.stored, heq, OMap.get?_set_self], ?_, ?_⟩
      · rw [hl.generation.1]
        omega
      · rintro ⟨-, hgen', -⟩
        rw [hl.generation.1] at hgen'
        omega
    · exact ⟨t₁, by rw [hl.stored, OMap.get?_set_of_ne _ _ heq]; exact ht₁, hgen, hnot⟩

theorem spent_run {calls : List Call} (h : Spent p (run env calls).queue) (more : List Call) :
    Spent p (run env (calls ++ more)).queue := by
  have hlater : (system env).Later TSys.any (run env calls) (run env (calls ++ more)) := by
    have := TSys.later_foldl Session.initial (Session.next env) (run env calls) more
    rwa [run, ← List.foldl_append] at this
  have hstep : ∀ s c s', Fenced s → Spent p s.queue → TSys.any s c → (system env).Step s c s' →
      Spent p s'.queue := by
    rintro s c s' hs hspent - rfl
    exact spent_step hs.keyed hspent c
  exact fenced_inductive.stable hstep (TSys.reachable_foldl _ _ calls) hlater h

/-- A lease of the session was handed out for a stored task, at a generation
the task has reached. -/
theorem Fenced.issued (h : Fenced s) (hp : p ∈ s.leases) :
    ∃ t, s.queue.tasks.get? p.taskId = some t ∧ p.generation ≤ t.leaseGeneration := by
  have hmem : p.generation ∈ (s.leasesOf p.taskId).map LeaseCommand.generation :=
    List.mem_map_of_mem (List.mem_filter.mpr ⟨hp, by simp⟩)
  rw [h.numbered, List.mem_range'_1] at hmem
  unfold Queue.generationOf at hmem
  cases ht : s.queue.tasks.get? p.taskId with
  | none => rw [ht] at hmem; simp at hmem; omega
  | some t =>
      rw [ht] at hmem
      simp only [Option.map_some, Option.getD_some] at hmem
      exact ⟨t, rfl, by omega⟩

theorem Fenced.spent (h : Fenced s) (hp : p ∈ s.leases) (hnot : ¬ s.queue.Held p) :
    Spent p s.queue := by
  obtain ⟨t, ht, hgen⟩ := h.issued hp
  exact ⟨t, ht, hgen, fun hh => hnot ⟨t, ht, hh⟩⟩

/-! ## What ends a lease -/

/-- The call `c` ended the lease `p`: it completed, failed, cancelled or
superseded the task, marked it unknown, recovered it after expiry, or leased
it anew. -/
def Ends (p : LeaseCommand) : Call → Except String Reply → Prop
  | .complete c _, .ok (.bool true) => c = p
  | .fail c _ _ _, .ok (.bool true) => c = p
  | .markUnknown c _, .ok (.bool true) => c = p
  | .recordUnknownObservation id _ _, .ok (.bool true) => id = p.taskId
  | .cancel id _, .ok (.bool true) => id = p.taskId
  | .supersedePacket _ _ _, .ok (.taskIds ids) => p.taskId ∈ ids
  | .recoverExpiredLeases, .ok (.taskIds ids) => p.taskId ∈ ids
  | .lease _ _, .ok (.lease (some l)) => l.task.taskId = p.taskId
  | _, _ => False

theorem Reported.not_held {ids : List String} (h : Reported ids q) (hp : p.taskId ∈ ids) :
    ¬ q.Held p := by
  rintro ⟨t', ht', hrun, -⟩
  obtain ⟨t, ht, hstop⟩ := h _ hp
  rw [ht] at ht'
  cases ht'
  exact hstop hrun

theorem Outcome.reply_bool {o : Outcome Bool} {b : Bool}
    (h : (Outcome.reply o .bool).1 = .ok (.bool b)) : o.1 = .ok b := by
  obtain ⟨_ | _, _⟩ := o
  · cases h
  · cases h
    rfl

theorem ends_not_held (hs : Fenced s) (hp : p ∈ s.leases) {c : Call}
    (h : Ends p c (exec env s.queue c).1) : ¬ (exec env s.queue c).2.Held p := by
  have hk := hs.keyed
  unfold Ends at h
  split at h
  · next hr =>
      exact (complete_stops env hk (Outcome.reply_bool hr)).not_held (by rw [h]; simp)
  · next hr =>
      exact (fail_stops env hk (Outcome.reply_bool hr)).not_held (by rw [h]; simp)
  · next hr =>
      exact (markUnknown_stops env hk (Outcome.reply_bool hr)).not_held (by rw [h]; simp)
  · next hr =>
      exact (recordUnknownObservation_stops env hk (Outcome.reply_bool hr)).not_held
        (by rw [h]; simp)
  · next hr => exact (cancel_stops env hk (Outcome.reply_bool hr)).not_held (by rw [h]; simp)
  · next o pk r ids hr =>
      refine ((supersedePacket_spec env hk o pk r).2 ids ?_).not_held h
      simp only [exec, Outcome.reply] at hr
      cases hsup : (s.queue.supersedePacket env o pk r).1 with
      | error e => rw [hsup] at hr; cases hr
      | ok l => rw [hsup] at hr; cases hr; rfl
  · next hr =>
      cases hr
      exact (recoverExpiredLeases_spec env hk).2.not_held h
  · next w d l hr =>
      rcases exec_cases env hk (.lease w d) with ⟨-, hno⟩ | ⟨-, -, -, hno, -⟩ |
        ⟨l', q₁, t, hl', hleases⟩
      · rw [hr] at hno
        cases hno
      · rw [hr] at hno
        cases hno
      · rw [hr] at hl'
        cases hl'
        rintro ⟨t', ht', -, hgen, -⟩
        obtain ⟨t₀, ht₀, hle⟩ := hs.issued hp
        obtain ⟨t₁, ht₁, hquiet⟩ := hleases.quiet.forward ht₀
        rw [← h, hleases.taskId, hleases.found] at ht₁
        cases ht₁
        rw [hleases.stored, ← h, hleases.taskId, OMap.get?_set_self] at ht'
        cases ht'
        have := hleases.generation.1
        have := hquiet.generation
        omega
  · exact h.elim

/-! ## The exclusivity of leases -/

/-- What a session grants its workers; `later q` holds of the queues any
further calls lead to. -/
structure LeaseExclusive (env : Env) (s : Session) (later : Queue → Prop) : Prop where
  /-- Of all leases of a task, one is accepted at most. -/
  one : ∀ p ∈ s.leases, ∀ p' ∈ s.leases, p.taskId = p'.taskId →
    Accepts env s.queue p → Accepts env s.queue p' → p = p'
  /-- The leases of a task carry the generations 1, 2, 3, … -/
  numbered : ∀ id, (s.leasesOf id).map LeaseCommand.generation =
    List.range' 1 (s.leasesOf id).length
  /-- Running tasks are the ones with a token and an expiry. -/
  running : ∀ id t, s.queue.tasks.get? id = some t →
    (t.state = .running ↔ t.leaseToken.isSome ∧ t.leasedUntil.isSome)
  /-- The generation and the attempt count are the number of leases. -/
  counted : ∀ id t, s.queue.tasks.get? id = some t →
    t.leaseGeneration = t.attemptCount ∧ t.attemptCount = (s.leasesOf id).length
  /-- A task is handed out when all its dependencies have succeeded. -/
  dependencies : ∀ w d l, (exec env s.queue (.lease w d)).1 = .ok (.lease (some l)) →
    ∀ dep ∈ l.task.dependencyTaskIds,
      ((exec env s.queue (.lease w d)).2.tasks.get? dep).map AsyncTaskRecord.state =
        some .succeeded
  /-- A call that ends a lease leaves no task running under it. -/
  ends : ∀ p ∈ s.leases, ∀ c, Ends p c (exec env s.queue c).1 → ¬ (exec env s.queue c).2.Held p
  /-- A lease that no task runs under any more is never accepted again, and no
  call that presents it changes a task. -/
  dead : ∀ p ∈ s.leases, ¬ s.queue.Held p → ∀ q, later q → ∀ c : Call, c.command? = some p →
    (exec env q c).1 ≠ .ok (.bool true) ∧ (exec env q c).2.tasks = q.tasks

theorem Accepts.held (h : Accepts env q p) : q.Held p := by
  by_contra hnot
  obtain ⟨c, hc, hr⟩ := h
  exact (exec_unheld hnot c hc).2 hr

/-- **Lease exclusivity.** After any calls in any order. -/
theorem lease_exclusive (env : Env) (calls : List Call) :
    LeaseExclusive env (run env calls)
      fun q => ∃ more, q = (run env (calls ++ more)).queue := by
  have hf := fenced_run env calls
  have hlen : ∀ id, (run env calls).queue.generationOf id =
      ((run env calls).leasesOf id).length := by
    intro id
    have := congrArg List.length (hf.numbered id)
    simpa using this.symm
  refine ⟨?_, ?_, ?_, ?_, ?_, ?_, ?_⟩
  · intro p _ p' _ hid hacc hacc'
    obtain ⟨t, ht, -, hgen, htok⟩ := hacc.held
    obtain ⟨t', ht', -, hgen', htok'⟩ := hacc'.held
    rw [← hid, ht] at ht'
    cases ht'
    have htoken : p.leaseToken = p'.leaseToken := by
      rw [htok] at htok'
      exact Option.some.inj htok'
    cases p
    cases p'
    simp_all
  · intro id
    rw [hf.numbered, hlen]
  · intro id t ht
    have hw := hf.wellLeased id t ht
    rw [hw.token, hw.until', and_self]
  · intro id t ht
    have hw := hf.wellLeased id t ht
    refine ⟨hw.attempts, ?_⟩
    rw [← hlen, ← hw.attempts, Queue.generationOf, ht]
    rfl
  · intro w d l hl dep hdep
    rcases exec_cases env hf.keyed (.lease w d) with ⟨-, hno⟩ | ⟨-, -, -, hno, -⟩ |
      ⟨l', q₁, t, hl', hleases⟩
    · rw [hl] at hno
      cases hno
    · rw [hl] at hno
      cases hno
    · rw [hl] at hl'
      cases hl'
      rw [hleases.dependencies] at hdep
      have hsucc := hleases.succeeded dep hdep
      have hne : dep ≠ t.taskId := by
        rintro rfl
        rw [hleases.found] at hsucc
        rcases hleases.waiting with h | h <;> simp [h] at hsucc
      rw [hleases.stored, OMap.get?_set_of_ne _ _ hne]
      exact hsucc
  · intro p hp c hends
    exact ends_not_held hf hp hends
  · rintro p hp hnot q ⟨more, rfl⟩ c hc
    have hspent := spent_run (hf.spent hp hnot) more
    exact (exec_unheld hspent.not_held c hc).symm

end InspectionHub.TaskQueue
