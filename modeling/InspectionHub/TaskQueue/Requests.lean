import InspectionHub.TaskQueue.Atomic

/-!
# What a task was enqueued with

A task keeps what its request gave it: no call but `enqueue` touches the index
or that part of a stored task, and `enqueue` only adds a task.
-/

namespace InspectionHub.TaskQueue

/-- The part of a task that its request gave it. -/
structure TaskRequest where
  taskId : String
  organizationId : String
  idempotencyKey : String
  requestFingerprint : String

def AsyncTaskRecord.request (t : AsyncTaskRecord) : TaskRequest :=
  ⟨t.taskId, t.organizationId, t.idempotencyKey, t.requestFingerprint⟩

/-- The queues hold tasks of the same requests, indexed alike. -/
structure SameRequests (q q' : Queue) : Prop where
  index : q'.idempotencyIndex = q.idempotencyIndex
  request : ∀ id, (q'.tasks.get? id).map AsyncTaskRecord.request =
    (q.tasks.get? id).map AsyncTaskRecord.request

variable {id : String}

section Calls

variable (env : Env) {q : Queue}

variable {q' : Queue}

theorem SameRequests.of_eq (hindex : q'.idempotencyIndex = q.idempotencyIndex)
    (htasks : q'.tasks = q.tasks) : SameRequests q q' := ⟨hindex, fun id => by rw [htasks]⟩

theorem SameRequests.refl (q : Queue) : SameRequests q q := .of_eq rfl rfl

theorem SameRequests.of_same (h : SameContents q q') : SameRequests q q' :=
  .of_eq h.idempotencyIndex h.tasks

theorem SameRequests.trans {q' q'' : Queue} (h : SameRequests q q') (h' : SameRequests q' q'') :
    SameRequests q q'' :=
  ⟨h'.index.trans h.index, fun id => (h'.request id).trans (h.request id)⟩

variable (hk : Keyed q)

include hk

/-- Storing a task in the place of one with its request. -/
theorem sameRequests_put {t t' : AsyncTaskRecord} (ht : q.tasks.get? id = some t)
    (hrequest : t'.request = t.request) (hindex : q'.idempotencyIndex = q.idempotencyIndex)
    (htasks : q'.tasks = q.tasks.set t'.taskId t') : SameRequests q q' := by
  have hid : t'.taskId = t.taskId := congrArg TaskRequest.taskId hrequest
  refine ⟨hindex, fun j => ?_⟩
  rw [htasks, hid, hk id t ht, OMap.get?_set]
  split
  · next hj => rw [hj, ht, Option.map_some, Option.map_some, hrequest]
  · rfl

theorem sameRequests_put_event {r : Queue} (htasks : r.tasks = q.tasks)
    (hindex : r.idempotencyIndex = q.idempotencyIndex) {t t' : AsyncTaskRecord}
    (ht : q.tasks.get? id = some t) (hrequest : t'.request = t.request) (e : EventType)
    (m : List (String × Meta)) : SameRequests q ((r.put t').event env t' e m) :=
  sameRequests_put hk ht hrequest hindex (by rw [event_tasks, put_tasks, htasks])

omit hk in
/-- Under a lease: `f` acts on the task found, in a queue of the same contents. -/
theorem underLease_requests {command : LeaseCommand} {o : Outcome Bool}
    {f : AsyncTaskRecord → Queue → Outcome Bool}
    (ho : o = match q.validLease env command with
      | (none, q) => (.ok false, q)
      | (some task, q) => f task q)
    (hf : ∀ task q', SameContents q q' → q.tasks.get? command.taskId = some task →
      SameRequests q (f task q').2) : SameRequests q o.2 := by
  have hsame := validLease_same env q command
  subst ho
  obtain ⟨q₁, -, h | ⟨t, u, h, ht, -, -⟩⟩ := validLease_cases env q command
  · rw [h] at hsame ⊢
    exact .of_same hsame
  · rw [h] at hsame ⊢
    exact hf t q₁ hsame ht

theorem heartbeat_requests (c : LeaseCommand) (d : ℚ) : SameRequests q (q.heartbeat env c d).2 := by
  refine underLease_requests env rfl fun task q' h ht => ?_
  dsimp only
  split
  · exact .of_same h
  · refine sameRequests_put_event env hk (r := (q'.now env).2)
      h.tasks h.idempotencyIndex ht ?_ _ _
    rfl

theorem checkpoint_requests (c : LeaseCommand) (i : Queue.CheckpointInput) :
    SameRequests q (q.checkpoint env c i).2 := by
  refine underLease_requests env rfl fun task q' h ht => ?_
  dsimp only
  split
  · exact .of_same h
  · split
    · exact .of_same h
    · refine sameRequests_put_event env hk (r := ((q'.randomUUID env).2.now env).2)
        h.tasks h.idempotencyIndex ht ?_ _ _
      rfl

omit hk in
theorem recordToolEvent_requests (c : LeaseCommand) (p : ToolPhase) (n : String)
    (r : Option String) : SameRequests q (q.recordToolEvent env c p n r).2 := by
  refine underLease_requests env rfl fun task q' h ht => ?_
  split <;> exact .of_eq h.idempotencyIndex h.tasks

theorem complete_requests (c : LeaseCommand) (r : Option String) :
    SameRequests q (q.complete env c r).2 := by
  refine underLease_requests env rfl fun task q' h ht => ?_
  refine sameRequests_put_event env hk (r := (q'.now env).2)
    h.tasks h.idempotencyIndex ht ?_ _ _
  rfl

theorem fail_requests (c : LeaseCommand) (e : String) (r : Bool) (d : Option ℚ) :
    SameRequests q (q.fail env c e r d).2 := by
  unfold Queue.fail
  split
  · exact .refl q
  · refine underLease_requests env rfl fun task q' h ht => ?_
    dsimp only
    split
    · exact .of_same h
    · refine sameRequests_put_event env hk (r := ((q'.now env).2.now env).2)
        h.tasks h.idempotencyIndex ht ?_ _ _
      rfl

theorem becomeUnknown_requests (h : SameContents q q') {t : AsyncTaskRecord}
    (ht : q.tasks.get? id = some t) (hash : String) :
    SameRequests q (q'.becomeUnknown env t hash) := by
  refine sameRequests_put_event env hk (r := (q'.now env).2) h.tasks h.idempotencyIndex ht ?_ _ _
  rfl

theorem markUnknown_requests (c : LeaseCommand) (hash : String) :
    SameRequests q (q.markUnknown env c hash).2 := by
  unfold Queue.markUnknown
  split
  · exact .refl q
  · exact underLease_requests env rfl fun task q' h ht => becomeUnknown_requests env hk h ht hash

theorem recordUnknownObservation_requests (id f hash : String) :
    SameRequests q (q.recordUnknownObservation env id f hash).2 := by
  unfold Queue.recordUnknownObservation
  split
  · exact .refl q
  · split
    · exact .refl q
    · next t ht =>
        split
        · exact .refl q
        · split
          · split <;> exact .refl q
          · split
            · exact .refl q
            · exact becomeUnknown_requests env hk (.refl q) (requireTask_ok ht) hash

theorem reconcileUnknown_requests (id hash : String) (o : Queue.Observed) :
    SameRequests q (q.reconcileUnknown env id hash o).2 := by
  unfold Queue.reconcileUnknown
  split
  · exact .refl q
  · next t ht =>
      split
      · exact .refl q
      · refine sameRequests_put_event env hk (r := (q.now env).2)
          rfl rfl (requireTask_ok ht) ?_ _ _
        rfl

theorem cancel_requests (id r : String) : SameRequests q (q.cancel env id r).2 := by
  unfold Queue.cancel
  split
  · exact .refl q
  · next t ht =>
      split
      · exact .refl q
      · dsimp only
        split
        · refine sameRequests_put hk (requireTask_ok ht) ?_ rfl (put_tasks q _)
          rfl
        · refine sameRequests_put_event env hk (r := (q.now env).2)
            rfl rfl (requireTask_ok ht) ?_ _ _
          rfl

omit hk in
/-- What each visit of a sweep keeps, the sweep keeps. -/
theorem sweep_requests {f : List String × Queue → String → List String × Queue} (hf : Sweep f)
    (hvisit : ∀ acc id, Keyed acc.2 → SameRequests acc.2 (f acc id).2) (ids : List String)
    (acc : List String × Queue) (hacc : Keyed acc.2) : SameRequests acc.2 (ids.foldl f acc).2 := by
  induction ids generalizing acc with
  | nil => exact .refl acc.2
  | cons id ids ih =>
      exact (hvisit acc id hacc).trans (ih (f acc id) ((hf.quiet acc id hacc).keyed hacc))

theorem recoverExpiredLeases_requests : SameRequests q (q.recoverExpiredLeases env).2 := by
  refine (SameRequests.of_eq rfl rfl : SameRequests q (q.now env).2).trans ?_
  refine sweep_requests (recoverOne_sweep env _) (fun acc id hacc => ?_) _ ([], (q.now env).2) hk
  unfold Queue.recoverOne
  dsimp only
  split
  · exact .refl acc.2
  · next t ht =>
      split
      · refine sameRequests_put_event env hacc (r := (acc.2.now env).2)
          rfl rfl ht ?_ _ _
        rfl
      · exact .refl acc.2

theorem reconcileBlockedDependencies_requests :
    SameRequests q (q.reconcileBlockedDependencies env).2 := by
  refine sweep_requests (reconcileOne_sweep env) (fun acc id hacc => ?_) _ ([], q) hk
  unfold Queue.reconcileOne
  dsimp only
  split
  · exact .refl acc.2
  · next t ht =>
      split
      · refine sameRequests_put_event env hacc (r := (acc.2.now env).2)
          rfl rfl ht ?_ _ _
        rfl
      · exact .refl acc.2

theorem supersedePacket_requests (organizationId packetId : String) (r : ℚ) :
    SameRequests q (q.supersedePacket env organizationId packetId r).2 := by
  unfold Queue.supersedePacket
  split
  · exact .refl q
  · refine sweep_requests (supersedeOne_sweep env organizationId packetId r) (fun acc id hacc => ?_) _
      ([], q) hk
    unfold Queue.supersedeOne
    dsimp only
    split
    · exact .refl acc.2
    · next t ht =>
        split
        · refine sameRequests_put_event env hacc (r := (acc.2.now env).2)
            rfl rfl ht ?_ _ _
          rfl
        · exact .refl acc.2

theorem lease_requests (workerId : String) (d : ℚ) : SameRequests q (q.lease env workerId d).2 := by
  unfold Queue.lease
  split
  · exact .refl q
  · have hrecovered := recoverExpiredLeases_requests env hk
    have hrecoveredKeyed := (recoverExpiredLeases_spec env hk).1.keyed hk
    have hreconciled := reconcileBlockedDependencies_requests env hrecoveredKeyed
    have hkeyed := (reconcileBlockedDependencies_spec env hrecoveredKeyed).1.keyed hrecoveredKeyed
    have hrequests := hrecovered.trans hreconciled
    dsimp only
    generalize ((q.recoverExpiredLeases env).2.reconcileBlockedDependencies env).2 = q₁ at *
    split
    · exact hrequests.trans (.of_eq rfl rfl)
    · next candidate _ hcandidates =>
        obtain ⟨hval, -⟩ := (mem_candidates env).mp (hcandidates ▸ List.mem_cons_self)
        obtain ⟨id, hid⟩ := (OMap.mem_values_iff _ _).mp hval
        refine hrequests.trans (sameRequests_put_event env hkeyed
          (r := (((q₁.now env).2.randomUUID env).2.now env).2) rfl rfl hid ?_ _ _)
        rfl

/-- **Requests.** Every call but `enqueue` leaves them as they are. -/
theorem exec_requests {c : Call} (hc : ∀ input, c ≠ .enqueue input) :
    SameRequests q (exec env q c).2 := by
  cases c with
  | enqueue input => exact absurd rfl (hc input)
  | lease w d => exact lease_requests env hk w d
  | heartbeat l d => exact heartbeat_requests env hk l d
  | checkpoint l i => exact checkpoint_requests env hk l i
  | recordToolEvent l p n r => exact recordToolEvent_requests env l p n r
  | complete l r => exact complete_requests env hk l r
  | fail l e r d => exact fail_requests env hk l e r d
  | markUnknown l hash => exact markUnknown_requests env hk l hash
  | recordUnknownObservation id f hash => exact recordUnknownObservation_requests env hk id f hash
  | reconcileUnknown id hash o => exact reconcileUnknown_requests env hk id hash o
  | supersedePacket o p r => exact supersedePacket_requests env hk o p r
  | cancel id r => exact cancel_requests env hk id r
  | recoverExpiredLeases => exact recoverExpiredLeases_requests env hk
  | reconcileBlockedDependencies => exact reconcileBlockedDependencies_requests env hk

end Calls

/-- A stored task keeps its request through every call. -/
theorem exec_request (env : Env) {q : Queue} (hk : Keyed q) (c : Call) {t : AsyncTaskRecord}
    (ht : q.tasks.get? id = some t) :
    ∃ t', (exec env q c).2.tasks.get? id = some t' ∧ t'.request = t.request := by
  by_cases hc : ∃ input, c = .enqueue input
  · obtain ⟨input, rfl⟩ := hc
    rcases enqueue_stores env q input with h | ⟨taskId, now, -, hnone, hset⟩
    · exact ⟨t, h ▸ ht, rfl⟩
    · refine ⟨t, ?_, rfl⟩
      show (q.enqueue env input).2.tasks.get? id = some t
      rw [hset, OMap.get?_set, if_neg, ht]
      rintro rfl
      rw [hnone] at ht
      cases ht
  · have hsame := (exec_requests env hk fun input h => hc ⟨input, h⟩).request id
    rw [ht, Option.map_some, Option.map_eq_some_iff] at hsame
    exact hsame

end InspectionHub.TaskQueue
