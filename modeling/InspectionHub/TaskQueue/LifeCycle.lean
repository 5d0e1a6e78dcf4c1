import InspectionHub.TaskQueue.Lease

/-!
# The life cycle of a task

Which states a task leaves, under which calls, and what keeps it leasable.
Each call takes a task along a `Move`; a task that is still active (queued,
waiting or running) may go anywhere as long as it does not wait without an
attempt left, and the calls that touch other tasks are the named ones.
-/

namespace InspectionHub.TaskQueue

open Js

/-- In the pool `lease` chooses from. -/
def AsyncTaskRecord.Waiting (t : AsyncTaskRecord) : Prop :=
  t.state = .queued ∨ t.state = .retryWait

/-- Neither ended nor unknown. -/
def AsyncTaskRecord.Active (t : AsyncTaskRecord) : Prop := t.Waiting ∨ t.state = .running

/-- The attempts are within their bound, with one to spare while waiting. -/
structure WithinAttempts (t : AsyncTaskRecord) : Prop where
  bounded : t.attemptCount ≤ t.maxAttempts
  spare : t.Waiting → t.attemptCount < t.maxAttempts

/-- The call is `supersedePacket`, and names a newer revision of the packet
the task belongs to. -/
def Supersedes (c : Call) (t : AsyncTaskRecord) : Prop :=
  ∃ packetId newer revision, c = .supersedePacket t.organizationId packetId newer ∧
    t.packetId = some packetId ∧ t.packetRevision = some revision ∧ revision < newer

/-- What the identity of a task and its packet rest on. -/
structure SameTask (t t' : AsyncTaskRecord) : Prop where
  taskId : t'.taskId = t.taskId
  organizationId : t'.organizationId = t.organizationId
  packetId : t'.packetId = t.packetId
  packetRevision : t'.packetRevision = t.packetRevision

/-- What the call `c` may do to a task. -/
structure Move (c : Call) (t t' : AsyncTaskRecord) : Prop where
  same : SameTask t t'
  attempts : WithinAttempts t → WithinAttempts t'
  ended : t.state ∈ [TaskState.deadLetter, .cancelled, .superseded] → t'.state = t.state
  succeeded : t.state = .succeeded →
    t'.state = .succeeded ∨ (t'.state = .superseded ∧ Supersedes c t)
  unknown : t.state = .unknown → t'.state = .unknown ∨
    (∃ hash o, c = .reconcileUnknown t.taskId hash o) ∨
    (t'.state = .superseded ∧ Supersedes c t) ∨ ∃ reason, c = .cancel t.taskId reason

variable {c : Call}

theorem SameTask.refl (t : AsyncTaskRecord) : SameTask t t := ⟨rfl, rfl, rfl, rfl⟩

theorem SameTask.trans {t t' t'' : AsyncTaskRecord} (h : SameTask t t') (h' : SameTask t' t'') :
    SameTask t t'' :=
  ⟨h'.taskId.trans h.taskId, h'.organizationId.trans h.organizationId,
    h'.packetId.trans h.packetId, h'.packetRevision.trans h.packetRevision⟩

variable {t t' : AsyncTaskRecord}

theorem SameTask.supersedes (h : SameTask t t') (hs : Supersedes c t') : Supersedes c t := by
  unfold Supersedes at hs ⊢
  rwa [h.organizationId, h.packetId, h.packetRevision] at hs

/-- Two tasks that differ in neither state nor attempts. -/
theorem Move.of_state (hsame : SameTask t t') (hstate : t'.state = t.state)
    (hcount : t'.attemptCount = t.attemptCount) (hmax : t'.maxAttempts = t.maxAttempts) :
    Move c t t' where
  same := hsame
  attempts h := by
    refine ⟨by rw [hcount, hmax]; exact h.bounded, ?_⟩
    rw [AsyncTaskRecord.Waiting, hstate, hcount, hmax]
    exact h.spare
  ended _ := hstate
  succeeded h := .inl (hstate.trans h)
  unknown h := .inl (hstate.trans h)

theorem Move.refl (t : AsyncTaskRecord) : Move c t t := .of_state (.refl t) rfl rfl rfl

theorem Move.trans {t t' t'' : AsyncTaskRecord} (h : Move c t t') (h' : Move c t' t'') :
    Move c t t'' where
  same := h.same.trans h'.same
  attempts ht := h'.attempts (h.attempts ht)
  ended ht := by
    have hmid := h.ended ht
    rw [← hmid] at ht ⊢
    exact h'.ended ht
  succeeded ht := by
    rcases h.succeeded ht with hmid | ⟨hmid, hs⟩
    · rcases h'.succeeded hmid with hend | ⟨hend, hs⟩
      · exact .inl hend
      · exact .inr ⟨hend, h.same.supersedes hs⟩
    · exact .inr ⟨(h'.ended (by simp [hmid])).trans hmid, hs⟩
  unknown ht := by
    rcases h.unknown ht with hmid | hrec | ⟨hmid, hs⟩ | hcan
    · rw [← h.same.taskId]
      rcases h'.unknown hmid with hend | hrec | ⟨hend, hs⟩ | hcan
      · exact .inl hend
      · exact .inr (.inl hrec)
      · exact .inr (.inr (.inl ⟨hend, h.same.supersedes hs⟩))
      · exact .inr (.inr (.inr hcan))
    · exact .inr (.inl hrec)
    · exact .inr (.inr (.inl ⟨(h'.ended (by simp [hmid])).trans hmid, hs⟩))
    · exact .inr (.inr (.inr hcan))

/-- An active task may move anywhere, unless it would wait with no attempt
left. -/
theorem Move.of_active (hactive : t.Active) (hsame : SameTask t t')
    (hattempts : WithinAttempts t → WithinAttempts t') : Move c t t' := by
  have hstate : t.state = .queued ∨ t.state = .retryWait ∨ t.state = .running := by
    rcases hactive with (h | h) | h
    · exact .inl h
    · exact .inr (.inl h)
    · exact .inr (.inr h)
  refine ⟨hsame, hattempts, ?_, ?_, ?_⟩
  · intro hend
    rcases hstate with h | h | h <;> simp [h] at hend
  · intro hend
    rcases hstate with h | h | h <;> simp [h] at hend
  · intro hend
    rcases hstate with h | h | h <;> simp [h] at hend

/-- A task that leaves the pool, or returns to it with an attempt left, stays
within its attempts. -/
theorem withinAttempts_of (hcount : t'.attemptCount = t.attemptCount)
    (hmax : t'.maxAttempts = t.maxAttempts) (hspare : t'.Waiting → t.attemptCount < t.maxAttempts)
    (h : WithinAttempts t) : WithinAttempts t' := by
  refine ⟨by rw [hcount, hmax]; exact h.bounded, fun hw => ?_⟩
  rw [hcount, hmax]
  exact hspare hw

/-- States outside the pool. -/
theorem not_waiting {t : AsyncTaskRecord} (hq : t.state ≠ .queued) (hr : t.state ≠ .retryWait) :
    ¬ t.Waiting := by
  rintro (h | h)
  · exact hq h
  · exact hr h

/-- The states an observation or a cancellation leaves alone are all that is
not active, except `unknown`. -/
theorem active_of_not_ended {t : AsyncTaskRecord} (hunknown : t.state ≠ .unknown)
    (hend : t.state ∉ [TaskState.succeeded, .deadLetter, .cancelled, .superseded]) :
    t.Active := by
  unfold AsyncTaskRecord.Active AsyncTaskRecord.Waiting
  cases hs : t.state <;> simp_all

/-! ## What a call does to all tasks -/

/-- The tasks that are stored before and after move along `Move c`. -/
def Moved (c : Call) (q q' : Queue) : Prop :=
  ∀ id t t', q.tasks.get? id = some t → q'.tasks.get? id = some t' → Move c t t'

theorem Moved.of_eq {q q' : Queue} (h : q'.tasks = q.tasks) : Moved c q q' := by
  intro id t t' ht ht'
  rw [h, ht] at ht'
  cases ht'
  exact .refl t

theorem Moved.trans {q q' q'' : Queue} (h : Moved c q q') (hquiet : QuietTasks q q')
    (h' : Moved c q' q'') : Moved c q q'' := by
  intro id t t'' ht ht''
  obtain ⟨t', ht', -⟩ := hquiet.forward ht
  exact (h id t t' ht ht').trans (h' id t' t'' ht' ht'')

variable {id : String}

theorem moved_put {q q' : Queue} (hk : Keyed q) (ht : q.tasks.get? id = some t)
    (hmove : Move c t t') (hq' : q'.tasks = q.tasks.set t'.taskId t') : Moved c q q' := by
  intro j u u' hu hu'
  have hid : t'.taskId = id := hmove.same.taskId.trans (hk id t ht)
  rw [hq', hid, OMap.get?_set] at hu'
  split at hu'
  · next hj =>
      cases hu'
      rw [hj, ht] at hu
      cases hu
      exact hmove
  · rw [hu] at hu'
    cases hu'
    exact .refl u

section Calls

variable (env : Env) {q : Queue} (hk : Keyed q)

include hk

theorem moved_put_event {r : Queue} (hr : r.tasks = q.tasks) (ht : q.tasks.get? id = some t)
    (hmove : Move c t t') (e : EventType) (m : List (String × Meta)) :
    Moved c q ((r.put t').event env t' e m) :=
  moved_put hk ht hmove (by rw [event_tasks, put_tasks, hr])

theorem becomeUnknown_moved {q₁ : Queue} (hq₁ : q₁.tasks = q.tasks) {t : AsyncTaskRecord}
    (ht : q.tasks.get? id = some t) (hactive : t.Active) (hash : String) :
    Moved c q (q₁.becomeUnknown env t hash) := by
  refine moved_put_event env hk (r := (q₁.now env).2) hq₁ ht ?_ _ _
  refine .of_active hactive ⟨rfl, rfl, rfl, rfl⟩ (withinAttempts_of rfl rfl ?_)
  exact fun hw => absurd hw (not_waiting (by simp [clearLease]) (by simp [clearLease]))

theorem heartbeat_moved (l : LeaseCommand) (d : ℚ) : Moved c q (q.heartbeat env l d).2 := by
  obtain ⟨q₁, hq₁, h | ⟨t, u, h, ht, hheld, hu⟩⟩ := validLease_cases env q l
  · simp only [Queue.heartbeat, h]
    exact .of_eq hq₁
  · simp only [Queue.heartbeat, h]
    split
    · exact .of_eq hq₁
    · refine moved_put_event env hk (r := (q₁.now env).2) hq₁ ht ?_ _ _
      exact .of_state ⟨rfl, rfl, rfl, rfl⟩ rfl rfl rfl

theorem checkpoint_moved (l : LeaseCommand) (i : Queue.CheckpointInput) :
    Moved c q (q.checkpoint env l i).2 := by
  obtain ⟨q₁, hq₁, h | ⟨t, u, h, ht, hheld, hu⟩⟩ := validLease_cases env q l
  · simp only [Queue.checkpoint, h]
    exact .of_eq hq₁
  · simp only [Queue.checkpoint, h]
    split
    · exact .of_eq hq₁
    · split
      · exact .of_eq hq₁
      · refine moved_put_event env hk (r := ((q₁.randomUUID env).2.now env).2) hq₁ ht ?_ _ _
        exact .of_state ⟨rfl, rfl, rfl, rfl⟩ rfl rfl rfl

theorem complete_moved (l : LeaseCommand) (r : Option String) :
    Moved c q (q.complete env l r).2 := by
  obtain ⟨q₁, hq₁, h | ⟨t, u, h, ht, hheld, hu⟩⟩ := validLease_cases env q l
  · simp only [Queue.complete, h]
    exact .of_eq hq₁
  · simp only [Queue.complete, h]
    refine moved_put_event env hk (r := (q₁.now env).2) hq₁ ht ?_ _ _
    refine .of_active (.inr hheld.1) ⟨rfl, rfl, rfl, rfl⟩ (withinAttempts_of rfl rfl ?_)
    exact fun hw => absurd hw (not_waiting (by simp [clearLease]) (by simp [clearLease]))

theorem fail_moved (l : LeaseCommand) (e : String) (r : Bool) (d : Option ℚ) :
    Moved c q (q.fail env l e r d).2 := by
  unfold Queue.fail
  split
  · exact .of_eq rfl
  · obtain ⟨q₁, hq₁, h | ⟨t, u, h, ht, hheld, hu⟩⟩ := validLease_cases env q l
    · simp only [h]
      exact .of_eq hq₁
    · simp only [h]
      split
      · exact .of_eq hq₁
      · refine moved_put_event env hk (r := ((q₁.now env).2.now env).2) hq₁ ht ?_ _ _
        refine .of_active (.inr hheld.1) ⟨rfl, rfl, rfl, rfl⟩ (withinAttempts_of rfl rfl ?_)
        -- a retry is granted only while an attempt is left
        intro hw
        by_contra hspent
        refine not_waiting ?_ ?_ hw <;> simp [clearLease, hspent]

theorem markUnknown_moved (l : LeaseCommand) (hash : String) :
    Moved c q (q.markUnknown env l hash).2 := by
  unfold Queue.markUnknown
  split
  · exact .of_eq rfl
  · obtain ⟨q₁, hq₁, h | ⟨t, u, h, ht, hheld, hu⟩⟩ := validLease_cases env q l
    · simp only [h]
      exact .of_eq hq₁
    · simp only [h]
      exact becomeUnknown_moved env hk hq₁ ht (.inr hheld.1) hash

theorem recordUnknownObservation_moved (id f hash : String) :
    Moved c q (q.recordUnknownObservation env id f hash).2 := by
  unfold Queue.recordUnknownObservation
  split
  · exact .of_eq rfl
  · split
    · exact .of_eq rfl
    · next t ht =>
        split
        · exact .of_eq rfl
        · split
          · split <;> exact .of_eq rfl
          · next hunknown =>
              split
              · exact .of_eq rfl
              · next hend =>
                  exact becomeUnknown_moved env hk rfl (requireTask_ok ht)
                    (active_of_not_ended hunknown hend) hash

theorem reconcileUnknown_moved (id hash : String) (o : Queue.Observed) :
    Moved (.reconcileUnknown id hash o) q (q.reconcileUnknown env id hash o).2 := by
  unfold Queue.reconcileUnknown
  split
  · exact .of_eq rfl
  · next t hreq =>
      have ht := requireTask_ok hreq
      split
      · exact .of_eq rfl
      · next hcond =>
          simp only [ne_eq, not_or, not_not] at hcond
          refine moved_put_event env hk (r := (q.now env).2) rfl ht ?_ _ _
          refine ⟨⟨rfl, rfl, rfl, rfl⟩, withinAttempts_of rfl rfl ?_, ?_, ?_, ?_⟩
          · -- the only way back to the pool asks for an attempt left
            intro hw
            by_contra hspent
            refine not_waiting ?_ ?_ hw <;> cases o <;> simp [hspent]
          · intro hend
            simp [hcond.1] at hend
          · intro hsucc
            simp [hcond.1] at hsucc
          · intro _
            exact .inr (.inl ⟨hash, o, by rw [hk id t ht]⟩)

theorem cancel_moved (id r : String) :
    Moved (.cancel id r) q (q.cancel env id r).2 := by
  unfold Queue.cancel
  split
  · exact .of_eq rfl
  · next t hreq =>
      have ht := requireTask_ok hreq
      split
      · exact .of_eq rfl
      · next hend =>
          have hmove : ∀ t' : AsyncTaskRecord, SameTask t t' → t'.state = .cancelled →
              t'.attemptCount = t.attemptCount → t'.maxAttempts = t.maxAttempts →
              Move (.cancel id r) t t' := by
            intro t' hsame hstate hcount hmax
            have hwithin : WithinAttempts t → WithinAttempts t' := withinAttempts_of hcount hmax
              fun hw => absurd hw (not_waiting (by simp [hstate]) (by simp [hstate]))
            by_cases hunknown : t.state = .unknown
            · refine ⟨hsame, hwithin, ?_, ?_, ?_⟩
              · intro h
                simp [hunknown] at h
              · intro h
                simp [hunknown] at h
              · intro _
                exact .inr (.inr (.inr ⟨r, by rw [hk id t ht]⟩))
            · exact .of_active (active_of_not_ended hunknown hend) hsame hwithin
          dsimp only
          split
          · refine moved_put hk ht ?_ (put_tasks q _)
            refine hmove _ ?_ ?_ ?_ ?_
            · exact ⟨rfl, rfl, rfl, rfl⟩
            · rfl
            · rfl
            · rfl
          · refine moved_put_event env hk (r := (q.now env).2) rfl ht ?_ _ _
            refine hmove _ ?_ ?_ ?_ ?_
            · exact ⟨rfl, rfl, rfl, rfl⟩
            · rfl
            · rfl
            · rfl

/-! ## Sweeps and leases -/

omit hk in
theorem moved_foldl {f : List String × Queue → String → List String × Queue} (hf : Sweep f)
    (hmove : ∀ acc id, Keyed acc.2 → Moved c acc.2 (f acc id).2) (ids : List String)
    (acc : List String × Queue) (hacc : Keyed acc.2) : Moved c acc.2 (ids.foldl f acc).2 := by
  induction ids generalizing acc with
  | nil => exact .of_eq rfl
  | cons id ids ih =>
      have hquiet := hf.quiet acc id hacc
      exact (hmove acc id hacc).trans hquiet (ih (f acc id) (hquiet.keyed hacc))

theorem recoverExpiredLeases_moved : Moved c q (q.recoverExpiredLeases env).2 := by
  refine moved_foldl (recoverOne_sweep env _) ?_ _ ([], (q.now env).2) hk
  intro acc id hacc
  unfold Queue.recoverOne
  dsimp only
  split
  · exact .of_eq rfl
  · next t ht =>
      split
      · next hcond =>
          refine moved_put_event env hacc (r := (acc.2.now env).2) rfl ht ?_ _ _
          refine .of_active (.inr hcond.1) ⟨rfl, rfl, rfl, rfl⟩ (withinAttempts_of rfl rfl ?_)
          intro hw
          by_contra hspent
          refine not_waiting ?_ ?_ hw <;> simp [clearLease, hspent]
      · exact .of_eq rfl

theorem reconcileBlockedDependencies_moved :
    Moved c q (q.reconcileBlockedDependencies env).2 := by
  refine moved_foldl (reconcileOne_sweep env) ?_ _ ([], q) hk
  intro acc id hacc
  unfold Queue.reconcileOne
  dsimp only
  split
  · exact .of_eq rfl
  · next t ht =>
      split
      · next hcond =>
          refine moved_put_event env hacc (r := (acc.2.now env).2) rfl ht ?_ _ _
          refine .of_active (.inl hcond.1) ⟨rfl, rfl, rfl, rfl⟩ (withinAttempts_of rfl rfl ?_)
          exact fun hw => absurd hw (not_waiting (by simp) (by simp))
      · exact .of_eq rfl

theorem supersedePacket_moved (org packet : String) (r : ℚ) :
    Moved (.supersedePacket org packet r) q (q.supersedePacket env org packet r).2 := by
  unfold Queue.supersedePacket
  split
  · exact .of_eq rfl
  · refine moved_foldl (supersedeOne_sweep env org packet r) ?_ _ ([], q) hk
    intro acc id hacc
    unfold Queue.supersedeOne
    dsimp only
    split
    · exact .of_eq rfl
    · next t ht =>
        split
        · next hcond =>
            obtain ⟨horg, hpacket, hrev, hopen⟩ := hcond
            obtain ⟨revision, hrevision, hlt⟩ := (Option.any_eq_true _ _).mp hrev
            have hs : Supersedes (.supersedePacket org packet r) t :=
              ⟨packet, r, revision, by rw [horg], hpacket, hrevision, by simpa using hlt⟩
            refine moved_put_event env hacc (r := (acc.2.now env).2) rfl ht ?_ _ _
            refine ⟨⟨rfl, rfl, rfl, rfl⟩, withinAttempts_of rfl rfl ?_, ?_, ?_, ?_⟩
            · exact fun hw => absurd hw
                (not_waiting (by simp [clearLease]) (by simp [clearLease]))
            · exact fun hend => absurd hend hopen
            · exact fun _ => .inr ⟨rfl, hs⟩
            · exact fun _ => .inr (.inr (.inl ⟨rfl, hs⟩))
        · exact .of_eq rfl

/-- `lease` hands out a waiting task with an attempt left, which it uses up. -/
theorem lease_moved (workerId : String) (d : ℚ) : Moved c q (q.lease env workerId d).2 := by
  by_cases hargs : (isBlank workerId || !leaseDurationOk d) = true
  · simp only [Queue.lease, hargs, if_true]
    exact .of_eq rfl
  · simp only [Queue.lease, hargs, if_false, Bool.false_eq_true]
    obtain ⟨hrec, -⟩ := recoverExpiredLeases_spec env hk
    obtain ⟨hblk, -⟩ := reconcileBlockedDependencies_spec env (hrec.keyed hk)
    have hmoved : Moved c q ((q.recoverExpiredLeases env).2.reconcileBlockedDependencies env).2 :=
      (recoverExpiredLeases_moved env hk).trans hrec
        (reconcileBlockedDependencies_moved env (hrec.keyed hk))
    have hquiet := hrec.trans hblk
    generalize ((q.recoverExpiredLeases env).2.reconcileBlockedDependencies env).2 = q₁
      at hquiet hmoved
    have hk₁ := hquiet.keyed hk
    cases hc : (q₁.now env).2.candidates env (q₁.now env).1 with
    | nil => exact hmoved.trans hquiet (.of_eq rfl)
    | cons t rest =>
        obtain ⟨hval, hleasable⟩ := (mem_candidates env).mp (hc ▸ List.mem_cons_self)
        obtain ⟨id, hid⟩ := (OMap.mem_values_iff _ _).mp hval
        refine hmoved.trans hquiet ?_
        refine moved_put_event env hk₁ (r := ((q₁.now env).2.randomUUID env).2.now env |>.2) rfl
          hid ?_ _ _
        simp only [Queue.leasable, Bool.and_eq_true, Bool.or_eq_true, decide_eq_true_eq]
          at hleasable
        refine .of_active (.inl hleasable.1.1.1) ⟨rfl, rfl, rfl, rfl⟩ fun _ => ⟨?_, ?_⟩
        · exact hleasable.1.2
        · exact fun hw => absurd hw (not_waiting (by rintro ⟨⟩) (by rintro ⟨⟩))

end Calls

/-! ## Runs -/

variable {env : Env} {q : Queue}

theorem validateEnqueue_maxAttempts {input : EnqueueTask} (h : validateEnqueue env input = .ok ())
    {n : ℚ} (hn : input.maxAttempts = some n) : isSafeInteger n ∧ 1 ≤ n := by
  by_contra hbad
  have hany : (input.maxAttempts.any fun n => !isSafeInteger n || n < 1 || 100 < n) = true := by
    rw [hn, Option.any_some]
    by_cases hsafe : isSafeInteger n = true
    · have hlt : n < 1 := by
        by_contra hge
        exact hbad ⟨hsafe, Rat.not_lt.mp hge⟩
      simp [hlt]
    · simp [hsafe]
  unfold validateEnqueue at h
  simp only [hany, if_true, bind, Except.bind] at h
  split at h
  · cases h
  · split at h
    · cases h
    · cases h

variable (env q) in
/-- `enqueue` stores nothing, or one task with an attempt to spare. -/
theorem enqueue_within (input : EnqueueTask) :
    (q.enqueue env input).2.tasks = q.tasks ∨
      ∃ t, WithinAttempts t ∧ q.tasks.get? t.taskId = none ∧
        (q.enqueue env input).2.tasks = q.tasks.set t.taskId t := by
  rcases enqueue_stores env q input with h | ⟨taskId, now, hvalid, hid, hset⟩
  · exact .inl h
  · refine .inr ⟨Queue.newTask input taskId now, ?_, hid, hset⟩
    have hmax : 0 < (Queue.newTask input taskId now).maxAttempts := by
      simp only [Queue.newTask]
      split
      · next n hn =>
          obtain ⟨hsafe, hone⟩ := validateEnqueue_maxAttempts hvalid hn
          simp only [isSafeInteger, Bool.and_eq_true, decide_eq_true_eq] at hsafe
          -- an integer that is at least 1
          have hnum : n = (n.num : ℚ) := (Rat.den_eq_one_iff n).mp hsafe.1 |>.symm
          have hpos : 1 ≤ n.num := by
            rw [hnum] at hone
            exact_mod_cast hone
          omega
      · exact Nat.succ_pos 4
    exact ⟨Nat.zero_le _, fun _ => hmax⟩

/-- Every call moves the stored tasks, and a task it adds is within its attempts. -/
theorem exec_moved (env : Env) (hk : Keyed q) (c : Call) : Moved c q (exec env q c).2 := by
  cases c with
  | enqueue input =>
      rcases enqueue_within env q input with h | ⟨t, -, hid, hset⟩
      · exact .of_eq h
      · intro id u u' hu hu'
        have hne : id ≠ t.taskId := by
          rintro rfl
          rw [hid] at hu
          cases hu
        rw [exec, Outcome.reply, hset, OMap.get?_set_of_ne _ _ hne, hu] at hu'
        cases hu'
        exact .refl u
  | lease w d => exact lease_moved env hk w d
  | heartbeat l d => exact heartbeat_moved env hk l d
  | checkpoint l i => exact checkpoint_moved env hk l i
  | recordToolEvent l p n r => exact .of_eq (recordToolEvent_tasks env l p n r)
  | complete l r => exact complete_moved env hk l r
  | fail l e r d => exact fail_moved env hk l e r d
  | markUnknown l hash => exact markUnknown_moved env hk l hash
  | recordUnknownObservation id f hash => exact recordUnknownObservation_moved env hk id f hash
  | reconcileUnknown id hash o => exact reconcileUnknown_moved env hk id hash o
  | supersedePacket o p r => exact supersedePacket_moved env hk o p r
  | cancel id r => exact cancel_moved env hk id r
  | recoverExpiredLeases => exact recoverExpiredLeases_moved env hk
  | reconcileBlockedDependencies => exact reconcileBlockedDependencies_moved env hk

/-- A stored task stays stored, and moves. -/
theorem exec_forward (env : Env) (hk : Keyed q) (c : Call) {t : AsyncTaskRecord}
    (ht : q.tasks.get? id = some t) :
    ∃ t', (exec env q c).2.tasks.get? id = some t' ∧ Move c t t' := by
  have stored : ∃ t', (exec env q c).2.tasks.get? id = some t' := by
    rcases exec_cases env hk c with ⟨hquiet, -⟩ | ⟨u, -, -, -, hset⟩ | ⟨l, q₁, u, -, hl⟩
    · obtain ⟨t', ht', -⟩ := hquiet.forward ht
      exact ⟨t', ht'⟩
    · rw [hset, OMap.get?_set]
      split
      · exact ⟨u, rfl⟩
      · exact ⟨t, ht⟩
    · obtain ⟨t₁, ht₁, -⟩ := hl.quiet.forward ht
      rw [hl.stored, OMap.get?_set]
      split
      · exact ⟨l.task, rfl⟩
      · exact ⟨t₁, ht₁⟩
  obtain ⟨t', ht'⟩ := stored
  exact ⟨t', ht', exec_moved env hk c id t t' ht ht'⟩

/-- A task stored after a call was stored before it, or is new and within its
attempts. -/
theorem exec_back (env : Env) (hk : Keyed q) (c : Call) {t' : AsyncTaskRecord}
    (ht' : (exec env q c).2.tasks.get? id = some t') :
    (∃ t, q.tasks.get? id = some t) ∨ WithinAttempts t' := by
  cases c with
  | enqueue input =>
      rcases enqueue_within env q input with h | ⟨t, hwithin, -, hset⟩
      · rw [exec, Outcome.reply, h] at ht'
        exact .inl ⟨t', ht'⟩
      · rw [exec, Outcome.reply, hset, OMap.get?_set] at ht'
        split at ht'
        · cases ht'
          exact .inr hwithin
        · exact .inl ⟨t', ht'⟩
  | lease w d =>
      left
      rcases lease_cases env hk w d with ⟨hquiet, -⟩ | ⟨l, q₁, u, -, hl⟩
      · obtain ⟨t, ht, -⟩ := hquiet.back ht'
        exact ⟨t, ht⟩
      · have hmid : ∃ t₁, q₁.tasks.get? id = some t₁ := by
          rw [exec, Outcome.reply, hl.stored, OMap.get?_set] at ht'
          split at ht'
          · next hid => exact ⟨u, hid ▸ hl.found⟩
          · exact ⟨t', ht'⟩
        obtain ⟨t₁, ht₁⟩ := hmid
        obtain ⟨t, ht, -⟩ := hl.quiet.back ht₁
        exact ⟨t, ht⟩
  | _ =>
      obtain ⟨t, ht, -⟩ := QuietTasks.back (exec_quiet env hk (by exact not_false)) ht'
      exact .inl ⟨t, ht⟩

/-- Every stored task is within its attempts. -/
def AllWithin (s : Session) : Prop :=
  ∀ id t, s.queue.tasks.get? id = some t → WithinAttempts t

theorem allWithin_run (env : Env) (calls : List Call) : AllWithin (run env calls) := by
  have hstep : ∀ s c s', Fenced s ∧ AllWithin s → TSys.any s c → (system env).Step s c s' →
      Fenced s' ∧ AllWithin s' := by
    rintro s c s' ⟨hf, hall⟩ - rfl
    refine ⟨fenced_step hf c, ?_⟩
    intro id t' ht'
    rcases exec_back env hf.keyed c ht' with ⟨t, ht⟩ | hnew
    · exact (exec_moved env hf.keyed c id t t' ht ht').attempts (hall id t ht)
    · exact hnew
  have hinit : Fenced .initial ∧ AllWithin .initial :=
    ⟨fenced_initial, fun id t h => by simp [Session.initial, Queue.initial] at h⟩
  have hind : (system env).Inductive TSys.any fun s => Fenced s ∧ AllWithin s :=
    ⟨fun s h => h ▸ hinit, hstep⟩
  exact (hind.invariant (TSys.reachable_foldl _ _ calls)).2

/-- **Task life cycle.** After any calls: every task is within its attempts,
with one to spare while it waits to be leased; and whatever the next call
`c` is, each task stays stored, ended tasks keep their state, a succeeded one
is only ever superseded by a newer revision of its packet, and an unknown one
moves only by reconciliation, supersession or cancellation. -/
theorem task_life_cycle (env : Env) (calls : List Call) :
    (∀ id t, (run env calls).queue.tasks.get? id = some t →
      t.attemptCount ≤ t.maxAttempts ∧
        (t.state = .queued ∨ t.state = .retryWait → t.attemptCount < t.maxAttempts)) ∧
    ∀ (c : Call) id t, (run env calls).queue.tasks.get? id = some t →
      ∃ t', ((run env calls).next env c).queue.tasks.get? id = some t' ∧
        (t.state = .deadLetter ∨ t.state = .cancelled ∨ t.state = .superseded →
          t'.state = t.state) ∧
        (t.state = .succeeded → t'.state = t.state ∨ (t'.state = .superseded ∧ Supersedes c t)) ∧
        (t.state = .unknown → t'.state = t.state ∨ (∃ hash o, c = .reconcileUnknown id hash o) ∨
          (t'.state = .superseded ∧ Supersedes c t) ∨ ∃ reason, c = .cancel id reason) := by
  have hk := (fenced_run env calls).keyed
  refine ⟨fun id t ht => ?_, fun c id t ht => ?_⟩
  · have hwithin := allWithin_run env calls id t ht
    exact ⟨hwithin.bounded, hwithin.spare⟩
  · obtain ⟨t', ht', hmove⟩ := exec_forward env hk c ht
    refine ⟨t', ht', ?_, ?_, ?_⟩
    · intro hend
      exact hmove.ended (by simpa using hend)
    · intro hsucc
      rw [hsucc]
      exact hmove.succeeded hsucc
    · intro hunknown
      rw [hunknown, ← hk id t ht]
      exact hmove.unknown hunknown

end InspectionHub.TaskQueue
