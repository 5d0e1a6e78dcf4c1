import InspectionHub.Lib.OnePass
import InspectionHub.TaskQueue.Atomic
import InspectionHub.TaskQueue.LifeCycle

/-!
# Cancelling what can no longer run

`reconcileBlockedDependencies` visits the tasks once, in the order they were
enqueued, and cancels a waiting one when a dependency has ended without
success by then. A dependency may be enqueued after its dependant, so a chain
of dependencies is followed to its end only where it runs back in that order
(`dependencies_cancelled_iff`). Elsewhere a second call cancels more
(`Sample.second_call_cancels`).
-/

namespace InspectionHub.TaskQueue

variable (env : Env) {q : Queue}

/-- The task waits. -/
def Waits (q : Queue) (id : String) : Prop := ∃ t, q.tasks.get? id = some t ∧ t.Waiting

def DependsOn (q : Queue) (id d : String) : Prop :=
  ∃ t, q.tasks.get? id = some t ∧ d ∈ t.dependencyTaskIds

/-- The task ended without success. -/
def Ended (q : Queue) (id : String) : Prop :=
  ∃ t, q.tasks.get? id = some t ∧
    (t.state = .deadLetter ∨ t.state = .cancelled ∨ t.state = .superseded)

/-- The task waits, through some chain of waiting dependencies, for one that ended without
success. -/
abbrev Doomed (q : Queue) : String → Prop := OnePass.Doomed (Waits q) (Ended q) (DependsOn q)

/-- It does so through a chain in which every dependency was enqueued before its dependant. -/
abbrev CaughtInOrder (q : Queue) : String → Prop :=
  OnePass.Caught (Waits q) (Ended q) (DependsOn q) q.tasks.keys

/-- No waiting task depends on one that ended without success. -/
def Unblocked (q : Queue) : Prop := ∀ id d, Waits q id → DependsOn q id d → ¬ Ended q d

/-! ## One visit -/

/-- What the pass has done to the queue `q` when it has marked `marked`. -/
structure Swept (q : Queue) (marked : Set String) (acc : List String × Queue) : Prop where
  keyed : Keyed acc.2
  untouched : ∀ id, id ∉ marked → acc.2.tasks.get? id = q.tasks.get? id
  cancelled : ∀ id, id ∈ marked → ∃ t, acc.2.tasks.get? id = some t ∧ t.state = .cancelled
  reported : ∀ id, id ∈ acc.1 ↔ id ∈ marked

theorem Swept.nil (hk : Keyed q) : Swept q ∅ ([], q) where
  keyed := hk
  untouched _ _ := rfl
  cancelled _ h := absurd h (Set.notMem_empty _)
  reported id := iff_of_false List.not_mem_nil (Set.notMem_empty id)

variable {acc : List String × Queue} {marked : Set String}

/-- What has ended in the swept queue had ended before or is marked. -/
theorem Swept.ended_iff (h : Swept q marked acc) (d : String) :
    Ended acc.2 d ↔ Ended q d ∨ d ∈ marked := by
  by_cases hd : d ∈ marked
  · obtain ⟨t, ht, hstate⟩ := h.cancelled d hd
    exact iff_of_true ⟨t, ht, .inr (.inl hstate)⟩ (.inr hd)
  · rw [or_iff_left hd, Ended, Ended, h.untouched d hd]

theorem Swept.waits_iff (h : Swept q marked acc) (id : String) :
    Waits acc.2 id ↔ Waits q id ∧ id ∉ marked := by
  by_cases hid : id ∈ marked
  · refine iff_of_false ?_ fun hwaits => hwaits.2 hid
    rintro ⟨t, ht, hwaiting⟩
    obtain ⟨t', ht', hstate⟩ := h.cancelled id hid
    obtain rfl := Option.some_inj.mp (ht.symm.trans ht')
    rcases hwaiting with hq | hr
    · exact absurd (hstate.symm.trans hq) (by decide)
    · exact absurd (hstate.symm.trans hr) (by decide)
  · rw [Waits, Waits, h.untouched id hid, and_iff_left hid]

/-- The condition of a visit, read in the queue it visits. -/
theorem any_ended_iff (t : AsyncTaskRecord) :
    (t.dependencyTaskIds.any fun taskId =>
      match (q.tasks.get? taskId).map AsyncTaskRecord.state with
      | some .deadLetter | some .cancelled | some .superseded => true
      | _ => false) = true ↔ ∃ d ∈ t.dependencyTaskIds, Ended q d := by
  rw [List.any_eq_true]
  refine exists_congr fun d => and_congr_right fun _ => ?_
  unfold Ended
  cases q.tasks.get? d with
  | none => simp
  | some t' => cases hstate : t'.state <;> simp [hstate]

theorem Swept.visit (h : Swept q marked acc) {id : String} (hid : id ∉ marked) :
    Swept q (OnePass.mark (Waits q) (Ended q) (DependsOn q) marked id)
      (Queue.reconcileOne env acc id) := by
  -- a visit that finds nothing to cancel marks nothing
  have hskip : ¬ (Waits q id ∧ ∃ d, DependsOn q id d ∧ (Ended q d ∨ d ∈ marked)) →
      Swept q (OnePass.mark (Waits q) (Ended q) (DependsOn q) marked id) acc := by
    intro hnot
    have hsame : OnePass.mark (Waits q) (Ended q) (DependsOn q) marked id = marked := by
      ext k
      exact ⟨fun hmem => hmem.resolve_right fun hcase => hnot hcase.2, .inl⟩
    rwa [hsame]
  have hget := h.untouched id hid
  unfold Queue.reconcileOne
  dsimp only
  split
  · next hnone =>
      refine hskip ?_
      rintro ⟨⟨t, ht, -⟩, -⟩
      rw [hget, ht] at hnone
      cases hnone
  · next t ht =>
      have hthere : q.tasks.get? id = some t := hget.symm.trans ht
      split
      · next hcond =>
          obtain ⟨hwaiting, hany⟩ := hcond
          obtain ⟨d, hd, hended⟩ := (any_ended_iff t).mp hany
          have hmark : Waits q id ∧ ∃ d, DependsOn q id d ∧ (Ended q d ∨ d ∈ marked) :=
            ⟨⟨t, hthere, hwaiting⟩, d, ⟨t, hthere, hd⟩, (h.ended_iff d).mp hended⟩
          have htaskId : t.taskId = id := h.keyed id t ht
          constructor
          · refine QuietTasks.keyed
              (quiet_put_event env h.keyed (r := (acc.2.now env).2) rfl ht ?_ _ _) h.keyed
            have hidle : t.state ≠ .running := by
              rcases hwaiting with hs | hs <;> simp [hs]
            exact quiet_waiting rfl rfl rfl hidle nofun rfl rfl
          · intro k hk
            have hne : k ≠ id := fun hkid => hk (.inr ⟨hkid, hmark⟩)
            rw [event_tasks, put_tasks]
            show (OMap.set _ t.taskId _).get? k = _
            rw [htaskId, OMap.get?_set_of_ne _ _ hne]
            exact h.untouched k fun hmem => hk (.inl hmem)
          · rintro k hk
            rw [event_tasks, put_tasks]
            show ∃ t', (OMap.set _ t.taskId _).get? k = some t' ∧ _
            rw [htaskId, OMap.get?_set]
            split
            · exact ⟨_, rfl, rfl⟩
            · next hne =>
                exact h.cancelled k (hk.resolve_right fun hcase => hne hcase.1)
          · intro k
            rw [List.mem_append, h.reported, List.mem_singleton]
            exact or_congr_right (and_iff_left hmark).symm
      · next hcond =>
          refine hskip ?_
          rintro ⟨⟨t', ht', hwaiting⟩, d, ⟨t'', ht'', hd⟩, hended⟩
          obtain rfl := Option.some_inj.mp (hthere.symm.trans ht')
          obtain rfl := Option.some_inj.mp (hthere.symm.trans ht'')
          exact hcond ⟨hwaiting, (any_ended_iff t).mpr ⟨d, hd, (h.ended_iff d).mpr hended⟩⟩

/-! ## The whole pass -/

/-- The pass over some of the tasks, each once. -/
theorem swept_foldl (hk : Keyed q) {ids : List String} (hnodup : ids.Nodup) :
    Swept q (ids.foldl (OnePass.mark (Waits q) (Ended q) (DependsOn q)) ∅)
      (ids.foldl (Queue.reconcileOne env) ([], q)) := by
  induction ids using List.reverseRecOn with
  | nil => exact Swept.nil hk
  | append_singleton ids id ih =>
      have hfront := (List.nodup_append.mp hnodup).1
      have hlast : id ∉ ids := fun h =>
        (List.nodup_append.mp hnodup).2.2 id h id (by simp) rfl
      rw [List.foldl_append, List.foldl_append]
      refine Swept.visit env (ih hfront) ?_
      rw [OnePass.mem_pass_iff hfront]
      intro hcaught
      cases hcaught with
      | direct hmem _ _ _ => exact hlast hmem
      | chain hbefore _ _ _ => exact hlast (hbefore.subset (by simp))

/-- What a call cancels: the tasks caught in order. -/
theorem reconcile_swept (hk : Keyed q) :
    Swept q {id | CaughtInOrder q id} (q.reconcileBlockedDependencies env) := by
  have hswept := swept_foldl env hk q.tasks.nodup
  have hmarked : q.tasks.keys.foldl (OnePass.mark (Waits q) (Ended q) (DependsOn q)) ∅ =
      {id | CaughtInOrder q id} := by
    ext id
    exact OnePass.mem_pass_iff q.tasks.nodup id
  rw [← hmarked]
  exact hswept

/-- A call cancels nothing exactly when nothing is blocked. -/
theorem reconcile_nil_iff (hk : Keyed q) :
    (q.reconcileBlockedDependencies env).1 = [] ↔ Unblocked q := by
  have hswept := reconcile_swept env hk
  constructor
  · intro hnil id d hwaits hdepends hended
    have hmem : id ∈ q.tasks.keys := by
      obtain ⟨t, ht, -⟩ := hwaits
      exact (q.tasks.get?_isSome_iff id).mp (Option.isSome_iff_exists.mpr ⟨t, ht⟩)
    have hreported := (hswept.reported id).mpr (.direct hmem hwaits hdepends hended)
    rw [hnil] at hreported
    cases hreported
  · intro hunblocked
    refine List.eq_nil_iff_forall_not_mem.mpr fun id hid => ?_
    obtain ⟨k, d, hwaits, hdepends, hended⟩ := ((hswept.reported id).mp hid).doomed.blocked
    exact hunblocked k d hwaits hdepends hended

/-- The dependencies of a task survive the pass. -/
theorem dependsOn_reconcile (hk : Keyed q) {id d : String}
    (hnot : ¬ CaughtInOrder q id) :
    DependsOn (q.reconcileBlockedDependencies env).2 id d ↔ DependsOn q id d := by
  rw [DependsOn, DependsOn, (reconcile_swept env hk).untouched id hnot]

/-- **Dependency cancellation.** After any calls, one `reconcileBlockedDependencies` leaves no
waiting task that depends on one that ended without success, and a second one cancels nothing,
exactly if every task that waits, through any chain of waiting dependencies, for one that ended
without success does so through a chain enqueued dependency first. -/
theorem dependencies_cancelled_iff (env : Env) (calls : List Call) :
    (Unblocked ((run env calls).queue.reconcileBlockedDependencies env).2 ∧
      (((run env calls).queue.reconcileBlockedDependencies env).2.reconcileBlockedDependencies
        env).1 = []) ↔
      ∀ id, Doomed (run env calls).queue id → CaughtInOrder (run env calls).queue id := by
  have hk : Keyed (run env calls).queue := (fenced_run env calls).keyed
  generalize (run env calls).queue = q at hk ⊢
  have hswept := reconcile_swept env hk
  rw [reconcile_nil_iff env hswept.keyed, and_self, ← OnePass.settled_iff fun _ h => h.doomed]
  refine forall_congr' fun id => forall_congr' fun d => ?_
  rw [hswept.waits_iff, hswept.ended_iff]
  constructor
  · intro h hwaits hnot hdepends
    exact h ⟨hwaits, hnot⟩ ((dependsOn_reconcile env hk hnot).mpr hdepends)
  · rintro h ⟨hwaits, hnot⟩ hdepends
    exact h hwaits hnot ((dependsOn_reconcile env hk hnot).mp hdepends)

/-! ## A chain enqueued the other way round -/

namespace Sample

/-- A task under its own identifier, with its dependencies. -/
def dependant (taskId : String) (dependencyTaskIds : List String) : EnqueueTask :=
  { request with
    taskId := some taskId
    idempotencyKey := taskId
    dependencyTaskIds := some dependencyTaskIds }

/-- The last task of the chain is enqueued first, and the first one is cancelled. -/
def chain : List Call :=
  [.enqueue (dependant "render" ["draft"]), .enqueue (dependant "draft" ["proxy"]),
    .enqueue (dependant "proxy" []), .cancel "proxy" "source_lost"]

/-- The first call cancels the draft after it has passed the report that waits for it. -/
theorem second_call_cancels :
    ¬ ∀ env calls,
      Unblocked ((run env calls).queue.reconcileBlockedDependencies env).2 ∧
      (((run env calls).queue.reconcileBlockedDependencies env).2.reconcileBlockedDependencies
        env).1 = [] := by
  intro h
  have hsecond : (((run still chain).queue.reconcileBlockedDependencies
      still).2.reconcileBlockedDependencies still).1 = ["render"] := by decide +kernel
  have hnone := (h still chain).2
  rw [hsecond] at hnone
  cases hnone

end Sample

end InspectionHub.TaskQueue
