import InspectionHub.Lib.Sorting
import InspectionHub.TaskQueue.Atomic

/-!
# Which task `lease` hands out

`lease` hands out the first of the eligible tasks in the order of the texts
`availableAt:createdAt:taskId`. Eligibility reads `availableAt` as an instant,
and any spelling `Date.parse` reads is accepted, so texts and instants may be
ordered differently. A lease is fair exactly if the eligible task whose text
comes first is not later than another (`fair_lease_iff`).
-/

namespace InspectionHub.TaskQueue

open Js

/-- `a` is available before `b`, or at the same instant and created before it. -/
def Sooner (host : Host) (a b : AsyncTaskRecord) : Prop :=
  ∃ i j, host.dateParse a.availableAt = some i ∧ host.dateParse b.availableAt = some j ∧
    (i < j ∨ i = j ∧ ∃ c d, host.dateParse a.createdAt = some c ∧
      host.dateParse b.createdAt = some d ∧ c < d)

variable (env : Env)

/-- The queue from which `lease` chooses. -/
def Queue.settled (q : Queue) : Queue :=
  ((q.recoverExpiredLeases env).2.reconcileBlockedDependencies env).2

/-- The tasks it chooses among, in the order they were enqueued. -/
def eligible (q : Queue) : List AsyncTaskRecord :=
  (q.settled env).tasks.values.filter
    ((q.settled env).leasable env ((q.settled env).now env).1)

/-- Every lease hands out an eligible task no eligible one is sooner than; none is handed out
only where none is eligible. -/
structure FairLease (q : Queue) : Prop where
  chosen : ∀ workerId leaseDurationMs l,
    (q.lease env workerId leaseDurationMs).1 = .ok (some l) →
      ∃ t ∈ eligible env q, l.task.taskId = t.taskId ∧
        ∀ u ∈ eligible env q, ¬ Sooner env.host u t
  idle : ∀ workerId leaseDurationMs, (q.lease env workerId leaseDurationMs).1 = .ok none →
    eligible env q = []

def compareText (host : Host) (a b : AsyncTaskRecord) : Ordering :=
  host.localeCompare (Queue.leaseOrder a) (Queue.leaseOrder b)

/-- The eligible task whose text comes first is not later than another. -/
def TextKeepsTime (q : Queue) : Prop :=
  ∀ t, Sorting.First (compareText env.host) (eligible env q) t →
    ∀ u ∈ eligible env q, ¬ Sooner env.host u t

/-! ## The choice -/

variable {env} {q : Queue}

/-- Stored tasks are distinct. -/
theorem nodup_values (hk : Keyed q) : q.tasks.values.Nodup := by
  have hkeys : q.tasks.values.map AsyncTaskRecord.taskId = q.tasks.keys := by
    rw [OMap.values, OMap.keys, List.map_map]
    refine List.map_congr_left fun e he => ?_
    exact hk e.1 e.2 ((OMap.get?_eq_some_iff q.tasks e.1 e.2).mpr he)
  exact List.Nodup.of_map AsyncTaskRecord.taskId (hkeys ▸ q.tasks.nodup)

theorem nodup_eligible (hk : Keyed q) : (eligible env q).Nodup := by
  have hrecovered := (recoverExpiredLeases_spec env hk).1.keyed hk
  have hsettled := (reconcileBlockedDependencies_spec env hrecovered).1.keyed hrecovered
  exact (nodup_values hsettled).filter _

/-- The worker is named and the duration within bounds. -/
def LeaseArguments (workerId : String) (leaseDurationMs : ℚ) : Prop :=
  (isBlank workerId || !leaseDurationOk leaseDurationMs) = false

/-- `lease` answers at all only with its arguments in order. -/
theorem leaseArguments_of {workerId : String} {leaseDurationMs : ℚ} {o : Option TaskLease}
    (h : (q.lease env workerId leaseDurationMs).1 = .ok o) :
    LeaseArguments workerId leaseDurationMs := by
  by_contra hargs
  rw [Queue.lease, if_pos (Bool.not_eq_false _ ▸ hargs)] at h
  cases h

/-- Eligible tasks are told apart by their identifiers. -/
theorem eligible_eq (hk : Keyed q) {t u : AsyncTaskRecord} (ht : t ∈ eligible env q)
    (hu : u ∈ eligible env q) (hid : t.taskId = u.taskId) : t = u := by
  have hrecovered := (recoverExpiredLeases_spec env hk).1.keyed hk
  have hsettled := (reconcileBlockedDependencies_spec env hrecovered).1.keyed hrecovered
  obtain ⟨k, hk⟩ := (OMap.mem_values_iff _ _).mp (List.mem_filter.mp ht).1
  obtain ⟨k', hk'⟩ := (OMap.mem_values_iff _ _).mp (List.mem_filter.mp hu).1
  have hkeys : k = k' := by
    rw [← hsettled k t hk, ← hsettled k' u hk', hid]
  rw [hkeys] at hk
  exact Option.some_inj.mp (hk.symm.trans hk')

/-- What `lease` answers: the first of the sorted eligible tasks, under its new lease. -/
theorem lease_answer (env : Env) (q : Queue) {workerId : String} {leaseDurationMs : ℚ}
    (hargs : LeaseArguments workerId leaseDurationMs) :
    ((Sorting.sortBy (compareText env.host) (eligible env q)).head? = none ∧
        (q.lease env workerId leaseDurationMs).1 = .ok none) ∨
      ∃ t l, (Sorting.sortBy (compareText env.host) (eligible env q)).head? = some t ∧
        (q.lease env workerId leaseDurationMs).1 = .ok (some l) ∧ l.task.taskId = t.taskId := by
  simp only [Queue.lease, if_neg (ne_true_of_eq_false hargs)]
  cases hcandidates : (((q.recoverExpiredLeases env).2.reconcileBlockedDependencies
      env).2.now env).2.candidates env (((q.recoverExpiredLeases
        env).2.reconcileBlockedDependencies env).2.now env).1 with
  | nil =>
      have hsort : Sorting.sortBy (compareText env.host) (eligible env q) = [] := hcandidates
      rw [hsort]
      exact .inl ⟨rfl, rfl⟩
  | cons t rest =>
      have hsort : Sorting.sortBy (compareText env.host) (eligible env q) = t :: rest :=
        hcandidates
      rw [hsort]
      exact .inr ⟨t, _, rfl, rfl, rfl⟩

/-- Whether a queue leases fairly depends on the first of its texts only. -/
theorem fairLease_iff (hcollation : Std.TransCmp env.host.localeCompare) (hk : Keyed q) :
    FairLease env q ↔ TextKeepsTime env q := by
  have hcmp : Std.TransCmp (compareText env.host) := Sorting.transCmp_comap Queue.leaseOrder
  have hnodup : (eligible env q).Nodup := nodup_eligible hk
  constructor
  · intro hfair t hfirst u hu
    have hhead := (Sorting.head_sortBy_iff hnodup t).mpr hfirst
    -- some worker asks; the task it is handed is the first by its text
    have hargs : LeaseArguments "worker" 1000 := by
      show (isBlank "worker" || !leaseDurationOk 1000) = false
      decide +kernel
    rcases lease_answer env q hargs with ⟨hnone, -⟩ | ⟨t', l, hhead', hlease, htaskId⟩
    · rw [hnone] at hhead
      cases hhead
    · obtain rfl := Option.some_inj.mp (hhead.symm.trans hhead')
      obtain ⟨chosen, hchosen, hsame, hsooner⟩ := hfair.chosen _ _ l hlease
      have heq : chosen = t := eligible_eq hk hchosen (hfirst.mem) (hsame.symm.trans htaskId)
      exact heq ▸ hsooner u hu
  · intro htext
    refine ⟨fun workerId leaseDurationMs l hlease => ?_, fun workerId leaseDurationMs hnone => ?_⟩
    · have hargs := leaseArguments_of hlease
      rcases lease_answer env q hargs with ⟨-, hnone⟩ | ⟨t, l', hhead, hsome, hid⟩
      · rw [hnone] at hlease
        cases hlease
      · obtain rfl : l' = l := by
          rw [hsome] at hlease
          cases hlease
          rfl
        have hfirst := (Sorting.head_sortBy_iff hnodup t).mp hhead
        exact ⟨t, hfirst.mem, hid, htext t hfirst⟩
    · have hargs := leaseArguments_of hnone
      rcases lease_answer env q hargs with ⟨hhead, -⟩ | ⟨t, l', -, hsome, -⟩
      · have hsort := List.head?_eq_none_iff.mp hhead
        have hperm := Sorting.sortBy_perm (compareText env.host) (eligible env q)
        rw [hsort] at hperm
        exact hperm.symm.eq_nil
      · rw [hsome] at hnone
        cases hnone

/-- **Fair selection.** After any calls, every lease hands out an eligible task that no other
is sooner than, exactly if the eligible task whose text comes first is such a task. -/
theorem fair_lease_iff (env : Env) (hcollation : Std.TransCmp env.host.localeCompare)
    (calls : List Call) :
    FairLease env (run env calls).queue ↔ TextKeepsTime env (run env calls).queue :=
  fairLease_iff hcollation (fenced_run env calls).keyed

/-! ## Two spellings -/

namespace Sample

/-- Noon on a platform that collates by code points. -/
def noon : Env where
  host := {
    dateParse := fun text =>
      if text = "2026-07-14T10:00:00+02:00" then some 1784016000000
      else if text = "2026-07-14T09:00:00Z" then some 1784019600000
      else if text = "2026-07-14T12:00:00.000Z" then some 1784030400000
      else none
    toISOString := fun ms =>
      if ms = 1784030400000 then "2026-07-14T12:00:00.000Z" else "2026-07-14T12:00:01.000Z"
    localeCompare := compare }
  now _ := 1784030400000
  randomUUID _ := "00000000-0000-4000-8000-000000000000"

def spelled (taskId availableAt : String) : EnqueueTask :=
  { request with
    taskId := some taskId
    idempotencyKey := taskId
    availableAt := some availableAt }

/-- The first task is available an hour before the second. -/
def spellings : List Call :=
  [.enqueue (spelled "early" "2026-07-14T10:00:00+02:00"),
    .enqueue (spelled "late" "2026-07-14T09:00:00Z")]

theorem fair_lease_iff_here :
    FairLease noon (run noon spellings).queue ↔ TextKeepsTime noon (run noon spellings).queue :=
  fair_lease_iff noon (inferInstanceAs (Std.TransCmp (compare : String → String → Ordering)))
    spellings

/-- The later task is handed out first. -/
theorem late_task_first :
    ¬ ∀ env : Env, Std.TransCmp env.host.localeCompare → ∀ calls,
      FairLease env (run env calls).queue := by
  intro h
  have hcollation : Std.TransCmp noon.host.localeCompare :=
    inferInstanceAs (Std.TransCmp (compare : String → String → Ordering))
  have hfair := h noon hcollation spellings
  have htext := (fairLease_iff hcollation (fenced_run noon spellings).keyed).mp hfair
  let early := Queue.newTask (spelled "early" "2026-07-14T10:00:00+02:00") "early"
    "2026-07-14T12:00:00.000Z"
  let late := Queue.newTask (spelled "late" "2026-07-14T09:00:00Z") "late"
    "2026-07-14T12:00:00.000Z"
  have heligible : eligible noon (run noon spellings).queue = [early, late] := by decide +kernel
  have hfirst : Sorting.First (compareText noon.host)
      (eligible noon (run noon spellings).queue) late := by
    refine ⟨[early], [], heligible, ?_, List.forall_mem_nil _⟩
    have hbefore : compareText noon.host late early = .lt := by decide +kernel
    exact fun b hb => List.mem_singleton.mp hb ▸ hbefore
  refine htext late hfirst early (by rw [heligible]; simp) ?_
  exact ⟨1784016000000, 1784019600000, by decide +kernel, by decide +kernel, .inl (by decide)⟩

end Sample

end InspectionHub.TaskQueue
