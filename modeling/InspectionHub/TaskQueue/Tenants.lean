import InspectionHub.TaskQueue.LifeCycle
import InspectionHub.TaskQueue.Requests

/-!
# Whose task answers a request

`enqueue` finds an earlier task by the text `organizationId:idempotencyKey`.
The index holds exactly one task of each text (`Indexed`), but a text does not
tell where the organisation ends: both may contain a colon. A request is
answered by a task of its own organisation and key exactly if no stored task
of another pair has the same text (`tenant_safe_iff`).
-/

namespace InspectionHub.TaskQueue

/-- `${organizationId}:${idempotencyKey}` -/
def indexKey (organizationId idempotencyKey : String) : String :=
  organizationId ++ ":" ++ idempotencyKey

def AsyncTaskRecord.indexKey (t : AsyncTaskRecord) : String :=
  TaskQueue.indexKey t.organizationId t.idempotencyKey

def EnqueueTask.indexKey (input : EnqueueTask) : String :=
  TaskQueue.indexKey input.organizationId input.idempotencyKey

/-- Whose task is stored under an identifier, and under which key. -/
def Queue.owner (q : Queue) (id : String) : Option (String × String) :=
  (q.tasks.get? id).map fun t => (t.organizationId, t.idempotencyKey)

/-! ## Only `enqueue` changes owners -/

/-- The queues hold tasks of the same owners, indexed alike. -/
structure SameOwners (q q' : Queue) : Prop where
  index : q'.idempotencyIndex = q.idempotencyIndex
  owner : ∀ id, q'.owner id = q.owner id

theorem SameRequests.owners {q q' : Queue} (h : SameRequests q q') : SameOwners q q' where
  index := h.index
  owner id := by
    have hrequest := congrArg (Option.map fun r : TaskRequest =>
      (r.organizationId, r.idempotencyKey)) (h.request id)
    rw [Option.map_map, Option.map_map] at hrequest
    exact hrequest

theorem SameOwners.of_eq {q q' : Queue} (hindex : q'.idempotencyIndex = q.idempotencyIndex)
    (htasks : q'.tasks = q.tasks) : SameOwners q q' := (SameRequests.of_eq hindex htasks).owners

theorem SameOwners.refl (q : Queue) : SameOwners q q := .of_eq rfl rfl

theorem SameOwners.of_same {q q' : Queue} (h : SameContents q q') : SameOwners q q' :=
  .of_eq h.idempotencyIndex h.tasks

/-- **Owners.** Every call but `enqueue` leaves them as they are. -/
theorem exec_owners (env : Env) {q : Queue} (hk : Keyed q) {c : Call}
    (hc : ∀ input, c ≠ .enqueue input) : SameOwners q (exec env q c).2 :=
  (exec_requests env hk hc).owners

/-! ## The index -/

variable {env : Env} {q : Queue}

/-- The index maps each text to the one stored task of that text. -/
structure Indexed (q : Queue) : Prop where
  keyed : Keyed q
  found : ∀ key id, q.idempotencyIndex.get? key = some id →
    ∃ organizationId idempotencyKey, q.owner id = some (organizationId, idempotencyKey) ∧
      indexKey organizationId idempotencyKey = key
  indexed : ∀ id organizationId idempotencyKey,
    q.owner id = some (organizationId, idempotencyKey) →
      q.idempotencyIndex.get? (indexKey organizationId idempotencyKey) = some id

theorem Indexed.same {q' : Queue} (h : Indexed q) (hk : Keyed q') (hs : SameOwners q q') :
    Indexed q' where
  keyed := hk
  found key id hid := by
    rw [hs.index] at hid
    rw [hs.owner]
    exact h.found key id hid
  indexed id organizationId idempotencyKey ho := by
    rw [hs.owner] at ho
    rw [hs.index]
    exact h.indexed id organizationId idempotencyKey ho

/-- What `enqueue` answers a valid request that finds no task of its text. -/
structure Inserts (env : Env) (q : Queue) (input : EnqueueTask) (taskId : String) : Prop where
  chosen : taskId = ((q.now env).2.chooseTaskId env input.taskId).1
  taken : q.tasks.has taskId = true →
    (q.enqueue env input).1 = .error "Task identity already exists" ∧
      SameOwners q (q.enqueue env input).2
  free : q.tasks.has taskId = false →
    ∃ now, (q.enqueue env input).1 = .ok (Queue.newTask input taskId now, false) ∧
      (q.enqueue env input).2.tasks = q.tasks.set taskId (Queue.newTask input taskId now) ∧
      (q.enqueue env input).2.idempotencyIndex = q.idempotencyIndex.set input.indexKey taskId

theorem enqueue_inserts {input : EnqueueTask} (hvalid : validateEnqueue env input = .ok ())
    (hnone : q.idempotencyIndex.get? input.indexKey = none) :
    Inserts env q input ((q.now env).2.chooseTaskId env input.taskId).1 := by
  have hsame := chooseTaskId_same env (q.now env).2 input.taskId
  have henqueue : q.enqueue env input =
      ((q.now env).2.chooseTaskId env input.taskId).2.insertTask env input.indexKey
        (Queue.newTask input ((q.now env).2.chooseTaskId env input.taskId).1
          (env.host.toISOString (q.now env).1)) := by
    simp only [EnqueueTask.indexKey, indexKey] at hnone
    simp only [Queue.enqueue, hvalid, hnone]
    rfl
  have htasks : ((q.now env).2.chooseTaskId env input.taskId).2.tasks = q.tasks := hsame.tasks
  have hindex : ((q.now env).2.chooseTaskId env input.taskId).2.idempotencyIndex =
      q.idempotencyIndex := hsame.idempotencyIndex
  rw [Queue.insertTask, htasks] at henqueue
  refine ⟨rfl, fun htaken => ?_, fun hfree => ?_⟩
  · rw [henqueue.trans (if_pos htaken)]
    exact ⟨rfl, .of_eq hindex htasks⟩
  · rw [henqueue.trans (if_neg (ne_true_of_eq_false hfree))]
    refine ⟨_, rfl, ?_, ?_⟩
    · rw [← htasks]
      rfl
    · rw [← hindex]
      rfl

theorem Indexed.enqueue (h : Indexed q) (input : EnqueueTask) :
    Indexed (q.enqueue env input).2 := by
  have hk := @keyed_exec env q h.keyed (.enqueue input)
  cases hvalid : validateEnqueue env input with
  | error e =>
      refine h.same hk ?_
      rw [Queue.enqueue, hvalid]
      exact .refl q
  | ok u =>
      cases hindex : q.idempotencyIndex.get? input.indexKey with
      | some priorId =>
          refine h.same hk ?_
          simp only [EnqueueTask.indexKey, indexKey] at hindex
          simp only [Queue.enqueue, hvalid, hindex]
          split
          · exact .refl q
          · split
            · exact .refl q
            · exact .of_eq rfl rfl
      | none =>
          have hinserts := enqueue_inserts hvalid hindex
          generalize ((q.now env).2.chooseTaskId env input.taskId).1 = taskId at hinserts
          cases htaken : q.tasks.has taskId with
          | true => exact h.same hk (hinserts.taken htaken).2
          | false =>
              obtain ⟨now, -, htasks, hnew⟩ := hinserts.free htaken
              have hunused : q.owner taskId = none := by
                rw [Queue.owner, Option.map_eq_none_iff]
                simpa [OMap.has] using htaken
              have howner : ∀ id, (q.enqueue env input).2.owner id =
                  if id = taskId then some (input.organizationId, input.idempotencyKey)
                  else q.owner id := by
                intro id
                rw [Queue.owner, htasks, OMap.get?_set]
                split <;> rfl
              refine ⟨hk, ?_, ?_⟩
              · intro key id hid
                rw [hnew, OMap.get?_set] at hid
                rw [howner]
                split at hid
                · next hkey =>
                    obtain rfl := Option.some_inj.mp hid
                    exact ⟨_, _, if_pos rfl, hkey.symm⟩
                · obtain ⟨organizationId, idempotencyKey, ho, hkey⟩ := h.found key id hid
                  refine ⟨organizationId, idempotencyKey, ?_, hkey⟩
                  rw [if_neg, ho]
                  rintro rfl
                  rw [hunused] at ho
                  cases ho
              · intro id organizationId idempotencyKey ho
                rw [howner] at ho
                rw [hnew, OMap.get?_set]
                split at ho
                · next hid =>
                    cases ho
                    rw [hid]
                    exact if_pos rfl
                · have hold := h.indexed id organizationId idempotencyKey ho
                  rw [if_neg, hold]
                  intro hkey
                  rw [hkey, hindex] at hold
                  cases hold

/-- **The index.** After any calls it holds one task of each text. -/
theorem indexed_run (env : Env) (calls : List Call) : Indexed (run env calls).queue := by
  have hstep : ∀ s c s', Indexed s.queue → TSys.any s c → (system env).Step s c s' →
      Indexed s'.queue := by
    rintro s c s' h - rfl
    by_cases hc : ∃ input, c = .enqueue input
    · obtain ⟨input, rfl⟩ := hc
      exact h.enqueue input
    · exact h.same (keyed_exec h.keyed c)
        (exec_owners env h.keyed fun input hinput => hc ⟨input, hinput⟩)
  have hinit : Indexed Session.initial.queue :=
    ⟨fenced_initial.keyed, fun _ _ h => (nomatch h), fun _ _ _ h => (nomatch h)⟩
  have hind : (system env).Inductive TSys.any fun s => Indexed s.queue :=
    ⟨fun s h => h ▸ hinit, hstep⟩
  exact hind.invariant (TSys.reachable_foldl _ _ calls)

/-! ## Answers -/

/-- What `enqueue` answers because of an earlier task, it answers because of a task of the
request's organisation; a replay or a conflict because of one under the request's key. -/
structure AnsweredByOwn (env : Env) (q : Queue) (input : EnqueueTask) : Prop where
  replayed : ∀ t, (q.enqueue env input).1 = .ok (t, true) →
    t ∈ q.tasks.values ∧ t.organizationId = input.organizationId ∧
      t.idempotencyKey = input.idempotencyKey
  conflict : (q.enqueue env input).1 =
      .error "Task idempotency key cannot be reused with a different fingerprint" →
    ∃ t ∈ q.tasks.values, t.organizationId = input.organizationId ∧
      t.idempotencyKey = input.idempotencyKey
  taken : (q.enqueue env input).1 = .error "Task identity already exists" →
    ∃ t ∈ q.tasks.values, t.organizationId = input.organizationId ∧
      t.taskId = ((q.now env).2.chooseTaskId env input.taskId).1

/-- So an accepted request is answered. -/
def TenantSafe (env : Env) (q : Queue) (input : EnqueueTask) : Prop :=
  validateEnqueue env input = .ok () → AnsweredByOwn env q input

/-- No stored task of another organisation or key has the text of the request; nor, where the
request is new, a task of another organisation the identifier it gets. -/
structure Distinguished (env : Env) (q : Queue) (input : EnqueueTask) : Prop where
  text : ∀ t ∈ q.tasks.values, t.indexKey = input.indexKey →
    t.organizationId = input.organizationId ∧ t.idempotencyKey = input.idempotencyKey
  identity : (∀ t ∈ q.tasks.values, t.indexKey ≠ input.indexKey) → ∀ t ∈ q.tasks.values,
    t.taskId = ((q.now env).2.chooseTaskId env input.taskId).1 →
      t.organizationId = input.organizationId

theorem Indexed.get?_of_mem (h : Indexed q) {t : AsyncTaskRecord} (ht : t ∈ q.tasks.values) :
    q.tasks.get? t.taskId = some t := by
  obtain ⟨id, hid⟩ := (OMap.mem_values_iff _ _).mp ht
  rwa [h.keyed id t hid]

theorem Indexed.index_of_mem (h : Indexed q) {t : AsyncTaskRecord} (ht : t ∈ q.tasks.values) :
    q.idempotencyIndex.get? t.indexKey = some t.taskId :=
  h.indexed _ _ _ (by rw [Queue.owner, h.get?_of_mem ht]; rfl)

/-- A text finds the stored task that has it. -/
theorem Indexed.stored (h : Indexed q) {key id : String}
    (hid : q.idempotencyIndex.get? key = some id) :
    ∃ t ∈ q.tasks.values, q.tasks.get? id = some t ∧ t.indexKey = key := by
  obtain ⟨organizationId, idempotencyKey, ho, hkey⟩ := h.found key id hid
  obtain ⟨t, ht, hpair⟩ := Option.map_eq_some_iff.mp ho
  cases hpair
  exact ⟨t, (OMap.mem_values_iff _ _).mpr ⟨id, ht⟩, ht, hkey⟩

/-- Two stored tasks of one text are one task. -/
theorem Indexed.unique (h : Indexed q) {t u : AsyncTaskRecord} (ht : t ∈ q.tasks.values)
    (hu : u ∈ q.tasks.values) (hkey : u.indexKey = t.indexKey) : u = t := by
  have hindex := h.index_of_mem hu
  rw [hkey, h.index_of_mem ht] at hindex
  have hget := h.get?_of_mem hu
  rw [← Option.some_inj.mp hindex, h.get?_of_mem ht] at hget
  exact (Option.some_inj.mp hget).symm

/-- A valid request whose text is indexed is replayed or refused. -/
theorem enqueue_known {input : EnqueueTask} {priorId : String} {prior : AsyncTaskRecord}
    (hvalid : validateEnqueue env input = .ok ())
    (hindex : q.idempotencyIndex.get? input.indexKey = some priorId)
    (hprior : q.tasks.get? priorId = some prior) :
    (q.enqueue env input).1 =
      if prior.requestFingerprint ≠ input.requestFingerprint then
        .error "Task idempotency key cannot be reused with a different fingerprint"
      else .ok (prior, true) := by
  simp only [EnqueueTask.indexKey, indexKey] at hindex
  simp only [Queue.enqueue, hvalid, hindex, Queue.requireTask, hprior]
  split <;> rfl

/-- **Tenant isolation.** After any calls, a request is answered because of a task of its own
organisation and key exactly if no stored task of another pair has the text it is indexed
under, and the identifier it gets is not another organisation's. -/
theorem tenant_safe_iff (env : Env) (calls : List Call) (input : EnqueueTask) :
    TenantSafe env (run env calls).queue input ↔
      (validateEnqueue env input = .ok () → Distinguished env (run env calls).queue input) := by
  have h := indexed_run env calls
  generalize (run env calls).queue = q at h ⊢
  refine imp_congr_right fun hvalid => ?_
  cases hindex : q.idempotencyIndex.get? input.indexKey with
  | some priorId =>
      obtain ⟨prior, hmem, hprior, hkey⟩ := h.stored hindex
      have hanswer := enqueue_known hvalid hindex hprior
      constructor
      · intro hown
        have hprior_own : prior.organizationId = input.organizationId ∧
            prior.idempotencyKey = input.idempotencyKey := by
          by_cases hfingerprint : prior.requestFingerprint ≠ input.requestFingerprint
          · rw [if_pos hfingerprint] at hanswer
            obtain ⟨t, ht, horganization, hidempotency⟩ := hown.conflict hanswer
            have htext : t.indexKey = prior.indexKey := by
              rw [hkey, AsyncTaskRecord.indexKey, horganization, hidempotency]
              rfl
            exact h.unique hmem ht htext ▸ ⟨horganization, hidempotency⟩
          · rw [if_neg hfingerprint] at hanswer
            exact (hown.replayed prior hanswer).2
        refine ⟨fun t ht htext => ?_, fun hnone => absurd hkey (hnone prior hmem)⟩
        rw [h.unique hmem ht (htext.trans hkey.symm)]
        exact hprior_own
      · intro hdistinct
        have hprior_own := hdistinct.text prior hmem hkey
        refine ⟨?_, fun _ => ⟨prior, hmem, hprior_own⟩, ?_⟩
        · intro t ht
          rw [hanswer] at ht
          split at ht
          · cases ht
          · cases ht
            exact ⟨hmem, hprior_own⟩
        · intro ht
          rw [hanswer] at ht
          split at ht
          · simp at ht
          · cases ht
  | none =>
      have hinserts := enqueue_inserts hvalid hindex
      have hnew : ∀ t ∈ q.tasks.values, t.indexKey ≠ input.indexKey := by
        intro t ht hkey
        have hfound := h.index_of_mem ht
        rw [hkey, hindex] at hfound
        cases hfound
      generalize hchosen : ((q.now env).2.chooseTaskId env input.taskId).1 = taskId at hinserts
      cases htaken : q.tasks.has taskId with
      | true =>
          obtain ⟨herror, -⟩ := hinserts.taken htaken
          obtain ⟨u, hu⟩ := Option.isSome_iff_exists.mp htaken
          have hmem : u ∈ q.tasks.values := (OMap.mem_values_iff _ _).mpr ⟨taskId, hu⟩
          constructor
          · intro hown
            refine ⟨fun t ht hkey => absurd hkey (hnew t ht), fun _ t ht htaskId => ?_⟩
            obtain ⟨v, hv, horganization, hvid⟩ := hown.taken herror
            have hsame := h.get?_of_mem ht
            rw [htaskId, ← hvid, h.get?_of_mem hv] at hsame
            exact Option.some_inj.mp hsame ▸ horganization
          · intro hdistinct
            refine ⟨fun t ht => ?_, fun ht => ?_, fun _ => ⟨u, hmem, ?_, ?_⟩⟩
            · rw [herror] at ht
              cases ht
            · rw [herror] at ht
              simp at ht
            · exact hdistinct.identity hnew u hmem ((h.keyed taskId u hu).trans hchosen.symm)
            · exact (h.keyed taskId u hu).trans hchosen.symm
      | false =>
          obtain ⟨now, hok, -, -⟩ := hinserts.free htaken
          refine iff_of_true ⟨?_, ?_, ?_⟩ ⟨fun t ht hkey => absurd hkey (hnew t ht), ?_⟩
          · intro t ht
            rw [hok] at ht
            cases ht
          · intro ht
            rw [hok] at ht
            cases ht
          · intro ht
            rw [hok] at ht
            cases ht
          · intro _ t ht htaskId
            have hget := h.get?_of_mem ht
            rw [htaskId, hchosen] at hget
            simp [OMap.has, hget] at htaken

/-! ## Two organisations, one text -/

namespace Sample

def ownRequest (organizationId idempotencyKey : String) : EnqueueTask :=
  { request with
    taskId := none
    organizationId := organizationId
    idempotencyKey := idempotencyKey }

/-- The organisation `org:eu` is answered with the task of `org`. -/
theorem replays_foreign_task :
    ¬ ∀ env calls input, TenantSafe env (run env calls).queue input := by
  intro h
  have hown := h still [.enqueue (ownRequest "org" "eu:report")] (ownRequest "org:eu" "report")
    (by decide +kernel)
  have hanswer : ((run still [.enqueue (ownRequest "org" "eu:report")]).queue.enqueue still
      (ownRequest "org:eu" "report")).1 =
      .ok (Queue.newTask (ownRequest "org" "eu:report") "00000000-0000-4000-8000-000000000000"
        "1970-01-01T00:00:00.000Z", true) := by decide +kernel
  exact absurd (hown.replayed _ hanswer).2.1 (by decide)

end Sample

end InspectionHub.TaskQueue
