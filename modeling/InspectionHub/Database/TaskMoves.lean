import InspectionHub.Database.TaskLeases

/-!
# What a call does to a task

A call takes each task along `Settles`, or it leases the task. A call that
leases nothing starts no task and counts no attempt; the lease comes last in
`lease_async_task`, after two updates that settle.
-/

namespace InspectionHub.Database

/-! ## Tasks -/

/-- In the pool that `lease_async_task` chooses from. -/
def AsyncTask.Waiting (t : AsyncTask) : Prop := t.state = .queued ∨ t.state = .retry_wait

/-- Attempts count leases and are within their bound, with one to spare while
the task waits. -/
structure AsyncTask.Within (t : AsyncTask) : Prop where
  generation : t.leaseGeneration = t.attemptCount
  bounded : t.attemptCount ≤ t.maxAttempts
  spare : t.Waiting → t.attemptCount < t.maxAttempts

def TaskAction.isLease : TaskAction → Bool
  | .call (.lease ..) => true
  | _ => false

def TaskAction.isSupersede : TaskAction → Bool
  | .call (.supersedePacket ..) => true
  | _ => false

theorem TaskAction.not_supersede {action : TaskAction} (h : action.isLease = true) :
    action.isSupersede = false := by
  cases action with
  | call call =>
      cases call with
      | lease _ _ => rfl
      | _ => cases h
  | _ => cases h

/-- What an action does to a task that it does not lease. -/
structure Settles (action : TaskAction) (t t' : AsyncTask) : Prop where
  id : t'.id = t.id
  organizationId : t'.organizationId = t.organizationId
  within : t.Within → t'.Within
  running : t'.state = .running → t.state = .running ∧
    t'.leaseGeneration = t.leaseGeneration ∧ t'.leaseToken = t.leaseToken
  ended : t.state ∈ terminalStates → t'.state = t.state
  succeeded : t.state = .succeeded →
    t'.state = .succeeded ∨ (t'.state = .superseded ∧ action.isSupersede = true)
  succeeding : t'.state = .succeeded → t.state = .succeeded ∨ action.isLease = false

namespace Settles

variable {action : TaskAction} {t t' t'' : AsyncTask}

theorem refl (t : AsyncTask) : Settles action t t where
  id := rfl
  organizationId := rfl
  within h := h
  running h := ⟨h, rfl, rfl⟩
  ended _ := rfl
  succeeded := .inl
  succeeding := .inl

theorem trans (h : Settles action t t') (h' : Settles action t' t'') : Settles action t t'' where
  id := h'.id.trans h.id
  organizationId := h'.organizationId.trans h.organizationId
  within hw := h'.within (h.within hw)
  running hr := by
    obtain ⟨hr', hgeneration', htoken'⟩ := h'.running hr
    obtain ⟨hr'', hgeneration, htoken⟩ := h.running hr'
    exact ⟨hr'', hgeneration'.trans hgeneration, htoken'.trans htoken⟩
  ended he := by
    have hmid := h.ended he
    rw [← hmid] at he ⊢
    exact h'.ended he
  succeeded hs := by
    rcases h.succeeded hs with hmid | ⟨hmid, haction⟩
    · exact h'.succeeded hmid
    · refine .inr ⟨(h'.ended ?_).trans hmid, haction⟩
      rw [hmid]
      decide
  succeeding hs := by
    rcases h'.succeeding hs with hmid | haction
    · exact h.succeeding hmid
    · exact .inr haction

/-- The counts that a task keeps keep it within its attempts, where one is left
to a task that waits. -/
theorem within_of (hgeneration : t'.leaseGeneration = t.leaseGeneration)
    (hattempts : t'.attemptCount = t.attemptCount) (hmax : t'.maxAttempts = t.maxAttempts)
    (hspare : t.Within → t'.Waiting → t.attemptCount < t.maxAttempts) (h : t.Within) :
    t'.Within where
  generation := by rw [hgeneration, hattempts, h.generation]
  bounded := by rw [hattempts, hmax]; exact h.bounded
  spare hw := by rw [hattempts, hmax]; exact hspare h hw

/-- A task that keeps its state and its counts. -/
theorem of_same (hid : t'.id = t.id) (horganization : t'.organizationId = t.organizationId)
    (hstate : t'.state = t.state) (hgeneration : t'.leaseGeneration = t.leaseGeneration)
    (hattempts : t'.attemptCount = t.attemptCount) (hmax : t'.maxAttempts = t.maxAttempts)
    (htoken : t'.leaseToken = t.leaseToken) : Settles action t t' where
  id := hid
  organizationId := horganization
  within h := by
    refine within_of hgeneration hattempts hmax (fun h hw => h.spare ?_) h
    rwa [AsyncTask.Waiting, hstate] at hw
  running hr := ⟨hstate ▸ hr, hgeneration, htoken⟩
  ended _ := hstate
  succeeded hs := .inl (hstate.trans hs)
  succeeding hs := .inl (hstate ▸ hs)

/-- A task that has not ended may go anywhere but to work. -/
theorem of_open (hid : t'.id = t.id) (horganization : t'.organizationId = t.organizationId)
    (hopen : t.state ∉ AsyncTaskState.succeeded :: terminalStates) (hwithin : t.Within → t'.Within)
    (hrunning : t'.state ≠ .running) (hlease : t'.state = .succeeded → action.isLease = false) :
    Settles action t t' where
  id := hid
  organizationId := horganization
  within := hwithin
  running hr := absurd hr hrunning
  ended he := absurd (List.mem_cons_of_mem _ he) hopen
  succeeded hs := by
    refine absurd ?_ hopen
    rw [hs]
    exact List.mem_cons_self
  succeeding hs := .inr (hlease hs)

/-- A task that came to wait had not ended. -/
theorem opened (h : Settles action t t') (hwaiting : t'.Waiting) :
    t.state ∉ AsyncTaskState.succeeded :: terminalStates := by
  intro hend
  rcases List.mem_cons.mp hend with hs | he
  · rcases h.succeeded hs with hs' | ⟨hs', -⟩
    · rw [AsyncTask.Waiting, hs'] at hwaiting
      exact absurd hwaiting (by decide)
    · rw [AsyncTask.Waiting, hs'] at hwaiting
      exact absurd hwaiting (by decide)
  · rw [AsyncTask.Waiting, h.ended he] at hwaiting
    rcases hwaiting with hw | hw
    · rw [hw] at he
      exact absurd he (by decide)
    · rw [hw] at he
      exact absurd he (by decide)

end Settles

/-! ## Updates -/

/-- The tasks of `db'` are those of `db`, each after a step of `R`, and they wait
for the same tasks. -/
structure Evolves (R : AsyncTask → AsyncTask → Prop) (db db' : TaskTables) : Prop where
  dependencies : db'.asyncTaskDependencies = db.asyncTaskDependencies
  tasks : ∃ f, db'.asyncTasks.rows = db.asyncTasks.rows.map f ∧
    ∀ t ∈ db.asyncTasks.rows, R t (f t)

namespace Evolves

variable {R : AsyncTask → AsyncTask → Prop} {db db' db'' : TaskTables}

theorem of_eq (hR : ∀ t, R t t)
    (hdependencies : db'.asyncTaskDependencies = db.asyncTaskDependencies)
    (htasks : db'.asyncTasks = db.asyncTasks) : Evolves R db db' where
  dependencies := hdependencies
  tasks := ⟨id, by rw [htasks, List.map_id], fun t _ => hR t⟩

theorem trans (hR : ∀ t t' t'', R t t' → R t' t'' → R t t'') (h : Evolves R db db')
    (h' : Evolves R db' db'') : Evolves R db db'' where
  dependencies := h'.dependencies.trans h.dependencies
  tasks := by
    obtain ⟨f, hrows, hf⟩ := h.tasks
    obtain ⟨f', hrows', hf'⟩ := h'.tasks
    refine ⟨f' ∘ f, by rw [hrows', hrows, List.map_map], fun t ht => ?_⟩
    refine hR t (f t) _ (hf t ht) (hf' (f t) ?_)
    rw [hrows]
    exact List.mem_map_of_mem ht

theorem imp {R' : AsyncTask → AsyncTask → Prop} (h : Evolves R db db')
    (hR : ∀ t t', R t t' → R' t t') : Evolves R' db db' := by
  obtain ⟨f, hrows, hf⟩ := h.tasks
  exact ⟨h.dependencies, f, hrows, fun t ht => hR t (f t) (hf t ht)⟩

/-- Every task is still there. -/
theorem forward (h : Evolves R db db') {t : AsyncTask} (ht : t ∈ db.asyncTasks.rows) :
    ∃ t' ∈ db'.asyncTasks.rows, R t t' := by
  obtain ⟨f, hrows, hf⟩ := h.tasks
  refine ⟨f t, ?_, hf t ht⟩
  rw [hrows]
  exact List.mem_map_of_mem ht

/-- No task is new. -/
theorem backward (h : Evolves R db db') {t' : AsyncTask} (ht' : t' ∈ db'.asyncTasks.rows) :
    ∃ t ∈ db.asyncTasks.rows, R t t' := by
  obtain ⟨f, hrows, hf⟩ := h.tasks
  rw [hrows] at ht'
  obtain ⟨t, ht, rfl⟩ := List.mem_map.mp ht'
  exact ⟨t, ht, hf t ht⟩

end Evolves

variable {row : Option AsyncTask}

namespace TaskTables

variable {server : Server} {st : TaskStatement} {db db' : TaskTables} {p : AsyncTask → Bool}
  {u : TaskUpdate} {eventType : AsyncTask → String} {safeMetadata : AsyncTask → JsVal}

theorem update_ok {returned : List AsyncTask} (h : db.update p u = .ok (db', returned)) :
    returned = (db.asyncTasks.rows.filter p).map u.set ∧
      db'.asyncTasks.rows = db.asyncTasks.rows.map (u.apply p) ∧
      db'.asyncTaskDependencies = db.asyncTaskDependencies := by
  obtain ⟨-, h⟩ := Sql.check_ok h
  obtain ⟨-, h⟩ := Sql.check_ok h
  cases h
  exact ⟨rfl, rfl, rfl⟩

/-- The event of a task leaves the queue alone. -/
theorem record_ok {t : AsyncTask} {eventType : String} {safeMetadata : JsVal}
    (h : db.record server st t eventType safeMetadata = .ok db') :
    db'.asyncTasks = db.asyncTasks ∧ db'.asyncTaskDependencies = db.asyncTaskDependencies := by
  obtain ⟨events, -, h⟩ := Sql.bind_ok h
  cases h
  exact ⟨rfl, rfl⟩

theorem recordAll_ok {rows : List AsyncTask}
    (h : db.recordAll server st rows eventType safeMetadata = .ok db') :
    db'.asyncTasks = db.asyncTasks ∧ db'.asyncTaskDependencies = db.asyncTaskDependencies := by
  have hkeeps : (db'.asyncTasks, db'.asyncTaskDependencies) =
      (db.asyncTasks, db.asyncTaskDependencies) :=
    @Sql.foldlM_keeps _ TaskTables _ _ (fun db => (db.asyncTasks, db.asyncTaskDependencies))
      (fun b t b' hb => Prod.ext_iff.mpr (record_ok hb)) _ _ _ h
  exact Prod.ext_iff.mp hkeeps

/-- An update takes the rows it writes along `R`, and leaves the others. -/
theorem update_evolves {R : AsyncTask → AsyncTask → Prop} (hR : ∀ t, R t t)
    (hset : ∀ t ∈ db.asyncTasks.rows, p t = true → R t (u.set t)) {returned : List AsyncTask}
    (h : db.update p u = .ok (db', returned)) : Evolves R db db' := by
  obtain ⟨-, hrows, hdependencies⟩ := update_ok h
  refine ⟨hdependencies, u.apply p, hrows, fun t ht => ?_⟩
  unfold TaskUpdate.apply
  split
  · exact hset t ht ‹_›
  · exact hR t

theorem evolves_recorded {R : AsyncTask → AsyncTask → Prop} {db'' : TaskTables}
    (h : Evolves R db db') (htables : db''.asyncTasks = db'.asyncTasks ∧
      db''.asyncTaskDependencies = db'.asyncTaskDependencies) : Evolves R db db'' where
  dependencies := htables.2.trans h.dependencies
  tasks := by
    rw [htables.1]
    exact h.tasks

/-- What `updateOne` changes, and the row it returns. -/
theorem updateOne_ok (h : db.updateOne server st p u eventType safeMetadata = .ok (db', row)) :
    ∃ returned mid, db.update p u = .ok (mid, returned) ∧ row = returned.head? ∧
      db'.asyncTasks = mid.asyncTasks ∧ db'.asyncTaskDependencies = mid.asyncTaskDependencies := by
  obtain ⟨⟨mid, returned⟩, hupdate, h⟩ := Sql.bind_ok h
  dsimp only at h
  refine ⟨returned, mid, hupdate, ?_⟩
  cases returned with
  | nil =>
      cases h
      exact ⟨rfl, rfl, rfl⟩
  | cons first rest =>
      obtain ⟨recorded, hrecord, h⟩ := Sql.bind_ok h
      cases h
      exact ⟨rfl, record_ok hrecord⟩

theorem updateOne_evolves {R : AsyncTask → AsyncTask → Prop} (hR : ∀ t, R t t)
    (hset : ∀ t ∈ db.asyncTasks.rows, p t = true → R t (u.set t))
    (h : db.updateOne server st p u eventType safeMetadata = .ok (db', row)) :
    Evolves R db db' := by
  obtain ⟨returned, mid, hupdate, -, htables⟩ := updateOne_ok h
  exact evolves_recorded (update_evolves hR hset hupdate) htables

/-- A row that `updateOne` returns was written. -/
theorem updateOne_row {t' : AsyncTask}
    (h : db.updateOne server st p u eventType safeMetadata = .ok (db', some t')) :
    ∃ t ∈ db.asyncTasks.rows, p t = true ∧ t' = u.set t := by
  obtain ⟨returned, mid, hupdate, hrow, -⟩ := updateOne_ok h
  obtain ⟨rfl, -, -⟩ := update_ok hupdate
  obtain ⟨t, ht, heq⟩ := List.mem_map.mp (List.mem_of_head? hrow.symm)
  obtain ⟨hmem, hp⟩ := List.mem_filter.mp ht
  exact ⟨t, hmem, hp, heq.symm⟩

end TaskTables

/-! ## Calls that lease nothing -/

section Calls

variable {action : TaskAction} {t : AsyncTask}

theorem AsyncTask.retried_cases (t : AsyncTask) :
    (t.retried = .retry_wait ∧ t.attemptCount < t.maxAttempts) ∨ t.retried = .dead_letter := by
  unfold AsyncTask.retried
  split
  · exact .inl ⟨rfl, ‹_›⟩
  · exact .inr rfl

/-- A task that is retried, or given up. -/
theorem settles_retried {t' : AsyncTask} (hid : t'.id = t.id)
    (horganization : t'.organizationId = t.organizationId)
    (hopen : t.state ∉ AsyncTaskState.succeeded :: terminalStates)
    (hgeneration : t'.leaseGeneration = t.leaseGeneration)
    (hattempts : t'.attemptCount = t.attemptCount) (hmax : t'.maxAttempts = t.maxAttempts)
    (hstate : t'.state = t.retried ∨ t'.state = .dead_letter) : Settles action t t' := by
  have hcases : (t'.state = .retry_wait ∧ t.attemptCount < t.maxAttempts) ∨
      t'.state = .dead_letter := by
    rcases hstate with hstate | hstate
    · rw [hstate]
      exact t.retried_cases
    · exact .inr hstate
  refine .of_open hid horganization hopen (Settles.within_of hgeneration hattempts hmax ?_) ?_ ?_
  · intro _ hw
    rcases hcases with ⟨-, hspare⟩ | hdead
    · exact hspare
    · rw [AsyncTask.Waiting, hdead] at hw
      exact absurd hw (by decide)
  · rcases hcases with ⟨hwait, -⟩ | hdead
    · rw [hwait]
      decide
    · rw [hdead]
      decide
  · intro hs
    rcases hcases with ⟨hwait, -⟩ | hdead
    · exact absurd (hwait.symm.trans hs) (by decide)
    · exact absurd (hdead.symm.trans hs) (by decide)

/-- A task that leaves the pool, and neither works nor is done. -/
theorem settles_out {t' : AsyncTask} (state : AsyncTaskState) (hid : t'.id = t.id)
    (horganization : t'.organizationId = t.organizationId)
    (hopen : t.state ∉ AsyncTaskState.succeeded :: terminalStates)
    (hgeneration : t'.leaseGeneration = t.leaseGeneration)
    (hattempts : t'.attemptCount = t.attemptCount) (hmax : t'.maxAttempts = t.maxAttempts)
    (hstate : t'.state = state) (hout : state ∉ [AsyncTaskState.queued, .retry_wait, .running])
    (hlease : state = .succeeded → action.isLease = false) : Settles action t t' := by
  subst hstate
  refine .of_open hid horganization hopen (Settles.within_of hgeneration hattempts hmax ?_) ?_
    hlease
  · rintro - (hw | hw)
    · exact absurd (by rw [hw]; decide) hout
    · exact absurd (by rw [hw]; decide) hout
  · intro hr
    exact absurd (by rw [hr]; decide) hout

variable {claim : LeaseClaim}

/-- A task held under a claim is running. -/
theorem AsyncTask.heldUnder_running {now : Int} (h : t.heldUnder claim now = true) :
    t.state = .running :=
  (of_decide_eq_true h).2.1

theorem not_ended_of_running (h : t.state = .running) :
    t.state ∉ AsyncTaskState.succeeded :: terminalStates := by
  rw [h]
  decide

namespace TaskTables

variable {server : Server} {st : TaskStatement} {db db' : TaskTables}

theorem recoverExpired_evolves (h : db.recoverExpired server st = .ok db') :
    Evolves (Settles action) db db' := by
  obtain ⟨⟨mid, returned⟩, hupdate, h⟩ := Sql.bind_ok h
  refine evolves_recorded (update_evolves Settles.refl ?_ hupdate) (recordAll_ok h)
  intro t _ hp
  exact settles_retried rfl rfl (not_ended_of_running (of_decide_eq_true hp).1) rfl rfl rfl
    (.inl rfl)

theorem cancelBlocked_evolves (h : db.cancelBlocked server st = .ok db') :
    Evolves (Settles action) db db' := by
  obtain ⟨⟨mid, returned⟩, hupdate, h⟩ := Sql.bind_ok h
  refine evolves_recorded (update_evolves Settles.refl ?_ hupdate) (recordAll_ok h)
  intro t _ hp
  have hopen : t.state ∉ AsyncTaskState.succeeded :: terminalStates := by
    have hwaiting := (of_decide_eq_true hp).1
    rcases List.mem_pair.mp hwaiting with hstate | hstate
    · rw [hstate]
      decide
    · rw [hstate]
      decide
  exact settles_out .cancelled rfl rfl hopen rfl rfl rfl rfl (by decide) fun hs => nomatch hs

variable {b : Bool}

theorem completeAsyncTask_evolves {resultArtifact : Option Uuid}
    (haction : action.isLease = false)
    (h : db.completeAsyncTask server st claim resultArtifact = .ok (db', b)) :
    Evolves (Settles action) db db' := by
  obtain ⟨⟨mid, row⟩, hone, h⟩ := Sql.bind_ok h
  cases h
  refine updateOne_evolves Settles.refl ?_ hone
  intro t _ hp
  exact settles_out .succeeded rfl rfl (not_ended_of_running (AsyncTask.heldUnder_running hp)) rfl
    rfl rfl rfl (by decide) fun _ => haction

theorem heartbeatAsyncTask_evolves {extendFor : Option Int}
    (h : db.heartbeatAsyncTask server st claim extendFor = .ok (db', b)) :
    Evolves (Settles action) db db' := by
  obtain ⟨-, h⟩ := Sql.check_ok h
  obtain ⟨⟨mid, row⟩, hone, h⟩ := Sql.bind_ok h
  cases h
  exact updateOne_evolves Settles.refl
    (fun t _ _ => Settles.of_same rfl rfl rfl rfl rfl rfl rfl) hone

theorem checkpointAsyncTask_evolves {checkpointName : Option String}
    {artifactRefs : Option (List Uuid)} {metadataHashes : Option (List String)}
    (h : db.checkpointAsyncTask server st claim checkpointName artifactRefs metadataHashes =
      .ok (db', b)) : Evolves (Settles action) db db' := by
  unfold checkpointAsyncTask at h
  split at h
  · cases h
    exact .of_eq Settles.refl rfl rfl
  · obtain ⟨leaseGeneration, -, h⟩ := Sql.bind_ok h
    obtain ⟨name, -, h⟩ := Sql.bind_ok h
    obtain ⟨refs, -, h⟩ := Sql.bind_ok h
    obtain ⟨hashes, -, h⟩ := Sql.bind_ok h
    obtain ⟨-, h⟩ := Sql.check_ok h
    obtain ⟨checkpoints, -, h⟩ := Sql.bind_ok h
    obtain ⟨recorded, hrecord, h⟩ := Sql.bind_ok h
    cases h
    obtain ⟨htasks, hdependencies⟩ := record_ok hrecord
    exact .of_eq Settles.refl hdependencies htasks

theorem failAsyncTask_evolves {safeErrorCode : Option String} {isRetryable : Option Bool}
    {retryAfter : Option Int} {text : String}
    (h : db.failAsyncTask server st claim safeErrorCode isRetryable retryAfter =
      .ok (db', text)) : Evolves (Settles action) db db' := by
  obtain ⟨-, h⟩ := Sql.check_ok h
  obtain ⟨-, h⟩ := Sql.check_ok h
  obtain ⟨⟨mid, row⟩, hone, h⟩ := Sql.bind_ok h
  cases h
  refine updateOne_evolves Settles.refl ?_ hone
  intro t _ hp
  refine settles_retried rfl rfl (not_ended_of_running (AsyncTask.heldUnder_running hp)) rfl rfl
    rfl ?_
  dsimp only
  split
  · exact .inl rfl
  · exact .inr rfl

theorem markAsyncTaskUnknown_evolves {reconciliationKeyHash : Option String}
    (h : db.markAsyncTaskUnknown server st claim reconciliationKeyHash = .ok (db', b)) :
    Evolves (Settles action) db db' := by
  obtain ⟨-, h⟩ := Sql.check_ok h
  obtain ⟨⟨mid, row⟩, hone, h⟩ := Sql.bind_ok h
  cases h
  refine updateOne_evolves Settles.refl ?_ hone
  intro t _ hp
  exact settles_out .unknown rfl rfl (not_ended_of_running (AsyncTask.heldUnder_running hp)) rfl
    rfl rfl rfl (by decide) fun hs => nomatch hs

/-- Two rows of one identity are one row. -/
theorem eq_of_id {t t' : AsyncTask} (ht : t ∈ db.asyncTasks.rows) (ht' : t' ∈ db.asyncTasks.rows)
    (h : t'.id = t.id) : t' = t :=
  db.asyncTasks.eq_of_key (fun _ _ => .inl) ht' ht h

theorem recordAsyncTaskUnknownObservation_evolves {taskId : Option Uuid}
    {expectedRequestFingerprint reconciliationKeyHash : Option String}
    (h : db.recordAsyncTaskUnknownObservation server st taskId expectedRequestFingerprint
      reconciliationKeyHash = .ok (db', b)) : Evolves (Settles action) db db' := by
  obtain ⟨-, h⟩ := Sql.check_ok h
  have hsame : Evolves (Settles action) db db := .of_eq Settles.refl rfl rfl
  split at h
  · cases h
    exact hsame
  · rename_i task htask
    split at h
    · cases h
      exact hsame
    · split at h
      · obtain ⟨-, h⟩ := Sql.check_ok h
        cases h
        exact hsame
      · split at h
        · cases h
          exact hsame
        · rename_i hopen
          obtain ⟨⟨mid, row⟩, hone, h⟩ := Sql.bind_ok h
          cases h
          refine updateOne_evolves Settles.refl ?_ hone
          intro t ht hp
          obtain rfl := eq_of_id (List.mem_of_find?_eq_some htask) ht (of_decide_eq_true hp)
          exact settles_out .unknown rfl rfl hopen rfl rfl rfl rfl (by decide) fun hs => nomatch hs

theorem reconcileUnknownAsyncTask_evolves {taskId : Option Uuid}
    {expectedReconciliationHash observedState safeResultCode : Option String}
    {resultArtifact : Option Uuid} {text : String} (haction : action.isLease = false)
    (h : db.reconcileUnknownAsyncTask server st taskId expectedReconciliationHash observedState
      safeResultCode resultArtifact = .ok (db', text)) : Evolves (Settles action) db db' := by
  obtain ⟨-, h⟩ := Sql.check_ok h
  split at h
  · cases h
    exact .of_eq Settles.refl rfl rfl
  · rename_i task htask
    obtain ⟨⟨mid, row⟩, hone, h⟩ := Sql.bind_ok h
    cases h
    refine updateOne_evolves Settles.refl ?_ hone
    intro t ht hp
    obtain rfl := eq_of_id (List.mem_of_find?_eq_some htask) ht (of_decide_eq_true hp)
    have hfound := List.find?_some htask
    have hunknown : t.state = .unknown := (of_decide_eq_true hfound).2.1
    have hopen : t.state ∉ AsyncTaskState.succeeded :: terminalStates := by
      rw [hunknown]
      decide
    by_cases hsucceeded : observedState = some "succeeded"
    · rw [if_pos hsucceeded]
      exact settles_out .succeeded rfl rfl hopen rfl rfl rfl rfl (by decide) fun _ => haction
    · rw [if_neg hsucceeded]
      refine settles_retried rfl rfl hopen rfl rfl rfl ?_
      dsimp only
      split
      · exact .inl rfl
      · exact .inr rfl

theorem supersedePacketTasks_evolves {targetOrganizationId targetPacketId : Option Uuid}
    {newerPacketRevision : Option Int} {n : Nat} (haction : action.isSupersede = true)
    (h : db.supersedePacketTasks server st targetOrganizationId targetPacketId
      newerPacketRevision = .ok (db', n)) : Evolves (Settles action) db db' := by
  obtain ⟨-, h⟩ := Sql.check_ok h
  obtain ⟨⟨mid, returned⟩, hupdate, h⟩ := Sql.bind_ok h
  obtain ⟨recorded, hrecord, h⟩ := Sql.bind_ok h
  cases h
  refine evolves_recorded (update_evolves Settles.refl ?_ hupdate) (recordAll_ok hrecord)
  intro t _ hp
  have hlive := (of_decide_eq_true hp).2.2.2.2
  exact
    { id := rfl
      organizationId := rfl
      within := Settles.within_of rfl rfl rfl fun _ hw => absurd hw (by
        rintro (hw | hw)
        · exact nomatch hw
        · exact nomatch hw)
      running := fun hr => nomatch hr
      ended := fun he => absurd he hlive
      succeeded := fun _ => .inr ⟨rfl, haction⟩
      succeeding := fun hs => nomatch hs }

end TaskTables

end Calls

/-! ## Leasing -/

namespace TaskTables

/-- All that the task waits for has succeeded. -/
def Ready (db : TaskTables) (t : AsyncTask) : Prop :=
  ∀ d ∈ db.dependencies t, ∃ required ∈ db.asyncTasks.rows,
    required.id = d.dependsOnTaskId ∧ required.organizationId = d.organizationId ∧
      required.state = .succeeded

variable {server : Server} {st : TaskStatement} {db db' : TaskTables}

theorem ready_of_eligible {t : AsyncTask} (h : db.eligible st t = true) : db.Ready t := by
  intro d hd
  have hrequired := (of_decide_eq_true h).2.2.2 d hd
  obtain ⟨required, hfound, hstate⟩ := Option.map_eq_some_iff.mp hrequired
  have hmeets := List.find?_some hfound
  obtain ⟨hid, horganization⟩ := of_decide_eq_true hmeets
  exact ⟨required, List.mem_of_find?_eq_some hfound, hid, horganization, hstate⟩

theorem candidateId_some {id : Uuid} (h : db.candidateId st = some id) :
    ∃ t ∈ db.asyncTasks.rows, db.eligible st t = true ∧ t.id = id := by
  obtain ⟨t, hfound, rfl⟩ := Option.map_eq_some_iff.mp h
  obtain ⟨ht, heligible⟩ := List.mem_filter.mp (List.mem_of_find?_eq_some hfound)
  exact ⟨t, ht, heligible, rfl⟩

end TaskTables

/-- What the lease itself writes. -/
structure Launched (t t' : AsyncTask) : Prop where
  id : t'.id = t.id
  organizationId : t'.organizationId = t.organizationId
  running : t'.state = .running
  leaseGeneration : t'.leaseGeneration = t.leaseGeneration + 1
  attemptCount : t'.attemptCount = t.attemptCount + 1
  maxAttempts : t'.maxAttempts = t.maxAttempts

/-- What an action does to the task that it leases. -/
structure Starts (db : TaskTables) (action : TaskAction) (t t' : AsyncTask) : Prop where
  id : t'.id = t.id
  organizationId : t'.organizationId = t.organizationId
  within : t.Within → t'.Within
  opened : t.state ∉ AsyncTaskState.succeeded :: terminalStates
  running : t'.state = .running
  lease : action.isLease = true
  ready : db.Ready t

/-- What an action does to a task. -/
def Moves (db : TaskTables) (action : TaskAction) (t t' : AsyncTask) : Prop :=
  Settles action t t' ∨ Starts db action t t'

namespace TaskTables

variable {server : Server} {st : TaskStatement} {db db' : TaskTables} {action : TaskAction}

theorem dependencies_of_evolves {R : AsyncTask → AsyncTask → Prop} (h : Evolves R db db')
    {t t' : AsyncTask} (hid : t'.id = t.id) (horganization : t'.organizationId = t.organizationId) :
    db'.dependencies t' = db.dependencies t := by
  unfold dependencies
  rw [h.dependencies, hid, horganization]

/-- What was ready after tasks settled was ready before, if none succeeded. -/
theorem ready_before {t t' : AsyncTask} (h : Evolves (Settles action) db db')
    (haction : action.isLease = true) (hid : t'.id = t.id)
    (horganization : t'.organizationId = t.organizationId) (hready : db'.Ready t') :
    db.Ready t := by
  intro d hd
  rw [← dependencies_of_evolves h hid horganization] at hd
  obtain ⟨required', hmem', hid', horganization', hstate'⟩ := hready d hd
  obtain ⟨required, hmem, hsettles⟩ := h.backward hmem'
  refine ⟨required, hmem, hsettles.id ▸ hid', hsettles.organizationId ▸ horganization', ?_⟩
  rcases hsettles.succeeding hstate' with hstate | hnot
  · exact hstate
  · rw [haction] at hnot
    exact absurd hnot (by decide)

/-- The last update of `lease_async_task` leases one task, if any, that could be
leased. -/
theorem leaseAsyncTask_ok {workerId : Option String} {leaseFor : Option Int}
    (h : db.leaseAsyncTask server st workerId leaseFor = .ok (db', row)) :
    ∃ mid, Evolves (Settles action) db mid ∧
      Evolves (fun t t' => t' = t ∨ (mid.eligible st t = true ∧ Launched t t')) mid db' := by
  obtain ⟨-, h⟩ := Sql.check_ok h
  obtain ⟨recovered, hrecovered, h⟩ := Sql.bind_ok h
  obtain ⟨mid, hcancelled, h⟩ := Sql.bind_ok h
  refine ⟨mid, (recoverExpired_evolves hrecovered).trans (fun _ _ _ => Settles.trans)
    (cancelBlocked_evolves hcancelled), ?_⟩
  cases hcandidate : mid.candidateId st with
  | none =>
      rw [hcandidate] at h
      cases h
      exact .of_eq (fun t => .inl rfl) rfl rfl
  | some id =>
      rw [hcandidate] at h
      obtain ⟨candidate, hmem, heligible, rfl⟩ := candidateId_some hcandidate
      refine updateOne_evolves (fun t => .inl rfl) ?_ h
      intro t ht hchosen
      obtain rfl := eq_of_id hmem ht (of_decide_eq_true hchosen)
      exact .inr ⟨heligible, rfl, rfl, rfl, rfl, rfl, rfl⟩

/-- A task that was leased started, and all it waits for had succeeded. -/
theorem starts_of_launched {mid : TaskTables} {t m t' : AsyncTask}
    (hmid : Evolves (Settles action) db mid) (haction : action.isLease = true)
    (hsettles : Settles action t m) (heligible : mid.eligible st m = true)
    (hlaunched : Launched m t') : Starts db action t t' where
  id := hlaunched.id.trans hsettles.id
  organizationId := hlaunched.organizationId.trans hsettles.organizationId
  within hw := by
    have hspare := (of_decide_eq_true heligible).2.2.1
    refine ⟨?_, ?_, ?_⟩
    · rw [hlaunched.leaseGeneration, hlaunched.attemptCount, (hsettles.within hw).generation]
    · rw [hlaunched.attemptCount, hlaunched.maxAttempts]
      exact hspare
    · intro hwaiting
      rw [AsyncTask.Waiting, hlaunched.running] at hwaiting
      exact absurd hwaiting (by decide)
  opened := hsettles.opened (List.mem_pair.mp (of_decide_eq_true heligible).1)
  running := hlaunched.running
  lease := haction
  ready := ready_before hmid haction hsettles.id hsettles.organizationId
    (ready_of_eligible heligible)

theorem leaseAsyncTask_evolves {workerId : Option String} {leaseFor : Option Int}
    (haction : action.isLease = true)
    (h : db.leaseAsyncTask server st workerId leaseFor = .ok (db', row)) :
    Evolves (Moves db action) db db' := by
  obtain ⟨mid, hmid, hlaunch⟩ := leaseAsyncTask_ok h
  obtain ⟨f, hrows, hf⟩ := hmid.tasks
  obtain ⟨f', hrows', hf'⟩ := hlaunch.tasks
  refine ⟨hlaunch.dependencies.trans hmid.dependencies, f' ∘ f, ?_, fun t ht => ?_⟩
  · rw [hrows', hrows, List.map_map]
  · have hmem : f t ∈ mid.asyncTasks.rows := by
      rw [hrows]
      exact List.mem_map_of_mem ht
    rcases hf' (f t) hmem with hsame | ⟨heligible, hlaunched⟩
    · rw [Function.comp_apply, hsame]
      exact .inl (hf t ht)
    · exact .inr (starts_of_launched hmid haction (hf t ht) heligible hlaunched)

/-- **One call.** Every task settles or is leased. -/
theorem perform_evolves {call : TaskCall} {reply : TaskReply}
    (h : db.perform server st call = .ok (db', reply)) :
    Evolves (Moves db (.call call)) db db' := by
  have hsettles : ∀ {action : TaskAction}, Evolves (Settles action) db db' →
      Evolves (Moves db action) db db' := fun h => h.imp fun _ _ => .inl
  cases call with
  | lease workerId leaseFor =>
      obtain ⟨⟨_, row⟩, hcall, heq⟩ := Sql.map_ok h
      cases heq
      exact leaseAsyncTask_evolves rfl hcall
  | complete claim resultArtifact =>
      obtain ⟨⟨_, b⟩, hcall, heq⟩ := Sql.map_ok h
      cases heq
      exact hsettles (completeAsyncTask_evolves rfl hcall)
  | heartbeat claim extendFor =>
      obtain ⟨⟨_, b⟩, hcall, heq⟩ := Sql.map_ok h
      cases heq
      exact hsettles (heartbeatAsyncTask_evolves hcall)
  | checkpoint claim checkpointName artifactRefs metadataHashes =>
      obtain ⟨⟨_, b⟩, hcall, heq⟩ := Sql.map_ok h
      cases heq
      exact hsettles (checkpointAsyncTask_evolves hcall)
  | fail claim safeErrorCode isRetryable retryAfter =>
      obtain ⟨⟨_, text⟩, hcall, heq⟩ := Sql.map_ok h
      cases heq
      exact hsettles (failAsyncTask_evolves hcall)
  | markUnknown claim reconciliationKeyHash =>
      obtain ⟨⟨_, b⟩, hcall, heq⟩ := Sql.map_ok h
      cases heq
      exact hsettles (markAsyncTaskUnknown_evolves hcall)
  | recordUnknownObservation taskId expectedRequestFingerprint reconciliationKeyHash =>
      obtain ⟨⟨_, b⟩, hcall, heq⟩ := Sql.map_ok h
      cases heq
      exact hsettles (recordAsyncTaskUnknownObservation_evolves hcall)
  | reconcileUnknown taskId expectedReconciliationHash observedState safeResultCode result =>
      obtain ⟨⟨_, text⟩, hcall, heq⟩ := Sql.map_ok h
      cases heq
      exact hsettles (reconcileUnknownAsyncTask_evolves rfl hcall)
  | supersedePacket targetOrganizationId targetPacketId newerPacketRevision =>
      obtain ⟨⟨_, n⟩, hcall, heq⟩ := Sql.map_ok h
      cases heq
      exact hsettles (supersedePacketTasks_evolves rfl hcall)

end TaskTables

end InspectionHub.Database
