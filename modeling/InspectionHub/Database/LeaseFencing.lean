import InspectionHub.Database.TaskMoves
import InspectionHub.Lib.TSys

/-!
# Fencing of leases

The invariant of the queue and the order of its states, over every run of its
calls, from what one call does to a task. A claim that is accepted is the
generation and token of the one row it names.
-/

namespace InspectionHub.Database

/-! ## Steps -/

/-- What an action does to the queue. -/
structure Follows (action : TaskAction) (db db' : TaskTables) : Prop where
  forward : ∀ t ∈ db.asyncTasks.rows, ∃ t' ∈ db'.asyncTasks.rows, Moves db action t t'
  backward : ∀ t' ∈ db'.asyncTasks.rows,
    (∃ t ∈ db.asyncTasks.rows, Moves db action t t') ∨ (t'.state = .queued ∧ t'.Within)
  dependencies : action.isLease = true → db'.asyncTaskDependencies = db.asyncTaskDependencies

namespace TaskTables

variable {server : Server} {st : TaskStatement} {db db' : TaskTables} {action : TaskAction}

theorem follows_of_evolves (h : Evolves (Moves db action) db db') : Follows action db db' where
  forward _ ht := h.forward ht
  backward _ ht := .inl (h.backward ht)
  dependencies _ := h.dependencies

/-- Tasks that are only joined by new ones. -/
theorem follows_of_rows {added : List AsyncTask}
    (hrows : db'.asyncTasks.rows = db.asyncTasks.rows ++ added)
    (hadded : ∀ t ∈ added, t.state = .queued ∧ t.Within)
    (hdependencies : action.isLease = true →
      db'.asyncTaskDependencies = db.asyncTaskDependencies) : Follows action db db' where
  forward t ht := by
    refine ⟨t, ?_, .inl (.refl t)⟩
    rw [hrows]
    exact List.mem_append_left added ht
  backward t ht := by
    rw [hrows] at ht
    rcases List.mem_append.mp ht with ht | ht
    · exact .inl ⟨t, ht, .inl (.refl t)⟩
    · exact .inr (hadded t ht)
  dependencies := hdependencies

/-- A task that is inserted has an attempt left. -/
theorem row_within {task : NewTask} (h : (task.row st).checked = true) :
    (task.row st).Within := by
  have hbound : 1 ≤ task.maxAttempts := by
    simp only [AsyncTask.checked, Bool.and_eq_true, decide_eq_true_eq] at h
    exact h.1.1.1.1.1.2.1
  exact ⟨rfl, Nat.zero_le _, fun _ => hbound⟩

theorem enqueue_follows {task : NewTask} (h : db.enqueue st task = .ok db') :
    Follows (.enqueue task) db db' := by
  obtain ⟨hchecked, h⟩ := Sql.check_ok h
  obtain ⟨tasks, -, h⟩ := Sql.bind_ok h
  cases h
  refine follows_of_rows tasks.2 ?_ fun hlease => nomatch hlease
  intro t ht
  obtain rfl := List.mem_singleton.mp ht
  exact ⟨rfl, row_within (Decidable.not_not.mp hchecked)⟩

theorem depend_follows {dependency : AsyncTaskDependency} (h : db.depend dependency = .ok db') :
    Follows (.depend dependency) db db' := by
  obtain ⟨-, h⟩ := Sql.check_ok h
  obtain ⟨dependencies, -, h⟩ := Sql.bind_ok h
  obtain ⟨-, h⟩ := Sql.check_ok h
  cases h
  exact follows_of_rows (List.append_nil _).symm (fun _ ht => nomatch ht) fun hlease =>
    nomatch hlease

/-- An action that raised left everything in place. -/
theorem follows_refl (db : TaskTables) : Follows action db db :=
  follows_of_rows (List.append_nil _).symm (fun _ ht => nomatch ht) fun _ => rfl

/-- **One action.** -/
theorem next_follows (server : Server) (db : TaskTables) (action : TaskStatement × TaskAction) :
    Follows action.2 db (db.next server action) := by
  obtain ⟨st, action⟩ := action
  cases action with
  | enqueue task =>
      cases hresult : db.enqueue st task with
      | error e =>
          simp only [next, hresult]
          exact follows_refl db
      | ok db' =>
          simp only [next, hresult]
          exact enqueue_follows hresult
  | depend dependency =>
      cases hresult : db.depend dependency with
      | error e =>
          simp only [next, hresult]
          exact follows_refl db
      | ok db' =>
          simp only [next, hresult]
          exact depend_follows hresult
  | call call =>
      cases hresult : db.perform server st call with
      | error e =>
          simp only [next, hresult]
          exact follows_refl db
      | ok result =>
          simp only [next, hresult]
          exact follows_of_evolves (perform_evolves hresult)

end TaskTables

/-! ## Runs -/

/-- The queue from its first task on. -/
def taskQueue (server : Server) : TSys TaskTables (TaskStatement × TaskAction) where
  Init db := db.asyncTasks.rows = [] ∧ db.asyncTaskDependencies.rows = []
  Step db action db' := db.next server action = db'

variable {t t' : AsyncTask}

theorem Moves.id {db : TaskTables} {action : TaskAction} (h : Moves db action t t') :
    t'.id = t.id := by
  rcases h with h | h
  · exact h.id
  · exact h.id

theorem Moves.within {db : TaskTables} {action : TaskAction} (h : Moves db action t t')
    (hw : t.Within) : t'.Within := by
  rcases h with h | h
  · exact h.within hw
  · exact h.within hw

/-- Every task is within its attempts. -/
theorem within_inductive (server : Server) :
    (taskQueue server).Inductive TSys.any fun db => ∀ t ∈ db.asyncTasks.rows, t.Within where
  init db h := by
    rw [h.1]
    exact fun _ ht => nomatch ht
  step db action db' h _ hstep := by
    cases hstep
    intro t' ht'
    rcases (TaskTables.next_follows server db action).backward t' ht' with
      ⟨t, ht, hmoves⟩ | ⟨-, hw⟩
    · exact hmoves.within (h t ht)
    · exact hw

/-- A dead end is not left. -/
theorem ended_stays {server : Server} {db db' : TaskTables} {id : Uuid} {state : AsyncTaskState}
    (hstate : state ∈ terminalStates) (h : (taskQueue server).Later TSys.any db db')
    (hended : ∃ t ∈ db.asyncTasks.rows, t.id = id ∧ t.state = state) :
    ∃ t ∈ db'.asyncTasks.rows, t.id = id ∧ t.state = state := by
  refine TSys.Later.preserves (P := fun db => ∃ t ∈ db.asyncTasks.rows, t.id = id ∧ t.state = state)
    (fun mid action mid' hmid _ hstep => ?_) h hended
  cases hstep
  obtain ⟨t, ht, hid, rfl⟩ := hmid
  obtain ⟨t', ht', hmoves⟩ := (TaskTables.next_follows server mid action).forward t ht
  refine ⟨t', ht', hmoves.id.trans hid, ?_⟩
  rcases hmoves with hsettles | hstarts
  · exact hsettles.ended hstate
  · exact absurd (List.mem_cons_of_mem _ hstate) hstarts.opened

/-- A task that succeeded stays so, unless its packet is superseded. -/
theorem succeeded_left {server : Server} {db : TaskTables} {t : AsyncTask}
    (ht : t ∈ db.asyncTasks.rows) (hsucceeded : t.state = .succeeded)
    (action : TaskStatement × TaskAction) :
    ∃ t' ∈ (db.next server action).asyncTasks.rows, t'.id = t.id ∧
      (t'.state = .succeeded ∨ (t'.state = .superseded ∧ action.2.isSupersede = true)) := by
  obtain ⟨t', ht', hmoves⟩ := (TaskTables.next_follows server db action).forward t ht
  refine ⟨t', ht', hmoves.id, ?_⟩
  rcases hmoves with hsettles | hstarts
  · exact hsettles.succeeded hsucceeded
  · refine absurd ?_ hstarts.opened
    rw [hsucceeded]
    exact List.mem_cons_self

/-- A task that runs under a lease it did not have was leased, when all it
waits for had succeeded. -/
theorem leased_when_ready {server : Server} {db : TaskTables}
    {action : TaskStatement × TaskAction} {t' : AsyncTask}
    (ht' : t' ∈ (db.next server action).asyncTasks.rows) (hrunning : t'.state = .running) :
    (∃ t ∈ db.asyncTasks.rows, t.id = t'.id ∧ t.state = .running ∧
        t.leaseGeneration = t'.leaseGeneration ∧ t.leaseToken = t'.leaseToken) ∨
      (action.2.isLease = true ∧ db.Ready t' ∧ (db.next server action).Ready t') := by
  have hfollows := TaskTables.next_follows server db action
  rcases hfollows.backward t' ht' with ⟨t, ht, hsettles | hstarts⟩ | ⟨hqueued, -⟩
  · obtain ⟨hstate, hgeneration, htoken⟩ := hsettles.running hrunning
    exact .inl ⟨t, ht, hsettles.id.symm, hstate, hgeneration.symm, htoken.symm⟩
  · have hdependencies : db.dependencies t' = db.dependencies t := by
      unfold TaskTables.dependencies
      rw [hstarts.id, hstarts.organizationId]
    refine .inr ⟨hstarts.lease, ?_, ?_⟩
    · intro d hd
      exact hstarts.ready d (hdependencies ▸ hd)
    · intro d hd
      have hd' : d ∈ db.dependencies t := by
        rw [← hdependencies]
        unfold TaskTables.dependencies at hd ⊢
        rwa [hfollows.dependencies hstarts.lease] at hd
      obtain ⟨required, hmem, hid, horganization, hstate⟩ := hstarts.ready d hd'
      obtain ⟨required', hmem', hmoves⟩ := hfollows.forward required hmem
      rcases hmoves with hsettles | hstarts'
      · refine ⟨required', hmem', hsettles.id.trans hid,
          hsettles.organizationId.trans horganization, ?_⟩
        rcases hsettles.succeeded hstate with hstate' | ⟨-, hsupersede⟩
        · exact hstate'
        · rw [TaskAction.not_supersede hstarts.lease] at hsupersede
          exact absurd hsupersede (by decide)
      · refine absurd ?_ hstarts'.opened
        rw [hstate]
        exact List.mem_cons_self
  · rw [hqueued] at hrunning
    exact absurd hrunning (by decide)

/-! ## Claims -/

/-- The claim under which a call asks to work on a task. -/
def TaskCall.claim : TaskCall → Option LeaseClaim
  | .complete claim _ => some claim
  | .heartbeat claim _ => some claim
  | .checkpoint claim _ _ _ => some claim
  | .fail claim _ _ _ => some claim
  | .markUnknown claim _ => some claim
  | _ => none

/-- The call works on the task under the claim: it answers neither `false` nor
`fenced`. -/
def TaskTables.Accepts (server : Server) (st : TaskStatement) (db : TaskTables) (call : TaskCall)
    (claim : LeaseClaim) : Prop :=
  call.claim = some claim ∧ ∃ db' reply, db.perform server st call = .ok (db', reply) ∧
    reply ≠ .flag false ∧ reply ≠ .state "fenced"

namespace TaskTables

variable {server : Server} {st : TaskStatement} {db db' : TaskTables}

/-- An update under a claim that wrote a row found it held. -/
theorem held_of_updateOne {claim : LeaseClaim} {u : TaskUpdate} {eventType : AsyncTask → String}
    {safeMetadata : AsyncTask → JsVal} {row : Option AsyncTask}
    (h : db.updateOne server st (fun t => t.heldUnder claim st.now) u eventType safeMetadata =
      .ok (db', row)) (hrow : row ≠ none) :
    ∃ t ∈ db.asyncTasks.rows, t.heldUnder claim st.now = true := by
  obtain ⟨t', rfl⟩ := Option.ne_none_iff_exists'.mp hrow
  obtain ⟨t, ht, hheld, -⟩ := updateOne_row h
  exact ⟨t, ht, hheld⟩

theorem isSome_of_flag {row : Option AsyncTask} (h : TaskReply.flag row.isSome ≠ .flag false) :
    row ≠ none := by
  rintro rfl
  exact h rfl

/-- A claim that is accepted is held. -/
theorem held_of_accepts {call : TaskCall} {claim : LeaseClaim}
    (h : Accepts server st db call claim) :
    ∃ t ∈ db.asyncTasks.rows, t.heldUnder claim st.now = true := by
  obtain ⟨hclaim, db', reply, hperform, hflag, hfenced⟩ := h
  cases call with
  | complete claim resultArtifact =>
      cases hclaim
      obtain ⟨⟨_, b⟩, hcall, heq⟩ := Sql.map_ok hperform
      cases heq
      obtain ⟨⟨mid, row⟩, hone, hcall⟩ := Sql.bind_ok hcall
      cases hcall
      exact held_of_updateOne hone (isSome_of_flag hflag)
  | heartbeat claim extendFor =>
      cases hclaim
      obtain ⟨⟨_, b⟩, hcall, heq⟩ := Sql.map_ok hperform
      cases heq
      obtain ⟨-, hcall⟩ := Sql.check_ok hcall
      obtain ⟨⟨mid, row⟩, hone, hcall⟩ := Sql.bind_ok hcall
      cases hcall
      exact held_of_updateOne hone (isSome_of_flag hflag)
  | checkpoint claim checkpointName artifactRefs metadataHashes =>
      cases hclaim
      obtain ⟨⟨_, b⟩, hcall, heq⟩ := Sql.map_ok hperform
      cases heq
      unfold checkpointAsyncTask at hcall
      split at hcall
      · cases hcall
        exact absurd rfl hflag
      · rename_i task htask
        have hheld := List.find?_some htask
        exact ⟨task, List.mem_of_find?_eq_some htask, hheld⟩
  | fail claim safeErrorCode isRetryable retryAfter =>
      cases hclaim
      obtain ⟨⟨_, text⟩, hcall, heq⟩ := Sql.map_ok hperform
      cases heq
      obtain ⟨-, hcall⟩ := Sql.check_ok hcall
      obtain ⟨-, hcall⟩ := Sql.check_ok hcall
      obtain ⟨⟨mid, row⟩, hone, hcall⟩ := Sql.bind_ok hcall
      cases hcall
      refine held_of_updateOne hone ?_
      rintro rfl
      exact hfenced rfl
  | markUnknown claim reconciliationKeyHash =>
      cases hclaim
      obtain ⟨⟨_, b⟩, hcall, heq⟩ := Sql.map_ok hperform
      cases heq
      obtain ⟨-, hcall⟩ := Sql.check_ok hcall
      obtain ⟨⟨mid, row⟩, hone, hcall⟩ := Sql.bind_ok hcall
      cases hcall
      exact held_of_updateOne hone (isSome_of_flag hflag)
  | _ => cases hclaim

/-- A task is held under one claim. -/
theorem claim_unique {claim claim' : LeaseClaim} {now now' : Int} (ht : t ∈ db.asyncTasks.rows)
    (ht' : t' ∈ db.asyncTasks.rows) (h : t.heldUnder claim now = true)
    (h' : t'.heldUnder claim' now' = true) (htask : claim.taskId = claim'.taskId) :
    claim = claim' := by
  obtain ⟨hid, -, hgeneration, -, htoken, -⟩ := of_decide_eq_true h
  obtain ⟨hid', -, hgeneration', -, htoken', -⟩ := of_decide_eq_true h'
  have hsame : t.id = t'.id := Option.some.inj (hid.trans (htask.trans hid'.symm))
  obtain rfl := eq_of_id ht' ht hsame
  obtain ⟨taskId, expectedGeneration, expectedLeaseToken⟩ := claim
  obtain ⟨taskId', expectedGeneration', expectedLeaseToken'⟩ := claim'
  simp only [LeaseClaim.mk.injEq]
  exact ⟨htask, hgeneration.symm.trans hgeneration', htoken.symm.trans htoken'⟩

end TaskTables

/-- **Lease fencing.** In every state of the queue one claim at most is
accepted for a task, whenever it is made; attempts count leases, are within
their bound, and leave one to a task that waits. A task is leased only when all
it waits for has succeeded. Dead ends are not left, and success only by
`supersede_packet_tasks`. -/
theorem lease_fencing (server : Server) {db : TaskTables}
    (h : (taskQueue server).Reachable TSys.any db) :
    (∀ st st' call call' claim claim', db.Accepts server st call claim →
      db.Accepts server st' call' claim' → claim.taskId = claim'.taskId → claim = claim') ∧
    (∀ t ∈ db.asyncTasks.rows, t.leaseGeneration = t.attemptCount ∧
      t.attemptCount ≤ t.maxAttempts ∧
      (t.state = .queued ∨ t.state = .retry_wait → t.attemptCount < t.maxAttempts)) ∧
    (∀ action, ∀ t' ∈ (db.next server action).asyncTasks.rows, t'.state = .running →
      (∃ t ∈ db.asyncTasks.rows, t.id = t'.id ∧ t.state = .running ∧
        t.leaseGeneration = t'.leaseGeneration ∧ t.leaseToken = t'.leaseToken) ∨
      (action.2.isLease = true ∧ db.Ready t' ∧ (db.next server action).Ready t')) ∧
    (∀ db', (taskQueue server).Later TSys.any db db' → ∀ t ∈ db.asyncTasks.rows,
      t.state ∈ terminalStates → ∃ t' ∈ db'.asyncTasks.rows, t'.id = t.id ∧ t'.state = t.state) ∧
    ∀ action, ∀ t ∈ db.asyncTasks.rows, t.state = .succeeded →
      ∃ t' ∈ (db.next server action).asyncTasks.rows, t'.id = t.id ∧
        (t'.state = .succeeded ∨ (t'.state = .superseded ∧ action.2.isSupersede = true)) := by
  refine ⟨?_, ?_, ?_, ?_, ?_⟩
  · intro st st' call call' claim claim' haccepts haccepts' htask
    obtain ⟨t, ht, hheld⟩ := TaskTables.held_of_accepts haccepts
    obtain ⟨t', ht', hheld'⟩ := TaskTables.held_of_accepts haccepts'
    exact TaskTables.claim_unique ht ht' hheld hheld' htask
  · intro t ht
    have hwithin := (within_inductive server).invariant h t ht
    exact ⟨hwithin.generation, hwithin.bounded, hwithin.spare⟩
  · intro action t' ht' hrunning
    exact leased_when_ready ht' hrunning
  · intro db' hlater t ht hended
    exact ended_stays hended hlater ⟨t, ht, rfl, rfl⟩
  · intro action t ht hsucceeded
    exact succeeded_left ht hsucceeded action

namespace TaskTables.Sample

def worker : TaskStatement where
  now := 60
  leaseToken := ⟨"eeee0000-0000-0000-0000-000000000001", @rfl _ true⟩
  eventId := fun _ _ => ⟨"eeee0000-0000-0000-0000-000000000002", @rfl _ true⟩

def contentTask : NewTask where
  id := ⟨"cccc0000-0000-0000-0000-000000000001", @rfl _ true⟩
  organizationId := ⟨"aaaaaaaa-0000-0000-0000-000000000001", @rfl _ true⟩
  taskType := "content.validate_and_proxy"
  aggregateType := "artifact"
  aggregateId := ⟨"cccc0000-0000-0000-0000-000000000002", by decide⟩
  idempotencyKey := "content:1"
  requestFingerprint := placeholderSha
  maxAttempts := 5
  availableAt := 0
  packetId := none
  packetRevision := none

def host : Server := ⟨fun _ => placeholderSha, fun _ => "2026-07-16 00:00:00+00"⟩

def emptyQueue : TaskTables := ⟨.empty, .empty, .empty, .empty, .empty⟩

/-- One task, leased for a minute. -/
def working : TaskTables :=
  (emptyQueue.next host (worker, .enqueue contentTask)).next host
    (worker, .call (.lease (some "worker-1") (some 60000000)))

theorem working_fenced :
    working.asyncTasks.rows.map (fun t => (t.state, t.leaseGeneration, t.leaseToken)) =
        [(.running, 1, some worker.leaseToken)] ∧
      ∀ t ∈ working.asyncTasks.rows, t.leaseGeneration = t.attemptCount := by
  refine ⟨by decide +kernel, fun t ht => ?_⟩
  have hempty : (taskQueue host).Reachable TSys.any emptyQueue := .init ⟨rfl, rfl⟩
  have hreachable : (taskQueue host).Reachable TSys.any working :=
    (hempty.step trivial rfl).step trivial rfl
  exact ((lease_fencing host hreachable).2.1 t ht).1

end TaskTables.Sample

end InspectionHub.Database
