import InspectionHub.Database.LeaseFencing
import InspectionHub.Lib.RecursiveUnion

/-!
# The graph of dependencies

`u6_reject_task_dependency_cycle` follows the dependencies of one tenant from
the task that is waited for, and refuses a row whose task it comes to. A task
belongs to one tenant, and a row joins two tasks of its own, so no path leaves
the tenant.
-/

namespace InspectionHub.Database

open RecursiveUnion (rounds seed Steps Succ)
open Relation (ReflTransGen TransGen)

namespace TaskTables

section Graph

variable (db : TaskTables)

/-- An edge of the graph, whatever tenant its row belongs to. -/
def DependsOn (a b : Uuid) : Prop :=
  ∃ d ∈ db.asyncTaskDependencies.rows, d.taskId = a ∧ d.dependsOnTaskId = b

def Acyclic : Prop := ∀ a, ¬ TransGen db.DependsOn a a

/-- The row would close a cycle. -/
def Closes (d : AsyncTaskDependency) : Prop :=
  ¬ ∀ a, ¬ TransGen (fun a b => db.DependsOn a b ∨ (a = d.taskId ∧ b = d.dependsOnTaskId)) a a

/-- What the recursive term joins to a task of the chain. -/
def joined (organizationId a : Uuid) : List Uuid :=
  (db.asyncTaskDependencies.rows.filter fun d =>
    d.organizationId = organizationId ∧ d.taskId = a).map AsyncTaskDependency.dependsOnTaskId

/-- The chain of a row that is checked, after some rounds. -/
def chain (d : AsyncTaskDependency) (n : Nat) : RecursiveUnion Uuid :=
  rounds (db.joined d.organizationId) n (seed d.dependsOnTaskId)

/-- `insert into async_task_dependencies values …`, row after row -/
def insertDependencies (rows : List AsyncTaskDependency) : Except Sql.Error TaskTables :=
  rows.foldlM TaskTables.depend db

/-- The task is one of the tenant's. -/
def Owned (organizationId id : Uuid) : Prop :=
  ∃ t ∈ db.asyncTasks.rows, t.id = id ∧ t.organizationId = organizationId

end Graph

variable {db db' : TaskTables}

variable {organizationId a b : Uuid}

theorem mem_joined : b ∈ db.joined organizationId a ↔
    ∃ d ∈ db.asyncTaskDependencies.rows,
      d.organizationId = organizationId ∧ d.taskId = a ∧ d.dependsOnTaskId = b := by
  simp only [joined, List.mem_map, List.mem_filter, decide_eq_true_eq]
  constructor
  · rintro ⟨d, ⟨hd, horganization, ha⟩, hb⟩
    exact ⟨d, hd, horganization, ha, hb⟩
  · rintro ⟨d, hd, horganization, ha, hb⟩
    exact ⟨d, ⟨hd, horganization, ha⟩, hb⟩

theorem joined_subset (organizationId a : Uuid) : db.joined organizationId a ⊆
    db.asyncTaskDependencies.rows.map AsyncTaskDependency.dependsOnTaskId := by
  intro b hb
  obtain ⟨d, hd, -, -, rfl⟩ := mem_joined.mp hb
  exact List.mem_map_of_mem hd

/-! ## The check -/

theorem chains_iff {organizationId : Uuid} {n : Nat} {a b : Uuid} :
    db.chains organizationId n a b = true ↔
      ∃ k ≤ n, Steps (db.joined organizationId) a k b := by
  induction n generalizing a with
  | zero =>
      rw [chains, decide_eq_true_iff]
      constructor
      · exact fun h => ⟨0, Nat.le_refl 0, h⟩
      · rintro ⟨k, hk, h⟩
        obtain rfl := Nat.le_zero.mp hk
        exact h
  | succ n ih =>
      rw [chains, decide_eq_true_iff]
      constructor
      · rintro (rfl | ⟨d, hd, horganization, ha, hchain⟩)
        · exact ⟨0, Nat.zero_le _, rfl⟩
        · obtain ⟨k, hk, hsteps⟩ := ih.mp hchain
          exact ⟨k + 1, Nat.succ_le_succ hk,
            hsteps.head (mem_joined.mpr ⟨d, hd, horganization, ha, rfl⟩)⟩
      · rintro ⟨k, hk, hsteps⟩
        cases k with
        | zero => exact .inl hsteps
        | succ k =>
            obtain ⟨c, hc, hrest⟩ := hsteps.of_head
            obtain ⟨d, hd, horganization, ha, rfl⟩ := mem_joined.mp hc
            exact .inr ⟨d, hd, horganization, ha, ih.mpr ⟨k, Nat.le_of_succ_le_succ hk, hrest⟩⟩

/-- The query ends after a round more than there are rows. -/
theorem chain_ends (db : TaskTables) (d : AsyncTaskDependency) :
    (db.chain d (db.asyncTaskDependencies.rows.length + 1)).working = [] := by
  have hsubset : ∀ a, db.joined d.organizationId a ⊆ _ := joined_subset d.organizationId
  have hends := RecursiveUnion.ends hsubset d.dependsOnTaskId
  rwa [List.length_map] at hends

/-- What is checked is whether the row's task is in the answer. -/
theorem chains_chain (db : TaskTables) (d : AsyncTaskDependency) :
    db.chains d.organizationId db.asyncTaskDependencies.rows.length d.dependsOnTaskId d.taskId =
      true ↔ d.taskId ∈ (db.chain d (db.asyncTaskDependencies.rows.length + 1)).result := by
  have hsubset : ∀ a, db.joined d.organizationId a ⊆ _ := joined_subset d.organizationId
  have hlast := RecursiveUnion.result_last hsubset d.dependsOnTaskId
  rw [List.length_map] at hlast
  rw [chains_iff, ← RecursiveUnion.mem_rounds, ← hlast]
  rfl

/-- It is whether there is a path back within the tenant. -/
theorem chains_reaches (db : TaskTables) (d : AsyncTaskDependency) :
    db.chains d.organizationId db.asyncTaskDependencies.rows.length d.dependsOnTaskId d.taskId =
      true ↔ ReflTransGen (Succ (db.joined d.organizationId)) d.dependsOnTaskId d.taskId := by
  rw [chains_chain]
  exact RecursiveUnion.mem_result_iff (chain_ends db d)

theorem dependsOn_of_succ (h : Succ (db.joined organizationId) a b) : db.DependsOn a b := by
  obtain ⟨d, hd, -, ha, hb⟩ := mem_joined.mp h
  exact ⟨d, hd, ha, hb⟩

/-! ## Tenants -/

/-- Each row joins two tasks of its tenant. -/
def Keyed (db : TaskTables) : Prop := ∀ d ∈ db.asyncTaskDependencies.rows,
  ∀ id ∈ [d.taskId, d.dependsOnTaskId], db.Owned d.organizationId id

/-- A task has one tenant. -/
theorem Owned.unique {organizationId organizationId' id : Uuid} (h : db.Owned organizationId id)
    (h' : db.Owned organizationId' id) : organizationId = organizationId' := by
  obtain ⟨t, ht, hid, rfl⟩ := h
  obtain ⟨t', ht', hid', rfl⟩ := h'
  have heq : t = t' := db.asyncTasks.eq_of_key (f := AsyncTask.id) (fun _ _ hsame => .inl hsame)
    ht ht' (hid.trans hid'.symm)
  rw [heq]

/-- A path from a task of a tenant stays with the tenant. -/
theorem path_joined (hkeyed : db.Keyed) (howned : db.Owned organizationId a)
    (h : ReflTransGen db.DependsOn a b) :
    db.Owned organizationId b ∧ ReflTransGen (Succ (db.joined organizationId)) a b := by
  induction h with
  | refl => exact ⟨howned, .refl⟩
  | tail _ hedge ih =>
      obtain ⟨hb, hpath⟩ := ih
      obtain ⟨d, hd, rfl, rfl⟩ := hedge
      have htask := hkeyed d hd d.taskId List.mem_cons_self
      obtain rfl := hb.unique htask
      have hmem : d.dependsOnTaskId ∈ [d.taskId, d.dependsOnTaskId] :=
        List.mem_cons_of_mem _ List.mem_cons_self
      exact ⟨hkeyed d hd _ hmem, hpath.tail (mem_joined.mpr ⟨d, hd, rfl, rfl, rfl⟩)⟩

/-! ## One row -/

/-- What an accepted row was checked for. -/
structure Depended (d : AsyncTaskDependency) (db db' : TaskTables) : Prop where
  checked : ¬ db.chains d.organizationId db.asyncTaskDependencies.rows.length d.dependsOnTaskId
    d.taskId = true
  keyed : ∀ id ∈ [d.taskId, d.dependsOnTaskId], db.Owned d.organizationId id
  tasks : db'.asyncTasks = db.asyncTasks
  rows : db'.asyncTaskDependencies.rows = db.asyncTaskDependencies.rows ++ [d]

variable {d : AsyncTaskDependency}

theorem depend_ok (h : db.depend d = .ok db') : Depended d db db' := by
  obtain ⟨hchecked, h⟩ := Sql.check_ok h
  obtain ⟨dependencies, -, h⟩ := Sql.bind_ok h
  obtain ⟨hkeyed, h⟩ := Sql.check_ok h
  cases h
  exact ⟨hchecked, Classical.not_not.mp hkeyed, rfl, dependencies.2⟩

/-- The queue's rows join tasks of one tenant, and there is no cycle. -/
structure GraphInv (db : TaskTables) : Prop where
  keyed : db.Keyed
  acyclic : db.Acyclic

theorem dependsOn_append (h : Depended d db db') (a b : Uuid) :
    db'.DependsOn a b ↔ db.DependsOn a b ∨ (a = d.taskId ∧ b = d.dependsOnTaskId) := by
  unfold DependsOn
  rw [h.rows]
  constructor
  · rintro ⟨e, he, rfl, rfl⟩
    rcases List.mem_append.mp he with he | he
    · exact .inl ⟨e, he, rfl, rfl⟩
    · rw [List.mem_singleton.mp he]
      exact .inr ⟨rfl, rfl⟩
  · rintro (⟨e, he, ha, hb⟩ | ⟨rfl, rfl⟩)
    · exact ⟨e, List.mem_append_left _ he, ha, hb⟩
    · exact ⟨d, List.mem_append_right _ List.mem_cons_self, rfl, rfl⟩

/-- A path back is a cycle that the row would close. -/
theorem closes_iff (hacyclic : db.Acyclic) (d : AsyncTaskDependency) :
    db.Closes d ↔ ReflTransGen db.DependsOn d.dependsOnTaskId d.taskId := by
  rw [Closes, acyclic_edge hacyclic, Classical.not_not]

theorem Depended.graph (h : Depended d db db') (hi : db.GraphInv) :
    db'.GraphInv where
  keyed := by
    intro e he id hid
    rw [h.rows] at he
    unfold Owned
    rw [h.tasks]
    rcases List.mem_append.mp he with he | he
    · exact hi.keyed e he id hid
    · rw [List.mem_singleton.mp he] at hid ⊢
      exact h.keyed id hid
  acyclic := by
    have hopen : ¬ db.Closes d := by
      rw [closes_iff hi.acyclic]
      intro hback
      have howned := h.keyed d.dependsOnTaskId (List.mem_cons_of_mem _ List.mem_cons_self)
      exact h.checked ((chains_reaches db d).mpr (path_joined hi.keyed howned hback).2)
    have hedges : db'.DependsOn =
        fun a b => db.DependsOn a b ∨ (a = d.taskId ∧ b = d.dependsOnTaskId) := by
      funext a b
      exact propext (dependsOn_append h a b)
    unfold Acyclic
    rw [hedges]
    exact Classical.not_not.mp hopen

theorem insertDependencies_graph {rows : List AsyncTaskDependency} (hi : db.GraphInv)
    (h : db.insertDependencies rows = .ok db') : db'.GraphInv := by
  induction rows generalizing db with
  | nil =>
      cases h
      exact hi
  | cons d rows ih =>
      unfold insertDependencies at h
      rw [List.foldlM_cons] at h
      obtain ⟨mid, hfirst, hrest⟩ := Sql.bind_ok h
      exact ih ((depend_ok hfirst).graph hi) hrest

/-! ## Rejected rows -/

/-- What `u6_reject_task_dependency_cycle` raises. -/
def cycleError : Sql.Error := ⟨"23514", "async task dependency cycle is not allowed"⟩

theorem depend_cycle_iff : db.depend d = .error cycleError ↔
    db.chains d.organizationId db.asyncTaskDependencies.rows.length d.dependsOnTaskId d.taskId =
      true := by
  unfold depend
  by_cases hchain : db.chains d.organizationId db.asyncTaskDependencies.rows.length
      d.dependsOnTaskId d.taskId = true
  · rw [Sql.raiseIf, if_pos hchain]
    exact ⟨fun _ => hchain, fun _ => rfl⟩
  · rw [Sql.check_of hchain]
    refine ⟨fun h => ?_, fun h => absurd h hchain⟩
    -- the other checks raise under other codes
    unfold Sql.Table.insert at h
    split at h
    · unfold Sql.raiseIf at h
      split at h
      · exact absurd (congrArg Sql.Error.errcode (Except.error.inj h)) (by decide)
      · cases h
    · exact absurd (congrArg Sql.Error.errcode (Except.error.inj h)) (by decide)

/-- A row that is rejected as closing a cycle closes one. -/
theorem depend_exact (hacyclic : db.Acyclic) (h : db.depend d = .error cycleError) :
    db.Closes d := by
  rw [closes_iff hacyclic]
  have hback := (chains_reaches db d).mp (depend_cycle_iff.mp h)
  exact Relation.ReflTransGen.mono (fun _ _ => dependsOn_of_succ) _ _ hback

/-- A row of a tenant's own task that closes a cycle is rejected as that. -/
theorem depend_caught (hi : db.GraphInv) (howned : db.Owned d.organizationId d.dependsOnTaskId)
    (h : db.Closes d) : db.depend d = .error cycleError := by
  rw [closes_iff hi.acyclic] at h
  exact depend_cycle_iff.mpr ((chains_reaches db d).mpr (path_joined hi.keyed howned h).2)

/-- Of several rows, the one that is rejected closes a cycle with those before it. -/
theorem insertDependencies_exact {rows : List AsyncTaskDependency} (hi : db.GraphInv)
    (h : db.insertDependencies rows = .error cycleError) : ∃ before d after mid,
      rows = before ++ d :: after ∧ db.insertDependencies before = .ok mid ∧ mid.Closes d := by
  induction rows generalizing db with
  | nil => cases h
  | cons d rows ih =>
      unfold insertDependencies at h
      rw [List.foldlM_cons] at h
      cases hfirst : db.depend d with
      | error e =>
          rw [hfirst] at h
          cases h
          exact ⟨[], d, rows, db, rfl, rfl, depend_exact hi.acyclic hfirst⟩
      | ok mid =>
          rw [Sql.bind_of hfirst] at h
          obtain ⟨before, d', after, last, rfl, hbefore, hcloses⟩ :=
            ih ((depend_ok hfirst).graph hi) h
          refine ⟨d :: before, d', after, last, rfl, ?_, hcloses⟩
          unfold insertDependencies
          rw [List.foldlM_cons, Sql.bind_of hfirst]
          exact hbefore

/-! ## Runs -/

/-- Another action on the queue, or a statement that inserts dependencies. -/
inductive GraphStep where
  | action (st : TaskStatement) (action : TaskAction)
  | insert (rows : List AsyncTaskDependency)

/-- The tables after a step; a statement that raises leaves them as they were. -/
def after (server : Server) (db : TaskTables) : GraphStep → TaskTables
  | .action st action => db.next server (st, action)
  | .insert rows =>
      match db.insertDependencies rows with
      | .ok db' => db'
      | .error _ => db

/-- The queue from its first task on. -/
def taskGraph (server : Server) : TSys TaskTables GraphStep where
  Init db := db.asyncTasks.rows = [] ∧ db.asyncTaskDependencies.rows = []
  Step db step db' := db.after server step = db'

theorem GraphInv.of_tasks (hi : db.GraphInv)
    (hdependencies : db'.asyncTaskDependencies = db.asyncTaskDependencies)
    (htasks : ∀ t ∈ db.asyncTasks.rows, ∃ t' ∈ db'.asyncTasks.rows, t'.id = t.id ∧
      t'.organizationId = t.organizationId) : db'.GraphInv where
  keyed := by
    intro d hd id hid
    rw [hdependencies] at hd
    obtain ⟨t, ht, htid, horganization⟩ := hi.keyed d hd id hid
    obtain ⟨t', ht', hid', horganization'⟩ := htasks t ht
    exact ⟨t', ht', hid'.trans htid, horganization'.trans horganization⟩
  acyclic := by
    have hedges : db'.DependsOn = db.DependsOn := by
      unfold DependsOn
      rw [hdependencies]
    unfold Acyclic
    rw [hedges]
    exact hi.acyclic

theorem next_graph (server : Server) (st : TaskStatement) (action : TaskAction)
    (hi : db.GraphInv) : (db.next server (st, action)).GraphInv := by
  cases action with
  | enqueue task =>
      cases hresult : db.enqueue st task with
      | error e =>
          simp only [next, hresult]
          exact hi
      | ok db' =>
          simp only [next, hresult]
          obtain ⟨-, h⟩ := Sql.check_ok hresult
          obtain ⟨tasks, -, h⟩ := Sql.bind_ok h
          cases h
          refine hi.of_tasks rfl fun t ht => ⟨t, ?_, rfl, rfl⟩
          rw [tasks.2]
          exact List.mem_append_left _ ht
  | depend d =>
      cases hresult : db.depend d with
      | error e =>
          simp only [next, hresult]
          exact hi
      | ok db' =>
          simp only [next, hresult]
          exact (depend_ok hresult).graph hi
  | call call =>
      cases hresult : db.perform server st call with
      | error e =>
          simp only [next, hresult]
          exact hi
      | ok result =>
          simp only [next, hresult]
          have hevolves := perform_evolves hresult
          refine hi.of_tasks hevolves.dependencies fun t ht => ?_
          obtain ⟨t', ht', hmoves⟩ := hevolves.forward ht
          rcases hmoves with hmoves | hmoves
          · exact ⟨t', ht', hmoves.id, hmoves.organizationId⟩
          · exact ⟨t', ht', hmoves.id, hmoves.organizationId⟩

theorem graph_inductive (server : Server) :
    (taskGraph server).Inductive TSys.any TaskTables.GraphInv where
  init db h := by
    refine ⟨fun d hd => ?_, fun a hcycle => ?_⟩
    · rw [h.2] at hd
      cases hd
    · obtain ⟨b, ⟨d, hd, -⟩, -⟩ := Relation.TransGen.head'_iff.mp hcycle
      rw [h.2] at hd
      cases hd
  step db step db' hi _ hstep := by
    cases hstep
    cases step with
    | action st action => exact next_graph server st action hi
    | insert rows =>
        cases hresult : db.insertDependencies rows with
        | error e =>
            simp only [after, hresult]
            exact hi
        | ok db' =>
            simp only [after, hresult]
            exact insertDependencies_graph hi hresult

/-- What holds of the dependencies in every state of a run. -/
structure GraphSafe (server : Server) (db : TaskTables) : Prop where
  acyclic : db.Acyclic
  accepted : ∀ rows db', db.insertDependencies rows = .ok db' → db'.Acyclic
  rejected : ∀ rows e, db.insertDependencies rows = .error e →
    (db.after server (.insert rows)).DependsOn = db.DependsOn
  /-- What is rejected as a cycle would close one. -/
  exact : ∀ rows, db.insertDependencies rows = .error cycleError → ∃ before d after mid,
    rows = before ++ d :: after ∧ db.insertDependencies before = .ok mid ∧ mid.Closes d
  caught : ∀ d, db.Owned d.organizationId d.dependsOnTaskId → db.Closes d →
    db.depend d = .error cycleError
  /-- The query of the check ends, and the check is about what it has then. -/
  terminates : ∀ d, ∃ n, (db.chain d n).working = [] ∧
    (db.depend d = .error cycleError ↔ d.taskId ∈ (db.chain d n).result)

/-- **The dependencies stay acyclic**, in every run and across the tenants. -/
theorem dependencies_acyclic {server : Server} {db : TaskTables}
    (h : (taskGraph server).Reachable TSys.any db) : GraphSafe server db := by
  have hi : db.GraphInv := (graph_inductive server).invariant h
  refine ⟨hi.acyclic, ?_, ?_, ?_, ?_, ?_⟩
  · intro rows db' hrows
    exact (insertDependencies_graph hi hrows).acyclic
  · intro rows e hrows
    simp only [after, hrows]
  · exact fun rows => insertDependencies_exact hi
  · exact fun d howned hcloses => depend_caught hi howned hcloses
  · intro d
    exact ⟨_, chain_ends db d, depend_cycle_iff.trans (chains_chain db d)⟩

namespace Sample

def proxyTask : NewTask :=
  { contentTask with
    id := ⟨"cccc0000-0000-0000-0000-000000000003", by decide⟩
    idempotencyKey := "content:2" }

def proxyAfterContent : AsyncTaskDependency :=
  ⟨contentTask.organizationId, proxyTask.id, contentTask.id⟩

def contentAfterProxy : AsyncTaskDependency :=
  ⟨contentTask.organizationId, contentTask.id, proxyTask.id⟩

/-- Two tasks, the second waiting for the first. -/
def waiting : TaskTables :=
  ((emptyQueue.after host (.action worker (.enqueue contentTask))).after host
    (.action worker (.enqueue proxyTask))).after host (.insert [proxyAfterContent])

theorem waiting_graph : waiting.depend contentAfterProxy = .error cycleError ∧
    waiting.asyncTaskDependencies.rows = [proxyAfterContent] ∧ GraphSafe host waiting := by
  have hempty : (taskGraph host).Reachable TSys.any emptyQueue := .init ⟨rfl, rfl⟩
  have hreachable : (taskGraph host).Reachable TSys.any waiting :=
    ((hempty.step trivial rfl).step trivial rfl).step trivial rfl
  exact ⟨depend_cycle_iff.mpr (by decide +kernel), by decide +kernel,
    dependencies_acyclic hreachable⟩

end Sample

end TaskTables

end InspectionHub.Database
