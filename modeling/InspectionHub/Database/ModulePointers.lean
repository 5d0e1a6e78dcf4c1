import InspectionHub.Database.ApprovalChain

/-!
# The pointers of a module

Two paths write the revision and the current snapshot of a module:
`command_create_module_snapshot`, and the direct update that
`inspection_modules_tenant_update` of `20260714000400_u2_integrity_and_rls.sql`
leaves to the assigned inspector. The command moves both forward; the trigger
on the update asks of a pointer only that the snapshot is one of the module's,
and of a revision nothing. The modules move forward in exactly the runs without
an update that retreats (`module_pointers_forward`).
-/

namespace InspectionHub

/-- Rows that replace those of a table. -/
def Sql.Table.replace {ρ : Type*} {clash : ρ → ρ → Prop} [DecidableRel clash] (constraint : String)
    (rows : List ρ) : Except Sql.Error { t : Sql.Table ρ clash // t.rows = rows } :=
  if h : rows.Pairwise fun a b => ¬ clash a b then .ok ⟨⟨rows, h⟩, rfl⟩
  else .error ⟨"23505", constraint⟩

namespace Database

namespace ModuleStore

/-! ## The direct update -/

/-- `is_assigned_module_inspector(organization_id, id)` of a row, the policy of the table. -/
def policyAllows (db : ModuleStore) (actorId : Option Uuid) (m : InspectionModule) : Bool :=
  isAssignedModuleInspector db.inspectionModules.rows db.context.organizationMembers actorId
    m.organizationId m.id

/-- Rows that refer to the module by its key, tenant and type. -/
def isReferenced (db : ModuleStore) (m : InspectionModule) : Bool :=
  (db.moduleSnapshots.rows.any fun s =>
    s.moduleId = m.id ∧ s.organizationId = m.organizationId ∧ s.moduleType = m.moduleType) ||
  (db.moduleApprovals.rows.any fun a =>
    a.moduleId = m.id ∧ a.organizationId = m.organizationId ∧ a.moduleType = m.moduleType) ||
  (db.moduleWithdrawals.rows.any fun w =>
    w.moduleId = m.id ∧ w.organizationId = m.organizationId ∧ w.moduleType = m.moduleType) ||
  (db.reportVersions.rows.any fun r =>
    r.moduleId = m.id ∧ r.organizationId = m.organizationId ∧ r.moduleType = m.moduleType)

/-- The trigger, the policy and the foreign keys, of the row `m'` that takes the place of `m`. -/
def checkUpdate (db : ModuleStore) (actorId : Option Uuid) (m m' : InspectionModule) :
    Except Sql.Error Unit := do
  db.validateModuleCurrentPointers m'
  Sql.raiseIf (¬ db.policyAllows actorId m') "42501"
    "new row violates row-level security policy for table inspection_modules"
  Sql.raiseIf (¬ db.hasJob m'.jobId m'.organizationId ∨
      (¬ (m'.id = m.id ∧ m'.organizationId = m.organizationId ∧ m'.moduleType = m.moduleType) ∧
        db.isReferenced m)) "23503" "inspection_modules"

/-- The modules, with `m'` in the place of `m`. -/
def rowsWith (db : ModuleStore) (m m' : InspectionModule) : List InspectionModule :=
  db.inspectionModules.rows.map fun row => if row.id = m.id then m' else row

/-- `update inspection_modules set … where id = …`, by a member's own session: the policy hides
a row from anyone but its inspector. -/
def directUpdate (db : ModuleStore) (actorId : Option Uuid) (id : Uuid)
    (f : InspectionModule → InspectionModule) : Except Sql.Error ModuleStore :=
  match db.inspectionModules.rows.find? fun m => m.id = id with
  | none => return db
  | some m =>
      if db.policyAllows actorId m then do
        db.checkUpdate actorId m (f m)
        let next ← Sql.Table.replace "inspection_modules" (db.rowsWith m (f m))
        return { db with inspectionModules := next.1 }
      else return db

/-! ## Runs -/

inductive PointerStep where
  | commission (m : InspectionModule)
  | createSnapshot (actorId : Option Uuid) (snapshotId : Uuid) (c : CreateModuleSnapshot)
  | direct (actorId : Option Uuid) (id : Uuid) (f : InspectionModule → InspectionModule)
  /-- The other statements, at the tables they write. -/
  | other (tables : ModuleStore)

section

variable (columnSize : JsVal → Nat) (sha256 : String → String)

def pointerOutcome (db : ModuleStore) : PointerStep → Except Sql.Error ModuleStore
  | .commission m => (db.insertModule m).map fun tables => { db with toModuleTables := tables }
  | .createSnapshot actorId snapshotId c =>
      (commandCreateModuleSnapshot columnSize sha256 actorId snapshotId c db).map Prod.snd
  | .direct actorId id f => db.directUpdate actorId id f
  | .other tables => .ok { tables with
      inspectionModules := db.inspectionModules
      moduleSnapshots := db.moduleSnapshots }

/-- A raised error rolls the step back. -/
def performPointer (db : ModuleStore) (step : PointerStep) : ModuleStore :=
  match pointerOutcome columnSize sha256 db step with
  | .ok db' => db'
  | .error _ => db

end

theorem performPointer_of {columnSize : JsVal → Nat} {sha256 : String → String}
    {db db' : ModuleStore} {step : PointerStep}
    (h : pointerOutcome columnSize sha256 db step = .ok db') :
    performPointer columnSize sha256 db step = db' := by
  unfold performPointer
  rw [h]

/-! ## Forward -/

/-- The snapshot is the module's, and none of the module has a higher version. -/
def Latest (snapshots : List ModuleSnapshot) (moduleId id : Uuid) : Prop :=
  ∃ s ∈ snapshots, s.id = id ∧ s.moduleId = moduleId ∧
    ∀ t ∈ snapshots, t.moduleId = moduleId → t.snapshotVersion ≤ s.snapshotVersion

/-- Every pointer that is set names the latest snapshot of its module. -/
def AllLatest (db : ModuleTables) : Prop :=
  ∀ m ∈ db.inspectionModules.rows, ∀ id, m.currentSnapshotId = some id →
    Latest db.moduleSnapshots.rows m.id id

/-- No module's revision goes down, no pointer is taken away, and every pointer names the latest
snapshot. -/
structure Forward (db db' : ModuleTables) : Prop where
  modules : ∀ m ∈ db.inspectionModules.rows, ∃ m' ∈ db'.inspectionModules.rows, m'.id = m.id ∧
    m.revision ≤ m'.revision ∧ (m.currentSnapshotId ≠ none → m'.currentSnapshotId ≠ none)
  latest : AllLatest db'

/-- The update is the inspector's own, and the row it leaves is accepted. -/
structure Admits (db : ModuleStore) (actorId : Option Uuid) (m m' : InspectionModule) : Prop where
  visible : db.policyAllows actorId m = true
  checked : db.checkUpdate actorId m m' = .ok ()
  distinct : (db.rowsWith m m').Pairwise fun a b => ¬ a.clash b

/-- The row's revision is lower, its pointer is taken away, or it names another snapshot than the
latest. -/
def Retreats (db : ModuleTables) (m m' : InspectionModule) : Prop :=
  m'.revision < m.revision ∨ (m.currentSnapshotId ≠ none ∧ m'.currentSnapshotId = none) ∨
    ∃ id, m'.currentSnapshotId = some id ∧ ¬ Latest db.moduleSnapshots.rows m.id id

/-- A direct update that is accepted and retreats. -/
def Backward (db : ModuleStore) : PointerStep → Prop
  | .direct actorId id f => ∃ m, (db.inspectionModules.rows.find? fun m => m.id = id) = some m ∧
      Admits db actorId m (f m) ∧ Retreats db.toModuleTables m (f m)
  | _ => False

/-! ## What the steps do -/

variable {columnSize : JsVal → Nat} {sha256 : String → String} {db db' : ModuleStore}

/-- The invariant: the pointers name the latest snapshots, and no snapshot is without its module. -/
structure Kept (db : ModuleTables) : Prop where
  latest : AllLatest db
  owned : ∀ s ∈ db.moduleSnapshots.rows, ∃ m ∈ db.inspectionModules.rows, m.id = s.moduleId

theorem Forward.of_same {db db' : ModuleTables} (h : AllLatest db)
    (hmodules : db'.inspectionModules = db.inspectionModules)
    (hsnapshots : db'.moduleSnapshots = db.moduleSnapshots) : Forward db db' where
  modules m hm := ⟨m, hmodules ▸ hm, rfl, Nat.le_refl _, id⟩
  latest := by
    unfold AllLatest
    rw [hmodules, hsnapshots]
    exact h

theorem Kept.empty : Kept ModuleTables.empty where
  latest := fun _ hm => absurd hm List.not_mem_nil
  owned := fun _ hs => absurd hs List.not_mem_nil

theorem module_eq_of_id {db : ModuleTables} {a b : InspectionModule}
    (ha : a ∈ db.inspectionModules.rows) (hb : b ∈ db.inspectionModules.rows) (h : a.id = b.id) :
    a = b :=
  db.inspectionModules.eq_of_key (f := InspectionModule.id) (fun _ _ heq => .inl heq) ha hb h

/-- A module that is commissioned has no snapshot yet. -/
theorem insertModule_forward {db db' : ModuleTables} {m : InspectionModule} (hkept : Kept db)
    (h : db.insertModule m = .ok db') : Forward db db' ∧ Kept db' := by
  obtain ⟨⟨⟩, hpointers, h⟩ := Sql.bind_ok h
  obtain ⟨next, hinsert, h⟩ := Sql.bind_ok h
  obtain ⟨-, hdone⟩ := Sql.check_ok h
  cases hdone
  have hfresh := Sql.Table.insert_ok hinsert
  have hnone : m.currentSnapshotId = none := by
    by_contra hsome
    obtain ⟨id, hid⟩ := Option.ne_none_iff_exists'.mp hsome
    obtain ⟨s, hs, -, hmodule⟩ := ModuleTables.pointers_ok hpointers id hid
    obtain ⟨owner, howner, hsame⟩ := hkept.owned s hs
    exact hfresh owner howner (.inl (hsame.trans hmodule))
  have hlatest : AllLatest { db with inspectionModules := next.1 } := by
    intro m' hm' id hid
    change m' ∈ next.1.rows at hm'
    rw [next.2, List.mem_append, List.mem_singleton] at hm'
    rcases hm' with hold | rfl
    · exact hkept.latest m' hold id hid
    · rw [hnone] at hid
      cases hid
  have hold : ∀ m' ∈ db.inspectionModules.rows, m' ∈ next.1.rows := by
    intro m' hm'
    rw [next.2]
    exact List.mem_append_left _ hm'
  refine ⟨⟨fun m' hm' => ⟨m', hold m' hm', rfl, Nat.le_refl _, id⟩, hlatest⟩, hlatest,
    fun s hs => ?_⟩
  obtain ⟨owner, howner, hsame⟩ := hkept.owned s hs
  exact ⟨owner, hold owner howner, hsame⟩

/-- What the command leaves: one snapshot more, of the next version, which its module names. -/
structure Drafted (db db' : ModuleTables) (module : InspectionModule) (s : ModuleSnapshot) :
    Prop where
  found : module ∈ db.inspectionModules.rows
  owner : s.moduleId = module.id
  version : s.snapshotVersion = Sql.maxOf ((db.moduleSnapshots.rows.filter fun t =>
    t.moduleId = s.moduleId).map ModuleSnapshot.snapshotVersion) + 1
  snapshots : db'.moduleSnapshots.rows = db.moduleSnapshots.rows ++ [s]
  modules : db'.inspectionModules.rows = db.inspectionModules.rows.map
    (ModuleTables.updated module.id module.organizationId (reviewing module s.id))

theorem createSnapshot_drafted {actorId snapshotId id : Uuid} {c : CreateModuleSnapshot}
    {q : SnapshotRequest} (h : createSnapshot sha256 actorId snapshotId c q db = .ok (id, db')) :
    ∃ module s, Drafted db.toModuleTables db'.toModuleTables module s := by
  unfold createSnapshot at h
  split at h
  · next module hmodule =>
      obtain ⟨hmem, hid, horganization⟩ := ModuleTables.module?_some hmodule
      obtain ⟨-, h⟩ := Sql.check_ok h
      obtain ⟨-, h⟩ := Sql.check_ok h
      obtain ⟨-, h⟩ := Sql.check_ok h
      obtain ⟨-, h⟩ := Sql.check_ok h
      obtain ⟨credential, -, h⟩ := Sql.bind_ok h
      obtain ⟨requirement, -, h⟩ := Sql.bind_ok h
      obtain ⟨template, -, h⟩ := Sql.bind_ok h
      obtain ⟨inserted, hinserted, h⟩ := Sql.bind_ok h
      obtain ⟨selected, hselected, h⟩ := Sql.bind_ok h
      obtain ⟨attached, hattached, h⟩ := Sql.bind_ok h
      obtain ⟨tables, htables, h⟩ := Sql.bind_ok h
      obtain ⟨receipts, -, hdone⟩ := Sql.bind_ok h
      cases hdone
      have hattachments : attached.toModuleTables = inserted :=
        (Sql.foldlM_keeps (fun _ _ _ => selectArtifact_tables) hattached).trans
          (Sql.foldlM_keeps (fun _ _ _ => selectFinding_tables) hselected)
      rw [hattachments] at htables
      obtain ⟨hrows, hrest⟩ := ModuleTables.insertSnapshot_ok hinserted
      obtain ⟨⟨⟩, -, hset⟩ := Sql.bind_ok htables
      cases hset
      have hinspectionModules : inserted.inspectionModules = db.inspectionModules := by rw [hrest]
      refine ⟨module, _, hmem, hid.symm, rfl, hrows, ?_⟩
      rw [hid, horganization, ← hinspectionModules]
      rfl
  · cases h

theorem Drafted.forward {db db' : ModuleTables} {module : InspectionModule} {s : ModuleSnapshot}
    (hkept : Kept db) (h : Drafted db db' module s) : Forward db db' ∧ Kept db' := by
  -- the module has the snapshot for its latest, the others have theirs
  have hnew : Latest db'.moduleSnapshots.rows module.id s.id := by
    rw [h.snapshots]
    refine ⟨s, List.mem_append_right _ (List.mem_singleton_self s), rfl, h.owner,
      fun t ht hmodule => ?_⟩
    rcases List.mem_append.mp ht with hold | hlast
    · rw [h.version]
      have hmem : t ∈ db.moduleSnapshots.rows.filter fun t => t.moduleId = s.moduleId :=
        List.mem_filter.mpr ⟨hold, decide_eq_true (hmodule.trans h.owner.symm)⟩
      exact Nat.le_succ_of_le
        (Sql.le_maxOf (List.mem_map_of_mem (f := ModuleSnapshot.snapshotVersion) hmem))
    · rw [List.mem_singleton.mp hlast]
  have hother : ∀ m : InspectionModule, m.id ≠ module.id → ∀ id,
      Latest db.moduleSnapshots.rows m.id id → Latest db'.moduleSnapshots.rows m.id id := by
    rintro m hne id ⟨t, ht, hid, hmodule, htop⟩
    rw [h.snapshots]
    refine ⟨t, List.mem_append_left _ ht, hid, hmodule, fun u hu hmodule' => ?_⟩
    rcases List.mem_append.mp hu with hold | hlast
    · exact htop u hold hmodule'
    · rw [List.mem_singleton.mp hlast, h.owner] at hmodule'
      exact absurd hmodule'.symm hne
  have hrow : ∀ m ∈ db.inspectionModules.rows,
      (m.id ≠ module.id ∧
        ModuleTables.updated module.id module.organizationId (reviewing module s.id) m = m) ∨
      (m = module ∧ (ModuleTables.updated module.id module.organizationId
          (reviewing module s.id) m).currentSnapshotId = some s.id ∧
        (ModuleTables.updated module.id module.organizationId
          (reviewing module s.id) m).revision = module.revision + 1) := by
    intro m hm
    by_cases hid : m.id = module.id
    · obtain rfl := module_eq_of_id hm h.found hid
      refine .inr ⟨rfl, ?_⟩
      simp [ModuleTables.updated, reviewing]
    · exact .inl ⟨hid, if_neg fun hkey => hid hkey.1⟩
  have hlatest : AllLatest db' := by
    intro m' hm' id hid
    rw [h.modules] at hm'
    obtain ⟨m, hm, rfl⟩ := List.mem_map.mp hm'
    rw [ModuleTables.updated_id]
    rcases hrow m hm with ⟨hne, hsame⟩ | ⟨rfl, hpointer, -⟩
    · rw [hsame] at hid
      exact hother m hne id (hkept.latest m hm id hid)
    · rw [hpointer] at hid
      cases hid
      exact hnew
  have hmodules : ∀ m ∈ db.inspectionModules.rows, ∃ m' ∈ db'.inspectionModules.rows,
      m'.id = m.id ∧ m.revision ≤ m'.revision ∧
        (m.currentSnapshotId ≠ none → m'.currentSnapshotId ≠ none) := by
    intro m hm
    refine ⟨_, h.modules ▸ List.mem_map_of_mem hm, ModuleTables.updated_id .., ?_⟩
    rcases hrow m hm with ⟨-, hsame⟩ | ⟨rfl, hpointer, hrevision⟩
    · rw [hsame]
      exact ⟨Nat.le_refl _, id⟩
    · rw [hpointer, hrevision]
      exact ⟨Nat.le_succ _, fun _ => Option.some_ne_none _⟩
  refine ⟨⟨hmodules, hlatest⟩, hlatest, fun t ht => ?_⟩
  have howner : ∃ m ∈ db.inspectionModules.rows, m.id = t.moduleId := by
    rw [h.snapshots] at ht
    rcases List.mem_append.mp ht with hold | hlast
    · exact hkept.owned t hold
    · rw [List.mem_singleton.mp hlast]
      exact ⟨module, h.found, h.owner.symm⟩
  obtain ⟨m, hm, hsame⟩ := howner
  obtain ⟨m', hm', hid, -⟩ := hmodules m hm
  exact ⟨m', hm', hid.trans hsame⟩

/-- The command adds the latest snapshot of its module, or answers an earlier request again. -/
theorem commandCreateModuleSnapshot_forward {actorId? : Option Uuid} {snapshotId id : Uuid}
    {c : CreateModuleSnapshot} (hkept : Kept db.toModuleTables)
    (h : commandCreateModuleSnapshot columnSize sha256 actorId? snapshotId c db = .ok (id, db')) :
    Forward db.toModuleTables db'.toModuleTables ∧ Kept db'.toModuleTables := by
  unfold commandCreateModuleSnapshot at h
  split at h
  · obtain ⟨-, h⟩ := Sql.check_ok h
    obtain ⟨q, -, h⟩ := Sql.bind_ok h
    split at h
    · obtain ⟨-, hdone⟩ := Sql.check_ok h
      cases hdone
      exact ⟨.of_same hkept.latest rfl rfl, hkept⟩
    · obtain ⟨module, s, hdrafted⟩ := createSnapshot_drafted h
      exact hdrafted.forward hkept
  · cases h

/-! ## What the policy leaves -/

variable {actorId : Option Uuid} {m m' : InspectionModule}

theorem Admits.replaced (h : Admits db actorId m m') :
    ∃ next : { t : Sql.Table InspectionModule InspectionModule.clash // t.rows = db.rowsWith m m' },
      Sql.Table.replace "inspection_modules" (db.rowsWith m m') = .ok next :=
  ⟨⟨⟨db.rowsWith m m', h.distinct⟩, rfl⟩, dif_pos h.distinct⟩

/-- The policy asks of the new row that a module of its key and tenant is there, and the key is
the row's own: neither changes. -/
theorem Admits.same_key (hm : m ∈ db.inspectionModules.rows) (h : Admits db actorId m m') :
    m'.id = m.id ∧ m'.organizationId = m.organizationId := by
  obtain ⟨⟨⟩, -, hchecked⟩ := Sql.bind_ok h.checked
  obtain ⟨hpolicy, -⟩ := Sql.check_ok hchecked
  have hassigned : db.policyAllows actorId m' = true := not_not.mp hpolicy
  obtain ⟨row, hrow, hassigned⟩ := List.any_eq_true.mp hassigned
  obtain ⟨member, -, hassigned⟩ := List.any_eq_true.mp hassigned
  obtain ⟨-, -, horganization, hid, -⟩ := of_decide_eq_true hassigned
  by_cases hsame : row.id = m.id
  · obtain rfl := module_eq_of_id hrow hm hsame
    exact ⟨hid.symm, horganization.symm⟩
  · -- another module of the new key would stand beside the row
    have hids : (db.inspectionModules.rows.map fun row =>
        (if row.id = m.id then m' else row).id).Nodup := by
      have hmapped : (db.rowsWith m m').Pairwise fun a b => a.id ≠ b.id :=
        h.distinct.imp fun hclash heq => hclash (.inl heq)
      unfold rowsWith at hmapped
      rw [List.pairwise_map] at hmapped
      exact List.pairwise_map.mpr hmapped
    have heq := List.inj_on_of_nodup_map hids hrow hm
      (by rw [if_neg hsame, if_pos rfl]; exact hid)
    exact absurd (congrArg InspectionModule.id heq) hsame

/-- A direct update leaves the store as it is, or sets one row that is admitted. -/
theorem directUpdate_cases {id : Uuid} {f : InspectionModule → InspectionModule}
    (h : db.directUpdate actorId id f = .ok db') :
    db' = db ∨ ∃ m, (db.inspectionModules.rows.find? fun m => m.id = id) = some m ∧
      Admits db actorId m (f m) ∧ db'.inspectionModules.rows = db.rowsWith m (f m) ∧
        db'.moduleSnapshots = db.moduleSnapshots := by
  unfold directUpdate at h
  split at h
  · cases h
    exact .inl rfl
  · next m hfind =>
      split at h
      · next hvisible =>
          obtain ⟨⟨⟩, hchecked, h⟩ := Sql.bind_ok h
          obtain ⟨next, hreplace, hdone⟩ := Sql.bind_ok h
          cases hdone
          have hdistinct := next.1.distinct
          rw [next.2] at hdistinct
          exact .inr ⟨m, hfind, ⟨hvisible, hchecked, hdistinct⟩, next.2, rfl⟩
      · cases h
        exact .inl rfl

/-- An admitted update is carried out. -/
theorem directUpdate_of_admits {id : Uuid} {f : InspectionModule → InspectionModule}
    {m : InspectionModule} (hfind : (db.inspectionModules.rows.find? fun m => m.id = id) = some m)
    (h : Admits db actorId m (f m)) : ∃ db', db.directUpdate actorId id f = .ok db' ∧
      db'.inspectionModules.rows = db.rowsWith m (f m) ∧
        db'.moduleSnapshots = db.moduleSnapshots := by
  obtain ⟨next, hreplace⟩ := h.replaced
  unfold directUpdate
  rw [hfind]
  dsimp only
  rw [if_pos h.visible, Sql.bind_of h.checked, Sql.bind_of hreplace]
  exact ⟨_, rfl, next.2, rfl⟩

/-- The tables with an admitted row are ahead of those before exactly if the row does not
retreat. -/
theorem Admits.forward_iff (hm : m ∈ db.inspectionModules.rows) (h : Admits db actorId m m')
    (hkept : Kept db.toModuleTables) (hmodules : db'.inspectionModules.rows = db.rowsWith m m')
    (hsnapshots : db'.moduleSnapshots = db.moduleSnapshots) :
    Forward db.toModuleTables db'.toModuleTables ↔ ¬ Retreats db.toModuleTables m m' := by
  obtain ⟨hid, -⟩ := h.same_key hm
  have hset : m' ∈ db'.inspectionModules.rows := by
    rw [hmodules, rowsWith]
    exact List.mem_map.mpr ⟨m, hm, if_pos rfl⟩
  constructor
  · intro hforward hretreats
    obtain ⟨after, hafter, hsame, hrevision, hpointer⟩ := hforward.modules m hm
    obtain rfl := module_eq_of_id hafter hset (hsame.trans hid.symm)
    rcases hretreats with hlower | ⟨hsome, hnone⟩ | ⟨snapshot, hpoints, hlatest⟩
    · omega
    · exact hpointer hsome hnone
    · have hnow := hforward.latest after hafter snapshot hpoints
      rw [hid, hsnapshots] at hnow
      exact hlatest hnow
  · intro hretreats
    simp only [Retreats, not_or, not_lt, not_and, not_exists, not_not] at hretreats
    obtain ⟨hrevision, hpointer, hlatest⟩ := hretreats
    constructor
    · intro row hrow
      by_cases hsame : row.id = m.id
      · obtain rfl := module_eq_of_id hrow hm hsame
        exact ⟨m', hset, hid, hrevision, hpointer⟩
      · refine ⟨row, ?_, rfl, Nat.le_refl _, fun hsome => hsome⟩
        rw [hmodules, rowsWith]
        exact List.mem_map.mpr ⟨row, hrow, if_neg hsame⟩
    · intro row hrow snapshot hpoints
      rw [hsnapshots]
      rw [hmodules, rowsWith] at hrow
      obtain ⟨before, hbefore, rfl⟩ := List.mem_map.mp hrow
      split at hpoints <;> rename_i hsame
      · rw [if_pos hsame, hid]
        exact hlatest snapshot hpoints
      · rw [if_neg hsame]
        exact hkept.latest before hbefore snapshot hpoints

/-- A step moves the modules forward exactly if it is no update that retreats. -/
theorem forward_iff (hkept : Kept db.toModuleTables) (step : PointerStep) :
    Forward db.toModuleTables (db.performPointer columnSize sha256 step).toModuleTables ↔
      ¬ Backward db step := by
  have hsame : Forward db.toModuleTables db.toModuleTables := .of_same hkept.latest rfl rfl
  cases step with
  | commission m =>
      refine iff_of_true ?_ id
      unfold performPointer
      split
      · next db' h =>
          obtain ⟨tables, htables, rfl⟩ := Sql.map_ok h
          exact (insertModule_forward hkept htables).1
      · exact hsame
  | createSnapshot actorId snapshotId c =>
      refine iff_of_true ?_ id
      unfold performPointer
      split
      · next db' h =>
          obtain ⟨⟨id, db'⟩, hcommand, rfl⟩ := Sql.map_ok h
          exact (commandCreateModuleSnapshot_forward hkept hcommand).1
      · exact hsame
  | direct actorId id f =>
      constructor
      · rintro hforward ⟨m, hfind, hadmits, hretreats⟩
        obtain ⟨db', hdone, hmodules, hsnapshots⟩ := directUpdate_of_admits hfind hadmits
        have hperform : performPointer columnSize sha256 db (.direct actorId id f) = db' :=
          performPointer_of hdone
        rw [hperform] at hforward
        exact (hadmits.forward_iff (List.mem_of_find?_eq_some hfind) hkept hmodules
          hsnapshots).mp hforward hretreats
      · intro hnot
        unfold performPointer
        split
        · next db' h =>
            rcases directUpdate_cases h with rfl | ⟨m, hfind, hadmits, hmodules, hsnapshots⟩
            · exact hsame
            · exact (hadmits.forward_iff (List.mem_of_find?_eq_some hfind) hkept hmodules
                hsnapshots).mpr fun hretreats => hnot ⟨m, hfind, hadmits, hretreats⟩
        · exact hsame
  | other tables => exact iff_of_true (.of_same hkept.latest rfl rfl) id

/-- A step that is no such update keeps the invariant. -/
theorem Kept.step (hkept : Kept db.toModuleTables) {step : PointerStep}
    (hnot : ¬ Backward db step) :
    Kept (db.performPointer columnSize sha256 step).toModuleTables := by
  refine ⟨((forward_iff hkept step).mpr hnot).latest, ?_⟩
  cases step with
  | commission m =>
      unfold performPointer
      split
      · next db' h =>
          obtain ⟨tables, htables, rfl⟩ := Sql.map_ok h
          exact (insertModule_forward hkept htables).2.owned
      · exact hkept.owned
  | createSnapshot actorId snapshotId c =>
      unfold performPointer
      split
      · next db' h =>
          obtain ⟨⟨id, db'⟩, hcommand, rfl⟩ := Sql.map_ok h
          exact (commandCreateModuleSnapshot_forward hkept hcommand).2.owned
      · exact hkept.owned
  | direct actorId id f =>
      unfold performPointer
      split
      · next db' h =>
          rcases directUpdate_cases h with rfl | ⟨m, hfind, hadmits, hmodules, hsnapshots⟩
          · exact hkept.owned
          · have hm := List.mem_of_find?_eq_some hfind
            intro s hs
            rw [hsnapshots] at hs
            obtain ⟨owner, howner, howns⟩ := hkept.owned s hs
            by_cases hsame : owner.id = m.id
            · refine ⟨f m, ?_, (hadmits.same_key hm).1.trans (hsame.symm.trans howns)⟩
              rw [hmodules]
              exact List.mem_map.mpr ⟨m, hm, if_pos rfl⟩
            · refine ⟨owner, ?_, howns⟩
              rw [hmodules]
              exact List.mem_map.mpr ⟨owner, howner, if_neg hsame⟩
      · exact hkept.owned
  | other tables => exact hkept.owned

/-- **Forward.** Every step of a run moves the modules forward exactly if none of them is a direct
update that retreats. -/
theorem module_pointers_forward (columnSize : JsVal → Nat) (sha256 : String → String)
    (l : List PointerStep) :
    (∀ before step after, l = before ++ step :: after →
      Forward (before.foldl (performPointer columnSize sha256) empty).toModuleTables
        (performPointer columnSize sha256
          (before.foldl (performPointer columnSize sha256) empty) step).toModuleTables) ↔
      ∀ before step after, l = before ++ step :: after →
        ¬ Backward (before.foldl (performPointer columnSize sha256) empty) step :=
  TSys.along_iff (performPointer columnSize sha256) (fun db => Kept db.toModuleTables)
    (fun db step => Forward db.toModuleTables
      (db.performPointer columnSize sha256 step).toModuleTables)
    (fun db step => ¬ Backward db step) (fun _ _ hkept hnot => hkept.step hnot)
    (fun _ step hkept => forward_iff hkept step) Kept.empty l

/-! ## A revision set back -/

namespace SetBack

open Withdrawn (tenant job inspector building commissioned)

/-- The module as the inspector sets its revision. -/
def setRevision (revision : Nat) (m : InspectionModule) : InspectionModule :=
  { m with revision := revision }

/-- The job and its inspector are there; the module is commissioned, and at revision one. -/
def steps : List PointerStep :=
  [.other { empty with
      jobs := Sql.Table.empty.snoc ⟨job, tenant, 0⟩ (by simp)
      context := Withdrawn.context },
    .commission commissioned, .direct (some inspector) building (setRevision 1)]

/-- The store before and after the inspector sets the revision to nought. -/
def before : ModuleStore := steps.foldl (performPointer (fun _ => 0) id) empty

def after : ModuleStore :=
  before.performPointer (fun _ => 0) id (.direct (some inspector) building (setRevision 0))

theorem revisions : before.inspectionModules.rows.map InspectionModule.revision = [1] ∧
    after.inspectionModules.rows.map InspectionModule.revision = [0] := by
  decide +kernel

/-- The steps of a run do not all move the modules forward: the inspector sets a revision back. -/
theorem revision_set_back : ¬ ∀ (columnSize : JsVal → Nat) (sha256 : String → String)
    (l before : List PointerStep) (step : PointerStep) (after : List PointerStep),
    l = before ++ step :: after →
      Forward (before.foldl (performPointer columnSize sha256) empty).toModuleTables
        (performPointer columnSize sha256
          (before.foldl (performPointer columnSize sha256) empty) step).toModuleTables := by
  intro hall
  have hforward : Forward before.toModuleTables after.toModuleTables :=
    hall (fun _ => 0) id _ steps _ [] rfl
  have hone : 1 ∈ before.inspectionModules.rows.map InspectionModule.revision := by
    rw [revisions.1]
    exact List.mem_singleton_self 1
  obtain ⟨m, hm, hrevision⟩ := List.mem_map.mp hone
  obtain ⟨m', hm', -, hle, -⟩ := hforward.modules m hm
  have hzero : m'.revision ∈ after.inspectionModules.rows.map InspectionModule.revision :=
    List.mem_map_of_mem hm'
  rw [revisions.2, List.mem_singleton] at hzero
  omega

end SetBack

end ModuleStore

end Database

end InspectionHub
