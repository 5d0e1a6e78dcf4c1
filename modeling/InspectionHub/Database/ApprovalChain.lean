import InspectionHub.Database.ModuleApprovals
import InspectionHub.Lib.Digest

/-!
# From a snapshot to its reports

What the accepted steps do to the tables of modules (`Change`), and the chain
they keep (`Chain`): an approval binds a snapshot of its module, a withdrawal
its approval, and the reports of a module are numbered, each superseding the
one before. No constraint ties a report to the snapshot's own module; the
pointers of the module do (`Chain.pointed`).
-/

namespace InspectionHub.Database

open Domain (ModuleType)

variable {r : ReportVersion} {m : InspectionModule}

namespace ModuleTables

variable {db db' : ModuleTables}

/-! ## What is accepted -/

/-- The current snapshot of the module is one of its own. -/
def Pointed (snapshots : List ModuleSnapshot) (m : InspectionModule) : Prop :=
  ∀ id, m.currentSnapshotId = some id → ∃ s ∈ snapshots, s.id = id ∧ s.moduleId = m.id

variable {u : Unit}

theorem pointers_ok (h : db.validateModuleCurrentPointers m = .ok u) :
    Pointed db.moduleSnapshots.rows m := by
  intro id hid
  obtain ⟨hsnapshot, -⟩ := Sql.check_ok h
  rw [hid] at hsnapshot
  obtain ⟨s, hs, hkeys⟩ : ∃ s ∈ db.moduleSnapshots.rows, s.id = id ∧
      s.organizationId = m.organizationId ∧ s.moduleId = m.id ∧ s.moduleType = m.moduleType := by
    simpa using hsnapshot
  exact ⟨s, hs, hkeys.1, hkeys.2.2.1⟩

/-- The snapshot of the approval's module has its hash. -/
def Binds (db : ModuleTables) (a : ModuleApproval) : Prop :=
  ∃ s ∈ db.moduleSnapshots.rows, s.id = a.snapshotId ∧ s.moduleId = a.moduleId ∧
    s.canonicalSha256 = a.snapshotSha256

/-- The withdrawal names an approval of its module and snapshot. -/
def Withdraws (db : ModuleTables) (w : ModuleWithdrawal) : Prop :=
  ∃ a ∈ db.moduleApprovals.rows, a.id = w.approvalId ∧ a.moduleId = w.moduleId ∧
    a.snapshotId = w.snapshotId

/-- An approval of the report's snapshot for its module, not withdrawn. -/
def Cleared (db : ModuleTables) (r : ReportVersion) : Prop :=
  ∃ a ∈ db.moduleApprovals.rows, a.moduleId = r.moduleId ∧ a.snapshotId = r.moduleSnapshotId ∧
    ¬ db.withdrawn a.id

/-- A first report, or one that supersedes the version before it. -/
def Supersedes (db : ModuleTables) (r : ReportVersion) : Prop :=
  (r.supersedesReportVersionId = none ∧ r.reportVersion = 1) ∨
    ∃ prior ∈ db.reportVersions.rows, r.supersedesReportVersionId = some prior.id ∧
      prior.moduleId = r.moduleId ∧ r.reportVersion = prior.reportVersion + 1

variable {id organizationId : Uuid}

theorem module?_some (h : db.module? id organizationId = some m) :
    m ∈ db.inspectionModules.rows ∧ m.id = id ∧ m.organizationId = organizationId := by
  have hkey := List.find?_some h
  obtain ⟨hid, horg⟩ := of_decide_eq_true hkey
  exact ⟨List.mem_of_find?_eq_some h, hid, horg⟩

theorem validateApproval_ok {a : ModuleApproval} (h : db.validateApproval a = .ok u) :
    db.Binds a := by
  unfold validateApproval at h
  split at h
  · cases h
  · next s hfind =>
      obtain ⟨hbound, -⟩ := Sql.check_ok h
      simp only [not_or, ne_eq, not_not] at hbound
      have hkey := List.find?_some hfind
      have hid : s.id = a.snapshotId := (of_decide_eq_true hkey).1
      exact ⟨s, List.mem_of_find?_eq_some hfind, hid, hbound.1, hbound.2.2⟩

theorem validateReportVersion_ok (h : db.validateReportVersion r = .ok u)
    (hchecked : reportChecked r = true) :
    (∃ m ∈ db.inspectionModules.rows, m.id = r.moduleId ∧
        m.currentSnapshotId = some r.moduleSnapshotId) ∧
      db.Cleared r ∧ db.Supersedes r := by
  unfold validateReportVersion at h
  split at h
  case h_2 => cases h
  next m hm =>
  obtain ⟨hcurrent, h⟩ := Sql.check_ok h
  simp only [not_or, ne_eq, not_not] at hcurrent
  obtain ⟨hmem, hid, -⟩ := module?_some hm
  obtain ⟨hcleared, h⟩ := Sql.check_ok h
  rw [not_not] at hcleared
  refine ⟨⟨m, hmem, hid, hcurrent.2.2.1⟩, hcleared, ?_⟩
  simp only [reportChecked, Bool.and_eq_true, Bool.or_eq_true, decide_eq_true_eq] at hchecked
  split at h
  · next hnone =>
      refine .inl ⟨hnone, ?_⟩
      rcases hchecked.2 with hfirst | hlater
      · exact hfirst.1.1.2
      · have hsome := hlater.1.1.1
        rw [hnone] at hsome
        cases hsome
  · next id hsome =>
      right
      split at h
      · cases h
      · next prior hfind =>
          have hprior := Sql.raiseIf_ok h
          simp only [not_or, ne_eq, not_not] at hprior
          have hkey := List.find?_some hfind
          have hprior' : prior.id = id := (of_decide_eq_true hkey).1
          refine ⟨prior, List.mem_of_find?_eq_some hfind, ?_, hprior.1, by omega⟩
          rw [hsome, hprior']

/-! ## What a step may do -/

/-- What one accepted step does to the tables of modules. -/
inductive Change (db db' : ModuleTables) : Prop
  /-- Snapshots are added, and modules point at the snapshots there are. -/
  | drafted (new : List ModuleSnapshot)
      (snapshots : db'.moduleSnapshots.rows = db.moduleSnapshots.rows ++ new)
      (modules : ∀ m ∈ db'.inspectionModules.rows,
        m ∈ db.inspectionModules.rows ∨ Pointed db'.moduleSnapshots.rows m)
      (rest : db'.moduleApprovals = db.moduleApprovals ∧
        db'.moduleWithdrawals = db.moduleWithdrawals ∧ db'.reportVersions = db.reportVersions)
  | approved (a : ModuleApproval) (binds : db.Binds a)
      (rows : db'.moduleApprovals.rows = db.moduleApprovals.rows ++ [a])
      (rest : db' = { db with moduleApprovals := db'.moduleApprovals })
  | withdrew (w : ModuleWithdrawal) (withdraws : db.Withdraws w)
      (rows : db'.moduleWithdrawals.rows = db.moduleWithdrawals.rows ++ [w])
      (rest : db' = { db with moduleWithdrawals := db'.moduleWithdrawals })
  | reported (r : ReportVersion)
      (current : ∃ m ∈ db.inspectionModules.rows, m.id = r.moduleId ∧
        m.currentSnapshotId = some r.moduleSnapshotId)
      (cleared : db.Cleared r) (supersedes : db.Supersedes r)
      (rows : db'.reportVersions.rows = db.reportVersions.rows ++ [r])
      (rest : db' = { db with reportVersions := db'.reportVersions })

theorem Change.same (db : ModuleTables) : Change db db :=
  .drafted [] (List.append_nil _).symm (fun _ hm => .inl hm) ⟨rfl, rfl, rfl⟩

theorem insertJob_change {j : Job} (h : db.insertJob j = .ok db') : Change db db' := by
  obtain ⟨next, -, hdone⟩ := Sql.bind_ok h
  cases hdone
  exact .drafted [] (List.append_nil _).symm (fun _ hm => .inl hm) ⟨rfl, rfl, rfl⟩

theorem insertModule_change (h : db.insertModule m = .ok db') : Change db db' := by
  obtain ⟨_, hpointed, h⟩ := Sql.bind_ok h
  obtain ⟨next, -, h⟩ := Sql.bind_ok h
  obtain ⟨-, hdone⟩ := Sql.check_ok h
  cases hdone
  refine .drafted [] (List.append_nil _).symm (fun m' hm' => ?_) ⟨rfl, rfl, rfl⟩
  change m' ∈ next.1.rows at hm'
  rw [next.2, List.mem_append, List.mem_singleton] at hm'
  rcases hm' with hold | rfl
  · exact .inl hold
  · exact .inr (pointers_ok hpointed)

/-- After an update every row is an old one or points at a snapshot of its own. -/
theorem updateModule_ok {f : InspectionModule → ModuleColumns}
    (h : db.updateModule id organizationId f = .ok db') :
    (∀ m ∈ db'.inspectionModules.rows,
      m ∈ db.inspectionModules.rows ∨ Pointed db.moduleSnapshots.rows m) ∧
      db' = { db with inspectionModules := db'.inspectionModules } := by
  obtain ⟨⟨⟩, hvalid, hdone⟩ := Sql.bind_ok h
  cases hdone
  refine ⟨fun m' hm' => ?_, rfl⟩
  obtain ⟨m, hm, rfl⟩ := List.mem_map.mp hm'
  by_cases hkey : m.id = id ∧ m.organizationId = organizationId
  · right
    exact pointers_ok (Sql.forM_ok hvalid m (List.mem_filter.mpr ⟨hm, decide_eq_true hkey⟩))
  · left
    rw [updated, if_neg hkey]
    exact hm

theorem updateModule_change {f : InspectionModule → ModuleColumns}
    (h : db.updateModule id organizationId f = .ok db') : Change db db' := by
  obtain ⟨hmodules, hrest⟩ := updateModule_ok h
  rw [hrest] at hmodules ⊢
  exact .drafted [] (List.append_nil _).symm hmodules ⟨rfl, rfl, rfl⟩

theorem insertReportVersion_change (h : db.insertReportVersion r = .ok db') : Change db db' := by
  obtain ⟨_, hvalid, h⟩ := Sql.bind_ok h
  obtain ⟨hchecked, h⟩ := Sql.check_ok h
  rw [not_not] at hchecked
  obtain ⟨next, -, h⟩ := Sql.bind_ok h
  obtain ⟨-, hdone⟩ := Sql.check_ok h
  cases hdone
  obtain ⟨hcurrent, hcleared, hsupersedes⟩ := validateReportVersion_ok hvalid hchecked
  exact .reported r hcurrent hcleared hsupersedes next.2 rfl

theorem insertSnapshot_ok {s : ModuleSnapshot} (h : db.insertSnapshot s = .ok db') :
    db'.moduleSnapshots.rows = db.moduleSnapshots.rows ++ [s] ∧
      db' = { db with moduleSnapshots := db'.moduleSnapshots } := by
  obtain ⟨_, -, h⟩ := Sql.bind_ok h
  obtain ⟨-, h⟩ := Sql.check_ok h
  obtain ⟨next, -, h⟩ := Sql.bind_ok h
  obtain ⟨-, hdone⟩ := Sql.check_ok h
  cases hdone
  exact ⟨next.2, rfl⟩

end ModuleTables

namespace ModuleStore

open ModuleTables (Change)

variable {columnSize : JsVal → Nat} {sha256 : String → String} {db db' : ModuleStore}

/-! ## The commands -/

theorem selectFinding_tables {organizationId moduleId snapshotId : Uuid} {item : Uuid × Nat}
    (h : selectFinding organizationId moduleId snapshotId db item = .ok db') :
    db'.toModuleTables = db.toModuleTables := by
  obtain ⟨-, h⟩ := Sql.check_ok h
  obtain ⟨-, h⟩ := Sql.check_ok h
  obtain ⟨next, -, hdone⟩ := Sql.bind_ok h
  cases hdone
  rfl

theorem selectArtifact_tables {organizationId jobId snapshotId : Uuid} {item : JsVal}
    (h : selectArtifact organizationId jobId snapshotId db item = .ok db') :
    db'.toModuleTables = db.toModuleTables := by
  unfold selectArtifact at h
  split at h
  · obtain ⟨-, h⟩ := Sql.check_ok h
    obtain ⟨artifact?, -, h⟩ := Sql.bind_ok h
    obtain ⟨-, h⟩ := Sql.check_ok h
    obtain ⟨artifactId, -, h⟩ := Sql.bind_ok h
    obtain ⟨sha, -, h⟩ := Sql.bind_ok h
    obtain ⟨role, -, h⟩ := Sql.bind_ok h
    obtain ⟨-, h⟩ := Sql.check_ok h
    obtain ⟨next, -, hdone⟩ := Sql.bind_ok h
    cases hdone
    rfl
  · cases h

theorem createSnapshot_change {actorId snapshotId id : Uuid} {c : CreateModuleSnapshot}
    {q : SnapshotRequest} (h : createSnapshot sha256 actorId snapshotId c q db = .ok (id, db')) :
    Change db.toModuleTables db'.toModuleTables := by
  unfold createSnapshot at h
  split at h
  · next module hmodule =>
      obtain ⟨-, h⟩ := Sql.check_ok h
      obtain ⟨-, h⟩ := Sql.check_ok h
      obtain ⟨-, h⟩ := Sql.check_ok h
      obtain ⟨-, h⟩ := Sql.check_ok h
      obtain ⟨credential, -, h⟩ := Sql.bind_ok h
      obtain ⟨requirement, -, h⟩ := Sql.bind_ok h
      obtain ⟨template, -, h⟩ := Sql.bind_ok h
      obtain ⟨inserted, hinserted, h⟩ := Sql.bind_ok h
      obtain ⟨selected, hselected, h⟩ := Sql.bind_ok h
      obtain ⟨attached, hattached, h⟩ := Sql.bind_ok h
      obtain ⟨tables, htables, h⟩ := Sql.bind_ok h
      obtain ⟨receipts, -, hdone⟩ := Sql.bind_ok h
      cases hdone
      have hkept : attached.toModuleTables = inserted :=
        (Sql.foldlM_keeps (fun _ _ _ => selectArtifact_tables) hattached).trans
          (Sql.foldlM_keeps (fun _ _ _ => selectFinding_tables) hselected)
      rw [hkept] at htables
      obtain ⟨hrows, hrest⟩ := ModuleTables.insertSnapshot_ok hinserted
      obtain ⟨hmodules, hmoved⟩ := ModuleTables.updateModule_ok htables
      change Change db.toModuleTables tables
      rw [hmoved] at hmodules ⊢
      rw [hrest] at hmodules ⊢
      exact .drafted _ hrows hmodules ⟨rfl, rfl, rfl⟩
  · cases h

theorem commandCreateModuleSnapshot_change {actorId? : Option Uuid} {snapshotId id : Uuid}
    {c : CreateModuleSnapshot}
    (h : commandCreateModuleSnapshot columnSize sha256 actorId? snapshotId c db = .ok (id, db')) :
    Change db.toModuleTables db'.toModuleTables := by
  unfold commandCreateModuleSnapshot at h
  split at h
  · obtain ⟨-, h⟩ := Sql.check_ok h
    obtain ⟨q, -, h⟩ := Sql.bind_ok h
    split at h
    · obtain ⟨-, hdone⟩ := Sql.check_ok h
      cases hdone
      exact .same _
    · exact createSnapshot_change h
  · cases h

theorem insertApproval_ok {a : ModuleApproval} (h : db.insertApproval a = .ok db') :
    Change db.toModuleTables db'.toModuleTables := by
  obtain ⟨_, hvalid, h⟩ := Sql.bind_ok h
  obtain ⟨-, h⟩ := Sql.check_ok h
  obtain ⟨-, h⟩ := Sql.check_ok h
  obtain ⟨next, -, h⟩ := Sql.bind_ok h
  obtain ⟨-, hdone⟩ := Sql.check_ok h
  cases hdone
  exact .approved a (ModuleTables.validateApproval_ok hvalid) next.2 rfl

theorem commandApproveModule_change {r : Request} {c : ApproveModule} {answer : Option Uuid}
    (h : commandApproveModule sha256 r c db = .ok (answer, db')) :
    Change db.toModuleTables db'.toModuleTables := by
  obtain ⟨-, h⟩ := Sql.check_ok h
  obtain ⟨-, h⟩ := Sql.check_ok h
  rcases privileged_ok h with ⟨audit, -, rfl⟩ | rfl | hact
  · exact .same _
  · exact .same _
  · split at hact
    · obtain ⟨snapshotId, -, hact⟩ := Sql.bind_ok hact
      obtain ⟨sha, -, hact⟩ := Sql.bind_ok hact
      obtain ⟨expected, -, hact⟩ := Sql.bind_ok hact
      obtain ⟨actorId, -, hact⟩ := Sql.bind_ok hact
      obtain ⟨-, hact⟩ := Sql.check_ok hact
      obtain ⟨inserted, hinserted, hact⟩ := Sql.bind_ok hact
      obtain ⟨audit, -, hdone⟩ := Sql.bind_ok hact
      cases hdone
      have hchange := insertApproval_ok hinserted
      exact hchange
    · cases hact

theorem insertWithdrawal_ok {w : ModuleWithdrawal} (h : db.insertWithdrawal w = .ok db') :
    db'.moduleWithdrawals.rows = db.moduleWithdrawals.rows ++ [w] ∧
      db'.toModuleTables =
        { db.toModuleTables with moduleWithdrawals := db'.moduleWithdrawals } := by
  obtain ⟨-, h⟩ := Sql.check_ok h
  obtain ⟨next, -, h⟩ := Sql.bind_ok h
  obtain ⟨-, h⟩ := Sql.check_ok h
  obtain ⟨events, -, hdone⟩ := Sql.bind_ok h
  cases hdone
  exact ⟨next.2, rfl⟩

theorem commandWithdrawModule_change {r : Request} {c : WithdrawModule} {answer : Option Uuid}
    (h : commandWithdrawModule sha256 r c db = .ok (answer, db')) :
    Change db.toModuleTables db'.toModuleTables := by
  obtain ⟨-, h⟩ := Sql.check_ok h
  rcases privileged_ok h with ⟨audit, -, rfl⟩ | rfl | hact
  · exact .same _
  · exact .same _
  · split at hact
    · obtain ⟨audit, -, hdone⟩ := Sql.bind_ok hact
      cases hdone
      exact .same _
    · next module approval hbound =>
        obtain ⟨reason, -, hact⟩ := Sql.bind_ok hact
        obtain ⟨actorId, -, hact⟩ := Sql.bind_ok hact
        obtain ⟨inserted, hinserted, hact⟩ := Sql.bind_ok hact
        obtain ⟨audit, -, hdone⟩ := Sql.bind_ok hact
        cases hdone
        obtain ⟨hrows, hrest⟩ := insertWithdrawal_ok hinserted
        obtain ⟨-, happroval, hjoined⟩ := Sql.mem_join.mp (List.mem_of_find?_eq_some hbound)
        obtain ⟨-, hmodule, -⟩ := of_decide_eq_true hjoined
        have hkeys := List.find?_some hbound
        obtain ⟨hid, -⟩ := of_decide_eq_true hkeys
        exact .withdrew _ ⟨approval, happroval, rfl, hmodule.trans hid, rfl⟩ hrows hrest

theorem outcome_change {step : ModuleStep} (h : outcome columnSize sha256 db step = .ok db') :
    Change db.toModuleTables db'.toModuleTables := by
  cases step with
  | book j =>
      obtain ⟨tables, htables, rfl⟩ := Sql.map_ok h
      exact ModuleTables.insertJob_change htables
  | commission m =>
      obtain ⟨tables, htables, rfl⟩ := Sql.map_ok h
      exact ModuleTables.insertModule_change htables
  | createSnapshot actorId snapshotId c =>
      obtain ⟨⟨id, db''⟩, hcall, rfl⟩ := Sql.map_ok h
      exact commandCreateModuleSnapshot_change hcall
  | approve r c =>
      obtain ⟨⟨answer, db''⟩, hcall, rfl⟩ := Sql.map_ok h
      exact commandApproveModule_change hcall
  | withdraw r c =>
      obtain ⟨⟨answer, db''⟩, hcall, rfl⟩ := Sql.map_ok h
      exact commandWithdrawModule_change hcall
  | report r =>
      obtain ⟨tables, htables, rfl⟩ := Sql.map_ok h
      exact ModuleTables.insertReportVersion_change htables
  | update id organizationId f =>
      obtain ⟨tables, htables, rfl⟩ := Sql.map_ok h
      exact ModuleTables.updateModule_change htables
  | other context records =>
      cases h
      exact .same _

/-- A step that raised changes nothing. -/
theorem perform_change (columnSize : JsVal → Nat) (sha256 : String → String) (db : ModuleStore)
    (step : ModuleStep) :
    Change db.toModuleTables (db.perform columnSize sha256 step).toModuleTables := by
  unfold perform
  split
  · next db' h => exact outcome_change h
  · exact .same _

end ModuleStore

/-! ## The chain -/

namespace ModuleTables

variable {db db' : ModuleTables}

/-- The report versions of a module, in the order they were inserted. -/
def reportsOf (db : ModuleTables) (moduleId : Uuid) : List ReportVersion :=
  db.reportVersions.rows.filter fun r => r.moduleId = moduleId

theorem mem_reportsOf {moduleId : Uuid} :
    r ∈ db.reportsOf moduleId ↔ r ∈ db.reportVersions.rows ∧ r.moduleId = moduleId := by
  rw [reportsOf, List.mem_filter, decide_eq_true_iff]

/-- What every accepted step keeps. -/
structure Chain (db : ModuleTables) : Prop where
  pointed : ∀ m ∈ db.inspectionModules.rows, Pointed db.moduleSnapshots.rows m
  binds : ∀ a ∈ db.moduleApprovals.rows, db.Binds a
  withdraws : ∀ w ∈ db.moduleWithdrawals.rows, db.Withdraws w
  numbered : ∀ moduleId, Numbered ReportVersion.reportVersion (db.reportsOf moduleId)
  supersedes : ∀ r ∈ db.reportVersions.rows, db.Supersedes r

theorem Chain.empty : Chain ModuleTables.empty where
  pointed _ h := nomatch h
  binds _ h := nomatch h
  withdraws _ h := nomatch h
  numbered _ := Numbered.nil _
  supersedes _ h := nomatch h

theorem Pointed.mono {snapshots snapshots' : List ModuleSnapshot} (h : Pointed snapshots m)
    (hsub : ∀ s ∈ snapshots, s ∈ snapshots') : Pointed snapshots' m := by
  intro id hid
  obtain ⟨s, hs, hkeys⟩ := h id hid
  exact ⟨s, hsub s hs, hkeys⟩

/-- A snapshot has one row. -/
theorem snapshot_unique {s t : ModuleSnapshot} (hs : s ∈ db.moduleSnapshots.rows)
    (ht : t ∈ db.moduleSnapshots.rows) (h : s.id = t.id) : s = t :=
  db.moduleSnapshots.eq_of_key (f := ModuleSnapshot.id) (fun _ _ => .inl) hs ht h

/-- A module approves a snapshot once. -/
theorem approval_unique {a b : ModuleApproval} (ha : a ∈ db.moduleApprovals.rows)
    (hb : b ∈ db.moduleApprovals.rows) (hmodule : a.moduleId = b.moduleId)
    (hsnapshot : a.snapshotId = b.snapshotId) : a = b := by
  refine db.moduleApprovals.eq_of_key (f := fun a => (a.moduleId, a.snapshotId))
    (fun a b h => .inr ?_) ha hb (by rw [hmodule, hsnapshot])
  exact ⟨congrArg Prod.fst h, congrArg Prod.snd h⟩

/-- Whoever approves a snapshot, it is its own module. -/
theorem Chain.same_module (h : Chain db) {a b : ModuleApproval}
    (ha : a ∈ db.moduleApprovals.rows) (hb : b ∈ db.moduleApprovals.rows)
    (hsnapshot : a.snapshotId = b.snapshotId) : a = b := by
  obtain ⟨s, hs, hsid, hsmodule, -⟩ := h.binds a ha
  obtain ⟨t, ht, htid, htmodule, -⟩ := h.binds b hb
  have hst : s = t := snapshot_unique hs ht (by rw [hsid, htid, hsnapshot])
  refine approval_unique ha hb ?_ hsnapshot
  rw [← hsmodule, ← htmodule, hst]

/-- A report that supersedes the version before it, or is the first, has the
next number of its module. -/
theorem next_number (hnumbered : Numbered ReportVersion.reportVersion (db.reportsOf r.moduleId))
    (hsupersedes : db.Supersedes r) (hfresh : ∀ b ∈ db.reportVersions.rows, ¬ b.clash r) :
    r.reportVersion = (db.reportsOf r.moduleId).length + 1 := by
  -- the numbers in use are those from one to the number of reports
  have hused : ∀ k, k ∈ (db.reportsOf r.moduleId).map ReportVersion.reportVersion ↔
      1 ≤ k ∧ k < 1 + (db.reportsOf r.moduleId).length := by
    intro k
    rw [hnumbered]
    exact List.mem_range'_1
  have hunused : ¬ (1 ≤ r.reportVersion ∧
      r.reportVersion < 1 + (db.reportsOf r.moduleId).length) := by
    rw [← hused, List.mem_map]
    rintro ⟨b, hb, hversion⟩
    obtain ⟨hmem, hmodule⟩ := mem_reportsOf.mp hb
    exact hfresh b hmem (.inr ⟨hmodule, hversion⟩)
  rcases hsupersedes with ⟨-, hfirst⟩ | ⟨prior, hprior, -, hmodule, hnext⟩
  · omega
  · have hmem := List.mem_map_of_mem (f := ReportVersion.reportVersion)
      (mem_reportsOf.mpr ⟨hprior, hmodule⟩)
    rw [hused] at hmem
    omega

theorem reportsOf_snoc (hrows : db'.reportVersions.rows = db.reportVersions.rows ++ [r])
    (moduleId : Uuid) :
    db'.reportsOf moduleId =
      if r.moduleId = moduleId then db.reportsOf moduleId ++ [r] else db.reportsOf moduleId := by
  unfold reportsOf
  rw [hrows, List.filter_append]
  split
  · next h => simp [h]
  · next h => simp [h]

/-- A step keeps the chain. -/
theorem Chain.step (h : Chain db) (hchange : Change db db') : Chain db' := by
  cases hchange with
  | drafted new hsnapshots hmodules hrest =>
      obtain ⟨happrovals, hwithdrawals, hreports⟩ := hrest
      have hsub : ∀ s ∈ db.moduleSnapshots.rows, s ∈ db'.moduleSnapshots.rows := by
        intro s hs
        rw [hsnapshots]
        exact List.mem_append_left _ hs
      constructor
      · intro m hm
        rcases hmodules m hm with hold | hpointed
        · exact (h.pointed m hold).mono hsub
        · exact hpointed
      · intro a ha
        rw [happrovals] at ha
        obtain ⟨s, hs, hkeys⟩ := h.binds a ha
        exact ⟨s, hsub s hs, hkeys⟩
      · intro w hw
        rw [hwithdrawals] at hw
        unfold Withdraws
        rw [happrovals]
        exact h.withdraws w hw
      · intro moduleId
        unfold reportsOf
        rw [hreports]
        exact h.numbered moduleId
      · intro r hr
        rw [hreports] at hr
        unfold Supersedes
        rw [hreports]
        exact h.supersedes r hr
  | approved a hbinds hrows hrest =>
      rw [hrest]
      refine ⟨h.pointed, fun b hb => ?_, fun w hw => ?_, h.numbered, h.supersedes⟩
      · change b ∈ db'.moduleApprovals.rows at hb
        rw [hrows, List.mem_append, List.mem_singleton] at hb
        rcases hb with hold | rfl
        · exact h.binds b hold
        · exact hbinds
      · obtain ⟨b, hb, hkeys⟩ := h.withdraws w hw
        refine ⟨b, ?_, hkeys⟩
        change b ∈ db'.moduleApprovals.rows
        rw [hrows]
        exact List.mem_append_left _ hb
  | withdrew w hwithdraws hrows hrest =>
      rw [hrest]
      refine ⟨h.pointed, h.binds, fun v hv => ?_, h.numbered, h.supersedes⟩
      change v ∈ db'.moduleWithdrawals.rows at hv
      rw [hrows, List.mem_append, List.mem_singleton] at hv
      rcases hv with hold | rfl
      · exact h.withdraws v hold
      · exact hwithdraws
  | reported r hcurrent hcleared hsupersedes hrows hrest =>
      have hsub : ∀ b ∈ db.reportVersions.rows, b ∈ db'.reportVersions.rows := by
        intro b hb
        rw [hrows]
        exact List.mem_append_left _ hb
      have hmono : ∀ b, db.Supersedes b → db'.Supersedes b := by
        rintro b (hfirst | ⟨prior, hprior, hkeys⟩)
        · exact .inl hfirst
        · exact .inr ⟨prior, hsub prior hprior, hkeys⟩
      have hnumber := next_number (h.numbered r.moduleId) hsupersedes (Sql.Table.fresh_of_snoc hrows)
      have hnumbered : ∀ moduleId,
          Numbered ReportVersion.reportVersion (db'.reportsOf moduleId) := by
        intro moduleId
        rw [reportsOf_snoc hrows]
        split
        · next hmodule =>
            rw [← hmodule]
            exact (h.numbered r.moduleId).snoc hnumber
        · exact h.numbered moduleId
      have hchained : ∀ b ∈ db'.reportVersions.rows, db'.Supersedes b := by
        intro b hb
        rw [hrows, List.mem_append, List.mem_singleton] at hb
        rcases hb with hold | rfl
        · exact hmono b (h.supersedes b hold)
        · exact hmono b hsupersedes
      rw [hrest] at hnumbered hchained ⊢
      exact ⟨h.pointed, h.binds, h.withdraws, hnumbered, hchained⟩

/-! ## After a withdrawal -/

/-- Nothing binds the snapshot of the withdrawal but what did before. -/
structure Settled (w : ModuleWithdrawal) (before db : ModuleTables) : Prop where
  withdrawal : w ∈ db.moduleWithdrawals.rows
  approvals : ∀ a ∈ db.moduleApprovals.rows, a.snapshotId = w.snapshotId →
    a ∈ before.moduleApprovals.rows
  reports : ∀ r ∈ db.reportVersions.rows, r.moduleSnapshotId = w.snapshotId →
    r ∈ before.reportVersions.rows

theorem Settled.step {w : ModuleWithdrawal} {before : ModuleTables} (hsettled : Settled w before db)
    (h : Chain db) (hchange : Change db db') : Settled w before db' := by
  obtain ⟨hw, happrovals, hreports⟩ := hsettled
  obtain ⟨a, ha, haid, hamodule, hasnapshot⟩ := h.withdraws w hw
  cases hchange with
  | drafted new hsnapshots hmodules hrest =>
      obtain ⟨hsameApprovals, hsameWithdrawals, hsameReports⟩ := hrest
      constructor
      · rw [hsameWithdrawals]
        exact hw
      · rw [hsameApprovals]
        exact happrovals
      · rw [hsameReports]
        exact hreports
  | approved b hbinds hrows hrest =>
      rw [hrest]
      refine ⟨hw, fun c hc hsnapshot => ?_, hreports⟩
      change c ∈ db'.moduleApprovals.rows at hc
      rw [hrows, List.mem_append, List.mem_singleton] at hc
      rcases hc with hold | rfl
      · exact happrovals c hold hsnapshot
      · -- the snapshot's module has approved it already
        obtain ⟨s, hs, hsid, hsmodule, -⟩ := hbinds
        obtain ⟨t, ht, htid, htmodule, -⟩ := h.binds a ha
        have hst : s = t := snapshot_unique hs ht (by rw [hsid, htid, hsnapshot, hasnapshot])
        have hmodule : a.moduleId = c.moduleId := by rw [← htmodule, ← hsmodule, hst]
        exact absurd (.inr ⟨hmodule, by rw [hasnapshot, hsnapshot]⟩) (Sql.Table.fresh_of_snoc hrows a ha)
  | withdrew v hwithdraws hrows hrest =>
      rw [hrest]
      refine ⟨?_, happrovals, hreports⟩
      change w ∈ db'.moduleWithdrawals.rows
      rw [hrows]
      exact List.mem_append_left _ hw
  | reported r hcurrent hcleared hsupersedes hrows hrest =>
      rw [hrest]
      refine ⟨hw, happrovals, fun b hb hsnapshot => ?_⟩
      change b ∈ db'.reportVersions.rows at hb
      rw [hrows, List.mem_append, List.mem_singleton] at hb
      rcases hb with hold | rfl
      · exact hreports b hold hsnapshot
      · -- the approval that clears it is the one that was withdrawn
        obtain ⟨c, hc, -, hcsnapshot, hopen⟩ := hcleared
        have hac : a = c := h.same_module ha hc (by rw [hasnapshot, hcsnapshot, hsnapshot])
        exact absurd ⟨w, hw, by rw [← haid, hac]⟩ hopen

end ModuleTables

/-! ## Every order of steps -/

namespace ModuleStore

open ModuleTables (Chain Settled)

variable {columnSize : JsVal → Nat} {sha256 : String → String}

theorem chain_inductive (columnSize : JsVal → Nat) (sha256 : String → String) :
    (moduleSystem columnSize sha256).Inductive TSys.any fun s => Chain s.toModuleTables where
  init := by
    rintro _ rfl
    exact Chain.empty
  step := by
    rintro db step _ h - rfl
    exact h.step (perform_change columnSize sha256 db step)

/-- A report that a step inserts binds a snapshot of its module, which an
approval clears before the step. -/
theorem report_cleared {db : ModuleStore} (h : Chain db.toModuleTables) {step : ModuleStep}
    (hr : r ∈ (db.perform columnSize sha256 step).reportVersions.rows)
    (hnew : r ∉ db.reportVersions.rows) :
    (∃ snapshot ∈ db.moduleSnapshots.rows, snapshot.id = r.moduleSnapshotId ∧
      snapshot.moduleId = r.moduleId) ∧ db.Cleared r := by
  have hchange := perform_change columnSize sha256 db step
  revert hchange hr
  generalize (db.perform columnSize sha256 step).toModuleTables = after
  intro hr hchange
  cases hchange with
  | drafted new hsnapshots hmodules hrest =>
      rw [hrest.2.2] at hr
      exact absurd hr hnew
  | approved a hbinds hrows hrest =>
      rw [hrest] at hr
      exact absurd hr hnew
  | withdrew w hwithdraws hrows hrest =>
      rw [hrest] at hr
      exact absurd hr hnew
  | reported b hcurrent hcleared hsupersedes hrows hrest =>
      rw [hrows, List.mem_append, List.mem_singleton] at hr
      rcases hr with hold | rfl
      · exact absurd hold hnew
      · obtain ⟨m, hm, hmid, hmsnapshot⟩ := hcurrent
        obtain ⟨s, hs, hsid, hsmodule⟩ := h.pointed m hm _ hmsnapshot
        exact ⟨⟨s, hs, hsid, hsmodule.trans hmid⟩, hcleared⟩

/-- **The chain from snapshot to report.** In every state the accepted steps
reach, in whatever order: approvals bind the hash of a snapshot of their module
and approve it once, withdrawals name an approval of their module and snapshot,
the reports of a module are numbered from one and each supersedes the one
before. A step inserts a report only where an approval that was not withdrawn
clears it, and after a withdrawal nothing new binds its snapshot. -/
theorem snapshot_to_report_chain {s : ModuleStore}
    (hs : (moduleSystem columnSize sha256).Reachable TSys.any s) :
    (∀ a ∈ s.moduleApprovals.rows, ∃ snapshot ∈ s.moduleSnapshots.rows,
      snapshot.id = a.snapshotId ∧ snapshot.moduleId = a.moduleId ∧
        snapshot.canonicalSha256 = a.snapshotSha256) ∧
    (∀ a ∈ s.moduleApprovals.rows, ∀ b ∈ s.moduleApprovals.rows,
      a.moduleId = b.moduleId → a.snapshotId = b.snapshotId → a = b) ∧
    (∀ w ∈ s.moduleWithdrawals.rows, ∃ a ∈ s.moduleApprovals.rows,
      a.id = w.approvalId ∧ a.moduleId = w.moduleId ∧ a.snapshotId = w.snapshotId) ∧
    (∀ moduleId, Numbered ReportVersion.reportVersion (s.reportsOf moduleId)) ∧
    (∀ r ∈ s.reportVersions.rows,
      (r.supersedesReportVersionId = none ∧ r.reportVersion = 1) ∨
        ∃ prior ∈ s.reportVersions.rows, r.supersedesReportVersionId = some prior.id ∧
          prior.moduleId = r.moduleId ∧ r.reportVersion = prior.reportVersion + 1) ∧
    (∀ step, ∀ r ∈ (s.perform columnSize sha256 step).reportVersions.rows,
      r ∉ s.reportVersions.rows →
        (∃ snapshot ∈ s.moduleSnapshots.rows, snapshot.id = r.moduleSnapshotId ∧
          snapshot.moduleId = r.moduleId) ∧
        ∃ a ∈ s.moduleApprovals.rows, a.moduleId = r.moduleId ∧
          a.snapshotId = r.moduleSnapshotId ∧ ¬ s.withdrawn a.id) ∧
    ∀ w ∈ s.moduleWithdrawals.rows, ∀ later,
      (moduleSystem columnSize sha256).Later TSys.any s later →
        (∀ a ∈ later.moduleApprovals.rows, a.snapshotId = w.snapshotId →
          a ∈ s.moduleApprovals.rows) ∧
        ∀ r ∈ later.reportVersions.rows, r.moduleSnapshotId = w.snapshotId →
          r ∈ s.reportVersions.rows := by
  have hinductive := chain_inductive columnSize sha256
  have hchain : Chain s.toModuleTables := hinductive.invariant hs
  refine ⟨hchain.binds, fun a ha b hb => ModuleTables.approval_unique ha hb, hchain.withdraws,
    hchain.numbered, hchain.supersedes, fun step r hr hnew => report_cleared hchain hr hnew,
    fun w hw later hlater => ?_⟩
  have hsettled : Settled w s.toModuleTables later.toModuleTables := by
    refine hinductive.stable (P := fun t => Settled w s.toModuleTables t.toModuleTables) ?_ hs
      hlater ⟨hw, fun _ h _ => h, fun _ h _ => h⟩
    rintro db step _ hdb hbefore - rfl
    exact hbefore.step hdb (perform_change columnSize sha256 db step)
  exact ⟨hsettled.approvals, hsettled.reports⟩

/-! ## A module approved, reported and withdrawn -/

namespace Withdrawn

def tenant : Uuid := ⟨"aaaaaaaa-0000-0000-0000-000000000001", @rfl _ true⟩
def job : Uuid := ⟨"aaaa0000-0000-0000-0000-000000000001", @rfl _ true⟩
def building : Uuid := ⟨"aaaa1000-0000-0000-0000-000000000001", @rfl _ true⟩
def inspector : Uuid := ⟨"11111111-0000-0000-0000-000000000001", @rfl _ true⟩
def snapshotId : Uuid := ⟨"bbbb0000-0000-0000-0000-000000000001", by decide⟩
def approvalId : Uuid := ⟨"bbbb1000-0000-0000-0000-000000000001", by decide⟩
def withdrawalId : Uuid := ⟨"bbbb2000-0000-0000-0000-000000000001", by decide⟩
def reportId : Uuid := ⟨"bbbb3000-0000-0000-0000-000000000001", by decide⟩

def commissioned : InspectionModule :=
  ⟨building, tenant, job, .building, inspector, .in_progress, 0, none, none⟩

/-- The inspector is a member; nothing was found. -/
def context : ModuleContext := ⟨[⟨tenant, inspector, .inspector, .active⟩], [], [], [], [], []⟩

def payload : JsVal :=
  .obj [("contentManifest", .obj []), ("templateVersion", .str "template-1"),
    ("requirementVersion", .str "requirement-1"),
    ("inspectorCredentialVersion", .str "credential-1")]

def drafting : CreateModuleSnapshot :=
  ⟨tenant, building, some 0, some payload, none, some (.arr []), some "snapshot-request-1"⟩

/-- The snapshot's content and the fingerprint of its request, as the store
projects them. -/
def content : JsVal :=
  .obj [("jobId", .str job.text), ("payload", payload), ("moduleId", .str building.text),
    ("artifacts", .arr []), ("moduleType", .str "building"),
    ("organizationId", .str tenant.text), ("findingVersionIds", .arr []),
    ("expectedModuleRevision", .num (.int 0))]

def fingerprint : JsVal :=
  .obj [("actorId", .str inspector.text), ("payload", payload), ("moduleId", .str building.text),
    ("artifacts", .arr []), ("expectedRevision", .num (.int 0)), ("findingVersionIds", .arr [])]

def contentHash : String := "c6c2a637489c18205e4d8b1b89f7e7b1d3a01799387ba380d66e1196bf747c55"

def request (newId : Uuid) : Request := ⟨some inspector, none, .aal2, true, newId⟩

def approval : ApproveModule :=
  ⟨tenant, building, some snapshotId, some contentHash, some 1, "approve-request-1"⟩

def report : ReportVersion :=
  ⟨reportId, tenant, job, building, .building, snapshotId, 1, 1, .obj [], contentHash, none, none,
    none, inspector⟩

def withdrawal : WithdrawModule :=
  ⟨tenant, building, some snapshotId, some approvalId, some 1, some "Reissued",
    "withdraw-request-1"⟩

/-- SHA-256 of the texts of the run. -/
def digest : String → String := digestOf [
  ("snapshot-request-1", "479950e9ff304df2fd55e33b1bdce33c921f7d22b5b511743d0edd019250e3e0"),
  ("approve-request-1", "c8361cee5657aff36de690d149dec5d4c60e857e4375d6d313143b573b4700de"),
  ("withdraw-request-1", "7118e7ac5dae22540ee3ee65fd7a453bd6f64120ed711b354a709ceb9f96967d"),
  (approvalId.text, "1cad787121372766338a715b21dd81ae28ac3a3c555d860ce0227f4e4e98f28e"),
  (Jsonb.text content, contentHash),
  (Jsonb.text fingerprint, "b98e0cb77a750e147a8c5fede3c36b634ab28d104837d4b375261bc75cf74a63"),
  (Sql.concatWs "|" [some "approve_module", some tenant.text, some building.text,
    some snapshotId.text, some contentHash, some "1"],
    "430353971c6053e3d1c7e7575e1c8e7c2cc84de493c3ce45be2fafc3cca911b9"),
  (Sql.concatWs "|" [some "withdraw_report", some tenant.text, some building.text,
    some snapshotId.text, some approvalId.text, some "1", some "Reissued"],
    "7dab9d8c5cebcd4c6d4d48dfbbe7ca964069255675aca97396fa89a9f41c1e62")]

def steps : List ModuleStep :=
  [.book ⟨job, tenant, 0⟩, .commission commissioned, .other context empty.records,
    .createSnapshot (some inspector) snapshotId drafting, .approve (request approvalId) approval,
    .report report, .withdraw (request withdrawalId) withdrawal]

def final : ModuleStore := steps.foldl (perform (fun _ => 0) digest) empty

theorem final_reachable : (moduleSystem (fun _ => 0) digest).Reachable TSys.any final :=
  TSys.reachable_foldl empty (perform (fun _ => 0) digest) steps

/-- The run up to its snapshot. -/
def drafted (sha256 : String → String) : ModuleStore :=
  (steps.take 4).foldl (perform (fun _ => 0) sha256) empty

theorem final_eq :
    final = (steps.drop 4).foldl (perform (fun _ => 0) digest) (drafted digest) := by
  unfold final drafted
  rw [← List.foldl_append, List.take_append_drop]

def withReceipts (s : ModuleStore) (receipts : ReceiptTable) : ModuleStore :=
  { s with records := { s.records with professionalTransitionReceipts := receipts } }

set_option maxRecDepth 20000 in
/-- Outside its receipts the store has one hash, that of the content. -/
theorem drafted_eq (sha256 : String → String) : drafted sha256 =
    withReceipts (drafted fun _ => sha256 (Jsonb.text content))
      (drafted sha256).records.professionalTransitionReceipts := by
  rfl

theorem digest_content : digest (Jsonb.text content) = contentHash := by
  have hopens : ∀ text : String, text.toList.head? ≠ some '{' → Jsonb.text content ≠ text := by
    rintro text hhead rfl
    apply hhead
    unfold Jsonb.text
    rw [String.toList_ofList]
    rfl
  unfold digest
  rw [digestOf_tail, digestOf_tail, digestOf_tail, digestOf_tail, digestOf_head]
  all_goals exact hopens _ (by decide)

theorem final_counts : final.moduleApprovals.rows.length = 1 ∧
    (final.reportsOf building).length = 1 ∧ final.moduleWithdrawals.rows.length = 1 := by
  rw [final_eq, drafted_eq, digest_content]
  decide +kernel

theorem snapshot_to_report_chain_withdrawn :
    (final.moduleApprovals.rows.length = 1 ∧ (final.reportsOf building).length = 1 ∧
      final.moduleWithdrawals.rows.length = 1) ∧
    (∀ a ∈ final.moduleApprovals.rows, ∃ snapshot ∈ final.moduleSnapshots.rows,
      snapshot.id = a.snapshotId ∧ snapshot.moduleId = a.moduleId ∧
        snapshot.canonicalSha256 = a.snapshotSha256) ∧
    Numbered ReportVersion.reportVersion (final.reportsOf building) := by
  have hchain := snapshot_to_report_chain final_reachable
  exact ⟨final_counts, hchain.1, hchain.2.2.2.1 building⟩

end Withdrawn

end ModuleStore

end InspectionHub.Database
