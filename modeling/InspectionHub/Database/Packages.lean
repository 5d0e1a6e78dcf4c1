import InspectionHub.Database.Modules

/-!
# Delivery packages

`delivery_packages` and `delivery_package_modules` of
`20260714000300_u2_reports_continuity.sql`, and the deferred trigger
`u2_validate_exact_package` of `20260714000400_u2_integrity_and_rls.sql`, which
accepts a package by comparing two counts.

The counts agree with the package being exact unless its job has a single
module and the package has two rows (`exact_package_iff`): the row of the
other kind of module is joined away before anything is counted.
-/

namespace InspectionHub.Database

open Domain (ModuleType)

structure DeliveryPackage where
  id : Uuid
  organizationId : Uuid
  jobId : Uuid
  expectedJobRevision : Nat
  durabilityManifestSha256 : String
  idempotencyKey : String

/-- `primary key (id)`, `unique (organization_id, idempotency_key)` -/
def DeliveryPackage.clash (a b : DeliveryPackage) : Prop :=
  a.id = b.id ∨ (a.organizationId = b.organizationId ∧ a.idempotencyKey = b.idempotencyKey)

structure DeliveryPackageModule where
  packageId : Uuid
  organizationId : Uuid
  moduleId : Uuid
  moduleType : ModuleType
  moduleSnapshotId : Uuid
  approvalId : Uuid
  reportVersionId : Uuid

/-- `primary key (package_id, module_type)`, `unique (package_id, module_id)`,
`unique (package_id, report_version_id)` -/
def DeliveryPackageModule.clash (a b : DeliveryPackageModule) : Prop :=
  a.packageId = b.packageId ∧
    (a.moduleType = b.moduleType ∨ a.moduleId = b.moduleId ∨ a.reportVersionId = b.reportVersionId)

instance : DecidableRel DeliveryPackage.clash := fun _ _ => inferInstanceAs (Decidable (_ ∨ _))
instance : DecidableRel DeliveryPackageModule.clash :=
  fun _ _ => inferInstanceAs (Decidable (_ ∧ _))

/-- The tables the check reads. A package's rows are in the tenant of the
package, by their foreign key. -/
structure PackageTables extends ModuleTables where
  deliveryPackages : Sql.Table DeliveryPackage DeliveryPackage.clash
  deliveryPackageModules : Sql.Table DeliveryPackageModule DeliveryPackageModule.clash
  packageReferences : ∀ pm ∈ deliveryPackageModules.rows,
    ∃ p ∈ deliveryPackages.rows, p.id = pm.packageId ∧ p.organizationId = pm.organizationId

namespace PackageTables

/-! ## Inserting -/

/-- `insert into delivery_packages` -/
def insertPackage (db : PackageTables) (p : DeliveryPackage) :
    Except Sql.Error PackageTables := do
  Sql.raiseIf (¬ Js.isHexDigest p.durabilityManifestSha256) "23514" "durability_manifest_sha256"
  Sql.raiseIf (¬ trimmedWithin 1 240 p.idempotencyKey) "23514" "idempotency_key"
  Sql.raiseIf (¬ db.hasJob p.jobId p.organizationId) "23503" "delivery_packages"
  let next ← db.deliveryPackages.insert "delivery_packages" p
  return { db with
    deliveryPackages := next.1
    packageReferences := fun pm hpm => by
      obtain ⟨q, hq, hkeys⟩ := db.packageReferences pm hpm
      exact ⟨q, by rw [next.2]; exact List.mem_append_left _ hq, hkeys⟩ }

/-- `insert into delivery_package_modules` -/
def insertPackageModule (db : PackageTables) (pm : DeliveryPackageModule) :
    Except Sql.Error PackageTables := do
  if hpackage : ∃ p ∈ db.deliveryPackages.rows,
      p.id = pm.packageId ∧ p.organizationId = pm.organizationId then
    Sql.raiseIf (¬ db.hasModule pm.moduleId pm.organizationId pm.moduleType) "23503"
      "delivery_package_modules"
    Sql.raiseIf (¬ db.hasSnapshot pm.moduleSnapshotId pm.organizationId pm.moduleType) "23503"
      "delivery_package_modules"
    Sql.raiseIf (¬ db.hasApproval pm.approvalId pm.organizationId) "23503"
      "delivery_package_modules"
    Sql.raiseIf (¬ db.hasReport pm.reportVersionId pm.organizationId pm.moduleType) "23503"
      "delivery_package_modules"
    let next ← db.deliveryPackageModules.insert "delivery_package_modules" pm
    return { db with
      deliveryPackageModules := next.1
      packageReferences := fun row hrow => by
        rw [next.2] at hrow
        rcases List.mem_append.mp hrow with h | h
        · exact db.packageReferences row h
        · rw [List.mem_singleton.mp h]
          exact hpackage }
  else
    throw ⟨"23503", "delivery_package_modules"⟩

/-! ## The deferred check -/

/-- The inspection modules of the package's job. -/
def commissioned (db : PackageTables) (p : DeliveryPackage) : List InspectionModule :=
  db.inspectionModules.rows.filter fun m =>
    m.jobId = p.jobId ∧ m.organizationId = p.organizationId

/-- The module rows of the package. -/
def moduleRows (db : PackageTables) (p : DeliveryPackage) : List DeliveryPackageModule :=
  db.deliveryPackageModules.rows.filter fun pm => pm.packageId = p.id

def onModule (pm : DeliveryPackageModule) (m : InspectionModule) : Bool :=
  m.id = pm.moduleId ∧ m.organizationId = pm.organizationId

def onApproval (r : DeliveryPackageModule × InspectionModule) (a : ModuleApproval) : Bool :=
  a.id = r.1.approvalId ∧ a.organizationId = r.1.organizationId

def onReport (r : (DeliveryPackageModule × InspectionModule) × ModuleApproval)
    (v : ReportVersion) : Bool :=
  v.id = r.1.1.reportVersionId ∧ v.organizationId = r.1.1.organizationId

/-- `delivery_package_modules pm join inspection_modules m join module_approvals a
join report_versions r` -/
def bindings (db : PackageTables) :
    List (((DeliveryPackageModule × InspectionModule) × ModuleApproval) × ReportVersion) :=
  Sql.join onReport
    (Sql.join onApproval
      (Sql.join onModule db.deliveryPackageModules.rows db.inspectionModules.rows)
      db.moduleApprovals.rows)
    db.reportVersions.rows

/-- The rows `actual_count` counts. -/
def joined (db : PackageTables) (p : DeliveryPackage) :
    List (((DeliveryPackageModule × InspectionModule) × ModuleApproval) × ReportVersion) :=
  db.bindings.filter fun (((pm, m), a), r) =>
    pm.packageId = p.id ∧ m.jobId = p.jobId ∧ m.currentSnapshotId = some pm.moduleSnapshotId ∧
      m.currentReportVersionId = some pm.reportVersionId ∧ a.moduleId = m.id ∧
      a.snapshotId = pm.moduleSnapshotId ∧ r.moduleId = m.id ∧
      r.moduleSnapshotId = pm.moduleSnapshotId ∧ ¬ db.withdrawn a.id

/-- `u2_validate_exact_package`, for the package the row names. -/
def validateExactPackage (db : PackageTables) (targetPackageId : Uuid) : Except Sql.Error Unit :=
  match db.deliveryPackages.rows.find? fun p => p.id = targetPackageId with
  | none => return
  | some p => do
      let expectedCount := (db.commissioned p).length
      let actualCount := (db.joined p).length
      let revision := (db.jobs.rows.find? fun j => j.id = p.jobId).map Job.revision
      -- a job that is not there has no revision to differ from
      Sql.raiseIf (revision.any (· ≠ p.expectedJobRevision)) "40001"
        "delivery package expected job revision is stale"
      Sql.raiseIf (expectedCount = 0 ∨ actualCount ≠ expectedCount) "23514"
        "delivery package must bind the exact commissioned module snapshot set"

/-! ## Transactions -/

/-- A statement of the transaction. -/
inductive Insert where
  | package (p : DeliveryPackage)
  | packageModule (pm : DeliveryPackageModule)

/-- The package whose check the statement queues. -/
def Insert.packageId : Insert → Uuid
  | .package p => p.id
  | .packageModule pm => pm.packageId

def execute (db : PackageTables) : Insert → Except Sql.Error PackageTables
  | .package p => db.insertPackage p
  | .packageModule pm => db.insertPackageModule pm

/-- Run the statements, then the checks they queued. -/
def transaction (db : PackageTables) (statements : List Insert) :
    Except Sql.Error PackageTables := do
  let db' ← statements.foldlM execute db
  statements.forM fun i => db'.validateExactPackage i.packageId
  return db'

/-! ## Exactness -/

/-- The row binds the module's current snapshot, an approval of it that was not
withdrawn, and the module's current report version. -/
structure Binds (db : PackageTables) (pm : DeliveryPackageModule) (m : InspectionModule) :
    Prop where
  module : pm.moduleId = m.id
  snapshot : m.currentSnapshotId = some pm.moduleSnapshotId
  report : m.currentReportVersionId = some pm.reportVersionId
  approval : ∃ a ∈ db.moduleApprovals.rows, a.id = pm.approvalId ∧ a.moduleId = m.id ∧
    a.snapshotId = pm.moduleSnapshotId ∧ ¬ db.withdrawn a.id

/-- The package's rows and the modules of its job are in bijection, and each
row binds its module. -/
structure Exact (db : PackageTables) (p : DeliveryPackage) : Prop where
  commissioned : ∀ m ∈ db.commissioned p, ∃! pm, pm ∈ db.moduleRows p ∧ pm.moduleId = m.id
  bound : ∀ pm ∈ db.moduleRows p, ∃ m ∈ db.commissioned p, db.Binds pm m

/-! ## Counting -/

variable {db db' : PackageTables} {p : DeliveryPackage}

theorem mem_commissioned {m : InspectionModule} :
    m ∈ db.commissioned p ↔ m ∈ db.inspectionModules.rows ∧ m.jobId = p.jobId ∧
      m.organizationId = p.organizationId := by
  rw [commissioned, List.mem_filter, decide_eq_true_iff]

theorem mem_moduleRows {pm : DeliveryPackageModule} :
    pm ∈ db.moduleRows p ↔ pm ∈ db.deliveryPackageModules.rows ∧ pm.packageId = p.id := by
  rw [moduleRows, List.mem_filter, decide_eq_true_iff]

/-- A package has at most one row for each kind of module. -/
theorem length_moduleRows_le : (db.moduleRows p).length ≤ 2 := by
  have hnodup : ((db.moduleRows p).map DeliveryPackageModule.moduleType).Nodup := by
    refine List.pairwise_map.mpr ?_
    refine (db.deliveryPackageModules.distinct.filter _).imp_of_mem ?_
    intro a b ha hb hclash heq
    have hpackage := (mem_moduleRows.mp ha).2.trans (mem_moduleRows.mp hb).2.symm
    exact hclash ⟨hpackage, .inl heq⟩
  have hkinds : (db.moduleRows p).map DeliveryPackageModule.moduleType ⊆ [.building, .timber_pest] := by
    intro t _
    cases t <;> simp
  have hle := (hnodup.subperm hkinds).length_le
  rwa [List.length_map] at hle

theorem nodup_moduleRows : ((db.moduleRows p).map DeliveryPackageModule.moduleId).Nodup := by
  refine List.pairwise_map.mpr ((db.deliveryPackageModules.distinct.filter _).imp_of_mem ?_)
  intro a b ha hb hclash heq
  have hpackage := (mem_moduleRows.mp ha).2.trans (mem_moduleRows.mp hb).2.symm
  exact hclash ⟨hpackage, .inr (.inl heq)⟩

/-- The row of the package a joined row starts from. -/
abbrev packageRow
    (r : ((DeliveryPackageModule × InspectionModule) × ModuleApproval) × ReportVersion) :
    DeliveryPackageModule := r.1.1.1

theorem mem_joined {r} :
    r ∈ db.joined p ↔
      (r.1.1.1 ∈ db.deliveryPackageModules.rows ∧ r.1.1.2 ∈ db.inspectionModules.rows ∧
        r.1.2 ∈ db.moduleApprovals.rows ∧ r.2 ∈ db.reportVersions.rows) ∧
      (r.1.1.2.id = r.1.1.1.moduleId ∧ r.1.1.2.organizationId = r.1.1.1.organizationId ∧
        r.1.2.id = r.1.1.1.approvalId ∧ r.1.2.organizationId = r.1.1.1.organizationId ∧
        r.2.id = r.1.1.1.reportVersionId ∧ r.2.organizationId = r.1.1.1.organizationId) ∧
      r.1.1.1.packageId = p.id ∧ r.1.1.2.jobId = p.jobId ∧
      r.1.1.2.currentSnapshotId = some r.1.1.1.moduleSnapshotId ∧
      r.1.1.2.currentReportVersionId = some r.1.1.1.reportVersionId ∧
      r.1.2.moduleId = r.1.1.2.id ∧ r.1.2.snapshotId = r.1.1.1.moduleSnapshotId ∧
      r.2.moduleId = r.1.1.2.id ∧ r.2.moduleSnapshotId = r.1.1.1.moduleSnapshotId ∧
      ¬ db.withdrawn r.1.2.id := by
  obtain ⟨⟨⟨pm, m⟩, a⟩, v⟩ := r
  simp only [joined, bindings, onModule, onApproval, onReport, List.mem_filter, Sql.mem_join,
    decide_eq_true_eq]
  tauto

/-- Joining on keys keeps a row at most once. -/
theorem bindings_sublist : (db.bindings.map packageRow).Sublist db.deliveryPackageModules.rows := by
  have hmodule := Sql.sublist_of_join_key onModule db.deliveryPackageModules.rows
    (db.inspectionModules.nodup_map (f := InspectionModule.id) fun _ _ h => .inl h)
    fun pm m h => (of_decide_eq_true h).1
  have happroval := Sql.sublist_of_join_key onApproval
    (Sql.join onModule db.deliveryPackageModules.rows db.inspectionModules.rows)
    (db.moduleApprovals.nodup_map (f := ModuleApproval.id) fun _ _ h => .inl h)
    fun r a h => (of_decide_eq_true h).1
  have hreport := Sql.sublist_of_join_key onReport
    (Sql.join onApproval
      (Sql.join onModule db.deliveryPackageModules.rows db.inspectionModules.rows)
      db.moduleApprovals.rows)
    (db.reportVersions.nodup_map (f := ReportVersion.id) fun _ _ h => .inl h)
    fun r v h => (of_decide_eq_true h).1
  have hrows := ((hreport.map Prod.fst).map Prod.fst).trans ((happroval.map Prod.fst).trans hmodule)
  rwa [List.map_map, List.map_map] at hrows

/-- Joining on keys counts a row of the package at most once. -/
theorem joined_sublist : ((db.joined p).map packageRow).Sublist (db.moduleRows p) := by
  have hall : ∀ pm ∈ (db.joined p).map packageRow, pm.packageId = p.id := by
    intro pm hpm
    obtain ⟨r, hr, rfl⟩ := List.mem_map.mp hpm
    exact (mem_joined.mp hr).2.2.1
  have hrows : ((db.joined p).map packageRow).Sublist db.deliveryPackageModules.rows :=
    (List.filter_sublist.map packageRow).trans bindings_sublist
  have hfilter := hrows.filter fun pm => decide (pm.packageId = p.id)
  rwa [List.filter_eq_self.mpr fun pm hpm => decide_eq_true (hall pm hpm)] at hfilter

/-- A row of the package is in the tenant of the package. -/
theorem organizationId_of_moduleRows (hp : p ∈ db.deliveryPackages.rows)
    {pm : DeliveryPackageModule} (hpm : pm ∈ db.moduleRows p) :
    pm.organizationId = p.organizationId := by
  obtain ⟨hrow, hpackage⟩ := mem_moduleRows.mp hpm
  obtain ⟨q, hq, hid, horg⟩ := db.packageReferences pm hrow
  have hqp : q = p := db.deliveryPackages.eq_of_key (f := DeliveryPackage.id) (fun _ _ h => .inl h)
    hq hp (hid.trans hpackage)
  rw [← horg, hqp]

/-- A joined row binds one of the modules of the package's job. -/
theorem binds_of_joined (hp : p ∈ db.deliveryPackages.rows) {r} (hr : r ∈ db.joined p) :
    packageRow r ∈ db.moduleRows p ∧ r.1.1.2 ∈ db.commissioned p ∧
      db.Binds (packageRow r) r.1.1.2 := by
  obtain ⟨⟨hrow, hmodule, happroval, -⟩, ⟨hid, horg, haid, -⟩, hpackage, hjob, hsnapshot,
    hreport, hamodule, hasnapshot, -, -, hwithdrawn⟩ := mem_joined.mp hr
  have hmem : packageRow r ∈ db.moduleRows p := mem_moduleRows.mpr ⟨hrow, hpackage⟩
  refine ⟨hmem, mem_commissioned.mpr ⟨hmodule, hjob, ?_⟩, hid.symm, hsnapshot, hreport,
    r.1.2, happroval, haid, hamodule, hasnapshot, hwithdrawn⟩
  rw [horg]
  exact organizationId_of_moduleRows hp hmem

/-- The modules of the joined rows, one by one. -/
theorem joined_modules_subperm (hp : p ∈ db.deliveryPackages.rows) :
    ((db.joined p).map fun r => r.1.1.2.id).Subperm ((db.commissioned p).map InspectionModule.id) := by
  have hsame : (db.joined p).map (fun r => r.1.1.2.id) =
      ((db.joined p).map packageRow).map DeliveryPackageModule.moduleId := by
    rw [List.map_map]
    refine List.map_congr_left fun r hr => ?_
    exact (binds_of_joined hp hr).2.2.module.symm
  have hnodup : ((db.joined p).map fun r => r.1.1.2.id).Nodup := by
    rw [hsame]
    exact nodup_moduleRows.sublist (joined_sublist.map _)
  refine hnodup.subperm fun id hid => ?_
  obtain ⟨r, hr, rfl⟩ := List.mem_map.mp hid
  exact List.mem_map_of_mem (binds_of_joined hp hr).2.1

/-- **Counts and exactness.** When as many rows are joined as modules are
commissioned, the package is exact if it has no other rows, and only then. -/
theorem exact_iff_of_count (hp : p ∈ db.deliveryPackages.rows)
    (hcount : (db.joined p).length = (db.commissioned p).length) :
    db.Exact p ↔ (db.moduleRows p).length ≤ (db.commissioned p).length := by
  constructor
  · intro hexact
    -- rows to modules is injective, as a package has a module in one row
    have hsub : ((db.moduleRows p).map DeliveryPackageModule.moduleId) ⊆
        ((db.commissioned p).map InspectionModule.id) := by
      intro id hid
      obtain ⟨pm, hpm, rfl⟩ := List.mem_map.mp hid
      obtain ⟨m, hm, hbinds⟩ := hexact.bound pm hpm
      exact List.mem_map.mpr ⟨m, hm, hbinds.module.symm⟩
    have hle := (nodup_moduleRows.subperm hsub).length_le
    rwa [List.length_map, List.length_map] at hle
  · intro hle
    have hall : (db.joined p).map packageRow = db.moduleRows p := by
      refine joined_sublist.eq_of_length_le ?_
      rw [List.length_map, hcount]
      exact hle
    have hbound : ∀ pm ∈ db.moduleRows p, ∃ m ∈ db.commissioned p, db.Binds pm m := by
      intro pm hpm
      rw [← hall] at hpm
      obtain ⟨r, hr, rfl⟩ := List.mem_map.mp hpm
      exact ⟨r.1.1.2, (binds_of_joined hp hr).2⟩
    have hmodules := (joined_modules_subperm hp).perm_of_length_le (by simp [hcount])
    refine ⟨fun m hm => ?_, hbound⟩
    have hid : m.id ∈ (db.joined p).map fun r => r.1.1.2.id :=
      hmodules.mem_iff.mpr (List.mem_map_of_mem hm)
    obtain ⟨r, hr, hrm⟩ := List.mem_map.mp hid
    obtain ⟨hrow, -, hbinds⟩ := binds_of_joined hp hr
    refine ⟨packageRow r, ⟨hrow, hbinds.module.trans hrm⟩, ?_⟩
    rintro pm ⟨hpm, hpmid⟩
    exact List.inj_on_of_nodup_map nodup_moduleRows hpm hrow
      (hpmid.trans (hbinds.module.trans hrm).symm)

/-! ## Transactions that pass the check -/

theorem validateExactPackage_ok (hp : p ∈ db.deliveryPackages.rows)
    (h : db.validateExactPackage p.id = .ok ()) :
    (db.commissioned p).length ≠ 0 ∧ (db.joined p).length = (db.commissioned p).length := by
  have hfind : db.deliveryPackages.rows.find? (fun q => q.id = p.id) = some p := by
    cases hq : db.deliveryPackages.rows.find? fun q => q.id = p.id with
    | none => simpa using List.find?_eq_none.mp hq p hp
    | some q =>
        have hid : q.id = p.id := by simpa using List.find?_some hq
        rw [db.deliveryPackages.eq_of_key (f := DeliveryPackage.id) (fun _ _ h => .inl h)
          (List.mem_of_find?_eq_some hq) hp hid]
  unfold validateExactPackage at h
  rw [hfind] at h
  obtain ⟨-, hrest⟩ := Sql.check_ok h
  have hcounts := Sql.raiseIf_ok hrest
  simpa only [not_or, ne_eq, not_not] using hcounts

/-- **Exact packages.** After a transaction that passes the deferred check, a
package it touched is exact unless its job has a single module and the package
two rows. -/
theorem exact_package_iff {statements : List Insert} (h : db.transaction statements = .ok db')
    (hp : p ∈ db'.deliveryPackages.rows) (htouched : ∃ i ∈ statements, i.packageId = p.id) :
    db'.Exact p ↔ ¬ ((db'.commissioned p).length = 1 ∧ (db'.moduleRows p).length = 2) := by
  obtain ⟨after, -, hrest⟩ := Sql.bind_ok h
  obtain ⟨⟨⟩, hchecks, hdone⟩ := Sql.bind_ok hrest
  cases hdone
  obtain ⟨i, hi, hid⟩ := htouched
  have hvalid := Sql.forM_ok hchecks i hi
  rw [hid] at hvalid
  obtain ⟨hnonempty, hcount⟩ := validateExactPackage_ok hp hvalid
  have hrows : (db'.joined p).length ≤ (db'.moduleRows p).length := by
    have hle := (joined_sublist : ((db'.joined p).map packageRow).Sublist _).length_le
    rwa [List.length_map] at hle
  have htwo : (db'.moduleRows p).length ≤ 2 := length_moduleRows_le
  rw [exact_iff_of_count hp hcount]
  omega

end PackageTables

/-! ## Two jobs with a module each -/

namespace Sample

def tenant : Uuid := ⟨"aaaaaaaa-0000-0000-0000-000000000001", @rfl _ true⟩
def firstJob : Uuid := ⟨"aaaa0000-0000-0000-0000-000000000001", @rfl _ true⟩
def secondJob : Uuid := ⟨"aaaa0000-0000-0000-0000-000000000002", by decide⟩
def buildingModule : Uuid := ⟨"aaaa1000-0000-0000-0000-000000000001", @rfl _ true⟩
def pestModule : Uuid := ⟨"aaaa2000-0000-0000-0000-000000000001", by decide⟩
def buildingSnapshot : Uuid := ⟨"aaaa7000-0000-0000-0000-000000000001", by decide⟩
def pestSnapshot : Uuid := ⟨"aaaa7000-0000-0000-0000-000000000002", by decide⟩
def buildingApproval : Uuid := ⟨"aaaa8000-0000-0000-0000-000000000001", by decide⟩
def pestApproval : Uuid := ⟨"aaaa8000-0000-0000-0000-000000000002", by decide⟩
def buildingReport : Uuid := ⟨"aaaa9000-0000-0000-0000-000000000001", by decide⟩
def pestReport : Uuid := ⟨"aaaa9000-0000-0000-0000-000000000002", by decide⟩
def inspector : Uuid := ⟨"11111111-0000-0000-0000-000000000001", @rfl _ true⟩
def packageId : Uuid := ⟨"aaaab000-0000-0000-0000-000000000001", by decide⟩

def hash : String := String.ofList (List.replicate 64 '1')

def moduleOf (job id snapshot report : Uuid) (kind : ModuleType) : InspectionModule :=
  ⟨id, tenant, job, kind, inspector, .approved, 0, some snapshot, some report⟩

def snapshotOf (job moduleId id : Uuid) (kind : ModuleType) : ModuleSnapshot :=
  ⟨id, tenant, job, moduleId, kind, 1, 0, hash, .obj [], inspector, "1", "1", "1"⟩

def reportOf (job moduleId snapshot id : Uuid) (kind : ModuleType) : ReportVersion :=
  ⟨id, tenant, job, moduleId, kind, snapshot, 1, 0, .obj [], hash, none, none, none, inspector⟩

/-- A building module of job `firstJob` and a timber-pest module of `pestJob`, each
approved and reported. -/
def issued (pestJob : Uuid) (h : pestJob = firstJob ∨ pestJob = secondJob) : PackageTables where
  jobs := ⟨[⟨firstJob, tenant, 0⟩, ⟨secondJob, tenant, 0⟩], by decide⟩
  inspectionModules := ⟨[moduleOf firstJob buildingModule buildingSnapshot buildingReport .building,
    moduleOf pestJob pestModule pestSnapshot pestReport .timber_pest], by
      rcases h with rfl | rfl <;> decide⟩
  moduleSnapshots := ⟨[snapshotOf firstJob buildingModule buildingSnapshot .building,
    snapshotOf pestJob pestModule pestSnapshot .timber_pest], by
      rcases h with rfl | rfl <;> decide⟩
  moduleApprovals := ⟨[
    ⟨buildingApproval, tenant, buildingModule, .building, buildingSnapshot, hash, 0, inspector⟩,
    ⟨pestApproval, tenant, pestModule, .timber_pest, pestSnapshot, hash, 0, inspector⟩], by decide⟩
  moduleWithdrawals := .empty
  reportVersions := ⟨[reportOf firstJob buildingModule buildingSnapshot buildingReport .building,
    reportOf pestJob pestModule pestSnapshot pestReport .timber_pest], by
      rcases h with rfl | rfl <;> decide⟩
  deliveryPackages := .empty
  deliveryPackageModules := .empty
  packageReferences := fun _ h => nomatch h

def package : DeliveryPackage := ⟨packageId, tenant, firstJob, 0, hash, "package"⟩

def buildingRow : DeliveryPackageModule :=
  ⟨packageId, tenant, buildingModule, .building, buildingSnapshot, buildingApproval,
    buildingReport⟩

def pestRow : DeliveryPackageModule :=
  ⟨packageId, tenant, pestModule, .timber_pest, pestSnapshot, pestApproval, pestReport⟩

/-- Confirm a package of both modules for the first job. -/
def confirm : List PackageTables.Insert :=
  [.package package, .packageModule buildingRow, .packageModule pestRow]

theorem confirm_ok (pestJob : Uuid) (h : pestJob = firstJob ∨ pestJob = secondJob) :
    ∃ db, (issued pestJob h).transaction confirm = .ok db ∧
      db.inspectionModules = (issued pestJob h).inspectionModules ∧
      db.deliveryPackages.rows = [package] ∧
      db.deliveryPackageModules.rows = [buildingRow, pestRow] := by
  rcases h with rfl | rfl
  · exact ⟨_, rfl, rfl, rfl, rfl⟩
  · exact ⟨_, rfl, rfl, rfl, rfl⟩

/-- Both modules of one job make an exact package. -/
theorem both_modules_exact : ∃ db,
    (issued firstJob (.inl rfl)).transaction confirm = .ok db ∧ db.Exact package := by
  obtain ⟨db, hok, hmodules, hpackages, -⟩ := confirm_ok firstJob (.inl rfl)
  have hp : package ∈ db.deliveryPackages.rows := by
    rw [hpackages]
    exact List.mem_singleton_self package
  refine ⟨db, hok, (PackageTables.exact_package_iff hok hp
    ⟨.package package, List.mem_cons_self, rfl⟩).mpr ?_⟩
  rintro ⟨hone, -⟩
  rw [PackageTables.commissioned, hmodules] at hone
  exact absurd hone (by decide)

/-- The check accepts a package of the first job's only module that also lists
the other job's module. -/
theorem other_job_accepted : ∃ db,
    (issued secondJob (.inr rfl)).transaction confirm = .ok db ∧
      package ∈ db.deliveryPackages.rows ∧ ¬ db.Exact package := by
  obtain ⟨db, hok, hmodules, hpackages, hrows⟩ := confirm_ok secondJob (.inr rfl)
  refine ⟨db, hok, by rw [hpackages]; exact List.mem_singleton_self package, fun h => ?_⟩
  have hpest : pestRow ∈ db.moduleRows package := by
    refine PackageTables.mem_moduleRows.mpr ⟨?_, rfl⟩
    rw [hrows]
    exact List.mem_cons_of_mem _ List.mem_cons_self
  obtain ⟨m, hm, hbinds⟩ := h.bound pestRow hpest
  have hall : ∀ m ∈ (issued secondJob (.inr rfl)).commissioned package,
      pestRow.moduleId ≠ m.id := by decide
  rw [PackageTables.commissioned, hmodules] at hm
  exact hall m hm hbinds.module

end Sample

end InspectionHub.Database
