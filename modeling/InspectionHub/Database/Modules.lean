import InspectionHub.Domain.ModuleState
import InspectionHub.Lib.Sql
import InspectionHub.Lib.Uuid

/-!
# Modules, snapshots, approvals and reports

The tables of `20260714000200_u2_inspection_domain.sql` and
`20260714000300_u2_reports_continuity.sql` that bind a professional module to
its snapshots, their approvals and withdrawals, and its report versions. Each
table carries its primary key and its unique constraints; a row has the
columns that the modelled functions read or check.
-/

namespace InspectionHub.Database

open Domain (ModuleType)

/-! ## Text functions of the store -/

/-- `btrim(text)`: spaces at both ends. -/
def btrim (s : String) : String :=
  String.ofList ((s.toList.dropWhile (· = ' ')).reverse.dropWhile (· = ' ')).reverse

/-- `length(btrim(text)) between low and high` -/
def trimmedWithin (low high : Nat) (s : String) : Prop :=
  low ≤ (btrim s).length ∧ (btrim s).length ≤ high

instance (low high : Nat) (s : String) : Decidable (trimmedWithin low high s) :=
  inferInstanceAs (Decidable (_ ∧ _))

/-! ## Rows -/

structure Job where
  id : Uuid
  organizationId : Uuid
  revision : Nat

def Job.clash (a b : Job) : Prop := a.id = b.id

inductive InspectionModuleState where
  | commissioned | in_progress | review | approved | withdrawn
deriving DecidableEq

structure InspectionModule where
  id : Uuid
  organizationId : Uuid
  jobId : Uuid
  moduleType : ModuleType
  assignedInspectorActorId : Uuid
  state : InspectionModuleState
  revision : Nat
  currentSnapshotId : Option Uuid
  currentReportVersionId : Option Uuid

/-- `primary key (id)`, `unique (job_id, module_type)` -/
def InspectionModule.clash (a b : InspectionModule) : Prop :=
  a.id = b.id ∨ (a.jobId = b.jobId ∧ a.moduleType = b.moduleType)

structure ModuleSnapshot where
  id : Uuid
  organizationId : Uuid
  jobId : Uuid
  moduleId : Uuid
  moduleType : ModuleType
  snapshotVersion : Nat
  expectedModuleRevision : Nat
  canonicalSha256 : String
  contentManifest : JsVal
  inspectorActorId : Uuid
  inspectorCredentialVersion : String
  requirementVersion : String
  templateVersion : String

/-- `primary key (id)`, `unique (module_id, snapshot_version)` -/
def ModuleSnapshot.clash (a b : ModuleSnapshot) : Prop :=
  a.id = b.id ∨ (a.moduleId = b.moduleId ∧ a.snapshotVersion = b.snapshotVersion)

structure ModuleApproval where
  id : Uuid
  organizationId : Uuid
  moduleId : Uuid
  moduleType : ModuleType
  snapshotId : Uuid
  snapshotSha256 : String
  expectedModuleRevision : Nat
  approvedByActorId : Uuid

/-- `primary key (id)`, `unique (module_id, snapshot_id)` -/
def ModuleApproval.clash (a b : ModuleApproval) : Prop :=
  a.id = b.id ∨ (a.moduleId = b.moduleId ∧ a.snapshotId = b.snapshotId)

structure ModuleWithdrawal where
  id : Uuid
  organizationId : Uuid
  moduleId : Uuid
  moduleType : ModuleType
  snapshotId : Uuid
  approvalId : Uuid
  expectedModuleRevision : Nat
  reason : String
  withdrawnByActorId : Uuid

/-- `primary key (id)`, `unique (module_id, approval_id)` -/
def ModuleWithdrawal.clash (a b : ModuleWithdrawal) : Prop :=
  a.id = b.id ∨ (a.moduleId = b.moduleId ∧ a.approvalId = b.approvalId)

structure ReportVersion where
  id : Uuid
  organizationId : Uuid
  jobId : Uuid
  moduleId : Uuid
  moduleType : ModuleType
  moduleSnapshotId : Uuid
  reportVersion : Nat
  expectedModuleRevision : Nat
  structuredSnapshot : JsVal
  canonicalSha256 : String
  supersedesReportVersionId : Option Uuid
  amendmentReason : Option String
  changeNotice : Option String
  issuedByActorId : Uuid

/-- `primary key (id)`, `unique (module_id, report_version)` -/
def ReportVersion.clash (a b : ReportVersion) : Prop :=
  a.id = b.id ∨ (a.moduleId = b.moduleId ∧ a.reportVersion = b.reportVersion)

instance : DecidableRel Job.clash := fun _ _ => inferInstanceAs (Decidable (_ = _))
instance : DecidableRel InspectionModule.clash := fun _ _ => inferInstanceAs (Decidable (_ ∨ _))
instance : DecidableRel ModuleSnapshot.clash := fun _ _ => inferInstanceAs (Decidable (_ ∨ _))
instance : DecidableRel ModuleApproval.clash := fun _ _ => inferInstanceAs (Decidable (_ ∨ _))
instance : DecidableRel ModuleWithdrawal.clash := fun _ _ => inferInstanceAs (Decidable (_ ∨ _))
instance : DecidableRel ReportVersion.clash := fun _ _ => inferInstanceAs (Decidable (_ ∨ _))

/-! ## Tables -/

structure ModuleTables where
  jobs : Sql.Table Job Job.clash
  inspectionModules : Sql.Table InspectionModule InspectionModule.clash
  moduleSnapshots : Sql.Table ModuleSnapshot ModuleSnapshot.clash
  moduleApprovals : Sql.Table ModuleApproval ModuleApproval.clash
  moduleWithdrawals : Sql.Table ModuleWithdrawal ModuleWithdrawal.clash
  reportVersions : Sql.Table ReportVersion ReportVersion.clash

namespace ModuleTables

def empty : ModuleTables := ⟨.empty, .empty, .empty, .empty, .empty, .empty⟩

/-- `references inspection_modules(id, organization_id, module_type)` -/
def hasModule (db : ModuleTables) (id organizationId : Uuid) (moduleType : ModuleType) : Prop :=
  ∃ m ∈ db.inspectionModules.rows,
    m.id = id ∧ m.organizationId = organizationId ∧ m.moduleType = moduleType

/-- `references module_snapshots(id, organization_id, module_type)` -/
def hasSnapshot (db : ModuleTables) (id organizationId : Uuid) (moduleType : ModuleType) : Prop :=
  ∃ s ∈ db.moduleSnapshots.rows,
    s.id = id ∧ s.organizationId = organizationId ∧ s.moduleType = moduleType

/-- `references module_approvals(id, organization_id)` -/
def hasApproval (db : ModuleTables) (id organizationId : Uuid) : Prop :=
  ∃ a ∈ db.moduleApprovals.rows, a.id = id ∧ a.organizationId = organizationId

/-- `references jobs(id, organization_id)` -/
def hasJob (db : ModuleTables) (id organizationId : Uuid) : Prop :=
  ∃ j ∈ db.jobs.rows, j.id = id ∧ j.organizationId = organizationId

/-- `references report_versions(id, organization_id, module_type)` -/
def hasReport (db : ModuleTables) (id organizationId : Uuid) (moduleType : ModuleType) : Prop :=
  ∃ r ∈ db.reportVersions.rows,
    r.id = id ∧ r.organizationId = organizationId ∧ r.moduleType = moduleType

instance (db : ModuleTables) (id org : Uuid) (t : ModuleType) : Decidable (db.hasModule id org t) :=
  inferInstanceAs (Decidable (∃ _ ∈ _, _))
instance (db : ModuleTables) (id org : Uuid) (t : ModuleType) :
    Decidable (db.hasSnapshot id org t) := inferInstanceAs (Decidable (∃ _ ∈ _, _))
instance (db : ModuleTables) (id org : Uuid) : Decidable (db.hasApproval id org) :=
  inferInstanceAs (Decidable (∃ _ ∈ _, _))
instance (db : ModuleTables) (id org : Uuid) : Decidable (db.hasJob id org) :=
  inferInstanceAs (Decidable (∃ _ ∈ _, _))
instance (db : ModuleTables) (id org : Uuid) (t : ModuleType) : Decidable (db.hasReport id org t) :=
  inferInstanceAs (Decidable (∃ _ ∈ _, _))

/-- `exists (select 1 from module_withdrawals w where w.approval_id = …)` -/
def withdrawn (db : ModuleTables) (approvalId : Uuid) : Prop :=
  ∃ w ∈ db.moduleWithdrawals.rows, w.approvalId = approvalId

instance (db : ModuleTables) (approvalId : Uuid) : Decidable (db.withdrawn approvalId) :=
  inferInstanceAs (Decidable (∃ _ ∈ _, _))

end ModuleTables

end InspectionHub.Database
