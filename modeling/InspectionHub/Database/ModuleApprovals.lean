import InspectionHub.Database.ModuleSnapshots
import InspectionHub.Lib.TSys

/-!
# Approvals, withdrawals and report versions

`command_approve_module` and `command_withdraw_module` of
`20260715000700_u10_security_operations.sql`, and the inserts into
`report_versions` and updates of `inspection_modules` that the triggers of
`20260714000400_u2_integrity_and_rls.sql` and the constraints of the tables
accept.
-/

namespace InspectionHub.Database

open Domain (ModuleType)

namespace ModuleTables

/-! ## Inserting -/

/-- `u2_validate_approval`, but for its check of the snapshot's findings. -/
def validateApproval (db : ModuleTables) (a : ModuleApproval) : Except Sql.Error Unit := do
  let module? := db.module? a.moduleId a.organizationId
  match db.moduleSnapshots.rows.find? fun s =>
      s.id = a.snapshotId ∧ s.organizationId = a.organizationId with
  | none => throw ⟨"23514", "approval must bind the exact module snapshot hash"⟩
  | some s => do
      Sql.raiseIf (s.moduleId ≠ a.moduleId ∨ s.moduleType ≠ a.moduleType ∨
          s.canonicalSha256 ≠ a.snapshotSha256) "23514"
        "approval must bind the exact module snapshot hash"
      -- a module that is not there has no revision to differ from
      Sql.raiseIf (module?.any (·.revision ≠ a.expectedModuleRevision)) "40001"
        "stale module revision"
      Sql.raiseIf (module?.bind (·.currentSnapshotId) ≠ some a.snapshotId) "23514"
        "approval must bind the exact current module snapshot"
      Sql.raiseIf (module?.any (·.assignedInspectorActorId ≠ a.approvedByActorId)) "42501"
        "only the assigned inspector may approve this module"

/-- `u2_validate_report_version` -/
def validateReportVersion (db : ModuleTables) (r : ReportVersion) : Except Sql.Error Unit := do
  let some m := db.module? r.moduleId r.organizationId
    | throw ⟨"40001", "report version is stale or does not bind the current module snapshot"⟩
  Sql.raiseIf (m.jobId ≠ r.jobId ∨ m.moduleType ≠ r.moduleType ∨
      m.currentSnapshotId ≠ some r.moduleSnapshotId ∨ m.revision ≠ r.expectedModuleRevision)
    "40001" "report version is stale or does not bind the current module snapshot"
  Sql.raiseIf (¬ ∃ a ∈ db.moduleApprovals.rows,
      a.moduleId = r.moduleId ∧ a.snapshotId = r.moduleSnapshotId ∧ ¬ db.withdrawn a.id) "23514"
    "report version requires a current, non-withdrawn approval"
  match r.supersedesReportVersionId with
  | none => return
  | some id =>
      match db.reportVersions.rows.find? fun prior =>
          prior.id = id ∧ prior.organizationId = r.organizationId with
      | none => throw ⟨"23514", "amendment must preserve a contiguous same-module version chain"⟩
      | some prior =>
          Sql.raiseIf (prior.moduleId ≠ r.moduleId ∨
              (prior.reportVersion : Int) ≠ (r.reportVersion : Int) - 1) "23514"
            "amendment must preserve a contiguous same-module version chain"

/-- The check constraints of `report_versions`; a null in the one of the chain
leaves it unknown, which is not a violation. -/
def reportChecked (r : ReportVersion) : Bool :=
  0 < r.reportVersion && Js.isHexDigest r.canonicalSha256 &&
  (Jsonb.object? r.structuredSnapshot).isSome &&
  ((r.supersedesReportVersionId.isNone && r.reportVersion = 1 && r.amendmentReason.isNone &&
      r.changeNotice.isNone) ||
    (r.supersedesReportVersionId.isSome && 1 < r.reportVersion &&
      r.amendmentReason.all (btrim · ≠ "") && r.changeNotice.all (btrim · ≠ "")))

/-- `insert into report_versions` -/
def insertReportVersion (db : ModuleTables) (r : ReportVersion) :
    Except Sql.Error ModuleTables := do
  db.validateReportVersion r
  Sql.raiseIf (¬ reportChecked r) "23514" "report_versions"
  let next ← db.reportVersions.insert "report_versions" r
  Sql.raiseIf (¬ db.hasJob r.jobId r.organizationId ∨
      ¬ db.hasModule r.moduleId r.organizationId r.moduleType ∨
      ¬ db.hasSnapshot r.moduleSnapshotId r.organizationId r.moduleType) "23503" "report_versions"
  return { db with reportVersions := next.1 }

/-- `insert into inspection_modules` -/
def insertModule (db : ModuleTables) (m : InspectionModule) : Except Sql.Error ModuleTables := do
  db.validateModuleCurrentPointers m
  let next ← db.inspectionModules.insert "inspection_modules" m
  Sql.raiseIf (¬ db.hasJob m.jobId m.organizationId) "23503" "inspection_modules"
  return { db with inspectionModules := next.1 }

/-- `insert into jobs` -/
def insertJob (db : ModuleTables) (j : Job) : Except Sql.Error ModuleTables := do
  let next ← db.jobs.insert "jobs" j
  return { db with jobs := next.1 }

end ModuleTables

/-! ## Requests -/

structure ApproveModule where
  organizationId : Uuid
  moduleId : Uuid
  snapshotId : Option Uuid
  snapshotSha256 : Option String
  expectedModuleRevision : Option Int
  rawIdempotencyKey : String

structure WithdrawModule where
  organizationId : Uuid
  moduleId : Uuid
  snapshotId : Option Uuid
  approvalId : Option Uuid
  expectedModuleRevision : Option Int
  reason : Option String
  rawIdempotencyKey : String

/-- `n::text` -/
def intText (n : Int) : String := String.ofList (Json.intText n)

section

variable (sha256 : String → String)

def ApproveModule.attempt (c : ApproveModule) : Attempt where
  organizationId := c.organizationId
  action := .approve_module
  idempotencySha := sha256 c.rawIdempotencyKey
  fingerprintSha := sha256 (Sql.concatWs "|" [some PrivilegedAction.approve_module.text,
    some c.organizationId.text, some c.moduleId.text, c.snapshotId.map Uuid.text,
    c.snapshotSha256, c.expectedModuleRevision.map intText])

def WithdrawModule.attempt (c : WithdrawModule) : Attempt where
  organizationId := c.organizationId
  action := .withdraw_report
  idempotencySha := sha256 c.rawIdempotencyKey
  fingerprintSha := sha256 (Sql.concatWs "|" [some PrivilegedAction.withdraw_report.text,
    some c.organizationId.text, some c.moduleId.text, c.snapshotId.map Uuid.text,
    c.approvalId.map Uuid.text, c.expectedModuleRevision.map intText, c.reason.map btrim])

end

namespace ModuleStore

/-- A finding of the snapshot is not confirmed, or is ineligible. -/
def hasUnapprovedFinding (db : ModuleStore) (snapshotId : Uuid) : Bool :=
  db.records.moduleSnapshotFindings.rows.any fun sf => db.context.findingVersions.any fun fv =>
    fv.id = sf.findingVersionId ∧ sf.snapshotId = snapshotId ∧
      (fv.confirmedAt.isNone = true ∨ fv.verifierState.isIneligible = true)

/-- `insert into module_approvals` -/
def insertApproval (db : ModuleStore) (a : ModuleApproval) : Except Sql.Error ModuleStore := do
  db.validateApproval a
  Sql.raiseIf (db.hasUnapprovedFinding a.snapshotId) "23514"
    "snapshot includes an unapproved, rejected or stale finding"
  Sql.raiseIf (¬ Js.isHexDigest a.snapshotSha256) "23514" "module_approvals"
  let next ← db.moduleApprovals.insert "module_approvals" a
  Sql.raiseIf (¬ db.hasModule a.moduleId a.organizationId a.moduleType ∨
      ¬ db.hasSnapshot a.snapshotId a.organizationId a.moduleType) "23503" "module_approvals"
  return { db with moduleApprovals := next.1 }

/-- One pass of the loop of `u2_cancel_packages_for_withdrawal`. -/
def cancelPackage (actorId : Uuid) (events : Sql.Table DeliveryPackageEvent
    DeliveryPackageEvent.clash) (e : Uuid × Uuid × Nat) :
    Except Sql.Error (Sql.Table DeliveryPackageEvent DeliveryPackageEvent.clash) := do
  let next ← events.insert "delivery_package_events"
    ⟨e.2.1, e.1, e.2.2, .withdrawn, some "Professional module withdrawn before delivery",
      some actorId⟩
  return next.1

/-- `u2_cancel_packages_for_withdrawal`: the rows are chosen and numbered
before the first event is inserted. -/
def cancelPackagesForWithdrawal (db : ModuleStore) (w : ModuleWithdrawal) :
    Except Sql.Error ModuleStore := do
  let packages := (db.context.deliveryPackageModules.filter fun pm =>
      pm.moduleId = w.moduleId ∧ pm.moduleSnapshotId = w.snapshotId).map fun pm =>
    (pm.packageId, pm.organizationId, Sql.maxOf ((db.records.deliveryPackageEvents.rows.filter
      fun e => e.packageId = pm.packageId).map DeliveryPackageEvent.packageVersion) + 1)
  let events ← packages.foldlM (cancelPackage w.withdrawnByActorId) db.records.deliveryPackageEvents
  return { db with records := { db.records with deliveryPackageEvents := events } }

/-- `insert into module_withdrawals` -/
def insertWithdrawal (db : ModuleStore) (w : ModuleWithdrawal) : Except Sql.Error ModuleStore := do
  Sql.raiseIf (¬ trimmedWithin 1 2000 w.reason) "23514" "module_withdrawals"
  let next ← db.moduleWithdrawals.insert "module_withdrawals" w
  Sql.raiseIf (¬ db.hasModule w.moduleId w.organizationId w.moduleType ∨
      ¬ db.hasSnapshot w.snapshotId w.organizationId w.moduleType ∨
      ¬ db.hasApproval w.approvalId w.organizationId) "23503" "module_withdrawals"
  { db with moduleWithdrawals := next.1 }.cancelPackagesForWithdrawal w

def withAudit (db : ModuleStore) (audit : AuditTable) : ModuleStore :=
  { db with records := { db.records with privilegedActionAudit := audit } }

section

variable (sha256 : String → String)

/-- `command_approve_module` -/
def commandApproveModule (r : Request) (c : ApproveModule) (db : ModuleStore) :
    Except Sql.Error (Option Uuid × ModuleStore) := do
  Sql.raiseIf (¬ (16 ≤ c.rawIdempotencyKey.length ∧ c.rawIdempotencyKey.length ≤ 160)) "22023"
    "invalid idempotency key"
  Sql.raiseIf (c.snapshotSha256.any fun sha => !Js.isHexDigest sha) "22023"
    "invalid snapshot digest"
  let a := c.attempt sha256
  privileged db.records.privilegedActionAudit db db.withAudit a r c.snapshotSha256 do
    let some module := db.module? c.moduleId c.organizationId
      | throw ⟨"P0002", "query returned no rows"⟩
    let snapshotId ← Sql.notNull "snapshot_id" c.snapshotId
    let sha ← Sql.notNull "snapshot_sha256" c.snapshotSha256
    let expected ← Sql.notNull "expected_module_revision" c.expectedModuleRevision
    let actorId ← Sql.notNull "approved_by_actor_id" r.actorId
    Sql.raiseIf (expected < 0) "23514" "module_approvals"
    let db ← db.insertApproval
      ⟨r.newId, c.organizationId, c.moduleId, module.moduleType, snapshotId, sha, expected.toNat,
        actorId⟩
    let audit ← db.records.privilegedActionAudit.complete a r "module_approved" (some sha) r.newId
    return (some r.newId, db.withAudit audit)

/-- The module and the approval of it that a withdrawal names. -/
def boundApproval? (db : ModuleStore) (c : WithdrawModule) :
    Option (InspectionModule × ModuleApproval) :=
  (Sql.join (fun m a => a.organizationId = m.organizationId ∧ a.moduleId = m.id ∧
      a.moduleType = m.moduleType ∧ c.snapshotId = some a.snapshotId)
    db.inspectionModules.rows db.moduleApprovals.rows).find? fun (m, a) =>
      m.id = c.moduleId ∧ m.organizationId = c.organizationId ∧ c.approvalId = some a.id ∧
        c.expectedModuleRevision = some (a.expectedModuleRevision : Int)

/-- `command_withdraw_module` -/
def commandWithdrawModule (r : Request) (c : WithdrawModule) (db : ModuleStore) :
    Except Sql.Error (Option Uuid × ModuleStore) := do
  Sql.raiseIf (¬ (16 ≤ c.rawIdempotencyKey.length ∧ c.rawIdempotencyKey.length ≤ 160) ∨
      c.reason.any fun reason => ¬ trimmedWithin 1 2000 reason) "22023"
    "invalid withdrawal request"
  let a := c.attempt sha256
  let targetSha := c.approvalId.map fun id => sha256 id.text
  privileged db.records.privilegedActionAudit db db.withAudit a r targetSha do
    match db.boundApproval? c with
    | none =>
        let audit ← db.records.privilegedActionAudit.deny a r "approval_binding_mismatch" targetSha
        return (none, db.withAudit audit)
    | some (module, approval) =>
        let reason ← Sql.notNull "reason" (c.reason.map btrim)
        let actorId ← Sql.notNull "withdrawn_by_actor_id" r.actorId
        let db ← db.insertWithdrawal
          ⟨r.newId, c.organizationId, c.moduleId, module.moduleType, approval.snapshotId,
            approval.id, approval.expectedModuleRevision, reason, actorId⟩
        let audit ← db.records.privilegedActionAudit.complete a r "module_withdrawn"
          (some approval.snapshotSha256) r.newId
        return (some r.newId, db.withAudit audit)

end

/-! ## Runs -/

/-- A call of a command, or a statement on the tables of modules. -/
inductive ModuleStep where
  | book (j : Job)
  | commission (m : InspectionModule)
  | createSnapshot (actorId : Option Uuid) (snapshotId : Uuid) (c : CreateModuleSnapshot)
  | approve (r : Request) (c : ApproveModule)
  | withdraw (r : Request) (c : WithdrawModule)
  | report (r : ReportVersion)
  | update (id organizationId : Uuid) (f : InspectionModule → ModuleTables.ModuleColumns)
  /-- The other commands, at the rows they share with these. -/
  | other (context : ModuleContext) (records : ModuleRecords)

variable (columnSize : JsVal → Nat) (sha256 : String → String)

def outcome (db : ModuleStore) : ModuleStep → Except Sql.Error ModuleStore
  | .book j => (db.insertJob j).map fun tables => { db with toModuleTables := tables }
  | .commission m => (db.insertModule m).map fun tables => { db with toModuleTables := tables }
  | .createSnapshot actorId snapshotId c =>
      (commandCreateModuleSnapshot columnSize sha256 actorId snapshotId c db).map Prod.snd
  | .approve r c => (commandApproveModule sha256 r c db).map Prod.snd
  | .withdraw r c => (commandWithdrawModule sha256 r c db).map Prod.snd
  | .report r => (db.insertReportVersion r).map fun tables => { db with toModuleTables := tables }
  | .update id organizationId f =>
      (db.updateModule id organizationId f).map fun tables => { db with toModuleTables := tables }
  | .other context records => .ok { db with context := context, records := records }

/-- A raised error rolls the step back. -/
def perform (db : ModuleStore) (step : ModuleStep) : ModuleStore :=
  match outcome columnSize sha256 db step with
  | .ok db' => db'
  | .error _ => db

def empty : ModuleStore where
  toModuleTables := .empty
  context := ⟨[], [], [], [], [], []⟩
  records := ⟨.empty, .empty, .empty, .empty, .empty⟩

def moduleSystem : TSys ModuleStore ModuleStep := .ofFun .empty (perform columnSize sha256)

end ModuleStore

end InspectionHub.Database
