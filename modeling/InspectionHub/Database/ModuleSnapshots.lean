import InspectionHub.Database.Audit
import InspectionHub.Database.Findings
import InspectionHub.Database.Packages

/-!
# Creating module snapshots

`command_create_module_snapshot` of
`20260716000800_u10_trusted_transition_commands.sql`, with the tables it writes
and their triggers of `20260714000400_u2_integrity_and_rls.sql`. The modules,
snapshots, approvals and reports of a store stand beside what the commands on
them read and other commands write (`ModuleContext`).

Arguments may be null. A condition that compares a null is unknown and raises
nothing; what it lets through, a column that is not null refuses.
-/

namespace InspectionHub.Database

open Domain (ModuleType)

/-! ## Rows -/

structure ModuleSnapshotFinding where
  snapshotId : Uuid
  organizationId : Uuid
  findingVersionId : Uuid
  ordinal : Nat

/-- `primary key (snapshot_id, finding_version_id)`, `unique (snapshot_id, ordinal)` -/
def ModuleSnapshotFinding.clash (a b : ModuleSnapshotFinding) : Prop :=
  a.snapshotId = b.snapshotId ∧ (a.findingVersionId = b.findingVersionId ∨ a.ordinal = b.ordinal)

inductive SelectionRole where
  | source | report_selected | verifier | durability_manifest
deriving DecidableEq

def SelectionRole.ofText? : String → Option SelectionRole
  | "source" => some .source
  | "report_selected" => some .report_selected
  | "verifier" => some .verifier
  | "durability_manifest" => some .durability_manifest
  | _ => none

structure ModuleSnapshotArtifact where
  snapshotId : Uuid
  organizationId : Uuid
  artifactId : Uuid
  artifactSha256 : String
  selectionRole : SelectionRole

/-- `primary key (snapshot_id, artifact_id, selection_role)` -/
def ModuleSnapshotArtifact.clash (a b : ModuleSnapshotArtifact) : Prop :=
  a.snapshotId = b.snapshotId ∧ a.artifactId = b.artifactId ∧ a.selectionRole = b.selectionRole

inductive DeliveryPackageState where
  | confirmed | queued | cancelled | withdrawn | ready | send_requested | terminal_failure
deriving DecidableEq

structure DeliveryPackageEvent where
  organizationId : Uuid
  packageId : Uuid
  packageVersion : Nat
  state : DeliveryPackageState
  reason : Option String
  actorId : Option Uuid

/-- `unique (package_id, package_version)` -/
def DeliveryPackageEvent.clash (a b : DeliveryPackageEvent) : Prop :=
  a.packageId = b.packageId ∧ a.packageVersion = b.packageVersion

instance : DecidableRel ModuleSnapshotFinding.clash :=
  fun _ _ => inferInstanceAs (Decidable (_ ∧ _))
instance : DecidableRel ModuleSnapshotArtifact.clash :=
  fun _ _ => inferInstanceAs (Decidable (_ ∧ _))
instance : DecidableRel DeliveryPackageEvent.clash :=
  fun _ _ => inferInstanceAs (Decidable (_ ∧ _))

/-- What the commands read and other commands write. -/
structure ModuleContext where
  organizationMembers : List OrganizationMember
  findings : List Finding
  findingVersions : List FindingVersion
  artifacts : List Artifact
  artifactDurabilityReceipts : List ArtifactDurabilityReceipt
  deliveryPackageModules : List DeliveryPackageModule

/-- What the commands read and write beside the tables of modules, as other
commands do. -/
structure ModuleRecords where
  moduleSnapshotFindings : Sql.Table ModuleSnapshotFinding ModuleSnapshotFinding.clash
  moduleSnapshotArtifacts : Sql.Table ModuleSnapshotArtifact ModuleSnapshotArtifact.clash
  deliveryPackageEvents : Sql.Table DeliveryPackageEvent DeliveryPackageEvent.clash
  professionalTransitionReceipts : ReceiptTable
  privilegedActionAudit : AuditTable

structure ModuleStore extends ModuleTables where
  context : ModuleContext
  records : ModuleRecords

/-! ## The request -/

structure CreateModuleSnapshot where
  organizationId : Uuid
  moduleId : Uuid
  expectedModuleRevision : Option Int
  payload : Option JsVal
  findingVersionIds : Option (List (Option Uuid))
  artifacts : Option JsVal
  rawIdempotencyKey : Option String

/-- The arguments once they are checked, with what the payload says. -/
structure SnapshotRequest where
  expectedRevision : Nat
  payload : JsVal
  artifacts : JsVal
  items : List JsVal
  findingVersionIds : List Uuid
  idempotencyKey : String
  contentManifest : JsVal
  providedCanonicalSha : Option String

def snapshotPayloadKeys : List String :=
  ["canonicalSha256", "contentManifest", "inspectorCredentialVersion", "requirementVersion",
    "templateVersion"]

def requiredSnapshotPayloadKeys : List String :=
  ["contentManifest", "inspectorCredentialVersion", "requirementVersion", "templateVersion"]

def invalidSnapshotEnvelope : Sql.Error := ⟨"22023", "invalid snapshot command envelope"⟩

/-- `length(btrim(payload ->> key)) not between 1 and 240` -/
def versionOutOfBounds (payload : JsVal) (key : String) : Option Bool :=
  (Jsonb.getText? payload key).map fun t => ¬ trimmedWithin 1 240 t

/-- The checks of the command that read its arguments alone. -/
def CreateModuleSnapshot.validate (columnSize : JsVal → Nat) (c : CreateModuleSnapshot) :
    Except Sql.Error SnapshotRequest := do
  let (some expected, some payload, some artifacts, some key) :=
      (c.expectedModuleRevision, c.payload, c.artifacts, c.rawIdempotencyKey)
    | throw invalidSnapshotEnvelope
  let (some fields, some items) := (Jsonb.object? payload, Jsonb.array? artifacts)
    | throw invalidSnapshotEnvelope
  let ids := c.findingVersionIds.getD []
  Sql.raiseIf (expected < 0 ∨ ¬ (16 ≤ key.length ∧ key.length ≤ 160) ∨ 500 < ids.length ∨
      2000 < items.length ∨ 1048576 < columnSize payload ∨ 2097152 < columnSize artifacts)
    invalidSnapshotEnvelope.errcode invalidSnapshotEnvelope.message
  let contentManifest := (Jsonb.get? payload "contentManifest").getD .null
  Sql.raiseIf (Jsonb.without fields snapshotPayloadKeys ≠ [] ∨
      ¬ Jsonb.hasAll payload requiredSnapshotPayloadKeys ∨
      (Jsonb.object? contentManifest).isNone) "22023"
    "snapshot payload has unknown, missing or mistyped fields"
  let providedCanonicalSha := Jsonb.getText? payload "canonicalSha256"
  Sql.raiseIf (Sql.anyTrue [
      providedCanonicalSha.map fun t => !Js.isHexDigest t,
      versionOutOfBounds payload "inspectorCredentialVersion",
      versionOutOfBounds payload "requirementVersion",
      versionOutOfBounds payload "templateVersion"]) "22023" "invalid snapshot content"
  -- `count(distinct …)` does not count nulls
  let known := ids.filterMap id
  Sql.raiseIf (ids.length ≠ known.dedup.length) "22023"
    "snapshot finding version ids must be unique"
  return ⟨expected.toNat, payload, artifacts, items, known, key, contentManifest,
    providedCanonicalSha⟩

/-! ## Digests -/

section

variable (sha256 : String → String)

def findingVersionIdsJson (q : SnapshotRequest) : JsVal :=
  .arr (q.findingVersionIds.map fun id => .str id.text)

/-- `request_fingerprint`, its keys in the order `jsonb` keeps them. -/
def SnapshotRequest.fingerprint (actorId moduleId : Uuid) (q : SnapshotRequest) : String :=
  sha256 (Jsonb.text (.obj [("actorId", .str actorId.text), ("payload", q.payload),
    ("moduleId", .str moduleId.text), ("artifacts", q.artifacts),
    ("expectedRevision", .num (.int q.expectedRevision)),
    ("findingVersionIds", findingVersionIdsJson q)]))

def withoutCanonicalSha : JsVal → JsVal
  | .obj l => .obj (Jsonb.without l ["canonicalSha256"])
  | v => v

/-- `canonical_sha` -/
def SnapshotRequest.canonicalSha (organizationId : Uuid) (module : InspectionModule)
    (q : SnapshotRequest) : String :=
  sha256 (Jsonb.text (.obj [("jobId", .str module.jobId.text),
    ("payload", withoutCanonicalSha q.payload), ("moduleId", .str module.id.text),
    ("artifacts", q.artifacts), ("moduleType", .str module.moduleType.text),
    ("organizationId", .str organizationId.text),
    ("findingVersionIds", findingVersionIdsJson q),
    ("expectedModuleRevision", .num (.int module.revision))]))

end

namespace ModuleTables

/-! ## Modules and their pointers -/

/-- `u2_validate_module_current_pointers` -/
def validateModuleCurrentPointers (db : ModuleTables) (m : InspectionModule) :
    Except Sql.Error Unit := do
  Sql.raiseIf (m.currentSnapshotId.any fun id => !db.moduleSnapshots.rows.any fun s =>
      s.id = id ∧ s.organizationId = m.organizationId ∧ s.moduleId = m.id ∧
        s.moduleType = m.moduleType) "23514"
    "current snapshot must belong to the same module and tenant"
  Sql.raiseIf (m.currentReportVersionId.any fun id => !db.reportVersions.rows.any fun r =>
      r.id = id ∧ r.organizationId = m.organizationId ∧ r.moduleId = m.id ∧
        r.moduleType = m.moduleType) "23514"
    "current report version must belong to the same module and tenant"

/-- The columns of a module that an update sets. -/
structure ModuleColumns where
  assignedInspectorActorId : Uuid
  state : InspectionModuleState
  revision : Nat
  currentSnapshotId : Option Uuid
  currentReportVersionId : Option Uuid

/-- A row after an update of the module. -/
def updated (id organizationId : Uuid) (f : InspectionModule → ModuleColumns)
    (m : InspectionModule) : InspectionModule :=
  if m.id = id ∧ m.organizationId = organizationId then
    { m with
      assignedInspectorActorId := (f m).assignedInspectorActorId
      state := (f m).state
      revision := (f m).revision
      currentSnapshotId := (f m).currentSnapshotId
      currentReportVersionId := (f m).currentReportVersionId }
  else m

@[simp] theorem updated_id (id organizationId : Uuid) (f : InspectionModule → ModuleColumns)
    (m : InspectionModule) : (updated id organizationId f m).id = m.id := by
  unfold updated
  split <;> rfl

@[simp] theorem updated_jobId (id organizationId : Uuid) (f : InspectionModule → ModuleColumns)
    (m : InspectionModule) : (updated id organizationId f m).jobId = m.jobId := by
  unfold updated
  split <;> rfl

@[simp] theorem updated_moduleType (id organizationId : Uuid)
    (f : InspectionModule → ModuleColumns) (m : InspectionModule) :
    (updated id organizationId f m).moduleType = m.moduleType := by
  unfold updated
  split <;> rfl

theorem updated_clash (id organizationId : Uuid) (f : InspectionModule → ModuleColumns)
    (a b : InspectionModule)
    (h : (updated id organizationId f a).clash (updated id organizationId f b)) : a.clash b := by
  unfold InspectionModule.clash at h ⊢
  simpa using h

/-- `update inspection_modules set … where id = … and organization_id = …` -/
def updateModule (db : ModuleTables) (id organizationId : Uuid)
    (f : InspectionModule → ModuleColumns) : Except Sql.Error ModuleTables := do
  (db.inspectionModules.rows.filter fun m => m.id = id ∧ m.organizationId = organizationId).forM
    fun m => db.validateModuleCurrentPointers (updated id organizationId f m)
  return { db with
    inspectionModules := db.inspectionModules.map (updated id organizationId f)
      (updated_clash id organizationId f) }

/-- The module under its key, in the tenant. -/
def module? (db : ModuleTables) (id organizationId : Uuid) : Option InspectionModule :=
  db.inspectionModules.rows.find? fun m => m.id = id ∧ m.organizationId = organizationId

/-! ## Inserting a snapshot -/

/-- `u2_validate_snapshot` -/
def validateSnapshot (db : ModuleTables) (s : ModuleSnapshot) : Except Sql.Error Unit :=
  match db.module? s.moduleId s.organizationId with
  | none => throw ⟨"23514", "snapshot tenant, job and module identity must agree"⟩
  | some m => do
      Sql.raiseIf (m.jobId ≠ s.jobId ∨ m.moduleType ≠ s.moduleType) "23514"
        "snapshot tenant, job and module identity must agree"
      Sql.raiseIf (m.revision ≠ s.expectedModuleRevision) "40001" "stale module revision"
      Sql.raiseIf (m.assignedInspectorActorId ≠ s.inspectorActorId) "42501"
        "only the assigned inspector may author a module snapshot"

/-- `insert into module_snapshots` -/
def insertSnapshot (db : ModuleTables) (s : ModuleSnapshot) : Except Sql.Error ModuleTables := do
  db.validateSnapshot s
  Sql.raiseIf (s.snapshotVersion = 0 ∨ (Jsonb.object? s.contentManifest).isNone) "23514"
    "module_snapshots"
  let next ← db.moduleSnapshots.insert "module_snapshots" s
  Sql.raiseIf (¬ db.hasJob s.jobId s.organizationId ∨
      ¬ db.hasModule s.moduleId s.organizationId s.moduleType) "23503" "module_snapshots"
  return { db with moduleSnapshots := next.1 }

end ModuleTables

namespace ModuleStore

/-! ## What a snapshot selects -/

/-- The version is the confirmed current one of a finding of the module. -/
def isCurrentFinding (db : ModuleStore) (versionId organizationId moduleId : Uuid) : Bool :=
  db.context.findingVersions.any fun version => db.context.findings.any fun finding =>
    finding.id = version.findingId ∧ finding.organizationId = version.organizationId ∧
      version.id = versionId ∧ version.organizationId = organizationId ∧
      finding.moduleId = moduleId ∧ finding.currentVersionId = some version.id ∧
      finding.state = .confirmed ∧ version.isConfirmed = true ∧
      version.verifierState.isIneligible = false

/-- `u2_validate_snapshot_finding` -/
def validSnapshotFinding (db : ModuleStore) (row : ModuleSnapshotFinding) : Bool :=
  db.moduleSnapshots.rows.any fun s => db.context.findingVersions.any fun version =>
    db.context.findings.any fun finding =>
      version.id = row.findingVersionId ∧ version.organizationId = row.organizationId ∧
        finding.id = version.findingId ∧ finding.organizationId = version.organizationId ∧
        s.id = row.snapshotId ∧ s.organizationId = row.organizationId ∧
        finding.moduleId = s.moduleId ∧ version.moduleType = s.moduleType ∧
        version.isConfirmed = true ∧ version.verifierState.isIneligible = false

/-- One pass of the loop over the findings. -/
def selectFinding (organizationId moduleId snapshotId : Uuid) (db : ModuleStore)
    (item : Uuid × Nat) : Except Sql.Error ModuleStore := do
  Sql.raiseIf (¬ db.isCurrentFinding item.1 organizationId moduleId) "23514"
    "snapshot may include only current confirmed publication-eligible finding versions"
  let row : ModuleSnapshotFinding := ⟨snapshotId, organizationId, item.1, item.2⟩
  Sql.raiseIf (¬ db.validSnapshotFinding row) "23514"
    "snapshot findings must be confirmed, current-module, publication-eligible versions"
  let next ← db.records.moduleSnapshotFindings.insert "module_snapshot_findings" row
  return { db with records := { db.records with moduleSnapshotFindings := next.1 } }

/-- The artifact of the job has the hash, and a receipt observed it. -/
def isDurableAs (db : ModuleStore) (id organizationId jobId : Uuid) (sha : String) : Bool :=
  db.context.artifacts.any fun artifact => db.context.artifactDurabilityReceipts.any fun receipt =>
    receipt.artifactId = artifact.id ∧ receipt.organizationId = artifact.organizationId ∧
      receipt.observedSha256 = artifact.contentSha256 ∧
      receipt.observedByteSize = artifact.byteSize ∧ artifact.id = id ∧
      artifact.organizationId = organizationId ∧ artifact.jobId = jobId ∧
      artifact.contentSha256 = sha

/-- `u2_validate_artifact_relationships` for `module_snapshot_artifacts` -/
def validSnapshotArtifact (db : ModuleStore) (row : ModuleSnapshotArtifact) : Bool :=
  db.moduleSnapshots.rows.any fun s => db.context.artifacts.any fun a =>
    a.id = row.artifactId ∧ a.organizationId = row.organizationId ∧ s.id = row.snapshotId ∧
      s.organizationId = row.organizationId ∧ a.jobId = s.jobId ∧
      a.contentSha256 = row.artifactSha256

/-- One pass of the loop over the artifacts. -/
def selectArtifact (organizationId jobId snapshotId : Uuid) (db : ModuleStore) (item : JsVal) :
    Except Sql.Error ModuleStore := do
  let some fields := Jsonb.object? item
    | throw ⟨"22023", "snapshot artifact item has unknown or missing fields"⟩
  Sql.raiseIf (Jsonb.without fields ["artifactId", "artifactSha256", "selectionRole"] ≠ [] ∨
      ¬ Jsonb.hasAll item ["artifactId", "artifactSha256", "selectionRole"]) "22023"
    "snapshot artifact item has unknown or missing fields"
  let artifactId ← castUuid (Jsonb.getText? item "artifactId")
  let sha := Jsonb.getText? item "artifactSha256"
  let role := Jsonb.getText? item "selectionRole"
  -- of a null artifact or hash there is no durable row
  let durable := (artifactId.bind fun id => sha.map (db.isDurableAs id organizationId jobId)).getD
    false
  Sql.raiseIf (Sql.anyTrue [sha.map fun t => !Js.isHexDigest t,
      role.map fun t => (SelectionRole.ofText? t).isNone, some (!durable)]) "23514"
    "snapshot artifacts must bind exact durable evidence from the same job"
  let artifactId ← Sql.notNull "artifact_id" artifactId
  let sha ← Sql.notNull "artifact_sha256" sha
  let role ← Sql.notNull "selection_role" (role.bind SelectionRole.ofText?)
  let row : ModuleSnapshotArtifact := ⟨snapshotId, organizationId, artifactId, sha, role⟩
  Sql.raiseIf (¬ db.validSnapshotArtifact row) "23514"
    "snapshot artifact must belong to the same job and bind its exact checksum"
  let next ← db.records.moduleSnapshotArtifacts.insert "module_snapshot_artifacts" row
  return { db with records := { db.records with moduleSnapshotArtifacts := next.1 } }

/-! ## The command -/

section

variable (columnSize : JsVal → Nat) (sha256 : String → String)

/-- The columns a module has once it has the snapshot. -/
def reviewing (module : InspectionModule) (snapshotId : Uuid) (m : InspectionModule) :
    ModuleTables.ModuleColumns where
  assignedInspectorActorId := m.assignedInspectorActorId
  state := .review
  revision := module.revision + 1
  currentSnapshotId := some snapshotId
  currentReportVersionId := m.currentReportVersionId

/-- What follows the idempotency check. -/
def createSnapshot (actorId snapshotId : Uuid) (c : CreateModuleSnapshot) (q : SnapshotRequest)
    (db : ModuleStore) : Except Sql.Error (Uuid × ModuleStore) := do
  let some module := db.module? c.moduleId c.organizationId
    | throw ⟨"42501", "snapshot command module identity is not assigned to the caller"⟩
  Sql.raiseIf (module.assignedInspectorActorId ≠ actorId) "42501"
    "snapshot command module identity is not assigned to the caller"
  Sql.raiseIf (module.state = .withdrawn) "55000"
    "a withdrawn module cannot create another snapshot"
  Sql.raiseIf (module.revision ≠ q.expectedRevision) "40001" "stale module revision"
  let canonicalSha := q.canonicalSha sha256 c.organizationId module
  Sql.raiseIf (q.providedCanonicalSha.any (· ≠ canonicalSha)) "23514"
    "snapshot canonical hash does not match the server projection"
  let nextVersion := Sql.maxOf ((db.moduleSnapshots.rows.filter fun s =>
    s.moduleId = c.moduleId).map ModuleSnapshot.snapshotVersion) + 1
  let text := Jsonb.getText? q.payload
  let credential ← Sql.notNull "inspector_credential_version" (text "inspectorCredentialVersion")
  let requirement ← Sql.notNull "requirement_version" (text "requirementVersion")
  let template ← Sql.notNull "template_version" (text "templateVersion")
  let tables ← db.insertSnapshot
    ⟨snapshotId, c.organizationId, module.jobId, c.moduleId, module.moduleType, nextVersion,
      module.revision, canonicalSha, q.contentManifest, actorId, credential, requirement,
      template⟩
  let db := { db with toModuleTables := tables }
  let db ← (q.findingVersionIds.zipIdx 1).foldlM
    (selectFinding c.organizationId c.moduleId snapshotId) db
  let db ← q.items.foldlM (selectArtifact c.organizationId module.jobId snapshotId) db
  let tables ← db.updateModule c.moduleId c.organizationId (reviewing module snapshotId)
  let receipts ← db.records.professionalTransitionReceipts.insert
    "professional_transition_receipts"
    ⟨c.organizationId, actorId, .create_module_snapshot, sha256 q.idempotencyKey,
      q.fingerprint sha256 actorId c.moduleId, snapshotId⟩
  return (snapshotId, { db with
    toModuleTables := tables
    records := { db.records with professionalTransitionReceipts := receipts.1 } })

/-- `command_create_module_snapshot`, called by `actorId?` and generating
`snapshotId`. -/
def commandCreateModuleSnapshot (actorId? : Option Uuid) (snapshotId : Uuid)
    (c : CreateModuleSnapshot) (db : ModuleStore) : Except Sql.Error (Uuid × ModuleStore) := do
  let some actorId := actorId?
    | throw ⟨"42501", "only the assigned active inspector may create a module snapshot"⟩
  Sql.raiseIf (¬ isAssignedModuleInspector db.inspectionModules.rows
      db.context.organizationMembers (some actorId) c.organizationId c.moduleId) "42501"
    "only the assigned active inspector may create a module snapshot"
  let q ← c.validate columnSize
  match db.records.professionalTransitionReceipts.prior? c.organizationId .create_module_snapshot
      (sha256 q.idempotencyKey) with
  | some prior =>
      Sql.raiseIf (prior.actorId ≠ actorId ∨
          prior.requestFingerprintSha256 ≠ q.fingerprint sha256 actorId c.moduleId) "23505"
        "idempotency key was already used for another snapshot request"
      return (prior.resultRecordId, db)
  | none => createSnapshot sha256 actorId snapshotId c q db

end

end ModuleStore

end InspectionHub.Database
