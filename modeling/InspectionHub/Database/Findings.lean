import InspectionHub.Database.Artifacts
import InspectionHub.Lib.Jsonb

/-!
# Appending finding versions

`findings`, `finding_versions` and `finding_evidence` of
`20260714000200_u2_inspection_domain.sql` with their triggers of
`20260714000400_u2_integrity_and_rls.sql`, and `command_append_finding_version`
of `20260716000800_u10_trusted_transition_commands.sql`.

A condition of the command that compares a value the payload leaves out is
unknown and raises nothing; what it lets through, a column that is not null
refuses. The storage size of a value is a parameter (`columnSize`), as is the
digest.
-/

namespace InspectionHub.Database

open Domain (ModuleType)

/-! ## Rows -/

inductive FindingState where
  | draft | provisional | confirmed | superseded | removed
deriving DecidableEq

structure Finding where
  id : Uuid
  organizationId : Uuid
  moduleId : Uuid
  moduleType : ModuleType
  state : FindingState
  revision : Nat
  currentVersionId : Option Uuid
deriving DecidableEq

def Finding.clash (a b : Finding) : Prop := a.id = b.id

inductive AuthorshipOrigin where
  | human | ai_provisional | human_edited_ai
deriving DecidableEq

def AuthorshipOrigin.ofText? : String → Option AuthorshipOrigin
  | "human" => some .human
  | "ai_provisional" => some .ai_provisional
  | "human_edited_ai" => some .human_edited_ai
  | _ => none

inductive VerifierState where
  | not_required | pending | accepted | rejected | exhausted | stale
deriving DecidableEq

def VerifierState.ofText? : String → Option VerifierState
  | "not_required" => some .not_required
  | "pending" => some .pending
  | "accepted" => some .accepted
  | "rejected" => some .rejected
  | "exhausted" => some .exhausted
  | "stale" => some .stale
  | _ => none

/-- `verifier_state in ('pending', 'rejected', 'exhausted', 'stale')` -/
def VerifierState.isIneligible : VerifierState → Bool
  | .pending | .rejected | .exhausted | .stale => true
  | .not_required | .accepted => false

structure FindingVersion where
  id : Uuid
  organizationId : Uuid
  findingId : Uuid
  moduleType : ModuleType
  version : Nat
  expectedFindingRevision : Nat
  authorshipOrigin : AuthorshipOrigin
  taxonomyCode : String
  observation : String
  apparentExtent : Option String
  significance : Option String
  qualifiedHypothesis : Option String
  uncertainty : String
  furtherInvestigation : Option String
  packetRevisionId : Option Uuid
  modelVersion : Option String
  promptVersion : Option String
  skillVersion : Option String
  verifierState : VerifierState
  verifierVerdictArtifactId : Option Uuid
  confirmedByActorId : Option Uuid
  confirmedAt : Option Int
  contentSha256 : String
deriving DecidableEq

/-- `primary key (id)`, `unique (finding_id, version)` -/
def FindingVersion.clash (a b : FindingVersion) : Prop :=
  a.id = b.id ∨ (a.findingId = b.findingId ∧ a.version = b.version)

/-- `confirmed_at is not null and confirmed_by_actor_id is not null` -/
def FindingVersion.isConfirmed (v : FindingVersion) : Bool :=
  v.confirmedAt.isSome && v.confirmedByActorId.isSome

inductive EvidenceRole where
  | overview | close_up | context | contradiction | measurement | report_selected
deriving DecidableEq

def EvidenceRole.ofText? : String → Option EvidenceRole
  | "overview" => some .overview
  | "close_up" => some .close_up
  | "context" => some .context
  | "contradiction" => some .contradiction
  | "measurement" => some .measurement
  | "report_selected" => some .report_selected
  | _ => none

structure FindingEvidence where
  organizationId : Uuid
  findingVersionId : Uuid
  artifactId : Uuid
  evidenceRole : EvidenceRole
  ordinal : Nat
deriving DecidableEq

/-- `unique (finding_version_id, artifact_id, evidence_role)`,
`unique (finding_version_id, ordinal)` -/
def FindingEvidence.clash (a b : FindingEvidence) : Prop :=
  a.findingVersionId = b.findingVersionId ∧
    ((a.artifactId = b.artifactId ∧ a.evidenceRole = b.evidenceRole) ∨ a.ordinal = b.ordinal)

instance : DecidableRel Finding.clash := fun _ _ => inferInstanceAs (Decidable (_ = _))
instance : DecidableRel FindingVersion.clash := fun _ _ => inferInstanceAs (Decidable (_ ∨ _))
instance : DecidableRel FindingEvidence.clash := fun _ _ => inferInstanceAs (Decidable (_ ∧ _))

/-- What the command reads and other commands write. -/
structure FindingContext where
  inspectionModules : Sql.Table InspectionModule InspectionModule.clash
  organizationMembers : List OrganizationMember
  artifacts : List Artifact
  artifactDurabilityReceipts : List ArtifactDurabilityReceipt

structure FindingTables where
  context : FindingContext
  findings : Sql.Table Finding Finding.clash
  findingVersions : Sql.Table FindingVersion FindingVersion.clash
  findingEvidence : Sql.Table FindingEvidence FindingEvidence.clash
  professionalTransitionReceipts : ReceiptTable

/-! ## The request -/

structure AppendFindingVersion where
  organizationId : Uuid
  moduleId : Uuid
  findingId : Option Uuid
  expectedFindingRevision : Option Int
  payload : Option JsVal
  evidence : Option JsVal
  rawIdempotencyKey : Option String
deriving DecidableEq

/-- The arguments once their envelope is checked, with what the payload says. -/
structure FindingRequest where
  findingId : Uuid
  expectedRevision : Nat
  payload : JsVal
  evidence : JsVal
  items : List JsVal
  idempotencyKey : String
  authorshipOrigin : Option String
  taxonomyCode : Option String
  observation : Option String
  verifierState : Option String
  providedContentSha : Option String
  shouldConfirm : Bool
  packetRevisionId : Option Uuid
  verifierArtifactId : Option Uuid

/-- The keys a payload may have. -/
def findingPayloadKeys : List String :=
  ["authorshipOrigin", "taxonomyCode", "observation", "apparentExtent", "significance",
    "qualifiedHypothesis", "uncertainty", "furtherInvestigation", "packetRevisionId",
    "modelVersion", "promptVersion", "skillVersion", "verifierState",
    "verifierVerdictArtifactId", "contentSha256", "confirm"]

def requiredFindingPayloadKeys : List String :=
  ["authorshipOrigin", "taxonomyCode", "observation", "verifierState", "confirm"]

/-- `text::uuid` -/
def castUuid : Option String → Except Sql.Error (Option Uuid)
  | none => .ok none
  | some text =>
      match Uuid.ofText? text with
      | some id => .ok (some id)
      | none => .error ⟨"22P02", "invalid input syntax for type uuid"⟩

/-- `nullif(payload ->> key, '')::uuid` -/
def uuidField (payload : JsVal) (key : String) : Except Sql.Error (Option Uuid) :=
  castUuid ((Jsonb.getText? payload key).filter (· ≠ ""))

/-- `length(coalesce(payload ->> key, '')) > bound` -/
def longerThan (payload : JsVal) (key : String) (bound : Nat) : Option Bool :=
  some (decide (bound < ((Jsonb.getText? payload key).getD "").length))

def invalidEnvelope : Sql.Error := ⟨"22023", "invalid finding command envelope"⟩

/-- The checks of the command that read its arguments alone. -/
def AppendFindingVersion.validate (columnSize : JsVal → Nat) (c : AppendFindingVersion) :
    Except Sql.Error FindingRequest := do
  let (some findingId, some expected, some payload, some evidence, some key) :=
      (c.findingId, c.expectedFindingRevision, c.payload, c.evidence, c.rawIdempotencyKey)
    | throw invalidEnvelope
  let (some fields, some items) := (Jsonb.object? payload, Jsonb.array? evidence)
    | throw invalidEnvelope
  Sql.raiseIf (expected < 0 ∨ ¬ (16 ≤ key.length ∧ key.length ≤ 160) ∨
      65536 < columnSize payload ∨ 1048576 < columnSize evidence ∨ 500 < items.length)
    invalidEnvelope.errcode invalidEnvelope.message
  let some (.bool shouldConfirm) := Jsonb.get? payload "confirm"
    | throw ⟨"22023", "finding payload has unknown, missing or mistyped fields"⟩
  Sql.raiseIf (Jsonb.without fields findingPayloadKeys ≠ [] ∨
      ¬ Jsonb.hasAll payload requiredFindingPayloadKeys) "22023"
    "finding payload has unknown, missing or mistyped fields"
  let authorshipOrigin := Jsonb.getText? payload "authorshipOrigin"
  let taxonomyCode := Jsonb.getText? payload "taxonomyCode"
  let observation := Jsonb.getText? payload "observation"
  let verifierState := Jsonb.getText? payload "verifierState"
  let providedContentSha := Jsonb.getText? payload "contentSha256"
  let packetRevisionId ← uuidField payload "packetRevisionId"
  let verifierArtifactId ← uuidField payload "verifierVerdictArtifactId"
  Sql.raiseIf (Sql.anyTrue [
      authorshipOrigin.map fun t => (AuthorshipOrigin.ofText? t).isNone,
      verifierState.map fun t => (VerifierState.ofText? t).isNone,
      providedContentSha.map fun t => !Js.isHexDigest t,
      taxonomyCode.map fun t => ¬ trimmedWithin 1 120 t,
      observation.map fun t => ¬ trimmedWithin 1 10000 t,
      longerThan payload "apparentExtent" 10000, longerThan payload "significance" 10000,
      longerThan payload "qualifiedHypothesis" 10000, longerThan payload "uncertainty" 10000,
      longerThan payload "furtherInvestigation" 10000, longerThan payload "modelVersion" 240,
      longerThan payload "promptVersion" 240, longerThan payload "skillVersion" 240]) "22023"
    "invalid finding content"
  Sql.raiseIf (shouldConfirm ∧
      ((verifierState.bind VerifierState.ofText?).any VerifierState.isIneligible) = true) "23514"
    "a non-publication-eligible finding version cannot be confirmed"
  return ⟨findingId, expected.toNat, payload, evidence, items, key, authorshipOrigin, taxonomyCode,
    observation, verifierState, providedContentSha, shouldConfirm, packetRevisionId,
    verifierArtifactId⟩

/-! ## Digests -/

section

variable (sha256 : String → String)

/-- `request_fingerprint`, its keys in the order `jsonb` keeps them. -/
def FindingRequest.fingerprint (actorId moduleId : Uuid) (q : FindingRequest) : String :=
  sha256 (Jsonb.text (.obj [("actorId", .str actorId.text), ("payload", q.payload),
    ("evidence", q.evidence), ("moduleId", .str moduleId.text),
    ("findingId", .str q.findingId.text),
    ("expectedRevision", .num (.int q.expectedRevision))]))

def withoutContentSha : JsVal → JsVal
  | .obj l => .obj (Jsonb.without l ["contentSha256"])
  | v => v

/-- `content_sha` -/
def FindingRequest.contentSha (organizationId : Uuid) (module : InspectionModule)
    (q : FindingRequest) : String :=
  sha256 (Jsonb.text (.obj [("payload", withoutContentSha q.payload), ("evidence", q.evidence),
    ("moduleId", .str module.id.text), ("findingId", .str q.findingId.text),
    ("moduleType", .str module.moduleType.text), ("organizationId", .str organizationId.text)]))

end

/-! ## Constraints of the rows -/

def buildingTaxonomy : List String :=
  ["major_defect", "minor_defect", "safety_hazard", "observation", "no_finding"]

def timberPestTaxonomy : List String :=
  ["active_timber_pest", "timber_pest_damage", "conducive_condition", "evidence",
    "no_visible_evidence"]

/-- The check constraints of `finding_versions`; a digest the command computes
always has the form its column asks for. -/
def FindingVersion.checked (v : FindingVersion) : Bool :=
  (match v.moduleType with
    | .building => v.taxonomyCode ∈ buildingTaxonomy
    | .timber_pest => v.taxonomyCode ∈ timberPestTaxonomy) &&
  (match v.authorshipOrigin with
    | .human => v.verifierState ∈ [.not_required, .accepted]
    | .ai_provisional | .human_edited_ai => v.verifierState ≠ .not_required) &&
  (v.confirmedAt.isNone == v.confirmedByActorId.isNone) &&
  (v.confirmedAt.isNone || v.authorshipOrigin = .human || v.verifierState = .accepted) &&
  btrim v.observation ≠ "" && 0 < v.version

namespace FindingTables

/-- `u2_validate_finding_current_version` -/
def validateFindingCurrentVersion (db : FindingTables) (f : Finding) : Except Sql.Error Unit :=
  match f.currentVersionId with
  | none => return
  | some id =>
      match db.findingVersions.rows.find? fun v =>
        v.id = id ∧ v.organizationId = f.organizationId ∧ v.findingId = f.id with
      | none => throw ⟨"23514", "current finding version must belong to the same finding and tenant"⟩
      | some candidate =>
          Sql.raiseIf (candidate.confirmedAt.isNone ∨ candidate.confirmedByActorId.isNone ∨
              candidate.verifierState.isIneligible) "23514"
            "current finding version must be inspector-confirmed and publication-eligible"

/-- `insert into finding_versions` -/
def insertFindingVersion (db : FindingTables) (v : FindingVersion) :
    Except Sql.Error FindingTables := do
  Sql.raiseIf (¬ v.checked) "23514" "finding_versions"
  let next ← db.findingVersions.insert "finding_versions" v
  return { db with findingVersions := next.1 }

/-- `u2_validate_artifact_relationships` for `finding_evidence` -/
def evidenceOfSameJob (db : FindingTables) (e : FindingEvidence) : Prop :=
  ∃ fv ∈ db.findingVersions.rows, fv.id = e.findingVersionId ∧
    fv.organizationId = e.organizationId ∧
    ∃ f ∈ db.findings.rows, f.id = fv.findingId ∧ f.organizationId = fv.organizationId ∧
      ∃ m ∈ db.context.inspectionModules.rows, m.id = f.moduleId ∧
        m.organizationId = f.organizationId ∧
        ∃ a ∈ db.context.artifacts, a.id = e.artifactId ∧ a.organizationId = e.organizationId ∧
          a.jobId = m.jobId

instance (db : FindingTables) (e : FindingEvidence) : Decidable (db.evidenceOfSameJob e) :=
  inferInstanceAs (Decidable (∃ _ ∈ _, _))

/-- `insert into finding_evidence` -/
def insertFindingEvidence (db : FindingTables) (e : FindingEvidence) :
    Except Sql.Error FindingTables := do
  Sql.raiseIf (¬ db.evidenceOfSameJob e) "23514"
    "finding evidence artifact must belong to the same job"
  let next ← db.findingEvidence.insert "finding_evidence" e
  return { db with findingEvidence := next.1 }

/-! ## The command -/

/-- What a call reads of its session, and what the statement generates. -/
structure Call where
  /-- `request_actor_id()` -/
  actorId : Option Uuid
  /-- `gen_random_uuid()` -/
  versionId : Uuid
  /-- `statement_timestamp()` -/
  now : Int

def isDurable (db : FindingTables) (id organizationId jobId : Uuid) : Bool :=
  Database.isDurable db.context.artifacts db.context.artifactDurabilityReceipts id organizationId
    jobId

/-- One pass of the evidence loop. -/
def appendEvidence (organizationId jobId versionId : Uuid) (db : FindingTables)
    (item : JsVal × Nat) : Except Sql.Error FindingTables := do
  let some fields := Jsonb.object? item.1
    | throw ⟨"22023", "finding evidence item has unknown or missing fields"⟩
  Sql.raiseIf (Jsonb.without fields ["artifactId", "role"] ≠ [] ∨
      ¬ Jsonb.hasAll item.1 ["artifactId", "role"]) "22023"
    "finding evidence item has unknown or missing fields"
  let artifactId ← castUuid (Jsonb.getText? item.1 "artifactId")
  let role := Jsonb.getText? item.1 "role"
  Sql.raiseIf (Sql.anyTrue [role.map fun t => (EvidenceRole.ofText? t).isNone,
      some (!artifactId.any fun id => db.isDurable id organizationId jobId)]) "23514"
    "finding evidence must be a durable artifact from the same job"
  let artifactId ← Sql.notNull "artifact_id" artifactId
  let role ← Sql.notNull "evidence_role" (role.bind EvidenceRole.ofText?)
  db.insertFindingEvidence ⟨organizationId, versionId, artifactId, role, item.2⟩

/-- The finding under its identity, or a new one at revision nought. -/
def findOrCreate (db : FindingTables) (organizationId : Uuid) (module : InspectionModule)
    (q : FindingRequest) : Except Sql.Error (Finding × FindingTables) := do
  match db.findings.rows.find? fun f => f.id = q.findingId ∧ f.organizationId = organizationId with
  | some f =>
      Sql.raiseIf (f.moduleId ≠ module.id ∨ f.moduleType ≠ module.moduleType) "23514"
        "finding identity is bound to another module"
      Sql.raiseIf (f.state = .superseded ∨ f.state = .removed) "55000"
        "closed finding history cannot be appended"
      return (f, db)
  | none =>
      Sql.raiseIf (q.expectedRevision ≠ 0) "40001" "stale finding revision"
      let f : Finding :=
        ⟨q.findingId, organizationId, module.id, module.moduleType, .draft, 0, none⟩
      let next ← db.findings.insert "findings" f
      return (f, { db with findings := next.1 })

/-- A row of the finding `f` after the update the command ends with. -/
def advanced (f : Finding) (shouldConfirm : Bool) (versionId : Uuid) (row : Finding) : Finding :=
  if row.id = f.id ∧ row.organizationId = f.organizationId then
    { row with
      revision := f.revision + 1
      state := if shouldConfirm then .confirmed
        else if f.currentVersionId = none then .provisional else f.state
      currentVersionId := if shouldConfirm then some versionId else f.currentVersionId }
  else row

@[simp] theorem advanced_id (f : Finding) (shouldConfirm : Bool) (versionId : Uuid)
    (row : Finding) : (advanced f shouldConfirm versionId row).id = row.id := by
  unfold advanced
  split <;> rfl

theorem advanced_clash (f : Finding) (shouldConfirm : Bool) (versionId : Uuid) (a b : Finding)
    (h : (advanced f shouldConfirm versionId a).clash (advanced f shouldConfirm versionId b)) :
    a.clash b := by
  unfold Finding.clash at h ⊢
  rwa [advanced_id, advanced_id] at h

/-- `update findings … where id = … and organization_id = …` -/
def updateFinding (db : FindingTables) (f : Finding) (shouldConfirm : Bool) (versionId : Uuid) :
    Except Sql.Error FindingTables := do
  (db.findings.rows.filter fun row =>
    row.id = f.id ∧ row.organizationId = f.organizationId).forM fun row =>
      db.validateFindingCurrentVersion (advanced f shouldConfirm versionId row)
  return { db with
    findings := db.findings.map (advanced f shouldConfirm versionId)
      (advanced_clash f shouldConfirm versionId) }

section

variable (columnSize : JsVal → Nat) (sha256 : String → String)

/-- What follows the idempotency check. -/
def append (call : Call) (actorId : Uuid) (c : AppendFindingVersion) (q : FindingRequest)
    (db : FindingTables) : Except Sql.Error (Uuid × FindingTables) := do
  let some module := db.context.inspectionModules.rows.find? fun m =>
      m.id = c.moduleId ∧ m.organizationId = c.organizationId
    | throw ⟨"42501", "finding command module identity is not assigned to the caller"⟩
  Sql.raiseIf (module.assignedInspectorActorId ≠ actorId) "42501"
    "finding command module identity is not assigned to the caller"
  let (finding, db) ← db.findOrCreate c.organizationId module q
  Sql.raiseIf (finding.revision ≠ q.expectedRevision) "40001" "stale finding revision"
  let contentSha := q.contentSha sha256 c.organizationId module
  Sql.raiseIf (q.providedContentSha.any (· ≠ contentSha)) "23514"
    "finding content hash does not match the server projection"
  let nextVersion := Sql.maxOf ((db.findingVersions.rows.filter fun v =>
    v.findingId = q.findingId).map FindingVersion.version) + 1
  Sql.raiseIf (q.verifierArtifactId.any fun id =>
      !db.isDurable id c.organizationId module.jobId) "23514"
    "verifier verdict must be a durable artifact from the same job"
  let authorshipOrigin ← Sql.notNull "authorship_origin"
    (q.authorshipOrigin.bind AuthorshipOrigin.ofText?)
  let taxonomyCode ← Sql.notNull "taxonomy_code" q.taxonomyCode
  let observation ← Sql.notNull "observation" q.observation
  let verifierState ← Sql.notNull "verifier_state" (q.verifierState.bind VerifierState.ofText?)
  let text := Jsonb.getText? q.payload
  let db ← db.insertFindingVersion
    ⟨call.versionId, c.organizationId, q.findingId, module.moduleType, nextVersion,
      finding.revision, authorshipOrigin, taxonomyCode, observation, text "apparentExtent",
      text "significance", text "qualifiedHypothesis", (text "uncertainty").getD "",
      text "furtherInvestigation", q.packetRevisionId, text "modelVersion", text "promptVersion",
      text "skillVersion", verifierState, q.verifierArtifactId,
      if q.shouldConfirm then some actorId else none,
      if q.shouldConfirm then some call.now else none, contentSha⟩
  let db ← (q.items.zipIdx 1).foldlM (appendEvidence c.organizationId module.jobId call.versionId)
    db
  let db ← db.updateFinding finding q.shouldConfirm call.versionId
  let receipts ← db.professionalTransitionReceipts.insert "professional_transition_receipts"
    ⟨c.organizationId, actorId, .append_finding_version, sha256 q.idempotencyKey,
      q.fingerprint sha256 actorId c.moduleId, call.versionId⟩
  return (call.versionId, { db with professionalTransitionReceipts := receipts.1 })

/-- `command_append_finding_version` -/
def commandAppendFindingVersion (call : Call) (c : AppendFindingVersion) (db : FindingTables) :
    Except Sql.Error (Uuid × FindingTables) := do
  let some actorId := call.actorId
    | throw ⟨"42501", "only the assigned active inspector may append finding history"⟩
  Sql.raiseIf (¬ isAssignedModuleInspector db.context.inspectionModules.rows
      db.context.organizationMembers (some actorId) c.organizationId c.moduleId) "42501"
    "only the assigned active inspector may append finding history"
  let q ← c.validate columnSize
  match db.professionalTransitionReceipts.prior? c.organizationId .append_finding_version
      (sha256 q.idempotencyKey) with
  | some prior =>
      Sql.raiseIf (prior.actorId ≠ actorId ∨
          prior.requestFingerprintSha256 ≠ q.fingerprint sha256 actorId c.moduleId) "23505"
        "idempotency key was already used for another finding request"
      return (prior.resultRecordId, db)
  | none => append sha256 call actorId c q db

end

end FindingTables

end InspectionHub.Database
