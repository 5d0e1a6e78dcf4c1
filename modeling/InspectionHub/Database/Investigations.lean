import InspectionHub.Database.Artifacts
import InspectionHub.Database.SessionEvents
import InspectionHub.Inspection.Investigation

/-!
# Investigation revisions in the store

`investigations` and `investigation_revisions` of
`20260715000600_u5_investigation_history.sql` with the triggers of a revision:
`u5_validate_investigation_revision` and `u5_validate_tenant_inspector_actor`
before it, `u5_append_investigation_revision_event` after it. The
`session_events` they write to are open to direct inserts by the policy of
`20260714000400_u2_integrity_and_rls.sql`.
-/

namespace InspectionHub.Database

open Inspection (InvestigationStatus InvestigationDraftingDisposition)

/-! ## Rows -/

structure Actor where
  id : Uuid
  disabledAt : Option Int

/-- `has_organization_role(organization, roles)`, for a given actor. -/
def hasOrganizationRole (members : List OrganizationMember) (actors : List Actor) (actorId : Uuid)
    (organizationId : Uuid) (roles : List MemberRole) : Bool :=
  members.any fun om => actors.any fun a =>
    a.id = om.actorId ∧ om.organizationId = organizationId ∧ om.actorId = actorId ∧
      om.status = .active ∧ om.memberRole ∈ roles ∧ a.disabledAt = none

structure InvestigationRow where
  id : Uuid
  organizationId : Uuid
  jobId : Uuid
  startedByInspectorActorId : Uuid

/-- `primary key (id)` -/
def InvestigationRow.clash (a b : InvestigationRow) : Prop := a.id = b.id

instance : DecidableRel InvestigationRow.clash := fun _ _ => inferInstanceAs (Decidable (_ = _))

structure InspectionArea where
  id : Uuid
  organizationId : Uuid
  jobId : Uuid

structure InvestigationRevision where
  id : Uuid
  organizationId : Uuid
  jobId : Uuid
  investigationId : Uuid
  revision : Nat
  expectedPreviousRevision : Option Nat
  status : InvestigationStatus
  currentAreaId : Uuid
  completedAt : Option Int
  completedByInspectorActorId : Option Uuid
  draftingDisposition : Option InvestigationDraftingDisposition
  contentSha256 : String
deriving DecidableEq

/-- `primary key (id)`, `unique (investigation_id, revision)` -/
def InvestigationRevision.clash (a b : InvestigationRevision) : Prop :=
  a.id = b.id ∨ (a.investigationId = b.investigationId ∧ a.revision = b.revision)

instance : DecidableRel InvestigationRevision.clash := fun _ _ => inferInstanceAs (Decidable (_ ∨ _))

/-- `status in ('completed_findings', 'completed_no_reportable_finding')` -/
def isCompleted (status : InvestigationStatus) : Bool :=
  status ∈ [.completed_findings, .completed_no_reportable_finding]

/-- The check constraints of `investigation_revisions`. -/
def InvestigationRevision.checked (r : InvestigationRevision) : Bool :=
  (match r.revision with
    | 0 => r.expectedPreviousRevision = none
    | previous + 1 => r.expectedPreviousRevision = some previous) &&
  (if isCompleted r.status then
    r.completedAt.isSome && r.completedByInspectorActorId.isSome && r.draftingDisposition.isSome
  else
    r.completedAt.isNone && r.completedByInspectorActorId.isNone && r.draftingDisposition.isNone) &&
  Js.isHexDigest r.contentSha256

/-- What the statements read and others write. -/
structure InvestigationContext where
  jobs : List Job
  inspectionAreas : List InspectionArea
  organizationMembers : List OrganizationMember
  actors : List Actor

structure InvestigationTables where
  context : InvestigationContext
  investigations : Sql.Table InvestigationRow InvestigationRow.clash
  investigationRevisions : Sql.Table InvestigationRevision InvestigationRevision.clash
  sessionEvents : SessionEventTable

/-! ## Before a revision -/

/-- The revisions of an investigation of a tenant. -/
def revisionsOf (rows : List InvestigationRevision) (organizationId investigationId : Uuid) :
    List InvestigationRevision :=
  rows.filter fun r => r.investigationId = investigationId ∧ r.organizationId = organizationId

/-- `u5_validate_investigation_revision` -/
def validateInvestigationRevision (rows : List InvestigationRevision)
    (r : InvestigationRevision) : Except Sql.Error Unit := do
  match Sql.topBy InvestigationRevision.revision
      (revisionsOf rows r.organizationId r.investigationId) with
  | none =>
      Sql.raiseIf (r.revision ≠ 0 ∨ r.expectedPreviousRevision ≠ none ∨ r.status ≠ .active) "40001"
        "investigation must begin at active revision zero"
  | some previousRevision =>
      Sql.raiseIf (r.revision ≠ previousRevision.revision + 1 ∨
          r.expectedPreviousRevision ≠ some previousRevision.revision) "40001"
        "stale or non-contiguous investigation revision"
      Sql.raiseIf (isCompleted previousRevision.status) "55000"
        "completed investigation is immutable"
      Sql.raiseIf ((previousRevision.status = .paused ∧ r.status ≠ .active) ∨
          (previousRevision.status = .active ∧ r.status ∉ [.active, .paused, .completed_findings,
            .completed_no_reportable_finding])) "23514" "invalid investigation status transition"
      Sql.raiseIf (r.currentAreaId ≠ previousRevision.currentAreaId ∧
          (previousRevision.status ≠ .active ∨ r.status ≠ .active)) "23514"
        "area may change only while investigation remains active"

/-- `u5_validate_tenant_inspector_actor` -/
def validateTenantInspectorActor (context : InvestigationContext) (organizationId : Uuid)
    (targetActorId : Option Uuid) : Except Sql.Error Unit :=
  Sql.raiseIf (targetActorId.any fun id => !hasOrganizationRole context.organizationMembers
    context.actors id organizationId [.inspector, .administrator]) "23514"
    "inspector actor is outside the active tenant"

/-! ## After a revision -/

/-- `investigation:<id>:revision:<revision>` -/
def revisionKey (investigationId : Uuid) (revision : Nat) : String :=
  "investigation:" ++ investigationId.text ++ ":revision:" ++ Sql.natText revision

/-- `selected_event_type` -/
def revisionEventType (previousStatus : Option InvestigationStatus) (r : InvestigationRevision) :
    String :=
  if r.revision = 0 then "investigation.started"
  else if r.status = .paused then "investigation.paused"
  else if previousStatus = some .paused ∧ r.status = .active then "investigation.resumed"
  else if isCompleted r.status then "investigation.completed"
  else "investigation.revised"

/-- What an insert generates. -/
structure RevisionCall where
  eventId : Uuid
  now : Int

/-- The event `u5_append_investigation_revision_event` inserts. -/
def revisionEvent (call : RevisionCall) (db : InvestigationTables) (r : InvestigationRevision) :
    SessionEvent where
  id := call.eventId
  organizationId := r.organizationId
  aggregateType := "investigation"
  aggregateId := r.investigationId
  aggregateVersion := r.revision + 1
  sessionId := none
  eventType := revisionEventType
    ((db.investigationRevisions.rows.find? fun p =>
      p.investigationId = r.investigationId ∧ p.revision + 1 = r.revision).map
        InvestigationRevision.status) r
  actorId := r.completedByInspectorActorId.or
    ((db.investigations.rows.find? fun i => i.id = r.investigationId).map
      InvestigationRow.startedByInspectorActorId)
  clientOccurredAt := none
  recordedAt := call.now
  idempotencyKey := some (revisionKey r.investigationId r.revision)
  safeMetadata := .obj [("status", .str r.status.text), ("revision", .num (.int r.revision)),
    ("current_area_id", .str r.currentAreaId.text)]
  protectedArtifactRefs := []
  correlationId := none
  causationId := none
  schemaVersion := 1
  payloadSha256 := r.contentSha256
  previousEventSha256 := ((db.sessionEvents.rows.find? fun e =>
    e.organizationId = r.organizationId ∧ e.aggregateType = "investigation" ∧
      e.aggregateId = r.investigationId ∧ e.aggregateVersion = r.revision).map
        SessionEvent.eventSha256)
  checkpointEventId := none
  eventSha256 := placeholderSha

namespace InvestigationTables

/-- `references investigations(id, organization_id, job_id)` and
`references inspection_areas(id, organization_id, job_id)` -/
def references (db : InvestigationTables) (r : InvestigationRevision) : Prop :=
  (∃ i ∈ db.investigations.rows, i.id = r.investigationId ∧
    i.organizationId = r.organizationId ∧ i.jobId = r.jobId) ∧
  ∃ a ∈ db.context.inspectionAreas, a.id = r.currentAreaId ∧
    a.organizationId = r.organizationId ∧ a.jobId = r.jobId

instance (db : InvestigationTables) (r : InvestigationRevision) : Decidable (db.references r) :=
  inferInstanceAs (Decidable (_ ∧ _))

/-- `insert into investigations`; that it has its first revision is checked when
the transaction commits. -/
def insertInvestigation (i : InvestigationRow) (db : InvestigationTables) :
    Except Sql.Error InvestigationTables := do
  validateTenantInspectorActor db.context i.organizationId (some i.startedByInspectorActorId)
  let next ← db.investigations.insert "investigations" i
  Sql.raiseIf (¬ ∃ j ∈ db.context.jobs, j.id = i.jobId ∧ j.organizationId = i.organizationId) "23503"
    "investigations_job_id_fkey"
  return { db with investigations := next.1 }

variable (server : Server)

/-- `insert into investigation_revisions` -/
def insertInvestigationRevision (call : RevisionCall) (r : InvestigationRevision)
    (db : InvestigationTables) : Except Sql.Error InvestigationTables := do
  validateInvestigationRevision db.investigationRevisions.rows r
  validateTenantInspectorActor db.context r.organizationId r.completedByInspectorActorId
  Sql.raiseIf (¬ r.checked) "23514" "investigation_revisions"
  let revisions ← db.investigationRevisions.insert "investigation_revisions" r
  let db := { db with investigationRevisions := revisions.1 }
  let events ← insertSessionEvent server call.now (revisionEvent call db r) db.sessionEvents
  Sql.raiseIf (¬ db.references r) "23503" "investigation_revisions"
  return { db with sessionEvents := events }

/-- A direct `insert into session_events`: by an actor the policy lets write, or
by the service itself. -/
def insertEvent (writer : Option Uuid) (now : Int) (e : SessionEvent) (db : InvestigationTables) :
    Except Sql.Error InvestigationTables := do
  Sql.raiseIf (writer.any fun id => !hasOrganizationRole db.context.organizationMembers
      db.context.actors id e.organizationId [.inspector, .administrator]) "42501"
    "new row violates row-level security policy"
  let events ← insertSessionEvent server now e db.sessionEvents
  return { db with sessionEvents := events }

end InvestigationTables

end InspectionHub.Database
