import InspectionHub.Database.InvestigationEvents

/-!
# Assigning evidence to areas

`investigation_artifacts` and `investigation_artifact_area_assignments` of
`20260715000600_u5_investigation_history.sql`. A piece of evidence is of the job
of its investigation, and so is the area it was captured in. Its assignments
refer to an area by key and tenant, without the job, and no trigger compares the
first of them with the capture area: the assignments stay within the job in
exactly the runs whose inserts do (`assignments_stay_iff`).
-/

namespace InspectionHub.Database

/-! ## Rows -/

inductive EvidenceSource where
  | attached_recent | captured_during_investigation
deriving DecidableEq

structure InvestigationArtifact where
  id : Uuid
  organizationId : Uuid
  jobId : Uuid
  investigationId : Uuid
  artifactId : Uuid
  captureAreaId : Uuid
  linkOrdinal : Nat
  source : EvidenceSource
  attachedByInspectorActorId : Uuid

/-- `primary key (id)`, `unique (investigation_id, artifact_id)`,
`unique (investigation_id, link_ordinal)` -/
def InvestigationArtifact.clash (a b : InvestigationArtifact) : Prop :=
  a.id = b.id ∨ (a.investigationId = b.investigationId ∧
    (a.artifactId = b.artifactId ∨ a.linkOrdinal = b.linkOrdinal))

inductive AssignmentReason where
  | capture_context | inspector_correction
deriving DecidableEq

structure AreaAssignment where
  id : Uuid
  organizationId : Uuid
  investigationId : Uuid
  investigationArtifactId : Uuid
  areaId : Uuid
  assignmentOrdinal : Nat
  reason : AssignmentReason
  assignedByInspectorActorId : Uuid

/-- `primary key (id)`, `unique (investigation_artifact_id, assignment_ordinal)` -/
def AreaAssignment.clash (a b : AreaAssignment) : Prop :=
  a.id = b.id ∨ (a.investigationArtifactId = b.investigationArtifactId ∧
    a.assignmentOrdinal = b.assignmentOrdinal)

instance : DecidableRel InvestigationArtifact.clash :=
  fun _ _ => inferInstanceAs (Decidable (_ ∨ _))
instance : DecidableRel AreaAssignment.clash := fun _ _ => inferInstanceAs (Decidable (_ ∨ _))

structure EvidenceTables extends InvestigationTables where
  artifacts : List Artifact
  artifactDurabilityReceipts : List ArtifactDurabilityReceipt
  investigationArtifacts : Sql.Table InvestigationArtifact InvestigationArtifact.clash
  areaAssignments : Sql.Table AreaAssignment AreaAssignment.clash

namespace EvidenceTables

def empty : EvidenceTables where
  context := ⟨[], [], [], []⟩
  investigations := .empty
  investigationRevisions := .empty
  sessionEvents := .empty
  artifacts := []
  artifactDurabilityReceipts := []
  investigationArtifacts := .empty
  areaAssignments := .empty

variable (db : EvidenceTables)

/-! ## Triggers -/

/-- `u5_require_active_investigation` -/
def requireActiveInvestigation (organizationId investigationId : Uuid) : Except Sql.Error Unit :=
  Sql.raiseIf (¬ ∃ r ∈ db.investigationRevisions.rows, r.investigationId = investigationId ∧
      r.organizationId = organizationId ∧ r.status = .active ∧
      ∀ later ∈ db.investigationRevisions.rows, later.investigationId = r.investigationId →
        later.revision ≤ r.revision) "55000"
    "investigation is not active"

/-- `u5_validate_investigation_artifact` -/
def validateInvestigationArtifact (e : InvestigationArtifact) : Except Sql.Error Unit :=
  Sql.raiseIf (¬ ∃ a ∈ db.artifacts, a.id = e.artifactId ∧ a.organizationId = e.organizationId ∧
      a.jobId = e.jobId ∧ a.artifactKind ∈ [.photo, .audio, .structured_json] ∧
      ∃ receipt ∈ db.artifactDurabilityReceipts, receipt.artifactId = a.id ∧
        receipt.organizationId = a.organizationId) "23514"
    "investigation evidence requires a durable original artifact"

/-! ## Inserting -/

/-- `insert into inspection_areas` -/
def insertArea (a : InspectionArea) : Except Sql.Error EvidenceTables := do
  Sql.raiseIf (∃ b ∈ db.context.inspectionAreas, b.id = a.id) "23505" "inspection_areas"
  Sql.raiseIf (¬ ∃ j ∈ db.context.jobs, j.id = a.jobId ∧ j.organizationId = a.organizationId)
    "23503" "inspection_areas"
  return { db with context := { db.context with
    inspectionAreas := db.context.inspectionAreas ++ [a] } }

/-- `insert into investigation_artifacts` -/
def insertArtifact (e : InvestigationArtifact) : Except Sql.Error EvidenceTables := do
  db.requireActiveInvestigation e.organizationId e.investigationId
  validateTenantInspectorActor db.context e.organizationId (some e.attachedByInspectorActorId)
  db.validateInvestigationArtifact e
  Sql.raiseIf (e.linkOrdinal = 0) "23514" "investigation_artifacts"
  let next ← db.investigationArtifacts.insert "investigation_artifacts" e
  Sql.raiseIf (¬ (∃ i ∈ db.investigations.rows, i.id = e.investigationId ∧
        i.organizationId = e.organizationId ∧ i.jobId = e.jobId) ∨
      ¬ (∃ a ∈ db.artifacts, a.id = e.artifactId ∧ a.organizationId = e.organizationId ∧
        a.jobId = e.jobId) ∨
      ¬ ∃ a ∈ db.context.inspectionAreas, a.id = e.captureAreaId ∧
        a.organizationId = e.organizationId ∧ a.jobId = e.jobId) "23503" "investigation_artifacts"
  return { db with investigationArtifacts := next.1 }

/-- What an assignment must pass but for its keys. -/
def checkAssignment (a : AreaAssignment) : Except Sql.Error Unit := do
  db.requireActiveInvestigation a.organizationId a.investigationId
  validateTenantInspectorActor db.context a.organizationId (some a.assignedByInspectorActorId)
  Sql.raiseIf (a.assignmentOrdinal = 0) "23514" "investigation_artifact_area_assignments"
  Sql.raiseIf (¬ (∃ e ∈ db.investigationArtifacts.rows, e.id = a.investigationArtifactId ∧
        e.organizationId = a.organizationId ∧ e.investigationId = a.investigationId) ∨
      ¬ ∃ area ∈ db.context.inspectionAreas, area.id = a.areaId ∧
        area.organizationId = a.organizationId) "23503" "investigation_artifact_area_assignments"

/-- `insert into investigation_artifact_area_assignments` -/
def insertAssignment (a : AreaAssignment) : Except Sql.Error EvidenceTables := do
  db.checkAssignment a
  let next ← db.areaAssignments.insert "investigation_artifact_area_assignments" a
  return { db with areaAssignments := next.1 }

end EvidenceTables

/-! ## Runs -/

/-- A statement of the service; those on the other tables are given by the rows they leave. -/
inductive EvidenceStep where
  | area (a : InspectionArea)
  | investigation (i : InvestigationRow)
  | revision (call : RevisionCall) (r : InvestigationRevision)
  | event (writer : Option Uuid) (now : Int) (e : SessionEvent)
  | artifact (e : InvestigationArtifact)
  | assignment (a : AreaAssignment)
  | other (jobs : List Job) (members : List OrganizationMember) (actors : List Actor)
      (artifacts : List Artifact) (receipts : List ArtifactDurabilityReceipt)

namespace EvidenceTables

def outcome (server : Server) (db : EvidenceTables) : EvidenceStep → Except Sql.Error EvidenceTables
  | .area a => db.insertArea a
  | .investigation i => (InvestigationTables.insertInvestigation i db.toInvestigationTables).map
      fun tables => { db with toInvestigationTables := tables }
  | .revision call r => (InvestigationTables.insertInvestigationRevision server call r
      db.toInvestigationTables).map fun tables => { db with toInvestigationTables := tables }
  | .event writer now e => (InvestigationTables.insertEvent server writer now e
      db.toInvestigationTables).map fun tables => { db with toInvestigationTables := tables }
  | .artifact e => db.insertArtifact e
  | .assignment a => db.insertAssignment a
  | .other jobs members actors artifacts receipts => .ok { db with
      context := ⟨jobs, db.context.inspectionAreas, members, actors⟩
      artifacts := artifacts
      artifactDurabilityReceipts := receipts }

/-- A raised error rolls the statement back. -/
def perform (server : Server) (db : EvidenceTables) (step : EvidenceStep) : EvidenceTables :=
  match outcome server db step with
  | .ok db' => db'
  | .error _ => db

/-! ## Within the job -/

/-- No other assignment of the artifact has a lower ordinal. -/
def IsFirst (rows : List AreaAssignment) (a : AreaAssignment) : Prop :=
  ∀ b ∈ rows, b.investigationArtifactId = a.investigationArtifactId →
    a.assignmentOrdinal ≤ b.assignmentOrdinal

/-- The assignment names an area of the job of its artifact, and the capture area if it is the
first of `rows`. -/
def Stays (db : EvidenceTables) (rows : List AreaAssignment) (a : AreaAssignment) : Prop :=
  ∀ e ∈ db.investigationArtifacts.rows, e.id = a.investigationArtifactId →
    (∀ area ∈ db.context.inspectionAreas, area.id = a.areaId → area.jobId = e.jobId) ∧
      (IsFirst rows a → a.areaId = e.captureAreaId)

/-- Every assignment does. -/
def Assigned (db : EvidenceTables) : Prop :=
  ∀ a ∈ db.areaAssignments.rows, db.Stays db.areaAssignments.rows a

/-- An insert of an assignment that is accepted and does not. -/
def Strays (db : EvidenceTables) : EvidenceStep → Prop
  | .assignment a => db.checkAssignment a = .ok () ∧ (∀ b ∈ db.areaAssignments.rows, ¬ b.clash a) ∧
      ¬ db.Stays db.areaAssignments.rows a
  | _ => False

/-! ## The invariant -/

/-- Every assignment refers to an area and to an artifact. -/
structure Referential (db : EvidenceTables) : Prop where
  area : ∀ a ∈ db.areaAssignments.rows, ∃ area ∈ db.context.inspectionAreas, area.id = a.areaId
  artifact : ∀ a ∈ db.areaAssignments.rows, ∃ e ∈ db.investigationArtifacts.rows,
    e.id = a.investigationArtifactId

variable {server : Server} {db db' : EvidenceTables}

/-- The areas, the artifacts and the assignments are as they were. -/
structure Same (db db' : EvidenceTables) : Prop where
  areas : db'.context.inspectionAreas = db.context.inspectionAreas
  artifacts : db'.investigationArtifacts = db.investigationArtifacts
  assignments : db'.areaAssignments = db.areaAssignments

theorem Same.referential (h : Same db db') (hdb : Referential db) : Referential db' := by
  constructor
  · rw [h.assignments, h.areas]
    exact hdb.area
  · rw [h.assignments, h.artifacts]
    exact hdb.artifact

theorem Same.assigned (h : Same db db') (hdb : Assigned db) : Assigned db' := by
  unfold Assigned Stays
  rw [h.assignments, h.artifacts, h.areas]
  exact hdb

/-- What one accepted statement does to the areas, the artifacts and the assignments. -/
inductive Records (db db' : EvidenceTables) : EvidenceStep → Prop
  | same {step : EvidenceStep} (h : Same db db') : Records db db' step
  | area (a : InspectionArea) (fresh : ∀ b ∈ db.context.inspectionAreas, b.id ≠ a.id)
      (areas : db'.context.inspectionAreas = db.context.inspectionAreas ++ [a])
      (artifacts : db'.investigationArtifacts = db.investigationArtifacts)
      (assignments : db'.areaAssignments = db.areaAssignments) : Records db db' (.area a)
  | artifact (e : InvestigationArtifact)
      (fresh : ∀ b ∈ db.investigationArtifacts.rows, ¬ b.clash e)
      (areas : db'.context.inspectionAreas = db.context.inspectionAreas)
      (artifacts : db'.investigationArtifacts.rows = db.investigationArtifacts.rows ++ [e])
      (assignments : db'.areaAssignments = db.areaAssignments) : Records db db' (.artifact e)
  | assignment (a : AreaAssignment) (checked : db.checkAssignment a = .ok ())
      (fresh : ∀ b ∈ db.areaAssignments.rows, ¬ b.clash a)
      (areas : db'.context.inspectionAreas = db.context.inspectionAreas)
      (artifacts : db'.investigationArtifacts = db.investigationArtifacts)
      (assignments : db'.areaAssignments.rows = db.areaAssignments.rows ++ [a]) :
      Records db db' (.assignment a)

variable {t t' : InvestigationTables}

/-- The statements on investigations leave the areas alone. -/
theorem insertInvestigation_context {i : InvestigationRow}
    (h : InvestigationTables.insertInvestigation i t = .ok t') : t'.context = t.context := by
  obtain ⟨next, -, rfl⟩ := InvestigationTables.insertInvestigation_ok h
  rfl

theorem insertInvestigationRevision_context {call : RevisionCall} {r : InvestigationRevision}
    (h : InvestigationTables.insertInvestigationRevision server call r t = .ok t') :
    t'.context = t.context := by
  obtain ⟨⟨⟩, -, h⟩ := Sql.bind_ok h
  obtain ⟨⟨⟩, -, h⟩ := Sql.bind_ok h
  obtain ⟨-, h⟩ := Sql.check_ok h
  obtain ⟨revisions, -, h⟩ := Sql.bind_ok h
  obtain ⟨events, -, h⟩ := Sql.bind_ok h
  obtain ⟨-, hdone⟩ := Sql.check_ok h
  cases hdone
  rfl

theorem insertEvent_context {writer : Option Uuid} {now : Int} {e : SessionEvent}
    (h : InvestigationTables.insertEvent server writer now e t = .ok t') :
    t'.context = t.context := by
  obtain ⟨-, h⟩ := Sql.check_ok h
  obtain ⟨events, -, hdone⟩ := Sql.bind_ok h
  cases hdone
  rfl

variable {step : EvidenceStep}

theorem outcome_records (h : outcome server db step = .ok db') : Records db db' step := by
  have hsame : ∀ tables : InvestigationTables, tables.context = db.context →
      Same db { db with toInvestigationTables := tables } := fun tables hcontext =>
    ⟨congrArg InvestigationContext.inspectionAreas hcontext, rfl, rfl⟩
  cases step with
  | area a =>
      obtain ⟨hfresh, h⟩ := Sql.check_ok h
      obtain ⟨-, hdone⟩ := Sql.check_ok h
      cases hdone
      exact .area a (fun b hb hid => hfresh ⟨b, hb, hid⟩) rfl rfl rfl
  | investigation i =>
      obtain ⟨tables, htables, rfl⟩ := Sql.map_ok h
      exact .same (hsame tables (insertInvestigation_context htables))
  | revision call r =>
      obtain ⟨tables, htables, rfl⟩ := Sql.map_ok h
      exact .same (hsame tables (insertInvestigationRevision_context htables))
  | event writer now e =>
      obtain ⟨tables, htables, rfl⟩ := Sql.map_ok h
      exact .same (hsame tables (insertEvent_context htables))
  | artifact e =>
      obtain ⟨⟨⟩, -, h⟩ := Sql.bind_ok h
      obtain ⟨⟨⟩, -, h⟩ := Sql.bind_ok h
      obtain ⟨⟨⟩, -, h⟩ := Sql.bind_ok h
      obtain ⟨-, h⟩ := Sql.check_ok h
      obtain ⟨next, hinsert, h⟩ := Sql.bind_ok h
      obtain ⟨-, hdone⟩ := Sql.check_ok h
      cases hdone
      exact .artifact e (Sql.Table.insert_ok hinsert) rfl next.2 rfl
  | assignment a =>
      obtain ⟨⟨⟩, hchecked, h⟩ := Sql.bind_ok h
      obtain ⟨next, hinsert, hdone⟩ := Sql.bind_ok h
      cases hdone
      exact .assignment a hchecked (Sql.Table.insert_ok hinsert) rfl rfl next.2
  | other jobs members actors artifacts receipts =>
      cases h
      exact .same ⟨rfl, rfl, rfl⟩

/-- The foreign keys of an assignment. -/
theorem checkAssignment_ok {a : AreaAssignment} (h : db.checkAssignment a = .ok ()) :
    (∃ e ∈ db.investigationArtifacts.rows, e.id = a.investigationArtifactId) ∧
      ∃ area ∈ db.context.inspectionAreas, area.id = a.areaId := by
  obtain ⟨⟨⟩, -, h⟩ := Sql.bind_ok h
  obtain ⟨⟨⟩, -, h⟩ := Sql.bind_ok h
  obtain ⟨-, h⟩ := Sql.check_ok h
  have hkeys := Sql.raiseIf_ok h
  rw [not_or, not_not, not_not] at hkeys
  obtain ⟨⟨e, he, hartifact, -⟩, ⟨area, harea, hid, -⟩⟩ := hkeys
  exact ⟨⟨e, he, hartifact⟩, ⟨area, harea, hid⟩⟩

theorem Records.referential (h : Records db db' step) (hdb : Referential db) : Referential db' := by
  cases h with
  | same hsame => exact hsame.referential hdb
  | area a _ hareas hartifacts hassignments =>
      constructor
      · rw [hassignments, hareas]
        intro b hb
        obtain ⟨area, harea, hid⟩ := hdb.area b hb
        exact ⟨area, List.mem_append_left _ harea, hid⟩
      · rw [hassignments, hartifacts]
        exact hdb.artifact
  | artifact e _ hareas hartifacts hassignments =>
      constructor
      · rw [hassignments, hareas]
        exact hdb.area
      · rw [hassignments, hartifacts]
        intro b hb
        obtain ⟨link, hlink, hid⟩ := hdb.artifact b hb
        exact ⟨link, List.mem_append_left _ hlink, hid⟩
  | assignment a hchecked _ hareas hartifacts hassignments =>
      obtain ⟨hartifact, harea⟩ := checkAssignment_ok hchecked
      constructor
      · rw [hassignments, hareas]
        intro b hb
        rcases List.mem_append.mp hb with hold | hlast
        · exact hdb.area b hold
        · rw [List.mem_singleton.mp hlast]
          exact harea
      · rw [hassignments, hartifacts]
        intro b hb
        rcases List.mem_append.mp hb with hold | hlast
        · exact hdb.artifact b hold
        · rw [List.mem_singleton.mp hlast]
          exact hartifact

/-- An area or an artifact that is added is none that an assignment refers to. -/
theorem Records.assigned (h : Records db db' step) (hdb : Referential db)
    (hassigned : Assigned db) (hnot : ¬ Strays db step) : Assigned db' := by
  cases h with
  | same hsame => exact hsame.assigned hassigned
  | area a hfresh hareas hartifacts hassignments =>
      unfold Assigned Stays
      rw [hassignments, hartifacts, hareas]
      intro b hb e he hid
      obtain ⟨hjob, hfirst⟩ := hassigned b hb e he hid
      refine ⟨fun area harea harea' => ?_, hfirst⟩
      rcases List.mem_append.mp harea with hold | hlast
      · exact hjob area hold harea'
      · rw [List.mem_singleton.mp hlast] at harea'
        obtain ⟨known, hknown, hsame⟩ := hdb.area b hb
        exact absurd (hsame.trans harea'.symm) (hfresh known hknown)
  | artifact e hfresh hareas hartifacts hassignments =>
      unfold Assigned Stays
      rw [hassignments, hartifacts, hareas]
      intro b hb link hlink hid
      rcases List.mem_append.mp hlink with hold | hlast
      · exact hassigned b hb link hold hid
      · rw [List.mem_singleton.mp hlast] at hid
        obtain ⟨known, hknown, hsame⟩ := hdb.artifact b hb
        exact absurd (.inl (hsame.trans hid.symm)) (hfresh known hknown)
  | assignment a hchecked hfresh hareas hartifacts hassignments =>
      have hstays : db.Stays db.areaAssignments.rows a := by
        by_contra hstrays
        exact hnot ⟨hchecked, hfresh, hstrays⟩
      unfold Assigned Stays
      rw [hassignments, hartifacts, hareas]
      intro b hb e he hid
      -- what is first with the new row was first without it
      have hearlier : IsFirst (db.areaAssignments.rows ++ [a]) b →
          IsFirst db.areaAssignments.rows b :=
        fun hfirst c hc => hfirst c (List.mem_append_left _ hc)
      rcases List.mem_append.mp hb with hold | hlast
      · obtain ⟨hjob, hcapture⟩ := hassigned b hold e he hid
        exact ⟨hjob, fun hfirst => hcapture (hearlier hfirst)⟩
      · rw [List.mem_singleton.mp hlast] at hid hearlier ⊢
        obtain ⟨hjob, hcapture⟩ := hstays e he hid
        exact ⟨hjob, fun hfirst => hcapture (hearlier hfirst)⟩

/-- An accepted assignment that strays is there afterwards, and strays. -/
theorem not_assigned_of_strays (h : Strays db step) : ¬ Assigned (db.perform server step) := by
  cases step with
  | assignment a =>
      obtain ⟨hchecked, hfresh, hstrays⟩ := h
      intro hassigned
      unfold perform outcome insertAssignment at hassigned
      dsimp only at hassigned
      rw [Sql.bind_of hchecked, Sql.bind_of (Sql.Table.insert_of hfresh _)] at hassigned
      refine hstrays fun e he hid => ?_
      obtain ⟨hjob, hcapture⟩ := hassigned a
        (List.mem_append_right _ (List.mem_singleton_self a)) e he hid
      refine ⟨hjob, fun hfirst => hcapture fun b hb hsame => ?_⟩
      rcases List.mem_append.mp hb with hold | hlast
      · exact hfirst b hold hsame
      · rw [List.mem_singleton.mp hlast]
  | area | investigation | revision | event | artifact | other => exact h.elim

theorem perform_referential (step : EvidenceStep) (hdb : Referential db) :
    Referential (db.perform server step) := by
  unfold perform
  split
  · next db' h => exact (outcome_records h).referential hdb
  · exact hdb

/-- One statement keeps the assignments within the job exactly if it does not stray. -/
theorem assigned_perform_iff (step : EvidenceStep) (hdb : Referential db)
    (hassigned : Assigned db) : Assigned (db.perform server step) ↔ ¬ Strays db step := by
  constructor
  · exact fun hafter hstrays => not_assigned_of_strays hstrays hafter
  · intro hnot
    unfold perform
    split
    · next db' h => exact (outcome_records h).assigned hdb hassigned hnot
    · exact hassigned

/-- **Within the job.** Throughout a run every assignment names an area of the job of its
artifact, and every first assignment the capture area, exactly if each insert of an assignment
does. -/
theorem assignments_stay_iff (server : Server) (l : List EvidenceStep) :
    (∀ before after, l = before ++ after → Assigned (before.foldl (perform server) empty)) ↔
      ∀ before step after, l = before ++ step :: after →
        ¬ Strays (before.foldl (perform server) empty) step :=
  TSys.throughout_iff (perform server) Referential Assigned (fun db step => ¬ Strays db step)
    (fun _ step hdb => perform_referential step hdb)
    (fun _ step hdb hassigned => assigned_perform_iff step hdb hassigned)
    ⟨fun _ h => absurd h List.not_mem_nil, fun _ h => absurd h List.not_mem_nil⟩
    (fun _ h => absurd h List.not_mem_nil) l

/-! ## Evidence assigned to another job -/

namespace Misassigned

open InvestigationTables.Sample (tenant job inspector investigation kitchen started begins firstCall
  midnight contentHash)

def otherJob : Uuid := ⟨"aaaa0000-0000-0000-0000-000000000002", @rfl _ true⟩
def garage : Uuid := ⟨"bbbb1000-0000-0000-0000-000000000002", by decide⟩
def photoId : Uuid := ⟨"cccc0000-0000-0000-0000-000000000001", @rfl _ true⟩
def captureId : Uuid := ⟨"cccc1000-0000-0000-0000-000000000001", by decide⟩
def linkId : Uuid := ⟨"dddd0000-0000-0000-0000-000000000001", @rfl _ true⟩
def assignmentId : Uuid := ⟨"dddd1000-0000-0000-0000-000000000001", by decide⟩

def photo : Artifact where
  id := photoId
  organizationId := tenant
  jobId := job
  captureId := captureId
  captureSequence := 1
  artifactKind := .photo
  contentSha256 := contentHash
  byteSize := 1
  mediaType := "image/jpeg"
  storageKey := "photo-1"
  captureArea := none
  capturedAt := midnight
  deviceId := none
  quarantineState := .accepted

/-- A photo of the kitchen. -/
def link : InvestigationArtifact where
  id := linkId
  organizationId := tenant
  jobId := job
  investigationId := investigation
  artifactId := photoId
  captureAreaId := kitchen
  linkOrdinal := 1
  source := .captured_during_investigation
  attachedByInspectorActorId := inspector

/-- Its first assignment, to the garage of the other job. -/
def assignment : AreaAssignment where
  id := assignmentId
  organizationId := tenant
  investigationId := investigation
  investigationArtifactId := linkId
  areaId := garage
  assignmentOrdinal := 1
  reason := .capture_context
  assignedByInspectorActorId := inspector

def steps : List EvidenceStep :=
  [.other [⟨job, tenant, 0⟩, ⟨otherJob, tenant, 0⟩] [⟨tenant, inspector, .inspector, .active⟩]
      [⟨inspector, none⟩] [photo] [⟨tenant, photoId, "version-1", contentHash, 1⟩],
    .area ⟨kitchen, tenant, job⟩, .area ⟨garage, tenant, otherJob⟩, .investigation started,
    .revision firstCall begins, .artifact link, .assignment assignment]

/-- A server whose digests all are noughts. -/
def noughts : Server := ⟨fun _ => placeholderSha, fun _ => ""⟩

def final : EvidenceTables := steps.foldl (perform noughts) empty

theorem final_rows :
    final.areaAssignments.rows.any (fun a => final.investigationArtifacts.rows.any fun e =>
      final.context.inspectionAreas.any fun area => decide (e.id = a.investigationArtifactId ∧
        area.id = a.areaId ∧ area.jobId ≠ e.jobId)) = true := by
  decide +kernel

/-- Evidence of one job is assigned to an area of another. -/
theorem assigned_elsewhere : ¬ ∀ (server : Server) (l before after : List EvidenceStep),
    l = before ++ after → Assigned (before.foldl (perform server) empty) := by
  intro hall
  have hassigned : Assigned final := hall noughts steps steps [] (List.append_nil _).symm
  obtain ⟨a, ha, hrow⟩ := List.any_eq_true.mp final_rows
  obtain ⟨e, he, hrow⟩ := List.any_eq_true.mp hrow
  obtain ⟨area, harea, hrow⟩ := List.any_eq_true.mp hrow
  obtain ⟨hartifact, hid, hjob⟩ := of_decide_eq_true hrow
  exact hjob ((hassigned a ha e he hartifact).1 area harea hid)

end Misassigned

end EvidenceTables

end InspectionHub.Database
