import InspectionHub.Inspection.Coverage

/-!
# The investigation

`packages/domain/src/inspection/investigation.ts`. An investigation collects
evidence, measurements and observations while an inspector moves between
areas, and logs each of these in one timeline. It can be paused and is closed
once, with or without finding candidates.
-/

namespace InspectionHub.Inspection

open Domain

inductive InvestigationStatus where
  | active
  | paused
  | completed_findings
  | completed_no_reportable_finding
deriving DecidableEq

def InvestigationStatus.text : InvestigationStatus → String
  | .active => "active"
  | .paused => "paused"
  | .completed_findings => "completed_findings"
  | .completed_no_reportable_finding => "completed_no_reportable_finding"

inductive InvestigationDraftingDisposition where
  | manual_only
  | queue_ai_asynchronously
deriving DecidableEq

inductive InvestigationArtifactKind where
  | manual_note
  | photo
  | voice_note
deriving DecidableEq

inductive AssignmentReason where
  | capture_context
  | inspector_correction
deriving DecidableEq

structure AreaAssignmentChange where
  areaId : String
  assignedAt : String
  assignedByInspectorId : String
  reason : AssignmentReason
deriving DecidableEq

inductive EvidenceSource where
  | attached_recent
  | captured_during_investigation
deriving DecidableEq

structure InvestigationEvidence where
  artifactId : String
  artifactKind : InvestigationArtifactKind
  captureAreaId : String
  capturedAt : String
  captureSequence : ℚ
  currentAreaId : String
  areaAssignmentHistory : List AreaAssignmentChange
  attachedAt : String
  attachedByInspectorId : String
  linkOrdinal : Nat
  source : EvidenceSource
deriving DecidableEq

inductive InvestigationMeasurementKind where
  | crack_width
  | length
  | level_variation
  | moisture_reading
  | other
deriving DecidableEq

inductive InvestigationMeasurementUnit where
  | millimetres
  | percent
  | relative_scale
  | metres
  | other
deriving DecidableEq

structure InvestigationMeasurement where
  areaId : String
  measuredAt : String
  measuredByInspectorId : String
  measurementId : String
  kind : InvestigationMeasurementKind
  /-- `none` is a `NaN` or an infinity. -/
  value : Option ℚ
  unit : InvestigationMeasurementUnit
  note : Option String
deriving DecidableEq

structure InvestigationObservation where
  areaId : String
  observationId : String
  recordedAt : String
  recordedByInspectorId : String
  text : String
deriving DecidableEq

structure InvestigationAreaVisit where
  areaId : String
  enteredAt : String
  ordinal : Nat
deriving DecidableEq

/-- A timeline entry without its ordinal. -/
inductive TimelineInput where
  | area_entered (occurredAt areaId : String)
  | evidence_linked (occurredAt artifactId areaId : String)
  | measurement_recorded (occurredAt measurementId areaId : String)
  | observation_recorded (occurredAt observationId areaId : String)
  | paused (occurredAt areaId : String)
  | resumed (occurredAt areaId : String)
deriving DecidableEq

structure InvestigationTimelineEntry where
  entry : TimelineInput
  ordinal : Nat
deriving DecidableEq

structure InvestigationModuleLink where
  findingCandidateId : String
  module : ModuleType
  moduleId : String
  sourceArtifactIds : List String
deriving DecidableEq

inductive InvestigationOutcome where
  | finding_candidates
  | no_reportable_finding
deriving DecidableEq

structure InvestigationCompletion where
  completedAt : String
  completedByInspectorId : String
  draftingDisposition : InvestigationDraftingDisposition
  moduleLinks : List InvestigationModuleLink
  outcome : InvestigationOutcome
deriving DecidableEq

structure Investigation where
  investigationId : String
  organizationId : String
  jobId : String
  commissionedModules : List ProfessionalModuleReference
  startedAt : String
  startedByInspectorId : String
  status : InvestigationStatus
  revision : Nat
  currentAreaId : String
  areaVisits : List InvestigationAreaVisit
  evidence : List InvestigationEvidence
  measurements : List InvestigationMeasurement
  observations : List InvestigationObservation
  timeline : List InvestigationTimelineEntry
  completion : Option InvestigationCompletion
deriving DecidableEq

structure EvidenceAttachmentInput where
  artifactId : String
  artifactKind : InvestigationArtifactKind
  captureAreaId : String
  capturedAt : String
  captureSequence : ℚ
  jobId : String
deriving DecidableEq

/-! ## Starting -/

structure StartInvestigation where
  investigationId : String
  organizationId : String
  jobId : String
  commissionedModules : List ProfessionalModuleReference
  areaId : String
  startedAt : String
  inspectorId : String

def startInvestigation (command : StartInvestigation) : Except DomainError Investigation := do
  require (command.commissionedModules ≠ []) "investigation_has_no_module"
    "An investigation must belong to at least one commissioned professional module" []
  require ((command.commissionedModules.map (·.module)).Nodup ∧
      (command.commissionedModules.map (·.moduleId)).Nodup)
    "duplicate_commissioned_module"
    "Commissioned professional modules must be unique" []
  return {
    investigationId := command.investigationId
    organizationId := command.organizationId
    jobId := command.jobId
    commissionedModules := command.commissionedModules
    startedAt := command.startedAt
    startedByInspectorId := command.inspectorId
    status := .active
    revision := 0
    currentAreaId := command.areaId
    areaVisits := [{ areaId := command.areaId, enteredAt := command.startedAt, ordinal := 1 }]
    evidence := []
    measurements := []
    observations := []
    timeline := [{ entry := .area_entered command.startedAt command.areaId, ordinal := 1 }]
    completion := none }

/-! ## The guards and the helpers -/

def assertExpectedRevision (state : Investigation) (expectedRevision : Nat) :
    Except DomainError Unit :=
  require (state.revision = expectedRevision) "revision_conflict"
    "Investigation changed on another screen or device; refresh and compare before retrying"
    [("expectedRevision", .num (.int expectedRevision)),
      ("currentRevision", .num (.int state.revision))]

def assertWritable (state : Investigation) (expectedRevision : Nat) : Except DomainError Unit := do
  assertExpectedRevision state expectedRevision
  require (state.status = .active) "investigation_not_writable"
    ("A " ++ state.status.text ++ " investigation cannot accept this change") []

def timelineEntry (timeline : List InvestigationTimelineEntry) (input : TimelineInput) :
    InvestigationTimelineEntry :=
  { entry := input, ordinal := timeline.length + 1 }

/-- The patched state, one revision on. -/
def advance (patched : Investigation) : Investigation :=
  { patched with revision := patched.revision + 1 }

/-! ## Areas -/

structure ChangeArea where
  expectedRevision : Nat
  areaId : String
  enteredAt : String

def changeInvestigationArea (state : Investigation) (command : ChangeArea) :
    Except DomainError Investigation := do
  assertWritable state command.expectedRevision
  require (state.currentAreaId ≠ command.areaId) "area_already_current"
    "The selected area is already current for this investigation" []
  let visitOrdinal := state.areaVisits.length + 1
  return advance { state with
    currentAreaId := command.areaId
    areaVisits := state.areaVisits ++
      [{ areaId := command.areaId, enteredAt := command.enteredAt, ordinal := visitOrdinal }]
    timeline := state.timeline ++
      [timelineEntry state.timeline (.area_entered command.enteredAt command.areaId)] }

/-! ## Evidence -/

structure AttachEvidence where
  expectedRevision : Nat
  artifacts : List EvidenceAttachmentInput
  attachedAt : String
  inspectorId : String
  source : EvidenceSource

/-- The loop over the artifacts, with the `commandIds` it has met. -/
def checkArtifacts (state : Investigation) :
    List String → List EvidenceAttachmentInput → Except DomainError Unit
  | _, [] => .ok ()
  | commandIds, artifact :: rest => do
      require (artifact.jobId = state.jobId) "wrong_job_evidence"
        "Evidence from another job cannot enter this investigation"
        [("artifactId", .str artifact.artifactId)]
      require (¬ (artifact.artifactId ∈ state.evidence.map (·.artifactId) ∨
          artifact.artifactId ∈ commandIds))
        "evidence_already_attached"
        "An immutable original may be linked only once to an investigation"
        [("artifactId", .str artifact.artifactId)]
      checkArtifacts state (commandIds ++ [artifact.artifactId]) rest

def compareCaptureOrder (host : Js.Host) (a b : EvidenceAttachmentInput) : Ordering :=
  (host.localeCompare a.capturedAt b.capturedAt).then
    ((compare a.captureSequence b.captureSequence).then
      (host.localeCompare a.artifactId b.artifactId))

/-- The evidence made of an input. -/
def addition (command : AttachEvidence) (linkOrdinal : Nat) (artifact : EvidenceAttachmentInput) :
    InvestigationEvidence where
  artifactId := artifact.artifactId
  artifactKind := artifact.artifactKind
  captureAreaId := artifact.captureAreaId
  capturedAt := artifact.capturedAt
  captureSequence := artifact.captureSequence
  currentAreaId := artifact.captureAreaId
  areaAssignmentHistory := [{
    areaId := artifact.captureAreaId
    assignedAt := artifact.capturedAt
    assignedByInspectorId := command.inspectorId
    reason := .capture_context }]
  attachedAt := command.attachedAt
  attachedByInspectorId := command.inspectorId
  linkOrdinal := linkOrdinal
  source := command.source

def attachInvestigationEvidence (host : Js.Host) (state : Investigation)
    (command : AttachEvidence) : Except DomainError Investigation := do
  assertWritable state command.expectedRevision
  require (command.artifacts ≠ []) "no_evidence_selected"
    "Select at least one recent or current artifact to attach" []
  checkArtifacts state [] command.artifacts
  let orderedInputs := command.artifacts.mergeSort fun a b => compareCaptureOrder host a b ≠ .gt
  let additions := orderedInputs.mapIdx fun index artifact =>
    addition command (state.evidence.length + index + 1) artifact
  let newTimeline : List InvestigationTimelineEntry := additions.mapIdx fun index evidence => {
    entry := .evidence_linked command.attachedAt evidence.artifactId evidence.currentAreaId
    ordinal := state.timeline.length + index + 1 }
  return advance { state with
    evidence := state.evidence ++ additions
    timeline := state.timeline ++ newTimeline }

structure ReassignEvidence where
  expectedRevision : Nat
  artifactId : String
  areaId : String
  assignedAt : String
  inspectorId : String

/-- The evidence assigned to another area. -/
def corrected (command : ReassignEvidence) (item : InvestigationEvidence) :
    InvestigationEvidence :=
  { item with
    currentAreaId := command.areaId
    areaAssignmentHistory := item.areaAssignmentHistory ++ [{
      areaId := command.areaId
      assignedAt := command.assignedAt
      assignedByInspectorId := command.inspectorId
      reason := .inspector_correction }] }

def reassignInvestigationEvidenceArea (state : Investigation) (command : ReassignEvidence) :
    Except DomainError Investigation := do
  assertWritable state command.expectedRevision
  match state.evidence.find? fun item => item.artifactId = command.artifactId with
  | none =>
      .error (.conflict "evidence_not_attached"
        "Only evidence already attached to this investigation can be reassigned" [])
  | some evidence => do
      require (evidence.currentAreaId ≠ command.areaId) "evidence_area_unchanged"
        "The evidence is already assigned to that area" []
      return advance { state with
        evidence := state.evidence.map fun item =>
          if item.artifactId = command.artifactId then corrected command item else item }

/-! ## Measurements and observations -/

structure RecordMeasurement where
  expectedRevision : Nat
  measurement : InvestigationMeasurement

def recordInvestigationMeasurement (state : Investigation) (command : RecordMeasurement) :
    Except DomainError Investigation := do
  let measurement := command.measurement
  assertWritable state command.expectedRevision
  require (measurement.value ≠ none) "invalid_measurement" "A measurement value must be finite" []
  require (measurement.measurementId ∉ state.measurements.map (·.measurementId))
    "measurement_already_recorded"
    "Measurement identity must be unique within an investigation" []
  return advance { state with
    measurements := state.measurements ++ [measurement]
    timeline := state.timeline ++
      [timelineEntry state.timeline (.measurement_recorded measurement.measuredAt
        measurement.measurementId measurement.areaId)] }

structure RecordObservation where
  expectedRevision : Nat
  observation : InvestigationObservation

def recordInvestigationObservation (state : Investigation) (command : RecordObservation) :
    Except DomainError Investigation := do
  let observation := command.observation
  assertWritable state command.expectedRevision
  require (Js.trim observation.text ≠ "") "empty_observation"
    "An inspector observation cannot be blank" []
  require (observation.observationId ∉ state.observations.map (·.observationId))
    "observation_already_recorded"
    "Observation identity must be unique within an investigation" []
  return advance { state with
    observations := state.observations ++
      [{ observation with text := Js.trim observation.text }]
    timeline := state.timeline ++
      [timelineEntry state.timeline (.observation_recorded observation.recordedAt
        observation.observationId observation.areaId)] }

/-! ## Pausing, resuming and finishing -/

structure PauseInvestigation where
  expectedRevision : Nat
  pausedAt : String

def pauseInvestigation (state : Investigation) (command : PauseInvestigation) :
    Except DomainError Investigation := do
  assertExpectedRevision state command.expectedRevision
  require (state.status = .active) "investigation_not_active"
    "Only an active investigation can be paused" []
  return advance { state with
    status := .paused
    timeline := state.timeline ++
      [timelineEntry state.timeline (.paused command.pausedAt state.currentAreaId)] }

structure ResumeInvestigation where
  expectedRevision : Nat
  resumedAt : String

def resumeInvestigation (state : Investigation) (command : ResumeInvestigation) :
    Except DomainError Investigation := do
  assertExpectedRevision state command.expectedRevision
  require (state.status = .paused) "investigation_not_paused"
    "Only a paused investigation can be resumed" []
  return advance { state with
    status := .active
    timeline := state.timeline ++
      [timelineEntry state.timeline (.resumed command.resumedAt state.currentAreaId)] }

/-- The loop over the links, with the `seenModules` it has met. -/
def validateLinks (state : Investigation) :
    List ModuleType → List InvestigationModuleLink → Except DomainError Unit
  | _, [] => .ok ()
  | seenModules, link :: rest => do
      require (∃ reference ∈ state.commissionedModules,
          reference.module = link.module ∧ reference.moduleId = link.moduleId)
        "module_not_commissioned"
        "An investigation cannot create a finding for an uncommissioned module"
        [("module", .str link.module.text)]
      require (link.module ∉ seenModules) "duplicate_module_link"
        "An investigation closure may create at most one candidate per professional module" []
      require link.sourceArtifactIds.Nodup "duplicate_finding_source"
        "A finding candidate cannot repeat a source artifact" []
      match link.sourceArtifactIds.find?
          fun artifactId => artifactId ∉ state.evidence.map (·.artifactId) with
      | some artifactId =>
          .error (.conflict "finding_source_not_attached"
            "A finding candidate can reference only evidence attached to its investigation"
            [("artifactId", .str artifactId)])
      | none => validateLinks state (seenModules ++ [link.module]) rest

def validateModuleLinks (state : Investigation) (links : List InvestigationModuleLink) :
    Except DomainError Unit :=
  validateLinks state [] links

structure FinishInvestigation where
  expectedRevision : Nat
  completedAt : String
  inspectorId : String
  draftingDisposition : InvestigationDraftingDisposition
  outcome : InvestigationOutcome
  moduleLinks : Option (List InvestigationModuleLink)

def finishInvestigation (state : Investigation) (command : FinishInvestigation) :
    Except DomainError Investigation := do
  assertWritable state command.expectedRevision
  let moduleLinks := command.moduleLinks.getD []
  require (¬ (command.outcome = .no_reportable_finding ∧ moduleLinks ≠ []))
    "no_finding_has_module_links"
    "A no-reportable-finding closure cannot also create finding candidates" []
  require (command.outcome = .finding_candidates → moduleLinks ≠ []) "finding_modules_required"
    "A finding-candidate closure must name at least one professional module" []
  require (command.outcome = .finding_candidates →
      ¬ (state.evidence = [] ∧ state.measurements = [] ∧ state.observations = []))
    "finding_has_no_source"
    ("A finding candidate must retain at least one source artifact, measurement, " ++
      "or inspector observation") []
  validateModuleLinks state moduleLinks
  return advance { state with
    status :=
      if command.outcome = .finding_candidates then .completed_findings
      else .completed_no_reportable_finding
    completion := some {
      completedAt := command.completedAt
      completedByInspectorId := command.inspectorId
      draftingDisposition := command.draftingDisposition
      moduleLinks := moduleLinks
      outcome := command.outcome } }

/-! ## Commands -/

inductive InvestigationCommand where
  | changeArea (command : ChangeArea)
  | attachEvidence (command : AttachEvidence)
  | reassignEvidenceArea (command : ReassignEvidence)
  | recordMeasurement (command : RecordMeasurement)
  | recordObservation (command : RecordObservation)
  | pause (command : PauseInvestigation)
  | resume (command : ResumeInvestigation)
  | finish (command : FinishInvestigation)

def InvestigationCommand.exec (host : Js.Host) (state : Investigation) :
    InvestigationCommand → Except DomainError Investigation
  | .changeArea command => changeInvestigationArea state command
  | .attachEvidence command => attachInvestigationEvidence host state command
  | .reassignEvidenceArea command => reassignInvestigationEvidenceArea state command
  | .recordMeasurement command => recordInvestigationMeasurement state command
  | .recordObservation command => recordInvestigationObservation state command
  | .pause command => pauseInvestigation state command
  | .resume command => resumeInvestigation state command
  | .finish command => finishInvestigation state command

end InspectionHub.Inspection
