import InspectionHub.Inspection.Investigation

/-!
# The drafting packet

`packages/domain/src/inspection/packet.ts`: a completed investigation and its
coverage, frozen for drafting. Of `packages/agent/src/tools/packet-tools.ts`,
`prepared-request.ts` and
`packages/providers/openai/src/openai-boundary.ts`: the sources a prepared
request lists of a packet, and what is checked of them first.
-/

namespace InspectionHub.Inspection

open Domain

/-! ## Packets -/

inductive CorrectionOrigin where
  | inspector
  | transcription_provider
deriving DecidableEq

structure InvestigationTranscriptSpan where
  correctedText : String
  correctionOrigin : CorrectionOrigin
  /-- `none` is a `NaN`, which no comparison finds out of bounds. -/
  endMilliseconds : Option ℚ
  spanId : String
  startMilliseconds : Option ℚ
  voiceArtifactId : String

inductive ContradictionStatus where
  | resolved
  | unresolved
deriving DecidableEq

structure InvestigationContradiction where
  contradictionId : String
  description : String
  resolution : Option String
  sourceArtifactIds : List String
  status : ContradictionStatus

structure InvestigationInspectorFeedback where
  feedbackId : String
  modules : List ModuleType
  text : String

structure InvestigationModuleSchemaReference extends ProfessionalModuleReference where
  schemaVersion : String

structure InvestigationPacketVersionPins where
  model : String
  promptVersion : String
  skillVersions : List String

/-- The packet before it is hashed. -/
structure InvestigationPacketContent where
  packetId : String
  packetRevision : ℚ
  organizationId : String
  jobId : String
  investigationId : String
  investigationRevision : Nat
  modules : List ProfessionalModuleReference
  moduleSchemas : List InvestigationModuleSchemaReference
  versionPins : InvestigationPacketVersionPins
  areaHistory : List InvestigationAreaVisit
  evidence : List InvestigationEvidence
  measurements : List InvestigationMeasurement
  observations : List InvestigationObservation
  transcriptSpans : List InvestigationTranscriptSpan
  contradictions : List InvestigationContradiction
  priorInspectorFeedback : List InvestigationInspectorFeedback
  coverage : List CoverageEntry
  limitations : List CoverageLimitation
  unknowns : List String
  createdAt : String

structure InvestigationPacket extends InvestigationPacketContent where
  canonicalHash : String

structure CreateInvestigationPacket where
  packetId : String
  packetRevision : ℚ
  investigation : Investigation
  coverageLedger : CoverageLedger
  selectedArtifactIds : List String
  transcriptSpans : Option (List InvestigationTranscriptSpan)
  contradictions : Option (List InvestigationContradiction)
  priorInspectorFeedback : Option (List InvestigationInspectorFeedback)
  moduleSchemas : List InvestigationModuleSchemaReference
  versionPins : InvestigationPacketVersionPins
  unknowns : List String
  createdAt : String

/-! ## The context of a packet -/

def assertNonBlank (value label : String) : Except DomainError Unit :=
  require (Js.trim value ≠ "") "blank_packet_context" ("Packet " ++ label ++ " cannot be blank") []

/-- `${module.module}:${module.moduleId}`. -/
def ProfessionalModuleReference.packetKey (reference : ProfessionalModuleReference) : String :=
  reference.module.text ++ ":" ++ reference.moduleId

/-- The loop over the schemas, with the `schemaKeys` it has met. -/
def checkModuleSchemas (moduleKeys : List String) :
    List String → List InvestigationModuleSchemaReference → Except DomainError (List String)
  | schemaKeys, [] => .ok schemaKeys
  | schemaKeys, schema :: rest => do
      assertNonBlank schema.schemaVersion "module schema version"
      let key := schema.toProfessionalModuleReference.packetKey
      require (¬ (key ∉ moduleKeys ∨ key ∈ schemaKeys)) "packet_module_schema_mismatch"
        "Packet module schemas must map one-to-one to the exact professional modules" []
      checkModuleSchemas moduleKeys (schemaKeys ++ [key]) rest

/-- `a < b`, false of a `NaN`. -/
def numberBelow (a b : Option ℚ) : Prop := ∃ x ∈ a, ∃ y ∈ b, x < y

/-- `a <= b`, false of a `NaN`. -/
def numberAtMost (a b : Option ℚ) : Prop := ∃ x ∈ a, ∃ y ∈ b, x ≤ y

instance (a b : Option ℚ) : Decidable (numberBelow a b) :=
  inferInstanceAs (Decidable (∃ x ∈ a, ∃ y ∈ b, x < y))

instance (a b : Option ℚ) : Decidable (numberAtMost a b) :=
  inferInstanceAs (Decidable (∃ x ∈ a, ∃ y ∈ b, x ≤ y))

/-- The loop over the spans, with the `spanIds` it has met. -/
def checkTranscriptSpans (selectedArtifactIds : List String) :
    List String → List InvestigationTranscriptSpan → Except DomainError Unit
  | _, [] => .ok ()
  | spanIds, span :: rest => do
      require (¬ (span.spanId ∈ spanIds ∨ span.voiceArtifactId ∉ selectedArtifactIds ∨
          numberBelow span.startMilliseconds (some 0) ∨
          numberAtMost span.endMilliseconds span.startMilliseconds))
        "invalid_packet_transcript_span"
        "Transcript spans must be unique, bounded, and reference selected voice evidence" []
      assertNonBlank span.correctedText "corrected transcript span"
      checkTranscriptSpans selectedArtifactIds (spanIds ++ [span.spanId]) rest

/-- The loop over the contradictions, with the `contradictionIds` it has met. -/
def checkContradictions (selectedArtifactIds : List String) :
    List String → List InvestigationContradiction → Except DomainError Unit
  | _, [] => .ok ()
  | contradictionIds, contradiction :: rest => do
      require (¬ (contradiction.contradictionId ∈ contradictionIds ∨
          contradiction.sourceArtifactIds = [] ∨
          ¬ contradiction.sourceArtifactIds ⊆ selectedArtifactIds ∨
          (contradiction.status = .resolved ∧
            Js.trim (contradiction.resolution.getD "") = "") ∨
          (contradiction.status = .unresolved ∧ contradiction.resolution ≠ none)))
        "invalid_packet_contradiction"
        ("Contradictions must be unique, source-linked, and have a consistent resolution " ++
          "state") []
      assertNonBlank contradiction.description "contradiction description"
      checkContradictions selectedArtifactIds
        (contradictionIds ++ [contradiction.contradictionId]) rest

/-- The loop over the feedback, with the `feedbackIds` it has met. -/
def checkFeedback (moduleTypes : List ModuleType) :
    List String → List InvestigationInspectorFeedback → Except DomainError Unit
  | _, [] => .ok ()
  | feedbackIds, feedback :: rest => do
      require (¬ (feedback.feedbackId ∈ feedbackIds ∨ feedback.modules = [] ∨
          ¬ feedback.modules ⊆ moduleTypes))
        "invalid_packet_feedback"
        "Prior inspector feedback must be unique and scoped to packet modules" []
      assertNonBlank feedback.text "prior inspector feedback"
      checkFeedback moduleTypes (feedbackIds ++ [feedback.feedbackId]) rest

structure PacketContext where
  selectedArtifactIds : List String
  modules : List ProfessionalModuleReference
  moduleSchemas : List InvestigationModuleSchemaReference
  transcriptSpans : List InvestigationTranscriptSpan
  contradictions : List InvestigationContradiction
  priorInspectorFeedback : List InvestigationInspectorFeedback
  versionPins : InvestigationPacketVersionPins

def validatePacketContext (input : PacketContext) : Except DomainError Unit := do
  assertNonBlank input.versionPins.model "model version"
  assertNonBlank input.versionPins.promptVersion "prompt version"
  input.versionPins.skillVersions.forM (assertNonBlank · "skill version")
  let moduleKeys := (input.modules.map (·.packetKey)).dedup
  let schemaKeys ← checkModuleSchemas moduleKeys [] input.moduleSchemas
  require (schemaKeys.length = moduleKeys.length) "packet_module_schema_missing"
    "Every packet professional module requires an exact schema version" []
  checkTranscriptSpans input.selectedArtifactIds [] input.transcriptSpans
  checkContradictions input.selectedArtifactIds [] input.contradictions
  checkFeedback (input.modules.map (·.module)) [] input.priorInspectorFeedback

/-! ## Creating a packet -/

def compareEvidenceOrder (host : Js.Host) (a b : InvestigationEvidence) : Ordering :=
  (host.localeCompare a.capturedAt b.capturedAt).then
    ((compare a.captureSequence b.captureSequence).then (compare a.linkOrdinal b.linkOrdinal))

def orderedInvestigationEvidence (host : Js.Host) (state : Investigation) :
    List InvestigationEvidence :=
  state.evidence.mergeSort fun a b => compareEvidenceOrder host a b ≠ .gt

/-- `investigation.status.startsWith("completed_")`. -/
def InvestigationStatus.completed (status : InvestigationStatus) : Bool :=
  Js.startsWith status.text "completed_"

/-- The modules a packet is about. -/
def Investigation.packetModules (investigation : Investigation) :
    List ProfessionalModuleReference :=
  match investigation.completion with
  | some completion =>
      if completion.outcome = .finding_candidates then
        completion.moduleLinks.map fun link => ⟨link.module, link.moduleId⟩
      else investigation.commissionedModules
  | none => investigation.commissionedModules

/-- `hash` is `sha256` of the content's canonical text. -/
def createInvestigationPacket (host : Js.Host) (hash : InvestigationPacketContent → String)
    (input : CreateInvestigationPacket) : Except DomainError InvestigationPacket := do
  let investigation := input.investigation
  let coverageLedger := input.coverageLedger
  require (investigation.status.completed = true) "investigation_not_complete"
    "Only a completed investigation can be frozen into a drafting packet" []
  require (investigation.organizationId = coverageLedger.organizationId ∧
      investigation.jobId = coverageLedger.jobId)
    "coverage_investigation_mismatch"
    "Investigation and coverage must belong to the same organisation and job" []
  require (¬ (input.packetRevision < 1 ∨ Js.isInteger input.packetRevision = false))
    "invalid_packet_revision" "Investigation packet revisions are positive integers" []
  require input.selectedArtifactIds.Nodup "duplicate_packet_evidence"
    "A packet cannot repeat selected evidence" []
  let evidence := (orderedInvestigationEvidence host investigation).filter fun item =>
    item.artifactId ∈ input.selectedArtifactIds
  require (evidence.length = input.selectedArtifactIds.length) "packet_evidence_not_attached"
    ("A packet may contain only inspector-selected evidence attached to the " ++
      "investigation") []
  let modules := investigation.packetModules
  validatePacketContext {
    selectedArtifactIds := input.selectedArtifactIds
    modules
    moduleSchemas := input.moduleSchemas
    transcriptSpans := input.transcriptSpans.getD []
    contradictions := input.contradictions.getD []
    priorInspectorFeedback := input.priorInspectorFeedback.getD []
    versionPins := input.versionPins }
  let content : InvestigationPacketContent := {
    packetId := input.packetId
    packetRevision := input.packetRevision
    organizationId := investigation.organizationId
    jobId := investigation.jobId
    investigationId := investigation.investigationId
    investigationRevision := investigation.revision
    modules
    moduleSchemas := input.moduleSchemas
    versionPins := input.versionPins
    areaHistory := investigation.areaVisits
    evidence
    measurements := investigation.measurements
    observations := investigation.observations
    transcriptSpans := input.transcriptSpans.getD []
    contradictions := input.contradictions.getD []
    priorInspectorFeedback := input.priorInspectorFeedback.getD []
    coverage := currentCoverageEntries host coverageLedger
    limitations := coverageLedger.limitations.filter (·.status = .active)
    unknowns := (input.unknowns.map Js.trim).filter (· ≠ "")
    createdAt := input.createdAt }
  return { content with canonicalHash := hash content }

/-! ## The sources of a prepared request -/

inductive PacketSourceKind where
  | artifact
  | transcript_span
  | observation
  | measurement
  | limitation
  | coverage
deriving DecidableEq

def PacketSourceKind.text : PacketSourceKind → String
  | .artifact => "artifact"
  | .transcript_span => "transcript_span"
  | .observation => "observation"
  | .measurement => "measurement"
  | .limitation => "limitation"
  | .coverage => "coverage"

/-- A source as the boundary identifies it. -/
structure PacketSource where
  kind : PacketSourceKind
  sourceId : String
deriving DecidableEq

/-- `#allSources()`. -/
def InvestigationPacket.allSources (packet : InvestigationPacket) : List PacketSource :=
  packet.evidence.map (⟨.artifact, ·.artifactId⟩) ++
  packet.transcriptSpans.map (⟨.transcript_span, ·.spanId⟩) ++
  packet.observations.map (⟨.observation, ·.observationId⟩) ++
  packet.measurements.map (⟨.measurement, ·.measurementId⟩) ++
  packet.limitations.map (⟨.limitation, ·.limitationId⟩) ++
  packet.coverage.map (⟨.coverage, ·.coverageEntryId⟩)

structure MinimizedAiPacket where
  opaqueJobId : String
  packetId : String
  packetHash : String
  packetRevision : ℚ
  modules : List ProfessionalModuleReference
  redactedSources : List PacketSource

/-- `/^job_[A-Za-z0-9_-]{6,120}$/u`. -/
def isOpaqueJobId (text : String) : Bool :=
  Js.startsWith text "job_" && 10 ≤ text.toList.length && text.toList.length ≤ 124 &&
    (text.toList.drop 4).all fun c =>
      ('A' ≤ c && c ≤ 'Z') || ('a' ≤ c && c ≤ 'z') || ('0' ≤ c && c ≤ '9') || c = '_' || c = '-'

/-- `throw new Error(message)` unless `p`. -/
def demand (p : Prop) [Decidable p] (message : String) : Except String Unit :=
  if p then .ok () else .error message

/-- `${source.kind}:${source.sourceId}`. -/
def PacketSource.key (source : PacketSource) : String :=
  source.kind.text ++ ":" ++ source.sourceId

/-- The loop over the sources, with the `sourceKeys` it has met. -/
def checkSources : List String → List PacketSource → Except String Unit
  | _, [] => .ok ()
  | sourceKeys, source :: rest => do
      demand (¬ (Js.trim source.sourceId = "" ∨ source.key ∈ sourceKeys))
        "AI packet contains an invalid or duplicate source"
      checkSources (sourceKeys ++ [source.key]) rest

def validateMinimizedPacket (packet : MinimizedAiPacket) : Except String Unit := do
  demand (isOpaqueJobId packet.opaqueJobId = true) "AI packet must use an opaque job identifier"
  demand (¬ (Js.trim packet.packetId = "" ∨ Js.isHexDigest packet.packetHash = false ∨
      Js.isSafeInteger packet.packetRevision = false ∨ packet.packetRevision < 1 ∨
      packet.modules = [] ∨ packet.redactedSources = []))
    "AI packet identity or structured sources are invalid"
  checkSources [] packet.redactedSources

/-- The packet `prepareInvestigationAiRequest` submits to the boundary. -/
def minimizedPacket (sha256 : JsVal → String) (packet : InvestigationPacket) :
    MinimizedAiPacket where
  opaqueJobId := "job_" ++ String.ofList ((sha256 (.obj
    [("organizationId", .str packet.organizationId), ("jobId", .str packet.jobId)])).toList.take 32)
  packetId := packet.packetId
  packetHash := packet.canonicalHash
  packetRevision := packet.packetRevision
  modules := packet.modules
  redactedSources := packet.allSources

end InspectionHub.Inspection
