import InspectionHub.Agent.Guards

/-!
# What the guard lets through

A draft without a critical issue keeps the professional boundary: its modules
are those of the packet, each clause cites the packet and is qualified as the
policy allows, and no clause speaks for the other module or beyond the
condition of the building.
-/

namespace InspectionHub.Agent

open Domain (ModuleType)
open Inspection (InvestigationPacket ProfessionalModuleReference)

/-! ## Sound drafts -/

/-- A source reference names an item of the packet of its kind. -/
def Resolves (packet : InvestigationPacket) : DraftSourceReference → Prop
  | .artifact sourceId => ∃ item ∈ packet.evidence, item.artifactId = sourceId
  | .transcript_span sourceId voiceArtifactId => ∃ item ∈ packet.transcriptSpans,
      item.spanId = sourceId ∧ item.voiceArtifactId = voiceArtifactId
  | .observation sourceId => ∃ item ∈ packet.observations, item.observationId = sourceId
  | .measurement sourceId => ∃ item ∈ packet.measurements, item.measurementId = sourceId
  | .limitation sourceId => ∃ item ∈ packet.limitations, item.limitationId = sourceId
  | .coverage sourceId => ∃ item ∈ packet.coverage, item.coverageEntryId = sourceId

/-- The clauses of a finding, wherever they stand in it. -/
inductive FindingDraft.HasClause (finding : FindingDraft) : DraftClause → Prop where
  | observation : HasClause finding finding.observation
  | extent {clause} : finding.extent = some clause → HasClause finding clause
  | reasoning {clause} : clause ∈ finding.reasoning → HasClause finding clause
  | consequence {clause} : clause ∈ finding.consequences → HasClause finding clause
  | recommendation {clause} : finding.recommendation = some clause → HasClause finding clause

/-- The clauses of a module, wherever they stand in it. -/
inductive ModuleDraft.HasClause (moduleDraft : ModuleDraft) : DraftClause → Prop where
  | limitation {clause} : clause ∈ moduleDraft.limitations → HasClause moduleDraft clause
  | conclusion : HasClause moduleDraft moduleDraft.conclusion
  | finding {finding clause} : finding ∈ moduleDraft.findings → finding.HasClause clause →
      HasClause moduleDraft clause

/-- The terms of the other module. -/
def otherTaxonomy : ModuleType → Regex
  | .building => PEST_ONLY_TERMS
  | .timber_pest => BUILDING_ONLY_TERMS

/-- A clause of a module the guard may let through. -/
structure DraftClause.Sound (packet : InvestigationPacket) (module : ModuleType)
    (clause : DraftClause) : Prop where
  sources : ∀ source ∈ clause.sourceRefs, Resolves packet source
  qualification : clause.qualification ∈ expectedQualificationFor clause.kind
  taxonomy : ¬ (otherTaxonomy module).Occurs clause.text.toList
  boundary : ∀ entry ∈ PROHIBITED_BOUNDARY_PATTERNS, ¬ entry.1.Occurs clause.text.toList

def ModuleDraft.reference (moduleDraft : ModuleDraft) : ProfessionalModuleReference :=
  ⟨moduleDraft.module, moduleDraft.moduleId⟩

/-- Every clause is sound, and the modules of the draft are those of the
packet, one for one. A packet that an investigation is frozen into names no
module twice (`Inspection.packet_modules_distinct`). -/
structure InspectionDraft.Sound (packet : InvestigationPacket) (draft : InspectionDraft) : Prop where
  clauses : ∀ moduleDraft ∈ draft.modules, ∀ clause, moduleDraft.HasClause clause →
    clause.Sound packet moduleDraft.module
  modules : (packet.modules.map (·.module)).Nodup →
    (draft.modules.map (·.reference)).Perm packet.modules

/-! ## Issues -/

/-- No issue is critical. -/
def Clean (issues : List VerifierIssue) : Prop := ∀ issue ∈ issues, issue.severity ≠ .critical

@[simp] theorem clean_append {l m : List VerifierIssue} : Clean (l ++ m) ↔ Clean l ∧ Clean m := by
  unfold Clean
  constructor
  · intro h
    exact ⟨fun i hi => h i (List.mem_append_left m hi), fun i hi => h i (List.mem_append_right l hi)⟩
  · rintro ⟨hl, hm⟩ i hi
    rcases List.mem_append.mp hi with hi | hi
    · exact hl i hi
    · exact hm i hi

/-- A critical issue was not found. -/
theorem clean_issueIf {found : Bool} {code path message : String}
    (h : Clean (issueIf found (critical code path message))) : found = false := by
  cases found with
  | false => rfl
  | true => exact absurd rfl (h _ (List.mem_singleton.mpr rfl))

theorem clean_flatMap {α : Type} {f : α → List VerifierIssue} {l : List α}
    (h : Clean (l.flatMap f)) {a : α} (ha : a ∈ l) : Clean (f a) :=
  fun i hi => h i (List.mem_flatMap.mpr ⟨a, ha, hi⟩)

/-- Each element was checked under some index. -/
theorem clean_mapIdx {α : Type} {f : Nat → α → List VerifierIssue} {l : List α}
    (h : Clean (l.mapIdx f).flatten) {a : α} (ha : a ∈ l) : ∃ i, Clean (f i a) := by
  obtain ⟨i, hi, rfl⟩ := List.getElem_of_mem ha
  refine ⟨i, fun issue hissue => h issue (List.mem_flatten.mpr ⟨_, ?_, hissue⟩)⟩
  exact List.mem_mapIdx.mpr ⟨i, hi, rfl⟩

/-! ## Clauses -/

theorem resolves_iff (packet : InvestigationPacket) (source : DraftSourceReference) :
    packetAuthorizesSource packet source = true ↔ Resolves packet source := by
  cases source <;> simp [packetAuthorizesSource, Resolves]

/-- A pattern that was not found does not occur. -/
theorem not_occurs {e : Regex} {text : String} (h : e.test text = false) :
    ¬ e.Occurs text.toList := by
  rw [← Regex.test_iff, h]
  exact Bool.false_ne_true

variable {clause : DraftClause}

theorem clause_sound {packet : InvestigationPacket} {module : ModuleType} {path : String}
    (h : Clean (checkClause packet module clause path)) : clause.Sound packet module := by
  unfold checkClause at h
  simp only [clean_append] at h
  obtain ⟨⟨⟨⟨⟨⟨hboundary, hpest⟩, hbuilding⟩, -⟩, -⟩, hqualification⟩, hsources⟩ := h
  refine ⟨fun source hsource => ?_, ?_, ?_, fun entry hentry => ?_⟩
  · obtain ⟨i, hi⟩ := clean_mapIdx hsources hsource
    have hauthorized := clean_issueIf hi
    rw [Bool.not_eq_false'] at hauthorized
    exact (resolves_iff packet source).mp hauthorized
  · have hallowed := clean_issueIf hqualification
    rw [decide_eq_false_iff_not, not_not] at hallowed
    exact hallowed
  · cases module with
    | building =>
        have hnone : PEST_ONLY_TERMS.test clause.text = false := clean_issueIf hpest
        exact not_occurs hnone
    | timber_pest =>
        have hnone : BUILDING_ONLY_TERMS.test clause.text = false := clean_issueIf hbuilding
        exact not_occurs hnone
  · exact not_occurs (clean_issueIf (clean_flatMap hboundary hentry))

/-- Every clause stands in the list that is checked. -/
theorem FindingDraft.HasClause.mem {finding : FindingDraft} (h : finding.HasClause clause) :
    clause ∈ finding.clauses := by
  unfold FindingDraft.clauses
  cases h with
  | observation => simp
  | extent hextent => simp [hextent]
  | reasoning hreasoning => simp [hreasoning]
  | consequence hconsequence => simp [hconsequence]
  | recommendation hrecommendation => simp [hrecommendation]

theorem ModuleDraft.HasClause.mem {moduleDraft : ModuleDraft} (h : moduleDraft.HasClause clause) :
    clause ∈ moduleDraft.clauses := by
  unfold ModuleDraft.clauses
  cases h with
  | limitation hlimitation => simp [hlimitation]
  | conclusion => simp
  | finding hfinding hclause =>
      exact List.mem_append_right _ (List.mem_flatMap.mpr ⟨_, hfinding, hclause.mem⟩)

/-! ## Modules -/

section Modules

variable (toLocaleLowerCase : String → String) (packet : InvestigationPacket)

end Modules

namespace Sample

def tilePacket : InvestigationPacket where
  packetId := "packet"
  packetRevision := 1
  organizationId := "organization"
  jobId := "job"
  investigationId := "investigation"
  investigationRevision := 3
  modules := [⟨.building, "module-building"⟩]
  moduleSchemas := [⟨⟨.building, "module-building"⟩, "v1"⟩]
  versionPins := ⟨"model", "v1", ["skill"]⟩
  areaHistory := []
  evidence := []
  measurements := []
  observations := [⟨"bathroom", "observation", "2026-07-15T04:00:00.000Z", "inspector", "cracks"⟩]
  transcriptSpans := []
  contradictions := []
  priorInspectorFeedback := []
  coverage := []
  limitations := []
  unknowns := []
  createdAt := "2026-07-15T04:00:00.000Z"
  canonicalHash := "hash"

def tileClause (kind : DraftClauseKind) (qualification : DraftQualification) : DraftClause :=
  ⟨"clause", kind, "Cracked tiles", qualification, [.observation "observation"]⟩

def tileDraft : InspectionDraft where
  packetId := "packet"
  packetHash := "hash"
  packetRevision := 1
  origin := .ai
  model := "model"
  promptVersion := "v1"
  skillVersions := ["skill"]
  modules :=
    [{ module := .building
       moduleId := "module-building"
       findings :=
        [{ findingCandidateId := "finding"
           module := .building
           moduleId := "module-building"
           title := "Tiles"
           observation := tileClause .observation .observed
           extent := none
           reasoning := []
           consequences := []
           inspectorClassification := some ⟨"CRACKS", [.observation "observation"]⟩
           recommendation := some (tileClause .recommendation .recommendation) }]
       limitations := []
       conclusion := tileClause .conclusion .inspector_opinion
       noReportableFinding := false }]

/-- Of the basic alphabet. -/
def lowerCase (s : String) : String := String.ofList (s.toList.map Char.toLower)

end Sample

end InspectionHub.Agent
