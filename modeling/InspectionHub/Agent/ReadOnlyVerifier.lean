import InspectionHub.Agent.GuardSoundness
import InspectionHub.Agent.SemanticEntailment

/-!
# The read-only verifier

`ReadOnlyDraftVerifier` of `packages/agent/src/verifier/deterministic-verifier.ts`
puts the guard's issues and those of a semantic verifier together. Both go
through the clauses of a draft. The titles of the findings and the labels of
their classifications are read as well, and are checked by neither.
-/

namespace InspectionHub.Agent

open Domain (ModuleType)
open Inspection (InvestigationPacket)
open Semantic (SemanticEntailmentVerifier)

def DETERMINISTIC_VERIFIER_VERSION : String := "deterministic-verifier-v2"

/-- `ReadOnlyDraftVerifier`, with what it takes of the language's runtime. -/
structure ReadOnlyDraftVerifier where
  semantic : SemanticEntailmentVerifier
  sha256 : InspectionDraft → String
  toLocaleLowerCase : String → String

namespace ReadOnlyDraftVerifier

def verify (verifier : ReadOnlyDraftVerifier) (packet : InvestigationPacket)
    (draft : InspectionDraft) (verifiedAt : String) : DraftVerification :=
  let draftHash := verifier.sha256 draft
  let result := runDeterministicDraftGuard verifier.toLocaleLowerCase packet draft
  let issues := result.issues ++ verifier.semantic.verify packet draft
  { verifierVersion := DETERMINISTIC_VERIFIER_VERSION ++ "+" ++ verifier.semantic.version
    packetHash := packet.canonicalHash
    draftHash
    passed := !issues.any fun issue => issue.severity = .critical
    issues
    verifiedAt }

end ReadOnlyDraftVerifier

/-! ## What a passed draft keeps -/

/-- A list without a critical issue passes. -/
theorem passed_iff (issues : List VerifierIssue) :
    (!issues.any fun issue => issue.severity = .critical) = true ↔ Clean issues := by
  rw [Bool.not_eq_true', List.any_eq_false]
  constructor
  · exact fun h issue hissue hcritical => h issue hissue (decide_eq_true hcritical)
  · exact fun h issue hissue hcritical => h issue hissue (of_decide_eq_true hcritical)

variable {packet : InvestigationPacket}

theorem verify_passed {verifier : ReadOnlyDraftVerifier} {draft : InspectionDraft}
    {verifiedAt : String} (h : (verifier.verify packet draft verifiedAt).passed = true) :
    Clean (runDeterministicDraftGuard verifier.toLocaleLowerCase packet draft).issues ∧
      Clean (verifier.semantic.verify packet draft) :=
  clean_append.mp ((passed_iff _).mp h)

/-- Each clause of each module was checked. -/
theorem checkModules_clauses {toLocaleLowerCase : String → String}
    {expectedModules : OMap ModuleType String} {moduleIndex : Nat} {seenModules : List ModuleType}
    {modules : List ModuleDraft}
    (h : Clean (checkModules toLocaleLowerCase packet expectedModules moduleIndex seenModules
      modules).1) :
    ∀ moduleDraft ∈ modules, ∀ clause, moduleDraft.HasClause clause →
      ∃ path, Clean (checkClause packet moduleDraft.module clause path) := by
  induction modules generalizing moduleIndex seenModules with
  | nil => exact nofun
  | cons first rest ih =>
      obtain ⟨hfirst, hrest⟩ := clean_append.mp h
      intro moduleDraft hm clause hclause
      rcases List.mem_cons.mp hm with rfl | hm
      · unfold checkModule at hfirst
        simp only [clean_append] at hfirst
        obtain ⟨i, hi⟩ := clean_mapIdx hfirst.1.2 hclause.mem
        exact ⟨_, hi⟩
      · exact ih hrest moduleDraft hm clause hclause

/-- A text of a module that keeps within the boundary of the profession. -/
structure CleanText (module : ModuleType) (text : String) : Prop where
  boundary : ∀ entry ∈ PROHIBITED_BOUNDARY_PATTERNS, ¬ entry.1.Occurs text.toList
  absolute : ¬ ABSOLUTE_NO_PEST.Occurs text.toList
  taxonomy : ¬ (otherTaxonomy module).Occurs text.toList

theorem clause_clean {module : ModuleType} {clause : DraftClause} {path : String}
    (h : Clean (checkClause packet module clause path)) : CleanText module clause.text := by
  have hsound := clause_sound h
  refine ⟨hsound.boundary, ?_, hsound.taxonomy⟩
  unfold checkClause at h
  simp only [clean_append] at h
  exact not_occurs (clean_issueIf h.1.1.1.2)

/-- The texts of a draft that a reader sees, each with the module it stands in. -/
inductive InspectionDraft.ReaderText (draft : InspectionDraft) : ModuleType → String → Prop where
  | clause {moduleDraft clause} : moduleDraft ∈ draft.modules → moduleDraft.HasClause clause →
      ReaderText draft moduleDraft.module clause.text
  | title {moduleDraft finding} : moduleDraft ∈ draft.modules → finding ∈ moduleDraft.findings →
      ReaderText draft moduleDraft.module finding.title
  | classification {moduleDraft finding label} : moduleDraft ∈ draft.modules →
      finding ∈ moduleDraft.findings → finding.inspectorClassification = some label →
      ReaderText draft moduleDraft.module label.value

/-- The finding's title and its classification's label keep within the boundary. -/
def FindingDraft.CleanHeading (module : ModuleType) (finding : FindingDraft) : Prop :=
  CleanText module finding.title ∧
    ∀ label, finding.inspectorClassification = some label → CleanText module label.value

/-- **Boundary language.** Every text a reader sees of a passed draft keeps within the boundary
exactly when the titles of its findings and the labels of its classifications do. -/
theorem boundary_language (verifier : ReadOnlyDraftVerifier) (packet : InvestigationPacket)
    (draft : InspectionDraft) (verifiedAt : String)
    (hpassed : (verifier.verify packet draft verifiedAt).passed = true) :
    (∀ module text, draft.ReaderText module text → CleanText module text) ↔
      ∀ moduleDraft ∈ draft.modules, ∀ finding ∈ moduleDraft.findings,
        finding.CleanHeading moduleDraft.module := by
  have hclean := (verify_passed hpassed).1
  simp only [runDeterministicDraftGuard, clean_append] at hclean
  have hclauses := checkModules_clauses hclean.1.2
  constructor
  · intro h moduleDraft hm finding hfinding
    exact ⟨h _ _ (.title hm hfinding),
      fun label hlabel => h _ _ (.classification hm hfinding hlabel)⟩
  · rintro h module text (⟨hm, hclause⟩ | ⟨hm, hfinding⟩ | ⟨hm, hfinding, hlabel⟩)
    · obtain ⟨path, hpath⟩ := hclauses _ hm _ hclause
      exact clause_clean hpath
    · exact (h _ hm _ hfinding).1
    · exact (h _ hm _ hfinding).2 _ hlabel

namespace Sample

/-- The tiles, with a word that is anchored. -/
def anchoredPacket : InvestigationPacket :=
  { tilePacket with
    observations :=
      [⟨"bathroom", "observation", "2026-07-15T04:00:00.000Z", "inspector", "Cracked tiles"⟩] }

def titledFinding (title : String) : FindingDraft where
  findingCandidateId := "finding"
  module := .building
  moduleId := "module-building"
  title := title
  observation := tileClause .observation .observed
  extent := none
  reasoning := []
  consequences := []
  inspectorClassification := some ⟨"cracked", [.observation "observation"]⟩
  recommendation := some (tileClause .recommendation .recommendation)

def titledModule (title : String) : ModuleDraft where
  module := .building
  moduleId := "module-building"
  findings := [titledFinding title]
  limitations := []
  conclusion := tileClause .conclusion .inspector_opinion
  noReportableFinding := false

/-- The draft about the tiles, under a title. -/
def titledDraft (title : String) : InspectionDraft :=
  { tileDraft with modules := [titledModule title] }

def runtime : Semantic.Runtime := ⟨fun _ => "0", lowerCase⟩

def verifier : ReadOnlyDraftVerifier := ⟨Semantic.deterministic runtime, fun _ => "hash", lowerCase⟩

def verdictOn (title : String) : DraftVerification :=
  verifier.verify anchoredPacket (titledDraft title) "2026-07-15T04:00:00.000Z"

/-- A title that advises to buy, in a draft that passes. -/
theorem title_escapes : (verdictOn "Do not buy").passed = true ∧
    (titledDraft "Do not buy").ReaderText .building "Do not buy" ∧
    ¬ CleanText .building "Do not buy" := by
  refine ⟨by decide +kernel, ?_, fun hclean => ?_⟩
  · have hmodule : titledModule "Do not buy" ∈ (titledDraft "Do not buy").modules :=
      List.mem_cons_self
    exact .title hmodule List.mem_cons_self
  · have hentry := hclean.boundary _ List.mem_cons_self
    rw [← Regex.test_iff] at hentry
    exact hentry (by decide +kernel)

theorem titled_keeps :
    (∀ module text, (titledDraft "Tiles").ReaderText module text → CleanText module text) ↔
      ∀ moduleDraft ∈ (titledDraft "Tiles").modules, ∀ finding ∈ moduleDraft.findings,
        finding.CleanHeading moduleDraft.module :=
  boundary_language verifier anchoredPacket (titledDraft "Tiles") "2026-07-15T04:00:00.000Z"
    (by decide +kernel)

end Sample

end InspectionHub.Agent
