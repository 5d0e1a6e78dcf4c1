import InspectionHub.Agent.Runner
import InspectionHub.Lib.Regex

/-!
# The deterministic guard

`packages/agent/src/guards.ts`: what is checked of a draft against the frozen
packet it was written from. A draft passes when no issue is critical.
-/

namespace InspectionHub.Agent

open Domain (ModuleType)
open Inspection (InvestigationPacket)
open Regex (literal oneOf opt anyOf wordOf)

/-! ## Patterns -/

def PROHIBITED_BOUNDARY_PATTERNS : List (Regex × String) :=
  [(wordOf (anyOf [literal "buy", literal "do not buy", literal "purchase",
      literal "proceed with the purchase"]),
    "transaction_advice"),
  (wordOf (anyOf [literal "negotiate", literal "offer price", literal "price reduction"]),
    "negotiation_advice"),
  (wordOf (anyOf [literal "repair cost", literal "cost to repair", literal "budget $",
      literal "valuation", literal "market value"]),
    "cost_or_valuation_advice"),
  (wordOf (anyOf [literal "settlement", .seq (literal "cooling") (.seq (oneOf "- ") (literal "off")),
      literal "contractual", literal "legal advice"]),
    "legal_or_settlement_advice"),
  (wordOf (anyOf [.seq (literal "guarantee") (opt (oneOf "ds")),
      .seq (literal "warrant") (anyOf [literal "y", literal "ed"]),
      .seq (literal "certif") (anyOf [literal "y", literal "ies", literal "ied"])]),
    "guarantee_or_certification")]

def BUILDING_ONLY_TERMS : Regex :=
  wordOf (anyOf [literal "major defect", literal "minor defect", literal "safety hazard"])

def PEST_ONLY_TERMS : Regex :=
  wordOf (anyOf [literal "termite", literal "timber pest", literal "wood borer",
    literal "fungal decay", literal "conducive condition"])

def ABSOLUTE_NO_PEST : Regex :=
  wordOf (anyOf [literal "no termites", .seq (literal "termite") (.seq (oneOf "- ") (literal "free")),
    .seq (literal "no timber pest") (opt (literal "s")),
    .seq (literal "free of ") (anyOf [literal "termite", literal "timber pest"])])

def BOUNDED_NO_EVIDENCE : Regex := wordOf (literal "no visible evidence")

def ACCESS_TIME_BOUNDARY : Regex :=
  let access := anyOf [literal "accessible", literal "accessed"]
  let time := anyOf [literal "at the time", literal "on the day", literal "during the inspection"]
  .alt (.seq .boundary (.seq access (.seq (.many Regex.isNoLineEnd) time)))
    (.seq .boundary (.seq time (.seq (.many Regex.isNoLineEnd) (.seq access .boundary))))

/-! ## Issues -/

def critical (code path message : String) : VerifierIssue := ⟨code, .critical, path, message⟩

def nonCritical (code path message : String) : VerifierIssue := ⟨code, .non_critical, path, message⟩

/-- The issue, if `found`. -/
def issueIf (found : Bool) (issue : VerifierIssue) : List VerifierIssue :=
  if found then [issue] else []

/-- `${path}[${index}]`. -/
def indexed (path : String) (index : Nat) : String := path ++ "[" ++ toString index ++ "]"

/-! ## Sources -/

def DraftSourceReference.isCoverage : DraftSourceReference → Bool
  | .coverage _ => true
  | _ => false

def packetAuthorizesSource (packet : InvestigationPacket) : DraftSourceReference → Bool
  | .artifact sourceId => packet.evidence.any fun item => item.artifactId = sourceId
  | .transcript_span sourceId voiceArtifactId => packet.transcriptSpans.any fun item =>
      item.spanId = sourceId && item.voiceArtifactId = voiceArtifactId
  | .observation sourceId => packet.observations.any fun item => item.observationId = sourceId
  | .measurement sourceId => packet.measurements.any fun item => item.measurementId = sourceId
  | .limitation sourceId => packet.limitations.any fun item => item.limitationId = sourceId
  | .coverage sourceId => packet.coverage.any fun item => item.coverageEntryId = sourceId

def sourceText (packet : InvestigationPacket) : DraftSourceReference → String
  | .transcript_span sourceId _ =>
      ((packet.transcriptSpans.find? fun item => item.spanId = sourceId).map
        (·.correctedText)).getD ""
  | .observation sourceId =>
      ((packet.observations.find? fun item => item.observationId = sourceId).map (·.text)).getD ""
  | .measurement sourceId =>
      ((packet.measurements.find? fun item => item.measurementId = sourceId).bind (·.note)).getD ""
  | .limitation sourceId =>
      ((packet.limitations.find? fun item => item.limitationId = sourceId).map
        (·.description)).getD ""
  | .coverage sourceId =>
      ((packet.coverage.find? fun item => item.coverageEntryId = sourceId).bind (·.detail)).getD ""
  | .artifact _ => ""

/-- `text.includes(needle)` -/
def includes (text needle : String) : Bool :=
  text.toList.tails.any fun rest => needle.toList.isPrefixOf rest

variable (toLocaleLowerCase : String → String)

def classificationAppearsInSources (packet : InvestigationPacket) (classification : String)
    (sources : List DraftSourceReference) : Bool :=
  let needle := toLocaleLowerCase
    (String.ofList (classification.toList.map fun c => if c = '_' then ' ' else c))
  sources.any fun source => includes (toLocaleLowerCase (sourceText packet source)) needle

/-! ## Clauses -/

def expectedQualificationFor : DraftClauseKind → List DraftQualification
  | .observation | .extent => [.observed, .inspector_opinion]
  | .assumption => [.assumption]
  | .hypothesis | .consequence => [.possibility, .inspector_opinion]
  | .recommendation => [.recommendation]
  | .limitation => [.limitation]
  | .conclusion => [.inspector_opinion, .observed, .limitation]

def checkClause (packet : InvestigationPacket) (module : ModuleType) (clause : DraftClause)
    (path : String) : List VerifierIssue :=
  PROHIBITED_BOUNDARY_PATTERNS.flatMap (fun entry =>
    issueIf (entry.1.test clause.text)
      (critical entry.2 path "Draft crosses the condition-reporting professional boundary")) ++
  issueIf (module = .building && PEST_ONLY_TERMS.test clause.text)
    (critical "module_taxonomy_leakage" path
      "Timber Pest language cannot appear in the Building module draft") ++
  issueIf (module = .timber_pest && BUILDING_ONLY_TERMS.test clause.text)
    (critical "module_taxonomy_leakage" path
      "Building classification language cannot appear in the Timber Pest module draft") ++
  issueIf (ABSOLUTE_NO_PEST.test clause.text)
    (critical "absolute_no_pest_claim" path
      "The inspection cannot establish an absolute absence of termites or timber pests") ++
  (if module = .timber_pest && BOUNDED_NO_EVIDENCE.test clause.text then
    issueIf (!ACCESS_TIME_BOUNDARY.test clause.text)
      (critical "unbounded_no_evidence_claim" path
        ("A no-visible-evidence statement must name accessible inspected areas and the " ++
          "inspection time context")) ++
    issueIf (!clause.sourceRefs.any (·.isCoverage))
      (critical "no_evidence_without_coverage" path
        "A bounded no-visible-evidence statement requires packet coverage provenance")
  else []) ++
  issueIf (clause.qualification ∉ expectedQualificationFor clause.kind)
    (critical "lost_qualification" path
      ("Clause kind " ++ clause.kind.text ++ " is not correctly qualified")) ++
  (clause.sourceRefs.mapIdx fun sourceIndex source =>
    issueIf (!packetAuthorizesSource packet source)
      (critical "unauthorized_provenance" (indexed (path ++ ".sourceRefs") sourceIndex)
        "Clause references evidence outside the frozen packet")).flatten

def FindingDraft.clauses (finding : FindingDraft) : List DraftClause :=
  [finding.observation] ++ finding.extent.toList ++ finding.reasoning ++ finding.consequences ++
    finding.recommendation.toList

def ModuleDraft.clauses (moduleDraft : ModuleDraft) : List DraftClause :=
  moduleDraft.limitations ++ [moduleDraft.conclusion] ++
    moduleDraft.findings.flatMap FindingDraft.clauses

/-! ## The guard -/

/-- The issues of a finding. -/
def checkFinding (packet : InvestigationPacket) (finding : FindingDraft) (findingPath : String) :
    List VerifierIssue :=
  issueIf (finding.recommendation = none)
    (nonCritical "missing_technical_recommendation" findingPath
      ("Inspector review is required because the draft has no technical " ++
        "further-investigation recommendation")) ++
  issueIf (finding.inspectorClassification.any fun classification =>
      !classificationAppearsInSources toLocaleLowerCase packet classification.value
        classification.sourceRefs)
    (critical "autonomous_classification" (findingPath ++ ".inspectorClassification")
      ("A classification may only be repeated when an inspector-authored packet source " ++
        "states it"))

/-- The issues of a module, after the modules in `seenModules`. -/
def checkModule (packet : InvestigationPacket) (expectedModules : OMap ModuleType String)
    (seenModules : List ModuleType) (moduleDraft : ModuleDraft) (modulePath : String) :
    List VerifierIssue :=
  issueIf (expectedModules.get? moduleDraft.module ≠ some moduleDraft.moduleId ||
      moduleDraft.module ∈ seenModules)
    (critical "module_identity_mismatch" modulePath
      "Draft modules must map one-to-one to commissioned module instances") ++
  (moduleDraft.clauses.mapIdx fun clauseIndex clause =>
    checkClause packet moduleDraft.module clause
      (indexed (modulePath ++ ".clauses") clauseIndex)).flatten ++
  (moduleDraft.findings.mapIdx fun findingIndex finding =>
    checkFinding toLocaleLowerCase packet finding
      (indexed (modulePath ++ ".findings") findingIndex)).flatten

/-- The loop over the modules, with the `seenModules` it has met. -/
def checkModules (packet : InvestigationPacket) (expectedModules : OMap ModuleType String) :
    Nat → List ModuleType → List ModuleDraft → List VerifierIssue × List ModuleType
  | _, seenModules, [] => ([], seenModules)
  | moduleIndex, seenModules, moduleDraft :: rest =>
      let later := checkModules packet expectedModules (moduleIndex + 1)
        (seenModules.insert moduleDraft.module) rest
      (checkModule toLocaleLowerCase packet expectedModules seenModules moduleDraft
        (indexed "modules" moduleIndex) ++ later.1, later.2)

/-- `new Map(packet.modules.map((module) => [module.module, module.moduleId]))` -/
def expectedModulesOf (packet : InvestigationPacket) : OMap ModuleType String :=
  packet.modules.foldl (fun map module => map.set module.module module.moduleId) .empty

def runDeterministicDraftGuard (packet : InvestigationPacket) (draft : InspectionDraft) :
    DeterministicGuardResult :=
  let expectedModules := expectedModulesOf packet
  let checked := checkModules toLocaleLowerCase packet expectedModules 0 [] draft.modules
  let issues :=
    issueIf (draft.packetId ≠ packet.packetId || draft.packetHash ≠ packet.canonicalHash ||
        (draft.packetRevision : ℚ) ≠ packet.packetRevision)
      (critical "packet_identity_mismatch" "$" "Draft does not target the exact frozen packet") ++
    checked.1 ++
    issueIf (checked.2.length ≠ expectedModules.keys.length)
      (critical "module_missing" "modules"
        "Every commissioned module requires its own draft and conclusion")
  { passed := !issues.any fun issue => issue.severity = .critical
    issues }

end InspectionHub.Agent
