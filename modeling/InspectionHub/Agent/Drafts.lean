import InspectionHub.Domain.ModuleState

/-!
# Provisional drafts

`packages/agent/src/schemas.ts`: the draft a model proposes and the verdict a
verifier gives on it, with the schema a proposed draft has to pass.
-/

namespace InspectionHub.Agent

open Contracts Schema
open Domain (ModuleType accept parseAll parseNullable)

/-! ## Drafts -/

inductive DraftSourceReference where
  | artifact (sourceId : String)
  | transcript_span (sourceId voiceArtifactId : String)
  | observation (sourceId : String)
  | measurement (sourceId : String)
  | limitation (sourceId : String)
  | coverage (sourceId : String)
deriving DecidableEq

inductive DraftClauseKind where
  | observation
  | extent
  | assumption
  | hypothesis
  | consequence
  | recommendation
  | limitation
  | conclusion
deriving DecidableEq

def DraftClauseKind.text : DraftClauseKind → String
  | .observation => "observation"
  | .extent => "extent"
  | .assumption => "assumption"
  | .hypothesis => "hypothesis"
  | .consequence => "consequence"
  | .recommendation => "recommendation"
  | .limitation => "limitation"
  | .conclusion => "conclusion"

inductive DraftQualification where
  | observed
  | inspector_opinion
  | assumption
  | possibility
  | limitation
  | recommendation
deriving DecidableEq

def DraftQualification.text : DraftQualification → String
  | .observed => "observed"
  | .inspector_opinion => "inspector_opinion"
  | .assumption => "assumption"
  | .possibility => "possibility"
  | .limitation => "limitation"
  | .recommendation => "recommendation"

structure DraftClause where
  clauseId : String
  kind : DraftClauseKind
  text : String
  qualification : DraftQualification
  sourceRefs : List DraftSourceReference
deriving DecidableEq

/-- A classification, attributed to the inspector. -/
structure InspectorClassification where
  value : String
  sourceRefs : List DraftSourceReference
deriving DecidableEq

structure FindingDraft where
  findingCandidateId : String
  module : ModuleType
  moduleId : String
  title : String
  observation : DraftClause
  extent : Option DraftClause
  reasoning : List DraftClause
  consequences : List DraftClause
  inspectorClassification : Option InspectorClassification
  recommendation : Option DraftClause
deriving DecidableEq

structure ModuleDraft where
  module : ModuleType
  moduleId : String
  findings : List FindingDraft
  limitations : List DraftClause
  conclusion : DraftClause
  noReportableFinding : Bool
deriving DecidableEq

inductive DraftOrigin where
  | ai
  | human
deriving DecidableEq

def DraftOrigin.text : DraftOrigin → String
  | .ai => "ai"
  | .human => "human"

structure InspectionDraft where
  packetId : String
  packetHash : String
  packetRevision : Int
  origin : DraftOrigin
  model : String
  promptVersion : String
  skillVersions : List String
  modules : List ModuleDraft
deriving DecidableEq

inductive IssueSeverity where
  | critical
  | non_critical
deriving DecidableEq

structure VerifierIssue where
  code : String
  severity : IssueSeverity
  path : String
  message : String
deriving DecidableEq

structure DraftVerification where
  verifierVersion : String
  packetHash : String
  draftHash : String
  passed : Bool
  issues : List VerifierIssue
  verifiedAt : String
deriving DecidableEq

/-! ## The schema of a draft -/

/-- `z.string().trim().min(1).max(n)`. -/
def trimmedText (n : Nat) (s : String) : Parsed String :=
  accept (Js.trim s)
    (if 1 ≤ Js.length (Js.trim s) && Js.length (Js.trim s) ≤ n then [] else [⟨[], none⟩])

def trimmedField (n : Nat) (k s : String) : Parsed String := under (.name k) (trimmedText n s)

/-- `z.array(…)` of the given sizes, under the key `k`. -/
def arrayField {α : Type} (size : Nat → Bool) (f : α → Parsed α) (k : String) (l : List α) :
    Parsed (List α) :=
  under (.name k) (both (fun l _ => l) (parseAll f 0 l)
    (accept () (if size l.length then [] else [⟨[], none⟩])))

def DraftSourceReference.parse : DraftSourceReference → Parsed DraftSourceReference
  | .artifact s => (trimmedField 200 "sourceId" s).map .artifact
  | .transcript_span s v =>
      both .transcript_span (trimmedField 200 "sourceId" s) (trimmedField 200 "voiceArtifactId" v)
  | .observation s => (trimmedField 200 "sourceId" s).map .observation
  | .measurement s => (trimmedField 200 "sourceId" s).map .measurement
  | .limitation s => (trimmedField 200 "sourceId" s).map .limitation
  | .coverage s => (trimmedField 200 "sourceId" s).map .coverage

def DraftClause.parse (c : DraftClause) : Parsed DraftClause :=
  both (fun x s => { s with clauseId := x }) (trimmedField 200 "clauseId" c.clauseId) <|
  both (fun x s => { s with text := x }) (trimmedField 4000 "text" c.text) <|
  both (fun x s => { s with sourceRefs := x })
    (arrayField (fun n => 1 ≤ n && n ≤ 100) DraftSourceReference.parse "sourceRefs" c.sourceRefs)
    (.ok c)

def InspectorClassification.parse (c : InspectorClassification) : Parsed InspectorClassification :=
  both (fun x s => { s with value := x }) (trimmedField 200 "value" c.value) <|
  both (fun x s => { s with sourceRefs := x })
    (arrayField (fun n => 1 ≤ n && n ≤ 20) DraftSourceReference.parse "sourceRefs" c.sourceRefs)
    (.ok c)

def FindingDraft.parse (f : FindingDraft) : Parsed FindingDraft :=
  both (fun x s => { s with findingCandidateId := x })
    (trimmedField 200 "findingCandidateId" f.findingCandidateId) <|
  both (fun x s => { s with moduleId := x }) (trimmedField 200 "moduleId" f.moduleId) <|
  both (fun x s => { s with title := x }) (trimmedField 300 "title" f.title) <|
  both (fun x s => { s with observation := x })
    (under (.name "observation") f.observation.parse) <|
  both (fun x s => { s with extent := x })
    (under (.name "extent") (parseNullable DraftClause.parse f.extent)) <|
  both (fun x s => { s with reasoning := x })
    (arrayField (· ≤ 20) DraftClause.parse "reasoning" f.reasoning) <|
  both (fun x s => { s with consequences := x })
    (arrayField (· ≤ 20) DraftClause.parse "consequences" f.consequences) <|
  both (fun x s => { s with inspectorClassification := x })
    (under (.name "inspectorClassification")
      (parseNullable InspectorClassification.parse f.inspectorClassification)) <|
  both (fun x s => { s with recommendation := x })
    (under (.name "recommendation") (parseNullable DraftClause.parse f.recommendation)) (.ok f)

/-- The refinement of a module draft. -/
def ModuleDraft.issues (m : ModuleDraft) : List Issue :=
  Domain.failing "findings" (some "A module draft cannot contain findings from another module")
    (!m.findings.any fun f => f.module ≠ m.module) ++
  Domain.failing "findings"
    (some "Every finding must reference the exact professional module instance")
    (!m.findings.any fun f => f.moduleId ≠ m.moduleId) ++
  Domain.failing "noReportableFinding"
    (some "No-reportable-finding state must match the finding collection")
    (m.noReportableFinding = (m.findings.length = 0))

def ModuleDraft.parse (m : ModuleDraft) : Parsed ModuleDraft :=
  Except.bind
    (both (fun x s => { s with moduleId := x }) (trimmedField 200 "moduleId" m.moduleId) <|
     both (fun x s => { s with findings := x })
       (arrayField (· ≤ 100) FindingDraft.parse "findings" m.findings) <|
     both (fun x s => { s with limitations := x })
       (arrayField (· ≤ 100) DraftClause.parse "limitations" m.limitations) <|
     both (fun x s => { s with conclusion := x })
       (under (.name "conclusion") m.conclusion.parse) (.ok m))
    fun s => accept s s.issues

/-- `InspectionDraftSchema.parse(input)`. -/
def InspectionDraft.parse (d : InspectionDraft) : Parsed InspectionDraft :=
  both (fun x s => { s with packetId := x }) (trimmedField 200 "packetId" d.packetId) <|
  both (fun _ s => s)
    (accept () (Domain.failing "packetHash" none (Js.isHexDigest d.packetHash) ++
      Domain.failing "packetRevision" none
        (1 ≤ d.packetRevision && d.packetRevision ≤ 2 ^ 53 - 1))) <|
  both (fun x s => { s with model := x }) (trimmedField 200 "model" d.model) <|
  both (fun x s => { s with promptVersion := x })
    (trimmedField 200 "promptVersion" d.promptVersion) <|
  both (fun x s => { s with skillVersions := x })
    (arrayField (· ≤ 20) (trimmedText 200) "skillVersions" d.skillVersions) <|
  both (fun x s => { s with modules := x })
    (arrayField (fun n => 1 ≤ n && n ≤ 2) ModuleDraft.parse "modules" d.modules) (.ok d)

/-! ## The value that is hashed -/

def nullable {α : Type} (f : α → JsVal) (v : Option α) : JsVal := (v.map f).getD .null

def DraftSourceReference.json : DraftSourceReference → JsVal
  | .artifact s => .obj [("kind", .str "artifact"), ("sourceId", .str s)]
  | .transcript_span s v =>
      .obj [("kind", .str "transcript_span"), ("sourceId", .str s), ("voiceArtifactId", .str v)]
  | .observation s => .obj [("kind", .str "observation"), ("sourceId", .str s)]
  | .measurement s => .obj [("kind", .str "measurement"), ("sourceId", .str s)]
  | .limitation s => .obj [("kind", .str "limitation"), ("sourceId", .str s)]
  | .coverage s => .obj [("kind", .str "coverage"), ("sourceId", .str s)]

def DraftClause.json (c : DraftClause) : JsVal :=
  .obj [("clauseId", .str c.clauseId), ("kind", .str c.kind.text), ("text", .str c.text),
    ("qualification", .str c.qualification.text),
    ("sourceRefs", .arr (c.sourceRefs.map DraftSourceReference.json))]

def InspectorClassification.json (c : InspectorClassification) : JsVal :=
  .obj [("value", .str c.value), ("attributedTo", .str "inspector"),
    ("sourceRefs", .arr (c.sourceRefs.map DraftSourceReference.json))]

def FindingDraft.json (f : FindingDraft) : JsVal :=
  .obj [("findingCandidateId", .str f.findingCandidateId), ("module", .str f.module.text),
    ("moduleId", .str f.moduleId), ("title", .str f.title), ("observation", f.observation.json),
    ("extent", nullable DraftClause.json f.extent),
    ("reasoning", .arr (f.reasoning.map DraftClause.json)),
    ("consequences", .arr (f.consequences.map DraftClause.json)),
    ("inspectorClassification", nullable InspectorClassification.json f.inspectorClassification),
    ("recommendation", nullable DraftClause.json f.recommendation)]

def ModuleDraft.json (m : ModuleDraft) : JsVal :=
  .obj [("module", .str m.module.text), ("moduleId", .str m.moduleId),
    ("findings", .arr (m.findings.map FindingDraft.json)),
    ("limitations", .arr (m.limitations.map DraftClause.json)),
    ("conclusion", m.conclusion.json), ("noReportableFinding", .bool m.noReportableFinding)]

def InspectionDraft.json (d : InspectionDraft) : JsVal :=
  .obj [("packetId", .str d.packetId), ("packetHash", .str d.packetHash),
    ("packetRevision", d.packetRevision), ("origin", .str d.origin.text), ("model", .str d.model),
    ("promptVersion", .str d.promptVersion), ("skillVersions", .arr (d.skillVersions.map .str)),
    ("modules", .arr (d.modules.map ModuleDraft.json))]

end InspectionHub.Agent
