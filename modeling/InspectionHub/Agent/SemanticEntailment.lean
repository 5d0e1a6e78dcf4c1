import InspectionHub.Agent.Guards
import InspectionHub.Lib.Double
import InspectionHub.Lib.RegexScan
import InspectionHub.Lib.Words

/-!
# The lexical entailment check

`packages/agent/src/verifier/semantic-entailment.ts`: the words, numbers and
polarity of each clause are looked for in the sources it cites.
-/

namespace InspectionHub.Agent.Semantic

open Inspection (InvestigationPacket InvestigationMeasurementUnit)
open Regex (literal anyOf opt wordOf)

structure SemanticEntailmentVerifier where
  version : String
  verify : InvestigationPacket → InspectionDraft → List VerifierIssue

def DETERMINISTIC_ENTAILMENT_VERSION : String := "deterministic-semantic-entailment-v1"

/-- What the verifier takes of the language's runtime. -/
structure Runtime where
  /-- `String(value)`; `none` is a `NaN` or an infinity. -/
  string : Option ℚ → String
  /-- `value.toLocaleLowerCase("en-AU")` -/
  toLocaleLowerCase : String → String

/-! ## Sources -/

def unitText : InvestigationMeasurementUnit → String
  | .millimetres => "millimetres"
  | .percent => "percent"
  | .relative_scale => "relative_scale"
  | .metres => "metres"
  | .other => "other"

variable (runtime : Runtime)

def sourceText (packet : InvestigationPacket) : DraftSourceReference → String
  | .transcript_span sourceId _ =>
      ((packet.transcriptSpans.find? fun item => item.spanId = sourceId).map
        (·.correctedText)).getD ""
  | .observation sourceId =>
      ((packet.observations.find? fun item => item.observationId = sourceId).map (·.text)).getD ""
  | .measurement sourceId =>
      match packet.measurements.find? fun item => item.measurementId = sourceId with
      | none => ""
      | some measurement => runtime.string measurement.value ++ " " ++
          unitText measurement.unit ++ " " ++ measurement.note.getD ""
  | .limitation sourceId =>
      ((packet.limitations.find? fun item => item.limitationId = sourceId).map
        (·.description)).getD ""
  | .coverage sourceId =>
      ((packet.coverage.find? fun item => item.coverageEntryId = sourceId).bind (·.detail)).getD ""
  | .artifact _ => ""

/-! ## Numbers -/

/-- `\w` without the flag `i`. -/
def isAsciiWord (c : Char) : Bool := c.isAlphanum || c = '_'

/-- `\d+` -/
def digits : Regex := .seq (.one Char.isDigit) (.many Char.isDigit)

/-- `/\b\d+(?:\.\d+)?\b/` -/
def NUMBER : Regex :=
  .seq (.edge isAsciiWord)
    (.seq digits (.seq (opt (.seq (.one (· = '.')) digits)) (.edge isAsciiWord)))

def numbersAreEntailed (clause source : String) : Bool :=
  let sourceNumbers := NUMBER.matchAll source
  (NUMBER.matchAll clause).all fun value => value ∈ sourceNumbers

/-! ## Polarity -/

def ABSENCE : List Regex :=
  [literal "no", literal "not", literal "none", literal "without", literal "absent",
    literal "absence", literal "neither"]

def polarityIsEntailed (clause source : String) : Bool :=
  let claimsAbsence := (wordOf (anyOf ABSENCE)).test clause
  !claimsAbsence || (wordOf (anyOf (ABSENCE ++ [literal "unknown", literal "unconfirmed",
    literal "cannot", literal "inaccessible"]))).test source

/-! ## Material terms -/

def STOP_WORDS : List String :=
  ["a", "an", "and", "are", "as", "at", "be", "been", "by", "condition", "could", "for", "from",
    "has", "have", "in", "inspector", "inspection", "is", "it", "may", "might", "of", "on", "or",
    "possible", "possibly", "recorded", "that", "the", "this", "to", "was", "were", "with"]

def aliases : List (String × String) :=
  [("cracked", "crack"), ("cracking", "crack"), ("concealed", "conceal"),
    ("construction", "construct"), ("confirmed", "confirm"), ("damaged", "damage"),
    ("investigation", "investigate"), ("visually", "visible")]

/-- Drop the last `n` characters. -/
def dropEnd (n : Nat) (token : String) : String :=
  String.ofList (token.toList.take (token.toList.length - n))

def endsWith (token suffix : String) : Bool := suffix.toList.isSuffixOf token.toList

/-- The token's stem. `aliases["constructor"]` is no text but the function every object
inherits, which is shorter than any token that is kept. -/
def stem (token : String) : Option String :=
  if token = "constructor" then none
  else some (match aliases.lookup token with
    | some stemmed => stemmed
    | none =>
        if 5 < Js.length token ∧ endsWith token "ed" then dropEnd 2 token
        else if 5 < Js.length token ∧ endsWith token "ing" then dropEnd 3 token
        else if 4 < Js.length token ∧ endsWith token "s" then dropEnd 1 token
        else token)

/-- `[a-z0-9]` -/
def isTokenChar (c : Char) : Bool := c.isLower || c.isDigit

def materialTokens (value : String) : List String :=
  ((Words.split (fun c => !isTokenChar c) (runtime.toLocaleLowerCase value).toList).filterMap
    fun token => stem (String.ofList token)).filter
      fun token => 3 ≤ Js.length token && token ∉ STOP_WORDS

def materialTermsAreEntailed (clause source : String) : Bool :=
  let claimTokens := materialTokens runtime clause
  if claimTokens.length = 0 then true
  else
    let sourceTokens := materialTokens runtime source
    let supported := claimTokens.filter fun token => token ∈ sourceTokens
    let required := if claimTokens.length ≤ 3 then claimTokens.length else 0
    required ≤ supported.length &&
      Double.double (55 / 100) ≤ Double.double (supported.length / claimTokens.length)

/-! ## The verifier -/

/-- The texts of the authorised sources a clause cites, but for the blank ones. -/
def sourceTexts (packet : InvestigationPacket) (clause : DraftClause) : List String :=
  ((clause.sourceRefs.filter (packetAuthorizesSource packet)).map
    (sourceText runtime packet)).filter fun text => 0 < Js.length (Js.trim text)

def verifyClause (packet : InvestigationPacket) (clause : DraftClause) (path : String) :
    List VerifierIssue :=
  let sourceTexts := sourceTexts runtime packet clause
  if sourceTexts.length = 0 then
    [critical "semantic_entailment_unverifiable" path
      "Material clause text cannot be proven from a cited structured source"]
  else
    let source := String.intercalate " " sourceTexts
    issueIf (!numbersAreEntailed clause.text source)
      (critical "invented_numeric_fact" path
        "A numeric claim is absent from the cited packet sources") ++
    issueIf (!polarityIsEntailed clause.text source)
      (critical "invented_negative_fact" path
        "A negative or absence claim is absent from the cited packet sources") ++
    issueIf (!materialTermsAreEntailed runtime clause.text source)
      (critical "unsupported_material_fact" path
        ("Material clause content is not semantically anchored in the cited packet " ++
          "sources"))

/-- `DeterministicSemanticEntailmentVerifier` -/
def deterministic : SemanticEntailmentVerifier where
  version := DETERMINISTIC_ENTAILMENT_VERSION
  verify packet draft :=
    (draft.modules.mapIdx fun moduleIndex moduleDraft =>
      (moduleDraft.clauses.mapIdx fun clauseIndex clause =>
        verifyClause runtime packet clause
          (indexed (indexed "modules" moduleIndex ++ ".semanticClauses") clauseIndex)).flatten).flatten

end InspectionHub.Agent.Semantic
