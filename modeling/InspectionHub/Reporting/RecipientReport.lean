import InspectionHub.Lib.Canonical
import InspectionHub.Lib.Js

/-!
# Recipient reports

`packages/reporting/src/render/report-types.ts` and `report-canonical.ts`: what
a report version says, what is checked before it is issued, and its hash.
-/

namespace InspectionHub.Reporting

/-! ## Phrases -/

/-- The letter a pattern with the flags `iu` compares: besides the capitals, the
long s and the Kelvin sign fold to letters of the basic alphabet. -/
def foldCase (c : Char) : Char :=
  if 'A' ≤ c ∧ c ≤ 'Z' then Char.ofNat (c.toNat + 32)
  else if c.toNat = 0x17F then 's'
  else if c.toNat = 0x212A then 'k'
  else c

/-- `\w` under the flags `iu`. -/
def isWordChar (c : Char) : Bool :=
  ('a' ≤ foldCase c && foldCase c ≤ 'z') || ('0' ≤ c && c ≤ '9') || c = '_'

/-- `/\b…\b/iu.test(text)` for a phrase that starts and ends with a letter;
`afterWord` says whether a word character stands before `text`. -/
def hasPhrase (phrase : List Char) (afterWord : Bool) : List Char → Bool
  | [] => false
  | c :: text =>
      (!afterWord && phrase.isPrefixOf ((c :: text).map foldCase) &&
        !(((c :: text).drop phrase.length).head?.any isWordChar)) ||
      hasPhrase phrase (isWordChar c) text

/-- A pattern, as the phrases it stands for. -/
abbrev Pattern := List String

def Pattern.test (pattern : Pattern) (value : String) : Bool :=
  pattern.any fun phrase => hasPhrase phrase.toList false value.toList

def prohibitedRecipientLanguage : List Pattern :=
  [["termite-free", "termite free"],
    ["passed"],
    ["safe"],
    ["good condition"],
    ["buy", "purchase decision"],
    ["settlement", "negotiate", "negotiation", "negotiating", "valuation", "repair cost",
      "repair costs"],
    ["ai generated", "ai suggestion", "ai confidence", "ai analysis"]]

def boundedAreas : Pattern := ["accessible areas", "accessible locations", "accessible elements"]

/-- The optional "at the " before a phrase does not change whether it occurs. -/
def boundedTimes : Pattern :=
  ["inspection time", "time of inspection", "time of the inspection", "inspection date"]

def isBoundedNoVisibleStatement (value : String) : Bool :=
  boundedAreas.test value && boundedTimes.test value

/-! ## Reports -/

inductive ReportModule where
  | building
  | timber_pest
deriving DecidableEq

def ReportModule.text : ReportModule → String
  | .building => "building"
  | .timber_pest => "timber_pest"

structure ReportInspectorAttribution where
  displayName : String
  credential : String
  confirmedAt : String

inductive MediaTransformation where
  | safe_proxy
  | annotation
  | crop
  | caption_render
deriving DecidableEq

def MediaTransformation.text : MediaTransformation → String
  | .safe_proxy => "safe_proxy"
  | MediaTransformation.annotation => "annotation"
  | .crop => "crop"
  | .caption_render => "caption_render"

structure CuratedReportMedia where
  artifactId : String
  contentHash : String
  module : ReportModule
  findingId : String
  transformation : MediaTransformation
  altText : String
  caption : String

structure CommonReportFinding where
  module : ReportModule
  findingId : String
  title : String
  location : String
  observation : String
  apparentExtent : String
  significance : String
  qualifiedOpinion : String
  uncertainty : List String
  furtherInvestigation : Option String
  inspector : ReportInspectorAttribution
  curatedMedia : List CuratedReportMedia

inductive BuildingClassification where
  | major_defect
  | minor_defect
  | safety_hazard
  | other_building_condition
deriving DecidableEq

def BuildingClassification.text : BuildingClassification → String
  | .major_defect => "major_defect"
  | .minor_defect => "minor_defect"
  | .safety_hazard => "safety_hazard"
  | .other_building_condition => "other_building_condition"

structure BuildingReportFinding extends CommonReportFinding where
  classification : BuildingClassification

inductive TimberPestCategory where
  | visible_evidence
  | timber_damage
  | conducive_condition
  | no_visible_evidence
deriving DecidableEq

def TimberPestCategory.text : TimberPestCategory → String
  | .visible_evidence => "visible_evidence"
  | .timber_damage => "timber_damage"
  | .conducive_condition => "conducive_condition"
  | .no_visible_evidence => "no_visible_evidence"

structure TimberPestReportFinding extends CommonReportFinding where
  category : TimberPestCategory

structure ReportLimitation where
  limitationId : String
  module : ReportModule
  area : String
  description : String
  material : Bool
  effectOnConclusion : String

structure BuildingReportModule where
  conclusion : String
  minorDefectSummary : String
  findings : List BuildingReportFinding
  limitations : List ReportLimitation
  inspector : ReportInspectorAttribution

structure TimberPestReportModule where
  conclusion : String
  findings : List TimberPestReportFinding
  limitations : List ReportLimitation
  inspector : ReportInspectorAttribution

structure ReportAmendmentNotice where
  priorReportVersionId : String
  reason : String
  changedAt : String
  changedBy : String
  changeNotice : String

structure ReportSnapshotInput where
  reportVersionId : String
  versionNumber : ℚ
  organizationId : String
  jobId : String
  propertyLabel : String
  inspectionDate : String
  issuedAt : String
  templateVersion : String
  building : Option BuildingReportModule
  timberPest : Option TimberPestReportModule
  amendment : Option ReportAmendmentNotice

structure ReportSnapshot extends ReportSnapshotInput where
  canonicalHash : String

/-! ## Validation -/

/-- `ReportSnapshotValidationError`. -/
structure ReportSnapshotValidationError where
  message : String
deriving DecidableEq

abbrev Validation := Except ReportSnapshotValidationError

/-- `if (c) throw new ReportSnapshotValidationError(message);` -/
def rejectIf (c : Prop) [Decidable c] (message : String) : Validation Unit :=
  if c then .error ⟨message⟩ else .ok ()

variable (host : Js.Host)

def assertTimestamp (value field : String) : Validation Unit :=
  rejectIf (host.dateParse value = none) (field ++ " must be an ISO timestamp")

def assertPlainText (value field : String) : Validation Unit := do
  let trimmed := Js.trim value
  rejectIf (Js.length trimmed = 0 ∨ 4000 < Js.length trimmed)
    (field ++ " must contain bounded plain text")
  rejectIf ('\x00' ∈ value.toList) (field ++ " contains invalid text")
  rejectIf (prohibitedRecipientLanguage.any (·.test value) = true)
    (field ++ " contains prohibited recipient-facing language")

/-- `for (const [field, value] of …) assertPlainText(value, label(field));` -/
def assertPlainTexts (label : String → String) (entries : List (String × String)) :
    Validation Unit :=
  entries.forM fun (field, value) => assertPlainText value (label field)

def validateInspector (inspector : ReportInspectorAttribution) : Validation Unit := do
  assertPlainText inspector.displayName "inspector display name"
  assertPlainText inspector.credential "inspector credential"
  assertTimestamp host inspector.confirmedAt "inspector confirmation time"

/-- The loop over a finding's media; `mediaIds` are those seen. -/
def validateMedia (finding : CommonReportFinding) :
    List String → List CuratedReportMedia → Validation Unit
  | _, [] => .ok ()
  | mediaIds, media :: rest => do
      rejectIf (media.module ≠ finding.module ∨ media.findingId ≠ finding.findingId)
        "Curated media must remain scoped to its report finding and module"
      rejectIf (media.artifactId ∈ mediaIds)
        "A curated media item cannot appear twice in one finding"
      assertPlainText media.altText (media.artifactId ++ ".altText")
      assertPlainText media.caption (media.artifactId ++ ".caption")
      rejectIf (Js.isHexDigest media.contentHash = false)
        "Curated media requires a verified SHA-256 content hash"
      validateMedia finding (media.artifactId :: mediaIds) rest

def validateFinding (finding : CommonReportFinding) : Validation Unit := do
  assertPlainTexts (fun field => finding.findingId ++ "." ++ field)
    [("findingId", finding.findingId), ("title", finding.title), ("location", finding.location),
      ("observation", finding.observation), ("apparentExtent", finding.apparentExtent),
      ("significance", finding.significance), ("qualifiedOpinion", finding.qualifiedOpinion)]
  finding.uncertainty.forM fun uncertainty =>
    assertPlainText uncertainty (finding.findingId ++ ".uncertainty")
  finding.furtherInvestigation.toList.forM fun furtherInvestigation =>
    assertPlainText furtherInvestigation (finding.findingId ++ ".furtherInvestigation")
  validateInspector host finding.inspector
  validateMedia finding [] finding.curatedMedia

def validateLimitations (limitations : List ReportLimitation) (module : ReportModule) :
    Validation Unit :=
  limitations.forM fun limitation => do
    rejectIf (limitation.module ≠ module) "A limitation cannot cross professional modules"
    assertPlainText limitation.area (limitation.limitationId ++ ".area")
    assertPlainText limitation.description (limitation.limitationId ++ ".description")
    assertPlainText limitation.effectOnConclusion
      (limitation.limitationId ++ ".effectOnConclusion")

def validateBuildingModule (module : BuildingReportModule) : Validation Unit := do
  assertPlainText module.conclusion "Building conclusion"
  assertPlainText module.minorDefectSummary "minor defect summary"
  validateInspector host module.inspector
  module.findings.forM fun finding => do
    rejectIf (finding.module ≠ .building)
      "A Building report cannot contain another module's finding"
    validateFinding host finding.toCommonReportFinding
  validateLimitations module.limitations .building

def validateTimberPestModule (module : TimberPestReportModule) : Validation Unit := do
  assertPlainText module.conclusion "Timber Pest conclusion"
  validateInspector host module.inspector
  module.findings.forM fun finding => do
    rejectIf (finding.module ≠ .timber_pest)
      "A Timber Pest report cannot contain another module's finding"
    validateFinding host finding.toCommonReportFinding
    rejectIf (finding.category = .no_visible_evidence ∧ isBoundedNoVisibleStatement
        (finding.observation ++ " " ++ finding.qualifiedOpinion ++ " " ++ module.conclusion) =
          false)
      "No-visible-pest language must be bounded to accessible areas and the inspection time"
  validateLimitations module.limitations .timber_pest

def validateAmendment (reportVersionId : String) (amendment : ReportAmendmentNotice) :
    Validation Unit := do
  assertPlainText amendment.priorReportVersionId "priorReportVersionId"
  assertPlainText amendment.reason "amendment reason"
  assertPlainText amendment.changedBy "amendment author"
  assertPlainText amendment.changeNotice "amendment notice"
  assertTimestamp host amendment.changedAt "amendment changedAt"
  rejectIf (amendment.priorReportVersionId = reportVersionId) "An amendment cannot replace itself"

def validateReportSnapshotInput (input : ReportSnapshotInput) : Validation Unit := do
  rejectIf (input.versionNumber < 1 ∨ Js.isInteger input.versionNumber = false)
    "Report version number must be a positive integer"
  assertPlainTexts id
    [("reportVersionId", input.reportVersionId), ("organizationId", input.organizationId),
      ("jobId", input.jobId), ("propertyLabel", input.propertyLabel),
      ("templateVersion", input.templateVersion)]
  assertTimestamp host input.inspectionDate "inspectionDate"
  assertTimestamp host input.issuedAt "issuedAt"
  rejectIf (input.building = none ∧ input.timberPest = none)
    "A report version requires at least one commissioned module"
  input.building.toList.forM (validateBuildingModule host)
  input.timberPest.toList.forM (validateTimberPestModule host)
  input.amendment.toList.forM (validateAmendment host input.reportVersionId)

/-! ## The hash -/

def ReportInspectorAttribution.val (inspector : ReportInspectorAttribution) : JsVal :=
  .obj [("displayName", .str inspector.displayName), ("credential", .str inspector.credential),
    ("confirmedAt", .str inspector.confirmedAt)]

def CuratedReportMedia.val (media : CuratedReportMedia) : JsVal :=
  .obj [("artifactId", .str media.artifactId), ("contentHash", .str media.contentHash),
    ("module", .str media.module.text), ("findingId", .str media.findingId),
    ("transformation", .str media.transformation.text), ("altText", .str media.altText),
    ("caption", .str media.caption)]

def optionVal {α : Type} (val : α → JsVal) : Option α → JsVal
  | none => .null
  | some a => val a

def CommonReportFinding.fields (finding : CommonReportFinding) : List (String × JsVal) :=
  [("findingId", .str finding.findingId), ("title", .str finding.title),
    ("location", .str finding.location), ("observation", .str finding.observation),
    ("apparentExtent", .str finding.apparentExtent), ("significance", .str finding.significance),
    ("qualifiedOpinion", .str finding.qualifiedOpinion),
    ("uncertainty", .arr (finding.uncertainty.map .str)),
    ("furtherInvestigation", optionVal .str finding.furtherInvestigation),
    ("inspector", finding.inspector.val),
    ("curatedMedia", .arr (finding.curatedMedia.map CuratedReportMedia.val)),
    ("module", .str finding.module.text)]

def ReportLimitation.val (limitation : ReportLimitation) : JsVal :=
  .obj [("limitationId", .str limitation.limitationId), ("module", .str limitation.module.text),
    ("area", .str limitation.area), ("description", .str limitation.description),
    ("material", .bool limitation.material),
    ("effectOnConclusion", .str limitation.effectOnConclusion)]

def BuildingReportModule.val (module : BuildingReportModule) : JsVal :=
  .obj [("module", .str "building"), ("conclusion", .str module.conclusion),
    ("minorDefectSummary", .str module.minorDefectSummary),
    ("findings", .arr (module.findings.map fun finding =>
      .obj (finding.fields ++ [("classification", .str finding.classification.text)]))),
    ("limitations", .arr (module.limitations.map ReportLimitation.val)),
    ("inspector", module.inspector.val)]

def TimberPestReportModule.val (module : TimberPestReportModule) : JsVal :=
  .obj [("module", .str "timber_pest"), ("conclusion", .str module.conclusion),
    ("findings", .arr (module.findings.map fun finding =>
      .obj (finding.fields ++ [("category", .str finding.category.text)]))),
    ("limitations", .arr (module.limitations.map ReportLimitation.val)),
    ("inspector", module.inspector.val)]

def ReportAmendmentNotice.val (amendment : ReportAmendmentNotice) : JsVal :=
  .obj [("priorReportVersionId", .str amendment.priorReportVersionId),
    ("reason", .str amendment.reason), ("changedAt", .str amendment.changedAt),
    ("changedBy", .str amendment.changedBy), ("changeNotice", .str amendment.changeNotice)]

/-- The input as JSON; its version number is an integer once it is validated. -/
def ReportSnapshotInput.val (input : ReportSnapshotInput) : JsVal :=
  .obj [("schemaVersion", .str "recipient-report-v1"),
    ("reportVersionId", .str input.reportVersionId),
    ("versionNumber", .num (.int input.versionNumber.num)),
    ("organizationId", .str input.organizationId), ("jobId", .str input.jobId),
    ("propertyLabel", .str input.propertyLabel), ("inspectionDate", .str input.inspectionDate),
    ("issuedAt", .str input.issuedAt), ("templateVersion", .str input.templateVersion),
    ("building", optionVal BuildingReportModule.val input.building),
    ("timberPest", optionVal TimberPestReportModule.val input.timberPest),
    ("amendment", optionVal ReportAmendmentNotice.val input.amendment)]

variable (digest : String → String)

def hashCanonicalReport (value : JsVal) : String := digest (canonicalJson value)

def createReportSnapshot (input : ReportSnapshotInput) : Validation ReportSnapshot := do
  validateReportSnapshotInput host input
  return { input with canonicalHash := hashCanonicalReport digest input.val }

/-! ## What a created snapshot is -/

variable {host digest}

/-- A snapshot is its input with the hash. -/
theorem createReportSnapshot_ok {input : ReportSnapshotInput} {snapshot : ReportSnapshot}
    (h : createReportSnapshot host digest input = .ok snapshot) :
    snapshot.toReportSnapshotInput = input := by
  unfold createReportSnapshot at h
  cases hvalid : validateReportSnapshotInput host input with
  | error e =>
      rw [hvalid] at h
      cases h
  | ok u =>
      rw [hvalid] at h
      cases h
      rfl

end InspectionHub.Reporting
