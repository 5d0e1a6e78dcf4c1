import InspectionHub.Lib.Throwing
import InspectionHub.Reporting.RecipientReport

/-!
# What a report says

`packages/reporting/src/render/semantic-report.ts`: the sentences of a report,
in the order every rendering states them.
-/

namespace InspectionHub.Reporting

/-- An `Error` thrown while a report is rendered. -/
structure RenderError where
  message : String
deriving DecidableEq

abbrev Rendering := Except RenderError

/-- What the runtime's libraries compute. -/
structure Runtime where
  /-- A date as `Intl.DateTimeFormat` writes it for the region. -/
  dateText : Int → String
  /-- The digits of a number that is no safe integer. -/
  numberText : ℚ → String
  toLocaleLowerCase : String → String
  /-- The hex digest of a file. -/
  sha256 : List UInt8 → String

/-- `String(value)` -/
def Runtime.string (runtime : Runtime) (value : ℚ) : String :=
  if Js.isSafeInteger value then String.ofList (Json.intText value.num)
  else runtime.numberText value

def buildingClassificationLabel : BuildingClassification → String
  | .major_defect => "Major defect"
  | .minor_defect => "Minor defect"
  | .safety_hazard => "Safety hazard"
  | .other_building_condition => "Other Building condition"

def timberPestCategoryLabel : TimberPestCategory → String
  | .visible_evidence => "Visible evidence"
  | .timber_damage => "Timber damage"
  | .conducive_condition => "Conducive condition"
  | .no_visible_evidence => "No visible evidence in accessible areas at the inspection time"

/-- `findingFacts(finding)`, but for the line a module's own field decides. -/
def findingFacts (finding : CommonReportFinding) (category : String) : List String :=
  [finding.title, "Location " ++ finding.location, category,
    "Observation " ++ finding.observation, "Apparent extent " ++ finding.apparentExtent,
    "Significance " ++ finding.significance, "Qualified opinion " ++ finding.qualifiedOpinion] ++
  finding.uncertainty.map ("Uncertainty " ++ ·) ++
  finding.furtherInvestigation.toList.map ("Further investigation " ++ ·) ++
  finding.curatedMedia.flatMap (fun media =>
    ["Evidence " ++ media.altText, "Caption " ++ media.caption]) ++
  ["Inspector " ++ finding.inspector.displayName]

/-- A finding of the other module has no classification. -/
def buildingFindingFacts (finding : BuildingReportFinding) : List String :=
  findingFacts finding.toCommonReportFinding
    (if finding.module = .building then
      "Classification " ++ buildingClassificationLabel finding.classification
    else "Category undefined")

def timberPestFindingFacts (finding : TimberPestReportFinding) : List String :=
  findingFacts finding.toCommonReportFinding
    (if finding.module = .building then "Classification undefined"
    else "Category " ++ timberPestCategoryLabel finding.category)

def limitationFacts (limitation : ReportLimitation) : List String :=
  ["Limitation " ++ limitation.area ++ ": " ++ limitation.description,
    "Effect on conclusion " ++ limitation.effectOnConclusion]

def inspectorFacts (inspector : ReportInspectorAttribution) : List String :=
  ["Inspector " ++ inspector.displayName, "Credential " ++ inspector.credential]

def buildingFacts (module : BuildingReportModule) : List String :=
  ["Building report", module.conclusion, module.minorDefectSummary] ++
  module.findings.flatMap buildingFindingFacts ++
  module.limitations.flatMap limitationFacts ++ inspectorFacts module.inspector

def timberPestFacts (module : TimberPestReportModule) : List String :=
  ["Timber Pest report", module.conclusion] ++
  module.findings.flatMap timberPestFindingFacts ++
  module.limitations.flatMap limitationFacts ++ inspectorFacts module.inspector

def amendmentFacts (amendment : ReportAmendmentNotice) : List String :=
  ["Amendment notice", amendment.changeNotice, "Reason " ++ amendment.reason]

variable (host : Js.Host) (digest : String → String) (runtime : Runtime)

def verifyReportSnapshotHash (snapshot : ReportSnapshot) : Bool :=
  snapshot.canonicalHash = hashCanonicalReport digest snapshot.toReportSnapshotInput.val

def assertValidHash (snapshot : ReportSnapshot) : Rendering Unit :=
  if verifyReportSnapshotHash digest snapshot then .ok ()
  else .error ⟨"Report snapshot hash does not match its immutable content"⟩

def formatDate (value : String) : Rendering String :=
  match host.dateParse value with
  | none => .error ⟨"Invalid time value"⟩
  | some ms => .ok (runtime.dateText ms)

def reportSemanticFacts (snapshot : ReportSnapshot) (module : Option ReportModule) :
    Rendering (List String) := do
  assertValidHash digest snapshot
  let inspectionDate ← formatDate host runtime snapshot.inspectionDate
  let issuedAt ← formatDate host runtime snapshot.issuedAt
  return [snapshot.propertyLabel, "Report version " ++ runtime.string snapshot.versionNumber,
      "Inspection date " ++ inspectionDate, "Issued " ++ issuedAt] ++
    (if module = none ∨ module = some .building then
      snapshot.building.toList.flatMap buildingFacts else []) ++
    (if module = none ∨ module = some .timber_pest then
      snapshot.timberPest.toList.flatMap timberPestFacts else []) ++
    snapshot.amendment.toList.flatMap amendmentFacts

variable {host digest}

/-! ## Accepted reports -/

/-- What was checked before the hash was taken, as far as rendering relies on it. -/
structure Renderable (host : Js.Host) (digest : String → String) (snapshot : ReportSnapshot) :
    Prop where
  hash : verifyReportSnapshotHash digest snapshot = true
  inspectionDate : ∃ ms, host.dateParse snapshot.inspectionDate = some ms
  issuedAt : ∃ ms, host.dateParse snapshot.issuedAt = some ms

theorem assertTimestamp_ok {value field : String} {u : Unit}
    (h : assertTimestamp host value field = .ok u) : ∃ ms, host.dateParse value = some ms :=
  Option.ne_none_iff_exists'.mp (Throwing.throwIf_ok h)

variable {snapshot : ReportSnapshot}

theorem renderable_of_created {input : ReportSnapshotInput}
    (h : createReportSnapshot host digest input = .ok snapshot) :
    Renderable host digest snapshot := by
  obtain ⟨u, hvalid, hmake⟩ := Throwing.bind_ok h
  cases hmake
  obtain ⟨_, _, htexts⟩ := Throwing.bind_ok hvalid
  obtain ⟨_, _, hdates⟩ := Throwing.bind_ok htexts
  obtain ⟨_, hinspection, hrest⟩ := Throwing.bind_ok hdates
  obtain ⟨_, hissued, _⟩ := Throwing.bind_ok hrest
  exact ⟨decide_eq_true rfl, assertTimestamp_ok hinspection, assertTimestamp_ok hissued⟩

/-- An accepted report has its sentences, and the first is the property. -/
theorem reportSemanticFacts_created {input : ReportSnapshotInput}
    (h : createReportSnapshot host digest input = .ok snapshot) (module : Option ReportModule) :
    ∃ rest, reportSemanticFacts host digest runtime snapshot module =
      .ok (snapshot.propertyLabel :: rest) := by
  obtain ⟨hhash, ⟨ms, hdate⟩, ⟨ms', hissued⟩⟩ := renderable_of_created h
  have hvalid : assertValidHash digest snapshot = .ok () := if_pos hhash
  have hdate : formatDate host runtime snapshot.inspectionDate = .ok (runtime.dateText ms) := by
    unfold formatDate
    rw [hdate]
  have hissued : formatDate host runtime snapshot.issuedAt = .ok (runtime.dateText ms') := by
    unfold formatDate
    rw [hissued]
  unfold reportSemanticFacts
  rw [Throwing.bind_of hvalid, Throwing.bind_of hdate, Throwing.bind_of hissued]
  exact ⟨_, rfl⟩

/-- The sentences of a report: four about all of it, then those of its modules. -/
theorem reportSemanticFacts_ok {module : Option ReportModule} {facts : List String}
    (h : reportSemanticFacts host digest runtime snapshot module = .ok facts) :
    ∃ inspectionDate issuedAt,
      facts = [snapshot.propertyLabel, "Report version " ++ runtime.string snapshot.versionNumber,
        "Inspection date " ++ inspectionDate, "Issued " ++ issuedAt] ++
      (if module = none ∨ module = some .building then
        snapshot.building.toList.flatMap buildingFacts else []) ++
      (if module = none ∨ module = some .timber_pest then
        snapshot.timberPest.toList.flatMap timberPestFacts else []) ++
      snapshot.amendment.toList.flatMap amendmentFacts := by
  obtain ⟨_, _, hdates⟩ := Throwing.bind_ok h
  obtain ⟨inspectionDate, _, hissued⟩ := Throwing.bind_ok hdates
  obtain ⟨issuedAt, _, hfacts⟩ := Throwing.bind_ok hissued
  exact ⟨inspectionDate, issuedAt, (Except.ok.inj hfacts).symm⟩

end InspectionHub.Reporting
