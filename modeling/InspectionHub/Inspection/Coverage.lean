import InspectionHub.Domain.ModuleState
import InspectionHub.Lib.OMap

/-!
# The coverage ledger

`packages/domain/src/inspection/coverage.ts`. An inspector records, for an area
and a commissioned module, how far the area was inspected. A judgement
supersedes the earlier one of its pair: the limitation it left is closed, the
revisit it asked for is resolved, and both may be opened anew.
-/

namespace InspectionHub.Inspection

open Domain

structure ProfessionalModuleReference where
  module : ModuleType
  moduleId : String
deriving DecidableEq

inductive AreaCoverageState where
  | access_limited
  | inaccessible
  | inspected
  | not_applicable
  | revisit
deriving DecidableEq

def AreaCoverageState.text : AreaCoverageState → String
  | .access_limited => "access_limited"
  | .inaccessible => "inaccessible"
  | .inspected => "inspected"
  | .not_applicable => "not_applicable"
  | .revisit => "revisit"

structure InspectionArea where
  areaId : String
  label : String
  applicableModules : List ModuleType
deriving DecidableEq

structure CoverageEntry where
  areaId : String
  coverageEntryId : String
  module : ModuleType
  moduleId : String
  state : AreaCoverageState
  detail : Option String
  recordedAt : String
  recordedByInspectorId : String
  revision : Nat
deriving DecidableEq

inductive LimitationStatus where
  | active
  | superseded
deriving DecidableEq

structure CoverageLimitation where
  areaId : String
  limitationId : String
  module : ModuleType
  moduleId : String
  description : String
  material : Bool
  recordedAt : String
  status : LimitationStatus
  supersededAt : Option String
deriving DecidableEq

inductive RevisitStatus where
  | opened
  | resolved
deriving DecidableEq

structure CoverageRevisitItem where
  areaId : String
  module : ModuleType
  moduleId : String
  reason : String
  revisitItemId : String
  openedAt : String
  status : RevisitStatus
  resolvedAt : Option String
deriving DecidableEq

structure CoverageLedger where
  organizationId : String
  jobId : String
  commissionedModules : List ProfessionalModuleReference
  areas : List InspectionArea
  revision : Nat
  entries : List CoverageEntry
  limitations : List CoverageLimitation
  revisitItems : List CoverageRevisitItem
deriving DecidableEq

inductive IssueReason where
  | coverage_not_recorded
  | revisit_open
deriving DecidableEq

structure CoverageCompletionIssue where
  areaId : String
  module : ModuleType
  moduleId : String
  reason : IssueReason
deriving DecidableEq

/-! ## Making a ledger -/

/-- What `createCoverageLedger` reads. -/
structure CoverageLedgerInput where
  organizationId : String
  jobId : String
  commissionedModules : List ProfessionalModuleReference
  areas : List InspectionArea

/-- The loop over the areas, with the `areaIds` it has met. -/
def checkAreas (commissionedModules : List ProfessionalModuleReference) :
    List String → List InspectionArea → Except DomainError Unit
  | _, [] => .ok ()
  | areaIds, area :: rest => do
      require (area.areaId ∉ areaIds) "duplicate_area"
        "Coverage area identities must be unique" []
      match area.applicableModules.find?
          fun module => !commissionedModules.any fun reference => reference.module = module with
      | some module =>
          .error (.conflict "area_module_not_commissioned"
            "An area cannot require coverage for an uncommissioned module"
            [("areaId", .str area.areaId), ("module", .str module.text)])
      | none => checkAreas commissionedModules (areaIds ++ [area.areaId]) rest

def createCoverageLedger (input : CoverageLedgerInput) : Except DomainError CoverageLedger := do
  require (input.commissionedModules ≠ []) "coverage_has_no_module"
    "Coverage requires at least one commissioned professional module" []
  require ((input.commissionedModules.map (·.module)).Nodup ∧
      (input.commissionedModules.map (·.moduleId)).Nodup)
    "duplicate_commissioned_module"
    "Commissioned module types and identities must both be unique" []
  checkAreas input.commissionedModules [] input.areas
  return {
    organizationId := input.organizationId
    jobId := input.jobId
    commissionedModules := input.commissionedModules
    areas := input.areas
    revision := 0
    entries := []
    limitations := []
    revisitItems := [] }

/-! ## Recording coverage -/

structure CoverageCommand where
  expectedRevision : Nat
  coverageEntryId : String
  areaId : String
  module : ModuleType
  state : AreaCoverageState
  detail : Option String
  material : Option Bool
  recordedAt : String
  inspectorId : String
  limitationId : Option String
  revisitItemId : Option String
deriving DecidableEq

def assertRevision (actual expected : Nat) : Except DomainError Unit :=
  require (actual = expected) "revision_conflict"
    "Coverage changed on another screen or device; refresh and compare before retrying"
    [("actual", .num (.int actual)), ("expected", .num (.int expected))]

/-- The states that come with a limitation. -/
def AreaCoverageState.limited (state : AreaCoverageState) : Bool :=
  state = .access_limited || state = .inaccessible

/-- `command.detail?.trim() ?? ""`. -/
def CoverageCommand.trimmedDetail (command : CoverageCommand) : String :=
  match command.detail with
  | some detail => Js.trim detail
  | none => ""

/-- The ledger with the judgement of `command` about the module `moduleId`. -/
def CoverageLedger.recorded (ledger : CoverageLedger) (command : CoverageCommand)
    (moduleId : String) : CoverageLedger :=
  let detail := command.trimmedDetail
  let priorEntries := ledger.entries.filter fun entry =>
    entry.areaId = command.areaId && entry.moduleId = moduleId
  let nextEntry : CoverageEntry := {
    areaId := command.areaId
    coverageEntryId := command.coverageEntryId
    module := command.module
    moduleId := moduleId
    state := command.state
    detail := if detail ≠ "" then some detail else none
    recordedAt := command.recordedAt
    recordedByInspectorId := command.inspectorId
    revision := priorEntries.length + 1 }
  let limitations := ledger.limitations.map fun limitation =>
    if limitation.areaId = command.areaId && limitation.moduleId = moduleId &&
        limitation.status = .active then
      { limitation with status := .superseded, supersededAt := some command.recordedAt }
    else limitation
  let addedLimitation : Option CoverageLimitation :=
    if command.state.limited then
      command.limitationId.map fun limitationId => {
        areaId := command.areaId
        limitationId := limitationId
        module := command.module
        moduleId := moduleId
        description := detail
        material := command.material.getD true
        recordedAt := command.recordedAt
        status := .active
        supersededAt := none }
    else none
  let revisitItems := ledger.revisitItems.map fun item =>
    if item.areaId = command.areaId && item.moduleId = moduleId && item.status = .opened then
      { item with status := .resolved, resolvedAt := some command.recordedAt }
    else item
  let addedRevisit : Option CoverageRevisitItem :=
    if command.state = .revisit then
      command.revisitItemId.map fun revisitItemId => {
        areaId := command.areaId
        module := command.module
        moduleId := moduleId
        reason := detail
        revisitItemId := revisitItemId
        openedAt := command.recordedAt
        status := .opened
        resolvedAt := none }
    else none
  { ledger with
    revision := ledger.revision + 1
    entries := ledger.entries ++ [nextEntry]
    limitations := limitations ++ addedLimitation.toList
    revisitItems := revisitItems ++ addedRevisit.toList }

def recordAreaCoverage (ledger : CoverageLedger) (command : CoverageCommand) :
    Except DomainError CoverageLedger := do
  assertRevision ledger.revision command.expectedRevision
  match ledger.areas.find? fun candidate => candidate.areaId = command.areaId with
  | none =>
      .error (.conflict "coverage_area_unknown"
        "Coverage can be recorded only for a known inspection area" [])
  | some area =>
      match ledger.commissionedModules.find? fun reference => reference.module = command.module with
      | none =>
          .error (.conflict "coverage_module_not_commissioned"
            "Coverage cannot be recorded for an uncommissioned professional module" [])
      | some moduleReference => do
          require (command.module ∈ area.applicableModules ∨ command.state = .not_applicable)
            "coverage_module_not_applicable"
            "This professional module is not applicable to the selected area" []
          require (¬ ((command.state.limited ∨ command.state = .revisit ∨
              command.state = .not_applicable) ∧ command.trimmedDetail = ""))
            "coverage_detail_required"
            (command.state.text ++ " coverage requires an inspector-written reason") []
          require (¬ (command.state.limited ∧ command.limitationId = none)) "limitation_required"
            "Access-limited and inaccessible areas require an explicit module limitation" []
          require (¬ (command.state = .revisit ∧ command.revisitItemId = none))
            "revisit_item_required"
            "A revisit coverage state must create a visible revisit item" []
          return ledger.recorded command moduleReference.moduleId

/-! ## What is left to do -/

def coverageKey (moduleId areaId : String) : String :=
  Json.stringify (.arr [.str moduleId, .str areaId])

/-- A map that holds each entry under the key of its pair. -/
abbrev EntryMap := Table String CoverageEntry fun entry => coverageKey entry.moduleId entry.areaId

/-- The map of `entries`; a later entry replaces an earlier one of its pair. -/
def entryMap (entries : List CoverageEntry) : EntryMap := entries.foldl Table.put .empty

def compareEntries (host : Js.Host) (a b : CoverageEntry) : Ordering :=
  (host.localeCompare a.areaId b.areaId).then (host.localeCompare a.module.text b.module.text)

def currentCoverageEntries (host : Js.Host) (ledger : CoverageLedger) : List CoverageEntry :=
  (entryMap ledger.entries).values.mergeSort fun a b => compareEntries host a b ≠ .gt

def coverageCompletionIssues (host : Js.Host) (ledger : CoverageLedger) :
    List CoverageCompletionIssue :=
  let current := entryMap (currentCoverageEntries host ledger)
  let unrecorded := ledger.areas.flatMap fun area =>
    area.applicableModules.flatMap fun module =>
      match ledger.commissionedModules.find? fun reference => reference.module = module with
      | none => []
      | some moduleReference =>
          if (current.get? (coverageKey moduleReference.moduleId area.areaId)).isNone then
            [{ areaId := area.areaId
               module := module
               moduleId := moduleReference.moduleId
               reason := .coverage_not_recorded }]
          else []
  let unresolved := ledger.revisitItems.flatMap fun item =>
    if item.status = .opened then
      [{ areaId := item.areaId
         module := item.module
         moduleId := item.moduleId
         reason := .revisit_open }]
    else []
  unrecorded ++ unresolved

end InspectionHub.Inspection
