import InspectionHub.Domain.Events

/-!
# Replay of the inspection projection

The projection is a JSON document folded over the upcast history.
`replayInspectionProjection` folds all of it, or, given a checkpoint,
recomputes the prefix, compares hashes, and folds the rest from the
checkpoint's own projection.
-/

namespace InspectionHub.Domain

variable (env : Env)

/-- `event[k]`, for a field every envelope has. -/
def prop (event : JsVal) (k : String) : JsVal := (event.get? k).getD .null

def initialModule (module : String) : JsVal :=
  .obj [("module", .str module), ("status", .str "not_started"), ("currentSnapshotId", .null),
    ("currentApprovalId", .null), ("amendmentCount", (0 : Int))]

def initialProjection (event : JsVal) : JsVal :=
  .obj
    [("schemaVersion", (1 : Int)), ("organizationId", prop event "organizationId"),
      ("aggregate", prop event "aggregate"), ("revision", (0 : Int)),
      ("bookingStatus", .str "none"), ("inspectionStatus", .str "not_started"),
      ("modules", .obj
        [("building", initialModule "building"), ("timberPest", initialModule "timber_pest")]),
      ("packageStatus", .str "none"), ("deliveryStatus", .str "not_delivered"),
      ("recipientAccessStatus", .str "none"), ("deletionStatus", .str "active"),
      ("compactionCheckpointIds", .arr []), ("lastEventId", prop event "eventId")]

/-- `event.aggregateVersion - 1`. -/
def eventIndex (event : JsVal) : Option Int := (event.int? "aggregateVersion").map (· - 1)

def eventTypeText (event : JsVal) : String := (event.str? "eventType").getD ""

/-- The key of `projection.modules` the event's metadata names. -/
def metadataModule (event : JsVal) : Except DomainError String :=
  match event.strAt? ["safeMetadata", "module"] with
  | some "building" => .ok "building"
  | some "timber_pest" => .ok "timberPest"
  | _ => .error (.integrity
      (eventTypeText event ++ " requires explicit building or timber_pest metadata")
      (eventIndex event))

def metadataString (event : JsVal) (key : String) : Except DomainError JsVal :=
  match event.strAt? ["safeMetadata", key] with
  | some s =>
      if s = "" then .error (.integrity
        (eventTypeText event ++ " requires non-empty " ++ key ++ " metadata") (eventIndex event))
      else .ok (.str s)
  | none => .error (.integrity
      (eventTypeText event ++ " requires non-empty " ++ key ++ " metadata") (eventIndex event))

/-- `value[k]`; a value that is no object has no properties to read. -/
def readProp (value : JsVal) (k : String) : Except DomainError JsVal :=
  match value.get? k with
  | some x => .ok x
  | none => .error (.type ("Cannot read properties of undefined (reading '" ++ k ++ "')"))

/-- The update of one module, the patch given as the properties it sets. -/
def updateModule (projection : JsVal) (key : String) (patch : Fields) :
    Except DomainError JsVal := do
  let modules ← readProp projection "modules"
  let current ← readProp modules key
  return .obj (projection.fields.assign "modules"
    (.obj (modules.fields.assign key (.obj (current.fields.spread patch)))))

/-- The cases of the switch that set one status. -/
def statusCases : List (String × String × String) :=
  [("booking.created", "bookingStatus", "booked"),
    ("booking.cancelled", "bookingStatus", "cancelled"),
    ("inspection.started", "inspectionStatus", "in_progress"),
    ("inspection.completed", "inspectionStatus", "completed"),
    ("report.package_confirmed", "packageStatus", "confirmed"),
    ("report.package_cancelled", "packageStatus", "cancelled"),
    ("delivery.delivered", "deliveryStatus", "delivered"),
    ("recipient_access.grant_issued", "recipientAccessStatus", "active"),
    ("recipient_access.grant_revoked", "recipientAccessStatus", "revoked"),
    ("system.deletion_suppressed", "deletionStatus", "deletion_suppressed")]

/-- `current.amendmentCount + 1`. -/
def nextCount (current : JsVal) : Except DomainError JsVal :=
  match current.int? "amendmentCount" with
  | some n => .ok (.num (.int (n + 1)))
  | none => .error (.type "amendmentCount is not a number")

/-- The cases of the switch that update a module. -/
def applyModuleEvent (next : JsVal) (event : JsVal) : Except DomainError JsVal :=
  match eventTypeText event with
  | "inspection.module_started" => do
      let key ← metadataModule event
      updateModule next key [("status", .str "inspection_in_progress")]
  | "inspection.module_completed" => do
      let key ← metadataModule event
      updateModule next key [("status", .str "inspection_completed")]
  | "approval.module_approved" => do
      let snapshotId ← metadataString event "snapshotId"
      let approvalId ← metadataString event "approvalId"
      let key ← metadataModule event
      updateModule next key
        [("status", .str "approved"), ("currentSnapshotId", snapshotId),
          ("currentApprovalId", approvalId)]
  | "amendment.module_amended" => do
      let key ← metadataModule event
      let modules ← readProp next "modules"
      let current ← readProp modules key
      let replacementId ← metadataString event "replacementSnapshotId"
      let amendmentCount ← nextCount current
      updateModule next key
        [("status", .str "amendment_pending"), ("currentSnapshotId", replacementId),
          ("currentApprovalId", .null), ("amendmentCount", amendmentCount)]
  | "approval.module_withdrawn" => do
      let key ← metadataModule event
      updateModule next key [("status", .str "withdrawn"), ("currentApprovalId", .null)]
  | "system.compaction_checkpoint" => do
      let ids ← readProp next "compactionCheckpointIds"
      let checkpointId ← metadataString event "checkpointId"
      return .obj (next.fields.assign "compactionCheckpointIds" (ids.push checkpointId))
  | _ => return next

def applyEvent (prior event : JsVal) : Except DomainError JsVal :=
  let next := (prior.fields.assign "revision" (prop event "aggregateVersion")).assign "lastEventId"
    (prop event "eventId")
  match statusCases.lookup (eventTypeText event) with
  | some (key, status) => .ok (.obj (next.assign key (.str status)))
  | none => applyModuleEvent (.obj next) event

def reduceEvents (events : List JsVal) (seed : Option JsVal) : Except DomainError JsVal :=
  match events, seed with
  | [], none => .error (.integrity "Cannot reduce an empty event history" (some 0))
  | [], some s => .ok s
  | e :: l, seed => (e :: l).foldlM applyEvent (seed.getD (initialProjection e))

/-- A value used in arithmetic, when it is an integer. -/
def integerOf : Option JsVal → Option Int
  | some (.num (.int n)) => some n
  | some (.num (.numeral _)) => none
  | some v => env.toInteger v
  | none => none

/-- The resumed replay: every check of the checkpoint, then the rest. -/
def resumeFrom (rawHistory : List Document) (currentEvents : List JsVal) (checkpoint : JsVal) :
    Except DomainError JsVal :=
  match integerOf env (checkpoint.get? "throughAggregateVersion") with
  | none =>
      .error (.integrity "Replay checkpoint is outside the supplied raw history" none)
  | some through =>
      match if 1 ≤ through then rawHistory[(through - 1).toNat]? else none with
      | none =>
          .error (.integrity "Replay checkpoint is outside the supplied raw history"
            (some (max 0 (through - 1))))
      | some rawCheckpointEvent => do
          let checkpointIndex := (through - 1).toNat
          requireIntegrity
            (rawCheckpointEvent.val.str? "eventHash" = checkpoint.str? "rawHistoryEventHash")
            "Replay checkpoint does not match the supplied raw history" checkpointIndex
          let projection ← (match checkpoint.get? "projection" with
            | some v => .ok v
            | none => .error (.type "Canonical JSON does not permit undefined"))
          requireIntegrity (some (sha256 env projection) = checkpoint.str? "projectionHash")
            "Replay checkpoint projection failed integrity verification" checkpointIndex
          let verifiedPrefix ← reduceEvents (currentEvents.take through.toNat) none
          requireIntegrity (some (sha256 env verifiedPrefix) = checkpoint.str? "projectionHash")
            "Replay checkpoint projection does not match recomputed raw history" checkpointIndex
          reduceEvents (currentEvents.drop through.toNat) (some projection)

def replayInspectionProjection (rawHistory : List Document) (checkpoint : Option JsVal) :
    Except DomainError JsVal := do
  let currentEvents ← upcastEventStream env rawHistory
  requireIntegrity (currentEvents ≠ []) "Cannot replay an empty event history" 0
  match checkpoint with
  | none => reduceEvents currentEvents none
  | some c => resumeFrom env rawHistory currentEvents c

def createReplayCheckpoint (rawHistory : List Document) (throughAggregateVersion : Int) :
    Except DomainError JsVal := do
  let currentEvents ← upcastEventStream env rawHistory
  match if 1 ≤ throughAggregateVersion ∧ throughAggregateVersion ≤ currentEvents.length then
      rawHistory[(throughAggregateVersion - 1).toNat]? else none with
  | none =>
      .error (.integrity "Replay checkpoint is outside the supplied raw history"
        (some (max 0 (throughAggregateVersion - 1))))
  | some rawCheckpointEvent =>
      let projection ← reduceEvents (currentEvents.take throughAggregateVersion.toNat) none
      return .obj
        [("schemaVersion", (1 : Int)), ("throughAggregateVersion", throughAggregateVersion),
          ("rawHistoryEventHash", prop rawCheckpointEvent.val "eventHash"),
          ("projectionHash", .str (sha256 env projection)), ("projection", projection)]

end InspectionHub.Domain
