import InspectionHub.Contracts.Events
import InspectionHub.Domain.Snapshots

/-!
# Stored events and their upcasting

Events are stored as JSON documents of two schema versions, each carrying the
hash of its other fields and of the event before it.
`verifyStoredEventChain` checks a stored history as it stands and
`upcastEventStream` rebuilds it in the current version.
-/

namespace InspectionHub.Domain

open Contracts Schema

variable (env : Env)

/-- The named properties of an object that are there. -/
def pick (v : JsVal) (keys : List String) : Fields :=
  keys.filterMap fun k => (v.get? k).map fun x => (k, x)

/-- Throw an `EventIntegrityError` unless `p`. -/
def requireIntegrity (p : Prop) [Decidable p] (message : String) (index : Nat) :
    Except DomainError Unit :=
  if p then .ok () else .error (.integrity message (some index))

/-! ## Envelopes -/

/-- `hashEventPayload`, `currentPayloadHash`. -/
def hashEventPayload (event : JsVal) : String :=
  sha256 env (.obj (pick event
    ["schemaVersion", "eventType", "safeMetadata", "protectedArtifactReferences"]))

/-- `const { eventHash, ...eventWithoutHash } = event`. -/
def withoutHash (event : JsVal) : JsVal := .obj (event.fields.erase "eventHash")

def createEventEnvelope (input : JsVal) (previousEvent : Option JsVal) :
    Except DomainError JsVal := do
  let draft ← parse (eventDraftV1Schema env.formats input)
  match previousEvent with
  | none =>
      require (draft.int? "aggregateVersion" = some 1) "event_version_gap"
        "The first aggregate event version must be 1" []
  | some p =>
      let previous ← parse (eventEnvelopeV1Schema env.formats p)
      require
        (previous.str? "organizationId" = draft.str? "organizationId" ∧
          previous.strAt? ["aggregate", "type"] = draft.strAt? ["aggregate", "type"] ∧
          previous.strAt? ["aggregate", "id"] = draft.strAt? ["aggregate", "id"])
        "event_aggregate_mismatch" "Event chain cannot cross aggregate boundaries" []
      require (draft.int? "aggregateVersion" = (previous.int? "aggregateVersion").map (· + 1))
        "event_version_gap" "Aggregate event versions must be contiguous" []
  let payloadHash := hashEventPayload env draft
  let previousEventHash := (previousEvent.bind fun p => p.get? "eventHash").getD .null
  let eventWithoutHash :=
    (draft.fields.assign "payloadHash" (.str payloadHash)).assign "previousEventHash"
      previousEventHash
  parse (eventEnvelopeV1Schema env.formats
    (.obj (eventWithoutHash.assign "eventHash" (.str (sha256 env (.obj eventWithoutHash))))))

/-! ## Verification of the stored history -/

/-- `Number.isInteger(n) && n >= 1`. A numeral with a positive exponent sign
is an integer of at least `10^21` in size. -/
def positiveInteger : Option JsVal → Bool
  | some (.num (.int n)) => 1 ≤ n
  | some (.num (.numeral t)) => '+' ∈ t.text && t.text.head? ≠ some '-'
  | _ => false

/-- `typeof value === "object"`. -/
def isTypeofObject : Option JsVal → Bool
  | some .null => true
  | some (.arr _) => true
  | some (.obj _) => true
  | _ => false

def isArray : Option JsVal → Bool
  | some (.arr _) => true
  | _ => false

def isNull : Option JsVal → Bool
  | some .null => true
  | _ => false

/-- The checks of `assertLegacyDraft`. -/
def legacyDraftValid (event : JsVal) : Bool :=
  let actorIdValid :=
    if event.str? "actorKind" = some "system" then isNull (event.get? "actorId")
    else (event.str? "actorId").isSome
  event.int? "schemaVersion" = some 0 && (event.str? "eventId").isSome &&
    (event.str? "name").isSome && (event.str? "tenantId").isSome &&
    (event.strAt? ["stream", "name"]).isSome && (event.strAt? ["stream", "id"]).isSome &&
    positiveInteger (event.get? "sequence") && (event.str? "sessionId").isSome && actorIdValid &&
    (event.str? "recordedAt").isSome && (event.str? "deduplicationKey").isSome &&
    isTypeofObject (event.get? "metadata") && isArray (event.get? "artifacts") &&
    (event.str? "traceId").isSome

def assertLegacyDraft (event : JsVal) (index : Nat) : Except DomainError Unit :=
  requireIntegrity (legacyDraftValid event = true)
    "Legacy event envelope failed schema validation" index

def legacyPayloadHash (event : JsVal) : String :=
  sha256 env (.obj (pick event ["schemaVersion", "name", "metadata", "artifacts"]))

/-- The event is of the first field prototype's schema. -/
def isLegacy (event : JsVal) : Bool := event.int? "schemaVersion" = some 0

/-- `schema.parse(value)`, with any error replaced by an integrity error. -/
def parseOrIntegrity (r : Parsed JsVal) (message : String) (index : Nat) :
    Except DomainError JsVal :=
  match r with
  | .ok v => .ok v
  | .error _ => .error (.integrity message (some index))

def verifyLegacyEvent (candidate : JsVal) (index : Nat) : Except DomainError JsVal := do
  assertLegacyDraft candidate index
  requireIntegrity (candidate.str? "payloadHash" = some (legacyPayloadHash env candidate))
    "Legacy event payload was mutated" index
  requireIntegrity (candidate.str? "eventHash" = some (sha256 env (withoutHash candidate)))
    "Legacy event hash was mutated" index
  return candidate

def verifyCurrentEvent (candidate : JsVal) (index : Nat) : Except DomainError JsVal := do
  let event ← parseOrIntegrity (eventEnvelopeV1Schema env.formats candidate)
    "Current event envelope failed schema validation" index
  requireIntegrity (event.str? "payloadHash" = some (hashEventPayload env event))
    "Current event payload was mutated" index
  requireIntegrity (event.str? "eventHash" = some (sha256 env (withoutHash event)))
    "Current event hash was mutated" index
  return event

def verifyStoredEvent (candidate : JsVal) (index : Nat) : Except DomainError JsVal :=
  if isLegacy candidate then verifyLegacyEvent env candidate index
  else verifyCurrentEvent env candidate index

structure EventIdentity where
  organizationId : Option String
  aggregateType : Option String
  aggregateId : Option String
  aggregateVersion : Option Int
deriving DecidableEq

def eventIdentity (event : JsVal) : EventIdentity :=
  if isLegacy event then
    { organizationId := event.str? "tenantId"
      aggregateType := event.strAt? ["stream", "name"]
      aggregateId := event.strAt? ["stream", "id"]
      aggregateVersion := event.int? "sequence" }
  else
    { organizationId := event.str? "organizationId"
      aggregateType := event.strAt? ["aggregate", "type"]
      aggregateId := event.strAt? ["aggregate", "id"]
      aggregateVersion := event.int? "aggregateVersion" }

/-- The links of a verified event to the one before it. -/
def checkLink (previous : Option JsVal) (event : JsVal) (index : Nat) :
    Except DomainError Unit := do
  let identity := eventIdentity event
  requireIntegrity (index = 0 → identity.aggregateVersion = some 1)
    "Stored event chain does not begin at aggregate version 1" index
  match previous with
  | none =>
      requireIntegrity (isNull (event.get? "previousEventHash") = true)
        "First stored event cannot reference an earlier event" index
  | some p =>
      let previousIdentity := eventIdentity p
      requireIntegrity
        (identity.organizationId = previousIdentity.organizationId ∧
          identity.aggregateType = previousIdentity.aggregateType ∧
          identity.aggregateId = previousIdentity.aggregateId)
        "Stored event chain crossed aggregate boundaries" index
      requireIntegrity
        (identity.aggregateVersion = previousIdentity.aggregateVersion.map (· + 1))
        "Stored event chain has a gap or is reordered" index
      requireIntegrity (event.str? "previousEventHash" = p.str? "eventHash")
        "Stored previous-event hash does not match" index

/-- One turn of the loop: the previous verified event and the index. -/
def verifyStep (state : Option JsVal × Nat) (candidate : Document) :
    Except DomainError (Option JsVal × Nat) := do
  let event ← verifyStoredEvent env candidate.val state.2
  checkLink state.1 event state.2
  return (some event, state.2 + 1)

/-- The loop of `verifyStoredEventChain`, with the state it ends in. -/
def verifyLoop (events : List Document) : Except DomainError (Option JsVal × Nat) :=
  events.foldlM (verifyStep env) (none, 0)

def verifyStoredEventChain (events : List Document) : Except DomainError Unit :=
  (verifyLoop env events).map fun _ => ()

/-! ## Verification of a current history -/

/-- The links of a current event to the one before it. -/
def checkCurrentLink (previous : Option JsVal) (event : JsVal) (index : Nat) :
    Except DomainError Unit := do
  requireIntegrity (index = 0 → event.int? "aggregateVersion" = some 1)
    "Event chain does not begin at aggregate version 1" index
  match previous with
  | some p =>
      requireIntegrity
        (event.str? "organizationId" = p.str? "organizationId" ∧
          event.strAt? ["aggregate", "type"] = p.strAt? ["aggregate", "type"] ∧
          event.strAt? ["aggregate", "id"] = p.strAt? ["aggregate", "id"])
        "Event chain crossed aggregate boundaries" index
      requireIntegrity
        (event.int? "aggregateVersion" = (p.int? "aggregateVersion").map (· + 1))
        "Event chain has a gap or is reordered" index
      requireIntegrity (event.str? "previousEventHash" = p.str? "eventHash")
        "Previous-event hash does not match" index
  | none =>
      requireIntegrity (isNull (event.get? "previousEventHash") = true)
        "First event cannot reference an earlier event" index

/-- One turn of the loop of `verifyEventChain`. -/
def verifyEventStep (state : Option JsVal × Nat) (candidate : JsVal) :
    Except DomainError (Option JsVal × Nat) := do
  let event ← parseOrIntegrity (eventEnvelopeV1Schema env.formats candidate)
    "Event envelope failed schema validation" state.2
  checkCurrentLink state.1 event state.2
  requireIntegrity (event.str? "payloadHash" = some (hashEventPayload env event))
    "Event payload was mutated" state.2
  requireIntegrity (event.str? "eventHash" = some (sha256 env (withoutHash event)))
    "Event hash was mutated" state.2
  return (some event, state.2 + 1)

def verifyEventChain (events : List JsVal) : Except DomainError Unit :=
  (events.foldlM (verifyEventStep env) (none, 0)).map fun _ => ()

/-! ## Upcasting -/

def legacyEventNames : List (String × String) :=
  [("inspection.module_signed_off", "approval.module_approved"),
    ("inspection.module_reopened", "amendment.module_amended"),
    ("delivery.package_voided", "report.package_cancelled")]

/-- `{ ...value }`. -/
def spreadOf : Option JsVal → Fields
  | some (.obj l) => l
  | some (.arr l) => l.mapIdx fun i v => (String.ofList (Json.natText i), v)
  | _ => []

/-- Move the string property `key` to `newKey`. -/
def renameString (l : Fields) (key newKey : String) (f : String → String) : Fields :=
  match l.lookup key with
  | some (.str s) => (l.assign newKey (.str (f s))).erase key
  | _ => l

def legacyMetadata (event : JsVal) : Fields :=
  let l := renameString (spreadOf (event.get? "metadata")) "moduleName" "module" fun m =>
    if m = "pest" then "timber_pest" else m
  renameString l "bookingState" "status" id

/-- The properties whose value is defined. -/
def defined (l : List (String × Option JsVal)) : Fields :=
  l.filterMap fun p => p.2.map fun v => (p.1, v)

def upcastLegacyV0 (event : JsVal) : Parsed JsVal :=
  let name := event.str? "name"
  let eventType := (name.bind fun n => legacyEventNames.lookup n).orElse fun _ => name
  let stream := (event.get? "stream").getD .null
  let actorId :=
    if event.str? "actorKind" = some "system" then some .null else event.get? "actorId"
  eventDraftV1Schema env.formats (.obj (defined
    [("schemaVersion", some (1 : Int)), ("eventId", event.get? "eventId"),
      ("eventType", eventType.map .str), ("organizationId", event.get? "tenantId"),
      ("aggregate", some (.obj (defined [("type", stream.get? "name"), ("id", stream.get? "id")]))),
      ("aggregateVersion", event.get? "sequence"), ("sessionId", event.get? "sessionId"),
      ("actor", some (.obj (defined [("type", event.get? "actorKind"), ("id", actorId)]))),
      ("clientOccurredAt", event.get? "occurredAt"), ("serverRecordedAt", event.get? "recordedAt"),
      ("idempotencyKey", event.get? "deduplicationKey"),
      ("safeMetadata", some (.obj (legacyMetadata event))),
      ("protectedArtifactReferences", event.get? "artifacts"),
      ("correlationId", event.get? "traceId"), ("causationId", event.get? "parentEventId")]))

def currentDraft (event : JsVal) : Parsed JsVal :=
  eventDraftV1Schema env.formats (.obj (pick event
    ["schemaVersion", "eventId", "eventType", "organizationId", "aggregate", "aggregateVersion",
      "sessionId", "actor", "clientOccurredAt", "serverRecordedAt", "idempotencyKey",
      "safeMetadata", "protectedArtifactReferences", "correlationId", "causationId"]))

/-- The draft of a stored event in the current schema. -/
def upcastDraft (storedEvent : JsVal) (index : Nat) : Except DomainError JsVal :=
  match if isLegacy storedEvent then upcastLegacyV0 env storedEvent
    else currentDraft env storedEvent with
  | .ok draft => .ok draft
  | .error issues =>
      .error (.integrity
        ("Stored event cannot be upcast to schema v1: " ++ env.issuesText issues) (some index))

/-- One turn of the upcasting loop: the events so far, the last one first. -/
def upcastStep (done : List JsVal) (storedEvent : Document) : Except DomainError (List JsVal) := do
  let draft ← upcastDraft env storedEvent.val done.length
  let current ← createEventEnvelope env draft done.head?
  return current :: done

def upcastEventStream (events : List Document) : Except DomainError (List JsVal) := do
  verifyStoredEventChain env events
  let done ← events.foldlM (upcastStep env) []
  return done.reverse

end InspectionHub.Domain
