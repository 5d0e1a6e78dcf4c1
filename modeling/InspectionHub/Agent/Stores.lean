import InspectionHub.Agent.Drafts
import InspectionHub.Inspection.Packet
import InspectionHub.Lib.Hoare

/-!
# The stores of an agent run

`packages/agent/src/events.ts` and `repository.ts`: the event log of a run,
the packets that are current, and the provisional drafts. A call on a store is
one step of the process that runs an attempt, and a process may stop between
any two steps. Which packet is current is asked over and over; `packetsAt n`
is the repository the `n`-th question meets.
-/

namespace InspectionHub.Agent

open Domain (Env ModuleType)
open Inspection (InvestigationPacket)

/-! ## Errors -/

inductive RunnerFaultCheckpoint where
  | after_draft
  | after_guard
  | after_verifier
deriving DecidableEq

inductive Thrown where
  /-- `RunIdentityConflictError`. -/
  | runIdentityConflict
  /-- `StalePacketError`. -/
  | stalePacket
  /-- `SimulatedRunnerCrash`. -/
  | simulatedCrash (checkpoint : RunnerFaultCheckpoint)
  /-- The validation library's error. -/
  | schema (issues : List Issue)
  /-- `Error`. -/
  | error (message : String)
  /-- An error of a dependency, by the first 200 units of its name. -/
  | other (name : String)
  /-- What is no `Error`. -/
  | unknown
  /-- The process stopped; nothing of it runs on. -/
  | stopped
deriving DecidableEq

def safeErrorReason : Thrown → String
  | .runIdentityConflict => "RunIdentityConflictError"
  | .stalePacket => "StalePacketError"
  | .simulatedCrash _ => "SimulatedRunnerCrash"
  | .schema _ => "ZodError"
  | .error _ => "Error"
  | .other name => name
  | .unknown => "UnknownError"
  | .stopped => "UnknownError"

/-! ## Events -/

inductive AgentRunEventType where
  | run_started
  | attempt_started
  | packet_loaded
  | skill_loaded
  | model_requested
  | model_completed
  | draft_persisted
  | deterministic_check_completed
  | verifier_requested
  | verifier_completed
  | run_superseded
  | run_completed
  | run_failed
  | run_manual_fallback
deriving DecidableEq

def AgentRunEventType.text : AgentRunEventType → String
  | .run_started => "run.started"
  | .attempt_started => "attempt.started"
  | .packet_loaded => "packet.loaded"
  | .skill_loaded => "skill.loaded"
  | .model_requested => "model.requested"
  | .model_completed => "model.completed"
  | .draft_persisted => "draft.persisted"
  | .deterministic_check_completed => "deterministic_check.completed"
  | .verifier_requested => "verifier.requested"
  | .verifier_completed => "verifier.completed"
  | .run_superseded => "run.superseded"
  | .run_completed => "run.completed"
  | .run_failed => "run.failed"
  | .run_manual_fallback => "run.manual_fallback"

inductive SafeEventValue where
  | string (s : String)
  | number (q : ℚ)
  | boolean (b : Bool)
  | null

abbrev SafeMetadata := List (String × SafeEventValue)

/-- An event before the store numbers and hashes it. -/
structure AgentRunEventInput where
  eventId : String
  runId : String
  attempt : ℚ
  type : AgentRunEventType
  occurredAt : String
  safeMetadata : SafeMetadata

structure AgentRunEvent extends AgentRunEventInput where
  sequence : Nat
  previousEventHash : Option String
  eventHash : String

def assertSafeMetadata (metadata : SafeMetadata) : Except Thrown Unit :=
  metadata.forM fun entry =>
    if Js.length (Js.trim entry.1) = 0 ∨ 100 < Js.length entry.1 then
      .error (.error "Agent event metadata keys must be short and non-blank")
    else match entry.2 with
      | .string s =>
          if 500 < Js.length s then
            .error (.error "Agent event metadata may not contain protected artifact content")
          else .ok ()
      | _ => .ok ()

/-! ## Records -/

structure AgentRunIdentity where
  runId : String
  organizationId : String
  jobId : String
  packetId : String
  packetHash : String
deriving DecidableEq

inductive DraftStatus where
  | provisional
  | verified
  | rejected
  | stale
deriving DecidableEq

def DraftStatus.text : DraftStatus → String
  | .provisional => "provisional"
  | .verified => "verified"
  | .rejected => "rejected"
  | .stale => "stale"

structure ProvisionalDraftRecord extends AgentRunIdentity where
  attempt : ℚ
  draftHash : String
  draft : InspectionDraft
  deterministicChecked : Bool
  verification : Option DraftVerification
  status : DraftStatus

/-- The packet hashes that are current, by organisation and packet. -/
abbrev CurrentPackets := OMap (String × String) String

def CurrentPackets.isCurrent (packets : CurrentPackets)
    (organizationId packetId packetHash : String) : Bool :=
  packets.get? (organizationId, packetId) = some packetHash

/-! ## The world of a run -/

/-- What a dependency was seen to do, in order. -/
inductive PortEvent where
  /-- The model was called. -/
  | generated (runId : String)
  /-- A draft was inserted. -/
  | persisted (record : ProvisionalDraftRecord)
  /-- A checkpoint of a draft was stored, on the answer to the question of the
  given number. -/
  | updated (record : ProvisionalDraftRecord) (question : Nat)

structure World where
  events : OMap String (List AgentRunEvent)
  records : OMap String ProvisionalDraftRecord
  identities : OMap String AgentRunIdentity
  /-- The questions asked of the packet repository so far. -/
  questions : Nat
  /-- The times read, the event identifiers drawn and the calls of the model. -/
  times : Nat
  eventIds : Nat
  answers : Nat
  /-- The steps left before the process stops, if it does. -/
  left : Option Nat
  trace : List PortEvent

def World.empty : World where
  events := .empty
  records := .empty
  identities := .empty
  questions := 0
  times := 0
  eventIds := 0
  answers := 0
  left := none
  trace := []

/-- The stores, the clock and the packets a run meets, beside its model. -/
structure Host extends Env where
  /-- `String(n)` of a number, as JSON writes it. -/
  number : ℚ → JsNum
  nowIso : Nat → String
  eventId : Nat → String
  packetsAt : Nat → CurrentPackets

abbrev Step (α : Type) := Tx Thrown World α

variable (host : Host)

/-- One step of the process, unless it stops before. -/
def port {α : Type} (x : Step α) : Step α := fun s =>
  match s.left with
  | some 0 => .error .stopped s
  | some (n + 1) => x { s with left := some n }
  | none => x s

/-! ## The event log -/

def SafeEventValue.json : SafeEventValue → JsVal
  | .string s => .str s
  | .number q => .num (host.number q)
  | .boolean b => .bool b
  | .null => .null

/-- The content of an event, as it is hashed. -/
def AgentRunEventInput.json (input : AgentRunEventInput) (sequence : Nat)
    (previousEventHash : Option String) : JsVal :=
  .obj [("eventId", .str input.eventId), ("runId", .str input.runId),
    ("attempt", .num (host.number input.attempt)), ("type", .str input.type.text),
    ("occurredAt", .str input.occurredAt),
    ("safeMetadata", .obj (input.safeMetadata.map fun m => (m.1, m.2.json host))),
    ("sequence", (sequence : Int)), ("previousEventHash", nullable .str previousEventHash)]

def appendEvent (input : AgentRunEventInput) : Step AgentRunEvent := port do
  Tx.ofExcept (assertSafeMetadata input.safeMetadata)
  let s ← get
  let events := (s.events.get? input.runId).getD []
  let previousEventHash := events.getLast?.map (·.eventHash)
  let sequence := events.length + 1
  let event : AgentRunEvent :=
    { input with
      sequence := sequence
      previousEventHash := previousEventHash
      eventHash := Domain.sha256 host.toEnv (input.json host sequence previousEventHash) }
  set { s with events := s.events.set input.runId (events ++ [event]) }
  return event

def readEvents (runId : String) : Step (List AgentRunEvent) := port do
  return ((← get).events.get? runId).getD []

/-! ## Current packets -/

/-- `packets.isCurrent(…)`: the next question. -/
def askCurrent (organizationId packetId packetHash : String) : Step Bool := fun s =>
  .ok ((host.packetsAt s.questions).isCurrent organizationId packetId packetHash)
    { s with questions := s.questions + 1 }

def assertPacketCurrent (record : AgentRunIdentity) : Step Unit := do
  let current ← askCurrent host record.organizationId record.packetId record.packetHash
  Tx.throwIf (current = false) .stalePacket

/-! ## Provisional drafts -/

def assertRunIdentity (expected actual : AgentRunIdentity) : Step Unit :=
  Tx.throwIf (expected ≠ actual) .runIdentityConflict

def bindIdentity (identity : AgentRunIdentity) : Step Unit := do
  let s ← get
  match s.identities.get? identity.runId with
  | some current => assertRunIdentity current identity
  | none => set { s with identities := s.identities.set identity.runId identity }

def bindAndGet (identity : AgentRunIdentity) : Step (Option ProvisionalDraftRecord) := port do
  bindIdentity identity
  match (← get).records.get? identity.runId with
  | none => return none
  | some record =>
      assertRunIdentity record.toAgentRunIdentity identity
      return some record

def insertIfCurrent (record : ProvisionalDraftRecord) : Step ProvisionalDraftRecord := port do
  bindIdentity record.toAgentRunIdentity
  Tx.throwIf ((← get).records.has record.runId = true)
    (.error "A model attempt cannot overwrite an existing provisional draft")
  assertPacketCurrent host record.toAgentRunIdentity
  modify fun s =>
    { s with
      records := s.records.set record.runId record
      trace := s.trace ++ [.persisted record] }
  return record

/-- The record of the run, when it has the draft expected. -/
def requireVersion (runId expectedDraftHash message : String) : Step ProvisionalDraftRecord := do
  match (← get).records.get? runId with
  | none => throw (.error message)
  | some current =>
      Tx.throwIf (current.draftHash ≠ expectedDraftHash) (.error message)
      return current

def updateIfCurrent (runId expectedDraftHash : String)
    (update : ProvisionalDraftRecord → ProvisionalDraftRecord) :
    Step ProvisionalDraftRecord := port do
  let current ← requireVersion runId expectedDraftHash
    "Draft compare-and-set rejected a missing or changed version"
  let question := (← get).questions
  assertPacketCurrent host current.toAgentRunIdentity
  let next := update current
  Tx.throwIf (next.runId ≠ current.runId ∨ next.draftHash ≠ current.draftHash ∨
      next.toAgentRunIdentity ≠ current.toAgentRunIdentity)
    (.error "A checkpoint update cannot change immutable draft identity")
  modify fun s =>
    { s with
      records := s.records.set runId next
      trace := s.trace ++ [.updated next question] }
  return next

def markStale (runId expectedDraftHash : String) : Step ProvisionalDraftRecord := port do
  let current ← requireVersion runId expectedDraftHash
    "Stale marker compare-and-set rejected a missing or changed draft"
  let next := { current with status := .stale }
  modify fun s => { s with records := s.records.set runId next }
  return next

end InspectionHub.Agent
