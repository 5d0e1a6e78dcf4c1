import InspectionHub.Agent.Stores

/-!
# The draft runner

`packages/agent/src/runner.ts`. An attempt of a run resumes from the record an
earlier attempt left: it generates a draft when there is none, checks it,
verifies it, and answers with the record's status. Each checkpoint is stored
by a compare-and-set that asks once more whether the packet is current.
-/

namespace InspectionHub.Agent

open Domain (Env ModuleType)
open Inspection (InvestigationPacket)

/-! ## The model -/

inductive DraftArchitecture where
  | deterministic_fixture
  | agents_sdk
  | thin_responses
deriving DecidableEq

def DraftArchitecture.text : DraftArchitecture → String
  | .deterministic_fixture => "deterministic_fixture"
  | .agents_sdk => "agents_sdk"
  | .thin_responses => "thin_responses"

/-- What the runner reads of a prepared request. -/
structure PreparedAiRequest where
  packetId : String
  packetHash : String
  packetRevision : ℚ
  model : String
  promptVersion : String

inductive DraftModelInput where
  | packet (packet : InvestigationPacket) (maxTurns : ℚ)
  | request (request : PreparedAiRequest) (maxTurns : ℚ)

structure DraftModelUsage where
  inputTokens : ℚ
  outputTokens : ℚ
  requests : ℚ

structure DraftModelResult where
  draft : InspectionDraft
  model : String
  latencyMilliseconds : ℚ
  usage : DraftModelUsage
  estimatedCostUsd : ℚ
  loadedSkillVersions : List String

structure AgentRunnerBudgets where
  maxTurns : ℚ
  timeoutMilliseconds : ℚ
  maxEstimatedCostUsd : ℚ

structure DeterministicGuardResult where
  passed : Bool
  issues : List VerifierIssue

/-- A runner, with what was injected into it. The constructor throws unless
the budgets are positive. -/
structure InspectionDraftRunner where
  architecture : DraftArchitecture
  /-- What the model answers to its `n`-th call. -/
  generate : Nat → DraftModelInput → Except Thrown DraftModelResult
  verify : InvestigationPacket → InspectionDraft → String → Except Thrown DraftVerification
  runDeterministicDraftGuard : InvestigationPacket → InspectionDraft → DeterministicGuardResult
  /-- The provider boundary's check of a request. -/
  assertPreparedAiRequest : PreparedAiRequest → Except Thrown Unit
  budgets : AgentRunnerBudgets
  positive : 1 ≤ budgets.maxTurns ∧ 1 ≤ budgets.timeoutMilliseconds ∧
    0 < budgets.maxEstimatedCostUsd

structure RunInput where
  runId : String
  attempt : ℚ
  packet : InvestigationPacket
  preparedRequest : Option PreparedAiRequest
  manualFallbackOnProviderFailure : Bool
  faultAfter : Option RunnerFaultCheckpoint

inductive AgentRunOutcome where
  | verified (record : ProvisionalDraftRecord)
  | rejected (record : ProvisionalDraftRecord)
  | superseded (record : Option ProvisionalDraftRecord)
  | manual_required (reason : String)

/-! ## What is checked of a draft -/

def identityOf (input : RunInput) : AgentRunIdentity where
  runId := input.runId
  organizationId := input.packet.organizationId
  jobId := input.packet.jobId
  packetId := input.packet.packetId
  packetHash := input.packet.canonicalHash

/-- `throw new Error(message)` unless `p`. -/
def demand (p : Prop) [Decidable p] (message : String) : Except Thrown Unit :=
  if p then .ok () else .error (.error message)

variable (host : Host) (runner : InspectionDraftRunner)

def requiredPreparedRequest (request : Option PreparedAiRequest) (packet : InvestigationPacket) :
    Except Thrown PreparedAiRequest :=
  match request with
  | none => .error (.error "A real model run requires a PreparedAiRequest")
  | some request => do
      runner.assertPreparedAiRequest request
      demand
        (request.packetId = packet.packetId ∧ request.packetHash = packet.canonicalHash ∧
          request.packetRevision = packet.packetRevision ∧
          request.model = packet.versionPins.model ∧
          request.promptVersion = packet.versionPins.promptVersion)
        "PreparedAiRequest does not match the exact frozen packet"
      return request

def assertLoadedSkillPins (expected loaded : List String) : Except Thrown Unit :=
  demand (loaded.length = expected.length ∧ ∀ version ∈ loaded, version ∈ expected)
    "Agents SDK planner did not load every exact packet-pinned skill"

def assertDraftPins (packet : InvestigationPacket) (draft : InspectionDraft) (model : String) :
    Except Thrown Unit := do
  demand (draft.origin = .ai)
    "A model runner may persist only explicitly AI-origin provisional drafts"
  demand
    (draft.packetId = packet.packetId ∧ draft.packetHash = packet.canonicalHash ∧
      (draft.packetRevision : ℚ) = packet.packetRevision ∧ draft.model = model ∧
      draft.promptVersion = packet.versionPins.promptVersion ∧
      draft.model = packet.versionPins.model)
    "Draft identity and model/prompt pins must match the exact packet"
  demand
    (draft.skillVersions.length = packet.versionPins.skillVersions.length ∧
      ∀ version ∈ draft.skillVersions, version ∈ packet.versionPins.skillVersions)
    "Draft skill versions must match the frozen packet pins"

/-- The draft of a model's result, when it may be kept for the packet. -/
def acceptResult (packet : InvestigationPacket) (result : DraftModelResult) :
    Except Thrown InspectionDraft := do
  demand (result.estimatedCostUsd ≤ runner.budgets.maxEstimatedCostUsd)
    "Model result exceeded the configured per-run cost budget"
  let draft ← result.draft.parse.mapError .schema
  assertDraftPins packet draft result.model
  if runner.architecture = .agents_sdk then
    assertLoadedSkillPins packet.versionPins.skillVersions result.loadedSkillVersions
  return draft

/-! ## Steps -/

/-- `this.#append(…)`. -/
def append (input : RunInput) (type : AgentRunEventType) (safeMetadata : SafeMetadata) :
    Step Unit := do
  let s ← get
  set { s with times := s.times + 1, eventIds := s.eventIds + 1 }
  let _ ← appendEvent host
    { eventId := host.eventId s.eventIds
      runId := input.runId
      attempt := input.attempt
      type := type
      occurredAt := host.nowIso s.times
      safeMetadata := safeMetadata }

def appendOnce (input : RunInput) (type : AgentRunEventType) (safeMetadata : SafeMetadata) :
    Step Unit := do
  let events ← readEvents input.runId
  if events.any (fun event => event.type = type) then return else
    append host input type safeMetadata

def isPacketCurrent (packet : InvestigationPacket) : Step Bool :=
  port (askCurrent host packet.organizationId packet.packetId packet.canonicalHash)

/-- One call of the model. -/
def callModel (runId : String) (input : DraftModelInput) : Step DraftModelResult := port do
  let s ← get
  set { s with answers := s.answers + 1, trace := s.trace ++ [PortEvent.generated runId] }
  Tx.ofExcept (runner.generate s.answers input)

/-- What the model is called with. -/
def modelInput (input : RunInput) : Except Thrown DraftModelInput :=
  match runner.architecture with
  | .deterministic_fixture => .ok (.packet input.packet runner.budgets.maxTurns)
  | _ => (requiredPreparedRequest runner input.preparedRequest input.packet).map
      (.request · runner.budgets.maxTurns)

def generateAndPersist (input : RunInput) : Step ProvisionalDraftRecord := do
  append host input .model_requested
    [("architecture", .string runner.architecture.text),
      ("packetHash", .string input.packet.canonicalHash)]
  let request ← Tx.ofExcept (modelInput runner input)
  let result ← callModel runner input.runId request
  let draft ← Tx.ofExcept (acceptResult runner input.packet result)
  let draftHash := Domain.sha256 host.toEnv draft.json
  result.loadedSkillVersions.forM fun skillVersion =>
    append host input .skill_loaded [("skillVersion", .string skillVersion)]
  append host input .model_completed
    [("model", .string result.model), ("latencyMilliseconds", .number result.latencyMilliseconds),
      ("inputTokens", .number result.usage.inputTokens),
      ("outputTokens", .number result.usage.outputTokens),
      ("estimatedCostUsd", .number result.estimatedCostUsd)]
  let record ← insertIfCurrent host
    { toAgentRunIdentity := identityOf input
      attempt := input.attempt
      draftHash := draftHash
      draft := draft
      deterministicChecked := false
      verification := none
      status := .provisional }
  append host input .draft_persisted [("draftHash", .string draftHash)]
  return record

def criticalIssueCount (issues : List VerifierIssue) : ℚ :=
  (issues.filter fun issue => issue.severity = .critical).length

/-! ## An attempt -/

/-- A step of the attempt while its `record` variable holds `record`. -/
abbrev Attempt (α : Type) := Tx (Thrown × Option ProvisionalDraftRecord) World α

def holding {α : Type} (record : Option ProvisionalDraftRecord) (x : Step α) : Attempt α :=
  Tx.mapError (·, record) x

def crashAt (input : RunInput) (checkpoint : RunnerFaultCheckpoint)
    (record : ProvisionalDraftRecord) (when : Bool) : Attempt PUnit :=
  Tx.throwIf (input.faultAfter = some checkpoint ∧ when = true)
    (.simulatedCrash checkpoint, some record)

/-- The deterministic check, once. -/
def checkDraft (input : RunInput) (record : ProvisionalDraftRecord) :
    Attempt ProvisionalDraftRecord :=
  if record.deterministicChecked then pure record else do
    let deterministicResult := runner.runDeterministicDraftGuard input.packet record.draft
    let checked ← holding (some record) (updateIfCurrent host record.runId record.draftHash
      fun current => { current with deterministicChecked := true })
    holding (some checked) (append host input .deterministic_check_completed
      [("draftHash", .string checked.draftHash), ("passed", .boolean deterministicResult.passed),
        ("criticalIssueCount", .number (criticalIssueCount deterministicResult.issues))])
    return checked

/-- `{ ...current, verification, status }`. -/
def withVerification (verification : DraftVerification) (current : ProvisionalDraftRecord) :
    ProvisionalDraftRecord :=
  { current with
    verification := some verification
    status := if verification.passed then .verified else .rejected }

/-- The verification, once. -/
def verifyDraft (input : RunInput) (record : ProvisionalDraftRecord) :
    Attempt ProvisionalDraftRecord :=
  if record.verification.isSome then pure record else do
    holding (some record) (append host input .verifier_requested
      [("draftHash", .string record.draftHash)])
    let s ← get
    set { s with times := s.times + 1 }
    let verification ← holding (some record)
      (Tx.ofExcept (runner.verify input.packet record.draft (host.nowIso s.times)))
    let verified ← holding (some record) (updateIfCurrent host record.runId record.draftHash
      (withVerification verification))
    holding (some verified) (append host input .verifier_completed
      [("draftHash", .string verified.draftHash), ("passed", .boolean verification.passed),
        ("criticalIssueCount", .number (criticalIssueCount verification.issues))])
    return verified

/-- The draft to go on with: the one stored, or a new one. -/
def currentDraft (input : RunInput) : Option ProvisionalDraftRecord → Attempt ProvisionalDraftRecord
  | some record => pure record
  | none => holding none (generateAndPersist host runner input)

/-- The `try` block. -/
def attemptDraft (input : RunInput) (bound : Option ProvisionalDraftRecord) :
    Attempt AgentRunOutcome := do
  let current ← holding bound (isPacketCurrent host input.packet)
  Tx.throwIf (current = false) (.stalePacket, bound)
  let record ← currentDraft host runner input bound
  crashAt input .after_draft record (!record.deterministicChecked)
  let record ← checkDraft host runner input record
  crashAt input .after_guard record record.verification.isNone
  let record ← verifyDraft host runner input record
  crashAt input .after_verifier record true
  holding (some record) (appendOnce host input .run_completed
    [("draftHash", .string record.draftHash), ("status", .string record.status.text)])
  return if record.status = .verified then .verified record else .rejected record

def markSuperseded (record : Option ProvisionalDraftRecord) :
    Step (Option ProvisionalDraftRecord) :=
  match record with
  | none => return none
  | some record => do return some (← markStale record.runId record.draftHash)

/-- The `catch` block, for an error thrown while `record` was held. -/
def recoverAttempt (input : RunInput) (thrown : Thrown × Option ProvisionalDraftRecord) :
    Step AgentRunOutcome :=
  match thrown.1 with
  | .stopped => throw .stopped
  | .simulatedCrash checkpoint => throw (.simulatedCrash checkpoint)
  | .stalePacket => do
      let record ← markSuperseded thrown.2
      appendOnce host input .run_superseded [("packetHash", .string input.packet.canonicalHash)]
      return .superseded record
  | error => do
      let reason := safeErrorReason error
      append host input .run_failed [("reason", .string reason)]
      if input.manualFallbackOnProviderFailure then do
        append host input .run_manual_fallback [("reason", .string reason)]
        return .manual_required reason
      else throw error

def run (input : RunInput) : Step AgentRunOutcome := do
  let record ← bindAndGet (identityOf input)
  append host input .run_started
    [("architecture", .string runner.architecture.text),
      ("packetHash", .string input.packet.canonicalHash)]
  append host input .attempt_started [("attempt", .number input.attempt)]
  append host input .packet_loaded
    [("packetHash", .string input.packet.canonicalHash),
      ("packetRevision", .number input.packet.packetRevision)]
  Tx.catching (attemptDraft host runner input record) (recoverAttempt host input)

/-! ## Attempts in a row -/

/-- An attempt: the runner that makes it, and the step before which its
process stops, if it does. -/
structure AttemptPlan where
  runner : InspectionDraftRunner
  input : RunInput
  stopsAfter : Option Nat

/-- A process starts on the stores an earlier one left. -/
def World.starting (w : World) (stopsAfter : Option Nat) : World := { w with left := stopsAfter }

/-- The attempt, and the world it leaves. -/
def AttemptPlan.exec (w : World) (plan : AttemptPlan) :
    EStateM.Result Thrown World AgentRunOutcome :=
  run host plan.runner plan.input (w.starting plan.stopsAfter)

/-- The world after the attempts. -/
def worldAfter (plans : List AttemptPlan) : World :=
  plans.foldl (fun w plan => Tx.after (plan.exec host w)) .empty

end InspectionHub.Agent
