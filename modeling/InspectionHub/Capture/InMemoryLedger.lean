import InspectionHub.Capture.SqliteLedger

/-!
# The in-memory capture ledger

`apps/mobile/src/storage/in-memory-capture-ledger.ts`: the ledger the capture
tests run against. It keeps the maps of the SQLite ledger and the notes, and
has no database.
-/

namespace InspectionHub.Capture

structure InMemoryLedger extends Memory where
  manualNotes : Table String ManualNote (·.noteId)
  failNextCommit : Bool

/-- A fresh ledger, no failure injected. -/
def InMemoryLedger.empty : InMemoryLedger := ⟨.empty, .empty, false⟩

def assertArtifactIdentity (artifact : DurableArtifact) : Except LedgerError Unit := do
  check (0 < artifact.byteLength) (.error "Capture artifact must contain bytes")
  check (Js.isHexDigest artifact.sha256 = true)
    (.error "Capture artifact must have a lowercase SHA-256 identity")
  check (Js.startsWith artifact.fileUri "file://" = true)
    (.error "Capture artifact must use an app-owned file URI")

namespace InMemoryLedger

variable (m : InMemoryLedger)

/-- `#appendEvent(event)`. -/
def appendEvent (captureId : String) (type : LocalCaptureEventType) (code : Option String) :
    InMemoryLedger :=
  { m with events := m.events ++ [{ captureId, code, ordinal := m.events.length + 1, type }] }

def beginIntent (intent : CaptureIntent) : Except LedgerError InMemoryLedger := do
  check (m.intents.get? intent.captureId = none)
    (.error ("Capture identity already reserved: " ++ intent.captureId))
  return { m with intents := m.intents.put intent }.appendEvent intent.captureId
    .capture_intent_reserved none

/-- The fields by which a repeated commit is recognised. -/
def sameFile (existing artifact : DurableArtifact) : Prop :=
  existing.sha256 = artifact.sha256 ∧ existing.fileUri = artifact.fileUri ∧
    existing.byteLength = artifact.byteLength

instance (existing artifact : DurableArtifact) : Decidable (sameFile existing artifact) :=
  inferInstanceAs (Decidable (_ ∧ _))

/-- The ledger after the call, which a failed commit changes too, and whether
it was accepted. -/
def commitDurableCapture (captureId : String) (artifact : DurableArtifact) :
    InMemoryLedger × Except LedgerError Unit :=
  match m.intents.get? captureId with
  | none => (m, .error (.error ("Capture intent not found: " ++ captureId)))
  | some intent =>
      let identity := do
        check (artifact.captureId = captureId)
          (.error "Artifact identity does not match its capture intent")
        assertArtifactIdentity artifact
      match identity with
      | .error e => (m, .error e)
      | .ok () =>
          match m.artifacts.get? captureId with
          | some existing =>
              (m, check (sameFile existing artifact)
                (.error ("Conflicting durable artifact identity: " ++ captureId)))
          | none =>
              if m.failNextCommit then
                ({ m with failNextCommit := false },
                  .error (.error "Injected SQLite transaction failure"))
              else
                let next : InMemoryLedger := { m with
                  artifacts := m.artifacts.put artifact
                  queue := m.queue.put (uploadItem artifact)
                  intents := m.intents.put { intent with state := .durable } }
                ((next.appendEvent captureId .artifact_committed none).appendEvent captureId
                  .queue_enqueued none, .ok ())

def applyQueueEvent (captureId : String) (event : QueueEvent) :
    Except LedgerError InMemoryLedger :=
  match m.queue.get? captureId with
  | none => .error (.error ("Capture queue item not found: " ++ captureId))
  | some item => do
      let state ← transitionQueueState item.state event
      return { m with queue := m.queue.put { item with state := state } }.appendEvent captureId
        .queue_state_changed (some event.text)

def markIntent (captureId : String) (state : CaptureIntentState) (failureCode : Option String) :
    Except LedgerError InMemoryLedger :=
  match m.intents.get? captureId with
  | none => .error (.error ("Capture intent not found: " ++ captureId))
  | some intent =>
      -- an absent `failureCode` deletes the code of `intent`
      .ok ({ m with
        intents := m.intents.put
          { intent with state := state, failureCode := failureCode } }.appendEvent captureId
            .capture_intent_state_changed failureCode)

def recordManualNote (note : ManualNote) : Except LedgerError InMemoryLedger := do
  check (Js.trim note.text ≠ "") (.error "Manual note text is required")
  check (m.manualNotes.get? note.noteId = none)
    (.error ("Manual note identity already exists: " ++ note.noteId))
  let next : InMemoryLedger := { m with
    manualNotes := m.manualNotes.put note
    queue := m.queue.put (noteItem note) }
  return (next.appendEvent note.noteId .manual_note_recorded none).appendEvent note.noteId
    .queue_enqueued none

def recordPerformanceSample (sample : CapturePerformanceSample) :
    Except LedgerError InMemoryLedger := do
  check (SQLiteLedger.validLatency sample.interactionLatencyMs ∧
      SQLiteLedger.validLatency sample.localDurableSaveMs)
    (.error "Capture performance sample must contain finite non-negative latency")
  check (m.performanceSamples.get? sample.captureId = none)
    (.error ("Capture performance sample already exists: " ++ sample.captureId))
  return { m with performanceSamples := m.performanceSamples.put sample }

def saveFieldSession (snapshot : FieldSessionSnapshot) : Except LedgerError InMemoryLedger := do
  check (1 ≤ snapshot.nextSequence ∧ Js.isSafeInteger snapshot.nextSequence = true)
    (.error "Field session next sequence must be a positive integer")
  let currentWorkflow := SQLiteLedger.workflowOf m.fieldSession
  let nextWorkflow := snapshot.workflow
  check (¬ (currentWorkflow ≠ none ∧ nextWorkflow = none))
    (.error "A protected field workflow cannot be removed")
  check (∀ current ∈ currentWorkflow, ∀ next ∈ nextWorkflow,
      ¬ (next.revision < current.revision ∨
        (current.revision < next.revision ∧ next.revision ≠ current.revision + 1) ∨
        (next.revision = current.revision ∧ next ≠ current)))
    (.error "Field workflow transitions must append exactly one immutable revision")
  return { m with fieldSession := some snapshot }

/-- The ledger after a call that leaves it as it is where it throws. -/
def outcome (r : Except LedgerError InMemoryLedger) : InMemoryLedger × Except LedgerError Unit :=
  match r with
  | .ok next => (next, .ok ())
  | .error e => (m, .error e)

/-- The ledger after a call, and whether the call was accepted. -/
def exec : LedgerCall → InMemoryLedger × Except LedgerError Unit
  | .beginIntent intent => m.outcome (m.beginIntent intent)
  | .commitDurableCapture captureId artifact => m.commitDurableCapture captureId artifact
  | .applyQueueEvent captureId event => m.outcome (m.applyQueueEvent captureId event)
  | .markIntent captureId state failureCode => m.outcome (m.markIntent captureId state failureCode)
  | .recordManualNote note => m.outcome (m.recordManualNote note)
  | .recordPerformanceSample sample => m.outcome (m.recordPerformanceSample sample)
  | .saveFieldSession snapshot => m.outcome (m.saveFieldSession snapshot)

end InMemoryLedger

end InspectionHub.Capture
