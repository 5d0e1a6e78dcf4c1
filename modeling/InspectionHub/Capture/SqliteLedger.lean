import InspectionHub.Capture.Types

/-!
# The SQLite capture ledger

`apps/mobile/src/storage/sqlite-capture-ledger.ts`, with the parser of
`field-workflow.ts`. A ledger is a database and the maps in memory that answer
every read. An operation checks its arguments against the maps, writes in one
transaction and then writes the maps; `hydrate` fills the maps of a fresh
ledger. A column that holds JSON text is modelled by the value it was made
from.
-/

namespace InspectionHub.Capture

open Domain (bind_ok bind_of)

/-! ## Tables -/

structure FieldWorkflowEvent where
  jobId : String
  revision : ℚ
  transitionType : WorkflowTransition
  recordedAt : String
  workflow : FieldWorkflowSnapshot
deriving DecidableEq

structure Database where
  captureIntents : Table String CaptureIntent (·.captureId)
  captureArtifacts : Table String DurableArtifact (·.captureId)
  captureAcknowledgements : List String
  captureQueue : Table String CaptureQueueItem (·.captureId)
  manualNotes : Table String ManualNote (·.noteId)
  localCaptureEvents : List LocalCaptureEvent
  capturePerformanceSamples : Table String CapturePerformanceSample (·.captureId)
  fieldSession : Option FieldSessionSnapshot
  fieldWorkflowEvents : List FieldWorkflowEvent

/-- The tables as the schema creates them. -/
def Database.empty : Database :=
  ⟨.empty, .empty, [], .empty, .empty, [], .empty, none, []⟩

/-- `length(text)`: the characters before the first NUL. -/
def sqlLength (text : String) : Nat := (text.toList.takeWhile (· ≠ '\x00')).length

/-- `trim(text)` strips spaces only. -/
def sqlTrim (text : String) : String :=
  String.ofList ((text.toList.dropWhile (· = ' ')).reverse.dropWhile (· = ' ')).reverse

namespace Database

/-- `INSERT INTO capture_intents`. -/
def insertIntent (db : Database) (intent : CaptureIntent) : Except LedgerError Database := do
  check (db.captureIntents.get? intent.captureId = none)
    (.constraint "capture_intents.capture_id")
  check (∀ row ∈ db.captureIntents.values, ¬ (row.jobId = intent.jobId ∧
      row.deviceId = intent.deviceId ∧ row.sequence = intent.sequence))
    (.constraint "capture_intents.job_id, capture_intents.device_id, capture_intents.sequence")
  check (0 < intent.sequence) (.constraint "sequence > 0")
  return { db with captureIntents := db.captureIntents.put intent }

/-- `UPDATE capture_intents SET state, failure_code`. -/
def updateIntent (db : Database) (captureId : String) (state : CaptureIntentState)
    (failureCode : Option String) : Database :=
  match db.captureIntents.get? captureId with
  | some row =>
      { db with
        captureIntents := db.captureIntents.put
          { row with state := state, failureCode := failureCode } }
  | none => db

/-- `INSERT INTO capture_artifacts`. -/
def insertArtifact (db : Database) (artifact : DurableArtifact) : Except LedgerError Database := do
  check (db.captureArtifacts.get? artifact.captureId = none)
    (.constraint "capture_artifacts.capture_id")
  check ((db.captureIntents.get? artifact.captureId).isSome) (.constraint "FOREIGN KEY")
  check (∀ row ∈ db.captureArtifacts.values, row.fileUri ≠ artifact.fileUri)
    (.constraint "capture_artifacts.file_uri")
  check (sqlLength artifact.sha256 = 64) (.constraint "length(sha256) = 64")
  check (0 < artifact.byteLength) (.constraint "byte_length > 0")
  check (artifact.directorySync = .synced) (.constraint "directory_sync = 'synced'")
  return { db with captureArtifacts := db.captureArtifacts.put artifact }

/-- `INSERT OR IGNORE INTO capture_acknowledgements`. -/
def insertAcknowledgement (db : Database) (captureId : String) : Except LedgerError Database := do
  check ((db.captureIntents.get? captureId).isSome) (.constraint "FOREIGN KEY")
  let captureAcknowledgements :=
    if captureId ∈ db.captureAcknowledgements then db.captureAcknowledgements
    else db.captureAcknowledgements ++ [captureId]
  return { db with captureAcknowledgements := captureAcknowledgements }

/-- `INSERT INTO capture_queue`. -/
def insertQueue (db : Database) (item : CaptureQueueItem) : Except LedgerError Database := do
  check (db.captureQueue.get? item.captureId = none) (.constraint "capture_queue.capture_id")
  return { db with captureQueue := db.captureQueue.put item }

/-- `UPDATE capture_queue SET state`. -/
def updateQueue (db : Database) (captureId : String) (state : CaptureQueueState) : Database :=
  match db.captureQueue.get? captureId with
  | some row => { db with captureQueue := db.captureQueue.put { row with state := state } }
  | none => db

/-- `INSERT INTO manual_notes`. -/
def insertNote (db : Database) (note : ManualNote) : Except LedgerError Database := do
  check (db.manualNotes.get? note.noteId = none) (.constraint "manual_notes.note_id")
  check (0 < sqlLength (sqlTrim note.text)) (.constraint "length(trim(note_text)) > 0")
  return { db with manualNotes := db.manualNotes.put note }

/-- `INSERT INTO capture_performance_samples`. -/
def insertSample (db : Database) (sample : CapturePerformanceSample) :
    Except LedgerError Database := do
  check (db.capturePerformanceSamples.get? sample.captureId = none)
    (.constraint "capture_performance_samples.capture_id")
  check ((db.captureIntents.get? sample.captureId).isSome) (.constraint "FOREIGN KEY")
  return { db with capturePerformanceSamples := db.capturePerformanceSamples.put sample }

/-- `INSERT INTO field_workflow_events`. -/
def insertWorkflowEvent (db : Database) (event : FieldWorkflowEvent) :
    Except LedgerError Database := do
  check (∀ row ∈ db.fieldWorkflowEvents, ¬ (row.jobId = event.jobId ∧
      row.revision = event.revision))
    (.constraint "field_workflow_events.job_id, field_workflow_events.revision")
  check (0 < event.revision) (.constraint "revision > 0")
  return { db with fieldWorkflowEvents := db.fieldWorkflowEvents ++ [event] }

/-- `COALESCE(MAX(ordinal), 0) + 1`. -/
def nextOrdinal (db : Database) : Nat := (db.localCaptureEvents.map (·.ordinal)).foldl max 0 + 1

/-- `#appendEvent(transaction, event)`. -/
def appendEvent (db : Database) (captureId : String) (type : LocalCaptureEventType)
    (code : Option String) : LocalCaptureEvent × Database :=
  let event : LocalCaptureEvent := { captureId, code, ordinal := db.nextOrdinal, type }
  (event, { db with localCaptureEvents := db.localCaptureEvents ++ [event] })

end Database

/-- `withExclusiveTransactionAsync(task)`: a task that throws is rolled back, as
it is where the storage `fails`. -/
def transaction {α : Type} (fails : Bool) (task : Except LedgerError α) : Except LedgerError α :=
  if fails then .error .storage else task

/-! ## Reading a field session back -/

/-- What `parseFieldWorkflow` asks of a workflow beyond the types of its fields. -/
structure ValidWorkflow (host : Js.Host) (workflow : FieldWorkflowSnapshot) : Prop where
  approvedModules : workflow.approvedModules.Nodup
  reviewItems : ∀ item ∈ workflow.reviewItems, item.reviewId ≠ "" ∧ item.investigationId ≠ ""
  revision : Js.isSafeInteger workflow.revision = true ∧ 1 ≤ workflow.revision
  updatedAt : (host.dateParse workflow.updatedAt).isSome = true
  packageManifestSha256 : ∀ sha ∈ workflow.packageManifestSha256, Js.isHexDigest sha = true

instance (host : Js.Host) (workflow : FieldWorkflowSnapshot) :
    Decidable (ValidWorkflow host workflow) :=
  decidable_of_iff
    (workflow.approvedModules.Nodup ∧
      (∀ item ∈ workflow.reviewItems, item.reviewId ≠ "" ∧ item.investigationId ≠ "") ∧
      (Js.isSafeInteger workflow.revision = true ∧ 1 ≤ workflow.revision) ∧
      (host.dateParse workflow.updatedAt).isSome = true ∧
      ∀ sha ∈ workflow.packageManifestSha256, Js.isHexDigest sha = true)
    ⟨fun ⟨h₁, h₂, h₃, h₄, h₅⟩ => ⟨h₁, h₂, h₃, h₄, h₅⟩, fun ⟨h₁, h₂, h₃, h₄, h₅⟩ =>
      ⟨h₁, h₂, h₃, h₄, h₅⟩⟩

def parseFieldWorkflow (host : Js.Host) (workflow : FieldWorkflowSnapshot) :
    Except LedgerError FieldWorkflowSnapshot := do
  check (ValidWorkflow host workflow) (.error "Stored field workflow is invalid")
  return workflow

def parseSession (host : Js.Host) (session : FieldSessionSnapshot) :
    Except LedgerError FieldSessionSnapshot := do
  check (Js.isSafeInteger session.nextSequence = true)
    (.error "Stored field session is invalid")
  match session.workflow with
  | none => return session
  | some workflow => do
      let workflow ← parseFieldWorkflow host workflow
      return { session with workflow := some workflow }

/-! ## Hydration -/

/-- The maps and lists of a ledger. -/
structure Memory where
  artifacts : Table String DurableArtifact (·.captureId)
  events : List LocalCaptureEvent
  intents : Table String CaptureIntent (·.captureId)
  performanceSamples : Table String CapturePerformanceSample (·.captureId)
  queue : Table String CaptureQueueItem (·.captureId)
  fieldSession : Option FieldSessionSnapshot

def Memory.empty : Memory := ⟨.empty, [], .empty, .empty, .empty, none⟩

/-- The intent a row is read back as. -/
def readIntent (acknowledged : List String) (row : CaptureIntent) : CaptureIntent :=
  { row with state := if row.captureId ∈ acknowledged then .acknowledged else row.state }

/-- `ORDER BY key`. -/
def orderBy {α : Type} (key : α → String) (rows : List α) : List α :=
  rows.mergeSort fun a b => key a ≤ key b

/-- `ORDER BY job_id, revision`. -/
def orderWorkflowEvents (rows : List FieldWorkflowEvent) : List FieldWorkflowEvent :=
  rows.mergeSort fun a b => a.jobId < b.jobId || (a.jobId = b.jobId && a.revision ≤ b.revision)

/-- The session read back, checked against the head of its job's events. -/
def hydrateSession (host : Js.Host) (db : Database) :
    Except LedgerError (Option FieldSessionSnapshot) :=
  match db.fieldSession with
  | none => .ok none
  | some stored => do
      let session ← parseSession host stored
      match ((orderWorkflowEvents db.fieldWorkflowEvents).filter
          fun event => event.jobId = session.jobId).getLast? with
      | none => return some session
      | some latestEvent => do
          let eventWorkflow ← parseFieldWorkflow host latestEvent.workflow
          check (∃ workflow, session.workflow = some workflow ∧
              latestEvent.revision = workflow.revision ∧
              latestEvent.transitionType = workflow.lastTransition ∧ eventWorkflow = workflow)
            (.error "Stored field workflow does not match its append-only event head")
          return some session

def hydrate (host : Js.Host) (db : Database) : Except LedgerError Memory := do
  let fieldSession ← hydrateSession host db
  return {
    artifacts := (orderBy (·.captureId) db.captureArtifacts.values).foldl Table.put .empty
    events := db.localCaptureEvents.mergeSort fun a b => a.ordinal ≤ b.ordinal
    intents := ((orderBy (·.captureId) db.captureIntents.values).map
      (readIntent db.captureAcknowledgements)).foldl Table.put .empty
    performanceSamples :=
      (orderBy (·.recordedAt) (orderBy (·.captureId) db.capturePerformanceSamples.values)).foldl
        Table.put .empty
    queue := (orderBy (·.captureId) db.captureQueue.values).foldl Table.put .empty
    fieldSession := fieldSession }

/-! ## Operations -/

structure SQLiteLedger where
  database : Database
  memory : Memory

/-- A fresh ledger on a fresh database. -/
def SQLiteLedger.empty : SQLiteLedger := ⟨.empty, .empty⟩

/-- What `assertArtifact` asks. -/
def ValidArtifact (artifact : DurableArtifact) : Prop :=
  artifact.directorySync = .synced ∧ 0 < artifact.byteLength ∧
    Js.isHexDigest artifact.sha256 = true ∧ Js.startsWith artifact.fileUri "file://" = true

instance (artifact : DurableArtifact) : Decidable (ValidArtifact artifact) :=
  inferInstanceAs (Decidable (_ ∧ _))

def assertArtifact (artifact : DurableArtifact) : Except LedgerError Unit :=
  check (ValidArtifact artifact) (.error "Durable artifact identity is invalid")

/-- The queue item of an artifact. -/
def uploadItem (artifact : DurableArtifact) : CaptureQueueItem where
  captureId := artifact.captureId
  lane := artifact.queueLane.lane
  state := .pending

/-- The queue item of a note. -/
def noteItem (note : ManualNote) : CaptureQueueItem where
  captureId := note.noteId
  lane := .manual_note_sync
  state := .pending

namespace SQLiteLedger

variable (l : SQLiteLedger) (fails : Bool)

def beginIntent (intent : CaptureIntent) : Except LedgerError SQLiteLedger := do
  check (l.memory.intents.get? intent.captureId = none)
    (.error ("Capture identity already reserved: " ++ intent.captureId))
  let (event, database) ← transaction fails do
    let db ← l.database.insertIntent intent
    return db.appendEvent intent.captureId .capture_intent_reserved none
  return {
    database := database
    memory := { l.memory with
      intents := l.memory.intents.put intent
      events := l.memory.events ++ [event] } }

def commitDurableCapture (captureId : String) (artifact : DurableArtifact) :
    Except LedgerError SQLiteLedger :=
  match l.memory.intents.get? captureId with
  | none => .error (.error ("Capture intent not found: " ++ captureId))
  | some intent => do
      check (artifact.captureId = captureId)
        (.error "Artifact identity does not match its capture intent")
      assertArtifact artifact
      match l.memory.artifacts.get? captureId with
      | some existing => do
          check (existing = artifact)
            (.error ("Conflicting durable artifact identity: " ++ captureId))
          return l
      | none => do
          let (committed, enqueued, database) ← transaction fails do
            let db ← l.database.insertArtifact artifact
            let db ← db.insertQueue (uploadItem artifact)
            let (committed, db) :=
              (db.updateIntent captureId .durable none).appendEvent captureId
                .artifact_committed none
            let (enqueued, db) := db.appendEvent captureId .queue_enqueued none
            return (committed, enqueued, db)
          return {
            database := database
            memory := { l.memory with
              artifacts := l.memory.artifacts.put artifact
              queue := l.memory.queue.put (uploadItem artifact)
              intents := l.memory.intents.put { intent with state := .durable }
              events := l.memory.events ++ [committed, enqueued] } }

/-- What `applyQueueEvent` computes before its transaction: the item it read
and the state to write. -/
def readQueueEvent (memory : Memory) (captureId : String) (event : QueueEvent) :
    Except LedgerError (CaptureQueueItem × CaptureQueueState) :=
  match memory.queue.get? captureId with
  | none => .error (.error ("Capture queue item not found: " ++ captureId))
  | some current => do
      let state ← transitionQueueState current.state event
      return (current, state)

/-- The transaction of `applyQueueEvent`. -/
def commitQueueEvent (db : Database) (captureId : String) (event : QueueEvent)
    (state : CaptureQueueState) : LocalCaptureEvent × Database :=
  (db.updateQueue captureId state).appendEvent captureId .queue_state_changed (some event.text)

/-- What `applyQueueEvent` writes to the maps after its transaction. -/
def publishQueueEvent (memory : Memory) (current : CaptureQueueItem)
    (state : CaptureQueueState) (appended : LocalCaptureEvent) : Memory :=
  { memory with
    queue := memory.queue.put { current with state := state }
    events := memory.events ++ [appended] }

def applyQueueEvent (captureId : String) (event : QueueEvent) :
    Except LedgerError SQLiteLedger := do
  let (current, state) ← readQueueEvent l.memory captureId event
  let (appended, database) ← transaction fails
    (.ok (commitQueueEvent l.database captureId event state))
  return { database, memory := publishQueueEvent l.memory current state appended }

def markIntent (captureId : String) (state : CaptureIntentState) (failureCode : Option String) :
    Except LedgerError SQLiteLedger :=
  match l.memory.intents.get? captureId with
  | none => .error (.error ("Capture intent not found: " ++ captureId))
  | some current => do
      let (appended, database) ← transaction fails do
        let db ←
          if state = .acknowledged then l.database.insertAcknowledgement captureId
          else .ok (l.database.updateIntent captureId state failureCode)
        return db.appendEvent captureId .capture_intent_state_changed failureCode
      return {
        database := database
        memory := { l.memory with
          -- an absent `failureCode` leaves the code of `current` where it is
          intents := l.memory.intents.put
            { current with state := state, failureCode := failureCode.or current.failureCode }
          events := l.memory.events ++ [appended] } }

def recordManualNote (note : ManualNote) : Except LedgerError SQLiteLedger := do
  check (Js.trim note.text ≠ "") (.error "Manual note text is required")
  let (recorded, enqueued, database) ← transaction fails do
    let db ← l.database.insertNote note
    let db ← db.insertQueue (noteItem note)
    let (recorded, db) := db.appendEvent note.noteId .manual_note_recorded none
    let (enqueued, db) := db.appendEvent note.noteId .queue_enqueued none
    return (recorded, enqueued, db)
  return {
    database := database
    memory := { l.memory with
      queue := l.memory.queue.put (noteItem note)
      events := l.memory.events ++ [recorded, enqueued] } }

/-- A latency that is finite and not negative. -/
def validLatency (latency : Option ℚ) : Prop := ∃ ms, latency = some ms ∧ 0 ≤ ms

instance (latency : Option ℚ) : Decidable (validLatency latency) :=
  match latency with
  | none => isFalse nofun
  | some ms => decidable_of_iff (0 ≤ ms) (by simp [validLatency])

def recordPerformanceSample (sample : CapturePerformanceSample) :
    Except LedgerError SQLiteLedger := do
  check (validLatency sample.interactionLatencyMs ∧ validLatency sample.localDurableSaveMs)
    (.error "Capture performance sample must contain finite non-negative latency")
  check (l.memory.performanceSamples.get? sample.captureId = none)
    (.error ("Capture performance sample already exists: " ++ sample.captureId))
  let database ← transaction fails (l.database.insertSample sample)
  return {
    database := database
    memory := { l.memory with performanceSamples := l.memory.performanceSamples.put sample } }

/-- The workflow of a session, if there is a session. -/
def workflowOf (session : Option FieldSessionSnapshot) : Option FieldWorkflowSnapshot :=
  session.bind (·.workflow)

/-- `nextWorkflow !== undefined && currentWorkflow?.revision !== nextWorkflow.revision`. -/
def workflowChanged (currentWorkflow nextWorkflow : Option FieldWorkflowSnapshot) : Prop :=
  nextWorkflow ≠ none ∧ currentWorkflow.map (·.revision) ≠ nextWorkflow.map (·.revision)

instance (currentWorkflow nextWorkflow : Option FieldWorkflowSnapshot) :
    Decidable (workflowChanged currentWorkflow nextWorkflow) :=
  inferInstanceAs (Decidable (_ ∧ _))

/-- The row `saveFieldSession` appends for a changed workflow. -/
def workflowEvent (jobId : String) (workflow : FieldWorkflowSnapshot) : FieldWorkflowEvent where
  jobId := jobId
  revision := workflow.revision
  transitionType := workflow.lastTransition
  recordedAt := workflow.updatedAt
  workflow := workflow

def saveFieldSession (snapshot : FieldSessionSnapshot) : Except LedgerError SQLiteLedger := do
  check (1 ≤ snapshot.nextSequence ∧ Js.isSafeInteger snapshot.nextSequence = true)
    (.error "Field session next sequence must be a positive integer")
  let currentWorkflow := workflowOf l.memory.fieldSession
  let nextWorkflow := snapshot.workflow
  check (¬ (currentWorkflow ≠ none ∧ nextWorkflow = none))
    (.error "A protected field workflow cannot be removed")
  check (∀ current ∈ currentWorkflow, ∀ next ∈ nextWorkflow,
      if workflowChanged currentWorkflow nextWorkflow then next.revision = current.revision + 1
      else next = current)
    (.error "Field workflow transitions must append exactly one immutable revision")
  let database ← transaction fails do
    let db := { l.database with fieldSession := some snapshot }
    match nextWorkflow with
    | some next =>
        if workflowChanged currentWorkflow nextWorkflow then
          db.insertWorkflowEvent (workflowEvent snapshot.jobId next)
        else .ok db
    | none => .ok db
  return { database, memory := { l.memory with fieldSession := some snapshot } }

end SQLiteLedger

/-- A call of a ledger's interface. -/
inductive LedgerCall where
  | beginIntent (intent : CaptureIntent)
  | commitDurableCapture (captureId : String) (artifact : DurableArtifact)
  | applyQueueEvent (captureId : String) (event : QueueEvent)
  | markIntent (captureId : String) (state : CaptureIntentState) (failureCode : Option String)
  | recordManualNote (note : ManualNote)
  | recordPerformanceSample (sample : CapturePerformanceSample)
  | saveFieldSession (snapshot : FieldSessionSnapshot)

def SQLiteLedger.exec (l : SQLiteLedger) (fails : Bool) :
    LedgerCall → Except LedgerError SQLiteLedger
  | .beginIntent intent => l.beginIntent fails intent
  | .commitDurableCapture captureId artifact => l.commitDurableCapture fails captureId artifact
  | .applyQueueEvent captureId event => l.applyQueueEvent fails captureId event
  | .markIntent captureId state failureCode => l.markIntent fails captureId state failureCode
  | .recordManualNote note => l.recordManualNote fails note
  | .recordPerformanceSample sample => l.recordPerformanceSample fails sample
  | .saveFieldSession snapshot => l.saveFieldSession fails snapshot

end InspectionHub.Capture
