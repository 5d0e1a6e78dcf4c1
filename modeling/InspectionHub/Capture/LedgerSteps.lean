import InspectionHub.Capture.SqliteLedger
import InspectionHub.Lib.Numbered

/-!
# What one operation of the SQLite ledger does

One lemma per operation tells everything an accepted call passed and the
ledger it leaves. From these follows what database and memory agree on after
every run, whatever the calls: all but the state and the failure code of
intents, which the two write differently.
-/

namespace InspectionHub.Capture

open Domain (bind_ok)

variable {host : Js.Host} {l l' : SQLiteLedger} {fails : Bool} {db db' : Database}

theorem transaction_ok {α : Type} {task : Except LedgerError α} {a : α}
    (h : transaction fails task = .ok a) : fails = false ∧ task = .ok a := by
  cases fails with
  | true => cases h
  | false => exact ⟨rfl, h⟩

/-! ## Statements -/

/-- Inserting a row that no constraint excludes. -/
structure Insertable (db : Database) (intent : CaptureIntent) : Prop where
  fresh : db.captureIntents.get? intent.captureId = none
  unique : ∀ row ∈ db.captureIntents.values, ¬ (row.jobId = intent.jobId ∧
    row.deviceId = intent.deviceId ∧ row.sequence = intent.sequence)
  positive : 0 < intent.sequence

variable {intent : CaptureIntent}

theorem insertIntent_ok (h : db.insertIntent intent = .ok db') :
    Insertable db intent ∧ db' = { db with captureIntents := db.captureIntents.put intent } := by
  unfold Database.insertIntent at h
  obtain ⟨_, hfresh, h⟩ := bind_ok h
  obtain ⟨_, hunique, h⟩ := bind_ok h
  obtain ⟨_, hpositive, h⟩ := bind_ok h
  cases h
  exact ⟨⟨check_ok hfresh, check_ok hunique, check_ok hpositive⟩, rfl⟩

variable {artifact : DurableArtifact}

theorem insertArtifact_ok (h : db.insertArtifact artifact = .ok db') :
    db.captureArtifacts.get? artifact.captureId = none ∧
      (∀ row ∈ db.captureArtifacts.values, row.fileUri ≠ artifact.fileUri) ∧
      db' = { db with captureArtifacts := db.captureArtifacts.put artifact } := by
  unfold Database.insertArtifact at h
  obtain ⟨_, hfresh, h⟩ := bind_ok h
  obtain ⟨_, -, h⟩ := bind_ok h
  obtain ⟨_, hunique, h⟩ := bind_ok h
  obtain ⟨_, -, h⟩ := bind_ok h
  obtain ⟨_, -, h⟩ := bind_ok h
  obtain ⟨_, -, h⟩ := bind_ok h
  cases h
  exact ⟨check_ok hfresh, check_ok hunique, rfl⟩

theorem insertQueue_ok {item : CaptureQueueItem} (h : db.insertQueue item = .ok db') :
    db.captureQueue.get? item.captureId = none ∧
      db' = { db with captureQueue := db.captureQueue.put item } := by
  unfold Database.insertQueue at h
  obtain ⟨_, hfresh, h⟩ := bind_ok h
  cases h
  exact ⟨check_ok hfresh, rfl⟩

/-- The acknowledgements with one more. -/
def acknowledge (acknowledged : List String) (captureId : String) : List String :=
  if captureId ∈ acknowledged then acknowledged else acknowledged ++ [captureId]

theorem mem_acknowledge {acknowledged : List String} {captureId id : String} :
    id ∈ acknowledge acknowledged captureId ↔ id = captureId ∨ id ∈ acknowledged := by
  unfold acknowledge
  split
  · next h =>
      constructor
      · exact .inr
      · rintro (rfl | hid)
        · exact h
        · exact hid
  · rw [List.mem_append, List.mem_singleton, or_comm]

variable {captureId : String}

theorem insertAcknowledgement_ok (h : db.insertAcknowledgement captureId = .ok db') :
    (db.captureIntents.get? captureId).isSome ∧
      db' = { db with
        captureAcknowledgements := acknowledge db.captureAcknowledgements captureId } := by
  unfold Database.insertAcknowledgement at h
  obtain ⟨_, hintent, h⟩ := bind_ok h
  cases h
  exact ⟨check_ok hintent, rfl⟩

variable {note : ManualNote}

theorem insertNote_ok (h : db.insertNote note = .ok db') :
    db.manualNotes.get? note.noteId = none ∧ 0 < sqlLength (sqlTrim note.text) ∧
      db' = { db with manualNotes := db.manualNotes.put note } := by
  unfold Database.insertNote at h
  obtain ⟨_, hfresh, h⟩ := bind_ok h
  obtain ⟨_, htext, h⟩ := bind_ok h
  cases h
  exact ⟨check_ok hfresh, check_ok htext, rfl⟩

variable {sample : CapturePerformanceSample}

theorem insertSample_ok (h : db.insertSample sample = .ok db') :
    db.capturePerformanceSamples.get? sample.captureId = none ∧
      (db.captureIntents.get? sample.captureId).isSome ∧
      db' = { db with
        capturePerformanceSamples := db.capturePerformanceSamples.put sample } := by
  unfold Database.insertSample at h
  obtain ⟨_, hfresh, h⟩ := bind_ok h
  obtain ⟨_, hintent, h⟩ := bind_ok h
  cases h
  exact ⟨check_ok hfresh, check_ok hintent, rfl⟩

theorem insertWorkflowEvent_ok {event : FieldWorkflowEvent}
    (h : db.insertWorkflowEvent event = .ok db') :
    0 < event.revision ∧
      db' = { db with fieldWorkflowEvents := db.fieldWorkflowEvents ++ [event] } := by
  unfold Database.insertWorkflowEvent at h
  obtain ⟨_, -, h⟩ := bind_ok h
  obtain ⟨_, hpositive, h⟩ := bind_ok h
  cases h
  exact ⟨check_ok hpositive, rfl⟩

/-! ## Numbering the events -/

/-- Numbers 1 to `n`: the next one is `n + 1`. -/
theorem nextOrdinal_eq (h : Numbered (·.ordinal) db.localCaptureEvents) :
    db.nextOrdinal = db.localCaptureEvents.length + 1 := by
  have hmax : ∀ n a : Nat, (List.range' 1 n).foldl max a = max a n := by
    intro n a
    induction n with
    | zero => simp
    | succ n ih =>
        rw [List.range'_concat, List.foldl_append, ih]
        simp only [Nat.one_mul, List.foldl_cons, List.foldl_nil]
        omega
  rw [Database.nextOrdinal, h, hmax]
  omega

/-! ## Operations -/

/-- `db` with `events` appended to its log. -/
def Database.logged (db : Database) (events : List LocalCaptureEvent) : Database :=
  { db with localCaptureEvents := db.localCaptureEvents ++ events }

/-- The event that `appendEvent` makes. -/
def Database.event (db : Database) (captureId : String) (type : LocalCaptureEventType)
    (code : Option String) : LocalCaptureEvent :=
  { captureId, code, ordinal := db.nextOrdinal, type }

/-- The two events of a transaction that appends two. -/
def Database.events₂ (db : Database) (captureId : String) (first second : LocalCaptureEventType) :
    List LocalCaptureEvent :=
  [db.event captureId first none,
    (db.logged [db.event captureId first none]).event captureId second none]

theorem beginIntent_ok (h : l.beginIntent fails intent = .ok l') :
    l.memory.intents.get? intent.captureId = none ∧ Insertable l.database intent ∧
      l' = ⟨{ l.database with captureIntents := l.database.captureIntents.put intent }.logged
            [l.database.event intent.captureId .capture_intent_reserved none],
          { l.memory with
            intents := l.memory.intents.put intent
            events := l.memory.events ++
              [l.database.event intent.captureId .capture_intent_reserved none] }⟩ := by
  unfold SQLiteLedger.beginIntent at h
  obtain ⟨_, hfresh, h⟩ := bind_ok h
  obtain ⟨_, htask, h⟩ := bind_ok h
  obtain ⟨db, hinsert, htask⟩ := bind_ok (transaction_ok htask).2
  obtain ⟨hinsertable, rfl⟩ := insertIntent_ok hinsert
  cases htask
  cases h
  exact ⟨check_ok hfresh, hinsertable, rfl⟩

/-- The ledger after a first commit of an artifact. -/
def committed (l : SQLiteLedger) (intent : CaptureIntent) (artifact : DurableArtifact) :
    SQLiteLedger :=
  let db := { l.database with
    captureArtifacts := l.database.captureArtifacts.put artifact
    captureQueue := l.database.captureQueue.put (uploadItem artifact) }
  let events := l.database.events₂ artifact.captureId .artifact_committed .queue_enqueued
  ⟨(db.updateIntent artifact.captureId .durable none).logged events,
    { l.memory with
      artifacts := l.memory.artifacts.put artifact
      queue := l.memory.queue.put (uploadItem artifact)
      intents := l.memory.intents.put { intent with state := .durable }
      events := l.memory.events ++ events }⟩

@[simp] theorem updateIntent_events (db : Database) (captureId : String)
    (state : CaptureIntentState) (code : Option String) :
    (db.updateIntent captureId state code).localCaptureEvents = db.localCaptureEvents := by
  unfold Database.updateIntent
  split <;> rfl

@[simp] theorem updateQueue_events (db : Database) (captureId : String)
    (state : CaptureQueueState) :
    (db.updateQueue captureId state).localCaptureEvents = db.localCaptureEvents := by
  unfold Database.updateQueue
  split <;> rfl

theorem commit_ok (h : l.commitDurableCapture fails captureId artifact = .ok l') :
    ∃ intent, l.memory.intents.get? captureId = some intent ∧ artifact.captureId = captureId ∧
      ValidArtifact artifact ∧
      (l.memory.artifacts.get? captureId = some artifact ∧ l' = l ∨
        l.memory.artifacts.get? captureId = none ∧
          (∀ row ∈ l.database.captureArtifacts.values, row.fileUri ≠ artifact.fileUri) ∧
          l.database.captureQueue.get? captureId = none ∧ l' = committed l intent artifact) := by
  unfold SQLiteLedger.commitDurableCapture at h
  split at h
  · cases h
  next intent hintent =>
  obtain ⟨_, hid, h⟩ := bind_ok h
  obtain rfl := check_ok hid
  obtain ⟨_, hvalid, h⟩ := bind_ok h
  refine ⟨intent, hintent, rfl, check_ok hvalid, ?_⟩
  split at h
  · next existing hexisting =>
      obtain ⟨_, hsame, hreturn⟩ := bind_ok h
      cases hreturn
      exact .inl ⟨check_ok hsame ▸ hexisting, rfl⟩
  · next hnone =>
      obtain ⟨_, htask, h⟩ := bind_ok h
      obtain ⟨db, hinsert, htask⟩ := bind_ok (transaction_ok htask).2
      obtain ⟨-, huri, rfl⟩ := insertArtifact_ok hinsert
      obtain ⟨db, hinsert, htask⟩ := bind_ok htask
      obtain ⟨hqueue, rfl⟩ := insertQueue_ok hinsert
      cases htask
      cases h
      refine .inr ⟨hnone, huri, hqueue, ?_⟩
      simp only [committed, Database.appendEvent, Database.events₂, Database.event,
        Database.logged, Database.nextOrdinal, updateIntent_events, List.append_assoc,
        List.singleton_append]

variable {event : QueueEvent}

theorem readQueueEvent_ok {memory : Memory} {current : CaptureQueueItem}
    {state : CaptureQueueState}
    (h : SQLiteLedger.readQueueEvent memory captureId event = .ok (current, state)) :
    memory.queue.get? captureId = some current ∧
      queueTransitions current.state event = some state := by
  unfold SQLiteLedger.readQueueEvent at h
  split at h
  · cases h
  next item hitem =>
  obtain ⟨next, hnext, h⟩ := bind_ok h
  cases h
  unfold transitionQueueState at hnext
  split at hnext
  · next htransition =>
      cases hnext
      exact ⟨hitem, htransition⟩
  · cases hnext

theorem applyQueueEvent_ok (h : l.applyQueueEvent fails captureId event = .ok l') :
    ∃ current state, l.memory.queue.get? captureId = some current ∧
      queueTransitions current.state event = some state ∧
      l' = ⟨(l.database.updateQueue captureId state).logged
          [l.database.event captureId .queue_state_changed (some event.text)],
        { l.memory with
          queue := l.memory.queue.put { current with state := state }
          events := l.memory.events ++
            [l.database.event captureId .queue_state_changed (some event.text)] }⟩ := by
  unfold SQLiteLedger.applyQueueEvent at h
  obtain ⟨⟨current, state⟩, hread, h⟩ := bind_ok h
  obtain ⟨hcurrent, htransition⟩ := readQueueEvent_ok hread
  obtain ⟨⟨appended, database⟩, htask, h⟩ := bind_ok h
  obtain ⟨-, htask⟩ := transaction_ok htask
  cases htask
  cases h
  refine ⟨current, state, hcurrent, htransition, ?_⟩
  simp only [SQLiteLedger.publishQueueEvent, Database.appendEvent, Database.event,
    Database.logged, Database.nextOrdinal, updateQueue_events]

/-- The database after the transaction of `markIntent`, but for its event. -/
def marked (db : Database) (captureId : String) (state : CaptureIntentState)
    (failureCode : Option String) : Database :=
  if state = .acknowledged then
    { db with captureAcknowledgements := acknowledge db.captureAcknowledgements captureId }
  else db.updateIntent captureId state failureCode

theorem markIntent_ok {state : CaptureIntentState} {failureCode : Option String}
    (h : l.markIntent fails captureId state failureCode = .ok l') :
    ∃ current, l.memory.intents.get? captureId = some current ∧
      (state = .acknowledged → (l.database.captureIntents.get? captureId).isSome) ∧
      l' = ⟨(marked l.database captureId state failureCode).logged
          [l.database.event captureId .capture_intent_state_changed failureCode],
        { l.memory with
          intents := l.memory.intents.put
            { current with state := state, failureCode := failureCode.or current.failureCode }
          events := l.memory.events ++
            [l.database.event captureId .capture_intent_state_changed failureCode] }⟩ := by
  unfold SQLiteLedger.markIntent at h
  split at h
  · cases h
  next current hcurrent =>
  obtain ⟨⟨appended, database⟩, htask, h⟩ := bind_ok h
  have htask := (transaction_ok htask).2
  cases h
  by_cases hstate : state = .acknowledged
  · simp only [if_pos hstate] at htask
    obtain ⟨db, hwrite, htask⟩ := bind_ok htask
    obtain ⟨hintent, rfl⟩ := insertAcknowledgement_ok hwrite
    cases htask
    refine ⟨current, hcurrent, fun _ => hintent, ?_⟩
    simp only [marked, if_pos hstate, Database.appendEvent, Database.event, Database.logged,
      Database.nextOrdinal]
  · simp only [if_neg hstate] at htask
    cases htask
    refine ⟨current, hcurrent, fun h => absurd h hstate, ?_⟩
    simp only [marked, if_neg hstate, Database.appendEvent, Database.event, Database.logged,
      Database.nextOrdinal, updateIntent_events]

theorem recordManualNote_ok (h : l.recordManualNote fails note = .ok l') :
    Js.trim note.text ≠ "" ∧ l.database.manualNotes.get? note.noteId = none ∧
      0 < sqlLength (sqlTrim note.text) ∧ l.database.captureQueue.get? note.noteId = none ∧
      l' = ⟨{ l.database with
            manualNotes := l.database.manualNotes.put note
            captureQueue := l.database.captureQueue.put (noteItem note) }.logged
          (l.database.events₂ note.noteId .manual_note_recorded .queue_enqueued),
        { l.memory with
          queue := l.memory.queue.put (noteItem note)
          events := l.memory.events ++
            l.database.events₂ note.noteId .manual_note_recorded .queue_enqueued }⟩ := by
  unfold SQLiteLedger.recordManualNote at h
  obtain ⟨_, htext, h⟩ := bind_ok h
  obtain ⟨_, htask, h⟩ := bind_ok h
  obtain ⟨db, hinsert, htask⟩ := bind_ok (transaction_ok htask).2
  obtain ⟨hnote, hsql, rfl⟩ := insertNote_ok hinsert
  obtain ⟨db, hinsert, htask⟩ := bind_ok htask
  obtain ⟨hqueue, rfl⟩ := insertQueue_ok hinsert
  cases htask
  cases h
  refine ⟨check_ok htext, hnote, hsql, hqueue, ?_⟩
  simp only [Database.events₂, Database.event, Database.logged, Database.nextOrdinal,
    List.append_assoc, List.singleton_append]

theorem recordPerformanceSample_ok (h : l.recordPerformanceSample fails sample = .ok l') :
    (SQLiteLedger.validLatency sample.interactionLatencyMs ∧
        SQLiteLedger.validLatency sample.localDurableSaveMs) ∧
      l.memory.performanceSamples.get? sample.captureId = none ∧
      (l.database.captureIntents.get? sample.captureId).isSome ∧
      l' = ⟨{ l.database with
          capturePerformanceSamples := l.database.capturePerformanceSamples.put sample },
        { l.memory with performanceSamples := l.memory.performanceSamples.put sample }⟩ := by
  unfold SQLiteLedger.recordPerformanceSample at h
  obtain ⟨_, hlatency, h⟩ := bind_ok h
  obtain ⟨_, hfresh, h⟩ := bind_ok h
  obtain ⟨db, hinsert, h⟩ := bind_ok h
  obtain ⟨-, hintent, rfl⟩ := insertSample_ok (transaction_ok hinsert).2
  cases h
  exact ⟨check_ok hlatency, check_ok hfresh, hintent, rfl⟩

/-- The workflow events a saved session appends. -/
def appendedWorkflow (current : Option FieldWorkflowSnapshot) (snapshot : FieldSessionSnapshot) :
    List FieldWorkflowEvent :=
  if SQLiteLedger.workflowChanged current snapshot.workflow then
    (snapshot.workflow.map (SQLiteLedger.workflowEvent snapshot.jobId)).toList
  else []

/-- What `saveFieldSession` asks of a snapshot. -/
structure Savable (current : Option FieldWorkflowSnapshot) (snapshot : FieldSessionSnapshot) :
    Prop where
  sequence : 1 ≤ snapshot.nextSequence ∧ Js.isSafeInteger snapshot.nextSequence = true
  kept : ¬ (current ≠ none ∧ snapshot.workflow = none)
  appended : ∀ workflow ∈ current, ∀ next ∈ snapshot.workflow,
    if SQLiteLedger.workflowChanged current snapshot.workflow then
      next.revision = workflow.revision + 1
    else next = workflow

variable {snapshot : FieldSessionSnapshot}

theorem saveFieldSession_ok (h : l.saveFieldSession fails snapshot = .ok l') :
    Savable (SQLiteLedger.workflowOf l.memory.fieldSession) snapshot ∧
      (∀ event ∈ appendedWorkflow (SQLiteLedger.workflowOf l.memory.fieldSession) snapshot,
        0 < event.revision) ∧
      l' = ⟨{ l.database with
          fieldSession := some snapshot
          fieldWorkflowEvents := l.database.fieldWorkflowEvents ++
            appendedWorkflow (SQLiteLedger.workflowOf l.memory.fieldSession) snapshot },
        { l.memory with fieldSession := some snapshot }⟩ := by
  unfold SQLiteLedger.saveFieldSession at h
  obtain ⟨_, hsequence, h⟩ := bind_ok h
  obtain ⟨_, hkept, h⟩ := bind_ok h
  obtain ⟨_, happended, h⟩ := bind_ok h
  obtain ⟨db, htask, h⟩ := bind_ok h
  obtain ⟨-, htask⟩ := transaction_ok htask
  cases h
  refine ⟨⟨check_ok hsequence, check_ok hkept, check_ok happended⟩, ?_⟩
  unfold appendedWorkflow
  cases hworkflow : snapshot.workflow with
  | none =>
      rw [hworkflow] at htask
      cases htask
      simp
  | some next =>
      rw [hworkflow] at htask
      dsimp only at htask
      split at htask
      · next hchanged =>
          obtain ⟨hpositive, rfl⟩ := insertWorkflowEvent_ok htask
          simpa [hchanged] using hpositive
      · next hchanged =>
          cases htask
          simp [hchanged]

/-! ## What database and memory agree on -/

/-- `UPDATE capture_intents` rewrites the row of its key. -/
theorem updateIntent_spec (db : Database) (captureId : String) (state : CaptureIntentState)
    (code : Option String) :
    ∃ t, db.updateIntent captureId state code = { db with captureIntents := t } ∧
      ∀ k, t.get? k =
        if k = captureId then
          (db.captureIntents.get? k).map fun row => { row with state := state, failureCode := code }
        else db.captureIntents.get? k := by
  unfold Database.updateIntent
  split
  · next row hrow =>
      refine ⟨_, rfl, fun k => ?_⟩
      have hid : row.captureId = captureId := Table.key_of_get? hrow
      rw [Table.get?_put, hid]
      split
      · next hk =>
          rw [hk, hrow, Option.map_some, hid]
      · rfl
  · next hnone =>
      refine ⟨_, rfl, fun k => ?_⟩
      split
      · next hk => rw [hk, hnone]; rfl
      · rfl

theorem updateQueue_spec (db : Database) (captureId : String) (state : CaptureQueueState) :
    ∃ t, db.updateQueue captureId state = { db with captureQueue := t } ∧
      ∀ k, t.get? k =
        if k = captureId then
          (db.captureQueue.get? k).map fun row => { row with state := state }
        else db.captureQueue.get? k := by
  unfold Database.updateQueue
  split
  · next row hrow =>
      refine ⟨_, rfl, fun k => ?_⟩
      have hid : row.captureId = captureId := Table.key_of_get? hrow
      rw [Table.get?_put, hid]
      split
      · next hk =>
          rw [hk, hrow, Option.map_some, hid]
      · rfl
  · next hnone =>
      refine ⟨_, rfl, fun k => ?_⟩
      split
      · next hk => rw [hk, hnone]; rfl
      · rfl

/-- An intent without the two fields that operations rewrite. -/
def CaptureIntent.identity (intent : CaptureIntent) : CaptureIntent :=
  { intent with state := .pending, failureCode := none }

/-- The workflow events lead up to the workflow of the session. -/
def WorkflowLog (db : Database) : Prop :=
  ∀ event ∈ db.fieldWorkflowEvents, ∃ workflow,
    SQLiteLedger.workflowOf db.fieldSession = some workflow ∧
      event.revision ≤ workflow.revision ∧
      (event.revision = workflow.revision →
        event = SQLiteLedger.workflowEvent event.jobId workflow)

/-- What holds of database and memory after every run. -/
structure Aligned (l : SQLiteLedger) : Prop where
  artifacts : ∀ k, l.memory.artifacts.get? k = l.database.captureArtifacts.get? k
  queue : ∀ k, l.memory.queue.get? k = l.database.captureQueue.get? k
  samples : ∀ k, l.memory.performanceSamples.get? k =
    l.database.capturePerformanceSamples.get? k
  events : l.memory.events = l.database.localCaptureEvents
  session : l.memory.fieldSession = l.database.fieldSession
  intents : ∀ k, (l.memory.intents.get? k).map CaptureIntent.identity =
    (l.database.captureIntents.get? k).map CaptureIntent.identity
  numbered : Numbered (·.ordinal) l.database.localCaptureEvents
  acknowledged : ∀ id ∈ l.database.captureAcknowledgements,
    (l.database.captureIntents.get? id).isSome
  sequence : ∀ session ∈ l.database.fieldSession, Js.isSafeInteger session.nextSequence = true
  positive : ∀ workflow ∈ SQLiteLedger.workflowOf l.database.fieldSession, 0 < workflow.revision
  workflowLog : WorkflowLog l.database

theorem aligned_empty : Aligned .empty where
  artifacts _ := rfl
  queue _ := rfl
  samples _ := rfl
  events := rfl
  session := rfl
  intents _ := rfl
  numbered := Numbered.nil _
  acknowledged _ h := absurd h List.not_mem_nil
  sequence _ h := absurd h (Option.not_mem_none _)
  positive _ h := absurd h (Option.not_mem_none _)
  workflowLog _ h := absurd h List.not_mem_nil

/-- An intent is reserved in memory when it has a row. -/
theorem Aligned.reserved_iff (h : Aligned l) (k : String) :
    (l.memory.intents.get? k).isSome ↔ (l.database.captureIntents.get? k).isSome := by
  have hk := congrArg Option.isSome (h.intents k)
  simpa using hk

theorem numbered_one (h : Numbered (·.ordinal) db.localCaptureEvents) (captureId : String)
    (type : LocalCaptureEventType) (code : Option String) :
    Numbered (·.ordinal) (db.logged [db.event captureId type code]).localCaptureEvents :=
  h.snoc (nextOrdinal_eq h)

theorem numbered_two (h : Numbered (·.ordinal) db.localCaptureEvents) (captureId : String)
    (first second : LocalCaptureEventType) :
    Numbered (·.ordinal) (db.logged (db.events₂ captureId first second)).localCaptureEvents := by
  have hone := numbered_one h captureId first none
  have htwo := numbered_one hone captureId second none
  simpa [Database.logged, Database.events₂] using htwo

/-- Putting the same row into two tables that agree. -/
theorem put_congr {κ υ : Type} [DecidableEq κ] {key : υ → κ} {t u : Table κ υ key}
    (h : ∀ k, t.get? k = u.get? k) (v : υ) (k : κ) : (t.put v).get? k = (u.put v).get? k := by
  rw [Table.get?_put, Table.get?_put, h]

theorem aligned_begin (ha : Aligned l) (h : l.beginIntent fails intent = .ok l') : Aligned l' := by
  obtain ⟨-, -, rfl⟩ := beginIntent_ok h
  exact { ha with
    events := congrArg (· ++ _) ha.events
    intents := by
      intro k
      show ((l.memory.intents.put intent).get? k).map _ =
        ((l.database.captureIntents.put intent).get? k).map _
      rw [Table.get?_put, Table.get?_put]
      split
      · rfl
      · exact ha.intents k
    numbered := numbered_one ha.numbered _ _ _
    acknowledged := by
      intro id hid
      show (Table.get? (l.database.captureIntents.put intent) id).isSome
      rw [Table.get?_put]
      split
      · rfl
      · exact ha.acknowledged id hid }

/-- Rewriting the state and the code of one row in both keeps the rest of it. -/
theorem identity_put {t u : Table String CaptureIntent (·.captureId)} {k : String}
    (row : CaptureIntent) (state : CaptureIntentState) (code : Option String)
    (h : ∀ k, (t.get? k).map CaptureIntent.identity = (u.get? k).map CaptureIntent.identity)
    (hintent : t.get? k = some intent) (hrow : row.identity = intent.identity) (k' : String) :
    ((t.put row).get? k').map CaptureIntent.identity =
      (if k' = k then (u.get? k').map fun r => { r with state := state, failureCode := code }
        else u.get? k').map CaptureIntent.identity := by
  have hid : row.captureId = k := by
    have hkey : intent.captureId = k := Table.key_of_get? hintent
    have hsame := congrArg CaptureIntent.captureId hrow
    rw [← hkey]
    exact hsame
  rw [Table.get?_put, hid]
  split
  · next hk =>
      subst hk
      have hk := h k'
      rw [hintent] at hk
      rw [Option.map_map, Option.map_some, hrow]
      exact hk
  · exact h k'

theorem aligned_commit (ha : Aligned l)
    (h : l.commitDurableCapture fails captureId artifact = .ok l') : Aligned l' := by
  obtain ⟨intent, hintent, rfl, -, ⟨-, rfl⟩ | ⟨-, -, -, rfl⟩⟩ := commit_ok h
  · exact ha
  obtain ⟨t, ht, hget⟩ := updateIntent_spec
    { l.database with
      captureArtifacts := l.database.captureArtifacts.put artifact
      captureQueue := l.database.captureQueue.put (uploadItem artifact) }
    artifact.captureId .durable none
  unfold committed
  dsimp only
  rw [ht]
  exact {
    artifacts := put_congr ha.artifacts artifact
    queue := put_congr ha.queue (uploadItem artifact)
    samples := ha.samples
    events := congrArg (· ++ _) ha.events
    session := ha.session
    intents := by
      intro k
      show _ = (t.get? k).map _
      rw [hget]
      exact identity_put { intent with state := .durable } _ _ ha.intents hintent rfl k
    numbered := numbered_two ha.numbered _ _ _
    acknowledged := by
      intro id hid
      show (t.get? id).isSome
      rw [hget]
      have hsome := ha.acknowledged id hid
      split
      · rw [Option.isSome_map]
        exact hsome
      · exact hsome
    sequence := ha.sequence
    positive := ha.positive
    workflowLog := ha.workflowLog }

theorem aligned_queueEvent (ha : Aligned l) (h : l.applyQueueEvent fails captureId event = .ok l') :
    Aligned l' := by
  obtain ⟨current, state, hcurrent, -, rfl⟩ := applyQueueEvent_ok h
  obtain ⟨t, ht, hget⟩ := updateQueue_spec l.database captureId state
  rw [ht]
  exact { ha with
    events := congrArg (· ++ _) ha.events
    queue := by
      intro k
      show ((l.memory.queue.put _).get? k) = t.get? k
      have hid : current.captureId = captureId := Table.key_of_get? hcurrent
      rw [hget, Table.get?_put, ← ha.queue, hid]
      split
      · next hk => rw [hk, hcurrent, Option.map_some, hid]
      · rfl
    numbered := numbered_one ha.numbered _ _ _ }

theorem aligned_mark {state : CaptureIntentState} {code : Option String} (ha : Aligned l)
    (h : l.markIntent fails captureId state code = .ok l') : Aligned l' := by
  obtain ⟨current, hcurrent, hintent, rfl⟩ := markIntent_ok h
  by_cases hstate : state = .acknowledged
  · rw [marked, if_pos hstate]
    exact { ha with
      events := congrArg (· ++ _) ha.events
      intents := by
        intro k
        have hput := identity_put
          { current with state := state, failureCode := code.or current.failureCode } state code
          ha.intents hcurrent rfl k
        refine hput.trans ?_
        split
        · rw [Option.map_map]
          rfl
        · rfl
      numbered := numbered_one ha.numbered _ _ _
      acknowledged := by
        intro id hid
        rcases mem_acknowledge.mp hid with rfl | hid
        · exact hintent hstate
        · exact ha.acknowledged id hid }
  · obtain ⟨t, ht, hget⟩ := updateIntent_spec l.database captureId state code
    rw [marked, if_neg hstate, ht]
    exact { ha with
      events := congrArg (· ++ _) ha.events
      intents := by
        intro k
        show _ = (t.get? k).map _
        rw [hget]
        exact identity_put
          { current with state := state, failureCode := code.or current.failureCode } _ _
          ha.intents hcurrent rfl k
      numbered := numbered_one ha.numbered _ _ _
      acknowledged := by
        intro id hid
        show (t.get? id).isSome
        rw [hget]
        have hsome := ha.acknowledged id hid
        split
        · rw [Option.isSome_map]
          exact hsome
        · exact hsome }

theorem aligned_note (ha : Aligned l) (h : l.recordManualNote fails note = .ok l') :
    Aligned l' := by
  obtain ⟨-, -, -, -, rfl⟩ := recordManualNote_ok h
  exact { ha with
    events := congrArg (· ++ _) ha.events
    queue := put_congr ha.queue (noteItem note)
    numbered := numbered_two ha.numbered _ _ _ }

theorem aligned_sample (ha : Aligned l) (h : l.recordPerformanceSample fails sample = .ok l') :
    Aligned l' := by
  obtain ⟨-, -, -, rfl⟩ := recordPerformanceSample_ok h
  exact { ha with samples := put_congr ha.samples sample }

/-- A workflow whose revision is the current one is the current one. -/
theorem Savable.same {current : Option FieldWorkflowSnapshot} (h : Savable current snapshot)
    (hchanged : ¬ SQLiteLedger.workflowChanged current snapshot.workflow) :
    snapshot.workflow = current := by
  cases hcurrent : current with
  | none =>
      cases hnext : snapshot.workflow with
      | none => rfl
      | some next =>
          rw [hcurrent, hnext] at hchanged
          exact absurd ⟨nofun, nofun⟩ hchanged
  | some workflow =>
      cases hnext : snapshot.workflow with
      | none => exact absurd ⟨by rw [hcurrent]; nofun, hnext⟩ h.kept
      | some next =>
          have hsame := h.appended workflow hcurrent next hnext
          rw [if_neg hchanged] at hsame
          rw [hsame]

/-- A changed workflow is a first one or one revision on. -/
theorem Savable.changed {current : Option FieldWorkflowSnapshot} (h : Savable current snapshot)
    (hchanged : SQLiteLedger.workflowChanged current snapshot.workflow) :
    ∃ next, snapshot.workflow = some next ∧
      ∀ workflow ∈ current, next.revision = workflow.revision + 1 := by
  obtain ⟨next, hnext⟩ := Option.ne_none_iff_exists'.mp hchanged.1
  refine ⟨next, hnext, fun workflow hworkflow => ?_⟩
  have happended := h.appended workflow hworkflow next hnext
  rwa [if_pos hchanged] at happended

theorem aligned_save (ha : Aligned l) (h : l.saveFieldSession fails snapshot = .ok l') :
    Aligned l' := by
  obtain ⟨hsavable, hpositive, rfl⟩ := saveFieldSession_ok h
  rw [ha.session] at hsavable hpositive ⊢
  have hlog := ha.workflowLog
  refine { ha with
    session := rfl
    sequence := ?_
    positive := ?_
    workflowLog := ?_ }
  · intro session hsession
    cases hsession
    exact hsavable.sequence.2
  · intro workflow hworkflow
    have hworkflow : snapshot.workflow = some workflow := hworkflow
    by_cases hchanged : SQLiteLedger.workflowChanged
        (SQLiteLedger.workflowOf l.database.fieldSession) snapshot.workflow
    · refine hpositive (SQLiteLedger.workflowEvent snapshot.jobId workflow) ?_
      rw [appendedWorkflow, if_pos hchanged, hworkflow]
      exact List.mem_singleton_self _
    · exact ha.positive workflow ((hsavable.same hchanged).symm.trans hworkflow)
  · by_cases hchanged : SQLiteLedger.workflowChanged
        (SQLiteLedger.workflowOf l.database.fieldSession) snapshot.workflow
    · obtain ⟨next, hnext, hsuccessor⟩ := hsavable.changed hchanged
      intro event hevent
      refine ⟨next, hnext, ?_⟩
      rw [appendedWorkflow, if_pos hchanged, hnext] at hevent
      rcases List.mem_append.mp hevent with hevent | hevent
      · -- an older event stays below the revision that follows
        obtain ⟨workflow, hworkflow, hle, -⟩ := hlog event hevent
        have hsucc := hsuccessor workflow hworkflow
        constructor
        · rw [hsucc]
          linarith
        · intro heq
          rw [hsucc] at heq
          linarith
      · obtain rfl := List.mem_singleton.mp hevent
        exact ⟨le_refl _, fun _ => rfl⟩
    · intro event hevent
      rw [appendedWorkflow, if_neg hchanged, List.append_nil] at hevent
      obtain ⟨workflow, hworkflow, hle, heq⟩ := hlog event hevent
      exact ⟨workflow, (hsavable.same hchanged).trans hworkflow, hle, heq⟩

/-- **Alignment.** Every accepted call keeps database and memory aligned. -/
theorem aligned_exec {c : LedgerCall} (ha : Aligned l) (h : l.exec fails c = .ok l') :
    Aligned l' := by
  cases c with
  | beginIntent intent => exact aligned_begin ha h
  | commitDurableCapture captureId artifact => exact aligned_commit ha h
  | applyQueueEvent captureId event => exact aligned_queueEvent ha h
  | markIntent captureId state code => exact aligned_mark ha h
  | recordManualNote note => exact aligned_note ha h
  | recordPerformanceSample sample => exact aligned_sample ha h
  | saveFieldSession snapshot => exact aligned_save ha h

end InspectionHub.Capture
