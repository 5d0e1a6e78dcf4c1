import InspectionHub.Capture.Hydration

/-!
# Concurrent queue events

`applyQueueEvent` computes the next state from the maps in memory and writes it
in a transaction that begins later; between the two, other calls may commit.
The stored state is the fold of the recorded events exactly as long as every
transaction writes the state its event leads to from the stored one.
-/

namespace InspectionHub.Capture

open Domain (bind_ok)

variable {host : Js.Host} {l l' : SQLiteLedger} {db : Database}

/-! ## The log of a queue row -/

def QueueEvent.ofText? : String → Option QueueEvent
  | "begin_upload" => some .begin_upload
  | "block_revoked" => some .block_revoked
  | "block_session" => some .block_session
  | "confirm_server_durable" => some .confirm_server_durable
  | "fail" => some .fail
  | "retry" => some .retry
  | _ => none

theorem QueueEvent.ofText?_text (event : QueueEvent) : ofText? event.text = some event := by
  cases event <;> rfl

/-- The queue event an entry of the log records for a capture. -/
def LocalCaptureEvent.queueEvent? (captureId : String) (e : LocalCaptureEvent) :
    Option QueueEvent :=
  if e.captureId = captureId ∧ e.type = .queue_state_changed then
    e.code.bind QueueEvent.ofText?
  else none

/-- The queue events recorded for a capture, in order. -/
def recordedEvents (events : List LocalCaptureEvent) (captureId : String) : List QueueEvent :=
  events.filterMap (·.queueEvent? captureId)

/-- The fold of the transitions over events, from a row just enqueued. -/
def foldEvents (events : List QueueEvent) : Option CaptureQueueState :=
  events.foldlM queueTransitions .pending

/-- The stored state of a capture is the fold of its recorded events. -/
def Folds (db : Database) (captureId : String) : Prop :=
  ∀ row, db.captureQueue.get? captureId = some row →
    foldEvents (recordedEvents db.localCaptureEvents captureId) = some row.state

/-- The states no event leaves. -/
def CaptureQueueState.Final (state : CaptureQueueState) : Prop :=
  state = .server_durable ∨ state = .blocked_revoked

/-! ## Calls in flight -/

/-- An `applyQueueEvent` before and after its transaction. -/
inductive QueueCall where
  | computed (captureId : String) (event : QueueEvent) (current : CaptureQueueItem)
      (state : CaptureQueueState)
  | written (current : CaptureQueueItem) (state : CaptureQueueState)
      (appended : LocalCaptureEvent)

structure QueueWorld where
  ledger : SQLiteLedger
  calls : List QueueCall

/-- A call is made; the transaction of one runs, or the storage `fails` it; one
publishes what it wrote. -/
inductive QueueStep where
  | start (captureId : String) (event : QueueEvent)
  | commit (i : Nat) (fails : Bool)
  | publish (i : Nat)

def QueueWorld.next (w : QueueWorld) : QueueStep → QueueWorld
  | .start captureId event =>
      match SQLiteLedger.readQueueEvent w.ledger.memory captureId event with
      | .ok (current, state) =>
          { w with calls := w.calls ++ [.computed captureId event current state] }
      | .error _ => w
  | .commit i fails =>
      match w.calls[i]? with
      | some (.computed captureId event current state) =>
          match transaction fails
              (.ok (SQLiteLedger.commitQueueEvent w.ledger.database captureId event state)) with
          | .ok (appended, database) =>
              { ledger := { w.ledger with database := database }
                calls := w.calls.set i (.written current state appended) }
          | .error _ => { w with calls := w.calls.eraseIdx i }
      | _ => w
  | .publish i =>
      match w.calls[i]? with
      | some (.written current state appended) =>
          { ledger := { w.ledger with
              memory := SQLiteLedger.publishQueueEvent w.ledger.memory current state appended }
            calls := w.calls.eraseIdx i }
      | _ => w

/-- The world after some steps. -/
def QueueWorld.run (w : QueueWorld) (steps : List QueueStep) : QueueWorld :=
  steps.foldl QueueWorld.next w

/-- No queue event is lost in a run, and no row leaves a final state. -/
structure NoneLost (w : QueueWorld) (steps : List QueueStep) : Prop where
  folds : ∀ before after, steps = before ++ after →
    ∀ captureId, Folds (w.run before).ledger.database captureId
  final : ∀ before during after, steps = before ++ during ++ after → ∀ captureId row,
    (w.run before).ledger.database.captureQueue.get? captureId = some row → row.state.Final →
    (w.run (before ++ during)).ledger.database.captureQueue.get? captureId = some row

/-- The step condition: a transaction that commits finds a stored state that
its event takes where it takes the state the call read. -/
def WritesStored (w : QueueWorld) : QueueStep → Prop
  | .commit i false =>
      ∀ captureId event current state, w.calls[i]? = some (.computed captureId event current state) →
        ∀ row, w.ledger.database.captureQueue.get? captureId = some row →
          queueTransitions row.state event = queueTransitions current.state event
  | _ => True

/-! ## The log after one more event -/

theorem recordedEvents_append (events events' : List LocalCaptureEvent) (captureId : String) :
    recordedEvents (events ++ events') captureId =
      recordedEvents events captureId ++ recordedEvents events' captureId :=
  List.filterMap_append

theorem foldEvents_snoc (events : List QueueEvent) (event : QueueEvent) :
    foldEvents (events ++ [event]) =
      (foldEvents events).bind fun state => queueTransitions state event := by
  simp only [foldEvents, List.foldlM_append, List.foldlM_cons, List.foldlM_nil, bind_pure]
  rfl

/-- An entry of another type records no queue event. -/
theorem recordedEvents_other {events : List LocalCaptureEvent}
    (h : ∀ e ∈ events, e.type ≠ .queue_state_changed) (captureId : String) :
    recordedEvents events captureId = [] := by
  refine List.filterMap_eq_nil_iff.mpr fun e he => ?_
  exact if_neg fun hboth => h e he hboth.2

/-- The entry of an applied event records it for its own capture. -/
theorem recordedEvents_applied (db : Database) (captureId captureId' : String)
    (event : QueueEvent) :
    recordedEvents [db.event captureId .queue_state_changed (some event.text)] captureId' =
      if captureId' = captureId then [event] else [] := by
  by_cases h : captureId' = captureId
  · simp [recordedEvents, LocalCaptureEvent.queueEvent?, Database.event, h,
      QueueEvent.ofText?_text]
  · have hne : ¬ captureId = captureId' := fun e => h e.symm
    simp [recordedEvents, LocalCaptureEvent.queueEvent?, Database.event, h, hne]

/-! ## Ledgers whose calls ran one after another -/

/-- The log of every capture leads to its row, and without a row it is empty. -/
structure QueueLog (db : Database) : Prop where
  folds : ∀ captureId, Folds db captureId
  enqueued : ∀ captureId, db.captureQueue.get? captureId = none →
    recordedEvents db.localCaptureEvents captureId = []

/-- Entries of other types do not matter. -/
theorem QueueLog.logged (h : QueueLog db) {events : List LocalCaptureEvent}
    (hother : ∀ e ∈ events, e.type ≠ .queue_state_changed) : QueueLog (db.logged events) := by
  have hsame : ∀ captureId, recordedEvents (db.localCaptureEvents ++ events) captureId =
      recordedEvents db.localCaptureEvents captureId := by
    intro captureId
    rw [recordedEvents_append, recordedEvents_other hother, List.append_nil]
  refine ⟨fun captureId row hrow => ?_, fun captureId hnone => ?_⟩
  · exact (congrArg foldEvents (hsame captureId)).trans (h.folds captureId row hrow)
  · exact (hsame captureId).trans (h.enqueued captureId hnone)

/-- A row just enqueued is pending. -/
theorem QueueLog.enqueue (h : QueueLog db) (item : CaptureQueueItem)
    (hnone : db.captureQueue.get? item.captureId = none) (hpending : item.state = .pending) :
    QueueLog { db with captureQueue := db.captureQueue.put item } := by
  refine ⟨fun captureId row hrow => ?_, fun captureId hget => ?_⟩
  · have hrow : (db.captureQueue.put item).get? captureId = some row := hrow
    rw [Table.get?_put] at hrow
    show foldEvents (recordedEvents db.localCaptureEvents captureId) = _
    split at hrow
    · next hid =>
        cases hrow
        rw [hid, h.enqueued _ hnone, hpending]
        rfl
    · exact h.folds captureId row hrow
  · have hget : (db.captureQueue.put item).get? captureId = none := hget
    rw [Table.get?_put] at hget
    split at hget
    · cases hget
    · exact h.enqueued captureId hget

/-- The rows and the log after the transaction of a queue event. -/
theorem commitQueueEvent_spec (db : Database) (captureId : String) (event : QueueEvent)
    (state : CaptureQueueState) :
    ∃ t, (SQLiteLedger.commitQueueEvent db captureId event state).2 =
        { db with captureQueue := t }.logged
          [db.event captureId .queue_state_changed (some event.text)] ∧
      (∀ k, t.get? k =
        if k = captureId then (db.captureQueue.get? k).map fun row => { row with state := state }
        else db.captureQueue.get? k) ∧
      ∀ k, recordedEvents
          (db.localCaptureEvents ++ [db.event captureId .queue_state_changed (some event.text)]) k =
        recordedEvents db.localCaptureEvents k ++ if k = captureId then [event] else [] := by
  obtain ⟨t, ht, hget⟩ := updateQueue_spec db captureId state
  refine ⟨t, ?_, hget, fun k => by rw [recordedEvents_append, recordedEvents_applied]⟩
  unfold SQLiteLedger.commitQueueEvent
  rw [ht]
  rfl

variable {captureId : String}

/-- The transaction logs nothing for what is not enqueued. -/
theorem enqueued_commit (event : QueueEvent) (state : CaptureQueueState)
    (hrow : (db.captureQueue.get? captureId).isSome)
    (h : ∀ k, db.captureQueue.get? k = none → recordedEvents db.localCaptureEvents k = [])
    (k : String)
    (hnone : (SQLiteLedger.commitQueueEvent db captureId event state).2.captureQueue.get? k = none) :
    recordedEvents (SQLiteLedger.commitQueueEvent db captureId event state).2.localCaptureEvents k =
      [] := by
  obtain ⟨t, ht, hget, hrecorded⟩ := commitQueueEvent_spec db captureId event state
  rw [ht] at hnone ⊢
  have hmissing : t.get? k = none := hnone
  rw [hget] at hmissing
  show recordedEvents (db.localCaptureEvents ++ _) k = []
  rw [hrecorded]
  split at hmissing
  · next hid =>
      rw [hid, Option.map_eq_none_iff] at hmissing
      rw [hmissing] at hrow
      cases hrow
  · next hid =>
      rw [if_neg hid, List.append_nil]
      exact h k hmissing

variable {state : CaptureQueueState}

/-- **One transaction.** The log of every capture leads to its row after it
exactly if the event leads from the stored state to the one written. -/
theorem folds_commit_iff {event : QueueEvent} {row : CaptureQueueItem} (hfolds : ∀ k, Folds db k)
    (hrow : db.captureQueue.get? captureId = some row) :
    (∀ k, Folds (SQLiteLedger.commitQueueEvent db captureId event state).2 k) ↔
      queueTransitions row.state event = some state := by
  obtain ⟨t, ht, hget, hrecorded⟩ := commitQueueEvent_spec db captureId event state
  rw [ht]
  constructor
  · intro h
    have hstored : t.get? captureId = some { row with state := state } := by
      rw [hget, if_pos rfl, hrow]
      rfl
    have hfold := h captureId { row with state := state } hstored
    rw [Database.logged, hrecorded, if_pos rfl, foldEvents_snoc, hfolds captureId row hrow] at hfold
    exact hfold
  · intro htransition k row' hrow'
    have hstored : t.get? k = some row' := hrow'
    rw [hget] at hstored
    rw [Database.logged, hrecorded]
    split at hstored
    · next hid =>
        subst hid
        rw [hrow] at hstored
        cases hstored
        rw [if_pos rfl, foldEvents_snoc, hfolds k row hrow]
        exact htransition
    · next hid =>
        rw [if_neg hid, List.append_nil]
        exact hfolds k row' hstored

/-- Whatever leaves the queue and the log alone. -/
theorem QueueLog.congr {db' : Database} (h : QueueLog db)
    (hqueue : db'.captureQueue = db.captureQueue)
    (hevents : db'.localCaptureEvents = db.localCaptureEvents) : QueueLog db' := by
  refine ⟨fun captureId row hrow => ?_, fun captureId hnone => ?_⟩
  · rw [hqueue] at hrow
    rw [hevents]
    exact h.folds captureId row hrow
  · rw [hqueue] at hnone
    rw [hevents]
    exact h.enqueued captureId hnone

@[simp] theorem updateIntent_queue (db : Database) (captureId : String)
    (state : CaptureIntentState) (code : Option String) :
    (db.updateIntent captureId state code).captureQueue = db.captureQueue := by
  unfold Database.updateIntent
  split <;> rfl

theorem other_one (db : Database) (captureId : String) {type : LocalCaptureEventType}
    (h : type ≠ .queue_state_changed) (code : Option String) :
    ∀ e ∈ [db.event captureId type code], e.type ≠ .queue_state_changed := by
  intro e he
  rw [List.mem_singleton.mp he]
  exact h

theorem other_two (db : Database) (captureId : String) {first second : LocalCaptureEventType}
    (hfirst : first ≠ .queue_state_changed) (hsecond : second ≠ .queue_state_changed) :
    ∀ e ∈ db.events₂ captureId first second, e.type ≠ .queue_state_changed := by
  intro e he
  rcases List.mem_cons.mp he with rfl | he
  · exact hfirst
  · rw [List.mem_singleton.mp he]
    exact hsecond

/-- **One call after another.** A call that runs alone keeps the log. -/
theorem queueLog_exec {fails : Bool} {c : LedgerCall} (ha : Aligned l) (hq : QueueLog l.database)
    (h : l.exec fails c = .ok l') : QueueLog l'.database := by
  cases c with
  | beginIntent intent =>
      obtain ⟨-, -, rfl⟩ := beginIntent_ok h
      have hput : QueueLog { l.database with
          captureIntents := l.database.captureIntents.put intent } := hq.congr rfl rfl
      exact hput.logged (other_one _ _ (by decide) _)
  | commitDurableCapture captureId artifact =>
      obtain ⟨intent, -, rfl, -, ⟨-, rfl⟩ | ⟨-, -, hnone, rfl⟩⟩ := commit_ok h
      · exact hq
      · have henqueued : QueueLog { l.database with
            captureArtifacts := l.database.captureArtifacts.put artifact
            captureQueue := l.database.captureQueue.put (uploadItem artifact) } :=
          (hq.enqueue (uploadItem artifact) hnone rfl).congr rfl rfl
        exact (henqueued.congr (updateIntent_queue ..) (updateIntent_events ..)).logged
          (other_two _ _ (by decide) (by decide))
  | applyQueueEvent captureId event =>
      obtain ⟨current, state, hcurrent, htransition, rfl⟩ := applyQueueEvent_ok h
      have hrow := hcurrent
      rw [ha.queue] at hrow
      have hcommit : QueueLog (SQLiteLedger.commitQueueEvent l.database captureId event state).2 :=
        ⟨(folds_commit_iff hq.folds hrow).mpr htransition,
          enqueued_commit event state (Option.isSome_of_eq_some hrow) hq.enqueued⟩
      obtain ⟨t, ht, -⟩ := updateQueue_spec l.database captureId state
      unfold SQLiteLedger.commitQueueEvent at hcommit
      rw [ht] at hcommit ⊢
      exact hcommit
  | markIntent captureId state code =>
      obtain ⟨current, -, -, rfl⟩ := markIntent_ok h
      refine QueueLog.logged ?_ (other_one _ _ (by decide) _)
      unfold marked
      split
      · exact hq.congr rfl rfl
      · exact hq.congr (updateIntent_queue ..) (updateIntent_events ..)
  | recordManualNote note =>
      obtain ⟨-, -, -, hnone, rfl⟩ := recordManualNote_ok h
      have henqueued : QueueLog { l.database with
          manualNotes := l.database.manualNotes.put note
          captureQueue := l.database.captureQueue.put (noteItem note) } :=
        (hq.enqueue (noteItem note) hnone rfl).congr rfl rfl
      exact henqueued.logged (other_two _ _ (by decide) (by decide))
  | recordPerformanceSample sample =>
      obtain ⟨-, -, -, rfl⟩ := recordPerformanceSample_ok h
      exact hq.congr rfl rfl
  | saveFieldSession snapshot =>
      obtain ⟨-, -, rfl⟩ := saveFieldSession_ok h
      exact hq.congr rfl rfl

theorem queueLog_ledgerAfter (host : Js.Host) (steps : List LedgerStep) :
    QueueLog (ledgerAfter host steps).database := by
  induction steps using List.reverseRecOn with
  | nil => exact ⟨fun _ _ => nofun, fun _ _ => rfl⟩
  | append_singleton steps step ih =>
      have ha := aligned_ledgerAfter host steps
      rw [ledgerAfter, List.foldl_append]
      show QueueLog ((ledgerAfter host steps).next host step).database
      cases step with
      | call fails c =>
          cases hexec : (ledgerAfter host steps).exec fails c with
          | ok l' => simpa only [SQLiteLedger.next, hexec] using queueLog_exec ha ih hexec
          | error e => simpa only [SQLiteLedger.next, hexec] using ih
      | restart =>
          cases hhydrate : hydrate host (ledgerAfter host steps).database with
          | ok m => simpa only [SQLiteLedger.next, hhydrate] using ih
          | error e => simpa only [SQLiteLedger.next, hhydrate] using ih

/-! ## Calls that overlap -/

/-- What holds whatever the order of the steps: the captures of calls in flight
are enqueued, what a call is about to write is what its event makes of what it
read, and nothing is logged for a capture that is not enqueued. -/
structure WorldInv (w : QueueWorld) : Prop where
  queued : ∀ k, (w.ledger.memory.queue.get? k).isSome →
    (w.ledger.database.captureQueue.get? k).isSome
  computed : ∀ captureId event current state,
    .computed captureId event current state ∈ w.calls →
      current.captureId = captureId ∧ (w.ledger.database.captureQueue.get? captureId).isSome ∧
        queueTransitions current.state event = some state
  written : ∀ current state appended, .written current state appended ∈ w.calls →
    (w.ledger.database.captureQueue.get? current.captureId).isSome
  enqueued : ∀ k, w.ledger.database.captureQueue.get? k = none →
    recordedEvents w.ledger.database.localCaptureEvents k = []

variable {w : QueueWorld}

/-- A call that starts has read its row. -/
theorem worldInv_start (hi : WorldInv w) (captureId : String) (event : QueueEvent) :
    WorldInv (w.next (.start captureId event)) := by
  cases hread : SQLiteLedger.readQueueEvent w.ledger.memory captureId event with
  | error e => simpa only [QueueWorld.next, hread] using hi
  | ok r =>
      obtain ⟨hcurrent, htransition⟩ := readQueueEvent_ok hread
      simp only [QueueWorld.next, hread]
      exact { hi with
        computed := by
          intro id event' current state hmem
          rcases List.mem_append.mp hmem with hmem | hmem
          · exact hi.computed id event' current state hmem
          · cases List.mem_singleton.mp hmem
            exact ⟨Table.key_of_get? hcurrent, hi.queued _ (Option.isSome_of_eq_some hcurrent),
              htransition⟩
        written := by
          intro current state appended hmem
          rcases List.mem_append.mp hmem with hmem | hmem
          · exact hi.written current state appended hmem
          · cases List.mem_singleton.mp hmem }

/-- The world after the transaction of a call. -/
def QueueWorld.committed (w : QueueWorld) (i : Nat) (captureId : String) (event : QueueEvent)
    (current : CaptureQueueItem) (state : CaptureQueueState) : QueueWorld :=
  { ledger := { w.ledger with
      database := (SQLiteLedger.commitQueueEvent w.ledger.database captureId event state).2 }
    calls := w.calls.set i (.written current state
      (SQLiteLedger.commitQueueEvent w.ledger.database captureId event state).1) }

/-- What a transaction step does: it commits a computed call, drops it, or finds
no such call. -/
theorem next_commit_cases (w : QueueWorld) (i : Nat) (fails : Bool) :
    (fails = false ∧ ∃ captureId event current state,
      w.calls[i]? = some (.computed captureId event current state) ∧
        w.next (.commit i fails) = w.committed i captureId event current state) ∨
    (fails = true ∨ ∀ captureId event current state,
      w.calls[i]? ≠ some (.computed captureId event current state)) ∧
      (w.next (.commit i fails) = { w with calls := w.calls.eraseIdx i } ∨
        w.next (.commit i fails) = w) := by
  cases hcall : w.calls[i]? with
  | none =>
      refine .inr ⟨.inr fun _ _ _ _ => nofun, .inr ?_⟩
      simp only [QueueWorld.next, hcall]
  | some call =>
      cases call with
      | written current state appended =>
          refine .inr ⟨.inr fun _ _ _ _ => nofun, .inr ?_⟩
          simp only [QueueWorld.next, hcall]
      | computed captureId event current state =>
          cases fails with
          | true =>
              refine .inr ⟨.inl rfl, .inl ?_⟩
              simp only [QueueWorld.next, hcall, transaction, if_true]
          | false =>
              refine .inl ⟨rfl, captureId, event, current, state, rfl, ?_⟩
              simp only [QueueWorld.next, hcall]
              rfl

/-- Rows stay enqueued over a transaction. -/
theorem isSome_commit (event : QueueEvent) (state : CaptureQueueState) (k : String) :
    ((SQLiteLedger.commitQueueEvent db captureId event state).2.captureQueue.get? k).isSome =
      (db.captureQueue.get? k).isSome := by
  obtain ⟨t, ht, hget, -⟩ := commitQueueEvent_spec db captureId event state
  rw [ht]
  show (t.get? k).isSome = _
  rw [hget]
  split
  · rw [Option.isSome_map]
  · rfl

/-- Dropping a call leaves the rest as it is. -/
theorem worldInv_erase (hi : WorldInv w) (i : Nat) :
    WorldInv { w with calls := w.calls.eraseIdx i } :=
  { hi with
    computed := fun id event current state hmem =>
      hi.computed id event current state (List.mem_of_mem_eraseIdx hmem)
    written := fun current state appended hmem =>
      hi.written current state appended (List.mem_of_mem_eraseIdx hmem) }

theorem worldInv_committed (hi : WorldInv w) {i : Nat} {event : QueueEvent}
    {current : CaptureQueueItem}
    (hcall : w.calls[i]? = some (.computed captureId event current state)) :
    WorldInv (w.committed i captureId event current state) := by
  obtain ⟨hid, hrow, -⟩ := hi.computed _ _ _ _ (List.mem_of_getElem? hcall)
  refine {
    queued := fun k hk => ?_
    computed := fun id event' current' state' hmem => ?_
    written := fun current' state' appended hmem => ?_
    enqueued := enqueued_commit event state hrow hi.enqueued }
  · exact (isSome_commit event state k).trans (hi.queued k hk)
  · rcases List.mem_or_eq_of_mem_set hmem with hmem | heq
    · obtain ⟨hid', hrow', htransition⟩ := hi.computed _ _ _ _ hmem
      exact ⟨hid', (isSome_commit event state id).trans hrow', htransition⟩
    · cases heq
  · rcases List.mem_or_eq_of_mem_set hmem with hmem | heq
    · exact (isSome_commit event state _).trans (hi.written _ _ _ hmem)
    · cases heq
      exact (isSome_commit event state _).trans (hid ▸ hrow)

theorem worldInv_publish (hi : WorldInv w) (i : Nat) : WorldInv (w.next (.publish i)) := by
  cases hcall : w.calls[i]? with
  | none => simpa only [QueueWorld.next, hcall] using hi
  | some call =>
      cases call with
      | computed captureId event current state => simpa only [QueueWorld.next, hcall] using hi
      | written current state appended =>
          have hwritten := hi.written _ _ _ (List.mem_of_getElem? hcall)
          have herase := worldInv_erase hi i
          simp only [QueueWorld.next, hcall]
          exact { herase with
            queued := by
              intro k hk
              have hk : ((w.ledger.memory.queue.put { current with state := state }).get? k).isSome :=
                hk
              rw [Table.get?_put] at hk
              split at hk
              · next heq =>
                  rw [heq]
                  exact hwritten
              · exact hi.queued k hk }

theorem worldInv_next (hi : WorldInv w) (step : QueueStep) : WorldInv (w.next step) := by
  cases step with
  | start captureId event => exact worldInv_start hi captureId event
  | publish i => exact worldInv_publish hi i
  | commit i fails =>
      rcases next_commit_cases w i fails with
        ⟨-, captureId, event, current, state, hcall, heq⟩ | ⟨-, heq | heq⟩
      · rw [heq]
        exact worldInv_committed hi hcall
      · rw [heq]
        exact worldInv_erase hi i
      · rw [heq]
        exact hi

/-- The log of every capture leads to its row. -/
def AllFold (w : QueueWorld) : Prop := ∀ captureId, Folds w.ledger.database captureId

theorem database_start (w : QueueWorld) (captureId : String) (event : QueueEvent) :
    (w.next (.start captureId event)).ledger.database = w.ledger.database := by
  simp only [QueueWorld.next]
  split <;> rfl

theorem database_publish (w : QueueWorld) (i : Nat) :
    (w.next (.publish i)).ledger.database = w.ledger.database := by
  simp only [QueueWorld.next]
  split <;> rfl

/-- **One step.** It keeps the logs exactly if it meets its condition. -/
theorem allFold_next_iff (hi : WorldInv w) (h : AllFold w) (step : QueueStep) :
    AllFold (w.next step) ↔ WritesStored w step := by
  cases step with
  | start captureId event =>
      refine iff_of_true ?_ trivial
      rw [AllFold, database_start]
      exact h
  | publish i =>
      refine iff_of_true ?_ trivial
      rw [AllFold, database_publish]
      exact h
  | commit i fails =>
      rcases next_commit_cases w i fails with
        ⟨rfl, captureId, event, current, state, hcall, heq⟩ | ⟨hnone, heq⟩
      · obtain ⟨-, hrow, htransition⟩ := hi.computed _ _ _ _ (List.mem_of_getElem? hcall)
        obtain ⟨row, hrow⟩ := Option.isSome_iff_exists.mp hrow
        rw [heq]
        refine (folds_commit_iff h hrow).trans ?_
        rw [← htransition]
        constructor
        · intro hstored id event' current' state' hcall' row' hrow'
          rw [hcall] at hcall'
          cases hcall'
          rw [hrow] at hrow'
          cases hrow'
          exact hstored
        · exact fun hcondition => hcondition _ _ _ _ hcall row hrow
      · have hkept : AllFold (w.next (.commit i fails)) := by
          rcases heq with heq | heq <;> rw [heq] <;> exact h
        refine iff_of_true hkept ?_
        rcases hnone with rfl | hnone
        · trivial
        · cases fails with
          | true => trivial
          | false => exact fun _ _ _ _ hcall => absurd hcall (hnone _ _ _ _)

/-! ## Final states -/

theorem queueTransitions_final (h : state.Final) (event : QueueEvent) :
    queueTransitions state event = none := by
  rcases h with rfl | rfl <;> rfl

/-- A step that meets its condition leaves a row in a final state alone. -/
theorem final_next (hi : WorldInv w) {step : QueueStep} (hstep : WritesStored w step)
    {row : CaptureQueueItem} (hrow : w.ledger.database.captureQueue.get? captureId = some row)
    (hfinal : row.state.Final) :
    (w.next step).ledger.database.captureQueue.get? captureId = some row := by
  cases step with
  | start captureId event => rwa [database_start]
  | publish i => rwa [database_publish]
  | commit i fails =>
      rcases next_commit_cases w i fails with
        ⟨rfl, id, event, current, state, hcall, heq⟩ | ⟨-, heq | heq⟩
      · obtain ⟨t, ht, hget, -⟩ := commitQueueEvent_spec w.ledger.database id event state
        rw [heq, QueueWorld.committed, ht]
        show t.get? captureId = some row
        rw [hget]
        split
        · next hid =>
            -- the event of the call would leave the final state
            subst hid
            have hstored := hstep _ _ _ _ hcall row hrow
            have htransition := (hi.computed _ _ _ _ (List.mem_of_getElem? hcall)).2.2
            rw [queueTransitions_final hfinal, htransition] at hstored
            cases hstored
        · exact hrow
      · rw [heq]
        exact hrow
      · rw [heq]
        exact hrow

/-! ## Whole runs -/

theorem worldInv_run (hi : WorldInv w) (steps : List QueueStep) : WorldInv (w.run steps) := by
  induction steps using List.reverseRecOn with
  | nil => exact hi
  | append_singleton steps step ih =>
      rw [QueueWorld.run, List.foldl_append]
      exact worldInv_next ih step

theorem worldInv_start_of (host : Js.Host) (steps : List LedgerStep) :
    WorldInv ⟨ledgerAfter host steps, []⟩ where
  queued k hk := by
    rwa [(aligned_ledgerAfter host steps).queue] at hk
  computed _ _ _ _ h := absurd h List.not_mem_nil
  written _ _ _ h := absurd h List.not_mem_nil
  enqueued := (queueLog_ledgerAfter host steps).enqueued

/-- **No lost queue event**, exactly if every transaction writes the state its
event leads to from the stored one. The calls overlap in any order on a ledger
that any calls made before. -/
theorem none_lost_iff (host : Js.Host) (before : List LedgerStep) (steps : List QueueStep) :
    NoneLost ⟨ledgerAfter host before, []⟩ steps ↔
      ∀ front step rest, steps = front ++ step :: rest →
        WritesStored (QueueWorld.run ⟨ledgerAfter host before, []⟩ front) step := by
  have hinv := worldInv_start_of host before
  have hfolds : AllFold ⟨ledgerAfter host before, []⟩ := (queueLog_ledgerAfter host before).folds
  have hthroughout := TSys.throughout_iff QueueWorld.next WorldInv AllFold WritesStored
    (fun _ step hi => worldInv_next hi step) (fun _ step hi h => allFold_next_iff hi h step)
    hinv hfolds steps
  refine ⟨fun h => hthroughout.mp h.folds, fun h => ⟨hthroughout.mpr h, ?_⟩⟩
  intro front during rest hsteps captureId row hrow hfinal
  induction during using List.reverseRecOn generalizing rest with
  | nil => rwa [List.append_nil]
  | append_singleton during step ih =>
      have hsplit : steps = (front ++ during) ++ step :: rest := by
        rw [hsteps]
        simp only [List.append_assoc, List.singleton_append]
      have hrow' := ih (step :: rest) hsplit
      rw [← List.append_assoc, QueueWorld.run, List.foldl_append]
      exact final_next (worldInv_run hinv _) (h _ step rest hsplit) hrow' hfinal

namespace Sample

/-- A capture with its upload pending. -/
def enqueued : List LedgerStep :=
  [.call false (.beginIntent intent), .call false (.commitDurableCapture "capture" artifact)]

/-- The upload starts while the capture is revoked: both read `pending`. -/
def overlapping : List QueueStep :=
  [.start "capture" .begin_upload, .start "capture" .block_revoked, .commit 1 false,
    .commit 0 false]

/-- The late transaction takes the row out of `blocked_revoked`. -/
theorem revocation_overwritten :
    ¬ ∀ (host : Js.Host) (before : List LedgerStep) (steps : List QueueStep),
      NoneLost ⟨ledgerAfter host before, []⟩ steps := by
  intro h
  have hfinal := (h .plain enqueued overlapping).final
    [.start "capture" .begin_upload, .start "capture" .block_revoked, .commit 1 false]
    [.commit 0 false] [] rfl "capture" ⟨"capture", .photo_upload, .blocked_revoked⟩ (by decide)
    (.inr rfl)
  have hrow : ((QueueWorld.run ⟨ledgerAfter .plain enqueued, []⟩
      overlapping).ledger.database.captureQueue.get? "capture").map (·.state) =
      some .uploading := by decide
  rw [show overlapping = [.start "capture" .begin_upload, .start "capture" .block_revoked,
    .commit 1 false] ++ [.commit 0 false] from rfl, hfinal] at hrow
  cases hrow

end Sample

end InspectionHub.Capture
