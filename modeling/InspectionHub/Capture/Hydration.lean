import InspectionHub.Capture.LedgerSteps
import InspectionHub.Lib.TSys

/-!
# Hydration reads a ledger back

A fresh ledger hydrated from the database exposes what the ledger that wrote
it exposes, as long as no operation drifts. Three can: an artifact committed
for an intent that has a failure code or an acknowledgement, a mark that leaves
the code in memory and not in the row (or the other way), and a field session
whose workflow does not read back. These are all.
-/

namespace InspectionHub.Capture

open Domain (bind_ok bind_of)

variable {host : Js.Host} {l l' : SQLiteLedger} {fails : Bool} {db : Database}

/-- Two ledgers expose the same. -/
structure Exposes (m m' : Memory) : Prop where
  intents : ∀ k, m.intents.get? k = m'.intents.get? k
  artifacts : ∀ k, m.artifacts.get? k = m'.artifacts.get? k
  queue : ∀ k, m.queue.get? k = m'.queue.get? k
  events : m.events = m'.events
  session : m.fieldSession = m'.fieldSession

/-- A fresh ledger hydrates and exposes what `l` does. -/
def Agrees (host : Js.Host) (l : SQLiteLedger) : Prop :=
  ∃ m, hydrate host l.database = .ok m ∧ Exposes m l.memory

/-! ## Runs -/

/-- A call, whose transaction the storage may fail, or a restart. -/
inductive LedgerStep where
  | call (fails : Bool) (c : LedgerCall)
  | restart

def SQLiteLedger.next (host : Js.Host) (l : SQLiteLedger) : LedgerStep → SQLiteLedger
  | .call fails c =>
      match l.exec fails c with
      | .ok l' => l'
      | .error _ => l
  | .restart =>
      match hydrate host l.database with
      | .ok memory => { l with memory := memory }
      | .error _ => l

/-- The ledger after some steps on a fresh database. -/
def ledgerAfter (host : Js.Host) (steps : List LedgerStep) : SQLiteLedger :=
  steps.foldl (SQLiteLedger.next host) .empty

/-- The events of a job, if there are any, reach the workflow's revision. -/
def HeadFits (events : List FieldWorkflowEvent) (jobId : String)
    (workflow : FieldWorkflowSnapshot) : Prop :=
  ∀ event ∈ events, event.jobId = jobId →
    ∃ head ∈ events, head.jobId = jobId ∧ head.revision = workflow.revision

/-- What a call must meet, on the state before it, to be read back. -/
def Restorable (host : Js.Host) (l : SQLiteLedger) : LedgerCall → Prop
  | .commitDurableCapture captureId _ =>
      ∀ intent, l.memory.intents.get? captureId = some intent →
        l.memory.artifacts.get? captureId = none →
        intent.failureCode = none ∧ captureId ∉ l.database.captureAcknowledgements
  | .markIntent captureId state failureCode =>
      ∀ intent, l.memory.intents.get? captureId = some intent →
        if state = .acknowledged then failureCode = none ∨ failureCode = intent.failureCode
        else captureId ∉ l.database.captureAcknowledgements ∧
          (failureCode = none → intent.failureCode = none)
  | .saveFieldSession snapshot =>
      ∀ workflow, snapshot.workflow = some workflow → ValidWorkflow host workflow ∧
        (¬ SQLiteLedger.workflowChanged (SQLiteLedger.workflowOf l.memory.fieldSession)
            snapshot.workflow →
          HeadFits l.database.fieldWorkflowEvents snapshot.jobId workflow)
  | _ => True

/-- The step condition: a call that is accepted can be read back. -/
def KeepsRestorable (host : Js.Host) (l : SQLiteLedger) : LedgerStep → Prop
  | .call fails c => ∀ l', l.exec fails c = .ok l' → Restorable host l c
  | .restart => True

/-! ## What hydration reads -/

theorem hydrate_ok {m : Memory} (h : hydrate host db = .ok m) :
    hydrateSession host db = .ok m.fieldSession ∧
      (∀ k, m.intents.get? k =
        (db.captureIntents.get? k).map (readIntent db.captureAcknowledgements)) ∧
      (∀ k, m.artifacts.get? k = db.captureArtifacts.get? k) ∧
      (∀ k, m.queue.get? k = db.captureQueue.get? k) ∧
      (∀ k, m.performanceSamples.get? k = db.capturePerformanceSamples.get? k) ∧
      m.events = db.localCaptureEvents.mergeSort fun a b => a.ordinal ≤ b.ordinal := by
  unfold hydrate at h
  obtain ⟨session, hsession, h⟩ := bind_ok h
  cases h
  refine ⟨hsession, fun k => ?_, fun k => ?_, fun k => ?_, fun k => ?_, rfl⟩
  · exact Table.get?_fill db.captureIntents (List.mergeSort_perm _ _)
      (readIntent db.captureAcknowledgements) (fun _ => rfl) k
  · exact Table.get?_refill _ (List.mergeSort_perm _ _) k
  · exact Table.get?_refill _ (List.mergeSort_perm _ _) k
  · exact Table.get?_refill _ ((List.mergeSort_perm _ _).trans (List.mergeSort_perm _ _)) k

/-- A numbered log is read back in its order. -/
theorem events_sorted (h : Numbered (·.ordinal) db.localCaptureEvents) :
    (db.localCaptureEvents.mergeSort fun a b => a.ordinal ≤ b.ordinal) = db.localCaptureEvents := by
  apply List.mergeSort_of_pairwise
  have hsorted : (db.localCaptureEvents.map (·.ordinal)).Pairwise (· ≤ ·) := by
    rw [h]
    exact List.pairwise_le_range'
  exact (List.pairwise_map.mp hsorted).imp fun h => decide_eq_true h

/-- The order of `ORDER BY job_id, revision`. -/
def precedes (a b : FieldWorkflowEvent) : Bool :=
  a.jobId < b.jobId || (a.jobId = b.jobId && a.revision ≤ b.revision)

theorem precedes_trans (a b c : FieldWorkflowEvent) (hab : precedes a b = true)
    (hbc : precedes b c = true) : precedes a c = true := by
  simp only [precedes, Bool.or_eq_true, Bool.and_eq_true, decide_eq_true_eq] at *
  rcases hab with hab | ⟨hab, hle⟩ <;> rcases hbc with hbc | ⟨hbc, hle'⟩
  · exact .inl (hab.trans hbc)
  · exact .inl (hbc ▸ hab)
  · exact .inl (hab ▸ hbc)
  · exact .inr ⟨hab.trans hbc, hle.trans hle'⟩

theorem precedes_total (a b : FieldWorkflowEvent) : (precedes a b || precedes b a) = true := by
  simp only [precedes, Bool.or_eq_true, Bool.and_eq_true, decide_eq_true_eq]
  rcases lt_trichotomy a.jobId b.jobId with h | h | h
  · exact .inl (.inl h)
  · rcases le_total a.revision b.revision with hle | hle
    · exact .inl (.inr ⟨h, hle⟩)
    · exact .inr (.inr ⟨h.symm, hle⟩)
  · exact .inr (.inl h)

/-- The head of a job's events has its greatest revision. -/
theorem head_spec {events : List FieldWorkflowEvent} {jobId : String} {head : FieldWorkflowEvent}
    (h : ((orderWorkflowEvents events).filter fun e => e.jobId = jobId).getLast? = some head) :
    head ∈ events ∧ head.jobId = jobId ∧
      ∀ e ∈ events, e.jobId = jobId → e.revision ≤ head.revision := by
  obtain ⟨front, hfront⟩ := List.getLast?_eq_some_iff.mp h
  have hmem : ∀ e, e ∈ front ++ [head] ↔ e ∈ events ∧ e.jobId = jobId := by
    intro e
    rw [← hfront, List.mem_filter, orderWorkflowEvents, List.mem_mergeSort, decide_eq_true_eq]
  obtain ⟨hhead, hjob⟩ := (hmem head).mp (by simp)
  refine ⟨hhead, hjob, fun e he hejob => ?_⟩
  have hsorted : (front ++ [head]).Pairwise fun a b => precedes a b = true := by
    rw [← hfront]
    exact List.Pairwise.filter _ (List.pairwise_mergeSort precedes_trans precedes_total _)
  rcases List.mem_append.mp ((hmem e).mpr ⟨he, hejob⟩) with hin | hin
  · have hle := (List.pairwise_append.mp hsorted).2.2 e hin head (by simp)
    simpa [precedes, hejob, hjob] using hle
  · rw [List.mem_singleton.mp hin]

/-- The session in the database can be read back. -/
def SessionReads (host : Js.Host) (db : Database) : Prop :=
  ∀ session, db.fieldSession = some session → ∀ workflow, session.workflow = some workflow →
    ValidWorkflow host workflow ∧ HeadFits db.fieldWorkflowEvents session.jobId workflow

theorem parseFieldWorkflow_of {workflow : FieldWorkflowSnapshot}
    (h : ValidWorkflow host workflow) : parseFieldWorkflow host workflow = .ok workflow := by
  unfold parseFieldWorkflow
  rw [check_of h]
  rfl

theorem parseSession_of {session : FieldSessionSnapshot}
    (hsequence : Js.isSafeInteger session.nextSequence = true)
    (hvalid : ∀ workflow, session.workflow = some workflow → ValidWorkflow host workflow) :
    parseSession host session = .ok session := by
  unfold parseSession
  rw [bind_of (check_of hsequence _)]
  split
  · rfl
  · next workflow hworkflow =>
      rw [parseFieldWorkflow_of (hvalid workflow hworkflow)]
      cases session
      cases hworkflow
      rfl

theorem parseSession_ok {session s : FieldSessionSnapshot} (h : parseSession host session = .ok s) :
    s = session ∧ ∀ workflow, session.workflow = some workflow → ValidWorkflow host workflow := by
  unfold parseSession at h
  obtain ⟨_, -, h⟩ := bind_ok h
  split at h
  · next hworkflow =>
      cases h
      exact ⟨rfl, fun w hw => by rw [hworkflow] at hw; cases hw⟩
  · next workflow hworkflow =>
      obtain ⟨parsed, hparsed, h⟩ := bind_ok h
      unfold parseFieldWorkflow at hparsed
      obtain ⟨_, hvalid, hparsed⟩ := bind_ok hparsed
      cases hparsed
      cases h
      refine ⟨?_, fun w hw => ?_⟩
      · cases session
        cases hworkflow
        rfl
      · rw [hworkflow] at hw
        cases hw
        exact check_ok hvalid

/-- A session that hydrates is the one stored. -/
theorem hydrateSession_same {session : Option FieldSessionSnapshot}
    (h : hydrateSession host db = .ok session) : session = db.fieldSession := by
  unfold hydrateSession at h
  split at h
  · next hnone =>
      cases h
      exact hnone.symm
  · next stored hstored =>
      obtain ⟨parsed, hparse, hhead⟩ := bind_ok h
      obtain ⟨rfl, -⟩ := parseSession_ok hparse
      split at hhead
      · cases hhead
        exact hstored.symm
      · obtain ⟨_, -, hhead⟩ := bind_ok hhead
        obtain ⟨_, -, hhead⟩ := bind_ok hhead
        cases hhead
        exact hstored.symm

/-- The session hydrates as it is exactly when it reads back. -/
theorem hydrateSession_iff (ha : Aligned l) :
    hydrateSession host l.database = .ok l.database.fieldSession ↔
      SessionReads host l.database := by
  unfold hydrateSession SessionReads
  cases hstored : l.database.fieldSession with
  | none => exact ⟨fun _ _ => nofun, fun _ => rfl⟩
  | some stored =>
      have hsequence := ha.sequence stored hstored
      constructor
      · intro h session hsession workflow hworkflow
        cases hsession
        obtain ⟨session, hparse, h⟩ := bind_ok h
        obtain ⟨rfl, hvalid⟩ := parseSession_ok hparse
        refine ⟨hvalid workflow hworkflow, fun event hevent hjob => ?_⟩
        split at h
        · next hnone =>
            -- no head, so no event of the job
            rw [List.getLast?_eq_none_iff, List.filter_eq_nil_iff] at hnone
            have hmem : event ∈ orderWorkflowEvents l.database.fieldWorkflowEvents :=
              List.mem_mergeSort.mpr hevent
            exact absurd (decide_eq_true hjob) (hnone event hmem)
        · next head hhead =>
            obtain ⟨_, -, h⟩ := bind_ok h
            obtain ⟨_, hfits, -⟩ := bind_ok h
            obtain ⟨w, hw, hrevision, -⟩ := check_ok hfits
            rw [hworkflow] at hw
            cases hw
            obtain ⟨hmem, hjob, -⟩ := head_spec hhead
            exact ⟨head, hmem, hjob, hrevision⟩
      · intro h
        have hparse : parseSession host stored = .ok stored :=
          parseSession_of hsequence fun w hw => (h stored rfl w hw).1
        dsimp only
        rw [bind_of hparse]
        split
        · rfl
        · next head hhead =>
            obtain ⟨hmem, hjob, hgreatest⟩ := head_spec hhead
            obtain ⟨w, hw, hle, heq⟩ := ha.workflowLog head hmem
            rw [hstored] at hw
            obtain ⟨hvalid, hfits⟩ := h stored rfl w hw
            obtain ⟨e, he, hejob, herevision⟩ := hfits head hmem hjob
            -- the head reaches the revision of the workflow, and so is its event
            have hrevision : head.revision = w.revision :=
              le_antisymm hle (herevision ▸ hgreatest e he hejob)
            have hhead := heq hrevision
            have hworkflow : parseFieldWorkflow host head.workflow = .ok w := by
              rw [hhead]
              exact parseFieldWorkflow_of hvalid
            rw [bind_of hworkflow, check_of]
            · rfl
            · exact ⟨w, hw, hrevision, by rw [hhead]; rfl, rfl⟩

/-! ## Agreement -/

/-- The intents are the rows as hydration reads them. -/
def Reads (intents rows : Table String CaptureIntent (·.captureId)) (acknowledged : List String) :
    Prop :=
  ∀ k, intents.get? k = (rows.get? k).map (readIntent acknowledged)

def IntentsRead (l : SQLiteLedger) : Prop :=
  Reads l.memory.intents l.database.captureIntents l.database.captureAcknowledgements

theorem agrees_iff (ha : Aligned l) :
    Agrees host l ↔ IntentsRead l ∧ SessionReads host l.database := by
  constructor
  · rintro ⟨m, hm, hexposes⟩
    obtain ⟨hsession, hintents, -⟩ := hydrate_ok hm
    refine ⟨fun k => by rw [← hexposes.intents, hintents], (hydrateSession_iff ha).mp ?_⟩
    rw [hsession, hexposes.session, ha.session]
  · rintro ⟨hread, hsession⟩
    have hsession := (hydrateSession_iff ha).mpr hsession
    obtain ⟨m, hm⟩ : ∃ m, hydrate host l.database = .ok m := by
      unfold hydrate
      rw [bind_of hsession]
      exact ⟨_, rfl⟩
    obtain ⟨hsession', hintents, hartifacts, hqueue, -, hevents⟩ := hydrate_ok hm
    rw [hsession] at hsession'
    refine ⟨m, hm, ?_⟩
    exact {
      intents := fun k => by rw [hintents, hread k]
      artifacts := fun k => by rw [hartifacts, ha.artifacts]
      queue := fun k => by rw [hqueue, ha.queue]
      events := by rw [hevents, events_sorted ha.numbered, ha.events]
      session := by rw [ha.session, ← Except.ok.inj hsession'] }

/-! ## One call -/

section Reads

variable {t u u' : Table String CaptureIntent (·.captureId)} {acknowledged acknowledged' : List String}

/-- Only the key written needs to be looked at. -/
theorem reads_put_iff (h : Reads t u acknowledged) (intent : CaptureIntent)
    (hrows : ∀ k, k ≠ intent.captureId → u'.get? k = u.get? k)
    (hacknowledged : ∀ k, k ≠ intent.captureId → (k ∈ acknowledged' ↔ k ∈ acknowledged)) :
    Reads (t.put intent) u' acknowledged' ↔
      (u'.get? intent.captureId).map (readIntent acknowledged') = some intent := by
  constructor
  · intro hreads
    have hk := hreads intent.captureId
    rw [Table.get?_put_self] at hk
    exact hk.symm
  · intro hk k
    by_cases heq : k = intent.captureId
    · rw [heq, Table.get?_put_self, hk]
    · rw [Table.get?_put_of_ne _ _ heq, h k, hrows k heq]
      refine Option.map_congr fun row hrow => ?_
      have hid : row.captureId = k := Table.key_of_get? (Option.mem_def.mp hrow)
      simp only [readIntent, hid, hacknowledged k heq]

/-- A reserved intent reads its row. -/
theorem Reads.row (h : Reads t u acknowledged) {k : String} {intent : CaptureIntent}
    (hintent : t.get? k = some intent) :
    ∃ row, u.get? k = some row ∧ readIntent acknowledged row = intent ∧ row.captureId = k := by
  rw [h k] at hintent
  obtain ⟨row, hrow, hreads⟩ := Option.map_eq_some_iff.mp hintent
  exact ⟨row, hrow, hreads, Table.key_of_get? hrow⟩

end Reads

theorem begin_reads {intent : CaptureIntent} (ha : Aligned l) (hread : IntentsRead l)
    (h : l.beginIntent fails intent = .ok l') : IntentsRead l' := by
  obtain ⟨-, hinsertable, rfl⟩ := beginIntent_ok h
  -- a fresh identity is not acknowledged
  have hfresh : intent.captureId ∉ l.database.captureAcknowledgements := by
    intro hmem
    have hsome := ha.acknowledged _ hmem
    rw [hinsertable.fresh] at hsome
    cases hsome
  refine (reads_put_iff hread intent (fun _ hk => Table.get?_put_of_ne _ _ hk)
    fun _ _ => Iff.rfl).mpr ?_
  rw [Table.get?_put_self, Option.map_some, readIntent, if_neg hfresh]

theorem commit_reads_iff {intent : CaptureIntent} {artifact : DurableArtifact}
    (hread : IntentsRead l)
    (hintent : l.memory.intents.get? artifact.captureId = some intent) :
    IntentsRead (committed l intent artifact) ↔
      intent.failureCode = none ∧
        artifact.captureId ∉ l.database.captureAcknowledgements := by
  obtain ⟨row, hrow, rfl, hid⟩ := hread.row hintent
  obtain ⟨t, ht, hget⟩ := updateIntent_spec
    { l.database with
      captureArtifacts := l.database.captureArtifacts.put artifact
      captureQueue := l.database.captureQueue.put (uploadItem artifact) }
    artifact.captureId .durable none
  unfold committed
  dsimp only
  rw [ht]
  show Reads (l.memory.intents.put _) t l.database.captureAcknowledgements ↔ _
  refine (reads_put_iff hread _ (fun k hk => ?_) fun _ _ => Iff.rfl).trans ?_
  · rw [hget, if_neg]
    rwa [← hid]
  · dsimp only [readIntent]
    rw [hget, if_pos hid, hid, hrow]
    by_cases hacknowledged : artifact.captureId ∈ l.database.captureAcknowledgements <;>
      simp [readIntent, hid, hacknowledged, eq_comm]

theorem mark_reads_iff {captureId : String} {state : CaptureIntentState} {code : Option String}
    {current : CaptureIntent} (hread : IntentsRead l)
    (hcurrent : l.memory.intents.get? captureId = some current) :
    Reads
        (l.memory.intents.put
          { current with state := state, failureCode := code.or current.failureCode })
        (marked l.database captureId state code).captureIntents
        (marked l.database captureId state code).captureAcknowledgements ↔
      if state = .acknowledged then code = none ∨ code = current.failureCode
      else captureId ∉ l.database.captureAcknowledgements ∧
        (code = none → current.failureCode = none) := by
  obtain ⟨row, hrow, rfl, hid⟩ := hread.row hcurrent
  by_cases hstate : state = .acknowledged
  · rw [marked, if_pos hstate, if_pos hstate]
    refine (reads_put_iff hread _ (fun _ _ => rfl) fun k hk => ?_).trans ?_
    · rw [mem_acknowledge]
      refine ⟨fun h => h.resolve_left fun heq => hk ?_, .inr⟩
      rw [heq]
      exact hid.symm
    · dsimp only [readIntent]
      rw [hid, hrow]
      have hmem : captureId ∈ acknowledge l.database.captureAcknowledgements captureId :=
        mem_acknowledge.mpr (.inl rfl)
      cases code <;> simp [readIntent, hid, hmem, hstate, eq_comm]
  · obtain ⟨t, ht, hget⟩ := updateIntent_spec l.database captureId state code
    rw [marked, if_neg hstate, if_neg hstate, ht]
    refine (reads_put_iff hread _ (fun k hk => ?_) fun _ _ => Iff.rfl).trans ?_
    · rw [hget, if_neg]
      rwa [← hid]
    · dsimp only [readIntent]
      rw [hget, if_pos hid, hid, hrow]
      by_cases hacknowledged : captureId ∈ l.database.captureAcknowledgements <;>
        cases code <;> simp [readIntent, hid, hacknowledged, hstate, eq_comm]

theorem save_reads_iff {snapshot : FieldSessionSnapshot} :
    SessionReads host { l.database with
        fieldSession := some snapshot
        fieldWorkflowEvents := l.database.fieldWorkflowEvents ++
          appendedWorkflow (SQLiteLedger.workflowOf l.memory.fieldSession) snapshot } ↔
      Restorable host l (.saveFieldSession snapshot) := by
  unfold SessionReads Restorable
  simp only [Option.some.injEq, forall_eq']
  refine forall₂_congr fun workflow hworkflow => and_congr_right fun _ => ?_
  by_cases hchanged : SQLiteLedger.workflowChanged
      (SQLiteLedger.workflowOf l.memory.fieldSession) snapshot.workflow
  · -- the event appended is the head
    refine iff_of_true (fun _ _ _ => ?_) fun h => absurd hchanged h
    refine ⟨SQLiteLedger.workflowEvent snapshot.jobId workflow, List.mem_append_right _ ?_, rfl, rfl⟩
    rw [appendedWorkflow, if_pos hchanged, hworkflow]
    exact List.mem_singleton_self _
  · rw [appendedWorkflow, if_neg hchanged, List.append_nil]
    exact ⟨fun h _ => h, fun h => h hchanged⟩

/-- **One call.** An accepted call leaves a ledger that can be read back
exactly if it met its condition. -/
theorem agrees_exec_iff {c : LedgerCall} (ha : Aligned l) (hagrees : Agrees host l)
    (h : l.exec fails c = .ok l') : Agrees host l' ↔ Restorable host l c := by
  rw [agrees_iff (aligned_exec ha h)]
  obtain ⟨hread, hsession⟩ := (agrees_iff ha).mp hagrees
  cases c with
  | beginIntent intent =>
      have hbegin := begin_reads ha hread h
      obtain ⟨-, -, rfl⟩ := beginIntent_ok h
      exact iff_of_true ⟨hbegin, hsession⟩ trivial
  | commitDurableCapture captureId artifact =>
      obtain ⟨intent, hintent, rfl, -, ⟨hexisting, rfl⟩ | ⟨hnone, -, -, rfl⟩⟩ := commit_ok h
      · refine iff_of_true ⟨hread, hsession⟩ fun _ _ hnone => ?_
        rw [hexisting] at hnone
        cases hnone
      · obtain ⟨t, ht, -⟩ := updateIntent_spec
          { l.database with
            captureArtifacts := l.database.captureArtifacts.put artifact
            captureQueue := l.database.captureQueue.put (uploadItem artifact) }
          artifact.captureId .durable none
        have hsame : SessionReads host (committed l intent artifact).database := by
          unfold committed
          dsimp only
          rw [ht]
          exact hsession
        rw [and_iff_left hsame, commit_reads_iff hread hintent]
        constructor
        · intro hcondition other hother _
          rw [hintent] at hother
          cases hother
          exact hcondition
        · exact fun hcondition => hcondition intent hintent hnone
  | applyQueueEvent captureId event =>
      obtain ⟨current, state, -, -, rfl⟩ := applyQueueEvent_ok h
      obtain ⟨t, ht, -⟩ := updateQueue_spec l.database captureId state
      rw [ht]
      exact iff_of_true ⟨hread, hsession⟩ trivial
  | markIntent captureId state code =>
      obtain ⟨current, hcurrent, -, rfl⟩ := markIntent_ok h
      have hsame : SessionReads host (marked l.database captureId state code) := by
        unfold marked
        split
        · exact hsession
        · obtain ⟨t, ht, -⟩ := updateIntent_spec l.database captureId state code
          rw [ht]
          exact hsession
      refine (and_iff_left hsame).trans ((mark_reads_iff hread hcurrent).trans ?_)
      constructor
      · intro hcondition other hother
        rw [hcurrent] at hother
        cases hother
        exact hcondition
      · exact fun hcondition => hcondition current hcurrent
  | recordManualNote note =>
      obtain ⟨-, -, -, -, rfl⟩ := recordManualNote_ok h
      exact iff_of_true ⟨hread, hsession⟩ trivial
  | recordPerformanceSample sample =>
      obtain ⟨-, -, -, rfl⟩ := recordPerformanceSample_ok h
      exact iff_of_true ⟨hread, hsession⟩ trivial
  | saveFieldSession snapshot =>
      obtain ⟨-, -, rfl⟩ := saveFieldSession_ok h
      exact (and_iff_right hread).trans save_reads_iff

/-! ## Whole runs -/

/-- A restarted ledger is aligned with its database. -/
theorem aligned_restart {m : Memory} (ha : Aligned l) (h : hydrate host l.database = .ok m) :
    Aligned { l with memory := m } := by
  obtain ⟨hsession, hintents, hartifacts, hqueue, hsamples, hevents⟩ := hydrate_ok h
  exact { ha with
    artifacts := hartifacts
    queue := hqueue
    samples := hsamples
    events := hevents.trans (events_sorted ha.numbered)
    session := hydrateSession_same hsession
    intents := by
      intro k
      show (m.intents.get? k).map _ = _
      rw [hintents, Option.map_map]
      rfl }

theorem aligned_next (ha : Aligned l) (step : LedgerStep) : Aligned (l.next host step) := by
  cases step with
  | call fails c =>
      cases hexec : l.exec fails c with
      | ok l' => simpa only [SQLiteLedger.next, hexec] using aligned_exec ha hexec
      | error e => simpa only [SQLiteLedger.next, hexec] using ha
  | restart =>
      cases hhydrate : hydrate host l.database with
      | ok m => simpa only [SQLiteLedger.next, hhydrate] using aligned_restart ha hhydrate
      | error e => simpa only [SQLiteLedger.next, hhydrate] using ha

theorem agrees_next_iff (ha : Aligned l) (hagrees : Agrees host l) (step : LedgerStep) :
    Agrees host (l.next host step) ↔ KeepsRestorable host l step := by
  cases step with
  | call fails c =>
      cases hexec : l.exec fails c with
      | ok l' =>
          simp only [SQLiteLedger.next, KeepsRestorable, hexec, Except.ok.injEq, forall_eq']
          exact agrees_exec_iff ha hagrees hexec
      | error e =>
          simp only [SQLiteLedger.next, KeepsRestorable, hexec]
          exact iff_of_true hagrees fun _ => nofun
  | restart =>
      refine iff_of_true ?_ trivial
      obtain ⟨m, hm, -⟩ := hagrees
      simp only [SQLiteLedger.next, hm]
      exact ⟨m, hm, fun _ => rfl, fun _ => rfl, fun _ => rfl, rfl, rfl⟩

theorem agrees_empty (host : Js.Host) : Agrees host .empty :=
  (agrees_iff aligned_empty).mpr ⟨fun _ => rfl, fun _ => nofun⟩

theorem aligned_ledgerAfter (host : Js.Host) (steps : List LedgerStep) :
    Aligned (ledgerAfter host steps) := by
  induction steps using List.reverseRecOn with
  | nil => exact aligned_empty
  | append_singleton steps step ih =>
      rw [ledgerAfter, List.foldl_append]
      exact aligned_next ih step

/-- **Hydration round trip.** Throughout a run a fresh ledger hydrated from the
database exposes what the ledger exposes, exactly if every accepted call of the
run meets its condition. -/
theorem hydration_round_trip_iff (host : Js.Host) (steps : List LedgerStep) :
    (∀ before after, steps = before ++ after → Agrees host (ledgerAfter host before)) ↔
      ∀ before step after, steps = before ++ step :: after →
        KeepsRestorable host (ledgerAfter host before) step :=
  TSys.throughout_iff (SQLiteLedger.next host) Aligned (Agrees host) (KeepsRestorable host)
    (fun _ step ha => aligned_next ha step)
    (fun _ step ha hagrees => agrees_next_iff ha hagrees step) aligned_empty (agrees_empty host)
    steps

namespace Sample

def intent : CaptureIntent where
  areaId := "area"
  captureId := "capture"
  capturedAt := "2026-07-14T08:00:00.000Z"
  deviceId := "device"
  failureCode := none
  jobId := "job"
  kind := .photo
  sequence := 1
  state := .pending

def artifact : DurableArtifact where
  byteLength := 2048
  captureId := "capture"
  directorySync := .synced
  fileUri := "file:///durable/capture.capture"
  queueLane := .photo_upload
  sha256 := "eeeeeeeeeeeeeeeeeeeeeeeeeeeeeeeeeeeeeeeeeeeeeeeeeeeeeeeeeeeeeeee"

/-- A capture is acknowledged; later its file is missing. -/
def lostAfterAcknowledgement : List LedgerStep :=
  [.call false (.beginIntent intent), .call false (.commitDurableCapture "capture" artifact),
    .call false (.markIntent "capture" .acknowledged none),
    .call false (.markIntent "capture" .evidence_at_risk (some "final_missing"))]

/-- The acknowledgement receipt outlives the risk: a fresh ledger reads the
intent as acknowledged. -/
theorem risk_not_read_back :
    ¬ ∀ (host : Js.Host) (steps : List LedgerStep), Agrees host (ledgerAfter host steps) := by
  intro h
  have hread := ((agrees_iff (aligned_ledgerAfter .plain lostAfterAcknowledgement)).mp
    (h .plain lostAfterAcknowledgement)).1 "capture"
  have hmemory : ((ledgerAfter .plain lostAfterAcknowledgement).memory.intents.get?
      "capture").map (·.state) = some .evidence_at_risk := by decide
  have hrow : (((ledgerAfter .plain lostAfterAcknowledgement).database.captureIntents.get?
      "capture").map (readIntent (ledgerAfter .plain
        lostAfterAcknowledgement).database.captureAcknowledgements)).map (·.state) =
      some .acknowledged := by decide
  rw [← hread, hmemory] at hrow
  cases hrow

end Sample

end InspectionHub.Capture
