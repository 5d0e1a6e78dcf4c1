import InspectionHub.Capture.Acceptance
import InspectionHub.Capture.Coordinator
import InspectionHub.Capture.Hydration

/-!
# Recovery after a crash

A process may end between any two steps of its captures. The next one hydrates
the ledger and reconciles it with the files it finds: afterwards exactly the
intents are acknowledged whose valid file was found and is the one the ledger
holds. What carries this is an invariant of the rows: an artifact sits at the
path of its capture and has a queue row, and a queue row belongs to an
artifact or to a note.
-/

namespace InspectionHub.Capture

open Domain (bind_ok bind_of)

variable {host : Js.Host} {root : String} {l l' : SQLiteLedger} {fails : Bool} {db db' : Database}

/-! ## What the native module promises -/

/-- `rootURL.appendingPathComponent("\(captureId).capture")`. -/
def finalUri (root captureId : String) : String := root ++ captureId ++ ".capture"

theorem finalUri_injective (root : String) : Function.Injective (finalUri root) := by
  intro a b h
  have hlist := congrArg String.toList h
  simp only [finalUri, String.toList_append] at hlist
  exact String.toList_inj.mp (List.append_cancel_left (List.append_cancel_right hlist))

theorem finalUri_local (hroot : Js.startsWith root "file://" = true) (captureId : String) :
    Js.startsWith (finalUri root captureId) "file://" = true := by
  simp only [Js.startsWith, finalUri, String.toList_append, List.isPrefixOf_iff_prefix,
    List.append_assoc] at *
  exact hroot.trans (List.prefix_append _ _)

/-- The file that `persistCapture` publishes for a capture. -/
structure Published (root captureId : String) (file : ObservedFinalFile) : Prop where
  identity : file.captureId = captureId
  place : file.fileUri = finalUri root captureId

/-- The finals of `scanCaptureResidues`: one file of a name, under its path, and
none of them valid and empty. -/
structure Scanned (root : String) (finals : List FinalFileObservation) : Prop where
  names : (finals.map (·.artifact.captureId)).Nodup
  fileUri : ∀ f ∈ finals, f.artifact.fileUri = finalUri root f.artifact.captureId
  synced : ∀ f ∈ finals, f.artifact.directorySync = .synced
  sha256 : ∀ f ∈ finals, Js.isHexDigest f.artifact.sha256 = true
  bytes : ∀ f ∈ finals, f.integrity = .valid → 0 < f.artifact.byteLength

/-! ## Steps of an application -/

/-- A call of the application beside its captures: an artifact it commits lies
where the file port puts it, and no note has the identity of a capture. -/
def ProperCall (root : String) (db : Database) : LedgerCall → Prop
  | .beginIntent intent => db.manualNotes.get? intent.captureId = none
  | .commitDurableCapture _ artifact => artifact.fileUri = finalUri root artifact.captureId
  | .recordManualNote note => db.captureIntents.get? note.noteId = none
  | _ => True

/-- The step condition: identities are fresh and the file port keeps its
promise. -/
def Proper (root : String) (w : CaptureProcess) : CaptureStep → Prop
  | .start request fresh _ _ =>
      w.ledger.database.manualNotes.get? (request.captureId.getD fresh) = none
  | .persist i (.published file) => ∀ run ∈ w.runs[i]?, Published root run.captureId file
  | .call c _ => ProperCall root w.ledger.database c
  | _ => True

/-! ## Rows -/

/-- The invariant of a ledger's rows. -/
structure Rows (root : String) (db : Database) : Prop where
  placed : ∀ k artifact, db.captureArtifacts.get? k = some artifact →
    artifact.fileUri = finalUri root k
  queued : ∀ k, (db.captureArtifacts.get? k).isSome → (db.captureQueue.get? k).isSome
  owned : ∀ k, (db.captureQueue.get? k).isSome →
    (db.captureArtifacts.get? k).isSome ∨ (db.manualNotes.get? k).isSome
  apart : ∀ k, (db.manualNotes.get? k).isSome → db.captureIntents.get? k = none

theorem rows_empty (root : String) : Rows root .empty := ⟨nofun, nofun, nofun, nofun⟩

/-- Every row of the first database is one of the second. -/
structure Grows (db db' : Database) : Prop where
  artifacts : ∀ k artifact, db.captureArtifacts.get? k = some artifact →
    db'.captureArtifacts.get? k = some artifact
  queue : ∀ k, (db.captureQueue.get? k).isSome → (db'.captureQueue.get? k).isSome
  intents : ∀ k, (db.captureIntents.get? k).isSome → (db'.captureIntents.get? k).isSome
  acknowledged : ∀ id ∈ db.captureAcknowledgements, id ∈ db'.captureAcknowledgements

theorem Grows.trans {db'' : Database} (h : Grows db db') (h' : Grows db' db'') :
    Grows db db'' where
  artifacts k a hget := h'.artifacts k a (h.artifacts k a hget)
  queue k hsome := h'.queue k (h.queue k hsome)
  intents k hsome := h'.intents k (h.intents k hsome)
  acknowledged id hid := h'.acknowledged id (h.acknowledged id hid)

theorem Grows.refl (db : Database) : Grows db db :=
  ⟨fun _ _ h => h, fun _ h => h, fun _ h => h, fun _ h => h⟩

/-- Artifacts and notes are the same, and intents and queue rows have the same
keys. -/
structure SameRows (db db' : Database) : Prop where
  artifacts : ∀ k, db'.captureArtifacts.get? k = db.captureArtifacts.get? k
  notes : ∀ k, db'.manualNotes.get? k = db.manualNotes.get? k
  queue : ∀ k, (db'.captureQueue.get? k).isSome = (db.captureQueue.get? k).isSome
  intents : ∀ k, (db'.captureIntents.get? k).isSome = (db.captureIntents.get? k).isSome

theorem SameRows.grows (h : SameRows db db')
    (hack : ∀ id ∈ db.captureAcknowledgements, id ∈ db'.captureAcknowledgements) :
    Grows db db' where
  artifacts k _ hget := (h.artifacts k).trans hget
  queue k hsome := (h.queue k).trans hsome
  intents k hsome := (h.intents k).trans hsome
  acknowledged := hack

theorem SameRows.rows (h : SameRows db db') (hr : Rows root db) : Rows root db' where
  placed k _ hget := hr.placed k _ ((h.artifacts k).symm.trans hget)
  queued k hsome := by
    rw [h.artifacts] at hsome
    rw [h.queue]
    exact hr.queued k hsome
  owned k hsome := by
    rw [h.queue] at hsome
    rw [h.artifacts, h.notes]
    exact hr.owned k hsome
  apart k hsome := by
    rw [h.notes] at hsome
    have hnone := h.intents k
    rw [hr.apart k hsome] at hnone
    simpa using hnone

theorem sameRows_updateIntent (db : Database) (captureId : String) (state : CaptureIntentState)
    (code : Option String) (events : List LocalCaptureEvent) :
    SameRows db ((db.updateIntent captureId state code).logged events) := by
  obtain ⟨t, ht, hget⟩ := updateIntent_spec db captureId state code
  rw [ht]
  refine ⟨fun _ => rfl, fun _ => rfl, fun _ => rfl, fun k => ?_⟩
  show (t.get? k).isSome = _
  rw [hget]
  split
  · rw [Option.isSome_map]
  · rfl

theorem sameRows_updateQueue (db : Database) (captureId : String) (state : CaptureQueueState)
    (events : List LocalCaptureEvent) :
    SameRows db ((db.updateQueue captureId state).logged events) := by
  obtain ⟨t, ht, hget⟩ := updateQueue_spec db captureId state
  rw [ht]
  refine ⟨fun _ => rfl, fun _ => rfl, fun k => ?_, fun _ => rfl⟩
  show (t.get? k).isSome = _
  rw [hget]
  split
  · rw [Option.isSome_map]
  · rfl

theorem sameRows_marked (db : Database) (captureId : String) (state : CaptureIntentState)
    (code : Option String) (events : List LocalCaptureEvent) :
    SameRows db ((marked db captureId state code).logged events) := by
  unfold marked
  split
  · exact ⟨fun _ => rfl, fun _ => rfl, fun _ => rfl, fun _ => rfl⟩
  · exact sameRows_updateIntent db captureId state code events

/-! ## Calls -/

/-- Putting a row keeps the rows there are. -/
theorem isSome_put {κ υ : Type} [DecidableEq κ] {key : υ → κ} (t : Table κ υ key) (v : υ) (k : κ) :
    ((t.put v).get? k).isSome ↔ k = key v ∨ (t.get? k).isSome := by
  rw [Table.get?_put]
  split
  · next h => simp [h]
  · next h => simp [h]

variable {intent : CaptureIntent}

theorem begin_rows (hr : Rows root l.database)
    (hfresh : l.database.manualNotes.get? intent.captureId = none)
    (h : l.beginIntent fails intent = .ok l') :
    Rows root l'.database ∧ Grows l.database l'.database := by
  obtain ⟨-, -, rfl⟩ := beginIntent_ok h
  constructor
  · refine { hr with apart := fun k hsome => ?_ }
    show Table.get? (l.database.captureIntents.put intent) k = none
    rw [Table.get?_put]
    split
    · next hk =>
        have hnote : (l.database.manualNotes.get? k).isSome := hsome
        rw [hk, hfresh] at hnote
        cases hnote
    · exact hr.apart k hsome
  · exact { Grows.refl _ with intents := fun k hsome => (isSome_put _ _ k).mpr (.inr hsome) }

variable {captureId : String}

theorem commit_rows {artifact : DurableArtifact} (ha : Aligned l) (hr : Rows root l.database)
    (hplace : artifact.fileUri = finalUri root artifact.captureId)
    (h : l.commitDurableCapture fails captureId artifact = .ok l') :
    Rows root l'.database ∧ Grows l.database l'.database := by
  obtain ⟨intent, hintent, rfl, -, ⟨-, rfl⟩ | ⟨hnone, -, -, rfl⟩⟩ := commit_ok h
  · exact ⟨hr, .refl _⟩
  let db : Database := { l.database with
    captureArtifacts := l.database.captureArtifacts.put artifact
    captureQueue := l.database.captureQueue.put (uploadItem artifact) }
  have hsame : SameRows db (committed l intent artifact).database :=
    sameRows_updateIntent db artifact.captureId .durable none _
  have hrows : Rows root db := {
    placed := by
      intro k stored hget
      change (l.database.captureArtifacts.put artifact).get? k = some stored at hget
      rw [Table.get?_put] at hget
      split at hget
      · next hk =>
          cases hget
          rw [hk, hplace]
      · exact hr.placed k stored hget
    queued := by
      intro k hsome
      refine (isSome_put _ _ k).mpr ?_
      rcases (isSome_put _ _ k).mp hsome with hk | hsome
      · exact .inl hk
      · exact .inr (hr.queued k hsome)
    owned := by
      intro k hsome
      rcases (isSome_put _ _ k).mp hsome with hk | hsome
      · exact .inl ((isSome_put _ _ k).mpr (.inl hk))
      · exact (hr.owned k hsome).imp_left fun h => (isSome_put _ _ k).mpr (.inr h)
    apart := hr.apart }
  refine ⟨hsame.rows hrows, ?_⟩
  have hgrows : Grows l.database db := {
    artifacts := by
      intro k stored hget
      show (l.database.captureArtifacts.put artifact).get? k = some stored
      rw [Table.get?_put]
      split
      · next hk =>
          rw [hk, ← ha.artifacts, hnone] at hget
          cases hget
      · exact hget
    queue := fun k hsome => (isSome_put _ _ k).mpr (.inr hsome)
    intents := fun _ hsome => hsome
    acknowledged := fun _ hid => hid }
  refine hgrows.trans (hsame.grows fun id hid => ?_)
  obtain ⟨t, ht, -⟩ := updateIntent_spec db artifact.captureId .durable none
  show id ∈ (Database.updateIntent db artifact.captureId .durable none).captureAcknowledgements
  rw [ht]
  exact hid

theorem note_rows {note : ManualNote} (hr : Rows root l.database)
    (hfresh : l.database.captureIntents.get? note.noteId = none)
    (h : l.recordManualNote fails note = .ok l') :
    Rows root l'.database ∧ Grows l.database l'.database := by
  obtain ⟨-, -, -, -, rfl⟩ := recordManualNote_ok h
  constructor
  · exact {
      placed := hr.placed
      queued := fun k hsome => (isSome_put _ _ k).mpr (.inr (hr.queued k hsome))
      owned := by
        intro k hsome
        rcases (isSome_put _ _ k).mp hsome with hk | hsome
        · exact .inr ((isSome_put _ _ k).mpr (.inl hk))
        · exact (hr.owned k hsome).imp_right fun h => (isSome_put _ _ k).mpr (.inr h)
      apart := by
        intro k hsome
        rcases (isSome_put _ _ k).mp hsome with hk | hsome
        · rw [hk]
          exact hfresh
        · exact hr.apart k hsome }
  · exact { Grows.refl _ with queue := fun k hsome => (isSome_put _ _ k).mpr (.inr hsome) }

theorem mark_rows {state : CaptureIntentState} {code : Option String} (hr : Rows root l.database)
    (h : l.markIntent fails captureId state code = .ok l') :
    Rows root l'.database ∧ Grows l.database l'.database := by
  obtain ⟨current, -, -, rfl⟩ := markIntent_ok h
  have hsame := sameRows_marked l.database captureId state code
    [l.database.event captureId .capture_intent_state_changed code]
  refine ⟨hsame.rows hr, hsame.grows fun id hid => ?_⟩
  show id ∈ (marked l.database captureId state code).captureAcknowledgements
  unfold marked
  split
  · exact mem_acknowledge.mpr (.inr hid)
  · obtain ⟨t, ht, -⟩ := updateIntent_spec l.database captureId state code
    rw [ht]
    exact hid

/-- **The rows.** A proper call keeps the invariant and every row. -/
theorem exec_rows {c : LedgerCall} (ha : Aligned l) (hr : Rows root l.database)
    (hc : ProperCall root l.database c) (h : l.exec fails c = .ok l') :
    Rows root l'.database ∧ Grows l.database l'.database := by
  cases c with
  | beginIntent intent => exact begin_rows hr hc h
  | commitDurableCapture captureId artifact => exact commit_rows ha hr hc h
  | applyQueueEvent captureId event =>
      obtain ⟨current, state, -, -, rfl⟩ := applyQueueEvent_ok h
      have hsame := sameRows_updateQueue l.database captureId state
        [l.database.event captureId .queue_state_changed (some event.text)]
      refine ⟨hsame.rows hr, hsame.grows fun id hid => ?_⟩
      obtain ⟨t, ht, -⟩ := updateQueue_spec l.database captureId state
      show id ∈ (l.database.updateQueue captureId state).captureAcknowledgements
      rw [ht]
      exact hid
  | markIntent captureId state code => exact mark_rows hr h
  | recordManualNote note => exact note_rows hr hc h
  | recordPerformanceSample sample =>
      obtain ⟨-, -, -, rfl⟩ := recordPerformanceSample_ok h
      exact ⟨{ hr with }, { Grows.refl _ with }⟩
  | saveFieldSession snapshot =>
      obtain ⟨-, -, rfl⟩ := saveFieldSession_ok h
      exact ⟨{ hr with }, { Grows.refl _ with }⟩

/-! ## One intent -/

/-- A valid file of the capture was found that is the one the ledger holds, and
its upload is queued. -/
def Found (finals : List FinalFileObservation) (m : Memory) (id : String) : Prop :=
  ∃ f ∈ finals, f.artifact.captureId = id ∧ f.integrity = .valid ∧
    (∃ artifact, m.artifacts.get? id = some artifact ∧
      artifactIdentityMatches artifact f.artifact) ∧
    (m.queue.get? id).isSome

/-- An intent is there, and acknowledged exactly when its file was found. -/
def Settled (finals : List FinalFileObservation) (m : Memory) (id : String) : Prop :=
  ∃ intent, m.intents.get? id = some intent ∧
    (intent.state = .acknowledged ↔ Found finals m id)

/-- What the maps hold for other captures is the same. -/
structure Elsewhere (id : String) (m m' : Memory) : Prop where
  intents : ∀ k, k ≠ id → m'.intents.get? k = m.intents.get? k
  artifacts : ∀ k, k ≠ id → m'.artifacts.get? k = m.artifacts.get? k
  queue : ∀ k, k ≠ id → m'.queue.get? k = m.queue.get? k

theorem Elsewhere.refl (id : String) (m : Memory) : Elsewhere id m m :=
  ⟨fun _ _ => rfl, fun _ _ => rfl, fun _ _ => rfl⟩

variable {id : String}

theorem Elsewhere.trans {m m' m'' : Memory} (h : Elsewhere id m m') (h' : Elsewhere id m' m'') :
    Elsewhere id m m'' where
  intents k hk := (h'.intents k hk).trans (h.intents k hk)
  artifacts k hk := (h'.artifacts k hk).trans (h.artifacts k hk)
  queue k hk := (h'.queue k hk).trans (h.queue k hk)

theorem Elsewhere.settled {id k : String} {m m' : Memory} {finals : List FinalFileObservation}
    (h : Elsewhere id m m') (hk : k ≠ id) (hs : Settled finals m k) : Settled finals m' k := by
  obtain ⟨intent, hintent, hstate⟩ := hs
  refine ⟨intent, (h.intents k hk).trans hintent, ?_⟩
  rw [hstate, Found, Found, h.artifacts k hk, h.queue k hk]

/-- The last of a list without repeated keys is the only one. -/
theorem lastOf_eq_some_iff {α : Type} {key : α → String} {l : List α} (hl : (l.map key).Nodup)
    {a : α} : lastOf key l id = some a ↔ a ∈ l ∧ key a = id := by
  unfold lastOf
  constructor
  · intro h
    have hmem := List.mem_of_find?_eq_some h
    have hkey := List.find?_some h
    exact ⟨List.mem_reverse.mp hmem, by simpa using hkey⟩
  · rintro ⟨hmem, hkey⟩
    have hsome : (l.reverse.find? fun a => key a = id).isSome := by
      rw [List.find?_isSome]
      exact ⟨a, List.mem_reverse.mpr hmem, by simpa using hkey⟩
    obtain ⟨b, hb⟩ := Option.isSome_iff_exists.mp hsome
    have hbmem := List.mem_reverse.mp (List.mem_of_find?_eq_some hb)
    have hbkey : key b = id := by simpa using List.find?_some hb
    rw [hb, List.inj_on_of_nodup_map hl hbmem hmem (hbkey.trans hkey.symm)]

/-- What holds of the ledger throughout a reconciliation. -/
structure Sound (root : String) (l : SQLiteLedger) : Prop where
  aligned : Aligned l
  rows : Rows root l.database

/-- The ledger after the marks and commits of one intent. -/
structure StepTo (root : String) (id : String) (r r' : Reconciling) : Prop where
  sound : Sound root r'.ledger
  elsewhere : Elsewhere id r.ledger.memory r'.ledger.memory

variable {r r' : Reconciling} {finals : List FinalFileObservation}
  {partials : List PartialFileObservation}

theorem mark_spec (hs : Sound root r.ledger)
    (hintent : r.ledger.memory.intents.get? id = some intent) (state : CaptureIntentState)
    (code : Option String) (actions : List ReconciliationAction) :
    ∃ r', r.mark id state code actions = .ok r' ∧ StepTo root id r r' ∧
      (∃ intent', r'.ledger.memory.intents.get? id = some intent' ∧ intent'.state = state) ∧
      r'.ledger.memory.artifacts = r.ledger.memory.artifacts ∧
      r'.ledger.memory.queue = r.ledger.memory.queue := by
  obtain ⟨l', hl'⟩ := markIntent_of state code hs.aligned hintent
  have halign := aligned_mark hs.aligned hl'
  have hrows := (mark_rows hs.rows hl').1
  obtain ⟨current, hcurrent, -, hshape⟩ := markIntent_ok hl'
  obtain rfl := Option.some.inj (hintent.symm.trans hcurrent)
  have hkey : intent.captureId = id := Table.key_of_get? hintent
  refine ⟨_, bind_of hl' _, ⟨⟨halign, hrows⟩, ⟨fun k hk => ?_, ?_, ?_⟩⟩, ?_, ?_, ?_⟩
  · show l'.memory.intents.get? k = _
    rw [hshape]
    exact Table.get?_put_of_ne _ _ (fun h => hk (h.trans hkey))
  · intro k _
    show l'.memory.artifacts.get? k = _
    rw [hshape]
  · intro k _
    show l'.memory.queue.get? k = _
    rw [hshape]
  · refine ⟨{ intent with state := state, failureCode := code.or intent.failureCode }, ?_, rfl⟩
    show l'.memory.intents.get? id = _
    rw [hshape, ← hkey]
    exact Table.get?_put_self _ _
  · show l'.memory.artifacts = _
    rw [hshape]
  · show l'.memory.queue = _
    rw [hshape]

/-- Nothing stands in the way of adopting a file of the port. -/
theorem adopt_spec (hroot : Js.startsWith root "file://" = true) (hscan : Scanned root finals)
    (hs : Sound root l) {f : FinalFileObservation} (hf : f ∈ finals)
    (hvalid : f.integrity = .valid)
    (hintent : l.memory.intents.get? f.artifact.captureId = some intent)
    (hnone : l.memory.artifacts.get? f.artifact.captureId = none) (kind : CaptureKind) :
    ∃ l', l.commitDurableCapture false f.artifact.captureId
        (durableArtifactFromObservation f.artifact kind) = .ok l' := by
  have hplace := hscan.fileUri f hf
  have hrow : l.database.captureArtifacts.get? f.artifact.captureId = none := by
    rw [← hs.aligned.artifacts]
    exact hnone
  have hreserved : (l.database.captureIntents.get? f.artifact.captureId).isSome := by
    rw [← hs.aligned.reserved_iff, hintent]
    rfl
  refine commit_of hs.aligned hintent rfl ⟨hscan.synced f hf, hscan.bytes f hf hvalid,
    hscan.sha256 f hf, ?_⟩ hnone ?_ ?_
  · show Js.startsWith f.artifact.fileUri "file://" = true
    rw [hplace]
    exact finalUri_local hroot _
  · -- another artifact lies at the path of its own capture
    intro row hrow' heq
    have hget := (l.database.captureArtifacts.mem_values_iff row).mp hrow'
    have hplaced := hs.rows.placed _ row hget
    have huri : row.fileUri = f.artifact.fileUri := heq
    have hsame := finalUri_injective root (hplaced.symm.trans (huri.trans hplace))
    rw [hsame, hrow] at hget
    cases hget
  · cases hqueue : l.database.captureQueue.get? f.artifact.captureId with
    | none => rfl
    | some item =>
        rcases hs.rows.owned _ (by rw [hqueue]; rfl) with hartifact | hnote
        · rw [hrow] at hartifact
          cases hartifact
        · rw [hs.rows.apart _ hnote] at hreserved
          cases hreserved

/-- A mark that says whether the file was found settles the intent. -/
theorem mark_settles (hs : Sound root r.ledger)
    (hintent : r.ledger.memory.intents.get? id = some intent) (state : CaptureIntentState)
    (hstate : state = .acknowledged ↔ Found finals r.ledger.memory id) (code : Option String)
    (actions : List ReconciliationAction) :
    ∃ r', r.mark id state code actions = .ok r' ∧ StepTo root id r r' ∧
      Settled finals r'.ledger.memory id := by
  obtain ⟨r', hmark, hstep, ⟨marked, hmarked, hsame⟩, hartifacts, hqueue⟩ :=
    mark_spec hs hintent state code actions
  refine ⟨r', hmark, hstep, marked, hmarked, ?_⟩
  rw [hsame, hstate, Found, Found, hartifacts, hqueue]

/-- A capture at risk: the mark and the set. -/
theorem mark_at_risk (hs : Sound root r.ledger)
    (hintent : r.ledger.memory.intents.get? id = some intent)
    (hlost : ¬ Found finals r.ledger.memory id) (code : Option String)
    (actions : List ReconciliationAction) :
    ∃ r', (do
        let r ← r.mark id .evidence_at_risk code actions
        return r.atRisk id) = .ok r' ∧ StepTo root id r r' ∧
      Settled finals r'.ledger.memory id := by
  obtain ⟨r', hmark, hstep, hsettled⟩ := mark_settles hs hintent .evidence_at_risk
    ⟨nofun, fun h => absurd h hlost⟩ code actions
  exact ⟨r'.atRisk id, bind_of hmark _, ⟨hstep.sound, hstep.elsewhere⟩, hsettled⟩

/-- A stored artifact has its queue row. -/
theorem Sound.queued {artifact : DurableArtifact} (hs : Sound root l)
    (h : l.memory.artifacts.get? id = some artifact) : (l.memory.queue.get? id).isSome := by
  rw [hs.aligned.queue]
  refine hs.rows.queued id ?_
  rw [← hs.aligned.artifacts, h]
  rfl

theorem matches_observed (f : FinalFileObservation) (kind : CaptureKind) :
    artifactIdentityMatches (durableArtifactFromObservation f.artifact kind) f.artifact :=
  ⟨rfl, rfl, rfl, rfl⟩

/-- Adopting a final commits it and settles its intent. -/
theorem adopt_settles (hroot : Js.startsWith root "file://" = true) (hscan : Scanned root finals)
    (hs : Sound root r.ledger) {f : FinalFileObservation} (hf : f ∈ finals)
    (hid : f.artifact.captureId = intent.captureId) (hvalid : f.integrity = .valid)
    (hintent : r.ledger.memory.intents.get? intent.captureId = some intent)
    (hnone : r.ledger.memory.artifacts.get? intent.captureId = none)
    (actions : List ReconciliationAction) :
    ∃ r', (do
        let ledger ← r.ledger.commitDurableCapture false intent.captureId
          (durableArtifactFromObservation f.artifact intent.kind)
        { r with ledger := ledger }.mark intent.captureId .acknowledged none actions) = .ok r' ∧
      StepTo root intent.captureId r r' ∧
      Settled finals r'.ledger.memory intent.captureId := by
  rw [← hid] at hintent hnone
  obtain ⟨l', hl'⟩ := adopt_spec hroot hscan hs hf hvalid hintent hnone intent.kind
  have hs' : Sound root l' := ⟨aligned_commit hs.aligned hl',
    (commit_rows hs.aligned hs.rows (hscan.fileUri f hf) hl').1⟩
  obtain ⟨current, hcurrent, -, -, ⟨hstored, -⟩ | ⟨-, -, -, hshape⟩⟩ := commit_ok hl'
  · cases hnone.symm.trans hstored
  have hkey : current.captureId = f.artifact.captureId := Table.key_of_get? hcurrent
  have hartifact : l'.memory.artifacts.get? f.artifact.captureId =
      some (durableArtifactFromObservation f.artifact intent.kind) := by
    rw [hshape]
    exact Table.get?_put_self _ _
  have hreserved : l'.memory.intents.get? f.artifact.captureId =
      some { current with state := .durable } := by
    rw [hshape, ← hkey]
    exact Table.get?_put_self _ _
  have helsewhere : Elsewhere f.artifact.captureId r.ledger.memory l'.memory := by
    rw [hshape]
    refine ⟨fun k hk => ?_, fun k hk => ?_, fun k hk => ?_⟩
    · exact Table.get?_put_of_ne _ _ (fun h => hk (h.trans hkey))
    · exact Table.get?_put_of_ne _ _ hk
    · exact Table.get?_put_of_ne _ _ hk
  have hfound : Found finals l'.memory f.artifact.captureId :=
    ⟨f, hf, rfl, hvalid, ⟨_, hartifact, matches_observed f _⟩, hs'.queued hartifact⟩
  obtain ⟨r', hmark, hstep, hsettled⟩ := mark_settles (r := { r with ledger := l' }) hs' hreserved
    .acknowledged ⟨fun _ => hfound, fun _ => rfl⟩ none actions
  rw [← hid]
  exact ⟨r', (bind_of hl' _).trans hmark,
    ⟨hstep.sound, helsewhere.trans hstep.elsewhere⟩, hsettled⟩

variable (partials) in
/-- **One intent.** Whatever was found of a capture, its intent is settled, and
nothing else changes. -/
theorem reconcileIntent_spec (hroot : Js.startsWith root "file://" = true)
    (hscan : Scanned root finals) (hs : Sound root r.ledger)
    (hintent : r.ledger.memory.intents.get? intent.captureId = some intent) :
    ∃ r', reconcileIntent finals partials r intent = .ok r' ∧
      StepTo root intent.captureId r r' ∧
      Settled finals r'.ledger.memory intent.captureId := by
  have honly : ∀ f, lastOf (·.artifact.captureId) finals intent.captureId = some f ↔
      f ∈ finals ∧ f.artifact.captureId = intent.captureId :=
    fun f => lastOf_eq_some_iff hscan.names
  unfold reconcileIntent
  dsimp only
  cases hfinal : lastOf (·.artifact.captureId) finals intent.captureId with
  | some f =>
      obtain ⟨hf, hid⟩ := (honly f).mp hfinal
      have hunique : ∀ g ∈ finals, g.artifact.captureId = intent.captureId → g = f := by
        intro g hg hgid
        exact Option.some.inj (((honly g).mpr ⟨hg, hgid⟩).symm.trans hfinal)
      dsimp only
      by_cases hvalid : f.integrity = .valid
      · rw [if_neg (not_not.mpr hvalid)]
        cases hartifact : r.ledger.memory.artifacts.get? intent.captureId with
        | none => exact adopt_settles hroot hscan hs hf hid hvalid hintent hartifact _
        | some artifact =>
            dsimp only
            by_cases hmatch : artifactIdentityMatches artifact f.artifact
            · have hfound : Found finals r.ledger.memory intent.captureId :=
                ⟨f, hf, hid, hvalid, ⟨artifact, hartifact, hmatch⟩, hs.queued hartifact⟩
              rw [if_neg (not_not.mpr hmatch)]
              by_cases hstate : intent.state = .acknowledged
              · rw [if_neg (not_not.mpr hstate)]
                exact ⟨r, rfl, ⟨hs, .refl _ _⟩, intent, hintent, fun _ => hfound, fun _ => hstate⟩
              · rw [if_pos hstate]
                exact mark_settles hs hintent _ ⟨fun _ => hfound, fun _ => rfl⟩ _ _
            · rw [if_pos hmatch]
              refine mark_at_risk hs hintent ?_ _ _
              rintro ⟨g, hg, hgid, -, ⟨stored, hstored, hsame⟩, -⟩
              obtain rfl := hunique g hg hgid
              obtain rfl := Option.some.inj (hartifact.symm.trans hstored)
              exact hmatch hsame
      · rw [if_pos hvalid]
        refine mark_at_risk hs hintent ?_ _ _
        rintro ⟨g, hg, hgid, hgvalid, -⟩
        obtain rfl := hunique g hg hgid
        exact hvalid hgvalid
  | none =>
      -- no final: whatever else is there, nothing was found
      have hlost : ¬ Found finals r.ledger.memory intent.captureId := by
        rintro ⟨g, hg, hgid, -⟩
        cases ((honly g).mpr ⟨hg, hgid⟩).symm.trans hfinal
      dsimp only
      cases lastOf (·.captureId) partials intent.captureId with
      | some observedPartial =>
          cases r.ledger.memory.artifacts.get? intent.captureId with
          | some artifact => exact mark_at_risk hs hintent hlost _ _
          | none =>
              exact mark_settles hs hintent .quarantined ⟨nofun, fun h => absurd h hlost⟩ _ _
      | none =>
          cases r.ledger.memory.artifacts.get? intent.captureId with
          | some artifact => exact mark_at_risk hs hintent hlost _ _
          | none =>
              exact mark_settles hs hintent .failed ⟨nofun, fun h => absurd h hlost⟩ _ _

/-! ## All intents -/

variable (partials) in
/-- Intents of distinct captures are settled one after another. -/
theorem foldlM_settles (hroot : Js.startsWith root "file://" = true)
    (hscan : Scanned root finals) (intents : List CaptureIntent)
    (hnodup : (intents.map (·.captureId)).Nodup) {r : Reconciling} (hs : Sound root r.ledger)
    (hintents : ∀ intent ∈ intents,
      r.ledger.memory.intents.get? intent.captureId = some intent) :
    ∃ r', intents.foldlM (reconcileIntent finals partials) r = .ok r' ∧ Sound root r'.ledger ∧
      (∀ id ∈ intents.map (·.captureId), Settled finals r'.ledger.memory id) ∧
      (∀ id ∉ intents.map (·.captureId),
        r'.ledger.memory.intents.get? id = r.ledger.memory.intents.get? id ∧
          (Settled finals r.ledger.memory id → Settled finals r'.ledger.memory id)) := by
  induction intents generalizing r with
  | nil => exact ⟨r, rfl, hs, nofun, fun id _ => ⟨rfl, fun h => h⟩⟩
  | cons intent intents ih =>
      rw [List.map_cons, List.nodup_cons] at hnodup
      obtain ⟨r₁, hfirst, hstep, hsettled⟩ := reconcileIntent_spec partials hroot hscan
        hs (hintents intent List.mem_cons_self)
      have hothers : ∀ other ∈ intents,
          r₁.ledger.memory.intents.get? other.captureId = some other := by
        intro other hother
        have hne : other.captureId ≠ intent.captureId := by
          intro heq
          exact hnodup.1 (heq ▸ List.mem_map_of_mem hother)
        rw [hstep.elsewhere.intents _ hne]
        exact hintents other (List.mem_cons_of_mem _ hother)
      obtain ⟨r', hrest, hs', hin, hout⟩ := ih hnodup.2 hstep.sound hothers
      refine ⟨r', ?_, hs', ?_, ?_⟩
      · rw [List.foldlM_cons]
        exact (bind_of hfirst _).trans hrest
      · intro id hid
        rw [List.map_cons, List.mem_cons] at hid
        rcases hid with rfl | hid
        · exact (hout _ hnodup.1).2 hsettled
        · exact hin id hid
      · intro id hid
        rw [List.map_cons, List.mem_cons, not_or] at hid
        obtain ⟨hget, hkeep⟩ := hout id hid.2
        exact ⟨hget.trans (hstep.elsewhere.intents id hid.1),
          fun h => hkeep (hstep.elsewhere.settled hid.1 h)⟩

/-- What concerns no intent only adds to the report. -/
theorem foreign_ledger (intentIds : List String) (finals : List FinalFileObservation)
    (partials : List PartialFileObservation) (r : Reconciling) :
    (partials.foldl (reconcileForeignPartial intentIds)
      (finals.foldl (reconcileForeignFinal intentIds) r)).ledger = r.ledger := by
  have hfinals : ∀ r : Reconciling,
      (finals.foldl (reconcileForeignFinal intentIds) r).ledger = r.ledger := by
    induction finals with
    | nil => exact fun _ => rfl
    | cons f finals ih =>
        intro r
        rw [List.foldl_cons, ih, reconcileForeignFinal]
        split <;> rfl
  have hpartials : ∀ r : Reconciling,
      (partials.foldl (reconcileForeignPartial intentIds) r).ledger = r.ledger := by
    induction partials with
    | nil => exact fun _ => rfl
    | cons f partials ih =>
        intro r
        rw [List.foldl_cons, ih, reconcileForeignPartial]
        split <;> rfl
  rw [hpartials, hfinals]

/-- A ledger reconciled with its files: the intents are the ones it held, and
exactly those are acknowledged whose file was found. -/
structure Recovered (root : String) (finals : List FinalFileObservation) (m : Memory)
    (l : SQLiteLedger) : Prop where
  sound : Sound root l
  intents : ∀ id, (l.memory.intents.get? id).isSome = (m.intents.get? id).isSome
  settled : ∀ id intent, l.memory.intents.get? id = some intent →
    (intent.state = .acknowledged ↔ Found finals l.memory id)

variable (partials) in
theorem reconcile_recovers (hroot : Js.startsWith root "file://" = true)
    (hscan : Scanned root finals) (hs : Sound root l) :
    ∃ l' result, reconcileCaptureStorage l finals partials = .ok (l', result) ∧
      Recovered root finals l.memory l' := by
  have hmem : ∀ intent ∈ l.memory.intents.values,
      l.memory.intents.get? intent.captureId = some intent :=
    fun intent h => (l.memory.intents.mem_values_iff intent).mp h
  obtain ⟨r', hfold, hs', hin, hout⟩ := foldlM_settles partials hroot hscan
    l.memory.intents.values l.memory.intents.nodup_keys_values (r := ⟨l, [], []⟩) hs hmem
  have hkeys : ∀ id, id ∈ l.memory.intents.values.map (·.captureId) ↔
      (l.memory.intents.get? id).isSome := by
    intro id
    rw [← Table.exists_value_iff]
    exact List.mem_map
  have hforeign := foreign_ledger (l.memory.intents.values.map (·.captureId)) finals partials r'
  refine ⟨_, _, bind_of hfold _, ?_⟩
  rw [hforeign]
  refine ⟨hs', fun id => ?_, fun id intent hintent => ?_⟩
  · by_cases hid : id ∈ l.memory.intents.values.map (·.captureId)
    · obtain ⟨intent, hintent, -⟩ := hin id hid
      rw [hintent, (hkeys id).mp hid]
      rfl
    · rw [(hout id hid).1]
  · by_cases hid : id ∈ l.memory.intents.values.map (·.captureId)
    · obtain ⟨intent', hintent', hstate⟩ := hin id hid
      obtain rfl := Option.some.inj (hintent'.symm.trans hintent)
      exact hstate
    · have hsome := (hout id hid).1.symm.trans hintent
      exact absurd ((hkeys id).mpr (Option.isSome_of_eq_some hsome)) hid

/-! ## Processes -/

/-- What a capture that returned or is about to holds in the database. -/
structure DurablyStored (db : Database) (captureId : String) : Prop where
  artifact : (db.captureArtifacts.get? captureId).isSome
  queue : (db.captureQueue.get? captureId).isSome
  intent : (db.captureIntents.get? captureId).isSome

/-- What stands behind the stage of a capture. -/
def Backed (root : String) (db : Database) (run : CaptureRun) : Prop :=
  match run.stage with
  | .committing artifact =>
      artifact.captureId = run.captureId ∧ artifact.fileUri = finalUri root run.captureId
  | .acknowledging _ => DurablyStored db run.captureId
  | .returned (.acknowledged captureId _ _ _) =>
      captureId = run.captureId ∧ DurablyStored db run.captureId ∧
        run.captureId ∈ db.captureAcknowledgements
  | _ => True

theorem DurablyStored.grows (h : DurablyStored db id) (hg : Grows db db') :
    DurablyStored db' id where
  artifact := by
    obtain ⟨artifact, hartifact⟩ := Option.isSome_iff_exists.mp h.artifact
    rw [hg.artifacts id artifact hartifact]
    rfl
  queue := hg.queue id h.queue
  intent := hg.intents id h.intent

variable {run : CaptureRun}

theorem Backed.grows (h : Backed root db run) (hg : Grows db db') : Backed root db' run := by
  unfold Backed at *
  split
  · next hstage => rwa [hstage] at h
  · next hstage =>
      rw [hstage] at h
      exact h.grows hg
  · next hstage =>
      rw [hstage] at h
      exact ⟨h.1, h.2.1.grows hg, hg.acknowledged _ h.2.2⟩
  · trivial

/-- The invariant of a process. -/
structure CaptureProcess.Inv (root : String) (w : CaptureProcess) : Prop where
  sound : Sound root w.ledger
  backed : ∀ run ∈ w.runs, Backed root w.ledger.database run

/-- A stage that claims nothing, whatever the machine makes of the event. -/
theorem backed_sending {event : CaptureMachineEvent} {next : CaptureRun → CaptureStage}
    (h : ∀ machine, Backed root db
      { run with machine := machine, stage := next { run with machine := machine } }) :
    Backed root db (run.sending event next) := by
  unfold CaptureRun.sending
  split
  · next machine _ => exact h machine
  · trivial

theorem start_inv {request : CaptureRequest} {fresh : String} {startedAt : ℚ} (hs : Sound root l)
    (hfresh : l.database.manualNotes.get? (request.captureId.getD fresh) = none)
    (h : CaptureRun.start l fails request fresh startedAt = (l', run)) :
    Sound root l' ∧ Grows l.database l'.database ∧ Backed root l'.database run := by
  unfold CaptureRun.start at h
  split at h
  · cases h
    exact ⟨hs, .refl _, backed_sending fun _ => trivial⟩
  dsimp only at h
  split at h
  · cases h
    exact ⟨hs, .refl _, trivial⟩
  split at h
  · cases h
    exact ⟨hs, .refl _, backed_sending fun _ => trivial⟩
  · next hbegin =>
      cases h
      obtain ⟨hrows, hgrows⟩ := begin_rows hs.rows hfresh hbegin
      exact ⟨⟨aligned_begin hs.aligned hbegin, hrows⟩, hgrows, backed_sending fun _ => trivial⟩

theorem persist_backed {outcome : PersistOutcome}
    (h : ∀ file, outcome = .published file → Published root run.captureId file) :
    Backed root db (run.persist outcome) := by
  unfold CaptureRun.persist
  split
  · trivial
  · trivial
  · next file =>
      split
      · trivial
      · refine backed_sending fun machine => ?_
        have hfile := h file rfl
        exact ⟨hfile.identity, hfile.place⟩

/-- A ledger that holds an artifact holds it durably. -/
theorem durablyStored_of_artifact (hs : Sound root l)
    (hintent : (l.memory.intents.get? id).isSome) (h : (l.memory.artifacts.get? id).isSome) :
    DurablyStored l.database id := by
  rw [hs.aligned.artifacts] at h
  exact ⟨h, hs.rows.queued id h, (hs.aligned.reserved_iff id).mp hintent⟩

/-- Once its commit is accepted, a capture is stored durably. -/
theorem commit_durable {artifact : DurableArtifact} (hs : Sound root l')
    (h : l.commitDurableCapture fails captureId artifact = .ok l') :
    DurablyStored l'.database captureId := by
  obtain ⟨intent, hintent, hkey, -, ⟨hstored, rfl⟩ | ⟨-, -, -, hshape⟩⟩ := commit_ok h
  · exact durablyStored_of_artifact hs (by rw [hintent]; rfl) (by rw [hstored]; rfl)
  · refine durablyStored_of_artifact hs ?_ ?_
    · rw [hshape]
      exact (isSome_put _ _ _).mpr (.inr (by rw [hintent]; rfl))
    · rw [hshape]
      exact (isSome_put _ _ _).mpr (.inl hkey.symm)

theorem advance_inv {run run' : CaptureRun} {now : ℚ} (hs : Sound root l)
    (hb : Backed root l.database run) (h : run.advance l fails now = (l', run')) :
    Sound root l' ∧ Grows l.database l'.database ∧ Backed root l'.database run' := by
  unfold CaptureRun.advance at h
  unfold Backed at hb
  split at h
  · -- a failure is marked
    split at h
    · cases h
      exact ⟨hs, .refl _, trivial⟩
    · next hmark =>
        cases h
        obtain ⟨hrows, hgrows⟩ := mark_rows hs.rows hmark
        exact ⟨⟨aligned_mark hs.aligned hmark, hrows⟩, hgrows, backed_sending fun _ => trivial⟩
  · -- the artifact is committed
    next artifact hstage =>
    rw [hstage] at hb
    split at h
    · cases h
      exact ⟨hs, .refl _, backed_sending fun _ => trivial⟩
    · next hcommit =>
        cases h
        obtain ⟨hrows, hgrows⟩ := commit_rows hs.aligned hs.rows
          (hb.2.trans (congrArg (finalUri root) hb.1.symm)) hcommit
        have hs' : Sound root l' := ⟨aligned_commit hs.aligned hcommit, hrows⟩
        exact ⟨hs', hgrows, commit_durable hs' hcommit⟩
  · -- the capture is acknowledged
    next queueLane hstage =>
    rw [hstage] at hb
    split at h
    · cases h
      exact ⟨hs, .refl _, trivial⟩
    · dsimp only at h
      split at h
      · cases h
        exact ⟨hs, .refl _, trivial⟩
      · next hmark =>
          cases h
          obtain ⟨hrows, hgrows⟩ := mark_rows hs.rows hmark
          refine ⟨⟨aligned_mark hs.aligned hmark, hrows⟩, hgrows, rfl, hb.grows hgrows, ?_⟩
          obtain ⟨current, -, -, rfl⟩ := markIntent_ok hmark
          exact mem_acknowledge.mpr (.inl rfl)
  · next hmark hcommit hack =>
      cases h
      exact ⟨hs, .refl _, hb⟩

/-- Writing one run back. -/
theorem backed_set {runs : List CaptureRun} {i : Nat} (h : ∀ run ∈ runs, Backed root db run)
    (hrun : Backed root db run) : ∀ other ∈ runs.set i run, Backed root db other := by
  intro other hother
  rcases List.mem_or_eq_of_mem_set hother with hother | rfl
  · exact h other hother
  · exact hrun

theorem next_inv {w : CaptureProcess} (hinv : w.Inv root) {step : CaptureStep}
    (hok : Proper root w step) : (w.next host step).Inv root := by
  -- the other runs stay as they are, on rows that grow
  have hstay : ∀ db', Grows w.ledger.database db' → ∀ run ∈ w.runs, Backed root db' run :=
    fun db' hgrows run hrun => (hinv.backed run hrun).grows hgrows
  cases step with
  | start request fresh startedAt fails =>
      obtain ⟨hs, hgrows, hrun⟩ := start_inv hinv.sound hok
        (show CaptureRun.start w.ledger fails request fresh startedAt = (_, _) from rfl)
      refine ⟨hs, fun run hmem => ?_⟩
      rcases List.mem_append.mp hmem with hmem | hmem
      · exact hstay _ hgrows run hmem
      · obtain rfl := List.mem_singleton.mp hmem
        exact hrun
  | persist i outcome =>
      cases hi : w.runs[i]? with
      | none =>
          simp only [CaptureProcess.next, hi]
          exact hinv
      | some run =>
          simp only [CaptureProcess.next, hi]
          split
          · refine ⟨hinv.sound, backed_set hinv.backed (persist_backed ?_)⟩
            rintro file rfl
            exact hok run hi
          · exact hinv
  | advance i now fails =>
      cases hi : w.runs[i]? with
      | none =>
          simp only [CaptureProcess.next, hi]
          exact hinv
      | some run =>
          simp only [CaptureProcess.next, hi]
          have hmem := List.mem_of_getElem? hi
          obtain ⟨hs, hgrows, hrun⟩ := advance_inv hinv.sound (hinv.backed run hmem)
            (show run.advance w.ledger fails now = (_, _) from rfl)
          exact ⟨hs, backed_set (hstay _ hgrows) hrun⟩
  | hookThrows i =>
      cases hi : w.runs[i]? with
      | none =>
          simp only [CaptureProcess.next, hi]
          exact hinv
      | some run =>
          simp only [CaptureProcess.next, hi]
          split
          · exact ⟨hinv.sound, backed_set hinv.backed trivial⟩
          · exact hinv
  | call c fails =>
      cases hexec : w.ledger.exec fails c with
      | error e =>
          simp only [CaptureProcess.next, hexec]
          exact hinv
      | ok l =>
          simp only [CaptureProcess.next, hexec]
          obtain ⟨hrows, hgrows⟩ := exec_rows hinv.sound.aligned hinv.sound.rows hok hexec
          exact ⟨⟨aligned_exec hinv.sound.aligned hexec, hrows⟩, hstay _ hgrows⟩
  | restart =>
      cases hhydrate : hydrate host w.ledger.database with
      | error e =>
          simp only [CaptureProcess.next, hhydrate]
          exact hinv
      | ok memory =>
          simp only [CaptureProcess.next, hhydrate]
          exact ⟨⟨aligned_restart hinv.sound.aligned hhydrate, hinv.sound.rows⟩, nofun⟩

theorem process_inv (host : Js.Host) (root : String) :
    (TSys.ofFun CaptureProcess.empty (CaptureProcess.next host)).Inductive (Proper root)
      (CaptureProcess.Inv root) where
  init := by
    rintro _ rfl
    exact ⟨⟨aligned_empty, rows_empty root⟩, nofun⟩
  step := by
    rintro w step _ hinv hok rfl
    exact next_inv hinv hok

/-- One artifact and one queue row of each capture, in memory and stored. -/
structure SingleRows (l : SQLiteLedger) : Prop where
  artifacts : (l.memory.artifacts.values.map (·.captureId)).Nodup
  queue : (l.memory.queue.values.map (·.captureId)).Nodup
  storedArtifacts : (l.database.captureArtifacts.values.map (·.captureId)).Nodup
  storedQueue : (l.database.captureQueue.values.map (·.captureId)).Nodup

theorem singleRows (l : SQLiteLedger) : SingleRows l :=
  ⟨l.memory.artifacts.nodup_keys_values, l.memory.queue.nodup_keys_values,
    l.database.captureArtifacts.nodup_keys_values, l.database.captureQueue.nodup_keys_values⟩

/-- **Crash recovery.** At every point of every run of a process, a capture that
has returned an acknowledgement is stored and acknowledged in the database; and
if the process ends there, whatever finals and partials are found, the next one
either cannot hydrate its session or recovers the ledger. -/
theorem crash_recovery_sound (host : Js.Host) {root : String}
    (hroot : Js.startsWith root "file://" = true) {w : CaptureProcess}
    (hw : (TSys.ofFun CaptureProcess.empty (CaptureProcess.next host)).Reachable (Proper root) w) :
    (∀ run ∈ w.runs, ∀ captureId ms lane trace,
        run.stage = .returned (.acknowledged captureId ms lane trace) →
          DurablyStored w.ledger.database captureId ∧
            captureId ∈ w.ledger.database.captureAcknowledgements) ∧
      SingleRows w.ledger ∧
      ∀ finals partials, Scanned root finals →
        (∃ e, hydrate host w.ledger.database = .error e) ∨
          ∃ m l result, hydrate host w.ledger.database = .ok m ∧
            recover host w.ledger.database finals partials = .ok (l, result) ∧
            Recovered root finals m l ∧ SingleRows l := by
  have hinv := (process_inv host root).invariant hw
  refine ⟨?_, singleRows _, ?_⟩
  · intro run hrun captureId ms lane trace hstage
    have hback := hinv.backed run hrun
    unfold Backed at hback
    rw [hstage] at hback
    obtain ⟨rfl, hstored, hacknowledged⟩ := hback
    exact ⟨hstored, hacknowledged⟩
  · intro finals partials hscan
    cases hhydrate : hydrate host w.ledger.database with
    | error e => exact .inl ⟨e, rfl⟩
    | ok m =>
        have hs : Sound root ⟨w.ledger.database, m⟩ :=
          ⟨aligned_restart hinv.sound.aligned hhydrate, hinv.sound.rows⟩
        obtain ⟨l, result, hreconcile, hrecovered⟩ := reconcile_recovers partials hroot hscan hs
        exact .inr ⟨m, l, result, rfl, (bind_of hhydrate _).trans hreconcile, hrecovered,
          singleRows l⟩

namespace Sample

def request : CaptureRequest where
  areaId := "area"
  captureId := none
  capturedAt := "2026-07-14T08:00:00.000Z"
  deviceId := "device"
  deviceState := some .enrolled
  jobId := "job"
  kind := .photo
  permission := .granted
  sequence := 1

/-- The file published for the capture. -/
def final : ObservedFinalFile where
  byteLength := 2048
  captureId := "capture"
  directorySync := .synced
  fileUri := "file:///captures/capture.capture"
  sha256 := artifact.sha256

/-- A capture whose file is published and not yet committed. -/
def publishedCapture : CaptureProcess :=
  (CaptureProcess.empty.next .plain (.start request "capture" 0 false)).next .plain
    (.persist 0 (.published final))

theorem publishedCapture_reachable :
    (TSys.ofFun CaptureProcess.empty (CaptureProcess.next .plain)).Reachable
      (Proper "file:///captures/") publishedCapture := by
  have hinit : (TSys.ofFun CaptureProcess.empty (CaptureProcess.next .plain)).Reachable
      (Proper "file:///captures/") CaptureProcess.empty := .init rfl
  have hfresh : Proper "file:///captures/" CaptureProcess.empty
      (.start request "capture" 0 false) := rfl
  refine (hinit.step hfresh rfl).step (a := .persist 0 (.published final)) ?_ rfl
  intro run hrun
  have hids : ((CaptureProcess.empty.next .plain (.start request "capture" 0 false)).runs.map
      (·.captureId)) = ["capture"] := by decide
  have hid : run.captureId ∈ ["capture"] := by
    rw [← hids]
    exact List.mem_map_of_mem (List.mem_of_getElem? hrun)
  rw [List.mem_singleton.mp hid]
  exact ⟨rfl, by decide⟩

/-- The published file is found and adopted. -/
theorem crash_recovery_sound_published :
    (∃ e, hydrate .plain publishedCapture.ledger.database = .error e) ∨
      ∃ m l result, hydrate .plain publishedCapture.ledger.database = .ok m ∧
        recover .plain publishedCapture.ledger.database [⟨final, .valid⟩] [] = .ok (l, result) ∧
        Recovered "file:///captures/" [⟨final, .valid⟩] m l ∧ SingleRows l :=
  (crash_recovery_sound .plain (by decide) publishedCapture_reachable).2.2 [⟨final, .valid⟩] []
    { names := by decide
      fileUri := by decide
      synced := by decide
      sha256 := by decide
      bytes := by decide }

end Sample

end InspectionHub.Capture
