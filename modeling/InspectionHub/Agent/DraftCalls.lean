import InspectionHub.Agent.Stores
import InspectionHub.Lib.Latest
import InspectionHub.Lib.TSys

/-!
# Overlapping calls on the drafts

`InMemoryProvisionalDraftRepository` of `packages/agent/src/repository.ts`, with
its calls cut where they wait for the packet repository: `insertIfCurrent` and
`updateIfCurrent` look at the stored drafts, ask whether the packet is current,
and write when the answer arrives. Any other call may come in between.

An insert writes over what another insert of its run wrote while it waited, and
an update writes its own status over a stale mark.
-/

namespace InspectionHub.Agent

structure DraftRepository where
  records : OMap String ProvisionalDraftRecord
  identities : OMap String AgentRunIdentity

abbrev DraftTx (α : Type) := Tx Thrown DraftRepository α

namespace DraftRepository

/-! ## The calls, up to their question and from its answer on -/

def assertRunIdentity (expected actual : AgentRunIdentity) : DraftTx Unit :=
  Tx.throwIf (expected ≠ actual) .runIdentityConflict

def bindIdentity (identity : AgentRunIdentity) : DraftTx Unit := do
  let s ← get
  match s.identities.get? identity.runId with
  | some current => assertRunIdentity current identity
  | none => set { s with identities := s.identities.set identity.runId identity }

def bindAndGet (identity : AgentRunIdentity) : DraftTx (Option ProvisionalDraftRecord) := do
  bindIdentity identity
  match (← get).records.get? identity.runId with
  | none => return none
  | some record =>
      assertRunIdentity record.toAgentRunIdentity identity
      return some record

/-- `insertIfCurrent`, up to its question. -/
def askInsert (record : ProvisionalDraftRecord) : DraftTx Unit := do
  bindIdentity record.toAgentRunIdentity
  Tx.throwIf ((← get).records.has record.runId = true)
    (.error "A model attempt cannot overwrite an existing provisional draft")

/-- The record of the run, when it has the draft expected. -/
def requireVersion (runId expectedDraftHash message : String) : DraftTx ProvisionalDraftRecord := do
  match (← get).records.get? runId with
  | none => throw (.error message)
  | some current =>
      Tx.throwIf (current.draftHash ≠ expectedDraftHash) (.error message)
      return current

/-- `updateIfCurrent`, up to its question. -/
def askUpdate (runId expectedDraftHash : String) : DraftTx ProvisionalDraftRecord :=
  requireVersion runId expectedDraftHash
    "Draft compare-and-set rejected a missing or changed version"

/-- `assertPacketCurrent`, once the packet repository has answered. -/
def assertPacketCurrent (answer : Except Thrown Bool) : DraftTx Unit := do
  let current ← Tx.ofExcept answer
  Tx.throwIf (current = false) .stalePacket

def store (runId : String) (record : ProvisionalDraftRecord) : DraftTx Unit :=
  modify fun s => { s with records := s.records.set runId record }

/-- `insertIfCurrent`, from the answer on. -/
def finishInsert (record : ProvisionalDraftRecord) (answer : Except Thrown Bool) :
    DraftTx ProvisionalDraftRecord := do
  assertPacketCurrent answer
  store record.runId record
  return record

/-- The update leaves the draft of the run and its identity alone. -/
def SameDraft (next current : ProvisionalDraftRecord) : Prop :=
  next.runId = current.runId ∧ next.draftHash = current.draftHash ∧
    next.toAgentRunIdentity = current.toAgentRunIdentity

instance (next current : ProvisionalDraftRecord) : Decidable (SameDraft next current) :=
  inferInstanceAs (Decidable (_ ∧ _ ∧ _))

/-- `updateIfCurrent`, from the answer on. -/
def finishUpdate (runId : String) (current : ProvisionalDraftRecord)
    (update : ProvisionalDraftRecord → ProvisionalDraftRecord) (answer : Except Thrown Bool) :
    DraftTx ProvisionalDraftRecord := do
  assertPacketCurrent answer
  Tx.throwIf (¬ SameDraft (update current) current)
    (.error "A checkpoint update cannot change immutable draft identity")
  store runId (update current)
  return update current

def markStale (runId expectedDraftHash : String) : DraftTx ProvisionalDraftRecord := do
  let current ← requireVersion runId expectedDraftHash
    "Stale marker compare-and-set rejected a missing or changed draft"
  store runId { current with status := .stale }
  return { current with status := .stale }

end DraftRepository

/-! ## Schedules -/

/-- Where a call stands. -/
inductive DraftCall where
  /-- `insertIfCurrent` waits for its answer. -/
  | inserting (record : ProvisionalDraftRecord)
  /-- `updateIfCurrent` waits for its answer, holding the record it read. -/
  | updating (runId : String) (current : ProvisionalDraftRecord)
      (update : ProvisionalDraftRecord → ProvisionalDraftRecord)
  | inserted (record : ProvisionalDraftRecord)
  | updated (record : ProvisionalDraftRecord)
  | threw (error : Thrown)

/-- A record that was stored under a run, and whether an insert stored it. -/
structure DraftWrite where
  runId : String
  record : ProvisionalDraftRecord
  byInsert : Bool

/-- The repository, its calls by number, and all that was stored, in order. -/
structure DraftCalls where
  repository : DraftRepository
  calls : List DraftCall
  writes : List DraftWrite

inductive DraftAction where
  | insertIfCurrent (record : ProvisionalDraftRecord)
  | updateIfCurrent (runId expectedDraftHash : String)
      (update : ProvisionalDraftRecord → ProvisionalDraftRecord)
  /-- The packet repository answers the call of the given number. -/
  | resume (call : Nat) (answer : Except Thrown Bool)
  | markStale (runId expectedDraftHash : String)
  | bindAndGet (identity : AgentRunIdentity)

namespace DraftCalls

open DraftRepository

def empty : DraftCalls := ⟨⟨.empty, .empty⟩, [], []⟩

/-- A new call, in the state its first part leaves it in. -/
def begin {α : Type} (s : DraftCalls) (wait : α → DraftCall) :
    EStateM.Result Thrown DraftRepository α → DraftCalls
  | .ok a repository => { s with repository, calls := s.calls ++ [wait a] }
  | .error e repository => { s with repository, calls := s.calls ++ [.threw e] }

/-- The end of a call: what it returned has been stored. -/
def finish (s : DraftCalls) (call : Nat) (runId : String) (byInsert : Bool)
    (done : ProvisionalDraftRecord → DraftCall) :
    EStateM.Result Thrown DraftRepository ProvisionalDraftRecord → DraftCalls
  | .ok record repository =>
      { repository
        calls := s.calls.set call (done record)
        writes := s.writes ++ [⟨runId, record, byInsert⟩] }
  | .error e repository => { s with repository, calls := s.calls.set call (.threw e) }

def next (s : DraftCalls) : DraftAction → DraftCalls
  | .insertIfCurrent record => s.begin (fun _ => .inserting record) (askInsert record s.repository)
  | .updateIfCurrent runId expectedDraftHash update =>
      s.begin (fun current => .updating runId current update)
        (askUpdate runId expectedDraftHash s.repository)
  | .resume call answer =>
      match s.calls[call]? with
      | some (.inserting record) =>
          s.finish call record.runId true .inserted (finishInsert record answer s.repository)
      | some (.updating runId current update) =>
          s.finish call runId false .updated (finishUpdate runId current update answer s.repository)
      | _ => s
  | .markStale runId expectedDraftHash =>
      match DraftRepository.markStale runId expectedDraftHash s.repository with
      | .ok record repository =>
          { s with repository, writes := s.writes ++ [⟨runId, record, false⟩] }
      | .error _ repository => { s with repository }
  | .bindAndGet identity =>
      { s with repository := Tx.after (DraftRepository.bindAndGet identity s.repository) }

/-- An insert stores the first record of its run, and what is stored after a
stale record is stale. -/
def Intact (s : DraftCalls) : Prop :=
  s.writes.Pairwise fun v w => v.runId = w.runId →
    w.byInsert = false ∧ (v.record.status = .stale → w.record.status = .stale)

/-- The call that is told its packet is current wins no race: an insert whose
run no other insert has been told the same, or an update that keeps the mark
of a run that is stale by now. -/
def RaceFree (s : DraftCalls) : DraftAction → Prop
  | .resume call (.ok true) =>
      match s.calls[call]? with
      | some (.inserting record) => ∀ other, .inserted other ∈ s.calls → other.runId ≠ record.runId
      | some (.updating runId current update) =>
          SameDraft (update current) current →
          ((s.repository.records.get? runId).map (·.status) = some .stale →
            (update current).status = .stale)
      | _ => True
  | _ => True

end DraftCalls

end InspectionHub.Agent
