import InspectionHub.Capture.Acceptance
import InspectionHub.Capture.Hydration
import InspectionHub.Capture.InMemoryLedger

/-!
# The in-memory ledger as a stand-in

Both ledgers start empty and take the same calls, none of which the storage
fails. The one stands in for the other on a call if both accept it or both
reject it and show the same intents, artifacts, queue rows and events after it.
The database checks what no line of the in-memory ledger does, so this is
exactly a condition on the calls.
-/

namespace InspectionHub.Capture

open Domain (bind_ok bind_of)

structure Ledgers where
  inMemory : InMemoryLedger
  sqlite : SQLiteLedger

def Ledgers.empty : Ledgers := ⟨.empty, .empty⟩

/-- A rejected call leaves the SQLite ledger as it is. -/
def SQLiteLedger.outcome (l : SQLiteLedger) :
    Except LedgerError SQLiteLedger → SQLiteLedger × Except LedgerError Unit
  | .ok next => (next, .ok ())
  | .error e => (l, .error e)

namespace Ledgers

variable (w : Ledgers) (c : LedgerCall)

def next : Ledgers where
  inMemory := (w.inMemory.exec c).1
  sqlite := (w.sqlite.outcome (w.sqlite.exec false c)).1

/-- The ledgers after some calls. -/
def run (calls : List LedgerCall) : Ledgers := calls.foldl next w

end Ledgers

/-! ## The condition -/

/-- The checks of an artifact that both ledgers make. -/
def Identified (captureId : String) (artifact : DurableArtifact) : Prop :=
  artifact.captureId = captureId ∧ 0 < artifact.byteLength ∧
    Js.isHexDigest artifact.sha256 = true ∧ Js.startsWith artifact.fileUri "file://" = true

/-- Both ledgers with one memory. -/
def twins (m : Memory) (notes : Table String ManualNote (·.noteId)) (db : Database) : Ledgers :=
  ⟨⟨m, notes, false⟩, ⟨db, m⟩⟩

/-- What links the notes in memory and the tables of the database. -/
structure Linked (m : Memory) (notes : Table String ManualNote (·.noteId)) (db : Database) :
    Prop where
  aligned : Aligned ⟨db, m⟩
  notes : ∀ k, notes.get? k = db.manualNotes.get? k
  synced : ∀ k artifact, db.captureArtifacts.get? k = some artifact →
    artifact.directorySync = .synced

/-- The ledgers show the same and are linked. -/
def InStep (w : Ledgers) : Prop := ∃ m notes db, w = twins m notes db ∧ Linked m notes db

variable {m m' : Memory} {notes notes' : Table String ManualNote (·.noteId)} {db db' : Database}
  {c : LedgerCall}

/-- What the in-memory ledger asks of a workflow that follows another. -/
def Follows (current next : FieldWorkflowSnapshot) : Prop :=
  ¬ (next.revision < current.revision ∨
    (current.revision < next.revision ∧ next.revision ≠ current.revision + 1) ∨
    (next.revision = current.revision ∧ next ≠ current))

instance (current next : FieldWorkflowSnapshot) : Decidable (Follows current next) :=
  inferInstanceAs (Decidable (¬ _))

namespace Sample

end Sample

end InspectionHub.Capture
