import InspectionHub.Inspection.Investigation

/-!
# The inspections a phone keeps

`saveAggregate` of
`apps/mobile/src/investigations/local-inspection-repository.ts` and
`compareAndSet` of `sqlite-inspection-snapshot-port.ts`. A save checks its
revision, awaits a digest, and compares and sets in a transaction that excludes
every other. Each statement of the transaction is awaited; the transaction
works on tables of its own until it commits.
-/

namespace InspectionHub.Inspection

/-! ## Records -/

inductive LocalInspectionAggregateKind where
  | coverage
  | investigation
deriving DecidableEq

inductive LocalInspectionAggregate where
  | coverage (ledger : CoverageLedger)
  | investigation (state : Investigation)
deriving DecidableEq

namespace LocalInspectionAggregate

def kind : LocalInspectionAggregate → LocalInspectionAggregateKind
  | .coverage _ => .coverage
  | .investigation _ => .investigation

/-- The identity `saveCoverage` and `saveInvestigation` file it under. -/
def aggregateId : LocalInspectionAggregate → String
  | .coverage ledger => ledger.jobId
  | .investigation state => state.investigationId

def revision : LocalInspectionAggregate → Nat
  | .coverage ledger => ledger.revision
  | .investigation state => state.revision

end LocalInspectionAggregate

/-- `aggregate_kind, aggregate_id` -/
abbrev AggregateKey := LocalInspectionAggregateKind × String

structure LocalInspectionSnapshotRecord where
  key : AggregateKey
  aggregateRevision : Nat
  snapshotJson : String
  snapshotSha256 : String
  updatedAt : String
deriving DecidableEq

inductive LocalInspectionEventType where
  | area_coverage_initialized
  | area_coverage_recorded
  | investigation_area_changed
  | investigation_completed
  | investigation_evidence_attached
  | investigation_measurement_recorded
  | investigation_observation_recorded
  | investigation_paused
  | investigation_resumed
  | investigation_started
deriving DecidableEq

/-- The part of an event that the caller gives. -/
structure LocalInspectionEventInput where
  eventId : String
  eventType : LocalInspectionEventType
  occurredAt : String
  safeMetadataJson : String
deriving DecidableEq

structure LocalInspectionEventRecord extends LocalInspectionEventInput where
  key : AggregateKey
  aggregateRevision : Nat
  snapshotSha256 : String
deriving DecidableEq

/-- `primary key (event_id)`,
`unique (aggregate_kind, aggregate_id, aggregate_revision)` -/
def LocalInspectionEventRecord.clash (a b : LocalInspectionEventRecord) : Prop :=
  a.eventId = b.eventId ∨ (a.key = b.key ∧ a.aggregateRevision = b.aggregateRevision)

instance : DecidableRel LocalInspectionEventRecord.clash :=
  fun _ _ => inferInstanceAs (Decidable (_ ∨ _))

structure SaveInput where
  aggregate : LocalInspectionAggregate
  /-- Any number, or `null`. -/
  expectedStoredRevision : Option ℚ
  event : LocalInspectionEventInput
  updatedAt : String

/-- What `compareAndSet` is given. -/
structure CompareAndSet where
  expectedStoredRevision : Option ℚ
  snapshot : LocalInspectionSnapshotRecord
  event : LocalInspectionEventRecord
deriving DecidableEq

inductive SaveError where
  | revisionConflict
  | typeError (message : String)
  /-- An error of the digest or of the database. -/
  | port
  /-- The process ended before the save did. -/
  | stopped
deriving DecidableEq

/-! ## Metadata -/

/-- A value of the parsed metadata, by what is read of it. -/
inductive MetadataValue where
  | null
  | boolean
  | string (text : String)
  | number (finite : Bool)
  /-- An object or an array. -/
  | nested

/-- `JSON.parse`, by what is read of its result. -/
inductive ParsedMetadata where
  /-- It throws. -/
  | invalid
  /-- It is `null`, an array or no object. -/
  | notObject
  | entries (l : List (String × MetadataValue))

def allowedKeys : List String :=
  ["areaId", "artifactCount", "coverageState", "draftingDisposition", "measurementKind", "module",
    "moduleId", "outcome", "source", "status"]

/-- `/(?:file:|\/private\/|\\)/iu.test(text)` -/
def namesAPath (text : String) : Bool :=
  ["file:", "/private/", "\\"].any fun part =>
    decide (part.toList <:+: text.toList.map Char.toLower)

def assertSafeValue : MetadataValue → Except SaveError Unit
  | .nested => .error (.typeError "Local inspection event metadata values must be primitive")
  | .string text =>
      if 200 < Js.length text ∨ namesAPath text then
        .error (.typeError "Local inspection event metadata value is unsafe")
      else .ok ()
  | .number false => .error (.typeError "Local inspection event metadata value is unsafe")
  | _ => .ok ()

def assertSafeMetadata : ParsedMetadata → Except SaveError Unit
  | .invalid => .error (.typeError "Local inspection event safe metadata must be valid JSON")
  | .notObject => .error (.typeError "Local inspection event safe metadata must be an object")
  | .entries l => l.forM fun entry =>
      if entry.1 ∉ allowedKeys then
        .error (.typeError "Local inspection event metadata contains a non-allowlisted key")
      else assertSafeValue entry.2

/-! ## A save -/

/-- The functions of the language that a save calls. -/
structure SaveEnv where
  /-- `JSON.stringify(aggregate)` -/
  stringify : LocalInspectionAggregate → String
  parseMetadata : String → ParsedMetadata

variable (env : SaveEnv)

def requiredRevision : Option ℚ → ℚ
  | none => 0
  | some expectedStoredRevision => expectedStoredRevision + 1

/-- What is checked before the digest is awaited. -/
def checkSave (input : SaveInput) : Except SaveError Unit :=
  if (input.aggregate.revision : ℚ) ≠ requiredRevision input.expectedStoredRevision then
    .error .revisionConflict
  else assertSafeMetadata (env.parseMetadata input.event.safeMetadataJson)

/-- The call of `compareAndSet`, when the digest has come. -/
def SaveInput.compareAndSet (input : SaveInput) (snapshotSha256 : String) : CompareAndSet :=
  let key := (input.aggregate.kind, input.aggregate.aggregateId)
  { expectedStoredRevision := input.expectedStoredRevision
    snapshot :=
      { key
        aggregateRevision := input.aggregate.revision
        snapshotJson := env.stringify input.aggregate
        snapshotSha256
        updatedAt := input.updatedAt }
    event :=
      { input.event with
        key
        aggregateRevision := input.aggregate.revision
        snapshotSha256 } }

/-! ## The database -/

structure LocalTables where
  snapshots : OMap AggregateKey LocalInspectionSnapshotRecord
  events : List LocalInspectionEventRecord

/-- `select aggregate_revision …`, or `null`. -/
def LocalTables.currentRevision (tables : LocalTables) (key : AggregateKey) : Option Nat :=
  (tables.snapshots.get? key).map (·.aggregateRevision)

/-- `insert … on conflict do update`, within the check on the digest's length. -/
def LocalTables.upsert (tables : LocalTables) (snapshot : LocalInspectionSnapshotRecord) :
    Option LocalTables :=
  if snapshot.snapshotSha256.toList.length = 64 then
    some { tables with snapshots := tables.snapshots.set snapshot.key snapshot }
  else none

/-- `insert into local_inspection_events`, within its constraints. -/
def LocalTables.insertEvent (tables : LocalTables) (event : LocalInspectionEventRecord) :
    Option LocalTables :=
  if event.snapshotSha256.toList.length = 64 ∧ ∀ e ∈ tables.events, ¬ e.clash event then
    some { tables with events := tables.events ++ [event] }
  else none

/-- The statements of the transaction that are done. -/
inductive TransactionStage where
  | begun
  | matched
  | snapshotWritten
  | eventWritten
deriving DecidableEq

/-- The open transaction. -/
structure Transaction where
  /-- Whose it is. -/
  save : Nat
  input : CompareAndSet
  stage : TransactionStage
  /-- The tables, as it sees them. -/
  tables : LocalTables

/-- What a save awaits. -/
inductive SaveStage where
  | digest
  | compareAndSet (input : CompareAndSet)
  | settled (outcome : Except SaveError Unit)

structure LocalSave where
  input : SaveInput
  stage : SaveStage

structure LocalStore where
  tables : LocalTables
  transaction : Option Transaction
  /-- In the order of their calls. -/
  saves : List LocalSave
  /-- The saves that committed, in their order. -/
  accepted : List (Nat × CompareAndSet)

def LocalStore.empty : LocalStore := ⟨⟨.empty, []⟩, none, [], []⟩

inductive StoreAction where
  /-- A save is called. -/
  | call (input : SaveInput)
  /-- The digest of a save comes, or is refused. -/
  | digested (save : Nat) (sha256 : Option String)
  /-- What a save awaits of the database comes. -/
  | proceed (save : Nat)
  /-- The database fails the save, which rolls back what it has open. -/
  | fails (save : Nat)
  /-- The process ends. -/
  | stops

namespace LocalStore

variable (s : LocalStore)

def setStage (save : Nat) (stage : SaveStage) : LocalStore :=
  { s with saves := s.saves.modify save fun pending => { pending with stage } }

/-- The save ends; its transaction is closed. -/
def settle (save : Nat) (outcome : Except SaveError Unit) : LocalStore :=
  { s.setStage save (.settled outcome) with transaction := none }

/-- The next statement of the open transaction. -/
def proceedIn (transaction : Transaction) : LocalStore :=
  let input := transaction.input
  match transaction.stage with
  | .begun =>
      if (transaction.tables.currentRevision input.snapshot.key).map (Nat.cast (R := ℚ)) =
          input.expectedStoredRevision then
        { s with transaction := some { transaction with stage := .matched } }
      else s.settle transaction.save (.error .revisionConflict)
  | .matched =>
      match transaction.tables.upsert input.snapshot with
      | none => s.settle transaction.save (.error .port)
      | some tables =>
          { s with transaction := some { transaction with stage := .snapshotWritten, tables } }
  | .snapshotWritten =>
      match transaction.tables.insertEvent input.event with
      | none => s.settle transaction.save (.error .port)
      | some tables =>
          { s with transaction := some { transaction with stage := .eventWritten, tables } }
  | .eventWritten =>
      { s.settle transaction.save (.ok ()) with
        tables := transaction.tables
        accepted := s.accepted ++ [(transaction.save, input)] }

/-- A save that ends with the process. -/
def stopSave (pending : LocalSave) : LocalSave :=
  match pending.stage with
  | .settled _ => pending
  | _ => { pending with stage := .settled (.error .stopped) }

def next : StoreAction → LocalStore
  | .call input =>
      { s with
        saves := s.saves ++ [{
          input
          stage := match checkSave env input with
            | .ok () => .digest
            | .error e => .settled (.error e) }] }
  | .digested save sha256 =>
      match s.saves[save]? with
      | some ⟨input, .digest⟩ =>
          match sha256 with
          | none => s.setStage save (.settled (.error .port))
          | some sha256 => s.setStage save (.compareAndSet (input.compareAndSet env sha256))
      | _ => s
  | .proceed save =>
      match s.saves[save]? with
      | some ⟨_, .compareAndSet input⟩ =>
          match s.transaction with
          | none => { s with transaction := some ⟨save, input, .begun, s.tables⟩ }
          | some transaction => if transaction.save = save then s.proceedIn transaction else s
      | _ => s
  | .fails save =>
      match s.saves[save]? with
      | some ⟨_, .compareAndSet _⟩ =>
          match s.transaction with
          | none => s.settle save (.error .port)
          | some transaction =>
              if transaction.save = save then s.settle save (.error .port)
              else s.setStage save (.settled (.error .port))
      | _ => s
  | .stops => { s with transaction := none, saves := s.saves.map stopSave }

end LocalStore

end InspectionHub.Inspection
