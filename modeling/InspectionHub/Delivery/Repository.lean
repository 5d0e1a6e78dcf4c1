import InspectionHub.Delivery.Types
import InspectionHub.Lib.Tx

/-!
# The delivery repository

Packages, send messages and idempotency bindings in insertion-ordered maps,
and the audit log. `transact` puts the maps and the log back when its work
throws; identifiers it drew stay drawn.
-/

namespace InspectionHub.Delivery

structure Binding where
  fingerprint : String
  packageId : String
deriving DecidableEq

structure Repository where
  packages : Table String DeliveryPackageRecord DeliveryPackageRecord.packageId
  outbox : Table String DeliveryOutboxRecord DeliveryOutboxRecord.outboxId
  idempotency : OMap String Binding
  events : List DeliveryAuditEvent
  /-- How many identifiers were drawn. -/
  drawn : Nat

def Repository.initial : Repository := ⟨.empty, .empty, .empty, [], 0⟩

/-- The hash and the identifiers the host supplies. -/
structure Env where
  digest : String → String
  ids : Nat → String

/-- `sha256(value)`. -/
def sha256 (env : Env) (value : JsVal) : String := env.digest (canonicalJson value)

abbrev DeliveryTx (α : Type) := Tx DeliveryError Repository α

def transact {α : Type} (work : DeliveryTx α) : DeliveryTx α :=
  Tx.transact (fun before s =>
    { packages := before.packages, outbox := before.outbox, idempotency := before.idempotency,
      events := s.events.take before.events.length, drawn := s.drawn }) work

namespace Repository

variable (env : Env)

def getPackage (s : Repository) (packageId : String) : Option DeliveryPackageRecord :=
  s.packages.get? packageId

def getOutboxForPackage (s : Repository) (packageId : String) : Option DeliveryOutboxRecord :=
  s.outbox.values.find? fun outbox => outbox.packageId = packageId

end Repository

variable (env : Env)

/-- `this.ids()`. -/
def drawId : DeliveryTx String := fun s => .ok (env.ids s.drawn) { s with drawn := s.drawn + 1 }

def getPackage (packageId : String) : DeliveryTx (Option DeliveryPackageRecord) := fun s =>
  .ok (s.getPackage packageId) s

def getOutboxForPackage (packageId : String) : DeliveryTx (Option DeliveryOutboxRecord) := fun s =>
  .ok (s.getOutboxForPackage packageId) s

def setPackage (value : DeliveryPackageRecord) : DeliveryTx Unit := fun s =>
  .ok () { s with packages := s.packages.put value }

def setOutbox (value : DeliveryOutboxRecord) : DeliveryTx Unit := fun s =>
  .ok () { s with outbox := s.outbox.put value }

/-! ## Transaction operations -/

def getIdempotentPackage (key fingerprint : String) :
    DeliveryTx (Option DeliveryPackageRecord) := fun s =>
  match s.idempotency.get? key with
  | none => .ok none s
  | some prior =>
      if prior.fingerprint ≠ fingerprint then
        .error (.conflict "Delivery idempotency key was reused with different package content") s
      else
        match s.getPackage prior.packageId with
        | none => .error (.other "Delivery idempotency index references a missing package") s
        | some value => .ok (some value) s

def writePackage (value : DeliveryPackageRecord) (expectedRevision : Int) :
    DeliveryTx DeliveryPackageRecord := do
  let existing ← getPackage value.packageId
  let currentRevision := (existing.map (·.revision)).getD 0
  Tx.throwIf (currentRevision ≠ expectedRevision)
    (.conflict ("Expected package revision " ++ toString expectedRevision ++
      ", current revision is " ++ toString currentRevision))
  Tx.throwIf (value.revision ≠ expectedRevision + 1)
    (.conflict "Delivery package must advance its revision exactly once")
  setPackage value
  return value

def bindIdempotency (key fingerprint packageId : String) : DeliveryTx Unit := fun s =>
  .ok () { s with idempotency := s.idempotency.set key ⟨fingerprint, packageId⟩ }

/-- The input is the record without its identifier. -/
def enqueueOutbox (input : String → DeliveryOutboxRecord) : DeliveryTx DeliveryOutboxRecord := do
  let packageId := (input "").packageId
  Tx.throwIf ((← getOutboxForPackage packageId).isSome)
    (.conflict "A package can have only one durable send outbox record")
  let created := input (← drawId env)
  setOutbox created
  return created

def updateOutbox (packageId : String) (state : OutboxState) (updatedAt : String) :
    DeliveryTx Unit := do
  match ← getOutboxForPackage packageId with
  | none => throw (.other "Delivery package has no outbox record")
  | some outbox => setOutbox { outbox with state, updatedAt }

/-- The current package, or the error every operation on a missing one
throws. -/
def requirePackage (packageId : String) : DeliveryTx DeliveryPackageRecord := do
  match ← getPackage packageId with
  | none => throw (.other "Delivery package does not exist")
  | some current => return current

/-- The fields a transition may set. -/
structure Changes where
  providerReference : Option (Option String) := none
  failureCode : Option (Option String) := none
  interventionRequired : Option Bool := none
  cancellationReason : Option (Option String) := none

/-- `{ ...current, ...changes, state: next, revision: current.revision + 1, updatedAt: at }`. -/
def transitioned (current : DeliveryPackageRecord) (next : DeliveryState) (now : String)
    (changes : Changes) : DeliveryPackageRecord :=
  { current with
    providerReference := changes.providerReference.getD current.providerReference
    failureCode := changes.failureCode.getD current.failureCode
    interventionRequired := changes.interventionRequired.getD current.interventionRequired
    cancellationReason := changes.cancellationReason.getD current.cancellationReason
    state := next
    revision := current.revision + 1
    updatedAt := now }

def transition (packageId : String) (expectedState : List DeliveryState) (next : DeliveryState)
    (now : String) (changes : Changes) : DeliveryTx DeliveryPackageRecord := do
  let current ← requirePackage packageId
  Tx.throwIf (current.state ∉ expectedState)
    (.conflict ("Cannot transition delivery from " ++ current.state.text ++ " to " ++
      next.text))
  let updated := transitioned current next now changes
  setPackage updated
  return updated

/-- The input is the event without its identifier. -/
def appendEvent (event : String → DeliveryAuditEvent) : DeliveryTx Unit := do
  let eventId ← drawId env
  fun s => .ok () { s with events := s.events ++ [event eventId] }

end InspectionHub.Delivery
