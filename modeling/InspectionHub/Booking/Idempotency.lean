import InspectionHub.Booking.State

/-!
# Command receipts

`packages/booking/src/idempotency.ts`: a command is compared with the receipts
of the ones before it by the key its caller sent.
-/

namespace InspectionHub.Booking

inductive BookingError where
  /-- `BookingConflictError`. -/
  | conflict (code message : String) (details : Fields)
  /-- The validation library's error. -/
  | schema (issues : List Issue)
deriving DecidableEq

structure CommandMetadata where
  idempotencyKey : String
  expectedRevision : Int
deriving DecidableEq

structure Decision where
  replayed : Bool
  receipt : CommandReceipt

/-- Throw unless `p`. -/
def require (p : Prop) [Decidable p] (code message : String) (details : Fields) :
    Except BookingError Unit :=
  if p then .ok () else .error (.conflict code message details)

def parse {α : Type} (r : Parsed α) : Except BookingError α := r.mapError .schema

variable (env : Env)

def requestFingerprint (operation : String) (payload : JsVal) : String :=
  Domain.sha256 env.toDomain (.obj [("operation", .str operation), ("payload", payload)])

def inspectCommand (currentRevision : Nat) (receipts : List CommandReceipt)
    (command : CommandMetadata) (operation : String) (payload : JsVal) :
    Except BookingError Decision := do
  let receipt : CommandReceipt :=
    { idempotencyKey := command.idempotencyKey
      requestFingerprint := requestFingerprint env operation payload }
  match receipts.find? (·.idempotencyKey = command.idempotencyKey) with
  | some prior =>
      require (prior.requestFingerprint = receipt.requestFingerprint) "idempotency_key_reused"
        "An idempotency key cannot be reused with a different command payload" []
      return { replayed := true, receipt }
  | none =>
      require (command.expectedRevision = currentRevision) "stale_revision"
        s!"Expected revision {command.expectedRevision} but current revision is {currentRevision}"
        [("expectedRevision", command.expectedRevision), ("currentRevision", (currentRevision : Int))]
      return { replayed := false, receipt }

/-! ## What the inspection tells -/

variable {env} {revision : Nat} {receipts : List CommandReceipt} {command : CommandMetadata}
  {operation : String} {payload : JsVal}

theorem require_ok {p : Prop} [Decidable p] {code message : String} {details : Fields} {u : Unit}
    (h : require p code message details = .ok u) : p := by
  unfold require at h
  split at h
  · assumption
  · cases h

theorem require_of {p : Prop} [Decidable p] {code message : String} {details : Fields} (h : p) :
    require p code message details = .ok () := if_pos h

theorem parse_ok {α : Type} {r : Parsed α} {a : α} (h : parse r = .ok a) : r = .ok a := by
  cases r with
  | error e => cases h
  | ok b =>
      cases h
      rfl

/-- The receipt that the key of a command finds. -/
def priorReceipt (receipts : List CommandReceipt) (key : String) : Option CommandReceipt :=
  receipts.find? (·.idempotencyKey = key)

/-- A command that is new: its key is on no receipt, and it expects the
current revision. -/
structure Unseen (revision : Nat) (receipts : List CommandReceipt) (command : CommandMetadata) :
    Prop where
  key : priorReceipt receipts command.idempotencyKey = none
  current : command.expectedRevision = revision

/-- The same, for a command the receipts know. -/
def Known (receipts : List CommandReceipt) (r : CommandReceipt) : Prop :=
  ∃ prior, priorReceipt receipts r.idempotencyKey = some prior ∧
    prior.requestFingerprint = r.requestFingerprint

/-- The receipt of a command. -/
def receiptOf (env : Env) (command : CommandMetadata) (operation : String) (payload : JsVal) :
    CommandReceipt where
  idempotencyKey := command.idempotencyKey
  requestFingerprint := requestFingerprint env operation payload

theorem inspectCommand_ok {d : Decision}
    (h : inspectCommand env revision receipts command operation payload = .ok d) :
    d.receipt = receiptOf env command operation payload ∧
      ((d.replayed = true ∧ Known receipts d.receipt) ∨
        (d.replayed = false ∧ Unseen revision receipts command)) := by
  unfold inspectCommand at h
  dsimp only at h
  split at h
  · next prior hprior =>
      obtain ⟨_, hsame, h⟩ := Domain.bind_ok h
      cases h
      exact ⟨rfl, .inl ⟨rfl, prior, hprior, require_ok hsame⟩⟩
  · next hnone =>
      obtain ⟨_, hcurrent, h⟩ := Domain.bind_ok h
      cases h
      exact ⟨rfl, .inr ⟨rfl, hnone, require_ok hcurrent⟩⟩

theorem inspectCommand_known (h : Known receipts (receiptOf env command operation payload)) :
    inspectCommand env revision receipts command operation payload =
      .ok { replayed := true, receipt := receiptOf env command operation payload } := by
  obtain ⟨prior, hprior, hsame⟩ := h
  have hfind : receipts.find? (·.idempotencyKey = command.idempotencyKey) = some prior := hprior
  have hsame : prior.requestFingerprint = requestFingerprint env operation payload := hsame
  unfold inspectCommand
  simp only [hfind, hsame, require_of]
  rfl

theorem inspectCommand_unseen (h : Unseen revision receipts command) :
    inspectCommand env revision receipts command operation payload =
      .ok { replayed := false, receipt := receiptOf env command operation payload } := by
  have hfind : receipts.find? (·.idempotencyKey = command.idempotencyKey) = none := h.key
  unfold inspectCommand
  simp only [hfind, h.current, require_of]
  rfl

/-! ## Receipts that were parsed -/

/-- Parsed receipts carry trimmed keys. -/
theorem trimmed_of_parsed {r : CommandReceipt} {l : List CommandReceipt}
    (h : Domain.parseAll CommandReceipt.parse 0 l = .ok l) (hr : r ∈ l) :
    Js.trim r.idempotencyKey = r.idempotencyKey := by
  obtain ⟨i, hi, rfl⟩ := List.mem_iff_getElem.mp hr
  have hparse := (parseAll_ok h).get hi hi
  obtain ⟨hsame, -⟩ := Domain.accept_ok hparse
  exact (congrArg CommandReceipt.idempotencyKey hsame).symm

/-- A receipt on a list stays the first with its key when others follow. -/
theorem Known.append {r : CommandReceipt} (h : Known receipts r) (more : List CommandReceipt) :
    Known (receipts ++ more) r := by
  obtain ⟨prior, hprior, hsame⟩ := h
  refine ⟨prior, ?_, hsame⟩
  have hfind : receipts.find? (·.idempotencyKey = r.idempotencyKey) = some prior := hprior
  rw [priorReceipt, List.find?_append, hfind, Option.some_or]

end InspectionHub.Booking
