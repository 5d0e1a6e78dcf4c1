import InspectionHub.Booking.ExactlyOnce

/-!
# The slot book

`packages/booking/src/slots.ts`. A book lists the visits an inspector offers;
a booking holds one for a while and then confirms it. Holds are compared with
the time each command brings, and a hold that is over is replaced by the next.
-/

namespace InspectionHub.Booking

open Schema
open Agreements hiding Env

structure SlotDefinition where
  slotId : String
  startsAt : String
  endsAt : String
  inspectorId : String
deriving DecidableEq

structure SlotHold where
  holdId : String
  bookingId : String
  expiresAt : String
deriving DecidableEq

/-- The `state` of an entry, with the `hold` or the `confirmedBookingId` that
goes with it. -/
inductive SlotAllocation where
  | available
  | held (hold : SlotHold)
  | confirmed (confirmedBookingId : String)
deriving DecidableEq

structure SlotInventoryEntry extends SlotDefinition where
  allocation : SlotAllocation
deriving DecidableEq

structure SlotBook where
  revision : Nat
  slots : List SlotInventoryEntry
  commandReceipts : List CommandReceipt
deriving DecidableEq

variable (env : Env)

/-! ## The schema of a book -/

def SlotHold.issues (h : SlotHold) : List Issue :=
  idField env "holdId" h.holdId ++ idField env "bookingId" h.bookingId ++
    atField env "expiresAt" h.expiresAt

def SlotAllocation.issues : SlotAllocation → List Issue
  | .available => []
  | .held h => below "hold" (h.issues env)
  | .confirmed bookingId => idField env "confirmedBookingId" bookingId

def SlotInventoryEntry.issues (e : SlotInventoryEntry) : List Issue :=
  idField env "slotId" e.slotId ++ atField env "startsAt" e.startsAt ++
    atField env "endsAt" e.endsAt ++ idField env "inspectorId" e.inspectorId ++
    e.allocation.issues env

/-- `SlotBookSchema.parse(book)`. -/
def SlotBook.parse (b : SlotBook) : Parsed SlotBook :=
  (both Prod.mk
    (Domain.accept ()
      (safeField "revision" (0 ≤ ·) b.revision ++
        eachField "slots" (SlotInventoryEntry.issues env) b.slots))
    (under (.name "commandReceipts")
      (Domain.parseAll CommandReceipt.parse 0 b.commandReceipts))).map
  fun (_, commandReceipts) => { b with commandReceipts }

/-! ## Making a book -/

/-- `Date.parse(a) < Date.parse(b)`. -/
def strictlyBefore (a b : String) : Bool :=
  match env.dateParse a, env.dateParse b with
  | some x, some y => x < y
  | _, _ => false

/-- Two visits of one inspector share time. -/
def overlapping (left right : SlotDefinition) : Bool :=
  left.inspectorId = right.inspectorId && strictlyBefore env left.startsAt right.endsAt &&
    strictlyBefore env right.startsAt left.endsAt

/-- The first pair that the nested loops over the definitions find. -/
def firstOverlap : List SlotDefinition → Option (SlotDefinition × SlotDefinition)
  | [] => none
  | left :: rest =>
      match rest.find? (overlapping env left) with
      | some right => some (left, right)
      | none => firstOverlap rest

def freezeSlotBook (book : SlotBook) : Except BookingError SlotBook := parse (book.parse env)

def createSlotBook (definitions : List SlotDefinition) : Except BookingError SlotBook := do
  require (definitions.map (·.slotId)).Nodup "duplicate_slot"
    "Slot inventory cannot contain duplicate slot identifiers" []
  require (∀ d ∈ definitions, atOrBefore env d.endsAt d.startsAt = false) "invalid_slot"
    "Every slot must end after it starts" []
  match firstOverlap env definitions with
  | some (left, right) =>
      .error (.conflict "overlapping_inspector_slots"
        "One inspector cannot have overlapping slot definitions"
        [("leftSlotId", .str left.slotId), ("rightSlotId", .str right.slotId)])
  | none =>
      freezeSlotBook env
        { revision := 0
          slots := definitions.map fun d => { d with allocation := .available }
          commandReceipts := [] }

/-! ## Holding and confirming -/

structure SlotResult where
  state : SlotBook
  replayed : Bool

structure HoldSlotCommand extends CommandMetadata where
  holdId : String
  bookingId : String
  slotId : String
  now : String
  expiresAt : String

structure ConfirmSlotCommand extends CommandMetadata where
  bookingId : String
  holdId : String
  now : String

/-- `withoutMetadata(command)`. -/
def HoldSlotCommand.payload (c : HoldSlotCommand) : JsVal :=
  .obj [("holdId", .str c.holdId), ("bookingId", .str c.bookingId), ("slotId", .str c.slotId),
    ("now", .str c.now), ("expiresAt", .str c.expiresAt)]

def ConfirmSlotCommand.payload (c : ConfirmSlotCommand) : JsVal :=
  .obj [("bookingId", .str c.bookingId), ("holdId", .str c.holdId), ("now", .str c.now)]

/-- `findIndex`, with the entry at the index. -/
def findEntry (slots : List SlotInventoryEntry) (p : SlotInventoryEntry → Bool) :
    Option (Nat × SlotInventoryEntry) := do
  let index ← slots.findIdx? p
  let slot ← slots[index]?
  return (index, slot)

/-- The slot can be held at `now`. -/
def checkHoldable (slot : SlotInventoryEntry) (now : String) : Except BookingError Unit :=
  match slot.allocation with
  | .available => .ok ()
  | .confirmed _ =>
      .error (.conflict "slot_unavailable" "The requested slot is confirmed" [])
  | .held h =>
      require (strictlyBefore env now h.expiresAt = false) "slot_unavailable"
        "The requested slot is held by another booking" []

def holdSlot (state : SlotBook) (command : HoldSlotCommand) : Except BookingError SlotResult := do
  let parsed ← parse (state.parse env)
  let decision ← inspectCommand env parsed.revision parsed.commandReceipts
    command.toCommandMetadata "slot.hold" command.payload
  if decision.replayed then return { state, replayed := true }
  require (atOrBefore env command.expiresAt command.now = false) "invalid_hold_expiry"
    "A slot hold must expire after it is created" []
  match findEntry parsed.slots (·.slotId = command.slotId) with
  | none => .error (.conflict "slot_not_found" "The requested slot does not exist" [])
  | some (index, slot) =>
      checkHoldable env slot command.now
      let hold : SlotHold :=
        { holdId := command.holdId
          bookingId := command.bookingId
          expiresAt := command.expiresAt }
      let frozen ← freezeSlotBook env
        { revision := parsed.revision + 1
          slots := parsed.slots.set index { slot with allocation := .held hold }
          commandReceipts := parsed.commandReceipts ++ [decision.receipt] }
      return { state := frozen, replayed := false }

/-- The entry is held under the hold. -/
def SlotInventoryEntry.isHeldAs (e : SlotInventoryEntry) (holdId : String) : Bool :=
  match e.allocation with
  | .held h => h.holdId = holdId
  | _ => false

def confirmSlotHold (state : SlotBook) (command : ConfirmSlotCommand) :
    Except BookingError SlotResult := do
  let parsed ← parse (state.parse env)
  let decision ← inspectCommand env parsed.revision parsed.commandReceipts
    command.toCommandMetadata "slot.confirm" command.payload
  if decision.replayed then return { state, replayed := true }
  match findEntry parsed.slots (·.isHeldAs command.holdId) with
  | some (index, { toSlotDefinition := slot, allocation := .held hold }) =>
      require (hold.bookingId = command.bookingId) "hold_owner_mismatch"
        "The booking does not own this slot hold" []
      require (atOrBefore env hold.expiresAt command.now = false) "hold_expired"
        "The slot hold has expired" []
      let frozen ← freezeSlotBook env
        { revision := parsed.revision + 1
          slots := parsed.slots.set index
            { toSlotDefinition := slot, allocation := .confirmed command.bookingId }
          commandReceipts := parsed.commandReceipts ++ [decision.receipt] }
      return { state := frozen, replayed := false }
  | _ => .error (.conflict "hold_not_found" "The slot hold is no longer active" [])

/-! ## What a book does when it is parsed -/

variable {env} {b b' : SlotBook}

/-- Parsing trims the receipts, and leaves the slots. -/
theorem SlotBook.parse_ok (h : b.parse env = .ok b') :
    b'.revision = b.revision ∧ b'.slots = b.slots := by
  obtain ⟨p, hp, rfl⟩ := map_ok h
  exact ⟨rfl, rfl⟩

theorem freezeSlotBook_slots (h : freezeSlotBook env b = .ok b') : b'.slots = b.slots :=
  (SlotBook.parse_ok (Booking.parse_ok h)).2

variable {e : SlotInventoryEntry} {i : Nat}

theorem findEntry_ok {slots : List SlotInventoryEntry} {p : SlotInventoryEntry → Bool}
    (h : findEntry slots p = some (i, e)) : slots[i]? = some e ∧ p e = true := by
  unfold findEntry at h
  cases hindex : slots.findIdx? p with
  | none =>
      rw [hindex] at h
      cases h
  | some index =>
      rw [hindex] at h
      cases hslot : slots[index]? with
      | none =>
          simp only [Option.bind_eq_bind, Option.bind_some, hslot, Option.bind_none] at h
          cases h
      | some slot =>
          simp only [Option.bind_eq_bind, Option.bind_some, hslot] at h
          cases h
          refine ⟨hslot, ?_⟩
          obtain ⟨hlt, hp, -⟩ := List.findIdx?_eq_some_iff_getElem.mp hindex
          obtain ⟨_, hget⟩ := List.getElem?_eq_some_iff.mp hslot
          rwa [hget] at hp

/-! ## Steps of a book -/

inductive SlotOperation where
  | hold (command : HoldSlotCommand)
  | confirm (command : ConfirmSlotCommand)

/-- The time the command brings. -/
def SlotOperation.now : SlotOperation → String
  | .hold c => c.now
  | .confirm c => c.now

def performSlot (env : Env) (b : SlotBook) : SlotOperation → Except BookingError SlotResult
  | .hold c => holdSlot env b c
  | .confirm c => confirmSlotHold env b c

/-- The book the caller has after a call; a call that throws returns none. -/
def nextBook (env : Env) (b : SlotBook) (op : SlotOperation) : SlotBook :=
  match performSlot env b op with
  | .ok r => r.state
  | .error _ => b

def runBook (env : Env) (b : SlotBook) (ops : List SlotOperation) : SlotBook :=
  ops.foldl (nextBook env) b

variable (env) in
/-- What an operation may do with a slot. -/
inductive Reallocates : SlotOperation → SlotAllocation → SlotAllocation → Prop
  | hold {c : HoldSlotCommand} {h : SlotHold} : Reallocates (.hold c) .available (.held h)
  /-- A hold that is not seen to expire later than now is replaced. -/
  | replace {c : HoldSlotCommand} {prior h : SlotHold} :
      strictlyBefore env c.now prior.expiresAt = false →
      Reallocates (.hold c) (.held prior) (.held h)
  | confirm {c : ConfirmSlotCommand} {h : SlotHold} :
      atOrBefore env h.expiresAt c.now = false →
      Reallocates (.confirm c) (.held h) (.confirmed h.bookingId)

/-- The slots are as before, or one of them has another allocation. -/
inductive Allocates (env : Env) (op : SlotOperation) (slots : List SlotInventoryEntry) :
    List SlotInventoryEntry → Prop
  | same : Allocates env op slots slots
  | one {i : Nat} {e : SlotInventoryEntry} {a : SlotAllocation} : slots[i]? = some e →
      Reallocates env op e.allocation a →
      Allocates env op slots (slots.set i { e with allocation := a })

theorem checkHoldable_ok {c : HoldSlotCommand} {u : Unit} (h : SlotHold)
    (hok : checkHoldable env e c.now = .ok u) :
    Reallocates env (.hold c) e.allocation (.held h) := by
  unfold checkHoldable at hok
  cases ha : e.allocation with
  | available => exact .hold
  | confirmed b =>
      rw [ha] at hok
      cases hok
  | held prior =>
      rw [ha] at hok
      exact .replace (require_ok hok)

theorem holdSlot_ok {c : HoldSlotCommand} {r : SlotResult} (h : holdSlot env b c = .ok r) :
    Allocates env (.hold c) b.slots r.state.slots := by
  obtain ⟨parsed, hparsed, h⟩ := Domain.bind_ok h
  obtain ⟨decision, -, h⟩ := Domain.bind_ok h
  have hslots := (SlotBook.parse_ok (Booking.parse_ok hparsed)).2
  split at h
  · cases h
    exact .same
  · obtain ⟨_, -, h⟩ := Domain.bind_ok h
    split at h
    · cases h
    · next index slot hentry =>
        obtain ⟨_, hholdable, h⟩ := Domain.bind_ok h
        obtain ⟨frozen, hfrozen, h⟩ := Domain.bind_ok h
        cases h
        show Allocates env _ b.slots frozen.slots
        rw [freezeSlotBook_slots hfrozen, ← hslots]
        exact .one (findEntry_ok hentry).1 (checkHoldable_ok _ hholdable)

theorem confirmSlotHold_ok {c : ConfirmSlotCommand} {r : SlotResult}
    (h : confirmSlotHold env b c = .ok r) : Allocates env (.confirm c) b.slots r.state.slots := by
  obtain ⟨parsed, hparsed, h⟩ := Domain.bind_ok h
  obtain ⟨decision, -, h⟩ := Domain.bind_ok h
  have hslots := (SlotBook.parse_ok (Booking.parse_ok hparsed)).2
  split at h
  · cases h
    exact .same
  · split at h
    · next index slot hold hentry =>
        obtain ⟨_, howner, h⟩ := Domain.bind_ok h
        obtain ⟨_, hexpiry, h⟩ := Domain.bind_ok h
        obtain ⟨frozen, hfrozen, h⟩ := Domain.bind_ok h
        cases h
        show Allocates env _ b.slots frozen.slots
        rw [freezeSlotBook_slots hfrozen, ← hslots, ← require_ok howner]
        exact .one (findEntry_ok hentry).1 (.confirm (require_ok hexpiry))
    · cases h

theorem nextBook_slots (env : Env) (b : SlotBook) (op : SlotOperation) :
    Allocates env op b.slots (nextBook env b op).slots := by
  unfold nextBook
  cases h : performSlot env b op with
  | error e => exact .same
  | ok r =>
      cases op with
      | hold c => exact holdSlot_ok h
      | confirm c => exact confirmSlotHold_ok h

variable {op : SlotOperation}

/-- **One slot over one step.** It stays where it is, for the same visit. -/
theorem Allocates.slot {slots slots' : List SlotInventoryEntry}
    (h : Allocates env op slots slots') {j : Nat} (he : slots[j]? = some e) :
    ∃ a, slots'[j]? = some { e with allocation := a } ∧
      (a = e.allocation ∨ Reallocates env op e.allocation a) := by
  cases h with
  | same => exact ⟨e.allocation, he, .inl rfl⟩
  | @one i e' a hi hreallocates =>
      by_cases hij : i = j
      · subst hij
        cases hi.symm.trans he
        have hlt := (List.getElem?_eq_some_iff.mp he).1
        exact ⟨a, by rw [List.getElem?_set_self hlt], .inr hreallocates⟩
      · exact ⟨e.allocation, by rw [List.getElem?_set_ne hij]; exact he, .inl rfl⟩

theorem Allocates.definitions {slots slots' : List SlotInventoryEntry}
    (h : Allocates env op slots slots') :
    slots'.map (·.toSlotDefinition) = slots.map (·.toSlotDefinition) := by
  cases h with
  | same => rfl
  | @one i e a hi hreallocates =>
      rw [List.map_set]
      obtain ⟨hlt, hget⟩ := List.getElem?_eq_some_iff.mp hi
      have hlt' : i < (slots.map (·.toSlotDefinition)).length := by rwa [List.length_map]
      have hsame : e.toSlotDefinition = (slots.map (·.toSlotDefinition))[i] := by
        rw [List.getElem_map, hget]
      rw [show SlotInventoryEntry.toSlotDefinition { e with allocation := a } = _ from hsame]
      exact List.set_getElem_self hlt'

/-! ## Runs of a book -/

/-- What happened to the slot at an index. -/
def allocationAt (b : SlotBook) (i : Nat) : Option SlotAllocation :=
  b.slots[i]?.map (·.allocation)

variable (env) in
/-- The hold is over later than the time. -/
def Unexpired (h : SlotHold) (now : String) : Prop := strictlyBefore env now h.expiresAt = true

variable (env) in
theorem allocationAt_next (op : SlotOperation) {a : SlotAllocation}
    (h : allocationAt b i = some a) :
    ∃ a', allocationAt (nextBook env b op) i = some a' ∧ (a' = a ∨ Reallocates env op a a') := by
  obtain ⟨e, he, rfl⟩ := Option.map_eq_some_iff.mp h
  obtain ⟨a', hslot, hcases⟩ := (nextBook_slots env b op).slot he
  refine ⟨a', ?_, hcases⟩
  rw [allocationAt, hslot]
  rfl

theorem confirmed_next {bookingId : String} (h : allocationAt b i = some (.confirmed bookingId)) :
    allocationAt (nextBook env b op) i = some (.confirmed bookingId) := by
  obtain ⟨a, ha, rfl | hreallocates⟩ := allocationAt_next env op h
  · exact ha
  · cases hreallocates

/-- An unexpired hold is kept, or confirmed for its booking. -/
theorem held_next {hold : SlotHold} (h : allocationAt b i = some (.held hold))
    (hlive : Unexpired env hold op.now) :
    allocationAt (nextBook env b op) i = some (.held hold) ∨
      allocationAt (nextBook env b op) i = some (.confirmed hold.bookingId) := by
  obtain ⟨a, ha, rfl | hreallocates⟩ := allocationAt_next env op h
  · exact .inl ha
  · cases hreallocates with
    | replace hexpired => exact absurd (hlive.symm.trans hexpired) nofun
    | confirm _ => exact .inr ha

variable (env) in
theorem runBook_append (b : SlotBook) (first second : List SlotOperation) :
    runBook env b (first ++ second) = runBook env (runBook env b first) second := by
  rw [runBook, List.foldl_append]
  rfl

theorem confirmed_run {bookingId : String} (ops : List SlotOperation)
    (h : allocationAt b i = some (.confirmed bookingId)) :
    allocationAt (runBook env b ops) i = some (.confirmed bookingId) := by
  induction ops generalizing b with
  | nil => exact h
  | cons op ops ih => exact ih (confirmed_next h)

theorem held_run {hold : SlotHold} (ops : List SlotOperation)
    (h : allocationAt b i = some (.held hold)) (hlive : ∀ op ∈ ops, Unexpired env hold op.now) :
    allocationAt (runBook env b ops) i = some (.held hold) ∨
      allocationAt (runBook env b ops) i = some (.confirmed hold.bookingId) := by
  induction ops generalizing b with
  | nil => exact .inl h
  | cons op ops ih =>
      rcases held_next h (hlive op List.mem_cons_self) with hkept | hconfirmed
      · exact ih hkept fun op' hop' => hlive op' (List.mem_cons_of_mem op hop')
      · exact .inr (confirmed_run ops hconfirmed)

theorem definitions_run (env : Env) (b : SlotBook) (ops : List SlotOperation) :
    (runBook env b ops).slots.map (·.toSlotDefinition) = b.slots.map (·.toSlotDefinition) := by
  induction ops generalizing b with
  | nil => rfl
  | cons op ops ih =>
      have step := (nextBook_slots env b op).definitions
      exact (ih (nextBook env b op)).trans step

/-! ## Books without overlaps -/

variable (env) in
/-- No two visits of one inspector share time. -/
def NoOverlaps (definitions : List SlotDefinition) : Prop :=
  definitions.Pairwise fun left right => overlapping env left right = false

theorem firstOverlap_none {l : List SlotDefinition} (h : firstOverlap env l = none) :
    NoOverlaps env l := by
  induction l with
  | nil => exact .nil
  | cons left rest ih =>
      unfold firstOverlap at h
      cases hfind : rest.find? (overlapping env left) with
      | some right =>
          rw [hfind] at h
          cases h
      | none =>
          rw [hfind] at h
          refine .cons (fun right hright => ?_) (ih h)
          exact Bool.eq_false_iff.mpr (List.find?_eq_none.mp hfind right hright)

/-- A book that was created has no overlaps. -/
theorem createSlotBook_noOverlaps {definitions : List SlotDefinition}
    (h : createSlotBook env definitions = .ok b) :
    NoOverlaps env (b.slots.map (·.toSlotDefinition)) := by
  obtain ⟨_, -, h⟩ := Domain.bind_ok h
  obtain ⟨_, -, h⟩ := Domain.bind_ok h
  split at h
  · cases h
  · next hnone =>
      rw [freezeSlotBook_slots h, List.map_map]
      have hmap : definitions.map ((·.toSlotDefinition) ∘ fun d : SlotDefinition =>
          ({ d with allocation := .available } : SlotInventoryEntry)) = definitions :=
        List.map_id definitions
      rw [hmap]
      exact firstOverlap_none hnone

/-! ## The theorem -/

/-- The booking that an entry is confirmed for. -/
def SlotInventoryEntry.confirmedBookingId (e : SlotInventoryEntry) : Option String :=
  match e.allocation with
  | .confirmed bookingId => some bookingId
  | _ => none

/-- What a run of holds and confirmations keeps. -/
structure Exclusive (env : Env) (b : SlotBook) (ops : List SlotOperation) : Prop where
  /-- The times and the inspector of every slot. -/
  definitions : ∀ before after, ops = before ++ after →
    (runBook env b before).slots.map (·.toSlotDefinition) = b.slots.map (·.toSlotDefinition)
  /-- The booking of a slot that is confirmed. -/
  confirmed : ∀ before after, ops = before ++ after → ∀ i bookingId,
    allocationAt (runBook env b before) i = some (.confirmed bookingId) →
    allocationAt (runBook env b ops) i = some (.confirmed bookingId)
  /-- A hold, until it expires or is confirmed for its booking. -/
  held : ∀ before during after, ops = before ++ during ++ after → ∀ i hold,
    allocationAt (runBook env b before) i = some (.held hold) →
    (∀ op ∈ during, Unexpired env hold op.now) →
    allocationAt (runBook env b (before ++ during)) i = some (.held hold) ∨
      allocationAt (runBook env b (before ++ during)) i = some (.confirmed hold.bookingId)
  /-- No two confirmed slots of one inspector overlap. -/
  apart : ∀ before after, ops = before ++ after →
    (runBook env b before).slots.Pairwise fun left right =>
      left.confirmedBookingId ≠ none → right.confirmedBookingId ≠ none →
      left.inspectorId = right.inspectorId →
      overlapping env left.toSlotDefinition right.toSlotDefinition = false

/-- **Slot book exclusivity**, for every run from a book without overlaps. -/
theorem slot_book_exclusive (env : Env) (b : SlotBook)
    (h : NoOverlaps env (b.slots.map (·.toSlotDefinition))) (ops : List SlotOperation) :
    Exclusive env b ops where
  definitions before _ _ := definitions_run env b before
  confirmed before after hsplit i bookingId hconfirmed := by
    rw [hsplit, runBook_append]
    exact confirmed_run after hconfirmed
  held before during _ _ i hold hheld hlive := by
    rw [runBook_append]
    exact held_run during hheld hlive
  apart before _ _ := by
    have hrun : NoOverlaps env ((runBook env b before).slots.map (·.toSlotDefinition)) := by
      rw [definitions_run]
      exact h
    refine (List.pairwise_map.mp hrun).imp ?_
    intro left right happart _ _ _
    exact happart

namespace Sample

/-- The visits of one inspector on two days. -/
def visits : List SlotDefinition :=
  [{ slotId := slotHold.slotId
     startsAt := slotHold.startsAt
     endsAt := slotHold.endsAt
     inspectorId := "32000000-0000-4000-8000-000000000011" },
    { slotId := candidate.slotId
      startsAt := candidate.startsAt
      endsAt := candidate.endsAt
      inspectorId := "32000000-0000-4000-8000-000000000011" }]

def visitBook : SlotBook where
  revision := 0
  slots := visits.map fun d => { d with allocation := .available }
  commandReceipts := []

/-- The first visit is held. -/
def holdFirst : SlotOperation :=
  .hold
    { idempotencyKey := "key-1"
      expectedRevision := 0
      holdId := slotHold.holdId
      bookingId
      slotId := slotHold.slotId
      now
      expiresAt := slotHold.expiresAt }

/-- It is confirmed before the hold expires. -/
def confirmFirst : SlotOperation :=
  .confirm
    { idempotencyKey := "key-2"
      expectedRevision := 1
      bookingId
      holdId := slotHold.holdId
      now }

theorem visits_exclusive :
    createSlotBook host visits = .ok visitBook ∧
      Exclusive host visitBook [holdFirst, confirmFirst] := by
  have hcreate : createSlotBook host visits = .ok visitBook := rfl
  exact ⟨hcreate, slot_book_exclusive host visitBook (createSlotBook_noOverlaps hcreate) _⟩

end Sample

end InspectionHub.Booking
