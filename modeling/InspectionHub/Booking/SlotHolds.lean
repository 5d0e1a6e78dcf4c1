import InspectionHub.Booking.Slots

/-!
# Holds that can be used

A confirmation names its hold by an id that callers choose, and takes the first
slot of the book that is held under it. A hold does not ask whether another
slot is held under its id, as a new book asks for slot ids: an unexpired hold
is confirmed by its booking unless an earlier slot is held under the same id.
-/

namespace InspectionHub.Booking

open Schema
open Agreements hiding Env

variable {env : Env} {b b' : SlotBook}

/-! ## Books that parse to themselves -/

/-- The book is as the schema returns it. -/
structure SlotBook.Settled (env : Env) (b : SlotBook) : Prop where
  revision : b.revision ≤ 2 ^ 53 - 1
  slots : ∀ e ∈ b.slots, e.issues env = []
  receipts : Domain.parseAll CommandReceipt.parse 0 b.commandReceipts = .ok b.commandReceipts

theorem safeField_iff {k : String} {n : Nat} :
    safeField k (0 ≤ ·) n = [] ↔ n ≤ 2 ^ 53 - 1 := by
  rw [safeField, failing_iff, decide_eq_true (Nat.zero_le n), Bool.and_true, decide_eq_true_eq]

theorem SlotBook.parse_of {receipts : List CommandReceipt} (hrevision : b.revision ≤ 2 ^ 53 - 1)
    (hslots : ∀ e ∈ b.slots, e.issues env = [])
    (hreceipts : Domain.parseAll CommandReceipt.parse 0 b.commandReceipts = .ok receipts) :
    b.parse env = .ok { b with commandReceipts := receipts } := by
  unfold SlotBook.parse
  rw [safeField_iff.mpr hrevision, eachField_iff.mpr hslots, hreceipts]
  rfl

theorem SlotBook.Settled.parse (h : b.Settled env) : b.parse env = .ok b :=
  SlotBook.parse_of h.revision h.slots h.receipts

/-- What the schema returns is settled. -/
theorem SlotBook.settled_of_parse (h : b.parse env = .ok b') : b'.Settled env := by
  obtain ⟨p, hp, rfl⟩ := map_ok h
  obtain ⟨u, receipts, hu, hreceipts, rfl⟩ := both_ok hp
  obtain ⟨-, hissues⟩ := Domain.accept_ok hu
  obtain ⟨hrevision, hslots⟩ := List.append_eq_nil_iff.mp hissues
  exact ⟨safeField_iff.mp hrevision, eachField_iff.mp hslots,
    settles_all settles_commandReceipt 0 _ _ (under_ok hreceipts)⟩

theorem freezeSlotBook_settled (h : freezeSlotBook env b = .ok b') : b'.Settled env :=
  SlotBook.settled_of_parse (Booking.parse_ok h)

/-! ## The first entry -/

variable {e : SlotInventoryEntry} {i : Nat}

theorem findEntry_iff {slots : List SlotInventoryEntry} {p : SlotInventoryEntry → Bool} :
    findEntry slots p = some (i, e) ↔ slots[i]? = some e ∧ p e = true ∧
      ∀ j < i, ∀ e', slots[j]? = some e' → p e' = false := by
  have hindex : findEntry slots p = some (i, e) ↔
      slots.findIdx? p = some i ∧ slots[i]? = some e := by
    unfold findEntry
    cases hfind : slots.findIdx? p with
    | none => exact ⟨nofun, fun h => absurd h.1 nofun⟩
    | some index =>
        cases hslot : slots[index]? with
        | none =>
            simp only [Option.bind_eq_bind, Option.bind_some, hslot, Option.bind_none]
            refine ⟨nofun, ?_⟩
            rintro ⟨⟨⟩, he⟩
            exact absurd (hslot.symm.trans he) nofun
        | some slot =>
            simp only [Option.bind_eq_bind, Option.bind_some, hslot]
            constructor
            · intro h
              cases h
              exact ⟨rfl, hslot⟩
            · rintro ⟨⟨⟩, he⟩
              cases hslot.symm.trans he
              rfl
  rw [hindex, List.findIdx?_eq_some_iff_getElem]
  constructor
  · rintro ⟨⟨hlt, hp, hfirst⟩, he⟩
    obtain ⟨_, rfl⟩ := List.getElem?_eq_some_iff.mp he
    refine ⟨he, hp, fun j hj e' he' => ?_⟩
    obtain ⟨_, rfl⟩ := List.getElem?_eq_some_iff.mp he'
    exact Bool.eq_false_iff.mpr (hfirst j hj)
  · rintro ⟨he, hp, hfirst⟩
    obtain ⟨hlt, rfl⟩ := List.getElem?_eq_some_iff.mp he
    refine ⟨⟨hlt, hp, fun j hj => ?_⟩, he⟩
    exact Bool.eq_false_iff.mp (hfirst j hj _ (List.getElem?_eq_getElem _))

theorem isHeldAs_iff {holdId : String} :
    e.isHeldAs holdId = true ↔ ∃ h : SlotHold, e.allocation = .held h ∧ h.holdId = holdId := by
  unfold SlotInventoryEntry.isHeldAs
  cases e.allocation with
  | available => exact ⟨nofun, fun ⟨_, h, _⟩ => absurd h nofun⟩
  | confirmed bookingId => exact ⟨nofun, fun ⟨_, h, _⟩ => absurd h nofun⟩
  | held h =>
      rw [decide_eq_true_eq]
      constructor
      · exact fun hid => ⟨h, rfl, hid⟩
      · rintro ⟨_, ⟨⟩, hid⟩
        exact hid

/-! ## One hold and one confirmation -/

def HoldSlotCommand.hold (c : HoldSlotCommand) : SlotHold where
  holdId := c.holdId
  bookingId := c.bookingId
  expiresAt := c.expiresAt

variable {r : SlotResult}

/-- A hold that is no replay puts its id on the slot it names. -/
theorem holdSlot_new {c : HoldSlotCommand} (hb : b.Settled env) (h : holdSlot env b c = .ok r) :
    r.state = b ∨ (r.state.Settled env ∧ Unseen b.revision b.commandReceipts c.toCommandMetadata ∧
      ∃ i e, b.slots[i]? = some e ∧ e.slotId = c.slotId ∧
        r.state.slots = b.slots.set i { e with allocation := .held c.hold }) := by
  unfold holdSlot at h
  rw [hb.parse] at h
  obtain ⟨_, hparsed, h⟩ := Domain.bind_ok h
  cases hparsed
  obtain ⟨decision, hdecision, h⟩ := Domain.bind_ok h
  split at h
  · cases h
    exact .inl rfl
  · next hnew =>
    obtain ⟨-, ⟨hreplayed, -⟩ | ⟨-, hunseen⟩⟩ := inspectCommand_ok hdecision
    · exact absurd hreplayed hnew
    obtain ⟨_, -, h⟩ := Domain.bind_ok h
    split at h
    · cases h
    · next index slot hentry =>
        obtain ⟨_, -, h⟩ := Domain.bind_ok h
        obtain ⟨frozen, hfrozen, h⟩ := Domain.bind_ok h
        cases h
        obtain ⟨hslot, hid⟩ := findEntry_ok hentry
        exact .inr ⟨freezeSlotBook_settled hfrozen, hunseen, index, slot, hslot,
          of_decide_eq_true hid, freezeSlotBook_slots hfrozen⟩

variable {c : ConfirmSlotCommand}

/-- A confirmation that is no replay confirms the first slot under the hold. -/
theorem confirmSlotHold_new (hb : b.Settled env) (h : confirmSlotHold env b c = .ok r) :
    (r.state = b ∧ r.replayed = true) ∨
      (r.state.Settled env ∧ b.revision + 1 ≤ 2 ^ 53 - 1 ∧
        ∃ i e, findEntry b.slots (·.isHeldAs c.holdId) = some (i, e) ∧
          r.state.slots = b.slots.set i { e with allocation := .confirmed c.bookingId }) := by
  unfold confirmSlotHold at h
  rw [hb.parse] at h
  obtain ⟨_, hparsed, h⟩ := Domain.bind_ok h
  cases hparsed
  obtain ⟨decision, -, h⟩ := Domain.bind_ok h
  split at h
  · cases h
    exact .inl ⟨rfl, rfl⟩
  · split at h
    · next index slot hold hentry =>
        obtain ⟨_, -, h⟩ := Domain.bind_ok h
        obtain ⟨_, -, h⟩ := Domain.bind_ok h
        obtain ⟨frozen, hfrozen, h⟩ := Domain.bind_ok h
        cases h
        have hsettled := freezeSlotBook_settled hfrozen
        have hrevision : frozen.revision = b.revision + 1 :=
          (SlotBook.parse_ok (Booking.parse_ok hfrozen)).1
        refine .inr ⟨hsettled, ?_, index, _, hentry, freezeSlotBook_slots hfrozen⟩
        rw [← hrevision]
        exact hsettled.revision
    · cases h

/-- The book a command that left `slots` hands to the schema. -/
def recordedSlots (b : SlotBook) (slots : List SlotInventoryEntry) (r : CommandReceipt) :
    SlotBook where
  revision := b.revision + 1
  slots := slots
  commandReceipts := b.commandReceipts ++ [r]

/-- A receipt as the schema returns it. -/
def CommandReceipt.trimmed (r : CommandReceipt) : CommandReceipt :=
  { r with idempotencyKey := Js.trim r.idempotencyKey }

theorem freezeSlotBook_of {r : CommandReceipt} (hb : b.Settled env)
    (hrevision : b.revision + 1 ≤ 2 ^ 53 - 1) (he : e.issues env = [])
    (hr : ReceiptText r.idempotencyKey r.requestFingerprint) :
    freezeSlotBook env (recordedSlots b (b.slots.set i e) r) =
      .ok (recordedSlots b (b.slots.set i e) r.trimmed) := by
  have hslots : ∀ e' ∈ b.slots.set i e, e'.issues env = [] := by
    intro e' he'
    rcases List.mem_or_eq_of_mem_set he' with hmem | rfl
    · exact hb.slots e' hmem
    · exact he
  have hparse := SlotBook.parse_of (b := recordedSlots b (b.slots.set i e) r)
    hrevision hslots (parseAll_snoc_of hb.receipts hr.command)
  unfold freezeSlotBook
  rw [hparse]
  rfl

/-- The fields of an entry that no allocation touches, with those of another
allocation. -/
theorem issues_allocate {a : SlotAllocation} (he : e.issues env = []) (ha : a.issues env = []) :
    SlotInventoryEntry.issues env { e with allocation := a } = [] := by
  obtain ⟨hfields, -⟩ := List.append_eq_nil_iff.mp he
  exact List.append_eq_nil_iff.mpr ⟨hfields, ha⟩

theorem holdSlot_of {c : HoldSlotCommand} (hb : b.Settled env)
    (hunseen : Unseen b.revision b.commandReceipts c.toCommandMetadata)
    (hrevision : b.revision + 1 ≤ 2 ^ 53 - 1)
    (hr : ReceiptText c.idempotencyKey (requestFingerprint env "slot.hold" c.payload))
    (hexpiry : atOrBefore env c.expiresAt c.now = false)
    (hentry : findEntry b.slots (·.slotId = c.slotId) = some (i, e))
    (hholdable : checkHoldable env e c.now = .ok ()) (hhold : c.hold.issues env = []) :
    holdSlot env b c = .ok
      { state := recordedSlots b (b.slots.set i { e with allocation := .held c.hold })
          (receiptOf env c.toCommandMetadata "slot.hold" c.payload).trimmed
        replayed := false } := by
  have he := issues_allocate (hb.slots e (List.mem_of_getElem? (findEntry_ok hentry).1))
    (a := .held c.hold) (below_iff.mpr hhold)
  unfold holdSlot
  rw [hb.parse]
  show (inspectCommand env b.revision b.commandReceipts _ _ _ >>= _) = _
  rw [inspectCommand_unseen hunseen]
  show (require _ _ _ _ >>= _) = _
  rw [require_of hexpiry]
  dsimp only [bind, Except.bind]
  rw [hentry]
  show (checkHoldable env e c.now >>= _) = _
  rw [hholdable]
  show (freezeSlotBook env (recordedSlots b (b.slots.set i { e with allocation := .held c.hold })
    (receiptOf env c.toCommandMetadata "slot.hold" c.payload)) >>= _) = _
  rw [freezeSlotBook_of (r := receiptOf env c.toCommandMetadata "slot.hold" c.payload) hb
    hrevision he hr]
  rfl

variable {hold : SlotHold}

theorem confirmSlotHold_of (hb : b.Settled env)
    (hunseen : Unseen b.revision b.commandReceipts c.toCommandMetadata)
    (hrevision : b.revision + 1 ≤ 2 ^ 53 - 1)
    (hr : ReceiptText c.idempotencyKey (requestFingerprint env "slot.confirm" c.payload))
    (hentry : findEntry b.slots (·.isHeldAs c.holdId) = some (i, e))
    (hheld : e.allocation = .held hold) (howner : hold.bookingId = c.bookingId)
    (hexpiry : atOrBefore env hold.expiresAt c.now = false) :
    confirmSlotHold env b c = .ok
      { state := recordedSlots b (b.slots.set i { e with allocation := .confirmed c.bookingId })
          (receiptOf env c.toCommandMetadata "slot.confirm" c.payload).trimmed
        replayed := false } := by
  obtain ⟨slot, allocation⟩ := e
  obtain rfl : allocation = .held hold := hheld
  have hissues := hb.slots _ (List.mem_of_getElem? (findEntry_ok hentry).1)
  have he : SlotInventoryEntry.issues env ⟨slot, .confirmed c.bookingId⟩ = [] := by
    -- the hold carried the same booking
    obtain ⟨-, hhold⟩ := List.append_eq_nil_iff.mp hissues
    obtain ⟨hids, -⟩ := List.append_eq_nil_iff.mp (below_iff.mp hhold)
    obtain ⟨-, hbooking⟩ := List.append_eq_nil_iff.mp hids
    rw [howner] at hbooking
    exact issues_allocate hissues (a := .confirmed c.bookingId)
      (failing_iff.mpr (failing_iff.mp hbooking))
  unfold confirmSlotHold
  rw [hb.parse]
  show (inspectCommand env b.revision b.commandReceipts _ _ _ >>= _) = _
  rw [inspectCommand_unseen hunseen]
  dsimp only [bind, Except.bind]
  rw [hentry]
  show (require _ _ _ _ >>= _) = _
  rw [require_of howner]
  show (require _ _ _ _ >>= _) = _
  rw [require_of hexpiry]
  show (freezeSlotBook env (recordedSlots b (b.slots.set i ⟨slot, .confirmed c.bookingId⟩)
    (receiptOf env c.toCommandMetadata "slot.confirm" c.payload)) >>= _) = _
  rw [freezeSlotBook_of (r := receiptOf env c.toCommandMetadata "slot.confirm" c.payload) hb
    hrevision he hr]
  rfl

/-- The first slot under the id is held for another booking. -/
theorem confirmSlotHold_mismatch (hb : b.Settled env)
    (hunseen : Unseen b.revision b.commandReceipts c.toCommandMetadata)
    (hentry : findEntry b.slots (·.isHeldAs c.holdId) = some (i, e))
    (hheld : e.allocation = .held hold) (hother : hold.bookingId ≠ c.bookingId) :
    confirmSlotHold env b c =
      .error (.conflict "hold_owner_mismatch" "The booking does not own this slot hold" []) := by
  obtain ⟨slot, allocation⟩ := e
  obtain rfl : allocation = .held hold := hheld
  unfold confirmSlotHold
  rw [hb.parse]
  show (inspectCommand env b.revision b.commandReceipts _ _ _ >>= _) = _
  rw [inspectCommand_unseen hunseen]
  dsimp only [bind, Except.bind]
  rw [hentry]
  show (require _ _ _ _ >>= _) = _
  rw [require, if_neg hother]
  rfl

/-! ## Books that are reached -/

/-- Books that are created, and change as holds and confirmations are sent. -/
def slotSystem (env : Env) : TSys SlotBook SlotOperation where
  Init b := ∃ definitions, createSlotBook env definitions = .ok b
  Step b op b' := nextBook env b op = b'

/-- What every reached book is. -/
structure SlotBook.InOrder (env : Env) (b : SlotBook) : Prop where
  settled : b.Settled env
  slotIds : (b.slots.map (·.slotId)).Nodup

/-- No two slots are held under one id. -/
def HoldsApart (slots : List SlotInventoryEntry) : Prop :=
  ∀ (i j : Nat) (e e' : SlotInventoryEntry) holdId, slots[i]? = some e → slots[j]? = some e' →
    e.isHeldAs holdId = true → e'.isHeldAs holdId = true → i = j

/-- A hold that is new to the book names an id that no other slot is held
under. -/
def NamesFreshHold (b : SlotBook) : SlotOperation → Prop
  | .hold c => priorReceipt b.commandReceipts c.idempotencyKey = none →
      ∀ e ∈ b.slots, e.isHeldAs c.holdId = true → e.slotId = c.slotId
  | .confirm _ => True

theorem createSlotBook_inOrder {definitions : List SlotDefinition}
    (h : createSlotBook env definitions = .ok b) : b.InOrder env ∧ HoldsApart b.slots := by
  obtain ⟨_, hids, h⟩ := Domain.bind_ok h
  obtain ⟨_, -, h⟩ := Domain.bind_ok h
  split at h
  · cases h
  · have hslots := freezeSlotBook_slots h
    refine ⟨⟨freezeSlotBook_settled h, ?_⟩, ?_⟩
    · rw [hslots, List.map_map]
      exact require_ok hids
    · intro i j e e' holdId he _ hheld
      rw [hslots] at he
      obtain ⟨d, -, rfl⟩ := List.mem_map.mp (List.mem_of_getElem? he)
      cases hheld

theorem nextBook_hold {c : HoldSlotCommand} (h : holdSlot env b c = .ok r) :
    nextBook env b (.hold c) = r.state := by
  have hperform : performSlot env b (.hold c) = .ok r := h
  unfold nextBook
  rw [hperform]

/-- What a step does to a settled book. -/
theorem nextBook_cases (hb : b.Settled env) (op : SlotOperation) :
    nextBook env b op = b ∨ ((nextBook env b op).Settled env ∧ ∃ i e a, b.slots[i]? = some e ∧
      (nextBook env b op).slots = b.slots.set i { e with allocation := a } ∧
      ∀ hold, a = .held hold → ∃ c, op = .hold c ∧ hold.holdId = c.holdId ∧ e.slotId = c.slotId ∧
        priorReceipt b.commandReceipts c.idempotencyKey = none) := by
  unfold nextBook
  cases h : performSlot env b op with
  | error e => exact .inl rfl
  | ok r =>
      cases op with
      | hold c =>
          rcases holdSlot_new hb h with hsame | ⟨hsettled, hunseen, i, e, he, hid, hslots⟩
          · exact .inl hsame
          · refine .inr ⟨hsettled, i, e, _, he, hslots, ?_⟩
            rintro _ ⟨⟩
            exact ⟨c, rfl, rfl, hid, hunseen.key⟩
      | confirm c =>
          rcases confirmSlotHold_new hb h with ⟨hsame, -⟩ | ⟨hsettled, -, i, e, hentry, hslots⟩
          · exact .inl hsame
          · exact .inr ⟨hsettled, i, e, _, (findEntry_ok hentry).1, hslots, nofun⟩

theorem inOrder_next (hb : b.InOrder env) (op : SlotOperation) :
    (nextBook env b op).InOrder env where
  settled := by
    rcases nextBook_cases hb.settled op with hsame | ⟨hsettled, -⟩
    · rw [hsame]
      exact hb.settled
    · exact hsettled
  slotIds := by
    have hdefinitions := congrArg (List.map (·.slotId)) (nextBook_slots env b op).definitions
    rw [List.map_map, List.map_map] at hdefinitions
    have hids := hb.slotIds
    exact hdefinitions.symm ▸ hids

/-- Entries of a book with one slot id are the same entry. -/
theorem index_of_slotId (h : (b.slots.map (·.slotId)).Nodup) {i j : Nat}
    {e e' : SlotInventoryEntry} (hi : b.slots[i]? = some e) (hj : b.slots[j]? = some e')
    (hid : e.slotId = e'.slotId) : i = j := by
  obtain ⟨hi', rfl⟩ := List.getElem?_eq_some_iff.mp hi
  obtain ⟨hj', rfl⟩ := List.getElem?_eq_some_iff.mp hj
  have hlen : (b.slots.map (·.slotId)).length = b.slots.length := List.length_map _
  refine (@List.Nodup.getElem_inj_iff _ _ h i (hlen ▸ hi') j (hlen ▸ hj')).mp ?_
  rw [List.getElem_map, List.getElem_map]
  exact hid

/-- **Step.** Fresh ids keep the holds apart. -/
theorem holdsApart_next (hb : b.InOrder env) (hapart : HoldsApart b.slots) {op : SlotOperation}
    (hfresh : NamesFreshHold b op) : HoldsApart (nextBook env b op).slots := by
  rcases nextBook_cases hb.settled op with hsame | ⟨-, k, e, a, he, hslots, hnew⟩
  · rw [hsame]
    exact hapart
  rw [hslots]
  have hlt := (List.getElem?_eq_some_iff.mp he).1
  -- another entry under the id of the changed one is the changed one
  have hown : ∀ j e' holdId, j ≠ k → b.slots[j]? = some e' → e'.isHeldAs holdId = true →
      SlotInventoryEntry.isHeldAs { e with allocation := a } holdId = false := by
    intro j e' holdId hjk hj hheld
    rw [← Bool.not_eq_true]
    intro hchanged
    obtain ⟨hold, ha, rfl⟩ := isHeldAs_iff.mp hchanged
    obtain ⟨c, rfl, hholdId, hslotId, hunseen⟩ := hnew hold ha
    rw [hholdId] at hheld
    have hid := hfresh hunseen e' (List.mem_of_getElem? hj) hheld
    exact hjk (index_of_slotId hb.slotIds hj he (hid.trans hslotId.symm))
  intro i j e₁ e₂ holdId h₁ h₂ hheld₁ hheld₂
  by_cases hi : k = i
  · subst hi
    by_cases hj : k = j
    · exact hj
    · rw [List.getElem?_set_self hlt] at h₁
      rw [List.getElem?_set_ne hj] at h₂
      cases h₁
      exact absurd hheld₁ (Bool.eq_false_iff.mp (hown j e₂ holdId (Ne.symm hj) h₂ hheld₂))
  · rw [List.getElem?_set_ne hi] at h₁
    by_cases hj : k = j
    · subst hj
      rw [List.getElem?_set_self hlt] at h₂
      cases h₂
      exact absurd hheld₂ (Bool.eq_false_iff.mp (hown i e₁ holdId (Ne.symm hi) h₁ hheld₁))
    · rw [List.getElem?_set_ne hj] at h₂
      exact hapart i j e₁ e₂ holdId h₁ h₂ hheld₁ hheld₂

variable {ok : SlotBook → SlotOperation → Prop}

theorem inOrder_reachable (h : (slotSystem env).Reachable ok b) : b.InOrder env := by
  have hind : (slotSystem env).Inductive ok fun b => b.InOrder env := by
    refine ⟨?_, ?_⟩
    · rintro b ⟨definitions, hcreate⟩
      exact (createSlotBook_inOrder hcreate).1
    · rintro b op b' hb - rfl
      exact inOrder_next hb op
  exact hind.invariant h

/-- **Run.** Where every hold names a fresh id, the holds stay apart. -/
theorem holdsApart_reachable (h : (slotSystem env).Reachable NamesFreshHold b) :
    HoldsApart b.slots := by
  have hind : (slotSystem env).Inductive NamesFreshHold
      fun b => b.InOrder env ∧ HoldsApart b.slots := by
    refine ⟨?_, ?_⟩
    · rintro b ⟨definitions, hcreate⟩
      exact createSlotBook_inOrder hcreate
    · rintro b op b' ⟨hb, hapart⟩ hfresh rfl
      exact ⟨inOrder_next hb op, holdsApart_next hb hapart hfresh⟩
  exact (hind.invariant h).2

/-! ## The theorem -/

/-- The booking of the hold sends a command that is new to the book, while the
hold lasts. -/
structure Asks (env : Env) (b : SlotBook) (hold : SlotHold) (c : ConfirmSlotCommand) : Prop where
  bookingId : c.bookingId = hold.bookingId
  holdId : c.holdId = hold.holdId
  unexpired : Unexpired env hold c.now
  unseen : Unseen b.revision b.commandReceipts c.toCommandMetadata
  key : isText 300 c.idempotencyKey = true

/-- The command confirms the slot at the index, and leaves the others. -/
def Confirms (env : Env) (b : SlotBook) (i : Nat) (c : ConfirmSlotCommand) : Prop :=
  ∃ r e, confirmSlotHold env b c = .ok r ∧ r.replayed = false ∧ b.slots[i]? = some e ∧
    r.state.slots = b.slots.set i { e with allocation := .confirmed c.bookingId }

/-- No slot before the one at the index is held under the id. -/
def FirstHeld (slots : List SlotInventoryEntry) (i : Nat) (holdId : String) : Prop :=
  ∀ j < i, ∀ e, slots[j]? = some e → e.isHeldAs holdId = false

theorem atOrBefore_of_strictlyBefore {x y : String} (h : strictlyBefore env x y = true) :
    atOrBefore env y x = false := by
  unfold strictlyBefore at h
  unfold atOrBefore
  split at h
  · next t u hx hy =>
      rw [hx, hy]
      exact decide_eq_false (not_le.mpr (of_decide_eq_true h))
  · cases h

theorem confirms_iff (hdigest : ∀ text, Js.isHexDigest (env.digest text) = true)
    (hb : b.Settled env) (hheld : allocationAt b i = some (.held hold))
    (hasks : Asks env b hold c) :
    Confirms env b i c ↔
      b.revision + 1 ≤ 2 ^ 53 - 1 ∧ FirstHeld b.slots i hold.holdId := by
  obtain ⟨e, he, ha⟩ := Option.map_eq_some_iff.mp hheld
  have hlt := (List.getElem?_eq_some_iff.mp he).1
  constructor
  · rintro ⟨r, e', hconfirm, hnew, he', hslots⟩
    cases he.symm.trans he'
    rcases confirmSlotHold_new hb hconfirm with
      ⟨-, hreplayed⟩ | ⟨-, hrevision, k, found, hentry, hslots'⟩
    · exact absurd (hnew.symm.trans hreplayed) nofun
    · obtain ⟨hk, -, hfirst⟩ := findEntry_iff.mp hentry
      refine ⟨hrevision, ?_⟩
      -- the slot that was found is the one that is now confirmed
      have hsame : k = i := by
        by_contra hne
        have hset := congrArg (·[i]?) (hslots'.symm.trans hslots)
        simp only [List.getElem?_set_ne hne, List.getElem?_set_self hlt, he] at hset
        have hallocation := congrArg SlotInventoryEntry.allocation (Option.some_inj.mp hset)
        exact absurd (ha.symm.trans hallocation) nofun
      subst hsame
      rw [← hasks.holdId]
      exact hfirst
  · rintro ⟨hrevision, hfirst⟩
    have hunder : e.isHeldAs c.holdId = true := isHeldAs_iff.mpr ⟨hold, ha, hasks.holdId.symm⟩
    have hentry : findEntry b.slots (·.isHeldAs c.holdId) = some (i, e) := by
      refine findEntry_iff.mpr ⟨he, hunder, ?_⟩
      rw [hasks.holdId]
      exact hfirst
    exact ⟨_, e, confirmSlotHold_of hb hasks.unseen hrevision ⟨hasks.key, hdigest _⟩ hentry ha
      hasks.bookingId.symm (atOrBefore_of_strictlyBefore hasks.unexpired), rfl, he, rfl⟩

/-- **Unexpired holds are confirmed.** In every reached book, the command of the
booking that has a hold confirms exactly the held slot if and only if the
revision can still grow and no earlier slot is held under the same id. Where
every hold of the run named an id that no other slot was held under, that is
never in the way. -/
theorem unexpired_hold_confirms_iff (env : Env)
    (hdigest : ∀ text, Js.isHexDigest (env.digest text) = true) :
    (∀ b, (slotSystem env).Reachable TSys.any b → ∀ i hold c,
      allocationAt b i = some (.held hold) → Asks env b hold c →
      (Confirms env b i c ↔
        b.revision + 1 ≤ 2 ^ 53 - 1 ∧ FirstHeld b.slots i hold.holdId)) ∧
    ∀ b, (slotSystem env).Reachable NamesFreshHold b → ∀ i hold c,
      allocationAt b i = some (.held hold) → Asks env b hold c →
      b.revision + 1 ≤ 2 ^ 53 - 1 → Confirms env b i c := by
  refine ⟨fun b hreach i hold c hheld hasks => ?_,
    fun b hreach i hold c hheld hasks hrevision => ?_⟩
  · exact confirms_iff hdigest (inOrder_reachable hreach).settled hheld hasks
  · refine (confirms_iff hdigest (inOrder_reachable hreach).settled hheld hasks).mpr ⟨hrevision, ?_⟩
    intro j hj e' he'
    rw [← Bool.not_eq_true]
    intro hunder
    obtain ⟨e, he, ha⟩ := Option.map_eq_some_iff.mp hheld
    exact hj.ne (holdsApart_reachable hreach j i e' e hold.holdId he' he hunder
      (isHeldAs_iff.mpr ⟨hold, ha, rfl⟩))

namespace Sample

def otherBookingId : String := "32000000-0000-4000-8000-000000000034"

/-- The second visit is held for the booking. -/
def holdSecond : HoldSlotCommand where
  idempotencyKey := "key-1"
  expectedRevision := 0
  holdId := candidate.holdId
  bookingId := bookingId
  slotId := candidate.slotId
  now := now
  expiresAt := candidate.expiresAt

/-- Then the first one is held for another booking. -/
def holdForOther (holdId : String) : HoldSlotCommand where
  idempotencyKey := "key-2"
  expectedRevision := 1
  holdId := holdId
  bookingId := otherBookingId
  slotId := slotHold.slotId
  now := now
  expiresAt := slotHold.expiresAt

/-- The booking confirms its hold. -/
def confirmSecond : ConfirmSlotCommand where
  idempotencyKey := "key-3"
  expectedRevision := 2
  bookingId := bookingId
  holdId := candidate.holdId
  now := now

def slotFingerprinted (operation : String) (payload : JsVal) : JsVal :=
  .obj [("operation", .str operation), ("payload", payload)]

/-- SHA-256 on the commands of the slot book. -/
def slotDigests : List (JsVal × Nat) :=
  [(slotFingerprinted "slot.hold" holdSecond.payload,
        0x6652c5c36280a7b354d8857eef414b8d2ad8159fdb6178e1ab554c442cb31685),
    (slotFingerprinted "slot.hold" (holdForOther candidate.holdId).payload,
        0x04345d5ad6e0a1e3409f10916a070e9173b9c321d7c855b69e8181c8dbdf6383),
    (slotFingerprinted "slot.hold" (holdForOther slotHold.holdId).payload,
        0x70ee4d142f4db7ab931616a972d2b55ad287c7a9f7e30fe2e07d69a7a52599de),
    (slotFingerprinted "slot.confirm" confirmSecond.payload,
        0x1d2bd19f02ed168e7a5f4ecee53f0327befa0533d18b885cb4e17021e86ca23f)]

def slotHost : Env :=
  { host with
    digest text :=
      hex64 (((slotDigests.map fun p => (canonicalJson p.1, p.2)).lookup text).getD 0) }

theorem slotHost_hex (text : String) : Js.isHexDigest (slotHost.digest text) = true :=
  isHexDigest_hex64 _

theorem slotReceiptText {key : String} {v : JsVal} (h : isText 300 key = true) :
    ReceiptText key (Domain.sha256 slotHost.toDomain v) := ⟨h, slotHost_hex _⟩

theorem create_visitBook : createSlotBook slotHost visits = .ok visitBook := rfl

/-- The book with the second visit held. -/
def heldBook : SlotBook :=
  recordedSlots visitBook
    (visitBook.slots.set 1 { visits[1] with allocation := .held holdSecond.hold })
    (receiptOf slotHost holdSecond.toCommandMetadata "slot.hold" holdSecond.payload).trimmed

theorem visitBook_settled : visitBook.Settled slotHost :=
  (createSlotBook_inOrder create_visitBook).1.settled

theorem hold_second : holdSlot slotHost visitBook holdSecond =
    .ok { state := heldBook, replayed := false } := by
  have hkey : isText 300 holdSecond.idempotencyKey = true := by decide
  exact holdSlot_of visitBook_settled ⟨rfl, rfl⟩ (by decide) (slotReceiptText hkey) rfl rfl rfl rfl

theorem heldBook_settled : heldBook.Settled slotHost := by
  rcases holdSlot_new visitBook_settled hold_second with
    hsame | ⟨hsettled, -⟩
  · exact absurd (congrArg SlotBook.revision hsame) (by decide)
  · exact hsettled

/-- The book with both visits held, the first one under `holdId`. -/
def bothBook (holdId : String) : SlotBook :=
  recordedSlots heldBook
    (heldBook.slots.set 0 { visits[0] with allocation := .held (holdForOther holdId).hold })
    (receiptOf slotHost (holdForOther holdId).toCommandMetadata "slot.hold"
      (holdForOther holdId).payload).trimmed

theorem hold_both (holdId : String) :
    holdSlot slotHost heldBook (holdForOther holdId) =
      .ok { state := bothBook holdId, replayed := false } := by
  have hkey : isText 300 (holdForOther holdId).idempotencyKey = true := by
    show isText 300 "key-2" = true
    decide
  exact holdSlot_of heldBook_settled ⟨rfl, rfl⟩ (by decide) (slotReceiptText hkey) rfl rfl rfl rfl

theorem bothBook_settled (holdId : String) : (bothBook holdId).Settled slotHost := by
  rcases holdSlot_new heldBook_settled (hold_both holdId) with hsame | ⟨hsettled, -⟩
  · have hrevision : (2 : Nat) = 1 := congrArg SlotBook.revision hsame
    exact absurd hrevision (by decide)
  · exact hsettled

theorem heldBook_reachable (hok : ok visitBook (.hold holdSecond)) :
    (slotSystem slotHost).Reachable ok heldBook := by
  have hinit : (slotSystem slotHost).Reachable ok visitBook :=
    TSys.Reachable.init ⟨visits, create_visitBook⟩
  exact hinit.step hok (nextBook_hold hold_second)

theorem bothBook_reachable {holdId : String} (hok : ok visitBook (.hold holdSecond))
    (hok' : ok heldBook (.hold (holdForOther holdId))) :
    (slotSystem slotHost).Reachable ok (bothBook holdId) := by
  exact (heldBook_reachable hok).step hok' (nextBook_hold (hold_both holdId))

/-- The other booking holds under an id of its own. -/
theorem second_confirmed :
    (slotSystem slotHost).Reachable NamesFreshHold (bothBook slotHold.holdId) ∧
      Confirms slotHost (bothBook slotHold.holdId) 1 confirmSecond := by
  have hreach : (slotSystem slotHost).Reachable NamesFreshHold (bothBook slotHold.holdId) := by
    refine bothBook_reachable ?_ ?_
    · exact fun _ => by decide
    · exact fun _ => by decide
  exact ⟨hreach, (unexpired_hold_confirms_iff slotHost slotHost_hex).2 _ hreach 1 holdSecond.hold
    confirmSecond rfl ⟨rfl, rfl, rfl, ⟨rfl, rfl⟩, by decide⟩ (by decide)⟩

/-- It holds under the id of the booking's hold, which the booking can no longer
confirm. -/
theorem hold_hidden :
    (slotSystem slotHost).Reachable TSys.any (bothBook candidate.holdId) ∧
      allocationAt (bothBook candidate.holdId) 1 = some (.held holdSecond.hold) ∧
      Asks slotHost (bothBook candidate.holdId) holdSecond.hold confirmSecond ∧
      (bothBook candidate.holdId).revision + 1 ≤ 2 ^ 53 - 1 ∧
      confirmSlotHold slotHost (bothBook candidate.holdId) confirmSecond =
        .error (.conflict "hold_owner_mismatch" "The booking does not own this slot hold" []) ∧
      ¬ Confirms slotHost (bothBook candidate.holdId) 1 confirmSecond := by
  have hmismatch : confirmSlotHold slotHost (bothBook candidate.holdId) confirmSecond =
      .error (.conflict "hold_owner_mismatch" "The booking does not own this slot hold" []) := by
    refine confirmSlotHold_mismatch (bothBook_settled _) ⟨rfl, rfl⟩ rfl rfl ?_
    show otherBookingId ≠ bookingId
    decide
  refine ⟨bothBook_reachable trivial trivial, rfl, ⟨rfl, rfl, rfl, ⟨rfl, rfl⟩, by decide⟩,
    by decide, hmismatch, ?_⟩
  rintro ⟨r, e, hconfirm, -⟩
  cases hmismatch.symm.trans hconfirm

end Sample

end InspectionHub.Booking
