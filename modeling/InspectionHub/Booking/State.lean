import InspectionHub.Booking.Documents
import InspectionHub.Domain.ModuleState

/-!
# The state of a booking

`BookingStateSchema` of `packages/booking/src/schemas.ts`. Parsing a state
checks every field and trims the texts that come from callers: references,
reasons, and the keys in the receipts.
-/

namespace InspectionHub.Booking

open Schema Contracts
open Agreements hiding Env
open Domain (failing timestampField accept parseAll parseNullable accept_ok failing_eq_nil)

inductive Lifecycle where
  | draft | confirmed | reschedule_pending | cancel_pending | cancelled
deriving DecidableEq

def Lifecycle.text : Lifecycle → String
  | .draft => "draft"
  | .confirmed => "confirmed"
  | .reschedule_pending => "reschedule_pending"
  | .cancel_pending => "cancel_pending"
  | .cancelled => "cancelled"

structure SlotHoldSnapshot where
  slotId : String
  holdId : String
  startsAt : String
  endsAt : String
  expiresAt : String
deriving DecidableEq

inductive SlotState where
  | held | confirmed | released | expired
deriving DecidableEq

structure BookingSlotProjection extends SlotHoldSnapshot where
  state : SlotState
  confirmedAt : Option String
deriving DecidableEq

inductive SlotHistoryState where
  | superseded | cancelled | expired
deriving DecidableEq

structure SlotHistoryEntry where
  state : SlotHistoryState
  slotId : String
  holdId : String
  startsAt : String
  endsAt : String
  recordedAt : String
deriving DecidableEq

inductive AgreementState where
  | unsigned | signed
deriving DecidableEq

structure AgreementProjection where
  state : AgreementState
  snapshot : Option JsVal
deriving DecidableEq

inductive PaymentState where
  | not_started | pending | paid | declined | failed | unknown
  | refund_pending | refunded | refund_failed
deriving DecidableEq

def PaymentState.text : PaymentState → String
  | .not_started => "not_started"
  | .pending => "pending"
  | .paid => "paid"
  | .declined => "declined"
  | .failed => "failed"
  | .unknown => "unknown"
  | .refund_pending => "refund_pending"
  | .refunded => "refunded"
  | .refund_failed => "refund_failed"

structure PaymentProjection where
  state : PaymentState
  attempt : Nat
  intentId : Option String
  providerReference : Option String
  failureCode : Option String
  terminal : Bool
deriving DecidableEq

inductive CalendarState where
  | not_requested | pending | confirmed | reservation_failed | unknown
  | cancellation_pending | cancelled | cancellation_failed
deriving DecidableEq

structure CalendarProjection where
  state : CalendarState
  eventReference : Option String
  failureCode : Option String
  retryable : Bool
deriving DecidableEq

inductive AccessState where
  | not_requested | confirmation_pending | confirmed | overridden | invalidated
deriving DecidableEq

structure AccessProjection where
  state : AccessState
  generation : Nat
  activeLinkId : Option String
  activeTokenFingerprint : Option String
  supersededLinkIds : List String
  confirmedAt : Option String
  overrideReason : Option String
deriving DecidableEq

inductive Channel where
  | email | sms
deriving DecidableEq

def Channel.text : Channel → String
  | .email => "email"
  | .sms => "sms"

inductive ReminderState where
  | scheduled | sent | invalidated | failed | unknown
deriving DecidableEq

structure Reminder where
  reminderId : String
  generation : Nat
  scheduledFor : String
  channel : Channel
  state : ReminderState
deriving DecidableEq

structure NotificationProjection where
  generation : Nat
  reminders : List Reminder
deriving DecidableEq

inductive Dependency where
  | slot | agreement | payment | calendar | access
deriving DecidableEq

def Dependency.text : Dependency → String
  | .slot => "slot"
  | .agreement => "agreement"
  | .payment => "payment"
  | .calendar => "calendar"
  | .access => "access"

inductive ResponsibleRole where
  | client | access_contact | system | administrator
deriving DecidableEq

def ResponsibleRole.text : ResponsibleRole → String
  | .client => "client"
  | .access_contact => "access_contact"
  | .system => "system"
  | .administrator => "administrator"

structure ReadinessAction where
  dependency : Dependency
  responsibleRole : ResponsibleRole
  action : String
deriving DecidableEq

def ReadinessAction.val (a : ReadinessAction) : JsVal :=
  .obj [("dependency", .str a.dependency.text),
    ("responsibleRole", .str a.responsibleRole.text), ("action", .str a.action)]

inductive ReadyState where
  | ready | action_required
deriving DecidableEq

inductive ProviderReadyState where
  | ready | action_required | provider_recovery
deriving DecidableEq

structure ReadinessProjection where
  ready : Bool
  slot : ReadyState
  agreement : ReadyState
  payment : ProviderReadyState
  calendar : ProviderReadyState
  access : ReadyState
  actions : List ReadinessAction
deriving DecidableEq

structure CommandReceipt where
  idempotencyKey : String
  requestFingerprint : String
deriving DecidableEq

structure ProviderCallbackReceipt where
  providerEventId : String
  requestFingerprint : String
deriving DecidableEq

structure RescheduleProjection where
  candidateSlot : SlotHoldSnapshot
  previousCalendarEventReference : Option String
deriving DecidableEq

structure BookingState where
  bookingId : String
  organizationId : String
  revision : Nat
  lifecycle : Lifecycle
  /-- The preserved input snapshot. -/
  input : JsVal
  quote : JsVal
  slot : BookingSlotProjection
  slotHistory : List SlotHistoryEntry
  agreement : AgreementProjection
  payment : PaymentProjection
  calendar : CalendarProjection
  access : AccessProjection
  notifications : NotificationProjection
  readiness : ReadinessProjection
  reschedule : Option RescheduleProjection
  cancellationReason : Option String
  commandReceipts : List CommandReceipt
  providerCallbackReceipts : List ProviderCallbackReceipt
deriving DecidableEq

/-! ## The schema -/

variable (env : Env)

/-- The text is not blank and at most `n` long, once trimmed. -/
def isText (n : Nat) (s : String) : Bool :=
  1 ≤ Js.length (Js.trim s) && Js.length (Js.trim s) ≤ n

def textField (k : String) (n : Nat) (s : String) : List Issue := failing k none (isText n s)

def idField (k s : String) : List Issue := Domain.idField env.toDomain k s

def atField (k s : String) : List Issue := timestampField env.toDomain k s

/-- `z.string().regex(/^[a-f0-9]{64}$/u)`. -/
def fingerprintField (k s : String) : List Issue := failing k none (Js.isHexDigest s)

def safeField (k : String) (p : Nat → Bool) (n : Nat) : List Issue :=
  failing k none (n ≤ 2 ^ 53 - 1 && p n)

/-- `schema.nullable()` of a field. -/
def optional {α : Type} (f : α → List Issue) : Option α → List Issue
  | none => []
  | some a => f a

variable {α : Type}

@[simp] theorem optional_none (f : α → List Issue) : optional f none = [] := rfl

@[simp] theorem optional_some (f : α → List Issue) (a : α) : optional f (some a) = f a := rfl

/-- The issues of each element, below its place in the array `k`. -/
def eachField {α : Type} (k : String) (f : α → List Issue) (l : List α) : List Issue :=
  (l.mapIdx fun i a => (f a).map fun e => ⟨.name k :: .index i :: e.path, e.message⟩).flatten

/-- Issues below the property `k`. -/
def below (k : String) (issues : List Issue) : List Issue :=
  issues.map fun e => ⟨.name k :: e.path, e.message⟩

def SlotHoldSnapshot.issues (h : SlotHoldSnapshot) : List Issue :=
  idField env "slotId" h.slotId ++ idField env "holdId" h.holdId ++
    atField env "startsAt" h.startsAt ++ atField env "endsAt" h.endsAt ++
    atField env "expiresAt" h.expiresAt

def BookingSlotProjection.issues (s : BookingSlotProjection) : List Issue :=
  s.toSlotHoldSnapshot.issues env ++ optional (atField env "confirmedAt") s.confirmedAt

def SlotHistoryEntry.issues (e : SlotHistoryEntry) : List Issue :=
  idField env "slotId" e.slotId ++ idField env "holdId" e.holdId ++
    atField env "startsAt" e.startsAt ++ atField env "endsAt" e.endsAt ++
    atField env "recordedAt" e.recordedAt

/-- The refinement of an agreement. -/
def agreementIssues (a : AgreementProjection) : List Issue :=
  if (a.state = .signed) = (a.snapshot.isSome = true) then []
  else [⟨[], some "Signed agreement state and snapshot must change together"⟩]

def AgreementProjection.parse (a : AgreementProjection) : Parsed AgreementProjection :=
  ((under (.name "snapshot") (parseNullable (signedAgreementSnapshotSchema env.toAgreements)
    a.snapshot)).map fun snapshot => { a with snapshot }).bind
  fun b => accept b (agreementIssues b)

def PaymentProjection.parse (p : PaymentProjection) : Parsed PaymentProjection :=
  accept
    { p with
      intentId := p.intentId.map Js.trim
      providerReference := p.providerReference.map Js.trim
      failureCode := p.failureCode.map Js.trim }
    (safeField "attempt" (0 ≤ ·) p.attempt ++
      optional (textField "intentId" 300) p.intentId ++
      optional (textField "providerReference" 300) p.providerReference ++
      optional (textField "failureCode" 300) p.failureCode)

def CalendarProjection.parse (c : CalendarProjection) : Parsed CalendarProjection :=
  accept
    { c with
      eventReference := c.eventReference.map Js.trim
      failureCode := c.failureCode.map Js.trim }
    (optional (textField "eventReference" 300) c.eventReference ++
      optional (textField "failureCode" 300) c.failureCode)

def AccessProjection.parse (a : AccessProjection) : Parsed AccessProjection :=
  accept { a with overrideReason := a.overrideReason.map Js.trim }
    (safeField "generation" (0 < ·) a.generation ++
      optional (idField env "activeLinkId") a.activeLinkId ++
      optional (Domain.hashField "activeTokenFingerprint") a.activeTokenFingerprint ++
      eachField "supersededLinkIds" (fun id => if env.formats.uuid id then [] else [⟨[], none⟩])
        a.supersededLinkIds ++
      optional (atField env "confirmedAt") a.confirmedAt ++
      optional (textField "overrideReason" 4000) a.overrideReason)

def Reminder.issues (r : Reminder) : List Issue :=
  idField env "reminderId" r.reminderId ++ safeField "generation" (0 < ·) r.generation ++
    atField env "scheduledFor" r.scheduledFor

def NotificationProjection.issues (n : NotificationProjection) : List Issue :=
  safeField "generation" (0 < ·) n.generation ++
    eachField "reminders" (Reminder.issues env) n.reminders

def ReadinessAction.parse (a : ReadinessAction) : Parsed ReadinessAction :=
  accept { a with action := Js.trim a.action } (textField "action" 300 a.action)

def ReadinessProjection.parse (r : ReadinessProjection) : Parsed ReadinessProjection :=
  (under (.name "actions") (parseAll ReadinessAction.parse 0 r.actions)).map
    fun actions => { r with actions }

def RescheduleProjection.parse (r : RescheduleProjection) : Parsed RescheduleProjection :=
  accept
    { r with
      previousCalendarEventReference := r.previousCalendarEventReference.map Js.trim }
    (below "candidateSlot" (r.candidateSlot.issues env) ++
      optional (textField "previousCalendarEventReference" 300) r.previousCalendarEventReference)

def parseReason (r : Option String) : Parsed (Option String) :=
  accept (r.map Js.trim) (optional (textField "cancellationReason" 4000) r)

def CommandReceipt.parse (r : CommandReceipt) : Parsed CommandReceipt :=
  accept { r with idempotencyKey := Js.trim r.idempotencyKey }
    (textField "idempotencyKey" 300 r.idempotencyKey ++
      fingerprintField "requestFingerprint" r.requestFingerprint)

def ProviderCallbackReceipt.parse (r : ProviderCallbackReceipt) : Parsed ProviderCallbackReceipt :=
  accept { r with providerEventId := Js.trim r.providerEventId }
    (textField "providerEventId" 300 r.providerEventId ++
      fingerprintField "requestFingerprint" r.requestFingerprint)

/-- The strict object, before its refinement. -/
def BookingState.parseFields (v : BookingState) : Parsed BookingState :=
  (both Prod.mk
    (accept ()
      (idField env "bookingId" v.bookingId ++ idField env "organizationId" v.organizationId ++
        safeField "revision" (0 ≤ ·) v.revision)) <|
  both Prod.mk (under (.name "input") (bookingInputSnapshotSchema env v.input)) <|
  both Prod.mk (under (.name "quote") (quoteSnapshotSchema env v.quote)) <|
  both Prod.mk
    (accept ()
      (below "slot" (v.slot.issues env) ++
        eachField "slotHistory" (SlotHistoryEntry.issues env) v.slotHistory)) <|
  both Prod.mk (under (.name "agreement") (v.agreement.parse env)) <|
  both Prod.mk (under (.name "payment") v.payment.parse) <|
  both Prod.mk (under (.name "calendar") v.calendar.parse) <|
  both Prod.mk (under (.name "access") (v.access.parse env)) <|
  both Prod.mk (accept () (below "notifications" (v.notifications.issues env))) <|
  both Prod.mk (under (.name "readiness") v.readiness.parse) <|
  both Prod.mk
    (under (.name "reschedule") (parseNullable (RescheduleProjection.parse env) v.reschedule)) <|
  both Prod.mk (parseReason v.cancellationReason) <|
  both Prod.mk
    (under (.name "commandReceipts") (parseAll CommandReceipt.parse 0 v.commandReceipts))
    (under (.name "providerCallbackReceipts")
      (parseAll ProviderCallbackReceipt.parse 0 v.providerCallbackReceipts))).map
  fun (_, input, quote, _, agreement, payment, calendar, access, _, readiness, reschedule,
      cancellationReason, commandReceipts, providerCallbackReceipts) =>
    { v with
      input, quote, agreement, payment, calendar, access, readiness, reschedule
      cancellationReason, commandReceipts, providerCallbackReceipts }

/-- The refinement of the state. -/
def stateIssues (s : BookingState) : List Issue :=
  if Domain.sha256 env.toDomain s.quote =
      Domain.sha256 env.toDomain ((s.input.get? "quote").getD .null) then []
  else [⟨[.name "quote"],
    some "The booking quote projection must equal the preserved input quote snapshot"⟩]

/-- `BookingStateSchema.parse(state)`. -/
def BookingState.parse (v : BookingState) : Parsed BookingState :=
  (v.parseFields env).bind fun s => accept s (stateIssues env s)

/-! ## Parsing a state again -/

/-- What the parser returned, it returns unchanged. -/
def Settles {α : Type} (p : α → Parsed α) : Prop := ∀ a b, p a = .ok b → p b = .ok b

theorem isText_trim (n : Nat) (s : String) : isText n (Js.trim s) = isText n s := by
  rw [isText, isText, Js.trim_trim]

theorem textField_trim (k : String) (n : Nat) (s : String) :
    textField k n (Js.trim s) = textField k n s := by
  rw [textField, textField, isText_trim]

theorem optional_trim (k : String) (n : Nat) (o : Option String) :
    optional (textField k n) (o.map Js.trim) = optional (textField k n) o := by
  cases o with
  | none => rfl
  | some s => simp only [Option.map_some, optional, textField_trim]

theorem map_trim_trim (o : Option String) : (o.map Js.trim).map Js.trim = o.map Js.trim := by
  cases o with
  | none => rfl
  | some s => exact congrArg some (Js.trim_trim s)

/-- A record whose texts are trimmed, and whose checks look at trimmed text. -/
theorem settles_accept {norm : α → α} {issues : α → List Issue}
    (hnorm : ∀ a, norm (norm a) = norm a) (hissues : ∀ a, issues (norm a) = issues a) :
    Settles fun a => accept (norm a) (issues a) := by
  intro a b h
  obtain ⟨rfl, hnone⟩ := accept_ok h
  show accept (norm (norm a)) (issues (norm a)) = _
  rw [hnorm, hissues, hnone]
  rfl

theorem settles_payment : Settles PaymentProjection.parse :=
  settles_accept (fun _ => by simp only [map_trim_trim]) fun _ => by simp only [optional_trim]

theorem settles_calendar : Settles CalendarProjection.parse :=
  settles_accept (fun _ => by simp only [map_trim_trim]) fun _ => by simp only [optional_trim]

theorem settles_access : Settles (AccessProjection.parse env) :=
  settles_accept (fun _ => by simp only [map_trim_trim]) fun _ => by simp only [optional_trim]

theorem settles_reschedule : Settles (RescheduleProjection.parse env) :=
  settles_accept (fun _ => by simp only [map_trim_trim]) fun _ => by simp only [optional_trim]

theorem settles_readinessAction : Settles ReadinessAction.parse :=
  settles_accept (fun _ => by simp only [Js.trim_trim]) fun _ => by simp only [textField_trim]

theorem settles_commandReceipt : Settles CommandReceipt.parse :=
  settles_accept (fun _ => by simp only [Js.trim_trim]) fun _ => by simp only [textField_trim]

theorem settles_providerCallbackReceipt : Settles ProviderCallbackReceipt.parse :=
  settles_accept (fun _ => by simp only [Js.trim_trim]) fun _ => by simp only [textField_trim]

theorem settles_reason : Settles parseReason :=
  settles_accept (fun o => map_trim_trim o) fun o => optional_trim _ _ o

theorem parseAll_ok {f : α → Parsed α} {i : Nat} {l r : List α} (h : parseAll f i l = .ok r) :
    List.Forall₂ (fun a b => f a = .ok b) l r := by
  induction l generalizing i r with
  | nil =>
      cases h
      exact .nil
  | cons a l ih =>
      obtain ⟨b, r', hb, hr, rfl⟩ := both_ok h
      exact .cons (under_ok hb) (ih hr)

theorem parseAll_of {f : α → Parsed α} {l r : List α}
    (h : List.Forall₂ (fun a b => f a = .ok b) l r) (i : Nat) : parseAll f i l = .ok r := by
  induction h generalizing i with
  | nil => rfl
  | cons hb _ ih =>
      unfold parseAll
      rw [hb, ih]
      rfl

theorem settles_all {f : α → Parsed α} (hf : Settles f) (i : Nat) : Settles (parseAll f i) := by
  intro l r h
  refine parseAll_of ?_ i
  have hl := parseAll_ok h
  clear h
  induction hl with
  | nil => exact .nil
  | cons hb _ ih => exact .cons (hf _ _ hb) ih

theorem settles_nullable {f : α → Parsed α} (hf : Settles f) : Settles (parseNullable f) := by
  intro o r h
  cases o with
  | none =>
      cases h
      rfl
  | some a =>
      obtain ⟨b, hb, rfl⟩ := map_ok h
      show (f b).map some = _
      rw [hf a b hb]
      rfl

theorem settles_readiness : Settles ReadinessProjection.parse := by
  intro r r' h
  obtain ⟨actions, hactions, rfl⟩ := map_ok h
  have hself := settles_all settles_readinessAction 0 _ _ (under_ok hactions)
  show (under _ (parseAll ReadinessAction.parse 0 actions)).map _ = _
  rw [hself]
  rfl

theorem settles_agreement : Settles (AgreementProjection.parse env) := by
  intro a b h
  obtain ⟨c, hc, h⟩ := Domain.bind_ok h
  obtain ⟨rfl, hissues⟩ := accept_ok h
  obtain ⟨snapshot, hsnapshot, rfl⟩ := map_ok hc
  have hself := settles_nullable (stable_signedAgreementSnapshot env.toAgreements) _ _
    (under_ok hsnapshot)
  unfold AgreementProjection.parse
  dsimp only
  rw [hself]
  show accept _ (agreementIssues _) = _
  rw [hissues]
  rfl

/-- The checks on the fields that a parsed state keeps as they are. -/
structure Sound (v : BookingState) : Prop where
  ids : idField env "bookingId" v.bookingId ++ idField env "organizationId" v.organizationId ++
    safeField "revision" (0 ≤ ·) v.revision = []
  slots : below "slot" (v.slot.issues env) ++
    eachField "slotHistory" (SlotHistoryEntry.issues env) v.slotHistory = []
  notifications : below "notifications" (v.notifications.issues env) = []

/-- `s` is what `v` is parsed to. -/
structure Frozen (v s : BookingState) : Prop where
  sound : Sound env v
  input : bookingInputSnapshotSchema env v.input = .ok s.input
  quote : quoteSnapshotSchema env v.quote = .ok s.quote
  agreement : v.agreement.parse env = .ok s.agreement
  payment : v.payment.parse = .ok s.payment
  calendar : v.calendar.parse = .ok s.calendar
  access : v.access.parse env = .ok s.access
  readiness : v.readiness.parse = .ok s.readiness
  reschedule : parseNullable (RescheduleProjection.parse env) v.reschedule = .ok s.reschedule
  cancellationReason : parseReason v.cancellationReason = .ok s.cancellationReason
  commandReceipts : parseAll CommandReceipt.parse 0 v.commandReceipts = .ok s.commandReceipts
  providerCallbackReceipts : parseAll ProviderCallbackReceipt.parse 0 v.providerCallbackReceipts =
    .ok s.providerCallbackReceipts
  rest : s = { v with
    input := s.input
    quote := s.quote
    agreement := s.agreement
    payment := s.payment
    calendar := s.calendar
    access := s.access
    readiness := s.readiness
    reschedule := s.reschedule
    cancellationReason := s.cancellationReason
    commandReceipts := s.commandReceipts
    providerCallbackReceipts := s.providerCallbackReceipts }
  refined : stateIssues env s = []

variable {env} {v s : BookingState}

theorem Frozen.of_parse (h : v.parse env = .ok s) : Frozen env v s := by
  obtain ⟨t, ht, hrefined⟩ := Domain.bind_ok h
  obtain ⟨rfl, hrefined⟩ := accept_ok hrefined
  clear h
  obtain ⟨_, h₀, rfl⟩ := map_ok ht
  obtain ⟨_, _, hids, h₁, rfl⟩ := both_ok h₀
  obtain ⟨input, _, hinput, h₂, rfl⟩ := both_ok h₁
  obtain ⟨quote, _, hquote, h₃, rfl⟩ := both_ok h₂
  obtain ⟨_, _, hslots, h₄, rfl⟩ := both_ok h₃
  obtain ⟨agreement, _, hagreement, h₅, rfl⟩ := both_ok h₄
  obtain ⟨payment, _, hpayment, h₆, rfl⟩ := both_ok h₅
  obtain ⟨calendar, _, hcalendar, h₇, rfl⟩ := both_ok h₆
  obtain ⟨access, _, haccess, h₈, rfl⟩ := both_ok h₇
  obtain ⟨_, _, hnotifications, h₉, rfl⟩ := both_ok h₈
  obtain ⟨readiness, _, hreadiness, h₁₀, rfl⟩ := both_ok h₉
  obtain ⟨reschedule, _, hreschedule, h₁₁, rfl⟩ := both_ok h₁₀
  obtain ⟨reason, _, hreason, h₁₂, rfl⟩ := both_ok h₁₁
  obtain ⟨commands, callbacks, hcommands, hcallbacks, rfl⟩ := both_ok h₁₂
  exact
    { sound := ⟨(accept_ok hids).2, (accept_ok hslots).2, (accept_ok hnotifications).2⟩
      input := under_ok hinput
      quote := under_ok hquote
      agreement := under_ok hagreement
      payment := under_ok hpayment
      calendar := under_ok hcalendar
      access := under_ok haccess
      readiness := under_ok hreadiness
      reschedule := under_ok hreschedule
      cancellationReason := hreason
      commandReceipts := under_ok hcommands
      providerCallbackReceipts := under_ok hcallbacks
      rest := rfl
      refined := hrefined }

theorem Frozen.parse (h : Frozen env v s) : v.parse env = .ok s := by
  have hfields : v.parseFields env = .ok s := by
    unfold BookingState.parseFields
    rw [h.sound.ids, h.input, h.quote, h.sound.slots, h.agreement, h.payment, h.calendar, h.access,
      h.sound.notifications, h.readiness, h.reschedule, h.cancellationReason, h.commandReceipts,
      h.providerCallbackReceipts]
    exact congrArg Except.ok h.rest.symm
  unfold BookingState.parse
  rw [hfields]
  show accept s (stateIssues env s) = _
  rw [h.refined]
  rfl

/-- What was parsed is parsed to itself. -/
theorem Frozen.settled (h : Frozen env v s) : Frozen env s s where
  sound := by
    obtain ⟨hids, hslots, hnotifications⟩ := h.sound
    rw [h.rest]
    exact ⟨hids, hslots, hnotifications⟩
  input := stable_bookingInputSnapshot env _ _ h.input
  quote := stable_quoteSnapshot env _ _ h.quote
  agreement := settles_agreement env _ _ h.agreement
  payment := settles_payment _ _ h.payment
  calendar := settles_calendar _ _ h.calendar
  access := settles_access env _ _ h.access
  readiness := settles_readiness _ _ h.readiness
  reschedule := settles_nullable (settles_reschedule env) _ _ h.reschedule
  cancellationReason := settles_reason _ _ h.cancellationReason
  commandReceipts := settles_all settles_commandReceipt 0 _ _ h.commandReceipts
  providerCallbackReceipts :=
    settles_all settles_providerCallbackReceipt 0 _ _ h.providerCallbackReceipts
  rest := rfl
  refined := h.refined

/-! ## When a field parses -/

theorem parses_iff {a : α} {issues : List Issue} :
    (∃ b, accept a issues = .ok b) ↔ issues = [] := by
  refine ⟨fun ⟨b, hb⟩ => (accept_ok hb).2, fun h => ⟨a, ?_⟩⟩
  rw [h]
  rfl

variable {k : String}

theorem failing_iff {m : Option String} {b : Bool} : failing k m b = [] ↔ b = true := by
  refine ⟨failing_eq_nil, fun h => ?_⟩
  rw [h]
  rfl

theorem eachField_iff {f : α → List Issue} {l : List α} :
    eachField k f l = [] ↔ ∀ a ∈ l, f a = [] := by
  unfold eachField
  rw [List.flatten_eq_nil_iff]
  constructor
  · intro h a ha
    obtain ⟨i, hi, rfl⟩ := List.mem_iff_getElem.mp ha
    have hnil := h _ (List.mem_mapIdx.mpr ⟨i, hi, rfl⟩)
    exact List.map_eq_nil_iff.mp hnil
  · intro h issues hissues
    obtain ⟨i, hi, rfl⟩ := List.mem_mapIdx.mp hissues
    rw [h _ (List.getElem_mem hi)]
    rfl

theorem below_iff {issues : List Issue} : below k issues = [] ↔ issues = [] :=
  List.map_eq_nil_iff

/-! ## What parsing a state keeps -/

theorem parse_payment_eq {p q : PaymentProjection} (h : p.parse = .ok q) :
    q = { p with
      intentId := p.intentId.map Js.trim
      providerReference := p.providerReference.map Js.trim
      failureCode := p.failureCode.map Js.trim } := (accept_ok h).1

theorem parse_calendar_eq {c d : CalendarProjection} (h : c.parse = .ok d) :
    d = { c with
      eventReference := c.eventReference.map Js.trim
      failureCode := c.failureCode.map Js.trim } := (accept_ok h).1

theorem parse_access_eq {a b : AccessProjection} (h : a.parse env = .ok b) :
    b = { a with overrideReason := a.overrideReason.map Js.trim } := (accept_ok h).1

theorem parse_agreement_state {a b : AgreementProjection} (h : a.parse env = .ok b) :
    b.state = a.state := by
  obtain ⟨c, hc, hb⟩ := Domain.bind_ok h
  obtain ⟨hsame, -⟩ := accept_ok hb
  obtain ⟨snapshot, -, rfl⟩ := map_ok hc
  rw [hsame]

/-- `s` agrees with `v` on everything that is not text of a caller. -/
structure Keeps (v s : BookingState) : Prop where
  lifecycle : s.lifecycle = v.lifecycle
  slot : s.slot = v.slot
  agreement : s.agreement.state = v.agreement.state
  payment : s.payment.state = v.payment.state
  intentId : s.payment.intentId = v.payment.intentId.map Js.trim
  calendar : s.calendar.state = v.calendar.state
  access : s.access.state = v.access.state
  activeLinkId : s.access.activeLinkId = v.access.activeLinkId
  notifications : s.notifications = v.notifications
  /-- Parsing neither adds nor drops a pending reschedule. -/
  reschedule : s.reschedule = none ↔ v.reschedule = none

theorem Frozen.keeps (h : Frozen env v s) : Keeps v s where
  lifecycle := by rw [h.rest]
  slot := by rw [h.rest]
  agreement := parse_agreement_state h.agreement
  payment := by rw [parse_payment_eq h.payment]
  intentId := by rw [parse_payment_eq h.payment]
  calendar := by rw [parse_calendar_eq h.calendar]
  access := by rw [parse_access_eq h.access]
  activeLinkId := by rw [parse_access_eq h.access]
  notifications := by rw [h.rest]
  reschedule := by
    have hparse := h.reschedule
    cases hv : v.reschedule with
    | none =>
        rw [hv] at hparse
        have hs : s.reschedule = none := (Except.ok.inj hparse).symm
        rw [hs]
    | some r =>
        rw [hv] at hparse
        obtain ⟨r', -, hr⟩ := map_ok hparse
        rw [← hr]
        exact ⟨nofun, nofun⟩

end InspectionHub.Booking
