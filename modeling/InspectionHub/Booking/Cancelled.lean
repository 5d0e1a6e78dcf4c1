import InspectionHub.Booking.Payment

/-!
# Cancelled bookings

A cancellation leaves nothing of the visit active. Afterwards five operations
still look at no lifecycle: they are the ones that make part of a cancelled
visit active again.
-/

namespace InspectionHub.Booking

open Agreements hiding Env

variable {env : Env} {s s' m : BookingState}

/-- Nothing of the visit is active: no link or permission to enter, no reminder,
no calendar entry, no payment that is collected or can be. -/
structure Inert (s : BookingState) : Prop where
  link : s.access.activeLinkId = none
  access : s.access.state ≠ .confirmation_pending ∧ s.access.state ≠ .confirmed ∧
    s.access.state ≠ .overridden
  reminders : ∀ r ∈ s.notifications.reminders, r.state ≠ .scheduled
  calendar : s.calendar.state ≠ .confirmed
  payment : s.payment.state ≠ .pending ∧ s.payment.state ≠ .paid

/-- The operation is well formed in `s` and makes part of the visit active. -/
def Reactivates (env : Env) (s : BookingState) : Operation → Prop
  | .issueAccessRequest linkId tokenFingerprint =>
      env.formats.uuid linkId = true ∧ Js.isHexDigest tokenFingerprint = true
  | .overrideAccess reason => isText 4000 reason = true
  | .scheduleReminder reminder =>
      env.formats.uuid reminder.reminderId = true ∧
        env.formats.datetime reminder.scheduledFor = true
  | .observeCalendarReservation (.accepted reference _ _) => isText 300 reference = true
  | .beginPayment intentId =>
      s.payment.state ∈ [PaymentState.not_started, .declined, .failed] ∧
        s.payment.attempt + 1 ≤ 2 ^ 53 - 1 ∧ isText 300 intentId = true
  | _ => False

/-- The action is a command that `s` admits and that makes part of the visit
active. -/
def Reopens (env : Env) (s : BookingState) : Action → Prop
  | .command c op => Admits env s c op ∧ Reactivates env s op
  | .callback _ => False

/-! ## The fields they write -/

theorem beginPayment_parses (s : BookingState) (intentId : String) :
    (∃ p, PaymentProjection.parse
      { state := .pending
        attempt := s.payment.attempt + 1
        intentId := some intentId
        providerReference := none
        failureCode := none
        terminal := false } = .ok p) ↔
      s.payment.attempt + 1 ≤ 2 ^ 53 - 1 ∧ isText 300 intentId = true := by
  refine parses_iff.trans ?_
  simp only [optional_some, optional_none, textField, safeField, failing_iff, List.append_nil, List.append_eq_nil_iff,
    Nat.zero_le, decide_true, Bool.and_true, decide_eq_true_eq]

theorem reserved_parses (reference : String) (value : JsVal) (replayed : Bool) :
    (∃ c, (reservedCalendar (.accepted reference value replayed)).parse = .ok c) ↔
      isText 300 reference = true := by
  refine parses_iff.trans ?_
  simp only [reservedCalendar, optional_some, optional_none, textField, failing_iff, List.append_nil]

theorem issuedAccess_parses (hs : Frozen env s s) (linkId tokenFingerprint : String) :
    (∃ a, AccessProjection.parse env
      { s.access with
        state := .confirmation_pending
        activeLinkId := some linkId
        activeTokenFingerprint := some tokenFingerprint
        confirmedAt := none
        overrideReason := none } = .ok a) ↔
      env.formats.uuid linkId = true ∧ Js.isHexDigest tokenFingerprint = true := by
  obtain ⟨-, hissues⟩ := Domain.accept_ok hs.access
  simp only [List.append_eq_nil_iff] at hissues
  obtain ⟨⟨⟨⟨⟨hgeneration, -⟩, -⟩, hold⟩, -⟩, -⟩ := hissues
  refine parses_iff.trans ?_
  simp only [hgeneration, hold, optional_some, optional_none, idField, Domain.idField, Domain.hashField, failing_iff,
    List.nil_append, List.append_nil, List.append_eq_nil_iff]

theorem overridden_parses (hs : Frozen env s s) (reason : String) :
    (∃ a, AccessProjection.parse env
      { s.access with
        state := .overridden
        overrideReason := some reason
        confirmedAt := none } = .ok a) ↔ isText 4000 reason = true := by
  obtain ⟨-, hissues⟩ := Domain.accept_ok hs.access
  simp only [List.append_eq_nil_iff] at hissues
  obtain ⟨⟨⟨⟨⟨hgeneration, hlink⟩, htoken⟩, hold⟩, -⟩, -⟩ := hissues
  refine parses_iff.trans ?_
  simp only [hgeneration, hlink, htoken, hold, optional_some, optional_none, textField, failing_iff, List.append_nil,
    List.nil_append]

theorem reminded_parses (hs : Frozen env s s) (reminder : ReminderRequest) :
    NotificationProjection.issues env
      { s.notifications with
        reminders := s.notifications.reminders ++
          [{ reminderId := reminder.reminderId
             scheduledFor := reminder.scheduledFor
             channel := reminder.channel
             generation := s.notifications.generation
             state := .scheduled }] } = [] ↔
      env.formats.uuid reminder.reminderId = true ∧
        env.formats.datetime reminder.scheduledFor = true := by
  have hissues := below_iff.mp hs.sound.notifications
  simp only [NotificationProjection.issues, List.append_eq_nil_iff, eachField_iff] at hissues
  obtain ⟨hgeneration, hreminders⟩ := hissues
  simp only [NotificationProjection.issues, List.append_eq_nil_iff, eachField_iff, hgeneration,
    true_and]
  constructor
  · intro h
    have hnew := h _ (List.mem_append_right _ List.mem_cons_self)
    simp only [Reminder.issues, List.append_eq_nil_iff] at hnew
    exact ⟨failing_iff.mp hnew.1.1, failing_iff.mp hnew.2⟩
  · rintro ⟨hid, hat⟩ r hr
    rcases List.mem_append.mp hr with hr | hr
    · exact hreminders r hr
    · rw [List.mem_singleton.mp hr]
      have hgen : safeField "generation" (0 < ·) s.notifications.generation = [] := hgeneration
      simp only [Reminder.issues, hgen, List.append_eq_nil_iff]
      exact ⟨⟨failing_iff.mpr hid, trivial⟩, failing_iff.mpr hat⟩

/-! ## One step of a cancelled booking -/

theorem Inert.of_keeps (h : Inert m) (k : Keeps m s') : Inert s' where
  link := by rw [k.activeLinkId]; exact h.link
  access := by rw [k.access]; exact h.access
  reminders := by rw [k.notifications]; exact h.reminders
  calendar := by rw [k.calendar]; exact h.calendar
  payment := by rw [k.payment]; exact h.payment

theorem Inert.to_keeps (h : Inert s') (k : Keeps m s') : Inert m where
  link := by rw [← k.activeLinkId]; exact h.link
  access := by rw [← k.access]; exact h.access
  reminders := by rw [← k.notifications]; exact h.reminders
  calendar := by rw [← k.calendar]; exact h.calendar
  payment := by rw [← k.payment]; exact h.payment

/-- The operation makes part of the visit active, whatever it carries. -/
def Activating : Operation → Prop
  | .issueAccessRequest _ _ | .overrideAccess _ | .scheduleReminder _ | .beginPayment _ => True
  | .observeCalendarReservation (.accepted _ _ _) => True
  | _ => False

variable {op : Operation}

/-- No other operation that a cancelled booking lets through does. -/
theorem Changes.inert (h : Changes env op s m) (hc : s.lifecycle = .cancelled) (hi : Inert s)
    (hop : ¬ Activating op) : Inert m := by
  cases h with
  | beginPayment | issueAccessRequest | overrideAccess | scheduleReminder => exact (hop trivial).elim
  | confirmBookingSlot | applySignedAgreement => exact ⟨hi.1, hi.2, hi.3, hi.4, hi.5⟩
  | @observeCalendarReservation _ observation =>
      cases observation with
      | accepted => exact (hop trivial).elim
      | failed | unknown => exact ⟨hi.1, hi.2, hi.3, nofun, hi.5⟩
  | confirmAccess _ hpending _ => exact absurd hpending hi.access.1
  | activateBooking => exact ⟨hi.1, hi.2, hi.3, hi.4, hi.5⟩
  | requestReschedule hlifecycle | rescheduleFailed hlifecycle | rescheduleUnknown hlifecycle
  | rescheduled hlifecycle | completeCancellation hlifecycle =>
      exact absurd (hc.symm.trans hlifecycle) nofun
  | requestCancellation hlifecycle => exact absurd hlifecycle (by rw [hc]; decide)

/-- Only a completed cancellation cancels, and it leaves nothing active. -/
theorem Changes.cancels (h : Changes env op s m) (hs : s.lifecycle ≠ .cancelled)
    (hc : m.lifecycle = .cancelled) : Inert m := by
  cases h with
  | @completeCancellation _ calendar refund recordedAt _ =>
      refine ⟨rfl, ⟨nofun, nofun, nofun⟩, ?_, ?_, ?_⟩
      · intro r hr
        obtain ⟨r', -, rfl⟩ := List.mem_map.mp hr
        split
        · exact nofun
        · assumption
      · cases calendar <;> exact nofun
      · cases refund <;> exact ⟨nofun, nofun⟩
  | activateBooking | requestReschedule | rescheduled | requestCancellation => cases hc
  | _ => exact absurd hc hs

/-- An operation that activates and was accepted is well formed. -/
theorem reactivates_of_frozen {r : CommandReceipt} (hs : Frozen env s s) (h : Changes env op s m)
    (hfrozen : FrozenAs env (recorded s m r) s') (hop : Activating op) : Reactivates env s op := by
  cases h with
  | @beginPayment _ intentId hretry =>
      exact ⟨hretry, (beginPayment_parses s intentId).mp ⟨_, hfrozen.payment⟩⟩
  | @issueAccessRequest _ linkId tokenFingerprint =>
      exact (issuedAccess_parses hs linkId tokenFingerprint).mp ⟨_, hfrozen.access⟩
  | @overrideAccess _ reason => exact (overridden_parses hs reason).mp ⟨_, hfrozen.access⟩
  | @scheduleReminder _ reminder =>
      exact (reminded_parses hs reminder).mp (below_iff.mp hfrozen.sound.notifications)
  | @observeCalendarReservation _ observation =>
      cases observation with
      | accepted reference value replayed =>
          exact (reserved_parses reference value replayed).mp ⟨_, hfrozen.calendar⟩
      | failed | unknown => exact hop.elim
  | _ => exact hop.elim

/-- An operation that is well formed goes through and activates. -/
theorem Reactivates.changes (hs : Frozen env s s) (h : Reactivates env s op) :
    ∃ m m', Changes env op s m ∧ Frozen env m m' ∧ ¬ Inert m := by
  cases op with
  | beginPayment intentId =>
      obtain ⟨hretry, htext⟩ := h
      obtain ⟨p, hp⟩ := (beginPayment_parses s intentId).mpr htext
      exact ⟨_, _, .beginPayment hretry, hs.withPayment hp, fun hi => hi.payment.1 rfl⟩
  | issueAccessRequest linkId tokenFingerprint =>
      obtain ⟨a, ha⟩ := (issuedAccess_parses hs linkId tokenFingerprint).mpr h
      exact ⟨_, _, .issueAccessRequest, hs.withAccess ha, fun hi => hi.access.1 rfl⟩
  | overrideAccess reason =>
      obtain ⟨a, ha⟩ := (overridden_parses hs reason).mpr h
      exact ⟨_, _, .overrideAccess, hs.withAccess ha, fun hi => hi.access.2.2 rfl⟩
  | scheduleReminder reminder =>
      have hn := (reminded_parses hs reminder).mpr h
      exact ⟨_, _, .scheduleReminder, hs.withNotifications hn,
        fun hi => hi.reminders _ (List.mem_append_right _ List.mem_cons_self) rfl⟩
  | observeCalendarReservation observation =>
      cases observation with
      | accepted reference value replayed =>
          obtain ⟨c, hc⟩ := (reserved_parses reference value replayed).mpr h
          exact ⟨_, _, .observeCalendarReservation, hs.withCalendar hc, fun hi => hi.calendar rfl⟩
      | failed | unknown => exact h.elim
  | _ => exact h.elim

theorem paymentAfter_inert (hc : s.lifecycle = .cancelled) (hi : Inert s) (cb : PaymentCallback) :
    (paymentAfter s cb).state ≠ .pending ∧ (paymentAfter s cb).state ≠ .paid := by
  refine ⟨?_, paymentAfter_cancelling (.inr hc) hi.payment.2 cb⟩
  cases cb with
  | checkout_succeeded id intentId reference at' =>
      have hclosed : acceptsCheckout s = false := by simp [acceptsCheckout, hc]
      simp only [paymentAfter, hclosed, Bool.false_eq_true, if_false, ite_self]
      exact hi.payment.1
  | checkout_declined id intentId reference reason at' =>
      dsimp only [paymentAfter]
      split
      · rintro ⟨⟩
      · exact hi.payment.1
  | refund_succeeded id reference at' => rintro ⟨⟩
  | refund_failed id reference reason retryable at' => rintro ⟨⟩

/-- **One step** of a cancelled booking that is inert. -/
theorem inert_next_iff (hs : Frozen env s s) (hc : s.lifecycle = .cancelled) (hi : Inert s)
    (a : Action) : Inert (next env s a) ↔ ¬ Reopens env s a := by
  constructor
  · intro hinert hreopens
    cases a with
    | callback cb => exact hreopens
    | command c op =>
        obtain ⟨hadmits, hreactivates⟩ := hreopens
        obtain ⟨m, m', hchanges, hm, hactive⟩ := hreactivates.changes hs
        rw [next_of (perform_of hs hadmits hchanges hm)] at hinert
        have hm' : Inert m' := ⟨hinert.1, hinert.2, hinert.3, hinert.4, hinert.5⟩
        exact hactive (hm'.to_keeps hm.keeps)
  · intro hreopens
    rcases next_cases hs a with hsame | happlies
    · rw [hsame]
      exact hi
    · generalize next env s a = t at happlies
      cases happlies with
      | @command c op m _ hunseen hchanges hfrozen =>
          by_cases hop : Activating op
          · -- it was accepted, so it was admitted and well formed
            have hadmits := recorded_admits hs hunseen hfrozen
            exact absurd ⟨hadmits, reactivates_of_frozen hs hchanges hfrozen hop⟩ hreopens
          · exact (hchanges.inert hc hi hop).of_keeps hfrozen.recorded
      | @callback cb _ _ hfrozen =>
          have hafter : Inert { s with payment := paymentAfter s cb } :=
            ⟨hi.1, hi.2, hi.3, hi.4, paymentAfter_inert hc hi cb⟩
          exact hafter.of_keeps hfrozen.received

/-- A booking that becomes cancelled is inert. -/
theorem Applies.inert_of_cancelled {a : Action} (h : Applies env s a s')
    (hs : s.lifecycle ≠ .cancelled) (hc : s'.lifecycle = .cancelled) : Inert s' := by
  cases h with
  | callback _ hfrozen => exact absurd (hfrozen.received.lifecycle.symm.trans hc) hs
  | @command c op m _ _ hchanges hfrozen =>
      rw [hfrozen.recorded.lifecycle] at hc
      exact (hchanges.cancels hs hc).of_keeps hfrozen.recorded

/-! ## The theorem -/

/-- Whenever the run is in a cancelled state, nothing of the visit is active. -/
def StaysInert (env : Env) (s : BookingState) (actions : List Action) : Prop :=
  ∀ before after, actions = before ++ after →
    (run env s before).lifecycle = .cancelled → Inert (run env s before)

/-- **A cancelled visit stays closed** in a run exactly when no command reopens
it. -/
theorem cancelled_inert_iff (env : Env) (request : BookingRequest) (s : BookingState)
    (h : createBooking env request = .ok s) (actions : List Action) :
    StaysInert env s actions ↔
      ∀ before a after, actions = before ++ a :: after →
        (run env s before).lifecycle = .cancelled → ¬ Reopens env (run env s before) a := by
  constructor
  · intro hstays before a after hsplit hc
    have hi := hstays before (a :: after) hsplit hc
    have hstill := run_cancelled h hc [a]
    have hinert := hstays (before ++ [a]) after (by rw [hsplit, List.append_assoc]; rfl) hstill
    rw [run_snoc] at hinert
    exact (inert_next_iff (paymentHistory_run h before).frozen hc hi a).mp hinert
  · intro hnone before
    induction before using List.reverseRecOn with
    | nil =>
        intro after _ hc
        obtain ⟨quote, bookingInput, slotHold, -, hkeeps⟩ := createBooking_spec h
        exact absurd (hkeeps.lifecycle.symm.trans hc) nofun
    | append_singleton before a ih =>
        intro after hsplit hc
        rw [List.append_assoc] at hsplit
        rw [run_snoc] at hc ⊢
        have hfrozen := (paymentHistory_run h before).frozen
        by_cases hbefore : (run env s before).lifecycle = .cancelled
        · have hi := ih (a :: after) hsplit hbefore
          exact (inert_next_iff hfrozen hbefore hi a).mpr (hnone before a after hsplit hbefore)
        · rcases next_cases hfrozen a with hsame | happlies
          · rw [hsame] at hc
            exact absurd hc hbefore
          · exact happlies.inert_of_cancelled hbefore hc

namespace Sample

/-- The booking a command of the sample leaves when what it changed parses to
`m`. -/
def after (s m : BookingState) (key : String) (op : Operation) : BookingState :=
  afterCommand s m (op.receipt host (command key s.revision))

theorem perform_command {key : String} {m' : BookingState} (hs : Frozen host s s)
    (hunseen : priorReceipt s.commandReceipts key = none) (hsafe : s.revision + 1 ≤ 2 ^ 53 - 1)
    (hkey : isText 300 key = true) (hchanges : Changes host op s m) (hm : Frozen host m m') :
    perform host s (.command (command key s.revision) op) =
      .ok { state := after s m' key op, replayed := false } :=
  perform_of hs ⟨⟨hunseen, rfl⟩, hsafe, receiptText hkey⟩ hchanges hm

def funded : BookingState := afterCallback host (begun "intent-1") paid settled

theorem frozen_funded : Frozen host funded funded :=
  frozen_of_perform (frozen_begun (by decide) (by decide)) (perform_paid (by decide) (by decide))

/-- The slot is confirmed. -/
def placed : BookingState :=
  after funded
    { funded with slot := { funded.slot with state := .confirmed, confirmedAt := some now } }
    "key-2" (.confirmBookingSlot now)

theorem perform_placed : perform host funded (.command (command "key-2" 2) (.confirmBookingSlot now)) =
    .ok { state := placed, replayed := false } :=
  perform_command frozen_funded rfl (by decide) (by decide) (.confirmBookingSlot rfl rfl)
    (frozen_funded.withSlot rfl nofun)

theorem frozen_placed : Frozen host placed placed := frozen_of_perform frozen_funded perform_placed

theorem agreement_parses :
    signedAgreementSnapshotSchema host.toAgreements agreement = .ok agreement := rfl

theorem lookup_head (v : JsVal) (n : Nat) (rest : List (JsVal × Nat)) :
    (((v, n) :: rest).map fun p => (canonicalJson p.1, p.2)).lookup (canonicalJson v) = some n := by
  rw [List.map_cons, List.lookup_cons, beq_self_eq_true]

theorem digest_agreement : digest (canonicalJson (.obj agreementContent)) = agreementHash := by
  obtain ⟨rest, hrest⟩ : ∃ rest, digests = (.obj agreementContent,
      0x62bb94c41135d4ed3036122d638f287a055911d8070054c61473320ea022ba2a) :: rest := ⟨_, rfl⟩
  rw [digest, hrest, lookup_head]
  rfl

theorem agreement_verified : verifySignedAgreementSnapshot host.toAgreements agreement = .ok true := by
  have hinput : signedAgreementSnapshotInputSchema host.toAgreements
      (.obj (agreement.fields.erase "canonicalHash")) = .ok (.obj agreementContent) := rfl
  have hhash : agreement.str? "canonicalHash" = some agreementHash := rfl
  have hdigest : Domain.sha256 host.toDomain (.obj agreementContent) = agreementHash :=
    digest_agreement
  exact verifySignedAgreementSnapshot_of agreement_parses hinput (by rw [hhash, hdigest])

theorem signed_parses :
    AgreementProjection.parse host { state := .signed, snapshot := some agreement } =
      .ok { state := .signed, snapshot := some agreement } := by
  unfold AgreementProjection.parse
  show ((Schema.under _ ((signedAgreementSnapshotSchema host.toAgreements agreement).map some)).map
    _).bind _ = _
  rw [agreement_parses]
  rfl

def signed : BookingState :=
  after placed { placed with agreement := { state := .signed, snapshot := some agreement } }
    "key-3" (.applySignedAgreement agreement)

theorem perform_signed :
    perform host placed (.command (command "key-3" 3) (.applySignedAgreement agreement)) =
      .ok { state := signed, replayed := false } :=
  perform_command frozen_placed rfl (by decide) (by decide)
    (.applySignedAgreement agreement_parses agreement_verified ⟨rfl, rfl⟩ ⟨rfl, rfl⟩ rfl)
    (frozen_placed.withAgreement signed_parses)

theorem frozen_signed : Frozen host signed signed := frozen_of_perform frozen_placed perform_signed

/-- The calendar has the entry of the reference. -/
def entry (reference : String) : CalendarProjection where
  state := .confirmed
  eventReference := some reference
  failureCode := none
  retryable := false

def reserved : BookingState :=
  after signed { signed with calendar := entry "event-1" } "key-4"
    (.observeCalendarReservation (accepted "event-1"))

theorem perform_reserved :
    perform host signed
        (.command (command "key-4" 4) (.observeCalendarReservation (accepted "event-1"))) =
      .ok { state := reserved, replayed := false } :=
  perform_command frozen_signed rfl (by decide) (by decide) .observeCalendarReservation
    (frozen_signed.withCalendar rfl)

theorem frozen_reserved : Frozen host reserved reserved :=
  frozen_of_perform frozen_signed perform_reserved

def entered : BookingState :=
  after reserved
    { reserved with
      access := { reserved.access with
        state := .overridden, overrideReason := some "Keys at the agency", confirmedAt := none } }
    "key-5" (.overrideAccess "Keys at the agency")

theorem perform_entered :
    perform host reserved (.command (command "key-5" 5) (.overrideAccess "Keys at the agency")) =
      .ok { state := entered, replayed := false } :=
  perform_command frozen_reserved rfl (by decide) (by decide) .overrideAccess
    (frozen_reserved.withAccess rfl)

theorem frozen_entered : Frozen host entered entered :=
  frozen_of_perform frozen_reserved perform_entered

/-- The booking is confirmed. -/
def active : BookingState :=
  after entered { entered with lifecycle := .confirmed } "key-6" (.activateBooking now)

theorem perform_active :
    perform host entered (.command (command "key-6" 6) (.activateBooking now)) =
      .ok { state := active, replayed := false } :=
  perform_command frozen_entered rfl (by decide) (by decide) (.activateBooking rfl)
    (frozen_entered.withLifecycle .confirmed)

theorem frozen_active : Frozen host active active := frozen_of_perform frozen_entered perform_active

/-- The actions that confirm the booking of the sample. -/
def confirming : List Action :=
  payment "intent-1" ++
    [.command (command "key-2" 2) (.confirmBookingSlot now),
      .command (command "key-3" 3) (.applySignedAgreement agreement),
      .command (command "key-4" 4) (.observeCalendarReservation (accepted "event-1")),
      .command (command "key-5" 5) (.overrideAccess "Keys at the agency"),
      .command (command "key-6" 6) (.activateBooking now)]

theorem run_confirming : run host created confirming = active := by
  rw [confirming, run_append, run_payment (by decide) (by decide)]
  show run host funded _ = _
  rw [run_cons, next_of perform_placed, run_cons, next_of perform_signed, run_cons,
    next_of perform_reserved, run_cons, next_of perform_entered, run_single,
    next_of perform_active]

/-- The cancellation is requested. -/
def cancelling : BookingState :=
  after active
    { active with
      lifecycle := .cancel_pending
      cancellationReason := some "Sale fell through"
      payment := { active.payment with state := .refund_pending }
      calendar := { active.calendar with state := .cancellation_pending } }
    "key-7" (.requestCancellation "Sale fell through")

theorem perform_cancelling :
    perform host active (.command (command "key-7" 7) (.requestCancellation "Sale fell through")) =
      .ok { state := cancelling, replayed := false } := by
  have hlifecycle := frozen_active.withLifecycle .cancel_pending
  have hreason := hlifecycle.withReason (r := some "Sale fell through") rfl
  have hpayment := hreason.withPayment
    (p := { active.payment with state := .refund_pending }) rfl
  exact perform_command frozen_active rfl (by decide) (by decide)
    (.requestCancellation List.mem_cons_self)
    (hpayment.withCalendar (c := { active.calendar with state := .cancellation_pending }) rfl)

theorem frozen_cancelling : Frozen host cancelling cancelling :=
  frozen_of_perform frozen_active perform_cancelling

/-- The booking is cancelled. -/
def cancelled : BookingState :=
  after cancelling
    { cancelling with
      lifecycle := .cancelled
      slotHistory := [pastSlot cancelling.slot .cancelled now]
      slot := { cancelling.slot with state := .released }
      calendar := cancellationCalendarProjection cancelling.calendar (accepted "event-1")
      payment := cancellationPaymentProjection cancelling.payment (accepted "re-1")
      access := { cancelling.access with
        state := .invalidated
        activeLinkId := none
        activeTokenFingerprint := none
        supersededLinkIds := []
        confirmedAt := none
        overrideReason := none }
      notifications := invalidateReminders cancelling.notifications
      reschedule := none }
    "key-8" (.completeCancellation (accepted "event-1") (accepted "re-1") now)

theorem perform_cancelled :
    perform host cancelling (.command (command "key-8" 8)
        (.completeCancellation (accepted "event-1") (accepted "re-1") now)) =
      .ok { state := cancelled, replayed := false } := by
  have hlifecycle := frozen_cancelling.withLifecycle .cancelled
  have hslot := hlifecycle.withSlot (p := { cancelling.slot with state := .released })
    (l := [pastSlot cancelling.slot .cancelled now]) rfl (by simp only [List.forall_mem_singleton]; rfl)
  have hcalendar := hslot.withCalendar
    (c := cancellationCalendarProjection cancelling.calendar (accepted "event-1")) rfl
  have hpayment := hcalendar.withPayment
    (p := cancellationPaymentProjection cancelling.payment (accepted "re-1")) rfl
  have haccess := hpayment.withAccess
    (a := { cancelling.access with
        state := .invalidated
        activeLinkId := none
        activeTokenFingerprint := none
        supersededLinkIds := []
        confirmedAt := none
        overrideReason := none }) rfl
  exact perform_command frozen_cancelling rfl (by decide) (by decide)
    (.completeCancellation rfl)
    (haccess.withNotifications (n := invalidateReminders cancelling.notifications) rfl)

theorem frozen_cancelled : Frozen host cancelled cancelled :=
  frozen_of_perform frozen_cancelling perform_cancelled

/-- The actions up to the request for a cancellation. -/
def withdrawing : List Action :=
  confirming ++
    [.command (command "key-7" 7) (.requestCancellation "Sale fell through")]

theorem run_withdrawing : run host created withdrawing = cancelling := by
  rw [withdrawing, run_append, run_confirming, run_single, next_of perform_cancelling]

/-- The whole visit, up to its cancellation. -/
def visit : List Action :=
  withdrawing ++
    [.command (command "key-8" 8)
      (.completeCancellation (accepted "event-1") (accepted "re-1") now)]

theorem run_visit : run host created visit = cancelled := by
  rw [visit, run_append, run_withdrawing, run_single, next_of perform_cancelled]

/-- A link is issued for the cancelled visit. -/
def reissue : Action := .command (command "key-9" 9) (.issueAccessRequest linkId token)

def reissued : BookingState :=
  after cancelled
    { cancelled with
      access := { cancelled.access with
        state := .confirmation_pending
        activeLinkId := some linkId
        activeTokenFingerprint := some token
        confirmedAt := none
        overrideReason := none } }
    "key-9" (.issueAccessRequest linkId token)

theorem perform_reissued :
    perform host cancelled reissue = .ok { state := reissued, replayed := false } :=
  perform_command frozen_cancelled rfl (by decide) (by decide) .issueAccessRequest
    (frozen_cancelled.withAccess rfl)

theorem run_reissued : run host created (visit ++ [reissue]) = reissued := by
  rw [run_append, run_visit, run_single, next_of perform_reissued]

/-- A cancelled booking gets an active access link. -/
theorem link_after_cancellation :
    createBooking host request = .ok created ∧
      (run host created visit).lifecycle = .cancelled ∧
      (run host created (visit ++ [reissue])).lifecycle = .cancelled ∧
      (run host created (visit ++ [reissue])).access.activeLinkId = some linkId ∧
      ¬ StaysInert host created (visit ++ [reissue]) := by
  refine ⟨createBooking_request, by rw [run_visit]; rfl, by rw [run_reissued]; rfl,
    by rw [run_reissued]; rfl, fun h => ?_⟩
  have hinert := h (visit ++ [reissue]) [] (List.append_nil _).symm (by rw [run_reissued]; rfl)
  rw [run_reissued] at hinert
  exact hinert.access.1 rfl

/-- The visit itself reopens nothing: it is cancelled by its last action only. -/
theorem visit_stays_inert :
    (run host created visit).lifecycle = .cancelled ∧ StaysInert host created visit := by
  refine ⟨by rw [run_visit]; rfl,
    (cancelled_inert_iff host request created createBooking_request _).mpr ?_⟩
  intro before a after hsplit hc
  have hprefix : withdrawing = before ++ (a :: after).dropLast := by
    have hdrop := congrArg List.dropLast hsplit
    rwa [visit, List.dropLast_concat, List.dropLast_append_cons] at hdrop
  have hearly := run_cancelled createBooking_request hc (a :: after).dropLast
  rw [← hprefix, run_withdrawing] at hearly
  exact absurd hearly nofun

end Sample

end InspectionHub.Booking
