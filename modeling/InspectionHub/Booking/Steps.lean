import InspectionHub.Booking.Workflow
import InspectionHub.Lib.TSys

/-!
# Steps of a booking

What each command changes, said once: `Changes` lists, for every operation,
the condition it checked and the state it handed to `freezeBooking`. A step
that is accepted replays, or makes one such change and freezes it.
-/

namespace InspectionHub.Booking

open Agreements hiding Env

/-- A workflow command, without its metadata. -/
inductive Operation where
  | confirmBookingSlot (confirmedAt : String)
  | applySignedAgreement (snapshot : JsVal)
  | beginPayment (intentId : String)
  | observeCalendarReservation (observation : SideEffectObservation)
  | issueAccessRequest (linkId tokenFingerprint : String)
  | confirmAccess (linkId confirmedAt : String)
  | overrideAccess (reason : String)
  | activateBooking (activatedAt : String)
  | scheduleReminder (reminder : ReminderRequest)
  | requestReschedule (candidateSlot : SlotHoldSnapshot) (requestedAt : String)
  | completeReschedule (observation : SideEffectObservation) (recordedAt : String)
  | requestCancellation (reason : String)
  | completeCancellation (calendar refund : SideEffectObservation) (recordedAt : String)

inductive Action where
  | command (command : CommandMetadata) (operation : Operation)
  | callback (callback : PaymentCallback)

variable (env : Env)

def perform (s : BookingState) : Action → Except BookingError TransitionResult
  | .command c (.confirmBookingSlot confirmedAt) => confirmBookingSlot env s c confirmedAt
  | .command c (.applySignedAgreement snapshot) => applySignedAgreement env s c snapshot
  | .command c (.beginPayment intentId) => beginPayment env s c intentId
  | .command c (.observeCalendarReservation observation) =>
      observeCalendarReservation env s c observation
  | .command c (.issueAccessRequest linkId tokenFingerprint) =>
      issueAccessRequest env s c linkId tokenFingerprint
  | .command c (.confirmAccess linkId confirmedAt) => confirmAccess env s c linkId confirmedAt
  | .command c (.overrideAccess reason) => overrideAccess env s c reason
  | .command c (.activateBooking activatedAt) => activateBooking env s c activatedAt
  | .command c (.scheduleReminder reminder) => scheduleReminder env s c reminder
  | .command c (.requestReschedule candidateSlot requestedAt) =>
      requestReschedule env s c candidateSlot requestedAt
  | .command c (.completeReschedule observation recordedAt) =>
      completeReschedule env s c observation recordedAt
  | .command c (.requestCancellation reason) => requestCancellation env s c reason
  | .command c (.completeCancellation calendar refund recordedAt) =>
      completeCancellation env s c calendar refund recordedAt
  | .callback callback => applyPaymentCallback env s callback

/-- The state the caller holds after an action: a call that throws returns
none, and the old one stays. -/
def next (s : BookingState) (a : Action) : BookingState :=
  match perform env s a with
  | .ok r => r.state
  | .error _ => s

/-- Bookings that are created and then acted on. -/
def system : TSys BookingState Action where
  Init s := ∃ request, createBooking env request = .ok s
  Step s a s' := next env s a = s'

def run (s : BookingState) (actions : List Action) : BookingState := actions.foldl (next env) s

/-- What the receipt of a command fingerprints, beside its name. -/
def Operation.payload : Operation → JsVal
  | .confirmBookingSlot confirmedAt => .obj [("confirmedAt", .str confirmedAt)]
  | .applySignedAgreement snapshot => snapshot
  | .beginPayment intentId => .obj [("intentId", .str intentId)]
  | .observeCalendarReservation observation => observation.val
  | .issueAccessRequest linkId tokenFingerprint =>
      .obj [("linkId", .str linkId), ("tokenFingerprint", .str tokenFingerprint)]
  | .confirmAccess linkId confirmedAt =>
      .obj [("linkId", .str linkId), ("confirmedAt", .str confirmedAt)]
  | .overrideAccess reason => .obj [("reason", .str reason)]
  | .activateBooking activatedAt => .obj [("activatedAt", .str activatedAt)]
  | .scheduleReminder reminder => reminder.val
  | .requestReschedule candidateSlot requestedAt =>
      .obj [("candidateSlot", candidateSlot.val), ("requestedAt", .str requestedAt)]
  | .completeReschedule observation recordedAt =>
      .obj [("observation", observation.val), ("recordedAt", .str recordedAt)]
  | .requestCancellation reason => .obj [("reason", .str reason)]
  | .completeCancellation calendar refund recordedAt =>
      .obj [("observations", .obj [("calendar", calendar.val), ("refund", refund.val)]),
        ("recordedAt", .str recordedAt)]

def Operation.name : Operation → String
  | .confirmBookingSlot _ => "booking.slot.confirm"
  | .applySignedAgreement _ => "booking.agreement.sign"
  | .beginPayment _ => "booking.payment.begin"
  | .observeCalendarReservation _ => "booking.calendar.reserve.observe"
  | .issueAccessRequest _ _ => "booking.access.issue"
  | .confirmAccess _ _ => "booking.access.confirm"
  | .overrideAccess _ => "booking.access.override"
  | .activateBooking _ => "booking.activate"
  | .scheduleReminder _ => "booking.reminder.schedule"
  | .requestReschedule _ _ => "booking.reschedule.request"
  | .completeReschedule _ _ => "booking.reschedule.complete"
  | .requestCancellation _ => "booking.cancel.request"
  | .completeCancellation _ _ _ => "booking.cancel.complete"

/-! ## What a command changes -/

/-- The operation passed its checks in `s` and hands `m` to be frozen. -/
inductive Changes : Operation → BookingState → BookingState → Prop
  | confirmBookingSlot {s : BookingState} {confirmedAt : String} :
      s.slot.state = .held → atOrBefore env s.slot.expiresAt confirmedAt = false →
      Changes (.confirmBookingSlot confirmedAt) s
        { s with slot := { s.slot with state := .confirmed, confirmedAt := some confirmedAt } }
  | applySignedAgreement {s : BookingState} {snapshot parsed : JsVal} :
      signedAgreementSnapshotSchema env.toAgreements snapshot = .ok parsed →
      verifySignedAgreementSnapshot env.toAgreements parsed = .ok true →
      parsed.str? "bookingId" = some s.bookingId ∧
        parsed.str? "organizationId" = some s.organizationId →
      parsed.strAt? ["signer", "assignmentId"] =
          s.input.strAt? ["participants", "client", "assignmentId"] ∧
        parsed.strAt? ["signer", "contactId"] =
          s.input.strAt? ["participants", "client", "contact", "contactId"] →
      joinedModules parsed = joinedModules s.quote →
      Changes (.applySignedAgreement snapshot) s
        { s with agreement := { state := .signed, snapshot := some parsed } }
  | beginPayment {s : BookingState} {intentId : String} :
      s.payment.state ∈ [PaymentState.not_started, .declined, .failed] →
      Changes (.beginPayment intentId) s
        { s with
          payment :=
            { state := .pending
              attempt := s.payment.attempt + 1
              intentId := some intentId
              providerReference := none
              failureCode := none
              terminal := false } }
  | observeCalendarReservation {s : BookingState} {observation : SideEffectObservation} :
      Changes (.observeCalendarReservation observation) s
        { s with calendar := reservedCalendar observation }
  | issueAccessRequest {s : BookingState} {linkId tokenFingerprint : String} :
      Changes (.issueAccessRequest linkId tokenFingerprint) s
        { s with
          access := { s.access with
            state := .confirmation_pending
            activeLinkId := some linkId
            activeTokenFingerprint := some tokenFingerprint
            confirmedAt := none
            overrideReason := none } }
  | confirmAccess {s : BookingState} {linkId confirmedAt : String} :
      linkId ∉ s.access.supersededLinkIds → s.access.state = .confirmation_pending →
      s.access.activeLinkId = some linkId →
      Changes (.confirmAccess linkId confirmedAt) s
        { s with
          access := { s.access with state := .confirmed, confirmedAt := some confirmedAt } }
  | overrideAccess {s : BookingState} {reason : String} :
      Changes (.overrideAccess reason) s
        { s with
          access := { s.access with
            state := .overridden, overrideReason := some reason, confirmedAt := none } }
  | activateBooking {s : BookingState} {activatedAt : String} :
      (deriveReadiness s).ready = true →
      Changes (.activateBooking activatedAt) s { s with lifecycle := .confirmed }
  | scheduleReminder {s : BookingState} {reminder : ReminderRequest} :
      Changes (.scheduleReminder reminder) s
        { s with
          notifications := { s.notifications with
            reminders := s.notifications.reminders ++
              [{ reminderId := reminder.reminderId
                 scheduledFor := reminder.scheduledFor
                 channel := reminder.channel
                 generation := s.notifications.generation
                 state := .scheduled }] } }
  | requestReschedule {s : BookingState} {candidate : SlotHoldSnapshot} {requestedAt : String} :
      s.lifecycle = .confirmed → candidate.issues env = [] →
      atOrBefore env candidate.expiresAt requestedAt = false →
      atOrBefore env candidate.endsAt candidate.startsAt = false →
      candidate.slotId ≠ s.slot.slotId →
      Changes (.requestReschedule candidate requestedAt) s
        { s with
          lifecycle := .reschedule_pending
          calendar := { s.calendar with
            state := .pending, failureCode := none, retryable := false }
          reschedule := some
            { candidateSlot := candidate
              previousCalendarEventReference := s.calendar.eventReference } }
  | rescheduleFailed {s : BookingState} {code recordedAt : String} {retryable : Bool}
      {reschedule : RescheduleProjection} :
      s.lifecycle = .reschedule_pending → s.reschedule = some reschedule →
      Changes (.completeReschedule (.failed code retryable) recordedAt) s
        { s with
          calendar := { s.calendar with
            state := .reservation_failed, failureCode := some code, retryable } }
  | rescheduleUnknown {s : BookingState} {reconciliationKey recordedAt : String}
      {reschedule : RescheduleProjection} :
      s.lifecycle = .reschedule_pending → s.reschedule = some reschedule →
      Changes (.completeReschedule (.unknown reconciliationKey) recordedAt) s
        { s with
          calendar := { s.calendar with
            state := .unknown, failureCode := some reconciliationKey, retryable := false } }
  | rescheduled {s : BookingState} {reference recordedAt : String} {value : JsVal}
      {replayed : Bool} {reschedule : RescheduleProjection} :
      s.lifecycle = .reschedule_pending → s.reschedule = some reschedule →
      Changes (.completeReschedule (.accepted reference value replayed) recordedAt) s
        { s with
          lifecycle := .confirmed
          slotHistory := s.slotHistory ++ [pastSlot s.slot .superseded recordedAt]
          slot := { reschedule.candidateSlot with
            state := .confirmed, confirmedAt := some recordedAt }
          calendar :=
            { state := .confirmed, eventReference := some reference
              failureCode := none, retryable := false }
          access :=
            { state := .not_requested
              generation := s.access.generation + 1
              activeLinkId := none
              activeTokenFingerprint := none
              supersededLinkIds := oldLinkIds s.access
              confirmedAt := none
              overrideReason := none }
          notifications := invalidateReminders s.notifications
          reschedule := none }
  | requestCancellation {s : BookingState} {reason : String} :
      s.lifecycle ∈ [Lifecycle.confirmed, .reschedule_pending] →
      Changes (.requestCancellation reason) s
        { s with
          lifecycle := .cancel_pending
          cancellationReason := some reason
          payment :=
            if s.payment.state = .paid then { s.payment with state := .refund_pending }
            else s.payment
          calendar :=
            if s.calendar.state = .confirmed then
              { s.calendar with state := .cancellation_pending }
            else s.calendar }
  | completeCancellation {s : BookingState} {calendar refund : SideEffectObservation}
      {recordedAt : String} :
      s.lifecycle = .cancel_pending →
      Changes (.completeCancellation calendar refund recordedAt) s
        { s with
          lifecycle := .cancelled
          slotHistory := s.slotHistory ++ [pastSlot s.slot .cancelled recordedAt]
          slot := { s.slot with state := .released }
          calendar := cancellationCalendarProjection s.calendar calendar
          payment := cancellationPaymentProjection s.payment refund
          access := { s.access with
            state := .invalidated
            activeLinkId := none
            activeTokenFingerprint := none
            supersededLinkIds := oldLinkIds s.access
            confirmedAt := none
            overrideReason := none }
          notifications := invalidateReminders s.notifications
          reschedule := none }

/-- Every operation is a transition under its name and payload, and makes the
changes that are listed for it. -/
theorem perform_transition (op : Operation) : ∃ mutate,
    (∀ s c, perform env s (.command c op) = transition env s c op.name op.payload mutate) ∧
      ∀ s m, mutate s = .ok m ↔ Changes env op s m := by
  cases op with
  | confirmBookingSlot confirmedAt =>
      refine ⟨_, fun _ _ => rfl, fun s m => ⟨fun h => ?_, fun h => ?_⟩⟩
      · obtain ⟨_, hheld, h⟩ := Domain.bind_ok h
        obtain ⟨_, hexpiry, h⟩ := Domain.bind_ok h
        cases h
        exact .confirmBookingSlot (require_ok hheld) (require_ok hexpiry)
      · cases h with
        | confirmBookingSlot hheld hexpiry =>
            rw [require_of hheld, require_of hexpiry]
            rfl
  | applySignedAgreement snapshot =>
      refine ⟨_, fun _ _ => rfl, fun s m => ⟨fun h => ?_, fun h => ?_⟩⟩
      · obtain ⟨parsed, hparsed, h⟩ := Domain.bind_ok h
        obtain ⟨verified, hverified, h⟩ := Domain.bind_ok h
        obtain ⟨_, htrue, h⟩ := Domain.bind_ok h
        obtain ⟨_, hbooking, h⟩ := Domain.bind_ok h
        obtain ⟨_, hsigner, h⟩ := Domain.bind_ok h
        obtain ⟨_, hscope, h⟩ := Domain.bind_ok h
        cases h
        have hverified := parse_ok hverified
        rw [require_ok htrue] at hverified
        exact .applySignedAgreement (parse_ok hparsed) hverified (require_ok hbooking)
          (require_ok hsigner) (require_ok hscope)
      · cases h with
        | applySignedAgreement hparsed hverified hbooking hsigner hscope =>
            rw [hparsed]
            show (parse (verifySignedAgreementSnapshot _ _) >>= _) = _
            rw [hverified]
            show (require (_ ∧ _) _ _ _ >>= _) = _
            rw [require_of hbooking]
            show (require _ _ _ _ >>= _) = _
            rw [require_of hsigner]
            show (require _ _ _ _ >>= _) = _
            rw [require_of hscope]
            rfl
  | beginPayment intentId =>
      refine ⟨_, fun _ _ => rfl, fun s m => ⟨fun h => ?_, fun h => ?_⟩⟩
      · obtain ⟨_, hretry, h⟩ := Domain.bind_ok h
        cases h
        exact .beginPayment (require_ok hretry)
      · cases h with
        | beginPayment hretry =>
            rw [require_of hretry]
            rfl
  | observeCalendarReservation observation =>
      refine ⟨_, fun _ _ => rfl, fun s m => ⟨fun h => ?_, fun h => ?_⟩⟩
      · cases h
        exact .observeCalendarReservation
      · cases h
        rfl
  | issueAccessRequest linkId tokenFingerprint =>
      refine ⟨_, fun _ _ => rfl, fun s m => ⟨fun h => ?_, fun h => ?_⟩⟩
      · cases h
        exact .issueAccessRequest
      · cases h
        rfl
  | confirmAccess linkId confirmedAt =>
      refine ⟨_, fun _ _ => rfl, fun s m => ⟨fun h => ?_, fun h => ?_⟩⟩
      · obtain ⟨_, hstale, h⟩ := Domain.bind_ok h
        obtain ⟨_, hactive, h⟩ := Domain.bind_ok h
        cases h
        exact .confirmAccess (require_ok hstale) (require_ok hactive).1 (require_ok hactive).2
      · cases h with
        | confirmAccess hstale hpending hactive =>
            rw [require_of hstale]
            show (require (_ ∧ _) _ _ _ >>= _) = _
            rw [require_of ⟨hpending, hactive⟩]
            rfl
  | overrideAccess reason =>
      refine ⟨_, fun _ _ => rfl, fun s m => ⟨fun h => ?_, fun h => ?_⟩⟩
      · cases h
        exact .overrideAccess
      · cases h
        rfl
  | activateBooking activatedAt =>
      refine ⟨_, fun _ _ => rfl, fun s m => ⟨fun h => ?_, fun h => ?_⟩⟩
      · obtain ⟨_, hready, h⟩ := Domain.bind_ok h
        cases h
        exact .activateBooking (require_ok hready)
      · cases h with
        | activateBooking hready =>
            rw [require_of hready]
            rfl
  | scheduleReminder reminder =>
      refine ⟨_, fun _ _ => rfl, fun s m => ⟨fun h => ?_, fun h => ?_⟩⟩
      · cases h
        exact .scheduleReminder
      · cases h
        rfl
  | requestReschedule candidateSlot requestedAt =>
      refine ⟨_, fun _ _ => rfl, fun s m => ⟨fun h => ?_, fun h => ?_⟩⟩
      · obtain ⟨_, hconfirmed, h⟩ := Domain.bind_ok h
        obtain ⟨candidate, hcandidate, h⟩ := Domain.bind_ok h
        obtain ⟨_, hexpiry, h⟩ := Domain.bind_ok h
        obtain ⟨_, horder, h⟩ := Domain.bind_ok h
        obtain ⟨_, hslot, hm⟩ := Domain.bind_ok h
        obtain ⟨rfl, hissues⟩ := Domain.accept_ok (parse_ok hcandidate)
        cases hm
        exact .requestReschedule (require_ok hconfirmed) hissues (require_ok hexpiry)
          (require_ok horder) (require_ok hslot)
      · cases h with
        | requestReschedule hconfirmed hissues hexpiry horder hslot =>
            have hcandidate : parseSlotHold env candidateSlot = .ok candidateSlot := by
              unfold parseSlotHold
              rw [hissues]
              rfl
            rw [require_of hconfirmed, hcandidate]
            show (require _ _ _ _ >>= _) = _
            rw [require_of hexpiry]
            show (require _ _ _ _ >>= _) = _
            rw [require_of horder]
            show (require _ _ _ _ >>= _) = _
            rw [require_of hslot]
            rfl
  | completeReschedule observation recordedAt =>
      refine ⟨_, fun _ _ => rfl, fun s m => ⟨fun h => ?_, fun h => ?_⟩⟩
      · dsimp only at h
        split at h
        · next reschedule hlifecycle hreschedule =>
            cases observation with
            | failed code retryable =>
                cases h
                exact .rescheduleFailed hlifecycle hreschedule
            | unknown reconciliationKey =>
                cases h
                exact .rescheduleUnknown hlifecycle hreschedule
            | accepted reference value replayed =>
                cases h
                exact .rescheduled hlifecycle hreschedule
        · cases h
      · cases h with
        | rescheduleFailed hlifecycle hreschedule | rescheduleUnknown hlifecycle hreschedule
        | rescheduled hlifecycle hreschedule =>
            rw [hlifecycle, hreschedule]
            rfl
  | requestCancellation reason =>
      refine ⟨_, fun _ _ => rfl, fun s m => ⟨fun h => ?_, fun h => ?_⟩⟩
      · obtain ⟨_, hactive, h⟩ := Domain.bind_ok h
        cases h
        exact .requestCancellation (require_ok hactive)
      · cases h with
        | requestCancellation hactive =>
            rw [require_of hactive]
            rfl
  | completeCancellation calendar refund recordedAt =>
      refine ⟨_, fun _ _ => rfl, fun s m => ⟨fun h => ?_, fun h => ?_⟩⟩
      · obtain ⟨_, hpending, h⟩ := Domain.bind_ok h
        cases h
        exact .completeCancellation (require_ok hpending)
      · cases h with
        | completeCancellation hpending =>
            rw [require_of hpending]
            rfl

/-! ## Steps -/

variable {env} {s s' m v : BookingState}

/-- The state a command hands to the schema once it changed `s` to `m`. -/
def recorded (s m : BookingState) (receipt : CommandReceipt) : BookingState :=
  { m with
    revision := s.revision + 1
    commandReceipts := s.commandReceipts ++ [receipt] }

/-- The state a callback hands to the schema. -/
def received (env : Env) (s : BookingState) (cb : PaymentCallback) : BookingState :=
  { s with
    revision := s.revision + 1
    payment := paymentAfter s cb
    providerCallbackReceipts := s.providerCallbackReceipts ++
      [{ providerEventId := cb.providerEventId
         requestFingerprint := Domain.sha256 env.toDomain cb.val }] }

/-- `s'` is `v` frozen. -/
def FrozenAs (env : Env) (v s' : BookingState) : Prop :=
  Frozen env { v with readiness := deriveReadiness v } s'

theorem FrozenAs.recorded {r : CommandReceipt} (h : FrozenAs env (recorded s m r) s') :
    Keeps m s' :=
  have k := Frozen.keeps h
  ⟨k.lifecycle, k.slot, k.agreement, k.payment, k.intentId, k.calendar, k.access, k.activeLinkId,
    k.notifications, k.reschedule⟩

variable {cb : PaymentCallback}

theorem FrozenAs.received (h : FrozenAs env (received env s cb) s') : Keeps { s with payment := paymentAfter s cb } s' :=
  have k := Frozen.keeps h
  ⟨k.lifecycle, k.slot, k.agreement, k.payment, k.intentId, k.calendar, k.access, k.activeLinkId,
    k.notifications, k.reschedule⟩

/-- The receipt of an event that the state has seen. -/
def priorEvent (s : BookingState) (id : String) : Option ProviderCallbackReceipt :=
  s.providerCallbackReceipts.find? (·.providerEventId = id)

/-- The receipt of a command. -/
def Operation.receipt (env : Env) (c : CommandMetadata) (op : Operation) : CommandReceipt :=
  receiptOf env c op.name op.payload

/-- The state has a receipt for the action, with its fingerprint. -/
def Replays (env : Env) (s : BookingState) : Action → Prop
  | .command c op => Known s.commandReceipts (op.receipt env c)
  | .callback cb => ∃ prior, priorEvent s cb.providerEventId = some prior ∧
      prior.requestFingerprint = Domain.sha256 env.toDomain cb.val

/-- An action that is new to `s` takes it to `s'`. -/
inductive Applies (env : Env) (s : BookingState) : Action → BookingState → Prop
  | command {c : CommandMetadata} {op : Operation} {m s' : BookingState} :
      Unseen s.revision s.commandReceipts c → Changes env op s m →
      FrozenAs env (recorded s m (op.receipt env c)) s' → Applies env s (.command c op) s'
  | callback {cb : PaymentCallback} {s' : BookingState} :
      priorEvent s cb.providerEventId = none → FrozenAs env (received env s cb) s' →
      Applies env s (.callback cb) s'

theorem freezeBooking_ok (h : freezeBooking env v = .ok s') : FrozenAs env v s' :=
  .of_parse (parse_ok h)

theorem freezeBooking_of (h : FrozenAs env v s') : freezeBooking env v = .ok s' := by
  unfold freezeBooking
  rw [Frozen.parse h]
  rfl

variable {r : TransitionResult} {c : CommandMetadata}

/-- What a transition from a parsed state does. -/
theorem transition_ok {name : String} {payload : JsVal}
    {mutate : BookingState → Except BookingError BookingState} (hs : Frozen env s s)
    (h : transition env s c name payload mutate = .ok r) :
    (r.state = s ∧ r.replayed = true ∧ Known s.commandReceipts (receiptOf env c name payload)) ∨
      (r.replayed = false ∧ Unseen s.revision s.commandReceipts c ∧ ∃ m, mutate s = .ok m ∧
        FrozenAs env (recorded s m (receiptOf env c name payload)) r.state) := by
  unfold transition at h
  obtain ⟨current, hcurrent, h⟩ := Domain.bind_ok h
  have hsame : current = s :=
    Except.ok.inj ((parse_ok hcurrent).symm.trans hs.parse)
  subst hsame
  obtain ⟨d, hd, h⟩ := Domain.bind_ok h
  obtain ⟨hreceipt, ⟨hreplayed, hknown⟩ | ⟨hfresh, hunseen⟩⟩ := inspectCommand_ok hd
  · rw [if_pos hreplayed] at h
    cases h
    rw [hreceipt] at hknown
    exact .inl ⟨rfl, rfl, hknown⟩
  · rw [hfresh] at h
    obtain ⟨m, hm, h⟩ := Domain.bind_ok h
    obtain ⟨frozen, hfrozen, h⟩ := Domain.bind_ok h
    cases h
    rw [hreceipt] at hfrozen
    exact .inr ⟨rfl, hunseen, m, hm, freezeBooking_ok hfrozen⟩

theorem applyPaymentCallback_ok (hs : Frozen env s s) (h : applyPaymentCallback env s cb = .ok r) :
    (r.state = s ∧ r.replayed = true ∧ Replays env s (.callback cb)) ∨
      (r.replayed = false ∧ Applies env s (.callback cb) r.state) := by
  unfold applyPaymentCallback at h
  obtain ⟨current, hcurrent, h⟩ := Domain.bind_ok h
  have hsame : current = s := Except.ok.inj ((parse_ok hcurrent).symm.trans hs.parse)
  subst hsame
  dsimp only at h
  split at h
  · next prior hprior =>
      obtain ⟨_, hfp, h⟩ := Domain.bind_ok h
      cases h
      exact .inl ⟨rfl, rfl, prior, hprior, require_ok hfp⟩
  · next hnone =>
      obtain ⟨frozen, hfrozen, h⟩ := Domain.bind_ok h
      cases h
      exact .inr ⟨rfl, .callback hnone (freezeBooking_ok hfrozen)⟩

variable {a : Action}

/-- **Spec of an action.** It replays and changes nothing, or is new and is
applied. -/
theorem perform_ok (hs : Frozen env s s) (h : perform env s a = .ok r) :
    (r.state = s ∧ r.replayed = true ∧ Replays env s a) ∨
      (r.replayed = false ∧ Applies env s a r.state) := by
  cases a with
  | callback cb => exact applyPaymentCallback_ok hs h
  | command c op =>
      obtain ⟨mutate, hperform, hchanges⟩ := perform_transition env op
      rw [hperform] at h
      rcases transition_ok hs h with hreplay | ⟨hfresh, hunseen, m, hm, hfrozen⟩
      · exact .inl hreplay
      · exact .inr ⟨hfresh, .command hunseen ((hchanges s m).mp hm) hfrozen⟩

/-- A replay, in any parsed state. -/
theorem perform_replays (hs : Frozen env s s) (h : Replays env s a) :
    perform env s a = .ok { state := s, replayed := true } := by
  cases a with
  | callback cb =>
      obtain ⟨prior, hprior, hfp⟩ := h
      have hfind : s.providerCallbackReceipts.find? (·.providerEventId = cb.providerEventId) =
          some prior := hprior
      show applyPaymentCallback env s cb = _
      unfold applyPaymentCallback
      rw [hs.parse]
      dsimp only [parse, Except.mapError, bind, Except.bind]
      rw [hfind]
      show (require (prior.requestFingerprint = _) _ _ _ >>= _) = _
      rw [require_of hfp]
      rfl
  | command c op =>
      obtain ⟨mutate, hperform, -⟩ := perform_transition env op
      rw [hperform]
      unfold transition
      rw [hs.parse]
      show (inspectCommand env s.revision s.commandReceipts c op.name op.payload >>= _) = _
      rw [inspectCommand_known h]
      rfl

/-- One step of the workflow. -/
theorem next_cases (hs : Frozen env s s) (a : Action) :
    next env s a = s ∨ Applies env s a (next env s a) := by
  unfold next
  cases h : perform env s a with
  | error e => exact .inl rfl
  | ok r =>
      rcases perform_ok hs h with ⟨hsame, -⟩ | ⟨-, happlies⟩
      · exact .inl hsame
      · exact .inr happlies

theorem Applies.frozen (h : Applies env s a s') : Frozen env s' s' := by
  cases h with
  | command _ _ hfrozen => exact hfrozen.settled
  | callback _ hfrozen => exact hfrozen.settled

theorem frozen_next (hs : Frozen env s s) (a : Action) :
    Frozen env (next env s a) (next env s a) := by
  rcases next_cases hs a with hsame | happlies
  · rw [hsame]
    exact hs
  · exact happlies.frozen

/-- A state that an accepted action left. -/
theorem frozen_of_perform (hs : Frozen env s s) (h : perform env s a = .ok r) :
    Frozen env r.state r.state := by
  rcases perform_ok hs h with ⟨hsame, -⟩ | ⟨-, happlies⟩
  · rw [hsame]
    exact hs
  · exact happlies.frozen

theorem createBooking_ok {request : BookingRequest} (h : createBooking env request = .ok s) :
    ∃ quote bookingInput slotHold,
      FrozenAs env (newBooking request quote bookingInput slotHold) s := by
  obtain ⟨quote, -, h⟩ := Domain.bind_ok h
  obtain ⟨slotHold, -, h⟩ := Domain.bind_ok h
  obtain ⟨_, -, h⟩ := Domain.bind_ok h
  obtain ⟨_, -, h⟩ := Domain.bind_ok h
  obtain ⟨_, -, h⟩ := Domain.bind_ok h
  obtain ⟨bookingInput, -, h⟩ := Domain.bind_ok h
  obtain ⟨_, -, h⟩ := Domain.bind_ok h
  exact ⟨quote, bookingInput, slotHold, freezeBooking_ok h⟩

variable {ok : BookingState → Action → Prop}

/-- The states of a run parse to themselves. -/
theorem frozen_reachable (h : (system env).Reachable ok s) : Frozen env s s := by
  have hind : (system env).Inductive ok fun s => Frozen env s s := by
    refine ⟨?_, ?_⟩
    · rintro s ⟨request, hcreate⟩
      obtain ⟨quote, bookingInput, slotHold, hfrozen⟩ := createBooking_ok hcreate
      exact hfrozen.settled
    · rintro s a s' hs - rfl
      exact frozen_next hs a
  exact hind.invariant h

/-- What every new action preserves, a run from a parsed state preserves. -/
theorem Later.keeps {P : BookingState → Prop}
    (hP : ∀ s a s', Frozen env s s → P s → ok s a → Applies env s a s' → P s')
    (h : (system env).Later ok s s') (hs : Frozen env s s) (hp : P s) :
    Frozen env s' s' ∧ P s' := by
  refine h.preserves (P := fun s => Frozen env s s ∧ P s) ?_ ⟨hs, hp⟩
  rintro s a s' ⟨hs, hp⟩ hok rfl
  refine ⟨frozen_next hs a, ?_⟩
  rcases next_cases hs a with hsame | happlies
  · rw [hsame]
    exact hp
  · exact hP s a _ hs hp hok happlies

/-! ## Actions that are accepted -/

/-- The actions a readiness can ask for. -/
def knownActions : List ReadinessAction :=
  [⟨.slot, .client, "Confirm an available inspection slot"⟩,
    ⟨.agreement, .client, "Sign the pre-inspection agreement"⟩,
    ⟨.payment, .client, "Retry payment"⟩, ⟨.payment, .system, "Resolve payment processing"⟩,
    ⟨.calendar, .system, "Confirm the calendar reservation"⟩,
    ⟨.access, .access_contact, "Confirm property access"⟩]

theorem parse_knownActions : ∀ a ∈ knownActions, a.parse = .ok a := by decide +kernel

theorem mem_actionUnless {ready : Bool} {a b : ReadinessAction} (h : a ∈ actionUnless ready b) :
    a = b := by
  unfold actionUnless at h
  split at h
  · cases h
  · exact List.mem_singleton.mp h

theorem actions_known (v : BookingState) : ∀ a ∈ (deriveReadiness v).actions, a ∈ knownActions := by
  intro a ha
  simp only [deriveReadiness, List.mem_append] at ha
  rcases ha with (((ha | ha) | ha) | ha) | ha <;> rw [mem_actionUnless ha]
  · exact List.mem_cons_self
  · exact List.mem_cons_of_mem _ List.mem_cons_self
  · by_cases hdeclined : v.payment.state = .declined
    · simp only [hdeclined, if_true, knownActions, List.mem_cons, true_or, or_true]
    · simp only [hdeclined, if_false, knownActions, List.mem_cons, true_or, or_true]
  · simp only [knownActions, List.mem_cons, true_or, or_true]
  · simp only [knownActions, List.mem_cons, true_or, or_true]

/-- The readiness of any state parses to itself. -/
theorem readiness_settled (v : BookingState) :
    (deriveReadiness v).parse = .ok (deriveReadiness v) := by
  have hall : List.Forall₂ (fun a b : ReadinessAction => a.parse = .ok b)
      (deriveReadiness v).actions (deriveReadiness v).actions := by
    rw [List.forall₂_same]
    exact fun a ha => parse_knownActions a (actions_known v a ha)
  unfold ReadinessProjection.parse
  rw [parseAll_of hall 0]
  rfl

theorem deriveReadiness_payment (v : BookingState) {p q : PaymentProjection}
    (h : p.state = q.state) :
    deriveReadiness { v with payment := p } = deriveReadiness { v with payment := q } := by
  unfold deriveReadiness
  rw [h]

/-- A receipt that the schema takes. -/
def ReceiptText (key requestFingerprint : String) : Prop :=
  isText 300 key = true ∧ Js.isHexDigest requestFingerprint = true

theorem ReceiptText.command {r : CommandReceipt}
    (h : ReceiptText r.idempotencyKey r.requestFingerprint) :
    r.parse = .ok { r with idempotencyKey := Js.trim r.idempotencyKey } := by
  unfold CommandReceipt.parse textField fingerprintField
  rw [h.1, h.2]
  rfl

theorem ReceiptText.callback {r : ProviderCallbackReceipt}
    (h : ReceiptText r.providerEventId r.requestFingerprint) :
    r.parse = .ok { r with providerEventId := Js.trim r.providerEventId } := by
  unfold ProviderCallbackReceipt.parse textField fingerprintField
  rw [h.1, h.2]
  rfl

/-- One more element on a list that parses to itself. -/
theorem parseAll_snoc {α : Type} {f : α → Parsed α} {l r : List α} {a : α}
    (hl : Domain.parseAll f 0 l = .ok l) (h : Domain.parseAll f 0 (l ++ [a]) = .ok r) :
    ∃ b, f a = .ok b ∧ r = l ++ [b] := by
  have hself := parseAll_ok hl
  have hall := parseAll_ok h
  clear hl h
  induction l generalizing r with
  | nil =>
      rcases hall with - | ⟨hb, - | -⟩
      exact ⟨_, hb, rfl⟩
  | cons x l ih =>
      rcases hself with - | ⟨hx, hself⟩
      rcases hall with - | ⟨hx', hall⟩
      obtain ⟨b, hb, rfl⟩ := ih hself hall
      exact ⟨b, hb, by rw [Except.ok.inj (hx'.symm.trans hx)]; rfl⟩

theorem parseAll_snoc_of {α : Type} {f : α → Parsed α} {l : List α} {a b : α}
    (hl : Domain.parseAll f 0 l = .ok l) (h : f a = .ok b) :
    Domain.parseAll f 0 (l ++ [a]) = .ok (l ++ [b]) :=
  parseAll_of (List.rel_append (parseAll_ok hl) (.cons h .nil)) 0

/-- What the receipts and the counter of `s` ask of a command. -/
structure Admits (env : Env) (s : BookingState) (c : CommandMetadata) (op : Operation) : Prop where
  unseen : Unseen s.revision s.commandReceipts c
  safe : s.revision + 1 ≤ 2 ^ 53 - 1
  receipt : ReceiptText c.idempotencyKey (op.receipt env c).requestFingerprint

/-- What they ask of a callback. -/
structure AdmitsCallback (env : Env) (s : BookingState) (cb : PaymentCallback) : Prop where
  unseen : priorEvent s cb.providerEventId = none
  safe : s.revision + 1 ≤ 2 ^ 53 - 1
  receipt : ReceiptText cb.providerEventId (Domain.sha256 env.toDomain cb.val)

theorem revision_safe (h : Sound env v) : v.revision ≤ 2 ^ 53 - 1 := by
  have hids := h.ids
  simp only [List.append_eq_nil_iff] at hids
  have hsafe := Domain.failing_eq_nil hids.2
  simp only [Bool.and_eq_true, decide_eq_true_eq] at hsafe
  exact hsafe.1

variable {op : Operation}

theorem recorded_admits (hs : Frozen env s s) (hunseen : Unseen s.revision s.commandReceipts c)
    (h : FrozenAs env (recorded s m (op.receipt env c)) s') : Admits env s c op := by
  obtain ⟨r, hr, -⟩ := parseAll_snoc hs.commandReceipts h.commandReceipts
  obtain ⟨-, hissues⟩ := Domain.accept_ok hr
  obtain ⟨hkey, hfingerprint⟩ := List.append_eq_nil_iff.mp hissues
  exact ⟨hunseen, revision_safe h.sound, Domain.failing_eq_nil hkey, Domain.failing_eq_nil hfingerprint⟩

theorem received_admits (hs : Frozen env s s) (hunseen : priorEvent s cb.providerEventId = none)
    (h : FrozenAs env (received env s cb) s') : AdmitsCallback env s cb := by
  obtain ⟨r, hr, -⟩ := parseAll_snoc hs.providerCallbackReceipts h.providerCallbackReceipts
  obtain ⟨-, hissues⟩ := Domain.accept_ok hr
  obtain ⟨hkey, hfingerprint⟩ := List.append_eq_nil_iff.mp hissues
  exact ⟨hunseen, revision_safe h.sound, Domain.failing_eq_nil hkey, Domain.failing_eq_nil hfingerprint⟩

/-- The revision after the one of a state, where that is still safe. -/
theorem ids_succ (hids : (idField env "bookingId" s.bookingId ++
      idField env "organizationId" s.organizationId ++ safeField "revision" (0 ≤ ·) s.revision) = [])
    (hrev : s.revision + 1 ≤ 2 ^ 53 - 1) :
    idField env "bookingId" s.bookingId ++ idField env "organizationId" s.organizationId ++
      safeField "revision" (0 ≤ ·) (s.revision + 1) = [] := by
  simp only [List.append_eq_nil_iff] at hids ⊢
  refine ⟨hids.1, ?_⟩
  simp only [safeField, Domain.failing, Nat.zero_le, decide_true, Bool.and_true, decide_eq_true_eq,
    if_pos hrev]

/-- The readiness reads nothing that parsing changes. -/
theorem deriveReadiness_frozen (h : Frozen env v s) : deriveReadiness s = deriveReadiness v := by
  unfold deriveReadiness
  rw [h.keeps.slot, h.keeps.agreement, h.keeps.payment, h.keeps.calendar, h.keeps.access]

/-- The state a new command leaves when what it changed parses to `m`. -/
def afterCommand (s m : BookingState) (r : CommandReceipt) : BookingState :=
  { recorded s m { r with idempotencyKey := Js.trim r.idempotencyKey } with
    readiness := deriveReadiness m }

variable {m' : BookingState}

/-- A change that parses, under a receipt that parses, is frozen. -/
theorem frozenAs_recorded {r : CommandReceipt} (hm : Frozen env m m')
    (hrev : m.revision = s.revision) (hs : Frozen env s s) (hsafe : s.revision + 1 ≤ 2 ^ 53 - 1)
    (hr : ReceiptText r.idempotencyKey r.requestFingerprint) :
    FrozenAs env (recorded s m r) (afterCommand s m' r) where
  sound := by
    refine ⟨?_, hm.sound.slots, hm.sound.notifications⟩
    have hids := ids_succ hm.sound.ids (by rw [hrev]; exact hsafe)
    rw [hrev] at hids
    exact hids
  input := hm.input
  quote := hm.quote
  agreement := hm.agreement
  payment := hm.payment
  calendar := hm.calendar
  access := hm.access
  readiness := by
    show (deriveReadiness m).parse = .ok (deriveReadiness m')
    rw [deriveReadiness_frozen hm]
    exact readiness_settled m
  reschedule := hm.reschedule
  cancellationReason := hm.cancellationReason
  commandReceipts := parseAll_snoc_of hs.commandReceipts hr.command
  providerCallbackReceipts := hm.providerCallbackReceipts
  rest := by
    rw [hm.rest]
    rfl
  refined := hm.refined

theorem transition_of {name : String} {payload : JsVal}
    {mutate : BookingState → Except BookingError BookingState} (hs : Frozen env s s)
    (hunseen : Unseen s.revision s.commandReceipts c) (hmutate : mutate s = .ok m)
    (hm : Frozen env m m') (hrev : m.revision = s.revision) (hsafe : s.revision + 1 ≤ 2 ^ 53 - 1)
    (hr : ReceiptText c.idempotencyKey (requestFingerprint env name payload)) :
    transition env s c name payload mutate =
      .ok { state := afterCommand s m' (receiptOf env c name payload), replayed := false } := by
  have hfreeze : freezeBooking env (recorded s m (receiptOf env c name payload)) =
      .ok (afterCommand s m' (receiptOf env c name payload)) :=
    freezeBooking_of (frozenAs_recorded hm hrev hs hsafe hr)
  unfold transition
  rw [hs.parse]
  show (inspectCommand env s.revision s.commandReceipts c name payload >>= _) = _
  rw [inspectCommand_unseen hunseen]
  show (mutate s >>= _) = _
  rw [hmutate]
  show (freezeBooking env (recorded s m (receiptOf env c name payload)) >>= _) = _
  rw [hfreeze]
  rfl

theorem Changes.revision (h : Changes env op s m) : m.revision = s.revision := by
  cases h <;> rfl

/-- A command that is admitted, passes its checks and leaves fields the schema
takes is accepted. -/
theorem perform_of (hs : Frozen env s s) (hadmits : Admits env s c op)
    (hchanges : Changes env op s m) (hm : Frozen env m m') :
    perform env s (.command c op) =
      .ok { state := afterCommand s m' (op.receipt env c), replayed := false } := by
  obtain ⟨mutate, hperform, hmutate⟩ := perform_transition env op
  rw [hperform]
  exact transition_of hs hadmits.unseen ((hmutate s m).mpr hchanges) hm hchanges.revision
    hadmits.safe hadmits.receipt

theorem next_of {replayed : Bool} (h : perform env s a = .ok { state := s', replayed }) :
    next env s a = s' := by
  unfold next
  rw [h]

/-- The same for a callback. -/
def afterCallback (env : Env) (s : BookingState) (cb : PaymentCallback) (p : PaymentProjection) :
    BookingState :=
  { s with
    revision := s.revision + 1
    payment := p
    readiness := deriveReadiness { s with payment := p }
    providerCallbackReceipts := s.providerCallbackReceipts ++
      [{ providerEventId := Js.trim cb.providerEventId
         requestFingerprint := Domain.sha256 env.toDomain cb.val }] }

theorem frozenAs_received {p : PaymentProjection} (hs : Frozen env s s)
    (hsafe : s.revision + 1 ≤ 2 ^ 53 - 1) (hp : (paymentAfter s cb).parse = .ok p)
    (hr : ReceiptText cb.providerEventId (Domain.sha256 env.toDomain cb.val)) :
    FrozenAs env (received env s cb) (afterCallback env s cb p) where
  sound := ⟨ids_succ hs.sound.ids hsafe, hs.sound.slots, hs.sound.notifications⟩
  input := hs.input
  quote := hs.quote
  agreement := hs.agreement
  payment := hp
  calendar := hs.calendar
  access := hs.access
  readiness := by
    -- the readiness reads the state of the payment, which parsing keeps
    have hkept : p.state = (paymentAfter s cb).state := by rw [parse_payment_eq hp]
    have hstate := deriveReadiness_payment s hkept
    show (deriveReadiness { s with payment := paymentAfter s cb }).parse =
      .ok (deriveReadiness { s with payment := p })
    rw [hstate]
    exact readiness_settled _
  reschedule := hs.reschedule
  cancellationReason := hs.cancellationReason
  commandReceipts := hs.commandReceipts
  providerCallbackReceipts := parseAll_snoc_of hs.providerCallbackReceipts
    (ReceiptText.callback (r := ⟨cb.providerEventId, Domain.sha256 env.toDomain cb.val⟩) hr)
  rest := rfl
  refined := hs.refined

theorem perform_callback {p : PaymentProjection} (hs : Frozen env s s)
    (hsafe : s.revision + 1 ≤ 2 ^ 53 - 1) (hunseen : priorEvent s cb.providerEventId = none)
    (hp : (paymentAfter s cb).parse = .ok p)
    (hr : ReceiptText cb.providerEventId (Domain.sha256 env.toDomain cb.val)) :
    perform env s (.callback cb) =
      .ok { state := afterCallback env s cb p, replayed := false } := by
  have hfind : s.providerCallbackReceipts.find? (·.providerEventId = cb.providerEventId) = none :=
    hunseen
  have hfreeze : freezeBooking env (received env s cb) = .ok (afterCallback env s cb p) :=
    freezeBooking_of (frozenAs_received hs hsafe hp hr)
  show applyPaymentCallback env s cb = _
  unfold applyPaymentCallback
  rw [hs.parse]
  dsimp only [parse, Except.mapError, bind, Except.bind]
  rw [hfind]
  show (freezeBooking env (received env s cb) >>= _) = _
  rw [hfreeze]
  rfl

/-! ## Changes of one field -/

theorem Frozen.withLifecycle (hs : Frozen env s s) (l : Lifecycle) :
    Frozen env { s with lifecycle := l } { s with lifecycle := l } :=
  { hs with
    sound := ⟨hs.sound.ids, hs.sound.slots, hs.sound.notifications⟩
    rest := rfl }

theorem Frozen.withAgreement {a b : AgreementProjection} (hs : Frozen env s s)
    (h : a.parse env = .ok b) : Frozen env { s with agreement := a } { s with agreement := b } :=
  { hs with
    sound := ⟨hs.sound.ids, hs.sound.slots, hs.sound.notifications⟩
    agreement := h
    rest := rfl }

theorem Frozen.withPayment {p q : PaymentProjection} (hs : Frozen env s s)
    (h : p.parse = .ok q) : Frozen env { s with payment := p } { s with payment := q } :=
  { hs with
    sound := ⟨hs.sound.ids, hs.sound.slots, hs.sound.notifications⟩
    payment := h
    rest := rfl }

theorem Frozen.withCalendar {c d : CalendarProjection} (hs : Frozen env s s)
    (h : c.parse = .ok d) : Frozen env { s with calendar := c } { s with calendar := d } :=
  { hs with
    sound := ⟨hs.sound.ids, hs.sound.slots, hs.sound.notifications⟩
    calendar := h
    rest := rfl }

theorem Frozen.withAccess {a b : AccessProjection} (hs : Frozen env s s)
    (h : a.parse env = .ok b) : Frozen env { s with access := a } { s with access := b } :=
  { hs with
    sound := ⟨hs.sound.ids, hs.sound.slots, hs.sound.notifications⟩
    access := h
    rest := rfl }

theorem Frozen.withReschedule {r q : Option RescheduleProjection} (hs : Frozen env s s)
    (h : Domain.parseNullable (RescheduleProjection.parse env) r = .ok q) :
    Frozen env { s with reschedule := r } { s with reschedule := q } :=
  { hs with
    sound := ⟨hs.sound.ids, hs.sound.slots, hs.sound.notifications⟩
    reschedule := h
    rest := rfl }

theorem Frozen.withReason {r q : Option String} (hs : Frozen env s s)
    (h : parseReason r = .ok q) :
    Frozen env { s with cancellationReason := r } { s with cancellationReason := q } :=
  { hs with
    sound := ⟨hs.sound.ids, hs.sound.slots, hs.sound.notifications⟩
    cancellationReason := h
    rest := rfl }

theorem Frozen.withNotifications {n : NotificationProjection} (hs : Frozen env s s)
    (h : n.issues env = []) :
    Frozen env { s with notifications := n } { s with notifications := n } :=
  { hs with
    sound := ⟨hs.sound.ids, hs.sound.slots, below_iff.mpr h⟩
    rest := rfl }

theorem Frozen.withSlot {p : BookingSlotProjection} {l : List SlotHistoryEntry}
    (hs : Frozen env s s) (hp : p.issues env = []) (hl : ∀ e ∈ l, e.issues env = []) :
    Frozen env { s with slot := p, slotHistory := l } { s with slot := p, slotHistory := l } := by
  have hslots : below "slot" (p.issues env) ++
      eachField "slotHistory" (SlotHistoryEntry.issues env) l = [] := by
    rw [below_iff.mpr hp, eachField_iff.mpr hl]
    rfl
  exact { hs with
    sound := ⟨hs.sound.ids, hslots, hs.sound.notifications⟩
    rest := rfl }

theorem createBooking_of {request : BookingRequest} {quote bookingInput : JsVal}
    (hquote : quoteSnapshotSchema env request.quote = .ok quote)
    (hhold : parseSlotHold env request.slotHold = .ok request.slotHold)
    (hoffer : atOrBefore env (Domain.text quote "expiresAt") request.capturedAt = false)
    (hexpiry : atOrBefore env request.slotHold.expiresAt request.capturedAt = false)
    (hslot : atOrBefore env request.slotHold.endsAt request.slotHold.startsAt = false)
    (hinput : bookingInputSnapshotSchema env
      (.obj [("quote", quote), ("property", request.property),
        ("participants", request.participants), ("capturedAt", .str request.capturedAt)]) =
      .ok bookingInput)
    (hproperty : bookingInput.strAt? ["property", "suburb"] = quote.strAt? ["property", "suburb"] ∧
      bookingInput.strAt? ["property", "postcode"] = quote.strAt? ["property", "postcode"])
    (hs : FrozenAs env (newBooking request quote bookingInput request.slotHold) s) :
    createBooking env request = .ok s := by
  unfold createBooking
  rw [hquote, hhold]
  show (require _ _ _ _ >>= _) = _
  rw [require_of hoffer]
  show (require _ _ _ _ >>= _) = _
  rw [require_of hexpiry]
  show (require _ _ _ _ >>= _) = _
  rw [require_of hslot, hinput]
  show (require _ _ _ _ >>= _) = _
  rw [require_of hproperty]
  exact freezeBooking_of hs

end InspectionHub.Booking
