import InspectionHub.Booking.Idempotency

/-!
# The booking workflow

`packages/booking/src/workflow.ts`. A command parses the state it is given,
compares itself with the receipts, changes a few fields, and freezes the
result: the readiness is derived afresh and the state parsed once more.
Provider callbacks have receipts of their own.
-/

namespace InspectionHub.Booking

open Contracts
open Agreements hiding Env
open Domain (text)

/-! ## Readiness -/

/-- `if (!ready) actions.push(action)`. -/
def actionUnless (ready : Bool) (action : ReadinessAction) : List ReadinessAction :=
  if ready then [] else [action]

def deriveReadiness (state : BookingState) : ReadinessProjection :=
  let slotReady : Bool := state.slot.state = .confirmed
  let agreementReady : Bool := state.agreement.state = .signed
  let paymentReady : Bool := state.payment.state = .paid
  let calendarReady : Bool := state.calendar.state = .confirmed
  let accessReady : Bool := state.access.state = .confirmed ∨ state.access.state = .overridden
  let actions :=
    actionUnless slotReady
      { dependency := .slot, responsibleRole := .client
        action := "Confirm an available inspection slot" } ++
    actionUnless agreementReady
      { dependency := .agreement, responsibleRole := .client
        action := "Sign the pre-inspection agreement" } ++
    actionUnless paymentReady
      { dependency := .payment
        responsibleRole := if state.payment.state = .declined then .client else .system
        action :=
          if state.payment.state = .declined then "Retry payment"
          else "Resolve payment processing" } ++
    actionUnless calendarReady
      { dependency := .calendar, responsibleRole := .system
        action := "Confirm the calendar reservation" } ++
    actionUnless accessReady
      { dependency := .access, responsibleRole := .access_contact
        action := "Confirm property access" }
  { ready := slotReady && agreementReady && paymentReady && calendarReady && accessReady
    slot := if slotReady then .ready else .action_required
    agreement := if agreementReady then .ready else .action_required
    payment :=
      if paymentReady then .ready
      else if state.payment.state ∈ [PaymentState.failed, .unknown, .refund_failed] then
        .provider_recovery
      else .action_required
    calendar :=
      if calendarReady then .ready
      else if state.calendar.state ∈
          [CalendarState.reservation_failed, .cancellation_failed, .unknown] then
        .provider_recovery
      else .action_required
    access := if accessReady then .ready else .action_required
    actions }

def emptyReadiness : ReadinessProjection where
  ready := false
  slot := .action_required
  agreement := .action_required
  payment := .action_required
  calendar := .action_required
  access := .action_required
  actions := []

/-! ## Transitions -/

variable (env : Env)

def freezeBooking (state : BookingState) : Except BookingError BookingState :=
  parse (BookingState.parse env { state with readiness := deriveReadiness state })

structure TransitionResult where
  state : BookingState
  replayed : Bool

def transition (state : BookingState) (command : CommandMetadata) (operation : String)
    (payload : JsVal) (mutate : BookingState → Except BookingError BookingState) :
    Except BookingError TransitionResult := do
  let current ← parse (state.parse env)
  let decision ← inspectCommand env current.revision current.commandReceipts command operation
    payload
  if decision.replayed then return { state, replayed := true }
  let mutated ← mutate current
  let frozen ← freezeBooking env
    { mutated with
      revision := current.revision + 1
      commandReceipts := current.commandReceipts ++ [decision.receipt] }
  return { state := frozen, replayed := false }

inductive SideEffectObservation where
  | accepted (providerReference : String) (value : JsVal) (replayed : Bool)
  | failed (code : String) (retryable : Bool)
  | unknown (reconciliationKey : String)

def SideEffectObservation.val : SideEffectObservation → JsVal
  | .accepted providerReference value replayed =>
      .obj [("state", .str "accepted"), ("providerReference", .str providerReference),
        ("value", value), ("replayed", .bool replayed)]
  | .failed code retryable =>
      .obj [("state", .str "failed"), ("code", .str code), ("retryable", .bool retryable)]
  | .unknown reconciliationKey =>
      .obj [("state", .str "unknown"), ("reconciliationKey", .str reconciliationKey)]

def SlotHoldSnapshot.val (h : SlotHoldSnapshot) : JsVal :=
  .obj [("slotId", .str h.slotId), ("holdId", .str h.holdId), ("startsAt", .str h.startsAt),
    ("endsAt", .str h.endsAt), ("expiresAt", .str h.expiresAt)]

/-- `Date.parse(a) <= Date.parse(b)`. -/
def atOrBefore (a b : String) : Bool :=
  match env.dateParse a, env.dateParse b with
  | some x, some y => x ≤ y
  | _, _ => false

def parseSlotHold (h : SlotHoldSnapshot) : Parsed SlotHoldSnapshot :=
  Domain.accept h (h.issues env)

structure BookingRequest where
  bookingId : String
  organizationId : String
  quote : JsVal
  property : JsVal
  participants : JsVal
  slotHold : SlotHoldSnapshot
  capturedAt : String

/-- The booking that is frozen once the request has passed its checks. -/
def newBooking (request : BookingRequest) (quote bookingInput : JsVal)
    (slotHold : SlotHoldSnapshot) : BookingState where
  bookingId := request.bookingId
  organizationId := request.organizationId
  revision := 0
  lifecycle := .draft
  input := bookingInput
  quote := quote
  slot := { slotHold with state := .held, confirmedAt := none }
  slotHistory := []
  agreement := { state := .unsigned, snapshot := none }
  payment :=
    { state := .not_started, attempt := 0, intentId := none, providerReference := none
      failureCode := none, terminal := false }
  calendar :=
    { state := .not_requested, eventReference := none, failureCode := none, retryable := false }
  access :=
    { state := .not_requested, generation := 1, activeLinkId := none
      activeTokenFingerprint := none, supersededLinkIds := [], confirmedAt := none
      overrideReason := none }
  notifications := { generation := 1, reminders := [] }
  readiness := emptyReadiness
  reschedule := none
  cancellationReason := none
  commandReceipts := []
  providerCallbackReceipts := []

def createBooking (request : BookingRequest) : Except BookingError BookingState := do
  let quote ← parse (quoteSnapshotSchema env request.quote)
  let slotHold ← parse (parseSlotHold env request.slotHold)
  require (atOrBefore env (text quote "expiresAt") request.capturedAt = false)
    "quote_expired" "The quote has expired" []
  require (atOrBefore env slotHold.expiresAt request.capturedAt = false)
    "hold_expired" "The initial slot hold has expired" []
  require (atOrBefore env slotHold.endsAt slotHold.startsAt = false)
    "invalid_slot" "The slot must end after it starts" []
  let bookingInput ← parse (bookingInputSnapshotSchema env
    (.obj [("quote", quote), ("property", request.property),
      ("participants", request.participants), ("capturedAt", .str request.capturedAt)]))
  require
    (bookingInput.strAt? ["property", "suburb"] = quote.strAt? ["property", "suburb"] ∧
      bookingInput.strAt? ["property", "postcode"] = quote.strAt? ["property", "postcode"])
    "quote_property_mismatch" "The booking property must match the quoted suburb and postcode" []
  freezeBooking env (newBooking request quote bookingInput slotHold)

def confirmBookingSlot (state : BookingState) (command : CommandMetadata) (confirmedAt : String) :
    Except BookingError TransitionResult :=
  transition env state command "booking.slot.confirm"
    (.obj [("confirmedAt", .str confirmedAt)]) fun current => do
    require (current.slot.state = .held) "slot_not_held" "Only a held slot can be confirmed" []
    require (atOrBefore env current.slot.expiresAt confirmedAt = false) "hold_expired"
      "The booking slot hold has expired" []
    return { current with
      slot := { current.slot with state := .confirmed, confirmedAt := some confirmedAt } }

def applySignedAgreement (state : BookingState) (command : CommandMetadata) (snapshot : JsVal) :
    Except BookingError TransitionResult :=
  transition env state command "booking.agreement.sign" snapshot fun current => do
    let parsed ← parse (signedAgreementSnapshotSchema env.toAgreements snapshot)
    let verified ← parse (verifySignedAgreementSnapshot env.toAgreements parsed)
    require (verified = true) "agreement_hash_mismatch"
      "The signed agreement snapshot failed integrity validation" []
    require
      (parsed.str? "bookingId" = some current.bookingId ∧
        parsed.str? "organizationId" = some current.organizationId)
      "agreement_booking_mismatch" "The signed agreement belongs to another booking" []
    require
      (parsed.strAt? ["signer", "assignmentId"] =
          current.input.strAt? ["participants", "client", "assignmentId"] ∧
        parsed.strAt? ["signer", "contactId"] =
          current.input.strAt? ["participants", "client", "contact", "contactId"])
      "agreement_signer_mismatch" "The booking client must sign the pre-inspection agreement" []
    require (joinedModules parsed = joinedModules current.quote) "agreement_scope_mismatch"
      "The signed agreement must cover the exact commissioned modules" []
    return { current with agreement := { state := .signed, snapshot := some parsed } }

def beginPayment (state : BookingState) (command : CommandMetadata) (intentId : String) :
    Except BookingError TransitionResult :=
  transition env state command "booking.payment.begin" (.obj [("intentId", .str intentId)])
    fun current => do
    require (current.payment.state ∈ [PaymentState.not_started, .declined, .failed])
      "payment_not_retryable" s!"Payment cannot begin from {current.payment.state.text}" []
    return { current with
      payment :=
        { state := .pending
          attempt := current.payment.attempt + 1
          intentId := some intentId
          providerReference := none
          failureCode := none
          terminal := false } }

inductive PaymentCallback where
  | checkout_succeeded (providerEventId intentId providerReference observedAt : String)
  | checkout_declined (providerEventId intentId providerReference reasonCode observedAt : String)
  | refund_succeeded (providerEventId providerReference observedAt : String)
  | refund_failed (providerEventId providerReference reasonCode : String) (retryable : Bool)
      (observedAt : String)

def PaymentCallback.providerEventId : PaymentCallback → String
  | .checkout_succeeded id _ _ _ | .checkout_declined id _ _ _ _ | .refund_succeeded id _ _
  | .refund_failed id _ _ _ _ => id

def PaymentCallback.val : PaymentCallback → JsVal
  | .checkout_succeeded id intentId reference at' =>
      .obj [("providerEventId", .str id), ("eventType", .str "checkout_succeeded"),
        ("intentId", .str intentId), ("providerReference", .str reference),
        ("observedAt", .str at')]
  | .checkout_declined id intentId reference reasonCode at' =>
      .obj [("providerEventId", .str id), ("eventType", .str "checkout_declined"),
        ("intentId", .str intentId), ("providerReference", .str reference),
        ("reasonCode", .str reasonCode), ("observedAt", .str at')]
  | .refund_succeeded id reference at' =>
      .obj [("providerEventId", .str id), ("eventType", .str "refund_succeeded"),
        ("providerReference", .str reference), ("observedAt", .str at')]
  | .refund_failed id reference reasonCode retryable at' =>
      .obj [("providerEventId", .str id), ("eventType", .str "refund_failed"),
        ("providerReference", .str reference), ("reasonCode", .str reasonCode),
        ("retryable", .bool retryable), ("observedAt", .str at')]

/-- A checkout neither resurrects a refund nor a booking that is being
cancelled. -/
def acceptsCheckout (current : BookingState) : Bool :=
  current.payment.state ∉ [PaymentState.refund_pending, .refunded, .refund_failed] ∧
    current.lifecycle ≠ .cancel_pending ∧ current.lifecycle ≠ .cancelled

/-- The payment after a callback that is new. -/
def paymentAfter (current : BookingState) : PaymentCallback → PaymentProjection
  | .checkout_succeeded _ intentId providerReference _ =>
      if some intentId ≠ current.payment.intentId then
        if acceptsCheckout current then
          { current.payment with
            state := .unknown
            providerReference := some providerReference
            failureCode := some "checkout_intent_mismatch_reconciliation_required"
            terminal := false }
        else current.payment
      else if acceptsCheckout current then
        { current.payment with
          state := .paid
          providerReference := some providerReference
          failureCode := none
          terminal := false }
      else current.payment
  | .checkout_declined _ intentId providerReference reasonCode _ =>
      if some intentId = current.payment.intentId ∧ current.payment.state ∉
          [PaymentState.paid, .refund_pending, .refunded, .refund_failed] then
        { current.payment with
          state := .declined
          providerReference := some providerReference
          failureCode := some reasonCode
          terminal := false }
      else current.payment
  | .refund_succeeded _ providerReference _ =>
      { current.payment with
        state := .refunded
        providerReference := some providerReference
        failureCode := none
        terminal := true }
  | .refund_failed _ providerReference reasonCode retryable _ =>
      { current.payment with
        state := .refund_failed
        providerReference := some providerReference
        failureCode := some reasonCode
        terminal := !retryable }

def applyPaymentCallback (state : BookingState) (callback : PaymentCallback) :
    Except BookingError TransitionResult := do
  let current ← parse (state.parse env)
  let requestFingerprint := Domain.sha256 env.toDomain callback.val
  match current.providerCallbackReceipts.find?
      (·.providerEventId = callback.providerEventId) with
  | some prior =>
      require (prior.requestFingerprint = requestFingerprint) "provider_event_reused"
        "A provider event id cannot be reused with a different payload" []
      return { state, replayed := true }
  | none =>
      let frozen ← freezeBooking env
        { current with
          revision := current.revision + 1
          payment := paymentAfter current callback
          providerCallbackReceipts := current.providerCallbackReceipts ++
            [{ providerEventId := callback.providerEventId, requestFingerprint }] }
      return { state := frozen, replayed := false }

/-- The calendar after a reservation was observed. -/
def reservedCalendar : SideEffectObservation → CalendarProjection
  | .accepted providerReference _ _ =>
      { state := .confirmed, eventReference := some providerReference, failureCode := none
        retryable := false }
  | .failed code retryable =>
      { state := .reservation_failed, eventReference := none, failureCode := some code, retryable }
  | .unknown reconciliationKey =>
      { state := .unknown, eventReference := none, failureCode := some reconciliationKey
        retryable := false }

def observeCalendarReservation (state : BookingState) (command : CommandMetadata)
    (observation : SideEffectObservation) : Except BookingError TransitionResult :=
  transition env state command "booking.calendar.reserve.observe" observation.val fun current =>
    return { current with calendar := reservedCalendar observation }

def issueAccessRequest (state : BookingState) (command : CommandMetadata)
    (linkId tokenFingerprint : String) : Except BookingError TransitionResult :=
  transition env state command "booking.access.issue"
    (.obj [("linkId", .str linkId), ("tokenFingerprint", .str tokenFingerprint)]) fun current =>
    return { current with
      access := { current.access with
        state := .confirmation_pending
        activeLinkId := some linkId
        activeTokenFingerprint := some tokenFingerprint
        confirmedAt := none
        overrideReason := none } }

def confirmAccess (state : BookingState) (command : CommandMetadata)
    (linkId confirmedAt : String) : Except BookingError TransitionResult :=
  transition env state command "booking.access.confirm"
    (.obj [("linkId", .str linkId), ("confirmedAt", .str confirmedAt)]) fun current => do
    require (linkId ∉ current.access.supersededLinkIds) "stale_access_link"
      "This access confirmation link is stale" []
    require
      (current.access.state = .confirmation_pending ∧ current.access.activeLinkId = some linkId)
      "invalid_access_link" "This access confirmation link is not active" []
    return { current with
      access := { current.access with state := .confirmed, confirmedAt := some confirmedAt } }

def overrideAccess (state : BookingState) (command : CommandMetadata) (reason : String) :
    Except BookingError TransitionResult :=
  transition env state command "booking.access.override" (.obj [("reason", .str reason)])
    fun current =>
    return { current with
      access := { current.access with
        state := .overridden, overrideReason := some reason, confirmedAt := none } }

def activateBooking (state : BookingState) (command : CommandMetadata) (activatedAt : String) :
    Except BookingError TransitionResult :=
  transition env state command "booking.activate" (.obj [("activatedAt", .str activatedAt)])
    fun current => do
    require ((deriveReadiness current).ready = true) "booking_not_ready"
      "A booking cannot be confirmed until every readiness dependency is satisfied"
      [("actions", .arr ((deriveReadiness current).actions.map ReadinessAction.val))]
    return { current with lifecycle := .confirmed }

structure ReminderRequest where
  reminderId : String
  scheduledFor : String
  channel : Channel

def ReminderRequest.val (r : ReminderRequest) : JsVal :=
  .obj [("reminderId", .str r.reminderId), ("scheduledFor", .str r.scheduledFor),
    ("channel", .str r.channel.text)]

def scheduleReminder (state : BookingState) (command : CommandMetadata)
    (reminder : ReminderRequest) : Except BookingError TransitionResult :=
  transition env state command "booking.reminder.schedule" reminder.val fun current =>
    return { current with
      notifications := { current.notifications with
        reminders := current.notifications.reminders ++
          [{ reminderId := reminder.reminderId
             scheduledFor := reminder.scheduledFor
             channel := reminder.channel
             generation := current.notifications.generation
             state := .scheduled }] } }

def requestReschedule (state : BookingState) (command : CommandMetadata)
    (candidateSlot : SlotHoldSnapshot) (requestedAt : String) :
    Except BookingError TransitionResult :=
  transition env state command "booking.reschedule.request"
    (.obj [("candidateSlot", candidateSlot.val), ("requestedAt", .str requestedAt)])
    fun current => do
    require (current.lifecycle = .confirmed) "booking_not_reschedulable"
      s!"A {current.lifecycle.text} booking cannot begin rescheduling" []
    let candidate ← parse (parseSlotHold env candidateSlot)
    require (atOrBefore env candidate.expiresAt requestedAt = false) "hold_expired"
      "The candidate reschedule hold has expired" []
    require (atOrBefore env candidate.endsAt candidate.startsAt = false) "invalid_slot"
      "The candidate reschedule slot must end after it starts" []
    require (candidate.slotId ≠ current.slot.slotId) "same_slot"
      "A reschedule must select another slot" []
    return { current with
      lifecycle := .reschedule_pending
      calendar := { current.calendar with
        state := .pending, failureCode := none, retryable := false }
      reschedule := some
        { candidateSlot := candidate
          previousCalendarEventReference := current.calendar.eventReference } }

def invalidateReminders (notifications : NotificationProjection) : NotificationProjection where
  generation := notifications.generation + 1
  reminders := notifications.reminders.map fun reminder =>
    if reminder.state = .scheduled then { reminder with state := .invalidated } else reminder

/-- The links that are stale once the active one is. -/
def oldLinkIds (access : AccessProjection) : List String :=
  match access.activeLinkId with
  | some linkId => if linkId = "" then access.supersededLinkIds
      else access.supersededLinkIds ++ [linkId]
  | none => access.supersededLinkIds

/-- The entry of a slot that is given up. -/
def pastSlot (slot : BookingSlotProjection) (state : SlotHistoryState) (recordedAt : String) :
    SlotHistoryEntry where
  state := state
  slotId := slot.slotId
  holdId := slot.holdId
  startsAt := slot.startsAt
  endsAt := slot.endsAt
  recordedAt := recordedAt

def completeReschedule (state : BookingState) (command : CommandMetadata)
    (observation : SideEffectObservation) (recordedAt : String) :
    Except BookingError TransitionResult :=
  transition env state command "booking.reschedule.complete"
    (.obj [("observation", observation.val), ("recordedAt", .str recordedAt)]) fun current =>
    match current.lifecycle, current.reschedule with
    | .reschedule_pending, some reschedule =>
        match observation with
        | .failed code retryable =>
            return { current with
              calendar := { current.calendar with
                state := .reservation_failed, failureCode := some code, retryable } }
        | .unknown reconciliationKey =>
            return { current with
              calendar := { current.calendar with
                state := .unknown, failureCode := some reconciliationKey, retryable := false } }
        | .accepted providerReference _ _ =>
            return { current with
              lifecycle := .confirmed
              slotHistory := current.slotHistory ++ [pastSlot current.slot .superseded recordedAt]
              slot := { reschedule.candidateSlot with
                state := .confirmed, confirmedAt := some recordedAt }
              calendar :=
                { state := .confirmed, eventReference := some providerReference
                  failureCode := none, retryable := false }
              access :=
                { state := .not_requested
                  generation := current.access.generation + 1
                  activeLinkId := none
                  activeTokenFingerprint := none
                  supersededLinkIds := oldLinkIds current.access
                  confirmedAt := none
                  overrideReason := none }
              notifications := invalidateReminders current.notifications
              reschedule := none }
    | _, _ =>
        .error (.conflict "reschedule_not_pending" "No booking reschedule is pending" [])

def requestCancellation (state : BookingState) (command : CommandMetadata) (reason : String) :
    Except BookingError TransitionResult :=
  transition env state command "booking.cancel.request" (.obj [("reason", .str reason)])
    fun current => do
    require (current.lifecycle ∈ [Lifecycle.confirmed, .reschedule_pending])
      "booking_not_cancellable" s!"A {current.lifecycle.text} booking cannot be cancelled" []
    return { current with
      lifecycle := .cancel_pending
      cancellationReason := some reason
      payment :=
        if current.payment.state = .paid then { current.payment with state := .refund_pending }
        else current.payment
      calendar :=
        if current.calendar.state = .confirmed then
          { current.calendar with state := .cancellation_pending }
        else current.calendar }

def cancellationCalendarProjection (current : CalendarProjection) :
    SideEffectObservation → CalendarProjection
  | .accepted providerReference _ _ =>
      { state := .cancelled, eventReference := some providerReference, failureCode := none
        retryable := false }
  | .failed code retryable =>
      { current with state := .cancellation_failed, failureCode := some code, retryable }
  | .unknown reconciliationKey =>
      { current with
        state := .unknown, failureCode := some reconciliationKey, retryable := false }

def cancellationPaymentProjection (current : PaymentProjection) :
    SideEffectObservation → PaymentProjection
  | .accepted providerReference _ _ =>
      { current with
        state := .refunded
        providerReference := some providerReference
        failureCode := none
        terminal := true }
  | .failed code retryable =>
      { current with state := .refund_failed, failureCode := some code, terminal := !retryable }
  | .unknown reconciliationKey =>
      { current with
        state := .unknown, failureCode := some reconciliationKey, terminal := false }

def completeCancellation (state : BookingState) (command : CommandMetadata)
    (calendar refund : SideEffectObservation) (recordedAt : String) :
    Except BookingError TransitionResult :=
  transition env state command "booking.cancel.complete"
    (.obj [("observations", .obj [("calendar", calendar.val), ("refund", refund.val)]),
      ("recordedAt", .str recordedAt)]) fun current => do
    require (current.lifecycle = .cancel_pending) "cancellation_not_pending"
      "No booking cancellation is pending" []
    return { current with
      lifecycle := .cancelled
      slotHistory := current.slotHistory ++ [pastSlot current.slot .cancelled recordedAt]
      slot := { current.slot with state := .released }
      calendar := cancellationCalendarProjection current.calendar calendar
      payment := cancellationPaymentProjection current.payment refund
      access := { current.access with
        state := .invalidated
        activeLinkId := none
        activeTokenFingerprint := none
        supersededLinkIds := oldLinkIds current.access
        confirmedAt := none
        overrideReason := none }
      notifications := invalidateReminders current.notifications
      reschedule := none }

end InspectionHub.Booking
