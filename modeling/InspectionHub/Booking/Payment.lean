import InspectionHub.Booking.ExactlyOnce

/-!
# Payments

What a payment status tells about the events before it. A booking is paid only
by a checkout for the intent it records, and never while it is being
cancelled; a refund is final until a failed refund is reported.
-/

namespace InspectionHub.Booking

variable {env : Env} {s s' m : BookingState}

/-! ## Cancellation is not left -/

/-- The booking is being cancelled, or is cancelled. -/
def Cancelling (s : BookingState) : Prop :=
  s.lifecycle = .cancel_pending ∨ s.lifecycle = .cancelled

/-- A booking that is being cancelled is not paid. -/
def CancelsUnpaid (s : BookingState) : Prop := Cancelling s → s.payment.state ≠ .paid

theorem paymentAfter_cancelling (h : Cancelling s) (hpaid : s.payment.state ≠ .paid)
    (cb : PaymentCallback) : (paymentAfter s cb).state ≠ .paid := by
  have hclosed : acceptsCheckout s = false := by
    rcases h with h | h <;> simp [acceptsCheckout, h]
  cases cb with
  | checkout_succeeded id intentId reference at' =>
      simp only [paymentAfter, hclosed, Bool.false_eq_true, if_false, ite_self]
      exact hpaid
  | checkout_declined id intentId reference reason at' =>
      dsimp only [paymentAfter]
      split
      · exact nofun
      · exact hpaid
  | refund_succeeded id reference at' => exact nofun
  | refund_failed id reference reason retryable at' => exact nofun

variable {op : Operation}

theorem cancelsUnpaid_changes (h : Changes env op s m) (hs : CancelsUnpaid s) :
    CancelsUnpaid m := by
  cases h with
  | confirmBookingSlot | applySignedAgreement | observeCalendarReservation | issueAccessRequest
  | confirmAccess | overrideAccess | scheduleReminder | rescheduleFailed | rescheduleUnknown =>
      exact hs
  | beginPayment _ => exact fun _ => nofun
  | activateBooking _ => exact fun h => h.elim nofun nofun
  | requestReschedule => exact fun h => h.elim nofun nofun
  | rescheduled _ _ => exact fun h => h.elim nofun nofun
  | requestCancellation _ =>
      intro _
      dsimp only
      split
      · exact nofun
      · assumption
  | @completeCancellation _ _ refund _ _ =>
      intro _
      cases refund <;> exact nofun

/-- No step leaves a cancellation, since an activation would need a payment. -/
theorem cancelling_changes (h : Changes env op s m) (hs : CancelsUnpaid s) (hc : Cancelling s) :
    m.lifecycle = s.lifecycle ∨ (s.lifecycle = .cancel_pending ∧ m.lifecycle = .cancelled) := by
  cases h with
  | confirmBookingSlot | applySignedAgreement | beginPayment | observeCalendarReservation
  | issueAccessRequest | confirmAccess | overrideAccess | scheduleReminder | rescheduleFailed
  | rescheduleUnknown => exact .inl rfl
  | activateBooking hready =>
      simp only [deriveReadiness, Bool.and_eq_true, decide_eq_true_eq] at hready
      exact absurd hready.1.1.2 (hs hc)
  | requestReschedule hconfirmed =>
      rcases hc with hc | hc <;> exact absurd (hc.symm.trans hconfirmed) (by rintro ⟨⟩)
  | rescheduled hpending _ =>
      rcases hc with hc | hc <;> exact absurd (hc.symm.trans hpending) (by rintro ⟨⟩)
  | requestCancellation hactive =>
      rcases hc with hc | hc <;> simp [hc] at hactive
  | completeCancellation hpending => exact .inr ⟨hpending, rfl⟩

variable {a : Action}

theorem Applies.cancelsUnpaid (h : Applies env s a s') (hs : CancelsUnpaid s) :
    CancelsUnpaid s' := by
  cases h with
  | command _ hchanges hfrozen =>
      have hm := cancelsUnpaid_changes hchanges hs
      unfold CancelsUnpaid Cancelling
      rw [hfrozen.recorded.lifecycle, hfrozen.recorded.payment]
      exact hm
  | @callback cb _ _ hfrozen =>
      unfold CancelsUnpaid Cancelling
      rw [hfrozen.received.lifecycle, hfrozen.received.payment]
      intro hc
      have hcancelling : Cancelling s := hc
      exact paymentAfter_cancelling hcancelling (hs hcancelling) cb

/-- **Cancellation is one way.** -/
theorem Applies.cancelling (h : Applies env s a s') (hs : CancelsUnpaid s) (hc : Cancelling s) :
    s'.lifecycle = s.lifecycle ∨ (s.lifecycle = .cancel_pending ∧ s'.lifecycle = .cancelled) := by
  cases h with
  | command _ hchanges hfrozen =>
      rw [hfrozen.recorded.lifecycle]
      exact cancelling_changes hchanges hs hc
  | callback _ hfrozen => exact .inl hfrozen.received.lifecycle

theorem createBooking_spec {request : BookingRequest} (h : createBooking env request = .ok s) :
    ∃ quote bookingInput slotHold, Frozen env s s ∧
      Keeps (newBooking request quote bookingInput slotHold) s := by
  obtain ⟨quote, bookingInput, slotHold, hfrozen⟩ := createBooking_ok h
  have k := Frozen.keeps hfrozen
  exact ⟨quote, bookingInput, slotHold, hfrozen.settled, k.lifecycle, k.slot, k.agreement,
    k.payment, k.intentId, k.calendar, k.access, k.activeLinkId, k.notifications, k.reschedule⟩

/-! ## The intent that is paid -/

/-- The action is accepted in `s`, and is no replay. -/
def isNew (env : Env) (s : BookingState) (a : Action) : Bool :=
  match perform env s a with
  | .ok r => !r.replayed
  | .error _ => false

theorem isNew_of (h : perform env s a = .ok { state := s', replayed := false }) :
    isNew env s a = true := by
  unfold isNew
  rw [h]
  rfl

/-- The intent of the last new `beginPayment`. -/
def intentAfter (env : Env) (s : BookingState) (last : Option String) : Action → Option String
  | .command c (.beginPayment intentId) =>
      if isNew env s (.command c (.beginPayment intentId)) then some intentId else last
  | _ => last

variable {intentId : String}

theorem intentAfter_begin {c : CommandMetadata} {last : Option String}
    (h : isNew env s (.command c (.beginPayment intentId)) = true) :
    intentAfter env s last (.command c (.beginPayment intentId)) = some intentId := if_pos h

theorem intentAfter_other {c : CommandMetadata} {last : Option String}
    (h : ∀ i, op ≠ .beginPayment i) : intentAfter env s last (.command c op) = last := by
  unfold intentAfter
  split
  · next heq =>
      cases heq
      exact absurd rfl (h _)
  · rfl

/-- The intent of the most recent `beginPayment` of a run from `s`. -/
def lastIntent (env : Env) (s : BookingState) (actions : List Action) : Option String :=
  (actions.foldl (fun p a => (next env p.1 a, intentAfter env p.1 p.2 a)) (s, none)).2

variable (env) in
theorem lastIntent_callback (s : BookingState) (a : Action) (cb : PaymentCallback) :
    lastIntent env s [a, .callback cb] = intentAfter env s none a := rfl

variable (env) in
theorem run_single (s : BookingState) (a : Action) : run env s [a] = next env s a := rfl

variable (env) in
theorem run_cons (s : BookingState) (a : Action) (actions : List Action) :
    run env s (a :: actions) = run env (next env s a) actions := rfl

variable (env) in
theorem run_append (s : BookingState) (first second : List Action) :
    run env s (first ++ second) = run env (run env s first) second := by
  rw [run, List.foldl_append]
  rfl

variable (env) in
theorem run_snoc (s : BookingState) (actions : List Action) (a : Action) :
    run env s (actions ++ [a]) = next env (run env s actions) a := by
  rw [run_append, run_single]

variable (env) in
theorem lastIntent_snoc (s : BookingState) (actions : List Action) (a : Action) :
    lastIntent env s (actions ++ [a]) =
      intentAfter env (run env s actions) (lastIntent env s actions) a := by
  have hfirst : ∀ l : List Action, (l.foldl
      (fun p a => (next env p.1 a, intentAfter env p.1 p.2 a)) (s, none)).1 = run env s l := by
    intro l
    induction l using List.reverseRecOn with
    | nil => rfl
    | append_singleton l b ih =>
        rw [List.foldl_append, run_snoc, ← ih]
        rfl
  rw [lastIntent, List.foldl_append]
  show intentAfter env (List.foldl _ (s, none) actions).1 _ a = _
  rw [hfirst]
  rfl

/-- A step is new exactly when it is applied. -/
theorem isNew_cases (hs : Frozen env s s) (a : Action) :
    (isNew env s a = true ∧ Applies env s a (next env s a)) ∨
      (isNew env s a = false ∧ next env s a = s) := by
  unfold isNew next
  cases h : perform env s a with
  | error e => exact .inr ⟨rfl, rfl⟩
  | ok r =>
      rcases perform_ok hs h with ⟨hsame, hreplayed, -⟩ | ⟨hfresh, happlies⟩
      · exact .inr ⟨by simp [hreplayed], hsame⟩
      · exact .inl ⟨by simp [hfresh], happlies⟩

/-- The checkout that paid the booking stands in the run: it was new, named
the intent that is recorded now, and came before any cancellation. -/
structure PaidBy (env : Env) (s : BookingState) (actions : List Action) (cb : PaymentCallback)
    (intentId : String) : Prop where
  checkout : ∃ id reference at', cb = .checkout_succeeded id intentId reference at'
  applied : ∃ before after, actions = before ++ .callback cb :: after ∧
    isNew env (run env s before) (.callback cb) = true ∧ ¬ Cancelling (run env s before) ∧
    lastIntent env s before = lastIntent env s actions
  intent : (lastIntent env s actions).map Js.trim = some intentId

/-- What a run knows about its payment. -/
structure PaymentHistory (env : Env) (s : BookingState) (actions : List Action) : Prop where
  frozen : Frozen env (run env s actions) (run env s actions)
  unpaid : CancelsUnpaid (run env s actions)
  intent : (run env s actions).payment.intentId = (lastIntent env s actions).map Js.trim
  paid : (run env s actions).payment.state = .paid →
    ∃ cb intentId, PaidBy env s actions cb intentId

/-- A payer stays the payer while nothing begins another payment. -/
theorem PaidBy.snoc {actions : List Action} {cb : PaymentCallback}
    (h : PaidBy env s actions cb intentId)
    (hlast : lastIntent env s (actions ++ [a]) = lastIntent env s actions) :
    PaidBy env s (actions ++ [a]) cb intentId := by
  obtain ⟨before, after, rfl, hnew, hopen, hsame⟩ := h.applied
  refine ⟨h.checkout, ⟨before, after ++ [a], ?_, hnew, hopen, by rw [hlast, hsame]⟩, ?_⟩
  · simp only [List.append_assoc, List.cons_append]
  · rw [hlast]
    exact h.intent

/-- A command leaves the payment as it is, begins another, or the booking is
not paid after it. -/
theorem Changes.payment (h : Changes env op s m) :
    ((∀ i, op ≠ .beginPayment i) ∧ m.payment.intentId = s.payment.intentId ∧
      (m.payment.state = .paid → s.payment.state = .paid)) ∨
    ∃ intentId, op = .beginPayment intentId ∧ m.payment.intentId = some intentId ∧
      m.payment.state = .pending := by
  cases h with
  | @beginPayment _ intentId _ => exact .inr ⟨intentId, rfl, rfl, rfl⟩
  | @requestCancellation _ reason _ =>
      refine .inl ⟨nofun, ?_, ?_⟩
      · dsimp only
        split <;> rfl
      · dsimp only
        split
        · exact nofun
        · exact id
  | @completeCancellation _ calendar refund _ _ =>
      refine .inl ⟨nofun, ?_, ?_⟩
      · cases refund <;> rfl
      · cases refund <;> exact nofun
  | _ => exact .inl ⟨nofun, rfl, id⟩

/-- A callback keeps the intent, and pays only as a checkout for it. -/
theorem paymentAfter_spec (s : BookingState) (cb : PaymentCallback) :
    (paymentAfter s cb).intentId = s.payment.intentId ∧
      ((paymentAfter s cb).state = .paid → s.payment.state = .paid ∨
        ∃ id intentId reference at', cb = .checkout_succeeded id intentId reference at' ∧
          s.payment.intentId = some intentId ∧ acceptsCheckout s = true) := by
  cases cb with
  | checkout_succeeded id intentId reference at' =>
      dsimp only [paymentAfter]
      by_cases hmatch : some intentId ≠ s.payment.intentId
      · rw [if_pos hmatch]
        split
        · exact ⟨rfl, nofun⟩
        · exact ⟨rfl, .inl⟩
      · rw [if_neg hmatch]
        split
        · next haccepts =>
            exact ⟨rfl, fun _ =>
              .inr ⟨id, intentId, reference, at', rfl, (not_not.mp hmatch).symm, haccepts⟩⟩
        · exact ⟨rfl, .inl⟩
  | checkout_declined id intentId reference reason at' =>
      dsimp only [paymentAfter]
      split
      · exact ⟨rfl, nofun⟩
      · exact ⟨rfl, .inl⟩
  | refund_succeeded id reference at' => exact ⟨rfl, nofun⟩
  | refund_failed id reference reason retryable at' => exact ⟨rfl, nofun⟩

/-- Trimming twice is trimming once, for an intent a state records. -/
theorem Frozen.intentId_trim (h : Frozen env s s) :
    s.payment.intentId.map Js.trim = s.payment.intentId := h.keeps.intentId.symm

theorem not_cancelling_of_accepts (h : acceptsCheckout s = true) : ¬ Cancelling s := by
  simp only [acceptsCheckout, decide_eq_true_eq] at h
  rintro (hc | hc)
  · exact h.2.1 hc
  · exact h.2.2 hc

theorem paymentHistory_snoc {actions : List Action} (h : PaymentHistory env s actions)
    (a : Action) : PaymentHistory env s (actions ++ [a]) := by
  have hrun := run_snoc env s actions a
  have hlast := lastIntent_snoc env s actions a
  rcases isNew_cases h.frozen a with ⟨hnew, happlies⟩ | ⟨hold, hsame⟩
  · rw [← hrun] at happlies
    refine ⟨happlies.frozen, happlies.cancelsUnpaid h.unpaid, ?_, ?_⟩
    all_goals
      generalize run env s (actions ++ [a]) = t at happlies hrun
    · -- the intent that is recorded is the last one begun, trimmed
      cases happlies with
      | @command c op m _ _ hchanges hfrozen =>
          rw [hfrozen.recorded.intentId, hlast]
          rcases hchanges.payment with ⟨hother, hintent, -⟩ | ⟨intentId, rfl, hintent, -⟩
          · rw [intentAfter_other hother, hintent, h.frozen.intentId_trim, h.intent]
          · rw [intentAfter_begin hnew, hintent]
      | @callback cb _ _ hfrozen =>
          have hintent := hfrozen.received.intentId
          rw [hintent, hlast]
          show (paymentAfter _ cb).intentId.map Js.trim = (lastIntent env s actions).map Js.trim
          rw [(paymentAfter_spec _ cb).1, h.frozen.intentId_trim, h.intent]
    · intro hp
      cases happlies with
      | @command c op m _ _ hchanges hfrozen =>
          rw [hfrozen.recorded.payment] at hp
          rcases hchanges.payment with ⟨hother, -, hpaid⟩ | ⟨intentId, -, -, hpending⟩
          · obtain ⟨cb, intentId, hby⟩ := h.paid (hpaid hp)
            exact ⟨cb, intentId, hby.snoc (hlast.trans (intentAfter_other hother))⟩
          · exact absurd (hpending.symm.trans hp) nofun
      | @callback cb _ _ hfrozen =>
          have hpayment := hfrozen.received.payment
          rw [hpayment] at hp
          rcases (paymentAfter_spec _ cb).2 hp with hpaid | hcheckout
          · obtain ⟨cb', intentId, hby⟩ := h.paid hpaid
            exact ⟨cb', intentId, hby.snoc hlast⟩
          · obtain ⟨id, intentId, reference, at', rfl, hmatch, haccepts⟩ := hcheckout
            have hopen := not_cancelling_of_accepts haccepts
            refine ⟨_, intentId, ⟨id, reference, at', rfl⟩, ⟨actions, [], rfl, hnew, hopen, ?_⟩, ?_⟩
            · exact hlast.symm
            · rw [hlast]
              show (lastIntent env s actions).map Js.trim = some intentId
              rw [← h.intent, hmatch]
  · -- nothing changed, and no payment was begun
    have hintent : lastIntent env s (actions ++ [a]) = lastIntent env s actions := by
      rw [hlast]
      unfold intentAfter
      split
      · rw [hold, if_neg nofun]
      · rfl
    rw [hsame] at hrun
    refine ⟨by rw [hrun]; exact h.frozen, by rw [hrun]; exact h.unpaid, ?_, ?_⟩
    · rw [hrun, hintent]
      exact h.intent
    · rw [hrun]
      intro hp
      obtain ⟨cb, intentId, hby⟩ := h.paid hp
      exact ⟨cb, intentId, hby.snoc hintent⟩

theorem paymentHistory_run {request : BookingRequest} (h : createBooking env request = .ok s)
    (actions : List Action) : PaymentHistory env s actions := by
  induction actions using List.reverseRecOn with
  | nil =>
      obtain ⟨quote, bookingInput, slotHold, hfrozen, hkeeps⟩ := createBooking_spec h
      refine ⟨hfrozen, ?_, hkeeps.intentId, ?_⟩
      · rintro (hc | hc) <;> exact absurd (hkeeps.lifecycle.symm.trans hc) nofun
      · intro hp
        exact absurd (hkeeps.payment.symm.trans hp) nofun
  | append_singleton actions a ih => exact paymentHistory_snoc ih a

/-- What is cancelled stays cancelled for the rest of a run. -/
theorem run_cancelled {request : BookingRequest} (h : createBooking env request = .ok s)
    {before : List Action} (hc : (run env s before).lifecycle = .cancelled) (more : List Action) :
    (run env s (before ++ more)).lifecycle = .cancelled := by
  induction more using List.reverseRecOn with
  | nil => rwa [List.append_nil]
  | append_singleton more a ih =>
      have hist := paymentHistory_run h (before ++ more)
      rw [← List.append_assoc, run_snoc]
      rcases next_cases hist.frozen a with hsame | happlies
      · rw [hsame]
        exact ih
      · rcases happlies.cancelling hist.unpaid (.inr ih) with hkept | ⟨hopen, -⟩
        · exact hkept.trans ih
        · exact absurd (ih.symm.trans hopen) nofun

/-! ## The theorems -/

/-- What holds after the actions of a run. -/
structure PaymentTruth (env : Env) (s : BookingState) (actions : List Action) : Prop where
  /-- A paid booking was paid by a checkout for the intent its last
  `beginPayment` recorded, before any cancellation. -/
  paid : (run env s actions).payment.state = .paid →
    ∃ cb intentId, PaidBy env s actions cb intentId
  /-- A cancellation is left to `cancelled` only. -/
  pending : (run env s actions).lifecycle = .cancel_pending → ∀ a,
    (next env (run env s actions) a).lifecycle = .cancel_pending ∨
      (next env (run env s actions) a).lifecycle = .cancelled
  /-- `cancelled` is never left. -/
  cancelled : (run env s actions).lifecycle = .cancelled → ∀ more,
    (run env s (actions ++ more)).lifecycle = .cancelled

/-- **Payment truth**, for every run of a booking. -/
theorem payment_truth (env : Env) (request : BookingRequest) (s : BookingState)
    (h : createBooking env request = .ok s) (actions : List Action) :
    PaymentTruth env s actions where
  paid := (paymentHistory_run h actions).paid
  pending hpending a := by
    have hist := paymentHistory_run h actions
    rcases next_cases hist.frozen a with hsame | happlies
    · exact .inl (by rw [hsame]; exact hpending)
    · rcases happlies.cancelling hist.unpaid (.inl hpending) with hkept | ⟨-, hdone⟩
      · exact .inl (hkept.trans hpending)
      · exact .inr hdone
  cancelled hcancelled more := run_cancelled h hcancelled more

namespace Sample

/-- A command of the sample that expects the revision `n`. -/
def command (key : String) (n : Nat) : CommandMetadata where
  idempotencyKey := key
  expectedRevision := n

def begin (intentId : String) : Action := .command (command "key-1" 0) (.beginPayment intentId)

/-- The payment once it has begun for the intent of the sample. -/
def pending : PaymentProjection where
  state := .pending
  attempt := 1
  intentId := some "intent-1"
  providerReference := none
  failureCode := none
  terminal := false

/-- The booking once payment has begun, for an intent as its caller sent it. -/
def begun (intentId : String) : BookingState :=
  afterCommand created { created with payment := pending }
    ((Operation.beginPayment intentId).receipt host (command "key-1" 0))

theorem perform_begin (h : Js.trim intentId = "intent-1") (htext : isText 300 intentId = true) :
    perform host created (begin intentId) =
      .ok { state := begun intentId, replayed := false } := by
  refine perform_of frozen_created ⟨⟨rfl, rfl⟩, by decide, receiptText (by decide)⟩
    (.beginPayment (by decide)) (frozen_created.withPayment ?_)
  unfold PaymentProjection.parse
  simp only [Option.map_some, h, optional, textField, htext]
  rfl

theorem frozen_begun (h : Js.trim intentId = "intent-1") (htext : isText 300 intentId = true) :
    Frozen host (begun intentId) (begun intentId) :=
  frozen_of_perform frozen_created (perform_begin h htext)

/-- The payment once the checkout of the sample was received. -/
def settled : PaymentProjection :=
  { pending with state := .paid, providerReference := some "pi-1" }

theorem perform_paid (h : Js.trim intentId = "intent-1") (htext : isText 300 intentId = true) :
    perform host (begun intentId) (.callback paid) =
      .ok { state := afterCallback host (begun intentId) paid settled, replayed := false } :=
  perform_callback (frozen_begun h htext) (show 0 + 1 + 1 ≤ 2 ^ 53 - 1 by decide) rfl rfl
    (receiptText (by decide))

/-- The run of the sample: a payment begins and its checkout arrives. -/
def payment (intentId : String) : List Action := [begin intentId, .callback paid]

theorem run_payment (h : Js.trim intentId = "intent-1") (htext : isText 300 intentId = true) :
    run host created (payment intentId) = afterCallback host (begun intentId) paid settled := by
  rw [payment, run_cons, next_of (perform_begin h htext), run_single, next_of (perform_paid h htext)]

theorem lastIntent_payment (h : Js.trim intentId = "intent-1")
    (htext : isText 300 intentId = true) :
    lastIntent host created (payment intentId) = some intentId := by
  rw [payment, lastIntent_callback, begin]
  exact intentAfter_begin (isNew_of (perform_begin h htext))

/-- A checkout that carries the intent exactly as the last `beginPayment` sent
it is among the actions. -/
def PaidAsSent (env : Env) (s : BookingState) (actions : List Action) : Prop :=
  ∃ id intentId reference at' before after,
    actions = before ++ .callback (.checkout_succeeded id intentId reference at') :: after ∧
      lastIntent env s actions = some intentId

/-- An intent that was sent with white space around it is paid by the checkout
for the trimmed one. -/
theorem paid_by_trimmed_intent :
    createBooking host request = .ok created ∧
      (run host created (payment " intent-1 ")).payment.state = .paid ∧
      ¬ PaidAsSent host created (payment " intent-1 ") := by
  have hrun := run_payment (show Js.trim " intent-1 " = _ by decide) (by decide)
  have hlast := lastIntent_payment (show Js.trim " intent-1 " = _ by decide) (by decide)
  refine ⟨createBooking_request, by rw [hrun]; rfl, ?_⟩
  rintro ⟨id, intentId, reference, at', before, after, hsplit, hintent⟩
  have hmem : Action.callback (.checkout_succeeded id intentId reference at') ∈
      payment " intent-1 " := by
    rw [hsplit]
    exact List.mem_append_right before List.mem_cons_self
  have hsame := Option.some.inj (hlast.symm.trans hintent)
  rcases List.mem_cons.mp hmem with hbegin | hpaid
  · cases hbegin
  · cases List.mem_singleton.mp hpaid
    exact absurd hsame (by decide)

theorem payment_truth_payment :
    PaymentTruth host created (payment "intent-1") ∧
      (run host created (payment "intent-1")).payment.state = .paid := by
  have hrun := run_payment (show Js.trim "intent-1" = _ by decide) (by decide)
  exact ⟨payment_truth host request created createBooking_request _, by rw [hrun]; rfl⟩

end Sample

end InspectionHub.Booking
