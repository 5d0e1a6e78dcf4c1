import InspectionHub.Booking.Payment

/-!
# Refunds

A refunded payment is final for every callback but one: a failed refund that is
new to the booking is recorded over it.
-/

namespace InspectionHub.Booking

variable {env : Env} {s s' : BookingState}

/-- A callback that is new to `s` reports a failed refund, in texts the schema
takes. -/
def ReportsFailure (env : Env) (s : BookingState) : PaymentCallback → Prop
  | .refund_failed id reference reason retryable at' =>
      AdmitsCallback env s (.refund_failed id reference reason retryable at') ∧
        isText 300 reference = true ∧ isText 300 reason = true
  | _ => False

/-- Every callback but a failed refund keeps a refund. -/
theorem paymentAfter_refunded (h : s.payment.state = .refunded) (cb : PaymentCallback) :
    (paymentAfter s cb).state = .refunded ∨ ∃ id reference reason retryable at',
      cb = .refund_failed id reference reason retryable at' := by
  have hclosed : acceptsCheckout s = false := by simp [acceptsCheckout, h]
  cases cb with
  | checkout_succeeded id intentId reference at' =>
      simp only [paymentAfter, hclosed, Bool.false_eq_true, if_false, ite_self]
      exact .inl h
  | checkout_declined id intentId reference reason at' =>
      have hrefused : ¬ (some intentId = s.payment.intentId ∧ s.payment.state ∉
          [PaymentState.paid, .refund_pending, .refunded, .refund_failed]) := by simp [h]
      dsimp only [paymentAfter]
      rw [if_neg hrefused]
      exact .inl h
  | refund_succeeded id reference at' => exact .inl rfl
  | refund_failed id reference reason retryable at' => exact .inr ⟨_, _, _, _, _, rfl⟩

/-- The payment a failed refund leaves. -/
def refundFailure (p : PaymentProjection) (reference reason : String) (terminal : Bool) :
    PaymentProjection :=
  { p with
    state := .refund_failed
    providerReference := some reference
    failureCode := some reason
    terminal }

/-- It parses exactly when its new texts do. -/
theorem parse_refundFailure {p : PaymentProjection} (hp : p.parse = .ok p)
    (reference reason : String) (terminal : Bool) :
    (∃ q, (refundFailure p reference reason terminal).parse = .ok q) ↔
      isText 300 reference = true ∧ isText 300 reason = true := by
  obtain ⟨-, hissues⟩ := Domain.accept_ok hp
  simp only [List.append_eq_nil_iff] at hissues
  constructor
  · rintro ⟨q, hq⟩
    obtain ⟨-, htexts⟩ := Domain.accept_ok hq
    simp only [refundFailure, optional, textField, List.append_eq_nil_iff] at htexts
    exact ⟨Domain.failing_eq_nil htexts.1.2, Domain.failing_eq_nil htexts.2⟩
  · rintro ⟨hreference, hreason⟩
    refine ⟨refundFailure { p with intentId := p.intentId.map Js.trim } (Js.trim reference)
      (Js.trim reason) terminal, ?_⟩
    unfold PaymentProjection.parse refundFailure
    dsimp only
    rw [hissues.1.1.1, hissues.1.1.2]
    simp only [optional, textField, hreference, hreason]
    rfl

/-- **One callback.** It keeps a refund unless it reports a failure. -/
theorem refunded_next_iff (hs : Frozen env s s) (h : s.payment.state = .refunded)
    (cb : PaymentCallback) :
    (next env s (.callback cb)).payment.state = .refunded ↔ ¬ ReportsFailure env s cb := by
  constructor
  · intro hkept hreports
    cases cb with
    | checkout_succeeded | checkout_declined | refund_succeeded => exact hreports
    | refund_failed id reference reason retryable at' =>
        obtain ⟨hadmits, hreference, hreason⟩ := hreports
        obtain ⟨p, hp⟩ :=
          (parse_refundFailure hs.payment reference reason !retryable).mpr ⟨hreference, hreason⟩
        have hperform := perform_callback hs hadmits.safe hadmits.unseen hp hadmits.receipt
        rw [next_of hperform] at hkept
        have hfailed : p.state = .refund_failed := by rw [parse_payment_eq hp]; rfl
        exact absurd (hfailed.symm.trans hkept) nofun
  · intro hreports
    rcases next_cases hs (.callback cb) with hsame | happlies
    · rw [hsame]
      exact h
    · generalize next env s (.callback cb) = t at happlies
      cases happlies with
      | callback hunseen hfrozen =>
          rw [hfrozen.received.payment]
          rcases paymentAfter_refunded h cb with hkept | ⟨id, reference, reason, retryable, at', rfl⟩
          · exact hkept
          · -- it was accepted, so its texts are in order
            have hp : (refundFailure s.payment reference reason !retryable).parse = .ok t.payment :=
              hfrozen.payment
            have htexts := (parse_refundFailure hs.payment reference reason !retryable).mp ⟨_, hp⟩
            exact absurd ⟨received_admits hs hunseen hfrozen, htexts⟩ hreports

/-- Every callback of the run that finds the payment refunded leaves it so. -/
def RefundFinal (env : Env) (s : BookingState) (actions : List Action) : Prop :=
  ∀ before cb after, actions = before ++ .callback cb :: after →
    (run env s before).payment.state = .refunded →
    (run env s (before ++ [.callback cb])).payment.state = .refunded

/-- **A refund is final** in a run exactly when no failed refund is reported
while the payment is refunded. -/
theorem refund_final_iff (env : Env) (request : BookingRequest) (s : BookingState)
    (h : createBooking env request = .ok s) (actions : List Action) :
    RefundFinal env s actions ↔
      ∀ before cb after, actions = before ++ .callback cb :: after →
        (run env s before).payment.state = .refunded → ¬ ReportsFailure env (run env s before) cb := by
  have hstep : ∀ before cb, (run env s before).payment.state = .refunded →
      ((run env s (before ++ [.callback cb])).payment.state = .refunded ↔
        ¬ ReportsFailure env (run env s before) cb) := by
    intro before cb hrefunded
    rw [run_snoc]
    exact refunded_next_iff (paymentHistory_run h before).frozen hrefunded cb
  constructor
  · intro hfinal before cb after hsplit hrefunded
    exact (hstep before cb hrefunded).mp (hfinal before cb after hsplit hrefunded)
  · intro hnone before cb after hsplit hrefunded
    exact (hstep before cb hrefunded).mpr (hnone before cb after hsplit hrefunded)

namespace Sample

/-- A failed refund is reported after the refund of the sample. -/
def refundReversed : List Action := [.callback (refunded "evt-1"), .callback refundFailed]

/-- The booking after its refund. -/
def refundedOnce : BookingState := afterCallback host created (refunded "evt-1") refundedPayment

theorem frozen_refundedOnce : Frozen host refundedOnce refundedOnce :=
  frozen_of_perform frozen_created (perform_refunded "evt-1" (by decide))

theorem next_refunded : next host created (.callback (refunded "evt-1")) = refundedOnce :=
  next_of (perform_refunded "evt-1" (by decide))

theorem reports_refundFailed : ReportsFailure host refundedOnce refundFailed :=
  ⟨⟨rfl, (show 0 + 1 + 1 ≤ 2 ^ 53 - 1 by decide), receiptText (by decide)⟩, by decide, by decide⟩

/-- A refund is undone by a failed refund that arrives after it. -/
theorem refund_reversed :
    createBooking host request = .ok created ∧
      (run host created [.callback (refunded "evt-1")]).payment.state = .refunded ∧
      (run host created refundReversed).payment.state ≠ .refunded ∧
      ¬ RefundFinal host created refundReversed := by
  have hkept := refunded_next_iff frozen_refundedOnce rfl refundFailed
  have hlost : (next host refundedOnce (.callback refundFailed)).payment.state ≠ .refunded :=
    fun h => hkept.mp h reports_refundFailed
  refine ⟨createBooking_request, by rw [run_single, next_refunded]; rfl, ?_, fun h => hlost ?_⟩
  · rw [refundReversed, run_cons, next_refunded, run_single]
    exact hlost
  · have hagain := h [.callback (refunded "evt-1")] refundFailed [] rfl
      (by rw [run_single, next_refunded]; rfl)
    rwa [run_snoc, run_single, next_refunded] at hagain

/-- A refund that is not reported as failed stays. -/
theorem refund_stays : RefundFinal host created [.callback (refunded "evt-1")] := by
  refine (refund_final_iff host request created createBooking_request _).mpr ?_
  intro before cb after hsplit hrefunded
  cases before with
  | nil => cases (List.cons.inj hsplit).1; exact nofun
  | cons a before => exact absurd (congrArg List.length hsplit) (by simp)

end Sample

end InspectionHub.Booking
