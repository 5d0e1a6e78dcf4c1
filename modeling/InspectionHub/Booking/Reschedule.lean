import InspectionHub.Booking.Cancelled

/-!
# Reschedules

A pending reschedule waits for `completeReschedule` or a cancellation. An
activation ends it too, when the booking is ready again in the meantime, and
leaves a confirmed booking with the record of a reschedule.
-/

namespace InspectionHub.Booking

variable {env : Env} {s s' m : BookingState}

/-- The operations that may end a pending reschedule. -/
def EndsReschedule : Action → Prop
  | .command _ (.completeReschedule _ _) | .command _ (.requestCancellation _)
  | .command _ (.completeCancellation _ _ _) => True
  | _ => False

/-- A command that `s` admits activates the booking, which is ready. -/
def Activates (env : Env) (s : BookingState) : Action → Prop
  | .command c (.activateBooking activatedAt) =>
      Admits env s c (.activateBooking activatedAt) ∧ (deriveReadiness s).ready = true
  | _ => False

/-- The record of a reschedule goes with the lifecycle. -/
structure Consistent (s : BookingState) : Prop where
  draft : s.lifecycle = .draft → s.reschedule = none
  confirmed : s.lifecycle = .confirmed → s.reschedule = none
  pending : s.lifecycle = .reschedule_pending → s.reschedule ≠ none

theorem Consistent.of_keeps (h : Consistent m) (k : Keeps m s') : Consistent s' where
  draft hl := k.reschedule.mpr (h.draft (k.lifecycle.symm.trans hl))
  confirmed hl := k.reschedule.mpr (h.confirmed (k.lifecycle.symm.trans hl))
  pending hl hnone := h.pending (k.lifecycle.symm.trans hl) (k.reschedule.mp hnone)

/-! ## One step -/

/-- No command breaks the record, except an activation of a pending
reschedule. -/
theorem Changes.consistent {op : Operation} (h : Changes env op s m) (hs : Consistent s)
    (hunpaid : CancelsUnpaid s)
    (hop : (∃ activatedAt, op = .activateBooking activatedAt) →
      s.lifecycle ≠ .reschedule_pending) : Consistent m := by
  cases h with
  | confirmBookingSlot | applySignedAgreement | beginPayment | observeCalendarReservation
  | issueAccessRequest | confirmAccess | overrideAccess | scheduleReminder | rescheduleFailed
  | rescheduleUnknown => exact ⟨hs.1, hs.2, hs.3⟩
  | requestReschedule => exact ⟨nofun, nofun, fun _ => nofun⟩
  | rescheduled => exact ⟨nofun, fun _ => rfl, nofun⟩
  | requestCancellation => exact ⟨nofun, nofun, nofun⟩
  | completeCancellation => exact ⟨nofun, nofun, nofun⟩
  | @activateBooking _ activatedAt hready =>
      refine ⟨nofun, fun _ => ?_, nofun⟩
      show s.reschedule = none
      -- a cancellation is not paid, so it is not ready
      simp only [deriveReadiness, Bool.and_eq_true, decide_eq_true_eq] at hready
      have hpaid := hready.1.1.2
      cases hl : s.lifecycle with
      | draft => exact hs.draft hl
      | confirmed => exact hs.confirmed hl
      | reschedule_pending => exact absurd hl (hop ⟨activatedAt, rfl⟩)
      | cancel_pending => exact absurd hpaid (hunpaid (.inl hl))
      | cancelled => exact absurd hpaid (hunpaid (.inr hl))

/-- Nothing but an operation that may end a reschedule, or an activation,
touches a pending one. -/
theorem Changes.keepsPending {c : CommandMetadata} {op : Operation} (h : Changes env op s m)
    (hs : s.lifecycle = .reschedule_pending) (hop : ¬ EndsReschedule (.command c op))
    (hactivate : ∀ activatedAt, op ≠ .activateBooking activatedAt) :
    m.lifecycle = s.lifecycle ∧ m.reschedule = s.reschedule := by
  cases h with
  | rescheduleFailed | rescheduleUnknown | rescheduled | requestCancellation
  | completeCancellation => exact (hop trivial).elim
  | activateBooking => exact absurd rfl (hactivate _)
  | requestReschedule hconfirmed => exact absurd (hs.symm.trans hconfirmed) nofun
  | _ => exact ⟨rfl, rfl⟩

/-- The record of a parsed state parses to itself. -/
theorem reschedule_kept {v : BookingState} (hs : Frozen env s s) (h : Frozen env v s')
    (hv : v.reschedule = s.reschedule) : s'.reschedule = s.reschedule := by
  have hparse := h.reschedule
  rw [hv, hs.reschedule] at hparse
  exact (Except.ok.inj hparse).symm

variable {a : Action}

theorem Applies.consistent (h : Applies env s a s') (hs : Frozen env s s) (hc : Consistent s)
    (hunpaid : CancelsUnpaid s) (hok : s.lifecycle = .reschedule_pending → ¬ Activates env s a) :
    Consistent s' := by
  cases h with
  | @callback cb _ _ hfrozen =>
      have hsame : Consistent { s with payment := paymentAfter s cb } := ⟨hc.1, hc.2, hc.3⟩
      exact hsame.of_keeps hfrozen.received
  | @command c op m _ hunseen hchanges hfrozen =>
      refine (hchanges.consistent hc hunpaid ?_).of_keeps hfrozen.recorded
      rintro ⟨activatedAt, rfl⟩ hpending
      cases hchanges with
      | activateBooking hready =>
          exact hok hpending ⟨recorded_admits hs hunseen hfrozen, hready⟩

theorem Applies.keepsPending (h : Applies env s a s') (hs : Frozen env s s)
    (hpending : s.lifecycle = .reschedule_pending) (ha : ¬ EndsReschedule a)
    (hok : ¬ Activates env s a) :
    s'.lifecycle = .reschedule_pending ∧ s'.reschedule = s.reschedule := by
  cases h with
  | callback _ hfrozen =>
      exact ⟨hfrozen.received.lifecycle.trans hpending, reschedule_kept hs hfrozen rfl⟩
  | @command c op m _ hunseen hchanges hfrozen =>
      have hactivate : ∀ activatedAt, op ≠ .activateBooking activatedAt := by
        rintro activatedAt rfl
        cases hchanges with
        | activateBooking hready => exact hok ⟨recorded_admits hs hunseen hfrozen, hready⟩
      obtain ⟨hlifecycle, hreschedule⟩ := hchanges.keepsPending hpending ha hactivate
      refine ⟨hfrozen.recorded.lifecycle.trans (hlifecycle.trans hpending), ?_⟩
      exact reschedule_kept hs hfrozen hreschedule

/-- An activation that is admitted confirms the booking. -/
theorem Activates.next (hs : Frozen env s s) (h : Activates env s a) :
    (next env s a).lifecycle = .confirmed := by
  cases a with
  | callback cb => exact h.elim
  | command c op =>
      cases op with
      | activateBooking activatedAt =>
          have hperform := perform_of hs h.1 (.activateBooking h.2) (hs.withLifecycle .confirmed)
          rw [next_of hperform]
          rfl
      | _ => exact h.elim

/-! ## The theorem -/

/-- No reschedule is lost in the run. -/
structure ReschedulesKept (env : Env) (s : BookingState) (actions : List Action) : Prop where
  /-- A confirmed booking has no record of one. -/
  confirmed : ∀ before after, actions = before ++ after →
    (run env s before).lifecycle = .confirmed → (run env s before).reschedule = none
  /-- A pending one, with its record, stays for every other action. -/
  pending : ∀ before a after, actions = before ++ a :: after →
    (run env s before).lifecycle = .reschedule_pending → ¬ EndsReschedule a →
    (run env s (before ++ [a])).lifecycle = .reschedule_pending ∧
      (run env s (before ++ [a])).reschedule = (run env s before).reschedule

/-- What the record of a run looks like while no pending reschedule is
activated. -/
theorem consistent_run {request : BookingRequest} (h : createBooking env request = .ok s)
    {actions : List Action}
    (hnone : ∀ before a after, actions = before ++ a :: after →
      (run env s before).lifecycle = .reschedule_pending → ¬ Activates env (run env s before) a)
    (before after : List Action) (hsplit : actions = before ++ after) :
    Consistent (run env s before) := by
  induction before using List.reverseRecOn generalizing after with
  | nil =>
      obtain ⟨quote, bookingInput, slotHold, -, hkeeps⟩ := createBooking_spec h
      have hnew : Consistent (newBooking request quote bookingInput slotHold) :=
        ⟨fun _ => rfl, nofun, nofun⟩
      exact hnew.of_keeps hkeeps
  | append_singleton before a ih =>
      rw [List.append_assoc] at hsplit
      have hbefore := ih (a :: after) hsplit
      have hist := paymentHistory_run h before
      rw [run_snoc]
      rcases next_cases hist.frozen a with hsame | happlies
      · rw [hsame]
        exact hbefore
      · exact happlies.consistent hist.frozen hbefore hist.unpaid (hnone before a after hsplit)

/-- **No reschedule is lost** in a run exactly when no pending one is
activated. -/
theorem reschedules_kept_iff (env : Env) (request : BookingRequest) (s : BookingState)
    (h : createBooking env request = .ok s) (actions : List Action) :
    ReschedulesKept env s actions ↔
      ∀ before a after, actions = before ++ a :: after →
        (run env s before).lifecycle = .reschedule_pending →
        ¬ Activates env (run env s before) a := by
  constructor
  · intro hkept before a after hsplit hpending hactivates
    have hends : ¬ EndsReschedule a := by
      intro hends
      cases a with
      | callback cb => exact hends
      | command c op => cases op <;> first | exact hactivates | exact hends
    have hstill := (hkept.pending before a after hsplit hpending hends).1
    rw [run_snoc, hactivates.next (paymentHistory_run h before).frozen] at hstill
    cases hstill
  · intro hnone
    refine ⟨fun before after hsplit hl => ?_, fun before a after hsplit hpending ha => ?_⟩
    · exact (consistent_run h hnone before after hsplit).confirmed hl
    · have hfrozen := (paymentHistory_run h before).frozen
      rw [run_snoc]
      rcases next_cases hfrozen a with hsame | happlies
      · rw [hsame]
        exact ⟨hpending, rfl⟩
      · exact happlies.keepsPending hfrozen hpending ha (hnone before a after hsplit hpending)

namespace Sample

/-- The slot of a confirmed booking is to be moved. -/
def moving : BookingState :=
  after active
    { active with
      lifecycle := .reschedule_pending
      calendar := { active.calendar with state := .pending }
      reschedule := some
        { candidateSlot := candidate, previousCalendarEventReference := some "event-1" } }
    "key-7" (.requestReschedule candidate now)

theorem perform_moving :
    perform host active (.command (command "key-7" 7) (.requestReschedule candidate now)) =
      .ok { state := moving, replayed := false } := by
  have hlifecycle := frozen_active.withLifecycle .reschedule_pending
  have hcalendar := hlifecycle.withCalendar (c := { active.calendar with state := .pending }) rfl
  exact perform_command frozen_active rfl (by decide) (by decide)
    (.requestReschedule rfl rfl rfl rfl (by decide))
    (hcalendar.withReschedule (r := some
      { candidateSlot := candidate, previousCalendarEventReference := some "event-1" }) rfl)

theorem frozen_moving : Frozen host moving moving := frozen_of_perform frozen_active perform_moving

/-- The calendar has an entry again. -/
def rebooked : BookingState :=
  after moving { moving with calendar := entry "event-2" } "key-8"
    (.observeCalendarReservation (accepted "event-2"))

theorem perform_rebooked :
    perform host moving
        (.command (command "key-8" 8) (.observeCalendarReservation (accepted "event-2"))) =
      .ok { state := rebooked, replayed := false } :=
  perform_command frozen_moving rfl (by decide) (by decide) .observeCalendarReservation
    (frozen_moving.withCalendar rfl)

theorem frozen_rebooked : Frozen host rebooked rebooked :=
  frozen_of_perform frozen_moving perform_rebooked

/-- The actions that reschedule the booking of the sample. -/
def move : List Action :=
  confirming ++
    [.command (command "key-7" 7) (.requestReschedule candidate now),
      .command (command "key-8" 8) (.observeCalendarReservation (accepted "event-2"))]

theorem run_move : run host created move = rebooked := by
  rw [move, run_append, run_confirming, run_cons, next_of perform_moving, run_single,
    next_of perform_rebooked]

/-- The booking is activated once more. -/
def reactivate : Action := .command (command "key-9" 9) (.activateBooking now)

def reactivated : BookingState :=
  after rebooked { rebooked with lifecycle := .confirmed } "key-9" (.activateBooking now)

theorem perform_reactivated :
    perform host rebooked reactivate = .ok { state := reactivated, replayed := false } :=
  perform_command frozen_rebooked rfl (by decide) (by decide) (.activateBooking rfl)
    (frozen_rebooked.withLifecycle .confirmed)

/-- A booking is confirmed with the record of a reschedule that was neither
completed nor cancelled. -/
theorem reschedule_lost :
    createBooking host request = .ok created ∧
      (run host created move).lifecycle = .reschedule_pending ∧
      (run host created (move ++ [reactivate])).lifecycle = .confirmed ∧
      (run host created (move ++ [reactivate])).reschedule ≠ none ∧
      ¬ ReschedulesKept host created (move ++ [reactivate]) := by
  have hrun : run host created (move ++ [reactivate]) = reactivated := by
    rw [run_append, run_move, run_single, next_of perform_reactivated]
  refine ⟨createBooking_request, by rw [run_move]; rfl, by rw [hrun]; rfl,
    by rw [hrun]; exact nofun, fun h => ?_⟩
  have hnone := h.confirmed (move ++ [reactivate]) [] (List.append_nil _).symm (by rw [hrun]; rfl)
  rw [hrun] at hnone
  cases hnone

/-- The booking with a payment under way loses nothing. -/
theorem begun_keeps : ReschedulesKept host created [begin "intent-1"] := by
  refine (reschedules_kept_iff host request created createBooking_request _).mpr ?_
  intro before a after hsplit _
  have hmem : a ∈ [begin "intent-1"] := by
    rw [hsplit]
    exact List.mem_append_right before List.mem_cons_self
  rw [List.mem_singleton.mp hmem]
  exact id

end Sample

end InspectionHub.Booking
