import InspectionHub.Booking.Reschedule

/-!
# Access links

A booking has one active link at most. A new one replaces it, and a completed
reschedule, a completed cancellation or an override ends it; what is confirmed
is the link of the last request. A reschedule whose observation is a failure
moves nothing and leaves the link as it is.
-/

namespace InspectionHub.Booking

variable {env : Env} {s s' m : BookingState}

/-! ## Current links -/

/-- The action is new to `s`, and applied. -/
def Accepted (env : Env) (s : BookingState) (a : Action) : Prop :=
  ∃ s', perform env s a = .ok { state := s', replayed := false }

/-- A later link, and what ends a link. -/
def EndsLink : Action → Prop
  | .command _ (.issueAccessRequest _ _) | .command _ (.overrideAccess _)
  | .command _ (.completeReschedule (.accepted _ _ _) _)
  | .command _ (.completeCancellation _ _ _) => True
  | _ => False

/-- As `EndsLink`, but for every completed reschedule. -/
def EndsLinkEver : Action → Prop
  | .command _ (.completeReschedule _ _) => True
  | a => EndsLink a

/-- The last request for access in the run is for the link, and no action that
ends a link was accepted since. -/
def CurrentLink (env : Env) (ends : Action → Prop) (s : BookingState) (actions : List Action)
    (linkId : String) : Prop :=
  ∃ before c tokenFingerprint after,
    actions = before ++ .command c (.issueAccessRequest linkId tokenFingerprint) :: after ∧
    Accepted env (run env s before) (.command c (.issueAccessRequest linkId tokenFingerprint)) ∧
    ∀ mid a rest, after = mid ++ a :: rest →
      Accepted env (run env s
        (before ++ .command c (.issueAccessRequest linkId tokenFingerprint) :: mid)) a → ¬ ends a

/-! ## One step -/

variable {a : Action}

/-- Either the action requests access for the link that is now active; or the
link that is active was before, and the action does not end it; or none waits to
be confirmed. -/
theorem Applies.access (h : Applies env s a s') :
    (∃ c linkId tokenFingerprint, a = .command c (.issueAccessRequest linkId tokenFingerprint) ∧
      s'.access.activeLinkId = some linkId) ∨
    (¬ EndsLink a ∧ s'.access.state = s.access.state ∧
      s'.access.activeLinkId = s.access.activeLinkId) ∨
    s'.access.state ≠ .confirmation_pending := by
  cases h with
  | callback _ hfrozen =>
      have hkeeps := hfrozen.received
      exact .inr (.inl ⟨id, hkeeps.access, hkeeps.activeLinkId⟩)
  | @command c op m _ _ hchanges hfrozen =>
      have hkeeps := hfrozen.recorded
      rw [hkeeps.access, hkeeps.activeLinkId]
      cases hchanges with
      | issueAccessRequest => exact .inl ⟨c, _, _, rfl, rfl⟩
      | confirmAccess | overrideAccess | rescheduled | completeCancellation =>
          exact .inr (.inr nofun)
      | _ => exact .inr (.inl ⟨id, rfl, rfl⟩)

/-- A confirmed link was the active one, and waited. -/
theorem confirmAccess_applies {c : CommandMetadata} {linkId confirmedAt : String}
    (h : Applies env s (.command c (.confirmAccess linkId confirmedAt)) s') :
    s.access.state = .confirmation_pending ∧ s.access.activeLinkId = some linkId := by
  cases h with
  | command _ hchanges _ =>
      cases hchanges with
      | confirmAccess _ hstate hactive => exact ⟨hstate, hactive⟩

theorem Accepted.applies (hs : Frozen env s s) (h : Accepted env s a) :
    Applies env s a (next env s a) := by
  obtain ⟨s', hs'⟩ := h
  rcases perform_ok hs hs' with ⟨-, hreplayed, -⟩ | ⟨-, happlies⟩
  · cases hreplayed
  · rwa [next_of hs']

/-- A step that is not accepted changes nothing. -/
theorem next_of_not_accepted (hs : Frozen env s s) (h : ¬ Accepted env s a) : next env s a = s := by
  unfold next
  cases hperform : perform env s a with
  | error e => rfl
  | ok r =>
      rcases perform_ok hs hperform with ⟨hsame, -⟩ | ⟨hfresh, -⟩
      · exact hsame
      · refine absurd ⟨r.state, ?_⟩ h
        rw [hperform, ← hfresh]

/-! ## Runs -/

/-- What does not end the link keeps it current. -/
theorem CurrentLink.snoc {ends : Action → Prop} {actions : List Action} {linkId : String}
    (h : CurrentLink env ends s actions linkId)
    (ha : Accepted env (run env s actions) a → ¬ ends a) :
    CurrentLink env ends s (actions ++ [a]) linkId := by
  obtain ⟨before, c, tokenFingerprint, after, rfl, hissued, hsince⟩ := h
  refine ⟨before, c, tokenFingerprint, after ++ [a], ?_, hissued, fun mid b rest hsplit hb => ?_⟩
  · rw [List.append_assoc, List.cons_append]
  · rcases List.eq_nil_or_concat rest with rfl | ⟨rest, last, rfl⟩
    · obtain ⟨rfl, hlast⟩ := List.append_inj' hsplit rfl
      obtain rfl := (List.cons.inj hlast).1
      exact ha hb
    · rw [List.concat_eq_append, ← List.cons_append, ← List.append_assoc] at hsplit
      exact hsince mid b rest (List.append_inj' hsplit rfl).1 hb

/-- A run that ends in what ends the link. -/
theorem not_currentLink_snoc {ends : Action → Prop} {actions : List Action} {linkId : String}
    (ha : Accepted env (run env s actions) a) (hends : ends a)
    (hother : ∀ c tokenFingerprint, a ≠ .command c (.issueAccessRequest linkId tokenFingerprint)) :
    ¬ CurrentLink env ends s (actions ++ [a]) linkId := by
  rintro ⟨before, c, tokenFingerprint, after, hsplit, -, hsince⟩
  rcases List.eq_nil_or_concat after with rfl | ⟨after, last, rfl⟩
  · have hlast := (List.append_inj' hsplit rfl).2
    exact hother c tokenFingerprint (List.cons.inj hlast).1
  · rw [List.concat_eq_append, ← List.cons_append, ← List.append_assoc] at hsplit
    obtain ⟨hactions, hlast⟩ := List.append_inj' hsplit rfl
    obtain rfl := (List.cons.inj hlast).1
    rw [hactions] at ha
    exact hsince after a [] List.concat_eq_append ha hends

variable (env) in
/-- A link that waits to be confirmed is the current one. -/
theorem pending_link_current {request : BookingRequest} (h : createBooking env request = .ok s)
    (actions : List Action) {linkId : String}
    (hpending : (run env s actions).access.state = .confirmation_pending)
    (hactive : (run env s actions).access.activeLinkId = some linkId) :
    CurrentLink env EndsLink s actions linkId := by
  induction actions using List.reverseRecOn with
  | nil =>
      obtain ⟨quote, bookingInput, slotHold, -, hkeeps⟩ := createBooking_spec h
      have hnew : s.access.state = .not_requested := hkeeps.access
      cases hnew.symm.trans hpending
  | append_singleton actions a ih =>
      have hfrozen := (paymentHistory_run h actions).frozen
      rw [run_snoc] at hpending hactive
      by_cases haccepted : Accepted env (run env s actions) a
      · rcases (haccepted.applies hfrozen).access with
          ⟨c, issued, tokenFingerprint, rfl, hissued⟩ | ⟨hkeeps, hstate, hlink⟩ | hover
        · obtain rfl := Option.some_inj.mp (hissued.symm.trans hactive)
          refine ⟨actions, c, tokenFingerprint, [], rfl, haccepted, ?_⟩
          intro mid b rest hsplit
          exact absurd hsplit (by simp)
        · rw [hstate] at hpending
          rw [hlink] at hactive
          exact (ih hpending hactive).snoc fun _ => hkeeps
        · exact absurd hpending hover
      · rw [next_of_not_accepted hfrozen haccepted] at hpending hactive
        exact (ih hpending hactive).snoc fun h => absurd h haccepted

/-- Where another link was requested in between, the current one was requested
again. -/
theorem CurrentLink.reissued {actions before after : List Action} {linkId other : String}
    {c : CommandMetadata} {tokenFingerprint : String}
    (h : CurrentLink env EndsLink s actions linkId)
    (hsplit : actions = before ++ .command c (.issueAccessRequest other tokenFingerprint) :: after)
    (hother : other ≠ linkId)
    (hissued : Accepted env (run env s before)
      (.command c (.issueAccessRequest other tokenFingerprint))) :
    ∃ mid c' tokenFingerprint' rest,
      after = mid ++ .command c' (.issueAccessRequest linkId tokenFingerprint') :: rest ∧
      Accepted env (run env s
          (before ++ .command c (.issueAccessRequest other tokenFingerprint) :: mid))
        (.command c' (.issueAccessRequest linkId tokenFingerprint')) := by
  obtain ⟨before', c', tokenFingerprint', after', rfl, hissued', hsince⟩ := h
  rcases List.append_eq_append_iff.mp hsplit with ⟨mid, rfl, hrest⟩ | ⟨mid, rfl, hrest⟩
  · cases mid with
    | nil =>
        cases hrest
        exact absurd rfl hother
    | cons b mid =>
        -- the other request came later, and would have ended the link
        obtain ⟨rfl, htail⟩ := List.cons.inj hrest
        exact absurd trivial (hsince mid _ after htail hissued)
  · cases mid with
    | nil =>
        cases hrest
        exact absurd rfl hother
    | cons b mid =>
        obtain ⟨rfl, htail⟩ := List.cons.inj hrest
        exact ⟨mid, c', tokenFingerprint', after', htail, hissued'⟩

/-! ## The theorem -/

/-- **Links that are confirmed are current.** Whatever was done to the booking,
a confirmation that is applied names the link of the last request, and neither
an accepted reschedule nor a cancellation nor an override came since; so a link
that another replaced is confirmed only if it was requested again. -/
theorem confirmed_link_current (env : Env) (request : BookingRequest) (s : BookingState)
    (h : createBooking env request = .ok s) (actions : List Action) (c : CommandMetadata)
    (linkId confirmedAt : String)
    (hconfirm : Accepted env (run env s actions) (.command c (.confirmAccess linkId confirmedAt))) :
    CurrentLink env EndsLink s actions linkId ∧
    ∀ before c' other tokenFingerprint after,
      actions = before ++ .command c' (.issueAccessRequest other tokenFingerprint) :: after →
      other ≠ linkId →
      Accepted env (run env s before) (.command c' (.issueAccessRequest other tokenFingerprint)) →
      ∃ mid c'' tokenFingerprint' rest,
        after = mid ++ .command c'' (.issueAccessRequest linkId tokenFingerprint') :: rest ∧
        Accepted env (run env s
            (before ++ .command c' (.issueAccessRequest other tokenFingerprint) :: mid))
          (.command c'' (.issueAccessRequest linkId tokenFingerprint')) := by
  have hfrozen := (paymentHistory_run h actions).frozen
  obtain ⟨hpending, hactive⟩ := confirmAccess_applies (hconfirm.applies hfrozen)
  have hcurrent := pending_link_current env h actions hpending hactive
  exact ⟨hcurrent, fun before c' other tokenFingerprint after hsplit hother hissued =>
    hcurrent.reissued hsplit hother hissued⟩

namespace Sample

/-- The access of `s` once the link is requested. -/
def requested (s : BookingState) (link : String) : AccessProjection :=
  { s.access with
    state := .confirmation_pending
    activeLinkId := some link
    activeTokenFingerprint := some token
    confirmedAt := none
    overrideReason := none }

/-- The booking `s` with a request for access. -/
def asked (s : BookingState) (link key : String) : BookingState :=
  after s { s with access := requested s link } key (.issueAccessRequest link token)

def ask (s : BookingState) (link key : String) : Action :=
  .command (command key s.revision) (.issueAccessRequest link token)

theorem perform_asked {s : BookingState} {link key : String} (hs : Frozen host s s)
    (hunseen : priorReceipt s.commandReceipts key = none)
    (hsafe : s.revision + 1 ≤ 2 ^ 53 - 1) (hkey : isText 300 key = true)
    (hparses : (requested s link).parse host = .ok (requested s link)) :
    perform host s (ask s link key) = .ok { state := asked s link key, replayed := false } :=
  perform_command hs hunseen hsafe hkey .issueAccessRequest (hs.withAccess hparses)

/-- The booking `s` once its access is confirmed. -/
def granted (s : BookingState) (key link : String) : BookingState :=
  after s { s with access := { s.access with state := .confirmed, confirmedAt := some now } } key
    (.confirmAccess link now)

def grant (s : BookingState) (key link : String) : Action :=
  .command (command key s.revision) (.confirmAccess link now)

theorem perform_granted {s : BookingState} {key link : String} (hs : Frozen host s s)
    (hunseen : priorReceipt s.commandReceipts key = none)
    (hsafe : s.revision + 1 ≤ 2 ^ 53 - 1) (hkey : isText 300 key = true)
    (hfresh : link ∉ s.access.supersededLinkIds) (hpending : s.access.state = .confirmation_pending)
    (hactive : s.access.activeLinkId = some link)
    (hparses : AccessProjection.parse host
        { s.access with state := .confirmed, confirmedAt := some now } =
      .ok { s.access with state := .confirmed, confirmedAt := some now }) :
    perform host s (grant s key link) = .ok { state := granted s key link, replayed := false } :=
  perform_command hs hunseen hsafe hkey (.confirmAccess hfresh hpending hactive)
    (hs.withAccess hparses)

/-- A link is requested and confirmed, replaced, and requested once more. -/
def first : BookingState := asked created linkId "link-1"

def opened : BookingState := granted first "grant-1" linkId

def replaced : BookingState := asked opened newLinkId "link-2"

def again : BookingState := asked replaced linkId "link-3"

theorem perform_first : perform host created (ask created linkId "link-1") =
    .ok { state := first, replayed := false } :=
  perform_asked frozen_created rfl (by decide) (by decide) rfl

theorem frozen_first : Frozen host first first := frozen_of_perform frozen_created perform_first

theorem perform_opened : perform host first (grant first "grant-1" linkId) =
    .ok { state := opened, replayed := false } :=
  perform_granted frozen_first rfl (by decide) (by decide) (by decide) rfl rfl rfl

theorem frozen_opened : Frozen host opened opened := frozen_of_perform frozen_first perform_opened

theorem perform_replaced : perform host opened (ask opened newLinkId "link-2") =
    .ok { state := replaced, replayed := false } :=
  perform_asked frozen_opened rfl (by decide) (by decide) rfl

theorem frozen_replaced : Frozen host replaced replaced :=
  frozen_of_perform frozen_opened perform_replaced

theorem perform_again : perform host replaced (ask replaced linkId "link-3") =
    .ok { state := again, replayed := false } :=
  perform_asked frozen_replaced rfl (by decide) (by decide) rfl

theorem frozen_again : Frozen host again again := frozen_of_perform frozen_replaced perform_again

theorem perform_regranted : perform host again (grant again "grant-2" linkId) =
    .ok { state := granted again "grant-2" linkId, replayed := false } :=
  perform_granted frozen_again rfl (by decide) (by decide) (by decide) rfl rfl rfl

/-- The first confirmation is sent once more after the link was replaced. -/
theorem grant_replays : perform host replaced (grant first "grant-1" linkId) =
    .ok { state := replaced, replayed := true } :=
  perform_replays frozen_replaced ⟨_, rfl, rfl⟩

/-- The booking that is to be moved waits for access, and is not moved. -/
def waiting : BookingState := asked moving linkId "key-8"

theorem perform_waiting : perform host moving (ask moving linkId "key-8") =
    .ok { state := waiting, replayed := false } :=
  perform_asked frozen_moving rfl (by decide) (by decide) rfl

theorem frozen_waiting : Frozen host waiting waiting :=
  frozen_of_perform frozen_moving perform_waiting

def unmoved : BookingState :=
  after waiting
    { waiting with
      calendar := { waiting.calendar with
        state := .reservation_failed, failureCode := some "provider_error", retryable := true } }
    "key-9" (.completeReschedule (.failed "provider_error" true) now)

def failing : Action :=
  .command (command "key-9" 9) (.completeReschedule (.failed "provider_error" true) now)

theorem perform_unmoved : perform host waiting failing =
    .ok { state := unmoved, replayed := false } :=
  perform_command frozen_waiting rfl (by decide) (by decide) (.rescheduleFailed rfl rfl)
    (frozen_waiting.withCalendar rfl)

theorem frozen_unmoved : Frozen host unmoved unmoved :=
  frozen_of_perform frozen_waiting perform_unmoved

theorem perform_unmoved_granted : perform host unmoved (grant unmoved "key-10" linkId) =
    .ok { state := granted unmoved "key-10" linkId, replayed := false } :=
  perform_granted frozen_unmoved rfl (by decide) (by decide) (by decide) rfl rfl rfl

/-- The requests up to the one that replaces the link. -/
def replacing : List Action :=
  [ask created linkId "link-1", grant first "grant-1" linkId, ask opened newLinkId "link-2"]

/-- A reschedule that fails while the link waits. -/
def unmoving : List Action :=
  confirming ++ [.command (command "key-7" 7) (.requestReschedule candidate now),
    ask moving linkId "key-8"]

theorem run_replacing : run host created replacing = replaced := by
  rw [replacing, run_cons, next_of perform_first, run_cons, next_of perform_opened, run_single,
    next_of perform_replaced]

theorem run_again : run host created (replacing ++ [ask replaced linkId "link-3"]) = again := by
  rw [run_snoc, run_replacing, next_of perform_again]

theorem run_unmoving : run host created unmoving = waiting := by
  rw [unmoving, run_append, run_confirming, run_cons, next_of perform_moving, run_single,
    next_of perform_waiting]

/-- The link is confirmed after a completed reschedule that failed; a
confirmation is replayed after its link was replaced; and a replaced link that
is requested again is confirmed. -/
theorem link_confirmed_later :
    createBooking host request = .ok created ∧
      (Accepted host (run host created (unmoving ++ [failing])) (grant unmoved "key-10" linkId) ∧
        ¬ CurrentLink host EndsLinkEver created (unmoving ++ [failing]) linkId) ∧
      ((∃ r, perform host (run host created replacing) (grant first "grant-1" linkId) = .ok r) ∧
        ¬ CurrentLink host EndsLink created replacing linkId) ∧
      Accepted host opened (ask opened newLinkId "link-2") ∧
      Accepted host (run host created (replacing ++ [ask replaced linkId "link-3"]))
        (grant again "grant-2" linkId) := by
  refine ⟨createBooking_request, ⟨?_, ?_⟩, ⟨?_, ?_⟩, ⟨_, perform_replaced⟩, ?_⟩
  · rw [run_snoc, run_unmoving, next_of perform_unmoved]
    exact ⟨_, perform_unmoved_granted⟩
  · have hlast : Accepted host (run host created unmoving) failing := by
      rw [run_unmoving]
      exact ⟨_, perform_unmoved⟩
    refine not_currentLink_snoc hlast trivial ?_
    intro c tokenFingerprint h
    injection h with _ hoperation
    cases hoperation
  · rw [run_replacing]
    exact ⟨_, grant_replays⟩
  · have hlast : Accepted host (run host created
        [ask created linkId "link-1", grant first "grant-1" linkId])
        (ask opened newLinkId "link-2") := by
      rw [run_cons, next_of perform_first, run_single, next_of perform_opened]
      exact ⟨_, perform_replaced⟩
    refine not_currentLink_snoc hlast trivial ?_
    intro c tokenFingerprint h
    injection h with _ hoperation
    injection hoperation with hlink
    exact absurd hlink (by decide)
  · rw [run_again]
    exact ⟨_, perform_regranted⟩

/-- The link that is confirmed is the one requested. -/
theorem first_link_current :
    CurrentLink host EndsLink created [ask created linkId "link-1"] linkId := by
  have hrun : run host created [ask created linkId "link-1"] = first := by
    rw [run_single, next_of perform_first]
  refine (confirmed_link_current host request created createBooking_request _
    (command "grant-1" 1) linkId now ?_).1
  rw [hrun]
  exact ⟨_, perform_opened⟩

end Sample

end InspectionHub.Booking
