import InspectionHub.Booking.Steps
import InspectionHub.Lib.Digest

/-!
# Exactly once

An action that was accepted is on the receipts from then on, under its trimmed
key. Lookups compare with the key as it was sent, so the action is recognised
again exactly when its key has no surrounding white space.
-/

namespace InspectionHub.Booking

variable {env : Env} {s s' : BookingState}

/-- The key an action is recognised by. -/
def Action.key : Action → String
  | .command c _ => c.idempotencyKey
  | .callback cb => cb.providerEventId

/-- Two commands with one idempotency key, or two callbacks for one event. -/
def Action.SameKey : Action → Action → Prop
  | .command c _, .command c' _ => c.idempotencyKey = c'.idempotencyKey
  | .callback cb, .callback cb' => cb.providerEventId = cb'.providerEventId
  | _, _ => False

/-! ## Receipts after a step -/

/-- No command touches the receipts of the callbacks. -/
theorem Changes.callbacks {op : Operation} {m : BookingState} (h : Changes env op s m) :
    m.providerCallbackReceipts = s.providerCallbackReceipts := by
  cases h <;> rfl

variable {a : Action}

/-- The receipts a new action leaves. -/
theorem Applies.receipts (hs : Frozen env s s) (h : Applies env s a s') :
    ∃ commands callbacks, s'.commandReceipts = s.commandReceipts ++ commands ∧
      s'.providerCallbackReceipts = s.providerCallbackReceipts ++ callbacks := by
  cases h with
  | @command c op m _ _ hchanges hfrozen =>
      obtain ⟨r, -, hr⟩ := parseAll_snoc hs.commandReceipts hfrozen.commandReceipts
      have hcallbacks := hfrozen.providerCallbackReceipts
      have hsame : (recorded s m (op.receipt env c)).providerCallbackReceipts =
          s.providerCallbackReceipts := hchanges.callbacks
      refine ⟨[r], [], hr, ?_⟩
      rw [List.append_nil]
      refine (Except.ok.inj (hs.providerCallbackReceipts.symm.trans ?_)).symm
      rw [← hsame]
      exact hcallbacks
  | callback _ hfrozen =>
      obtain ⟨r, -, hr⟩ := parseAll_snoc hs.providerCallbackReceipts
        hfrozen.providerCallbackReceipts
      refine ⟨[], [r], ?_, hr⟩
      rw [List.append_nil]
      exact (Except.ok.inj (hs.commandReceipts.symm.trans hfrozen.commandReceipts)).symm

/-- What is recognised stays recognised. -/
theorem Replays.later {ok : BookingState → Action → Prop} (h : Replays env s a)
    (hs : Frozen env s s) (hl : (system env).Later ok s s') : Replays env s' a := by
  refine (Later.keeps (P := fun s => Replays env s a) ?_ hl hs h).2
  intro s b s' hs h _ happlies
  obtain ⟨commands, callbacks, hcommands, hcallbacks⟩ := happlies.receipts hs
  cases a with
  | command c op =>
      show Known s'.commandReceipts _
      rw [hcommands]
      exact Known.append h commands
  | callback cb =>
      obtain ⟨prior, hprior, hfp⟩ := h
      refine ⟨prior, ?_, hfp⟩
      have hfind : s.providerCallbackReceipts.find? (·.providerEventId = cb.providerEventId) =
          some prior := hprior
      rw [priorEvent, hcallbacks, List.find?_append, hfind, Option.some_or]

/-- A new action with a trimmed key is recognised at once. -/
theorem Applies.replays (hs : Frozen env s s) (h : Applies env s a s')
    (hkey : Js.trim a.key = a.key) : Replays env s' a := by
  cases h with
  | @command c op m _ hunseen _ hfrozen =>
      obtain ⟨r, hr, hreceipts⟩ := parseAll_snoc hs.commandReceipts hfrozen.commandReceipts
      obtain ⟨rfl, -⟩ := Domain.accept_ok hr
      have hkey : Js.trim c.idempotencyKey = c.idempotencyKey := hkey
      have hnone : s.commandReceipts.find? (·.idempotencyKey = c.idempotencyKey) = none :=
        hunseen.key
      refine ⟨op.receipt env c, ?_, rfl⟩
      rw [priorReceipt, hreceipts, List.find?_append]
      show ((s.commandReceipts.find? (·.idempotencyKey = c.idempotencyKey)).or _) = _
      rw [hnone, Option.none_or]
      simp only [Operation.receipt, receiptOf, hkey, decide_true, List.find?_cons_of_pos]
  | @callback cb _ hunseen hfrozen =>
      obtain ⟨r, hr, hreceipts⟩ := parseAll_snoc hs.providerCallbackReceipts
        hfrozen.providerCallbackReceipts
      obtain ⟨rfl, -⟩ := Domain.accept_ok hr
      have hkey : Js.trim cb.providerEventId = cb.providerEventId := hkey
      have hnone : s.providerCallbackReceipts.find? (·.providerEventId = cb.providerEventId) =
          none := hunseen
      refine ⟨⟨cb.providerEventId, Domain.sha256 env.toDomain cb.val⟩, ?_, rfl⟩
      rw [priorEvent, hreceipts, List.find?_append, hnone, Option.none_or]
      simp only [hkey, decide_true, List.find?_cons_of_pos]

/-- What is recognised has a trimmed key. -/
theorem Replays.trimmed (hs : Frozen env s s) (h : Replays env s a) : Js.trim a.key = a.key := by
  cases a with
  | command c op =>
      obtain ⟨prior, hprior, -⟩ := h
      have hmem := List.mem_of_find?_eq_some hprior
      have hfound := List.find?_some hprior
      have hkey : prior.idempotencyKey = c.idempotencyKey := of_decide_eq_true hfound
      have htrim := trimmed_of_parsed hs.commandReceipts hmem
      rwa [hkey] at htrim
  | callback cb =>
      obtain ⟨prior, hprior, -⟩ := h
      have hmem := List.mem_of_find?_eq_some hprior
      have hfound := List.find?_some hprior
      have hkey : prior.providerEventId = cb.providerEventId := of_decide_eq_true hfound
      obtain ⟨i, hi, hget⟩ := List.mem_iff_getElem.mp hmem
      have hparse := (parseAll_ok hs.providerCallbackReceipts).get hi hi
      obtain ⟨hsame, -⟩ := Domain.accept_ok hparse
      have htrim := congrArg ProviderCallbackReceipt.providerEventId hsame
      rw [List.get_eq_getElem, hget] at htrim
      show Js.trim cb.providerEventId = cb.providerEventId
      rw [← hkey]
      exact htrim.symm

/-- Nothing with the key of an action that is recognised changes the state. -/
theorem Replays.next_sameKey {a b : Action} (hs : Frozen env s s) (h : Replays env s a)
    (hkey : b.SameKey a) : next env s b = s := by
  rcases next_cases hs b with hsame | happlies
  · exact hsame
  · generalize next env s b = s' at happlies
    cases happlies with
    | @command c op m _ hunseen _ _ =>
        cases a with
        | callback cb => exact hkey.elim
        | command c' op' =>
            obtain ⟨prior, hprior, -⟩ := h
            have hnone := hunseen.key
            rw [show c.idempotencyKey = c'.idempotencyKey from hkey] at hnone
            exact absurd (hnone.symm.trans hprior) nofun
    | @callback cb _ hunseen _ =>
        cases a with
        | command c' op' => exact hkey.elim
        | callback cb' =>
            obtain ⟨prior, hprior, -⟩ := h
            rw [show cb.providerEventId = cb'.providerEventId from hkey] at hunseen
            exact absurd (hunseen.symm.trans hprior) nofun

/-! ## The theorem -/

/-- From `s` on, resubmitting `a` is a replay, and no action with its key
changes the state. -/
structure ExactlyOnce (env : Env) (a : Action) (s : BookingState) : Prop where
  replayed : ∀ s', (system env).Later TSys.any s s' →
    perform env s' a = .ok { state := s', replayed := true }
  once : ∀ s', (system env).Later TSys.any s s' → ∀ b, b.SameKey a → next env s' b = s'

/-- **Exactly once.** An action that was accepted is recognised in every later
state if and only if its key has no surrounding white space. -/
theorem exactly_once_iff (env : Env) (s : BookingState)
    (hs : (system env).Reachable TSys.any s) (a : Action) (r : TransitionResult)
    (h : perform env s a = .ok r) : ExactlyOnce env a r.state ↔ Js.trim a.key = a.key := by
  have hfrozen := frozen_reachable hs
  have hafter := frozen_of_perform hfrozen h
  refine ⟨fun honce => ?_, fun hkey => ?_⟩
  · -- the replay right after the acceptance found a stored key
    have hagain := honce.replayed r.state (.refl _)
    rcases perform_ok hafter hagain with ⟨-, -, hreplays⟩ | ⟨hfresh, -⟩
    · exact hreplays.trimmed hafter
    · cases hfresh
  · have hreplays : Replays env r.state a := by
      rcases perform_ok hfrozen h with ⟨hsame, -, hreplays⟩ | ⟨-, happlies⟩
      · rw [hsame]
        exact hreplays
      · exact happlies.replays hfrozen hkey
    have hlater : ∀ s', (system env).Later TSys.any r.state s' →
        Frozen env s' s' ∧ Replays env s' a := by
      intro s' hl
      exact ⟨(Later.keeps (P := fun _ => True) (fun _ _ _ _ _ _ _ => trivial) hl hafter
        trivial).1, hreplays.later hafter hl⟩
    refine ⟨fun s' hl => ?_, fun s' hl b hb => ?_⟩
    · exact perform_replays (hlater s' hl).1 (hlater s' hl).2
    · exact (hlater s' hl).2.next_sameKey (hlater s' hl).1 hb

/-! ## A booking to try the workflow on -/

namespace Sample

def now : String := "2026-07-14T00:00:00Z"

/-- The times of the sample, in milliseconds. -/
def times : List (String × Int) :=
  [(now, 1783987200000), ("2026-07-15T00:00:00Z", 1784073600000),
    ("2026-07-18T00:00:00Z", 1784332800000), ("2026-07-18T02:00:00Z", 1784340000000),
    ("2026-07-19T00:00:00Z", 1784419200000), ("2026-07-19T02:00:00Z", 1784426400000),
    ("2026-08-13T00:00:00Z", 1786579200000)]

def bookingId : String := "32000000-0000-4000-8000-000000000003"

def organizationId : String := "32000000-0000-4000-8000-000000000004"

def quote : JsVal :=
  .obj
    [("quoteId", .str "32000000-0000-4000-8000-000000000001"),
      ("ruleSetId", .str "32000000-0000-4000-8000-000000000002"), ("ruleVersion", (1 : Int)),
      ("commissionedModules", .arr [.str "building"]),
      ("property", .obj
        [("propertyType", .str "unit"), ("storeys", (1 : Int)), ("bedrooms", (2 : Int)),
          ("suburb", .str "Toowong"), ("postcode", .str "4066")]),
      ("currency", .str "AUD"),
      ("lineItems", .arr [.obj
        [("module", .str "building"), ("label", .str "Building"), ("amountCents", (55000 : Int))]]),
      ("totalAmountCents", (55000 : Int)), ("createdAt", .str now),
      ("expiresAt", .str "2026-08-13T00:00:00Z")]

def property : JsVal :=
  .obj
    [("propertyId", .str "32000000-0000-4000-8000-000000000005"),
      ("addressLine1", .str "1 High Street"), ("suburb", .str "Toowong"), ("state", .str "QLD"),
      ("postcode", .str "4066"), ("accessNotes", .str "")]

/-- A participant of the given assignment. -/
def participant (assignmentId : String) : JsVal :=
  .obj
    [("assignmentId", .str assignmentId),
      ("contact", .obj
        [("contactId", .str "32000000-0000-4000-8000-000000000007"), ("name", .str "Ada"),
          ("email", .str "ada@example.test"), ("phone", .str "0400000000")])]

def participants : JsVal :=
  .obj
    [("client", participant "32000000-0000-4000-8000-000000000006"),
      ("reportRecipient", participant "32000000-0000-4000-8000-000000000008"),
      ("invoiceContact", participant "32000000-0000-4000-8000-000000000009"),
      ("accessContact", participant "32000000-0000-4000-8000-000000000010"),
      ("assignedInspector", .obj
        [("inspectorId", .str "32000000-0000-4000-8000-000000000011"),
          ("displayName", .str "Grace"), ("credentialVersion", .str "c1")])]

def slotHold : SlotHoldSnapshot where
  slotId := "32000000-0000-4000-8000-000000000012"
  holdId := "32000000-0000-4000-8000-000000000013"
  startsAt := "2026-07-18T00:00:00Z"
  endsAt := "2026-07-18T02:00:00Z"
  expiresAt := "2026-07-15T00:00:00Z"

def request : BookingRequest where
  bookingId := bookingId
  organizationId := organizationId
  quote := quote
  property := property
  participants := participants
  slotHold := slotHold
  capturedAt := now

def agreementContent : Fields :=
  [("agreementId", .str "32000000-0000-4000-8000-000000000020"), ("bookingId", .str bookingId),
    ("organizationId", .str organizationId),
    ("templateId", .str "32000000-0000-4000-8000-000000000021"), ("templateVersion", (1 : Int)),
    ("templateTitle", .str "Agreement"), ("introductoryText", .str "Scope"),
    ("commissionedModules", .arr [.str "building"]),
    ("scopeSections", .arr [.obj
      [("module", .str "building"), ("heading", .str "Building"), ("body", .str "Visual")]]),
    ("acknowledgementText", .str "I agree"), ("acknowledgementAccepted", .bool true),
    ("signer", .obj
      [("assignmentId", .str "32000000-0000-4000-8000-000000000006"),
        ("contactId", .str "32000000-0000-4000-8000-000000000007"), ("name", .str "Ada"),
        ("email", .str "ada@example.test")]),
    ("typedName", .str "Ada"), ("signatureMethod", .str "typed_name_and_acknowledgement"),
    ("signedAt", .str now)]

def agreementHash : String :=
  hex64 0x62bb94c41135d4ed3036122d638f287a055911d8070054c61473320ea022ba2a

def agreement : JsVal := .obj (agreementContent ++ [("canonicalHash", .str agreementHash)])

def candidate : SlotHoldSnapshot where
  slotId := "32000000-0000-4000-8000-000000000030"
  holdId := "32000000-0000-4000-8000-000000000031"
  startsAt := "2026-07-19T00:00:00Z"
  endsAt := "2026-07-19T02:00:00Z"
  expiresAt := "2026-07-15T00:00:00Z"

def linkId : String := "32000000-0000-4000-8000-000000000032"

def newLinkId : String := "32000000-0000-4000-8000-000000000033"

def token : String := "aaaaaaaaaaaaaaaaaaaaaaaaaaaaaaaaaaaaaaaaaaaaaaaaaaaaaaaaaaaaaaaa"

def refunded (providerEventId : String) : PaymentCallback :=
  .refund_succeeded providerEventId "re-1" now

def refundFailed : PaymentCallback := .refund_failed "evt-2" "re-1" "provider_error" true now

def paid : PaymentCallback := .checkout_succeeded "evt-3" "intent-1" "pi-1" now

def accepted (providerReference : String) : SideEffectObservation :=
  .accepted providerReference .null false

/-- What the receipt of a command hashes. -/
def fingerprinted (op : Operation) : JsVal :=
  .obj [("operation", .str op.name), ("payload", op.payload)]

/-- SHA-256 on the documents, events and commands of the sample. -/
def digests : List (JsVal × Nat) :=
  [(.obj agreementContent,
        0x62bb94c41135d4ed3036122d638f287a055911d8070054c61473320ea022ba2a),
    (quote,
        0x5adfadbf5d9df6a157e3e121d637bf9bcf66150c3e64f831df62ffadf92d6345),
    ((refunded " evt-1 ").val,
        0xd7b474b2b8845048036d6a58c17ac896dbb35cf003927597f41f12dd0a353663),
    ((refunded "evt-1").val,
        0xd7a50a4f6ba6d07b41ca5df5b4b8a51b42e9ba5a2af160e9d4f15f97f6e7453f),
    (refundFailed.val,
        0x65141f8ee291ab8dac5293a8a334997b3c969a9721eb4cfecc7bc4f6250dad59),
    (paid.val,
        0x73ef41e687215a622ff1b1018b556bd4185e75d701c6e81237eebc29cd4ff74b),
    (fingerprinted (.confirmBookingSlot now),
        0x99df76964d3f1de9e1af3a3ef4468071927d79f938ec466a8ebf096d1457ab17),
    (fingerprinted (.applySignedAgreement agreement),
        0x428976ee34798a518c558120204fb09a7186987a2af61b2d78b15b5729342e15),
    (fingerprinted (.beginPayment "intent-1"),
        0x59e35e37ada5f849622842f0b07f6ab9c6ce772f2a0fe16d9c9b22006286ec4e),
    (fingerprinted (.beginPayment " intent-1 "),
        0xdea61c83e3c491eae0ccc7476aa6fd0c4c9b2e5f8c2b127ff3d7a13e50fc112a),
    (fingerprinted (.observeCalendarReservation (accepted "event-1")),
        0xd80a3f2e6422eb58287f5ada61262aa2a86d13b0a2d5ea8c56c973841c7564db),
    (fingerprinted (.observeCalendarReservation (accepted "event-2")),
        0xc5a08a112cca690b23f02743b5eae33a787bc54b803defbb0fd51b35b0c36ef2),
    (fingerprinted (.overrideAccess "Keys at the agency"),
        0xc5c2dcdfe137c356d37a2f5d00a54aeaf66d9b6e302e5913329d9671356d2668),
    (fingerprinted (.activateBooking now),
        0x059609e4369ff90d9a4fcff2ece003838b08deac9a70d44ee193c66f9d00c61c),
    (fingerprinted (.requestCancellation "Sale fell through"),
        0x3e87c5fa67a97fa6532a266b625551f7e1126376fa98624ebf098815b952aa0c),
    (fingerprinted (.completeCancellation (accepted "event-1") (accepted "re-1") now),
        0x5a48086f3e77c950091fe32d7b953a485cd6ad398ac8870bd82917105fc53ba7),
    (fingerprinted (.issueAccessRequest linkId token),
        0xe93660ec0bb35d65e5620a60b608cb2904d29515433c80fcfe610e5d4cc1432d),
    (fingerprinted (.requestReschedule candidate now),
        0x322c9126e983875997aa0e58a254fb42ff8b9108ec45740b6df6555d64f31791),
    (fingerprinted (.issueAccessRequest newLinkId token),
        0xb31750c3e1ba8eb7e80351b86e37b1af02d02b022b5ab7a61d589e067d466f83),
    (fingerprinted (.confirmAccess linkId now),
        0x49eb4d6e5e4197df33e719de41a82aec10f543675ffc8441a24c04b7d0e4ae4c),
    (fingerprinted (.completeReschedule (.failed "provider_error" true) now),
        0xead0e6d919b0feca0c77e8475836dea437d0c2f5e0550e96f6aa6430adaa3a78)]

def digest (text : String) : String :=
  hex64 (((digests.map fun p => (canonicalJson p.1, p.2)).lookup text).getD 0)

def host : Env where
  formats := ⟨fun _ => true, fun _ => true⟩
  digest := digest
  issuesText _ := ""
  toInteger _ := none
  email _ := true
  dateParse text := times.lookup text

theorem digest_hex (text : String) : Js.isHexDigest (digest text) = true := isHexDigest_hex64 _

/-- A receipt of the sample is in order when its key is. -/
theorem receiptText {key : String} {v : JsVal} (h : isText 300 key = true) :
    ReceiptText key (Domain.sha256 host.toDomain v) := ⟨h, digest_hex _⟩

def bookingInput : JsVal :=
  .obj [("quote", quote), ("property", property), ("participants", participants),
    ("capturedAt", .str now)]

def created : BookingState :=
  let v := newBooking request quote bookingInput slotHold
  { v with readiness := deriveReadiness v }

theorem quote_parses : quoteSnapshotSchema host quote = .ok quote := rfl

theorem input_parses : bookingInputSnapshotSchema host bookingInput = .ok bookingInput := rfl

theorem frozenAs_created :
    FrozenAs host (newBooking request quote bookingInput slotHold) created where
  sound := ⟨rfl, rfl, rfl⟩
  input := input_parses
  quote := quote_parses
  agreement := rfl
  payment := rfl
  calendar := rfl
  access := rfl
  readiness := readiness_settled _
  reschedule := rfl
  cancellationReason := rfl
  commandReceipts := rfl
  providerCallbackReceipts := rfl
  rest := rfl
  refined := by
    have hquote : (created.input.get? "quote").getD .null = created.quote := rfl
    unfold stateIssues
    rw [hquote, if_pos rfl]

theorem frozen_created : Frozen host created created := frozenAs_created.settled

theorem createBooking_request : createBooking host request = .ok created :=
  createBooking_of quote_parses rfl rfl rfl rfl input_parses ⟨rfl, rfl⟩ frozenAs_created

theorem reachable_created {ok : BookingState → Action → Prop} :
    (system host).Reachable ok created := .init ⟨request, createBooking_request⟩

/-- The payment after the refund of the sample. -/
def refundedPayment : PaymentProjection where
  state := .refunded
  attempt := 0
  intentId := none
  providerReference := some "re-1"
  failureCode := none
  terminal := true

/-- The event is new, whatever white space its identifier has. -/
theorem perform_refunded (id : String) (h : isText 300 id = true) :
    perform host created (.callback (refunded id)) = .ok
      { state := afterCallback host created (refunded id) refundedPayment, replayed := false } :=
  perform_callback frozen_created (by decide) rfl rfl (receiptText h)

/-- The booking after one delivery of the event with a padded identifier. -/
def paddedOnce : BookingState :=
  afterCallback host created (refunded " evt-1 ") refundedPayment

/-- An event whose identifier has white space around it changes the state each
time it is delivered. -/
theorem padded_event_applied_twice :
    (system host).Reachable TSys.any created ∧
      perform host created (.callback (refunded " evt-1 ")) =
        .ok { state := paddedOnce, replayed := false } ∧
      (∃ twice, perform host paddedOnce (.callback (refunded " evt-1 ")) =
        .ok { state := twice, replayed := false } ∧ twice.revision = 2) ∧
      ¬ ExactlyOnce host (.callback (refunded " evt-1 ")) paddedOnce := by
  have hfirst := perform_refunded " evt-1 " (by decide)
  have honce : Frozen host paddedOnce paddedOnce := frozen_of_perform frozen_created hfirst
  have hsecond : perform host paddedOnce (.callback (refunded " evt-1 ")) = .ok
      { state := afterCallback host paddedOnce (refunded " evt-1 ") refundedPayment
        replayed := false } :=
    perform_callback honce (by decide) (by decide) rfl (receiptText (by decide))
  refine ⟨reachable_created, hfirst, ⟨_, hsecond, rfl⟩, fun h => ?_⟩
  have hagain := h.replayed _ (.refl _)
  rw [hsecond] at hagain
  cases hagain

/-- The event of a plain identifier is recognised from then on. -/
theorem plain_event_applied_once :
    perform host created (.callback (refunded "evt-1")) = .ok
        { state := afterCallback host created (refunded "evt-1") refundedPayment
          replayed := false } ∧
      ExactlyOnce host (.callback (refunded "evt-1"))
        (afterCallback host created (refunded "evt-1") refundedPayment) := by
  have h := perform_refunded "evt-1" (by decide)
  exact ⟨h, (exactly_once_iff host created reachable_created (.callback (refunded "evt-1")) _
    h).mpr (by decide)⟩

end Sample

end InspectionHub.Booking
