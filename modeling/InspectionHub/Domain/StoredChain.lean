import InspectionHub.Domain.Events
import InspectionHub.Lib.Digest

/-!
# The last hash commits to the history

Under a collision-free digest an accepted history is known from its last event
hash, back through the links, up to what verification itself discards: a
current event is hashed as parsed, and parsing trims the aggregate's type and
the idempotency key. So histories under one last hash are the same exactly
when these fields carry the same white space (`same_history_iff`).
-/

namespace InspectionHub.Domain

open Contracts Schema

variable {env : Env}

/-- The persisted events are equal, field by field. -/
def SameEvent (a b : Document) : Prop := Same a.val b.val

/-- The white space around the trimmed fields is the same; a legacy event has
none that is trimmed. -/
def KeepsMargins (a b : Document) : Prop := isLegacy a.val = true ∨ SameMargins a.val b.val

/-- The hash of the last stored event. -/
def lastEventHash (events : List Document) : Option String :=
  events.getLast?.bind fun e => e.val.str? "eventHash"

/-! ## Verified events -/

variable {index : Nat}

theorem requireIntegrity_ok {p : Prop} [Decidable p] {message : String} {u : Unit}
    (h : requireIntegrity p message index = .ok u) : p := by
  unfold requireIntegrity at h
  split at h
  · assumption
  · cases h

theorem requireIntegrity_of {p : Prop} [Decidable p] (h : p) (message : String) (index : Nat) :
    requireIntegrity p message index = .ok () := if_pos h

variable {v : JsVal}

theorem parseOrIntegrity_ok {r : Parsed JsVal} {message : String}
    (h : parseOrIntegrity r message index = .ok v) : r = .ok v := by
  unfold parseOrIntegrity at h
  split at h
  · exact congrArg Except.ok (Except.ok.inj h)
  · cases h

/-- `v` is the event `candidate` as verification passes it on. -/
structure VerifiedAs (env : Env) (candidate v : JsVal) : Prop where
  hash : v.str? "eventHash" = some (sha256 env (withoutHash v))
  form : (isLegacy candidate = true ∧ v = candidate) ∨
    (isLegacy candidate = false ∧ eventEnvelopeV1Schema env.formats candidate = .ok v)

theorem verifyStoredEvent_ok {candidate v : JsVal}
    (h : verifyStoredEvent env candidate index = .ok v) : VerifiedAs env candidate v := by
  unfold verifyStoredEvent at h
  split at h
  · next hlegacy =>
      obtain ⟨_, -, h⟩ := bind_ok h
      obtain ⟨_, -, h⟩ := bind_ok h
      obtain ⟨_, hhash, h⟩ := bind_ok h
      cases h
      exact ⟨requireIntegrity_ok hhash, .inl ⟨hlegacy, rfl⟩⟩
  · next hlegacy =>
      obtain ⟨event, hparse, h⟩ := bind_ok h
      obtain ⟨_, -, h⟩ := bind_ok h
      obtain ⟨_, hhash, h⟩ := bind_ok h
      cases h
      exact ⟨requireIntegrity_ok hhash,
        .inr ⟨Bool.not_eq_true _ ▸ hlegacy, parseOrIntegrity_ok hparse⟩⟩

/-- A current event that carries its own hashes is accepted. -/
theorem verifyCurrentEvent_of {candidate v : JsVal}
    (hparse : eventEnvelopeV1Schema env.formats candidate = .ok v)
    (hpayload : v.str? "payloadHash" = some (hashEventPayload env v))
    (hhash : v.str? "eventHash" = some (sha256 env (withoutHash v))) :
    verifyCurrentEvent env candidate index = .ok v := by
  rw [verifyCurrentEvent, hparse]
  show (requireIntegrity (v.str? "payloadHash" = some (hashEventPayload env v)) _ index >>=
    fun _ => _) = _
  rw [requireIntegrity_of hpayload]
  show (requireIntegrity (v.str? "eventHash" = some (sha256 env (withoutHash v))) _ index >>=
    fun _ => _) = _
  rw [requireIntegrity_of hhash]
  rfl

variable {d : Document}

/-- The fields of a verified event have distinct keys. -/
theorem VerifiedAs.object (h : VerifiedAs env d.val v) :
    ∃ l : Fields, v = .obj l ∧ l.keys.Nodup := by
  rcases h.form with ⟨-, rfl⟩ | ⟨-, hparse⟩
  · exact ⟨d.fields, rfl, (JsVal.plain_obj d.plain).1⟩
  · obtain ⟨l, r, -, rfl, -, hr⟩ := strictObject_ok hparse
    refine ⟨r, rfl, ?_⟩
    rw [keys_of_shape hr]
    exact eventEnvelopeFields_nodup env.formats

/-- Verification hands on the hash that is stored. -/
theorem VerifiedAs.eventHash (h : VerifiedAs env d.val v) :
    v.str? "eventHash" = d.val.str? "eventHash" := by
  rcases h.form with ⟨-, rfl⟩ | ⟨-, hparse⟩
  · rfl
  · obtain ⟨x, y, hx, hy, hxy⟩ := strictObject_get (eventEnvelopeFields_nodup env.formats) hparse
      (k := "eventHash") (s := sha256Schema) (by simp [eventEnvelopeFields])
    rw [JsVal.str?, JsVal.str?, hx, hy, exact_sha256 x y hxy]

/-- **One hash, one event.** Verified events under the same hash are the
same. -/
theorem VerifiedAs.same (hinj : Function.Injective env.digest) {a b : Document} {v w : JsVal}
    (hv : VerifiedAs env a.val v) (hw : VerifiedAs env b.val w)
    (h : v.str? "eventHash" = w.str? "eventHash") : Same v w := by
  obtain ⟨l, rfl, hl⟩ := hv.object
  obtain ⟨r, rfl, hr⟩ := hw.object
  have hrest : Same (withoutHash (.obj l)) (withoutHash (.obj r)) := by
    have hhash := hv.hash.symm.trans (h.trans hw.hash)
    exact (canonicalJson_eq_iff _ _).mp (hinj (Option.some.inj hhash))
  have hfields := (normalize_obj_eq_iff (Fields.nodup_erase hl "eventHash")
    (Fields.nodup_erase hr "eventHash")).mp hrest
  refine (normalize_obj_eq_iff hl hr).mpr fun k => ?_
  by_cases hk : k = "eventHash"
  · subst hk
    have hx : List.lookup "eventHash" l = _ := JsVal.get?_of_str? hv.hash
    have hy : List.lookup "eventHash" r = _ := JsVal.get?_of_str? (h.symm.trans hv.hash)
    rw [hx, hy]
  · have := hfields k
    rwa [Fields.lookup_erase_of_ne l hk, Fields.lookup_erase_of_ne r hk] at this

theorem VerifiedAs.keyed (h : VerifiedAs env d.val v) : v.Keyed := by
  obtain ⟨l, rfl, hl⟩ := h.object
  exact hl

theorem VerifiedAs.isLegacy_eq (h : VerifiedAs env d.val v) : isLegacy v = isLegacy d.val := by
  rcases h.form with ⟨-, rfl⟩ | ⟨hcurrent, hparse⟩
  · rfl
  · obtain ⟨x, y, -, hy, hxy⟩ := strictObject_get (eventEnvelopeFields_nodup env.formats) hparse
      (k := "schemaVersion") (s := literalInt 1) (by simp [eventEnvelopeFields, eventDraftFields])
    rw [hcurrent, isLegacy, JsVal.int?, hy, (literalInt_ok hxy).2]
    rfl

/-- Stored events verified to the same value are the same exactly when they
keep the same margins. -/
theorem sameEvent_iff {a b : Document} {v w : JsVal} (hv : VerifiedAs env a.val v)
    (hw : VerifiedAs env b.val w) (h : Same v w) : SameEvent a b ↔ KeepsMargins a b := by
  have hversion : isLegacy a.val = isLegacy b.val := by
    rw [← hv.isLegacy_eq, ← hw.isLegacy_eq, isLegacy, isLegacy, h.int? hv.keyed hw.keyed]
  rcases hv.form with ⟨ha, rfl⟩ | ⟨ha, hpa⟩
  · rcases hw.form with ⟨hb, rfl⟩ | ⟨hb, hpb⟩
    · exact iff_of_true h (.inl ha)
    · rw [ha, hb] at hversion
      cases hversion
  · rcases hw.form with ⟨hb, rfl⟩ | ⟨hb, hpb⟩
    · rw [ha, hb] at hversion
      cases hversion
    · have hiff := envelope_same_iff env.formats a.plain b.plain hpa hpb h
      constructor
      · exact fun hab => .inr (hiff.mp hab)
      · rintro (hlegacy | hm)
        · rw [ha] at hlegacy
          cases hlegacy
        · exact hiff.mpr hm

/-! ## Chains -/

/-- The hash the next event must link to. -/
def headHash (previous : Option JsVal) : Option String :=
  previous.bind fun p => p.str? "eventHash"

/-- One turn of the loop verifies the event and its link. -/
theorem verifyStep_ok {state next : Option JsVal × Nat} {candidate : Document}
    (h : verifyStep env state candidate = .ok next) :
    ∃ v, VerifiedAs env candidate.val v ∧ next = (some v, state.2 + 1) ∧
      v.str? "previousEventHash" = headHash state.1 := by
  obtain ⟨v, hv, h⟩ := bind_ok h
  obtain ⟨_, hlink, h⟩ := bind_ok h
  cases h
  refine ⟨v, verifyStoredEvent_ok hv, rfl, ?_⟩
  obtain ⟨_, -, hlink⟩ := bind_ok hlink
  cases hp : state.1 with
  | none =>
      rw [hp] at hlink
      have hnull := requireIntegrity_ok hlink
      unfold isNull at hnull
      split at hnull
      · next hget => rw [JsVal.str?, hget, headHash, Option.bind_none]
      · cases hnull
  | some p =>
      rw [hp] at hlink
      obtain ⟨_, -, hlink⟩ := bind_ok hlink
      obtain ⟨_, -, hlink⟩ := bind_ok hlink
      rw [requireIntegrity_ok hlink, headHash, Option.bind_some]

variable {events : List Document}

theorem verifyLoop_snoc {e : Document} {state : Option JsVal × Nat}
    (h : verifyLoop env (events ++ [e]) = .ok state) :
    ∃ before, verifyLoop env events = .ok before ∧ verifyStep env before e = .ok state := by
  rw [verifyLoop, List.foldlM_append] at h
  obtain ⟨before, hbefore, h⟩ := bind_ok h
  refine ⟨before, hbefore, ?_⟩
  rw [List.foldlM_cons] at h
  obtain ⟨state', hstate, h⟩ := bind_ok h
  cases h
  exact hstate

/-- The loop ends with a hash exactly when it saw an event. -/
theorem headHash_snoc {e : Document} {state : Option JsVal × Nat}
    (h : verifyLoop env (events ++ [e]) = .ok state) :
    headHash state.1 = e.val.str? "eventHash" ∧ headHash state.1 ≠ none := by
  obtain ⟨before, -, hstep⟩ := verifyLoop_snoc h
  obtain ⟨v, hv, rfl, -⟩ := verifyStep_ok hstep
  have hhash := hv.hash
  refine ⟨hv.eventHash, ?_⟩
  rw [headHash, Option.bind_some, hhash]
  exact Option.some_ne_none _

/-- What two stored events with one verified form are to each other. -/
def SameVerified (env : Env) (a b : Document) : Prop :=
  ∃ v w, VerifiedAs env a.val v ∧ VerifiedAs env b.val w ∧ Same v w

/-- **Commitment.** Accepted histories that end in the same hash have the same
verified events. -/
theorem verifyLoop_same (hinj : Function.Injective env.digest) (h₁ h₂ : List Document)
    {s₁ s₂ : Option JsVal × Nat} (hok₁ : verifyLoop env h₁ = .ok s₁)
    (hok₂ : verifyLoop env h₂ = .ok s₂) (hhead : headHash s₁.1 = headHash s₂.1) :
    List.Forall₂ (SameVerified env) h₁ h₂ := by
  -- induction backwards from the last event, through the links
  induction h₁ using List.reverseRecOn generalizing h₂ s₁ s₂ with
  | nil =>
      cases hok₁
      cases h₂ using List.reverseRecOn with
      | nil => exact .nil
      | append_singleton l e => exact absurd hhead.symm (headHash_snoc hok₂).2
  | append_singleton l₁ e₁ ih =>
      cases h₂ using List.reverseRecOn with
      | nil =>
          cases hok₂
          exact absurd hhead (headHash_snoc hok₁).2
      | append_singleton l₂ e₂ =>
          obtain ⟨b₁, hb₁, hstep₁⟩ := verifyLoop_snoc hok₁
          obtain ⟨b₂, hb₂, hstep₂⟩ := verifyLoop_snoc hok₂
          obtain ⟨v₁, hv₁, rfl, hprev₁⟩ := verifyStep_ok hstep₁
          obtain ⟨v₂, hv₂, rfl, hprev₂⟩ := verifyStep_ok hstep₂
          have hsame : Same v₁ v₂ := hv₁.same hinj hv₂ hhead
          have hlinks : headHash b₁.1 = headHash b₂.1 := by
            rw [← hprev₁, ← hprev₂]
            exact hsame.str? hv₁.keyed hv₂.keyed _
          have hrest := ih l₂ hb₁ hb₂ hlinks
          exact List.rel_append hrest (.cons ⟨v₁, v₂, hv₁, hv₂, hsame⟩ .nil)

theorem verifyStoredEventChain_ok (h : verifyStoredEventChain env events = .ok ()) :
    ∃ s, verifyLoop env events = .ok s := by
  unfold verifyStoredEventChain at h
  cases hl : verifyLoop env events with
  | ok s => exact ⟨s, rfl⟩
  | error e =>
      rw [hl] at h
      cases h

theorem headHash_last {s : Option JsVal × Nat} (h : verifyLoop env events = .ok s) :
    headHash s.1 = lastEventHash events := by
  cases events using List.reverseRecOn with
  | nil =>
      cases h
      rfl
  | append_singleton l e =>
      rw [(headHash_snoc h).1, lastEventHash, List.getLast?_concat, Option.bind_some]

variable (env) in
/-- **Tamper evidence, exactly.** Accepted histories under the same last hash
have the same length, and they are the same field by field exactly when the
trimmed fields of their current events carry the same white space. -/
theorem same_history_iff (hinj : Function.Injective env.digest) (h₁ h₂ : List Document)
    (hok₁ : verifyStoredEventChain env h₁ = .ok ()) (hok₂ : verifyStoredEventChain env h₂ = .ok ())
    (hlast : lastEventHash h₁ = lastEventHash h₂) :
    h₁.length = h₂.length ∧
      (List.Forall₂ SameEvent h₁ h₂ ↔ List.Forall₂ KeepsMargins h₁ h₂) := by
  obtain ⟨s₁, hs₁⟩ := verifyStoredEventChain_ok hok₁
  obtain ⟨s₂, hs₂⟩ := verifyStoredEventChain_ok hok₂
  have hhead : headHash s₁.1 = headHash s₂.1 := by rw [headHash_last hs₁, headHash_last hs₂, hlast]
  have hsame := verifyLoop_same hinj h₁ h₂ hs₁ hs₂ hhead
  refine ⟨hsame.length_eq, ?_⟩
  clear hs₁ hs₂ hhead hok₁ hok₂ hlast
  induction hsame with
  | nil => exact iff_of_true .nil .nil
  | cons hab _ ih =>
      obtain ⟨v, w, hv, hw, h⟩ := hab
      rw [List.forall₂_cons, List.forall₂_cons, sameEvent_iff hv hw h, ih]

/-! ## White space before the idempotency key

Two one-event histories that differ in one stored character, under one hash.
The digests are SHA-256 of the two canonical texts that are hashed.
-/

namespace PaddedKey

/-- The stored fields, with the idempotency key as given. -/
def fieldsWith (key : String) : Fields :=
  [("schemaVersion", (1 : Int)), ("eventId", .str "20000000-0000-4000-8000-000000000012"),
    ("eventType", .str "booking.created"),
    ("organizationId", .str "20000000-0000-4000-8000-000000000001"),
    ("aggregate", .obj
      [("type", .str "inspection"), ("id", .str "20000000-0000-4000-8000-000000000002")]),
    ("aggregateVersion", (1 : Int)), ("sessionId", .str "20000000-0000-4000-8000-000000000003"),
    ("actor", .obj
      [("type", .str "inspector"), ("id", .str "20000000-0000-4000-8000-000000000004")]),
    ("clientOccurredAt", .null), ("serverRecordedAt", .str "2026-07-14T08:00:00.000Z"),
    ("idempotencyKey", .str key), ("safeMetadata", .obj []),
    ("protectedArtifactReferences", .arr []),
    ("correlationId", .str "20000000-0000-4000-8000-000000000005"), ("causationId", .null)]

def payloadHash : String := "2488ee7f0cb59704439a518e609d2e3e7f1b85830058e9b69d6e9214fee0ba17"

def eventHash : String := "b2c2b1e479d115395e04d930e707faf7ad4f397bd7a288f0823a82e41cecd7ff"

def hashedFields : Fields :=
  fieldsWith "booking-1" ++ [("payloadHash", .str payloadHash), ("previousEventHash", .null)]

def payload : JsVal :=
  .obj [("schemaVersion", (1 : Int)), ("eventType", .str "booking.created"),
    ("safeMetadata", .obj []), ("protectedArtifactReferences", .arr [])]

/-- SHA-256 of the two texts that are hashed here. -/
def digests : List (String × String) :=
  [(canonicalJson payload, payloadHash), (canonicalJson (.obj hashedFields), eventHash)]

def host : Env where
  formats := ⟨fun _ => true, fun _ => true⟩
  digest := digestOf digests
  issuesText _ := ""
  toInteger _ := none

def stored (key : String) : Fields :=
  fieldsWith key ++ [("payloadHash", .str payloadHash), ("previousEventHash", .null),
    ("eventHash", .str eventHash)]

def event : Document := ⟨stored "booking-1", by decide⟩

def padded : Document := ⟨stored " booking-1", by decide⟩

theorem digest_injective : Function.Injective host.digest :=
  digestOf_injective (by decide) (by decide)

theorem texts_differ : canonicalJson (.obj hashedFields) ≠ canonicalJson payload := by
  rw [ne_eq, canonicalJson_eq_iff]
  intro h
  have hid := (normalize_obj_eq_iff (by decide) (by decide)).mp h "eventId"
  simp [hashedFields, fieldsWith, List.lookup_cons] at hid

theorem sha256_host (v : JsVal) : sha256 host v = digestOf digests (canonicalJson v) := rfl

theorem sha256_payload : sha256 host payload = payloadHash := by
  rw [sha256_host, digests, digestOf_head]

theorem sha256_hashedFields : sha256 host (.obj hashedFields) = eventHash := by
  rw [sha256_host, digests, digestOf_tail texts_differ, digestOf_head]

/-- Whatever parses to the event is verified as the event, by any host with
the two hashes. -/
theorem accepted {env : Env} (hpayload : sha256 env payload = payloadHash)
    (hhashed : sha256 env (.obj hashedFields) = eventHash) (hversion : isLegacy d.val = false)
    (hparse : eventEnvelopeV1Schema env.formats d.val = .ok event.val) :
    verifyStoredEventChain env [d] = .ok () := by
  have hpayload : event.val.str? "payloadHash" = some (hashEventPayload env event.val) :=
    congrArg some hpayload.symm
  have hhash : event.val.str? "eventHash" = some (sha256 env (withoutHash event.val)) :=
    congrArg some hhashed.symm
  have hverify : verifyStoredEvent env d.val 0 = .ok event.val := by
    rw [verifyStoredEvent, hversion, if_neg (by simp)]
    exact verifyCurrentEvent_of hparse hpayload hhash
  have hstep : verifyStep env (none, 0) d = .ok (some event.val, 1) := by
    rw [verifyStep, hverify]
    rfl
  rw [verifyStoredEventChain, verifyLoop, List.foldlM_cons, hstep]
  rfl

theorem accepted_event : verifyStoredEventChain host [event] = .ok () :=
  accepted sha256_payload sha256_hashedFields rfl rfl

theorem accepted_padded : verifyStoredEventChain host [padded] = .ok () :=
  accepted sha256_payload sha256_hashedFields rfl rfl

/-- The two histories are accepted under the same last hash and differ. -/
theorem padding_accepted :
    Function.Injective host.digest ∧ verifyStoredEventChain host [event] = .ok () ∧
      verifyStoredEventChain host [padded] = .ok () ∧
      lastEventHash [event] = lastEventHash [padded] ∧
      ¬ List.Forall₂ SameEvent [event] [padded] := by
  refine ⟨digest_injective, accepted_event, accepted_padded, rfl, fun h => ?_⟩
  have hsame : SameEvent event padded := (List.forall₂_cons.mp h).1
  have hkey := hsame.str? (JsVal.keyed_of_plain event.plain) (JsVal.keyed_of_plain padded.plain)
    "idempotencyKey"
  have hkeys : "booking-1" = " booking-1" := Option.some.inj hkey
  exact absurd (congrArg String.toList hkeys) (by decide)

/-- The equivalence at these histories. -/
theorem same_history_iff_here :
    [event].length = [padded].length ∧
      (List.Forall₂ SameEvent [event] [padded] ↔ List.Forall₂ KeepsMargins [event] [padded]) :=
  same_history_iff host digest_injective [event] [padded] accepted_event accepted_padded rfl

end PaddedKey

end InspectionHub.Domain
