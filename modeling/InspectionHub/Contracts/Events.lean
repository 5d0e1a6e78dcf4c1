import InspectionHub.Contracts.Common

/-!
# Event contracts

The draft and the envelope of a session event. All fields are checked as they
stand except two, which are trimmed: the aggregate's type and the idempotency
key. So an envelope is known up to the white space around these two
(`envelope_normalize_iff`).
-/

namespace InspectionHub.Contracts

open Schema

variable (fmt : Formats)

def eventFamilies : List String :=
  ["booking", "agreement", "payment", "access", "inspection", "area", "artifact",
    "investigation", "transcription", "agent", "tool", "verifier", "finding", "approval",
    "report", "delivery", "recipient_access", "amendment", "system"]

def isFamilyChar (c : Char) : Bool := ('a' ≤ c && c ≤ 'z') || c = '_'

/-- `/^[a-z_]+\.[a-z0-9_]+$/u`. -/
def isEventType (s : String) : Bool :=
  let family := s.toList.takeWhile isFamilyChar
  match s.toList.dropWhile isFamilyChar with
  | '.' :: name =>
      !family.isEmpty && !name.isEmpty && name.all fun c => isFamilyChar c || c.isDigit
  | _ => false

def eventTypeSchema : Schema :=
  string
    [satisfies isEventType none,
      satisfies (fun value => eventFamilies.any fun family => Js.startsWith value (family ++ "."))
        (some "Event type must belong to an approved event family")]

/-- `/^[a-zA-Z][a-zA-Z0-9_]*$/u`. -/
def isMetadataKey (s : String) : Bool :=
  match s.toList with
  | c :: l => c.isAlpha && l.all fun d => d.isAlphanum || d = '_'
  | [] => false

def safeMetadataSchema : Schema :=
  record (string [satisfies isMetadataKey none])
    (union [string [maxLength 500], number, boolean, null])

def aggregateSchema : Schema := strictObject [("type", trimmedText 100), ("id", idSchema fmt)]

def eventDraftFields : List (String × Schema) :=
  [("schemaVersion", literalInt 1), ("eventId", idSchema fmt), ("eventType", eventTypeSchema),
    ("organizationId", idSchema fmt), ("aggregate", aggregateSchema fmt),
    ("aggregateVersion", int positive), ("sessionId", idSchema fmt), ("actor", actorSchema fmt),
    ("clientOccurredAt", nullable (timestampSchema fmt)),
    ("serverRecordedAt", timestampSchema fmt), ("idempotencyKey", trimmedText 300),
    ("safeMetadata", safeMetadataSchema),
    ("protectedArtifactReferences", array (artifactReferenceSchema fmt) anySize),
    ("correlationId", idSchema fmt), ("causationId", nullable (idSchema fmt))]

def eventDraftV1Schema : Schema := strictObject (eventDraftFields fmt)

def eventEnvelopeFields : List (String × Schema) :=
  eventDraftFields fmt ++
    [("payloadHash", sha256Schema), ("previousEventHash", nullable sha256Schema),
      ("eventHash", sha256Schema)]

def eventEnvelopeV1Schema : Schema := strictObject (eventEnvelopeFields fmt)

/-! ## What parsing an envelope keeps -/

theorem eventEnvelopeFields_nodup : ((eventEnvelopeFields fmt).map Prod.fst).Nodup := by
  simp [eventEnvelopeFields, eventDraftFields]

theorem exact_eventType : Exact eventTypeSchema := by
  refine exact_string fun c hc s t h => ?_
  simp only [List.mem_cons, List.not_mem_nil, or_false] at hc
  rcases hc with rfl | rfl
  · exact (satisfies_ok h).1
  · exact (satisfies_ok h).1

theorem exact_safeMetadata : Exact safeMetadataSchema := by
  refine exact_record (exact_union fun s hs => ?_)
  simp only [List.mem_cons, List.not_mem_nil, or_false] at hs
  rcases hs with rfl | rfl | rfl | rfl
  · refine exact_string fun c hc s t h => ?_
    rw [List.mem_singleton.mp hc] at h
    exact maxLength_ok h
  · exact exact_number
  · exact exact_boolean
  · exact exact_null

/-- The two fields that are trimmed. -/
def trimmedKeys : List String := ["aggregate", "idempotencyKey"]

theorem lossless_envelopeField {a : String × Schema} (ha : a ∈ eventEnvelopeFields fmt)
    (hkey : a.1 ∉ trimmedKeys) : Lossless a.2 := by
  simp only [eventEnvelopeFields, eventDraftFields, List.mem_append, List.mem_cons,
    List.not_mem_nil, or_false] at ha
  rcases ha with (rfl | rfl | rfl | rfl | rfl | rfl | rfl | rfl | rfl | rfl | rfl | rfl | rfl |
    rfl | rfl) | rfl | rfl | rfl
  · exact (exact_literalInt 1).lossless
  · exact (exact_id fmt).lossless
  · exact exact_eventType.lossless
  · exact (exact_id fmt).lossless
  · simp [trimmedKeys] at hkey
  · exact (exact_int positive).lossless
  · exact (exact_id fmt).lossless
  · exact lossless_actor fmt
  · exact (exact_nullable (exact_timestamp fmt)).lossless
  · exact (exact_timestamp fmt).lossless
  · simp [trimmedKeys] at hkey
  · exact exact_safeMetadata.lossless
  · exact lossless_array (lossless_artifactReference fmt)
  · exact (exact_id fmt).lossless
  · exact (exact_nullable (exact_id fmt)).lossless
  · exact exact_sha256.lossless
  · exact (exact_nullable exact_sha256).lossless
  · exact exact_sha256.lossless

/-- The white space around the string at the end of a path. -/
def marginsAt (v : JsVal) (path : List String) : Option (List Char × List Char) :=
  (v.strAt? path).map Js.margins

/-- The trimmed fields carry the same white space around them. -/
def SameMargins (a b : JsVal) : Prop :=
  marginsAt a ["aggregate", "type"] = marginsAt b ["aggregate", "type"] ∧
    marginsAt a ["idempotencyKey"] = marginsAt b ["idempotencyKey"]

theorem trimmedText_same {n : Nat} {x x' y y' : JsVal} (h : trimmedText n x = .ok y)
    (h' : trimmedText n x' = .ok y') (hy : Same y y')
    (hm : ∀ s s', x = .str s → x' = .str s' → Js.margins s = Js.margins s') : Same x x' := by
  obtain ⟨s, rfl, rfl⟩ := trimmedText_ok h
  obtain ⟨s', rfl, rfl⟩ := trimmedText_ok h'
  have htrim : Js.trim s = Js.trim s' := JsVal.str.inj hy.str_eq
  rw [Js.eq_of_trim_eq htrim (hm s s' rfl rfl)]
  exact Same.refl _

/-- Among the envelopes that parse to the same value, two are the same exactly
when they carry the same white space around the trimmed fields. -/
theorem envelope_same_iff {a b va vb : JsVal} (ha : a.plain = true) (hb : b.plain = true)
    (hpa : eventEnvelopeV1Schema fmt a = .ok va) (hpb : eventEnvelopeV1Schema fmt b = .ok vb)
    (h : Same va vb) : Same a b ↔ SameMargins a b := by
  constructor
  · intro hab
    exact ⟨by rw [marginsAt, marginsAt, hab.strAt? ha hb], by rw [marginsAt, marginsAt, hab.strAt? ha hb]⟩
  · rintro ⟨htype, hkey⟩
    refine strictObject_congr (eventEnvelopeFields_nodup fmt) ha hb hpa hpb h ?_
    intro p hp x x' y y' hx hx' hxy hxy' hyy
    have hxp := JsVal.plain_get? ha hx
    have hxp' := JsVal.plain_get? hb hx'
    by_cases htrim : p.1 ∈ trimmedKeys
    · simp only [eventEnvelopeFields, eventDraftFields, List.mem_append, List.mem_cons,
        List.not_mem_nil, or_false] at hp
      rcases hp with (rfl | rfl | rfl | rfl | rfl | rfl | rfl | rfl | rfl | rfl | rfl | rfl | rfl |
        rfl | rfl) | rfl | rfl | rfl
      case inl.inr.inr.inr.inr.inl =>
        -- the aggregate: its type is trimmed, its id is not
        refine strictObject_congr (by simp) hxp hxp' hxy hxy' hyy ?_
        intro q hq u u' z z' hu hu' huz huz' hzz
        rcases List.mem_cons.mp hq with rfl | hq
        · refine trimmedText_same huz huz' hzz ?_
          rintro s s' rfl rfl
          simpa [marginsAt, JsVal.strAt?, hx, hx', JsVal.str?, hu, hu'] using htype
        · rw [List.mem_singleton.mp hq] at huz huz'
          rw [← exact_id fmt _ _ huz, ← exact_id fmt _ _ huz']
          exact hzz
      case inl.inr.inr.inr.inr.inr.inr.inr.inr.inr.inr.inl =>
        refine trimmedText_same hxy hxy' hyy ?_
        rintro s s' rfl rfl
        simpa [marginsAt, JsVal.strAt?, hx, hx', JsVal.str?] using hkey
      all_goals simp [trimmedKeys] at htrim
    · have hless := lossless_envelopeField fmt hp htrim
      exact ((hless x y hxp hxy).symm.trans hyy).trans (hless x' y' hxp' hxy')

/-! ## What parsing a draft returns again -/

theorem eventDraftFields_nodup : ((eventDraftFields fmt).map Prod.fst).Nodup := by
  simp [eventDraftFields]

theorem stable_aggregate : Stable (aggregateSchema fmt) := by
  refine stable_strictObject (by simp) fun a ha => ?_
  rcases List.mem_cons.mp ha with rfl | ha
  · exact stable_trimmedText 100
  · rw [List.mem_singleton.mp ha]
    exact (exact_id fmt).stable

theorem keepsPlain_aggregate : KeepsPlain (aggregateSchema fmt) := by
  refine keepsPlain_strictObject (by simp) (by simp) fun a ha => ?_
  rcases List.mem_cons.mp ha with rfl | ha
  · exact keepsPlain_string _
  · rw [List.mem_singleton.mp ha]
    exact (exact_id fmt).keepsPlain

theorem settled_draftField {a : String × Schema} (ha : a ∈ eventDraftFields fmt) :
    Stable a.2 ∧ KeepsPlain a.2 := by
  have exact : ∀ {s : Schema}, Exact s → Stable s ∧ KeepsPlain s :=
    fun h => ⟨h.stable, h.keepsPlain⟩
  simp only [eventDraftFields, List.mem_cons, List.not_mem_nil, or_false] at ha
  rcases ha with rfl | rfl | rfl | rfl | rfl | rfl | rfl | rfl | rfl | rfl | rfl | rfl | rfl |
    rfl | rfl
  · exact exact (exact_literalInt 1)
  · exact exact (exact_id fmt)
  · exact exact exact_eventType
  · exact exact (exact_id fmt)
  · exact ⟨stable_aggregate fmt, keepsPlain_aggregate fmt⟩
  · exact exact (exact_int positive)
  · exact exact (exact_id fmt)
  · exact ⟨stable_actor fmt, keepsPlain_actor fmt⟩
  · exact exact (exact_nullable (exact_timestamp fmt))
  · exact exact (exact_timestamp fmt)
  · exact ⟨stable_trimmedText 300, keepsPlain_string _⟩
  · exact exact exact_safeMetadata
  · exact ⟨stable_array (stable_artifactReference fmt) _,
      keepsPlain_array (keepsPlain_artifactReference fmt) _⟩
  · exact exact (exact_id fmt)
  · exact exact (exact_nullable (exact_id fmt))

/-- A draft as the schema returns it: its own parse, and plain. -/
structure IsDraft (l : Fields) : Prop where
  fits : Fits (eventDraftFields fmt) l
  plain : (JsVal.obj l).plain = true

theorem eventDraft_parsed {v w : JsVal} (hplain : v.plain = true)
    (h : eventDraftV1Schema fmt v = .ok w) : ∃ l, w = .obj l ∧ IsDraft fmt l := by
  obtain ⟨l, rfl, hfits⟩ := strictObject_fits (fun a ha => (settled_draftField fmt ha).1) h
  have hkeeps : KeepsPlain (eventDraftV1Schema fmt) :=
    keepsPlain_strictObject (eventDraftFields_nodup fmt) (by simp [eventDraftFields])
      fun a ha => (settled_draftField fmt ha).2
  exact ⟨l, rfl, hfits, hkeeps v _ hplain h⟩

end InspectionHub.Contracts
