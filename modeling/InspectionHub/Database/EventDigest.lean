import InspectionHub.Database.SessionEvents
import InspectionHub.Lib.Digest
import InspectionHub.Lib.Separated

/-!
# The digest of an event

`u2_prepare_session_event` joins the fields of an event with bars and hashes
the text. Two of the fields are free texts, which may hold bars themselves, and
an absent idempotency key is written like an empty one: events of one digest
agree except for these (`event_digest_iff`).
-/

namespace InspectionHub.Database

/-- The rows agree on every field that is hashed. -/
def SessionEvent.Agree (e e' : SessionEvent) : Prop :=
  { e with eventSha256 := e'.eventSha256 } = e'

/-- Of rows that agree otherwise, one has no idempotency key and the other an empty one. -/
def SessionEvent.EmptyKey (e e' : SessionEvent) : Prop :=
  { e with eventSha256 := e'.eventSha256, idempotencyKey := e'.idempotencyKey } = e' ∧
    ((e.idempotencyKey = none ∧ e'.idempotencyKey = some "") ∨
      (e.idempotencyKey = some "" ∧ e'.idempotencyKey = none))

/-- The fields between the aggregate type and the idempotency key, as they are hashed. -/
def SessionEvent.place (server : Server) (e : SessionEvent) : List String :=
  [e.aggregateId.text, Sql.natText e.aggregateVersion, e.eventType, uuidText e.sessionId,
    uuidText e.actorId, (e.clientOccurredAt.map server.timestampText).getD "",
    server.timestampText e.recordedAt]

/-- The fields after the metadata, as they are hashed. -/
def SessionEvent.tail (e : SessionEvent) : List String :=
  [uuidsText e.protectedArtifactRefs, uuidText e.checkpointEventId, Sql.natText e.schemaVersion,
    e.payloadSha256, e.previousEventSha256.getD "", uuidText e.correlationId,
    uuidText e.causationId]

/-- Outside the fields from the aggregate type to the idempotency key the rows agree. -/
def SessionEvent.AgreeAround (e e' : SessionEvent) : Prop :=
  e.id = e'.id ∧ e.organizationId = e'.organizationId ∧ e.safeMetadata = e'.safeMetadata ∧
    e.protectedArtifactRefs = e'.protectedArtifactRefs ∧
    e.checkpointEventId = e'.checkpointEventId ∧ e.schemaVersion = e'.schemaVersion ∧
    e.payloadSha256 = e'.payloadSha256 ∧ e.previousEventSha256 = e'.previousEventSha256 ∧
    e.correlationId = e'.correlationId ∧ e.causationId = e'.causationId

/-- The aggregate type of `e'` is that of `e` with the next fields of `e`, and the idempotency
key of `e` takes up the fields of `e'` from there on; `between` is what the two share of that
key. -/
def SessionEvent.Shifted (server : Server) (e e' : SessionEvent) : Prop :=
  e.AgreeAround e' ∧ ∃ between : Option String,
    e'.aggregateType =
      Sql.separated "|" (e.aggregateType :: (e.place server ++ between.toList)) ∧
    e.idempotencyKey.getD "" =
      Sql.separated "|" (between.toList ++ e'.place server ++ [e'.idempotencyKey.getD ""])

variable {server : Server} {e e' : SessionEvent}

theorem SessionEvent.Agree.key (h : e.Agree e') : e.idempotencyKey = e'.idempotencyKey := by
  have hrow : { e with eventSha256 := e'.eventSha256 } = e' := h
  have hkey := congrArg SessionEvent.idempotencyKey hrow
  exact hkey

theorem SessionEvent.Agree.type (h : e.Agree e') : e.aggregateType = e'.aggregateType := by
  have hrow : { e with eventSha256 := e'.eventSha256 } = e' := h
  have htype := congrArg SessionEvent.aggregateType hrow
  exact htype

theorem hashText_eq (server : Server) (e : SessionEvent) :
    e.hashText server = Sql.separated "|" ([e.id.text, e.organizationId.text, e.aggregateType] ++
      e.place server ++ [e.idempotencyKey.getD "", Jsonb.text e.safeMetadata] ++ e.tail) := rfl

/-- The text of a timestamp has a colon and no bar, and tells the instants apart. -/
structure ClockText (server : Server) : Prop where
  injective : Function.Injective server.timestampText
  bar : ∀ t, '|' ∉ (server.timestampText t).toList
  colon : ∀ t, ':' ∈ (server.timestampText t).toList

/-! ## The fields without bars -/

theorem bar_not_mem_uuidText (id : Option Uuid) : '|' ∉ (uuidText id).toList := by
  cases id with
  | none => exact List.not_mem_nil
  | some id => exact Sql.bar_not_mem_uuid id

theorem bar_not_mem_natText (n : Nat) : '|' ∉ (Sql.natText n).toList := by
  rw [Sql.natText, String.toList_ofList]
  exact Sql.bar_not_mem_natText n

variable {s : String}

theorem bar_not_mem_hex (h : Js.isHexDigest s = true) : '|' ∉ s.toList := by
  intro hmem
  have hhex := List.all_eq_true.mp (Bool.and_eq_true_iff.mp h).2 '|' hmem
  exact absurd hhex (by decide)

theorem isEventType_chars (h : isEventType s = true) : '|' ∉ s.toList ∧ '.' ∈ s.toList := by
  obtain ⟨family, hfamily, h⟩ := List.any_eq_true.mp h
  simp only [Bool.and_eq_true] at h
  obtain ⟨⟨hstart, -⟩, hname⟩ := h
  obtain ⟨name, hs⟩ := List.isPrefixOf_iff_prefix.mp hstart
  rw [← hs, List.drop_left] at hname
  rw [← hs]
  refine ⟨fun hmem => ?_, by simp⟩
  rcases List.mem_append.mp hmem with hmem | hmem
  · have hnone : ∀ family ∈ eventFamilies, '|' ∉ family.toList ++ ['.'] := by decide
    exact hnone family hfamily hmem
  · exact absurd (List.all_eq_true.mp hname '|' hmem) (by decide)

theorem bar_not_mem_uuidsText (ids : List Uuid) : '|' ∉ (uuidsText ids).toList := by
  have hseparated : ∀ l : List Uuid, '|' ∉ (Sql.separated "," (l.map Uuid.text)).toList := by
    intro l
    induction l with
    | nil => exact List.not_mem_nil
    | cons id l ih =>
        cases l with
        | nil => exact Sql.bar_not_mem_uuid id
        | cons id' l =>
            simp only [List.map_cons, Sql.separated, String.toList_append, List.mem_append,
              not_or] at ih ⊢
            exact ⟨⟨Sql.bar_not_mem_uuid id, by decide⟩, ih⟩
  unfold uuidsText
  simp only [String.toList_append, List.mem_append, not_or]
  exact ⟨⟨by decide, hseparated ids⟩, by decide⟩

theorem checked_parts (he : e.checked = true) :
    isEventType e.eventType = true ∧ Js.isHexDigest e.payloadSha256 = true ∧
      ∀ s ∈ e.previousEventSha256, Js.isHexDigest s = true := by
  simp only [SessionEvent.checked, Bool.and_eq_true] at he
  obtain ⟨⟨⟨⟨⟨-, htype⟩, -⟩, -⟩, hpayload⟩, hprevious⟩ := he
  refine ⟨htype, hpayload, ?_⟩
  rintro s hs
  rw [hs] at hprevious
  exact hprevious

theorem bar_not_mem_place (hclock : ClockText server) (he : e.checked = true) :
    ∀ s ∈ e.place server, '|' ∉ s.toList := by
  intro s hs
  simp only [SessionEvent.place, List.mem_cons, List.not_mem_nil, or_false] at hs
  rcases hs with rfl | rfl | rfl | rfl | rfl | rfl | rfl
  · exact Sql.bar_not_mem_uuid _
  · exact bar_not_mem_natText _
  · exact (isEventType_chars (checked_parts he).1).1
  · exact bar_not_mem_uuidText _
  · exact bar_not_mem_uuidText _
  · cases e.clientOccurredAt with
    | none => exact List.not_mem_nil
    | some t => exact hclock.bar t
  · exact hclock.bar _

theorem bar_not_mem_tail (he : e.checked = true) : ∀ s ∈ e.tail, '|' ∉ s.toList := by
  obtain ⟨-, hpayload, hprevious⟩ := checked_parts he
  intro s hs
  simp only [SessionEvent.tail, List.mem_cons, List.not_mem_nil, or_false] at hs
  rcases hs with rfl | rfl | rfl | rfl | rfl | rfl | rfl
  · exact bar_not_mem_uuidsText _
  · exact bar_not_mem_uuidText _
  · exact bar_not_mem_natText _
  · exact bar_not_mem_hex hpayload
  · cases hp : e.previousEventSha256 with
    | none => exact List.not_mem_nil
    | some s => exact bar_not_mem_hex (hprevious s hp)
  · exact bar_not_mem_uuidText _
  · exact bar_not_mem_uuidText _

/-! ## What the fields tell -/

theorem uuidText_injective : Function.Injective uuidText := by
  have hne : ∀ id : Uuid, id.text ≠ "" := by
    intro id h
    have hlength := id.length_text
    rw [h] at hlength
    cases hlength
  intro a b h
  cases a with
  | none =>
      cases b with
      | none => rfl
      | some b => exact absurd h.symm (hne b)
  | some a =>
      cases b with
      | none => exact absurd h (hne a)
      | some b => rw [Uuid.text_injective h]

theorem uuidsText_injective : Function.Injective uuidsText := by
  have hlist : ∀ l l' : List Uuid, Sql.separated "," (l.map Uuid.text) =
      Sql.separated "," (l'.map Uuid.text) → l = l' := by
    -- each identifier is a text of 36 characters, and a comma follows if others do
    have hcons : ∀ (id : Uuid) (l : List Uuid),
        (Sql.separated "," ((id :: l).map Uuid.text)).toList = id.text.toList ++
          if l = [] then [] else ',' :: (Sql.separated "," (l.map Uuid.text)).toList := by
      intro id l
      cases l <;> simp [Sql.separated]
    intro l
    induction l with
    | nil =>
        intro l' h
        cases l' with
        | nil => rfl
        | cons id l' =>
            have hlength := congrArg (fun s : String => s.toList.length) h
            simp only [hcons, List.length_append, id.length_text] at hlength
            simp [Sql.separated] at hlength
            omega
    | cons id l ih =>
        intro l' h
        cases l' with
        | nil =>
            have hlength := congrArg (fun s : String => s.toList.length) h
            simp only [hcons, List.length_append, id.length_text] at hlength
            simp [Sql.separated] at hlength
        | cons id' l' =>
            have htext := congrArg String.toList h
            rw [hcons, hcons] at htext
            obtain ⟨hid, hrest⟩ := List.append_inj htext
              (id.length_text.trans id'.length_text.symm)
            rw [Uuid.text_injective (String.toList_inj.mp hid)]
            cases l with
            | nil =>
                cases l' with
                | nil => rfl
                | cons id₂ l' => cases hrest
            | cons id₁ l =>
                cases l' with
                | nil => cases hrest
                | cons id₂ l' =>
                    rw [ih (id₂ :: l') (String.toList_inj.mp (List.cons.inj hrest).2)]
  intro ids ids' h
  unfold uuidsText at h
  have hinner := (String.append_left_inj "\x7d").mp h
  exact hlist ids ids' ((String.append_right_inj "\x7b").mp hinner)

theorem previous_injective (he : e.checked = true) (he' : e'.checked = true)
    (h : e.previousEventSha256.getD "" = e'.previousEventSha256.getD "") :
    e.previousEventSha256 = e'.previousEventSha256 := by
  have hne : ∀ s : String, Js.isHexDigest s = true → s ≠ "" := by
    rintro s hs rfl
    exact absurd hs (by decide)
  have hprevious := (checked_parts he).2.2
  have hprevious' := (checked_parts he').2.2
  cases hp : e.previousEventSha256 with
  | none =>
      cases hp' : e'.previousEventSha256 with
      | none => rfl
      | some s' =>
          rw [hp, hp'] at h
          exact absurd h.symm (hne s' (hprevious' s' hp'))
  | some s =>
      cases hp' : e'.previousEventSha256 with
      | none =>
          rw [hp, hp'] at h
          exact absurd h (hne s (hprevious s hp))
      | some s' =>
          rw [hp, hp'] at h
          rw [show s = s' from h]

/-- The fields after the metadata agree where their texts do. -/
theorem tail_inj (he : e.checked = true) (he' : e'.checked = true) (h : e.tail = e'.tail) :
    e.protectedArtifactRefs = e'.protectedArtifactRefs ∧
      e.checkpointEventId = e'.checkpointEventId ∧ e.schemaVersion = e'.schemaVersion ∧
      e.payloadSha256 = e'.payloadSha256 ∧ e.previousEventSha256 = e'.previousEventSha256 ∧
      e.correlationId = e'.correlationId ∧ e.causationId = e'.causationId := by
  simp only [SessionEvent.tail, List.cons.injEq, and_true] at h
  obtain ⟨hrefs, hcheckpoint, hschema, hpayload, hprevious, hcorrelation, hcausation⟩ := h
  exact ⟨uuidsText_injective hrefs, uuidText_injective hcheckpoint,
    Sql.natText_injective hschema, hpayload, previous_injective he he' hprevious,
    uuidText_injective hcorrelation, uuidText_injective hcausation⟩

theorem clientText_injective (hclock : ClockText server) :
    Function.Injective fun t : Option Int => (t.map server.timestampText).getD "" := by
  have hne : ∀ t, server.timestampText t ≠ "" := by
    intro t h
    have hcolon := hclock.colon t
    rw [h] at hcolon
    cases hcolon
  intro a b h
  cases a with
  | none =>
      cases b with
      | none => rfl
      | some b => exact absurd h.symm (hne b)
  | some a =>
      cases b with
      | none => exact absurd h (hne a)
      | some b => rw [hclock.injective h]

/-- The fields from the aggregate id to the recorded time agree where their texts do. -/
theorem place_inj (hclock : ClockText server) (h : e.place server = e'.place server) :
    e.aggregateId = e'.aggregateId ∧ e.aggregateVersion = e'.aggregateVersion ∧
      e.eventType = e'.eventType ∧ e.sessionId = e'.sessionId ∧ e.actorId = e'.actorId ∧
      e.clientOccurredAt = e'.clientOccurredAt ∧ e.recordedAt = e'.recordedAt := by
  simp only [SessionEvent.place, List.cons.injEq, and_true] at h
  obtain ⟨haggregate, hversion, htype, hsession, hactor, hclient, hrecorded⟩ := h
  exact ⟨Uuid.text_injective haggregate, Sql.natText_injective hversion, htype,
    uuidText_injective hsession, uuidText_injective hactor,
    clientText_injective hclock hclient, hclock.injective hrecorded⟩

/-! ## Reading the text back -/

/-- The text up to the metadata. -/
def headText (server : Server) (e : SessionEvent) : String :=
  Sql.separated "|" ([e.id.text, e.organizationId.text, e.aggregateType] ++ e.place server ++
    [e.idempotencyKey.getD ""])

theorem hashText_split (server : Server) (e : SessionEvent) : e.hashText server =
    headText server e ++ "|" ++
      Sql.separated "|" (Jsonb.text e.safeMetadata :: e.tail) := by
  apply Sql.segments_injective
  rw [hashText_eq, headText, Sql.segments_bar, Sql.segments_separated (by simp),
    Sql.segments_separated (by simp), Sql.segments_separated (by simp)]
  simp only [List.flatMap_append, List.flatMap_cons, List.flatMap_nil, List.append_nil,
    List.append_assoc]

theorem segments_hashText (he : e.checked = true) : Sql.segments (e.hashText server) =
    Sql.segments (headText server e ++ "|" ++ Jsonb.text e.safeMetadata) ++
      e.tail.map String.toList := by
  rw [hashText_split, Sql.segments_bar, Sql.segments_bar,
    Sql.segments_separated (List.cons_ne_nil _ _), List.flatMap_cons,
    Sql.flatMap_segments (bar_not_mem_tail he), List.append_assoc]

theorem hashText_inj (he : e.checked = true) (he' : e'.checked = true)
    (h : e.hashText server = e'.hashText server) :
    headText server e = headText server e' ∧ e.safeMetadata = e'.safeMetadata ∧
      e.tail = e'.tail := by
  have hsegments := congrArg Sql.segments h
  rw [segments_hashText he, segments_hashText he'] at hsegments
  obtain ⟨hfront, htail⟩ := List.append_inj' hsegments rfl
  have hchars := congrArg String.toList (Sql.segments_injective hfront)
  simp only [String.toList_append, Jsonb.text, String.toList_ofList, List.append_assoc] at hchars
  obtain ⟨hhead, hmetadata⟩ := Jsonb.render_tail_cancel hchars
  exact ⟨String.toList_inj.mp hhead, hmetadata,
    (List.map_injective_iff.mpr fun _ _ => String.toList_inj.mp) htail⟩

theorem segments_head (server : Server) (e : SessionEvent) :
    Sql.segments (headText server e) =
      Sql.segments e.id.text ++ (Sql.segments e.organizationId.text ++
        (Sql.segments e.aggregateType ++ ((e.place server).flatMap Sql.segments ++
          Sql.segments (e.idempotencyKey.getD "")))) := by
  rw [headText, Sql.segments_separated (by simp)]
  simp only [List.flatMap_append, List.flatMap_cons, List.flatMap_nil, List.append_nil,
    List.append_assoc]

theorem segments_headText (hclock : ClockText server) (he : e.checked = true) :
    Sql.segments (headText server e) = e.id.text.toList :: e.organizationId.text.toList ::
      (Sql.segments e.aggregateType ++ ((e.place server).map String.toList ++
        Sql.segments (e.idempotencyKey.getD ""))) := by
  rw [segments_head, Sql.segments_of (Sql.bar_not_mem_uuid _),
    Sql.segments_of (Sql.bar_not_mem_uuid _), Sql.flatMap_segments (bar_not_mem_place hclock he)]
  rfl

/-- A text with a character that is no digit is no numeral. -/
theorem ne_natText {n : Nat} {c : Char} (hc : c ∈ s.toList) (hdigit : c.isDigit = false) :
    s.toList ≠ (Sql.natText n).toList := by
  intro h
  rw [h, Sql.natText, String.toList_ofList] at hc
  rw [Json.natText_isDigit n c hc] at hdigit
  cases hdigit

theorem nil_ne_natText (n : Nat) : "".toList ≠ (Sql.natText n).toList := by
  intro h
  have hnil : (Sql.natText n).toList = [] := h.symm
  rw [Sql.natText, String.toList_ofList] at hnil
  exact Json.natText_ne_nil n hnil

theorem uuidText_ne_natText (id : Option Uuid) (n : Nat) :
    (uuidText id).toList ≠ (Sql.natText n).toList := by
  cases id with
  | none => exact nil_ne_natText n
  | some id => exact ne_natText id.hyphen_mem rfl

theorem clientText_ne_natText (hclock : ClockText server) (t : Option Int) (n : Nat) :
    ((t.map server.timestampText).getD "").toList ≠ (Sql.natText n).toList := by
  cases t with
  | none => exact nil_ne_natText n
  | some t => exact ne_natText (hclock.colon t) rfl

/-- The fields of one row begin with those of the other or stand after them: of the places
between, five would make a numeral of another field, and the sixth an identifier of a time. -/
theorem place_overlap (hclock : ClockText server) (he : e.checked = true)
    {m r r' : List (List Char)} (hm : m ≠ [])
    (h : (e.place server).map String.toList ++ r =
      m ++ ((e'.place server).map String.toList ++ r')) :
    ∃ d, m = (e.place server).map String.toList ++ d ∧
      r = d ++ ((e'.place server).map String.toList ++ r') := by
  have htype := (isEventType_chars (checked_parts he).1).2
  have htime : (server.timestampText e.recordedAt).toList ≠ e'.aggregateId.text.toList := by
    intro heq
    rcases Uuid.mem_text (heq ▸ hclock.colon e.recordedAt) with h | h <;>
      exact absurd h (by decide)
  simp only [SessionEvent.place, List.map_cons, List.map_nil, List.cons_append,
    List.nil_append] at h ⊢
  rcases m with _ | ⟨m₁, _ | ⟨m₂, _ | ⟨m₃, _ | ⟨m₄, _ | ⟨m₅, _ | ⟨m₆, _ | ⟨m₇, d⟩⟩⟩⟩⟩⟩⟩
  · exact absurd rfl hm
  all_goals simp only [List.cons_append, List.nil_append, List.cons.injEq] at h
  · exact absurd h.2.2.1 (ne_natText htype rfl)
  · exact absurd h.2.2.2.1 (uuidText_ne_natText _ _)
  · exact absurd h.2.2.2.2.1 (uuidText_ne_natText _ _)
  · exact absurd h.2.2.2.2.2.1 (clientText_ne_natText hclock _ _)
  · exact absurd h.2.2.2.2.2.2.1 (ne_natText (hclock.colon _) rfl)
  · exact absurd h.2.2.2.2.2.2.1 htime
  · obtain ⟨rfl, rfl, rfl, rfl, rfl, rfl, rfl, hr⟩ := h
    exact ⟨d, rfl, hr⟩

/-- The aggregate type and the idempotency key of a row whose fields stand after the other's. -/
theorem exists_between (hclock : ClockText server) (he : e.checked = true)
    (he' : e'.checked = true) {d : List (List Char)}
    (htype : Sql.segments e'.aggregateType =
      Sql.segments e.aggregateType ++ ((e.place server).map String.toList ++ d))
    (hkey : Sql.segments (e.idempotencyKey.getD "") =
      d ++ ((e'.place server).map String.toList ++
        Sql.segments (e'.idempotencyKey.getD ""))) :
    ∃ between : Option String,
      e'.aggregateType =
        Sql.separated "|" (e.aggregateType :: (e.place server ++ between.toList)) ∧
      e.idempotencyKey.getD "" =
        Sql.separated "|" (between.toList ++ e'.place server ++
          [e'.idempotencyKey.getD ""]) := by
  have hplace := Sql.flatMap_segments (bar_not_mem_place hclock he)
  have hplace' := Sql.flatMap_segments (bar_not_mem_place hclock he')
  have hd : ∃ between : Option String, between.toList.flatMap Sql.segments = d := by
    by_cases hnil : d = []
    · exact ⟨none, hnil.symm⟩
    · obtain ⟨between, hbetween⟩ := Sql.exists_segments hnil fun w hw =>
        Sql.bar_not_mem_segment (hkey ▸ List.mem_append_left _ hw)
      exact ⟨some between, by simp [hbetween]⟩
  obtain ⟨between, rfl⟩ := hd
  refine ⟨between, Sql.segments_injective ?_, Sql.segments_injective ?_⟩
  · rw [htype, Sql.segments_separated (List.cons_ne_nil _ _), List.flatMap_cons,
      List.flatMap_append, hplace]
  · rw [hkey, Sql.segments_separated (by simp), List.flatMap_append, List.flatMap_append, hplace',
      List.append_assoc, List.flatMap_singleton]

/-- Two readings of one text: the fields stand at the same place, or those of one row inside the
idempotency key of the other. -/
theorem head_cases (hclock : ClockText server) (he : e.checked = true) (he' : e'.checked = true)
    (h : headText server e = headText server e') :
    e.id = e'.id ∧ e.organizationId = e'.organizationId ∧
      ((e.aggregateType = e'.aggregateType ∧ e.place server = e'.place server ∧
          e.idempotencyKey.getD "" = e'.idempotencyKey.getD "") ∨
        (∃ between : Option String,
          e'.aggregateType =
            Sql.separated "|" (e.aggregateType :: (e.place server ++ between.toList)) ∧
          e.idempotencyKey.getD "" =
            Sql.separated "|" (between.toList ++ e'.place server ++
              [e'.idempotencyKey.getD ""])) ∨
        ∃ between : Option String,
          e.aggregateType =
            Sql.separated "|" (e'.aggregateType :: (e'.place server ++ between.toList)) ∧
          e'.idempotencyKey.getD "" =
            Sql.separated "|" (between.toList ++ e.place server ++
              [e.idempotencyKey.getD ""])) := by
  have hsegments := congrArg Sql.segments h
  rw [segments_headText hclock he, segments_headText hclock he'] at hsegments
  obtain ⟨hid, hsegments⟩ := List.cons.inj hsegments
  obtain ⟨horganization, hsegments⟩ := List.cons.inj hsegments
  refine ⟨Uuid.text_injective (String.toList_inj.mp hid),
    Uuid.text_injective (String.toList_inj.mp horganization), ?_⟩
  rcases List.append_eq_append_iff.mp hsegments with ⟨m, htype, hrest⟩ | ⟨m, htype, hrest⟩
  · by_cases hm : m = []
    · rw [hm, List.append_nil] at htype
      rw [hm, List.nil_append] at hrest
      obtain ⟨hplace, hkey⟩ := List.append_inj hrest rfl
      exact .inl ⟨Sql.segments_injective htype.symm,
        (List.map_injective_iff.mpr fun _ _ => String.toList_inj.mp) hplace,
        Sql.segments_injective hkey⟩
    · obtain ⟨d, rfl, hkey⟩ := place_overlap hclock he hm hrest
      exact .inr (.inl (exists_between hclock he he' htype hkey))
  · by_cases hm : m = []
    · rw [hm, List.append_nil] at htype
      rw [hm, List.nil_append] at hrest
      obtain ⟨hplace, hkey⟩ := List.append_inj hrest rfl
      exact .inl ⟨Sql.segments_injective htype,
        (List.map_injective_iff.mpr fun _ _ => String.toList_inj.mp) hplace.symm,
        Sql.segments_injective hkey.symm⟩
    · obtain ⟨d, rfl, hkey⟩ := place_overlap hclock he' hm hrest
      exact .inr (.inr (exists_between hclock he' he htype hkey))

/-! ## The main result -/

/-- Fields that agree around, with one text in between, are hashed alike. -/
theorem hashText_of_agreeAround (h : e.AgreeAround e')
    (hhead : headText server e = headText server e') :
    e.hashText server = e'.hashText server := by
  obtain ⟨-, -, hmetadata, hrefs, hcheckpoint, hschema, hpayload, hprevious, hcorrelation,
    hcausation⟩ := h
  rw [hashText_split, hashText_split, hhead, hmetadata, SessionEvent.tail, SessionEvent.tail, hrefs,
    hcheckpoint, hschema, hpayload, hprevious, hcorrelation, hcausation]

/-- Rows whose fields stand one after the other are hashed alike, and differ. -/
theorem hashText_of_shifted (h : e.Shifted server e') :
    e.hashText server = e'.hashText server ∧ e.aggregateType ≠ e'.aggregateType := by
  obtain ⟨hagree, between, htype, hkey⟩ := h
  refine ⟨hashText_of_agreeAround hagree (Sql.segments_injective ?_), fun hsame => ?_⟩
  · rw [segments_head, segments_head, htype, hkey, hagree.1, hagree.2.1,
      Sql.segments_separated (by simp), Sql.segments_separated (by simp)]
    simp only [List.flatMap_append, List.flatMap_cons, List.flatMap_nil, List.append_nil,
      List.append_assoc]
  · have hlength := congrArg (fun s => (Sql.segments s).length) htype
    have hsome := List.length_pos_of_ne_nil (Sql.segments_ne_nil e.aggregateId.text)
    simp only [← hsame, Sql.segments_separated (List.cons_ne_nil _ _), SessionEvent.place,
      List.flatMap_append, List.flatMap_cons, List.length_append, List.cons_append] at hlength
    omega

theorem hashText_of_emptyKey (server : Server) (h : e.EmptyKey e') :
    e.hashText server = e'.hashText server ∧ e.idempotencyKey ≠ e'.idempotencyKey := by
  obtain ⟨hrest, hkeys⟩ := h
  have htext : e.idempotencyKey.getD "" = e'.idempotencyKey.getD "" := by
    rcases hkeys with ⟨hnone, hempty⟩ | ⟨hempty, hnone⟩ <;> rw [hnone, hempty] <;> rfl
  have hdiffer : e.idempotencyKey ≠ e'.idempotencyKey := by
    rcases hkeys with ⟨hnone, hempty⟩ | ⟨hempty, hnone⟩ <;> rw [hnone, hempty] <;> decide
  refine ⟨?_, hdiffer⟩
  have hhash : ({ e with
      eventSha256 := e'.eventSha256
      idempotencyKey := e'.idempotencyKey }).hashText server = e.hashText server := by
    unfold SessionEvent.hashText
    dsimp only
    rw [htext]
  rw [← hhash, hrest]

/-- Two readings at one place differ in the absence of the key at most. -/
theorem agree_or_emptyKey (hagree : e.AgreeAround e') (htype : e.aggregateType = e'.aggregateType)
    (hclock : ClockText server) (hplace : e.place server = e'.place server)
    (hkey : e.idempotencyKey.getD "" = e'.idempotencyKey.getD "") :
    e.Agree e' ∨ e.EmptyKey e' := by
  obtain ⟨haggregate, hversion, hevent, hsession, hactor, hclient, hrecorded⟩ :=
    place_inj hclock hplace
  obtain ⟨hid, horganization, hmetadata, hrefs, hcheckpoint, hschema, hpayload, hprevious,
    hcorrelation, hcausation⟩ := hagree
  have hrest : { e with
      eventSha256 := e'.eventSha256
      idempotencyKey := e'.idempotencyKey } = e' := by
    cases e
    cases e'
    dsimp only at *
    subst_vars
    rfl
  by_cases hsame : e.idempotencyKey = e'.idempotencyKey
  · left
    unfold SessionEvent.Agree
    rw [← hrest, hsame]
  · right
    refine ⟨hrest, ?_⟩
    cases hk : e.idempotencyKey with
    | none =>
        cases hk' : e'.idempotencyKey with
        | none => exact absurd (hk.trans hk'.symm) hsame
        | some k' =>
            rw [hk, hk'] at hkey
            exact .inl ⟨rfl, congrArg some (hkey : "" = k').symm⟩
    | some k =>
        cases hk' : e'.idempotencyKey with
        | none =>
            rw [hk, hk'] at hkey
            exact .inr ⟨congrArg some (hkey : k = ""), rfl⟩
        | some k' =>
            rw [hk, hk'] at hkey
            exact absurd (hk.trans ((congrArg some (hkey : k = k')).trans hk'.symm)) hsame

/-- **The digest of an event.** Rows of one digest agree on every field that is hashed exactly
when they are no pair of an absent and an empty idempotency key, and neither has in its
idempotency key the fields that the other begins with after its own aggregate type. -/
theorem event_digest_iff (server : Server) (hsha : Function.Injective server.sha256)
    (hclock : ClockText server) (e e' : SessionEvent) (he : e.checked = true)
    (he' : e'.checked = true) :
    (server.sha256 (e.hashText server) = server.sha256 (e'.hashText server) → e.Agree e') ↔
      ¬ e.EmptyKey e' ∧ ¬ e.Shifted server e' ∧ ¬ e'.Shifted server e := by
  constructor
  · intro hclaim
    refine ⟨fun hempty => ?_, fun hshift => ?_, fun hshift => ?_⟩
    · obtain ⟨htext, hne⟩ := hashText_of_emptyKey server hempty
      exact hne (hclaim (congrArg server.sha256 htext)).key
    · obtain ⟨htext, hne⟩ := hashText_of_shifted hshift
      exact hne (hclaim (congrArg server.sha256 htext)).type
    · obtain ⟨htext, hne⟩ := hashText_of_shifted hshift
      exact hne (hclaim (congrArg server.sha256 htext.symm)).type.symm
  · rintro ⟨hempty, hshift, hshift'⟩ hdigest
    obtain ⟨hhead, hmetadata, htail⟩ := hashText_inj he he' (hsha hdigest)
    obtain ⟨hrefs, hcheckpoint, hschema, hpayload, hprevious, hcorrelation, hcausation⟩ :=
      tail_inj he he' htail
    obtain ⟨hid, horganization, hcases⟩ := head_cases hclock he he' hhead
    have hagree : e.AgreeAround e' := ⟨hid, horganization, hmetadata, hrefs, hcheckpoint, hschema,
      hpayload, hprevious, hcorrelation, hcausation⟩
    rcases hcases with ⟨htype, hplace, hkey⟩ | hbetween | hbetween
    · exact (agree_or_emptyKey hagree htype hclock hplace hkey).resolve_right hempty
    · exact absurd ⟨hagree, hbetween⟩ hshift
    · have hagree' : e'.AgreeAround e := ⟨hid.symm, horganization.symm, hmetadata.symm, hrefs.symm,
        hcheckpoint.symm, hschema.symm, hpayload.symm, hprevious.symm, hcorrelation.symm,
        hcausation.symm⟩
      exact absurd ⟨hagree', hbetween⟩ hshift'

namespace Sample

def halfPastEight : Int := 1784017800000000

/-- The server's text of that time; the others are told apart. -/
def clockText (t : Int) : String :=
  if t = halfPastEight then "2026-07-14 08:30:00+00" else String.ofList (':' :: Json.intText t)

/-- An event without an idempotency key. -/
def created : SessionEvent where
  id := ⟨"aaaaaaaa-0000-0000-0000-000000000001", @rfl _ true⟩
  organizationId := ⟨"bbbbbbbb-0000-0000-0000-000000000001", by decide⟩
  aggregateType := "report"
  aggregateId := ⟨"cccccccc-0000-0000-0000-000000000001", by decide⟩
  aggregateVersion := 1
  sessionId := none
  eventType := "report.created"
  actorId := none
  clientOccurredAt := none
  recordedAt := halfPastEight
  idempotencyKey := none
  safeMetadata := .obj []
  protectedArtifactRefs := []
  correlationId := none
  causationId := none
  schemaVersion := 1
  payloadSha256 := "44136fa355b3678a1146ad16f7e8649e94fb4fc21fe77e8310c060f61caaff8a"
  previousEventSha256 := none
  checkpointEventId := none
  eventSha256 := "180dfb66cebbf99cb12f1065114dcf47ecfc7daf2a4bd64b670d5fcd52fecdac"

/-- The event with an empty key. -/
def createdEmpty : SessionEvent := { created with idempotencyKey := some "" }

def eventServer : Server where
  sha256 := digestOf [(created.hashText ⟨id, clockText⟩, created.eventSha256)]
  timestampText := clockText

theorem eventServer_injective : Function.Injective eventServer.sha256 :=
  digestOf_injective (List.nodup_singleton _) (by decide +kernel)

theorem clockText_clock : ClockText eventServer where
  injective := by
    have hother : ∀ t, "2026-07-14 08:30:00+00" ≠ String.ofList (':' :: Json.intText t) := by
      intro t h
      have hlist : "2026-07-14 08:30:00+00".toList = ':' :: Json.intText t := by
        rw [h, String.toList_ofList]
      exact absurd (List.cons.inj hlist).1 (by decide)
    intro a b h
    have htext : clockText a = clockText b := h
    unfold clockText at htext
    split at htext <;> split at htext
    · next ha hb => rw [ha, hb]
    · exact absurd htext (hother b)
    · exact absurd htext.symm (hother a)
    · exact Json.intText_injective (List.cons.inj (String.ofList_injective htext)).2
  bar := by
    intro t
    show '|' ∉ (clockText t).toList
    unfold clockText
    split
    · decide
    · rw [String.toList_ofList]
      intro hmem
      rcases List.mem_cons.mp hmem with hmem | hmem
      · exact absurd hmem (by decide)
      · rcases Json.intText_chars t _ hmem with h | h <;> exact absurd h (by decide)
  colon := by
    intro t
    show ':' ∈ (clockText t).toList
    unfold clockText
    split
    · decide
    · rw [String.toList_ofList]
      exact List.mem_cons_self

/-- The two events have one digest, and differ in the key. -/
theorem empty_key_unnoticed :
    ¬ ∀ server : Server, Function.Injective server.sha256 → ClockText server →
      ∀ e e' : SessionEvent, e.checked = true → e'.checked = true →
        server.sha256 (e.hashText server) = server.sha256 (e'.hashText server) → e.Agree e' := by
  intro hclaim
  have hagree := hclaim eventServer eventServer_injective clockText_clock created createdEmpty
    (by decide +kernel) (by decide +kernel) rfl
  exact absurd hagree.key (by decide)

theorem event_digest_iff_created :
    (eventServer.sha256 (created.hashText eventServer) =
        eventServer.sha256 (createdEmpty.hashText eventServer) → created.Agree createdEmpty) ↔
      ¬ created.EmptyKey createdEmpty ∧ ¬ created.Shifted eventServer createdEmpty ∧
        ¬ createdEmpty.Shifted eventServer created :=
  event_digest_iff eventServer eventServer_injective clockText_clock created createdEmpty
    (by decide +kernel) (by decide +kernel)

end Sample

end InspectionHub.Database
