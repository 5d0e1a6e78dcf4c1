import InspectionHub.Database.Modules
import InspectionHub.Lib.Jsonb

/-!
# Session events

`session_events` of `20260714000300_u2_reports_continuity.sql` and
`u2_prepare_session_event` of `20260714000400_u2_integrity_and_rls.sql`: each
aggregate has a stream of events, numbered from one and linked by hashes
(`Streams`), whoever inserts them.

The digest and the text of a timestamp are the server's.
-/

namespace InspectionHub.Database

/-- Functions of the server. -/
structure Server where
  sha256 : String → String
  timestampText : Int → String

/-! ## Rows -/

structure SessionEvent where
  id : Uuid
  organizationId : Uuid
  aggregateType : String
  aggregateId : Uuid
  aggregateVersion : Nat
  sessionId : Option Uuid
  eventType : String
  actorId : Option Uuid
  clientOccurredAt : Option Int
  recordedAt : Int
  idempotencyKey : Option String
  safeMetadata : JsVal
  protectedArtifactRefs : List Uuid
  correlationId : Option Uuid
  causationId : Option Uuid
  schemaVersion : Nat
  payloadSha256 : String
  previousEventSha256 : Option String
  checkpointEventId : Option Uuid
  eventSha256 : String
deriving DecidableEq

/-- Two events at one place of one stream. -/
def SessionEvent.samePlace (a b : SessionEvent) : Prop :=
  a.organizationId = b.organizationId ∧ a.aggregateType = b.aggregateType ∧
    a.aggregateId = b.aggregateId ∧ a.aggregateVersion = b.aggregateVersion

/-- Two events of one tenant under one idempotency key. -/
def SessionEvent.sameKey (a b : SessionEvent) : Prop :=
  a.organizationId = b.organizationId ∧ a.idempotencyKey ≠ none ∧
    a.idempotencyKey = b.idempotencyKey

/-- `primary key (id)`,
`unique (organization_id, aggregate_type, aggregate_id, aggregate_version)`,
`unique (organization_id, idempotency_key) where idempotency_key is not null` -/
def SessionEvent.clash (a b : SessionEvent) : Prop := a.id = b.id ∨ a.samePlace b ∨ a.sameKey b

instance : DecidableRel SessionEvent.samePlace := fun _ _ => inferInstanceAs (Decidable (_ ∧ _))
instance : DecidableRel SessionEvent.sameKey := fun _ _ => inferInstanceAs (Decidable (_ ∧ _))
instance : DecidableRel SessionEvent.clash := fun _ _ => inferInstanceAs (Decidable (_ ∨ _))

/-- The first part of an event's type. -/
def eventFamilies : List String :=
  ["booking", "agreement", "payment", "access", "inspection", "area", "artifact", "investigation",
    "transcription", "agent", "tool", "verifier", "finding", "approval", "report", "delivery",
    "recipient_access", "amendment", "system"]

/-- A lower-case letter, a digit or an underscore. -/
def isEventNameChar (c : Char) : Bool := c.isLower || c.isDigit || c == '_'

/-- `event_type ~ '^(booking|…|system)\.[a-z0-9_]+$'` -/
def isEventType (s : String) : Bool :=
  eventFamilies.any fun family =>
    let start := family.toList ++ ['.']
    let name := s.toList.drop start.length
    start.isPrefixOf s.toList && name ≠ [] && name.all isEventNameChar

/-- The check constraints of `session_events`; the event's own hash always has
the form its column asks for. -/
def SessionEvent.checked (e : SessionEvent) : Bool :=
  decide (trimmedWithin 1 120 e.aggregateType) && 0 < e.aggregateVersion &&
    isEventType e.eventType && (Jsonb.object? e.safeMetadata).isSome && 0 < e.schemaVersion &&
    Js.isHexDigest e.payloadSha256 && e.previousEventSha256.all Js.isHexDigest

abbrev SessionEventTable := Sql.Table SessionEvent SessionEvent.clash

/-! ## Inserting -/

/-- `ids::text` of an array -/
def uuidsText (ids : List Uuid) : String :=
  "\x7b" ++ Sql.separated "," (ids.map Uuid.text) ++ "\x7d"

/-- `coalesce(id::text, '')` -/
def uuidText (id : Option Uuid) : String := (id.map Uuid.text).getD ""

/-- What the hash of an event is taken of. -/
def SessionEvent.hashText (server : Server) (e : SessionEvent) : String :=
  Sql.separated "|" [e.id.text, e.organizationId.text, e.aggregateType, e.aggregateId.text,
    Sql.natText e.aggregateVersion, e.eventType, uuidText e.sessionId, uuidText e.actorId,
    (e.clientOccurredAt.map server.timestampText).getD "", server.timestampText e.recordedAt,
    e.idempotencyKey.getD "", Jsonb.text e.safeMetadata, uuidsText e.protectedArtifactRefs,
    uuidText e.checkpointEventId, Sql.natText e.schemaVersion, e.payloadSha256,
    e.previousEventSha256.getD "", uuidText e.correlationId, uuidText e.causationId]

/-- The events of an aggregate, in the order they were inserted. -/
def streamOf (events : List SessionEvent) (organizationId : Uuid) (aggregateType : String)
    (aggregateId : Uuid) : List SessionEvent :=
  events.filter fun e => e.organizationId = organizationId ∧ e.aggregateType = aggregateType ∧
    e.aggregateId = aggregateId

/-- The event of the greatest version. -/
def headOf (stream : List SessionEvent) : Option SessionEvent :=
  stream.find? fun e =>
    e.aggregateVersion = Sql.maxOf (stream.map SessionEvent.aggregateVersion)

/-- `u2_prepare_session_event` -/
def prepareSessionEvent (server : Server) (now : Int) (events : List SessionEvent)
    (e : SessionEvent) : Except Sql.Error SessionEvent := do
  let stream := streamOf events e.organizationId e.aggregateType e.aggregateId
  let previousRow := headOf stream
  let expectedVersion := (previousRow.map SessionEvent.aggregateVersion).getD 0 + 1
  Sql.raiseIf (e.aggregateVersion ≠ expectedVersion) "23514"
    ("event version gap or reorder: expected " ++ Sql.natText expectedVersion)
  Sql.raiseIf (expectedVersion = 1 ∧ e.previousEventSha256 ≠ none) "23514"
    "first event cannot claim a previous event hash"
  Sql.raiseIf (1 < expectedVersion ∧
      e.previousEventSha256 ≠ previousRow.map SessionEvent.eventSha256) "23514"
    "previous event hash does not match aggregate head"
  Sql.raiseIf (∃ id ∈ e.checkpointEventId, ¬ ∃ c ∈ stream, c.id = id ∧
      c.aggregateVersion < e.aggregateVersion) "23514"
    "checkpoint must reference an earlier event in the same aggregate"
  let recorded := { e with recordedAt := now }
  return { recorded with eventSha256 := server.sha256 (recorded.hashText server) }

/-- Sixty-four noughts, which the trigger replaces. -/
def placeholderSha : String := String.ofList (List.replicate 64 '0')

/-- `insert into session_events` -/
def insertSessionEvent (server : Server) (now : Int) (e : SessionEvent) (t : SessionEventTable) :
    Except Sql.Error SessionEventTable := do
  let prepared ← prepareSessionEvent server now t.rows e
  Sql.raiseIf (¬ prepared.checked) "23514" "session_events"
  let next ← t.insert "session_events" prepared
  return next.1

/-! ## Streams -/

/-- Each event names the hash of the one before, the first `previous`. -/
def Linked : Option String → List SessionEvent → Prop
  | _, [] => True
  | previous, e :: l => e.previousEventSha256 = previous ∧ Linked (some e.eventSha256) l

variable {l : List SessionEvent} {e : SessionEvent}

theorem Linked.snoc {previous : Option String} (h : Linked previous l)
    (he : e.previousEventSha256 = (l.getLast?.map SessionEvent.eventSha256).or previous) :
    Linked previous (l ++ [e]) := by
  induction l generalizing previous with
  | nil => exact ⟨he, trivial⟩
  | cons first l ih =>
      refine ⟨h.1, ih h.2 ?_⟩
      rw [he]
      cases l with
      | nil => rfl
      | cons second l =>
          rw [List.getLast?_cons_cons]
          obtain ⟨last, hlast⟩ := Option.isSome_iff_exists.mp (List.getLast?_isSome.mpr
            (List.cons_ne_nil second l))
          rw [hlast]
          rfl

/-- The events of an aggregate are numbered from one and linked. -/
structure Stream (l : List SessionEvent) : Prop where
  numbered : Numbered SessionEvent.aggregateVersion l
  linked : Linked none l

theorem Stream.nil : Stream [] := ⟨.nil _, trivial⟩

theorem Stream.snoc (h : Stream l) (hversion : e.aggregateVersion = l.length + 1)
    (hprevious : e.previousEventSha256 = l.getLast?.map SessionEvent.eventSha256) :
    Stream (l ++ [e]) :=
  ⟨h.numbered.snoc hversion, h.linked.snoc (by rw [hprevious, Option.or_none])⟩

/-- The head of a stream is its last event. -/
theorem Stream.headOf (h : Stream l) : headOf l = l.getLast? :=
  Sql.find?_maxOf_numbered h.numbered

/-- The version an insert is asked for. -/
theorem Stream.expectedVersion (h : Stream l) :
    ((Database.headOf l).map SessionEvent.aggregateVersion).getD 0 = l.length := by
  rw [h.headOf]
  cases hlast : l.getLast? with
  | none =>
      rw [List.getLast?_eq_none_iff.mp hlast]
      rfl
  | some e => exact Sql.number_getLast h.numbered hlast

/-- Every aggregate has a stream. -/
def Streams (events : List SessionEvent) : Prop :=
  ∀ organizationId aggregateType aggregateId,
    Stream (streamOf events organizationId aggregateType aggregateId)

theorem Streams.nil : Streams [] := fun _ _ _ => Stream.nil

theorem streamOf_snoc (events : List SessionEvent) (e : SessionEvent) (organizationId : Uuid)
    (aggregateType : String) (aggregateId : Uuid) :
    streamOf (events ++ [e]) organizationId aggregateType aggregateId =
      streamOf events organizationId aggregateType aggregateId ++
        if e.organizationId = organizationId ∧ e.aggregateType = aggregateType ∧
          e.aggregateId = aggregateId then [e] else [] := by
  rw [streamOf, List.filter_append]
  simp only [List.filter_cons, decide_eq_true_eq, List.filter_nil]
  rfl

/-- What the trigger lets through: the event at the next place of its stream,
with its time and its hash. -/
structure Prepared (server : Server) (now : Int) (stream : List SessionEvent)
    (e prepared : SessionEvent) : Prop where
  version : e.aggregateVersion = stream.length + 1
  previous : e.previousEventSha256 = stream.getLast?.map SessionEvent.eventSha256
  row : prepared = { e with
    recordedAt := now
    eventSha256 := server.sha256 ({ e with recordedAt := now }.hashText server) }

variable {server : Server} {now : Int}

theorem prepareSessionEvent_ok {events : List SessionEvent} {e prepared : SessionEvent}
    (hstream : Stream (streamOf events e.organizationId e.aggregateType e.aggregateId))
    (h : prepareSessionEvent server now events e = .ok prepared) :
    Prepared server now (streamOf events e.organizationId e.aggregateType e.aggregateId) e
      prepared := by
  obtain ⟨hversion, h⟩ := Sql.check_ok h
  obtain ⟨hfirst, h⟩ := Sql.check_ok h
  obtain ⟨hnext, h⟩ := Sql.check_ok h
  obtain ⟨-, h⟩ := Sql.check_ok h
  cases h
  rw [hstream.expectedVersion] at hversion hfirst hnext
  rw [hstream.headOf] at hnext
  refine ⟨not_not.mp hversion, ?_, rfl⟩
  cases hstream' : streamOf events e.organizationId e.aggregateType e.aggregateId with
  | nil =>
      rw [hstream'] at hfirst
      by_contra hsome
      exact hfirst ⟨rfl, hsome⟩
  | cons first rest =>
      rw [hstream'] at hnext
      by_contra hother
      exact hnext ⟨by simp, hother⟩

/-- An inserted event extends its own stream and no other. -/
theorem insertSessionEvent_ok {t t' : SessionEventTable} (hstreams : Streams t.rows)
    (h : insertSessionEvent server now e t = .ok t') :
    ∃ prepared, t'.rows = t.rows ++ [prepared] ∧
      Prepared server now (streamOf t.rows e.organizationId e.aggregateType e.aggregateId) e
        prepared ∧ Streams t'.rows := by
  obtain ⟨prepared, hprepare, h⟩ := Sql.bind_ok h
  obtain ⟨-, h⟩ := Sql.check_ok h
  obtain ⟨next, -, hdone⟩ := Sql.bind_ok h
  cases hdone
  have hprepared := prepareSessionEvent_ok (hstreams _ _ _) hprepare
  refine ⟨prepared, next.2, hprepared, fun org aggregateType aggregateId => ?_⟩
  rw [next.2, streamOf_snoc, hprepared.row]
  split
  · next hsame =>
      obtain ⟨rfl, rfl, rfl⟩ := hsame
      exact (hstreams _ _ _).snoc hprepared.version hprepared.previous
  · rw [List.append_nil]
    exact hstreams org aggregateType aggregateId

/-- An event at the next place of its stream is accepted, when its row passes the
constraints. -/
theorem insertSessionEvent_accepts {e prepared : SessionEvent} {t : SessionEventTable}
    (hstream : Stream (streamOf t.rows e.organizationId e.aggregateType e.aggregateId))
    (hprepared : Prepared server now
      (streamOf t.rows e.organizationId e.aggregateType e.aggregateId) e prepared)
    (hcheckpoint : e.checkpointEventId = none) (hchecked : prepared.checked = true)
    (hfresh : ∀ a ∈ t.rows, ¬ a.clash prepared) :
    ∃ t', insertSessionEvent server now e t = .ok t' := by
  have hprepare : prepareSessionEvent server now t.rows e = .ok prepared := by
    unfold prepareSessionEvent
    dsimp only
    rw [hstream.expectedVersion, hstream.headOf, Sql.check_of (by rw [hprepared.version]; simp)]
    have hfirst : ¬ ((streamOf t.rows e.organizationId e.aggregateType e.aggregateId).length + 1 =
        1 ∧ e.previousEventSha256 ≠ none) := by
      rintro ⟨hnone, hsome⟩
      rw [hprepared.previous, List.length_eq_zero_iff.mp (Nat.succ.inj hnone)] at hsome
      exact hsome rfl
    rw [Sql.check_of hfirst, Sql.check_of (by simp [hprepared.previous]),
      Sql.check_of (by simp [hcheckpoint]), hprepared.row]
    rfl
  unfold insertSessionEvent
  rw [Sql.bind_of hprepare, Sql.check_of (by simp [hchecked]),
    Sql.bind_of (Sql.Table.insert_of hfresh _)]
  exact ⟨_, rfl⟩

/-- No event of a stream has the place after its last. -/
theorem Stream.not_samePlace {rows : List SessionEvent}
    (h : Stream (streamOf rows e.organizationId e.aggregateType e.aggregateId))
    (hversion : e.aggregateVersion =
      (streamOf rows e.organizationId e.aggregateType e.aggregateId).length + 1) :
    ∀ a ∈ rows, ¬ a.samePlace e := by
  rintro a ha ⟨horganization, htype, hid, hsame⟩
  have hmem : a ∈ streamOf rows e.organizationId e.aggregateType e.aggregateId :=
    List.mem_filter.mpr ⟨ha, decide_eq_true ⟨horganization, htype, hid⟩⟩
  have hle := Sql.le_maxOf (List.mem_map_of_mem (f := SessionEvent.aggregateVersion) hmem)
  rw [Sql.maxOf_numbered h.numbered, hsame, hversion] at hle
  omega

end InspectionHub.Database
