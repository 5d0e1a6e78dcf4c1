import InspectionHub.Database.Investigations
import InspectionHub.Lib.Digest
import InspectionHub.Lib.TSys

/-!
# Investigations and their events stay in step

The revisions of an investigation always form a legal history. Its event stream
mirrors them, and the next revision is accepted, as long as no one else writes
to a stream of type `investigation` or under the key of a revision
(`revisions_in_step`); the policy on `session_events` lets an inspector do both.
-/

namespace InspectionHub.Database

open Inspection (InvestigationStatus)

namespace InvestigationTables

variable {server : Server} {db db' : InvestigationTables}

/-! ## Runs -/

def empty : InvestigationTables := ⟨⟨[], [], [], []⟩, .empty, .empty, .empty⟩

inductive InvestigationStep where
  | start (i : InvestigationRow)
  | revise (call : RevisionCall) (r : InvestigationRevision)
  | event (writer : Option Uuid) (now : Int) (e : SessionEvent)
  | other (context : InvestigationContext)

/-- A raised error leaves the tables as they were. -/
def perform (server : Server) (db : InvestigationTables) :
    InvestigationStep → InvestigationTables
  | .start i => (insertInvestigation i db).toOption.getD db
  | .revise call r => (insertInvestigationRevision server call r db).toOption.getD db
  | .event writer now e => (insertEvent server writer now e db).toOption.getD db
  | .other context => { db with context }

def investigationSystem (server : Server) : TSys InvestigationTables InvestigationStep :=
  .ofFun .empty (perform server)

/-- A direct insert keeps to other streams and other keys. -/
def KeepsOff : InvestigationTables → InvestigationStep → Prop
  | _, .event _ _ e => e.aggregateType ≠ "investigation" ∧
      ∀ investigationId revision, e.idempotencyKey ≠ some (revisionKey investigationId revision)
  | _, _ => True

/-! ## Legal histories -/

/-- A revision the triggers let follow another. -/
structure Follows (previous r : InvestigationRevision) : Prop where
  revision : r.revision = previous.revision + 1
  expected : r.expectedPreviousRevision = some previous.revision
  open_ : isCompleted previous.status = false
  resumed : previous.status = .paused → r.status = .active
  area : r.currentAreaId ≠ previous.currentAreaId → previous.status = .active ∧ r.status = .active

/-- Revisions 0 to n: the first active, each other following the one before. -/
structure Legal (l : List InvestigationRevision) : Prop where
  numbered : Numbered (fun r => r.revision + 1) l
  first : ∀ r ∈ l.head?, r.status = .active
  follows : l.IsChain Follows

theorem Legal.nil : Legal [] := ⟨.nil _, fun _ h => (nomatch h), .nil⟩

variable {r : InvestigationRevision}

/-- No revision comes after a completed one. -/
theorem Legal.completed_last {before after : List InvestigationRevision}
    (h : Legal (before ++ r :: after)) (hcompleted : isCompleted r.status = true) : after = [] := by
  cases after with
  | nil => rfl
  | cons next after =>
      have hchain := (List.isChain_append.mp h.follows).2.1
      have hfollows := (List.isChain_cons_cons.mp hchain).1
      rw [hfollows.open_] at hcompleted
      cases hcompleted

/-- The rules of `u5_validate_investigation_revision`. -/
def NextAfter (l : List InvestigationRevision) (r : InvestigationRevision) : Prop :=
  match l.getLast? with
  | none => r.revision = 0 ∧ r.expectedPreviousRevision = none ∧ r.status = .active
  | some previous => Follows previous r

theorem Legal.snoc {l : List InvestigationRevision} (h : Legal l) (hnext : NextAfter l r) :
    Legal (l ++ [r]) := by
  unfold NextAfter at hnext
  cases hlast : l.getLast? with
  | none =>
      rw [hlast] at hnext
      rw [List.getLast?_eq_none_iff.mp hlast]
      obtain ⟨hrevision, -, hactive⟩ := hnext
      refine ⟨Numbered.nil _ |>.snoc (by rw [hrevision]; rfl), ?_, .singleton _⟩
      intro r' hr'
      cases hr'
      exact hactive
  | some previous =>
      rw [hlast] at hnext
      have hlength := Sql.number_getLast h.numbered hlast
      refine ⟨h.numbered.snoc (by rw [hnext.revision, hlength]), ?_, ?_⟩
      · intro r' hr'
        rw [List.head?_append_of_ne_nil _ (by rintro rfl; cases hlast)] at hr'
        exact h.first r' hr'
      · refine List.isChain_append.mpr ⟨h.follows, .singleton _, ?_⟩
        intro a ha b hb
        rw [hlast] at ha
        cases ha
        cases hb
        exact hnext

theorem validate_iff {rows : List InvestigationRevision}
    (h : Legal (revisionsOf rows r.organizationId r.investigationId)) :
    validateInvestigationRevision rows r = .ok () ↔
      NextAfter (revisionsOf rows r.organizationId r.investigationId) r := by
  unfold validateInvestigationRevision NextAfter
  rw [Sql.topBy_numbered h.numbered]
  cases hlast : (revisionsOf rows r.organizationId r.investigationId).getLast? with
  | none => simp only [Sql.raiseIf_ok_iff, not_or, not_not]
  | some previous =>
      simp only [Sql.check_ok_iff, Sql.raiseIf_ok_iff, not_or, not_not, not_and]
      constructor
      · rintro ⟨⟨hrevision, hexpected⟩, hopen, ⟨hpaused, -⟩, harea⟩
        refine ⟨hrevision, hexpected, Bool.not_eq_true _ ▸ hopen, hpaused, fun hmoved => ?_⟩
        exact harea hmoved
      · rintro ⟨hrevision, hexpected, hopen, hresumed, harea⟩
        refine ⟨⟨hrevision, hexpected⟩, by rw [hopen]; decide, ⟨hresumed, ?_⟩, harea⟩
        intro _
        cases r.status <;> decide

/-- A key names its investigation and its revision. -/
theorem revisionKey_injective {id id' : Uuid} {revision revision' : Nat}
    (h : revisionKey id revision = revisionKey id' revision') :
    id = id' ∧ revision = revision' := by
  have hparts : ∀ a b c d : String, (a ++ b ++ c ++ d).toList =
      a.toList ++ (b.toList ++ (c.toList ++ d.toList)) := by
    intro a b c d
    simp only [String.toList_append, List.append_assoc]
  have hlist := congrArg String.toList h
  unfold revisionKey at hlist
  rw [hparts, hparts] at hlist
  obtain ⟨hid, hrest⟩ := List.append_inj (List.append_cancel_left hlist)
    (id.length_text.trans id'.length_text.symm)
  refine ⟨Uuid.text_injective (String.toList_injective hid), ?_⟩
  exact Sql.natText_injective (String.toList_injective (List.append_cancel_left hrest))

/-! ## One statement -/

/-- An accepted revision and its event. -/
structure Revised (server : Server) (call : RevisionCall) (r : InvestigationRevision)
    (db db' : InvestigationTables) : Prop where
  valid : validateInvestigationRevision db.investigationRevisions.rows r = .ok ()
  owner : ∃ i ∈ db.investigations.rows, i.id = r.investigationId ∧
    i.organizationId = r.organizationId
  investigations : db'.investigations = db.investigations
  revisions : db'.investigationRevisions.rows = db.investigationRevisions.rows ++ [r]
  event : ∃ e, db'.sessionEvents.rows = db.sessionEvents.rows ++ [e] ∧
    e.organizationId = r.organizationId ∧ e.aggregateType = "investigation" ∧
    e.aggregateId = r.investigationId ∧ e.aggregateVersion = r.revision + 1 ∧
    e.payloadSha256 = r.contentSha256 ∧
    e.idempotencyKey = some (revisionKey r.investigationId r.revision) ∧
    ∃ text, e.eventSha256 = server.sha256 text
  streams : Streams db'.sessionEvents.rows

variable {call : RevisionCall}

theorem insertInvestigationRevision_ok (hstreams : Streams db.sessionEvents.rows)
    (h : insertInvestigationRevision server call r db = .ok db') :
    Revised server call r db db' := by
  obtain ⟨⟨⟩, hvalid, h⟩ := Sql.bind_ok h
  obtain ⟨⟨⟩, -, h⟩ := Sql.bind_ok h
  obtain ⟨-, h⟩ := Sql.check_ok h
  obtain ⟨revisions, -, h⟩ := Sql.bind_ok h
  obtain ⟨events, hevent, h⟩ := Sql.bind_ok h
  obtain ⟨hreferences, h⟩ := Sql.check_ok h
  cases h
  obtain ⟨⟨i, hi, hid, horganization, -⟩, -⟩ := not_not.mp hreferences
  obtain ⟨e, hrows, hprepared, hstreams'⟩ := insertSessionEvent_ok hstreams hevent
  refine ⟨hvalid, ⟨i, hi, hid, horganization⟩, rfl, revisions.2, ⟨e, hrows, ?_⟩, hstreams'⟩
  rw [hprepared.row]
  exact ⟨rfl, rfl, rfl, rfl, rfl, rfl, _, rfl⟩

theorem insertInvestigation_ok {i : InvestigationRow} (h : insertInvestigation i db = .ok db') :
    ∃ t, t.rows = db.investigations.rows ++ [i] ∧ db' = { db with investigations := t } := by
  obtain ⟨⟨⟩, -, h⟩ := Sql.bind_ok h
  obtain ⟨next, -, h⟩ := Sql.bind_ok h
  obtain ⟨-, h⟩ := Sql.check_ok h
  cases h
  exact ⟨next.1, next.2, rfl⟩

theorem insertEvent_ok {writer : Option Uuid} {now : Int} {e : SessionEvent}
    (hstreams : Streams db.sessionEvents.rows)
    (h : insertEvent server writer now e db = .ok db') :
    db'.investigations = db.investigations ∧
      db'.investigationRevisions = db.investigationRevisions ∧
      Streams db'.sessionEvents.rows ∧
      ∃ f, db'.sessionEvents.rows = db.sessionEvents.rows ++ [f] ∧
        f.aggregateType = e.aggregateType ∧ f.idempotencyKey = e.idempotencyKey ∧
        ∃ text, f.eventSha256 = server.sha256 text := by
  obtain ⟨-, h⟩ := Sql.check_ok h
  obtain ⟨events, hevent, h⟩ := Sql.bind_ok h
  cases h
  obtain ⟨f, hrows, hprepared, hstreams'⟩ := insertSessionEvent_ok hstreams hevent
  refine ⟨rfl, rfl, hstreams', f, hrows, ?_⟩
  rw [hprepared.row]
  exact ⟨rfl, rfl, _, rfl⟩

/-! ## The invariant -/

structure InvestigationInv (server : Server) (db : InvestigationTables) : Prop where
  legal : ∀ organizationId investigationId,
    Legal (revisionsOf db.investigationRevisions.rows organizationId investigationId)
  owned : ∀ r ∈ db.investigationRevisions.rows, ∃ i ∈ db.investigations.rows,
    i.id = r.investigationId ∧ i.organizationId = r.organizationId
  streams : Streams db.sessionEvents.rows
  mirrored : ∀ organizationId investigationId,
    (streamOf db.sessionEvents.rows organizationId "investigation" investigationId).map
        (fun e => (e.aggregateVersion, e.payloadSha256)) =
      (revisionsOf db.investigationRevisions.rows organizationId investigationId).map
        fun r => (r.revision + 1, r.contentSha256)
  hashed : ∀ e ∈ db.sessionEvents.rows, ∃ text, e.eventSha256 = server.sha256 text
  keys : ∀ e ∈ db.sessionEvents.rows, ∀ investigationId revision,
    e.idempotencyKey = some (revisionKey investigationId revision) →
      e.aggregateType = "investigation" ∧ e.aggregateId = investigationId ∧
        e.aggregateVersion = revision + 1

theorem InvestigationInv.empty : InvestigationInv server InvestigationTables.empty where
  legal _ _ := Legal.nil
  owned := List.forall_mem_nil _
  streams := Streams.nil
  mirrored _ _ := rfl
  hashed := List.forall_mem_nil _
  keys := List.forall_mem_nil _

theorem revisionsOf_snoc (rows : List InvestigationRevision) (r : InvestigationRevision)
    (organizationId investigationId : Uuid) :
    revisionsOf (rows ++ [r]) organizationId investigationId =
      revisionsOf rows organizationId investigationId ++
        if r.investigationId = investigationId ∧ r.organizationId = organizationId then [r]
        else [] := by
  rw [revisionsOf, List.filter_append]
  simp only [List.filter_cons, decide_eq_true_eq, List.filter_nil]
  rfl

theorem mem_revisionsOf {rows : List InvestigationRevision}
    {organizationId investigationId : Uuid} :
    r ∈ revisionsOf rows organizationId investigationId ↔
      r ∈ rows ∧ r.investigationId = investigationId ∧ r.organizationId = organizationId := by
  rw [revisionsOf, List.mem_filter, decide_eq_true_iff]

theorem Revised.inv (h : Revised server call r db db') (hi : InvestigationInv server db) :
    InvestigationInv server db' := by
  obtain ⟨e, hevents, horganization, htype, haggregate, hversion, hpayload, hkey, hhash⟩ :=
    h.event
  refine ⟨fun organizationId investigationId => ?_, ?_, h.streams,
    fun organizationId investigationId => ?_, ?_, ?_⟩
  · rw [h.revisions, revisionsOf_snoc]
    split
    · next hsame =>
        obtain ⟨rfl, rfl⟩ := hsame
        exact (hi.legal _ _).snoc ((validate_iff (hi.legal _ _)).mp h.valid)
    · rw [List.append_nil]
      exact hi.legal organizationId investigationId
  · intro a ha
    rw [h.revisions] at ha
    rw [h.investigations]
    rcases List.mem_append.mp ha with ha | ha
    · exact hi.owned a ha
    · cases List.mem_singleton.mp ha
      exact h.owner
  · rw [h.revisions, revisionsOf_snoc, hevents, streamOf_snoc, List.map_append, List.map_append,
      hi.mirrored, horganization, haggregate]
    by_cases hsame : r.investigationId = investigationId ∧ r.organizationId = organizationId
    · rw [if_pos hsame, if_pos ⟨hsame.2, htype, hsame.1⟩, List.map_singleton, List.map_singleton,
        hversion, hpayload]
    · rw [if_neg hsame, if_neg fun h' => hsame ⟨h'.2.2, h'.1⟩]
      rfl
  · intro f hf
    rw [hevents] at hf
    rcases List.mem_append.mp hf with hf | hf
    · exact hi.hashed f hf
    · cases List.mem_singleton.mp hf
      exact hhash
  · intro f hf investigationId revision hfkey
    rw [hevents] at hf
    rcases List.mem_append.mp hf with hf | hf
    · exact hi.keys f hf investigationId revision hfkey
    · cases List.mem_singleton.mp hf
      rw [hkey] at hfkey
      obtain ⟨rfl, rfl⟩ := revisionKey_injective (Option.some.inj hfkey)
      exact ⟨htype, haggregate, hversion⟩

theorem investigationInv_inductive (server : Server) :
    (investigationSystem server).Inductive KeepsOff (InvestigationInv server) where
  init := by
    rintro _ rfl
    exact InvestigationInv.empty
  step := by
    rintro db step _ hi hkeeps rfl
    cases step with
    | start i =>
        rw [perform]
        cases h : insertInvestigation i db with
        | error e => exact hi
        | ok db' =>
            obtain ⟨t, ht, hdb⟩ := insertInvestigation_ok h
            show InvestigationInv server db'
            rw [hdb]
            refine { hi with owned := fun r hr => ?_ }
            obtain ⟨i, hi', hid⟩ := hi.owned r hr
            exact ⟨i, ht ▸ List.mem_append_left _ hi', hid⟩
    | revise call r =>
        rw [perform]
        cases h : insertInvestigationRevision server call r db with
        | error e => exact hi
        | ok db' => exact (insertInvestigationRevision_ok hi.streams h).inv hi
    | event writer now e =>
        rw [perform]
        cases h : insertEvent server writer now e db with
        | error e => exact hi
        | ok db' =>
            obtain ⟨hinvestigations, hrevisions, hstreams, f, hevents, htype, hkey, hhash⟩ :=
              insertEvent_ok hi.streams h
            obtain ⟨hother, hfree⟩ := hkeeps
            show InvestigationInv server db'
            refine ⟨hrevisions ▸ hi.legal, hrevisions ▸ hinvestigations ▸ hi.owned, hstreams,
              fun organizationId investigationId => ?_, ?_, ?_⟩
            · rw [hevents, hrevisions, streamOf_snoc,
                if_neg fun hsame => hother (htype.symm.trans hsame.2.1), List.append_nil]
              exact hi.mirrored organizationId investigationId
            · intro g hg
              rw [hevents] at hg
              rcases List.mem_append.mp hg with hg | hg
              · exact hi.hashed g hg
              · cases List.mem_singleton.mp hg
                exact hhash
            · intro g hg investigationId revision hgkey
              rw [hevents] at hg
              rcases List.mem_append.mp hg with hg | hg
              · exact hi.keys g hg investigationId revision hgkey
              · cases List.mem_singleton.mp hg
                exact absurd (hkey.symm.trans hgkey) (hfree investigationId revision)
    | other context => exact ⟨hi.legal, hi.owned, hi.streams, hi.mirrored, hi.hashed, hi.keys⟩

/-! ## The next revision -/

/-- A revision that satisfies the rules, its own constraints and its references,
under identities that are not taken. -/
structure Acceptable (db : InvestigationTables) (call : RevisionCall) (r : InvestigationRevision) :
    Prop where
  valid : validateInvestigationRevision db.investigationRevisions.rows r = .ok ()
  actor : validateTenantInspectorActor db.context r.organizationId
    r.completedByInspectorActorId = .ok ()
  checked : r.checked = true
  references : db.references r
  newRow : ∀ a ∈ db.investigationRevisions.rows, a.id ≠ r.id
  newEvent : ∀ e ∈ db.sessionEvents.rows, e.id ≠ call.eventId

/-- The next revision has the number of those that are there. -/
theorem NextAfter.revision {l : List InvestigationRevision} (hl : Legal l) (h : NextAfter l r) :
    r.revision = l.length := by
  unfold NextAfter at h
  cases hlast : l.getLast? with
  | none =>
      rw [hlast] at h
      rw [h.1, List.getLast?_eq_none_iff.mp hlast, List.length_nil]
  | some previous =>
      rw [hlast] at h
      rw [h.revision, Sql.number_getLast hl.numbered hlast]

theorem Acceptable.not_clash (h : Acceptable db call r) (hi : InvestigationInv server db) :
    ∀ a ∈ db.investigationRevisions.rows, ¬ a.clash r := by
  rintro a ha (hid | ⟨hinvestigation, hrevision⟩)
  · exact h.newRow a ha hid
  · obtain ⟨i, hi₁, hid₁, horg₁⟩ := hi.owned a ha
    obtain ⟨⟨j, hj, hjid, hjorg, -⟩, -⟩ := h.references
    have hsame : i = j := db.investigations.eq_of_key (f := InvestigationRow.id)
      (fun _ _ heq => heq) hi₁ hj (hid₁.trans (hinvestigation.trans hjid.symm))
    have hlegal := hi.legal r.organizationId r.investigationId
    have hnext := ((validate_iff hlegal).mp h.valid).revision hlegal
    have hmem : a ∈ revisionsOf db.investigationRevisions.rows r.organizationId
        r.investigationId :=
      mem_revisionsOf.mpr ⟨ha, hinvestigation, by rw [← horg₁, hsame, hjorg]⟩
    have hle := Sql.le_maxOf (List.mem_map_of_mem
      (f := fun a : InvestigationRevision => a.revision + 1) hmem)
    rw [Sql.maxOf_numbered hlegal.numbered, hrevision, hnext] at hle
    omega

/-- The event of a revision names the head of the stream before it. -/
theorem find?_stream {events : List SessionEvent} {organizationId aggregateId : Uuid}
    {aggregateType : String}
    (h : Stream (streamOf events organizationId aggregateType aggregateId)) {version : Nat}
    (hversion : version = (streamOf events organizationId aggregateType aggregateId).length) :
    (events.find? fun e => e.organizationId = organizationId ∧ e.aggregateType = aggregateType ∧
      e.aggregateId = aggregateId ∧ e.aggregateVersion = version) =
      (streamOf events organizationId aggregateType aggregateId).getLast? := by
  rw [← h.headOf, headOf, Sql.maxOf_numbered h.numbered, ← hversion, streamOf, List.find?_filter]
  refine congrArg (events.find? ·) (funext fun e => ?_)
  simp only [decide_eq_true_iff, and_assoc]

theorem isEventType_revisionEventType (previousStatus : Option InvestigationStatus)
    (r : InvestigationRevision) : isEventType (revisionEventType previousStatus r) = true := by
  have hall : ∀ t ∈ ["investigation.started", "investigation.paused", "investigation.resumed",
      "investigation.completed", "investigation.revised"], isEventType t = true := by
    decide +kernel
  refine hall _ ?_
  unfold revisionEventType
  split
  · simp
  split
  · simp
  split
  · simp
  split <;> simp

/-- **The next revision is accepted.** -/
theorem InvestigationInv.accepts (hi : InvestigationInv server db)
    (hdigest : ∀ text, Js.isHexDigest (server.sha256 text) = true) (h : Acceptable db call r) :
    ∃ db', insertInvestigationRevision server call r db = .ok db' := by
  have hlegal := hi.legal r.organizationId r.investigationId
  have hrevision := ((validate_iff hlegal).mp h.valid).revision hlegal
  have hstream := hi.streams r.organizationId "investigation" r.investigationId
  have hlength := congrArg List.length (hi.mirrored r.organizationId r.investigationId)
  rw [List.length_map, List.length_map, ← hrevision] at hlength
  let t := db.investigationRevisions.snoc r (h.not_clash hi)
  let e := revisionEvent call { db with investigationRevisions := t } r
  have hprevious : e.previousEventSha256 = (streamOf db.sessionEvents.rows r.organizationId
      "investigation" r.investigationId).getLast?.map SessionEvent.eventSha256 :=
    congrArg (Option.map SessionEvent.eventSha256) (find?_stream hstream hlength.symm)
  have hversion : e.aggregateVersion = (streamOf db.sessionEvents.rows r.organizationId
      "investigation" r.investigationId).length + 1 := by
    rw [hlength]
    rfl
  let prepared : SessionEvent := { e with
    recordedAt := call.now
    eventSha256 := server.sha256 ({ e with recordedAt := call.now }.hashText server) }
  have hchecked : prepared.checked = true := by
    have hcontent : Js.isHexDigest r.contentSha256 = true := by
      have hrow := h.checked
      rw [InvestigationRevision.checked, Bool.and_eq_true] at hrow
      exact hrow.2
    have hhashes : (e.previousEventSha256.all Js.isHexDigest) = true := by
      rw [hprevious]
      cases hlast : (streamOf db.sessionEvents.rows r.organizationId "investigation"
          r.investigationId).getLast? with
      | none => rfl
      | some last =>
          have hlast := (List.mem_filter.mp (List.mem_of_getLast? hlast)).1
          obtain ⟨text, htext⟩ := hi.hashed last hlast
          exact (congrArg Js.isHexDigest htext).trans (hdigest text)
    have htype : isEventType e.eventType = true := isEventType_revisionEventType _ r
    have htrimmed : decide (trimmedWithin 1 120 "investigation") = true := by decide
    simp only [SessionEvent.checked, Bool.and_eq_true]
    exact ⟨⟨⟨⟨⟨⟨htrimmed, decide_eq_true (Nat.succ_pos _)⟩, htype⟩, rfl⟩, rfl⟩, hcontent⟩,
      hhashes⟩
  have hfresh : ∀ a ∈ db.sessionEvents.rows, ¬ a.clash prepared := by
    rintro a ha (hid | hplace | ⟨horganization, hsome, hkey⟩)
    · exact h.newEvent a ha hid
    · exact hstream.not_samePlace (e := e) hversion a ha hplace
    · -- the key is another event's, which then has this event's place
      obtain ⟨htype, haggregate, hplace⟩ := hi.keys a ha r.investigationId r.revision hkey
      exact hstream.not_samePlace (e := e) hversion a ha ⟨horganization, htype, haggregate, hplace⟩
  obtain ⟨events, hevents⟩ : ∃ events, insertSessionEvent server call.now e db.sessionEvents =
      .ok events := insertSessionEvent_accepts hstream ⟨hversion, hprevious, rfl⟩ rfl hchecked hfresh
  unfold insertInvestigationRevision
  rw [Sql.bind_of h.valid, Sql.bind_of h.actor, Sql.check_of (by simp [h.checked]),
    Sql.bind_of (Sql.Table.insert_of (h.not_clash hi) _)]
  dsimp only
  rw [Sql.bind_of hevents]
  refine ⟨{ db with investigationRevisions := t, sessionEvents := events }, ?_⟩
  exact Sql.check_of (not_not.mpr h.references) _ _ _

/-! ## In step -/

/-- Every investigation has a legal history, its event stream mirrors it, and
its next revision is accepted. -/
structure InStep (server : Server) (db : InvestigationTables) : Prop where
  legal : ∀ organizationId investigationId,
    Legal (revisionsOf db.investigationRevisions.rows organizationId investigationId)
  mirrored : ∀ organizationId investigationId,
    (streamOf db.sessionEvents.rows organizationId "investigation" investigationId).map
        (fun e => (e.aggregateVersion, e.payloadSha256)) =
      (revisionsOf db.investigationRevisions.rows organizationId investigationId).map
        fun r => (r.revision + 1, r.contentSha256)
  linked : ∀ organizationId investigationId,
    Linked none (streamOf db.sessionEvents.rows organizationId "investigation" investigationId)
  accepts : ∀ call r, Acceptable db call r →
    ∃ db', insertInvestigationRevision server call r db = .ok db'

/-- **In step, while direct inserts keep off.** -/
theorem revisions_in_step (hdigest : ∀ text, Js.isHexDigest (server.sha256 text) = true)
    {s : InvestigationTables} (hs : (investigationSystem server).Reachable KeepsOff s) :
    InStep server s := by
  have hi := (investigationInv_inductive server).invariant hs
  exact ⟨hi.legal, hi.mirrored, fun _ _ => (hi.streams _ _ _).linked,
    fun _ _ => hi.accepts hdigest⟩

/-! ## A stream written to from outside -/

namespace Sample

def tenant : Uuid := ⟨"aaaaaaaa-0000-0000-0000-000000000001", @rfl _ true⟩
def job : Uuid := ⟨"aaaa0000-0000-0000-0000-000000000001", @rfl _ true⟩
def inspector : Uuid := ⟨"11111111-0000-0000-0000-000000000001", @rfl _ true⟩
def investigation : Uuid := ⟨"bbbb0000-0000-0000-0000-000000000001", @rfl _ true⟩
def kitchen : Uuid := ⟨"bbbb1000-0000-0000-0000-000000000001", @rfl _ true⟩

def contentHash : String := String.ofList (List.replicate 64 '7')

/-- Midnight, in microseconds. -/
def midnight : Int := 1784160000000000

def clock (_ : Int) : String := "2026-07-16 00:00:00+00"

def context : InvestigationContext where
  jobs := [⟨job, tenant, 0⟩]
  inspectionAreas := [⟨kitchen, tenant, job⟩]
  organizationMembers := [⟨tenant, inspector, .inspector, .active⟩]
  actors := [⟨inspector, none⟩]

def started : InvestigationRow := ⟨investigation, tenant, job, inspector⟩

/-- Revision zero. -/
def begins : InvestigationRevision :=
  ⟨⟨"bbbb2000-0000-0000-0000-000000000001", @rfl _ true⟩, tenant, job, investigation, 0, none,
    .active, kitchen, none, none, none, contentHash⟩

def firstCall : RevisionCall := ⟨⟨"eeee0000-0000-0000-0000-000000000001", @rfl _ true⟩, midnight⟩

def opened : InvestigationTables where
  context := context
  investigations := ⟨[started], List.pairwise_singleton _ _⟩
  investigationRevisions := .empty
  sessionEvents := .empty

/-- The event of revision zero. -/
def beginsEvent : SessionEvent :=
  revisionEvent firstCall { opened with
    investigationRevisions := Sql.Table.empty.snoc begins (List.forall_mem_nil _) } begins

def digest (text : String) : String :=
  if text = beginsEvent.hashText ⟨id, clock⟩ then
    "775457eb75a54ee4adb79a10631805c5fd3a60d04c1d8c1f08979be5fced66dd"
  else placeholderSha

def host : Server := ⟨digest, clock⟩

theorem isHexDigest_host (text : String) : Js.isHexDigest (host.sha256 text) = true := by
  show Js.isHexDigest (digest text) = true
  unfold digest
  split <;> decide

theorem opened_reachable {ok : InvestigationTables → InvestigationStep → Prop}
    (hok : ∀ db context, ok db (.other context)) (hstart : ∀ db i, ok db (.start i)) :
    (investigationSystem host).Reachable ok opened := by
  have hcontext : (investigationSystem host).Reachable ok (empty.perform host (.other context)) :=
    (TSys.Reachable.init rfl).step (hok _ _) rfl
  exact hcontext.step (hstart _ started) rfl

theorem begins_acceptable : Acceptable opened firstCall begins where
  valid := by decide +kernel
  actor := by decide +kernel
  checked := by decide
  references := by decide
  newRow := List.forall_mem_nil _
  newEvent := List.forall_mem_nil _

/-- The first revision is accepted, and the two are in step after it. -/
theorem begins_in_step :
    ∃ db', insertInvestigationRevision host firstCall begins opened = .ok db' ∧
      InStep host db' := by
  have hopened : (investigationSystem host).Reachable KeepsOff opened :=
    opened_reachable (fun _ _ => trivial) (fun _ _ => trivial)
  have hstep := revisions_in_step isHexDigest_host hopened
  obtain ⟨db', haccepted⟩ := hstep.accepts firstCall begins begins_acceptable
  refine ⟨db', haccepted, revisions_in_step isHexDigest_host ?_⟩
  refine hopened.step (a := .revise firstCall begins) trivial ?_
  show perform host opened (.revise firstCall begins) = db'
  rw [perform, haccepted]
  rfl

/-- An inspector's own event in the stream of the investigation. -/
def intruder : SessionEvent :=
  { beginsEvent with
    id := ⟨"eeee0000-0000-0000-0000-000000000002", @rfl _ true⟩
    idempotencyKey := none
    safeMetadata := .obj [] }

def intruded : InvestigationTables :=
  opened.perform host (.event (some inspector) midnight intruder)

theorem begins_acceptable_intruded : Acceptable intruded firstCall begins where
  valid := by decide +kernel
  actor := by decide +kernel
  checked := by decide
  references := by decide +kernel
  newRow := by decide +kernel
  newEvent := by decide +kernel

/-- With it there, revision zero satisfies every rule and is refused. -/
theorem intruded_blocks : (investigationSystem host).Reachable TSys.any intruded ∧
    ¬ InStep host intruded := by
  have hopened : (investigationSystem host).Reachable TSys.any opened :=
    opened_reachable (fun _ _ => trivial) (fun _ _ => trivial)
  refine ⟨hopened.step (a := .event (some inspector) midnight intruder) trivial rfl, ?_⟩
  intro hstep
  obtain ⟨db', haccepted⟩ := hstep.accepts firstCall begins begins_acceptable_intruded
  have hrefused :
      (insertInvestigationRevision host firstCall begins intruded).toOption.isSome = false := by
    decide +kernel
  rw [haccepted] at hrefused
  cases hrefused

end Sample

end InvestigationTables

end InspectionHub.Database
