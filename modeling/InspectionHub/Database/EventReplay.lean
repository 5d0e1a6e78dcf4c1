import InspectionHub.Database.SessionEvents

/-!
# The replay of restored events

The `event_replay` branch of `restore_check_projection` in
`20260715000700_u10_security_operations.sql`: one self-join over
`session_events`, whose rows a restore has put there without their trigger.

It counts nothing exactly when every stream of the organisation is numbered
from one and linked (`event_replay_sound`). A hash is compared with the one the
next event names and is not computed again: what a row says and the hash it
carries are not compared (`altered_event_passes`).
-/

namespace InspectionHub

/-! ## Putting records in order -/

namespace Numbered

variable {α : Type*} {number : α → Nat} {l : List α}

/-- Of a record that is not the first the whole way down to one is there. -/
theorem mem_of_le (hprev : ∀ a ∈ l, number a = 1 ∨ ∃ b ∈ l, number b + 1 = number a) {n k : Nat}
    (hk : 0 < k) (hkn : k ≤ n) (hn : n ∈ l.map number) : k ∈ l.map number := by
  induction n with
  | zero => omega
  | succ n ih =>
      rcases Nat.lt_or_ge n k with hlt | hle
      · rwa [show k = n + 1 by omega]
      · obtain ⟨a, ha, hnumber⟩ := List.mem_map.mp hn
        rcases hprev a ha with hone | ⟨b, hb, hbefore⟩
        · omega
        · exact ih hle (List.mem_map.mpr ⟨b, hb, by omega⟩)

/-- **In order.** Records with different numbers, each of which is the first or has the one before
it among them, are numbered when they are put in order. -/
theorem exists_perm (hnodup : (l.map number).Nodup)
    (hprev : ∀ a ∈ l, number a = 1 ∨ ∃ b ∈ l, number b + 1 = number a) :
    ∃ l', l'.Perm l ∧ Numbered number l' := by
  have hpos : ∀ n ∈ l.map number, 0 < n := by
    intro n hn
    obtain ⟨a, ha, rfl⟩ := List.mem_map.mp hn
    rcases hprev a ha with hone | ⟨b, -, hbefore⟩ <;> omega
  -- a number beyond the length would leave more numbers below it than there are records
  have hle : ∀ n ∈ l.map number, n ≤ l.length := by
    intro n hn
    have hsub : List.range' 1 n ⊆ l.map number := by
      intro k hk
      rw [List.mem_range'_1] at hk
      exact mem_of_le hprev (by omega) (by omega) hn
    have hlength := (List.subperm_of_subset List.nodup_range' hsub).length_le
    rwa [List.length_range', List.length_map] at hlength
  have hperm : (l.map number).Perm (List.range' 1 l.length) := by
    refine (List.subperm_of_subset hnodup fun n hn => ?_).perm_of_length_le (by simp)
    rw [List.mem_range'_1]
    have := hpos n hn
    have := hle n hn
    omega
  let ordered := l.mergeSort fun a b => decide (number a ≤ number b)
  have hordered : ordered.Perm l := List.mergeSort_perm _ _
  have hsorted : (ordered.map number).Pairwise (· ≤ ·) := by
    refine List.pairwise_map.mpr (List.Pairwise.imp of_decide_eq_true
      (List.pairwise_mergeSort ?_ ?_ l))
    · intro a b c hab hbc
      simp only [decide_eq_true_eq] at hab hbc ⊢
      omega
    · intro a b
      simp only [Bool.or_eq_true, decide_eq_true_eq]
      omega
  refine ⟨ordered, hordered, ?_⟩
  rw [Numbered, hordered.length_eq]
  refine List.Perm.eq_of_pairwise (fun _ _ _ _ => Nat.le_antisymm) hsorted
    (List.Pairwise.imp Nat.le_of_lt List.pairwise_lt_range') ?_
  exact (hordered.map number).trans hperm

end Numbered

namespace Database

/-! ## The check -/

/-- What `restore_check_projection` counts. -/
structure RestoreCheckCounts where
  observedRows : Nat
  violations : Nat
deriving DecidableEq

/-- The condition of the left join. -/
def SessionEvent.precedes (event previous : SessionEvent) : Bool :=
  previous.organizationId = event.organizationId && previous.aggregateType = event.aggregateType &&
    previous.aggregateId = event.aggregateId &&
    previous.aggregateVersion + 1 = event.aggregateVersion

/-- The condition on a joined pair, whose second row may be absent. -/
def SessionEvent.violates (event : SessionEvent) (previous : Option SessionEvent) : Bool :=
  (event.aggregateVersion = 1 && event.previousEventSha256.isSome) ||
    (1 < event.aggregateVersion && (previous.isNone ||
      decide (event.previousEventSha256 ≠ previous.map SessionEvent.eventSha256)))

/-- `session_events event left join session_events previous` -/
def replayPairs (events : List SessionEvent) : List (SessionEvent × Option SessionEvent) :=
  events.flatMap fun event =>
    match events.filter event.precedes with
    | [] => [(event, none)]
    | matched => matched.map fun previous => (event, some previous)

/-- The `event_replay` branch of `restore_check_projection`. -/
def eventReplay (organizationId : Uuid) (events : List SessionEvent) : RestoreCheckCounts where
  observedRows := (events.filter fun event => event.organizationId = organizationId).length
  violations := ((replayPairs events).filter fun pair =>
    pair.1.organizationId = organizationId && pair.1.violates pair.2).length

/-! ## What it finds -/

/-- Every event is the first, with nothing before it, or names the hash of the one before. -/
def Continued (l : List SessionEvent) : Prop :=
  ∀ e ∈ l, (e.aggregateVersion = 1 ∧ e.previousEventSha256 = none) ∨
    ∃ p ∈ l, p.aggregateVersion + 1 = e.aggregateVersion ∧
      e.previousEventSha256 = some p.eventSha256

theorem Continued.perm {l l' : List SessionEvent} (h : Continued l) (hperm : l.Perm l') :
    Continued l' := by
  intro e he
  rcases h e (hperm.mem_iff.mpr he) with hfirst | ⟨p, hp, hbefore⟩
  · exact .inl hfirst
  · exact .inr ⟨p, hperm.mem_iff.mp hp, hbefore⟩

/-- A numbered list is linked when its events are continued. -/
theorem Continued.linked {l : List SessionEvent} (h : Continued l)
    (hnumbered : Numbered SessionEvent.aggregateVersion l) : Linked none l := by
  induction l using List.reverseRecOn with
  | nil => trivial
  | append_singleton l e ih =>
      have hlast : e.aggregateVersion = l.length + 1 := by
        rw [Sql.number_getLast hnumbered List.getLast?_concat, List.length_append]
        rfl
      have hbelow : ∀ a ∈ l, a.aggregateVersion < e.aggregateVersion := fun a ha =>
        (List.pairwise_append.mp hnumbered.pairwise_lt).2.2 a ha e (List.mem_singleton_self e)
      have hinit : Numbered SessionEvent.aggregateVersion l := by
        have hnumbers := hnumbered
        rw [Numbered, List.map_append, List.length_append, List.length_singleton,
          List.range'_concat] at hnumbers
        exact (List.append_inj' hnumbers rfl).1
      -- the event before an earlier one is earlier still, and so not the last
      have hcontinued : Continued l := by
        intro a ha
        rcases h a (List.mem_append_left _ ha) with hfirst | ⟨p, hp, hbefore, hhash⟩
        · exact .inl hfirst
        · rcases List.mem_append.mp hp with hp | hp
          · exact .inr ⟨p, hp, hbefore, hhash⟩
          · have := hbelow a ha
            rw [List.mem_singleton.mp hp] at hbefore
            omega
      refine (ih hcontinued hinit).snoc ?_
      rw [Option.or_none]
      rcases h e (List.mem_append_right _ (List.mem_singleton_self e)) with
        ⟨hone, hnone⟩ | ⟨p, hp, hbefore, hhash⟩
      · have hnil : l = [] := List.length_eq_zero_iff.mp (by omega)
        rw [hnone, hnil]
        rfl
      · have hmem : p ∈ l := by
          rcases List.mem_append.mp hp with hp | hp
          · exact hp
          · rw [List.mem_singleton.mp hp] at hbefore
            omega
        have hfound : l.getLast? = some p := by
          obtain ⟨last, hlast'⟩ := Option.isSome_iff_exists.mp
            (List.getLast?_isSome.mpr (List.ne_nil_of_mem hmem))
          have hnumber := Sql.number_getLast hinit hlast'
          have hnodup : (l.map SessionEvent.aggregateVersion).Nodup := by
            rw [hinit]
            exact List.nodup_range'
          rw [hlast', List.inj_on_of_nodup_map hnodup (List.mem_of_getLast? hlast') hmem
            (by omega)]
        rw [hhash, hfound]
        rfl

/-- The events of a stream are continued. -/
theorem Stream.continued {l : List SessionEvent} (h : Stream l) : Continued l := by
  intro e he
  obtain ⟨before, after, rfl⟩ := List.append_of_mem he
  have hlinked : ∀ (previous : Option String) (before : List SessionEvent),
      Linked previous (before ++ e :: after) → e.previousEventSha256 =
        (before.getLast?.map SessionEvent.eventSha256).or previous := by
    intro previous before
    induction before generalizing previous with
    | nil => exact fun hlink => hlink.1
    | cons first before ih =>
        intro hlink
        rw [ih _ hlink.2]
        cases before with
        | nil => rfl
        | cons second before =>
            rw [List.getLast?_cons_cons]
            obtain ⟨last, hlast⟩ := Option.isSome_iff_exists.mp (List.getLast?_isSome.mpr
              (List.cons_ne_nil second before))
            rw [hlast]
            rfl
  have hnumbers := h.numbered
  rw [Numbered, List.map_append, List.length_append, List.range'_append_1.symm] at hnumbers
  obtain ⟨hbefore, hrest⟩ := List.append_inj hnumbers (by simp)
  have hversion : e.aggregateVersion = 1 + before.length := by
    rw [List.map_cons, List.length_cons, List.range'_succ] at hrest
    exact List.head_eq_of_cons_eq hrest
  have hprevious := hlinked none before h.linked
  rw [Option.or_none] at hprevious
  cases hlast : before.getLast? with
  | none =>
      rw [List.getLast?_eq_none_iff.mp hlast] at hversion
      rw [hlast] at hprevious
      exact .inl ⟨hversion, hprevious⟩
  | some p =>
      have hnumber := Sql.number_getLast hbefore hlast
      rw [hlast] at hprevious
      exact .inr ⟨p, List.mem_append_left _ (List.mem_of_getLast? hlast), by omega, hprevious⟩

variable {events : List SessionEvent} {e : SessionEvent}

theorem mem_replayPairs {o : Option SessionEvent} : (e, o) ∈ replayPairs events ↔ e ∈ events ∧
      ((o = none ∧ ∀ p ∈ events, e.precedes p = false) ∨
        ∃ p ∈ events, e.precedes p = true ∧ o = some p) := by
  have hpair : ∀ event : SessionEvent, (e, o) ∈ (match events.filter event.precedes with
      | [] => [(event, none)]
      | matched => matched.map fun previous => (event, some previous)) ↔
      e = event ∧ ((o = none ∧ ∀ p ∈ events, e.precedes p = false) ∨
        ∃ p ∈ events, e.precedes p = true ∧ o = some p) := by
    intro event
    split
    · next hnone =>
        rw [List.filter_eq_nil_iff] at hnone
        rw [List.mem_singleton, Prod.mk.injEq]
        constructor
        · rintro ⟨rfl, rfl⟩
          exact ⟨rfl, .inl ⟨rfl, fun p hp => Bool.eq_false_iff.mpr (hnone p hp)⟩⟩
        · rintro ⟨rfl, ⟨rfl, -⟩ | ⟨p, hp, hprecedes, -⟩⟩
          · exact ⟨rfl, rfl⟩
          · exact absurd hprecedes (hnone p hp)
    · next hsome =>
        rw [List.mem_map]
        constructor
        · rintro ⟨p, hp, hpair⟩
          cases hpair
          exact ⟨rfl, .inr ⟨p, List.mem_of_mem_filter hp, (List.mem_filter.mp hp).2, rfl⟩⟩
        · rintro ⟨rfl, ⟨-, hnone⟩ | ⟨p, hp, hprecedes, rfl⟩⟩
          · refine absurd (List.filter_eq_nil_iff.mpr fun p hp => ?_) hsome
            rw [hnone p hp]
            exact Bool.false_ne_true
          · exact ⟨p, List.mem_filter.mpr ⟨hp, hprecedes⟩, rfl⟩
  rw [replayPairs, List.mem_flatMap]
  constructor
  · rintro ⟨event, hevent, h⟩
    obtain ⟨rfl, hjoined⟩ := (hpair event).mp h
    exact ⟨hevent, hjoined⟩
  · rintro ⟨he, hjoined⟩
    exact ⟨e, he, (hpair e).mpr ⟨rfl, hjoined⟩⟩

theorem no_violations_iff {organizationId : Uuid} :
    (eventReplay organizationId events).violations = 0 ↔
      ∀ e o, (e, o) ∈ replayPairs events → e.organizationId = organizationId →
        e.violates o = false := by
  rw [eventReplay, List.length_eq_zero_iff, List.filter_eq_nil_iff]
  constructor
  · intro h e o hmem horganization
    have hpair := h (e, o) hmem
    rw [Bool.not_eq_true, Bool.and_eq_false_iff] at hpair
    exact hpair.resolve_left (by simp [horganization])
  · rintro h ⟨e, o⟩ hmem htrue
    rw [Bool.and_eq_true, decide_eq_true_iff] at htrue
    rw [h e o hmem htrue.1] at htrue
    exact Bool.false_ne_true htrue.2

theorem mem_streamOf {organizationId aggregateId : Uuid} {aggregateType : String} :
    e ∈ streamOf events organizationId aggregateType aggregateId ↔ e ∈ events ∧
      e.organizationId = organizationId ∧ e.aggregateType = aggregateType ∧
        e.aggregateId = aggregateId := by
  rw [streamOf, List.mem_filter, decide_eq_true_iff]

theorem precedes_iff {e p : SessionEvent} : e.precedes p = true ↔
    p.organizationId = e.organizationId ∧ p.aggregateType = e.aggregateType ∧
      p.aggregateId = e.aggregateId ∧ p.aggregateVersion + 1 = e.aggregateVersion := by
  simp [SessionEvent.precedes, and_assoc]

theorem version_pos (h : e.checked = true) : 0 < e.aggregateVersion := by
  simp only [SessionEvent.checked, Bool.and_eq_true, decide_eq_true_eq] at h
  exact h.1.1.1.1.1.2

/-- The check finds nothing when the streams of the organisation are continued. -/
theorem no_violations_iff_continued (t : SessionEventTable)
    (hchecked : ∀ e ∈ t.rows, e.checked = true) (organizationId : Uuid) :
    (eventReplay organizationId t.rows).violations = 0 ↔ ∀ aggregateType aggregateId,
      Continued (streamOf t.rows organizationId aggregateType aggregateId) := by
  rw [no_violations_iff]
  constructor
  · intro h aggregateType aggregateId e he
    obtain ⟨hmem, horganization, rfl, rfl⟩ := mem_streamOf.mp he
    have hpos := version_pos (hchecked e hmem)
    rcases Nat.lt_or_ge 1 e.aggregateVersion with hlater | hfirst
    · by_cases hjoined : ∃ p ∈ t.rows, e.precedes p = true
      · obtain ⟨p, hp, hprecedes⟩ := hjoined
        have hclean := h e (some p) (mem_replayPairs.mpr ⟨hmem, .inr ⟨p, hp, hprecedes, rfl⟩⟩)
          horganization
        obtain ⟨hsameOrganization, htype, hid, hversion⟩ := precedes_iff.mp hprecedes
        refine .inr ⟨p, mem_streamOf.mpr ⟨hp, hsameOrganization.trans horganization, htype, hid⟩,
          hversion, ?_⟩
        simpa [SessionEvent.violates, hlater] using (Bool.or_eq_false_iff.mp hclean).2
      · have hclean := h e none (mem_replayPairs.mpr ⟨hmem, .inl ⟨rfl, fun p hp =>
          Bool.eq_false_iff.mpr fun hprecedes => hjoined ⟨p, hp, hprecedes⟩⟩⟩) horganization
        simp [SessionEvent.violates, hlater] at hclean
    · have hone : e.aggregateVersion = 1 := by omega
      refine .inl ⟨hone, ?_⟩
      by_cases hjoined : ∃ p ∈ t.rows, e.precedes p = true
      · obtain ⟨p, hp, hprecedes⟩ := hjoined
        have hversion := (precedes_iff.mp hprecedes).2.2.2
        have := version_pos (hchecked p hp)
        omega
      · have hclean := h e none (mem_replayPairs.mpr ⟨hmem, .inl ⟨rfl, fun p hp =>
          Bool.eq_false_iff.mpr fun hprecedes => hjoined ⟨p, hp, hprecedes⟩⟩⟩) horganization
        simpa [SessionEvent.violates, hone] using hclean
  · intro h e o hpair horganization
    obtain ⟨hmem, hjoined⟩ := mem_replayPairs.mp hpair
    have hstream := h e.aggregateType e.aggregateId e
      (mem_streamOf.mpr ⟨hmem, horganization, rfl, rfl⟩)
    rcases hstream with ⟨hone, hnone⟩ | ⟨p, hp, hversion, hhash⟩
    · simp [SessionEvent.violates, hone, hnone]
    · obtain ⟨hp, hsameOrganization, htype, hid⟩ := mem_streamOf.mp hp
      have hpos := version_pos (hchecked p hp)
      have hprecedes : e.precedes p = true :=
        precedes_iff.mpr ⟨hsameOrganization.trans horganization.symm, htype, hid, hversion⟩
      rcases hjoined with ⟨-, hnone⟩ | ⟨q, hq, hprecedes', rfl⟩
      · exact absurd hprecedes (Bool.eq_false_iff.mp (hnone p hp))
      · -- the place before an event is held by one row
        obtain ⟨hqorganization, hqtype, hqid, hqversion⟩ := precedes_iff.mp hprecedes'
        have heq : q = p := by
          refine t.eq_of_key (f := fun e => (e.organizationId, e.aggregateType, e.aggregateId,
            e.aggregateVersion)) (fun a b hab => .inr (.inl ?_)) hq hp ?_
          · simpa [SessionEvent.samePlace] using hab
          · simp only [Prod.mk.injEq]
            exact ⟨by rw [hqorganization, hsameOrganization, horganization],
              by rw [hqtype, htype], by rw [hqid, hid], by omega⟩
        rw [heq]
        have hlater : e.aggregateVersion ≠ 1 := by omega
        simp [SessionEvent.violates, hlater, hhash]

/-- **Replayed.** The check finds nothing exactly when every stream of the organisation, put in
order, is numbered from one and linked. -/
theorem SessionEventTable.event_replay_sound (t : SessionEventTable)
    (hchecked : ∀ e ∈ t.rows, e.checked = true) (organizationId : Uuid) :
    (eventReplay organizationId t.rows).violations = 0 ↔ ∀ aggregateType aggregateId,
      ∃ l, l.Perm (streamOf t.rows organizationId aggregateType aggregateId) ∧ Stream l := by
  rw [no_violations_iff_continued t hchecked]
  refine forall_congr' fun aggregateType => forall_congr' fun aggregateId => ?_
  constructor
  · intro hcontinued
    have hnodup : ((streamOf t.rows organizationId aggregateType aggregateId).map
        SessionEvent.aggregateVersion).Nodup := by
      refine List.pairwise_map.mpr ((t.distinct.filter _).imp_of_mem ?_)
      intro a b ha hb hclash hversion
      obtain ⟨-, haorganization, hatype, haid⟩ := mem_streamOf.mp ha
      obtain ⟨-, hborganization, hbtype, hbid⟩ := mem_streamOf.mp hb
      exact hclash (.inr (.inl ⟨haorganization.trans hborganization.symm,
        hatype.trans hbtype.symm, haid.trans hbid.symm, hversion⟩))
    obtain ⟨l, hperm, hnumbered⟩ := Numbered.exists_perm hnodup fun e he => by
      rcases hcontinued e he with ⟨hone, -⟩ | ⟨p, hp, hversion, -⟩
      · exact .inl hone
      · exact .inr ⟨p, hp, hversion⟩
    exact ⟨l, hperm, hnumbered, (hcontinued.perm hperm.symm).linked hnumbered⟩
  · rintro ⟨l, hperm, hstream⟩
    exact hstream.continued.perm hperm


/-! ## A sample -/

namespace Sample

/-- Sixty-four ones. -/
def otherSha : String := String.ofList (List.replicate 64 '1')

def restoredTenant : Uuid := ⟨"aaaaaaaa-0000-0000-0000-000000000001", @rfl _ true⟩
def restoredJob : Uuid := ⟨"aaaa0000-0000-0000-0000-000000000001", @rfl _ true⟩

/-- An inspection's first event as it was recorded, but for its hash. -/
def restoredEvent (eventSha256 : String) : SessionEvent where
  id := ⟨"aaaad000-0000-0000-0000-000000000001", by decide⟩
  organizationId := restoredTenant
  aggregateType := "inspection"
  aggregateId := restoredJob
  aggregateVersion := 1
  sessionId := none
  eventType := "inspection.created"
  actorId := none
  clientOccurredAt := none
  recordedAt := 0
  idempotencyKey := none
  safeMetadata := .obj []
  protectedArtifactRefs := []
  correlationId := none
  causationId := none
  schemaVersion := 1
  payloadSha256 := placeholderSha
  previousEventSha256 := none
  checkpointEventId := none
  eventSha256 := eventSha256

/-- The table with that event. -/
def restoredEvents (eventSha256 : String) : SessionEventTable :=
  Sql.Table.empty.snoc (restoredEvent eventSha256) (by simp)

theorem restoredEvents_checked (eventSha256 : String) :
    ∀ e ∈ (restoredEvents eventSha256).rows, e.checked = true := by
  intro e he
  rw [List.mem_singleton.mp he]
  change (restoredEvent "").checked = true
  decide +kernel

theorem restoredEvents_clean (eventSha256 : String) :
    (eventReplay restoredTenant (restoredEvents eventSha256).rows).violations = 0 := by
  simp [eventReplay, replayPairs, restoredEvents, Sql.Table.snoc, Sql.Table.empty,
    SessionEvent.precedes, SessionEvent.violates, restoredEvent]

/-- Whatever the digest, the check passes an event whose hash is not that of its row. -/
theorem altered_event_passes : ¬ ∃ server : Server, ∀ (t : SessionEventTable)
    (organizationId : Uuid), (∀ e ∈ t.rows, e.checked = true) →
    (eventReplay organizationId t.rows).violations = 0 → ∀ aggregateType aggregateId,
      (∃ l, l.Perm (streamOf t.rows organizationId aggregateType aggregateId) ∧ Stream l) ∧
        ∀ e ∈ streamOf t.rows organizationId aggregateType aggregateId,
          e.eventSha256 = server.sha256 (e.hashText server) := by
  rintro ⟨server, hsound⟩
  have hashed : ∀ sha, sha = server.sha256 ((restoredEvent sha).hashText server) := by
    intro sha
    have hstream := (hsound (restoredEvents sha) restoredTenant (restoredEvents_checked sha)
      (restoredEvents_clean sha) "inspection" restoredJob).2
    exact hstream (restoredEvent sha)
      (mem_streamOf.mpr ⟨List.mem_singleton_self _, rfl, rfl, rfl⟩)
  -- the text that is hashed leaves the hash itself out
  have hsame : placeholderSha = otherSha :=
    (hashed placeholderSha).trans (hashed otherSha).symm
  exact absurd hsame (by decide)

/-- The check of the table with one event, and what it finds. -/
theorem restored_replay :
    (∀ e ∈ (restoredEvents placeholderSha).rows, e.checked = true) ∧
      ((eventReplay restoredTenant (restoredEvents placeholderSha).rows).violations = 0 ↔
        ∀ aggregateType aggregateId, ∃ l, l.Perm (streamOf (restoredEvents placeholderSha).rows
          restoredTenant aggregateType aggregateId) ∧ Stream l) :=
  ⟨restoredEvents_checked _,
    (restoredEvents placeholderSha).event_replay_sound (restoredEvents_checked _) restoredTenant⟩

end Sample

end Database

end InspectionHub
