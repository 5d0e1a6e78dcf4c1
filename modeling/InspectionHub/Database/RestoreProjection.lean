import InspectionHub.Database.RestoreSafety
import InspectionHub.Lib.Jsonb
import InspectionHub.Lib.Separated

/-!
# The projection of restored egress

`restore_egress_projection` of `20260715000700_u10_security_operations.sql`
and its reader `isRestoreEgressEnabled` in `packages/security/src/restore.ts`.

The projection's hash covers the session's generation, its latest run, its
latest event and the evidence, and so determines the state, but for one input:
whether a newer generation has begun. The hash commits to the state exactly in
the runs that begin no generation over an enabled session
(`projection_commits_iff`).
-/

namespace InspectionHub.Database

inductive RestoreEgressState where
  | blocked | enabled
deriving DecidableEq

structure RestoreEgressProjection where
  source : String
  organizationId : Uuid
  restoreSessionId : Uuid
  environment : String
  restoreGeneration : Nat
  verificationRun : Nat
  state : RestoreEgressState
  eventVersion : Nat
  eventId : Option Uuid
  checkedEvidence : List (RestoreCheckName × String)
  projectionHash : String

namespace RestoreTables

variable (sha256 : String → String) (db : RestoreTables)

/-- The item of a passed check, its keys in the order `jsonb` keeps them. -/
def evidenceItem (e : RestoreCheckName × String) : JsVal :=
  .obj [("name", .str e.1.text), ("evidenceHash", .str e.2)]

/-- What `projectionHash` is the digest of. -/
def projectionText (scope : RestoreScope) : String :=
  Sql.concatWs "|" [some scope.organizationId.text, some scope.restoreSessionId.text,
    some scope.environmentName,
    some (Sql.natText (((db.generation? scope).map RestoreGeneration.generation).getD 0)),
    some (Sql.natText (db.latestRun scope)),
    some (((db.latestEvent? scope).map fun e => e.id.text).getD "blocked"),
    some (Jsonb.text (.arr ((db.passedEvidence scope).map evidenceItem)))]

/-- `restore_egress_projection` -/
def restoreEgressProjection (scope : RestoreScope) : RestoreEgressProjection where
  source := "postgres_restore_egress_state_v2"
  organizationId := scope.organizationId
  restoreSessionId := scope.restoreSessionId
  environment := scope.environmentName
  restoreGeneration := ((db.generation? scope).map RestoreGeneration.generation).getD 0
  verificationRun := db.latestRun scope
  state := if db.restoreEgressIsEnabled scope then .enabled else .blocked
  eventVersion := ((db.latestEvent? scope).map RestoreEgressEvent.eventVersion).getD 0
  eventId := (db.latestEvent? scope).map RestoreEgressEvent.id
  checkedEvidence := db.passedEvidence scope
  projectionHash := sha256 (db.projectionText scope)

end RestoreTables

/-! ## The reader -/

structure RestoreEgressExpectation where
  organizationId : Uuid
  restoreSessionId : Uuid
  environment : String
  projectionHash : String

/-- `UUID_PATTERN`, in either case. -/
def isUuidPattern (text : String) : Bool :=
  (text.toList.mapIdx fun i c =>
    if i = 8 ∨ i = 13 ∨ i = 18 ∨ i = 23 then c == '-'
    else if i = 14 then '1' ≤ c && c ≤ '8'
    else if i = 19 then c ∈ ['8', '9', 'a', 'b', 'A', 'B']
    else Js.isLowerHex c.toLower).all id && text.toList.length = 36

/-- `text.charCodeAt(index) || 0` -/
def codeAt (text : String) (index : Nat) : Nat := (text.toList[index]?.map Char.toNat).getD 0

/-- `constantTimeEqualSha256(left, right)` -/
def constantTimeEqualSha256 (left right : String) : Bool :=
  let difference := (List.range 64).foldl
    (fun difference index => difference ||| (codeAt left index ^^^ codeAt right index))
    (left.length ^^^ right.length)
  Js.isHexDigest left && Js.isHexDigest right && difference == 0

/-- `new Map(checkedEvidence.map(…)).get(name)`: of equal names the last. -/
def evidenceOf (l : List (RestoreCheckName × String)) (name : RestoreCheckName) : String :=
  (l.reverse.lookup name).getD ""

/-- `isRestoreEgressEnabled(projection, expected)` -/
def isRestoreEgressEnabled (projection : Option RestoreEgressProjection)
    (expected : RestoreEgressExpectation) : Bool :=
  match projection with
  | none => false
  | some projection =>
      if projection.state ≠ .enabled then false
      else if projection.source ≠ "postgres_restore_egress_state_v2" ∨
          projection.organizationId ≠ expected.organizationId ∨
          projection.restoreSessionId ≠ expected.restoreSessionId ∨
          projection.environment ≠ expected.environment ∨
          projection.restoreGeneration < 1 ∨ projection.verificationRun < 1 ∨
          projection.eventVersion < 1 ∨
          ¬ projection.eventId.any (fun id => isUuidPattern id.text) ∨
          ¬ constantTimeEqualSha256 projection.projectionHash expected.projectionHash then false
      else
        (projection.checkedEvidence.map Prod.fst).dedup.length = restoreCheckNames.length &&
          projection.checkedEvidence.length = restoreCheckNames.length &&
          restoreCheckNames.all fun name =>
            Js.isHexDigest (evidenceOf projection.checkedEvidence name)

/-- It finds no difference between equal texts only. -/
theorem eq_of_constantTimeEqualSha256 {left right : String}
    (h : constantTimeEqualSha256 left right = true) : left = right := by
  have zero : ∀ (f : Nat → Nat) (l : List Nat) (d : Nat),
      l.foldl (fun d i => d ||| f i) d = 0 → d = 0 ∧ ∀ i ∈ l, f i = 0 := by
    intro f l
    induction l with
    | nil => exact fun d hd => ⟨hd, fun i hi => nomatch hi⟩
    | cons i l ih =>
        intro d hd
        obtain ⟨hor, hrest⟩ := ih _ hd
        obtain ⟨hd, hi⟩ := Nat.or_eq_zero_iff.mp hor
        refine ⟨hd, fun j hj => ?_⟩
        rcases List.mem_cons.mp hj with rfl | hj
        · exact hi
        · exact hrest j hj
  simp only [constantTimeEqualSha256, Bool.and_eq_true, beq_iff_eq] at h
  obtain ⟨⟨hleft, hright⟩, hdifference⟩ := h
  obtain ⟨-, hcodes⟩ := zero _ _ _ hdifference
  rw [Js.isHexDigest, Bool.and_eq_true, decide_eq_true_iff] at hleft hright
  apply String.toList_inj.mp
  refine List.ext_getElem (hleft.1.trans hright.1.symm) fun i hi hi' => ?_
  have hcode := hcodes i (List.mem_range.mpr (hleft.1 ▸ hi))
  rw [codeAt, codeAt, List.getElem?_eq_getElem hi, List.getElem?_eq_getElem hi'] at hcode
  have hcancel : (left.toList[i]).toNat ^^^ ((left.toList[i]).toNat ^^^ (right.toList[i]).toNat) =
      (right.toList[i]).toNat := by
    rw [← Nat.xor_assoc, Nat.xor_self, Nat.zero_xor]
  rw [show (left.toList[i]).toNat ^^^ (right.toList[i]).toNat = 0 from hcode, Nat.xor_zero]
    at hcancel
  exact Char.toNat_inj.mp hcancel

/-- A projection the reader accepts against a hash is enabled, of the expected
scope, and carries that hash. -/
theorem isRestoreEgressEnabled_of {projection : RestoreEgressProjection}
    {expected : RestoreEgressExpectation}
    (h : isRestoreEgressEnabled (some projection) expected = true) :
    projection.state = .enabled ∧ projection.projectionHash = expected.projectionHash := by
  simp only [isRestoreEgressEnabled] at h
  split at h
  · cases h
  · next hstate =>
      split at h
      · cases h
      · next hexpected =>
          simp only [not_or, not_not] at hstate hexpected
          exact ⟨hstate, eq_of_constantTimeEqualSha256 hexpected.2.2.2.2.2.2.2.2⟩

namespace RestoreTables

/-! ## What the hash determines -/

variable {sha256 : String → String} {db db' : RestoreTables} {scope : RestoreScope}

/-- The number of the session's generation, and nought where it has none. -/
def generationNumber (db : RestoreTables) (scope : RestoreScope) : Nat :=
  ((db.generation? scope).map RestoreGeneration.generation).getD 0

/-- The text of the latest event. -/
def eventText (db : RestoreTables) (scope : RestoreScope) : String :=
  ((db.latestEvent? scope).map fun e => e.id.text).getD "blocked"

theorem bar_not_mem_eventText (db : RestoreTables) (scope : RestoreScope) :
    '|' ∉ (db.eventText scope).toList := by
  unfold eventText
  cases db.latestEvent? scope with
  | none => decide
  | some e => exact Sql.bar_not_mem_uuid e.id

/-- Equal texts have the same generation, run and event. -/
theorem projectionText_inj (h : db.projectionText scope = db'.projectionText scope) :
    db.generationNumber scope = db'.generationNumber scope ∧
      db.latestRun scope = db'.latestRun scope ∧ db.eventText scope = db'.eventText scope := by
  have hchars : ∀ s : RestoreTables, (s.projectionText scope).toList =
      (scope.organizationId.text.toList ++ '|' :: scope.restoreSessionId.text.toList ++
        '|' :: scope.environmentName.toList) ++ '|' :: (Json.natText (s.generationNumber scope) ++
        '|' :: (Json.natText (s.latestRun scope) ++ '|' :: ((s.eventText scope).toList ++
        '|' :: (Jsonb.text (.arr ((s.passedEvidence scope).map evidenceItem))).toList))) := by
    intro s
    simp [projectionText, Sql.concatWs, Sql.separated, Sql.natText, generationNumber, eventText]
  have hlist := congrArg String.toList h
  rw [hchars, hchars] at hlist
  have hfields := List.cons.inj (List.append_cancel_left hlist)
  obtain ⟨hgeneration, hrest⟩ := Sql.field_cancel (Sql.bar_not_mem_natText _) (Sql.bar_not_mem_natText _)
    hfields.2
  obtain ⟨hrun, hrest⟩ := Sql.field_cancel (Sql.bar_not_mem_natText _) (Sql.bar_not_mem_natText _) hrest
  obtain ⟨hevent, -⟩ := Sql.field_cancel (bar_not_mem_eventText db scope)
    (bar_not_mem_eventText db' scope) hrest
  exact ⟨Json.natText_injective hgeneration, Json.natText_injective hrun,
    String.toList_inj.mp hevent⟩

/-! ## Histories only grow -/

variable {call : RestoreCall}

/-- A call appends to the checks and events of a scope, and new checks are of a
new run. -/
theorem Effect.history (h : Effect db call db') (scope : RestoreScope) :
    db.checksOf scope <+: db'.checksOf scope ∧
      (db'.checksOf scope = db.checksOf scope ∨ db.latestRun scope < db'.latestRun scope) ∧
      db.eventsOf scope <+: db'.eventsOf scope := by
  have same : db'.restoreReconciliationChecks = db.restoreReconciliationChecks →
      db'.checksOf scope = db.checksOf scope := fun heq => by rw [checksOf, heq, ← checksOf]
  have sameEvents : db'.restoreEgressEvents = db.restoreEgressEvents →
      db'.eventsOf scope = db.eventsOf scope := fun heq => by rw [eventsOf, heq, ← eventsOf]
  cases h with
  | refused generations checks events =>
      rw [same checks, sameEvents events]
      exact ⟨List.prefix_rfl, .inl rfl, List.prefix_rfl⟩
  | began administrators scope' manifest actorId request accepted g keys number generations checks
      events =>
      rw [same checks, sameEvents events]
      exact ⟨List.prefix_rfl, .inl rfl, List.prefix_rfl⟩
  | verified scope' generation findings actorId generations checks events =>
      have happend := checksOf_append checks scope
      rw [sameEvents events, happend]
      refine ⟨List.prefix_append _ _, ?_, List.prefix_rfl⟩
      by_cases heq : scope = scope'
      · subst heq
        right
        refine Nat.lt_of_lt_of_le (Nat.lt_succ_self _) (Sql.le_maxOf ?_)
        rw [happend, if_pos rfl]
        exact List.mem_map.mpr ⟨_, List.mem_append_right _ (List.mem_map_of_mem
          (a := .artifact_checksums) (by decide)), rfl⟩
      · left
        rw [if_neg heq, List.append_nil]
  | recorded scope' e keys number generations checks events =>
      rw [same checks, eventsOf_append events]
      exact ⟨List.prefix_rfl, .inl rfl, List.prefix_append _ _⟩

theorem latestRun_congr (h : db'.checksOf scope = db.checksOf scope) :
    db'.latestRun scope = db.latestRun scope := by rw [latestRun, h, ← latestRun]

theorem latestChecks_congr (h : db'.checksOf scope = db.checksOf scope) :
    db'.latestChecks scope = db.latestChecks scope := by
  rw [latestChecks, h, latestRun_congr h, ← latestChecks]

theorem latestEvent?_congr (h : db'.eventsOf scope = db.eventsOf scope) :
    db'.latestEvent? scope = db.latestEvent? scope := by
  rw [latestEvent?, h, ← latestEvent?]

theorem history_foldl (sha256 : String → String) (db : RestoreTables) (calls : List RestoreCall)
    (scope : RestoreScope) :
    db.checksOf scope <+: (calls.foldl (perform sha256) db).checksOf scope ∧
      ((calls.foldl (perform sha256) db).checksOf scope = db.checksOf scope ∨
        db.latestRun scope < (calls.foldl (perform sha256) db).latestRun scope) ∧
      db.eventsOf scope <+: (calls.foldl (perform sha256) db).eventsOf scope := by
  induction calls generalizing db with
  | nil => exact ⟨List.prefix_rfl, .inl rfl, List.prefix_rfl⟩
  | cons call calls ih =>
      obtain ⟨hchecks, hrun, hevents⟩ := (perform_effect sha256 db call).history scope
      obtain ⟨hchecks', hrun', hevents'⟩ := ih (db.perform sha256 call)
      refine ⟨hchecks.trans hchecks', ?_, hevents.trans hevents'⟩
      rcases hrun with heq | hlt
      · rw [heq] at hrun'
        rw [← latestRun_congr heq]
        exact hrun'
      · right
        rcases hrun' with heq' | hlt'
        · rw [List.foldl_cons, latestRun_congr heq']
          exact hlt
        · exact hlt.trans hlt'

/-- Of two histories with the same latest event, one is the other. -/
theorem eventsOf_of_prefix (hi : Inv db) (hi' : Inv db')
    (hgrown : db.eventsOf scope <+: db'.eventsOf scope)
    (htext : db.eventText scope = db'.eventText scope) :
    db'.eventsOf scope = db.eventsOf scope := by
  rw [eventText, eventText, latestEvent?_eq hi, latestEvent?_eq hi'] at htext
  have notBlocked : ∀ id : Uuid, id.text ≠ "blocked" := by
    intro id heq
    have hl : 'l' ∈ id.text.toList := by
      rw [heq]
      decide
    rcases Uuid.mem_text hl with h | h <;> exact absurd h (by decide)
  cases hlast' : (db'.eventsOf scope).getLast? with
  | none =>
      rw [List.getLast?_eq_none_iff] at hlast'
      rw [hlast', List.prefix_nil] at hgrown
      rw [hlast', hgrown]
  | some e' =>
      cases hlast : (db.eventsOf scope).getLast? with
      | none =>
          rw [hlast, hlast'] at htext
          exact absurd htext.symm (notBlocked e'.id)
      | some e =>
          rw [hlast, hlast'] at htext
          have hmem : ∀ x ∈ db'.eventsOf scope, x ∈ db'.restoreEgressEvents.rows :=
            fun x hx => (List.mem_filter.mp hx).1
          have heq : e = e' := db'.restoreEgressEvents.eq_of_key (f := RestoreEgressEvent.id)
            (fun _ _ h => .inl h) (hmem e (hgrown.subset (List.mem_of_getLast? hlast)))
            (hmem e' (List.mem_of_getLast? hlast')) (Uuid.text_injective htext)
          have hlength := Sql.number_getLast (hi.events scope) hlast
          rw [heq, Sql.number_getLast (hi'.events scope) hlast'] at hlength
          exact (hgrown.eq_of_length hlength.symm).symm

/-! ## Newer generations -/

/-- The call begins a generation of an environment with an enabled session. -/
def BeginsOver (db : RestoreTables) : RestoreCall → Prop
  | .begin administrators scope manifest actorId =>
      BeginAccepted db administrators scope manifest actorId ∧ ∃ restoreSessionId,
        db.restoreEgressIsEnabled
          ⟨scope.organizationId, restoreSessionId, scope.environmentName⟩ = true
  | _ => False

theorem current_congr (hrows : ∀ g ∈ db.restoreGenerations.rows, g ∈ db'.restoreGenerations.rows)
    (hof : db'.generationsOf scope.organizationId scope.environmentName =
      db.generationsOf scope.organizationId scope.environmentName)
    (h : db.restoreGenerationIsCurrent scope = true) :
    db'.restoreGenerationIsCurrent scope = true := by
  obtain ⟨henv, g, hg, hkeys⟩ := current_iff.mp h
  rw [current_iff, hof]
  exact ⟨henv, g, hrows g hg, hkeys⟩

/-- Unless a generation is begun over it, an enabled session stays current. -/
theorem current_step (h : Effect db call db') (henabled : db.restoreEgressIsEnabled scope = true)
    (hover : ¬ BeginsOver db call) : db'.restoreGenerationIsCurrent scope = true := by
  have hcurrent := (enabled_iff.mp henabled).1
  refine current_congr (fun g hg => h.generations_mono hg) ?_ hcurrent
  cases h with
  | refused generations checks events => rw [generationsOf, generations, ← generationsOf]
  | began administrators scope' manifest actorId request accepted g keys number generations checks
      events =>
      rw [generationsOf_append generations, if_neg, List.append_nil]
      rintro ⟨horg, henv⟩
      refine hover ?_
      rw [request]
      refine ⟨accepted, scope.restoreSessionId, ?_⟩
      rw [← keys.1, ← keys.2.2, horg, henv]
      exact henabled
  | verified scope' generation findings actorId generations checks events =>
      rw [generationsOf, generations, ← generationsOf]
  | recorded scope' e keys number generations checks events =>
      rw [generationsOf, generations, ← generationsOf]

/-- With the same checks and events, a session that is current is enabled where
it was enabled. -/
theorem enabled_of_current (hchecks : db'.checksOf scope = db.checksOf scope)
    (hevents : db'.eventsOf scope = db.eventsOf scope)
    (h : db.restoreEgressIsEnabled scope = true)
    (hcurrent : db'.restoreGenerationIsCurrent scope = true) :
    db'.restoreEgressIsEnabled scope = true := by
  rw [enabled_iff, latestChecks_congr hchecks, latestEvent?_congr hevents]
  exact ⟨hcurrent, (enabled_iff.mp h).2⟩

/-- A session whose checks and events did not change stays enabled in a run that
begins no generation over an enabled session. -/
theorem enabled_foldl (sha256 : String → String) (calls : List RestoreCall)
    (hover : ∀ before call after, calls = before ++ call :: after →
      ¬ BeginsOver (before.foldl (perform sha256) db) call)
    (hchecks : (calls.foldl (perform sha256) db).checksOf scope = db.checksOf scope)
    (hevents : (calls.foldl (perform sha256) db).eventsOf scope = db.eventsOf scope)
    (h : db.restoreEgressIsEnabled scope = true) :
    (calls.foldl (perform sha256) db).restoreEgressIsEnabled scope = true := by
  induction calls generalizing db with
  | nil => exact h
  | cons call calls ih =>
      have heffect := perform_effect sha256 db call
      obtain ⟨hfirst, -, hfirstEvents⟩ := heffect.history scope
      obtain ⟨hrest, -, hrestEvents⟩ := history_foldl sha256 (db.perform sha256 call) calls scope
      rw [List.foldl_cons] at hchecks hevents ⊢
      -- what is unchanged at the end is unchanged after the first call
      have hmid : (db.perform sha256 call).checksOf scope = db.checksOf scope := by
        rw [hchecks] at hrest
        exact hrest.eq_of_length_le hfirst.length_le
      have hmidEvents : (db.perform sha256 call).eventsOf scope = db.eventsOf scope := by
        rw [hevents] at hrestEvents
        exact hrestEvents.eq_of_length_le hfirstEvents.length_le
      refine ih ?_ (hchecks.trans hmid.symm) (hevents.trans hmidEvents.symm) ?_
      · intro before c after hl
        exact hover (call :: before) c after (by rw [hl, List.cons_append])
      · exact enabled_of_current hmid hmidEvents h
          (current_step heffect h (hover [] call calls rfl))

/-- The generation a session carries is the one its row has. -/
theorem generation?_of_mem {g : RestoreGeneration} (hg : g ∈ db.restoreGenerations.rows)
    (hkeys : g.restoreSessionId = scope.restoreSessionId ∧
      g.organizationId = scope.organizationId ∧ g.environmentName = scope.environmentName) :
    db.generation? scope = some g := by
  cases hfind : db.generation? scope with
  | none =>
      have hnone := List.find?_eq_none.mp hfind g hg
      exact absurd (decide_eq_true hkeys) hnone
  | some h =>
      have hsession : h.restoreSessionId = scope.restoreSessionId := by
        have hfound := List.find?_some hfind
        exact (of_decide_eq_true hfound).1
      rw [session_unique (List.mem_of_find?_eq_some hfind) hg (hsession.trans hkeys.1.symm)]

/-- A session that is current later was current when it already had its
generation. -/
theorem current_of_later (hi : Inv db')
    (hrows : ∀ g ∈ db.restoreGenerations.rows, g ∈ db'.restoreGenerations.rows)
    (hnumber : db.generationNumber scope = db'.generationNumber scope)
    (h : db'.restoreGenerationIsCurrent scope = true) :
    db.restoreGenerationIsCurrent scope = true := by
  obtain ⟨henv, g', hg', hsession', horg', henv', hmax'⟩ := current_iff.mp h
  have hgeneration' := generation?_of_mem hg' ⟨hsession', horg', henv'⟩
  have hpositive : 1 ≤ g'.generation := by
    have hmem : g' ∈ db'.generationsOf scope.organizationId scope.environmentName :=
      mem_generationsOf.mpr ⟨hg', horg', henv'⟩
    have hnumbers : g'.generation ∈ List.range' 1 _ :=
      hi.generations scope.organizationId scope.environmentName ▸ List.mem_map_of_mem hmem
    exact (List.mem_range'_1.mp hnumbers).1
  rw [generationNumber, generationNumber, hgeneration'] at hnumber
  cases hgeneration : db.generation? scope with
  | none =>
      rw [hgeneration] at hnumber
      exact absurd hnumber (Nat.ne_of_lt hpositive)
  | some g =>
      rw [hgeneration] at hnumber
      have hg := List.mem_of_find?_eq_some hgeneration
      have hkeys : g.restoreSessionId = scope.restoreSessionId ∧
          g.organizationId = scope.organizationId ∧ g.environmentName = scope.environmentName := by
        have hfound := List.find?_some hgeneration
        exact of_decide_eq_true hfound
      refine current_iff.mpr ⟨henv, g, hg, hkeys.1, hkeys.2.1, hkeys.2.2, ?_⟩
      refine Nat.le_antisymm
        (Sql.le_maxOf (List.mem_map_of_mem (mem_generationsOf.mpr ⟨hg, hkeys.2⟩))) ?_
      refine Sql.maxOf_le fun n hn => ?_
      obtain ⟨h, hh, rfl⟩ := List.mem_map.mp hn
      obtain ⟨hmem, hhorg, hhenv⟩ := mem_generationsOf.mp hh
      have hle := Sql.le_maxOf (List.mem_map_of_mem (f := RestoreGeneration.generation)
        (mem_generationsOf.mpr ⟨hrows h hmem, hhorg, hhenv⟩))
      rw [← hmax'] at hle
      exact hle.trans_eq hnumber.symm

/-- The row an accepted begin adds. -/
def begun (db : RestoreTables) (scope : RestoreScope) (manifest : String) (actorId : Uuid) :
    RestoreGeneration :=
  ⟨scope.restoreSessionId, scope.organizationId, scope.environmentName,
    Sql.maxOf ((db.generationsOf scope.organizationId scope.environmentName).map
      RestoreGeneration.generation) + 1, manifest, actorId⟩

theorem begin_of (sha256 : String → String) {administrators : Administrators} {manifest : String} {actorId : Uuid}
    (h : BeginAccepted db administrators scope manifest actorId) :
    ∃ db', db.perform sha256 (.begin administrators scope manifest actorId) = db' ∧
      db'.restoreGenerations.rows =
        db.restoreGenerations.rows ++ [begun db scope manifest actorId] ∧
      db'.restoreReconciliationChecks = db.restoreReconciliationChecks ∧
      db'.restoreEgressEvents = db.restoreEgressEvents := by
  have hnew : ∀ g ∈ db.restoreGenerations.rows, ¬ g.clash (begun db scope manifest actorId) := by
    rintro g hg (hsession | ⟨horg, henv, hnumber⟩)
    · exact h.fresh g hg hsession
    · have hle := Sql.le_maxOf (List.mem_map_of_mem (f := RestoreGeneration.generation)
        (mem_generationsOf.mpr ⟨hg, horg, henv⟩))
      rw [hnumber] at hle
      exact absurd hle (Nat.not_succ_le_self _)
  have hok : ∃ db', commandBeginRestoreGeneration administrators scope manifest actorId db =
      .ok ((begun db scope manifest actorId).generation, db') ∧
      db'.restoreGenerations.rows =
        db.restoreGenerations.rows ++ [begun db scope manifest actorId] ∧
      db'.restoreReconciliationChecks = db.restoreReconciliationChecks ∧
      db'.restoreEgressEvents = db.restoreEgressEvents := by
    rw [commandBeginRestoreGeneration, Sql.check_of (by
      simp only [h.environment, h.manifest, h.administrator, not_true_eq_false, or_self,
        not_false_eq_true])]
    have hinsert := Sql.Table.insert_of hnew "restore_generations"
    exact ⟨_, Sql.bind_of hinsert _, rfl, rfl, rfl⟩
  obtain ⟨db', hcommand, hrest⟩ := hok
  refine ⟨db', ?_, hrest⟩
  unfold perform
  dsimp only
  rw [hcommand]
  rfl

/-- A begun generation changes nothing the hash of an enabled session covers,
and disables the session. -/
theorem begin_over_flips (sha256 : String → String) (hover : BeginsOver db call) :
    ∃ scope, (db.perform sha256 call).projectionText scope = db.projectionText scope ∧
      db.restoreEgressIsEnabled scope = true ∧
      (db.perform sha256 call).restoreEgressIsEnabled scope = false := by
  cases call with
  | begin administrators scope manifest actorId =>
      obtain ⟨haccepted, session, henabled⟩ := hover
      obtain ⟨db', hperform, hgenerations, hchecks, hevents⟩ :=
        begin_of sha256 haccepted
      rw [hperform]
      refine ⟨⟨scope.organizationId, session, scope.environmentName⟩, ?_, henabled, ?_⟩
      · -- the session keeps its generation, and nothing else was written
        obtain ⟨-, g, hg, hkeys⟩ := current_iff.mp (enabled_iff.mp henabled).1
        have hrow : g ∈ db'.restoreGenerations.rows := by
          rw [hgenerations]
          exact List.mem_append_left _ hg
        have hgeneration := generation?_of_mem hrow ⟨hkeys.1, hkeys.2.1, hkeys.2.2.1⟩
        have hbefore := generation?_of_mem hg ⟨hkeys.1, hkeys.2.1, hkeys.2.2.1⟩
        have hsame : ∀ scope, db'.checksOf scope = db.checksOf scope := fun scope => by
          rw [checksOf, hchecks, ← checksOf]
        have hsameEvents : ∀ scope, db'.eventsOf scope = db.eventsOf scope := fun scope => by
          rw [eventsOf, hevents, ← eventsOf]
        rw [projectionText, projectionText, hgeneration, hbefore, latestRun_congr (hsame _),
          latestEvent?_congr (hsameEvents _), passedEvidence, latestChecks_congr (hsame _),
          ← passedEvidence]
      · obtain ⟨-, g, hg, hsession, horg, henv, hmax⟩ :=
          current_iff.mp (enabled_iff.mp henabled).1
        have hold : g ∈ db'.restoreGenerations.rows := by
          rw [hgenerations]
          exact List.mem_append_left _ hg
        have hnew : begun db scope manifest actorId ∈ db'.restoreGenerations.rows := by
          rw [hgenerations]
          exact List.mem_append_right _ (List.mem_singleton_self _)
        have hlt : g.generation < (begun db scope manifest actorId).generation := by
          rw [hmax]
          exact Nat.lt_succ_self _
        have hfalse := not_enabled_of_newer hold hnew horg henv hlt
        rwa [horg, hsession, henv] at hfalse
  | verify administrators findings scope actorId => exact hover.elim
  | enable r scope key => exact hover.elim
  | disable r scope key => exact hover.elim

/-! ## Two states of a run -/

/-- The tables after the calls of a run. -/
def run (sha256 : String → String) (calls : List RestoreCall) : RestoreTables :=
  calls.foldl (perform sha256) .empty

theorem run_inv (sha256 : String → String) (calls : List RestoreCall) : Inv (run sha256 calls) :=
  (inv_inductive sha256).invariant (TSys.reachable_foldl RestoreTables.empty (perform sha256) calls)

/-- What a projection of `db` and its hash say of `db'`. -/
structure CommitsTo (sha256 : String → String) (db db' : RestoreTables) : Prop where
  /-- Equal hashes mean equal states. -/
  state : ∀ scope, (db.restoreEgressProjection sha256 scope).projectionHash =
      (db'.restoreEgressProjection sha256 scope).projectionHash →
    (db.restoreEgressProjection sha256 scope).state =
      (db'.restoreEgressProjection sha256 scope).state
  /-- A projection accepted against the hash of `db'` is enabled in `db'`. -/
  reader : ∀ scope : RestoreScope,
    isRestoreEgressEnabled (some (db.restoreEgressProjection sha256 scope))
      ⟨scope.organizationId, scope.restoreSessionId, scope.environmentName,
        (db'.restoreEgressProjection sha256 scope).projectionHash⟩ = true →
    db'.restoreEgressIsEnabled scope = true

theorem state_eq_iff {scope : RestoreScope} :
    (db.restoreEgressProjection sha256 scope).state =
      (db'.restoreEgressProjection sha256 scope).state ↔
      (db.restoreEgressIsEnabled scope = true ↔ db'.restoreEgressIsEnabled scope = true) := by
  simp only [restoreEgressProjection]
  cases db.restoreEgressIsEnabled scope <;> cases db'.restoreEgressIsEnabled scope <;> simp

/-- The reader asks for an enabled state, which equal hashes share. -/
theorem commitsTo_of_state
    (h : ∀ scope, (db.restoreEgressProjection sha256 scope).projectionHash =
        (db'.restoreEgressProjection sha256 scope).projectionHash →
      (db.restoreEgressIsEnabled scope = true ↔ db'.restoreEgressIsEnabled scope = true)) :
    CommitsTo sha256 db db' := by
  refine ⟨fun scope hhash => state_eq_iff.mpr (h scope hhash), fun scope hreader => ?_⟩
  obtain ⟨hstate, hhash⟩ := isRestoreEgressEnabled_of hreader
  refine (h scope hhash).mp ?_
  by_contra hblocked
  simp only [restoreEgressProjection, if_neg hblocked] at hstate
  cases hstate

/-- An earlier and a later state of a run with the same hash. -/
theorem enabled_iff_of_hash (hsha : Function.Injective sha256) (one more : List RestoreCall)
    (hover : ∀ before call after, one ++ more = before ++ call :: after →
      ¬ BeginsOver (run sha256 before) call) {scope : RestoreScope}
    (hhash : ((run sha256 one).restoreEgressProjection sha256 scope).projectionHash =
      ((run sha256 (one ++ more)).restoreEgressProjection sha256 scope).projectionHash) :
    (run sha256 one).restoreEgressIsEnabled scope = true ↔
      (run sha256 (one ++ more)).restoreEgressIsEnabled scope = true := by
  have hsplit : run sha256 (one ++ more) = more.foldl (perform sha256) (run sha256 one) :=
    List.foldl_append
  have hi := run_inv sha256 one
  have hi' := run_inv sha256 (one ++ more)
  obtain ⟨hnumber, hrun, hevent⟩ := projectionText_inj (hsha hhash)
  obtain ⟨-, hchecks, hgrown⟩ := history_foldl sha256 (run sha256 one) more scope
  rw [← hsplit] at hchecks hgrown
  have hevents := eventsOf_of_prefix hi hi' hgrown hevent
  have hsame : (run sha256 (one ++ more)).checksOf scope = (run sha256 one).checksOf scope := by
    rcases hchecks with heq | hlt
    · exact heq
    · exact absurd hrun (Nat.ne_of_lt hlt)
  constructor
  · intro henabled
    rw [hsplit] at hsame hevents ⊢
    refine enabled_foldl sha256 more ?_ hsame hevents henabled
    intro before call after hl
    have hrest := hover (one ++ before) call after (by rw [hl, List.append_assoc])
    rwa [run, List.foldl_append] at hrest
  · intro henabled
    refine enabled_of_current hsame.symm hevents.symm henabled ?_
    refine current_of_later hi' ?_ hnumber (enabled_iff.mp henabled).1
    intro g hg
    rw [hsplit]
    have hmono : ∀ (calls : List RestoreCall) (s : RestoreTables), g ∈ s.restoreGenerations.rows →
        g ∈ (calls.foldl (perform sha256) s).restoreGenerations.rows := by
      intro calls
      induction calls with
      | nil => exact fun _ h => h
      | cons call calls ih =>
          exact fun s h => ih _ ((perform_effect sha256 s call).generations_mono h)
    exact hmono more _ hg

/-- **What the hash commits to.** In a run, equal hashes of a scope mean equal
states, and an accepted projection an enabled session, exactly if no call begins
a generation of an environment with an enabled session. -/
theorem projection_commits_iff (hsha : Function.Injective sha256) (calls : List RestoreCall) :
    (∀ one rest other rest', calls = one ++ rest → calls = other ++ rest' →
      CommitsTo sha256 (run sha256 one) (run sha256 other)) ↔
    ∀ before call after, calls = before ++ call :: after →
      ¬ BeginsOver (run sha256 before) call := by
  constructor
  · intro hcommits before call after hl hover
    have hnext : run sha256 (before ++ [call]) = (run sha256 before).perform sha256 call := by
      rw [run, List.foldl_append]
      rfl
    obtain ⟨scope, htext, henabled, hblocked⟩ := begin_over_flips sha256 hover
    have hcommit := hcommits before (call :: after) (before ++ [call]) after hl (by simp [hl])
    have hstate := state_eq_iff.mp (hcommit.state scope (by
      rw [hnext]
      simp only [restoreEgressProjection, htext]))
    rw [hnext, hblocked] at hstate
    exact absurd (hstate.mp henabled) (by decide)
  · intro hover one rest other rest' hone hother
    have hsplit := List.append_eq_append_iff.mp (hone.symm.trans hother)
    refine commitsTo_of_state fun scope hhash => ?_
    rcases hsplit with ⟨more, rfl, -⟩ | ⟨more, rfl, -⟩
    · refine enabled_iff_of_hash hsha one more ?_ hhash
      intro before call after hl
      exact hover before call (after ++ rest') (by rw [hother, hl]; simp)
    · refine (enabled_iff_of_hash hsha other more ?_ hhash.symm).symm
      intro before call after hl
      exact hover before call (after ++ rest) (by rw [hone, hl]; simp)

end RestoreTables

/-! ## A newer generation under the same hash -/

namespace Sample

open RestoreTables

def secondSession : Uuid := ⟨"bbbb0000-0000-4000-8000-000000000002", by decide⟩

def secondScope : RestoreScope := ⟨restored, secondSession, "production"⟩

/-- Begin a second generation over the enabled session. -/
def superseding : List RestoreCall := enabling ++ [begin secondScope]

theorem begins_over : BeginsOver enabledTables (begin secondScope) := by
  refine ⟨⟨by decide, by decide, rfl, ?_⟩, firstSession, enabledTables_enabled⟩
  have hsessions : enabledTables.restoreGenerations.rows.map RestoreGeneration.restoreSessionId =
      [firstSession] := by decide +kernel
  intro g hg
  have hmem := List.mem_map_of_mem (f := RestoreGeneration.restoreSessionId) hg
  rw [hsessions, List.mem_singleton] at hmem
  rw [hmem]
  decide

/-- The projections before and after have the same hash and different states. -/
theorem superseding_same_hash :
    ¬ CommitsTo restoreDigest (run restoreDigest enabling) (run restoreDigest superseding) := by
  intro h
  have hnext : run restoreDigest superseding =
      (run restoreDigest enabling).perform restoreDigest (begin secondScope) := by
    rw [run, superseding, List.foldl_append]
    rfl
  obtain ⟨scope, htext, henabled, hblocked⟩ := begin_over_flips restoreDigest begins_over
  have hstate := state_eq_iff.mp (h.state scope (by
    rw [hnext]
    simp only [restoreEgressProjection]
    exact congrArg restoreDigest htext.symm))
  rw [hnext] at hstate
  exact absurd ((hstate.mp henabled).symm.trans hblocked) (by decide)

/-- The states of the run that enables the session commit to each other. -/
theorem enabling_commits : CommitsTo restoreDigest (run restoreDigest []) enabledTables := by
  refine (projection_commits_iff restoreDigest_injective enabling).mpr ?_ [] enabling enabling []
    rfl rfl
  intro before call after hl hover
  match before, hl with
  | [], hl =>
      cases hl
      obtain ⟨-, session, henabled⟩ := hover
      obtain ⟨-, g, hg, -⟩ := current_iff.mp (enabled_iff.mp henabled).1
      exact nomatch hg
  | [_], hl =>
      cases hl
      exact hover
  | [_, _], hl =>
      cases hl
      exact hover
  | _ :: _ :: _ :: before, hl =>
      have hlength := congrArg List.length hl
      simp [enabling] at hlength

end Sample

end InspectionHub.Database
