import InspectionHub.Database.RestoreSafety

/-!
# What enables restored egress

Every enabled event was recorded together with a completed attempt. Whether a
session is enabled is computed from the checks too: a run that fails suspends
it, and the next one that passes ends the suspension without an attempt.
-/

namespace InspectionHub.Database

namespace RestoreTables

variable {sha256 : String → String} {db db' : RestoreTables} {call : RestoreCall}

/-! ## Attempts -/

/-- The completed attempt that an enabled event was recorded with. -/
structure Enables (e : RestoreEgressEvent) (audit : PrivilegedActionAudit) : Prop where
  organizationId : audit.organizationId = e.organizationId
  action : audit.actionName = .enable_restore_egress
  outcome : audit.outcome = .completed
  result : audit.resultRecordId = some e.id

/-- The tables that enablement is computed from. -/
structure Same (db db' : RestoreTables) : Prop where
  generations : db'.restoreGenerations = db.restoreGenerations
  checks : db'.restoreReconciliationChecks = db.restoreReconciliationChecks
  events : db'.restoreEgressEvents = db.restoreEgressEvents

/-- What a call records. -/
inductive Records (db : RestoreTables) (call : RestoreCall) (db' : RestoreTables) : Prop
  | nothing (same : Same db db') (more : List PrivilegedActionAudit)
      (audit : db'.privilegedActionAudit.rows = db.privilegedActionAudit.rows ++ more)
  | began (g : RestoreGeneration)
      (fresh : ∀ h ∈ db.restoreGenerations.rows, h.restoreSessionId ≠ g.restoreSessionId)
      (generations : db'.restoreGenerations.rows = db.restoreGenerations.rows ++ [g])
      (checks : db'.restoreReconciliationChecks = db.restoreReconciliationChecks)
      (events : db'.restoreEgressEvents = db.restoreEgressEvents)
      (audit : db'.privilegedActionAudit = db.privilegedActionAudit)
  | verified (administrators : Administrators) (findings : CheckFindings) (scope : RestoreScope)
      (actorId : Uuid) (request : call = .verify administrators findings scope actorId)
      (current : db.restoreGenerationIsCurrent scope = true) (generation : Nat)
      (generations : db'.restoreGenerations = db.restoreGenerations)
      (checks : db'.restoreReconciliationChecks.rows = db.restoreReconciliationChecks.rows ++
        restoreCheckNames.map (checkRow scope generation (db.latestRun scope + 1) findings actorId))
      (events : db'.restoreEgressEvents = db.restoreEgressEvents)
      (audit : db'.privilegedActionAudit = db.privilegedActionAudit)
  | enabled (r : Request) (scope : RestoreScope) (key : String)
      (request : call = .enable r scope key) (e : RestoreEgressEvent)
      (keys : e.organizationId = scope.organizationId ∧
        e.restoreSessionId = scope.restoreSessionId ∧ e.environmentName = scope.environmentName)
      (id : e.id = r.newId)
      (generations : db'.restoreGenerations = db.restoreGenerations)
      (checks : db'.restoreReconciliationChecks = db.restoreReconciliationChecks)
      (events : db'.restoreEgressEvents.rows = db.restoreEgressEvents.rows ++ [e])
      (attempt : PrivilegedActionAudit) (enables : Enables e attempt)
      (audit : db'.privilegedActionAudit.rows = db.privilegedActionAudit.rows ++ [attempt])
  | disabled (e : RestoreEgressEvent) (kind : e.eventKind = .disabled)
      (events : db'.restoreEgressEvents.rows = db.restoreEgressEvents.rows ++ [e])
      (generations : db'.restoreGenerations = db.restoreGenerations)
      (checks : db'.restoreReconciliationChecks = db.restoreReconciliationChecks)
      (more : List PrivilegedActionAudit)
      (audit : db'.privilegedActionAudit.rows = db.privilegedActionAudit.rows ++ more)

/-- The event and the attempt that `recordEgressEvent` appends. -/
structure Recorded (a : Attempt) (r : Request) (scope : RestoreScope)
    (kind : RestoreEgressEventKind) (db db' : RestoreTables) (e : RestoreEgressEvent)
    (audit : PrivilegedActionAudit) : Prop where
  keys : e.organizationId = scope.organizationId ∧
    e.restoreSessionId = scope.restoreSessionId ∧ e.environmentName = scope.environmentName
  id : e.id = r.newId
  kind : e.eventKind = kind
  generations : db'.restoreGenerations = db.restoreGenerations
  checks : db'.restoreReconciliationChecks = db.restoreReconciliationChecks
  events : db'.restoreEgressEvents.rows = db.restoreEgressEvents.rows ++ [e]
  rows : db'.privilegedActionAudit.rows = db.privilegedActionAudit.rows ++ [audit]
  organizationId : audit.organizationId = a.organizationId
  action : audit.actionName = a.action
  outcome : audit.outcome = .completed
  result : audit.resultRecordId = some e.id

variable {scope : RestoreScope} {answer : Option Uuid} {r : Request} {a : Attempt}

theorem recordEgressEvent_ok {generation : Nat} {kind : RestoreEgressEventKind}
    {reasonCode projectionSha : String}
    (h : recordEgressEvent a r scope generation kind reasonCode projectionSha db =
      .ok (answer, db')) : ∃ e audit, Recorded a r scope kind db db' e audit := by
  unfold recordEgressEvent at h
  split at h
  · cases h
  · obtain ⟨events, -, hrest⟩ := Sql.bind_ok h
    obtain ⟨table, htable, hdone⟩ := Sql.bind_ok hrest
    cases hdone
    obtain ⟨attempts, -, hattempts⟩ := Sql.bind_ok htable
    cases hattempts
    exact ⟨_, _, ⟨rfl, rfl, rfl⟩, rfl, rfl, rfl, rfl, events.2, attempts.2, rfl, rfl, rfl, rfl⟩

theorem refuse_records {reasonCode target : String}
    (h : refuse a r reasonCode target db = .ok (answer, db')) : Records db call db' := by
  obtain ⟨audit, haudit, hdone⟩ := Sql.bind_ok h
  cases hdone
  obtain ⟨row, hrow⟩ := AuditTable.deny_ok haudit
  exact .nothing ⟨rfl, rfl, rfl⟩ [row] hrow

theorem records_refl (db : RestoreTables) (call : RestoreCall) : Records db call db :=
  .nothing ⟨rfl, rfl, rfl⟩ [] (List.append_nil _).symm

theorem privileged_records {target : Option String}
    {act : Except Sql.Error (Option Uuid × RestoreTables)}
    (h : privileged db.privilegedActionAudit db
      (fun audit => { db with privilegedActionAudit := audit }) a r target act = .ok (answer, db'))
    (hact : act = .ok (answer, db') → Records db call db') : Records db call db' := by
  obtain ⟨audit, row, hrow, -, rfl⟩ | rfl | hrest := privileged_peel h
  · exact .nothing ⟨rfl, rfl, rfl⟩ [row] hrow
  · exact records_refl _ call
  · exact hact hrest

variable {actorId : Uuid}

theorem begin_records {administrators : Administrators} {manifest : String} {n : Nat}
    (h : commandBeginRestoreGeneration administrators scope manifest actorId db = .ok (n, db')) :
    Records db call db' := by
  obtain ⟨-, hrest⟩ := Sql.check_ok h
  obtain ⟨t, ht, hdone⟩ := Sql.bind_ok hrest
  cases hdone
  refine .began _ (fun g hg heq => ?_) t.2 rfl rfl rfl
  exact Sql.Table.insert_ok ht g hg (.inl heq)

theorem verify_records {administrators : Administrators} {findings : CheckFindings} {n : Nat}
    (h : commandVerifyRestoreGeneration administrators findings scope actorId db = .ok (n, db')) :
    Records db (.verify administrators findings scope actorId) db' := by
  obtain ⟨hcurrent, hrest⟩ := Sql.check_ok h
  split at hrest
  · cases hrest
  · obtain ⟨checks, hchecks, hdone⟩ := Sql.bind_ok hrest
    cases hdone
    simp only [not_or, not_not] at hcurrent
    exact .verified administrators findings scope actorId rfl hcurrent.1 _ rfl
      (Sql.Table.foldlM_insert hchecks) rfl rfl

theorem enable_records {key : String}
    (h : commandEnableRestoreEgress sha256 r scope key db = .ok (answer, db')) :
    Records db (.enable r scope key) db' := by
  obtain ⟨-, hrest⟩ := Sql.check_ok h
  refine privileged_records hrest fun hact => ?_
  split at hact
  · split at hact
    · cases hact
    · obtain ⟨e, audit, hr⟩ := recordEgressEvent_ok hact
      have henables : Enables e audit :=
        ⟨hr.organizationId.trans hr.keys.1.symm, hr.action, hr.outcome, hr.result⟩
      exact .enabled r scope key rfl e hr.keys hr.id hr.generations hr.checks hr.events audit
        henables hr.rows
  · exact refuse_records hact

theorem disable_records {key : String}
    (h : commandDisableRestoreEgress sha256 r scope key db = .ok (answer, db')) :
    Records db call db' := by
  obtain ⟨-, hrest⟩ := Sql.check_ok h
  refine privileged_records hrest fun hact => ?_
  split at hact
  · split at hact
    · cases hact
    · obtain ⟨e, audit, hr⟩ := recordEgressEvent_ok hact
      exact .disabled e hr.kind hr.events hr.generations hr.checks [audit] hr.rows
  · exact refuse_records hact

/-- **What a call records.** -/
theorem perform_records (sha256 : String → String) (db : RestoreTables) (call : RestoreCall) :
    Records db call (db.perform sha256 call) := by
  have settle : ∀ {α : Type} {x : Except Sql.Error (α × RestoreTables)} {db' : RestoreTables},
      x.map Prod.snd = .ok db' → ∃ a, x = .ok (a, db') := by
    intro α x db' hx
    cases x with
    | ok p =>
        cases hx
        exact ⟨p.1, rfl⟩
    | error e => cases hx
  unfold perform
  dsimp only
  split
  · next db' h =>
      cases call with
      | begin administrators scope manifest actorId =>
          obtain ⟨a, hbegin⟩ := settle h
          exact begin_records hbegin
      | verify administrators findings scope actorId =>
          obtain ⟨a, hverify⟩ := settle h
          exact verify_records hverify
      | enable r scope key =>
          obtain ⟨a, henable⟩ := settle h
          exact enable_records henable
      | disable r scope key =>
          obtain ⟨a, hdisable⟩ := settle h
          exact disable_records hdisable
  · exact records_refl db call

/-! ## The invariant -/

/-- Every enabled event has its attempt, and every check its generation. -/
structure Audited (db : RestoreTables) : Prop where
  attempts : ∀ e ∈ db.restoreEgressEvents.rows, e.eventKind = .enabled →
    ∃ audit ∈ db.privilegedActionAudit.rows, Enables e audit
  begun : ∀ c ∈ db.restoreReconciliationChecks.rows, ∃ g ∈ db.restoreGenerations.rows,
    g.restoreSessionId = c.restoreSessionId

theorem Audited.step (hi : Audited db) (h : Records db call db') : Audited db' := by
  cases h with
  | nothing same more audit =>
      refine ⟨fun e he hkind => ?_, ?_⟩
      · rw [same.events] at he
        obtain ⟨attempt, hattempt, henables⟩ := hi.attempts e he hkind
        exact ⟨attempt, audit ▸ List.mem_append_left _ hattempt, henables⟩
      · rw [same.checks, same.generations]
        exact hi.begun
  | began g fresh generations checks events audit =>
      refine ⟨?_, fun c hc => ?_⟩
      · rw [events, audit]
        exact hi.attempts
      · rw [checks] at hc
        obtain ⟨g', hg', hsession⟩ := hi.begun c hc
        exact ⟨g', generations ▸ List.mem_append_left _ hg', hsession⟩
  | verified administrators findings scope actorId request current generation generations checks
      events audit =>
      refine ⟨?_, fun c hc => ?_⟩
      · rw [events, audit]
        exact hi.attempts
      · rw [generations]
        rw [checks] at hc
        rcases List.mem_append.mp hc with hc | hc
        · exact hi.begun c hc
        · obtain ⟨name, -, rfl⟩ := List.mem_map.mp hc
          obtain ⟨-, g, hg, hsession, -⟩ := current_iff.mp current
          exact ⟨g, hg, hsession⟩
  | enabled r scope key request e keys id generations checks events attempt enables audit =>
      refine ⟨fun e' he' hkind => ?_, ?_⟩
      · rw [audit]
        rw [events] at he'
        rcases List.mem_append.mp he' with he' | he'
        · obtain ⟨attempt', hattempt', henables'⟩ := hi.attempts e' he' hkind
          exact ⟨attempt', List.mem_append_left _ hattempt', henables'⟩
        · obtain rfl := List.mem_singleton.mp he'
          exact ⟨attempt, List.mem_append_right _ List.mem_cons_self, enables⟩
      · rw [checks, generations]
        exact hi.begun
  | disabled e kind events generations checks more audit =>
      refine ⟨fun e' he' hkind => ?_, ?_⟩
      · rw [audit]
        rw [events] at he'
        rcases List.mem_append.mp he' with he' | he'
        · obtain ⟨attempt', hattempt', henables'⟩ := hi.attempts e' he' hkind
          exact ⟨attempt', List.mem_append_left _ hattempt', henables'⟩
        · rw [List.mem_singleton.mp he', kind] at hkind
          cases hkind
      · rw [checks, generations]
        exact hi.begun

theorem audited_inductive (sha256 : String → String) :
    (system sha256).Inductive TSys.any Audited where
  init := by
    rintro _ rfl
    exact ⟨fun _ he _ => absurd he List.not_mem_nil, fun _ hc => absurd hc List.not_mem_nil⟩
  step := by
    rintro db call _ hi - rfl
    exact hi.step (perform_records sha256 db call)

/-! ## What turns egress on -/

/-- A session with checks and events as before that is current was current. -/
theorem current_before {g : RestoreGeneration}
    (generations : db'.restoreGenerations.rows = db.restoreGenerations.rows ++ [g])
    (hsession : g.restoreSessionId ≠ scope.restoreSessionId)
    (h : db'.restoreGenerationIsCurrent scope = true) :
    db.restoreGenerationIsCurrent scope = true := by
  obtain ⟨henv, h', hh', hsession', horg, henvironment, hmax⟩ := current_iff.mp h
  rw [generations] at hh'
  have hh : h' ∈ db.restoreGenerations.rows := by
    rcases List.mem_append.mp hh' with hh | hh
    · exact hh
    · rw [List.mem_singleton.mp hh] at hsession'
      exact absurd hsession' hsession
  refine current_iff.mpr ⟨henv, h', hh, hsession', horg, henvironment, ?_⟩
  refine Nat.le_antisymm ?_ (hmax ▸ Sql.maxOf_le fun n hn => ?_)
  · exact Sql.le_maxOf (List.mem_map_of_mem (mem_generationsOf.mpr ⟨hh, horg, henvironment⟩))
  · refine Sql.le_maxOf ?_
    rw [generationsOf_append generations, List.map_append]
    exact List.mem_append_left _ hn

/-- Enablement is computed from the three tables. -/
theorem enabled_congr
    (hcurrent : db'.restoreGenerationIsCurrent scope = db.restoreGenerationIsCurrent scope)
    (hchecks : db'.checksOf scope = db.checksOf scope)
    (hevents : db'.eventsOf scope = db.eventsOf scope) :
    db'.restoreEgressIsEnabled scope = db.restoreEgressIsEnabled scope := by
  have hlatest : db'.latestChecks scope = db.latestChecks scope := by
    unfold latestChecks latestRun
    rw [hchecks]
  have hevent : db'.latestEvent? scope = db.latestEvent? scope := by
    unfold latestEvent?
    rw [hevents]
  unfold restoreEgressIsEnabled restoreIsReconciled
  rw [hcurrent, hlatest, hevent]

theorem Same.enabled (h : Same db db') (scope : RestoreScope) :
    db'.restoreEgressIsEnabled scope = db.restoreEgressIsEnabled scope := by
  refine enabled_congr ?_ ?_ ?_
  · unfold restoreGenerationIsCurrent generationsOf
    rw [h.generations]
  · unfold checksOf
    rw [h.checks]
  · unfold eventsOf
    rw [h.events]

/-- A generation that begins enables nothing: its session has no checks, and no other is current
that was not. -/
theorem began_enables_nothing (hi : Audited db) {g : RestoreGeneration}
    (fresh : ∀ h ∈ db.restoreGenerations.rows, h.restoreSessionId ≠ g.restoreSessionId)
    (generations : db'.restoreGenerations.rows = db.restoreGenerations.rows ++ [g])
    (checks : db'.restoreReconciliationChecks = db.restoreReconciliationChecks)
    (events : db'.restoreEgressEvents = db.restoreEgressEvents)
    (h : db'.restoreEgressIsEnabled scope = true) : db.restoreEgressIsEnabled scope = true := by
  have hchecks : db'.checksOf scope = db.checksOf scope := by
    unfold checksOf
    rw [checks]
  have hevents : db'.eventsOf scope = db.eventsOf scope := by
    unfold eventsOf
    rw [events]
  obtain ⟨hcurrent, ⟨hcount, -⟩, -⟩ := enabled_iff.mp h
  have hsession : g.restoreSessionId ≠ scope.restoreSessionId := by
    obtain ⟨c, hc, -⟩ := check_of_latest hcount .artifact_checksums
    have hof := (mem_latestChecks.mp hc).1
    rw [hchecks] at hof
    obtain ⟨hrow, -, hscope, -⟩ := mem_checksOf.mp hof
    obtain ⟨g', hg', hbegun⟩ := hi.begun c hrow
    exact fun heq => fresh g' hg' (hbegun.trans (hscope.trans heq.symm))
  rw [← h]
  refine (enabled_congr ?_ hchecks hevents).symm
  rw [hcurrent, current_before generations hsession hcurrent]

/-- A run of checks enables its own session alone, where all of them passed and the last event
enabled it. -/
theorem verified_enables (hi : Inv db') {findings : CheckFindings} {scope scope' : RestoreScope}
    {generation : Nat} (generations : db'.restoreGenerations = db.restoreGenerations)
    (checks : db'.restoreReconciliationChecks.rows = db.restoreReconciliationChecks.rows ++
      restoreCheckNames.map (checkRow scope' generation (db.latestRun scope' + 1) findings actorId))
    (events : db'.restoreEgressEvents = db.restoreEgressEvents)
    (hoff : db.restoreEgressIsEnabled scope = false) (h : db'.restoreEgressIsEnabled scope = true) :
    scope' = scope ∧ (∀ name, (findings name).1 = 0) ∧
      ∃ e, db.latestEvent? scope = some e ∧ e.eventKind = .enabled := by
  have hcurrent : db'.restoreGenerationIsCurrent scope = db.restoreGenerationIsCurrent scope := by
    unfold restoreGenerationIsCurrent generationsOf
    rw [generations]
  have hevents : db'.eventsOf scope = db.eventsOf scope := by
    unfold eventsOf
    rw [events]
  have hchecks := checksOf_append checks scope
  have hscope : scope' = scope := by
    by_contra hne
    rw [if_neg (fun heq => hne heq.symm), List.append_nil] at hchecks
    rw [enabled_congr hcurrent hchecks hevents, hoff] at h
    cases h
  subst hscope
  rw [if_pos rfl] at hchecks
  obtain ⟨-, ⟨-, hpassed⟩, e, he, hkind⟩ := enabled_iff.mp h
  refine ⟨rfl, fun name => ?_, e, ?_, hkind⟩
  · -- the rows of the run are the latest
    have hlast : (db'.checksOf scope').getLast? =
        some (checkRow scope' generation (db.latestRun scope' + 1) findings actorId
          .secret_environment) := by
      rw [hchecks]
      exact List.getLast?_append_of_ne_nil _ (List.cons_ne_nil _ _)
    have hrun := latestRun_eq hi hlast
    have hmem : name ∈ restoreCheckNames := by cases name <;> decide
    have hrow : checkRow scope' generation (db.latestRun scope' + 1) findings actorId name ∈
        db'.latestChecks scope' := by
      rw [mem_latestChecks, hchecks]
      exact ⟨List.mem_append_right _ (List.mem_map_of_mem hmem), hrun⟩
    exact (hpassed _ hrow).2
  · unfold latestEvent? at he ⊢
    rw [hevents] at he
    exact he

/-- An event that disables a session enables none. -/
theorem disabled_enables_nothing (hi : Inv db') {e : RestoreEgressEvent}
    (kind : e.eventKind = .disabled)
    (generations : db'.restoreGenerations = db.restoreGenerations)
    (checks : db'.restoreReconciliationChecks = db.restoreReconciliationChecks)
    (events : db'.restoreEgressEvents.rows = db.restoreEgressEvents.rows ++ [e])
    (h : db'.restoreEgressIsEnabled scope = true) : db.restoreEgressIsEnabled scope = true := by
  have hevents := eventsOf_append events scope
  split at hevents
  · obtain ⟨-, -, e', he', hkind⟩ := enabled_iff.mp h
    rw [latestEvent?_eq hi, hevents, List.getLast?_concat] at he'
    rw [← Option.some_inj.mp he', kind] at hkind
    cases hkind
  · rw [List.append_nil] at hevents
    rw [← h]
    refine (enabled_congr ?_ ?_ hevents).symm
    · unfold restoreGenerationIsCurrent generationsOf
      rw [generations]
    · unfold checksOf
      rw [checks]

/-- An event that enables a session enables no other. -/
theorem enabled_scope {e : RestoreEgressEvent} {scope scope' : RestoreScope}
    (keys : e.organizationId = scope'.organizationId ∧
      e.restoreSessionId = scope'.restoreSessionId ∧ e.environmentName = scope'.environmentName)
    (generations : db'.restoreGenerations = db.restoreGenerations)
    (checks : db'.restoreReconciliationChecks = db.restoreReconciliationChecks)
    (events : db'.restoreEgressEvents.rows = db.restoreEgressEvents.rows ++ [e])
    (hoff : db.restoreEgressIsEnabled scope = false)
    (h : db'.restoreEgressIsEnabled scope = true) : scope' = scope := by
  have hevents := eventsOf_append events scope
  split at hevents
  · next heq =>
      cases scope
      cases scope'
      obtain ⟨rfl, rfl, rfl⟩ := heq
      obtain ⟨rfl, rfl, rfl⟩ := keys
      rfl
  · rw [List.append_nil] at hevents
    have hsame : db'.restoreEgressIsEnabled scope = db.restoreEgressIsEnabled scope := by
      refine enabled_congr ?_ ?_ hevents
      · unfold restoreGenerationIsCurrent generationsOf
        rw [generations]
      · unfold checksOf
        rw [checks]
    rw [h, hoff] at hsame
    cases hsame

/-- What may turn the egress of a session on. -/
inductive TurnsOn (db : RestoreTables) (call : RestoreCall) (db' : RestoreTables)
    (scope : RestoreScope) : Prop
  /-- The command, with the completed attempt it writes. -/
  | enabled (r : Request) (key : String) (request : call = .enable r scope key)
      (e : RestoreEgressEvent) (id : e.id = r.newId) (attempt : PrivilegedActionAudit)
      (enables : Enables e attempt)
      (audit : db'.privilegedActionAudit.rows = db.privilegedActionAudit.rows ++ [attempt])
  /-- A run in which every check passed, after an attempt that was never disabled. -/
  | resumed (administrators : Administrators) (findings : CheckFindings) (actorId : Uuid)
      (request : call = .verify administrators findings scope actorId)
      (current : db.restoreGenerationIsCurrent scope = true)
      (passed : ∀ name, (findings name).1 = 0) (e : RestoreEgressEvent)
      (latest : db.latestEvent? scope = some e) (kind : e.eventKind = .enabled)
      (attempt : PrivilegedActionAudit) (completed : attempt ∈ db.privilegedActionAudit.rows)
      (enables : Enables e attempt)

/-- **What turns egress on.** In every run of the restore commands it is the audited command, or a
run of checks that all pass while the last event, which the audited command wrote, still stands. -/
theorem egress_turns_on {db : RestoreTables} (h : (system sha256).Reachable TSys.any db)
    (call : RestoreCall) (scope : RestoreScope) (hoff : db.restoreEgressIsEnabled scope = false)
    (hon : (db.perform sha256 call).restoreEgressIsEnabled scope = true) :
    TurnsOn db call (db.perform sha256 call) scope := by
  have hi : Inv (db.perform sha256 call) :=
    (inv_inductive sha256).invariant (h.step trivial rfl)
  have haudited : Audited db := (audited_inductive sha256).invariant h
  have hrecords := perform_records sha256 db call
  generalize db.perform sha256 call = db' at hon hi hrecords ⊢
  cases hrecords with
  | nothing same more audit =>
      rw [same.enabled scope, hoff] at hon
      cases hon
  | began g fresh generations checks events audit =>
      have hbefore := began_enables_nothing haudited fresh generations checks events hon
      rw [hoff] at hbefore
      cases hbefore
  | verified administrators findings scope' actorId request current generation generations checks
      events audit =>
      obtain ⟨rfl, hpassed, e, he, hkind⟩ :=
        verified_enables hi generations checks events hoff hon
      have hmem : e ∈ db.eventsOf scope' := List.mem_of_find?_eq_some he
      obtain ⟨attempt, hattempt, henables⟩ :=
        haudited.attempts e (List.mem_of_mem_filter hmem) hkind
      exact .resumed administrators findings actorId request current hpassed e he hkind attempt
        hattempt henables
  | enabled r scope' key request e keys id generations checks events attempt enables audit =>
      obtain rfl := enabled_scope keys generations checks events hoff hon
      exact .enabled r key request e id attempt enables audit
  | disabled e kind events generations checks more audit =>
      have hbefore := disabled_enables_nothing hi kind generations checks events hon
      rw [hoff] at hbefore
      cases hbefore

end RestoreTables

namespace Sample

open RestoreTables

/-- A run of checks, with as many violations of each. -/
def checking (violations : Nat) : RestoreCall :=
  .verify (fun _ _ => true) (fun _ => (violations, sevens)) firstScope administrator

def suspendedTables : RestoreTables := enabledTables.perform restoreDigest (checking 1)

theorem suspendedTables_reachable :
    (system restoreDigest).Reachable TSys.any suspendedTables :=
  (TSys.reachable_foldl RestoreTables.empty (perform restoreDigest) enabling).step trivial rfl

theorem suspendedTables_disabled :
    suspendedTables.restoreEgressIsEnabled firstScope = false := by decide +kernel

theorem resumedTables_enabled :
    (suspendedTables.perform restoreDigest (checking 0)).restoreEgressIsEnabled firstScope =
      true := by decide +kernel

/-- A run of checks may turn egress on, with no attempt in the audit. -/
theorem verification_resumes :
    ¬ ∀ db, (system restoreDigest).Reachable TSys.any db → ∀ call scope,
      db.restoreEgressIsEnabled scope = false →
      (db.perform restoreDigest call).restoreEgressIsEnabled scope = true →
      ∃ r key attempt, call = .enable r scope key ∧ attempt.outcome = .completed ∧
        (db.perform restoreDigest call).privilegedActionAudit.rows =
          db.privilegedActionAudit.rows ++ [attempt] := by
  intro hclaim
  obtain ⟨_, _, _, hcall, -⟩ := hclaim suspendedTables suspendedTables_reachable (checking 0)
    firstScope suspendedTables_disabled resumedTables_enabled
  cases hcall

theorem resumed_turns_on : TurnsOn suspendedTables (checking 0)
    (suspendedTables.perform restoreDigest (checking 0)) firstScope :=
  egress_turns_on suspendedTables_reachable (checking 0) firstScope suspendedTables_disabled
    resumedTables_enabled

end Sample

end InspectionHub.Database
