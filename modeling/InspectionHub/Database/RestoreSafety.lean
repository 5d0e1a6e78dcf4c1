import InspectionHub.Database.Restore
import InspectionHub.Lib.Digest
import InspectionHub.Lib.TSys

/-!
# Restored egress is enabled for the newest generation only

What one call does to the three append-only tables (`perform_effect`), the
invariant every run keeps (`RestoreInv`), and from both what a reader of
`restore_egress_is_enabled` may rely on (`restore_egress_safety`).
-/

namespace InspectionHub.Database

namespace RestoreTables

variable {sha256 : String → String} {db db' : RestoreTables} {call : RestoreCall}

/-! ## One call -/

/-- A request `command_begin_restore_generation` accepts. -/
structure BeginAccepted (db : RestoreTables) (administrators : Administrators)
    (scope : RestoreScope) (manifest : String) (actorId : Uuid) : Prop where
  environment : isEnvironmentName scope.environmentName = true
  manifest : Js.isHexDigest manifest = true
  administrator : administrators scope.organizationId actorId = true
  fresh : ∀ g ∈ db.restoreGenerations.rows, g.restoreSessionId ≠ scope.restoreSessionId

/-- What a call may do to the three tables. -/
inductive Effect (db : RestoreTables) (call : RestoreCall) (db' : RestoreTables) : Prop
  | refused (generations : db'.restoreGenerations = db.restoreGenerations)
      (checks : db'.restoreReconciliationChecks = db.restoreReconciliationChecks)
      (events : db'.restoreEgressEvents = db.restoreEgressEvents)
  | began (administrators : Administrators) (scope : RestoreScope) (manifest : String)
      (actorId : Uuid) (request : call = .begin administrators scope manifest actorId)
      (accepted : BeginAccepted db administrators scope manifest actorId) (g : RestoreGeneration)
      (keys : g.organizationId = scope.organizationId ∧
        g.restoreSessionId = scope.restoreSessionId ∧ g.environmentName = scope.environmentName)
      (number : g.generation = Sql.maxOf ((db.generationsOf g.organizationId
        g.environmentName).map RestoreGeneration.generation) + 1)
      (generations : db'.restoreGenerations.rows = db.restoreGenerations.rows ++ [g])
      (checks : db'.restoreReconciliationChecks = db.restoreReconciliationChecks)
      (events : db'.restoreEgressEvents = db.restoreEgressEvents)
  | verified (scope : RestoreScope) (generation : Nat) (findings : CheckFindings) (actorId : Uuid)
      (generations : db'.restoreGenerations = db.restoreGenerations)
      (checks : db'.restoreReconciliationChecks.rows = db.restoreReconciliationChecks.rows ++
        restoreCheckNames.map (checkRow scope generation (db.latestRun scope + 1) findings actorId))
      (events : db'.restoreEgressEvents = db.restoreEgressEvents)
  | recorded (scope : RestoreScope) (e : RestoreEgressEvent)
      (keys : e.organizationId = scope.organizationId ∧
        e.restoreSessionId = scope.restoreSessionId ∧ e.environmentName = scope.environmentName)
      (number : e.eventVersion =
        Sql.maxOf ((db.eventsOf scope).map RestoreEgressEvent.eventVersion) + 1)
      (generations : db'.restoreGenerations = db.restoreGenerations)
      (checks : db'.restoreReconciliationChecks = db.restoreReconciliationChecks)
      (events : db'.restoreEgressEvents.rows = db.restoreEgressEvents.rows ++ [e])

variable {scope : RestoreScope} {actorId : Uuid}

theorem begin_effect {administrators : Administrators} {manifest : String} {n : Nat}
    (h : commandBeginRestoreGeneration administrators scope manifest actorId db = .ok (n, db')) :
    Effect db (.begin administrators scope manifest actorId) db' := by
  obtain ⟨hvalid, hrest⟩ := Sql.check_ok h
  obtain ⟨t, ht, hdone⟩ := Sql.bind_ok hrest
  cases hdone
  simp only [not_or, not_not] at hvalid
  refine .began administrators scope manifest actorId rfl
    ⟨hvalid.1, hvalid.2.1, hvalid.2.2, ?_⟩ _ ⟨rfl, rfl, rfl⟩ rfl t.2 rfl rfl
  intro g hg heq
  exact Sql.Table.insert_ok ht g hg (.inl heq)

theorem verify_effect {administrators : Administrators} {findings : CheckFindings} {n : Nat}
    (h : commandVerifyRestoreGeneration administrators findings scope actorId db = .ok (n, db')) :
    Effect db call db' := by
  obtain ⟨-, hrest⟩ := Sql.check_ok h
  split at hrest
  · cases hrest
  · obtain ⟨checks, hchecks, hdone⟩ := Sql.bind_ok hrest
    cases hdone
    exact .verified scope _ findings actorId rfl (Sql.Table.foldlM_insert hchecks) rfl

variable {answer : Option Uuid} {r : Request} {a : Attempt}

theorem recordEgressEvent_effect {generation : Nat} {kind : RestoreEgressEventKind}
    {reasonCode projectionSha : String}
    (h : recordEgressEvent a r scope generation kind reasonCode projectionSha db =
      .ok (answer, db')) : Effect db call db' := by
  unfold recordEgressEvent at h
  split at h
  · cases h
  · obtain ⟨events, -, hrest⟩ := Sql.bind_ok h
    obtain ⟨audit, -, hdone⟩ := Sql.bind_ok hrest
    cases hdone
    exact .recorded scope _ ⟨rfl, rfl, rfl⟩ rfl rfl rfl events.2

theorem refuse_effect {reasonCode target : String}
    (h : refuse a r reasonCode target db = .ok (answer, db')) : Effect db call db' := by
  obtain ⟨audit, -, hdone⟩ := Sql.bind_ok h
  cases hdone
  exact .refused rfl rfl rfl

/-- Past the steps a privileged command starts with, nothing but the audit has
changed. -/
theorem privileged_effect {target : Option String}
    {act : Except Sql.Error (Option Uuid × RestoreTables)}
    (h : privileged db.privilegedActionAudit db
      (fun audit => { db with privilegedActionAudit := audit }) a r target act = .ok (answer, db'))
    (hact : act = .ok (answer, db') → Effect db call db') : Effect db call db' := by
  obtain ⟨audit, -, rfl⟩ | rfl | hrest := privileged_ok h
  · exact .refused rfl rfl rfl
  · exact .refused rfl rfl rfl
  · exact hact hrest

theorem enable_effect {key : String}
    (h : commandEnableRestoreEgress sha256 r scope key db = .ok (answer, db')) :
    Effect db call db' := by
  obtain ⟨-, hrest⟩ := Sql.check_ok h
  refine privileged_effect hrest fun hact => ?_
  split at hact
  · split at hact
    · cases hact
    · exact recordEgressEvent_effect hact
  · exact refuse_effect hact

theorem disable_effect {key : String}
    (h : commandDisableRestoreEgress sha256 r scope key db = .ok (answer, db')) :
    Effect db call db' := by
  obtain ⟨-, hrest⟩ := Sql.check_ok h
  refine privileged_effect hrest fun hact => ?_
  split at hact
  · split at hact
    · cases hact
    · exact recordEgressEvent_effect hact
  · exact refuse_effect hact

/-- Every call has one of the effects. -/
theorem perform_effect (sha256 : String → String) (db : RestoreTables) (call : RestoreCall) :
    Effect db call (db.perform sha256 call) := by
  have settle : ∀ {α : Type} {x : Except Sql.Error (α × RestoreTables)} {db' : RestoreTables},
      x.map Prod.snd = .ok db' → ∃ a, x = .ok (a, db') := by
    intro α x db' hx
    cases x with
    | ok p =>
        cases hx
        exact ⟨p.1, rfl⟩
    | error e => cases hx
  unfold perform
  dsimp only
  split
  · next db' h =>
      cases call with
      | begin administrators scope manifest actorId =>
          obtain ⟨a, hbegin⟩ := settle h
          exact begin_effect hbegin
      | verify administrators findings scope actorId =>
          obtain ⟨a, hverify⟩ := settle h
          exact verify_effect hverify
      | enable r scope key =>
          obtain ⟨a, henable⟩ := settle h
          exact enable_effect henable
      | disable r scope key =>
          obtain ⟨a, hdisable⟩ := settle h
          exact disable_effect hdisable
  · exact .refused rfl rfl rfl

/-! ## The invariant -/

/-- Generations and egress events are numbered from one, and the verification
runs of a scope never go back. -/
structure Inv (db : RestoreTables) : Prop where
  generations : ∀ organizationId environmentName,
    Numbered RestoreGeneration.generation (db.generationsOf organizationId environmentName)
  events : ∀ scope, Numbered RestoreEgressEvent.eventVersion (db.eventsOf scope)
  runs : ∀ scope, ((db.checksOf scope).map RestoreReconciliationCheck.verificationRun).Pairwise
    (· ≤ ·)

variable {g : RestoreGeneration}

/-- A generation of one environment is not seen in the others. -/
theorem generationsOf_append (h : db'.restoreGenerations.rows = db.restoreGenerations.rows ++ [g])
    (organizationId : Uuid) (environmentName : String) :
    db'.generationsOf organizationId environmentName =
      db.generationsOf organizationId environmentName ++
        if g.organizationId = organizationId ∧ g.environmentName = environmentName then [g]
        else [] := by
  rw [generationsOf, h, List.filter_append]
  simp only [List.filter_cons, decide_eq_true_eq, List.filter_nil]
  rfl

theorem eventsOf_append {e : RestoreEgressEvent}
    (h : db'.restoreEgressEvents.rows = db.restoreEgressEvents.rows ++ [e])
    (scope : RestoreScope) :
    db'.eventsOf scope = db.eventsOf scope ++
      if e.organizationId = scope.organizationId ∧ e.restoreSessionId = scope.restoreSessionId ∧
        e.environmentName = scope.environmentName then [e] else [] := by
  rw [eventsOf, h, List.filter_append]
  simp only [List.filter_cons, decide_eq_true_eq, List.filter_nil]
  rfl

/-- The rows of a verification run belong to its scope alone. -/
theorem checksOf_append {generation run : Nat} {findings : CheckFindings}
    (h : db'.restoreReconciliationChecks.rows = db.restoreReconciliationChecks.rows ++
      restoreCheckNames.map (checkRow scope generation run findings actorId))
    (scope' : RestoreScope) :
    db'.checksOf scope' = db.checksOf scope' ++
      if scope' = scope then
        restoreCheckNames.map (checkRow scope generation run findings actorId)
      else [] := by
  rw [checksOf, h, List.filter_append, List.filter_map]
  refine congrArg (db.checksOf scope' ++ ·) ?_
  split
  · next heq =>
      subst heq
      rw [List.filter_eq_self.mpr]
      intro name _
      exact decide_eq_true ⟨rfl, rfl, rfl⟩
  · next hne =>
      rw [List.filter_eq_nil_iff.mpr, List.map_nil]
      intro name _ hsame
      obtain ⟨horg, hsession, henv⟩ := of_decide_eq_true hsame
      cases scope
      cases scope'
      cases horg
      cases hsession
      cases henv
      exact hne rfl

theorem Inv.step (hi : Inv db) (h : Effect db call db') : Inv db' := by
  cases h with
  | refused generations checks events =>
      refine ⟨?_, ?_, ?_⟩
      · simpa only [generationsOf, generations] using hi.generations
      · simpa only [eventsOf, events] using hi.events
      · simpa only [checksOf, checks] using hi.runs
  | began administrators scope manifest actorId request accepted g keys number generations checks
      events =>
      refine ⟨fun org env => ?_, ?_, ?_⟩
      · rw [generationsOf_append generations]
        split
        · next heq =>
            obtain ⟨rfl, rfl⟩ := heq
            have hnumbered := hi.generations g.organizationId g.environmentName
            exact hnumbered.snoc (by rw [number, Sql.maxOf_numbered hnumbered])
        · rw [List.append_nil]
          exact hi.generations org env
      · simpa only [eventsOf, events] using hi.events
      · simpa only [checksOf, checks] using hi.runs
  | verified scope generation findings actorId generations checks events =>
      refine ⟨?_, ?_, fun scope' => ?_⟩
      · simpa only [generationsOf, generations] using hi.generations
      · simpa only [eventsOf, events] using hi.events
      · rw [checksOf_append checks]
        split
        · next heq =>
            subst heq
            rw [List.map_append]
            refine List.pairwise_append.mpr ⟨hi.runs scope', ?_, ?_⟩
            · rw [List.map_map]
              exact List.pairwise_map.mpr (List.pairwise_of_forall fun _ _ => Nat.le_refl _)
            · intro n hn m hm
              rw [List.map_map] at hm
              obtain ⟨name, -, rfl⟩ := List.mem_map.mp hm
              exact Nat.le_succ_of_le (Sql.le_maxOf hn)
        · rw [List.append_nil]
          exact hi.runs scope'
  | recorded scope e keys number generations checks events =>
      refine ⟨?_, fun scope' => ?_, ?_⟩
      · simpa only [generationsOf, generations] using hi.generations
      · rw [eventsOf_append events]
        split
        · next heq =>
            have hscope : scope' = scope := by
              obtain ⟨horg, hsession, henv⟩ := keys
              cases scope'
              cases scope
              cases horg.symm.trans heq.1
              cases hsession.symm.trans heq.2.1
              cases henv.symm.trans heq.2.2
              rfl
            subst hscope
            have hnumbered := hi.events scope'
            exact hnumbered.snoc (by rw [number, Sql.maxOf_numbered hnumbered])
        · rw [List.append_nil]
          exact hi.events scope'
      · simpa only [checksOf, checks] using hi.runs

theorem Inv.empty : Inv RestoreTables.empty := ⟨fun _ _ => rfl, fun _ => rfl, fun _ => .nil⟩

/-- The system of restore calls on empty tables. -/
def system (sha256 : String → String) : TSys RestoreTables RestoreCall :=
  .ofFun .empty (perform sha256)

theorem inv_inductive (sha256 : String → String) : (system sha256).Inductive TSys.any Inv where
  init := by
    rintro _ rfl
    exact Inv.empty
  step := by
    rintro db call _ hi - rfl
    exact hi.step (perform_effect sha256 db call)

/-- Generations are never removed. -/
theorem Effect.generations_mono (h : Effect db call db') (hg : g ∈ db.restoreGenerations.rows) :
    g ∈ db'.restoreGenerations.rows := by
  cases h with
  | refused generations checks events => rwa [generations]
  | began administrators scope manifest actorId request accepted g' keys number generations checks
      events =>
      rw [generations]
      exact List.mem_append_left _ hg
  | verified scope generation findings actorId generations checks events => rwa [generations]
  | recorded scope e keys number generations checks events => rwa [generations]

/-! ## What enablement means -/

/-- The session's generation is the greatest of its environment. -/
theorem current_iff :
    db.restoreGenerationIsCurrent scope = true ↔ isEnvironmentName scope.environmentName = true ∧
      ∃ g ∈ db.restoreGenerations.rows, g.restoreSessionId = scope.restoreSessionId ∧
        g.organizationId = scope.organizationId ∧ g.environmentName = scope.environmentName ∧
        g.generation = Sql.maxOf ((db.generationsOf scope.organizationId
          scope.environmentName).map RestoreGeneration.generation) := by
  simp only [restoreGenerationIsCurrent, Bool.and_eq_true, List.any_eq_true, decide_eq_true_eq]

theorem enabled_iff :
    db.restoreEgressIsEnabled scope = true ↔ db.restoreGenerationIsCurrent scope = true ∧
      ((db.latestChecks scope).length = 8 ∧
        ∀ c ∈ db.latestChecks scope, c.verdict = .passed ∧ c.violationCount = 0) ∧
      ∃ e, db.latestEvent? scope = some e ∧ e.eventKind = .enabled := by
  simp only [restoreEgressIsEnabled, restoreIsReconciled, Bool.and_eq_true, List.all_eq_true,
    Option.any_eq_true, decide_eq_true_eq]
  tauto

theorem mem_generationsOf {organizationId : Uuid} {environmentName : String} :
    g ∈ db.generationsOf organizationId environmentName ↔ g ∈ db.restoreGenerations.rows ∧
      g.organizationId = organizationId ∧ g.environmentName = environmentName := by
  rw [generationsOf, List.mem_filter, decide_eq_true_iff]

theorem mem_checksOf {c : RestoreReconciliationCheck} :
    c ∈ db.checksOf scope ↔ c ∈ db.restoreReconciliationChecks.rows ∧
      c.organizationId = scope.organizationId ∧ c.restoreSessionId = scope.restoreSessionId ∧
      c.environmentName = scope.environmentName := by
  rw [checksOf, List.mem_filter, decide_eq_true_iff]

theorem mem_latestChecks {c : RestoreReconciliationCheck} :
    c ∈ db.latestChecks scope ↔ c ∈ db.checksOf scope ∧
      c.verificationRun = db.latestRun scope := by
  rw [latestChecks, List.mem_filter, decide_eq_true_iff]

/-- A session has one generation. -/
theorem session_unique {g h : RestoreGeneration} (hg : g ∈ db.restoreGenerations.rows)
    (hh : h ∈ db.restoreGenerations.rows) (heq : g.restoreSessionId = h.restoreSessionId) : g = h :=
  db.restoreGenerations.eq_of_key (f := RestoreGeneration.restoreSessionId)
    (fun _ _ hsame => .inl hsame) hg hh heq

/-- Two current sessions of an environment are one. -/
theorem current_unique {scope scope' : RestoreScope}
    (horg : scope.organizationId = scope'.organizationId)
    (henv : scope.environmentName = scope'.environmentName)
    (h : db.restoreGenerationIsCurrent scope = true)
    (h' : db.restoreGenerationIsCurrent scope' = true) : scope = scope' := by
  obtain ⟨-, g, hg, hsession, hgorg, hgenv, hmax⟩ := current_iff.mp h
  obtain ⟨-, g', hg', hsession', hgorg', hgenv', hmax'⟩ := current_iff.mp h'
  have heq : g = g' := by
    refine db.restoreGenerations.eq_of_key
      (f := fun g => (g.organizationId, g.environmentName, g.generation)) ?_ hg hg' ?_
    · intro a b hab
      simp only [Prod.mk.injEq] at hab
      exact .inr hab
    · rw [hgorg, hgorg', hgenv, hgenv', hmax, hmax', horg, henv]
  cases scope
  cases scope'
  cases horg
  cases henv
  rw [heq] at hsession
  cases hsession.symm.trans hsession'
  rfl

/-- A run has each check at most once, so eight rows are the eight checks. -/
theorem latestNames_perm (h : (db.latestChecks scope).length = 8) :
    ((db.latestChecks scope).map RestoreReconciliationCheck.checkName).Perm restoreCheckNames := by
  have hnodup : ((db.latestChecks scope).map RestoreReconciliationCheck.checkName).Nodup := by
    refine List.pairwise_map.mpr ?_
    have hdistinct := (db.restoreReconciliationChecks.distinct.filter fun c =>
      decide (c.organizationId = scope.organizationId ∧
        c.restoreSessionId = scope.restoreSessionId ∧
        c.environmentName = scope.environmentName)).filter fun c =>
          decide (c.verificationRun = db.latestRun scope)
    refine hdistinct.imp_of_mem fun {a b} ha hb hclash heq => hclash ?_
    obtain ⟨ha, harun⟩ := mem_latestChecks.mp ha
    obtain ⟨hb, hbrun⟩ := mem_latestChecks.mp hb
    obtain ⟨-, ha1, ha2, ha3⟩ := mem_checksOf.mp ha
    obtain ⟨-, hb1, hb2, hb3⟩ := mem_checksOf.mp hb
    exact ⟨ha1.trans hb1.symm, ha2.trans hb2.symm, ha3.trans hb3.symm, harun.trans hbrun.symm, heq⟩
  have hsub : (db.latestChecks scope).map RestoreReconciliationCheck.checkName ⊆
      restoreCheckNames := by
    intro n _
    cases n <;> decide
  refine (hnodup.subperm hsub).perm_of_length_le ?_
  rw [List.length_map, h]
  exact Nat.le_refl 8

theorem check_of_latest (h : (db.latestChecks scope).length = 8) (name : RestoreCheckName) :
    ∃ c ∈ db.latestChecks scope, c.checkName = name := by
  have hname : name ∈ restoreCheckNames := by
    cases name <;> decide
  exact List.mem_map.mp ((latestNames_perm h).mem_iff.mpr hname)

/-- The latest event is the last recorded. -/
theorem latestEvent?_eq (hi : Inv db) (scope : RestoreScope) :
    db.latestEvent? scope = (db.eventsOf scope).getLast? :=
  Sql.find?_maxOf_numbered (hi.events scope)

/-- The latest run is the one recorded last. -/
theorem latestRun_eq (hi : Inv db) {last : RestoreReconciliationCheck}
    (h : (db.checksOf scope).getLast? = some last) : last.verificationRun = db.latestRun scope := by
  obtain ⟨init, hinit⟩ := List.getLast?_eq_some_iff.mp h
  have hruns := hi.runs scope
  rw [hinit, List.map_append, List.pairwise_append] at hruns
  refine Nat.le_antisymm (Sql.le_maxOf (List.mem_map_of_mem (List.mem_of_getLast? h))) ?_
  refine Sql.maxOf_le fun n hn => ?_
  rw [hinit, List.map_append] at hn
  rcases List.mem_append.mp hn with hn | hn
  · exact hruns.2.2 n hn _ (List.mem_singleton_self _)
  · exact Nat.le_of_eq (List.mem_singleton.mp hn)

/-! ## Safety -/

/-- What holds of restored egress in every state of a run. -/
structure EgressSafe (sha256 : String → String) (db : RestoreTables) : Prop where
  /-- The generations of an environment are 1, 2, … -/
  numbered : ∀ organizationId environmentName,
    Numbered RestoreGeneration.generation (db.generationsOf organizationId environmentName)
  /-- At most one session of an environment is enabled. -/
  unique : ∀ scope scope' : RestoreScope, scope.organizationId = scope'.organizationId →
    scope.environmentName = scope'.environmentName → db.restoreEgressIsEnabled scope = true →
    db.restoreEgressIsEnabled scope' = true → scope = scope'
  /-- Once a newer generation has begun, an older one is never enabled again. -/
  superseded : ∀ g ∈ db.restoreGenerations.rows, ∀ g' ∈ db.restoreGenerations.rows,
    g.organizationId = g'.organizationId → g.environmentName = g'.environmentName →
    g.generation < g'.generation → ∀ db', (system sha256).Later TSys.any db db' →
    db'.restoreEgressIsEnabled ⟨g.organizationId, g.restoreSessionId, g.environmentName⟩ = false
  /-- The last event of an enabled session enabled it. -/
  event : ∀ scope, db.restoreEgressIsEnabled scope = true →
    ∃ e, (db.eventsOf scope).getLast? = some e ∧ e.eventKind = .enabled
  /-- In the last verification run of an enabled session each check passed. -/
  checks : ∀ scope, db.restoreEgressIsEnabled scope = true →
    ∃ last, (db.checksOf scope).getLast? = some last ∧
      (∀ name, ∃ c ∈ db.checksOf scope, c.verificationRun = last.verificationRun ∧
        c.checkName = name) ∧
      ∀ c ∈ db.checksOf scope, c.verificationRun = last.verificationRun →
        c.verdict = .passed ∧ c.violationCount = 0

/-- An older generation than one that has begun is not current. -/
theorem not_enabled_of_newer {g g' : RestoreGeneration} (hg : g ∈ db.restoreGenerations.rows)
    (hg' : g' ∈ db.restoreGenerations.rows) (horg : g.organizationId = g'.organizationId)
    (henv : g.environmentName = g'.environmentName) (hlt : g.generation < g'.generation) :
    db.restoreEgressIsEnabled ⟨g.organizationId, g.restoreSessionId, g.environmentName⟩ =
      false := by
  rw [Bool.eq_false_iff]
  intro henabled
  obtain ⟨-, h, hh, hsession, -, -, hmax⟩ := current_iff.mp (enabled_iff.mp henabled).1
  rw [session_unique hh hg hsession] at hmax
  have hle : g'.generation ≤ Sql.maxOf ((db.generationsOf g.organizationId
      g.environmentName).map RestoreGeneration.generation) :=
    Sql.le_maxOf (List.mem_map_of_mem (mem_generationsOf.mpr ⟨hg', horg.symm, henv.symm⟩))
  exact absurd hlt (Nat.not_lt.mpr (hmax ▸ hle))

/-- **Restored egress.** In every state of every run of the restore commands. -/
theorem restore_egress_safety {db : RestoreTables}
    (h : (system sha256).Reachable TSys.any db) : EgressSafe sha256 db := by
  have hi : Inv db := (inv_inductive sha256).invariant h
  refine ⟨hi.generations, ?_, ?_, ?_, ?_⟩
  · intro scope scope' horg henv henabled henabled'
    exact current_unique horg henv (enabled_iff.mp henabled).1 (enabled_iff.mp henabled').1
  · intro g hg g' hg' horg henv hlt db' hlater
    -- both generations are still there, and the newer is still newer
    have hboth : g ∈ db'.restoreGenerations.rows ∧ g' ∈ db'.restoreGenerations.rows := by
      refine hlater.preserves (P := fun s : RestoreTables =>
        g ∈ s.restoreGenerations.rows ∧ g' ∈ s.restoreGenerations.rows) ?_ ⟨hg, hg'⟩
      rintro s call _ ⟨hs, hs'⟩ - rfl
      have heffect := perform_effect sha256 s call
      exact ⟨heffect.generations_mono hs, heffect.generations_mono hs'⟩
    exact not_enabled_of_newer hboth.1 hboth.2 horg henv hlt
  · intro scope henabled
    obtain ⟨-, -, e, he, hkind⟩ := enabled_iff.mp henabled
    exact ⟨e, by rw [← latestEvent?_eq hi]; exact he, hkind⟩
  · intro scope henabled
    obtain ⟨-, ⟨hcount, hpassed⟩, -⟩ := enabled_iff.mp henabled
    obtain ⟨c, hc, -⟩ := check_of_latest hcount .artifact_checksums
    have hsome : (db.checksOf scope).getLast?.isSome := by
      rw [List.getLast?_isSome]
      exact List.ne_nil_of_mem (mem_latestChecks.mp hc).1
    obtain ⟨last, hlast⟩ := Option.isSome_iff_exists.mp hsome
    refine ⟨last, hlast, fun name => ?_, fun c hc hrun => ?_⟩
    · obtain ⟨c, hc, hname⟩ := check_of_latest hcount name
      obtain ⟨hmem, hrun⟩ := mem_latestChecks.mp hc
      exact ⟨c, hmem, hrun.trans (latestRun_eq hi hlast).symm, hname⟩
    · exact hpassed c (mem_latestChecks.mpr ⟨hc, hrun.trans (latestRun_eq hi hlast)⟩)

end RestoreTables

/-! ## One enabled session -/

namespace Sample

open RestoreTables

def restored : Uuid := ⟨"aaaaaaaa-0000-4000-8000-000000000001", by decide⟩
def firstSession : Uuid := ⟨"bbbb0000-0000-4000-8000-000000000001", by decide⟩
def enabledEvent : Uuid := ⟨"cccc0000-0000-4000-8000-000000000001", by decide⟩
def administrator : Uuid := ⟨"11111111-0000-4000-8000-000000000001", by decide⟩

def firstScope : RestoreScope := ⟨restored, firstSession, "production"⟩

def sevens : String := String.ofList (List.replicate 64 '7')

/-- The digests the calls compute. -/
def restoreDigest : String → String := digestOf [
  ("restore-enable-0001", "5c791e3d90b3ff4652e702d39e598aa50690a8d7fb6978c0124fa9077ab04a84"),
  ("enable_restore_egress|aaaaaaaa-0000-4000-8000-000000000001|bbbb0000-0000-4000-8000-000000000001|production",
    "e092c2a8c282915821a4e98f75e87481329561b5b9e1f0b1db46933fc8dee101"),
  ("bbbb0000-0000-4000-8000-000000000001|production",
    "986bf5f6fee7edfc98e190b1577691262c683fc7025e457f110199025e5a17c4"),
  ("1|1|" ++ Sql.separated "|" (restoreCheckNamesByText.map fun n => n.text ++ ":" ++ sevens),
    "448a377d4f252e692864ee31a0042f1739a2bafdb2146d237e9127f7b2d44d78")]

theorem restoreDigest_injective : Function.Injective restoreDigest :=
  digestOf_injective (by decide) (by decide)

def begin (scope : RestoreScope) : RestoreCall :=
  .begin (fun _ _ => true) scope sevens administrator

/-- Begin, verify with no violation, enable. -/
def enabling : List RestoreCall :=
  [begin firstScope, .verify (fun _ _ => true) (fun _ => (0, sevens)) firstScope administrator,
    .enable ⟨some administrator, none, .aal2, true, enabledEvent⟩ firstScope "restore-enable-0001"]

def enabledTables : RestoreTables := enabling.foldl (perform restoreDigest) .empty

theorem enabledTables_enabled : enabledTables.restoreEgressIsEnabled firstScope = true := by
  decide +kernel

theorem enabledTables_safe : enabledTables.restoreEgressIsEnabled firstScope = true ∧
    EgressSafe restoreDigest enabledTables :=
  ⟨enabledTables_enabled, restore_egress_safety
    (TSys.reachable_foldl RestoreTables.empty (perform restoreDigest) enabling)⟩

end Sample

end InspectionHub.Database
