import InspectionHub.Database.RestoreProjection

/-!
# The guard of a restored runtime

`RestoreRuntimeEgressGuard` of `packages/security/src/restore.ts` over the
projections of the database: no boundary of a restored runtime is open that the
database has not enabled, and none it has enabled is shut.
-/

namespace InspectionHub.Database

/-- `RestoreRuntimeEgressGuard.requireEgress`; an error is the text that is thrown. -/
def requireEgress (resolveActiveScope : Uuid → Option RestoreScope)
    (read : RestoreScope → Option RestoreEgressProjection × String) (organizationId : Uuid) :
    Except String Unit :=
  match resolveActiveScope organizationId with
  | none => .error "Restored runtime egress has no active tenant generation"
  | some scope =>
      if scope.organizationId ≠ organizationId then
        .error "Restored runtime egress has no active tenant generation"
      else if isRestoreEgressEnabled (read scope).1 ⟨scope.organizationId, scope.restoreSessionId,
          scope.environmentName, (read scope).2⟩ then .ok ()
      else .error "Restore egress stays disabled until the exact active generation has a trusted reconciled enable projection"

namespace RestoreTables

variable {sha256 : String → String} {db : RestoreTables} {scope : RestoreScope}

/-- The projection with its hash, as one call of the database returns them. -/
def reader (sha256 : String → String) (db : RestoreTables) (scope : RestoreScope) :
    Option RestoreEgressProjection × String :=
  (some (db.restoreEgressProjection sha256 scope), sha256 (db.projectionText scope))

theorem runs_positive (sha256 : String → String) : (system sha256).Inductive TSys.any
    fun db => ∀ c ∈ db.restoreReconciliationChecks.rows, 1 ≤ c.verificationRun where
  init := by
    rintro _ rfl c hc
    exact nomatch hc
  step := by
    rintro db call _ hruns - rfl c hc
    cases perform_effect sha256 db call with
    | refused _ checks => exact hruns c (checks ▸ hc)
    | began _ _ _ _ _ _ _ _ _ _ checks => exact hruns c (checks ▸ hc)
    | recorded _ _ _ _ _ checks => exact hruns c (checks ▸ hc)
    | verified _ _ _ _ _ checks =>
        rw [checks] at hc
        rcases List.mem_append.mp hc with hc | hc
        · exact hruns c hc
        · obtain ⟨name, -, rfl⟩ := List.mem_map.mp hc
          exact Nat.succ_pos _

/-- A reconciled run has one digest for each check. -/
theorem passedEvidence_eq (hcount : (db.latestChecks scope).length = 8)
    (hpassed : ∀ c ∈ db.latestChecks scope, c.verdict = .passed) :
    ∃ digest : RestoreCheckName → String,
      db.passedEvidence scope = restoreCheckNamesByText.map (fun name => (name, digest name)) ∧
      ∀ name, ∃ c ∈ db.latestChecks scope, c.evidenceSha256 = digest name := by
  have hone : ∀ name, ∃ c, ((db.latestChecks scope).filter fun c =>
      c.checkName = name ∧ c.verdict = .passed) = [c] := by
    intro name
    refine List.length_eq_one_iff.mp ?_
    rw [← List.countP_eq_length_filter]
    have hcount' := (latestNames_perm hcount).count_eq name
    rw [List.count, List.countP_map] at hcount'
    refine ((List.countP_congr fun c hc => ?_).trans hcount').trans (by cases name <;> rfl)
    simp [hpassed c hc]
  choose c hc using hone
  refine ⟨fun name => (c name).evidenceSha256, ?_, fun name => ⟨c name, ?_, rfl⟩⟩
  · unfold passedEvidence
    simp only [hc, List.map_cons, List.map_nil]
    exact List.flatMap_pure_eq_map _ _
  · have hmem : c name ∈ [c name] := List.mem_singleton_self _
    rw [← hc name] at hmem
    exact (List.mem_filter.mp hmem).1

theorem constantTimeEqualSha256_self {text : String} (h : Js.isHexDigest text = true) :
    constantTimeEqualSha256 text text = true := by
  simp [constantTimeEqualSha256, h]

/-- Rows that are numbered from one have no number nought. -/
theorem one_le_of_numbered {α : Type} {number : α → Nat} {l : List α} (h : Numbered number l)
    {a : α} (ha : a ∈ l) : 1 ≤ number a := by
  have hmem := List.mem_map_of_mem (f := number) ha
  rw [h] at hmem
  exact (List.mem_range'_1.mp hmem).1

/-- What the guard reads, it accepts if the database has enabled it. -/
theorem reader_accepted (h : (system sha256).Reachable TSys.any db)
    (hsha : ∀ text, Js.isHexDigest (sha256 text) = true)
    (hdigests : ∀ c ∈ db.restoreReconciliationChecks.rows, Js.isHexDigest c.evidenceSha256 = true)
    (hids : ∀ e ∈ db.restoreEgressEvents.rows, isUuidPattern e.id.text = true)
    (scope : RestoreScope) :
    isRestoreEgressEnabled (db.reader sha256 scope).1 ⟨scope.organizationId,
      scope.restoreSessionId, scope.environmentName, (db.reader sha256 scope).2⟩ =
        db.restoreEgressIsEnabled scope := by
  rw [Bool.eq_iff_iff]
  constructor
  · intro haccepted
    have hstate := (isRestoreEgressEnabled_of haccepted).1
    by_contra hblocked
    simp only [restoreEgressProjection, if_neg hblocked] at hstate
    cases hstate
  · intro henabled
    have hi : Inv db := (inv_inductive sha256).invariant h
    obtain ⟨hcurrent, ⟨hcount, hpassed⟩, e, he, -⟩ := enabled_iff.mp henabled
    have hevent := List.mem_of_find?_eq_some he
    have hversion := one_le_of_numbered (hi.events scope) hevent
    have hgeneration : 1 ≤ ((db.generation? scope).map RestoreGeneration.generation).getD 0 := by
      obtain ⟨-, g, hg, hsession, horg, henv, -⟩ := current_iff.mp hcurrent
      cases hfind : db.generation? scope with
      | none =>
          have hother := List.find?_eq_none.mp hfind g hg
          exact absurd (And.intro hsession ⟨horg, henv⟩) (fun hsame => hother (decide_eq_true hsame))
      | some g' =>
          have hmatch := List.find?_some hfind
          have hkeys := of_decide_eq_true hmatch
          exact one_le_of_numbered (hi.generations _ _)
            (mem_generationsOf.mpr ⟨List.mem_of_find?_eq_some hfind, hkeys.2⟩)
    have hrun : 1 ≤ db.latestRun scope := by
      obtain ⟨c, hc, -⟩ := check_of_latest hcount .artifact_checksums
      obtain ⟨hc, hlatest⟩ := mem_latestChecks.mp hc
      exact hlatest ▸ (runs_positive sha256).invariant h c (mem_checksOf.mp hc).1
    obtain ⟨digest, hevidence, hfrom⟩ := passedEvidence_eq hcount fun c hc => (hpassed c hc).1
    have hhex : ∀ name, Js.isHexDigest (digest name) = true := by
      intro name
      obtain ⟨c, hc, hdigest⟩ := hfrom name
      exact hdigest ▸ hdigests c (mem_checksOf.mp (mem_latestChecks.mp hc).1).1
    have hfound : ∀ name, evidenceOf (restoreCheckNamesByText.map fun name =>
        (name, digest name)) name = digest name := fun name => by
      cases name <;> rfl
    have hnames : (restoreCheckNamesByText.map fun name => (name, digest name)).map Prod.fst =
        restoreCheckNamesByText := rfl
    have hid : (some e.id).any (fun id => isUuidPattern id.text) = true :=
      hids e (List.mem_filter.mp hevent).1
    simp only [isRestoreEgressEnabled, reader, restoreEgressProjection, henabled, he, hevidence,
      Option.map_some, Option.getD_some, hid, constantTimeEqualSha256_self (hsha _), hfound, hhex,
      hnames, List.length_map]
    rw [if_neg (by decide), if_neg (by simp; omega)]
    decide

/-- **The runtime guard.** In every run of the restore commands whose rows meet the table's
check on digests and whose ids are of a version that the guard knows, egress is let through
exactly when the resolver names a session of the tenant that the database has enabled. -/
theorem requireEgress_ok_iff (h : (system sha256).Reachable TSys.any db)
    (hsha : ∀ text, Js.isHexDigest (sha256 text) = true)
    (hdigests : ∀ c ∈ db.restoreReconciliationChecks.rows, Js.isHexDigest c.evidenceSha256 = true)
    (hids : ∀ e ∈ db.restoreEgressEvents.rows, isUuidPattern e.id.text = true)
    (resolveActiveScope : Uuid → Option RestoreScope) (organizationId : Uuid) :
    requireEgress resolveActiveScope (db.reader sha256) organizationId = .ok () ↔
      ∃ scope, resolveActiveScope organizationId = some scope ∧
        scope.organizationId = organizationId ∧ db.restoreEgressIsEnabled scope = true := by
  have hreads := fun scope => reader_accepted h hsha hdigests hids scope
  unfold requireEgress
  cases hresolved : resolveActiveScope organizationId with
  | none => exact ⟨fun hok => (nomatch hok), fun ⟨_, hsome, _⟩ => (nomatch hsome)⟩
  | some scope =>
      dsimp only
      by_cases horg : scope.organizationId = organizationId
      · rw [if_neg (not_not.mpr horg), hreads scope]
        cases henabled : db.restoreEgressIsEnabled scope with
        | true => exact ⟨fun _ => ⟨scope, rfl, horg, henabled⟩, fun _ => rfl⟩
        | false =>
            refine ⟨fun hok => (nomatch hok), ?_⟩
            rintro ⟨_, ⟨⟩, -, htrue⟩
            exact absurd (henabled.symm.trans htrue) (by decide)
      · rw [if_pos horg]
        refine ⟨fun hok => (nomatch hok), ?_⟩
        rintro ⟨_, ⟨⟩, hsame, -⟩
        exact absurd hsame horg

end RestoreTables

namespace Sample

open RestoreTables

/-- A digest of sevens for every text, over the run that enables the session. -/
def sevensTables : RestoreTables := enabling.foldl (perform fun _ => sevens) .empty

theorem sevensTables_lets_out :
    requireEgress (fun _ => some firstScope) (sevensTables.reader fun _ => sevens) restored =
      .ok () := by
  refine (requireEgress_ok_iff (TSys.reachable_foldl RestoreTables.empty (perform fun _ => sevens)
    enabling) (fun _ => by decide) ?_ (by decide +kernel) _ _).mpr
      ⟨firstScope, rfl, rfl, by decide +kernel⟩
  have hevidence : sevensTables.restoreReconciliationChecks.rows.map
      RestoreReconciliationCheck.evidenceSha256 = List.replicate 8 sevens := by
    decide +kernel
  intro c hc
  have hmem := List.mem_map_of_mem (f := RestoreReconciliationCheck.evidenceSha256) hc
  change _ ∈ sevensTables.restoreReconciliationChecks.rows.map _ at hmem
  rw [hevidence] at hmem
  rw [List.eq_of_mem_replicate hmem]
  decide

end Sample

end InspectionHub.Database
