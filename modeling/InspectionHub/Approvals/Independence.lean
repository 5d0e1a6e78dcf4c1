import InspectionHub.Approvals.Runs

/-!
# Independence and atomicity of approvals

Over any run: where a current approval comes from, that modules do not touch
each other, what the revision counts, and what a replayed command answers.
-/

namespace InspectionHub.Approvals

open Domain Reporting

variable {env : Surroundings} {w w' : World}

/-! ## Revisions -/

/-- How many steps of a run from `w` mutate the module `key`. -/
def mutations (env : Surroundings) (key : ModuleSnapshotKey) : World → List Step → Nat
  | _, [] => 0
  | w, step :: steps =>
      (match step with
        | .call op => if op.key = key ∧ mutates env w op then 1 else 0
        | _ => 0) + mutations env key (next env w step) steps

/-- A step that mutates the module advances its revision by one. -/
theorem revision_next (hcolon : ∀ id, env.domain.formats.uuid id = true → ColonFree id)
    (hw : Sound env w) (step : Step) (key : ModuleSnapshotKey) :
    ((next env w step).state key).revision = (w.state key).revision + mutations env key w [step] := by
  cases step with
  | createSnapshot input n =>
      rw [next_other hcolon hw (fun op h => by cases h)]
      rfl
  | setAuthority k authority => rfl
  | call op =>
      simp only [mutations, Nat.add_zero]
      rcases perform_spec env op w with ⟨hmut, h⟩ | ⟨hmut, h⟩
      · obtain ⟨s, hrev, hstate⟩ := h.state hcolon hw
        have hnext : (next env w (.call op)).state key = if key = op.key then s else w.state key :=
          hstate key
        rw [hnext]
        by_cases hk : key = op.key
        · rw [if_pos hk, if_pos ⟨hk.symm, hmut⟩, hrev, hk]
        · rw [if_neg hk, if_neg fun h => hk h.1.symm]
          rfl
      · have hnext : (next env w (.call op)).state key = w.state key := h.state key
        rw [hnext, hmut, if_neg fun h => Bool.false_ne_true h.2]
        rfl

theorem revision_run (hcolon : ∀ id, env.domain.formats.uuid id = true → ColonFree id)
    (hw : Sound env w) (steps : List Step) (key : ModuleSnapshotKey) :
    ((steps.foldl (next env) w).state key).revision =
      (w.state key).revision + mutations env key w steps := by
  induction steps generalizing w with
  | nil => rfl
  | cons step steps ih =>
      have hstep := revision_next hcolon hw step key
      have hcons : mutations env key w (step :: steps) =
          mutations env key w [step] + mutations env key (next env w step) steps := rfl
      rw [List.foldl_cons, ih (sound_next hw step), hstep, hcons]
      omega

/-! ## Where a current approval comes from -/

variable {a : ApprovalRecord}

/-- After an operation that leaves an approval current, the operation recorded
it, or it was current before. -/
theorem currentApproval_next (hcolon : ∀ id, env.domain.formats.uuid id = true → ColonFree id)
    (hw : Sound env w) (step : Step) {key : ModuleSnapshotKey}
    (ha : ((next env w step).state key).currentApproval = some a) :
    (w.state key).currentApproval = some a ∨ ∃ c, step = .call (.approve c) ∧ c.key = key ∧
      Records env c a w (next env w step) := by
  by_cases hother : ∀ op, step = .call op → op.key ≠ key
  · rw [next_other hcolon hw hother] at ha
    exact .inl ha
  · simp only [not_forall, not_not] at hother
    obtain ⟨op, rfl, hkey⟩ := hother
    rcases perform_spec env op w with ⟨-, h⟩ | ⟨-, h⟩
    · -- only an approval leaves an approval current
      have written : ∀ {s : ModuleApprovalState} {e : List ApprovalAuditEvent},
          Writes op.key s e w (next env w (.call op)) → s.currentApproval = some a := by
        intro s e hs
        rw [← ha, hs.state key, if_pos (by rw [hkey])]
      cases h with
      | recorded hrec =>
          obtain ⟨e, hs⟩ := hrec.writes
          have heq := Option.some.inj (written hs)
          subst heq
          exact .inr ⟨_, rfl, hkey, hrec⟩
      | invalidated hinv =>
          obtain ⟨e, hs, -⟩ := hinv.writes
          exact absurd (written hs) nofun
      | withdrawn hwit =>
          obtain ⟨snapshot, -, e, hs, -⟩ := hwit.snapshot
          exact absurd (written hs) nofun
      | reopened hre => exact absurd (written hre.writes) nofun
    · have hnext : (next env w (.call op)).state key = w.state key := h.state key
      rw [hnext] at ha
      exact .inl ha

theorem currentApproval_run (hcolon : ∀ id, env.domain.formats.uuid id = true → ColonFree id)
    (steps : List Step) {key : ModuleSnapshotKey}
    (ha : ((run env steps).state key).currentApproval = some a) :
    ∃ before c after, steps = before ++ .call (.approve c) :: after ∧ c.key = key ∧
      Records env c a (run env before) (run env (before ++ [.call (.approve c)])) := by
  induction steps using List.reverseRecOn with
  | nil => cases ha
  | append_singleton steps step ih =>
      have hrun : run env (steps ++ [step]) = next env (run env steps) step := by
        rw [run, List.foldl_append]
        rfl
      rw [hrun] at ha
      rcases currentApproval_next hcolon (sound_run env steps) step ha with hold | ⟨c, rfl, hc, hrec⟩
      · obtain ⟨before, c, after, rfl, hc, hrec⟩ := ih hold
        exact ⟨before, c, after ++ [step], by simp, hc, hrec⟩
      · exact ⟨steps, c, [], rfl, hc, by rw [hrun]; exact hrec⟩

/-! ## Replays -/

/-- The receipt of an idempotency key is kept by every step. -/
theorem receipt_next {step : Step} {key : ModuleSnapshotKey} {k : String} {r : Receipt}
    (hr : (w.state key).idempotency.get? k = some r) :
    ((next env w step).state key).idempotency.get? k = some r := by
  cases step with
  | createSnapshot input n =>
      simp only [next]
      split <;> exact hr
  | setAuthority k' authority => exact hr
  | call op =>
      show ((Tx.after (perform env op w)).state key).idempotency.get? k = some r
      -- every mutation keeps the receipts it found
      have written : ∀ {s : ModuleApprovalState} {e : List ApprovalAuditEvent},
          Writes op.key s e w (Tx.after (perform env op w)) →
          (moduleIdentity key = moduleIdentity op.key → s.idempotency.get? k = some r) →
          ((Tx.after (perform env op w)).state key).idempotency.get? k = some r := by
        intro s e hs hkeep
        rw [hs.state key]
        split
        · next hid => exact hkeep hid
        · exact hr
      have same : moduleIdentity key = moduleIdentity op.key →
          (w.state op.key).idempotency.get? k = some r := by
        intro hid
        rw [World.state, ← hid]
        exact hr
      rcases perform_spec env op w with ⟨-, h⟩ | ⟨-, h⟩
      · cases h with
        | @recorded c a hrec =>
            obtain ⟨e, hs⟩ := hrec.writes
            refine written hs fun hid => ?_
            have hfound := same hid
            have hne : k ≠ c.idempotencyKey := by
              rintro rfl
              exact absurd (hrec.unused.symm.trans hfound) (by rintro ⟨⟩)
            exact (OMap.get?_set_of_ne _ _ hne).trans hfound
        | invalidated hinv =>
            obtain ⟨e, hs, -⟩ := hinv.writes
            exact written hs same
        | withdrawn hwit =>
            obtain ⟨snapshot, -, e, hs, -⟩ := hwit.snapshot
            exact written hs same
        | reopened hre => exact written hre.writes same
      · rw [h.state key]
        exact hr

/-- An accepted command has left its receipt. -/
theorem receipt_of_approve {c : ApprovalCommand} (h : approve env c w = .ok a w') :
    (w'.state c.key).idempotency.get? c.idempotencyKey =
      some { fingerprint := approvalFingerprint c, approval := a } := by
  rcases approve_ok h with ⟨r, hr, hfp, rfl, hview⟩ | hrec
  · rw [hview.state, hr, ← hfp]
  · obtain ⟨e, hs⟩ := hrec.writes
    rw [hs.state, if_pos rfl, OMap.get?_set_self]

/-- Commands the service takes for one another: they share module, idempotency
key and fingerprint. -/
structure SameRequest (c c' : ApprovalCommand) : Prop where
  key : c'.key = c.key
  idempotencyKey : c'.idempotencyKey = c.idempotencyKey
  fingerprint : approvalFingerprint c' = approvalFingerprint c

/-- What a command was answered once, it is answered in every later world,
and nothing changes. -/
theorem approve_again {c c' : ApprovalCommand} (h : approve env c w = .ok a w')
    (hc : SameRequest c c') (more : List Step) :
    ∃ w'', approve env c' (more.foldl (next env) w') = .ok a w'' ∧
      SameView (more.foldl (next env) w') w'' := by
  have hlater : (system env).Later TSys.any w' (more.foldl (next env) w') :=
    TSys.later_foldl _ _ w' more
  have hkept := hlater.preserves (P := fun w => (w.state c.key).idempotency.get? c.idempotencyKey =
      some { fingerprint := approvalFingerprint c, approval := a })
    (by
      rintro w₁ step w₂ hr - rfl
      exact receipt_next hr)
    (receipt_of_approve h)
  rw [← hc.key, ← hc.idempotencyKey] at hkept
  exact approve_replays hkept hc.fingerprint.symm

/-! ## The theorem -/

/-- What holds after the steps of a run. -/
structure IndependentAndAtomic (env : Surroundings) (steps : List Step) : Prop where
  /-- A current approval was recorded for the snapshot that was current then, by
  the assigned inspector, who was eligible and held that credential. -/
  recorded : ∀ key a, ((run env steps).state key).currentApproval = some a →
    ∃ before c after, steps = before ++ .call (.approve c) :: after ∧ c.key = key ∧
      Records env c a (run env before) (run env (before ++ [.call (.approve c)]))
  /-- An operation changes the record of its own module only. -/
  independent : ∀ op key, op.key ≠ key →
    (next env (run env steps) (.call op)).state key = (run env steps).state key
  /-- The revision is the number of successful mutations. -/
  counted : ∀ key, ((run env steps).state key).revision = mutations env key .initial steps
  /-- An operation that throws leaves records and events as they were. -/
  atomic : ∀ op e w', perform env op (run env steps) = .error e w' →
    SameView (run env steps) w'
  /-- A command that was answered with an approval is answered with it again,
  and adds no event. -/
  replayed : ∀ before c after a w', steps = before ++ .call (.approve c) :: after →
    approve env c (run env before) = .ok a w' → ∀ c', SameRequest c c' →
    ∃ w'', approve env c' (run env steps) = .ok a w'' ∧ SameView (run env steps) w''

/-- **Independence and atomicity.** -/
theorem approvals_independent_and_atomic (env : Surroundings)
    (hcolon : ∀ id, env.domain.formats.uuid id = true → ColonFree id) (steps : List Step) :
    IndependentAndAtomic env steps where
  recorded _ _ ha := currentApproval_run hcolon steps ha
  independent op key hne := by
    refine next_other hcolon (sound_run env steps) fun op' h => ?_
    cases h
    exact hne
  counted key := by
    have hinitial : Sound env .initial := storeSound_empty _
    have hrun := revision_run hcolon hinitial steps key
    rw [run, hrun]
    exact Nat.zero_add _
  atomic _ _ _ h := perform_error h
  replayed before c after a w' hsteps h c' hc := by
    obtain ⟨w'', hw''⟩ := approve_again h hc after
    have hnext : next env (run env before) (.call (.approve c)) = w' := by
      show Tx.after (perform env (.approve c) (run env before)) = w'
      rw [perform, Tx.bind_of h]
      rfl
    have hrun : run env steps = after.foldl (next env) w' := by
      rw [hsteps, run, List.foldl_append, List.foldl_cons]
      show after.foldl (next env) (next env (run env before) _) = _
      rw [hnext]
    rw [hrun]
    exact ⟨w'', hw''⟩

/-! ## A run with identifiers of the uuid shape -/

namespace Sample

/-- Hexadecimal digits, with dashes in the four places of a uuid. -/
def isUuid (s : String) : Bool :=
  s.toList.length = 36 && s.toList.zipIdx.all fun p =>
    if p.2 ∈ [8, 13, 18, 23] then p.1 = '-' else "0123456789abcdefABCDEF".toList.contains p.1

theorem colonFree_of_isUuid {id : String} (h : isUuid id = true) : ColonFree id := by
  intro hcolon
  obtain ⟨i, hi, hget⟩ := List.mem_iff_getElem.mp hcolon
  have hall := (Bool.and_eq_true_iff.mp h).2
  rw [List.all_eq_true] at hall
  have hc := hall (':', i) (List.mk_mem_zipIdx_iff_getElem?.mpr (List.getElem?_eq_some_iff.mpr
    ⟨hi, hget⟩))
  dsimp only at hc
  -- a colon is neither a dash nor a digit
  split at hc
  · exact absurd (of_decide_eq_true hc) (by simp)
  · exact absurd hc (by simp)

def host : Surroundings where
  domain :=
    { formats := ⟨isUuid, fun _ => true⟩
      digest text := "sha256:" ++ text
      issuesText _ := ""
      toInteger _ := none }
  ids n := "id-" ++ toString n

def key : ModuleSnapshotKey where
  organizationId := "00000000-0000-4000-8000-000000000001"
  jobId := "00000000-0000-4000-8000-000000000002"
  module := .timber_pest

/-- An inspector is assigned, and asks for the revision before and after a
withdrawal that is refused. -/
def steps : List Step :=
  [.setAuthority key
      { assignedInspectorId := "inspector", eligible := true, credentialVersion := "c1" },
    .call (.getRevision key),
    .call (.withdraw
      { key := key, expectedModuleRevision := 0, inspectorId := "inspector"
        recentAuthentication := true, recordedAt := "2026-07-14T00:00:00Z"
        reasonCode := "material_error" }),
    .call (.getRevision key)]

theorem independentAndAtomic_steps : IndependentAndAtomic host steps :=
  approvals_independent_and_atomic host (fun _ h => colonFree_of_isUuid h) steps

end Sample

end InspectionHub.Approvals
