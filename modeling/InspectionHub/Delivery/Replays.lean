import InspectionHub.Delivery.InStep

/-!
# Repeated confirms

A confirm binds its idempotency key to its package, and the binding is never
replaced: a repeat reads the package back and builds its answer from the
stored state alone. The stored state does not keep the blockers of a package
that waits for an approval, so the two answers agree exactly when the first
call met none, or was a repeat itself.
-/

namespace InspectionHub.Delivery

variable {env : Env} {s s' : Repository}

/-! ## Blockers -/

/-- The module is not withdrawn, and has a current snapshot and an approval. -/
def Ready (readers : Readers) (command : ConfirmPackageCommand) (module : ModuleType) : Prop :=
  let key : ModuleSnapshotKey := ⟨command.organizationId, command.jobId, module⟩
  readers.isWithdrawn key = false ∧ (readers.getCurrent key).isSome ∧
    (readers.getCurrentApproval key).isSome

variable {readers : Readers}

/-- A module that is not ready adds one blocker, and a ready one none. -/
theorem resolveModule_blockers {command : ConfirmPackageCommand} {module : ModuleType}
    {acc acc' : ExactApprovals} (h : resolveModule readers command acc module = .ok acc') :
    (Ready readers command module ∧ acc'.blockers = acc.blockers) ∨
      (¬ Ready readers command module ∧ ∃ b, acc'.blockers = acc.blockers ++ [b]) := by
  simp only [resolveModule] at h
  split at h
  · next hwithdrawn =>
      cases h
      refine .inr ⟨fun hready => ?_, _, rfl⟩
      have hactive := hready.1
      rw [hwithdrawn] at hactive
      cases hactive
  · next hactive =>
      rw [Bool.not_eq_true] at hactive
      split at h
      · next snapshot approval hsnapshot happroval =>
          split at h
          · cases h
          · cases h
            refine .inl ⟨⟨hactive, ?_, ?_⟩, rfl⟩
            · rw [hsnapshot]
              rfl
            · rw [happroval]
              rfl
      · next hmissing =>
          cases h
          refine .inr ⟨fun hready => ?_, _, rfl⟩
          obtain ⟨snapshot, hsnapshot⟩ := Option.isSome_iff_exists.mp hready.2.1
          obtain ⟨approval, happroval⟩ := Option.isSome_iff_exists.mp hready.2.2
          exact hmissing snapshot approval hsnapshot happroval

/-- The loop ends without blockers exactly when it started without and met
only ready modules. -/
theorem foldlM_resolveModule_blockers {command : ConfirmPackageCommand}
    {modules : List ModuleType} {acc acc' : ExactApprovals}
    (h : modules.foldlM (resolveModule readers command) acc = .ok acc') :
    acc'.blockers = [] ↔ acc.blockers = [] ∧ ∀ m ∈ modules, Ready readers command m := by
  induction modules generalizing acc with
  | nil =>
      cases h
      simp
  | cons module modules ih =>
      rw [List.foldlM_cons] at h
      cases hstep : resolveModule readers command acc module with
      | error e =>
          rw [hstep] at h
          cases h
      | ok next =>
          rw [hstep] at h
          rw [ih h, List.forall_mem_cons]
          rcases resolveModule_blockers hstep with ⟨hready, heq⟩ | ⟨hwaits, b, heq⟩
          · simp [heq, hready]
          · simp [heq, hwaits]

theorem resolveExactApprovals_blockers {command : ConfirmPackageCommand} {exact : ExactApprovals}
    (h : resolveExactApprovals readers command = .ok exact) :
    exact.blockers = [] ↔ ∀ m ∈ command.commissionedModules, Ready readers command m := by
  rw [foldlM_resolveModule_blockers h]
  simp

/-! ## The two answers -/

/-- What the confirm that writes the package answers. -/
def firstAnswer (command : ConfirmPackageCommand) (exact : ExactApprovals) :
    ConfirmPackageResult :=
  { resultFor (confirmedPackage command exact) false with
    blockers :=
      if (confirmedPackage command exact).state = .waitingForEvidence then
        ["required_evidence_not_durable"]
      else exact.blockers }

/-- Read back, the package written by a confirm tells every blocker but those
it waits for an approval with. -/
theorem firstAnswer_blockers (command : ConfirmPackageCommand) (exact : ExactApprovals) :
    (resultFor (confirmedPackage command exact) true).blockers =
      (firstAnswer command exact).blockers ↔ exact.blockers = [] := by
  by_cases hblocked : exact.blockers.length > 0
  · have hstate : (confirmedPackage command exact).state = .waitingForApproval := if_pos hblocked
    have hsome : exact.blockers ≠ [] := List.length_pos_iff.mp hblocked
    simp only [firstAnswer, resultFor, hstate]
    simp [hsome, hsome.symm]
  · have hnone : exact.blockers = [] :=
      List.eq_nil_of_length_eq_zero (Nat.eq_zero_of_not_pos hblocked)
    have hstate : (confirmedPackage command exact).state =
        if sendableManifest command exact then .queued else .waitingForEvidence := if_neg hblocked
    simp only [firstAnswer, resultFor, hstate, hnone]
    by_cases hsendable : sendableManifest command exact = true
    · simp [hsendable]
    · simp [hsendable]

/-! ## Bindings -/

/-- The key is bound to the fingerprint and to the package a result carries. -/
def Bound (s : Repository) (k f packageId : String) : Prop :=
  s.idempotency.get? k = some ⟨f, packageId⟩

theorem getIdempotentPackage_some {k f : String} {value : DeliveryPackageRecord}
    (h : getIdempotentPackage k f s = .ok (some value) s') :
    Bound s k f value.packageId := by
  unfold getIdempotentPackage at h
  split at h
  · cases h
  · next prior hprior =>
      split at h
      · cases h
      · next hfingerprint =>
          split at h
          · cases h
          · next found hfound =>
              cases h
              rw [Bound, hprior, getPackage_packageId hfound, ← not_not.mp hfingerprint]

/-- **The answer.** A confirm that returns answers from the bound package, or
from what it has just written. -/
theorem confirm_answer {command : ConfirmPackageCommand} {result : ConfirmPackageResult}
    (h : confirm env readers command s = .ok result s') :
    checkCommand env command = .ok () ∧
    ((s' = s ∧ result = resultFor result.package true ∧
        Bound s (scopedIdempotencyKey command) (confirmFingerprint env command)
          result.package.packageId) ∨
      ∃ exact, Freezes env readers command exact s s' ∧ result = firstAnswer command exact) := by
  obtain ⟨_, hcheck, h⟩ := Tx.ofExcept_ok h
  refine ⟨hcheck, ?_⟩
  rw [transact, Tx.transact_ok] at h
  obtain ⟨replay, t, hreplay, hrest⟩ := Tx.bind_ok h
  obtain ⟨rfl, hfresh⟩ := getIdempotentPackage_ok hreplay
  cases replay with
  | some value =>
      cases hrest
      exact .inl ⟨rfl, rfl, getIdempotentPackage_some hreplay⟩
  | none =>
      obtain ⟨exact, hexact, hrest⟩ := Tx.ofExcept_ok hrest
      refine .inr ⟨exact, freezePackage_ok hexact hcheck (hfresh rfl) hrest, ?_⟩
      obtain ⟨_, _, hget, hrest⟩ := Tx.bind_ok hrest
      cases hget
      obtain ⟨_, -, hrest⟩ := Tx.ofExcept_ok hrest
      obtain ⟨-, hrest⟩ := writePackage_ok hrest
      obtain ⟨_, _, -, hrest⟩ := Tx.bind_ok hrest
      obtain ⟨_, _, -, hrest⟩ := Tx.bind_ok hrest
      obtain ⟨_, _, -, hlast⟩ := Tx.bind_ok hrest
      cases hlast
      rfl

/-- A bound key whose package is there is answered from the package. -/
theorem confirm_replays {command : ConfirmPackageCommand} {value : DeliveryPackageRecord}
    (readers : Readers) (hcheck : checkCommand env command = .ok ())
    (hbound : Bound s (scopedIdempotencyKey command) (confirmFingerprint env command)
      value.packageId)
    (hget : s.getPackage value.packageId = some value) :
    confirm env readers command s = .ok (resultFor value true) s := by
  have hchecks : (Tx.ofExcept (checkCommand env command) : DeliveryTx Unit) s = .ok () s := by
    rw [hcheck]
    rfl
  have hreplay : getIdempotentPackage (scopedIdempotencyKey command)
      (confirmFingerprint env command) s = .ok (some value) s := by
    simp only [getIdempotentPackage]
    rw [Bound] at hbound
    rw [hbound]
    simp only [ne_eq, not_true_eq_false, if_false, hget]
  rw [confirm, Tx.bind_of hchecks, transact, Tx.transact_ok, Tx.bind_of hreplay]
  rfl

/-! ## Bindings are never replaced -/

theorem Worked.idempotency {packageId : String} {p' : DeliveryPackageRecord}
    (h : Worked s s' packageId p') : s'.idempotency = s.idempotency := by
  cases h with
  | kept heq _ _ => rw [heq]
  | moved p m _ hmoves _ _ => exact hmoves.idempotency

variable {k f packageId : String}

theorem Bound.workerSteps (h : Bound s k f packageId) (hsteps : WorkerSteps s s') :
    Bound s' k f packageId := by
  induction hsteps with
  | refl => exact h
  | tail _ hstep ih =>
      rcases hstep with hrestored | ⟨_, _, hworked⟩
      · rwa [Bound, hrestored.idempotency]
      · rwa [Bound, hworked.idempotency]

theorem Bound.confirm (h : Bound s k f packageId) (readers : Readers)
    (command : ConfirmPackageCommand) :
    Bound (Tx.after (Delivery.confirm env readers command s)) k f packageId := by
  cases hx : Delivery.confirm env readers command s with
  | ok result s' =>
      rcases confirm_ok hx with heq | ⟨exact, hfreezes⟩
      · exact heq ▸ h
      · show Bound s' k f packageId
        -- only an unbound key is ever set
        have hother : k ≠ scopedIdempotencyKey command := by
          rintro rfl
          have hfresh := hfreezes.fresh
          rw [Bound] at h
          rw [h] at hfresh
          cases hfresh
        rw [Bound, hfreezes.idempotency, OMap.get?_set_of_ne _ _ hother]
        exact h
  | error e s' =>
      show Bound s' k f packageId
      rwa [Bound, (confirm_atomic readers command hx).idempotency]

theorem Bound.next {t : Session} (h : Bound t.repository k f packageId) (a : Label) :
    Bound (t.next env a).repository k f packageId := by
  by_cases hconfirm : ∃ readers command, a = .confirm readers command
  · obtain ⟨readers, command, rfl⟩ := hconfirm
    exact h.confirm readers command
  · apply h.workerSteps
    exact next_workerSteps env t a fun readers command heq => hconfirm ⟨readers, command, heq⟩

theorem Bound.later {t t' : Session} (h : Bound t.repository k f packageId)
    (hl : (system env).Later TSys.any t t') : Bound t'.repository k f packageId := by
  refine hl.preserves (P := fun t => Bound t.repository k f packageId) ?_ h
  rintro t a t' ht - rfl
  exact ht.next a

/-- A confirm that returned leaves its key bound to the package it returned. -/
theorem confirm_binds {command : ConfirmPackageCommand} {result : ConfirmPackageResult}
    (h : confirm env readers command s = .ok result s') :
    Bound s' (scopedIdempotencyKey command) (confirmFingerprint env command)
      result.package.packageId := by
  obtain ⟨-, ⟨rfl, -, hbound⟩ | ⟨exact, hfreezes, rfl⟩⟩ := confirm_answer h
  · exact hbound
  · rw [Bound, hfreezes.idempotency]
    exact OMap.get?_set_self _ _ _

/-! ## Repeats -/

/-- The outcome and the blockers are those of the first call. -/
def SameAnswer (first again : ConfirmPackageResult) : Prop :=
  again.outcome = first.outcome ∧ again.blockers = first.blockers

/-- The call was a repeat itself, or every commissioned module was ready. -/
def Unblocked (s : Repository) (readers : Readers) (command : ConfirmPackageCommand) : Prop :=
  (s.idempotency.get? (scopedIdempotencyKey command)).isSome ∨
    ∀ m ∈ command.commissionedModules, Ready readers command m

variable (env) in
/-- **Repeated confirms.** From any state, once a confirm has returned and
while its package is unchanged, the same call is answered with the same
outcome, and with the same blockers if and only if the first call was a
repeat itself or met no module that waits for an approval. -/
theorem confirm_repeated_iff {t t' : Session} {readers : Readers}
    {command : ConfirmPackageCommand} {first : ConfirmPackageResult} {r : Repository}
    (hfirst : confirm env readers command t.repository = .ok first r)
    (hlater : (system env).Later TSys.any (t.next env (.confirm readers command)) t')
    (hsame : t'.repository.getPackage first.package.packageId = some first.package)
    (readers' : Readers) (now : String) :
    ∃ again, confirm env readers' { command with confirmedAt := now } t'.repository =
        .ok again t'.repository ∧
      again.replayed = true ∧ again.outcome = first.outcome ∧
      (SameAnswer first again ↔ Unblocked t.repository readers command) := by
  have hnext : (t.next env (.confirm readers command)).repository = r := by
    show Tx.after (confirm env readers command t.repository) = r
    rw [hfirst]
    rfl
  have hbound : Bound (t.next env (.confirm readers command)).repository
      (scopedIdempotencyKey command) (confirmFingerprint env command) first.package.packageId := by
    rw [hnext]
    exact confirm_binds hfirst
  have hbound := hbound.later hlater
  obtain ⟨hcheck, hanswer⟩ := confirm_answer hfirst
  -- the time of the call enters neither the checks nor the fingerprint
  have hagain : confirm env readers' { command with confirmedAt := now } t'.repository =
      .ok (resultFor first.package true) t'.repository :=
    confirm_replays readers' hcheck hbound hsame
  refine ⟨_, hagain, rfl, ?_⟩
  rcases hanswer with ⟨-, heq, hkey⟩ | ⟨exact, hfreezes, rfl⟩
  · rw [Bound] at hkey
    rw [← heq]
    refine ⟨rfl, fun _ => .inl ?_, fun _ => ⟨rfl, rfl⟩⟩
    rw [hkey]
    rfl
  · refine ⟨rfl, ?_⟩
    have hblockers : SameAnswer (firstAnswer command exact)
        (resultFor (firstAnswer command exact).package true) ↔ exact.blockers = [] := by
      rw [← firstAnswer_blockers command exact]
      exact ⟨fun h => h.2, fun h => ⟨rfl, h⟩⟩
    rw [hblockers, resolveExactApprovals_blockers hfreezes.resolved, Unblocked, hfreezes.fresh]
    simp

/-- A confirm that wrote its package returned the first answer. -/
theorem Freezes.answer {command : ConfirmPackageCommand} {exact : ExactApprovals}
    (h : Freezes env readers command exact s (Tx.after (confirm env readers command s))) :
    confirm env readers command s =
      .ok (firstAnswer command exact) (Tx.after (confirm env readers command s)) := by
  cases hx : confirm env readers command s with
  | ok result s' =>
      show EStateM.Result.ok result s' = .ok (firstAnswer command exact) s'
      obtain ⟨-, ⟨-, -, hbound⟩ | ⟨exact', hfreezes, hresult⟩⟩ := confirm_answer hx
      · rw [Bound, h.fresh] at hbound
        cases hbound
      · have hexact : exact = exact' := by
          have hboth := h.resolved.symm.trans hfreezes.resolved
          exact Except.ok.inj hboth
        rw [hexact, hresult]
  | error e s' =>
      have hrestored := confirm_atomic readers command hx
      have hset := h.idempotency
      rw [hx] at hset
      have hbound : s'.idempotency.get? (scopedIdempotencyKey command) =
          some ⟨confirmFingerprint env command, command.packageId⟩ := by
        rw [show s'.idempotency = _ from hset]
        exact OMap.get?_set_self _ _ _
      rw [hrestored.idempotency, h.fresh] at hbound
      cases hbound

namespace Reopened

theorem ready_approved : ∀ m ∈ (command 0 "confirm-1").commissionedModules,
    Ready approved (command 0 "confirm-1") m := fun _ _ => ⟨rfl, rfl, rfl⟩

/-- The package is queued, and the call repeated after the building module was
withdrawn: still the first answer. -/
theorem queued_repeated : ∃ again, confirm host withdrawn
      { command 0 "confirm-1" with confirmedAt := "2026-07-14T08:05:00.000Z" }
      queued.repository = .ok again queued.repository ∧
    SameAnswer (firstAnswer (command 0 "confirm-1") exactApprovals) again := by
  obtain ⟨again, hagain, -, -, hiff⟩ := confirm_repeated_iff host freezes_first.answer
    (TSys.Later.refl (T := system host) queued) getPackage_queued withdrawn
    "2026-07-14T08:05:00.000Z"
  exact ⟨again, hagain, hiff.mpr (.inr ready_approved)⟩

/-- A package waits for the approval of a withdrawn module; the repeated call
no longer says so. -/
theorem blockers_forgotten : ∃ first again : ConfirmPackageResult,
    (system host).Reachable TSys.any start ∧
      confirm host withdrawn (command 0 "confirm-1") start.repository =
        .ok first waiting.repository ∧
      waiting.repository.getPackage first.package.packageId = some first.package ∧
      confirm host withdrawn (command 0 "confirm-1") waiting.repository =
        .ok again waiting.repository ∧
      again.replayed = true ∧ again.outcome = .waitingForApproval ∧
      first.outcome = .waitingForApproval ∧
      first.blockers = ["building_withdrawn"] ∧ again.blockers = [] ∧
      ¬ SameAnswer first again := by
  have hinit : (system host).Init start := ⟨status, rfl⟩
  have hfirst := freezes_waiting.answer
  refine ⟨firstAnswer (command 0 "confirm-1") blocked, _, .init hinit, hfirst, getPackage_waiting,
    confirm_replays withdrawn (checked _ _) (confirm_binds hfirst) getPackage_waiting,
    rfl, rfl, rfl, rfl, rfl, ?_⟩
  intro hsame
  cases hsame.2

end Reopened

end InspectionHub.Delivery
