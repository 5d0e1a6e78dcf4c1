import InspectionHub.Delivery.Runs
import InspectionHub.Lib.Digest

/-!
# Frozen deliveries

A package past waiting keeps its snapshots and manifest hash through every
transaction of the worker; `sent` has no outgoing edge, and `cancelled` only
the one to `sent`. The one way out is `confirm`: under a fresh idempotency key
it overwrites the package at the revision it is given, whatever its state. It
is stopped only when it would queue a package that has a message. So
deliveries stay frozen in the runs where no confirm reopens a package
(`frozen_deliveries`).
-/

namespace InspectionHub.Delivery

variable {env : Env}

/-- The package still waits to be queued. -/
def DeliveryState.waits (state : DeliveryState) : Bool :=
  state = .waitingForApproval || state = .waitingForEvidence

variable (env) in
/-- The confirm passes every check and writes over a package that waits no
more. -/
structure Reopens (r : Repository) (readers : Readers) (command : ConfirmPackageCommand) : Prop where
  checked : checkCommand env command = .ok ()
  fresh : r.idempotency.get? (scopedIdempotencyKey command) = none
  existing : ∃ p, r.getPackage command.packageId = some p ∧ p.state.waits = false ∧
    p.revision = command.expectedPackageRevision
  scope : checkExisting command (r.getPackage command.packageId) = .ok ()
  unguarded : ∃ exact, resolveExactApprovals readers command = .ok exact ∧
    (confirmState command exact = .queued → r.getOutboxForPackage command.packageId = none)

variable (env) in
/-- No confirm reopens a package. -/
def Careful (s : Session) : Label → Prop
  | .confirm readers command => ¬ Reopens env s.repository readers command
  | _ => True

/-! ## One transaction -/

variable {p p' : DeliveryPackageRecord} {m : Option OutboxState} {r r' : Repository}

theorem getPackage_moves (h : Moves r r' p p' m) (q : String) :
    r'.getPackage q = if q = p.packageId then some p' else r.getPackage q := by
  rw [Repository.getPackage, h.packages, Table.get?_put, h.packageId]
  rfl

variable {P : DeliveryPackageRecord → Prop} {k : String} {packageId : String}

/-- What holds of a package along every edge, holds after a transaction. -/
theorem Worked.keeps
    (hP : ∀ p p' m, P p → (∃ now changes, p' = transitioned p p'.state now changes) →
      Edge p p' m → P p') {q : DeliveryPackageRecord} (h : Worked r r' packageId q)
    (hk : ∃ p, r.getPackage k = some p ∧ P p) : ∃ p, r'.getPackage k = some p ∧ P p := by
  cases h with
  | kept heq _ _ =>
      rw [heq]
      exact hk
  | moved p m hid hmoves hedge =>
      rw [getPackage_moves hmoves]
      by_cases hkp : k = p.packageId
      · obtain ⟨p₀, hget, hp₀⟩ := hk
        rw [hkp, hmoves.before] at hget
        obtain rfl := Option.some.inj hget
        exact ⟨q, if_pos hkp, hP _ q m hp₀ hmoves.content hedge⟩
      · rw [if_neg hkp]
        exact hk

/-- No edge leads back to waiting. -/
theorem Edge.waits (h : Edge p p' m) : p'.state.waits = false := by
  cases h with
  | claims _ h' _ => rw [h']; rfl
  | cancels _ h' _ _ _ => rw [h']; rfl
  | requeues _ _ h' _ => rw [h']; rfl
  | sends _ h' _ => rw [h']; rfl
  | pends _ h' => rcases h' with h' | h' <;> rw [h'] <;> rfl
  | fails _ h' => rw [h']; rfl

/-- No edge leaves `sent`. -/
theorem Edge.not_sent (h : Edge p p' m) : p.state ≠ .sent := by
  intro hsent
  cases h with
  | claims h _ _ => rw [hsent] at h; cases h
  | cancels h _ _ _ _ => rw [hsent] at h; exact absurd h (by decide)
  | requeues h _ _ _ => rw [hsent] at h; cases h
  | sends h _ _ => rw [hsent] at h; exact absurd h (by decide)
  | pends h _ => rw [hsent] at h; cases h
  | fails h _ => rw [hsent] at h; cases h

/-- The only edge that leaves `cancelled` goes to `sent`. -/
theorem Edge.from_cancelled (h : Edge p p' m) (hcancelled : p.state = .cancelled) :
    p'.state = .sent := by
  cases h with
  | claims h _ _ => rw [hcancelled] at h; cases h
  | cancels h _ _ _ _ => rw [hcancelled] at h; exact absurd h (by decide)
  | requeues h _ _ _ => rw [hcancelled] at h; cases h
  | sends _ h' _ => exact h'
  | pends h _ => rw [hcancelled] at h; cases h
  | fails h _ => rw [hcancelled] at h; cases h

/-! ## One confirm -/

/-- A confirm that reopens nothing leaves a package past waiting alone. -/
theorem confirm_keeps {r : Repository} {readers : Readers} {command : ConfirmPackageCommand}
    (h : ¬ Reopens env r readers command) {p : DeliveryPackageRecord}
    (hget : r.getPackage k = some p) (hp : p.state.waits = false) :
    (Tx.after (confirm env readers command r)).getPackage k = some p := by
  cases hres : confirm env readers command r with
  | error e r' =>
      show r'.packages.get? k = some p
      rw [(confirm_atomic readers command hres).packages]
      exact hget
  | ok result r' =>
      show r'.packages.get? k = some p
      rcases confirm_ok hres with rfl | ⟨exact, hfreezes⟩
      · exact hget
      · rw [hfreezes.packages]
        by_cases hk : k = command.packageId
        · subst hk
          -- the confirm wrote over this package, so it reopened it
          refine absurd ⟨hfreezes.checked, hfreezes.fresh, ⟨p, hget, hp, ?_⟩, hfreezes.existing,
            exact, hfreezes.resolved, fun hqueued => (hfreezes.queued hqueued).1⟩ h
          have hrevision := hfreezes.revision
          rwa [hget, Option.map_some, Option.getD_some] at hrevision
        · rw [Table.get?_put_of_ne r.packages (confirmedPackage command exact) hk]
          exact hget

/-! ## Runs -/

theorem workerSteps_keep
    (hP : ∀ p p' m, P p → (∃ now changes, p' = transitioned p p'.state now changes) →
      Edge p p' m → P p') (h : WorkerSteps r r') (hk : ∃ p, r.getPackage k = some p ∧ P p) :
    ∃ p, r'.getPackage k = some p ∧ P p := by
  induction h with
  | refl => exact hk
  | tail _ hstep ih =>
      rcases hstep with hrestored | ⟨packageId, q, hworked⟩
      · obtain ⟨p, hget, hp⟩ := ih
        refine ⟨p, ?_, hp⟩
        rw [Repository.getPackage, hrestored.packages]
        exact hget
      · exact hworked.keeps hP ih

variable {s : Session}

/-- What every edge keeps of packages past waiting, every careful step keeps. -/
theorem step_keeps (hwaits : ∀ p, P p → p.state.waits = false)
    (hP : ∀ p p' m, P p → (∃ now changes, p' = transitioned p p'.state now changes) →
      Edge p p' m → P p') {a : Label} (ha : Careful env s a)
    (hk : ∃ p, s.repository.getPackage k = some p ∧ P p) :
    ∃ p, (s.next env a).repository.getPackage k = some p ∧ P p := by
  by_cases hconfirm : ∃ readers command, a = .confirm readers command
  · obtain ⟨readers, command, rfl⟩ := hconfirm
    obtain ⟨p, hget, hp⟩ := hk
    exact ⟨p, confirm_keeps ha hget (hwaits p hp), hp⟩
  · have hsteps := next_workerSteps env s a fun readers command heq =>
      hconfirm ⟨readers, command, heq⟩
    exact workerSteps_keep hP hsteps hk

theorem run_keeps (hwaits : ∀ p, P p → p.state.waits = false)
    (hP : ∀ p p' m, P p → (∃ now changes, p' = transitioned p p'.state now changes) →
      Edge p p' m → P p') {s s' : Session} (h : (system env).Later (Careful env) s s')
    (hk : ∃ p, s.repository.getPackage k = some p ∧ P p) :
    ∃ p, s'.repository.getPackage k = some p ∧ P p := by
  refine h.preserves (P := fun t => ∃ p, t.repository.getPackage k = some p ∧ P p) ?_ hk
  rintro t a t' ht ha rfl
  exact step_keeps hwaits hP ha ht

/-- The delivery content of a package past waiting. -/
def Holds (p p' : DeliveryPackageRecord) : Prop :=
  p'.moduleSnapshots = p.moduleSnapshots ∧ p'.durabilityManifestHash = p.durabilityManifestHash ∧
    p'.state.waits = false

theorem Holds.edge (p₀ p p' : DeliveryPackageRecord) (m : Option OutboxState) (h : Holds p₀ p)
    (hcontent : ∃ now changes, p' = transitioned p p'.state now changes) (hedge : Edge p p' m) :
    Holds p₀ p' := by
  obtain ⟨now, changes, hp'⟩ := hcontent
  obtain ⟨hsnapshots, hhash, -⟩ := h
  refine ⟨?_, ?_, hedge.waits⟩
  · rw [hp', ← hsnapshots]
    rfl
  · rw [hp', ← hhash]
    rfl

/-- The provider reports the package as sent. -/
def Observes (s : Session) (packageId : String) : Label → Prop
  | .markProviderSent q _ _ => q = packageId
  | .resume i _ _ => ∃ task ref, s.sends[i]? = some task ∧
      task.phase = .afterProviderCall (.sent ref) ∧ task.started.packageId = packageId
  | _ => False

/-- A transaction that takes a package out of `cancelled` is on that package
and makes it `sent`. -/
theorem Worked.leaves_cancelled {q : DeliveryPackageRecord} (h : Worked r r' packageId q)
    (hp : r.getPackage k = some p) (hcancelled : p.state = .cancelled)
    (hp' : r'.getPackage k = some p') (hleft : p'.state ≠ .cancelled) :
    k = packageId ∧ p' = q ∧ q.state = .sent := by
  cases h with
  | kept heq _ _ =>
      rw [heq, hp] at hp'
      rw [← Option.some.inj hp'] at hleft
      exact absurd hcancelled hleft
  | moved p₀ m hid hmoves hedge =>
      rw [getPackage_moves hmoves] at hp'
      by_cases hk : k = p₀.packageId
      · rw [if_pos hk] at hp'
        rw [hk, hmoves.before] at hp
        obtain rfl := Option.some.inj hp
        obtain rfl := Option.some.inj hp'
        exact ⟨hk.trans hid, rfl, hedge.from_cancelled hcancelled⟩
      · rw [if_neg hk, hp] at hp'
        rw [← Option.some.inj hp'] at hleft
        exact absurd hcancelled hleft

theorem Restored.getPackage (h : Restored r r') (k : String) :
    r'.getPackage k = r.getPackage k := by
  rw [Repository.getPackage, h.packages]
  rfl

/-- The same for a public transaction, with what it says of its result. -/
theorem leaves_cancelled_after {x : DeliveryTx DeliveryPackageRecord}
    {R : DeliveryPackageRecord → Prop} (hatomic : Atomic x) {r : Repository}
    (hok : ∀ {q r'}, x r = .ok q r' → Worked r r' packageId q ∧ R q)
    (hp : r.getPackage k = some p) (hcancelled : p.state = .cancelled)
    (hp' : (Tx.after (x r)).getPackage k = some p') (hleft : p'.state ≠ .cancelled) :
    k = packageId ∧ p'.state = .sent ∧ R p' := by
  cases h : x r with
  | ok q r' =>
      rw [h] at hp'
      obtain ⟨hworked, hR⟩ := hok h
      obtain ⟨hk, rfl, hsent⟩ := hworked.leaves_cancelled hp hcancelled hp' hleft
      exact ⟨hk, hsent, hR⟩
  | error e r' =>
      rw [h] at hp'
      have hsame : r'.getPackage k = some p' := hp'
      rw [(hatomic h).getPackage, hp] at hsame
      rw [← Option.some.inj hsame] at hleft
      exact absurd hcancelled hleft

theorem send_keeps_cancelled {packageId now cancelNow k : String}
    (hp : s.repository.getPackage k = some p) (hcancelled : p.state = .cancelled)
    (hp' : (s.send env packageId now cancelNow).repository.getPackage k = some p') :
    p'.state = .cancelled := by
  by_contra hleft
  -- a claim ends in `sending` or `cancelled`, so it is no way to `sent`
  have claim : ∀ {t : Repository} {q q' : DeliveryPackageRecord}, Worked s.repository t packageId q →
      (q.state = .cancelled ∨ q.state = .sending) → t.getPackage k = some q' →
      q'.state = .cancelled := by
    intro t q q' hworked hstate hq'
    by_contra hq
    obtain ⟨-, -, hsent⟩ := hworked.leaves_cancelled hp hcancelled hq' hq
    rw [hsent] at hstate
    simp at hstate
  unfold Session.send at hp'
  split at hp'
  · next started phase r h =>
      cases sendStart_ok h with
      | go hworked hstate => exact hleft (claim hworked (.inr hstate) hp')
      | ended hworked hstate hcancel hstate' =>
          next t q =>
          have hmid : ∃ p₁, t.getPackage k = some p₁ ∧ p₁.state = .cancelled := by
            have hstill := hworked.keeps (P := fun p => p.state = .cancelled ∨ p.state = .sent)
              (fun p p' m h _ hedge => ?_) ⟨p, hp, .inl hcancelled⟩
            · obtain ⟨p₁, hp₁, -⟩ := hstill
              exact ⟨p₁, hp₁, claim hworked hstate hp₁⟩
            · rcases h with h | h
              · exact .inr (hedge.from_cancelled h)
              · exact absurd h hedge.not_sent
          obtain ⟨p₁, hp₁, hc₁⟩ := hmid
          obtain ⟨-, -, hsent⟩ := hcancel.leaves_cancelled hp₁ hc₁ hp' hleft
          rw [hsent] at hstate'
          cases hstate'
  · next e r h =>
      rcases sendStart_error h with hrestored | ⟨t, started, hworked, hstate, hrestored⟩
      · have hsame : r.getPackage k = some p' := hp'
        rw [hrestored.getPackage, hp] at hsame
        rw [← Option.some.inj hsame] at hleft
        exact hleft hcancelled
      · have hsame : r.getPackage k = some p' := hp'
        rw [hrestored.getPackage] at hsame
        exact hleft (claim hworked hstate hsame)

/-- **Leaving `cancelled`.** A careful step takes a package out of `cancelled`
only to `sent`, on the provider's word. -/
theorem leaves_cancelled {a : Label} (ha : Careful env s a)
    (hp : s.repository.getPackage k = some p) (hcancelled : p.state = .cancelled)
    (hp' : (s.next env a).repository.getPackage k = some p') (hleft : p'.state ≠ .cancelled) :
    p'.state = .sent ∧ Observes s k a := by
  cases a with
  | confirm readers command =>
      have hsame := confirm_keeps ha hp (by rw [hcancelled]; rfl)
      obtain rfl := Option.some.inj (hsame.symm.trans hp')
      exact absurd hcancelled hleft
  | send packageId now cancelNow =>
      exact absurd (send_keeps_cancelled hp hcancelled hp') hleft
  | resume i awaited now =>
      have hp' : (s.resume env i awaited now).repository.getPackage k = some p' := hp'
      have unchanged : ∀ {r : Repository}, r.getPackage k = s.repository.getPackage k →
          r.getPackage k = some p' → False := by
        intro r hr hget
        rw [hr, hp] at hget
        rw [← Option.some.inj hget] at hleft
        exact hleft hcancelled
      unfold Session.resume at hp'
      split at hp'
      · exact (unchanged rfl hp').elim
      · next task htask =>
          split at hp'
          · exact (unchanged rfl hp').elim
          · next work hwork =>
              split at hp'
              · next phase r h =>
                  have hresumed := sendResume_ok hwork h
                  generalize hphase : task.phase = ph at hresumed
                  cases hresumed with
                  | authorise hr _ _ _ => exact (unchanged (by rw [hr]) hp').elim
                  | call hr _ _ _ => exact (unchanged (by rw [hr]) hp').elim
                  | reply hr => exact (unchanged (by rw [hr]) hp').elim
                  | settle hworked hsent =>
                      obtain ⟨hk, rfl, hstate⟩ := hworked.leaves_cancelled hp hcancelled hp' hleft
                      obtain ⟨ref, hph⟩ := hsent hstate
                      exact ⟨hstate, task, ref, htask, hphase.trans hph, hk.symm⟩
              · next e r h =>
                  exact (unchanged ((sendResume_atomic hwork h).getPackage k) hp').elim
  | cancelPackage packageId reason now =>
      obtain ⟨-, -, hstate⟩ := leaves_cancelled_after (cancelPackage_atomic _ _ _)
        cancelPackage_ok hp hcancelled hp' hleft
      exact absurd hstate hleft
  | retry packageId now =>
      obtain ⟨-, hsent, hstate⟩ := leaves_cancelled_after (retry_atomic _ _) retry_ok hp hcancelled
        hp' hleft
      rw [hsent] at hstate
      cases hstate
  | markProviderSent packageId providerReference now =>
      obtain ⟨hk, hsent, -⟩ := leaves_cancelled_after (markProviderSent_atomic _ _ _)
        markProviderSent_ok hp hcancelled hp' hleft
      exact ⟨hsent, hk.symm⟩
  | setStatus status =>
      have hsame : s.repository.getPackage k = some p' := hp'
      obtain rfl := Option.some.inj (hp.symm.trans hsame)
      exact absurd hcancelled hleft

variable (env) in
/-- **Frozen deliveries.** In a run where no confirm reopens a package, from any
state on: a queued package keeps its snapshots and its manifest hash, a sent
one stays sent, and a cancelled one stays cancelled unless the provider turns
out to have sent it. -/
theorem frozen_deliveries {s s' : Session} (h : (system env).Later (Careful env) s s') {k : String}
    {p : DeliveryPackageRecord} (hp : s.repository.getPackage k = some p) :
    (p.state = .queued → ∃ p', s'.repository.getPackage k = some p' ∧
      p'.moduleSnapshots = p.moduleSnapshots ∧
      p'.durabilityManifestHash = p.durabilityManifestHash) ∧
    (p.state = .sent → ∃ p', s'.repository.getPackage k = some p' ∧ p'.state = .sent) ∧
    (p.state = .cancelled → ∃ p', s'.repository.getPackage k = some p' ∧
      (p'.state = .cancelled ∨ p'.state = .sent)) ∧
    (p.state = .cancelled → ∀ a, Careful env s a → ∀ p',
      (s.next env a).repository.getPackage k = some p' → p'.state ≠ .cancelled →
      p'.state = .sent ∧ Observes s k a) := by
  refine ⟨fun hqueued => ?_, fun hsent => ?_, fun hcancelled => ?_, fun hcancelled => ?_⟩
  · have hwaits : p.state.waits = false := by rw [hqueued]; rfl
    obtain ⟨p', hp', hsnapshots, hhash, -⟩ := run_keeps (fun _ hq => hq.2.2) (Holds.edge p) h
      ⟨p, hp, rfl, rfl, hwaits⟩
    exact ⟨p', hp', hsnapshots, hhash⟩
  · refine run_keeps (P := fun q => q.state = .sent) ?_ ?_ h ⟨p, hp, hsent⟩
    · intro q hq
      rw [hq]
      rfl
    · intro q q' m hq _ hedge
      exact absurd hq hedge.not_sent
  · refine run_keeps (P := fun q => q.state = .cancelled ∨ q.state = .sent) ?_ ?_ h
      ⟨p, hp, .inl hcancelled⟩
    · rintro q (hq | hq) <;> rw [hq] <;> rfl
    · rintro q q' m (hq | hq) _ hedge
      · exact .inr (hedge.from_cancelled hq)
      · exact absurd hq hedge.not_sent
  · intro a ha p' hp' hleft
    exact leaves_cancelled ha hp hcancelled hp' hleft

theorem checkCommand_of {command : ConfirmPackageCommand}
    (hmodules : assertCanonicalModuleSet command.commissionedModules = .ok ())
    (horganization : command.manifest.organizationId = command.organizationId)
    (hjob : command.manifest.jobId = command.jobId)
    (hverify : verifyDurabilityManifest env command.manifest = true) :
    checkCommand env command = .ok () := by
  have hscope : ¬ (command.manifest.organizationId ≠ command.organizationId ∨
      command.manifest.jobId ≠ command.jobId) := by
    rw [horganization, hjob]
    simp
  rw [checkCommand, hmodules, if_neg hscope, hverify]
  rfl

/-! ## A queued package reopened

The building module is approved and its package queued; the module is then
withdrawn, and a second confirm at the package's revision empties it.
-/

namespace Reopened

def manifest : DurabilityManifest where
  manifestId := "manifest-1"
  organizationId := "organization-1"
  jobId := "job-1"
  revision := 1
  entries := []
  canonicalHash := "5271de4dc6ef11e9450282d37a048f2b2e735fbf437427e09d2232ac1b317491"

/-- SHA-256 of the manifest's text. -/
def host : Env where
  digest := digestOf [(canonicalJson manifest.input, manifest.canonicalHash)]
  ids n := "id-" ++ String.ofList (Json.natText n)

def snapshot : ModuleSnapshot := ⟨.building, "module-1", "snapshot-1", "hash-1", 1, []⟩

def approval : ApprovalRecord := ⟨"approval-1", "snapshot-1", "hash-1", 1, 1⟩

def approved : Readers where
  getCurrent _ := some snapshot
  getCurrentApproval _ := some approval
  isWithdrawn _ := false

def withdrawn : Readers := { approved with isWithdrawn := fun _ => true }

def command (expectedPackageRevision : Int) (idempotencyKey : String) : ConfirmPackageCommand where
  packageId := "package-1"
  organizationId := "organization-1"
  jobId := "job-1"
  commissionedModules := [.building]
  manifest := manifest
  expectedPackageRevision := expectedPackageRevision
  idempotencyKey := idempotencyKey
  confirmedAt := "2026-07-14T08:00:00.000Z"

def status : ProfessionalDeliveryStatusPort := fun _ _ => ⟨false, []⟩

def start : Session := .initial status

def queued : Session := start.next host (.confirm approved (command 0 "confirm-1"))

def reopened : Session := queued.next host (.confirm withdrawn (command 1 "confirm-2"))

theorem sha256_host (v : JsVal) : sha256 host v =
    digestOf [(canonicalJson manifest.input, manifest.canonicalHash)] (canonicalJson v) := rfl

theorem checked (revision : Int) (key : String) :
    checkCommand host (command revision key) = .ok () := by
  refine checkCommand_of rfl rfl rfl ?_
  rw [verifyDurabilityManifest, decide_eq_true_eq, sha256_host]
  exact digestOf_head _ _ _

def exactApprovals : ExactApprovals := ⟨[reference snapshot approval], [], []⟩

def blocked : ExactApprovals := ⟨[], ["building_withdrawn"], []⟩

theorem freezes_first : Freezes host approved (command 0 "confirm-1") exactApprovals
    start.repository queued.repository :=
  confirm_of (checked _ _) rfl rfl rfl rfl fun _ => rfl

theorem getPackage_queued : queued.repository.getPackage "package-1" =
    some (confirmedPackage (command 0 "confirm-1") exactApprovals) := by
  rw [Repository.getPackage, freezes_first.packages]
  exact Table.get?_put_self _ _

theorem freezes_second : Freezes host withdrawn (command 1 "confirm-2") blocked
    queued.repository reopened.repository := by
  have hfresh : queued.repository.idempotency.get?
      (scopedIdempotencyKey (command 1 "confirm-2")) = none := by
    rw [freezes_first.idempotency]
    exact OMap.get?_set_of_ne _ _ (by decide)
  refine confirm_of (checked _ _) hfresh rfl ?_ ?_ ?_
  · show checkExisting (command 1 "confirm-2") (queued.repository.getPackage "package-1") = _
    rw [getPackage_queued]
    rfl
  · show ((queued.repository.getPackage "package-1").map (·.revision)).getD 0 = 1
    rw [getPackage_queued]
    rfl
  · intro hqueued
    cases hqueued

/-- A send keeps what was queued. -/
theorem frozen_through_send : ∃ p',
    (queued.next host (.send "package-1" "2026-07-14T08:01:00.000Z"
      "2026-07-14T08:01:00.000Z")).repository.getPackage "package-1" = some p' ∧
    p'.moduleSnapshots = [reference snapshot approval] ∧
    p'.durabilityManifestHash = manifest.canonicalHash := by
  have hcareful : Careful host queued (.send "package-1" "2026-07-14T08:01:00.000Z"
    "2026-07-14T08:01:00.000Z") := trivial
  have hrun := (TSys.Later.refl (T := system host) queued).snoc hcareful rfl
  exact (frozen_deliveries host hrun getPackage_queued).1 rfl

theorem queued_reachable : (system host).Reachable TSys.any queued := by
  have hinit : (system host).Init start := ⟨status, rfl⟩
  exact (TSys.Reachable.init hinit).step trivial rfl

/-- The queued package loses its snapshots in a run of the system. -/
theorem snapshots_dropped : ∃ p p' : DeliveryPackageRecord,
    (system host).Reachable TSys.any queued ∧ (system host).Later TSys.any queued reopened ∧
      queued.repository.getPackage "package-1" = some p ∧ p.state = .queued ∧
      p.moduleSnapshots = [reference snapshot approval] ∧
      reopened.repository.getPackage "package-1" = some p' ∧ p'.state = .waitingForApproval ∧
      p'.moduleSnapshots = [] := by
  refine ⟨confirmedPackage (command 0 "confirm-1") exactApprovals,
    confirmedPackage (command 1 "confirm-2") blocked, ?_, ?_, ?_, rfl, rfl, ?_, rfl, rfl⟩
  · exact queued_reachable
  · exact (TSys.Later.refl queued).snoc trivial rfl
  · exact getPackage_queued
  · rw [Repository.getPackage, freezes_second.packages]
    exact Table.get?_put_self _ _

end Reopened

end InspectionHub.Delivery
