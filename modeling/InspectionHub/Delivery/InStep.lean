import InspectionHub.Delivery.Sending

/-!
# Packages and messages in step

Every transaction that changes the state of a package sets the state of its
message to match, in the same transaction. The states that wait for a confirm
say nothing about a message, and a package cancelled before it was ever queued
has none; in every other state the message follows the package.
-/

namespace InspectionHub.Delivery

variable {env : Env} {r r' : Repository}

/-- The state of the message of a package, if it has one. -/
def Repository.messageState (r : Repository) (packageId : String) : Option OutboxState :=
  (r.getOutboxForPackage packageId).map (·.state)

/-- What the state of a package says about its message. -/
def Follows (p : DeliveryPackageRecord) (message : Option OutboxState) : Prop :=
  match p.state with
  | .waitingForApproval | .waitingForEvidence => True
  | .queued => message = some .queued
  | .sending | .providerAccepted | .unknown => message = some .processing
  | .sent => message = some .completed
  | .failed => message = some (if p.interventionRequired then .completed else .queued)
  | .cancelled => message = none ∨ message = some .cancelled

/-- No two messages are of one package. -/
def OneMessage (r : Repository) : Prop :=
  ∀ o ∈ r.outbox.values, ∀ o' ∈ r.outbox.values, o.packageId = o'.packageId → o = o'

structure InStep (env : Env) (r : Repository) : Prop where
  kept : Kept env r
  one : OneMessage r
  follows : ∀ k p, r.getPackage k = some p → Follows p (r.messageState k)

/-! ## Messages after a transaction -/

variable {packageId : String}

theorem MessageSet.messageState {m : Option OutboxState} (h : MessageSet r r' packageId m)
    (k : String) :
    r'.messageState k =
      if k = packageId then m.or (r.messageState k) else r.messageState k := by
  unfold Repository.messageState
  cases m with
  | none =>
      have houtbox : r'.outbox = r.outbox := h
      rw [Repository.getOutboxForPackage, houtbox, Option.none_or, ite_self]
      rfl
  | some state =>
      obtain ⟨o, now, hget, hr⟩ := h
      rw [getOutboxForPackage_update hget (by rfl) (by rfl) hr]
      by_cases hk : k = packageId
      · rw [if_pos hk, if_pos hk]
        rfl
      · rw [if_neg hk, if_neg hk]

theorem messageState_eq {s s' : Repository} (h : s'.outbox = s.outbox) (k : String) :
    s'.messageState k = s.messageState k := by
  rw [Repository.messageState, Repository.getOutboxForPackage, h]
  rfl

/-- A message updated in place stays the only one of its package. -/
theorem OneMessage.update {o o' : DeliveryOutboxRecord} (h : OneMessage r)
    (hget : r.outbox.get? o.outboxId = some o) (hid : o'.outboxId = o.outboxId)
    (hpackage : o'.packageId = o.packageId) (hr : r'.outbox = r.outbox.put o') :
    OneMessage r' := by
  have hrow : ∀ x ∈ r'.outbox.values, x = o' ∨ (x ∈ r.outbox.values ∧ x.outboxId ≠ o.outboxId) := by
    intro x hx
    rw [hr, Table.mem_values_iff, Table.get?_put] at hx
    split at hx
    · exact .inl (Option.some.inj hx).symm
    · next hne => exact .inr ⟨(Table.mem_values_iff _ _).mpr hx, fun heq => hne (heq.trans hid.symm)⟩
  have hold : o ∈ r.outbox.values := (Table.mem_values_iff _ _).mpr hget
  intro x hx y hy hsame
  rcases hrow x hx with rfl | ⟨hx', hxne⟩
  · rcases hrow y hy with rfl | ⟨hy', hyne⟩
    · rfl
    · exact absurd (congrArg _ (h o hold y hy' (hpackage ▸ hsame))).symm hyne
  · rcases hrow y hy with rfl | ⟨hy', hyne⟩
    · exact absurd (congrArg _ (h x hx' o hold (hsame.trans hpackage))) hxne
    · exact h x hx' y hy' hsame

theorem MessageSet.one {m : Option OutboxState} (h : MessageSet r r' packageId m)
    (hone : OneMessage r) : OneMessage r' := by
  cases m with
  | none =>
      have houtbox : r'.outbox = r.outbox := h
      rw [OneMessage, houtbox]
      exact hone
  | some state =>
      obtain ⟨o, now, hget, hr⟩ := h
      have hid : { o with state := state, updatedAt := now }.outboxId = o.outboxId := rfl
      exact hone.update (outbox_get?_of_found hget).1 hid rfl hr

/-- A new message is the only one of a package that had none. -/
theorem OneMessage.new {o : DeliveryOutboxRecord} (h : OneMessage r)
    (hnone : r.getOutboxForPackage o.packageId = none) (hr : r'.outbox = r.outbox.put o) :
    OneMessage r' := by
  have hforeign : ∀ x ∈ r.outbox.values, x.packageId ≠ o.packageId := by
    intro x hx heq
    have := List.find?_eq_none.mp hnone x hx
    exact this (decide_eq_true heq)
  have hrow : ∀ x ∈ r'.outbox.values, x = o ∨ x ∈ r.outbox.values := by
    intro x hx
    rw [hr, Table.mem_values_iff, Table.get?_put] at hx
    split at hx
    · exact .inl (Option.some.inj hx).symm
    · exact .inr ((Table.mem_values_iff _ _).mpr hx)
  intro x hx y hy hsame
  rcases hrow x hx with rfl | hx'
  · rcases hrow y hy with rfl | hy'
    · rfl
    · exact absurd hsame.symm (hforeign y hy')
  · rcases hrow y hy with rfl | hy'
    · exact absurd hsame (hforeign x hx')
    · exact h x hx' y hy' hsame

/-! ## The invariant -/

theorem InStep.initial : InStep env Repository.initial where
  kept := Kept.initial
  one _ ho := by cases ho
  follows _ _ h := by cases h

theorem InStep.restored (h : InStep env r) (hr : Restored r r') : InStep env r' where
  kept := h.kept.restored hr
  one := by
    rw [OneMessage, hr.outbox]
    exact h.one
  follows k p hp := by
    rw [hr.getPackage] at hp
    rw [messageState_eq hr.outbox]
    exact h.follows k p hp

/-- Along an edge the message follows its package. -/
theorem Edge.follows {p p' : DeliveryPackageRecord} {m before : Option OutboxState}
    (h : Edge p p' m) (hbefore : Follows p before)
    (hsilent : m = none → p'.state = .cancelled → before = none) :
    Follows p' (m.or before) := by
  cases h with
  | claims _ h' _ => simp only [Follows, h', Option.some_or]
  | cancels _ h' _ _ hm =>
      simp only [Follows, h']
      rcases hm with rfl | rfl
      · exact .inl (hsilent rfl h')
      · exact .inr rfl
  | requeues _ _ h' _ => simp only [Follows, h', Option.some_or]
  | sends _ h' _ => simp only [Follows, h', Option.some_or]
  | pends h h' =>
      -- the claim made the message `processing`, and it stays so
      have hprocessing : before = some .processing := by simpa only [Follows, h] using hbefore
      rcases h' with h' | h' <;> simp only [Follows, h', hprocessing, Option.none_or]
  | fails _ h' => simp only [Follows, h', Option.some_or]

theorem InStep.worked {q : DeliveryPackageRecord} (h : InStep env r)
    (hw : Worked r r' packageId q) : InStep env r' := by
  have hkept := h.kept.worked hw
  cases hw with
  | kept heq _ _ => exact heq ▸ h
  | moved p m hid hmoves hedge hsilent =>
      refine ⟨hkept, hmoves.outbox.one h.one, fun k p₁ hp₁ => ?_⟩
      rw [getPackage_moves hmoves] at hp₁
      rw [hmoves.outbox.messageState]
      by_cases hk : k = p.packageId
      · rw [if_pos hk] at hp₁ ⊢
        obtain rfl := Option.some.inj hp₁
        subst hk
        refine hedge.follows (h.follows _ p hmoves.before) fun hm hstate => ?_
        rw [Repository.messageState, hid, hsilent hm hstate]
        rfl
      · rw [if_neg hk] at hp₁ ⊢
        exact h.follows k p₁ hp₁

theorem InStep.workerSteps (h : InStep env r) (hsteps : WorkerSteps r r') : InStep env r' := by
  induction hsteps with
  | refl => exact h
  | tail _ hstep ih =>
      rcases hstep with hrestored | ⟨_, _, hworked⟩
      · exact ih.restored hrestored
      · exact ih.worked hworked

/-- A confirm queues a package together with its first message, or leaves it
in a state that says nothing about messages. -/
theorem InStep.freezes (hids : Function.Injective env.ids) {readers : Readers}
    {command : ConfirmPackageCommand} {exact : ExactApprovals} (h : InStep env r)
    (hf : Freezes env readers command exact r r') : InStep env r' := by
  have hget : ∀ k, r'.getPackage k =
      if k = command.packageId then some (confirmedPackage command exact) else r.getPackage k := by
    intro k
    rw [Repository.getPackage, hf.packages]
    exact Table.get?_put _ _ _
  have hkept := h.kept.freezes hids hf
  by_cases hqueued : (confirmedPackage command exact).state = .queued
  · obtain ⟨hnone, hr, -⟩ := hf.queued hqueued
    have hfound := getOutboxForPackage_new (h.kept.fresh hids) hr
    refine ⟨hkept, h.one.new hnone hr, fun k p hp => ?_⟩
    rw [hget] at hp
    rw [Repository.messageState, hfound]
    by_cases hk : k = command.packageId
    · rw [if_pos hk] at hp
      obtain rfl := Option.some.inj hp
      have hown : (sendMessage env command (confirmedPackage command exact)
          (env.ids r.drawn)).packageId = k := hk.symm
      rw [hk, hnone, ← hk, if_pos hown]
      simp only [Follows, hqueued]
      rfl
    · rw [if_neg hk] at hp
      have hown : (sendMessage env command (confirmedPackage command exact)
          (env.ids r.drawn)).packageId ≠ k := fun heq => hk heq.symm
      rw [if_neg hown, Option.or_none]
      exact h.follows k p hp
  · have houtbox := hf.waiting hqueued
    refine ⟨hkept, ?_, fun k p hp => ?_⟩
    · rw [OneMessage, houtbox]
      exact h.one
    · rw [hget] at hp
      rw [messageState_eq houtbox]
      by_cases hk : k = command.packageId
      · rw [if_pos hk] at hp
        obtain rfl := Option.some.inj hp
        have hwaits := confirmedPackage_waits command exact hqueued
        unfold Follows
        revert hwaits
        cases (confirmedPackage command exact).state <;> simp [DeliveryState.waits]
      · rw [if_neg hk] at hp
        exact h.follows k p hp

theorem InStep.confirm (hids : Function.Injective env.ids) (h : InStep env r) (readers : Readers)
    (command : ConfirmPackageCommand) :
    InStep env (Tx.after (Delivery.confirm env readers command r)) := by
  cases hx : Delivery.confirm env readers command r with
  | ok result r' =>
      rcases confirm_ok hx with heq | ⟨exact, hfreezes⟩
      · exact heq ▸ h
      · exact h.freezes hids hfreezes
  | error e r' => exact h.restored (confirm_atomic readers command hx)

theorem inStep_inductive (hids : Function.Injective env.ids) :
    (system env).Inductive TSys.any fun s => InStep env s.repository where
  init := by
    rintro s ⟨status, rfl⟩
    exact InStep.initial
  step := by
    rintro s a s' h - rfl
    by_cases hconfirm : ∃ readers command, a = .confirm readers command
    · obtain ⟨readers, command, rfl⟩ := hconfirm
      exact h.confirm hids readers command
    · apply h.workerSteps
      exact next_workerSteps env s a fun readers command heq => hconfirm ⟨readers, command, heq⟩

/-! ## A message is never lost -/

theorem hasMessage_workerSteps {k : String} (h : r.HasMessage k) (hsteps : WorkerSteps r r') :
    r'.HasMessage k := by
  induction hsteps with
  | refl => exact h
  | tail _ hstep ih =>
      rcases hstep with hrestored | ⟨_, _, hworked⟩
      · rwa [Repository.HasMessage, Repository.getOutboxForPackage, hrestored.outbox]
      · cases hworked with
        | kept heq _ _ => exact heq ▸ ih
        | moved p m _ hmoves _ _ => exact (hmoves.outbox.hasMessage k).mpr ih

theorem hasMessage_step (hids : Function.Injective env.ids) {s : Session} {k : String}
    (hin : InStep env s.repository) (h : s.repository.HasMessage k) (a : Label) :
    (s.next env a).repository.HasMessage k := by
  by_cases hconfirm : ∃ readers command, a = .confirm readers command
  · obtain ⟨readers, command, rfl⟩ := hconfirm
    show (Tx.after (Delivery.confirm env readers command s.repository)).HasMessage k
    cases hx : Delivery.confirm env readers command s.repository with
    | ok result r' =>
        rcases confirm_ok hx with heq | ⟨exact, hfreezes⟩
        · exact heq ▸ h
        · exact (hfreezes.hasMessage hids hin.kept k).mpr (.inl h)
    | error e r' =>
        have houtbox := (confirm_atomic readers command hx).outbox
        rwa [Tx.after, Repository.HasMessage, Repository.getOutboxForPackage, houtbox]
  · apply hasMessage_workerSteps h
    exact next_workerSteps env s a fun readers command heq => hconfirm ⟨readers, command, heq⟩

/-! ## The transactions -/

/-- Every transaction of the service and the worker. -/
inductive Transaction where
  | confirm (readers : Readers) (command : ConfirmPackageCommand)
  | startSending (packageId now : String)
  | cancelPackage (packageId : String) (reason : CancelReason) (now : String)
  | retry (packageId now : String)
  | markProviderSent (packageId providerReference now : String)
  | recordUnknown (started : DeliveryPackageRecord) (reconciliationKey now : String)
  | recordResult (started : DeliveryPackageRecord) (result : DeliveryProviderResult) (now : String)
  | recordEgressBlocked (started : DeliveryPackageRecord) (now : String)

variable (env) in
/-- The store a transaction that throws leaves behind, with its error. -/
def Transaction.throws (r : Repository) : Transaction → Option (DeliveryError × Repository)
  | .confirm readers command => thrown (Delivery.confirm env readers command r)
  | .startSending packageId now => thrown (Delivery.startSending env packageId now r)
  | .cancelPackage packageId reason now => thrown (Delivery.cancelPackage env packageId reason now r)
  | .retry packageId now => thrown (Delivery.retry packageId now r)
  | .markProviderSent packageId providerReference now =>
      thrown (Delivery.markProviderSent env packageId providerReference now r)
  | .recordUnknown started key now => thrown (Delivery.recordUnknown env started key now r)
  | .recordResult started result now => thrown (Delivery.recordResult env started result now r)
  | .recordEgressBlocked started now => thrown (Delivery.recordEgressBlocked env started now r)
where
  thrown {α : Type} : EStateM.Result DeliveryError Repository α → Option (DeliveryError × Repository)
    | .ok _ _ => none
    | .error e r => some (e, r)

theorem restored_of_thrown {α : Type} {x : DeliveryTx α} (hatomic : Atomic x) {e : DeliveryError}
    (h : Transaction.throws.thrown (x r) = some (e, r')) : Restored r r' := by
  cases hx : x r with
  | ok a t =>
      rw [hx] at h
      cases h
  | error e' t =>
      rw [hx] at h
      cases h
      exact hatomic hx

theorem Transaction.restores {t : Transaction} {e : DeliveryError}
    (h : t.throws env r = some (e, r')) : Restored r r' := by
  cases t with
  | confirm readers command => exact restored_of_thrown (confirm_atomic readers command) h
  | startSending packageId now => exact restored_of_thrown (startSending_atomic packageId now) h
  | cancelPackage packageId reason now =>
      exact restored_of_thrown (cancelPackage_atomic packageId now reason) h
  | retry packageId now => exact restored_of_thrown (retry_atomic packageId now) h
  | markProviderSent packageId ref now =>
      exact restored_of_thrown (markProviderSent_atomic packageId ref now) h
  | recordUnknown started key now =>
      exact restored_of_thrown (recordUnknown_atomic started key now) h
  | recordResult started result now =>
      exact restored_of_thrown (recordResult_atomic started result now) h
  | recordEgressBlocked started now =>
      exact restored_of_thrown (recordEgressBlocked_atomic started now) h

/-- The record `cancelPackage` writes. -/
def cancelledPackage (p : DeliveryPackageRecord) (reason : CancelReason) (now : String) :
    DeliveryPackageRecord :=
  transitioned p .cancelled now { cancellationReason := some (some reason.text) }

variable (env) in
/-- **Package and outbox in step.** In every reachable state a package has one
message at most, and the message follows the package; a package that has a
message keeps one, so a cancelled package without a message was never queued;
and a transaction that throws leaves no trace. -/
theorem package_outbox_in_step (hids : Function.Injective env.ids) {s : Session}
    (hs : (system env).Reachable TSys.any s) :
    OneMessage s.repository ∧
    (∀ k p, s.repository.getPackage k = some p → Follows p (s.repository.messageState k)) ∧
    (∀ s', (system env).Later TSys.any s s' → ∀ k, s.repository.HasMessage k →
      s'.repository.HasMessage k) ∧
    ∀ (t : Transaction) r e r', t.throws env r = some (e, r') →
      r'.packages = r.packages ∧ r'.outbox = r.outbox ∧ r'.idempotency = r.idempotency ∧
        r'.events = r.events := by
  have hin := (inStep_inductive hids).invariant hs
  refine ⟨hin.one, hin.follows, fun s' hl k hk => ?_, fun t r e r' h => ?_⟩
  · have hstep : ∀ s a s', InStep env s.repository → s.repository.HasMessage k → TSys.any s a →
        (system env).Step s a s' → s'.repository.HasMessage k := by
      rintro s a s' hin h - rfl
      exact hasMessage_step hids hin h a
    exact (inStep_inductive hids).stable hstep hs hl hk
  · have hrestored := Transaction.restores h
    exact ⟨hrestored.packages, hrestored.outbox, hrestored.idempotency, hrestored.events⟩

variable (env) in
/-- A package without a message is cancelled without a word to one. -/
theorem cancelPackage_silent {p : DeliveryPackageRecord} (reason : CancelReason) (now : String)
    (hget : r.getPackage packageId = some p) (hstate : p.state = .waitingForApproval)
    (hnone : r.getOutboxForPackage packageId = none) :
    ∃ r', cancelPackage env packageId reason now r = .ok (cancelledPackage p reason now) r' ∧
      r'.packages = r.packages.put (cancelledPackage p reason now) ∧ r'.outbox = r.outbox := by
  unfold cancelPackage transact
  simp only [Tx.transact_ok]
  have hrequire : requirePackage packageId r = .ok p r := by
    rw [requirePackage, Tx.bind_of (by rw [getPackage, hget])]
    rfl
  have hmove : transition packageId cancellable .cancelled now
      { cancellationReason := some (some reason.text) } r =
        .ok (cancelledPackage p reason now)
          { r with packages := r.packages.put (cancelledPackage p reason now) } := by
    rw [transition, Tx.bind_of hrequire, Tx.bind_of (Tx.throwIf_of (by rw [hstate]; decide))]
    rfl
  have hfound : getOutboxForPackage packageId
      { r with packages := r.packages.put (cancelledPackage p reason now) } =
        .ok none { r with packages := r.packages.put (cancelledPackage p reason now) } := by
    rw [getOutboxForPackage, ← hnone]
    rfl
  rw [Tx.bind_of hrequire, Tx.bind_of (Tx.throwIf_of (by rw [hstate]; decide)),
    if_neg (by rw [hstate]; decide), Tx.bind_of hmove, Tx.bind_of hfound]
  exact ⟨_, rfl, rfl, rfl⟩

namespace Reopened

/-- The building module is withdrawn when the package is first confirmed. -/
def waiting : Session := start.next host (.confirm withdrawn (command 0 "confirm-1"))

def cancelledWaiting : Session :=
  waiting.next host (.cancelPackage "package-1" .jobCancelled "2026-07-14T08:01:00.000Z")

theorem freezes_waiting : Freezes host withdrawn (command 0 "confirm-1") blocked
    start.repository waiting.repository :=
  confirm_of (checked _ _) rfl rfl rfl rfl nofun

theorem in_step_queued : Follows (confirmedPackage (command 0 "confirm-1") exactApprovals)
    (queued.repository.messageState "package-1") :=
  (package_outbox_in_step host ids_injective queued_reachable).2.1 _ _ getPackage_queued

theorem getPackage_waiting : waiting.repository.getPackage "package-1" =
    some (confirmedPackage (command 0 "confirm-1") blocked) := by
  rw [Repository.getPackage, freezes_waiting.packages]
  exact Table.get?_put_self _ _

theorem no_message_waiting : waiting.repository.getOutboxForPackage "package-1" = none := by
  rw [Repository.getOutboxForPackage, freezes_waiting.waiting (by rintro ⟨⟩)]
  rfl

/-- A package cancelled while it waits for an approval has no message. -/
theorem cancelled_without_message : ∃ p : DeliveryPackageRecord,
    (system host).Reachable TSys.any cancelledWaiting ∧
      cancelledWaiting.repository.getPackage "package-1" = some p ∧ p.state = .cancelled ∧
      cancelledWaiting.repository.getOutboxForPackage "package-1" = none := by
  have hinit : (system host).Init start := ⟨status, rfl⟩
  have hreach : (system host).Reachable TSys.any cancelledWaiting :=
    ((TSys.Reachable.init hinit).step trivial rfl).step trivial rfl
  obtain ⟨t, hcancel, hpackages, houtbox⟩ := cancelPackage_silent host .jobCancelled
    "2026-07-14T08:01:00.000Z" getPackage_waiting rfl no_message_waiting
  have hafter : cancelledWaiting.repository = t := by
    unfold cancelledWaiting Session.next
    dsimp only
    rw [hcancel]
    rfl
  rw [hafter]
  refine ⟨cancelledPackage (confirmedPackage (command 0 "confirm-1") blocked) .jobCancelled
    "2026-07-14T08:01:00.000Z", hreach, ?_, rfl, ?_⟩
  · rw [Repository.getPackage, hpackages]
    exact Table.get?_put_self _ _
  · rw [Repository.getOutboxForPackage, houtbox]
    exact no_message_waiting

end Reopened

end InspectionHub.Delivery
