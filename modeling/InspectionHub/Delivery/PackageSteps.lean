import InspectionHub.Delivery.Worker

/-!
# What a transaction does to a package

One lemma for each transaction of the worker: it leaves the store as it was,
or moves one package along an edge of the delivery state machine and sets the
state of its message (`Edge`). Whatever throws is put back (`Restored`).
-/

namespace InspectionHub.Delivery

variable {env : Env} {s s' t : Repository}

/-! ## Only identifiers and events grow -/

/-- Identifiers are used up and events are appended. -/
def Grows (s s' : Repository) : Prop := s.drawn ≤ s'.drawn ∧ s.events <+: s'.events

theorem Grows.refl (s : Repository) : Grows s s := ⟨Nat.le_refl _, List.prefix_rfl⟩

theorem Grows.trans (h : Grows s t) (h' : Grows t s') : Grows s s' :=
  ⟨Nat.le_trans h.1 h'.1, h.2.trans h'.2⟩

/-- A call that only grows the log. -/
abbrev Growing {α : Type} (x : DeliveryTx α) : Prop := Tx.Within Grows x

namespace Growing

variable {α β : Type}

theorem bind {x : DeliveryTx α} {f : α → DeliveryTx β} (hx : Growing x)
    (hf : ∀ a, Growing (f a)) : Growing (x >>= f) := Tx.Within.bind (R := Grows) Grows.trans hx hf

theorem pure (a : α) : Growing (Pure.pure a : DeliveryTx α) := Tx.Within.pure (R := Grows) Grows.refl a

theorem throw (e : DeliveryError) : Growing (MonadExcept.throw e : DeliveryTx α) :=
  Tx.Within.throw (R := Grows) Grows.refl e

theorem ofExcept (r : Except DeliveryError α) : Growing (Tx.ofExcept r : DeliveryTx α) :=
  Tx.Within.ofExcept (R := Grows) Grows.refl r

theorem throwIf (c : Prop) [Decidable c] (e : DeliveryError) :
    Growing (Tx.throwIf c e : DeliveryTx PUnit) := Tx.Within.throwIf (R := Grows) Grows.refl c e

theorem getPackage (pid : String) : Growing (getPackage pid) := Grows.refl

theorem getOutboxForPackage (pid : String) : Growing (getOutboxForPackage pid) := Grows.refl

theorem setPackage (p : DeliveryPackageRecord) : Growing (setPackage p) := Grows.refl

theorem setOutbox (o : DeliveryOutboxRecord) : Growing (setOutbox o) := Grows.refl

theorem bindIdempotency (k f pid : String) : Growing (bindIdempotency k f pid) := Grows.refl

theorem drawId : Growing (drawId env) := fun _ => ⟨Nat.le_succ _, List.prefix_rfl⟩

theorem getIdempotentPackage (k f : String) : Growing (getIdempotentPackage k f) := by
  intro s
  unfold Delivery.getIdempotentPackage
  split
  · exact Grows.refl s
  · split
    · exact Grows.refl s
    · split
      · exact Grows.refl s
      · exact Grows.refl s

theorem requirePackage (pid : String) : Growing (requirePackage pid) := by
  refine bind (getPackage pid) fun p => ?_
  cases p with
  | none => exact throw _
  | some p => exact pure p

theorem transition (pid : String) (expected : List DeliveryState) (next : DeliveryState)
    (now : String) (changes : Changes) : Growing (transition pid expected next now changes) := by
  refine bind (requirePackage pid) fun p => ?_
  exact bind (throwIf _ _) fun _ => bind (setPackage _) fun _ => pure _

theorem updateOutbox (pid : String) (state : OutboxState) (now : String) :
    Growing (updateOutbox pid state now) := by
  refine bind (getOutboxForPackage pid) fun o => ?_
  cases o with
  | none => exact throw _
  | some o => exact setOutbox _

theorem appendEvent (event : String → DeliveryAuditEvent) : Growing (appendEvent env event) :=
  bind drawId fun _ _ => ⟨Nat.le_refl _, List.prefix_append _ _⟩

theorem currentForResult (started : DeliveryPackageRecord) :
    Growing (currentForResult started) := by
  refine bind (getPackage _) fun p => ?_
  cases p with
  | none => exact throw _
  | some p => exact bind (throwIf _ _) fun _ => pure _

end Growing

/-! ## Rollback -/

/-- The store is as it was, up to identifiers drawn. -/
structure Restored (s s' : Repository) : Prop where
  packages : s'.packages = s.packages
  outbox : s'.outbox = s.outbox
  idempotency : s'.idempotency = s.idempotency
  events : s'.events = s.events
  drawn : s.drawn ≤ s'.drawn

theorem Restored.refl (s : Repository) : Restored s s := ⟨rfl, rfl, rfl, rfl, Nat.le_refl _⟩

/-- A transaction that throws leaves no trace. -/
theorem transact_restores {α : Type} {work : DeliveryTx α} (hwork : Growing work)
    {e : DeliveryError} (h : transact work s = .error e s') : Restored s s' := by
  obtain ⟨t, ht, rfl⟩ := Tx.transact_error h
  have hgrow := hwork s
  rw [ht] at hgrow
  exact ⟨rfl, rfl, rfl, (List.prefix_iff_eq_take.mp hgrow.2).symm, hgrow.1⟩

/-! ## Moves -/

/-- The message of a package after its state was set, or as it was. -/
def MessageSet (s s' : Repository) (packageId : String) : Option OutboxState → Prop
  | none => s'.outbox = s.outbox
  | some state => ∃ o now, s.getOutboxForPackage packageId = some o ∧
      s'.outbox = s.outbox.put { o with state := state, updatedAt := now }

/-- One package went from `p` to `p'` by a transition. -/
structure Moves (s s' : Repository) (p p' : DeliveryPackageRecord) (message : Option OutboxState) :
    Prop where
  before : s.getPackage p.packageId = some p
  content : ∃ now changes, p' = transitioned p p'.state now changes
  packages : s'.packages = s.packages.put p'
  outbox : MessageSet s s' p.packageId message
  idempotency : s'.idempotency = s.idempotency
  grows : Grows s s'

theorem Moves.packageId {p p' : DeliveryPackageRecord} {m : Option OutboxState}
    (h : Moves s s' p p' m) : p'.packageId = p.packageId := by
  obtain ⟨now, changes, hp⟩ := h.content
  rw [hp]
  rfl

theorem getPackage_packageId {packageId : String} {p : DeliveryPackageRecord}
    (h : s.getPackage packageId = some p) : p.packageId = packageId := Table.key_of_get? h

theorem requirePackage_ok {α : Type} {packageId : String}
    {f : DeliveryPackageRecord → DeliveryTx α} {a : α}
    (h : (requirePackage packageId >>= f) s = .ok a s') :
    ∃ p, s.getPackage packageId = some p ∧ f p s = .ok a s' := by
  obtain ⟨p, t, hp, hrest⟩ := Tx.bind_ok h
  obtain ⟨found, u, hget, hp⟩ := Tx.bind_ok hp
  cases hget
  cases hfound : s.getPackage packageId with
  | none =>
      rw [hfound] at hp
      cases hp
  | some q =>
      rw [hfound] at hp
      cases hp
      exact ⟨p, rfl, hrest⟩

variable {p' : DeliveryPackageRecord}

theorem transition_moves {packageId now : String} {expected : List DeliveryState}
    {next : DeliveryState} {changes : Changes}
    (h : transition packageId expected next now changes s = .ok p' s') :
    ∃ p, p.packageId = packageId ∧ p.state ∈ expected ∧ p' = transitioned p next now changes ∧
      Moves s s' p p' none := by
  obtain ⟨p, hget, hrest⟩ := requirePackage_ok h
  obtain ⟨hexpected, hrest⟩ := Tx.throwIf_ok hrest
  cases hrest
  have hid := getPackage_packageId hget
  refine ⟨p, hid, not_not.mp hexpected, rfl, ?_⟩
  exact ⟨by rw [hid]; exact hget, ⟨now, changes, rfl⟩, rfl, rfl, rfl, Grows.refl _⟩

theorem updateOutbox_ok {packageId now : String} {state : OutboxState}
    (h : updateOutbox packageId state now s = .ok () s') :
    ∃ o, s.getOutboxForPackage packageId = some o ∧
      s' = { s with outbox := s.outbox.put { o with state := state, updatedAt := now } } := by
  obtain ⟨found, u, hget, h⟩ := Tx.bind_ok h
  cases hget
  cases hfound : s.getOutboxForPackage packageId with
  | none =>
      rw [hfound] at h
      cases h
  | some o =>
      rw [hfound] at h
      cases h
      exact ⟨o, rfl, rfl⟩

theorem Moves.update {p p' : DeliveryPackageRecord} {packageId now : String} {state : OutboxState}
    (h : Moves s t p p' none) (hid : p.packageId = packageId)
    (hupdate : updateOutbox packageId state now t = .ok () s') : Moves s s' p p' (some state) := by
  obtain ⟨o, ho, rfl⟩ := updateOutbox_ok hupdate
  have houtbox : t.outbox = s.outbox := h.outbox
  refine ⟨h.before, h.content, h.packages, ⟨o, now, ?_, ?_⟩, h.idempotency, h.grows⟩
  · rw [hid, ← ho, Repository.getOutboxForPackage, Repository.getOutboxForPackage, houtbox]
  · rw [← houtbox]

theorem Moves.append {p p' : DeliveryPackageRecord} {m : Option OutboxState}
    {event : String → DeliveryAuditEvent} (h : Moves s t p p' m)
    (happend : appendEvent env event t = .ok () s') : Moves s s' p p' m := by
  have hgrow : Grows t (Tx.after (appendEvent env event t)) := Growing.appendEvent event t
  rw [happend] at hgrow
  obtain ⟨id, u, hdraw, happend⟩ := Tx.bind_ok happend
  cases hdraw
  cases happend
  refine ⟨h.before, h.content, h.packages, ?_, h.idempotency, h.grows.trans hgrow⟩
  cases m with
  | none => exact h.outbox
  | some state => exact h.outbox

/-- The edges of the delivery state machine, with the state the message of the
package is set to. -/
inductive Edge (p p' : DeliveryPackageRecord) : Option OutboxState → Prop where
  | claims (h : p.state = .queued) (h' : p'.state = .sending)
      (hflag : p'.interventionRequired = p.interventionRequired) : Edge p p' (some .processing)
  | cancels (h : p.state ∈ cancellable) (h' : p'.state = .cancelled)
      (hflag : p'.interventionRequired = p.interventionRequired) (message : Option OutboxState)
      (hmessage : message = none ∨ message = some .cancelled) : Edge p p' message
  | requeues (h : p.state = .failed) (hflag : p.interventionRequired = false)
      (h' : p'.state = .queued) (hflag' : p'.interventionRequired = false) :
      Edge p p' (some .queued)
  | sends (h : p.state ∈ [.sending, .providerAccepted, .unknown, .cancelled])
      (h' : p'.state = .sent)
      (hflag : p'.interventionRequired = true → p.interventionRequired = true) :
      Edge p p' (some .completed)
  | pends (h : p.state = .sending) (h' : p'.state = .providerAccepted ∨ p'.state = .unknown) :
      Edge p p' none
  | fails (h : p.state = .sending) (h' : p'.state = .failed) :
      Edge p p' (some (if p'.interventionRequired then .completed else .queued))

/-- A transaction that returned `p'`: the package was cancelled already and
nothing changed, or it moved along an edge; a package cancelled without a word
to its message has none. -/
inductive Worked (s s' : Repository) (packageId : String) (p' : DeliveryPackageRecord) : Prop where
  | kept (h : s' = s) (hget : s.getPackage packageId = some p') (hstate : p'.state = .cancelled)
  | moved (p : DeliveryPackageRecord) (message : Option OutboxState) (hid : p.packageId = packageId)
      (hmoves : Moves s s' p p' message) (hedge : Edge p p' message)
      (hsilent : message = none → p'.state = .cancelled → s.getOutboxForPackage packageId = none)

/-! ## The transactions -/

/-- A transaction whose body only grows the log either returns or is undone. -/
abbrev Atomic {α : Type} (x : DeliveryTx α) : Prop :=
  ∀ {s s' : Repository} {e : DeliveryError}, x s = .error e s' → Restored s s'

/-- The usual tail of a transaction. -/
theorem growing_tail (packageId now : String) (expected : List DeliveryState)
    (next : DeliveryState) (changes : Changes) (state : OutboxState)
    (event : DeliveryPackageRecord → String → DeliveryAuditEvent) :
    Growing (do
      let p ← transition packageId expected next now changes
      updateOutbox packageId state now
      appendEvent env (event p)
      return p) :=
  .bind (.transition _ _ _ _ _) fun _ => .bind (.updateOutbox _ _ _) fun _ =>
    .bind (.appendEvent _) fun _ => .pure _

/-- Where the usual tail returns, the package moved and its message was set. -/
theorem tail_moves {packageId now : String} {expected : List DeliveryState} {next : DeliveryState}
    {changes : Changes} {state : OutboxState}
    {event : DeliveryPackageRecord → String → DeliveryAuditEvent}
    (h : (do
      let p ← transition packageId expected next now changes
      updateOutbox packageId state now
      appendEvent env (event p)
      return p : DeliveryTx DeliveryPackageRecord) s = .ok p' s') :
    ∃ p, p.packageId = packageId ∧ p.state ∈ expected ∧ p' = transitioned p next now changes ∧
      Moves s s' p p' (some state) := by
  obtain ⟨next, t₁, hnext, hrest⟩ := Tx.bind_ok h
  obtain ⟨_, t₂, hupdate, hrest⟩ := Tx.bind_ok hrest
  obtain ⟨_, t₃, happend, hrest⟩ := Tx.bind_ok hrest
  cases hrest
  obtain ⟨p, hid, hstate, heq, hmoves⟩ := transition_moves hnext
  exact ⟨p, hid, hstate, heq, (hmoves.update hid hupdate).append happend⟩

theorem startSending_atomic (packageId now : String) : Atomic (startSending env packageId now) := by
  refine transact_restores (.bind (.requirePackage _) fun current => ?_)
  split
  · exact .pure _
  · exact .bind (.throwIf _ _) fun _ => growing_tail _ _ _ _ _ _ _

theorem cancelPackage_atomic (packageId now : String) (reason : CancelReason) :
    Atomic (cancelPackage env packageId reason now) := by
  refine transact_restores (.bind (.requirePackage _) fun current => ?_)
  refine .bind (.throwIf _ _) fun _ => ?_
  split
  · exact .pure _
  · refine .bind (.transition _ _ _ _ _) fun next => .bind (.getOutboxForPackage _) fun found => ?_
    split
    · exact .bind (.updateOutbox _ _ _) fun _ => .bind (.appendEvent _) fun _ => .pure _
    · exact .bind (.appendEvent _) fun _ => .pure _

theorem retry_atomic (packageId now : String) : Atomic (retry packageId now) :=
  transact_restores (.bind (.requirePackage _) fun _ => .bind (.throwIf _ _) fun _ =>
    .bind (.transition _ _ _ _ _) fun _ => .bind (.updateOutbox _ _ _) fun _ => .pure _)

theorem markProviderSent_atomic (packageId providerReference now : String) :
    Atomic (markProviderSent env packageId providerReference now) :=
  transact_restores (.bind (.requirePackage _) fun _ => growing_tail _ _ _ _ _ _ _)

theorem recordUnknown_atomic (started : DeliveryPackageRecord) (key now : String) :
    Atomic (recordUnknown env started key now) := by
  refine transact_restores (.bind (.getPackage _) fun found => ?_)
  split
  · exact .pure _
  · exact .bind (.transition _ _ _ _ _) fun _ => .bind (.appendEvent _) fun _ => .pure _

theorem recordResult_atomic (started : DeliveryPackageRecord) (result : DeliveryProviderResult)
    (now : String) : Atomic (recordResult env started result now) := by
  cases result with
  | unknown key => exact recordUnknown_atomic started key now
  | sent ref =>
      refine transact_restores (.bind (.currentForResult _) fun current => ?_)
      split
      · exact growing_tail _ _ _ _ _ _ _
      · exact growing_tail _ _ _ _ _ _ _
  | accepted ref =>
      refine transact_restores (.bind (.currentForResult _) fun current => ?_)
      split
      · exact .pure _
      · exact .bind (.transition _ _ _ _ _) fun _ => .bind (.appendEvent _) fun _ => .pure _
  | failed code retryable =>
      refine transact_restores (.bind (.currentForResult _) fun current => ?_)
      split
      · exact .pure _
      · exact growing_tail _ _ _ _ _ _ _

theorem recordEgressBlocked_atomic (started : DeliveryPackageRecord) (now : String) :
    Atomic (recordEgressBlocked env started now) := by
  refine transact_restores (.bind (.getPackage _) fun found => ?_)
  cases found with
  | none => exact .throw _
  | some current =>
      dsimp only
      split
      · exact .pure _
      · exact .bind (.throwIf _ _) fun _ => growing_tail _ _ _ _ _ _ _

/-! ## What each returned -/

theorem startSending_ok {packageId now : String}
    (h : startSending env packageId now s = .ok p' s') :
    Worked s s' packageId p' ∧ (p'.state = .cancelled ∨ p'.state = .sending) := by
  rw [startSending, transact, Tx.transact_ok] at h
  obtain ⟨current, hget, hrest⟩ := requirePackage_ok h
  split at hrest
  · next hcancelled =>
      cases hrest
      exact ⟨.kept rfl hget hcancelled, .inl hcancelled⟩
  · obtain ⟨-, hrest⟩ := Tx.throwIf_ok hrest
    obtain ⟨p, hid, hstate, rfl, hmoves⟩ := tail_moves hrest
    have hedge : Edge p (transitioned p .sending now {}) (some .processing) :=
      .claims (List.mem_singleton.mp hstate) rfl rfl
    exact ⟨.moved p _ hid hmoves hedge nofun, .inr rfl⟩

theorem cancelPackage_ok {packageId now : String} {reason : CancelReason}
    (h : cancelPackage env packageId reason now s = .ok p' s') :
    Worked s s' packageId p' ∧ p'.state = .cancelled := by
  rw [cancelPackage, transact, Tx.transact_ok] at h
  obtain ⟨current, hget, hrest⟩ := requirePackage_ok h
  obtain ⟨-, hrest⟩ := Tx.throwIf_ok hrest
  split at hrest
  · next hcancelled =>
      cases hrest
      exact ⟨.kept rfl hget hcancelled, hcancelled⟩
  · obtain ⟨next, t₁, hnext, hrest⟩ := Tx.bind_ok hrest
    obtain ⟨found, t₂, hfound, hrest⟩ := Tx.bind_ok hrest
    cases hfound
    obtain ⟨p, hid, hstate, rfl, hmoves⟩ := transition_moves hnext
    have hedge : ∀ m : Option OutboxState, m = none ∨ m = some .cancelled → Edge p
        (transitioned p .cancelled now { cancellationReason := some (some reason.text) }) m :=
      fun m hm => .cancels hstate (by rfl) (by rfl) m hm
    split at hrest
    · obtain ⟨_, t₃, hupdate, hrest⟩ := Tx.bind_ok hrest
      obtain ⟨_, t₄, happend, hrest⟩ := Tx.bind_ok hrest
      cases hrest
      exact ⟨.moved p _ hid ((hmoves.update hid hupdate).append happend) (hedge _ (.inr rfl))
        nofun, rfl⟩
    · next hnone =>
      obtain ⟨_, t₄, happend, hrest⟩ := Tx.bind_ok hrest
      cases hrest
      refine ⟨.moved p _ hid (hmoves.append happend) (hedge _ (.inl rfl)) fun _ _ => ?_, rfl⟩
      have houtbox : t₁.outbox = s.outbox := hmoves.outbox
      rw [Repository.getOutboxForPackage, ← houtbox]
      exact Option.not_isSome_iff_eq_none.mp hnone

theorem retry_ok {packageId now : String} (h : retry packageId now s = .ok p' s') :
    Worked s s' packageId p' ∧ p'.state = .queued := by
  rw [retry, transact, Tx.transact_ok] at h
  obtain ⟨current, hget, hrest⟩ := requirePackage_ok h
  obtain ⟨hretryable, hrest⟩ := Tx.throwIf_ok hrest
  obtain ⟨next, t₁, hnext, hrest⟩ := Tx.bind_ok hrest
  obtain ⟨_, t₂, hupdate, hrest⟩ := Tx.bind_ok hrest
  cases hrest
  obtain ⟨p, hid, hstate, rfl, hmoves⟩ := transition_moves hnext
  obtain rfl : current = p := by
    have hbefore := hmoves.before
    rw [hid, hget] at hbefore
    exact Option.some.inj hbefore
  have hflag : current.interventionRequired = false := by
    rw [not_or, Bool.not_eq_true] at hretryable
    exact hretryable.2
  have hedge : Edge current (transitioned current .queued now { failureCode := some none })
      (some .queued) := .requeues (List.mem_singleton.mp hstate) hflag rfl hflag
  exact ⟨.moved current _ hid (hmoves.update hid hupdate) hedge nofun, rfl⟩

theorem markProviderSent_ok {packageId providerReference now : String}
    (h : markProviderSent env packageId providerReference now s = .ok p' s') :
    Worked s s' packageId p' ∧ p'.state = .sent := by
  rw [markProviderSent, transact, Tx.transact_ok] at h
  obtain ⟨current, hget, hrest⟩ := requirePackage_ok h
  obtain ⟨p, hid, hstate, rfl, hmoves⟩ := tail_moves hrest
  refine ⟨.moved p _ hid hmoves (.sends ?_ rfl ?_) nofun, rfl⟩
  · exact List.mem_cons_of_mem _ hstate
  · intro hflag
    cases hflag

theorem recordUnknown_ok {started p' : DeliveryPackageRecord} {key now : String}
    (h : recordUnknown env started key now s = .ok p' s') :
    Worked s s' started.packageId p' ∧ (p'.state = .cancelled ∨ p'.state = .unknown) := by
  rw [recordUnknown, transact, Tx.transact_ok] at h
  obtain ⟨_, t, hfound, hrest⟩ := Tx.bind_ok h
  cases hfound
  generalize hfilter : Option.filter _ _ = found at hrest
  cases found with
  | some current =>
      cases hrest
      obtain ⟨hget, hcancelled⟩ := Option.filter_eq_some_iff.mp hfilter
      rw [decide_eq_true_eq] at hcancelled
      exact ⟨.kept rfl hget hcancelled, .inl hcancelled⟩
  | none =>
    obtain ⟨next, t₁, hnext, hrest⟩ := Tx.bind_ok hrest
    obtain ⟨_, t₂, happend, hrest⟩ := Tx.bind_ok hrest
    cases hrest
    obtain ⟨p, hid, hstate, rfl, hmoves⟩ := transition_moves hnext
    refine ⟨.moved p _ hid (hmoves.append happend) (.pends ?_ (.inr rfl)) fun _ => nofun, .inr rfl⟩
    exact List.mem_singleton.mp hstate

variable {started : DeliveryPackageRecord}

theorem currentForResult_ok {α : Type} {f : DeliveryPackageRecord → DeliveryTx α} {a : α}
    (h : (currentForResult started >>= f) s = .ok a s') :
    ∃ p, s.getPackage started.packageId = some p ∧ f p s = .ok a s' := by
  obtain ⟨p, t, hp, hrest⟩ := Tx.bind_ok h
  obtain ⟨found, u, hget, hp⟩ := Tx.bind_ok hp
  cases hget
  cases hfound : s.getPackage started.packageId with
  | none =>
      rw [hfound] at hp
      cases hp
  | some q =>
      rw [hfound] at hp
      obtain ⟨-, hp⟩ := Tx.throwIf_ok hp
      cases hp
      exact ⟨p, rfl, hrest⟩

theorem recordSent_ok {started p' : DeliveryPackageRecord} {ref now : String}
    (h : recordSent env started ref now s = .ok p' s') :
    Worked s s' started.packageId p' ∧ p'.state = .sent := by
  rw [recordSent, transact, Tx.transact_ok] at h
  obtain ⟨current, hget, hrest⟩ := currentForResult_ok h
  split at hrest
  · obtain ⟨p, hid, hstate, rfl, hmoves⟩ := tail_moves hrest
    refine ⟨.moved p _ hid hmoves (.sends ?_ rfl id) nofun, rfl⟩
    rw [List.mem_singleton.mp hstate]
    decide
  · obtain ⟨p, hid, hstate, rfl, hmoves⟩ := tail_moves hrest
    refine ⟨.moved p _ hid hmoves (.sends ?_ rfl id) nofun, rfl⟩
    rw [List.mem_singleton.mp hstate]
    decide

theorem recordAccepted_ok {started p' : DeliveryPackageRecord} {ref now : String}
    (h : recordAccepted env started ref now s = .ok p' s') :
    Worked s s' started.packageId p' ∧
      (p'.state = .cancelled ∨ p'.state = .providerAccepted) := by
  rw [recordAccepted, transact, Tx.transact_ok] at h
  obtain ⟨current, hget, hrest⟩ := currentForResult_ok h
  split at hrest
  · next hcancelled =>
      cases hrest
      exact ⟨.kept rfl hget hcancelled, .inl hcancelled⟩
  · obtain ⟨next, t₁, hnext, hrest⟩ := Tx.bind_ok hrest
    obtain ⟨_, t₃, happend, hrest⟩ := Tx.bind_ok hrest
    cases hrest
    obtain ⟨p, hid, hstate, rfl, hmoves⟩ := transition_moves hnext
    refine ⟨.moved p _ hid (hmoves.append happend) (.pends ?_ (.inl rfl)) fun _ => nofun, .inr rfl⟩
    exact List.mem_singleton.mp hstate

theorem recordFailed_ok {started p' : DeliveryPackageRecord} {code now : String}
    {retryable : Bool} (h : recordFailed env started code retryable now s = .ok p' s') :
    Worked s s' started.packageId p' ∧ (p'.state = .cancelled ∨ p'.state = .failed) := by
  rw [recordFailed, transact, Tx.transact_ok] at h
  obtain ⟨current, hget, hrest⟩ := currentForResult_ok h
  split at hrest
  · next hcancelled =>
      cases hrest
      exact ⟨.kept rfl hget hcancelled, .inl hcancelled⟩
  · obtain ⟨p, hid, hstate, rfl, hmoves⟩ := tail_moves hrest
    have hfails : Edge p (transitioned p .failed now
        { failureCode := some (some code), interventionRequired := some (!retryable) }) _ :=
      .fails (List.mem_singleton.mp hstate) rfl
    refine ⟨.moved p _ hid hmoves ?_ nofun, .inr rfl⟩
    cases retryable with
    | true => exact hfails
    | false => exact hfails

variable {now : String}

/-- Only a `sent` result makes the package `sent`. -/
theorem recordResult_ok {started p' : DeliveryPackageRecord} {result : DeliveryProviderResult}
    (h : recordResult env started result now s = .ok p' s') :
    Worked s s' started.packageId p' ∧ (p'.state = .sent → ∃ ref, result = .sent ref) := by
  cases result with
  | sent ref => exact ⟨(recordSent_ok h).1, fun _ => ⟨ref, rfl⟩⟩
  | accepted ref =>
      obtain ⟨hworked, hstate⟩ := recordAccepted_ok h
      exact ⟨hworked, fun hsent => by simp [hsent] at hstate⟩
  | failed code retryable =>
      obtain ⟨hworked, hstate⟩ := recordFailed_ok h
      exact ⟨hworked, fun hsent => by simp [hsent] at hstate⟩
  | unknown key =>
      obtain ⟨hworked, hstate⟩ := recordUnknown_ok h
      exact ⟨hworked, fun hsent => by simp [hsent] at hstate⟩

theorem recordEgressBlocked_ok {started p' : DeliveryPackageRecord}
    (h : recordEgressBlocked env started now s = .ok p' s') :
    Worked s s' started.packageId p' ∧ (p'.state = .cancelled ∨ p'.state = .failed) := by
  rw [recordEgressBlocked, transact, Tx.transact_ok] at h
  obtain ⟨_, t, hfound, hrest⟩ := Tx.bind_ok h
  cases hfound
  generalize hget : s.getPackage started.packageId = found at hrest
  cases found with
  | none => cases hrest
  | some current =>
      dsimp only at hrest
      split at hrest
      · next hcancelled =>
          cases hrest
          exact ⟨.kept rfl hget hcancelled, .inl hcancelled⟩
      · obtain ⟨-, hrest⟩ := Tx.throwIf_ok hrest
        obtain ⟨p, hid, hstate, rfl, hmoves⟩ := tail_moves hrest
        refine ⟨.moved p _ hid hmoves (.fails ?_ rfl) nofun, .inr rfl⟩
        exact List.mem_singleton.mp hstate

/-! ## Guards and segments of a send -/

variable {status : ProfessionalDeliveryStatusPort}

theorem revalidateSendability_ok {r : Option DeliveryPackageRecord}
    (h : revalidateSendability env status started now s = .ok r s') :
    (r = none ∧ s' = s ∧ ∃ current, s.getPackage started.packageId = some current ∧
      current.state = .sending ∧ isBlocked current (readStatus status current) = false) ∨
    ∃ p', r = some p' ∧ Worked s s' started.packageId p' ∧ p'.state = .cancelled := by
  obtain ⟨_, t, hfound, hrest⟩ := Tx.bind_ok h
  cases hfound
  generalize hget : s.getPackage started.packageId = found at hrest
  cases found with
  | none => cases hrest
  | some current =>
      dsimp only at hrest
      split at hrest
      · next hcancelled =>
          cases hrest
          exact .inr ⟨current, rfl, .kept rfl hget hcancelled, hcancelled⟩
      · obtain ⟨hsending, hrest⟩ := Tx.throwIf_ok hrest
        split at hrest
        · obtain ⟨p', u, hcancel, hrest⟩ := Tx.bind_ok hrest
          cases hrest
          obtain ⟨hworked, hstate⟩ := cancelPackage_ok hcancel
          rw [getPackage_packageId hget] at hworked
          exact .inr ⟨p', rfl, hworked, hstate⟩
        · next hopen =>
            cases hrest
            rw [Bool.not_eq_true] at hopen
            exact .inl ⟨rfl, rfl, current, rfl, not_not.mp hsending, hopen⟩

theorem revalidateSendability_atomic (status : ProfessionalDeliveryStatusPort)
    (started : DeliveryPackageRecord) (now : String) :
    Atomic (revalidateSendability env status started now) := by
  intro s s' e h
  obtain hget | ⟨found, t, hget, hrest⟩ := Tx.bind_error h
  · cases hget
  · cases hget
    generalize s.getPackage started.packageId = found at hrest
    cases found with
    | none =>
        cases hrest
        exact .refl s
    | some current =>
        dsimp only at hrest
        split at hrest
        · cases hrest
        · obtain ⟨-, -, rfl⟩ | ⟨-, hrest⟩ := Tx.throwIf_error hrest
          · exact .refl _
          · split at hrest
            · obtain hcancel | ⟨p, u, -, hrest⟩ := Tx.bind_error hrest
              · exact cancelPackage_atomic _ _ _ hcancel
              · cases hrest
            · cases hrest

/-- A send that goes on changed nothing; one that settled did so by one
transaction on its package. -/
inductive Resumed (env : Env) (status : ProfessionalDeliveryStatusPort)
    (started : DeliveryPackageRecord) (s s' : Repository) : SendPhase → SendPhase → Prop where
  | authorise {current : DeliveryPackageRecord} (h : s' = s)
      (hget : s.getPackage started.packageId = some current) (hstate : current.state = .sending)
      (hopen : isBlocked current (readStatus status current) = false) :
      Resumed env status started s s' .beforeProviderCall .requireEgress
  | call {current : DeliveryPackageRecord} {outbox : DeliveryOutboxRecord} (h : s' = s)
      (hget : s.getPackage started.packageId = some current) (hstate : current.state = .sending)
      (hopen : isBlocked current (readStatus status current) = false) :
      Resumed env status started s s' .requireEgress
        (.providerCall (providerRequest started outbox))
  | reply {request : DeliveryProviderRequest} {result : DeliveryProviderResult} (h : s' = s) :
      Resumed env status started s s' (.providerCall request) (.afterProviderCall result)
  | settle {phase : SendPhase} {p' : DeliveryPackageRecord}
      (h : Worked s s' started.packageId p')
      (hsent : p'.state = .sent → ∃ ref, phase = .afterProviderCall (.sent ref)) :
      Resumed env status started s s' phase (.settled (.ok p'))

variable {phase : SendPhase}

theorem afterHook_ok (h : afterHook env status started now s = .ok phase s') :
    Resumed env status started s s' .beforeProviderCall phase := by
  obtain ⟨r, t, hr, hrest⟩ := Tx.bind_ok h
  rcases revalidateSendability_ok hr with ⟨rfl, rfl, current, hget, hstate, hopen⟩ |
    ⟨p', rfl, hworked, hcancelled⟩
  · cases hrest
    exact .authorise rfl hget hstate hopen
  · cases hrest
    refine .settle hworked fun hsent => ?_
    rw [hcancelled] at hsent
    cases hsent

theorem afterEgress_ok (h : afterEgress env status started now s = .ok phase s') :
    Resumed env status started s s' .requireEgress phase := by
  obtain ⟨_, t, hfound, hrest⟩ := Tx.bind_ok h
  cases hfound
  generalize s.getOutboxForPackage started.packageId = found at hrest
  cases found with
  | none => cases hrest
  | some outbox =>
      obtain ⟨r, t, hr, hlast⟩ := Tx.bind_ok hrest
      rcases revalidateSendability_ok hr with ⟨rfl, rfl, current, hget, hstate, hopen⟩ |
        ⟨p', rfl, hworked, hcancelled⟩
      · cases hlast
        exact .call rfl hget hstate hopen
      · cases hlast
        refine .settle hworked fun hsent => ?_
        rw [hcancelled] at hsent
        cases hsent

theorem settleWith_ok {work : DeliveryTx DeliveryPackageRecord}
    (h : settleWith work s = .ok phase s') :
    ∃ p', work s = .ok p' s' ∧ phase = .settled (.ok p') := by
  obtain ⟨p', t, hwork, hrest⟩ := Tx.bind_ok h
  cases hrest
  exact ⟨p', hwork, rfl⟩

theorem settleWith_atomic {work : DeliveryTx DeliveryPackageRecord} (hwork : Atomic work) :
    Atomic (settleWith work) := by
  intro s s' e h
  obtain h | ⟨p', t, -, h⟩ := Tx.bind_error h
  · exact hwork h
  · cases h

/-- **A resumed send.** -/
theorem sendResume_ok {phase phase' : SendPhase} {awaited : Awaited} {work : DeliveryTx SendPhase}
    (hwork : sendResume env status started now phase awaited = some work)
    (h : work s = .ok phase' s') : Resumed env status started s s' phase phase' := by
  unfold sendResume at hwork
  split at hwork
  · cases hwork
    exact afterHook_ok h
  · cases hwork
    cases h
  · cases hwork
    exact afterEgress_ok h
  · cases hwork
    obtain ⟨p', hblocked, rfl⟩ := settleWith_ok h
    obtain ⟨hworked, hstate⟩ := recordEgressBlocked_ok hblocked
    exact .settle hworked fun hsent => by simp [hsent] at hstate
  · cases hwork
    cases h
    exact .reply rfl
  · cases hwork
    obtain ⟨p', hresult, rfl⟩ := settleWith_ok h
    obtain ⟨hworked, hsent⟩ := recordResult_ok hresult
    refine .settle hworked fun hstate => ?_
    obtain ⟨ref, rfl⟩ := hsent hstate
    exact ⟨ref, rfl⟩
  · cases hwork
    obtain ⟨p', hunknown, rfl⟩ := settleWith_ok h
    obtain ⟨hworked, hstate⟩ := recordUnknown_ok hunknown
    exact .settle hworked fun hsent => by simp [hsent] at hstate
  · cases hwork
    obtain ⟨p', hunknown, rfl⟩ := settleWith_ok h
    obtain ⟨hworked, hstate⟩ := recordUnknown_ok hunknown
    exact .settle hworked fun hsent => by simp [hsent] at hstate
  · cases hwork

theorem sendResume_atomic {awaited : Awaited} {work : DeliveryTx SendPhase}
    (hwork : sendResume env status started now phase awaited = some work) : Atomic work := by
  intro s s' e h
  unfold sendResume at hwork
  split at hwork
  · cases hwork
    obtain h | ⟨r, t, -, h⟩ := Tx.bind_error h
    · exact revalidateSendability_atomic _ _ _ h
    · split at h
      · cases h
      · cases h
  · cases hwork
    cases h
    exact .refl s
  · cases hwork
    obtain h | ⟨_, t, hfound, h⟩ := Tx.bind_error h
    · cases h
    · cases hfound
      generalize s.getOutboxForPackage started.packageId = found at h
      cases found with
      | none =>
          cases h
          exact .refl s
      | some outbox =>
          obtain h | ⟨r, t, -, h⟩ := Tx.bind_error h
          · exact revalidateSendability_atomic _ _ _ h
          · split at h
            · cases h
            · cases h
  · cases hwork
    exact settleWith_atomic (recordEgressBlocked_atomic _ _) h
  · cases hwork
    cases h
  · cases hwork
    exact settleWith_atomic (recordResult_atomic _ _ _) h
  · cases hwork
    exact settleWith_atomic (recordUnknown_atomic _ _ _) h
  · cases hwork
    exact settleWith_atomic (recordUnknown_atomic _ _ _) h
  · cases hwork

/-- How far a send got before its first await: it claimed the package and goes
on, or it is over. -/
inductive Started (status : ProfessionalDeliveryStatusPort) (packageId : String)
    (s s' : Repository) (started : DeliveryPackageRecord) : SendPhase → Prop where
  | go (h : Worked s s' packageId started) (hstate : started.state = .sending)
      (hopen : isBlocked started (readStatus status started) = false) :
      Started status packageId s s' started .beforeProviderCall
  | ended {t : Repository} {p' : DeliveryPackageRecord} (h : Worked s t packageId started)
      (hstate : started.state = .cancelled ∨ started.state = .sending)
      (h' : Worked t s' packageId p') (hstate' : p'.state = .cancelled) :
      Started status packageId s s' started (.settled (.ok p'))

theorem Worked.packageId {packageId : String} (h : Worked s s' packageId p') :
    p'.packageId = packageId := by
  cases h with
  | kept h hget hstate => exact getPackage_packageId hget
  | moved p m hid hmoves hedge => rw [hmoves.packageId, hid]

theorem sendStart_ok {packageId now cancelNow : String}
    (h : sendStart env status packageId now cancelNow s = .ok (started, phase) s') :
    Started status packageId s s' started phase := by
  obtain ⟨p, t, hstart, hrest⟩ := Tx.bind_ok h
  obtain ⟨hworked, hstate⟩ := startSending_ok hstart
  split at hrest
  · next hcancelled =>
      cases hrest
      refine .ended hworked hstate (.kept rfl ?_ hcancelled) hcancelled
      cases hworked with
      | kept h hget _ => rw [h, hget]
      | moved p m hid hmoves hedge =>
          rw [Repository.getPackage, hmoves.packages, ← hid, ← hmoves.packageId]
          exact Table.get?_put_self _ _
  · next hlive =>
      dsimp only at hrest
      split at hrest
      · obtain ⟨p', u, hcancel, hlast⟩ := Tx.bind_ok hrest
        cases hlast
        obtain ⟨hcancelled, hstate'⟩ := cancelPackage_ok hcancel
        rw [hworked.packageId] at hcancelled
        exact .ended hworked hstate hcancelled hstate'
      · next hopen =>
          cases hrest
          rw [Bool.not_eq_true] at hopen
          exact .go hworked (hstate.resolve_left hlive) hopen

theorem sendStart_error {packageId now cancelNow : String} {e : DeliveryError}
    (h : sendStart env status packageId now cancelNow s = .error e s') :
    Restored s s' ∨ ∃ t started, Worked s t packageId started ∧
      (started.state = .cancelled ∨ started.state = .sending) ∧ Restored t s' := by
  obtain hstart | ⟨p, t, hstart, hrest⟩ := Tx.bind_error h
  · exact .inl (startSending_atomic _ _ hstart)
  · obtain ⟨hworked, hstate⟩ := startSending_ok hstart
    split at hrest
    · cases hrest
    · dsimp only at hrest
      split at hrest
      · obtain hcancel | ⟨p', u, -, hlast⟩ := Tx.bind_error hrest
        · exact .inr ⟨t, p, hworked, hstate, cancelPackage_atomic _ _ _ hcancel⟩
        · cases hlast
      · cases hrest

/-! ## Confirm -/

variable (env) in
/-- What a confirm that wrote its package did. -/
structure Freezes (readers : Readers) (command : ConfirmPackageCommand) (exact : ExactApprovals)
    (s s' : Repository) : Prop where
  resolved : resolveExactApprovals readers command = .ok exact
  checked : checkCommand env command = .ok ()
  fresh : s.idempotency.get? (scopedIdempotencyKey command) = none
  existing : checkExisting command (s.getPackage command.packageId) = .ok ()
  revision : ((s.getPackage command.packageId).map (·.revision)).getD 0 =
    command.expectedPackageRevision
  packages : s'.packages = s.packages.put (confirmedPackage command exact)
  idempotency : s'.idempotency = s.idempotency.set (scopedIdempotencyKey command)
    ⟨confirmFingerprint env command, command.packageId⟩
  queued : (confirmedPackage command exact).state = .queued →
    s.getOutboxForPackage command.packageId = none ∧
      s'.outbox = s.outbox.put
        (sendMessage env command (confirmedPackage command exact) (env.ids s.drawn)) ∧
      s.drawn < s'.drawn
  waiting : (confirmedPackage command exact).state ≠ .queued → s'.outbox = s.outbox
  grows : Grows s s'

theorem writePackage_ok {α : Type} {value : DeliveryPackageRecord} {expected : Int}
    {f : DeliveryPackageRecord → DeliveryTx α} {a : α}
    (h : (writePackage value expected >>= f) s = .ok a s') :
    ((s.getPackage value.packageId).map (·.revision)).getD 0 = expected ∧
      f value { s with packages := s.packages.put value } = .ok a s' := by
  obtain ⟨v, t, hwrite, hrest⟩ := Tx.bind_ok h
  obtain ⟨_, u, hget, hwrite⟩ := Tx.bind_ok hwrite
  cases hget
  obtain ⟨hrevision, hwrite⟩ := Tx.throwIf_ok hwrite
  obtain ⟨-, hwrite⟩ := Tx.throwIf_ok hwrite
  cases hwrite
  exact ⟨not_not.mp hrevision, hrest⟩

variable {command : ConfirmPackageCommand}

theorem enqueueSend_ok {next : DeliveryPackageRecord}
    (h : enqueueSend env command next s = .ok () s') :
    s'.packages = s.packages ∧ s'.idempotency = s.idempotency ∧
      (next.state = .queued → s.getOutboxForPackage command.packageId = none ∧
        s'.outbox = s.outbox.put (sendMessage env command next (env.ids s.drawn)) ∧
        s.drawn < s'.drawn) ∧
      (next.state ≠ .queued → s'.outbox = s.outbox) := by
  unfold enqueueSend at h
  split at h
  · next hqueued =>
      obtain ⟨o, t, henqueue, hlast⟩ := Tx.bind_ok h
      obtain ⟨_, u, hget, henqueue⟩ := Tx.bind_ok henqueue
      cases hget
      obtain ⟨hnone, henqueue⟩ := Tx.throwIf_ok henqueue
      obtain ⟨id, v, hdraw, henqueue⟩ := Tx.bind_ok henqueue
      cases hdraw
      cases henqueue
      cases hlast
      rw [Bool.not_eq_true, Option.isSome_eq_false_iff, Option.isNone_iff_eq_none] at hnone
      exact ⟨rfl, rfl, fun _ => ⟨hnone, rfl, Nat.lt_succ_self _⟩, fun hne => absurd hqueued hne⟩
  · next hwaiting =>
      cases h
      exact ⟨rfl, rfl, fun heq => absurd heq hwaiting, fun _ => rfl⟩

theorem Growing.enqueueSend (command : ConfirmPackageCommand) (next : DeliveryPackageRecord) :
    Growing (enqueueSend env command next) := by
  unfold Delivery.enqueueSend
  split
  · refine bind (bind (Growing.getOutboxForPackage _) fun found => ?_) fun _ => pure _
    exact bind (throwIf _ _) fun _ => bind drawId fun _ => bind (Growing.setOutbox _) fun _ =>
      pure _
  · exact pure _

theorem Growing.writePackage (value : DeliveryPackageRecord) (expected : Int) :
    Growing (writePackage value expected) :=
  bind (Growing.getPackage _) fun _ => bind (throwIf _ _) fun _ => bind (throwIf _ _) fun _ =>
    bind (Growing.setPackage _) fun _ => pure _

theorem Growing.freezePackage (command : ConfirmPackageCommand) (exact : ExactApprovals) :
    Growing (freezePackage env command exact) :=
  bind (Growing.getPackage _) fun _ => bind (ofExcept _) fun _ =>
    bind (Growing.writePackage _ _) fun _ => bind (Growing.bindIdempotency _ _ _) fun _ =>
      bind (Growing.enqueueSend _ _) fun _ => bind (Growing.appendEvent _) fun _ => pure _

theorem confirm_atomic (readers : Readers) (command : ConfirmPackageCommand) :
    Atomic (confirm env readers command) := by
  intro s s' e h
  cases hcheck : checkCommand env command with
  | error e' =>
      rw [confirm, hcheck] at h
      cases h
      exact .refl s
  | ok u =>
      rw [confirm, hcheck] at h
      have h : transact _ s = .error e s' := h
      refine transact_restores (.bind (.getIdempotentPackage _ _) fun replay => ?_) h
      cases replay with
      | some value => exact .pure _
      | none => exact .bind (.ofExcept _) fun _ => .freezePackage _ _

theorem getIdempotentPackage_ok {k f : String} {r : Option DeliveryPackageRecord}
    (h : getIdempotentPackage k f s = .ok r s') :
    s' = s ∧ (r = none → s.idempotency.get? k = none) := by
  unfold getIdempotentPackage at h
  split at h
  · next hnone =>
      cases h
      exact ⟨rfl, fun _ => hnone⟩
  · split at h
    · cases h
    · split at h
      · cases h
      · cases h
        exact ⟨rfl, fun hr => nomatch hr⟩

variable {exact : ExactApprovals} {readers : Readers}

theorem freezePackage_ok {result : ConfirmPackageResult}
    (hresolved : resolveExactApprovals readers command = .ok exact)
    (hchecked : checkCommand env command = .ok ())
    (hfresh : s.idempotency.get? (scopedIdempotencyKey command) = none)
    (h : freezePackage env command exact s = .ok result s') :
    Freezes env readers command exact s s' := by
  have hgrows : Grows s (Tx.after (freezePackage env command exact s)) :=
    Growing.freezePackage command exact s
  rw [h] at hgrows
  obtain ⟨_, t₀, hget, hrest⟩ := Tx.bind_ok h
  cases hget
  obtain ⟨_, hexisting, hrest⟩ := Tx.ofExcept_ok hrest
  obtain ⟨hrevision, hrest⟩ := writePackage_ok hrest
  obtain ⟨_, t₁, hbind, hrest⟩ := Tx.bind_ok hrest
  cases hbind
  obtain ⟨_, t₂, hqueue, hrest⟩ := Tx.bind_ok hrest
  obtain ⟨_, t₃, happend, hlast⟩ := Tx.bind_ok hrest
  obtain ⟨id, t₄, hdraw, happend⟩ := Tx.bind_ok happend
  cases hdraw
  cases happend
  cases hlast
  obtain ⟨hpackages, hbound, hqueued, hwaiting⟩ := enqueueSend_ok hqueue
  refine ⟨hresolved, hchecked, hfresh, hexisting, hrevision, hpackages, hbound, ?_, hwaiting,
    hgrows⟩
  intro hstate
  obtain ⟨hnone, houtbox, hdrawn⟩ := hqueued hstate
  exact ⟨hnone, houtbox, Nat.lt_succ_of_lt hdrawn⟩

theorem enqueueOutbox_of {input : String → DeliveryOutboxRecord}
    (h : s.getOutboxForPackage (input "").packageId = none) :
    enqueueOutbox env input s = .ok (input (env.ids s.drawn))
      { s with outbox := s.outbox.put (input (env.ids s.drawn)), drawn := s.drawn + 1 } := by
  have hguard : ¬ (s.getOutboxForPackage (input "").packageId).isSome = true := by
    rw [h]
    decide
  have hread : getOutboxForPackage (input "").packageId s =
      .ok (s.getOutboxForPackage (input "").packageId) s := rfl
  rw [enqueueOutbox, Tx.bind_of hread, Tx.bind_of (Tx.throwIf_of hguard)]
  rfl

variable (env) in
theorem enqueueSend_of (s : Repository) (command : ConfirmPackageCommand)
    (next : DeliveryPackageRecord)
    (h : next.state = .queued → s.getOutboxForPackage command.packageId = none) :
    ∃ s', enqueueSend env command next s = .ok () s' := by
  unfold enqueueSend
  split
  · next hqueued =>
      have hnone : s.getOutboxForPackage (sendMessage env command next "").packageId = none :=
        h hqueued
      rw [Tx.bind_of (enqueueOutbox_of hnone)]
      exact ⟨_, rfl⟩
  · exact ⟨s, rfl⟩

variable (env) in
/-- A confirm that passes its checks and queues no second message writes. -/
theorem freezePackage_of
    (hexisting : checkExisting command (s.getPackage command.packageId) = .ok ())
    (hrevision : ((s.getPackage command.packageId).map (·.revision)).getD 0 =
      command.expectedPackageRevision) (hqueued : confirmState command exact = .queued →
      s.getOutboxForPackage command.packageId = none) :
    ∃ result s', freezePackage env command exact s = .ok result s' := by
  have hread : getPackage command.packageId s = .ok (s.getPackage command.packageId) s := rfl
  have hcheck : (Tx.ofExcept (checkExisting command (s.getPackage command.packageId)) :
      DeliveryTx Unit) s = .ok () s := by
    rw [hexisting]
    rfl
  have hwrite : writePackage (confirmedPackage command exact) command.expectedPackageRevision s =
      .ok (confirmedPackage command exact)
        { s with packages := s.packages.put (confirmedPackage command exact) } := by
    have hread' : getPackage (confirmedPackage command exact).packageId s =
        .ok (s.getPackage command.packageId) s := rfl
    have hnext : (confirmedPackage command exact).revision = command.expectedPackageRevision + 1 :=
      rfl
    rw [writePackage, Tx.bind_of hread', Tx.bind_of (Tx.throwIf_of (not_not.mpr hrevision)),
      Tx.bind_of (Tx.throwIf_of (not_not.mpr hnext))]
    rfl
  rw [freezePackage, Tx.bind_of hread, Tx.bind_of hcheck, Tx.bind_of hwrite]
  rw [Tx.bind_of (x := bindIdempotency _ _ _) rfl]
  obtain ⟨t, ht⟩ := enqueueSend_of env
    { s with
      packages := s.packages.put (confirmedPackage command exact)
      idempotency := s.idempotency.set (scopedIdempotencyKey command)
        ⟨confirmFingerprint env command, command.packageId⟩ }
    command (confirmedPackage command exact) hqueued
  rw [Tx.bind_of ht]
  exact ⟨_, _, rfl⟩

/-- The converse of `confirm_ok`. -/
theorem confirm_of (hchecked : checkCommand env command = .ok ())
    (hfresh : s.idempotency.get? (scopedIdempotencyKey command) = none)
    (hresolved : resolveExactApprovals readers command = .ok exact)
    (hexisting : checkExisting command (s.getPackage command.packageId) = .ok ())
    (hrevision : ((s.getPackage command.packageId).map (·.revision)).getD 0 =
      command.expectedPackageRevision) (hqueued : confirmState command exact = .queued →
      s.getOutboxForPackage command.packageId = none) :
    Freezes env readers command exact s (Tx.after (confirm env readers command s)) := by
  obtain ⟨result, s', hfreeze⟩ := freezePackage_of env hexisting hrevision hqueued
  have hreplay : getIdempotentPackage (scopedIdempotencyKey command)
      (confirmFingerprint env command) s = .ok none s := by
    rw [getIdempotentPackage, hfresh]
  have hexact : (Tx.ofExcept (resolveExactApprovals readers command) :
      DeliveryTx ExactApprovals) s = .ok exact s := by
    rw [hresolved]
    rfl
  have hconfirm : confirm env readers command s = .ok result s' := by
    have hchecks : (Tx.ofExcept (checkCommand env command) : DeliveryTx Unit) s = .ok () s := by
      rw [hchecked]
      rfl
    rw [confirm, Tx.bind_of hchecks, transact, Tx.transact_ok, Tx.bind_of hreplay]
    dsimp only
    rw [Tx.bind_of hexact, hfreeze]
  rw [hconfirm]
  exact freezePackage_ok hresolved hchecked hfresh hfreeze

/-- **Confirm.** A confirm that returns replayed an earlier one, or wrote its
package. -/
theorem confirm_ok {result : ConfirmPackageResult}
    (h : confirm env readers command s = .ok result s') :
    s' = s ∨ ∃ exact, Freezes env readers command exact s s' := by
  obtain ⟨u, hcheck, h⟩ := Tx.ofExcept_ok h
  rw [transact, Tx.transact_ok] at h
  obtain ⟨replay, t, hreplay, hrest⟩ := Tx.bind_ok h
  obtain ⟨rfl, hfresh⟩ := getIdempotentPackage_ok hreplay
  cases replay with
  | some value =>
      cases hrest
      exact .inl rfl
  | none =>
      obtain ⟨exact, hexact, hrest⟩ := Tx.ofExcept_ok hrest
      exact .inr ⟨exact, freezePackage_ok hexact hcheck (hfresh rfl) hrest⟩

end InspectionHub.Delivery
