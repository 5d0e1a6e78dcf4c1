import InspectionHub.Delivery.Frozen

/-!
# Messages

A package has one message at most, and once it has one it keeps it: the
repository updates messages in place and adds one only under an identifier
never drawn before. `Kept` is what every transaction keeps of the repository.
-/

namespace InspectionHub.Delivery

variable {env : Env} {r r' : Repository}

namespace Repository

def HasMessage (r : Repository) (packageId : String) : Prop :=
  (r.getOutboxForPackage packageId).isSome = true

end Repository

/-! ## Looking messages up -/

variable {packageId : String}

theorem outbox_get?_of_found {o : DeliveryOutboxRecord}
    (h : r.getOutboxForPackage packageId = some o) :
    r.outbox.get? o.outboxId = some o ∧ o.packageId = packageId := by
  refine ⟨(Table.mem_values_iff r.outbox o).mp (List.mem_of_find?_eq_some h), ?_⟩
  have hfound := List.find?_some h
  rwa [decide_eq_true_eq] at hfound

/-- A message updated in place is found where it was. -/
theorem getOutboxForPackage_update {o o' : DeliveryOutboxRecord}
    (h : r.getOutboxForPackage packageId = some o) (hid : o'.outboxId = o.outboxId)
    (hpackage : o'.packageId = o.packageId) (hr : r'.outbox = r.outbox.put o') (q : String) :
    r'.getOutboxForPackage q = if q = packageId then some o' else r.getOutboxForPackage q := by
  obtain ⟨hget, hown⟩ := outbox_get?_of_found h
  have hget' : r.outbox.get? o'.outboxId = some o := by rw [hid, hget]
  have hsame : decide (o'.packageId = q) = decide (o.packageId = q) := by rw [hpackage]
  rw [Repository.getOutboxForPackage, hr, Table.find?_put_same hget' hsame]
  by_cases hq : q = packageId
  · rw [if_pos hq, hq]
    show (r.getOutboxForPackage packageId).map _ = _
    rw [h, Option.map_some, if_pos hid.symm]
  · rw [if_neg hq]
    show (r.getOutboxForPackage q).map _ = _
    cases hx : r.getOutboxForPackage q with
    | none => rfl
    | some x =>
        obtain ⟨hgetx, hownx⟩ := outbox_get?_of_found hx
        have hne : x.outboxId ≠ o'.outboxId := by
          intro heq
          rw [heq, hget'] at hgetx
          have hxo := Option.some.inj hgetx
          exact hq (hownx.symm.trans (hxo ▸ hown))
        rw [Option.map_some, if_neg hne]

/-- A new message is found under its package, after the others. -/
theorem getOutboxForPackage_new {o : DeliveryOutboxRecord} (h : r.outbox.get? o.outboxId = none)
    (hr : r'.outbox = r.outbox.put o) (q : String) :
    r'.getOutboxForPackage q =
      (r.getOutboxForPackage q).or (if o.packageId = q then some o else none) := by
  rw [Repository.getOutboxForPackage, hr, Table.find?_put_new h]
  congr 1
  by_cases hq : o.packageId = q
  · rw [if_pos hq, if_pos (decide_eq_true hq)]
  · rw [if_neg hq, if_neg (by simpa using hq)]

variable {m : Option OutboxState}

theorem MessageSet.hasMessage (h : MessageSet r r' packageId m) (q : String) :
    r'.HasMessage q ↔ r.HasMessage q := by
  unfold Repository.HasMessage
  cases m with
  | none =>
      have houtbox : r'.outbox = r.outbox := h
      rw [Repository.getOutboxForPackage, houtbox]
      rfl
  | some state =>
      obtain ⟨o, now, hget, hr⟩ := h
      rw [getOutboxForPackage_update hget (by rfl) (by rfl) hr]
      by_cases hq : q = packageId
      · rw [if_pos hq, hq, hget]
        simp
      · rw [if_neg hq]

/-- Whose state is set has a message. -/
theorem MessageSet.found {state : OutboxState} (h : MessageSet r r' packageId (some state)) :
    r.HasMessage packageId := by
  obtain ⟨o, now, hget, -⟩ := h
  rw [Repository.HasMessage, hget]
  rfl

/-! ## What every transaction keeps -/

/-- The package was handed to the worker and is not cancelled. -/
def DeliveryState.committed (state : DeliveryState) : Bool :=
  !state.waits && state ≠ .cancelled

/-- Messages carry drawn identifiers; a committed package, and one that needs
intervention, has a message; one that needs intervention is not to be sent. -/
structure Kept (env : Env) (r : Repository) : Prop where
  known : ∀ k o, r.outbox.get? k = some o → ∃ n < r.drawn, k = env.ids n
  messages : ∀ k p, r.getPackage k = some p →
    p.state.committed = true ∨ p.interventionRequired = true → r.HasMessage k
  flags : ∀ k p, r.getPackage k = some p → p.interventionRequired = true →
    p.state ≠ .queued ∧ p.state ≠ .sending

theorem Kept.initial : Kept env Repository.initial := by
  refine ⟨fun k o h => ?_, fun k p h => ?_, fun k p h => ?_⟩
  · cases h
  · cases h
  · cases h

theorem Kept.restored (h : Kept env r) (hr : Restored r r') : Kept env r' := by
  refine ⟨fun k o ho => ?_, fun k p hp hc => ?_, fun k p hp => ?_⟩
  · rw [hr.outbox] at ho
    obtain ⟨n, hn, hk⟩ := h.known k o ho
    exact ⟨n, Nat.lt_of_lt_of_le hn hr.drawn, hk⟩
  · rw [hr.getPackage] at hp
    have := h.messages k p hp hc
    rwa [Repository.HasMessage, Repository.getOutboxForPackage, hr.outbox]
  · rw [hr.getPackage] at hp
    exact h.flags k p hp

variable {p p' : DeliveryPackageRecord}

/-- Along an edge a package that must have a message had one, or gets its
state set. -/
theorem Edge.message (h : Edge p p' m)
    (hp' : p'.state.committed = true ∨ p'.interventionRequired = true) :
    (p.state.committed = true ∨ p.interventionRequired = true) ∨ ∃ state, m = some state := by
  cases h with
  | claims h _ _ => exact .inl (.inl (by rw [h]; rfl))
  | cancels _ h' hflag _ _ =>
      rcases hp' with hp' | hp'
      · rw [h'] at hp'
        cases hp'
      · exact .inl (.inr (hflag ▸ hp'))
  | requeues h _ _ _ => exact .inl (.inl (by rw [h]; rfl))
  | sends _ _ _ => exact .inr ⟨_, rfl⟩
  | pends h _ => exact .inl (.inl (by rw [h]; rfl))
  | fails h _ => exact .inl (.inl (by rw [h]; rfl))

theorem Edge.flag (h : Edge p p' m)
    (hp : p.interventionRequired = true → p.state ≠ .queued ∧ p.state ≠ .sending)
    (hflag' : p'.interventionRequired = true) : p'.state ≠ .queued ∧ p'.state ≠ .sending := by
  cases h with
  | claims h _ hflag => exact absurd h (hp (hflag ▸ hflag')).1
  | cancels _ h' _ _ _ => rw [h']; decide
  | requeues _ _ _ hno => rw [hno] at hflag'; cases hflag'
  | sends _ h' _ => rw [h']; decide
  | pends _ h' => rcases h' with h' | h' <;> rw [h'] <;> decide
  | fails _ h' => rw [h']; decide

theorem Kept.moves (h : Kept env r) (hm : Moves r r' p p' m) (he : Edge p p' m) : Kept env r' := by
  refine ⟨fun k o ho => ?_, fun k q hq hc => ?_, fun k q hq hf => ?_⟩
  · have hgrow : r.drawn ≤ r'.drawn := hm.grows.1
    have hold : ∃ o₀, r.outbox.get? k = some o₀ := by
      cases m with
      | none =>
          have houtbox : r'.outbox = r.outbox := hm.outbox
          exact ⟨o, houtbox ▸ ho⟩
      | some state =>
          obtain ⟨o₁, now, hget, hr⟩ := hm.outbox
          rw [hr, Table.get?_put] at ho
          split at ho
          · next hk =>
              rw [hk]
              exact ⟨o₁, (outbox_get?_of_found hget).1⟩
          · exact ⟨o, ho⟩
    obtain ⟨o₀, ho₀⟩ := hold
    obtain ⟨n, hn, hk⟩ := h.known k o₀ ho₀
    exact ⟨n, Nat.lt_of_lt_of_le hn hgrow, hk⟩
  · rw [hm.outbox.hasMessage]
    rw [getPackage_moves hm] at hq
    by_cases hk : k = p.packageId
    · rw [if_pos hk] at hq
      obtain rfl := Option.some.inj hq
      rw [hk]
      rcases he.message hc with hp | ⟨state, rfl⟩
      · exact h.messages _ p hm.before hp
      · exact hm.outbox.found
    · rw [if_neg hk] at hq
      exact h.messages k q hq hc
  · rw [getPackage_moves hm] at hq
    by_cases hk : k = p.packageId
    · rw [if_pos hk] at hq
      obtain rfl := Option.some.inj hq
      exact he.flag (h.flags _ p hm.before) hf
    · rw [if_neg hk] at hq
      exact h.flags k q hq hf

theorem Kept.worked {q : DeliveryPackageRecord} (h : Kept env r) (hw : Worked r r' packageId q) :
    Kept env r' := by
  cases hw with
  | kept heq _ _ => exact heq ▸ h
  | moved p m _ hmoves hedge => exact h.moves hmoves hedge

/-- An identifier about to be drawn is not in use. -/
theorem Kept.fresh (hids : Function.Injective env.ids) (h : Kept env r) :
    r.outbox.get? (env.ids r.drawn) = none := by
  by_contra hsome
  obtain ⟨o, ho⟩ := Option.ne_none_iff_exists'.mp hsome
  obtain ⟨n, hn, hk⟩ := h.known _ o ho
  have := hids hk
  omega

/-- What a confirm does to messages: none is lost, and a queued package has
one. -/
theorem Freezes.hasMessage {readers : Readers} {command : ConfirmPackageCommand}
    {exact : ExactApprovals} (hids : Function.Injective env.ids) (h : Kept env r)
    (hf : Freezes env readers command exact r r') (q : String) :
    r'.HasMessage q ↔ r.HasMessage q ∨
      ((confirmedPackage command exact).state = .queued ∧ q = command.packageId) := by
  unfold Repository.HasMessage
  by_cases hqueued : (confirmedPackage command exact).state = .queued
  · obtain ⟨-, hr, -⟩ := hf.queued hqueued
    rw [getOutboxForPackage_new (h.fresh hids) hr]
    by_cases hq : command.packageId = q
    · have hown : (sendMessage env command (confirmedPackage command exact)
          (env.ids r.drawn)).packageId = q := hq
      rw [if_pos hown, Option.isSome_or]
      simp [hqueued, hq]
    · have hown : (sendMessage env command (confirmedPackage command exact)
          (env.ids r.drawn)).packageId ≠ q := hq
      rw [if_neg hown, Option.or_none]
      simp [Ne.symm hq]
  · rw [Repository.getOutboxForPackage, hf.waiting hqueued]
    simp [hqueued, Repository.getOutboxForPackage]

theorem confirmedPackage_waits (command : ConfirmPackageCommand) (exact : ExactApprovals)
    (h : (confirmedPackage command exact).state ≠ .queued) :
    (confirmedPackage command exact).state.waits = true := by
  have hstate : (confirmedPackage command exact).state = confirmState command exact := rfl
  rw [hstate] at h ⊢
  unfold confirmState at h ⊢
  split
  · rfl
  · next hblockers =>
      rw [if_neg hblockers] at h
      split
      · next hsendable =>
          rw [if_pos hsendable] at h
          exact absurd rfl h
      · rfl

theorem Kept.freezes (hids : Function.Injective env.ids) {readers : Readers}
    {command : ConfirmPackageCommand} {exact : ExactApprovals} (h : Kept env r)
    (hf : Freezes env readers command exact r r') : Kept env r' := by
  have hget : ∀ k, r'.getPackage k =
      if k = command.packageId then some (confirmedPackage command exact) else r.getPackage k := by
    intro k
    rw [Repository.getPackage, hf.packages]
    exact Table.get?_put _ _ _
  refine ⟨fun k o ho => ?_, fun k q hq hc => ?_, fun k q hq hflag => ?_⟩
  · by_cases hqueued : (confirmedPackage command exact).state = .queued
    · obtain ⟨-, hr, hdrawn⟩ := hf.queued hqueued
      rw [hr, Table.get?_put] at ho
      split at ho
      · next hk => exact ⟨r.drawn, hdrawn, hk⟩
      · obtain ⟨n, hn, hk⟩ := h.known k o ho
        exact ⟨n, Nat.lt_trans hn hdrawn, hk⟩
    · rw [hf.waiting hqueued] at ho
      obtain ⟨n, hn, hk⟩ := h.known k o ho
      exact ⟨n, Nat.lt_of_lt_of_le hn hf.grows.1, hk⟩
  · rw [hf.hasMessage hids h]
    rw [hget] at hq
    by_cases hk : k = command.packageId
    · rw [if_pos hk] at hq
      obtain rfl := Option.some.inj hq
      by_cases hqueued : (confirmedPackage command exact).state = .queued
      · exact .inr ⟨hqueued, hk⟩
      · have hwaits := confirmedPackage_waits command exact hqueued
        rcases hc with hc | hc
        · rw [DeliveryState.committed, hwaits] at hc
          cases hc
        · cases hc
    · rw [if_neg hk] at hq
      exact .inl (h.messages k q hq hc)
  · rw [hget] at hq
    by_cases hk : k = command.packageId
    · rw [if_pos hk] at hq
      obtain rfl := Option.some.inj hq
      cases hflag
    · rw [if_neg hk] at hq
      exact h.flags k q hq hflag

end InspectionHub.Delivery
