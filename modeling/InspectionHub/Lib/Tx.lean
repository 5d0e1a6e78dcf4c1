import Mathlib

/-!
# Computations over a store

A call of the program reads and writes a store and may throw; what it wrote
before throwing stays, unless it ran inside `transact`. Results are
`EStateM.Result`s.
-/

namespace InspectionHub

universe u

variable {ε σ α β : Type u}

/-- Reads and writes a store of type `σ`, or throws an `ε`. -/
abbrev Tx (ε σ α : Type u) := EStateM ε σ α

namespace Tx

/-- The store after a call, whatever the call answered. -/
def after : EStateM.Result ε σ α → σ
  | .ok _ s => s
  | .error _ s => s

/-- A computation that does not touch the store. -/
def ofExcept : Except ε α → Tx ε σ α
  | .ok a => fun s => .ok a s
  | .error e => fun s => .error e s

/-- `if (c) throw e;` -/
def throwIf (c : Prop) [Decidable c] (e : ε) : Tx ε σ PUnit := fun s =>
  if c then .error e s else .ok ⟨⟩ s

/-- Run `work`; when it throws, `restore` the store before it. -/
def transact (restore : σ → σ → σ) (work : Tx ε σ α) : Tx ε σ α := fun before =>
  match work before with
  | .ok a s => .ok a s
  | .error e s => .error e (restore before s)

variable {x : Tx ε σ α} {f : α → Tx ε σ β} {s s' : σ} {b : β}

/-- A sequence that returns returned at each step. -/
theorem bind_ok (h : (x >>= f) s = .ok b s') : ∃ a t, x s = .ok a t ∧ f a t = .ok b s' := by
  have hbind : (x >>= f) s = EStateM.bind x f s := rfl
  rw [hbind, EStateM.bind] at h
  split at h
  · next a t hx => exact ⟨a, t, hx, h⟩
  · cases h

variable {e : ε}

/-- A sequence that throws threw in its first step or in the rest. -/
theorem bind_error (h : (x >>= f) s = .error e s') :
    x s = .error e s' ∨ ∃ a t, x s = .ok a t ∧ f a t = .error e s' := by
  have hbind : (x >>= f) s = EStateM.bind x f s := rfl
  rw [hbind, EStateM.bind] at h
  split at h
  · next a t hx => exact .inr ⟨a, t, hx, h⟩
  · next e' t hx =>
      cases h
      exact .inl hx

theorem bind_of {s t : σ} {a : α} (h : x s = .ok a t) (f : α → Tx ε σ β) : (x >>= f) s = f a t := by
  show EStateM.bind x f s = f a t
  rw [EStateM.bind, h]

/-- Nothing follows a step that throws. -/
theorem bind_throws {s t : σ} (h : x s = .error e t) (f : α → Tx ε σ β) :
    (x >>= f) s = .error e t := by
  show EStateM.bind x f s = _
  rw [EStateM.bind, h]

/-- Sequences whose rests agree where the first step returns. -/
theorem bind_congr {f g : α → Tx ε σ β} {s : σ} (h : ∀ a t, x s = .ok a t → f a t = g a t) :
    (x >>= f) s = (x >>= g) s := by
  show EStateM.bind x f s = EStateM.bind x g s
  rw [EStateM.bind, EStateM.bind]
  cases hx : x s with
  | ok a t => exact h a t hx
  | error e t => rfl

theorem ofExcept_ok {r : Except ε α} (h : ((ofExcept r : Tx ε σ α) >>= f) s = .ok b s') :
    ∃ a, r = .ok a ∧ f a s = .ok b s' := by
  cases r with
  | error e => cases h
  | ok a => exact ⟨a, rfl, h⟩

variable {c : Prop}

theorem throwIf_of [Decidable c] {s : σ} (h : ¬ c) : (throwIf c e : Tx ε σ PUnit) s = .ok ⟨⟩ s := if_neg h

theorem throwIf_returned [Decidable c] {u : PUnit} (h : (throwIf c e : Tx ε σ PUnit) s = .ok u s') :
    ¬ c ∧ s = s' := by
  unfold throwIf at h
  split at h
  · cases h
  · next hc =>
      cases h
      exact ⟨hc, rfl⟩

/-- Past a check that did not throw. -/
theorem throwIf_ok [Decidable c] {f : PUnit → Tx ε σ β}
    (h : ((throwIf c e : Tx ε σ PUnit) >>= f) s = .ok b s') : ¬ c ∧ f ⟨⟩ s = .ok b s' := by
  obtain ⟨u, t, hguard, hrest⟩ := bind_ok h
  obtain ⟨hc, rfl⟩ := throwIf_returned hguard
  exact ⟨hc, hrest⟩

/-- What threw was the check or what comes after it. -/
theorem throwIf_error [Decidable c] {e e' : ε} {f : PUnit → Tx ε σ β}
    (h : ((throwIf c e : Tx ε σ PUnit) >>= f) s = .error e' s') :
    (c ∧ e' = e ∧ s' = s) ∨ (¬ c ∧ f ⟨⟩ s = .error e' s') := by
  by_cases hc : c
  · obtain hguard | ⟨u, t, hguard, -⟩ := bind_error h
    · rw [throwIf, if_pos hc] at hguard
      cases hguard
      exact .inl ⟨hc, rfl, rfl⟩
    · rw [throwIf, if_pos hc] at hguard
      cases hguard
  · obtain hguard | ⟨u, t, hguard, hrest⟩ := bind_error h
    · rw [throwIf, if_neg hc] at hguard
      cases hguard
    · rw [throwIf, if_neg hc] at hguard
      cases hguard
      exact .inr ⟨hc, hrest⟩

theorem transact_ok {restore : σ → σ → σ} {work : Tx ε σ α} {a : α} :
    transact restore work s = .ok a s' ↔ work s = .ok a s' := by
  unfold transact
  cases work s with
  | ok b t => exact Iff.rfl
  | error e t =>
      constructor
      · intro h
        cases h
      · intro h
        cases h

theorem transact_error {restore : σ → σ → σ} {work : Tx ε σ α}
    (h : transact restore work s = .error e s') : ∃ t, work s = .error e t ∧ s' = restore s t := by
  unfold transact at h
  cases hw : work s with
  | ok b t =>
      rw [hw] at h
      cases h
  | error e' t =>
      rw [hw] at h
      cases h
      exact ⟨t, rfl, rfl⟩

/-! ## What every call keeps -/

/-- Whether it returns or throws, `x` takes the store along `R`. -/
def Within (R : σ → σ → Prop) (x : Tx ε σ α) : Prop := ∀ s, R s (after (x s))

variable {R : σ → σ → Prop}

theorem Within.pure (hrefl : ∀ s, R s s) (a : α) : Within R (Pure.pure a : Tx ε σ α) := hrefl

theorem Within.throw (hrefl : ∀ s, R s s) (e : ε) : Within R (MonadExcept.throw e : Tx ε σ α) :=
  hrefl

/-- The rest may depend on what the first step found. -/
theorem Within.bind_at (htrans : ∀ {s t u}, R s t → R t u → R s u) {s : σ} (hx : Within R x)
    (hf : ∀ a t, x s = .ok a t → R t (after (f a t))) : R s (after ((x >>= f) s)) := by
  have hs := hx s
  show R s (after (EStateM.bind x f s))
  unfold EStateM.bind
  cases h : x s with
  | ok a t =>
      rw [h] at hs
      exact htrans hs (hf a t h)
  | error e t =>
      rw [h] at hs
      exact hs

theorem Within.bind (htrans : ∀ {s t u}, R s t → R t u → R s u) (hx : Within R x)
    (hf : ∀ a, Within R (f a)) : Within R (x >>= f) := by
  intro s
  refine Within.bind_at (R := R) htrans hx fun a t _ => ?_
  exact hf a t

theorem Within.throwIf (hrefl : ∀ s, R s s) (c : Prop) [Decidable c] (e : ε) :
    Within R (throwIf c e : Tx ε σ PUnit) := by
  intro s
  unfold Tx.throwIf
  split
  · exact hrefl s
  · exact hrefl s

theorem Within.ofExcept (hrefl : ∀ s, R s s) (r : Except ε α) :
    Within R (ofExcept r : Tx ε σ α) := by
  cases r with
  | ok a => exact hrefl
  | error e => exact hrefl

/-! ## What a call that throws keeps -/

/-- When `x` throws, it takes the store along `R`. -/
def OnError (R : σ → σ → Prop) (x : Tx ε σ α) : Prop := ∀ s e s', x s = .error e s' → R s s'

theorem Within.onError (h : Within R x) : OnError R x := by
  intro s e s' hs
  have hx := h s
  rw [hs] at hx
  exact hx

/-- A call that always returns. -/
theorem OnError.total (h : ∀ s, ∃ a s', x s = .ok a s') : OnError R x := by
  intro s e s' hs
  obtain ⟨a, t, ht⟩ := h s
  rw [hs] at ht
  cases ht

/-- Checks first, writes last. -/
theorem OnError.bind (htrans : ∀ {s t u}, R s t → R t u → R s u) (hx : Within R x)
    (hf : ∀ a, OnError R (f a)) : OnError R (x >>= f) := by
  intro s e s' h
  have hs := hx s
  rcases bind_error h with hthrow | ⟨a, t, ht, hrest⟩
  · rw [hthrow] at hs
    exact hs
  · rw [ht] at hs
    exact htrans hs (hf a t e s' hrest)

end Tx

end InspectionHub
