import InspectionHub.Lib.Tx

/-!
# Pre- and postconditions

Triples over computations on a store that return or throw: from a store in
`P`, what returns ends in `Q` and what throws ends in `E`. There is a rule for
each way of building a computation.
-/

namespace InspectionHub.Tx

universe u

variable {ε ε' σ α β : Type u} {P P' : σ → Prop} {Q Q' : α → σ → Prop} {R : β → σ → Prop}
  {E E' : ε → σ → Prop} {x : Tx ε σ α} {f : α → Tx ε σ β}

/-- From a store in `P`, `x` returns in `Q` or throws in `E`. -/
def Triple (P : σ → Prop) (x : Tx ε σ α) (Q : α → σ → Prop) (E : ε → σ → Prop) : Prop :=
  ∀ s, P s → match x s with
    | .ok a t => Q a t
    | .error e t => E e t

variable {s t : σ}

theorem Triple.ok (h : Triple P x Q E) {a : α} (hs : P s) (hx : x s = .ok a t) : Q a t := by
  have hpost := h s hs
  rw [hx] at hpost
  exact hpost

variable {e : ε}

theorem Triple.error (h : Triple P x Q E) (hs : P s) (hx : x s = .error e t) : E e t := by
  have hpost := h s hs
  rw [hx] at hpost
  exact hpost

theorem Triple.of (hok : ∀ s a t, P s → x s = .ok a t → Q a t)
    (herror : ∀ s e t, P s → x s = .error e t → E e t) : Triple P x Q E := by
  intro s hs
  cases hx : x s with
  | ok a t => exact hok s a t hs hx
  | error e t => exact herror s e t hs hx

/-- The rule of consequence. -/
theorem Triple.weaken (h : Triple P x Q E) (hpre : ∀ s, P' s → P s) (hpost : ∀ a t, Q a t → Q' a t)
    (hthrow : ∀ e t, E e t → E' e t) : Triple P' x Q' E' := by
  refine .of (fun s a t hs hx => ?_) (fun s e t hs hx => ?_)
  · exact hpost a t (h.ok (hpre s hs) hx)
  · exact hthrow e t (h.error (hpre s hs) hx)

theorem Triple.pre (h : Triple P x Q E) (hpre : ∀ s, P' s → P s) : Triple P' x Q E :=
  h.weaken hpre (fun _ _ => id) (fun _ _ => id)

theorem Triple.post (h : Triple P x Q E) (hpost : ∀ a t, Q a t → Q' a t) : Triple P x Q' E :=
  h.weaken (fun _ => id) hpost (fun _ _ => id)

/-- Facts that do not depend on the store. -/
theorem Triple.assuming {p : Prop} (h : p → Triple P x Q E) : Triple (fun s => p ∧ P s) x Q E :=
  fun s hs => h hs.1 s hs.2

theorem Triple.pure (a : α) : Triple (Q a) (Pure.pure a : Tx ε σ α) Q E := fun _ hs => hs

theorem Triple.returns {a : α} (h : ∀ s, P s → Q a s) : Triple P (Pure.pure a : Tx ε σ α) Q E := h

theorem Triple.throws (h : ∀ s, P s → E e s) : Triple P (MonadExcept.throw e : Tx ε σ α) Q E := h

/-- In sequence. -/
theorem Triple.bind (hx : Triple P x Q E) (hf : ∀ a, Triple (Q a) (f a) R E) :
    Triple P (x >>= f) R E := by
  refine .of (fun s b t hs h => ?_) (fun s e t hs h => ?_)
  · obtain ⟨a, u, hxs, hfs⟩ := bind_ok h
    exact (hf a).ok (hx.ok hs hxs) hfs
  · rcases bind_error h with hxs | ⟨a, u, hxs, hfs⟩
    · exact hx.error hs hxs
    · exact (hf a).error (hx.ok hs hxs) hfs

/-- By cases on a test. -/
theorem Triple.ite {c : Prop} [Decidable c] {y : Tx ε σ α} (hx : c → Triple P x Q E)
    (hy : ¬ c → Triple P y Q E) : Triple P (if c then x else y) Q E := by
  split
  · next hc => exact hx hc
  · next hc => exact hy hc

theorem Triple.throwIf {c : Prop} [Decidable c] (h : ∀ s, P s → c → E e s) :
    Triple P (throwIf c e : Tx ε σ PUnit) (fun _ s => P s ∧ ¬ c) E := by
  intro s hs
  unfold Tx.throwIf
  by_cases hc : c
  · rw [if_pos hc]
    exact h s hs hc
  · rw [if_neg hc]
    exact ⟨hs, hc⟩

theorem Triple.ofExcept {r : Except ε α} (hok : ∀ s a, P s → r = .ok a → Q a s)
    (herror : ∀ s e, P s → r = .error e → E e s) : Triple P (Tx.ofExcept r) Q E := by
  intro s hs
  cases r with
  | ok a => exact hok s a hs rfl
  | error e => exact herror s e hs rfl

/-! ## Reading and writing the store -/

/-- A computation that begins by reading the store. -/
theorem Triple.get {f : σ → Tx ε σ α} (h : ∀ s, P s → Triple (fun t => t = s) (f s) Q E) :
    Triple P (MonadState.get >>= f) Q E := fun s hs => h s hs s rfl

/-- A computation that begins by replacing the store. -/
theorem Triple.set {s : σ} {y : PUnit → Tx ε σ α} (h : Triple (fun t => t = s) (y ⟨⟩) Q E) :
    Triple P (MonadStateOf.set s >>= y) Q E := fun _ _ => h s rfl

/-- A computation that begins by updating the store. -/
theorem Triple.modify {g : σ → σ} {y : PUnit → Tx ε σ α}
    (h : Triple (fun t => ∃ s, P s ∧ t = g s) (y ⟨⟩) Q E) :
    Triple P ((MonadState.modifyGet fun s => (⟨⟩, g s)) >>= y) Q E :=
  fun s hs => h (g s) ⟨s, hs, rfl⟩

/-! ## Catching -/

/-- `try { x } catch (e) { handler(e) }`; what `x` wrote before it threw
stays. -/
def catching (x : Tx ε σ α) (handler : ε → Tx ε' σ α) : Tx ε' σ α := fun s =>
  match x s with
  | .ok a t => .ok a t
  | .error e t => handler e t

variable {handler : ε → Tx ε' σ α}

theorem Triple.catching {F : ε' → σ → Prop} (hx : Triple P x Q E)
    (hhandler : ∀ e, Triple (E e) (handler e) Q F) : Triple P (catching x handler) Q F := by
  intro s hs
  unfold Tx.catching
  cases h : x s with
  | ok a t => exact hx.ok hs h
  | error e t => exact hhandler e t (hx.error hs h)

/-- Past a step that returned. -/
theorem catching_of {x : Tx ε σ β} {f : β → Tx ε σ α} {b : β} (h : x s = .ok b t) :
    catching (x >>= f) handler s = catching (f b) handler t := by
  rw [catching, Tx.bind_of h, catching]

/-- A step that throws goes to the handler. -/
theorem catching_throws {x : Tx ε σ β} {f : β → Tx ε σ α} (h : x s = .error e t) :
    catching (x >>= f) handler s = handler e t := by
  rw [catching, Tx.bind_throws h]

/-- The error rewritten on its way out. -/
def mapError (g : ε → ε') (x : Tx ε σ α) : Tx ε' σ α := fun s =>
  match x s with
  | .ok a t => .ok a t
  | .error e t => .error (g e) t

theorem Triple.mapError {g : ε → ε'} {F : ε' → σ → Prop}
    (hx : Triple P x Q fun e s => F (g e) s) : Triple P (mapError g x) Q F := by
  intro s hs
  unfold Tx.mapError
  cases h : x s with
  | ok a t => exact hx.ok hs h
  | error e t => exact hx.error hs h

end InspectionHub.Tx
