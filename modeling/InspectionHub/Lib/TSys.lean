import Mathlib

/-!
# Labelled transition systems

Runs of a system that takes one labelled step after another, with the two
rules every safety argument here is assembled from:

* `Inductive.invariant` — what holds initially and survives each step holds
  in every reachable state;
* `Later.preserves` — what survives each step, once true, stays true for the
  rest of the run.

Both are stated for runs whose steps all meet a condition `ok` on the state
before the step and its label; `TSys.any` is the condition that excludes
nothing.
-/

namespace InspectionHub

universe u v

/-- A transition system over states `σ` with step labels `α`. -/
structure TSys (σ : Type u) (α : Type v) where
  Init : σ → Prop
  Step : σ → α → σ → Prop

namespace TSys

variable {σ : Type u} {α : Type v}

/-- The step condition that excludes nothing. -/
def any : σ → α → Prop := fun _ _ => True

instance (s : σ) (a : α) : Decidable (any s a) := inferInstanceAs (Decidable True)

/-- The system that starts in `s₀` and computes each successor. -/
def ofFun (s₀ : σ) (next : σ → α → σ) : TSys σ α where
  Init s := s = s₀
  Step s a s' := next s a = s'

variable (T : TSys σ α) (ok : σ → α → Prop)

/-- One step, under some label that meets `ok`. -/
def Next (s s' : σ) : Prop := ∃ a, ok s a ∧ T.Step s a s'

/-- `s'` comes at or after `s` in some run whose steps from `s` on meet `ok`. -/
def Later : σ → σ → Prop := Relation.ReflTransGen (T.Next ok)

/-- The states of the runs whose steps all meet `ok`. -/
def Reachable (s : σ) : Prop := ∃ s₀, T.Init s₀ ∧ T.Later ok s₀ s

/-- `I` holds initially and survives every step that meets `ok`. -/
structure Inductive (I : σ → Prop) : Prop where
  init : ∀ s, T.Init s → I s
  step : ∀ s a s', I s → ok s a → T.Step s a s' → I s'

variable {T ok}

theorem Later.refl (s : σ) : T.Later ok s s := Relation.ReflTransGen.refl

theorem Later.snoc {s t u : σ} {a : α} (h : T.Later ok s t) (hok : ok t a)
    (hstep : T.Step t a u) : T.Later ok s u :=
  Relation.ReflTransGen.tail h ⟨a, hok, hstep⟩

theorem Later.trans {s t u : σ} (h₁ : T.Later ok s t) (h₂ : T.Later ok t u) :
    T.Later ok s u :=
  Relation.ReflTransGen.trans h₁ h₂

theorem Reachable.init {s : σ} (h : T.Init s) : T.Reachable ok s := ⟨s, h, .refl s⟩

variable {s s' : σ}

theorem Reachable.step {a : α} (h : T.Reachable ok s) (hok : ok s a) (hstep : T.Step s a s') :
    T.Reachable ok s' := by
  obtain ⟨s₀, hinit, hlater⟩ := h
  exact ⟨s₀, hinit, hlater.snoc hok hstep⟩

theorem Reachable.later (h : T.Reachable ok s) (hl : T.Later ok s s') : T.Reachable ok s' := by
  obtain ⟨s₀, hinit, hlater⟩ := h
  exact ⟨s₀, hinit, hlater.trans hl⟩

/-- What every step preserves, a whole run preserves. -/
theorem Later.preserves {P : σ → Prop} (hP : ∀ s a s', P s → ok s a → T.Step s a s' → P s')
    (h : T.Later ok s s') (hs : P s) : P s' := by
  induction h with
  | refl => exact hs
  | tail _ hnext ih =>
      obtain ⟨a, hok, hstep⟩ := hnext
      exact hP _ a _ ih hok hstep

/-- The invariant rule. -/
theorem Inductive.invariant {I : σ → Prop} (h : T.Inductive ok I) {s : σ}
    (hs : T.Reachable ok s) : I s := by
  obtain ⟨s₀, hinit, hlater⟩ := hs
  exact hlater.preserves h.step (h.init s₀ hinit)

/-- A property that steps preserve in the states of an invariant stays true
from any reachable state on. -/
theorem Inductive.stable {I P : σ → Prop} (hI : T.Inductive ok I)
    (hP : ∀ s a s', I s → P s → ok s a → T.Step s a s' → P s') (hs : T.Reachable ok s)
    (hl : T.Later ok s s') (h : P s) : P s' := by
  have both : ∀ t a t', I t ∧ P t → ok t a → T.Step t a t' → I t' ∧ P t' := by
    intro t a t' ht hok hstep
    exact ⟨hI.step t a t' ht.1 hok hstep, hP t a t' ht.1 ht.2 hok hstep⟩
  exact (hl.preserves both ⟨hI.invariant hs, h⟩).2

/-! ## Computed successors -/

section OfFun

variable (s₀ : σ) (next : σ → α → σ)

theorem later_foldl (s : σ) (l : List α) :
    (ofFun s₀ next).Later any s (l.foldl next s) := by
  induction l generalizing s with
  | nil => exact .refl s
  | cons a l ih =>
      have first : (ofFun s₀ next).Later any s (next s a) :=
        (Later.refl s).snoc trivial rfl
      exact first.trans (ih (next s a))

theorem reachable_foldl (l : List α) :
    (ofFun s₀ next).Reachable any (l.foldl next s₀) :=
  ⟨s₀, rfl, later_foldl s₀ next s₀ l⟩

end OfFun

/-! ## Runs that stay in a property -/

/-- Where one step from a state of `I` in which `P` holds keeps `P` exactly if
it meets `ok`, a run keeps `P` throughout exactly if all its steps meet `ok`. -/
theorem throughout_iff (next : σ → α → σ) (I P : σ → Prop) (ok : σ → α → Prop)
    (hI : ∀ s a, I s → I (next s a)) (hP : ∀ s a, I s → P s → (P (next s a) ↔ ok s a)) {s : σ}
    (hs : I s) (h : P s) (l : List α) :
    (∀ before after, l = before ++ after → P (before.foldl next s)) ↔
      ∀ before a after, l = before ++ a :: after → ok (before.foldl next s) a := by
  have hinv : ∀ before : List α, I (before.foldl next s) := by
    intro before
    induction before using List.reverseRecOn with
    | nil => exact hs
    | append_singleton before a ih =>
        rw [List.foldl_append]
        exact hI _ a ih
  constructor
  · intro hall before a after hl
    have hbefore := hall before (a :: after) hl
    have hnext := hall (before ++ [a]) after (by rw [hl, List.append_assoc, List.singleton_append])
    rw [List.foldl_append] at hnext
    exact (hP _ a (hinv before) hbefore).mp hnext
  · intro hok before
    induction before using List.reverseRecOn with
    | nil => exact fun _ _ => h
    | append_singleton before a ih =>
        intro after hl
        rw [List.append_assoc, List.singleton_append] at hl
        rw [List.foldl_append]
        exact (hP _ a (hinv before) (ih (a :: after) hl)).mpr (hok before a after hl)

/-- Two conditions on a step that agree in the states of `I`, which steps that
meet them keep, hold along the same runs. -/
theorem along_iff (next : σ → α → σ) (I : σ → Prop) (P Q : σ → α → Prop)
    (hI : ∀ s a, I s → Q s a → I (next s a)) (hPQ : ∀ s a, I s → (P s a ↔ Q s a)) {s : σ}
    (hs : I s) (l : List α) :
    (∀ before a after, l = before ++ a :: after → P (before.foldl next s) a) ↔
      ∀ before a after, l = before ++ a :: after → Q (before.foldl next s) a := by
  induction l generalizing s with
  | nil =>
      have hnil : ∀ (before : List α) a after, [] ≠ before ++ a :: after := by simp
      exact ⟨fun _ before a after h => absurd h (hnil before a after),
        fun _ before a after h => absurd h (hnil before a after)⟩
  | cons b l ih =>
      have hcons : ∀ R : σ → α → Prop,
          (∀ before a after, b :: l = before ++ a :: after → R (before.foldl next s) a) ↔
            R s b ∧ ∀ before a after, l = before ++ a :: after →
              R (before.foldl next (next s b)) a := by
        intro R
        constructor
        · intro h
          refine ⟨h [] b l rfl, fun before a after hl => ?_⟩
          exact h (b :: before) a after (by rw [hl, List.cons_append])
        · rintro ⟨hfirst, hrest⟩ before a after hl
          cases before with
          | nil =>
              cases hl
              exact hfirst
          | cons b' before =>
              cases hl
              exact hrest before a after rfl
      rw [hcons P, hcons Q, hPQ s b hs]
      constructor
      · rintro ⟨hfirst, hrest⟩
        exact ⟨hfirst, (ih (hI s b hs hfirst)).mp hrest⟩
      · rintro ⟨hfirst, hrest⟩
        exact ⟨hfirst, (ih (hI s b hs hfirst)).mpr hrest⟩

end TSys

end InspectionHub
