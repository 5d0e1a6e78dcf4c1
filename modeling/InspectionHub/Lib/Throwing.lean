import Mathlib

/-!
# Computations that may throw

Peeling apart a computation in `Except` that returned.
-/

namespace InspectionHub.Throwing

universe u v

variable {α β : Type u} {ε : Type v}

theorem bind_ok {x : Except ε α} {f : α → Except ε β} {b : β} (h : (x >>= f) = .ok b) :
    ∃ a, x = .ok a ∧ f a = .ok b := by
  cases x with
  | error e => cases h
  | ok a => exact ⟨a, rfl, h⟩

/-- Past a step that returned. -/
theorem bind_of {x : Except ε α} {a : α} (h : x = .ok a) (f : α → Except ε β) :
    (x >>= f) = f a := by
  rw [h]
  rfl

/-- `if (c) throw e` -/
def throwIf (c : Prop) [Decidable c] (e : ε) : Except ε Unit := if c then .error e else .ok ()

theorem throwIf_ok {c : Prop} [Decidable c] {e : ε} {u : Unit} (h : throwIf c e = .ok u) :
    ¬ c := by
  unfold throwIf at h
  split at h
  · cases h
  · assumption

theorem throwIf_of {c : Prop} [Decidable c] (h : ¬ c) (e : ε) : throwIf c e = .ok () := if_neg h

end InspectionHub.Throwing
