import Mathlib

/-!
# Numbered collections

Records that carry their own place, counted from one without gaps. A producer
that stamps each new record with the length it finds keeps a collection
numbered, one record or a batch at a time.
-/

namespace InspectionHub

universe u v w

variable {α : Type u} {β : Type v} {γ : Type w}

/-- The numbers the records carry are 1, 2, … in order. -/
def Numbered (number : α → Nat) (l : List α) : Prop := l.map number = List.range' 1 l.length

variable {f : Nat → β → α}

namespace Numbered

variable {number : α → Nat} {l l' : List α}

theorem nil (number : α → Nat) : Numbered number [] := rfl

/-- The numbers go up. -/
theorem pairwise_lt (h : Numbered number l) : l.Pairwise fun a b => number a < number b := by
  refine List.pairwise_map.mp ?_
  rw [h]
  exact List.pairwise_lt_range'

/-- A batch that starts where the collection ends. -/
theorem append (h : Numbered number l) (h' : l'.map number = List.range' (l.length + 1) l'.length) :
    Numbered number (l ++ l') := by
  rw [Numbered, List.map_append, h, h', List.length_append, Nat.add_comm l.length 1,
    List.range'_append_1]

theorem snoc (h : Numbered number l) {a : α} (ha : number a = l.length + 1) :
    Numbered number (l ++ [a]) :=
  h.append (by rw [List.map_singleton, ha]; rfl)

/-- A batch stamped by position. -/
theorem append_mapIdx (h : Numbered number l) (hf : ∀ i b, number (f i b) = l.length + i + 1)
    (batch : List β) : Numbered number (l ++ batch.mapIdx f) := by
  refine h.append ?_
  apply List.ext_getElem
  · simp
  · intro i h₁ h₂
    simp [hf]
    omega

/-- Rewriting records without touching their numbers. -/
theorem map (h : Numbered number l) {f : α → α} (hf : ∀ a ∈ l, number (f a) = number a) :
    Numbered number (l.map f) := by
  rw [Numbered, List.map_map, List.length_map, ← h]
  exact List.map_congr_left hf

end Numbered

/-! ## Batches stamped by position -/

/-- What a stamped batch shows does not depend on the stamps. -/
theorem map_mapIdx_of {g : α → γ} {k : β → γ} (h : ∀ i b, g (f i b) = k b) (batch : List β) :
    (batch.mapIdx f).map g = batch.map k := by
  induction batch generalizing f with
  | nil => rfl
  | cons b batch ih =>
      rw [List.mapIdx_cons, List.map_cons, List.map_cons, h, ih fun i b => h (i + 1) b]

theorem filterMap_mapIdx_of {g : α → Option γ} {k : β → γ} (h : ∀ i b, g (f i b) = some (k b))
    (batch : List β) : (batch.mapIdx f).filterMap g = batch.map k := by
  induction batch generalizing f with
  | nil => rfl
  | cons b batch ih =>
      rw [List.mapIdx_cons, List.filterMap_cons_some (h 0 b), List.map_cons,
        ih fun i b => h (i + 1) b]

theorem filterMap_mapIdx_none {g : α → Option γ} (h : ∀ i b, g (f i b) = none) (batch : List β) :
    (batch.mapIdx f).filterMap g = [] := by
  refine List.filterMap_eq_nil_iff.mpr fun a ha => ?_
  obtain ⟨i, hi, rfl⟩ := List.mem_mapIdx.mp ha
  exact h i _

end InspectionHub
