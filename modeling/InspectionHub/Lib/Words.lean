import Mathlib

/-!
# Words and slices

A list cut at its runs of separators, and a list cut into slices of one
length. Neither drops an element that is not a separator, nor moves one.
-/

namespace InspectionHub.Words

variable {α : Type} (p : α → Bool)

/-- Put an element in front of the first word. -/
def cons (a : α) : List (List α) → List (List α)
  | [] => [[a]]
  | w :: ws => (a :: w) :: ws

/-- What stands between the runs of separators; a run at an end leaves an empty word there. -/
def split : List α → List (List α)
  | [] => [[]]
  | a :: l => if p a then (if l.head?.any p then split l else [] :: split l) else cons a (split l)

/-- Slices of `n` elements, the last one shorter; every step of the loop uses one of `fuel`. -/
def slicesFrom (n : Nat) : Nat → List α → List (List α)
  | 0, _ => []
  | fuel + 1, l => if l.isEmpty then [] else l.take n :: slicesFrom n fuel (l.drop n)

def slices (n : Nat) (l : List α) : List (List α) := slicesFrom n l.length l

variable {p}

/-! ## Words -/

theorem flatten_cons (a : α) (ws : List (List α)) : (cons a ws).flatten = a :: ws.flatten := by
  cases ws <;> rfl

/-- The words hold what is no separator, in order. -/
theorem flatten_split (l : List α) : (split p l).flatten = l.filter fun a => !p a := by
  induction l with
  | nil => rfl
  | cons a l ih =>
      unfold split
      by_cases ha : p a = true
      · rw [if_pos ha, List.filter_cons_of_neg (by rw [ha]; decide)]
        split
        · exact ih
        · rw [List.flatten_cons, ih, List.nil_append]
      · rw [if_neg ha, flatten_cons, ih, List.filter_cons_of_pos (by simpa using ha)]

/-- No word holds a separator. -/
theorem not_separator {l w : List α} (hw : w ∈ split p l) : ∀ a ∈ w, p a = false := by
  intro a ha
  have hmem : a ∈ (split p l).flatten := List.mem_flatten.mpr ⟨w, hw, ha⟩
  rw [flatten_split] at hmem
  simpa using (List.mem_filter.mp hmem).2

/-! ## Slices -/

theorem flatten_slicesFrom {n : Nat} (hn : 0 < n) (fuel : Nat) {l : List α}
    (h : l.length ≤ fuel) : (slicesFrom n fuel l).flatten = l := by
  induction fuel generalizing l with
  | zero =>
      rw [List.length_eq_zero_iff.mp (Nat.le_zero.mp h)]
      rfl
  | succ fuel ih =>
      unfold slicesFrom
      cases l with
      | nil => rfl
      | cons a l =>
          have hrest : ((a :: l).drop n).length ≤ fuel := by
            rw [List.length_drop]
            omega
          rw [if_neg (by simp), List.flatten_cons, ih hrest, List.take_append_drop]

/-- The slices are the list. -/
theorem flatten_slices {n : Nat} (hn : 0 < n) (l : List α) : (slices n l).flatten = l :=
  flatten_slicesFrom hn l.length (Nat.le_refl _)

theorem length_slicesFrom (n fuel : Nat) (l : List α) :
    ∀ s ∈ slicesFrom n fuel l, s.length ≤ n := by
  induction fuel generalizing l with
  | zero =>
      intro s hs
      cases hs
  | succ fuel ih =>
      intro s hs
      unfold slicesFrom at hs
      split at hs
      · cases hs
      · rcases List.mem_cons.mp hs with rfl | hs
        · exact List.length_take_le n l
        · exact ih _ s hs

/-- No slice is longer than `n`. -/
theorem length_slices (n : Nat) (l : List α) : ∀ s ∈ slices n l, s.length ≤ n :=
  length_slicesFrom n l.length l

example : split (· == ' ') " two  words ".toList = ["".toList, "two".toList, "words".toList,
    "".toList] := by decide

/-! ## A separator that stands once -/

/-- A list splits in one way only at an element that is not elsewhere in it. -/
theorem append_cons_inj {c : α} {a b a' b' : List α} (ha : c ∉ a) (hb : c ∉ b)
    (h : a ++ c :: b = a' ++ c :: b') : a = a' ∧ b = b' := by
  rcases List.append_eq_append_iff.mp h with ⟨more, rfl, htail⟩ | ⟨more, rfl, htail⟩
  · cases more with
    | nil => exact ⟨(List.append_nil a).symm, (List.cons.inj htail).2⟩
    | cons d more =>
        refine absurd ?_ hb
        rw [(List.cons.inj htail).2]
        exact List.mem_append_right _ List.mem_cons_self
  · cases more with
    | nil => exact ⟨List.append_nil a', (List.cons.inj htail).2.symm⟩
    | cons d more =>
        refine absurd ?_ ha
        rw [← (List.cons.inj htail).1]
        exact List.mem_append_right _ List.mem_cons_self

end InspectionHub.Words
