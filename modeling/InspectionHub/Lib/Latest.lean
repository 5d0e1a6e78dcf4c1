import Mathlib

/-!
# The latest entry under a key

A log whose entries each concern one key, and what it says last of a key.
-/

namespace InspectionHub

universe u v

variable {α : Type u} {κ : Type v} [DecidableEq κ] (key : α → κ)

/-- The last entry of `l` that concerns `k`. -/
def latest (k : κ) (l : List α) : Option α := (l.filter fun a => key a = k).getLast?

variable {key}

@[simp] theorem latest_nil (k : κ) : latest key k [] = none := rfl

theorem latest_snoc (k : κ) (l : List α) (a : α) :
    latest key k (l ++ [a]) = if key a = k then some a else latest key k l := by
  unfold latest
  rw [List.filter_append]
  by_cases h : key a = k
  · rw [if_pos h, List.filter_cons_of_pos (by simpa using h), List.filter_nil,
      List.getLast?_append, List.getLast?_singleton, Option.some_or]
  · rw [if_neg h, List.filter_cons_of_neg (by simpa using h), List.filter_nil, List.append_nil]

variable {l : List α} {k : κ}

theorem latest_eq_none_iff : latest key k l = none ↔ ∀ a ∈ l, key a ≠ k := by
  rw [latest, List.getLast?_eq_none_iff, List.filter_eq_nil_iff]
  exact forall₂_congr fun a _ => not_congr decide_eq_true_iff

theorem latest_mem {a : α} (h : latest key k l = some a) : a ∈ l ∧ key a = k := by
  have hmem := List.mem_filter.mp (List.mem_of_getLast? h)
  exact ⟨hmem.1, of_decide_eq_true hmem.2⟩

/-- What relates each entry of a key to the later ones relates it to the latest. -/
theorem rel_latest {R : α → α → Prop} {v w : α} (h : l.Pairwise fun a b => key a = key b → R a b)
    (hv : v ∈ l) (hk : key v = k) (hw : latest key k l = some w) : v = w ∨ R v w := by
  obtain ⟨before, hsplit⟩ := List.getLast?_eq_some_iff.mp hw
  have hfiltered := h.filter fun a => key a = k
  have hmem : v ∈ l.filter fun a => key a = k := List.mem_filter.mpr ⟨hv, decide_eq_true hk⟩
  rw [hsplit] at hfiltered hmem
  rcases List.mem_append.mp hmem with hbefore | hlast
  · have hrel := (List.pairwise_append.mp hfiltered).2.2 v hbefore w (List.mem_singleton.mpr rfl)
    exact .inr (hrel (hk.trans (latest_mem hw).2.symm))
  · exact .inl (List.mem_singleton.mp hlast)

end InspectionHub
