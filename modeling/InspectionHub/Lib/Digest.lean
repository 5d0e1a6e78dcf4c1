import InspectionHub.Lib.Js

/-!
# Digests by table

A digest for concrete runs: it is the table's on the texts of the table, and
has no collisions when the table has none.
-/

namespace InspectionHub

/-- A digest that is known on the texts of a table. -/
def digestOf (table : List (String × String)) (text : String) : String :=
  (table.lookup text).getD ("sha256:" ++ text)

theorem digestOf_head (text hash : String) (table : List (String × String)) :
    digestOf ((text, hash) :: table) text = hash := by
  rw [digestOf, List.lookup_cons_self, Option.getD_some]

theorem digestOf_tail {text other hash : String} {table : List (String × String)}
    (h : other ≠ text) : digestOf ((text, hash) :: table) other = digestOf table other := by
  simp only [digestOf, List.lookup_cons, beq_false_of_ne h]

/-- It has no collisions when the table has none. -/
theorem digestOf_injective {table : List (String × String)}
    (hdistinct : (table.map fun p => p.2.toList).Nodup)
    (hhex : ∀ p ∈ table, p.2.toList.head? ≠ some 's') : Function.Injective (digestOf table) := by
  have known : ∀ {text hash : String}, table.lookup text = some hash → (text, hash) ∈ table := by
    intro text hash h
    obtain ⟨l₁, l₂, hl, -⟩ := List.lookup_eq_some_iff.mp h
    rw [hl]
    exact List.mem_append_right _ List.mem_cons_self
  have other : ∀ {text hash : String}, (text, hash) ∈ table → ∀ t, hash ≠ "sha256:" ++ t := by
    rintro text hash h t rfl
    exact hhex _ h (by simp)
  intro s t h
  unfold digestOf at h
  cases hs : table.lookup s with
  | some a =>
      cases ht : table.lookup t with
      | some b =>
          rw [hs, ht] at h
          have hab : a = b := h
          have heq := List.inj_on_of_nodup_map hdistinct (known hs) (known ht) (by rw [hab])
          exact congrArg Prod.fst heq
      | none =>
          rw [hs, ht] at h
          exact absurd h (other (known hs) t)
  | none =>
      cases ht : table.lookup t with
      | some b =>
          rw [hs, ht] at h
          exact absurd h.symm (other (known ht) s)
      | none =>
          rw [hs, ht] at h
          exact (String.append_right_inj "sha256:").mp h

/-- The 64 hexadecimal digits of a number below `2 ^ 256`. -/
def hex64 (n : Nat) : String :=
  String.ofList ((List.range 64).map fun i => Nat.digitChar (n / 16 ^ (63 - i) % 16))

theorem isHexDigest_hex64 (n : Nat) : Js.isHexDigest (hex64 n) = true := by
  have digit : ∀ k < 16, Js.isLowerHex (Nat.digitChar k) = true := by decide
  unfold Js.isHexDigest hex64
  rw [String.toList_ofList, List.length_map, List.length_range, List.all_map, decide_eq_true rfl,
    Bool.true_and, List.all_eq_true]
  intro i _
  exact digit _ (Nat.mod_lt _ (by decide))

end InspectionHub
