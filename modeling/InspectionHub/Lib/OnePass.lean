import Mathlib

/-!
# A closure computed in one pass

Some elements wait, an element may need others, and some have ended. `Doomed`
is the closure: what waits for something that ended or is doomed itself. A
single pass over a list marks what waits for something that ended or is marked
when the element is visited. It catches the chains of needs that run back along
the list (`mem_pass_iff`), so it computes the closure exactly where every
doomed element has such a chain (`settled_iff`).
-/

namespace InspectionHub.OnePass

universe u

variable {κ : Type u} {waiting ended : κ → Prop} {needs : κ → κ → Prop}

variable (waiting ended needs) in
/-- What waits, through any chain of needs, for something that ended. -/
inductive Doomed : κ → Prop
  | direct {k d : κ} : waiting k → needs k d → ended d → Doomed k
  | chain {k d : κ} : waiting k → needs k d → Doomed d → Doomed k

variable (waiting ended needs) in
/-- What waits for something that ended through a chain in which everything needed stands
before what needs it. -/
inductive Caught (order : List κ) : κ → Prop
  | direct {k d : κ} : k ∈ order → waiting k → needs k d → ended d → Caught order k
  | chain {k d : κ} :
      [d, k].Sublist order → waiting k → needs k d → Caught order d → Caught order k

variable (waiting ended needs) in
/-- Visit one element. -/
def mark (marked : Set κ) (k : κ) : Set κ :=
  {k' | k' ∈ marked ∨ k' = k ∧ waiting k ∧ ∃ d, needs k d ∧ (ended d ∨ d ∈ marked)}

variable {order : List κ} {k : κ}

theorem Caught.doomed (h : Caught waiting ended needs order k) : Doomed waiting ended needs k := by
  induction h with
  | direct _ hwaiting hneeds hended => exact .direct hwaiting hneeds hended
  | chain _ hwaiting hneeds _ ih => exact .chain hwaiting hneeds ih

theorem Caught.append (h : Caught waiting ended needs order k) (rest : List κ) :
    Caught waiting ended needs (order ++ rest) k := by
  induction h with
  | direct hmem hwaiting hneeds hended =>
      exact .direct (List.mem_append_left rest hmem) hwaiting hneeds hended
  | chain hbefore hwaiting hneeds _ ih =>
      exact .chain (hbefore.trans (List.sublist_append_left order rest)) hwaiting hneeds ih

/-- Where something is doomed, something waits for what ended. -/
theorem Doomed.blocked (h : Doomed waiting ended needs k) :
    ∃ k d, waiting k ∧ needs k d ∧ ended d := by
  induction h with
  | direct hwaiting hneeds hended => exact ⟨_, _, hwaiting, hneeds, hended⟩
  | chain _ _ _ ih => exact ih

/-- The last element of an order is caught by what is caught before it. -/
theorem caught_snoc (hnodup : (order ++ [k]).Nodup) (k' : κ) :
    Caught waiting ended needs (order ++ [k]) k' ↔
      Caught waiting ended needs order k' ∨ k' = k ∧ waiting k ∧
        ∃ d, needs k d ∧ (ended d ∨ Caught waiting ended needs order d) := by
  have hlast : k ∉ order := fun h => (List.nodup_append.mp hnodup).2.2 k h k (by simp) rfl
  constructor
  · intro h
    induction h with
    | direct hmem hwaiting hneeds hended =>
        rcases List.mem_append.mp hmem with hmem | hmem
        · exact .inl (.direct hmem hwaiting hneeds hended)
        · obtain rfl := List.mem_singleton.mp hmem
          exact .inr ⟨rfl, hwaiting, _, hneeds, .inl hended⟩
    | @chain k' d hbefore hwaiting hneeds _ ih =>
        obtain ⟨front, back, hsplit, hfront, hback⟩ := List.sublist_append_iff.mp hbefore
        -- what is needed stands in `order`, so it is not the last element
        have hmem : d ∈ order := by
          cases front with
          | nil =>
              rw [List.nil_append] at hsplit
              have hlength := hback.length_le
              rw [← hsplit] at hlength
              simp at hlength
          | cons a front =>
              rw [List.cons_append, List.cons.injEq] at hsplit
              rw [hsplit.1]
              exact hfront.subset List.mem_cons_self
        have hd : Caught waiting ended needs order d := by
          rcases ih with hd | ⟨rfl, -⟩
          · exact hd
          · exact absurd hmem hlast
        by_cases hk : k' = k
        · subst hk
          exact .inr ⟨rfl, hwaiting, d, hneeds, .inr hd⟩
        · refine .inl (.chain ?_ hwaiting hneeds hd)
          cases back with
          | nil =>
              rw [List.append_nil] at hsplit
              rwa [hsplit]
          | cons b back =>
              -- the last of the two would be the last of the order
              have hb : k' ∈ b :: back := by
                have hlastOf : [d, k'].getLast? = (front ++ b :: back).getLast? := by rw [hsplit]
                rw [List.getLast?_append_of_ne_nil _ (List.cons_ne_nil b back)] at hlastOf
                exact List.mem_of_getLast? (hlastOf.symm.trans rfl)
              exact absurd (List.mem_singleton.mp (hback.subset hb)) hk
  · rintro (h | ⟨rfl, hwaiting, d, hneeds, hended | hd⟩)
    · exact h.append [k]
    · exact .direct (by simp) hwaiting hneeds hended
    · refine .chain ?_ hwaiting hneeds (hd.append [k'])
      have hmem : d ∈ order := by
        cases hd with
        | direct hmem _ _ _ => exact hmem
        | chain hbefore _ _ _ => exact hbefore.subset (by simp)
      exact (List.singleton_sublist.mpr hmem).append (List.Sublist.refl [k'])

/-- **One pass.** The elements the pass marks are those a chain back along the list catches. -/
theorem mem_pass_iff (hnodup : order.Nodup) (k : κ) :
    k ∈ order.foldl (mark waiting ended needs) ∅ ↔ Caught waiting ended needs order k := by
  induction order using List.reverseRecOn generalizing k with
  | nil =>
      refine iff_of_false (Set.notMem_empty k) ?_
      intro h
      cases h with
      | direct hmem _ _ _ => cases hmem
      | chain hbefore _ _ _ => cases hbefore
  | append_singleton order last ih =>
      have hfront := (List.nodup_append.mp hnodup).1
      rw [List.foldl_append, caught_snoc hnodup]
      show k ∈ _ ∨ k = last ∧ waiting last ∧ (∃ d, needs last d ∧ (ended d ∨ d ∈ _)) ↔ _
      simp only [ih hfront]

/-- A pass leaves nothing waiting for what ended or was marked exactly when it caught
everything doomed. -/
theorem settled_iff {caught : κ → Prop}
    (hcaught : ∀ k, caught k → Doomed waiting ended needs k) :
    (∀ k d, waiting k → ¬ caught k → needs k d → ¬ (ended d ∨ caught d)) ↔
      ∀ k, Doomed waiting ended needs k → caught k := by
  constructor
  · intro h k hk
    induction hk with
    | direct hwaiting hneeds hended =>
        by_contra hnot
        exact h _ _ hwaiting hnot hneeds (.inl hended)
    | chain hwaiting hneeds _ ih =>
        by_contra hnot
        exact h _ _ hwaiting hnot hneeds (.inr ih)
  · rintro h k d hwaiting hnot hneeds (hended | hd)
    · exact hnot (h k (.direct hwaiting hneeds hended))
    · exact hnot (h k (.chain hwaiting hneeds (hcaught d hd)))

end InspectionHub.OnePass
