import Mathlib

/-!
# Sorting by a comparison

A list sorted by a three-way comparison, stably. The order the elements came
in is forgotten where the comparison tells them apart (`sortBy_congr`), and
the first of the sorted list is the first of the least elements
(`head_sortBy_iff`). A part of the list matters by how it is sorted itself
(`sortBy_replace`).
-/

namespace InspectionHub.Sorting

universe u v

variable {α : Type u} {β : Type v}

/-- `l.sort(cmp)` -/
abbrev sortBy (cmp : α → α → Ordering) (l : List α) : List α :=
  l.mergeSort fun a b => cmp a b ≠ .gt

/-- Comparing by what is read off the elements. -/
theorem transCmp_comap {cmp : β → β → Ordering} [Std.TransCmp cmp] (f : α → β) :
    Std.TransCmp fun a b => cmp (f a) (f b) where
  eq_swap := Std.OrientedCmp.eq_swap
  isLE_trans := Std.TransCmp.isLE_trans

variable {cmp : α → α → Ordering} {l l' : List α}

theorem sortBy_perm (cmp : α → α → Ordering) (l : List α) : (sortBy cmp l).Perm l :=
  List.mergeSort_perm l _

variable {a b : α}

section Trans

variable [Std.TransCmp cmp]

theorem le_trans {a b c : α} (hab : decide (cmp a b ≠ .gt) = true)
    (hbc : decide (cmp b c ≠ .gt) = true) : decide (cmp a c ≠ .gt) = true := by
  have hab := Ordering.ne_gt_iff_isLE.mp (of_decide_eq_true hab)
  have hbc := Ordering.ne_gt_iff_isLE.mp (of_decide_eq_true hbc)
  exact decide_eq_true (Ordering.ne_gt_iff_isLE.mpr (Std.TransCmp.isLE_trans hab hbc))

theorem le_total (a b : α) :
    (decide (cmp a b ≠ .gt) || decide (cmp b a ≠ .gt)) = true := by
  rw [Bool.or_eq_true, decide_eq_true_eq, decide_eq_true_eq]
  by_contra h
  push Not at h
  obtain ⟨hab, hba⟩ := h
  rw [Std.OrientedCmp.gt_iff_lt.mp hab] at hba
  cases hba

theorem sortBy_sorted (cmp : α → α → Ordering) [Std.TransCmp cmp] (l : List α) :
    (sortBy cmp l).Pairwise fun a b => cmp a b ≠ .gt := by
  refine (List.pairwise_mergeSort (fun _ _ _ => le_trans) le_total l).imp ?_
  exact fun h => of_decide_eq_true h

/-- Lists of the same elements are sorted alike when equal in order means equal. -/
theorem sortBy_congr (hperm : l.Perm l') (hsep : ∀ a ∈ l, ∀ b ∈ l, cmp a b = .eq → a = b) :
    sortBy cmp l = sortBy cmp l' := by
  refine List.Perm.eq_of_pairwise ?_ (sortBy_sorted cmp l) (sortBy_sorted cmp l')
    (((sortBy_perm cmp l).trans hperm).trans (sortBy_perm cmp l').symm)
  intro a b ha hb hab hba
  refine hsep a ((sortBy_perm cmp l).mem_iff.mp ha) b
    (hperm.mem_iff.mpr ((sortBy_perm cmp l').mem_iff.mp hb)) ?_
  exact Std.OrientedCmp.isLE_antisymm (Ordering.ne_gt_iff_isLE.mp hab)
    (Ordering.ne_gt_iff_isLE.mp hba)

/-! ## The first element -/

/-- Nothing in the list comes before `a`, and nothing that comes level with it stands before
it. -/
def First (cmp : α → α → Ordering) (l : List α) (a : α) : Prop :=
  ∃ before after, l = before ++ a :: after ∧ (∀ b ∈ before, cmp a b = .lt) ∧
    ∀ b ∈ after, cmp a b ≠ .gt

omit [Std.TransCmp cmp] in
theorem First.mem {a : α} (h : First cmp l a) : a ∈ l := by
  obtain ⟨before, after, rfl, -⟩ := h
  simp

theorem First.unique (ha : First cmp l a) (hb : First cmp l b) : a = b := by
  obtain ⟨before, after, hl, hbefore, hafter⟩ := ha
  obtain ⟨before', after', hl', hbefore', hafter'⟩ := hb
  rw [hl, List.append_eq_append_iff] at hl'
  -- whichever stands first, the other may not come strictly before it
  rcases hl' with ⟨mid, hmid, hrest⟩ | ⟨mid, hmid, hrest⟩
  · cases mid with
    | nil => exact (List.cons.inj hrest).1
    | cons c mid =>
        obtain ⟨rfl, htail⟩ := List.cons.inj hrest
        have hlt := hbefore' a (by rw [hmid]; simp)
        have hle := hafter b (by rw [htail]; simp)
        exact absurd (Std.OrientedCmp.gt_of_lt hlt) hle
  · cases mid with
    | nil => exact (List.cons.inj hrest).1.symm
    | cons c mid =>
        obtain ⟨rfl, htail⟩ := List.cons.inj hrest
        have hlt := hbefore b (by rw [hmid]; simp)
        have hle := hafter' a (by rw [htail]; simp)
        exact absurd (Std.OrientedCmp.gt_of_lt hlt) hle

/-- The first of a sorted list is the first of the least. -/
theorem first_of_sortBy {a : α} {rest : List α} (hl : l.Nodup) (h : sortBy cmp l = a :: rest) :
    First cmp l a := by
  have hsorted := sortBy_sorted cmp l
  have hperm := sortBy_perm cmp l
  rw [h] at hsorted hperm
  have hle : ∀ b ∈ l, cmp a b ≠ .gt := by
    intro b hb
    rcases List.mem_cons.mp (hperm.mem_iff.mpr hb) with rfl | hb
    · have hself : cmp b b = .eq := Std.ReflCmp.compare_self
      rw [hself]
      decide
    · exact List.rel_of_pairwise_cons hsorted hb
  obtain ⟨before, after, rfl⟩ := List.append_of_mem (hperm.mem_iff.mp List.mem_cons_self)
  refine ⟨before, after, rfl, fun b hb => ?_, fun b hb => hle b (by simp [hb])⟩
  by_contra hnot
  -- an element that stood before `a` and level with it would still stand before it
  have hba : decide (cmp b a ≠ .gt) = true := by
    rw [decide_eq_true_eq]
    intro hgt
    exact hnot (Std.OrientedCmp.gt_iff_lt.mp hgt)
  have hpair : [b, a].Sublist (before ++ a :: after) :=
    (List.singleton_sublist.mpr hb).append (List.singleton_sublist.mpr List.mem_cons_self)
  have hstable := List.pair_sublist_mergeSort (fun _ _ _ => le_trans) le_total
    hba hpair
  change [b, a].Sublist (sortBy cmp _) at hstable
  rw [h] at hstable
  have hne : b ≠ a := by
    rintro rfl
    exact (List.nodup_append.mp hl).2.2 b hb b List.mem_cons_self rfl
  have hrest : a ∈ rest := by
    cases hstable with
    | cons _ hsub => exact hsub.subset (by simp)
    | cons_cons _ _ => exact absurd rfl hne
  exact (List.nodup_cons.mp (hperm.nodup_iff.mpr hl)).1 hrest

theorem head_sortBy_iff (hl : l.Nodup) (a : α) :
    (sortBy cmp l).head? = some a ↔ First cmp l a := by
  constructor
  · intro h
    obtain ⟨rest, hrest⟩ := List.head?_eq_some_iff.mp h
    exact first_of_sortBy hl hrest
  · intro h
    cases hsort : sortBy cmp l with
    | nil =>
        obtain ⟨before, after, rfl, -⟩ := h
        have hperm := sortBy_perm cmp (before ++ a :: after)
        rw [hsort] at hperm
        have hnil := hperm.symm.eq_nil
        simp at hnil
    | cons b rest => rw [List.head?_cons, h.unique (first_of_sortBy hl hsort)]

end Trans

/-! ## Stability -/

/-- Where sorting puts one more element that stood in front. -/
def insertBy (cmp : α → α → Ordering) (a : α) (l : List α) : List α :=
  l.orderedInsert (fun a b => cmp a b ≠ .gt) a

theorem insertBy_cons_of_le (h : cmp a b ≠ .gt) (l : List α) :
    insertBy cmp a (b :: l) = a :: b :: l :=
  List.orderedInsert_cons_of_le _ l h

theorem insertBy_cons_of_gt (h : cmp a b = .gt) (l : List α) :
    insertBy cmp a (b :: l) = b :: insertBy cmp a l :=
  List.orderedInsert_of_not_le _ l (not_not.mpr h)

theorem insertBy_of_le {a : α} {l : List α} (h : ∀ b ∈ l, cmp a b ≠ .gt) :
    insertBy cmp a l = a :: l := by
  cases l with
  | nil => rfl
  | cons b l => exact insertBy_cons_of_le (h b List.mem_cons_self) l

theorem insertBy_append {a : α} {l₁ l₂ : List α} (h₁ : ∀ b ∈ l₁, cmp a b = .gt)
    (h₂ : ∀ b ∈ l₂, cmp a b ≠ .gt) : insertBy cmp a (l₁ ++ l₂) = l₁ ++ a :: l₂ := by
  induction l₁ with
  | nil => exact insertBy_of_le h₂
  | cons b l₁ ih =>
      rw [List.cons_append, insertBy_cons_of_gt (h₁ b List.mem_cons_self),
        ih fun c hc => h₁ c (List.mem_cons_of_mem _ hc), List.cons_append]

@[simp] theorem sortBy_nil (cmp : α → α → Ordering) : sortBy cmp [] = [] := List.mergeSort_nil

theorem ne_gt_trans [Std.TransCmp cmp] {a b c : α} (hab : cmp a b ≠ .gt) (hbc : cmp b c ≠ .gt) :
    cmp a c ≠ .gt :=
  Ordering.ne_gt_iff_isLE.mpr (Std.TransCmp.isLE_trans (Ordering.ne_gt_iff_isLE.mp hab)
    (Ordering.ne_gt_iff_isLE.mp hbc))

/-- Elements the comparison tells apart are inserted in either order. -/
theorem insertBy_comm [Std.TransCmp cmp] (h : cmp a b = .gt) (l : List α) :
    insertBy cmp a (insertBy cmp b l) = insertBy cmp b (insertBy cmp a l) := by
  have hba : cmp b a ≠ .gt := by
    rw [Std.OrientedCmp.gt_iff_lt.mp h]
    decide
  induction l with
  | nil =>
      rw [show insertBy cmp b ([] : List α) = [b] from rfl,
        show insertBy cmp a ([] : List α) = [a] from rfl, insertBy_cons_of_gt h,
        insertBy_cons_of_le hba]
      rfl
  | cons c l ih =>
      by_cases hac : cmp a c = .gt
      · by_cases hbc : cmp b c = .gt
        · rw [insertBy_cons_of_gt hbc, insertBy_cons_of_gt hac, insertBy_cons_of_gt hac,
            insertBy_cons_of_gt hbc, ih]
        · rw [insertBy_cons_of_le hbc, insertBy_cons_of_gt h, insertBy_cons_of_gt hac,
            insertBy_cons_of_le hbc]
      · have hbc : cmp b c ≠ .gt := ne_gt_trans hba hac
        rw [insertBy_cons_of_le hbc, insertBy_cons_of_gt h, insertBy_cons_of_le hac,
          insertBy_cons_of_le hba]

section Stable

variable [Std.TransCmp cmp]

theorem sortBy_cons (a : α) (l : List α) :
    sortBy cmp (a :: l) = insertBy cmp a (sortBy cmp l) := by
  obtain ⟨l₁, l₂, hcons, hl, hbefore⟩ :=
    List.mergeSort_cons (fun _ _ _ => le_trans) (fun b c => @le_total α cmp _ b c) a l
  have hsorted := sortBy_sorted cmp (a :: l)
  rw [show sortBy cmp (a :: l) = l₁ ++ a :: l₂ from hcons] at hsorted ⊢
  rw [show sortBy cmp l = l₁ ++ l₂ from hl, insertBy_append]
  · intro b hb
    simpa using hbefore b hb
  · intro b hb
    exact List.rel_of_pairwise_cons (List.pairwise_append.mp hsorted).2.1 hb

/-- Sorting `l` into the sorted list `s`. -/
theorem sortBy_append (l l' : List α) :
    sortBy cmp (l ++ l') = l.foldr (insertBy cmp) (sortBy cmp l') := by
  induction l with
  | nil => rfl
  | cons a l ih => rw [List.cons_append, sortBy_cons, ih, List.foldr_cons]

theorem foldr_insertBy (a : α) (l s : List α) :
    (insertBy cmp a l).foldr (insertBy cmp) s = insertBy cmp a (l.foldr (insertBy cmp) s) := by
  induction l with
  | nil => rfl
  | cons b l ih =>
      by_cases h : cmp a b = .gt
      · rw [insertBy_cons_of_gt h, List.foldr_cons, ih, List.foldr_cons, insertBy_comm h]
      · rw [insertBy_cons_of_le h, List.foldr_cons]

theorem foldr_sortBy (l s : List α) :
    (sortBy cmp l).foldr (insertBy cmp) s = l.foldr (insertBy cmp) s := by
  induction l with
  | nil => rw [sortBy_nil]
  | cons a l ih => rw [sortBy_cons, foldr_insertBy, ih, List.foldr_cons]

/-- A part of a list matters to its sorting by how it is sorted itself. -/
theorem sortBy_replace {u u' : List α} (h : sortBy cmp u = sortBy cmp u') (x y : List α) :
    sortBy cmp (x ++ (u ++ y)) = sortBy cmp (x ++ (u' ++ y)) := by
  rw [sortBy_append, sortBy_append, sortBy_append x, sortBy_append u', ← foldr_sortBy u,
    ← foldr_sortBy u', h]

theorem filter_insertBy (p : α → Bool) (a : α) {s : List α}
    (hs : s.Pairwise fun a b => cmp a b ≠ .gt) :
    (insertBy cmp a s).filter p = if p a then insertBy cmp a (s.filter p) else s.filter p := by
  induction s with
  | nil =>
      rw [show insertBy cmp a ([] : List α) = [a] from rfl, List.filter_cons]
      rfl
  | cons b s ih =>
      rw [List.pairwise_cons] at hs
      by_cases h : cmp a b = .gt
      · rw [insertBy_cons_of_gt h, List.filter_cons, ih hs.2, List.filter_cons]
        by_cases hb : p b = true
        · rw [if_pos hb, if_pos hb]
          split
          · rw [insertBy_cons_of_gt h]
          · rfl
        · rw [if_neg hb, if_neg hb]
      · have hle : ∀ c ∈ (b :: s).filter p, cmp a c ≠ .gt := by
          intro c hc
          rcases List.mem_cons.mp (List.mem_of_mem_filter hc) with rfl | hc
          · exact h
          · exact ne_gt_trans h (hs.1 c hc)
        rw [insertBy_cons_of_le h, List.filter_cons, insertBy_of_le hle]

/-- Sorting keeps to the elements that are looked at. -/
theorem filter_sortBy (p : α → Bool) (l : List α) :
    (sortBy cmp l).filter p = sortBy cmp (l.filter p) := by
  induction l with
  | nil => rw [sortBy_nil, List.filter_nil, sortBy_nil]
  | cons a l ih =>
      rw [sortBy_cons, filter_insertBy p a (sortBy_sorted cmp l), ih, List.filter_cons]
      split
      · rw [sortBy_cons]
      · rfl

end Stable

theorem map_sortBy (cmp : β → β → Ordering) (f : α → β) (l : List α) :
    (sortBy (fun a b => cmp (f a) (f b)) l).map f = sortBy cmp (l.map f) :=
  List.map_mergeSort fun _ _ _ _ => rfl

end InspectionHub.Sorting
