import Mathlib

/-!
# Recursive queries

`with recursive … (seed union term)`: the rows of the last round are the
working table, the term is evaluated on them, and what it gives that is not in
the result yet is added and worked on next. The query ends when a round adds
nothing. Here the term gives the successors of each row.

A query over finitely many rows ends (`ends`), and what a query that ended has is
what can be reached from the seed (`mem_result_iff`).
-/

namespace InspectionHub

universe u

/-- A query between two rounds. -/
structure RecursiveUnion (α : Type u) where
  result : List α
  working : List α

namespace RecursiveUnion

variable {α : Type u} (next : α → List α)

/-- `b` is `n` successors away from `a`. -/
def Steps (a : α) : Nat → α → Prop
  | 0, b => a = b
  | n + 1, b => ∃ c, Steps a n c ∧ b ∈ next c

def Succ (a b : α) : Prop := b ∈ next a

section Steps

variable {next}

theorem Steps.reaches {a b : α} {n : Nat} (h : Steps next a n b) :
    Relation.ReflTransGen (Succ next) a b := by
  induction n generalizing b with
  | zero => exact h ▸ .refl
  | succ n ih =>
      obtain ⟨c, hc, hb⟩ := h
      exact (ih hc).tail hb

theorem Steps.head {a b c : α} {n : Nat} (hab : b ∈ next a) (h : Steps next b n c) :
    Steps next a (n + 1) c := by
  induction n generalizing c with
  | zero => exact ⟨a, rfl, h ▸ hab⟩
  | succ n ih =>
      obtain ⟨d, hd, hc⟩ := h
      exact ⟨d, ih hd, hc⟩

theorem Steps.of_head {a c : α} {n : Nat} (h : Steps next a (n + 1) c) :
    ∃ b ∈ next a, Steps next b n c := by
  induction n generalizing c with
  | zero =>
      obtain ⟨_, rfl, hc⟩ := h
      exact ⟨c, hc, rfl⟩
  | succ n ih =>
      obtain ⟨d, hd, hc⟩ := h
      obtain ⟨b, hb, hrest⟩ := ih hd
      exact ⟨b, hb, d, hrest, hc⟩

end Steps

variable [DecidableEq α]

def seed (a : α) : RecursiveUnion α := ⟨[a], [a]⟩

/-- What a round adds. -/
def added (s : RecursiveUnion α) : List α :=
  (s.working.flatMap next).dedup.filter (· ∉ s.result)

def round (s : RecursiveUnion α) : RecursiveUnion α := ⟨s.result ++ s.added next, s.added next⟩

def rounds : Nat → RecursiveUnion α → RecursiveUnion α
  | 0, s => s
  | n + 1, s => (rounds n s).round next

variable {next}

theorem mem_added {s : RecursiveUnion α} {b : α} :
    b ∈ s.added next ↔ (∃ a ∈ s.working, b ∈ next a) ∧ b ∉ s.result := by
  rw [added, List.mem_filter, List.mem_dedup, List.mem_flatMap, decide_eq_true_iff]

/-! ## Rounds -/

/-- The result is without duplicates, holds the working table, and has the
successors of every row that has been worked on. -/
structure Wf (next : α → List α) (a : α) (s : RecursiveUnion α) : Prop where
  nodup : s.result.Nodup
  seed : a ∈ s.result
  working : s.working ⊆ s.result
  closed : ∀ b ∈ s.result, b ∉ s.working → next b ⊆ s.result

theorem Wf.round {a : α} {s : RecursiveUnion α} (h : Wf next a s) :
    Wf next a (s.round next) where
  nodup := by
    refine List.nodup_append.mpr ⟨h.nodup, (List.nodup_dedup _).filter _, ?_⟩
    rintro b hb _ hnew rfl
    exact (mem_added.mp hnew).2 hb
  seed := List.mem_append_left _ h.seed
  working := List.subset_append_right _ _
  closed b hb hnew c hc := by
    rcases List.mem_append.mp hb with hb | hb
    · by_cases hworking : b ∈ s.working
      · by_cases hcs : c ∈ s.result
        · exact List.mem_append_left _ hcs
        · exact List.mem_append_right _ (mem_added.mpr ⟨⟨b, hworking, hc⟩, hcs⟩)
      · exact List.mem_append_left _ (h.closed b hb hworking hc)
    · exact absurd hb hnew

theorem wf_rounds (next : α → List α) (a : α) (n : Nat) : Wf next a (rounds next n (seed a)) := by
  induction n with
  | zero =>
      refine ⟨List.nodup_singleton a, List.mem_singleton_self a, List.Subset.refl _, ?_⟩
      exact fun b hb hworking => absurd hb hworking
  | succ n ih => exact ih.round

/-- After `n` rounds the result is what is at most `n` successors away. -/
theorem mem_rounds {a b : α} {n : Nat} :
    b ∈ (rounds next n (seed a)).result ↔ ∃ k ≤ n, Steps next a k b := by
  induction n generalizing b with
  | zero =>
      constructor
      · intro h
        exact ⟨0, Nat.le_refl 0, (List.mem_singleton.mp h).symm⟩
      · rintro ⟨k, hk, h⟩
        obtain rfl := Nat.le_zero.mp hk
        exact List.mem_singleton.mpr h.symm
  | succ n ih =>
      have hwf := wf_rounds next a n
      constructor
      · intro h
        rcases List.mem_append.mp h with h | h
        · obtain ⟨k, hk, hsteps⟩ := ih.mp h
          exact ⟨k, Nat.le_succ_of_le hk, hsteps⟩
        · obtain ⟨⟨c, hc, hb⟩, -⟩ := mem_added.mp h
          obtain ⟨k, hk, hsteps⟩ := ih.mp (hwf.working hc)
          exact ⟨k + 1, Nat.succ_le_succ hk, c, hsteps, hb⟩
      · rintro ⟨k, hk, hsteps⟩
        rcases Nat.eq_or_lt_of_le hk with rfl | hk
        · obtain ⟨c, hc, hb⟩ := hsteps
          have hcr := ih.mpr ⟨n, Nat.le_refl n, hc⟩
          by_cases hworking : c ∈ (rounds next n (seed a)).working
          · by_cases hbr : b ∈ (rounds next n (seed a)).result
            · exact List.mem_append_left _ hbr
            · exact List.mem_append_right _ (mem_added.mpr ⟨⟨c, hworking, hb⟩, hbr⟩)
          · exact List.mem_append_left _ (hwf.closed c hcr hworking hb)
        · exact List.mem_append_left _ (ih.mpr ⟨k, Nat.le_of_lt_succ hk, hsteps⟩)

/-! ## The end of a query -/

/-- **What a query answers.** The rows that can be reached from the seed. -/
theorem mem_result_iff {a b : α} {n : Nat} (h : (rounds next n (seed a)).working = []) :
    b ∈ (rounds next n (seed a)).result ↔ Relation.ReflTransGen (Succ next) a b := by
  have hwf := wf_rounds next a n
  constructor
  · intro hb
    obtain ⟨k, -, hsteps⟩ := mem_rounds.mp hb
    exact hsteps.reaches
  · intro hpath
    induction hpath with
    | refl => exact hwf.seed
    | tail _ hstep ih =>
        refine hwf.closed _ ih ?_ hstep
        rw [h]
        exact List.not_mem_nil

section Ends

variable {all : List α} (hall : ∀ a, next a ⊆ all)
include hall

/-- Each round but the last adds a row. -/
theorem length_le (a : α) (n : Nat) : ∃ more, (rounds next n (seed a)).result = a :: more ∧
    more ⊆ all ∧ ((rounds next n (seed a)).working ≠ [] → n ≤ more.length) := by
  induction n with
  | zero => exact ⟨[], rfl, List.nil_subset _, fun _ => Nat.le_refl 0⟩
  | succ n ih =>
      obtain ⟨more, hresult, hmore, hlength⟩ := ih
      refine ⟨more ++ (rounds next n (seed a)).added next, ?_, ?_, fun hne => ?_⟩
      · rw [rounds, RecursiveUnion.round, hresult, List.cons_append]
      · refine List.append_subset.mpr ⟨hmore, fun b hb => ?_⟩
        obtain ⟨⟨c, -, hc⟩, -⟩ := mem_added.mp hb
        exact hall c hc
      · have hpos : 0 < ((rounds next n (seed a)).added next).length :=
          List.length_pos_of_ne_nil hne
        have hworking : (rounds next n (seed a)).working ≠ [] := by
          intro hnil
          obtain ⟨b, hb⟩ := List.exists_mem_of_ne_nil _ hne
          obtain ⟨⟨c, hc, -⟩, -⟩ := mem_added.mp hb
          rw [hnil] at hc
          cases hc
        have hle := hlength hworking
        rw [List.length_append]
        omega

/-- **A query ends** once it has taken a round more than there are rows. -/
theorem ends (a : α) : (rounds next (all.length + 1) (seed a)).working = [] := by
  by_contra hne
  obtain ⟨more, hresult, hmore, hlength⟩ := length_le hall a (all.length + 1)
  have hnodup := (wf_rounds next a (all.length + 1)).nodup
  rw [hresult, List.nodup_cons] at hnodup
  have hle := (List.Nodup.subperm hnodup.2 hmore).length_le
  have hmany := hlength hne
  omega

/-- The last round that adds a row is over by then. -/
theorem result_last (a : α) : (rounds next (all.length + 1) (seed a)).result =
    (rounds next all.length (seed a)).result := by
  have hends : (rounds next all.length (seed a)).added next = [] := ends hall a
  rw [rounds, RecursiveUnion.round, hends, List.append_nil]

end Ends

end RecursiveUnion

/-! ## One more edge -/

section Edge

variable {α : Type u} {R : α → α → Prop} {x y : α}

/-- A path with one more edge takes the edge once or not at all, unless the edge closes a cycle. -/
theorem transGen_edge (hopen : ¬ Relation.ReflTransGen R y x) {a b : α}
    (h : Relation.TransGen (fun a b => R a b ∨ (a = x ∧ b = y)) a b) :
    Relation.TransGen R a b ∨ (Relation.ReflTransGen R a x ∧ Relation.ReflTransGen R y b) := by
  induction h with
  | single h =>
      rcases h with h | ⟨rfl, rfl⟩
      · exact .inl (.single h)
      · exact .inr ⟨.refl, .refl⟩
  | tail _ h ih =>
      rcases h with h | ⟨rfl, rfl⟩
      · rcases ih with ih | ⟨hax, hyb⟩
        · exact .inl (ih.tail h)
        · exact .inr ⟨hax, hyb.tail h⟩
      · rcases ih with ih | ⟨-, hyx⟩
        · exact .inr ⟨ih.to_reflTransGen, .refl⟩
        · exact absurd hyx hopen

/-- **One more edge** closes a cycle exactly where there is a path back. -/
theorem acyclic_edge (h : ∀ a, ¬ Relation.TransGen R a a) :
    (∀ a, ¬ Relation.TransGen (fun a b => R a b ∨ (a = x ∧ b = y)) a a) ↔
      ¬ Relation.ReflTransGen R y x := by
  constructor
  · intro hacyclic hback
    have hback' : Relation.ReflTransGen (fun a b => R a b ∨ (a = x ∧ b = y)) y x :=
      Relation.ReflTransGen.mono (fun _ _ => Or.inl) _ _ hback
    exact hacyclic x (Relation.TransGen.head' (.inr ⟨rfl, rfl⟩) hback')
  · intro hopen a hcycle
    rcases transGen_edge hopen hcycle with hcycle | ⟨hax, hya⟩
    · exact h a hcycle
    · exact hopen (hya.trans hax)

end Edge

end InspectionHub
