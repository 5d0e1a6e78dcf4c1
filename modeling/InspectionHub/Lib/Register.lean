import Mathlib

/-!
# Registers of open records

A register is an append-only list of records under keys, some of them open.
Recording under a key first closes what is open there and then may append one
open record, so a key has at most one open record, and other keys are not
touched. The record types supply their key, their status and what closing
does.
-/

namespace InspectionHub

universe u v

/-- How records of type `α` are filed under keys of type `κ`. -/
structure Register (κ : Type u) (α : Type v) where
  key : α → κ
  isOpen : α → Bool

namespace Register

variable {κ : Type u} {α : Type v} [DecidableEq κ] (R : Register κ α)

/-- The records under `k`, oldest first. -/
def under (k : κ) (l : List α) : List α := l.filter fun a => R.key a = k

/-- The open records under `k`. -/
def openUnder (k : κ) (l : List α) : List α := l.filter fun a => R.key a = k && R.isOpen a

/-- Close every open record under `k`. -/
def supersede (k : κ) (close : α → α) (l : List α) : List α :=
  l.map fun a => if R.key a = k && R.isOpen a then close a else a

@[simp] theorem under_nil (k : κ) : R.under k [] = [] := rfl

@[simp] theorem openUnder_nil (k : κ) : R.openUnder k [] = [] := rfl

theorem under_append (k : κ) (l l' : List α) :
    R.under k (l ++ l') = R.under k l ++ R.under k l' := List.filter_append ..

theorem openUnder_append (k : κ) (l l' : List α) :
    R.openUnder k (l ++ l') = R.openUnder k l ++ R.openUnder k l' := List.filter_append ..

theorem under_singleton (k : κ) (a : α) : R.under k [a] = if R.key a = k then [a] else [] := by
  by_cases h : R.key a = k <;> simp [under, h]

variable {close : α → α}

/-- Superseding leaves nothing open under its own key and the rest alone. -/
theorem openUnder_supersede (k k' : κ) (hkey : ∀ a, R.key (close a) = R.key a)
    (hclosed : ∀ a, R.isOpen (close a) = false) (l : List α) :
    R.openUnder k' (R.supersede k close l) = if k' = k then [] else R.openUnder k' l := by
  induction l with
  | nil => simp [supersede]
  | cons a l ih =>
      have hcons : R.supersede k close (a :: l) =
          [if R.key a = k && R.isOpen a then close a else a] ++ R.supersede k close l := rfl
      rw [hcons, openUnder_append, ih]
      by_cases hclose : (R.key a = k && R.isOpen a) = true
      · -- the head is closed: it stays under `k` and is open nowhere
        obtain ⟨hk, hopen⟩ : R.key a = k ∧ R.isOpen a = true := by simpa using hclose
        rw [if_pos hclose]
        by_cases h : k' = k
        · simp [openUnder, hkey, hclosed, h]
        · have hne : ¬ k = k' := fun e => h e.symm
          simp [openUnder, hclosed, h, hk, hne]
      · rw [if_neg hclose]
        by_cases h : k' = k
        · subst h
          simp only [openUnder, if_pos, List.append_nil]
          simpa using hclose
        · rw [if_neg h, if_neg h, ← openUnder_append, List.singleton_append]

/-- What is open under a key is one record if `p` holds, and none otherwise. -/
def OpenWhen (k : κ) (p : Prop) (l : List α) : Prop :=
  (p → ∃ a, R.openUnder k l = [a]) ∧ (¬ p → R.openUnder k l = [])

variable {l : List α} {k : κ}

theorem OpenWhen.length_le_one {p : Prop} (h : R.OpenWhen k p l) :
    (R.openUnder k l).length ≤ 1 := by
  by_cases hp : p
  · obtain ⟨a, ha⟩ := h.1 hp
    rw [ha]
    exact Nat.le_refl 1
  · rw [h.2 hp]
    exact Nat.zero_le 1

theorem OpenWhen.ne_nil_iff {p : Prop} (h : R.OpenWhen k p l) : R.openUnder k l ≠ [] ↔ p := by
  constructor
  · intro hne
    by_contra hp
    exact hne (h.2 hp)
  · intro hp hnil
    obtain ⟨a, ha⟩ := h.1 hp
    rw [ha] at hnil
    cases hnil

/-- Recording under `k`: supersede there, then append the new record, if one is opened. -/
def record (k : κ) (close : α → α) (opened : Option α) (l : List α) : List α :=
  R.supersede k close l ++ opened.toList

variable {opened : Option α}

/-- **Recording.** Under its own key the record made is what is open after it;
under any other key nothing changes. -/
theorem openUnder_record (hkey : ∀ a, R.key (close a) = R.key a)
    (hclosed : ∀ a, R.isOpen (close a) = false)
    (hopened : ∀ a ∈ opened, R.key a = k ∧ R.isOpen a = true) (k' : κ) (l : List α) :
    R.openUnder k' (R.record k close opened l) =
      if k' = k then opened.toList else R.openUnder k' l := by
  rw [record, openUnder_append, openUnder_supersede R k k' hkey hclosed]
  cases opened with
  | none => simp
  | some a =>
      obtain ⟨hk, ho⟩ := hopened a rfl
      by_cases h : k' = k
      · simp [openUnder, hk, ho, h]
      · have hne : ¬ k = k' := fun e => h e.symm
        simp [openUnder, hk, hne, h]

/-- A record after recording was there, was closed, or is the new one. -/
theorem mem_record {R : Register κ α} {a : α} (h : a ∈ R.record k close opened l) :
    a ∈ l ∨ (∃ b ∈ l, close b = a) ∨ a ∈ opened := by
  rcases List.mem_append.mp h with h | h
  · obtain ⟨b, hb, rfl⟩ := List.mem_map.mp h
    split
    · exact .inr (.inl ⟨b, hb, rfl⟩)
    · exact .inl hb
  · exact .inr (.inr (Option.mem_toList.mp h))

/-- What is open under each key follows a condition `p'` when it followed `p`,
recording opens a record exactly under the condition, and only the condition of
the key recorded under changes. -/
theorem openWhen_record {k k' : κ} (hkey : ∀ a, R.key (close a) = R.key a)
    (hclosed : ∀ a, R.isOpen (close a) = false)
    (hopened : ∀ a ∈ opened, R.key a = k ∧ R.isOpen a = true) {p p' q : Prop}
    (h : R.OpenWhen k' p l) (hp : p' ↔ if k' = k then q else p) (hq : q → opened.isSome)
    (hnq : ¬ q → opened = none) : R.OpenWhen k' p' (R.record k close opened l) := by
  rw [OpenWhen, openUnder_record R hkey hclosed hopened]
  by_cases hk : k' = k
  · rw [if_pos hk] at hp ⊢
    constructor
    · intro hp'
      obtain ⟨a, ha⟩ := Option.isSome_iff_exists.mp (hq (hp.mp hp'))
      exact ⟨a, by rw [ha]; rfl⟩
    · intro hp'
      rw [hnq fun h => hp' (hp.mpr h)]
      rfl
  · rw [if_neg hk] at hp ⊢
    exact ⟨fun hp' => h.1 (hp.mp hp'), fun hp' => h.2 fun h => hp' (hp.mpr h)⟩

end Register

end InspectionHub
