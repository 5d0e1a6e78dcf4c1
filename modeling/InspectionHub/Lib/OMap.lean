import Mathlib

/-!
# Insertion-ordered maps

The keyed collection of the source language: iteration is in the order of
first insertion, setting a present key replaces its value in place, and
setting an absent one appends. Keys are distinct by construction. A `Table` is
such a map that holds each value under its own key.
-/

namespace InspectionHub

universe u v w

/-- An insertion-ordered map with distinct keys. -/
structure OMap (κ : Type u) (υ : Type v) where
  entries : List (κ × υ)
  nodup : (entries.map Prod.fst).Nodup

namespace OMap

variable {κ : Type u} {υ : Type v}

def empty : OMap κ υ := ⟨[], List.nodup_nil⟩

def keys (m : OMap κ υ) : List κ := m.entries.map Prod.fst

def values (m : OMap κ υ) : List υ := m.entries.map Prod.snd

@[simp] theorem keys_empty : (empty : OMap κ υ).keys = [] := rfl

@[simp] theorem values_empty : (empty : OMap κ υ).values = [] := rfl

variable [DecidableEq κ]

def get? (m : OMap κ υ) (k : κ) : Option υ :=
  (m.entries.find? fun e => e.1 = k).map Prod.snd

def has (m : OMap κ υ) (k : κ) : Bool := (m.get? k).isSome

/-- Replace the value of `k` where it stands. -/
def replaceIn (k : κ) (v : υ) (l : List (κ × υ)) : List (κ × υ) :=
  l.map fun e => if e.1 = k then (k, v) else e

theorem replaceIn_keys (k : κ) (v : υ) (l : List (κ × υ)) :
    (replaceIn k v l).map Prod.fst = l.map Prod.fst := by
  simp only [replaceIn, List.map_map]
  refine List.map_congr_left fun e _ => ?_
  simp only [Function.comp]
  split
  · next h => exact h.symm
  · rfl

/-- Replace in place, or append. -/
def set (m : OMap κ υ) (k : κ) (v : υ) : OMap κ υ :=
  if h : k ∈ m.keys then
    ⟨replaceIn k v m.entries, by rw [replaceIn_keys]; exact m.nodup⟩
  else
    ⟨m.entries ++ [(k, v)], by
      rw [List.map_append, List.nodup_append]
      refine ⟨m.nodup, by simp, ?_⟩
      intro a ha b hb hab
      simp only [List.map_cons, List.map_nil, List.mem_singleton] at hb
      exact h (by rw [← hb, ← hab]; exact ha)⟩

@[simp] theorem get?_empty (k : κ) : (empty : OMap κ υ).get? k = none := rfl

theorem get?_eq_none_iff (m : OMap κ υ) (k : κ) : m.get? k = none ↔ k ∉ m.keys := by
  simp only [get?, keys, Option.map_eq_none_iff, List.find?_eq_none, decide_eq_true_eq,
    List.mem_map, not_exists, not_and]

theorem get?_isSome_iff (m : OMap κ υ) (k : κ) : (m.get? k).isSome ↔ k ∈ m.keys := by
  rw [Option.isSome_iff_ne_none, ne_eq, get?_eq_none_iff, not_not]

/-- Looking a key up finds its only entry. -/
theorem get?_eq_some_iff (m : OMap κ υ) (k : κ) (v : υ) :
    m.get? k = some v ↔ (k, v) ∈ m.entries := by
  constructor
  · intro h
    obtain ⟨e, he, hv⟩ := Option.map_eq_some_iff.mp h
    have hk : e.1 = k := by simpa using List.find?_some he
    have hmem := List.mem_of_find?_eq_some he
    rwa [← hk, ← hv]
  · intro h
    have hsome : (m.get? k).isSome :=
      (m.get?_isSome_iff k).mpr (List.mem_map.mpr ⟨_, h, rfl⟩)
    obtain ⟨w, hw⟩ := Option.isSome_iff_exists.mp hsome
    obtain ⟨e, he, hv⟩ := Option.map_eq_some_iff.mp hw
    have hk : e.1 = k := by simpa using List.find?_some he
    have heq : e = (k, v) :=
      List.inj_on_of_nodup_map m.nodup (List.mem_of_find?_eq_some he) h hk
    rw [hw, ← hv, heq]

theorem mem_values_iff (m : OMap κ υ) (v : υ) : v ∈ m.values ↔ ∃ k, m.get? k = some v := by
  simp only [values, List.mem_map, get?_eq_some_iff]
  constructor
  · rintro ⟨⟨k, w⟩, h, rfl⟩
    exact ⟨k, h⟩
  · rintro ⟨k, h⟩
    exact ⟨(k, v), h, rfl⟩

theorem mem_keys_set (m : OMap κ υ) (k k' : κ) (v : υ) :
    k' ∈ (m.set k v).keys ↔ k' = k ∨ k' ∈ m.keys := by
  unfold set
  split
  · next h =>
      simp only [keys, replaceIn_keys]
      constructor
      · exact Or.inr
      · rintro (rfl | h')
        · exact h
        · exact h'
  · simp only [keys, List.map_append, List.mem_append, List.map_cons, List.map_nil,
      List.mem_singleton]
    exact or_comm

theorem mem_entries_set (m : OMap κ υ) (k : κ) (v : υ) (e : κ × υ) :
    e ∈ (m.set k v).entries ↔ e = (k, v) ∨ (e.1 ≠ k ∧ e ∈ m.entries) := by
  unfold set
  split
  · next h =>
      simp only [replaceIn, List.mem_map]
      constructor
      · rintro ⟨e', he', rfl⟩
        split
        · exact .inl rfl
        · next hne => exact .inr ⟨hne, he'⟩
      · rintro (rfl | ⟨hne, he⟩)
        · obtain ⟨e', he', hk⟩ := List.mem_map.mp h
          exact ⟨e', he', by simp [hk]⟩
        · exact ⟨e, he, by simp [hne]⟩
  · next h =>
      simp only [List.mem_append, List.mem_singleton]
      constructor
      · rintro (he | rfl)
        · refine .inr ⟨?_, he⟩
          rintro rfl
          exact h (List.mem_map_of_mem he)
        · exact .inl rfl
      · rintro (rfl | ⟨_, he⟩)
        · exact .inr rfl
        · exact .inl he

@[simp] theorem get?_set_self (m : OMap κ υ) (k : κ) (v : υ) : (m.set k v).get? k = some v := by
  rw [get?_eq_some_iff, mem_entries_set]
  exact .inl rfl

theorem get?_set_of_ne (m : OMap κ υ) {k k' : κ} (v : υ) (h : k' ≠ k) :
    (m.set k v).get? k' = m.get? k' := by
  apply Option.ext
  intro w
  rw [get?_eq_some_iff, get?_eq_some_iff, mem_entries_set]
  constructor
  · rintro (heq | ⟨_, hmem⟩)
    · exact absurd (congrArg Prod.fst heq) h
    · exact hmem
  · exact fun hmem => .inr ⟨h, hmem⟩

theorem get?_set (m : OMap κ υ) (k k' : κ) (v : υ) :
    (m.set k v).get? k' = if k' = k then some v else m.get? k' := by
  split
  · next h => rw [h, get?_set_self]
  · next h => exact get?_set_of_ne m v h

/-! ## Values under a predicate -/

/-- Setting a present key replaces its value among the values. -/
theorem values_set_of_mem (m : OMap κ υ) {k : κ} (v : υ) (h : k ∈ m.keys) :
    (m.set k v).values = m.entries.map fun e => if e.1 = k then v else e.2 := by
  rw [set, dif_pos h, values]
  show (replaceIn k v m.entries).map Prod.snd = _
  rw [replaceIn, List.map_map]
  refine List.map_congr_left fun e _ => ?_
  simp only [Function.comp]
  split <;> rfl

theorem values_set_of_not_mem (m : OMap κ υ) {k : κ} (v : υ) (h : k ∉ m.keys) :
    (m.set k v).values = m.values ++ [v] := by
  rw [set, dif_neg h, values, List.map_append]
  rfl

end OMap

/-! ## Tables

A map that holds each value under its own key.
-/

/-- A map in which every value sits under its own key. -/
structure Table (κ : Type u) (υ : Type v) [DecidableEq κ] (key : υ → κ) where
  rows : OMap κ υ
  keyed : ∀ k v, rows.get? k = some v → key v = k

namespace Table

variable {κ : Type u} {υ : Type v} [DecidableEq κ] {key : υ → κ}

def empty : Table κ υ key := ⟨.empty, fun _ _ h => nomatch h⟩

def get? (t : Table κ υ key) (k : κ) : Option υ := t.rows.get? k

def values (t : Table κ υ key) : List υ := t.rows.values

/-- Write a value under its key. -/
def put (t : Table κ υ key) (v : υ) : Table κ υ key :=
  ⟨t.rows.set (key v) v, by
    intro k w h
    rw [OMap.get?_set] at h
    split at h
    · next hk => rw [← Option.some.inj h, hk]
    · exact t.keyed k w h⟩

@[simp] theorem get?_empty (k : κ) : (empty : Table κ υ key).get? k = none := rfl

theorem key_of_get? {t : Table κ υ key} {k : κ} {v : υ} (h : t.get? k = some v) : key v = k :=
  t.keyed k v h

@[simp] theorem get?_put_self (t : Table κ υ key) (v : υ) : (t.put v).get? (key v) = some v :=
  OMap.get?_set_self t.rows (key v) v

theorem get?_put (t : Table κ υ key) (v : υ) (k : κ) :
    (t.put v).get? k = if k = key v then some v else t.get? k :=
  OMap.get?_set t.rows (key v) k v

theorem get?_put_of_ne (t : Table κ υ key) (v : υ) {k : κ} (h : k ≠ key v) :
    (t.put v).get? k = t.get? k :=
  OMap.get?_set_of_ne t.rows v h

theorem mem_values_iff (t : Table κ υ key) (v : υ) : v ∈ t.values ↔ t.get? (key v) = some v := by
  rw [values, OMap.mem_values_iff]
  constructor
  · rintro ⟨k, hk⟩
    rwa [t.keyed k v hk]
  · exact fun h => ⟨key v, h⟩

/-- Tables with the same values under some keys answer alike at these. -/
theorem get?_congr {t t' : Table κ υ key} (p : κ → Bool)
    (h : (t.values.filter fun v => p (key v)) = t'.values.filter fun v => p (key v)) {k : κ}
    (hk : p k = true) : t.get? k = t'.get? k := by
  have transfer : ∀ {t t' : Table κ υ key} {v : υ},
      (t.values.filter fun v => p (key v)) = (t'.values.filter fun v => p (key v)) →
        t.get? k = some v → t'.get? k = some v := by
    intro t t' v h hv
    have hkey := key_of_get? hv
    rw [← hkey] at hv hk ⊢
    rw [← mem_values_iff] at hv ⊢
    have hmem : v ∈ t.values.filter fun v => p (key v) := List.mem_filter.mpr ⟨hv, hk⟩
    rw [h] at hmem
    exact List.mem_of_mem_filter hmem
  refine Option.ext fun v => ?_
  exact ⟨transfer h, transfer h.symm⟩

/-- Writing the values of a list one after another fills the rows of their keys. -/
theorem isSome_foldl_put (l : List υ) (t : Table κ υ key) (k : κ) :
    ((l.foldl put t).get? k).isSome ↔ (∃ v ∈ l, key v = k) ∨ (t.get? k).isSome := by
  induction l generalizing t with
  | nil => simp
  | cons v l ih =>
      rw [List.foldl_cons, ih, get?_put]
      by_cases h : k = key v
      · simp [h]
      · have hne : ¬ key v = k := fun e => h e.symm
        simp [h, hne]

/-- Of the values of a list with one key, the last written stays. -/
theorem get?_foldl_put_last (l : List υ) (t : Table κ υ key) (k : κ) :
    (l.foldl put t).get? k = ((l.filter fun v => key v = k).getLast?).or (t.get? k) := by
  induction l generalizing t with
  | nil => rfl
  | cons v l ih =>
      rw [List.foldl_cons, ih, get?_put, List.filter_cons]
      by_cases h : k = key v
      · rw [if_pos h, if_pos (decide_eq_true h.symm), List.getLast?_cons]
        cases (l.filter fun v => key v = k).getLast? <;> rfl
      · rw [if_neg h, if_neg fun hkey => h (of_decide_eq_true hkey).symm]

/-- Some value sits under a key when the row of that key is filled. -/
theorem exists_value_iff (t : Table κ υ key) (k : κ) :
    (∃ v ∈ t.values, key v = k) ↔ (t.get? k).isSome := by
  rw [Option.isSome_iff_exists]
  constructor
  · rintro ⟨v, hv, rfl⟩
    exact ⟨v, (t.mem_values_iff v).mp hv⟩
  · rintro ⟨v, hv⟩
    have hkey := key_of_get? hv
    refine ⟨v, (t.mem_values_iff v).mpr ?_, hkey⟩
    rwa [hkey]

theorem nodup_keys_values (t : Table κ υ key) : (t.values.map key).Nodup := by
  have hkeys : t.values.map key = t.rows.keys := by
    rw [values, OMap.values, OMap.keys, List.map_map]
    refine List.map_congr_left fun e he => ?_
    exact t.keyed e.1 e.2 ((OMap.get?_eq_some_iff t.rows e.1 e.2).mpr he)
  rw [hkeys]
  exact t.rows.nodup

/-- Writing values with distinct keys: each is found, and what they do not
cover stays. -/
theorem get?_foldl_put {l : List υ} (hl : (l.map key).Nodup) (t : Table κ υ key) (k : κ) (w : υ) :
    (l.foldl put t).get? k = some w ↔
      (w ∈ l ∧ key w = k) ∨ (k ∉ l.map key ∧ t.get? k = some w) := by
  induction l generalizing t with
  | nil => simp
  | cons v l ih =>
      rw [List.map_cons, List.nodup_cons] at hl
      rw [List.foldl_cons, ih hl.2, get?_put]
      by_cases hk : k = key v
      · subst hk
        simp only [if_pos, List.mem_cons, List.map_cons, not_or, not_true_eq_false, false_and,
          or_false, Option.some.injEq]
        constructor
        · rintro (⟨hw, hkey⟩ | ⟨-, rfl⟩)
          · exact ⟨.inr hw, hkey⟩
          · exact ⟨.inl rfl, rfl⟩
        · rintro ⟨rfl | hw, hkey⟩
          · exact .inr ⟨hl.1, rfl⟩
          · exact .inl ⟨hw, hkey⟩
      · have hne : w = v → key w ≠ k := fun h => by rw [h]; exact fun e => hk e.symm
        simp only [if_neg hk, List.mem_cons, List.map_cons, not_or]
        constructor
        · rintro (⟨hw, hkey⟩ | ⟨hnot, hget⟩)
          · exact .inl ⟨.inr hw, hkey⟩
          · exact .inr ⟨⟨hk, hnot⟩, hget⟩
        · rintro (⟨rfl | hw, hkey⟩ | ⟨⟨-, hnot⟩, hget⟩)
          · exact absurd hkey (hne rfl)
          · exact .inl ⟨hw, hkey⟩
          · exact .inr ⟨hnot, hget⟩

/-- A table filled from the rows of another, in any order and each rewritten
under its own key, reads as the other does. -/
theorem get?_fill {υ' : Type v} {key' : υ' → κ} (t : Table κ υ key) {l : List υ}
    (hl : l.Perm t.values) (f : υ → υ') (hf : ∀ v, key' (f v) = key v) (k : κ) :
    ((l.map f).foldl put (empty : Table κ υ' key')).get? k = (t.get? k).map f := by
  have hkeys : (l.map f).map key' = l.map key := by
    rw [List.map_map]
    exact List.map_congr_left fun v _ => hf v
  have hnodup : ((l.map f).map key').Nodup := by
    rw [hkeys]
    exact (hl.map key).nodup_iff.mpr t.nodup_keys_values
  ext w
  rw [get?_foldl_put hnodup]
  simp only [get?_empty, reduceCtorEq, and_false, or_false, List.mem_map, Option.map_eq_some_iff]
  constructor
  · rintro ⟨⟨v, hv, rfl⟩, hkey⟩
    rw [hf] at hkey
    exact ⟨v, hkey ▸ (t.mem_values_iff v).mp (hl.mem_iff.mp hv), rfl⟩
  · rintro ⟨v, hv, rfl⟩
    have hkey := key_of_get? hv
    refine ⟨⟨v, hl.mem_iff.mpr ((t.mem_values_iff v).mpr ?_), rfl⟩, by rw [hf, hkey]⟩
    rwa [hkey]

/-- A table filled from the rows of another, in any order. -/
theorem get?_refill (t : Table κ υ key) {l : List υ} (hl : l.Perm t.values) (k : κ) :
    (l.foldl put (empty : Table κ υ key)).get? k = t.get? k := by
  have hfill := t.get?_fill hl id (fun _ => rfl) k
  rwa [List.map_id, Option.map_id] at hfill

/-- A new row is the last one searched. -/
theorem find?_put_new {t : Table κ υ key} {v : υ} (h : t.get? (key v) = none) (q : υ → Bool) :
    (t.put v).values.find? q = (t.values.find? q).or (if q v then some v else none) := by
  have hvalues : (t.put v).values = t.values ++ [v] :=
    OMap.values_set_of_not_mem t.rows v ((OMap.get?_eq_none_iff t.rows _).mp h)
  rw [hvalues, List.find?_append, List.find?_cons, List.find?_nil]
  cases q v <;> rfl

/-- Replacing a row by one the search treats alike replaces it in the
result. -/
theorem find?_put_same {t : Table κ υ key} {v w : υ} (h : t.get? (key v) = some w) {q : υ → Bool}
    (hq : q v = q w) :
    (t.put v).values.find? q = (t.values.find? q).map fun x => if key x = key v then v else x := by
  have hvalues : (t.put v).values =
      t.rows.entries.map fun e => if e.1 = key v then v else e.2 :=
    OMap.values_set_of_mem t.rows v ((OMap.get?_isSome_iff t.rows _).mp (by
      rw [show t.rows.get? (key v) = some w from h]; rfl))
  have hvalues' : t.values = t.rows.entries.map Prod.snd := rfl
  rw [hvalues, hvalues', List.find?_map, List.find?_map, Option.map_map]
  have hkeys : ∀ e ∈ t.rows.entries, key e.2 = e.1 := fun e he =>
    t.keyed e.1 e.2 ((OMap.get?_eq_some_iff t.rows e.1 e.2).mpr he)
  have hsame : ∀ e ∈ t.rows.entries, q (if e.1 = key v then v else e.2) = q e.2 := by
    intro e he
    split
    · next hk =>
        have hget : t.rows.get? e.1 = some e.2 := (OMap.get?_eq_some_iff t.rows e.1 e.2).mpr he
        have hw : e.2 = w := Option.some.inj (hget.symm.trans (hk ▸ h))
        rw [hq, hw]
    · rfl
  have hfind : List.find? (q ∘ fun e => if e.1 = key v then v else e.2) t.rows.entries =
      List.find? (q ∘ Prod.snd) t.rows.entries := by
    apply List.find?_congr
    exact fun e he => hsame e he
  rw [hfind]
  cases hres : List.find? (q ∘ Prod.snd) t.rows.entries with
  | none => rfl
  | some e =>
      have he := List.mem_of_find?_eq_some hres
      simp only [Option.map_some, Function.comp, hkeys e he]

end Table

end InspectionHub
