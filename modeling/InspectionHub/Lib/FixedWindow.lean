import Mathlib

/-!
# Fixed-window admission

Calls compete for slots, each of which admits a fixed number of them. What the
component is for: a call is admitted as long as its slot has room, whatever
became of the calls for other slots. `history` lists the calls with the number
their slot had admitted before.
-/

namespace InspectionHub.FixedWindow

universe u v

variable {α : Type u} {σ : Type v} [DecidableEq σ]

/-- The number of calls the slot has admitted. -/
def used (slot : α → Option σ) (limit : σ → Nat) (s : σ) (log : List (α × Nat)) : Nat :=
  log.countP fun e => slot e.1 = some s ∧ e.2 < limit s

/-- What has been taken of the slot that a call is for. -/
def taken (slot : α → Option σ) (limit : σ → Nat) (log : List (α × Nat)) (a : α) : Nat :=
  match slot a with
  | some s => used slot limit s log
  | none => 0

/-- The calls in order, each with what had been taken of its slot. -/
def history (slot : α → Option σ) (limit : σ → Nat) (calls : List α) : List (α × Nat) :=
  calls.foldl (fun log a => log ++ [(a, taken slot limit log a)]) []

variable {slot : α → Option σ} {limit : σ → Nat} {s : σ}

theorem taken_of {a : α} (h : slot a = some s) (log : List (α × Nat)) :
    taken slot limit log a = used slot limit s log := by
  unfold taken
  rw [h]

theorem history_snoc (calls : List α) (a : α) :
    history slot limit (calls ++ [a]) = history slot limit calls ++
      [(a, taken slot limit (history slot limit calls) a)] := by
  unfold history
  rw [List.foldl_append, List.foldl_cons, List.foldl_nil]

theorem used_snoc (log : List (α × Nat)) (e : α × Nat) :
    used slot limit s (log ++ [e]) =
      used slot limit s log + if slot e.1 = some s ∧ e.2 < limit s then 1 else 0 := by
  unfold used
  rw [List.countP_append, List.countP_singleton]
  simp only [decide_eq_true_eq]

variable (slot limit s) in
/-- A slot admits no more than its limit. -/
theorem used_le (calls : List α) : used slot limit s (history slot limit calls) ≤ limit s := by
  induction calls using List.reverseRecOn with
  | nil => exact Nat.zero_le _
  | append_singleton calls a ih =>
      rw [history_snoc, used_snoc]
      split
      · next hadmitted =>
          rw [taken_of hadmitted.1] at hadmitted
          exact hadmitted.2
      · exact ih

/-- What stands before a call is the history of the calls before it. -/
theorem history_split {calls : List α} {before after : List (α × Nat)} {e : α × Nat}
    (h : history slot limit calls = before ++ e :: after) :
    ∃ earlier, before = history slot limit earlier ∧ e.2 = taken slot limit before e.1 := by
  induction calls using List.reverseRecOn generalizing after with
  | nil => cases before <;> cases h
  | append_singleton calls a ih =>
      rw [history_snoc] at h
      rcases List.eq_nil_or_concat after with rfl | ⟨after, last, rfl⟩
      · obtain ⟨rfl, hlast⟩ := List.append_inj' h rfl
        cases hlast
        exact ⟨calls, rfl, rfl⟩
      · rw [List.concat_eq_append, ← List.cons_append, ← List.append_assoc] at h
        exact ih (List.append_inj' h rfl).1

/-- A call is turned away exactly when its slot is exhausted. -/
theorem refused_iff {calls : List α} {before after : List (α × Nat)} {e : α × Nat}
    (h : history slot limit calls = before ++ e :: after) (hslot : slot e.1 = some s) :
    limit s ≤ e.2 ↔ used slot limit s before = limit s := by
  obtain ⟨earlier, rfl, htaken⟩ := history_split h
  rw [taken_of hslot] at htaken
  have hle : used slot limit s (history slot limit earlier) ≤ limit s :=
    used_le slot limit s earlier
  omega

/-! ## Calls for other slots -/

variable {p : α → Bool}

/-- What is taken of a slot shows in the calls for it. -/
theorem used_filter (hp : ∀ a, slot a = some s → p a = true) (log : List (α × Nat)) :
    used slot limit s (log.filter fun e => p e.1) = used slot limit s log := by
  unfold used
  rw [List.countP_filter]
  refine List.countP_congr fun e _ => ?_
  simp only [Bool.and_eq_true, decide_eq_true_eq]
  exact ⟨fun h => h.1, fun h => ⟨h, hp e.1 h.1⟩⟩

/-- The calls for some of the slots fare as if they had been the only ones. -/
theorem history_filter (hp : ∀ a b s, slot a = some s → slot b = some s → p a = p b)
    (calls : List α) : (history slot limit calls).filter (fun e => p e.1) =
      history slot limit (calls.filter p) := by
  induction calls using List.reverseRecOn with
  | nil => rfl
  | append_singleton calls a ih =>
      rw [history_snoc, List.filter_append, List.filter_append, ih]
      by_cases ha : p a = true
      · have htaken : taken slot limit (history slot limit calls) a =
            taken slot limit (history slot limit (calls.filter p)) a := by
          cases hslot : slot a with
          | none => simp only [taken, hslot]
          | some s =>
              rw [taken_of hslot, taken_of hslot, ← ih]
              refine (used_filter (fun b hb => ?_) _).symm
              rw [hp b a s hb hslot, ha]
        rw [List.filter_singleton, List.filter_singleton, ha, cond_true, cond_true, history_snoc,
          htaken]
      · rw [List.filter_singleton, List.filter_singleton, Bool.eq_false_iff.mpr ha, cond_false,
          cond_false, List.append_nil, List.append_nil]

end InspectionHub.FixedWindow
