import InspectionHub.Lib.OMap

/-!
# Read-committed transactions

Transactions that each see the committed rows and their own. A row may be
inserted under a lock, named by a key of the row, that its transaction keeps
to its end; a row without a key takes none.

What is checked under the lock of a key holds of the rows of that key in every
view (`Serial.step`), as if the transactions ran one after another; nothing of
the kind is said of rows that take no lock.
-/

namespace InspectionHub

universe u v

/-- What a transaction has inserted, and the locks it holds. -/
structure Transaction (ρ : Type u) (κ : Type v) where
  rows : List ρ
  locks : List κ

def Transaction.idle {ρ : Type u} {κ : Type v} : Transaction ρ κ := ⟨[], []⟩

/-- What each commit made visible, oldest first, and the open transactions. -/
structure ReadCommitted (ρ : Type u) (κ : Type v) where
  commits : List (List ρ)
  transactions : OMap Nat (Transaction ρ κ)

namespace ReadCommitted

variable {ρ : Type u} {κ : Type v}

def empty : ReadCommitted ρ κ := ⟨[], .empty⟩

def committed (s : ReadCommitted ρ κ) : List ρ := s.commits.flatten

def transaction (s : ReadCommitted ρ κ) (t : Nat) : Transaction ρ κ :=
  (s.transactions.get? t).getD .idle

/-- What a statement of `t` sees. -/
def visible (s : ReadCommitted ρ κ) (t : Nat) : List ρ := s.committed ++ (s.transaction t).rows

def put (s : ReadCommitted ρ κ) (t : Nat) (x : Transaction ρ κ) : ReadCommitted ρ κ :=
  { s with transactions := s.transactions.set t x }

@[simp] theorem transaction_empty (t : Nat) :
    (empty : ReadCommitted ρ κ).transaction t = .idle := rfl

@[simp] theorem commits_put (s : ReadCommitted ρ κ) (t : Nat) (x : Transaction ρ κ) :
    (s.put t x).commits = s.commits := rfl

@[simp] theorem committed_put (s : ReadCommitted ρ κ) (t : Nat) (x : Transaction ρ κ) :
    (s.put t x).committed = s.committed := rfl

theorem transaction_put (s : ReadCommitted ρ κ) (t : Nat) (x : Transaction ρ κ) (t' : Nat) :
    (s.put t x).transaction t' = if t' = t then x else s.transaction t' := by
  unfold transaction put
  rw [OMap.get?_set]
  split <;> rfl

/-- Where no other transaction has inserted anything, no other has rows. -/
theorem rows_eq_nil {s : ReadCommitted ρ κ} {t : Nat}
    (h : ∀ p ∈ s.transactions.entries, p.1 ≠ t → p.2.rows = []) {t' : Nat} (hne : t' ≠ t) :
    (s.transaction t').rows = [] := by
  unfold transaction
  cases hget : s.transactions.get? t' with
  | none => rfl
  | some x => exact h (t', x) ((OMap.get?_eq_some_iff _ _ _).mp hget) hne

/-! ## Statements -/

variable [DecidableEq κ]

/-- Another transaction holds the lock. -/
def heldElsewhere (s : ReadCommitted ρ κ) (t : Nat) (k : κ) : Bool :=
  s.transactions.entries.any fun p => p.1 ≠ t ∧ k ∈ p.2.locks

theorem not_heldElsewhere {s : ReadCommitted ρ κ} {t : Nat} {k : κ}
    (h : s.heldElsewhere t k = false) {t' : Nat} (hne : t' ≠ t) :
    k ∉ (s.transaction t').locks := by
  intro hk
  unfold transaction at hk
  cases hget : s.transactions.get? t' with
  | none =>
      rw [hget] at hk
      cases hk
  | some x =>
      rw [hget] at hk
      have hentry := (OMap.get?_eq_some_iff _ _ _).mp hget
      have hheld : s.heldElsewhere t k = true :=
        List.any_eq_true.mpr ⟨(t', x), hentry, decide_eq_true ⟨hne, hk⟩⟩
      rw [h] at hheld
      cases hheld

section Statements

variable (clash : ρ → ρ → Prop) [DecidableRel clash] (key : ρ → Option κ)
  (check : List ρ → ρ → Bool)

/-- A row of another open transaction that the new one clashes with. -/
def clashesElsewhere (s : ReadCommitted ρ κ) (t : Nat) (row : ρ) : Bool :=
  s.transactions.entries.any fun p => p.1 ≠ t ∧ ∃ a ∈ p.2.rows, clash a row

/-- Insert a row. The statement waits for its lock, then checks what it sees,
then waits for an uncommitted row that it clashes with; a check that fails
aborts the transaction. -/
def insert (s : ReadCommitted ρ κ) (t : Nat) (row : ρ) : ReadCommitted ρ κ :=
  if (key row).any (s.heldElsewhere t) then s
  else if check (s.visible t) row ∧ ∀ a ∈ s.visible t, ¬ clash a row then
    let x := s.transaction t
    if s.clashesElsewhere clash t row then
      s.put t { x with locks := (key row).toList ++ x.locks }
    else s.put t ⟨x.rows ++ [row], (key row).toList ++ x.locks⟩
  else s.put t .idle

def commit (s : ReadCommitted ρ κ) (t : Nat) : ReadCommitted ρ κ :=
  { s.put t .idle with commits := s.commits ++ [(s.transaction t).rows] }

def rollback (s : ReadCommitted ρ κ) (t : Nat) : ReadCommitted ρ κ := s.put t .idle

/-- What an insert may do. -/
inductive Inserted (s : ReadCommitted ρ κ) (t : Nat) (row : ρ) : ReadCommitted ρ κ → Prop
  | waits : Inserted s t row s
  | aborts : Inserted s t row (s.put t .idle)
  | locks (free : ∀ k ∈ key row, ∀ t', t' ≠ t → k ∉ (s.transaction t').locks) :
      Inserted s t row (s.put t
        { s.transaction t with locks := (key row).toList ++ (s.transaction t).locks })
  | adds (free : ∀ k ∈ key row, ∀ t', t' ≠ t → k ∉ (s.transaction t').locks)
      (passes : check (s.visible t) row = true) :
      Inserted s t row (s.put t
        ⟨(s.transaction t).rows ++ [row], (key row).toList ++ (s.transaction t).locks⟩)

theorem inserted (s : ReadCommitted ρ κ) (t : Nat) (row : ρ) :
    Inserted key check s t row (s.insert clash key check t row) := by
  unfold insert
  split
  · exact .waits
  · next hheld =>
      have hfree : ∀ k ∈ key row, ∀ t', t' ≠ t → k ∉ (s.transaction t').locks := by
        intro k hk t' hne
        refine not_heldElsewhere ?_ hne
        rw [Option.mem_def.mp hk] at hheld
        exact Bool.not_eq_true _ ▸ hheld
      split
      · next hpasses =>
          dsimp only
          split
          · exact .locks hfree
          · exact .adds hfree hpasses.1
      · exact .aborts

end Statements

/-! ## Rows under a lock -/

/-- The rows of a key. -/
def rowsOf (key : ρ → Option κ) (k : κ) (l : List ρ) : List ρ := l.filter fun row => key row = some k

@[simp] theorem rowsOf_append (key : ρ → Option κ) (k : κ) (l l' : List ρ) :
    rowsOf key k (l ++ l') = rowsOf key k l ++ rowsOf key k l' := List.filter_append _ _

theorem rowsOf_cons (key : ρ → Option κ) (k : κ) (row : ρ) (l : List ρ) :
    rowsOf key k (row :: l) = if key row = some k then row :: rowsOf key k l else rowsOf key k l := by
  simp only [rowsOf, List.filter_cons, decide_eq_true_eq]

theorem rowsOf_singleton (key : ρ → Option κ) (k : κ) (row : ρ) :
    rowsOf key k [row] = if key row = some k then [row] else [] := rowsOf_cons key k row []

/-- Locks are exclusive, uncommitted rows are locked, and what is checked under
the lock of a key holds of its rows in every view. -/
structure Serial (key : ρ → Option κ) (P : κ → List ρ → Prop) (s : ReadCommitted ρ κ) : Prop where
  exclusive : ∀ t t' k, k ∈ (s.transaction t).locks → k ∈ (s.transaction t').locks → t = t'
  locked : ∀ t, ∀ row ∈ (s.transaction t).rows, ∀ k ∈ key row, k ∈ (s.transaction t).locks
  committed : ∀ k, P k (rowsOf key k s.committed)
  views : ∀ t k, P k (rowsOf key k (s.visible t))

variable {clash : ρ → ρ → Prop} [DecidableRel clash] {key : ρ → Option κ}
  {check : List ρ → ρ → Bool} {P : κ → List ρ → Prop} {s : ReadCommitted ρ κ}

theorem Serial.empty (hnil : ∀ k, P k []) : Serial key P (empty : ReadCommitted ρ κ) where
  exclusive _ _ _ h := nomatch h
  locked _ _ h := nomatch h
  committed := hnil
  views _ := hnil

/-- A transaction that ends without committing leaves its rows and locks. -/
theorem Serial.idle (h : Serial key P s) (t : Nat) : Serial key P (s.put t .idle) := by
  refine ⟨?_, ?_, h.committed, ?_⟩
  · intro t₁ t₂ k h₁ h₂
    rw [transaction_put] at h₁ h₂
    split at h₁
    · cases h₁
    · split at h₂
      · cases h₂
      · exact h.exclusive t₁ t₂ k h₁ h₂
  · intro t' row hrow
    rw [transaction_put] at hrow ⊢
    split at hrow
    · cases hrow
    · next hne =>
        rw [if_neg hne]
        exact h.locked t' row hrow
  · intro t' k
    rw [visible, committed_put, transaction_put]
    split
    · rw [Transaction.idle, List.append_nil]
      exact h.committed k
    · exact h.views t' k

/-- A transaction that takes a free lock, and may add rows under its locks. -/
theorem Serial.grow (h : Serial key P s) (t : Nat) {held : Option κ}
    (free : ∀ k ∈ held, ∀ t', t' ≠ t → k ∉ (s.transaction t').locks) {rows : List ρ}
    (hlocked : ∀ row ∈ rows, ∀ k ∈ key row, k ∈ held.toList ++ (s.transaction t).locks)
    (hviews : ∀ k, P k (rowsOf key k (s.committed ++ rows))) :
    Serial key P (s.put t ⟨rows, held.toList ++ (s.transaction t).locks⟩) := by
  have hfree : ∀ t', t' ≠ t → ∀ k ∈ held.toList ++ (s.transaction t).locks,
      k ∉ (s.transaction t').locks := by
    intro t' hne k hk hk'
    rcases List.mem_append.mp hk with hk | hk
    · exact free k (Option.mem_toList.mp hk) t' hne hk'
    · exact hne (h.exclusive t' t k hk' hk)
  refine ⟨?_, ?_, h.committed, ?_⟩
  · intro t₁ t₂ k h₁ h₂
    rw [transaction_put] at h₁ h₂
    by_cases e₁ : t₁ = t <;> by_cases e₂ : t₂ = t
    · rw [e₁, e₂]
    · rw [if_pos e₁] at h₁
      rw [if_neg e₂] at h₂
      exact absurd h₂ (hfree t₂ e₂ k h₁)
    · rw [if_neg e₁] at h₁
      rw [if_pos e₂] at h₂
      exact absurd h₁ (hfree t₁ e₁ k h₂)
    · rw [if_neg e₁] at h₁
      rw [if_neg e₂] at h₂
      exact h.exclusive t₁ t₂ k h₁ h₂
  · intro t' row hrow
    rw [transaction_put] at hrow ⊢
    split at hrow
    · next heq =>
        rw [if_pos heq]
        exact hlocked row hrow
    · next hne =>
        rw [if_neg hne]
        exact h.locked t' row hrow
  · intro t' k
    rw [visible, committed_put, transaction_put]
    split
    · exact hviews k
    · exact h.views t' k

theorem Serial.insert (h : Serial key P s)
    (hcheck : ∀ k l row, key row = some k → check l row = true → P k (rowsOf key k l) →
      P k (rowsOf key k l ++ [row])) (t : Nat) (row : ρ) :
    Serial key P (s.insert clash key check t row) := by
  have hinserted := inserted clash key check s t row
  generalize s.insert clash key check t row = s' at hinserted ⊢
  cases hinserted with
  | waits => exact h
  | aborts => exact h.idle t
  | locks free =>
      refine h.grow t free (fun row' hrow' k hk => ?_) (h.views t)
      exact List.mem_append_right _ (h.locked t row' hrow' k hk)
  | adds free passes =>
      refine h.grow t free (fun row' hrow' k hk => ?_) (fun k => ?_)
      · rcases List.mem_append.mp hrow' with hrow' | hrow'
        · exact List.mem_append_right _ (h.locked t row' hrow' k hk)
        · cases List.mem_singleton.mp hrow'
          exact List.mem_append_left _ (Option.mem_toList.mpr hk)
      · rw [← List.append_assoc, rowsOf_append, rowsOf_singleton]
        split
        · next hkey => exact hcheck k _ row hkey passes (h.views t k)
        · rw [List.append_nil]
          exact h.views t k

/-- While a transaction has uncommitted rows of a key, no other has any. -/
theorem Serial.rowsOf_other (h : Serial key P s) {t t' : Nat} (hne : t' ≠ t) (k : κ) :
    rowsOf key k (s.transaction t).rows = [] ∨ rowsOf key k (s.transaction t').rows = [] := by
  by_contra hboth
  rw [not_or] at hboth
  obtain ⟨row, hrow⟩ := List.exists_mem_of_ne_nil _ hboth.1
  obtain ⟨row', hrow'⟩ := List.exists_mem_of_ne_nil _ hboth.2
  obtain ⟨hrow, hk⟩ := List.mem_filter.mp hrow
  obtain ⟨hrow', hk'⟩ := List.mem_filter.mp hrow'
  refine hne (h.exclusive t' t k (h.locked t' row' hrow' k ?_) (h.locked t row hrow k ?_))
  · exact of_decide_eq_true hk'
  · exact of_decide_eq_true hk

theorem Serial.commit (h : Serial key P s) (t : Nat) : Serial key P (s.commit t) := by
  have hcommitted : (s.commit t).committed = s.visible t := by
    rw [ReadCommitted.commit, ReadCommitted.committed, List.flatten_append, List.flatten_singleton]
    rfl
  have hidle := h.idle t
  refine ⟨hidle.exclusive, hidle.locked, fun k => hcommitted ▸ h.views t k, fun t' k => ?_⟩
  have hrows : ((s.commit t).transaction t').rows = if t' = t then [] else (s.transaction t').rows := by
    show ((s.put t .idle).transaction t').rows = _
    rw [transaction_put]
    split <;> rfl
  rw [visible, hcommitted, hrows, rowsOf_append]
  split
  · rw [rowsOf, rowsOf, List.filter_nil, List.append_nil]
    exact h.views t k
  · next hne =>
      rcases h.rowsOf_other hne k with hnone | hnone
      · rw [visible, rowsOf_append, hnone, List.append_nil, ← rowsOf_append]
        exact h.views t' k
      · rw [hnone, List.append_nil]
        exact h.views t k

end ReadCommitted

end InspectionHub
