import InspectionHub.Lib.Json
import InspectionHub.Lib.Numbered

/-!
# Tables of a relational store

A `Table` is the list of its rows, in the order they were inserted, with the
proof that no two of them violate a uniqueness constraint; `clash` says when
two rows would. Inserting checks the constraint and raises where it fails.

A function of the store takes its tables and returns them changed, in
`Except`: what a call wrote before it raised is gone with the error, as a
statement's rollback leaves it.
-/

namespace InspectionHub.Sql

universe u v w

/-- What a statement raises. -/
structure Error where
  errcode : String
  message : String
  deriving DecidableEq, Repr

/-- `if c then raise exception …` -/
def raiseIf (c : Prop) [Decidable c] (errcode message : String) : Except Error Unit :=
  if c then .error ⟨errcode, message⟩ else .ok ()

section Checks

variable {α β : Type u} {ε : Type v}

theorem bind_ok {x : Except ε α} {f : α → Except ε β} {b : β} (h : (x >>= f) = .ok b) :
    ∃ a, x = .ok a ∧ f a = .ok b := by
  cases x with
  | error e => cases h
  | ok a => exact ⟨a, rfl, h⟩

/-- Past a step that returned. -/
theorem bind_of {x : Except ε α} {a : α} (h : x = .ok a) (f : α → Except ε β) :
    (x >>= f) = f a := by
  rw [h]
  rfl

/-- What `Except.map` returns. -/
theorem map_ok {f : α → β} {x : Except ε α} {b : β} (h : x.map f = .ok b) :
    ∃ a, x = .ok a ∧ f a = b := by
  cases x with
  | error e => cases h
  | ok a =>
      cases h
      exact ⟨a, rfl, rfl⟩

end Checks

theorem raiseIf_ok {c : Prop} [Decidable c] {errcode message : String} {u : Unit}
    (h : raiseIf c errcode message = .ok u) : ¬ c := by
  unfold raiseIf at h
  split at h
  · cases h
  · assumption

theorem raiseIf_of {c : Prop} [Decidable c] (h : ¬ c) (errcode message : String) :
    raiseIf c errcode message = .ok () := if_neg h

/-- Past a check that did not raise. -/
theorem check_ok {β : Type} {c : Prop} [Decidable c] {errcode message : String}
    {f : Unit → Except Error β} {b : β} (h : (raiseIf c errcode message >>= f) = .ok b) :
    ¬ c ∧ f () = .ok b := by
  obtain ⟨u, hcheck, hrest⟩ := bind_ok h
  exact ⟨raiseIf_ok hcheck, hrest⟩

theorem check_of {β : Type} {c : Prop} [Decidable c] (h : ¬ c) (errcode message : String)
    (f : Unit → Except Error β) : (raiseIf c errcode message >>= f) = f () :=
  bind_of (raiseIf_of h errcode message) f

theorem raiseIf_ok_iff {c : Prop} [Decidable c] {errcode message : String} :
    raiseIf c errcode message = .ok () ↔ ¬ c :=
  ⟨raiseIf_ok, fun h => raiseIf_of h errcode message⟩

theorem check_ok_iff {β : Type} {c : Prop} [Decidable c] {errcode message : String}
    {f : Unit → Except Error β} {b : β} :
    (raiseIf c errcode message >>= f) = .ok b ↔ ¬ c ∧ f () = .ok b :=
  ⟨check_ok, fun ⟨h, hrest⟩ => (check_of h errcode message f).trans hrest⟩

theorem eq_ok_of_isOk {x : Except Error Unit} (h : x.isOk = true) : x = .ok () := by
  cases x with
  | ok u => rfl
  | error e => cases h

/-- A value for a column that is not null. -/
def notNull {α : Type u} (column : String) : Option α → Except Error α
  | some a => .ok a
  | none => .error ⟨"23502", column⟩

theorem notNull_ok {α : Type u} {column : String} {o : Option α} {a : α}
    (h : notNull column o = .ok a) : o = some a := by
  cases o with
  | none => cases h
  | some b =>
      cases h
      rfl

/-- A loop that did not raise raised at no element. -/
theorem forM_ok {α : Type u} {f : α → Except Error Unit} {l : List α}
    (h : l.forM f = .ok ()) : ∀ a ∈ l, f a = .ok () := by
  induction l with
  | nil => exact fun _ ha => nomatch ha
  | cons a l ih =>
      obtain ⟨⟨⟩, hfirst, hrest⟩ := bind_ok h
      intro b hb
      rcases List.mem_cons.mp hb with rfl | hb
      · exact hfirst
      · exact ih hrest b hb

/-- A loop whose passes leave a part alone leaves it alone. -/
theorem foldlM_keeps {α β : Type u} {γ : Type v} {f : β → α → Except Error β} {part : β → γ}
    (hf : ∀ b a b', f b a = .ok b' → part b' = part b) {l : List α} {b b' : β}
    (h : l.foldlM f b = .ok b') : part b' = part b := by
  induction l generalizing b with
  | nil =>
      cases h
      rfl
  | cons a l ih =>
      rw [List.foldlM_cons] at h
      obtain ⟨mid, hfirst, hrest⟩ := bind_ok h
      rw [ih hrest, hf b a mid hfirst]

/-! ## Tables -/

/-- Rows no two of which clash. -/
structure Table (ρ : Type u) (clash : ρ → ρ → Prop) where
  rows : List ρ
  distinct : rows.Pairwise fun a b => ¬ clash a b

namespace Table

variable {ρ : Type u} {clash : ρ → ρ → Prop}

def empty : Table ρ clash := ⟨[], .nil⟩

@[simp] theorem rows_empty : (empty : Table ρ clash).rows = [] := rfl

/-- The table with one more row, which clashes with none that is there. -/
def snoc (t : Table ρ clash) (r : ρ) (h : ∀ a ∈ t.rows, ¬ clash a r) : Table ρ clash :=
  ⟨t.rows ++ [r], List.pairwise_append.mpr
    ⟨t.distinct, List.pairwise_singleton _ r, fun a ha _ hb => List.mem_singleton.mp hb ▸ h a ha⟩⟩

/-- Append a row, unless it clashes with one that is there. -/
def insert [DecidableRel clash] (t : Table ρ clash) (constraint : String) (r : ρ) :
    Except Error { t' : Table ρ clash // t'.rows = t.rows ++ [r] } :=
  if h : ∀ a ∈ t.rows, ¬ clash a r then .ok ⟨t.snoc r h, rfl⟩
  else .error ⟨"23505", constraint⟩

/-- Rewrite rows without creating a clash. -/
def map (t : Table ρ clash) (f : ρ → ρ) (hf : ∀ a b, clash (f a) (f b) → clash a b) :
    Table ρ clash :=
  ⟨t.rows.map f, List.pairwise_map.mpr (t.distinct.imp fun h hclash => h (hf _ _ hclash))⟩

/-- The rows that meet a condition. -/
def filter (t : Table ρ clash) (p : ρ → Bool) : Table ρ clash :=
  ⟨t.rows.filter p, t.distinct.filter p⟩

theorem insert_ok [DecidableRel clash] {t : Table ρ clash} {constraint : String} {r : ρ}
    {t' : { t' : Table ρ clash // t'.rows = t.rows ++ [r] }} (h : t.insert constraint r = .ok t') :
    ∀ a ∈ t.rows, ¬ clash a r := by
  unfold insert at h
  split at h
  · assumption
  · cases h

theorem insert_of [DecidableRel clash] {t : Table ρ clash} {r : ρ}
    (h : ∀ a ∈ t.rows, ¬ clash a r) (constraint : String) :
    t.insert constraint r = .ok ⟨t.snoc r h, rfl⟩ := dif_pos h

/-- A row that was appended clashes with none before it. -/
theorem fresh_of_snoc {t t' : Table ρ clash} {r : ρ} (h : t'.rows = t.rows ++ [r]) :
    ∀ a ∈ t.rows, ¬ clash a r := by
  intro a ha
  have hdistinct := t'.distinct
  rw [h, List.pairwise_append] at hdistinct
  exact hdistinct.2.2 a ha r (List.mem_singleton_self r)

theorem nodup_map {κ : Type w} (t : Table ρ clash) {f : ρ → κ}
    (hf : ∀ a b, f a = f b → clash a b) : (t.rows.map f).Nodup :=
  List.pairwise_map.mpr (t.distinct.imp fun hclash heq => hclash (hf _ _ heq))

/-- What two rows may not share is held by one row. -/
theorem eq_of_key {κ : Type w} (t : Table ρ clash) {f : ρ → κ} (hf : ∀ a b, f a = f b → clash a b)
    {a b : ρ} (ha : a ∈ t.rows) (hb : b ∈ t.rows) (h : f a = f b) : a = b := by
  exact List.inj_on_of_nodup_map (t.nodup_map hf) ha hb h

/-- A loop that inserts a row for each element appends those rows. -/
theorem foldlM_insert [DecidableRel clash] {α : Type w} {constraint : String} {f : α → ρ}
    {l : List α} {t t' : Table ρ clash}
    (h : l.foldlM (fun t a => do
        let next ← t.insert constraint (f a)
        return next.1) t = .ok t') : t'.rows = t.rows ++ l.map f := by
  induction l generalizing t with
  | nil =>
      cases h
      exact (List.append_nil _).symm
  | cons a l ih =>
      rw [List.foldlM_cons] at h
      obtain ⟨u, hu, hrest⟩ := bind_ok h
      obtain ⟨next, -, hnext⟩ := bind_ok hu
      cases hnext
      rw [ih hrest, next.2, List.append_assoc, List.map_cons, List.singleton_append]

end Table

/-! ## Conditions -/

/-- `a or b or …` of conditions that may be unknown: true when one of them is. -/
def anyTrue (l : List (Option Bool)) : Bool := l.contains (some true)

/-! ## Texts -/

/-- Texts with a separator between them. -/
def separated (separator : String) : List String → String
  | [] => ""
  | [a] => a
  | a :: b :: l => a ++ separator ++ separated separator (b :: l)

/-- `concat_ws(separator, …)`: absent values are skipped. -/
def concatWs (separator : String) (l : List (Option String)) : String :=
  separated separator (l.filterMap id)

/-- `string_agg(text, separator)`: of no rows it is absent. -/
def stringAgg (separator : String) (l : List String) : Option String :=
  if l.isEmpty then none else some (separated separator l)

/-- `n::text` -/
def natText (n : Nat) : String := String.ofList (Json.natText n)

theorem natText_injective : Function.Injective natText :=
  fun _ _ h => Json.natText_injective (String.ofList_injective h)

/-- `text like pattern`: `%` stands for any characters, `_` for one, and a
character after a backslash for itself. -/
def like : List Char → List Char → Bool
  | [], [] => true
  | _ :: _, [] => false
  | [], '%' :: p => like [] p
  | c :: s, '%' :: p => like (c :: s) p || like s ('%' :: p)
  | [], _ :: _ => false
  | c :: s, '\\' :: d :: p => c == d && like s p
  | c :: s, d :: p => (d == '_' || c == d) && like s p
termination_by s p => s.length + p.length

/-- A character that stands for itself in a pattern. -/
def plain (c : Char) : Prop := c ≠ '%' ∧ c ≠ '_' ∧ c ≠ '\\'

instance (c : Char) : Decidable (plain c) := inferInstanceAs (Decidable (_ ∧ _))

/-- A text whose characters all stand for themselves. -/
def Plain (s : String) : Prop := ∀ c ∈ s.toList, plain c

instance (s : String) : Decidable (Plain s) := List.decidableBAll _ s.toList

theorem Plain.append {s t : String} (hs : Plain s) (ht : Plain t) : Plain (s ++ t) := by
  intro c hc
  rw [String.toList_append, List.mem_append] at hc
  exact hc.elim (hs c) (ht c)

theorem like_cons {c d : Char} (h : plain d) (s p : List Char) :
    like (c :: s) (d :: p) = (c == d && like s p) := by
  rw [like]
  · rw [beq_false_of_ne h.2.1, Bool.false_or]
  · exact fun heq => absurd heq h.1
  · exact fun _ _ heq => absurd heq h.2.2

theorem like_all (s : List Char) : like s ['%'] = true := by
  induction s with
  | nil => rw [like, like]
  | cons c s ih => rw [like, ih, Bool.or_true]

/-- A pattern of plain characters with `%` at its end is a prefix test. -/
theorem like_prefix {p : List Char} (h : ∀ c ∈ p, plain c) (s : List Char) :
    like s (p ++ ['%']) = true ↔ p <+: s := by
  induction p generalizing s with
  | nil => exact ⟨fun _ => List.nil_prefix, fun _ => like_all s⟩
  | cons d p ih =>
      have hd := h d List.mem_cons_self
      cases s with
      | nil =>
          rw [List.cons_append, like]
          · simp
          · exact fun heq => absurd heq hd.1
      | cons c s =>
          rw [List.cons_append, like_cons hd, Bool.and_eq_true, beq_iff_eq,
            ih (fun e he => h e (List.mem_cons_of_mem _ he)), List.cons_prefix_cons, eq_comm]

/-! ## Queries -/

section Queries

variable {α : Type u} {β : Type v} {κ : Type w}

/-- `from a join b on …` -/
def join (on : α → β → Bool) (as : List α) (bs : List β) : List (α × β) :=
  as.flatMap fun a => (bs.filter (on a)).map fun b => (a, b)

theorem mem_join {on : α → β → Bool} {as : List α} {bs : List β} {r : α × β} :
    r ∈ join on as bs ↔ r.1 ∈ as ∧ r.2 ∈ bs ∧ on r.1 r.2 = true := by
  simp only [join, List.mem_flatMap, List.mem_map, List.mem_filter]
  constructor
  · rintro ⟨a, ha, b, ⟨hb, hon⟩, rfl⟩
    exact ⟨ha, hb, hon⟩
  · rintro ⟨ha, hb, hon⟩
    exact ⟨r.1, ha, r.2, ⟨hb, hon⟩, rfl⟩

/-- Where a row has at most one partner, joining keeps each at most once. -/
theorem sublist_of_join {on : α → β → Bool} (as : List α) {bs : List β}
    (h : ∀ a, (bs.filter (on a)).length ≤ 1) : ((join on as bs).map Prod.fst).Sublist as := by
  induction as with
  | nil => exact List.Sublist.refl _
  | cons a as ih =>
      have hcons : (join on (a :: as) bs).map Prod.fst =
          (bs.filter (on a)).map (fun _ => a) ++ (join on as bs).map Prod.fst := by
        simp [join, Function.comp_def]
      rw [hcons]
      have hpartner := h a
      match hp : bs.filter (on a), hpartner with
      | [], _ => exact ih.cons a
      | [b], _ => exact ih.cons_cons a

/-- A key is matched at most once among rows with distinct keys. -/
theorem length_filter_key_le_one [DecidableEq κ] {f : β → κ} {bs : List β}
    (h : (bs.map f).Nodup) (on : β → Bool) {k : κ} (hon : ∀ b, on b = true → f b = k) :
    (bs.filter on).length ≤ 1 := by
  have hnodup : ((bs.filter on).map f).Nodup := h.sublist ((List.filter_sublist).map f)
  have hall : ∀ b ∈ bs.filter on, f b = k := fun b hb => hon b (List.mem_filter.mp hb).2
  match hf : bs.filter on with
  | [] => exact Nat.zero_le 1
  | [b] => exact Nat.le_refl 1
  | b :: b' :: rest =>
      rw [hf] at hnodup hall
      have heq : f b = f b' := by
        rw [hall b List.mem_cons_self, hall b' (List.mem_cons_of_mem _ List.mem_cons_self)]
      rw [List.map_cons, List.map_cons, heq, List.nodup_cons] at hnodup
      exact absurd List.mem_cons_self hnodup.1

/-- A key that is there is matched by one row. -/
theorem filter_key_eq_singleton [DecidableEq κ] {f : β → κ} {bs : List β} (h : (bs.map f).Nodup)
    {k : κ} (hk : k ∈ bs.map f) : ∃ b, f b = k ∧ bs.filter (fun b => f b = k) = [b] := by
  obtain ⟨b, hb, rfl⟩ := List.mem_map.mp hk
  refine ⟨b, rfl, ?_⟩
  have hmem : b ∈ bs.filter fun b' => f b' = f b :=
    List.mem_filter.mpr ⟨hb, decide_eq_true rfl⟩
  have hlength := length_filter_key_le_one h (fun b' => decide (f b' = f b)) (k := f b)
    fun b' hb' => of_decide_eq_true hb'
  match hf : bs.filter fun b' => decide (f b' = f b) with
  | [] => exact absurd (hf ▸ hmem) List.not_mem_nil
  | [b'] =>
      rw [hf] at hmem
      rw [List.mem_singleton.mp hmem]
  | _ :: _ :: _ =>
      rw [hf] at hlength
      exact absurd hlength (by simp)

/-- Of rows written one for each row of another table, one is a row's own. -/
theorem filter_parallel {κ' : Type w} [DecidableEq κ'] {f : β → κ} {g : α → κ} {as : List α}
    {bs : List β} (h : bs.map f = as.map g) (key : κ → κ')
    (hn : (as.map fun a => key (g a)).Nodup) {a : α} (ha : a ∈ as) :
    ∃ b, f b = g a ∧ bs.filter (fun b => key (f b) = key (g a)) = [b] := by
  have hkeys : (bs.map fun b => key (f b)) = as.map fun a => key (g a) := by
    simpa only [List.map_map, Function.comp_def] using congrArg (List.map key) h
  obtain ⟨b, hb, hfb⟩ := List.mem_map.mp (h ▸ List.mem_map_of_mem ha : g a ∈ bs.map f)
  obtain ⟨b', -, hfilter⟩ := filter_key_eq_singleton (f := fun b => key (f b)) (hkeys ▸ hn)
    (hkeys ▸ List.mem_map_of_mem (f := fun a => key (g a)) ha)
  have hmem : b ∈ bs.filter fun b => key (f b) = key (g a) :=
    List.mem_filter.mpr ⟨hb, decide_eq_true (congrArg key hfb)⟩
  rw [hfilter] at hmem ⊢
  rw [List.mem_singleton.mp hmem] at hfb
  exact ⟨b', hfb, rfl⟩

/-- Joining on a key of the other table keeps each row at most once. -/
theorem sublist_of_join_key [DecidableEq κ] (on : α → β → Bool) {f : β → κ} {k : α → κ}
    (as : List α) {bs : List β} (h : (bs.map f).Nodup) (hon : ∀ a b, on a b = true → f b = k a) :
    ((join on as bs).map Prod.fst).Sublist as :=
  sublist_of_join as fun a => length_filter_key_le_one h (on a) (hon a)

/-- `coalesce(max(…), 0)` -/
def maxOf (l : List Nat) : Nat := l.foldr max 0

theorem maxOf_range' (n : Nat) : maxOf (List.range' 1 n) = n := by
  induction n with
  | zero => rfl
  | succ n ih =>
      have happend : ∀ l : List Nat, ∀ k, maxOf (l ++ [k]) = max (maxOf l) k := by
        intro l k
        induction l with
        | nil => simp [maxOf]
        | cons a l ihl =>
            simp only [maxOf, List.cons_append, List.foldr_cons] at ihl ⊢
            rw [ihl, Nat.max_assoc]
      rw [List.range'_concat, happend, ih]
      omega

/-- The next number of a stream that is numbered from one. -/
theorem maxOf_numbered {number : α → Nat} {l : List α} (h : Numbered number l) :
    maxOf (l.map number) = l.length := by
  rw [h, maxOf_range']

/-- The row with the greatest number of a numbered stream is its last. -/
theorem find?_maxOf_numbered {number : α → Nat} {l : List α} (h : Numbered number l) :
    (l.find? fun a => number a = maxOf (l.map number)) = l.getLast? := by
  rw [maxOf_numbered h]
  induction l using List.reverseRecOn with
  | nil => rfl
  | append_singleton l a _ =>
      have hnumbers := h
      rw [Numbered, List.map_append, List.length_append, List.map_singleton, List.length_singleton,
        List.range'_concat] at hnumbers
      obtain ⟨hinit, hlast⟩ := List.append_inj' hnumbers rfl
      have hnone : l.find? (fun b => number b = (l ++ [a]).length) = none := by
        refine List.find?_eq_none.mpr fun b hb => ?_
        have hmem : number b ∈ List.range' 1 l.length := hinit ▸ List.mem_map_of_mem hb
        rw [List.mem_range'_1] at hmem
        rw [decide_eq_true_iff, List.length_append, List.length_singleton]
        omega
      have hnumber : number a = (l ++ [a]).length := by
        have heq := List.head_eq_of_cons_eq hlast
        rw [heq, List.length_append, List.length_singleton]
        omega
      rw [List.find?_append, hnone, List.getLast?_concat, Option.none_or, List.find?_cons,
        decide_eq_true hnumber]

/-- The last of a numbered stream carries its length. -/
theorem number_getLast {number : α → Nat} {l : List α} (h : Numbered number l) {a : α}
    (ha : l.getLast? = some a) : number a = l.length := by
  rw [← find?_maxOf_numbered h] at ha
  have hfound : number a = maxOf (l.map number) := by simpa using List.find?_some ha
  rw [hfound, maxOf_numbered h]

theorem le_maxOf {l : List Nat} {k : Nat} (h : k ∈ l) : k ≤ maxOf l := by
  induction l with
  | nil => cases h
  | cons a l ih =>
      rw [maxOf, List.foldr_cons]
      rcases List.mem_cons.mp h with rfl | h
      · exact Nat.le_max_left _ _
      · exact Nat.le_trans (ih h) (Nat.le_max_right _ _)

theorem maxOf_le {l : List Nat} {n : Nat} (h : ∀ k ∈ l, k ≤ n) : maxOf l ≤ n := by
  induction l with
  | nil => exact Nat.zero_le n
  | cons a l ih =>
      rw [maxOf, List.foldr_cons]
      exact Nat.max_le.mpr ⟨h a List.mem_cons_self, ih fun k hk => h k (List.mem_cons_of_mem _ hk)⟩

/-- `order by … desc limit 1` -/
def topBy (number : α → Nat) (l : List α) : Option α :=
  l.find? fun a => l.all fun b => number b ≤ number a

/-- The row on top of a stream that is numbered from nought is its last. -/
theorem topBy_numbered {number : α → Nat} {l : List α} (h : Numbered (fun a => number a + 1) l) :
    topBy number l = l.getLast? := by
  rw [← find?_maxOf_numbered h, maxOf_numbered h, topBy]
  have hle : ∀ b ∈ l, number b + 1 ≤ l.length := by
    intro b hb
    rw [← maxOf_numbered h]
    exact le_maxOf (List.mem_map_of_mem (f := fun a => number a + 1) hb)
  refine List.find?_congr fun a ha => ?_
  rw [Bool.eq_iff_iff, List.all_eq_true, decide_eq_true_iff]
  constructor
  · intro htop
    obtain ⟨last, hlast⟩ := Option.isSome_iff_exists.mp
      (List.getLast?_isSome.mpr (List.ne_nil_of_mem ha))
    have hnumber := number_getLast h hlast
    have hbound := of_decide_eq_true (htop last (List.mem_of_getLast? hlast))
    have := hle a ha
    omega
  · intro hlength b hb
    have := hle b hb
    exact decide_eq_true (by omega)

end Queries

end InspectionHub.Sql
