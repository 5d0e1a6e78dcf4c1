import Mathlib

/-!
# Regular expressions with word boundaries

What an expression matches (`Matches`, `Occurs`) and a matcher that decides it
(`test`). A match depends on the character before it and on the text behind
it, through the boundaries of words only. Repetition is of a single
character class.

`foldCase` and `isWordChar` are those of the flags `iu` for expressions whose
letters are of the basic alphabet.
-/

namespace InspectionHub

inductive Regex where
  | empty
  /-- One character of a class. -/
  | one (p : Char → Bool)
  /-- Any number of characters of a class. -/
  | many (p : Char → Bool)
  /-- `\b` -/
  | boundary
  /-- `\b`, for the given word characters. -/
  | edge (word : Char → Bool)
  | seq (a b : Regex)
  | alt (a b : Regex)

namespace Regex

/-! ## Characters -/

/-- The letter that is compared: besides the capitals, the long s and the
Kelvin sign fold to letters of the basic alphabet. -/
def foldCase (c : Char) : Char :=
  if 'A' ≤ c ∧ c ≤ 'Z' then Char.ofNat (c.toNat + 32)
  else if c.toNat = 0x17F then 's'
  else if c.toNat = 0x212A then 'k'
  else c

/-- `\w` -/
def isWordChar (c : Char) : Bool :=
  ('a' ≤ foldCase c && foldCase c ≤ 'z') || ('0' ≤ c && c ≤ '9') || c = '_'

/-- `.` -/
def isNoLineEnd (c : Char) : Bool :=
  c ≠ '\n' && c ≠ '\r' && c.toNat ≠ 0x2028 && c.toNat ≠ 0x2029

/-- Whether a word starts or ends between two neighbours. -/
def atEdge (word : Char → Bool) (before after : Option Char) : Bool :=
  before.any word != after.any word

def atBoundary (before after : Option Char) : Bool := atEdge isWordChar before after

/-- What stands before the text that follows `mid`. -/
def lastOf (before : Option Char) (mid : List Char) : Option Char := mid.getLast?.or before

@[simp] theorem lastOf_nil (before : Option Char) : lastOf before [] = before := rfl

theorem lastOf_append (before : Option Char) (l m : List Char) :
    lastOf before (l ++ m) = lastOf (lastOf before l) m := by
  rw [lastOf, lastOf, lastOf, List.getLast?_append, Option.or_assoc]

theorem lastOf_cons (before : Option Char) (c : Char) (l : List Char) :
    lastOf before (c :: l) = lastOf (some c) l := lastOf_append before [c] l

/-! ## Common expressions -/

/-- A text in lower case, its letters of either case. -/
def literal (s : String) : Regex :=
  s.toList.foldr (fun c e => .seq (.one fun d => foldCase d = c) e) .empty

/-- One of some characters in lower case. -/
def oneOf (s : String) : Regex := .one fun d => foldCase d ∈ s.toList

/-- `e?` -/
def opt (e : Regex) : Regex := .alt e .empty

/-- `(?:a|b|…)` -/
def anyOf : List Regex → Regex
  | [] => .one fun _ => false
  | e :: l => .alt e (anyOf l)

/-- `\b(…)\b` -/
def wordOf (e : Regex) : Regex := .seq .boundary (.seq e .boundary)

/-! ## Matches -/

/-- `e` matches `mid`, with `before` in front and `rest` behind it. -/
def Matches : Regex → Option Char → List Char → List Char → Prop
  | .empty, _, mid, _ => mid = []
  | .one p, _, mid, _ => ∃ c, mid = [c] ∧ p c = true
  | .many p, _, mid, _ => ∀ c ∈ mid, p c = true
  | .boundary, before, mid, rest => mid = [] ∧ atBoundary before rest.head? = true
  | .edge word, before, mid, rest => mid = [] ∧ atEdge word before rest.head? = true
  | .seq a b, before, mid, rest => ∃ l m, mid = l ++ m ∧ a.Matches before l (m ++ rest) ∧
      b.Matches (lastOf before l) m rest
  | .alt a b, before, mid, rest => a.Matches before mid rest ∨ b.Matches before mid rest

/-- `e` matches a part of the text. -/
def Occurs (e : Regex) (text : List Char) : Prop :=
  ∃ front mid rest, text = front ++ mid ++ rest ∧ e.Matches front.getLast? mid rest

/-! ## The matcher -/

/-- What is left to be matched after an expression. -/
abbrev Next := Option Char → List Char → Bool

/-- Go on after any number of characters of the class. -/
def skip (p : Char → Bool) (next : Next) : Next
  | before, [] => next before []
  | before, c :: rest => next before (c :: rest) || (p c && skip p next (some c) rest)

/-- Go on after one character of the class. -/
def take (p : Char → Bool) (next : Next) : Next
  | _, [] => false
  | _, c :: rest => p c && next (some c) rest

/-- Match `e` here, and go on. -/
def run : Regex → Next → Next
  | .empty, next => next
  | .one p, next => take p next
  | .many p, next => skip p next
  | .boundary, next => fun before text => atBoundary before text.head? && next before text
  | .edge word, next => fun before text => atEdge word before text.head? && next before text
  | .seq a b, next => a.run (b.run next)
  | .alt a b, next => fun before text => a.run next before text || b.run next before text

/-- Match `e` here or further on. -/
def search (e : Regex) : Next
  | before, [] => e.run (fun _ _ => true) before []
  | before, c :: rest => e.run (fun _ _ => true) before (c :: rest) || e.search (some c) rest

/-- `e.test(text)` -/
def test (e : Regex) (text : String) : Bool := e.search none text.toList

/-! ## The matcher decides -/

/-- Some match of `e` here can be gone on from. -/
def Runs (e : Regex) (next : Next) (before : Option Char) (text : List Char) : Prop :=
  ∃ mid rest, text = mid ++ rest ∧ e.Matches before mid rest ∧ next (lastOf before mid) rest = true

theorem take_iff (p : Char → Bool) (next : Next) (before : Option Char) (text : List Char) :
    take p next before text = true ↔ (one p).Runs next before text := by
  cases text with
  | nil =>
      refine iff_of_false Bool.false_ne_true ?_
      rintro ⟨mid, rest, htext, ⟨c, rfl, -⟩, -⟩
      cases htext
  | cons c text =>
      rw [take, Bool.and_eq_true]
      constructor
      · rintro ⟨hc, hnext⟩
        exact ⟨[c], text, rfl, ⟨c, rfl, hc⟩, hnext⟩
      · rintro ⟨mid, rest, htext, ⟨d, rfl, hd⟩, hnext⟩
        cases htext
        exact ⟨hd, hnext⟩

theorem matches_many_nil (p : Char → Bool) (before : Option Char) (rest : List Char) :
    (many p).Matches before [] rest := fun _ hc => nomatch hc

theorem skip_iff (p : Char → Bool) (next : Next) (before : Option Char) (text : List Char) :
    skip p next before text = true ↔ (many p).Runs next before text := by
  induction text generalizing before with
  | nil =>
      constructor
      · intro hnext
        exact ⟨[], [], rfl, matches_many_nil p before [], hnext⟩
      · rintro ⟨mid, rest, htext, -, hnext⟩
        obtain ⟨rfl, rfl⟩ := List.append_eq_nil_iff.mp htext.symm
        exact hnext
  | cons c text ih =>
      rw [skip, Bool.or_eq_true, Bool.and_eq_true, ih]
      constructor
      · rintro (hnext | ⟨hc, mid, rest, rfl, hmid, hnext⟩)
        · exact ⟨[], c :: text, rfl, matches_many_nil p before _, hnext⟩
        · refine ⟨c :: mid, rest, rfl, ?_, ?_⟩
          · intro d hd
            rcases List.mem_cons.mp hd with rfl | hd
            · exact hc
            · exact hmid d hd
          · rw [lastOf_cons]
            exact hnext
      · rintro ⟨mid, rest, htext, hmid, hnext⟩
        cases mid with
        | nil =>
            left
            rw [List.nil_append] at htext
            rw [htext]
            exact hnext
        | cons d mid =>
            right
            obtain ⟨rfl, rfl⟩ := List.cons.inj htext
            refine ⟨hmid c List.mem_cons_self, mid, rest, rfl, ?_, ?_⟩
            · exact fun d hd => hmid d (List.mem_cons_of_mem c hd)
            · rw [← lastOf_cons before]
              exact hnext

/-- **The matcher decides** whether a match can be gone on from. -/
theorem run_iff (e : Regex) (next : Next) (before : Option Char) (text : List Char) :
    e.run next before text = true ↔ e.Runs next before text := by
  induction e generalizing next before text with
  | empty =>
      constructor
      · intro hnext
        exact ⟨[], text, rfl, rfl, hnext⟩
      · rintro ⟨mid, rest, rfl, rfl, hnext⟩
        exact hnext
  | one p => exact take_iff p next before text
  | many p => exact skip_iff p next before text
  | boundary =>
      rw [run, Bool.and_eq_true]
      constructor
      · rintro ⟨hat, hnext⟩
        exact ⟨[], text, rfl, ⟨rfl, hat⟩, hnext⟩
      · rintro ⟨mid, rest, rfl, ⟨rfl, hat⟩, hnext⟩
        exact ⟨hat, hnext⟩
  | edge word =>
      rw [run, Bool.and_eq_true]
      constructor
      · rintro ⟨hat, hnext⟩
        exact ⟨[], text, rfl, ⟨rfl, hat⟩, hnext⟩
      · rintro ⟨mid, rest, rfl, ⟨rfl, hat⟩, hnext⟩
        exact ⟨hat, hnext⟩
  | seq a b iha ihb =>
      rw [run, iha]
      constructor
      · rintro ⟨l, text, rfl, hl, hrun⟩
        obtain ⟨m, rest, rfl, hm, hnext⟩ := (ihb _ _ _).mp hrun
        refine ⟨l ++ m, rest, (List.append_assoc ..).symm, ⟨l, m, rfl, hl, hm⟩, ?_⟩
        rw [lastOf_append]
        exact hnext
      · rintro ⟨mid, rest, rfl, ⟨l, m, rfl, hl, hm⟩, hnext⟩
        rw [lastOf_append] at hnext
        exact ⟨l, m ++ rest, List.append_assoc .., hl, (ihb _ _ _).mpr ⟨m, rest, rfl, hm, hnext⟩⟩
  | alt a b iha ihb =>
      rw [run, Bool.or_eq_true, iha, ihb]
      constructor
      · rintro (⟨mid, rest, htext, hmid, hnext⟩ | ⟨mid, rest, htext, hmid, hnext⟩)
        · exact ⟨mid, rest, htext, .inl hmid, hnext⟩
        · exact ⟨mid, rest, htext, .inr hmid, hnext⟩
      · rintro ⟨mid, rest, htext, hmid | hmid, hnext⟩
        · exact .inl ⟨mid, rest, htext, hmid, hnext⟩
        · exact .inr ⟨mid, rest, htext, hmid, hnext⟩

theorem search_iff (e : Regex) (before : Option Char) (text : List Char) :
    e.search before text = true ↔ ∃ front mid rest, text = front ++ mid ++ rest ∧
      e.Matches (lastOf before front) mid rest := by
  induction text generalizing before with
  | nil =>
      rw [search, run_iff]
      constructor
      · rintro ⟨mid, rest, htext, hmid, -⟩
        exact ⟨[], mid, rest, htext, hmid⟩
      · rintro ⟨front, mid, rest, htext, hmid⟩
        obtain ⟨hfront, rfl⟩ := List.append_eq_nil_iff.mp htext.symm
        obtain ⟨rfl, rfl⟩ := List.append_eq_nil_iff.mp hfront
        exact ⟨[], [], rfl, hmid, rfl⟩
  | cons c text ih =>
      rw [search, Bool.or_eq_true, run_iff, ih]
      constructor
      · rintro (⟨mid, rest, htext, hmid, -⟩ | ⟨front, mid, rest, rfl, hmid⟩)
        · exact ⟨[], mid, rest, htext, hmid⟩
        · refine ⟨c :: front, mid, rest, rfl, ?_⟩
          rw [lastOf_cons]
          exact hmid
      · rintro ⟨front, mid, rest, htext, hmid⟩
        cases front with
        | nil => exact .inl ⟨mid, rest, htext, hmid, rfl⟩
        | cons d front =>
            obtain ⟨rfl, rfl⟩ := List.cons.inj htext
            rw [lastOf_cons] at hmid
            exact .inr ⟨front, mid, rest, rfl, hmid⟩

/-- **The test finds what occurs.** -/
theorem test_iff (e : Regex) (text : String) : e.test text = true ↔ e.Occurs text.toList := by
  rw [test, search_iff, Occurs]
  have hlast : ∀ front : List Char, lastOf none front = front.getLast? := fun _ => Option.or_none
  simp only [hlast]

end Regex

end InspectionHub
