import Mathlib

/-!
# JSON values and their text

The values `JSON.parse` produces and the text `JSON.stringify` writes, with
the one fact every content hash rests on: `stringify` is injective
(`stringify_injective`).

Numbers are finite and compared as `===` compares them, so there is one zero.
An integer below `10^21` is carried as such and any other number by the
numeral the language prints for it, which has a point or an exponent.
Objects keep the order of their properties; the keys of one object are
distinct.
-/

namespace InspectionHub

/-- A numeral with a point or an exponent. -/
structure Numeral where
  text : List Char
  chars : ∀ c ∈ text, c.isDigit ∨ c = '-' ∨ c = '+' ∨ c = '.' ∨ c = 'e'
  head : ∃ c l, text = c :: l ∧ (c.isDigit ∨ c = '-')
  mark : '.' ∈ text ∨ 'e' ∈ text

inductive JsNum where
  | int (n : Int)
  | numeral (t : Numeral)

inductive JsVal where
  | null
  | bool (b : Bool)
  | num (n : JsNum)
  | str (s : String)
  | arr (l : List JsVal)
  | obj (l : List (String × JsVal))

instance : Coe Int JsVal := ⟨fun n => .num (.int n)⟩

namespace Json

/-! ## Strings -/

def hexDigit (n : Nat) : Char :=
  if n < 10 then Char.ofNat (0x30 + n) else Char.ofNat (0x61 + (n - 10))

def hexVal (c : Char) : Nat := if c.toNat < 0x61 then c.toNat - 0x30 else c.toNat - 0x61 + 10

/-- One character between the quotes. -/
def escape (c : Char) : List Char :=
  if c = '"' then ['\\', '"']
  else if c = '\\' then ['\\', '\\']
  else if c = '\x08' then ['\\', 'b']
  else if c = '\x0c' then ['\\', 'f']
  else if c = '\n' then ['\\', 'n']
  else if c = '\x0d' then ['\\', 'r']
  else if c = '\t' then ['\\', 't']
  else if c.toNat < 0x20 then
    ['\\', 'u', '0', '0', hexDigit (c.toNat / 16), hexDigit (c.toNat % 16)]
  else [c]

/-- Read one escaped character back. -/
def unescape : List Char → Option (Char × List Char)
  | '"' :: _ => none
  | '\\' :: '"' :: r => some ('"', r)
  | '\\' :: '\\' :: r => some ('\\', r)
  | '\\' :: 'b' :: r => some ('\x08', r)
  | '\\' :: 'f' :: r => some ('\x0c', r)
  | '\\' :: 'n' :: r => some ('\n', r)
  | '\\' :: 'r' :: r => some ('\x0d', r)
  | '\\' :: 't' :: r => some ('\t', r)
  | '\\' :: 'u' :: '0' :: '0' :: a :: b :: r =>
      some (Char.ofNat (hexVal a * 16 + hexVal b), r)
  | c :: r => some (c, r)
  | [] => none

theorem hexVal_hexDigit {n : Nat} (h : n < 16) : hexVal (hexDigit n) = n := by
  have : ∀ k : Fin 16, hexVal (hexDigit k) = k := by decide
  exact this ⟨n, h⟩

/-- A character that is neither the quote nor the backslash stands for itself. -/
theorem unescape_plain {c : Char} (hquote : c ≠ '"') (hslash : c ≠ '\\') (r : List Char) :
    unescape (c :: r) = some (c, r) := by
  unfold unescape
  split
  · next h => exact absurd (List.cons.inj h).1 hquote
  all_goals first
    | next h => exact absurd (List.cons.inj h).1 hslash
    | next h => rw [(List.cons.inj h).1, (List.cons.inj h).2]
    | next h => cases h

theorem unescape_escape (c : Char) (r : List Char) : unescape (escape c ++ r) = some (c, r) := by
  unfold escape
  split
  · next h => subst h; rfl
  split
  · next h => subst h; rfl
  split
  · next h => subst h; rfl
  split
  · next h => subst h; rfl
  split
  · next h => subst h; rfl
  split
  · next h => subst h; rfl
  split
  · next h => subst h; rfl
  split
  · next hlt =>
      show some (Char.ofNat _, r) = some (c, r)
      rw [hexVal_hexDigit (by omega), hexVal_hexDigit (by omega),
        show c.toNat / 16 * 16 + c.toNat % 16 = c.toNat by omega, Char.ofNat_toNat]
  · next hquote hslash _ _ _ _ _ _ => exact unescape_plain hquote hslash r

/-- The characters between the quotes. -/
def escapeAll (l : List Char) : List Char := l.flatMap escape

/-- `QuoteJSONString`. -/
def quote (s : String) : List Char := '"' :: (escapeAll s.toList ++ ['"'])

theorem escapeAll_cancel (l l' r r' : List Char)
    (h : escapeAll l ++ '"' :: r = escapeAll l' ++ '"' :: r') : l = l' ∧ r = r' := by
  induction l generalizing l' with
  | nil =>
      cases l' with
      | nil => exact ⟨rfl, by simpa [escapeAll] using h⟩
      | cons c' l' =>
          have := congrArg unescape h
          simp only [escapeAll, List.flatMap_nil, List.nil_append, List.flatMap_cons,
            List.append_assoc, unescape_escape] at this
          cases this
  | cons c l ih =>
      cases l' with
      | nil =>
          have := congrArg unescape h
          simp only [escapeAll, List.flatMap_nil, List.nil_append, List.flatMap_cons,
            List.append_assoc, unescape_escape] at this
          cases this
      | cons c' l' =>
          have := congrArg unescape h
          simp only [escapeAll, List.flatMap_cons, List.append_assoc, unescape_escape,
            Option.some.injEq, Prod.mk.injEq] at this
          obtain ⟨hl, hr⟩ := ih l' this.2
          exact ⟨by rw [this.1, hl], hr⟩

/-- A quoted string is read off the front of any text in one way only. -/
theorem quote_cancel {s s' : String} {r r' : List Char} (h : quote s ++ r = quote s' ++ r') :
    s = s' ∧ r = r' := by
  simp only [quote, List.cons_append, List.append_assoc, List.nil_append, List.cons.injEq,
    true_and] at h
  obtain ⟨hl, hr⟩ := escapeAll_cancel _ _ _ _ h
  exact ⟨String.toList_inj.mp hl, hr⟩

/-! ## Numbers -/

def digitChar (d : Nat) : Char := Char.ofNat (0x30 + d)

/-- Decimal digits, most significant first. -/
def natText (n : Nat) : List Char :=
  if n = 0 then ['0'] else ((Nat.digits 10 n).map digitChar).reverse

def intText : Int → List Char
  | .ofNat n => natText n
  | .negSucc n => '-' :: natText (n + 1)

def numText : JsNum → List Char
  | .int n => intText n
  | .numeral t => t.text

theorem digitChar_inj {d e : Nat} (hd : d < 10) (he : e < 10) (h : digitChar d = digitChar e) :
    d = e := by
  have : ∀ a b : Fin 10, digitChar a = digitChar b → a = b := by decide
  exact congrArg Fin.val (this ⟨d, hd⟩ ⟨e, he⟩ h)

theorem isDigit_digitChar {d : Nat} (hd : d < 10) : (digitChar d).isDigit := by
  have : ∀ a : Fin 10, (digitChar a).isDigit := by decide
  exact this ⟨d, hd⟩

theorem natText_isDigit (n : Nat) : ∀ c ∈ natText n, c.isDigit := by
  intro c hc
  unfold natText at hc
  split at hc
  · rw [List.mem_singleton.mp hc]
    rfl
  · simp only [List.mem_reverse, List.mem_map] at hc
    obtain ⟨d, hd, rfl⟩ := hc
    exact isDigit_digitChar (Nat.digits_lt_base (by decide) hd)

theorem natText_ne_nil (n : Nat) : natText n ≠ [] := by
  unfold natText
  split
  · exact List.cons_ne_nil _ _
  · next h => simpa using Nat.digits_ne_nil_iff_ne_zero.mpr h

theorem map_digitChar_inj {l l' : List Nat} (hl : ∀ d ∈ l, d < 10) (hl' : ∀ d ∈ l', d < 10)
    (h : l.map digitChar = l'.map digitChar) : l = l' := by
  induction l generalizing l' with
  | nil => cases l' with
      | nil => rfl
      | cons _ _ => cases h
  | cons d l ih => cases l' with
      | nil => cases h
      | cons d' l' =>
          simp only [List.map_cons, List.cons.injEq] at h
          have hd := digitChar_inj (hl d List.mem_cons_self) (hl' d' List.mem_cons_self) h.1
          rw [hd, ih (fun x hx => hl x (List.mem_cons_of_mem _ hx))
            (fun x hx => hl' x (List.mem_cons_of_mem _ hx)) h.2]

theorem digits_lt (n : Nat) : ∀ d ∈ Nat.digits 10 n, d < 10 :=
  fun _ hd => Nat.digits_lt_base (by decide) hd

/-- Zero is the only number whose digits are a lone zero. -/
theorem natText_zero_iff (n : Nat) (h : natText n = ['0']) : n = 0 := by
  by_contra hn
  rw [natText, if_neg hn] at h
  have hrev : (Nat.digits 10 n).map digitChar = [0].map digitChar := by
    have := congrArg List.reverse h
    simpa [digitChar] using this
  have := map_digitChar_inj (digits_lt n) (by decide) hrev
  have hval := Nat.ofDigits_digits 10 n
  rw [this] at hval
  exact hn (by simpa using hval.symm)

theorem natText_injective {n m : Nat} (h : natText n = natText m) : n = m := by
  by_cases hn : n = 0
  · subst hn
    exact (natText_zero_iff m h.symm).symm
  by_cases hm : m = 0
  · subst hm
    exact natText_zero_iff n h
  rw [natText, natText, if_neg hn, if_neg hm] at h
  exact Nat.digits_inj_iff.mp
    (map_digitChar_inj (digits_lt n) (digits_lt m) (List.reverse_injective h))

/-- The characters numbers are written with. -/
def isNumChar (c : Char) : Bool := c.isDigit || c = '-' || c = '+' || c = '.' || c = 'e'

theorem natText_head (n : Nat) : ∃ c l, natText n = c :: l ∧ c.isDigit := by
  cases h : natText n with
  | nil => exact absurd h (natText_ne_nil n)
  | cons c l => exact ⟨c, l, rfl, natText_isDigit n c (h ▸ List.mem_cons_self)⟩

theorem intText_chars (n : Int) : ∀ c ∈ intText n, c.isDigit ∨ c = '-' := by
  cases n with
  | ofNat n => exact fun c hc => .inl (natText_isDigit n c hc)
  | negSucc n =>
      intro c hc
      rcases List.mem_cons.mp hc with rfl | hc
      · exact .inr rfl
      · exact .inl (natText_isDigit _ c hc)

theorem numText_chars (x : JsNum) : ∀ c ∈ numText x, isNumChar c := by
  intro c hc
  cases x with
  | int n => rcases intText_chars n c hc with h | h <;> simp [isNumChar, h]
  | numeral t => rcases t.chars c hc with h | h | h | h | h <;> simp [isNumChar, h]

theorem numText_head (x : JsNum) : ∃ c l, numText x = c :: l ∧ (c.isDigit ∨ c = '-') := by
  cases x with
  | numeral t => exact t.head
  | int n => cases n with
      | ofNat n =>
          obtain ⟨c, l, h, hc⟩ := natText_head n
          exact ⟨c, l, h, .inl hc⟩
      | negSucc n => exact ⟨'-', natText (n + 1), rfl, .inr rfl⟩

theorem intText_injective {n m : Int} (h : intText n = intText m) : n = m := by
  cases n with
  | ofNat n => cases m with
      | ofNat m => rw [natText_injective h]
      | negSucc m =>
          obtain ⟨c, l, hc, hd⟩ := natText_head n
          simp only [intText, hc, List.cons.injEq] at h
          rw [h.1] at hd
          exact absurd hd (by decide)
  | negSucc n => cases m with
      | ofNat m =>
          obtain ⟨c, l, hc, hd⟩ := natText_head m
          simp only [intText, hc, List.cons.injEq] at h
          rw [← h.1] at hd
          exact absurd hd (by decide)
      | negSucc m =>
          simp only [intText, List.cons.injEq, true_and] at h
          have := natText_injective h
          omega

theorem numText_injective {x y : JsNum} (h : numText x = numText y) : x = y := by
  have unmarked : ∀ (n : Int) (t : Numeral), intText n = t.text → False := by
    intro n t h
    rcases t.mark with hm | hm <;>
    · rw [← h] at hm
      rcases intText_chars n _ hm with h' | h' <;> exact absurd h' (by decide)
  cases x with
  | int n => cases y with
      | int m => rw [intText_injective h]
      | numeral t => exact (unmarked n t h).elim
  | numeral t => cases y with
      | int m => exact (unmarked m t h.symm).elim
      | numeral t' => cases t; cases t'; cases h; rfl

end Json

end InspectionHub
