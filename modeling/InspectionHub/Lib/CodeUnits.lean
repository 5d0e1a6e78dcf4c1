import InspectionHub.Lib.Json

/-!
# Strings of code units

The language's own strings: sequences of 16-bit code units, whose surrogates
need not come in pairs. `QuoteJSONString` copies a pair and writes a lone
surrogate as a `\ud…` escape.

`carry` reads code units as characters, a surrogate as a character beyond the
first plane. `readBack` undoes the `\ud…` escapes in a text so read, which
leaves the text of `Json.quote` (`readBack_quote`): what is known of that text
carries over.
-/

namespace InspectionHub

abbrev CodeUnit := Fin 65536

abbrev JsString := List CodeUnit

namespace CodeUnit

def isHigh (u : CodeUnit) : Bool := 0xD800 ≤ u.val && u.val < 0xDC00

def isLow (u : CodeUnit) : Bool := 0xDC00 ≤ u.val && u.val < 0xE000

/-- The code unit of a character of the first plane. -/
def ofChar (c : Char) : CodeUnit := Fin.ofNat 65536 c.toNat

end CodeUnit

open CodeUnit

/-- A text of characters of the first plane. -/
def units (l : List Char) : JsString := l.map ofChar

namespace JsString

/-- `UnicodeEscape` -/
def unicodeEscape (u : CodeUnit) : List Char :=
  ['\\', 'u', Json.hexDigit (u.val / 4096), Json.hexDigit (u.val / 256 % 16),
    Json.hexDigit (u.val / 16 % 16), Json.hexDigit (u.val % 16)]

/-- One code unit that is not half of a pair. -/
def escapeUnit (u : CodeUnit) : JsString :=
  if isHigh u || isLow u then units (unicodeEscape u) else units (Json.escape (Char.ofNat u.val))

/-- What stands between the quotes. -/
def escape : JsString → JsString
  | [] => []
  | [u] => escapeUnit u
  | u :: v :: rest =>
      if isHigh u && isLow v then u :: v :: escape rest else escapeUnit u ++ escape (v :: rest)

/-- `QuoteJSONString(value)` -/
def quote (s : JsString) : JsString := ofChar '"' :: (escape s ++ [ofChar '"'])

/-! ## Code units read as characters -/

/-- The character that stands for a code unit. -/
def carry (u : CodeUnit) : Char :=
  if isHigh u || isLow u then Char.ofNat (0x10000 + u.val) else Char.ofNat u.val

def chars (s : JsString) : List Char := s.map carry

theorem isSurrogate_iff (u : CodeUnit) :
    (isHigh u || isLow u) = true ↔ 0xD800 ≤ u.val ∧ u.val < 0xE000 := by
  simp only [isHigh, isLow, Bool.or_eq_true, Bool.and_eq_true, decide_eq_true_eq]
  omega

theorem toNat_ofNat {n : Nat} (h : n < 0xD800 ∨ (0xDFFF < n ∧ n < 0x110000)) :
    (Char.ofNat n).toNat = n := by
  have hvalid : n.isValidChar := h
  rw [Char.ofNat, dif_pos hvalid]
  rfl

variable {u : CodeUnit}

/-- A surrogate is carried by a character beyond the first plane. -/
theorem carry_surrogate (h : (isHigh u || isLow u) = true) : (carry u).toNat = 0x10000 + u.val := by
  unfold carry
  rw [if_pos h, toNat_ofNat]
  have := u.isLt
  omega

theorem carry_plain (h : ¬ (isHigh u || isLow u) = true) :
    carry u = Char.ofNat u.val ∧ (carry u).toNat = u.val := by
  have hcarry : carry u = Char.ofNat u.val := if_neg h
  refine ⟨hcarry, ?_⟩
  rw [hcarry, toNat_ofNat]
  rw [isSurrogate_iff] at h
  have := u.isLt
  omega

theorem carry_injective : Function.Injective carry := by
  intro u v h
  have hnat := congrArg Char.toNat h
  have hu := u.isLt
  have hv := v.isLt
  apply Fin.ext
  by_cases hsu : (isHigh u || isLow u) = true <;> by_cases hsv : (isHigh v || isLow v) = true
  · rw [carry_surrogate hsu, carry_surrogate hsv] at hnat
    omega
  · rw [carry_surrogate hsu, (carry_plain hsv).2] at hnat
    omega
  · rw [(carry_plain hsu).2, carry_surrogate hsv] at hnat
    omega
  · rwa [(carry_plain hsu).2, (carry_plain hsv).2] at hnat

theorem chars_injective : Function.Injective chars := List.map_injective_iff.mpr carry_injective

variable {c : Char}

theorem carry_ofChar (h : c.toNat < 0x10000) : carry (ofChar c) = c := by
  have hval : (ofChar c).val = c.toNat := Nat.mod_eq_of_lt h
  have hplain : ¬ (isHigh (ofChar c) || isLow (ofChar c)) = true := by
    rw [isSurrogate_iff, hval]
    have hvalid := c.valid
    simp only [UInt32.isValidChar, Nat.isValidChar] at hvalid
    have hnat : c.toNat = c.val.toNat := rfl
    omega
  rw [(carry_plain hplain).1, hval, Char.ofNat_toNat]

theorem chars_units {l : List Char} (h : ∀ c ∈ l, c.toNat < 0x10000) : chars (units l) = l := by
  unfold chars units
  rw [List.map_map]
  exact (List.map_congr_left fun c hc => carry_ofChar (h c hc)).trans (List.map_id l)

/-! ## Undoing the escapes of lone surrogates -/

def readBack : List Char → List Char
  | '\\' :: 'u' :: 'd' :: a :: b :: c :: rest =>
      Char.ofNat (0x1D000 + Json.hexVal a * 256 + Json.hexVal b * 16 + Json.hexVal c) ::
        readBack rest
  | '\\' :: c :: rest => '\\' :: c :: readBack rest
  | c :: rest => c :: readBack rest
  | [] => []

theorem readBack_cons (h : c ≠ '\\') (rest : List Char) :
    readBack (c :: rest) = c :: readBack rest := by
  rw [readBack]
  · exact fun _ _ _ _ heq => absurd heq h
  · exact fun _ _ heq => absurd heq h

theorem readBack_append {l : List Char} (h : ∀ c ∈ l, c ≠ '\\') (rest : List Char) :
    readBack (l ++ rest) = l ++ readBack rest := by
  induction l with
  | nil => rfl
  | cons c l ih =>
      rw [List.cons_append, readBack_cons (h c List.mem_cons_self),
        ih fun d hd => h d (List.mem_cons_of_mem c hd), List.cons_append]

/-- The escape of one character holds no `\ud`. -/
theorem readBack_escape (c : Char) (rest : List Char) :
    readBack (Json.escape c ++ rest) = Json.escape c ++ readBack rest := by
  unfold Json.escape
  split
  · rfl
  split
  · rfl
  split
  · rfl
  split
  · rfl
  split
  · rfl
  split
  · rfl
  split
  · rfl
  split
  · next hlt =>
      have hdigits : ∀ d ∈ ['0', '0', Json.hexDigit (c.toNat / 16), Json.hexDigit (c.toNat % 16)],
          d ≠ '\\' := by
        have hhex : ∀ k : Fin 16, Json.hexDigit k ≠ '\\' := by decide
        intro d hd
        simp only [List.mem_cons, List.not_mem_nil, or_false] at hd
        rcases hd with rfl | rfl | rfl | rfl
        · decide
        · decide
        · exact hhex ⟨c.toNat / 16, by omega⟩
        · exact hhex ⟨c.toNat % 16, by omega⟩
      have hhead : ∀ rest, readBack ('\\' :: 'u' :: '0' :: rest) =
          '\\' :: 'u' :: readBack ('0' :: rest) := by
        intro rest
        rw [readBack]
        intro a b d rest' _ heq
        exact absurd (List.cons.inj heq).1 (by decide)
      have hread := readBack_append hdigits rest
      simp only [List.cons_append, List.nil_append] at hread ⊢
      rw [hhead, hread]
  · next hslash _ _ _ _ _ _ => exact readBack_append (by simpa using hslash) rest

/-- The escape of a lone surrogate is read back as the character that carries it. -/
theorem readBack_surrogate (h : (isHigh u || isLow u) = true) (rest : List Char) :
    readBack (unicodeEscape u ++ rest) = carry u :: readBack rest := by
  have hrange := (isSurrogate_iff u).mp h
  have hd : Json.hexDigit (u.val / 4096) = 'd' := by
    have hfirst : u.val / 4096 = 13 := by omega
    rw [hfirst]
    rfl
  unfold unicodeEscape
  rw [hd]
  simp only [List.cons_append, List.nil_append]
  rw [readBack, Json.hexVal_hexDigit (by omega), Json.hexVal_hexDigit (by omega),
    Json.hexVal_hexDigit (by omega), carry, if_pos h]
  congr 2
  omega

/-- A character beyond the first plane stands for itself. -/
theorem escape_of_le (h : 0x10000 ≤ c.toNat) : Json.escape c = [c] ∧ c ≠ '\\' := by
  have hne : ∀ d : Char, d.toNat < 0x10000 → c ≠ d := by
    rintro d hd rfl
    omega
  unfold Json.escape
  rw [if_neg (hne _ (by decide)), if_neg (hne _ (by decide)), if_neg (hne _ (by decide)),
    if_neg (hne _ (by decide)), if_neg (hne _ (by decide)), if_neg (hne _ (by decide)),
    if_neg (hne _ (by decide)), if_neg (by omega)]
  exact ⟨rfl, hne _ (by decide)⟩

/-- The escape of a character of the first plane stays in it. -/
theorem escape_lt (h : c.toNat < 0x10000) : ∀ d ∈ Json.escape c, d.toNat < 0x10000 := by
  have hhex : ∀ k : Fin 16, (Json.hexDigit k).toNat < 0x10000 := by decide
  -- the short escapes, a backslash and a letter
  have short : ∀ {l : List Char}, (l.all fun d => decide (d.toNat < 0x10000)) = true →
      ∀ d ∈ l, d.toNat < 0x10000 := fun h d hd => of_decide_eq_true (List.all_eq_true.mp h d hd)
  unfold Json.escape
  split
  · exact short rfl
  split
  · exact short rfl
  split
  · exact short rfl
  split
  · exact short rfl
  split
  · exact short rfl
  split
  · exact short rfl
  split
  · exact short rfl
  split
  · next hlt =>
      intro d hd
      simp only [List.mem_cons, List.not_mem_nil, or_false] at hd
      rcases hd with rfl | rfl | rfl | rfl | rfl | rfl
      · decide
      · decide
      · decide
      · decide
      · exact hhex ⟨c.toNat / 16, by omega⟩
      · exact hhex ⟨c.toNat % 16, by omega⟩
  · intro d hd
    rwa [List.mem_singleton.mp hd]

theorem readBack_escapeUnit (u : CodeUnit) (rest : List Char) :
    readBack (chars (escapeUnit u) ++ rest) = Json.escape (carry u) ++ readBack rest := by
  unfold escapeUnit
  split
  · next h =>
      have hlt : ∀ c ∈ unicodeEscape u, c.toNat < 0x10000 := by
        have hhex : ∀ k : Fin 16, (Json.hexDigit k).toNat < 0x10000 := by decide
        have hu := u.isLt
        intro c hc
        simp only [unicodeEscape, List.mem_cons, List.not_mem_nil, or_false] at hc
        rcases hc with rfl | rfl | rfl | rfl | rfl | rfl
        · decide
        · decide
        · exact hhex ⟨u.val / 4096, by omega⟩
        · exact hhex ⟨u.val / 256 % 16, by omega⟩
        · exact hhex ⟨u.val / 16 % 16, by omega⟩
        · exact hhex ⟨u.val % 16, by omega⟩
      have hcarry := (escape_of_le (c := carry u) (by rw [carry_surrogate h]; omega)).1
      rw [chars_units hlt, readBack_surrogate h, hcarry, List.singleton_append]
  · next h =>
      obtain ⟨hcarry, hnat⟩ := carry_plain h
      have hlt : (Char.ofNat u.val).toNat < 0x10000 := by
        rw [← hcarry, hnat]
        exact u.isLt
      rw [chars_units (escape_lt hlt), readBack_escape, hcarry]

theorem readBack_body (s : JsString) (rest : List Char) :
    readBack (chars (escape s) ++ rest) = Json.escapeAll (chars s) ++ readBack rest := by
  fun_induction escape s with
  | case1 => rfl
  | case2 u =>
      rw [readBack_escapeUnit]
      simp only [chars, List.map_cons, List.map_nil, Json.escapeAll, List.flatMap_cons,
        List.flatMap_nil, List.append_nil]
  | case3 u v r hpair ih =>
      -- both halves stand for themselves, as characters and in the text
      obtain ⟨hu, hv⟩ := Bool.and_eq_true_iff.mp hpair
      have hu := carry_surrogate (u := u) (by rw [hu]; rfl)
      have hv := carry_surrogate (u := v) (by rw [hv, Bool.or_true])
      obtain ⟨hu, hune⟩ := escape_of_le (c := carry u) (by omega)
      obtain ⟨hv, hvne⟩ := escape_of_le (c := carry v) (by omega)
      simp only [chars, List.map_cons, List.cons_append, Json.escapeAll, List.flatMap_cons, hu, hv,
        List.nil_append] at ih ⊢
      rw [readBack_cons hune, readBack_cons hvne, ih]
  | case4 u v r hpair ih =>
      simp only [chars, List.map_append, List.append_assoc, Json.escapeAll, List.map_cons,
        List.flatMap_cons] at ih ⊢
      rw [← ih]
      exact readBack_escapeUnit u _

/-- The text of a string, read as characters, is read back to that of the string so read. -/
theorem readBack_quote (s : JsString) (rest : List Char) :
    readBack (chars (quote s) ++ rest) =
      Json.quote (String.ofList (chars s)) ++ readBack rest := by
  have hquote : carry (ofChar '"') = '"' := carry_ofChar (by decide)
  unfold quote Json.quote
  have hchars : chars (ofChar '"' :: (escape s ++ [ofChar '"'])) ++ rest =
      '"' :: (chars (escape s) ++ ('"' :: rest)) := by
    simp [chars, hquote]
  rw [hchars, readBack_cons (by decide), readBack_body, readBack_cons (by decide),
    String.toList_ofList]
  simp

end JsString

end InspectionHub
