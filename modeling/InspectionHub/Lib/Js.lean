import Mathlib

/-!
# The source language's built-ins

Strings are sequences of Unicode scalar values; their `length` counts UTF-16
code units. Numbers that a program validates before use are rationals: a
`NaN` or an infinity fails every such check, as a fraction does. Instants are
integers of milliseconds. What the host decides (`Date.parse` of arbitrary
text, the collation of `localeCompare`) is a field of `Host`.
-/

namespace InspectionHub.Js

/-- The host functions whose result the language leaves to the platform. -/
structure Host where
  /-- `Date.parse`; `none` is `NaN`. -/
  dateParse : String → Option Int
  /-- `new Date(ms).toISOString()`. -/
  toISOString : Int → String
  /-- `left.localeCompare(right)`. -/
  localeCompare : String → String → Ordering

/-- A host that reads no date and orders text by code points. -/
def Host.plain : Host where
  dateParse _ := none
  toISOString _ := ""
  localeCompare := compare

/-- White space and line terminators, as `String.prototype.trim` strips them. -/
def isWhite (c : Char) : Bool :=
  (0x9 ≤ c.toNat && c.toNat ≤ 0xD) || c.toNat = 0x20 || c.toNat = 0xA0 ||
  c.toNat = 0x1680 || (0x2000 ≤ c.toNat && c.toNat ≤ 0x200A) || c.toNat = 0x2028 ||
  c.toNat = 0x2029 || c.toNat = 0x202F || c.toNat = 0x205F || c.toNat = 0x3000 ||
  c.toNat = 0xFEFF

/-- Strip white space at both ends of a character list. -/
def trimChars (l : List Char) : List Char :=
  ((l.dropWhile isWhite).reverse.dropWhile isWhite).reverse

/-- `s.trim()`. -/
def trim (s : String) : String := String.ofList (trimChars s.toList)

/-- The white space `trim` strips, at the front and (reversed) at the back. -/
def margins (s : String) : List Char × List Char :=
  (s.toList.takeWhile isWhite, (s.toList.dropWhile isWhite).reverse.takeWhile isWhite)

/-- A string is its trimmed text between its margins. -/
theorem eq_of_trim_eq {s t : String} (h : trim s = trim t) (hm : margins s = margins t) :
    s = t := by
  have split : ∀ u : String,
      u.toList = (margins u).1 ++ (trim u).toList ++ (margins u).2.reverse := by
    intro u
    have hback := List.takeWhile_append_dropWhile (p := isWhite)
      (l := (u.toList.dropWhile isWhite).reverse)
    have hrest : u.toList.dropWhile isWhite = trimChars u.toList ++ (margins u).2.reverse := by
      rw [trimChars, margins, ← List.reverse_append, hback, List.reverse_reverse]
    rw [trim, String.toList_ofList, List.append_assoc, ← hrest, margins,
      List.takeWhile_append_dropWhile]
  apply String.toList_inj.mp
  rw [split s, split t, h, hm]

/-- `s.length`: astral characters take two code units. -/
def length (s : String) : Nat :=
  (s.toList.map fun c => if 0xFFFF < c.toNat then 2 else 1).sum

/-- `!s.trim()`. -/
def isBlank (s : String) : Bool := s.toList.all isWhite

/-- `s.startsWith(prefix)`. -/
def startsWith (s p : String) : Bool := p.toList.isPrefixOf s.toList

def isLowerHex (c : Char) : Bool :=
  ('0' ≤ c && c ≤ '9') || ('a' ≤ c && c ≤ 'f')

/-- `/^[0-9a-f]{64}$/`. -/
def isHexDigest (s : String) : Bool := s.toList.length = 64 && s.toList.all isLowerHex

/-- `Number.isInteger`. -/
def isInteger (x : ℚ) : Bool := x.den = 1

/-- `Number.isSafeInteger`. -/
def isSafeInteger (x : ℚ) : Bool := x.den = 1 && x.num.natAbs ≤ 2 ^ 53 - 1

/-- `Date.parse(text) < ms`; a comparison with `NaN` is false. -/
def Host.parsesBefore (h : Host) (text : String) (ms : Int) : Bool :=
  match h.dateParse text with
  | some t => t < ms
  | none => false

/-- `Date.parse(text) <= ms`. -/
def Host.parsesAtOrBefore (h : Host) (text : String) (ms : Int) : Bool :=
  match h.dateParse text with
  | some t => t ≤ ms
  | none => false

end InspectionHub.Js
