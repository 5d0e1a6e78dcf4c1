import InspectionHub.Lib.Js

/-!
# Identifiers of the store

A `Uuid` is its canonical text: thirty-two lower-case hexadecimal digits in
groups of 8, 4, 4, 4 and 12, with hyphens between them. `ofText?` is the
cast from a text, which also reads capitals, braces and other placements of
the hyphens.
-/

namespace InspectionHub

namespace Uuid

/-- Hyphens after the digits 8, 12, 16 and 20. -/
def isCanonical (text : String) : Bool :=
  text.toList.length = 36 &&
    (text.toList.mapIdx fun i c =>
      if i = 8 ∨ i = 13 ∨ i = 18 ∨ i = 23 then c == '-' else Js.isLowerHex c).all id

end Uuid

structure Uuid where
  text : String
  canonical : Uuid.isCanonical text = true
  deriving DecidableEq

namespace Uuid

theorem text_injective : Function.Injective Uuid.text := by
  rintro ⟨a, ha⟩ ⟨b, hb⟩ h
  cases h
  rfl

theorem length_text (id : Uuid) : id.text.toList.length = 36 := by
  have hcanonical := id.canonical
  rw [isCanonical, Bool.and_eq_true, decide_eq_true_iff] at hcanonical
  exact hcanonical.1

/-- Its text has digits and hyphens only. -/
theorem mem_text {id : Uuid} {c : Char} (h : c ∈ id.text.toList) :
    Js.isLowerHex c = true ∨ c = '-' := by
  have hcanonical := id.canonical
  rw [isCanonical, Bool.and_eq_true, List.all_eq_true] at hcanonical
  obtain ⟨i, hi, rfl⟩ := List.getElem_of_mem h
  have hc := hcanonical.2 _ (List.mem_mapIdx.mpr ⟨i, hi, rfl⟩)
  simp only [id_eq] at hc
  split at hc
  · exact .inr (beq_iff_eq.mp hc)
  · exact .inl hc

theorem hyphen_mem (id : Uuid) : '-' ∈ id.text.toList := by
  have hcanonical := id.canonical
  rw [isCanonical, Bool.and_eq_true, List.all_eq_true] at hcanonical
  have hlength : 8 < id.text.toList.length := by rw [id.length_text]; decide
  have heighth := hcanonical.2 _ (List.mem_mapIdx.mpr ⟨8, hlength, rfl⟩)
  have hhyphen : id.text.toList[8] = '-' := by simpa using heighth
  exact hhyphen ▸ List.getElem_mem hlength

/-- The digits of a text that may set a hyphen after each fourth one; `n` are
still to come. -/
def digits : Nat → List Char → Option (List Char)
  | 0, [] => some []
  | 0, _ :: _ => none
  | n + 1, '-' :: rest =>
      if n + 1 < 32 ∧ (n + 1) % 4 = 0 then
        match rest with
        | c :: rest =>
            if Js.isLowerHex c.toLower then (digits n rest).map (c.toLower :: ·) else none
        | [] => none
      else none
  | n + 1, c :: rest =>
      if Js.isLowerHex c.toLower then (digits n rest).map (c.toLower :: ·) else none
  | _ + 1, [] => none

/-- The characters between braces, or all of them. -/
def unbraced (l : List Char) : Option (List Char) :=
  match l with
  | '{' :: rest => if rest.getLast? = some '}' then some rest.dropLast else none
  | _ => some l

/-- `text::uuid` -/
def ofText? (text : String) : Option Uuid := do
  let l ← unbraced text.toList
  let d ← digits 32 l
  let canonical := String.ofList (d.take 8 ++ '-' :: (d.drop 8).take 4 ++ '-' ::
    (d.drop 12).take 4 ++ '-' :: (d.drop 16).take 4 ++ '-' :: d.drop 20)
  if h : isCanonical canonical = true then some ⟨canonical, h⟩ else none

end Uuid

end InspectionHub
