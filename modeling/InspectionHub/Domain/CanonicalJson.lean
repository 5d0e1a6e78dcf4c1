import InspectionHub.Lib.Canonical
import InspectionHub.Lib.CodeUnits
import InspectionHub.Lib.Sorting

/-!
# Canonical JSON of any value

`packages/domain/src/canonical.ts`, over all the values of the language that
are not cyclic: strings of code units, both zeros, numbers that are not finite
and values that JSON has no text for. Of JSON values the text is equal exactly
when they are equal up to the order of their members (`canonical_json`).
-/

namespace InspectionHub.Domain.CanonicalJson

open Sorting

/-! ## Values -/

/-- A finite number; `of (.int 0)` is the positive zero. -/
inductive FiniteNumber where
  | negativeZero
  | of (n : JsNum)

/-- The number as `===` compares it. -/
def FiniteNumber.value : FiniteNumber → JsNum
  | .negativeZero => .int 0
  | .of n => n

inductive JsNumber where
  | finite (x : FiniteNumber)
  | nan
  | infinity (negative : Bool)

/-- `Number.isFinite` -/
def JsNumber.isFinite : JsNumber → Bool
  | .finite _ => true
  | .nan | .infinity _ => false

/-- The kinds of values that are neither data nor `undefined`. -/
inductive OtherType where
  | bigint
  | function
  | symbol

def OtherType.text : OtherType → String
  | .bigint => "bigint"
  | .function => "function"
  | .symbol => "symbol"

inductive JsAny where
  | undefined
  | null
  | boolean (b : Bool)
  | number (x : JsNumber)
  | string (s : JsString)
  | array (l : List JsAny)
  | object (l : List (JsString × JsAny))
  | other (type : OtherType)

/-- What `normalize` returns. -/
inductive JsonData where
  | null
  | boolean (b : Bool)
  | number (x : FiniteNumber)
  | string (s : JsString)
  | array (l : List JsonData)
  | object (l : List (JsString × JsonData))

/-! ## The order of members -/

/-- `Object.keys(record).sort()`, with the values. -/
def sortKeys {β : Type} (l : List (JsString × β)) : List (JsString × β) :=
  sortBy (fun p q => compare p.1 q.1) l

/-- The key as an array index. -/
def arrayIndex? (key : JsString) : Option Nat :=
  Canonical.arrayIndex? (String.ofList key.chars)

/-- `Object.fromEntries(entries)`: an object lists its array indices first, in order. -/
def fromEntries {β : Type} (l : List (JsString × β)) : List (JsString × β) :=
  sortBy (fun p q => compare ((arrayIndex? p.1).getD 0) ((arrayIndex? q.1).getD 0))
      (l.filter fun p => (arrayIndex? p.1).isSome) ++
    l.filter fun p => !(arrayIndex? p.1).isSome

/-! ## `normalize` -/

def notPermitted (what : String) : JsString :=
  units ("Canonical JSON does not permit " ++ what).toList

/-- The value of a member, normalized before its turn. -/
def member (key : JsString) : JsAny → Except JsString JsonData → Except JsString JsonData
  | .undefined, _ => .error (notPermitted "undefined at " ++ key)
  | _, child => child

/-- The members turn by turn, up to the first that is refused. -/
def inTurn {β : Type} (l : List (JsString × Except JsString β)) :
    Except JsString (List (JsString × β)) :=
  l.mapM fun p => do
    let child ← p.2
    return (p.1, child)

mutual

/-- An error is the text of the `TypeError` that is thrown. -/
def normalize : JsAny → Except JsString JsonData
  | .null => .ok .null
  | .string s => .ok (.string s)
  | .boolean b => .ok (.boolean b)
  | .number (.finite x) => .ok (.number x)
  | .number _ => .error (notPermitted "non-finite numbers")
  | .array l => do
      let elems ← normalizeElems l
      return .array elems
  | .object l => do
      let entries ← inTurn (sortKeys (normalizeMembers l))
      return .object (fromEntries entries)
  | .undefined => .error (notPermitted "undefined")
  | .other type => .error (notPermitted type.text)

def normalizeElems : List JsAny → Except JsString (List JsonData)
  | [] => .ok []
  | v :: l => do
      let first ← normalize v
      let rest ← normalizeElems l
      return first :: rest

def normalizeMembers :
    List (JsString × JsAny) → List (JsString × Except JsString JsonData)
  | [] => []
  | (key, child) :: l => (key, member key child (normalize child)) :: normalizeMembers l

end

/-! ## `JSON.stringify` -/

mutual

def stringify : JsonData → JsString
  | .null => units ['n', 'u', 'l', 'l']
  | .boolean true => units ['t', 'r', 'u', 'e']
  | .boolean false => units ['f', 'a', 'l', 's', 'e']
  | .number x => units (Json.numText x.value)
  | .string s => s.quote
  | .array [] => units ['[', ']']
  | .array (v :: l) => units ['['] ++ (stringify v ++ stringifyElems l)
  | .object [] => units ['{', '}']
  | .object ((k, v) :: l) =>
      units ['{'] ++ (k.quote ++ (units [':'] ++ (stringify v ++ stringifyMembers l)))

/-- The elements after the first, with their commas, and the bracket. -/
def stringifyElems : List JsonData → JsString
  | [] => units [']']
  | v :: l => units [','] ++ (stringify v ++ stringifyElems l)

/-- The members after the first, with their commas, and the brace. -/
def stringifyMembers : List (JsString × JsonData) → JsString
  | [] => units ['}']
  | (k, v) :: l => units [','] ++ (k.quote ++ (units [':'] ++ (stringify v ++ stringifyMembers l)))

end

def canonicalJson (value : JsAny) : Except JsString JsString := do
  let normalized ← normalize value
  return stringify normalized

/-! ## JSON values -/

mutual

/-- Built from strings, finite numbers, booleans, null, arrays and objects. -/
def JsAny.isJson : JsAny → Bool
  | .null | .boolean _ | .string _ => true
  | .number x => x.isFinite
  | .array l => isJsonElems l
  | .object l => isJsonMembers l
  | .undefined | .other _ => false

def JsAny.isJsonElems : List JsAny → Bool
  | [] => true
  | v :: l => v.isJson && JsAny.isJsonElems l

def JsAny.isJsonMembers : List (JsString × JsAny) → Bool
  | [] => true
  | (_, v) :: l => v.isJson && JsAny.isJsonMembers l

end

mutual

/-- The keys of each object are distinct, as those of an object always are. -/
def JsAny.keyed : JsAny → Bool
  | .array l => keyedElems l
  | .object l => (l.map Prod.fst).Nodup && keyedMembers l
  | _ => true

def JsAny.keyedElems : List JsAny → Bool
  | [] => true
  | v :: l => v.keyed && JsAny.keyedElems l

def JsAny.keyedMembers : List (JsString × JsAny) → Bool
  | [] => true
  | (_, v) :: l => v.keyed && JsAny.keyedMembers l

end

/-- `x` is the value or stands in it at some depth. -/
inductive JsAny.Within (x : JsAny) : JsAny → Prop
  | refl : Within x x
  | elem {l : List JsAny} {v : JsAny} (hv : v ∈ l) (h : Within x v) : Within x (.array l)
  | member {l : List (JsString × JsAny)} {k : JsString} {v : JsAny} (hv : (k, v) ∈ l)
      (h : Within x v) : Within x (.object l)

mutual

/-- Equal up to the order of members, with one zero. -/
def Same : JsAny → JsAny → Prop
  | .null, .null => True
  | .boolean a, .boolean b => a = b
  | .number (.finite x), .number (.finite y) => x.value = y.value
  | .string s, .string t => s = t
  | .array l, .array l' => SameElems l l'
  | .object l, .object l' => ∃ reordered, SameMembers l reordered ∧ reordered.Perm l'
  | _, _ => False

def SameElems : List JsAny → List JsAny → Prop
  | [], [] => True
  | v :: l, w :: l' => Same v w ∧ SameElems l l'
  | _, _ => False

/-- The same keys in the same order, with the same values. -/
def SameMembers : List (JsString × JsAny) → List (JsString × JsAny) → Prop
  | [], [] => True
  | (k, v) :: l, (k', w) :: l' => k = k' ∧ Same v w ∧ SameMembers l l'
  | _, _ => False

end

/-! ## The text, read as characters -/

mutual

/-- The data with its strings read as characters. -/
def JsonData.carried : JsonData → JsVal
  | .null => .null
  | .boolean b => .bool b
  | .number x => .num x.value
  | .string s => .str (String.ofList s.chars)
  | .array l => .arr (carriedElems l)
  | .object l => .obj (carriedMembers l)

def JsonData.carriedElems : List JsonData → List JsVal
  | [] => []
  | v :: l => v.carried :: JsonData.carriedElems l

def JsonData.carriedMembers : List (JsString × JsonData) → List (String × JsVal)
  | [] => []
  | (k, v) :: l => (String.ofList k.chars, v.carried) :: JsonData.carriedMembers l

end

open JsString

theorem chars_append (s t : JsString) : chars (s ++ t) = chars s ++ chars t :=
  List.map_append

/-- Punctuation and numerals are read back as they are. -/
theorem readBack_units {l : List Char}
    (h : (l.all fun c => decide (c.toNat < 0x10000 ∧ c ≠ '\\')) = true) (rest : List Char) :
    readBack (chars (units l) ++ rest) = l ++ readBack rest := by
  have hall : ∀ c ∈ l, c.toNat < 0x10000 ∧ c ≠ '\\' := by
    intro c hc
    exact of_decide_eq_true (List.all_eq_true.mp h c hc)
  rw [chars_units fun c hc => (hall c hc).1]
  exact readBack_append (fun c hc => (hall c hc).2) rest

theorem readBack_numText (x : JsNum) (rest : List Char) :
    readBack (chars (units (Json.numText x)) ++ rest) = Json.numText x ++ readBack rest := by
  refine readBack_units (List.all_eq_true.mpr fun c hc => decide_eq_true ?_) rest
  have hchar := Json.numText_chars x c hc
  simp only [Json.isNumChar, Bool.or_eq_true, decide_eq_true_eq] at hchar
  rcases hchar with (((hdigit | rfl) | rfl) | rfl) | rfl
  · have hrange : 48 ≤ c.toNat ∧ c.toNat ≤ 57 := by
      simp only [Char.isDigit, Bool.and_eq_true, decide_eq_true_eq] at hdigit
      exact ⟨UInt32.le_iff_toNat_le.mp hdigit.1, UInt32.le_iff_toNat_le.mp hdigit.2⟩
    refine ⟨by omega, ?_⟩
    rintro rfl
    exact absurd hrange (by decide)
  all_goals decide

mutual

theorem readBack_stringify : ∀ (v : JsonData) (rest : List Char),
    readBack (chars (stringify v) ++ rest) = Json.render v.carried ++ readBack rest
  | .null, rest => readBack_units rfl rest
  | .boolean true, rest => readBack_units rfl rest
  | .boolean false, rest => readBack_units rfl rest
  | .number x, rest => readBack_numText x.value rest
  | .string s, rest => readBack_quote s rest
  | .array [], rest => readBack_units rfl rest
  | .array (v :: l), rest => by
      rw [stringify, chars_append, chars_append, List.append_assoc, List.append_assoc,
        readBack_units rfl, readBack_stringify v, readBack_elems l]
      simp [JsonData.carried, JsonData.carriedElems, Json.render]
  | .object [], rest => readBack_units rfl rest
  | .object ((k, v) :: l), rest => by
      rw [stringify, chars_append, chars_append, chars_append, chars_append, List.append_assoc,
        List.append_assoc, List.append_assoc, List.append_assoc, readBack_units rfl,
        readBack_quote, readBack_units rfl, readBack_stringify v, readBack_members l]
      simp [JsonData.carried, JsonData.carriedMembers, Json.render]

theorem readBack_elems : ∀ (l : List JsonData) (rest : List Char),
    readBack (chars (stringifyElems l) ++ rest) =
      Json.renderElems (JsonData.carriedElems l) ++ readBack rest
  | [], rest => readBack_units rfl rest
  | v :: l, rest => by
      rw [stringifyElems, chars_append, chars_append, List.append_assoc, List.append_assoc,
        readBack_units rfl, readBack_stringify v, readBack_elems l]
      simp [JsonData.carriedElems, Json.renderElems]

theorem readBack_members : ∀ (l : List (JsString × JsonData)) (rest : List Char),
    readBack (chars (stringifyMembers l) ++ rest) =
      Json.renderFields (JsonData.carriedMembers l) ++ readBack rest
  | [], rest => readBack_units rfl rest
  | (k, v) :: l, rest => by
      rw [stringifyMembers, chars_append, chars_append, chars_append, chars_append,
        List.append_assoc, List.append_assoc, List.append_assoc, List.append_assoc,
        readBack_units rfl, readBack_quote, readBack_units rfl,
        readBack_stringify v, readBack_members l]
      simp [JsonData.carriedMembers, Json.renderFields]

end

/-- The text tells apart what the data read as characters does. -/
theorem carried_of_stringify {v w : JsonData} (h : stringify v = stringify w) :
    v.carried = w.carried := by
  have hv := readBack_stringify v []
  have hw := readBack_stringify w []
  rw [h] at hv
  exact Json.render_injective (by simpa [readBack] using hv.symm.trans hw)

theorem ofList_chars_injective {s t : JsString}
    (h : String.ofList s.chars = String.ofList t.chars) : s = t :=
  chars_injective (String.ofList_injective h)

mutual

theorem stringify_of_carried : ∀ (v w : JsonData),
    v.carried = w.carried → stringify v = stringify w
  | .null, w, h => by
      cases w <;> cases h
      rfl
  | .boolean b, w, h => by
      cases w <;> cases h
      rfl
  | .number x, w, h => by
      cases w <;> injection h
      next y hxy => rw [stringify, stringify, hxy]
  | .string s, w, h => by
      cases w <;> injection h
      next t hst => rw [ofList_chars_injective hst]
  | .array [], w, h => by
      cases w <;> injection h
      next l hl =>
        cases l with
        | nil => rfl
        | cons v l => cases hl
  | .array (v :: l), w, h => by
      cases w <;> injection h
      next l' hl =>
        cases l' with
        | nil => cases hl
        | cons v' l' =>
            obtain ⟨hv, hl⟩ := List.cons.inj hl
            rw [stringify, stringify, stringify_of_carried v v' hv, elems_of_carried l l' hl]
  | .object [], w, h => by
      cases w <;> injection h
      next l hl =>
        cases l with
        | nil => rfl
        | cons p l => cases hl
  | .object ((k, v) :: l), w, h => by
      cases w <;> injection h
      next l' hl =>
        rcases l' with _ | ⟨⟨k', v'⟩, l'⟩
        · cases hl
        · obtain ⟨hp, hl⟩ := List.cons.inj hl
          obtain ⟨hk, hv⟩ := Prod.mk.inj hp
          rw [stringify, stringify, ofList_chars_injective hk, stringify_of_carried v v' hv,
            members_of_carried l l' hl]

theorem elems_of_carried : ∀ (l l' : List JsonData),
    JsonData.carriedElems l = JsonData.carriedElems l' → stringifyElems l = stringifyElems l'
  | [], [], _ => rfl
  | [], _ :: _, h => by cases h
  | _ :: _, [], h => by cases h
  | v :: l, v' :: l', h => by
      obtain ⟨hv, hl⟩ := List.cons.inj h
      rw [stringifyElems, stringifyElems, stringify_of_carried v v' hv, elems_of_carried l l' hl]

theorem members_of_carried : ∀ (l l' : List (JsString × JsonData)),
    JsonData.carriedMembers l = JsonData.carriedMembers l' →
      stringifyMembers l = stringifyMembers l'
  | [], [], _ => rfl
  | [], _ :: _, h => by cases h
  | _ :: _, [], h => by cases h
  | (k, v) :: l, (k', v') :: l', h => by
      obtain ⟨hp, hl⟩ := List.cons.inj h
      obtain ⟨hk, hv⟩ := Prod.mk.inj hp
      rw [stringifyMembers, stringifyMembers, ofList_chars_injective hk,
        stringify_of_carried v v' hv, members_of_carried l l' hl]

end

/-- Data has one text exactly when it reads the same as characters. -/
theorem stringify_eq_iff (v w : JsonData) : stringify v = stringify w ↔ v.carried = w.carried :=
  ⟨carried_of_stringify, stringify_of_carried v w⟩

/-! ## Ordering members -/

section Order

variable {β γ : Type}

/-- The members in the order of the text. -/
abbrev ordered (l : List (JsString × β)) : List (JsString × β) := fromEntries (sortKeys l)

theorem transCmp_key :
    Std.TransCmp fun p q : JsString × β => compare p.1 q.1 := transCmp_comap Prod.fst

theorem ordered_perm (l : List (JsString × β)) : (ordered l).Perm l := by
  refine List.Perm.trans ?_ (sortBy_perm (fun p q : JsString × β => compare p.1 q.1) l)
  refine List.Perm.trans ((sortBy_perm _ _).append_right _) ?_
  exact List.filter_append_perm _ _

/-- The order the members came in does not show. -/
theorem ordered_congr {l l' : List (JsString × β)} (hl : (l.map Prod.fst).Nodup)
    (h : l.Perm l') : ordered l = ordered l' := by
  have htrans : Std.TransCmp fun p q : JsString × β => compare p.1 q.1 := transCmp_key
  have hsorted : sortKeys l = sortKeys l' := by
    refine sortBy_congr h fun p hp q hq heq => ?_
    exact List.inj_on_of_nodup_map hl hp hq (Std.LawfulEqCmp.eq_of_compare heq)
  rw [ordered, hsorted]

theorem sortKeys_map (f : β → γ) (l : List (JsString × β)) :
    (sortKeys l).map (fun p => (p.1, f p.2)) = sortKeys (l.map fun p => (p.1, f p.2)) :=
  List.map_mergeSort fun _ _ _ _ => rfl

/-- The order looks at the keys only. -/
theorem ordered_map (f : β → γ) (l : List (JsString × β)) :
    (ordered l).map (fun p => (p.1, f p.2)) = ordered (l.map fun p => (p.1, f p.2)) := by
  unfold ordered fromEntries
  rw [← sortKeys_map, List.map_append, List.filter_map, List.filter_map]
  refine congrArg₂ _ ?_ rfl
  exact List.map_mergeSort fun _ _ _ _ => rfl

end Order

/-! ## Normal forms of JSON values -/

mutual

/-- The normal form of a JSON value. -/
def JsAny.norm : JsAny → JsonData
  | .null | .undefined | .other _ => .null
  | .boolean b => .boolean b
  | .number (.finite x) => .number x
  | .number _ => .null
  | .string s => .string s
  | .array l => .array (normElems l)
  | .object l => .object (ordered (normMembers l))

def JsAny.normElems : List JsAny → List JsonData
  | [] => []
  | v :: l => v.norm :: JsAny.normElems l

def JsAny.normMembers : List (JsString × JsAny) → List (JsString × JsonData)
  | [] => []
  | (k, v) :: l => (k, v.norm) :: JsAny.normMembers l

end

theorem inTurn_ok {β : Type} (l : List (JsString × β)) :
    inTurn (l.map fun p => (p.1, .ok p.2)) = .ok l := by
  induction l with
  | nil => rfl
  | cons p l ih =>
      unfold inTurn at ih ⊢
      rw [List.map_cons, List.mapM_cons, ih]
      rfl

theorem inTurn_error {β : Type} {l : List (JsString × Except JsString β)}
    {p : JsString × Except JsString β} (hp : p ∈ l) {e : JsString} (he : p.2 = .error e) :
    ∃ e', inTurn l = .error e' := by
  induction l with
  | nil => cases hp
  | cons q l ih =>
      unfold inTurn at ih ⊢
      rw [List.mapM_cons]
      cases hq : q.2 with
      | error e' => exact ⟨e', rfl⟩
      | ok b =>
          rcases List.mem_cons.mp hp with rfl | hp
          · cases he.symm.trans hq
          · obtain ⟨e', he'⟩ := ih hp
            rw [he']
            exact ⟨e', rfl⟩

mutual

theorem normalize_of_isJson : ∀ v : JsAny, v.isJson = true → normalize v = .ok v.norm
  | .null, _ => rfl
  | .boolean _, _ => rfl
  | .string _, _ => rfl
  | .number (.finite _), _ => rfl
  | .number .nan, h => nomatch h
  | .number (.infinity _), h => nomatch h
  | .undefined, h => nomatch h
  | .other _, h => nomatch h
  | .array l, h => by
      rw [normalize, normalizeElems_of_isJson l h]
      rfl
  | .object l, h => by
      rw [normalize, normalizeMembers_of_isJson l h,
        ← sortKeys_map (Except.ok : JsonData → Except JsString JsonData), inTurn_ok]
      rfl

theorem normalizeElems_of_isJson : ∀ l : List JsAny, JsAny.isJsonElems l = true →
    normalizeElems l = .ok (JsAny.normElems l)
  | [], _ => rfl
  | v :: l, h => by
      obtain ⟨hv, hl⟩ := Bool.and_eq_true_iff.mp h
      rw [normalizeElems, normalize_of_isJson v hv, normalizeElems_of_isJson l hl]
      rfl

theorem normalizeMembers_of_isJson : ∀ l : List (JsString × JsAny), JsAny.isJsonMembers l = true →
    normalizeMembers l = (JsAny.normMembers l).map fun p => (p.1, .ok p.2)
  | [], _ => rfl
  | (k, v) :: l, h => by
      obtain ⟨hv, hl⟩ := Bool.and_eq_true_iff.mp h
      have hmember : member k v (.ok v.norm) = .ok v.norm := by
        cases v <;> first | rfl | cases hv
      rw [normalizeMembers, normalize_of_isJson v hv, hmember, normalizeMembers_of_isJson l hl]
      rfl

end

/-! ## Values that are refused -/

mutual

theorem normalize_refused : ∀ v : JsAny, v.isJson = false → ∃ e, normalize v = .error e
  | .null, h => nomatch h
  | .boolean _, h => nomatch h
  | .string _, h => nomatch h
  | .number (.finite _), h => nomatch h
  | .number .nan, _ => ⟨_, rfl⟩
  | .number (.infinity _), _ => ⟨_, rfl⟩
  | .undefined, _ => ⟨_, rfl⟩
  | .other _, _ => ⟨_, rfl⟩
  | .array l, h => by
      obtain ⟨e, he⟩ := normalizeElems_refused l h
      rw [normalize, he]
      exact ⟨e, rfl⟩
  | .object l, h => by
      obtain ⟨p, hp, e, he⟩ := normalizeMembers_refused l h
      have hsorted : p ∈ sortKeys (normalizeMembers l) := (sortBy_perm _ _).mem_iff.mpr hp
      obtain ⟨e', he'⟩ := inTurn_error hsorted he
      rw [normalize, he']
      exact ⟨e', rfl⟩

theorem normalizeElems_refused : ∀ l : List JsAny, JsAny.isJsonElems l = false →
    ∃ e, normalizeElems l = .error e
  | [], h => nomatch h
  | v :: l, h => by
      rw [normalizeElems]
      cases hv : v.isJson with
      | false =>
          obtain ⟨e, he⟩ := normalize_refused v hv
          rw [he]
          exact ⟨e, rfl⟩
      | true =>
          rw [JsAny.isJsonElems, hv, Bool.true_and] at h
          obtain ⟨e, he⟩ := normalizeElems_refused l h
          rw [normalize_of_isJson v hv, he]
          exact ⟨e, rfl⟩

theorem normalizeMembers_refused : ∀ l : List (JsString × JsAny),
    JsAny.isJsonMembers l = false → ∃ p ∈ normalizeMembers l, ∃ e, p.2 = .error e
  | [], h => nomatch h
  | (k, v) :: l, h => by
      rw [normalizeMembers]
      cases hv : v.isJson with
      | false =>
          obtain ⟨e, he⟩ := normalize_refused v hv
          rw [he]
          refine ⟨_, List.mem_cons_self, ?_⟩
          cases v <;> exact ⟨_, rfl⟩
      | true =>
          rw [JsAny.isJsonMembers, hv, Bool.true_and] at h
          obtain ⟨p, hp, he⟩ := normalizeMembers_refused l h
          exact ⟨p, List.mem_cons_of_mem _ hp, he⟩

end

theorem isJsonElems_iff (l : List JsAny) :
    JsAny.isJsonElems l = true ↔ ∀ v ∈ l, v.isJson = true := by
  induction l with
  | nil => simp [JsAny.isJsonElems]
  | cons v l ih => simp [JsAny.isJsonElems, ih]

theorem isJsonMembers_iff (l : List (JsString × JsAny)) :
    JsAny.isJsonMembers l = true ↔ ∀ p ∈ l, p.2.isJson = true := by
  induction l with
  | nil => simp [JsAny.isJsonMembers]
  | cons p l ih =>
      obtain ⟨k, v⟩ := p
      simp [JsAny.isJsonMembers, ih]

theorem keyedMembers_iff (l : List (JsString × JsAny)) :
    JsAny.keyedMembers l = true ↔ ∀ p ∈ l, p.2.keyed = true := by
  induction l with
  | nil => simp [JsAny.keyedMembers]
  | cons p l ih =>
      obtain ⟨k, v⟩ := p
      simp [JsAny.keyedMembers, ih]

/-- What stands in a JSON value is one. -/
theorem isJson_of_within {x v : JsAny} (h : x.Within v) (hv : v.isJson = true) :
    x.isJson = true := by
  induction h with
  | refl => exact hv
  | elem hmem _ ih => exact ih ((isJsonElems_iff _).mp hv _ hmem)
  | member hmem _ ih => exact ih ((isJsonMembers_iff _).mp hv _ hmem)

/-- `canonicalJson` returns a text for the JSON values, and throws for the others. -/
theorem canonicalJson_of_isJson {v : JsAny} (h : v.isJson = true) :
    canonicalJson v = .ok (stringify v.norm) := by
  rw [canonicalJson, normalize_of_isJson v h]
  rfl

theorem canonicalJson_refused {v : JsAny} (h : v.isJson = false) :
    ∃ e, canonicalJson v = .error e := by
  obtain ⟨e, he⟩ := normalize_refused v h
  rw [canonicalJson, he]
  exact ⟨e, rfl⟩

/-! ## Normal forms against equality -/

/-- The members with their values read as characters. -/
def carriedValues (l : List (JsString × JsAny)) : List (JsString × JsVal) :=
  l.map fun p => (p.1, p.2.norm.carried)

theorem carriedMembers_eq (l : List (JsString × JsonData)) :
    JsonData.carriedMembers l =
      (l.map fun p => (p.1, p.2.carried)).map fun p => (String.ofList p.1.chars, p.2) := by
  induction l with
  | nil => rfl
  | cons p l ih =>
      obtain ⟨k, v⟩ := p
      rw [JsonData.carriedMembers, ih]
      rfl

theorem normMembers_eq (l : List (JsString × JsAny)) :
    JsAny.normMembers l = l.map fun p => (p.1, p.2.norm) := by
  induction l with
  | nil => rfl
  | cons p l ih =>
      obtain ⟨k, v⟩ := p
      rw [JsAny.normMembers, ih]
      rfl

/-- Objects read the same exactly when they have the same members. -/
theorem carried_object_iff {l l' : List (JsString × JsAny)} (hl : (l.map Prod.fst).Nodup) :
    (JsAny.object l).norm.carried = (JsAny.object l').norm.carried ↔
      (carriedValues l).Perm (carriedValues l') := by
  have hobject : ∀ l : List (JsString × JsAny), (JsAny.object l).norm.carried =
      .obj ((ordered (carriedValues l)).map fun p => (String.ofList p.1.chars, p.2)) := by
    intro l
    have hvalues : carriedValues l =
        (JsAny.normMembers l).map fun p => (p.1, p.2.carried) := by
      rw [normMembers_eq, List.map_map]
      rfl
    rw [JsAny.norm, JsonData.carried, carriedMembers_eq, ordered_map, hvalues]
  have hinjective : Function.Injective fun p : JsString × JsVal =>
      (String.ofList p.1.chars, p.2) := by
    rintro ⟨k, v⟩ ⟨k', v'⟩ h
    obtain ⟨hk, hv⟩ := Prod.mk.inj h
    exact Prod.mk.injEq .. ▸ ⟨ofList_chars_injective hk, hv⟩
  rw [hobject, hobject, JsVal.obj.injEq, hinjective.list_map.eq_iff]
  constructor
  · intro h
    exact (ordered_perm _).symm.trans (h ▸ ordered_perm _)
  · intro h
    refine ordered_congr ?_ h
    rw [carriedValues, List.map_map]
    exact hl

/-- Members that are the same in another order. -/
theorem exists_reordered {l l' : List (JsString × JsAny)}
    (h : (carriedValues l).Perm (carriedValues l')) :
    ∃ reordered, carriedValues l = carriedValues reordered ∧ reordered.Perm l' := by
  have hvalues : List.Forall₂ (fun p q => p = (q.1, q.2.norm.carried)) (carriedValues l') l' :=
    List.forall₂_map_left_iff.mpr (List.forall₂_same.mpr fun _ _ => rfl)
  obtain ⟨reordered, hreordered, hperm⟩ := List.perm_comp_forall₂ h hvalues
  refine ⟨reordered, ?_, hperm⟩
  have heq : List.Forall₂ Eq (carriedValues l) (carriedValues reordered) :=
    List.forall₂_map_right_iff.mpr hreordered
  rwa [List.forall₂_eq_eq_eq] at heq

mutual

theorem same_iff : ∀ (v w : JsAny), v.isJson = true → w.isJson = true → v.keyed = true →
    w.keyed = true → (v.norm.carried = w.norm.carried ↔ Same v w)
  | .null, w, _, hw, _, _ => by
      rcases w with _ | _ | _ | (_ | _ | _) | _ | _ | _ | _ <;>
        simp [JsAny.norm, JsonData.carried, Same, JsAny.isJson, JsNumber.isFinite] at hw ⊢
  | .undefined, w, hv, _, _, _ => nomatch hv
  | .other _, w, hv, _, _, _ => nomatch hv
  | .boolean b, w, _, hw, _, _ => by
      rcases w with _ | _ | _ | (_ | _ | _) | _ | _ | _ | _ <;>
        simp [JsAny.norm, JsonData.carried, Same, JsAny.isJson, JsNumber.isFinite] at hw ⊢
  | .number (.finite x), w, _, hw, _, _ => by
      rcases w with _ | _ | _ | (_ | _ | _) | _ | _ | _ | _ <;>
        simp [JsAny.norm, JsonData.carried, Same, JsAny.isJson, JsNumber.isFinite] at hw ⊢
  | .number .nan, w, hv, _, _, _ => nomatch hv
  | .number (.infinity _), w, hv, _, _, _ => nomatch hv
  | .string s, w, _, hw, _, _ => by
      rcases w with _ | _ | _ | (_ | _ | _) | t | _ | _ | _ <;>
        simp [JsAny.norm, JsonData.carried, Same, JsAny.isJson, JsNumber.isFinite] at hw ⊢
      exact ⟨ofList_chars_injective, fun h => by rw [h]⟩
  | .array l, w, hv, hw, hkv, hkw => by
      rcases w with _ | _ | _ | (_ | _ | _) | _ | l' | _ | _
      case array =>
        rw [Same, ← sameElems_iff l l' hv hw hkv hkw]
        exact JsVal.arr.injEq .. ▸ Iff.rfl
      all_goals
        simp [JsAny.norm, JsonData.carried, Same, JsAny.isJson, JsNumber.isFinite] at hw ⊢
  | .object l, w, hv, hw, hkv, hkw => by
      rcases w with _ | _ | _ | (_ | _ | _) | _ | _ | l' | _
      case object =>
        obtain ⟨hl, hkl⟩ := Bool.and_eq_true_iff.mp hkv
        obtain ⟨-, hkl'⟩ := Bool.and_eq_true_iff.mp hkw
        rw [carried_object_iff (of_decide_eq_true hl), Same]
        have hreordered : ∀ {reordered : List (JsString × JsAny)}, reordered.Perm l' →
            (carriedValues l = carriedValues reordered ↔ SameMembers l reordered) := by
          intro reordered hperm
          refine sameMembers_iff l reordered hv ?_ hkl ?_
          · refine (isJsonMembers_iff _).mpr fun p hp => ?_
            exact (isJsonMembers_iff l').mp hw p (hperm.mem_iff.mp hp)
          · refine (keyedMembers_iff _).mpr fun p hp => ?_
            exact (keyedMembers_iff l').mp hkl' p (hperm.mem_iff.mp hp)
        constructor
        · intro h
          obtain ⟨reordered, hvalues, hperm⟩ := exists_reordered h
          exact ⟨reordered, (hreordered hperm).mp hvalues, hperm⟩
        · rintro ⟨reordered, hmembers, hperm⟩
          rw [(hreordered hperm).mpr hmembers]
          exact hperm.map _
      all_goals
        simp [JsAny.norm, JsonData.carried, Same, JsAny.isJson, JsNumber.isFinite] at hw ⊢

theorem sameElems_iff : ∀ (l l' : List JsAny), JsAny.isJsonElems l = true →
    JsAny.isJsonElems l' = true → JsAny.keyedElems l = true → JsAny.keyedElems l' = true →
    (JsonData.carriedElems (JsAny.normElems l) = JsonData.carriedElems (JsAny.normElems l') ↔
      SameElems l l')
  | [], [], _, _, _, _ => by simp [SameElems]
  | [], _ :: _, _, _, _, _ => by simp [SameElems, JsAny.normElems, JsonData.carriedElems]
  | _ :: _, [], _, _, _, _ => by simp [SameElems, JsAny.normElems, JsonData.carriedElems]
  | v :: l, w :: l', hv, hw, hkv, hkw => by
      obtain ⟨hv, hl⟩ := Bool.and_eq_true_iff.mp hv
      obtain ⟨hw, hl'⟩ := Bool.and_eq_true_iff.mp hw
      obtain ⟨hkv, hkl⟩ := Bool.and_eq_true_iff.mp hkv
      obtain ⟨hkw, hkl'⟩ := Bool.and_eq_true_iff.mp hkw
      rw [SameElems, ← same_iff v w hv hw hkv hkw, ← sameElems_iff l l' hl hl' hkl hkl']
      simp only [JsAny.normElems, JsonData.carriedElems, List.cons.injEq]

theorem sameMembers_iff : ∀ (l l' : List (JsString × JsAny)), JsAny.isJsonMembers l = true →
    JsAny.isJsonMembers l' = true → JsAny.keyedMembers l = true → JsAny.keyedMembers l' = true →
    (carriedValues l = carriedValues l' ↔ SameMembers l l')
  | [], [], _, _, _, _ => by simp [SameMembers]
  | [], _ :: _, _, _, _, _ => by simp [SameMembers, carriedValues]
  | _ :: _, [], _, _, _, _ => by simp [SameMembers, carriedValues]
  | (k, v) :: l, (k', w) :: l', hv, hw, hkv, hkw => by
      obtain ⟨hv, hl⟩ := Bool.and_eq_true_iff.mp hv
      obtain ⟨hw, hl'⟩ := Bool.and_eq_true_iff.mp hw
      obtain ⟨hkv, hkl⟩ := Bool.and_eq_true_iff.mp hkv
      obtain ⟨hkw, hkl'⟩ := Bool.and_eq_true_iff.mp hkw
      rw [SameMembers, ← same_iff v w hv hw hkv hkw, ← sameMembers_iff l l' hl hl' hkl hkl']
      simp only [carriedValues, List.map_cons, List.cons.injEq, Prod.mk.injEq, and_assoc]

end

/-! ## The main result -/

/-- **Canonical JSON.** Of JSON values the text is equal exactly when the values are equal up to
the order of members, with one zero; a value in which `undefined` or a number that is not finite
stands at any depth has no text. -/
theorem canonical_json :
    (∀ a b : JsAny, a.isJson = true → b.isJson = true → a.keyed = true → b.keyed = true →
      (∃ text, canonicalJson a = .ok text) ∧
        (canonicalJson a = canonicalJson b ↔ Same a b)) ∧
    ∀ a x : JsAny, x.Within a →
      (x = .undefined ∨ ∃ n : JsNumber, x = .number n ∧ n.isFinite = false) →
      ∃ e, canonicalJson a = .error e := by
  refine ⟨fun a b ha hb hka hkb => ⟨⟨_, canonicalJson_of_isJson ha⟩, ?_⟩, fun a x hx hbad => ?_⟩
  · rw [canonicalJson_of_isJson ha, canonicalJson_of_isJson hb, Except.ok.injEq, stringify_eq_iff,
      same_iff a b ha hb hka hkb]
  · have hnot : x.isJson = false := by
      rcases hbad with rfl | ⟨n, rfl, hn⟩
      · rfl
      · exact hn
    refine canonicalJson_refused (Bool.eq_false_iff.mpr fun ha => ?_)
    rw [isJson_of_within hx ha] at hnot
    cases hnot

namespace Sample

theorem surrogate_lt : 0xD800 < 65536 := by decide

/-- `{ "b": -0, "a": ["\ud800"] }` -/
def oneOrder : JsAny := .object
  [(units ['b'], .number (.finite .negativeZero)),
    (units ['a'], .array [.string [⟨0xD800, surrogate_lt⟩]])]

/-- `{ "a": ["\ud800"], "b": 0 }` -/
def otherOrder : JsAny := .object
  [(units ['a'], .array [.string [⟨0xD800, surrogate_lt⟩]]),
    (units ['b'], .number (.finite (.of (.int 0))))]

/-- `{ "a": [NaN] }` -/
def notFinite : JsAny := .object [(units ['a'], .array [.number .nan])]

theorem canonical_json_orders :
    canonicalJson oneOrder = canonicalJson otherOrder ∧
      ∃ e, canonicalJson notFinite = .error e := by
  obtain ⟨hjson, hrefused⟩ := canonical_json
  refine ⟨?_, ?_⟩
  · refine (hjson oneOrder otherOrder (by decide) (by decide) (by decide) (by decide)).2.mpr ?_
    refine ⟨[(units ['b'], .number (.finite (.of (.int 0)))),
      (units ['a'], .array [.string [⟨0xD800, surrogate_lt⟩]])], ?_, List.Perm.swap _ _ []⟩
    exact ⟨rfl, rfl, rfl, ⟨rfl, trivial⟩, trivial⟩
  · refine hrefused notFinite (.number .nan) ?_ (.inr ⟨.nan, rfl, rfl⟩)
    exact .member List.mem_cons_self (.elem List.mem_cons_self .refl)

end Sample

end InspectionHub.Domain.CanonicalJson
