import InspectionHub.Lib.Object
import InspectionHub.Lib.Stringify

/-!
# Canonical JSON

`normalize` rewrites every object with its keys sorted, and
`canonicalJson` is the text of the result. Two values have the same text
exactly when they are equal up to the order of their properties
(`canonicalJson_eq_iff`, `normalize_obj_eq_iff`).

The order of an object's keys in the text is the engine's: array indices
first, in numeric order, then the rest as `Array.prototype.sort` left them,
by UTF-16 code units. `keyRank` maps a key to its place in that order.
-/

namespace InspectionHub

variable {k : String} {l l' : Fields}

namespace Canonical

/-! ## Key order -/

/-- The UTF-16 code units of a character. -/
def utf16 (c : Char) : List Nat :=
  if c.toNat < 0x10000 then [c.toNat]
  else [0xD800 + (c.toNat - 0x10000) / 0x400, 0xDC00 + (c.toNat - 0x10000) % 0x400]

def codeUnits (s : String) : List Nat := s.toList.flatMap utf16

/-- The number a list of decimal digits stands for. -/
def digitsValue (l : List Char) : Nat := l.foldl (fun n c => n * 10 + (c.toNat - 0x30)) 0

/-- An array index, written as the language writes it. -/
def arrayIndex? (k : String) : Option Nat :=
  if k.toList.all Char.isDigit then
    let n := digitsValue k.toList
    if Json.natText n = k.toList ∧ n < 2 ^ 32 - 1 then some n else none
  else none

/-- Where a key stands among the keys of its object. -/
def keyRank (k : String) : List Nat :=
  match arrayIndex? k with
  | some n => [0, n]
  | none => 1 :: codeUnits k

/-- Read one character back off its code units. -/
def fromUtf16 : List Nat → Option (Nat × List Nat)
  | [] => none
  | [a] => some (a, [])
  | a :: b :: r =>
      if 0xD800 ≤ a ∧ a < 0xDC00 then
        some (0x10000 + (a - 0xD800) * 0x400 + (b - 0xDC00), r)
      else some (a, b :: r)

theorem fromUtf16_utf16 (c : Char) (r : List Nat) :
    fromUtf16 (utf16 c ++ r) = some (c.toNat, r) := by
  unfold utf16
  by_cases h : c.toNat < 0x10000
  · rw [if_pos h]
    -- no character is a surrogate
    have hnot : ¬ (0xD800 ≤ c.toNat ∧ c.toNat < 0xDC00) := by
      have hvalid := c.valid
      simp only [UInt32.isValidChar, Nat.isValidChar] at hvalid
      have hval : c.toNat = c.val.toNat := rfl
      omega
    cases r with
    | nil => rfl
    | cons b r => simp only [List.singleton_append, fromUtf16, if_neg hnot]
  · rw [if_neg h]
    have hmax : c.toNat < 0x110000 := by
      have hvalid := c.valid
      simp only [UInt32.isValidChar, Nat.isValidChar] at hvalid
      have hval : c.toNat = c.val.toNat := rfl
      omega
    have hhigh : 0xD800 ≤ 0xD800 + (c.toNat - 0x10000) / 0x400 ∧
        0xD800 + (c.toNat - 0x10000) / 0x400 < 0xDC00 := by omega
    simp only [List.cons_append, List.nil_append, fromUtf16, if_pos hhigh, Option.some.injEq,
      Prod.mk.injEq, and_true]
    omega

theorem codeUnits_injective {s t : String} (h : codeUnits s = codeUnits t) : s = t := by
  have key : ∀ l l' : List Char, l.flatMap utf16 = l'.flatMap utf16 → l = l' := by
    intro l
    induction l with
    | nil =>
        intro l' h
        cases l' with
        | nil => rfl
        | cons c l' =>
            have := congrArg fromUtf16 h
            rw [List.flatMap_cons, fromUtf16_utf16] at this
            cases this
    | cons c l ih =>
        intro l' h
        cases l' with
        | nil =>
            have := congrArg fromUtf16 h
            rw [List.flatMap_cons, fromUtf16_utf16] at this
            cases this
        | cons c' l' =>
            have := congrArg fromUtf16 h
            rw [List.flatMap_cons, List.flatMap_cons, fromUtf16_utf16, fromUtf16_utf16,
              Option.some.injEq, Prod.mk.injEq] at this
            rw [Char.toNat_inj.mp this.1, ih l' this.2]
  exact String.toList_inj.mp (key _ _ h)

theorem arrayIndex?_text {n : Nat} (h : arrayIndex? k = some n) : k.toList = Json.natText n := by
  simp only [arrayIndex?] at h
  split at h
  · split at h
    · next hk =>
        rw [← Option.some.inj h]
        exact hk.1.symm
    · cases h
  · cases h

/-- Different keys have different places. -/
theorem keyRank_injective : Function.Injective keyRank := by
  intro k k' h
  unfold keyRank at h
  cases hk : arrayIndex? k with
  | some n =>
      cases hk' : arrayIndex? k' with
      | some n' =>
          simp only [hk, hk', List.cons.injEq, true_and, and_true] at h
          apply String.toList_inj.mp
          rw [arrayIndex?_text hk, arrayIndex?_text hk', h]
      | none =>
          simp only [hk, hk', List.cons.injEq] at h
          exact absurd h.1 (by decide)
  | none =>
      cases hk' : arrayIndex? k' with
      | some n' =>
          simp only [hk, hk', List.cons.injEq] at h
          exact absurd h.1 (by decide)
      | none =>
          simp only [hk, hk', List.cons.injEq, true_and] at h
          exact codeUnits_injective h

/-- The order of properties by their keys. -/
def KeyLe (p q : String × JsVal) : Prop := keyRank p.1 ≤ keyRank q.1

instance : DecidableRel KeyLe := fun p q => inferInstanceAs (Decidable (keyRank p.1 ≤ keyRank q.1))

instance : Std.Total KeyLe := ⟨fun p q => le_total (keyRank p.1) (keyRank q.1)⟩

instance : IsTrans (String × JsVal) KeyLe :=
  ⟨fun p q r => le_trans (a := keyRank p.1) (b := keyRank q.1) (c := keyRank r.1)⟩

/-- `Object.keys(record).sort()`, with the values. -/
def sortKeys (l : Fields) : Fields := l.insertionSort KeyLe

theorem sortKeys_perm (l : Fields) : (sortKeys l).Perm l := List.perm_insertionSort KeyLe l

/-- Sorting forgets the order the properties came in. -/
theorem sortKeys_eq_of_perm (hl : l.keys.Nodup) (h : l.Perm l') : sortKeys l = sortKeys l' := by
  have hperm : (sortKeys l).Perm (sortKeys l') :=
    ((sortKeys_perm l).trans h).trans (sortKeys_perm l').symm
  refine List.Perm.eq_of_pairwise ?_ (List.pairwise_insertionSort KeyLe l)
    (List.pairwise_insertionSort KeyLe l') hperm
  intro p q hp hq hpq hqp
  have hkey : p.1 = q.1 := keyRank_injective (le_antisymm hpq hqp)
  have hp' : p ∈ l := (sortKeys_perm l).mem_iff.mp hp
  have hq' : q ∈ l := h.mem_iff.mpr ((sortKeys_perm l').mem_iff.mp hq)
  exact List.inj_on_of_nodup_map hl hp' hq' hkey

end Canonical

open Canonical

/-! ## Normal form -/

mutual

/-- `normalize(value)`. -/
def normalize : JsVal → JsVal
  | .arr l => .arr (normalizeElems l)
  | .obj l => .obj (sortKeys (normalizeFields l))
  | v => v

def normalizeElems : List JsVal → List JsVal
  | [] => []
  | v :: l => normalize v :: normalizeElems l

def normalizeFields : List (String × JsVal) → List (String × JsVal)
  | [] => []
  | (k, v) :: l => (k, normalize v) :: normalizeFields l

end

/-- `canonicalJson(value)`. -/
def canonicalJson (v : JsVal) : String := Json.stringify (normalize v)

theorem normalizeElems_eq (l : List JsVal) : normalizeElems l = l.map normalize := by
  induction l with
  | nil => rfl
  | cons v l ih => rw [normalizeElems, ih, List.map_cons]

theorem normalizeFields_eq (l : Fields) :
    normalizeFields l = l.map fun p => (p.1, normalize p.2) := by
  induction l with
  | nil => rfl
  | cons p l ih =>
      obtain ⟨k, v⟩ := p
      rw [normalizeFields, ih, List.map_cons]

theorem normalize_arr_eq_iff (l l' : List JsVal) :
    normalize (.arr l) = normalize (.arr l') ↔ l.map normalize = l'.map normalize := by
  simp only [normalize, normalizeElems_eq, JsVal.arr.injEq]

theorem keys_normalizeFields (l : Fields) : Fields.keys (normalizeFields l) = l.keys := by
  rw [normalizeFields_eq]
  exact Fields.keys_map l fun p => normalize p.2

theorem lookup_normalizeFields (l : Fields) (k : String) :
    List.lookup k (normalizeFields l) = (l.lookup k).map normalize := by
  rw [normalizeFields_eq]
  exact Fields.lookup_map l normalize k

/-- Two objects have one normal form exactly when their properties do, key by
key. -/
theorem normalize_obj_eq_iff (hl : l.keys.Nodup) (hl' : l'.keys.Nodup) :
    normalize (.obj l) = normalize (.obj l') ↔
      ∀ k, (l.lookup k).map normalize = (l'.lookup k).map normalize := by
  have hn : (Fields.keys (normalizeFields l)).Nodup := by rwa [keys_normalizeFields]
  have hn' : (Fields.keys (normalizeFields l')).Nodup := by rwa [keys_normalizeFields]
  simp only [normalize, JsVal.obj.injEq, ← lookup_normalizeFields]
  constructor
  · intro h k
    have hperm : (normalizeFields l).Perm (normalizeFields l') := by
      have := sortKeys_perm (normalizeFields l')
      rw [← h] at this
      exact (sortKeys_perm (normalizeFields l)).symm.trans this
    apply Option.ext
    intro v
    rw [Fields.lookup_eq_some_iff hn, Fields.lookup_eq_some_iff hn', hperm.mem_iff]
  · intro h
    refine sortKeys_eq_of_perm hn ?_
    refine (List.perm_ext_iff_of_nodup hn.of_map hn'.of_map).mpr ?_
    rintro ⟨k, v⟩
    rw [← Fields.lookup_eq_some_iff hn, ← Fields.lookup_eq_some_iff hn', h k]

/-! ## Equality up to the order of properties -/

/-- The two values differ at most in the order of properties. -/
def Same (v w : JsVal) : Prop := normalize v = normalize w

theorem canonicalJson_eq_iff (v w : JsVal) : canonicalJson v = canonicalJson w ↔ Same v w :=
  Json.stringify_injective.eq_iff

theorem Same.refl (v : JsVal) : Same v v := rfl

theorem Same.symm {v w : JsVal} (h : Same v w) : Same w v := Eq.symm h

theorem Same.trans {u v w : JsVal} (h : Same u v) (h' : Same v w) : Same u w := Eq.trans h h'

/-- Strings and numbers are only the same as themselves. -/
theorem Same.str_eq {v : JsVal} {s : String} (h : Same v (.str s)) : v = .str s := by
  unfold Same at h
  cases v with
  | null => cases h
  | bool b => cases h
  | num n => cases h
  | str t => exact h
  | arr l => cases h
  | obj l => cases h

theorem Same.num_eq {v : JsVal} {n : JsNum} (h : Same v (.num n)) : v = .num n := by
  unfold Same at h
  cases v with
  | null => cases h
  | bool b => cases h
  | num m => exact h
  | str t => cases h
  | arr l => cases h
  | obj l => cases h

/-- The same values have the same properties. -/
theorem Same.get? {v w : JsVal} (h : Same v w) (hv : v.Keyed) (hw : w.Keyed) (k : String) :
    (v.get? k).map normalize = (w.get? k).map normalize := by
  unfold Same at h
  cases v with
  | obj l =>
      cases w with
      | obj l' =>
          exact (normalize_obj_eq_iff hv hw).mp h k
      | null => cases h
      | bool b => cases h
      | num n => cases h
      | str s => cases h
      | arr l => cases h
  | null => cases w <;> first | rfl | cases h
  | bool b => cases w <;> first | rfl | cases h
  | num n => cases w <;> first | rfl | cases h
  | str s => cases w <;> first | rfl | cases h
  | arr l => cases w <;> first | rfl | cases h

/-- A property of one value is there, the same, in the other. -/
theorem Same.get?_some {v w x : JsVal} (h : Same v w) (hv : v.Keyed) (hw : w.Keyed)
    (hx : v.get? k = some x) : ∃ y, w.get? k = some y ∧ Same x y := by
  have hmap := h.get? hv hw k
  rw [hx, Option.map_some] at hmap
  obtain ⟨y, hy, hxy⟩ := Option.map_eq_some_iff.mp hmap.symm
  exact ⟨y, hy, hxy.symm⟩

theorem Same.str? {v w : JsVal} (h : Same v w) (hv : v.Keyed) (hw : w.Keyed) (k : String) :
    v.str? k = w.str? k := by
  have one : ∀ {v w : JsVal}, Same v w → v.Keyed → w.Keyed → ∀ s,
      v.str? k = some s → w.str? k = some s := by
    intro v w h hv hw s hs
    obtain ⟨y, hy, hsame⟩ := h.get?_some hv hw (JsVal.get?_of_str? hs)
    rw [JsVal.str?, hy, hsame.symm.str_eq]
  apply Option.ext
  exact fun s => ⟨one h hv hw s, one h.symm hw hv s⟩

theorem Same.int? {v w : JsVal} (h : Same v w) (hv : v.Keyed) (hw : w.Keyed) (k : String) :
    v.int? k = w.int? k := by
  have one : ∀ {v w : JsVal}, Same v w → v.Keyed → w.Keyed → ∀ n,
      v.int? k = some n → w.int? k = some n := by
    intro v w h hv hw n hn
    obtain ⟨y, hy, hsame⟩ := h.get?_some hv hw (JsVal.get?_of_int? hn)
    rw [JsVal.int?, hy, hsame.symm.num_eq]
  apply Option.ext
  exact fun n => ⟨one h hv hw n, one h.symm hw hv n⟩

theorem Same.strAt? {v w : JsVal} (h : Same v w) (hv : v.plain = true) (hw : w.plain = true)
    (ks : List String) : v.strAt? ks = w.strAt? ks := by
  induction ks generalizing v w with
  | nil => rfl
  | cons k ks ih =>
      cases ks with
      | nil => exact h.str? (JsVal.keyed_of_plain hv) (JsVal.keyed_of_plain hw) k
      | cons k' ks =>
          have hv' := JsVal.keyed_of_plain hv
          have hw' := JsVal.keyed_of_plain hw
          show (v.get? k).bind _ = (w.get? k).bind _
          cases hx : v.get? k with
          | some x =>
              obtain ⟨y, hy, hsame⟩ := h.get?_some hv' hw' hx
              rw [hy, Option.bind_some, Option.bind_some]
              exact ih hsame (JsVal.plain_get? hv hx) (JsVal.plain_get? hw hy)
          | none =>
              have hmap := h.get? hv' hw' k
              rw [hx] at hmap
              rw [Option.map_eq_none_iff.mp hmap.symm]

/-- What is the same as a plain value is plain. -/
theorem Same.plain {v w : JsVal} (h : Same v w) (hv : v.distinct = true) (hw : w.plain = true) :
    v.plain = true := by
  cases v with
  | null => rfl
  | bool b => rfl
  | num n => rfl
  | str s => rfl
  | arr l =>
      unfold Same at h
      cases w with
      | arr r =>
          have hmap := (normalize_arr_eq_iff l r).mp h
          rw [JsVal.plain, JsVal.plainElems_iff]
          intro x hx
          obtain ⟨y, hy, hxy⟩ := List.mem_map.mp (hmap ▸ List.mem_map_of_mem hx)
          have hsame : Same x y := hxy.symm
          exact hsame.plain (JsVal.distinct_arr hv x hx) (JsVal.plain_arr hw y hy)
      | null => cases h
      | bool b => cases h
      | num n => cases h
      | str s => cases h
      | obj r => cases h
  | obj l =>
      unfold Same at h
      cases w with
      | obj r =>
          obtain ⟨hl, hvals⟩ := JsVal.distinct_obj hv
          obtain ⟨hr, hproto, hplain⟩ := (JsVal.plain_obj_iff r).mp hw
          have hfields := (normalize_obj_eq_iff hl hr).mp h
          refine (JsVal.plain_obj_iff l).mpr ⟨hl, ?_, ?_⟩
          · intro hk
            obtain ⟨p, hp, hpk⟩ := List.mem_map.mp hk
            have hlook := hfields p.1
            rw [(Fields.lookup_eq_some_iff hl p.1 p.2).mpr hp, Option.map_some] at hlook
            obtain ⟨y, hy, -⟩ := Option.map_eq_some_iff.mp hlook.symm
            rw [← hpk] at hproto
            exact hproto (Fields.mem_keys_of_lookup hy)
          · rintro ⟨k, x⟩ hp
            have hlook := hfields k
            rw [(Fields.lookup_eq_some_iff hl k x).mpr hp, Option.map_some] at hlook
            obtain ⟨y, hy, hxy⟩ := Option.map_eq_some_iff.mp hlook.symm
            have hsame : Same x y := hxy.symm
            exact hsame.plain (hvals _ hp) (hplain _ (Fields.mem_of_lookup hy))
      | null => cases h
      | bool b => cases h
      | num n => cases h
      | str s => cases h
      | arr r => cases h
termination_by sizeOf v
decreasing_by
  · have hlt := List.sizeOf_lt_of_mem hx
    subst_vars
    rw [JsVal.arr.sizeOf_spec]
    omega
  · have hlt := List.sizeOf_lt_of_mem hp
    subst_vars
    rw [Prod.mk.sizeOf_spec] at hlt
    rw [JsVal.obj.sizeOf_spec]
    omega

/-- Plain values that differ at most in the order of properties. -/
structure Alike (v w : JsVal) : Prop where
  left : v.plain = true
  right : w.plain = true
  same : Same v w

namespace Alike

theorem refl {v : JsVal} (h : v.plain = true) : Alike v v := ⟨h, h, Same.refl v⟩

theorem symm {v w : JsVal} (h : Alike v w) : Alike w v := ⟨h.right, h.left, h.same.symm⟩

variable {v w x y : JsVal}

theorem get?_some (h : Alike v w) (hx : v.get? k = some x) :
    ∃ y, w.get? k = some y ∧ Alike x y := by
  obtain ⟨y, hy, hsame⟩ := h.same.get?_some (JsVal.keyed_of_plain h.left)
    (JsVal.keyed_of_plain h.right) hx
  exact ⟨y, hy, JsVal.plain_get? h.left hx, JsVal.plain_get? h.right hy, hsame⟩

theorem get?_none (h : Alike v w) (hx : v.get? k = none) : w.get? k = none := by
  have hmap := h.same.get? (JsVal.keyed_of_plain h.left) (JsVal.keyed_of_plain h.right) k
  rw [hx] at hmap
  exact Option.map_eq_none_iff.mp hmap.symm

theorem int? (h : Alike v w) (k : String) : v.int? k = w.int? k :=
  h.same.int? (JsVal.keyed_of_plain h.left) (JsVal.keyed_of_plain h.right) k

/-- The properties of two like values are alike. -/
theorem fields (h : Alike v w) : Alike (.obj v.fields) (.obj w.fields) := by
  have hsame := h.same
  unfold Same at hsame
  cases v with
  | obj l =>
      cases w with
      | obj l' => exact h
      | null => cases hsame
      | bool b => cases hsame
      | num n => cases hsame
      | str s => cases hsame
      | arr l => cases hsame
  | null => cases w <;> first | exact refl rfl | cases hsame
  | bool b => cases w <;> first | exact refl rfl | cases hsame
  | num n => cases w <;> first | exact refl rfl | cases hsame
  | str s => cases w <;> first | exact refl rfl | cases hsame
  | arr l => cases w <;> first | exact refl rfl | cases hsame

theorem assign (h : Alike (.obj l) (.obj l')) (hv : Alike v w) (hk : k ≠ "__proto__") :
    Alike (.obj (l.assign k v)) (.obj (l'.assign k w)) := by
  have hl := JsVal.plain_assign h.left hk hv.left
  have hl' := JsVal.plain_assign h.right hk hv.right
  refine ⟨hl, hl', ?_⟩
  have hmap := (normalize_obj_eq_iff (JsVal.plain_obj h.left).1 (JsVal.plain_obj h.right).1).mp
    h.same
  refine (normalize_obj_eq_iff (JsVal.plain_obj hl).1 (JsVal.plain_obj hl').1).mpr ?_
  intro k'
  rw [Fields.lookup_assign, Fields.lookup_assign]
  split
  · exact congrArg some hv.same
  · exact hmap k'

theorem spread {l l' patch : Fields} (h : Alike (.obj l) (.obj l'))
    (hpatch : ∀ p ∈ patch, p.1 ≠ "__proto__" ∧ p.2.plain = true) :
    Alike (.obj (l.spread patch)) (.obj (l'.spread patch)) := by
  induction patch generalizing l l' with
  | nil => exact h
  | cons p patch ih =>
      obtain ⟨hk, hp⟩ := hpatch p List.mem_cons_self
      exact ih (h.assign (refl hp) hk) fun q hq => hpatch q (List.mem_cons_of_mem _ hq)

theorem push (h : Alike v w) (hx : x.plain = true) : Alike (v.push x) (w.push x) := by
  have single : Alike (.arr [x]) (.arr [x]) := refl (by simp [JsVal.plain, JsVal.plainElems, hx])
  have hsame := h.same
  unfold Same at hsame
  cases v with
  | arr l =>
      cases w with
      | arr l' =>
          have hplain : ∀ {r : List JsVal}, (JsVal.arr r).plain = true →
              (JsVal.arr (r ++ [x])).plain = true := by
            intro r hr
            simp only [JsVal.plain, JsVal.plainElems_iff] at hr ⊢
            intro u hu
            rcases List.mem_append.mp hu with hu | hu
            · exact hr u hu
            · rw [List.mem_singleton.mp hu]
              exact hx
          refine ⟨hplain h.left, hplain h.right, ?_⟩
          have hmap := (normalize_arr_eq_iff l l').mp hsame
          exact (normalize_arr_eq_iff _ _).mpr (by rw [List.map_append, List.map_append, hmap])
      | null => cases hsame
      | bool b => cases hsame
      | num n => cases hsame
      | str s => cases hsame
      | obj l => cases hsame
  | null => cases w <;> first | exact single | cases hsame
  | bool b => cases w <;> first | exact single | cases hsame
  | num n => cases w <;> first | exact single | cases hsame
  | str s => cases w <;> first | exact single | cases hsame
  | obj l => cases w <;> first | exact single | cases hsame

end Alike

end InspectionHub
