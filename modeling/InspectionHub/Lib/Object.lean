import InspectionHub.Lib.Json

/-!
# Properties of JSON objects

Reading, spreading and removing properties. A value is `plain` when the keys
of every object inside it are distinct and none is `__proto__`, the name the
language keeps for the prototype; `Document` is the type of such objects, and
`JsData` asks for distinct keys alone.
-/

namespace InspectionHub

/-- The properties of an object, in order. -/
abbrev Fields := List (String × JsVal)

variable {l : Fields} {k : String} {v : JsVal}

namespace Fields

def keys (l : Fields) : List String := l.map Prod.fst

/-- Replace the value of `k` where it stands. -/
def replaceIn (l : Fields) (k : String) (v : JsVal) : Fields :=
  l.map fun p => if p.1 = k then (k, v) else p

/-- `{ ...l, [k]: v }`: a present key keeps its place. -/
def assign (l : Fields) (k : String) (v : JsVal) : Fields :=
  if k ∈ l.keys then l.replaceIn k v else l ++ [(k, v)]

/-- `{ ...l, ...patch }`. -/
def spread (l patch : Fields) : Fields := patch.foldl (fun acc p => acc.assign p.1 p.2) l

/-- `const { [k]: _, ...rest } = l`. -/
def erase (l : Fields) (k : String) : Fields := l.filter fun p => p.1 ≠ k

theorem mem_keys_of_lookup (h : l.lookup k = some v) : k ∈ l.keys := by
  have hsome : (l.lookup k).isSome := by rw [h]; rfl
  obtain ⟨p, hp, heq⟩ := List.lookup_isSome_iff.mp hsome
  exact List.mem_map.mpr ⟨p, hp, (beq_iff_eq.mp heq).symm⟩

theorem lookup_eq_none (h : k ∉ l.keys) : l.lookup k = none := by
  by_contra hne
  obtain ⟨v, hv⟩ := Option.ne_none_iff_exists'.mp hne
  exact h (mem_keys_of_lookup hv)

theorem mem_of_lookup (h : l.lookup k = some v) : (k, v) ∈ l := by
  induction l with
  | nil => cases h
  | cons p l ih =>
      rw [List.lookup_cons] at h
      by_cases hk : k = p.1
      · simp only [hk, beq_self_eq_true, Option.some.injEq] at h
        rw [hk, ← h]
        exact List.mem_cons_self
      · rw [beq_false_of_ne hk] at h
        exact List.mem_cons_of_mem _ (ih h)

/-- With distinct keys, looking a key up finds its only property. -/
theorem lookup_eq_some_iff (hl : l.keys.Nodup) (k : String) (v : JsVal) :
    l.lookup k = some v ↔ (k, v) ∈ l := by
  refine ⟨mem_of_lookup, fun h => ?_⟩
  have hkey : k ∈ l.keys := List.mem_map.mpr ⟨_, h, rfl⟩
  have hsome : (l.lookup k).isSome := by
    obtain ⟨p, hp, hpk⟩ := List.mem_map.mp hkey
    exact List.lookup_isSome_iff.mpr ⟨p, hp, beq_iff_eq.mpr hpk.symm⟩
  obtain ⟨w, hw⟩ := Option.isSome_iff_exists.mp hsome
  have heq := List.inj_on_of_nodup_map hl (mem_of_lookup hw) h rfl
  rw [hw, (Prod.mk.inj heq).2]

theorem keys_erase (l : Fields) (k : String) : (l.erase k).keys = l.keys.filter (· ≠ k) := by
  simp only [erase, keys, List.filter_map]
  rfl

theorem nodup_erase (hl : l.keys.Nodup) (k : String) : (l.erase k).keys.Nodup := by
  rw [keys_erase]
  exact hl.filter _

theorem lookup_erase_self (l : Fields) (k : String) : (l.erase k).lookup k = none := by
  refine lookup_eq_none ?_
  rw [keys_erase, List.mem_filter]
  simp

theorem lookup_erase_of_ne (l : Fields) {k k' : String} (h : k' ≠ k) :
    (l.erase k).lookup k' = l.lookup k' := by
  induction l with
  | nil => rfl
  | cons p l ih =>
      by_cases hp : p.1 = k
      · have hdrop : erase (p :: l) k = erase l k := by simp [erase, hp]
        rw [hdrop, ih, List.lookup_cons, beq_false_of_ne (by rw [hp]; exact h)]
      · have hkeep : erase (p :: l) k = p :: erase l k := by simp [erase, hp]
        rw [hkeep, List.lookup_cons, List.lookup_cons, ih]

theorem keys_map (l : Fields) (f : String × JsVal → JsVal) :
    keys (l.map fun p => (p.1, f p)) = l.keys := by
  simp [keys, List.map_map, Function.comp_def]

theorem lookup_map (l : Fields) (f : JsVal → JsVal) (k : String) :
    List.lookup k (l.map fun p => (p.1, f p.2)) = (l.lookup k).map f := by
  induction l with
  | nil => rfl
  | cons p l ih =>
      rw [List.map_cons, List.lookup_cons, List.lookup_cons, ih]
      by_cases hk : k = p.1
      · simp [hk]
      · simp [beq_false_of_ne hk]

theorem lookup_replaceIn (l : Fields) (k k' : String) (v : JsVal) :
    (l.replaceIn k v).lookup k' =
      if k' = k then (l.lookup k).map (fun _ => v) else l.lookup k' := by
  induction l with
  | nil => simp [replaceIn]
  | cons p l ih =>
      rw [replaceIn, List.map_cons, List.lookup_cons, List.lookup_cons, List.lookup_cons,
        ← replaceIn, ih]
      by_cases hp : p.1 = k
      · by_cases hk : k' = k
        · simp [hp, hk]
        · simp [hp, hk, beq_false_of_ne hk]
      · rw [if_neg hp]
        by_cases hk : k' = k
        · simp [hk, beq_false_of_ne (Ne.symm hp)]
        · simp [hk]

/-- Assigning a key leaves the other properties alone. -/
theorem assign_new (h : k ∉ l.keys) (v : JsVal) : l.assign k v = l ++ [(k, v)] := if_neg h

theorem lookup_assign (l : Fields) (k k' : String) (v : JsVal) :
    (l.assign k v).lookup k' = if k' = k then some v else l.lookup k' := by
  by_cases h : k ∈ l.keys
  · rw [assign, if_pos h, lookup_replaceIn]
    obtain ⟨p, hp, hpk⟩ := List.mem_map.mp h
    have hsome : (l.lookup k).isSome :=
      List.lookup_isSome_iff.mpr ⟨p, hp, beq_iff_eq.mpr hpk.symm⟩
    obtain ⟨w, hw⟩ := Option.isSome_iff_exists.mp hsome
    rw [hw, Option.map_some]
  · rw [assign, if_neg h, List.lookup_append, List.lookup_cons, List.lookup_nil]
    by_cases hk : k' = k
    · simp [hk, lookup_eq_none h]
    · simp [hk, beq_false_of_ne hk]

end Fields

namespace JsVal

/-- The property `k`, when the value is an object that has it. -/
def get? (v : JsVal) (k : String) : Option JsVal :=
  match v with
  | .obj l => l.lookup k
  | _ => none

/-- The property `k`, when it is a string. -/
def str? (v : JsVal) (k : String) : Option String :=
  match v.get? k with
  | some (.str s) => some s
  | _ => none

/-- The string at the end of a path of properties. -/
def strAt? (v : JsVal) : List String → Option String
  | [] => none
  | [k] => v.str? k
  | k :: ks => (v.get? k).bind fun w => w.strAt? ks

/-- The property `k`, when it is an integer. -/
def int? (v : JsVal) (k : String) : Option Int :=
  match v.get? k with
  | some (.num (.int n)) => some n
  | _ => none

/-- The elements of the array property `k`. -/
def elems (v : JsVal) (k : String) : List JsVal :=
  match v.get? k with
  | some (.arr l) => l
  | _ => []

/-- `[...v, x]`. -/
def push (v x : JsVal) : JsVal :=
  match v with
  | .arr l => .arr (l ++ [x])
  | _ => .arr [x]

theorem get?_of_str? {k s : String} (h : v.str? k = some s) : v.get? k = some (.str s) := by
  unfold str? at h
  split at h
  · next t ht => rw [ht, Option.some.inj h]
  · cases h

theorem get?_of_int? {n : Int} (h : v.int? k = some n) : v.get? k = some (.num (.int n)) := by
  unfold int? at h
  split at h
  · next m hm => rw [hm, Option.some.inj h]
  · cases h

/-- The properties of an object. -/
def fields : JsVal → Fields
  | .obj l => l
  | _ => []

mutual

/-- The keys of every object inside are distinct, and none is `__proto__`. -/
def plain : JsVal → Bool
  | .arr l => plainElems l
  | .obj l =>
      decide (l.map Prod.fst).Nodup && decide ("__proto__" ∉ l.map Prod.fst) && plainFields l
  | _ => true

def plainElems : List JsVal → Bool
  | [] => true
  | v :: l => plain v && plainElems l

def plainFields : List (String × JsVal) → Bool
  | [] => true
  | (_, v) :: l => plain v && plainFields l

end

theorem plainElems_iff (l : List JsVal) : plainElems l = true ↔ ∀ v ∈ l, v.plain = true := by
  induction l with
  | nil => simp [plainElems]
  | cons v l ih => simp [plainElems, ih]

theorem plainFields_iff (l : Fields) :
    plainFields l = true ↔ ∀ p ∈ l, p.2.plain = true := by
  induction l with
  | nil => simp [plainFields]
  | cons p l ih =>
      obtain ⟨k, v⟩ := p
      simp [plainFields, ih]

theorem plain_obj (h : (JsVal.obj l).plain = true) :
    (Fields.keys l).Nodup ∧ ∀ p ∈ l, p.2.plain = true := by
  simp only [plain, Bool.and_eq_true, decide_eq_true_eq] at h
  exact ⟨h.1.1, (plainFields_iff l).mp h.2⟩

theorem plain_obj_iff (l : Fields) : (JsVal.obj l).plain = true ↔
    l.keys.Nodup ∧ "__proto__" ∉ l.keys ∧ ∀ p ∈ l, p.2.plain = true := by
  simp only [plain, Bool.and_eq_true, decide_eq_true_eq, plainFields_iff, Fields.keys, and_assoc]

/-- Assigning a plain value under an ordinary name keeps an object plain. -/
theorem plain_assign (hl : (JsVal.obj l).plain = true) (hk : k ≠ "__proto__")
    (hv : v.plain = true) : (JsVal.obj (l.assign k v)).plain = true := by
  obtain ⟨hnodup, hproto, hvals⟩ := (plain_obj_iff l).mp hl
  rw [plain_obj_iff]
  unfold Fields.assign
  split
  · have hkeys : Fields.keys (l.replaceIn k v) = l.keys := by
      simp only [Fields.replaceIn, Fields.keys, List.map_map]
      refine List.map_congr_left fun p _ => ?_
      simp only [Function.comp]
      split
      · next h => exact h.symm
      · rfl
    refine ⟨by rwa [hkeys], by rwa [hkeys], ?_⟩
    intro p hp
    obtain ⟨q, hq, rfl⟩ := List.mem_map.mp hp
    split
    · exact hv
    · exact hvals q hq
  · next hnew =>
      have hkeys : Fields.keys (l ++ [(k, v)]) = l.keys ++ [k] := by simp [Fields.keys]
      rw [hkeys]
      refine ⟨?_, ?_, ?_⟩
      · refine hnodup.append (List.nodup_singleton k) ?_
        rwa [List.disjoint_singleton]
      · rw [List.mem_append, List.mem_singleton]
        rintro (h | h)
        · exact hproto h
        · exact hk h.symm
      · intro p hp
        rcases List.mem_append.mp hp with hp | hp
        · exact hvals p hp
        · rw [List.mem_singleton.mp hp]
          exact hv

theorem plain_arr {l : List JsVal} (h : (JsVal.arr l).plain = true) :
    ∀ v ∈ l, v.plain = true :=
  (plainElems_iff l).mp (by simpa [plain] using h)

mutual

/-- The keys of every object inside are distinct. -/
def distinct : JsVal → Bool
  | .arr l => distinctElems l
  | .obj l => decide (l.map Prod.fst).Nodup && distinctFields l
  | _ => true

def distinctElems : List JsVal → Bool
  | [] => true
  | v :: l => distinct v && distinctElems l

def distinctFields : List (String × JsVal) → Bool
  | [] => true
  | (_, v) :: l => distinct v && distinctFields l

end

theorem distinct_arr {l : List JsVal} (h : (JsVal.arr l).distinct = true) :
    ∀ v ∈ l, v.distinct = true := by
  rw [distinct] at h
  induction l with
  | nil => exact fun _ hv => absurd hv List.not_mem_nil
  | cons v l ih =>
      rw [distinctElems, Bool.and_eq_true] at h
      intro w hw
      rcases List.mem_cons.mp hw with rfl | hw
      · exact h.1
      · exact ih h.2 w hw

theorem distinct_obj (h : (JsVal.obj l).distinct = true) :
    l.keys.Nodup ∧ ∀ p ∈ l, p.2.distinct = true := by
  rw [distinct, Bool.and_eq_true, decide_eq_true_eq] at h
  refine ⟨h.1, ?_⟩
  replace h := h.2
  induction l with
  | nil => exact fun _ hp => absurd hp List.not_mem_nil
  | cons q l ih =>
      obtain ⟨k, v⟩ := q
      rw [distinctFields, Bool.and_eq_true] at h
      intro p hp
      rcases List.mem_cons.mp hp with rfl | hp
      · exact h.1
      · exact ih h.2 p hp

theorem distinct_get? {v w : JsVal} (h : v.distinct = true) (hw : v.get? k = some w) :
    w.distinct = true := by
  cases v with
  | obj l => exact (distinct_obj h).2 _ (Fields.mem_of_lookup hw)
  | null => cases hw
  | bool b => cases hw
  | num n => cases hw
  | str s => cases hw
  | arr l => cases hw

/-- The keys of the object itself are distinct. -/
def Keyed (v : JsVal) : Prop := (Fields.keys v.fields).Nodup

theorem keyed_of_plain (h : v.plain = true) : v.Keyed := by
  cases v with
  | obj l => exact (plain_obj h).1
  | null => exact List.nodup_nil
  | bool b => exact List.nodup_nil
  | num n => exact List.nodup_nil
  | str s => exact List.nodup_nil
  | arr l => exact List.nodup_nil

/-- What a plain value holds is plain. -/
theorem plain_get? {v w : JsVal} (h : v.plain = true) (hw : v.get? k = some w) :
    w.plain = true := by
  cases v with
  | obj l => exact (plain_obj h).2 _ (Fields.mem_of_lookup hw)
  | null => cases hw
  | bool b => cases hw
  | num n => cases hw
  | str s => cases hw
  | arr l => cases hw

end JsVal

/-- A value of the language made of plain data, whatever its keys. -/
structure JsData where
  val : JsVal
  distinct : val.distinct = true

/-- A JSON document that is an object. -/
structure Document where
  fields : Fields
  plain : (JsVal.obj fields).plain = true

def Document.val (d : Document) : JsVal := .obj d.fields

end InspectionHub
