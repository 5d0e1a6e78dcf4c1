import InspectionHub.Lib.Canonical
import InspectionHub.Lib.Js

/-!
# Schemas

A schema checks a JSON value and returns the value it was parsed to, or the
issues it found. The combinators follow the validation library of the source:
strict objects reject unknown keys and return their properties in the order
of the shape, unions take their first success, and a refinement runs once its
base has accepted.

The text of an issue is recorded where the source gives it; `none` is the
library's own. The two formats whose patterns belong to the library are the
fields of `Formats`.

* `Exact s` — `s` returns what it was given.
* `Lossless s` — `s` returns it up to the order of properties.
-/

namespace InspectionHub

/-- A step of the path to the value an issue is about. -/
inductive PathKey where
  | name (k : String)
  | index (i : Nat)
deriving DecidableEq

structure Issue where
  path : List PathKey
  message : Option String
deriving DecidableEq

abbrev Parsed (α : Type) := Except (List Issue) α

abbrev Schema := JsVal → Parsed JsVal

/-- The string formats the validation library defines. -/
structure Formats where
  /-- `z.uuid()`. -/
  uuid : String → Bool
  /-- `z.iso.datetime({ offset: true })`. -/
  datetime : String → Bool

namespace Schema

/-! ## Scalars -/

/-- The library's own objection to the value at hand. -/
def reject {α : Type} : Parsed α := .error [⟨[], none⟩]

/-- A check on a string, which may also rewrite it. -/
abbrev Check := String → Parsed String

def trim : Check := fun s => .ok (Js.trim s)

def minLength (n : Nat) : Check := fun s => if n ≤ Js.length s then .ok s else reject

def maxLength (n : Nat) : Check := fun s => if Js.length s ≤ n then .ok s else reject

/-- `.regex(p, message)`, and the other checks that only look. -/
def satisfies (p : String → Bool) (message : Option String) : Check :=
  fun s => if p s then .ok s else .error [⟨[], message⟩]

/-- `z.string()` followed by its checks. -/
def string (checks : List Check) : Schema
  | .str s => (checks.foldlM (fun t (c : Check) => c t) s).map .str
  | _ => reject

def boolean : Schema
  | .bool b => .ok (.bool b)
  | _ => reject

def null : Schema
  | .null => .ok .null
  | _ => reject

/-- `z.number().finite()`. -/
def number : Schema
  | .num n => .ok (.num n)
  | _ => reject

/-- `z.int()` followed by a bound: safe integers only. -/
def int (p : Int → Bool) : Schema
  | .num (.int n) => if n.natAbs ≤ 2 ^ 53 - 1 ∧ p n then .ok (.num (.int n)) else reject
  | _ => reject

def literal (s : String) : Schema
  | .str t => if t = s then .ok (.str t) else reject
  | _ => reject

def literalInt (n : Int) : Schema
  | .num (.int m) => if m = n then .ok (.num (.int m)) else reject
  | _ => reject

/-- `z.enum(values)`. -/
def enum (values : List String) : Schema
  | .str t => if t ∈ values then .ok (.str t) else reject
  | _ => reject

/-! ## Structures -/

/-- Move issues below a path step. -/
def under {α : Type} (k : PathKey) (r : Parsed α) : Parsed α :=
  r.mapError fun l => l.map fun e => ⟨k :: e.path, e.message⟩

/-- Both results, or the issues of both. -/
def both {α β γ : Type} (f : α → β → γ) : Parsed α → Parsed β → Parsed γ
  | .ok a, .ok b => .ok (f a b)
  | .error e, .ok _ => .error e
  | .ok _, .error e => .error e
  | .error e, .error e' => .error (e ++ e')

def nullable (s : Schema) : Schema
  | .null => .ok .null
  | v => s v

/-- Parse elements from index `i` on. -/
def elements (s : Schema) : Nat → List JsVal → Parsed (List JsVal)
  | _, [] => .ok []
  | i, v :: l => both List.cons (under (.index i) (s v)) (elements s (i + 1) l)

/-- `z.array(s)` followed by a bound on its length. -/
def array (s : Schema) (size : Nat → Bool) : Schema
  | .arr l => if size l.length then (elements s 0 l).map .arr else reject
  | _ => reject

def anySize : Nat → Bool := fun _ => true

/-- The components of a tuple from index `i` on, one for each schema. -/
def components : Nat → List Schema → List JsVal → Parsed (List JsVal)
  | _, [], _ => .ok []
  | i, s :: f, v :: l => both List.cons (under (.index i) (s v)) (components (i + 1) f l)
  | _, _ :: _, [] => reject

/-- `z.tuple(f)`. -/
def tuple (f : List Schema) : Schema
  | .arr l => if l.length = f.length then (components 0 f l).map .arr else reject
  | _ => reject

/-- The properties a shape asks for, read off an object. -/
def shape : List (String × Schema) → Fields → Parsed Fields
  | [], _ => .ok []
  | (k, s) :: f, l =>
      both (fun v r => (k, v) :: r)
        (under (.name k) (match l.lookup k with
          | some v => s v
          | none => reject))
        (shape f l)

/-- `z.strictObject(f)`. -/
def strictObject (f : List (String × Schema)) : Schema
  | .obj l =>
      let unknown := (Fields.keys l).filter fun k => k ∉ f.map Prod.fst
      if unknown = [] then (shape f l).map .obj
      else
        match shape f l with
        | .ok _ => reject
        | .error e => .error (e ++ [⟨[], none⟩])
  | _ => reject

/-- The entries of a record. -/
def entries (key value : Schema) : Fields → Parsed Fields
  | [] => .ok []
  | (k, v) :: l =>
      both (fun v' r => (k, v') :: r)
        (under (.name k) ((key (.str k)).bind fun _ => value v))
        (entries key value l)

/-- `z.record(key, value)`, for key schemas that only look. -/
def record (key value : Schema) : Schema
  | .obj l => (entries key value l).map .obj
  | _ => reject

/-- `z.union(options)`: the first success. -/
def union (options : List Schema) : Schema := fun v =>
  match options.findSome? fun s => (s v).toOption with
  | some w => .ok w
  | none => reject

/-- `z.discriminatedUnion(key, options)`, the options by the value of `key`. -/
def discriminatedUnion (key : String) (options : List (String × Schema)) : Schema := fun v =>
  match (v.str? key).bind fun tag => options.lookup tag with
  | some s => s v
  | none => reject

/-- `.superRefine(check)`. -/
def superRefine (s : Schema) (check : JsVal → List Issue) : Schema := fun v =>
  (s v).bind fun w => match check w with
    | [] => .ok w
    | issues => .error issues

/-! ## What an accepting schema tells -/

theorem map_ok {α β : Type} {f : α → β} {r : Parsed α} {b : β} (h : r.map f = .ok b) :
    ∃ a, r = .ok a ∧ f a = b := by
  cases r with
  | error e => cases h
  | ok a => exact ⟨a, rfl, Except.ok.inj h⟩

theorem under_ok {α : Type} {k : PathKey} {r : Parsed α} {a : α} (h : under k r = .ok a) :
    r = .ok a := by
  cases r with
  | error e => cases h
  | ok b => exact h

theorem both_ok {α β γ : Type} {f : α → β → γ} {r : Parsed α} {q : Parsed β} {c : γ}
    (h : both f r q = .ok c) : ∃ a b, r = .ok a ∧ q = .ok b ∧ f a b = c := by
  cases r with
  | error e => cases q <;> cases h
  | ok a =>
      cases q with
      | error e => cases h
      | ok b => exact ⟨a, b, rfl, rfl, Except.ok.inj h⟩

variable {s : Schema}

theorem elements_ok {i : Nat} {l r : List JsVal} (h : elements s i l = .ok r) :
    List.Forall₂ (fun v w => s v = .ok w) l r := by
  induction l generalizing i r with
  | nil =>
      cases h
      exact .nil
  | cons v l ih =>
      obtain ⟨w, r', hw, hr, rfl⟩ := both_ok h
      exact .cons (under_ok hw) (ih hr)

variable {v w : JsVal}

theorem array_ok {size : Nat → Bool} (h : array s size v = .ok w) :
    ∃ l r, v = .arr l ∧ w = .arr r ∧ size l.length ∧
      List.Forall₂ (fun a b => s a = .ok b) l r := by
  unfold array at h
  split at h
  · next l =>
      split at h
      · next hsize =>
          obtain ⟨r, hr, rfl⟩ := map_ok h
          exact ⟨l, r, rfl, rfl, hsize, elements_ok hr⟩
      · cases h
  · cases h

variable {f : List (String × Schema)}

/-- A shape returns one property for each of its keys, in its order. -/
theorem shape_ok {l r : Fields} (h : shape f l = .ok r) :
    List.Forall₂ (fun a p => p.1 = a.1 ∧ ∃ v, l.lookup a.1 = some v ∧ a.2 v = .ok p.2) f r := by
  induction f generalizing r with
  | nil =>
      cases h
      exact .nil
  | cons a f ih =>
      obtain ⟨k, s⟩ := a
      obtain ⟨w, r', hw, hr, rfl⟩ := both_ok h
      have hw := under_ok hw
      refine .cons ⟨rfl, ?_⟩ (ih hr)
      cases hl : l.lookup k with
      | none =>
          rw [hl] at hw
          cases hw
      | some v =>
          rw [hl] at hw
          exact ⟨v, rfl, hw⟩

theorem strictObject_ok (h : strictObject f v = .ok w) :
    ∃ l r, v = .obj l ∧ w = .obj r ∧ (∀ k ∈ Fields.keys l, k ∈ f.map Prod.fst) ∧
      List.Forall₂ (fun a p => p.1 = a.1 ∧ ∃ x, l.lookup a.1 = some x ∧ a.2 x = .ok p.2) f r := by
  unfold strictObject at h
  split at h
  · next l =>
      dsimp only at h
      split at h
      · next hnone =>
          obtain ⟨r, hr, rfl⟩ := map_ok h
          refine ⟨l, r, rfl, rfl, fun k hk => ?_, shape_ok hr⟩
          by_contra hnot
          have : k ∈ (Fields.keys l).filter fun k => k ∉ f.map Prod.fst := by simp [hk, hnot]
          rw [hnone] at this
          cases this
      · split at h <;> cases h
  · cases h

/-- The keys of what a shape returns are its own. -/
theorem keys_of_shape {l r : Fields}
    (h : List.Forall₂ (fun a p => p.1 = a.1 ∧ ∃ x, l.lookup a.1 = some x ∧ a.2 x = .ok p.2) f r) :
    r.keys = f.map Prod.fst := by
  induction h with
  | nil => rfl
  | cons hp _ ih =>
      rw [List.map_cons, ← ih, ← hp.1]
      rfl

/-- A strict object's property was parsed by the schema the shape gives it. -/
theorem strictObject_get (hf : (f.map Prod.fst).Nodup) (h : strictObject f v = .ok w) {k : String}
    (hk : (k, s) ∈ f) : ∃ x y, v.get? k = some x ∧ w.get? k = some y ∧ s x = .ok y := by
  obtain ⟨l, r, rfl, rfl, -, hr⟩ := strictObject_ok h
  have hnodup : (Fields.keys r).Nodup := by rwa [keys_of_shape hr]
  have key : ∀ {f : List (String × Schema)} {r : Fields}, List.Forall₂ (fun a p => p.1 = a.1 ∧
      ∃ x, l.lookup a.1 = some x ∧ a.2 x = .ok p.2) f r → (k, s) ∈ f →
      ∃ x y, l.lookup k = some x ∧ (k, y) ∈ r ∧ s x = .ok y := by
    intro f r hr hk
    induction hr with
    | nil => cases hk
    | @cons a p f r hp _ ih =>
        rcases List.mem_cons.mp hk with rfl | hk
        · obtain ⟨x, hx, hy⟩ := hp.2
          have hkey : k = p.1 := hp.1.symm
          refine ⟨x, p.2, hx, ?_, hy⟩
          rw [hkey]
          exact List.mem_cons_self
        · obtain ⟨x, y, hx, hy, hxy⟩ := ih hk
          exact ⟨x, y, hx, List.mem_cons_of_mem _ hy, hxy⟩
  obtain ⟨x, y, hx, hy, hxy⟩ := key hr hk
  exact ⟨x, y, hx, (Fields.lookup_eq_some_iff hnodup k y).mpr hy, hxy⟩

variable {options : List Schema}

theorem union_ok (h : union options v = .ok w) : ∃ s ∈ options, s v = .ok w := by
  unfold union at h
  split at h
  · next x hx =>
      obtain ⟨s, hs, hsv⟩ := List.exists_of_findSome?_eq_some hx
      refine ⟨s, hs, ?_⟩
      rw [← Except.ok.inj h]
      cases hv : s v with
      | error e =>
          rw [hv] at hsv
          cases hsv
      | ok y =>
          rw [hv] at hsv
          rw [Option.some.inj hsv]
  · cases h

theorem discriminatedUnion_ok {key : String} {options : List (String × Schema)}
    (h : discriminatedUnion key options v = .ok w) :
    ∃ tag s, v.str? key = some tag ∧ (tag, s) ∈ options ∧ s v = .ok w := by
  unfold discriminatedUnion at h
  split at h
  · next s hs =>
      obtain ⟨tag, htag, hlookup⟩ := Option.bind_eq_some_iff.mp hs
      obtain ⟨l₁, l₂, hl, -⟩ := List.lookup_eq_some_iff.mp hlookup
      refine ⟨tag, s, htag, ?_, h⟩
      rw [hl]
      simp
  · cases h

theorem superRefine_ok {check : JsVal → List Issue} (h : superRefine s check v = .ok w) :
    s v = .ok w ∧ check w = [] := by
  unfold superRefine at h
  cases hs : s v with
  | error e =>
      rw [hs] at h
      cases h
  | ok x =>
      rw [hs] at h
      dsimp only [Except.bind] at h
      split at h
      · next hc =>
          cases h
          exact ⟨rfl, hc⟩
      · cases h

/-! ## Schemas that only look -/

/-- The schema returns what it was given. -/
def Exact (s : Schema) : Prop := ∀ v w, s v = .ok w → w = v

/-- The schema returns what it was given, up to the order of properties. -/
def Lossless (s : Schema) : Prop := ∀ v w, v.plain = true → s v = .ok w → Same w v

theorem Exact.lossless (h : Exact s) : Lossless s := by
  intro v w _ hw
  rw [h v w hw]
  exact Same.refl v

theorem satisfies_ok {p : String → Bool} {m : Option String} {s t : String}
    (h : satisfies p m s = .ok t) : t = s ∧ p s := by
  unfold satisfies at h
  split at h
  · next hp =>
      cases h
      exact ⟨rfl, hp⟩
  · cases h

variable {checks : List Check}

/-- Checks that return the string unchanged make an exact schema. -/
theorem exact_string (h : ∀ c ∈ checks, ∀ s t, c s = .ok t → t = s) : Exact (string checks) := by
  have key : ∀ (s t : String), checks.foldlM (fun t (c : Check) => c t) s = .ok t → t = s := by
    induction checks with
    | nil =>
        intro s t ht
        cases ht
        rfl
    | cons c checks ih =>
        intro s t ht
        rw [List.foldlM_cons] at ht
        cases hc : c s with
        | error e =>
            rw [hc] at ht
            cases ht
        | ok u =>
            rw [hc] at ht
            have hu := h c List.mem_cons_self s u hc
            have := ih (fun d hd => h d (List.mem_cons_of_mem _ hd)) u t ht
            rw [this, hu]
  intro v w hw
  unfold string at hw
  split at hw
  · obtain ⟨t, ht, rfl⟩ := map_ok hw
    rw [key _ _ ht]
  · cases hw

theorem string_ok (h : string checks v = .ok w) : ∃ s, v = .str s := by
  unfold string at h
  split at h
  · next s => exact ⟨s, rfl⟩
  · cases h

/-- The first check runs first. -/
theorem string_cons_ok {c : Check} {s : String} {w : JsVal}
    (h : string (c :: checks) (.str s) = .ok w) :
    ∃ t, c s = .ok t ∧ string checks (.str t) = .ok w := by
  simp only [string, List.foldlM_cons] at h
  cases hc : c s with
  | error e =>
      rw [hc] at h
      cases h
  | ok t =>
      rw [hc] at h
      exact ⟨t, rfl, h⟩

theorem minLength_ok {n : Nat} {s t : String} (h : minLength n s = .ok t) : t = s := by
  unfold minLength at h
  split at h
  · exact (Except.ok.inj h).symm
  · cases h

theorem maxLength_ok {n : Nat} {s t : String} (h : maxLength n s = .ok t) : t = s := by
  unfold maxLength at h
  split at h
  · exact (Except.ok.inj h).symm
  · cases h

theorem exact_boolean : Exact boolean := by
  intro v w h
  unfold boolean at h
  split at h
  · exact (Except.ok.inj h).symm
  · cases h

theorem exact_null : Exact null := by
  intro v w h
  unfold null at h
  split at h
  · exact (Except.ok.inj h).symm
  · cases h

theorem exact_number : Exact number := by
  intro v w h
  unfold number at h
  split at h
  · exact (Except.ok.inj h).symm
  · cases h

theorem int_ok {p : Int → Bool} (h : int p v = .ok w) :
    ∃ n : Int, v = .num (.int n) ∧ w = v ∧ n.natAbs ≤ 2 ^ 53 - 1 ∧ p n := by
  unfold int at h
  split at h
  · next n =>
      split at h
      · next hn => exact ⟨n, rfl, (Except.ok.inj h).symm, hn⟩
      · cases h
  · cases h

theorem exact_int (p : Int → Bool) : Exact (int p) := by
  intro v w h
  obtain ⟨_, -, hw, -⟩ := int_ok h
  exact hw

theorem literal_ok {s : String} (h : literal s v = .ok w) : v = .str s ∧ w = .str s := by
  unfold literal at h
  split at h
  · split at h
    · next hs => exact ⟨by rw [hs], by rw [← Except.ok.inj h, hs]⟩
    · cases h
  · cases h

theorem exact_literal (s : String) : Exact (literal s) := by
  intro v w h
  rw [(literal_ok h).1, (literal_ok h).2]

theorem literalInt_ok {n : Int} (h : literalInt n v = .ok w) :
    v = .num (.int n) ∧ w = .num (.int n) := by
  unfold literalInt at h
  split at h
  · split at h
    · next hs => exact ⟨by rw [hs], by rw [← Except.ok.inj h, hs]⟩
    · cases h
  · cases h

theorem exact_literalInt (n : Int) : Exact (literalInt n) := by
  intro v w h
  rw [(literalInt_ok h).1, (literalInt_ok h).2]

theorem enum_ok {values : List String} (h : enum values v = .ok w) :
    ∃ s ∈ values, v = .str s ∧ w = .str s := by
  unfold enum at h
  split at h
  · next t =>
      split at h
      · next hs => exact ⟨t, hs, rfl, (Except.ok.inj h).symm⟩
      · cases h
  · cases h

theorem exact_enum (values : List String) : Exact (enum values) := by
  intro v w h
  obtain ⟨s, -, hv, hw⟩ := enum_ok h
  rw [hv, hw]

theorem exact_nullable (hs : Exact s) : Exact (nullable s) := by
  intro v w h
  unfold nullable at h
  split at h
  · exact (Except.ok.inj h).symm
  · exact hs _ _ h

theorem exact_union (h : ∀ s ∈ options, Exact s) : Exact (union options) := by
  intro v w hw
  obtain ⟨s, hs, hsv⟩ := union_ok hw
  exact h s hs v w hsv

theorem exact_tuple {f : List Schema} (h : ∀ s ∈ f, Exact s) : Exact (tuple f) := by
  have components_ok : ∀ (i : Nat) (f : List Schema) (l r : List JsVal), (∀ s ∈ f, Exact s) →
      l.length = f.length → components i f l = .ok r → r = l := by
    intro i f
    induction f generalizing i with
    | nil =>
        intro l r _ hlen h
        cases h
        exact (List.eq_nil_of_length_eq_zero hlen).symm
    | cons s f ih =>
        intro l r hf hlen h
        cases l with
        | nil => cases hlen
        | cons v l =>
            obtain ⟨w, r', hw, hr, rfl⟩ := both_ok h
            rw [hf s List.mem_cons_self v w (under_ok hw),
              ih _ l r' (fun t ht => hf t (List.mem_cons_of_mem _ ht)) (Nat.succ.inj hlen) hr]
  intro v w hw
  unfold tuple at hw
  split at hw
  · split at hw
    · next hlen =>
        obtain ⟨r, hr, rfl⟩ := map_ok hw
        rw [components_ok 0 f _ r h hlen hr]
    · cases hw
  · cases hw

theorem exact_record {key value : Schema} (hv : Exact value) : Exact (record key value) := by
  have entries_ok : ∀ (l r : Fields), entries key value l = .ok r → r = l := by
    intro l
    induction l with
    | nil =>
        intro r h
        cases h
        rfl
    | cons p l ih =>
        obtain ⟨k, v⟩ := p
        intro r h
        obtain ⟨w, r', hw, hr, rfl⟩ := both_ok h
        have hw := under_ok hw
        cases hkey : key (.str k) with
        | error e =>
            rw [hkey] at hw
            cases hw
        | ok k' =>
            rw [hkey] at hw
            rw [hv v w hw, ih r' hr]
  intro v w h
  unfold record at h
  split at h
  · obtain ⟨r, hr, rfl⟩ := map_ok h
    rw [entries_ok _ _ hr]
  · cases h

theorem lossless_union (h : ∀ s ∈ options, Lossless s) : Lossless (union options) := by
  intro v w hplain hw
  obtain ⟨s, hs, hsv⟩ := union_ok hw
  exact h s hs v w hplain hsv

theorem lossless_discriminatedUnion {key : String} {options : List (String × Schema)}
    (h : ∀ p ∈ options, Lossless p.2) : Lossless (discriminatedUnion key options) := by
  intro v w hplain hw
  obtain ⟨tag, s, -, hs, hsv⟩ := discriminatedUnion_ok hw
  exact h _ hs v w hplain hsv

theorem lossless_array {size : Nat → Bool} (hs : Lossless s) : Lossless (array s size) := by
  intro v w hplain hw
  obtain ⟨l, r, rfl, rfl, -, hlr⟩ := array_ok hw
  have hl := JsVal.plain_arr hplain
  rw [Same, normalize_arr_eq_iff]
  clear hw hplain
  induction hlr with
  | nil => rfl
  | cons ha _ ih =>
      rw [List.map_cons, List.map_cons, hs _ _ (hl _ List.mem_cons_self) ha,
        ih fun v hv => hl v (List.mem_cons_of_mem _ hv)]

/-- A strict object whose properties are lossless is lossless. -/
theorem lossless_strictObject (hf : (f.map Prod.fst).Nodup) (h : ∀ a ∈ f, Lossless a.2) :
    Lossless (strictObject f) := by
  intro v w hplain hw
  have hget := fun {k s} => strictObject_get hf hw (k := k) (s := s)
  obtain ⟨l, r, rfl, rfl, hkeys, hr⟩ := strictObject_ok hw
  obtain ⟨hl, hvals⟩ := JsVal.plain_obj hplain
  have hrkeys := keys_of_shape hr
  rw [Same, normalize_obj_eq_iff (by rwa [hrkeys]) hl]
  intro k
  by_cases hk : k ∈ f.map Prod.fst
  · obtain ⟨⟨k', s⟩, hs, rfl⟩ := List.mem_map.mp hk
    obtain ⟨x, y, hx, hy, hxy⟩ := hget hs
    have hx' : l.lookup k' = some x := hx
    have hy' : r.lookup k' = some y := hy
    have hplain := hvals _ (Fields.mem_of_lookup hx')
    rw [hx', hy', Option.map_some, Option.map_some, h _ hs x y hplain hxy]
  · rw [Fields.lookup_eq_none (l := l) (fun h => hk (hkeys k h)),
      Fields.lookup_eq_none (l := r) (by rwa [hrkeys])]

/-- Objects that parse to the same value are the same when each pair of their
properties is. -/
theorem strictObject_congr (hf : (f.map Prod.fst).Nodup) {v v' w w' : JsVal} (hv : v.plain = true)
    (hv' : v'.plain = true) (h : strictObject f v = .ok w) (h' : strictObject f v' = .ok w')
    (hw : Same w w') (hfield : ∀ a ∈ f, ∀ x x' y y', v.get? a.1 = some x → v'.get? a.1 = some x' →
      a.2 x = .ok y → a.2 x' = .ok y' → Same y y' → Same x x') : Same v v' := by
  have hget := fun {k s} => strictObject_get hf h (k := k) (s := s)
  have hget' := fun {k s} => strictObject_get hf h' (k := k) (s := s)
  obtain ⟨l, r, rfl, rfl, hkeys, hr⟩ := strictObject_ok h
  obtain ⟨l', r', rfl, rfl, hkeys', hr'⟩ := strictObject_ok h'
  have hwk := (normalize_obj_eq_iff (by rwa [keys_of_shape hr])
    (by rwa [keys_of_shape hr'])).mp hw
  refine (normalize_obj_eq_iff (JsVal.plain_obj hv).1 (JsVal.plain_obj hv').1).mpr ?_
  intro k
  by_cases hk : k ∈ f.map Prod.fst
  · obtain ⟨⟨k', s⟩, hs, rfl⟩ := List.mem_map.mp hk
    obtain ⟨x, y, hx, hy, hxy⟩ := hget hs
    obtain ⟨x', y', hx', hy', hxy'⟩ := hget' hs
    have hyy : Same y y' := by
      have := hwk k'
      rw [show List.lookup k' r = some y from hy, show List.lookup k' r' = some y' from hy'] at this
      exact Option.some.inj this
    have hxx := hfield _ hs x x' y y' hx hx' hxy hxy' hyy
    rw [show List.lookup k' l = some x from hx, show List.lookup k' l' = some x' from hx',
      Option.map_some, Option.map_some, hxx]
  · rw [Fields.lookup_eq_none (l := l) (fun h => hk (hkeys k h)),
      Fields.lookup_eq_none (l := l') (fun h => hk (hkeys' k h))]

/-- A strict object keeps the strings its exact properties hold. -/
theorem strictObject_str? (hf : (f.map Prod.fst).Nodup) {k : String} (hk : (k, s) ∈ f)
    (hs : Exact s) (h : strictObject f v = .ok w) : w.str? k = v.str? k := by
  obtain ⟨x, y, hx, hy, hxy⟩ := strictObject_get hf h hk
  rw [JsVal.str?, JsVal.str?, hx, hy, hs x y hxy]

end Schema

end InspectionHub
