import InspectionHub.Lib.Object
import InspectionHub.Lib.Stringify

/-!
# `jsonb` values

The binary JSON of the store: the operators that read it and the text the cast
`::text` writes, which has a space after each comma and colon. The text is
injective (`text_injective`): squeezing the spaces outside its strings gives
the text of `JSON.stringify`. After a bar it is read in one way only
(`render_tail_cancel`): bars stand inside strings, where no text begins.

An object keeps its properties in the store's own order, by the length of the
key and then by its bytes.
-/

namespace InspectionHub.Jsonb

open Json

/-! ## Reading -/

/-- `jsonb_typeof(v) = 'object'` and the properties. -/
def object? : JsVal → Option Fields
  | .obj l => some l
  | _ => none

/-- `jsonb_array_elements(v)` -/
def array? : JsVal → Option (List JsVal)
  | .arr l => some l
  | _ => none

/-- `v -> key` -/
def get? (v : JsVal) (key : String) : Option JsVal := (object? v).bind (List.lookup key)

/-- `v ?& keys` -/
def hasAll (v : JsVal) (keys : List String) : Bool := keys.all fun k => (get? v k).isSome

/-- `v - keys` -/
def without (l : Fields) (keys : List String) : Fields := l.filter fun p => p.1 ∉ keys

/-! ## Text -/

mutual

def render : JsVal → List Char
  | .null => ['n', 'u', 'l', 'l']
  | .bool true => ['t', 'r', 'u', 'e']
  | .bool false => ['f', 'a', 'l', 's', 'e']
  | .num n => numText n
  | .str s => quote s
  | .arr [] => ['[', ']']
  | .arr (v :: l) => '[' :: (render v ++ renderElems l)
  | .obj [] => ['{', '}']
  | .obj ((k, v) :: l) => '{' :: (quote k ++ ':' :: ' ' :: (render v ++ renderFields l))

def renderElems : List JsVal → List Char
  | [] => [']']
  | v :: l => ',' :: ' ' :: (render v ++ renderElems l)

def renderFields : List (String × JsVal) → List Char
  | [] => ['}']
  | (k, v) :: l => ',' :: ' ' :: (quote k ++ ':' :: ' ' :: (render v ++ renderFields l))

end

/-- `v::text` -/
def text (v : JsVal) : String := String.ofList (render v)

/-- `v ->> key`: a string stands for itself, and a null for nothing. -/
def getText? (v : JsVal) (key : String) : Option String :=
  match get? v key with
  | none => none
  | some .null => none
  | some (.str s) => some s
  | some w => some (text w)

/-! ## Squeezing the spaces out -/

/-- Drop the spaces outside strings; the flag tells whether the text starts
inside one. -/
def squeeze : Bool → List Char → List Char
  | _, [] => []
  | false, '"' :: r => '"' :: squeeze true r
  | false, ' ' :: r => squeeze false r
  | false, c :: r => c :: squeeze false r
  | true, '"' :: r => '"' :: squeeze false r
  | true, '\\' :: c :: r => '\\' :: c :: squeeze true r
  | true, c :: r => c :: squeeze true r

variable {c : Char}

theorem squeeze_outside (hquote : c ≠ '"') (hspace : c ≠ ' ') (r : List Char) :
    squeeze false (c :: r) = c :: squeeze false r := by
  rw [squeeze]
  · exact fun h => hquote h
  · exact fun h => hspace h

theorem squeeze_inside (hquote : c ≠ '"') (hslash : c ≠ '\\') (r : List Char) :
    squeeze true (c :: r) = c :: squeeze true r := by
  rw [squeeze]
  · exact fun h => hquote h
  · exact fun _ _ h => absurd h hslash

theorem hexDigit_plain {n : Nat} (h : n < 16) : hexDigit n ≠ '"' ∧ hexDigit n ≠ '\\' := by
  have hall : ∀ k : Fin 16, hexDigit k ≠ '"' ∧ hexDigit k ≠ '\\' := by decide
  exact hall ⟨n, h⟩

theorem squeeze_escape (c : Char) (r : List Char) :
    squeeze true (escape c ++ r) = escape c ++ squeeze true r := by
  unfold escape
  split
  · rfl
  split
  · rfl
  split
  · rfl
  split
  · rfl
  split
  · rfl
  split
  · rfl
  split
  · rfl
  split
  · next hlt =>
      have hhigh := hexDigit_plain (n := c.toNat / 16) (by omega)
      have hlow := hexDigit_plain (n := c.toNat % 16) (by omega)
      show '\\' :: 'u' :: squeeze true ('0' :: '0' :: _ :: _ :: r) = _
      rw [squeeze_inside (by decide) (by decide), squeeze_inside (by decide) (by decide),
        squeeze_inside hhigh.1 hhigh.2, squeeze_inside hlow.1 hlow.2]
      rfl
  · next hquote hslash _ _ _ _ _ _ => exact squeeze_inside hquote hslash r

theorem squeeze_escapeAll (l r : List Char) :
    squeeze true (escapeAll l ++ r) = escapeAll l ++ squeeze true r := by
  induction l with
  | nil => rfl
  | cons c l ih =>
      rw [escapeAll, List.flatMap_cons, List.append_assoc, squeeze_escape, ← escapeAll, ih,
        List.append_assoc]

theorem squeeze_quote (s : String) (r : List Char) :
    squeeze false (quote s ++ r) = quote s ++ squeeze false r := by
  show '"' :: squeeze true ((escapeAll s.toList ++ ['"']) ++ r) = _
  rw [List.append_assoc, squeeze_escapeAll]
  simp [quote, squeeze]

variable {l : List Char}

/-- A text without quotes and spaces stays. -/
theorem squeeze_plain (h : ∀ c ∈ l, c ≠ '"' ∧ c ≠ ' ') (r : List Char) :
    squeeze false (l ++ r) = l ++ squeeze false r := by
  induction l with
  | nil => rfl
  | cons c l ih =>
      obtain ⟨hquote, hspace⟩ := h c List.mem_cons_self
      rw [List.cons_append, squeeze_outside hquote hspace,
        ih fun d hd => h d (List.mem_cons_of_mem _ hd), List.cons_append]

theorem numText_plain (x : JsNum) : ∀ c ∈ numText x, c ≠ '"' ∧ c ≠ ' ' := by
  intro c hc
  have hnum := numText_chars x c hc
  constructor
  · rintro rfl
    exact absurd hnum (by decide)
  · rintro rfl
    exact absurd hnum (by decide)

mutual

theorem squeeze_render : ∀ (v : JsVal) (r : List Char),
    squeeze false (render v ++ r) = Json.render v ++ squeeze false r
  | .null, r => rfl
  | .bool true, r => rfl
  | .bool false, r => rfl
  | .num n, r => squeeze_plain (numText_plain n) r
  | .str s, r => squeeze_quote s r
  | .arr [], r => rfl
  | .arr (v :: l), r => by
      show '[' :: squeeze false ((render v ++ renderElems l) ++ r) = _
      rw [List.append_assoc, squeeze_render v, squeeze_renderElems l]
      simp [Json.render]
  | .obj [], r => rfl
  | .obj ((k, v) :: l), r => by
      show '{' :: squeeze false ((quote k ++ ':' :: ' ' :: (render v ++ renderFields l)) ++ r) = _
      rw [List.append_assoc, squeeze_quote, List.cons_append, List.cons_append,
        squeeze_outside (by decide) (by decide), squeeze, List.append_assoc, squeeze_render v,
        squeeze_renderFields l]
      simp [Json.render]

theorem squeeze_renderElems : ∀ (l : List JsVal) (r : List Char),
    squeeze false (renderElems l ++ r) = Json.renderElems l ++ squeeze false r
  | [], r => rfl
  | v :: l, r => by
      show ',' :: squeeze false ((render v ++ renderElems l) ++ r) = _
      rw [List.append_assoc, squeeze_render v, squeeze_renderElems l]
      simp [Json.renderElems]

theorem squeeze_renderFields : ∀ (l : List (String × JsVal)) (r : List Char),
    squeeze false (renderFields l ++ r) = Json.renderFields l ++ squeeze false r
  | [], r => rfl
  | (k, v) :: l, r => by
      show ',' :: squeeze false ((quote k ++ ':' :: ' ' :: (render v ++ renderFields l)) ++ r) = _
      rw [List.append_assoc, squeeze_quote, List.cons_append, List.cons_append,
        squeeze_outside (by decide) (by decide), squeeze, List.append_assoc, squeeze_render v,
        squeeze_renderFields l]
      simp [Json.renderFields]

end

/-- **The text of a value determines it.** -/
theorem text_injective : Function.Injective text := by
  intro v w h
  have hrender : render v = render w := by simpa [text] using congrArg String.toList h
  apply Json.render_injective
  have hv := squeeze_render v []
  have hw := squeeze_render w []
  rw [hrender, hw] at hv
  simpa [squeeze] using hv.symm

/-! ## No text is the end of another -/

/-- Where in a text a reader stands. -/
inductive Spot where
  | outside
  | inside
  | escaped
deriving DecidableEq

/-- Past one character; bars and backslashes stand inside strings only. -/
def Spot.step : Spot → Char → Option Spot
  | .outside, c =>
      if c = '"' then some .inside else if c = '|' ∨ c = '\\' then none else some .outside
  | .inside, c =>
      if c = '"' then some .outside else if c = '\\' then some .escaped else some .inside
  | .escaped, _ => some .inside

def scan (s : Spot) (l : List Char) : Option Spot := l.foldlM Spot.step s

theorem scan_append {s t u : Spot} {l r : List Char} (hl : scan s l = some t)
    (hr : scan t r = some u) : scan s (l ++ r) = some u := by
  unfold scan at hl hr ⊢
  rw [List.foldlM_append, hl]
  exact hr

theorem scan_cons {s t u : Spot} {r : List Char} (hc : s.step c = some t) (hr : scan t r = some u) :
    scan s (c :: r) = some u := by
  unfold scan at hr ⊢
  rw [List.foldlM_cons, hc]
  exact hr

/-- What stays outside strings. -/
theorem scan_plain (h : ∀ c ∈ l, c ≠ '"' ∧ c ≠ '|' ∧ c ≠ '\\') :
    scan .outside l = some .outside := by
  induction l with
  | nil => rfl
  | cons c l ih =>
      obtain ⟨hquote, hbar, hslash⟩ := h c List.mem_cons_self
      refine scan_cons ?_ (ih fun d hd => h d (List.mem_cons_of_mem c hd))
      rw [Spot.step, if_neg hquote, if_neg (not_or.mpr ⟨hbar, hslash⟩)]

theorem step_inside (hquote : c ≠ '"') (hslash : c ≠ '\\') : Spot.inside.step c = some .inside := by
  rw [Spot.step, if_neg hquote, if_neg hslash]

theorem scan_escape (c : Char) : scan .inside (escape c) = some .inside := by
  unfold escape
  split
  · rfl
  split
  · rfl
  split
  · rfl
  split
  · rfl
  split
  · rfl
  split
  · rfl
  split
  · rfl
  split
  · next hlt =>
      have hhigh := hexDigit_plain (n := c.toNat / 16) (by omega)
      have hlow := hexDigit_plain (n := c.toNat % 16) (by omega)
      have hstart : scan .inside ['\\', 'u', '0', '0'] = some .inside := rfl
      exact scan_append hstart (scan_cons (step_inside hhigh.1 hhigh.2)
        (scan_cons (step_inside hlow.1 hlow.2) rfl))
  · next hquote hslash _ _ _ _ _ _ => exact scan_cons (step_inside hquote hslash) rfl

theorem scan_quote (s : String) : scan .outside (quote s) = some .outside := by
  have hbody : ∀ l : List Char, scan .inside (escapeAll l) = some .inside := by
    intro l
    induction l with
    | nil => rfl
    | cons c l ih => exact scan_append (scan_escape c) ih
  exact scan_cons rfl (scan_append (hbody s.toList) rfl)

theorem scan_numText (x : JsNum) : scan .outside (numText x) = some .outside := by
  refine scan_plain fun c hc => ?_
  have hnum := numText_chars x c hc
  refine ⟨?_, ?_, ?_⟩ <;> rintro rfl <;> exact absurd hnum (by decide)

mutual

/-- A whole text is read from outside to outside. -/
theorem scan_render : ∀ v : JsVal, scan .outside (render v) = some .outside
  | .null => rfl
  | .bool true => rfl
  | .bool false => rfl
  | .num x => scan_numText x
  | .str s => scan_quote s
  | .arr [] => rfl
  | .arr (v :: l) => scan_cons rfl (scan_append (scan_render v) (scan_renderElems l))
  | .obj [] => rfl
  | .obj ((k, v) :: l) =>
      scan_cons rfl (scan_append (scan_quote k)
        (scan_cons rfl (scan_cons rfl (scan_append (scan_render v) (scan_renderFields l)))))

theorem scan_renderElems : ∀ l : List JsVal, scan .outside (renderElems l) = some .outside
  | [] => rfl
  | v :: l =>
      scan_cons rfl (scan_cons rfl (scan_append (scan_render v) (scan_renderElems l)))

theorem scan_renderFields : ∀ l : List (String × JsVal),
    scan .outside (renderFields l) = some .outside
  | [] => rfl
  | (k, v) :: l =>
      scan_cons rfl (scan_cons rfl (scan_append (scan_quote k)
        (scan_cons rfl (scan_cons rfl (scan_append (scan_render v) (scan_renderFields l))))))

end

/-- One reader outside strings, the other inside one. -/
def Opposite (s t : Spot) : Prop :=
  (s = .outside ∧ t = .inside) ∨ (s = .inside ∧ t = .outside)

theorem Opposite.step {s t s' t' : Spot} (h : Opposite s t) (hs : s.step c = some s')
    (ht : t.step c = some t') : Opposite s' t' := by
  have one : ∀ {s' t' : Spot}, Spot.outside.step c = some s' → Spot.inside.step c = some t' →
      Opposite s' t' := by
    intro s' t' hs ht
    simp only [Spot.step] at hs ht
    by_cases hquote : c = '"'
    · rw [if_pos hquote] at hs ht
      cases hs
      cases ht
      exact .inr ⟨rfl, rfl⟩
    · rw [if_neg hquote] at hs ht
      by_cases hbad : c = '|' ∨ c = '\\'
      · rw [if_pos hbad] at hs
        cases hs
      · rw [if_neg hbad] at hs
        rw [if_neg (not_or.mp hbad).2] at ht
        cases hs
        cases ht
        exact .inl ⟨rfl, rfl⟩
  rcases h with ⟨rfl, rfl⟩ | ⟨rfl, rfl⟩
  · exact one hs ht
  · exact (one ht hs).symm.imp And.symm And.symm

/-- Readers that start opposite end opposite. -/
theorem Opposite.scan {s t s' t' : Spot} (h : Opposite s t) (hs : Jsonb.scan s l = some s')
    (ht : Jsonb.scan t l = some t') : Opposite s' t' := by
  induction l generalizing s t with
  | nil =>
      cases hs
      cases ht
      exact h
  | cons c l ih =>
      unfold Jsonb.scan at hs ht
      rw [List.foldlM_cons] at hs ht
      obtain ⟨s₁, hs₁, hs⟩ := Option.bind_eq_some_iff.mp hs
      obtain ⟨t₁, ht₁, ht⟩ := Option.bind_eq_some_iff.mp ht
      exact ih (h.step hs₁ ht₁) hs ht

/-- A text does not end in a bar and another text. -/
theorem render_ne_tail (v w : JsVal) (l : List Char) : render v ≠ l ++ '|' :: render w := by
  intro h
  have hv := scan_render v
  rw [h, scan, List.foldlM_append] at hv
  obtain ⟨s, -, hv⟩ := Option.bind_eq_some_iff.mp hv
  rw [List.foldlM_cons] at hv
  obtain ⟨t, hbar, hv⟩ := Option.bind_eq_some_iff.mp hv
  -- the bar stands inside a string, where the other text is read to its end
  have ht : t = .inside := by
    cases s with
    | outside => cases hbar
    | inside => exact (Option.some.inj hbar).symm
    | escaped => exact (Option.some.inj hbar).symm
  have hopposite : Opposite .outside t := .inl ⟨rfl, ht⟩
  rcases hopposite.scan (scan_render w) hv with ⟨-, hend⟩ | ⟨hend, -⟩ <;> cases hend

/-- The text after the last bar is read in one way only. -/
theorem render_tail_cancel {v w : JsVal} {l r : List Char}
    (h : l ++ '|' :: render v = r ++ '|' :: render w) : l = r ∧ v = w := by
  have one : ∀ {v w : JsVal} {r m : List Char},
      '|' :: render v = m ++ '|' :: render w → m = [] := by
    intro v w r m h
    cases m with
    | nil => rfl
    | cons c m => exact absurd (List.cons.inj h).2 (render_ne_tail v w m)
  have heq : l = r := by
    rcases List.append_eq_append_iff.mp h with ⟨m, hr, hv⟩ | ⟨m, hl, hw⟩
    · rw [hr, one (r := r) hv, List.append_nil]
    · rw [hl, one (r := r) hw, List.append_nil]
  subst heq
  have hrender := (List.cons.inj (List.append_cancel_left h)).2
  exact ⟨rfl, text_injective (congrArg String.ofList hrender)⟩

end InspectionHub.Jsonb
