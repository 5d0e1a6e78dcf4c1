import InspectionHub.Lib.Json

/-!
# `JSON.stringify` is injective

A value's text is never a proper prefix of another's inside a larger text:
what follows a value is a comma, a closing bracket or the end (`Delim`), and
no number continues with one of these. So values are read off a text in one
way only (`render_cancel`).
-/

namespace InspectionHub.Json

mutual

def render : JsVal → List Char
  | .null => ['n', 'u', 'l', 'l']
  | .bool true => ['t', 'r', 'u', 'e']
  | .bool false => ['f', 'a', 'l', 's', 'e']
  | .num n => numText n
  | .str s => quote s
  | .arr [] => ['[', ']']
  | .arr (v :: l) => '[' :: (render v ++ renderElems l)
  | .obj [] => ['{', '}']
  | .obj ((k, v) :: l) => '{' :: (quote k ++ ':' :: (render v ++ renderFields l))

/-- The elements after the first, with their commas, and the bracket. -/
def renderElems : List JsVal → List Char
  | [] => [']']
  | v :: l => ',' :: (render v ++ renderElems l)

/-- The properties after the first, with their commas, and the brace. -/
def renderFields : List (String × JsVal) → List Char
  | [] => ['}']
  | (k, v) :: l => ',' :: (quote k ++ ':' :: (render v ++ renderFields l))

end

/-- `JSON.stringify(v)`. -/
def stringify (v : JsVal) : String := String.ofList (render v)

/-- What may follow a value: the end, or a character no number contains. -/
def Delim (r : List Char) : Prop := ∀ c l, r = c :: l → ¬ isNumChar c

theorem delim_nil : Delim [] := nofun

theorem delim_cons {c : Char} (l : List Char) (h : ¬ isNumChar c) : Delim (c :: l) := by
  rintro _ _ ⟨⟩
  exact h

theorem delim_elems (l : List JsVal) (r : List Char) : Delim (renderElems l ++ r) := by
  cases l <;> exact delim_cons _ (by decide)

theorem delim_fields (l : List (String × JsVal)) (r : List Char) :
    Delim (renderFields l ++ r) := by
  rcases l with _ | ⟨⟨k, v⟩, l⟩ <;> exact delim_cons _ (by decide)

variable {r r' : List Char}

/-- Numbers are delimited by any character no number contains. -/
theorem numText_cancel {x y : JsNum} (hr : Delim r) (hr' : Delim r')
    (h : numText x ++ r = numText y ++ r') : x = y ∧ r = r' := by
  have key : ∀ (l l' : List Char), (∀ c ∈ l, isNumChar c) → (∀ c ∈ l', isNumChar c) →
      l ++ r = l' ++ r' → l = l' ∧ r = r' := by
    intro l
    induction l with
    | nil =>
        intro l' _ hl' h
        cases l' with
        | nil => exact ⟨rfl, h⟩
        | cons c l' => exact absurd (hl' c List.mem_cons_self) (hr c _ h)
    | cons c l ih =>
        intro l' hl hl' h
        cases l' with
        | nil => exact absurd (hl c List.mem_cons_self) (hr' c _ h.symm)
        | cons c' l' =>
            simp only [List.cons_append, List.cons.injEq] at h
            obtain ⟨heq, hrest⟩ := ih l' (fun x hx => hl x (List.mem_cons_of_mem _ hx))
              (fun x hx => hl' x (List.mem_cons_of_mem _ hx)) h.2
            exact ⟨by rw [h.1, heq], hrest⟩
  obtain ⟨ht, hrest⟩ := key _ _ (numText_chars x) (numText_chars y) h
  exact ⟨numText_injective ht, hrest⟩

/-- The kind of a value, as its first character tells it. -/
inductive Kind where
  | null | true | false | num | str | arr | obj
deriving DecidableEq

def kind : JsVal → Kind
  | .null => .null
  | .bool true => .true
  | .bool false => .false
  | .num _ => .num
  | .str _ => .str
  | .arr _ => .arr
  | .obj _ => .obj

def kindOf (c : Char) : Option Kind :=
  if c.isDigit || c = '-' then some .num
  else match c with
    | 'n' => some .null
    | 't' => some .true
    | 'f' => some .false
    | '"' => some .str
    | '[' => some .arr
    | '{' => some .obj
    | _ => none

theorem render_kind (v : JsVal) (r : List Char) :
    ∃ c l, render v ++ r = c :: l ∧ kindOf c = some (kind v) := by
  rcases v with _ | (_ | _) | x | s | (_ | ⟨v, l⟩) | (_ | ⟨⟨k, v⟩, l⟩)
  · exact ⟨_, _, rfl, rfl⟩
  · exact ⟨_, _, rfl, rfl⟩
  · exact ⟨_, _, rfl, rfl⟩
  · obtain ⟨c, l, h, hc⟩ := numText_head x
    refine ⟨c, l ++ r, by simp [render, h], ?_⟩
    rcases hc with hc | hc <;> simp [kindOf, kind, hc]
  · exact ⟨_, _, rfl, rfl⟩
  · exact ⟨_, _, rfl, rfl⟩
  · exact ⟨_, _, rfl, rfl⟩
  · exact ⟨_, _, rfl, rfl⟩
  · exact ⟨_, _, rfl, rfl⟩

theorem kind_eq {v v' : JsVal} (h : render v ++ r = render v' ++ r') : kind v = kind v' := by
  obtain ⟨c, l, hc, hk⟩ := render_kind v r
  obtain ⟨c', l', hc', hk'⟩ := render_kind v' r'
  rw [hc, hc', List.cons.injEq] at h
  rw [h.1, hk'] at hk
  exact (Option.some.inj hk).symm

/-- No value starts with a closing bracket or brace. -/
theorem render_ne_close {v : JsVal} {c : Char} (hc : kindOf c = none)
    (h : c :: r' = render v ++ r) : False := by
  obtain ⟨c', l, h', hk⟩ := render_kind v r
  rw [h', List.cons.injEq] at h
  rw [← h.1, hc] at hk
  cases hk

mutual

/-- A value is read off the front of a delimited text in one way only. -/
theorem render_cancel : ∀ (v v' : JsVal) (r r' : List Char), Delim r → Delim r' →
    render v ++ r = render v' ++ r' → v = v' ∧ r = r'
  | .null, v', r, r', _, _, h => by
      have hk := kind_eq h
      rcases v' with _ | (_ | _) | _ | _ | _ | _ <;> cases hk
      exact ⟨rfl, List.append_cancel_left h⟩
  | .bool b, v', r, r', _, _, h => by
      have hk := kind_eq h
      cases b <;> rcases v' with _ | (_ | _) | _ | _ | _ | _ <;> cases hk <;>
        exact ⟨rfl, List.append_cancel_left h⟩
  | .num x, v', r, r', hr, hr', h => by
      have hk := kind_eq h
      rcases v' with _ | (_ | _) | y | _ | _ | _ <;> cases hk
      obtain ⟨hx, hrest⟩ := numText_cancel hr hr' h
      exact ⟨by rw [hx], hrest⟩
  | .str s, v', r, r', _, _, h => by
      have hk := kind_eq h
      rcases v' with _ | (_ | _) | _ | s' | _ | _ <;> cases hk
      obtain ⟨hs, hrest⟩ := quote_cancel h
      exact ⟨by rw [hs], hrest⟩
  | .arr [], v', r, r', _, _, h => by
      have hk := kind_eq h
      rcases v' with _ | (_ | _) | _ | _ | (_ | ⟨w, l'⟩) | _ <;> cases hk
      · exact ⟨rfl, List.append_cancel_left h⟩
      · simp only [render, List.cons_append, List.nil_append, List.cons.injEq, true_and,
          List.append_assoc] at h
        exact (render_ne_close (by decide) h).elim
  | .arr (v :: l), v', r, r', hr, hr', h => by
      have hk := kind_eq h
      rcases v' with _ | (_ | _) | _ | _ | (_ | ⟨w, l'⟩) | _ <;> cases hk
      · simp only [render, List.cons_append, List.nil_append, List.cons.injEq, true_and,
          List.append_assoc] at h
        exact (render_ne_close (by decide) h.symm).elim
      · simp only [render, List.cons_append, List.cons.injEq, true_and, List.append_assoc] at h
        obtain ⟨hv, hrest⟩ := render_cancel v w _ _ (delim_elems l r) (delim_elems l' r') h
        obtain ⟨hl, hr''⟩ := elems_cancel l l' r r' hr hr' hrest
        exact ⟨by rw [hv, hl], hr''⟩
  | .obj [], v', r, r', _, _, h => by
      have hk := kind_eq h
      rcases v' with _ | (_ | _) | _ | _ | _ | (_ | ⟨⟨k', w⟩, l'⟩) <;> cases hk
      · exact ⟨rfl, List.append_cancel_left h⟩
      · simp [render, quote] at h
  | .obj ((k, v) :: l), v', r, r', hr, hr', h => by
      have hk := kind_eq h
      rcases v' with _ | (_ | _) | _ | _ | _ | (_ | ⟨⟨k', w⟩, l'⟩) <;> cases hk
      · simp [render, quote] at h
      · simp only [render, List.cons_append, List.cons.injEq, true_and, List.append_assoc] at h
        obtain ⟨hkey, hafter⟩ := quote_cancel h
        rw [List.cons.injEq] at hafter
        obtain ⟨hv, hrest⟩ :=
          render_cancel v w _ _ (delim_fields l r) (delim_fields l' r') hafter.2
        obtain ⟨hl, hr''⟩ := fields_cancel l l' r r' hr hr' hrest
        exact ⟨by rw [hkey, hv, hl], hr''⟩

theorem elems_cancel : ∀ (l l' : List JsVal) (r r' : List Char), Delim r → Delim r' →
    renderElems l ++ r = renderElems l' ++ r' → l = l' ∧ r = r'
  | [], [], _, _, _, _, h => ⟨rfl, List.append_cancel_left h⟩
  | [], _ :: _, _, _, _, _, h => by simp [renderElems] at h
  | _ :: _, [], _, _, _, _, h => by simp [renderElems] at h
  | v :: l, w :: l', r, r', hr, hr', h => by
      simp only [renderElems, List.cons_append, List.cons.injEq, true_and,
        List.append_assoc] at h
      obtain ⟨hv, hrest⟩ := render_cancel v w _ _ (delim_elems l r) (delim_elems l' r') h
      obtain ⟨hl, hr''⟩ := elems_cancel l l' r r' hr hr' hrest
      exact ⟨by rw [hv, hl], hr''⟩

theorem fields_cancel : ∀ (l l' : List (String × JsVal)) (r r' : List Char), Delim r →
    Delim r' → renderFields l ++ r = renderFields l' ++ r' → l = l' ∧ r = r'
  | [], [], _, _, _, _, h => ⟨rfl, List.append_cancel_left h⟩
  | [], _ :: _, _, _, _, _, h => by simp [renderFields] at h
  | _ :: _, [], _, _, _, _, h => by simp [renderFields] at h
  | (k, v) :: l, (k', w) :: l', r, r', hr, hr', h => by
      simp only [renderFields, List.cons_append, List.cons.injEq, true_and,
        List.append_assoc] at h
      obtain ⟨hkey, hafter⟩ := quote_cancel h
      rw [List.cons.injEq] at hafter
      obtain ⟨hv, hrest⟩ :=
        render_cancel v w _ _ (delim_fields l r) (delim_fields l' r') hafter.2
      obtain ⟨hl, hr''⟩ := fields_cancel l l' r r' hr hr' hrest
      exact ⟨by rw [hkey, hv, hl], hr''⟩

end

theorem render_injective : Function.Injective render := by
  intro v v' h
  have hr : render v ++ [] = render v' ++ [] := by rw [h]
  exact (render_cancel v v' [] [] delim_nil delim_nil hr).1

/-- **`JSON.stringify` is injective.** -/
theorem stringify_injective : Function.Injective stringify := by
  intro v v' h
  exact render_injective (by simpa [stringify] using congrArg String.toList h)

end InspectionHub.Json

namespace InspectionHub

/-- Values are compared by their text. -/
instance : DecidableEq JsVal := fun v w =>
  decidable_of_iff (Json.render v = Json.render w) Json.render_injective.eq_iff

end InspectionHub
