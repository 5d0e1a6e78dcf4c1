import InspectionHub.Lib.Schema

/-!
# Schemas that accept what they return

A program that parses its state at the start of each step and again at its
end relies on this: what a schema returned, it returns unchanged the next
time. Text that is trimmed is the case where a schema returns something else
than it was given and is still stable.
-/

namespace InspectionHub

/-- Trimming twice is trimming once. -/
theorem Js.trim_trim (s : String) : Js.trim (Js.trim s) = Js.trim s := by
  have hback : ∀ l : List Char, Js.trimChars l = (l.dropWhile Js.isWhite).rdropWhile Js.isWhite :=
    fun _ => rfl
  have hfront : ∀ l : List Char, (Js.trimChars l).dropWhile Js.isWhite = Js.trimChars l := by
    intro l
    rw [List.dropWhile_eq_self_iff]
    intro hpos
    -- dropping at the back keeps the first character
    obtain ⟨rest, hrest⟩ := List.rdropWhile_prefix Js.isWhite (l.dropWhile Js.isWhite)
    rw [← hback] at hrest
    have hlen : 0 < (l.dropWhile Js.isWhite).length := by
      rw [← hrest, List.length_append]
      omega
    have hhead : (Js.trimChars l)[0] = (l.dropWhile Js.isWhite)[0] := by
      simp only [← hrest, List.getElem_append_left hpos]
    rw [hhead]
    exact List.dropWhile_get_zero_not _ l hlen
  rw [Js.trim, Js.trim, String.toList_ofList, hback (Js.trimChars _), hfront, hback,
    List.rdropWhile_idempotent]

namespace Schema

/-- The schema returns what it returned. -/
def Stable (s : Schema) : Prop := ∀ v w, s v = .ok w → s w = .ok w

variable {s : Schema}

theorem Exact.stable (h : Exact s) : Stable s := by
  intro v w hw
  have hsame := h v w hw
  subst hsame
  exact hw

/-- Trimmed text, under checks that only look. -/
theorem stable_trimmed {checks : List Check} (h : ∀ c ∈ checks, ∀ s t, c s = .ok t → t = s) :
    Stable (string (trim :: checks)) := by
  intro v w hw
  obtain ⟨s, rfl⟩ := string_ok hw
  obtain ⟨t, ht, hrest⟩ := string_cons_ok hw
  have htrim : t = Js.trim s := (Except.ok.inj ht).symm
  have hsame : w = .str t := exact_string h _ _ hrest
  subst hsame
  have hagain : string (trim :: checks) (.str t) = string checks (.str (Js.trim t)) := rfl
  rw [hagain, htrim, Js.trim_trim, ← htrim]
  exact hrest

theorem elements_self {l : List JsVal} (h : ∀ v ∈ l, s v = .ok v) (i : Nat) :
    elements s i l = .ok l := by
  induction l generalizing i with
  | nil => rfl
  | cons v l ih =>
      unfold elements
      rw [h v List.mem_cons_self, ih fun w hw => h w (List.mem_cons_of_mem _ hw)]
      rfl

theorem stable_array (hs : Stable s) (size : Nat → Bool) : Stable (array s size) := by
  intro v w h
  obtain ⟨l, r, rfl, rfl, hsize, hlr⟩ := array_ok h
  have hself : ∀ b ∈ r, s b = .ok b := by
    intro b hb
    obtain ⟨i, hi, rfl⟩ := List.mem_iff_getElem.mp hb
    exact hs _ _ (hlr.get (by rw [hlr.length_eq]; exact hi) hi)
  show (if size r.length then (elements s 0 r).map JsVal.arr else reject) = _
  rw [← hlr.length_eq, if_pos hsize, elements_self hself]
  rfl

/-- Each property is its own parse, in the order of the shape. -/
def Fits (f : List (String × Schema)) (r : Fields) : Prop :=
  List.Forall₂ (fun a p => p.1 = a.1 ∧ a.2 p.2 = .ok p.2) f r

namespace Fits

variable {f g : List (String × Schema)} {r q : Fields}

theorem keys (h : Fits f r) : r.keys = f.map Prod.fst := by
  induction h with
  | nil => rfl
  | cons hp _ ih =>
      rw [List.map_cons, ← ih, ← hp.1]
      rfl

theorem append (h : Fits f r) (h' : Fits g q) : Fits (f ++ g) (r ++ q) := List.rel_append h h'

/-- A property of a fitting object is its own parse. -/
theorem get (h : Fits f r) (hf : (f.map Prod.fst).Nodup) {k : String} (hk : (k, s) ∈ f) :
    ∃ y, r.lookup k = some y ∧ s y = .ok y := by
  have hmem : ∃ y, (k, y) ∈ r ∧ s y = .ok y := by
    clear hf
    induction h with
    | nil => cases hk
    | @cons a p f r hp _ ih =>
        rcases List.mem_cons.mp hk with rfl | hk
        · refine ⟨p.2, ?_, hp.2⟩
          rw [show k = p.1 from hp.1.symm]
          exact List.mem_cons_self
        · obtain ⟨y, hy, hsy⟩ := ih hk
          exact ⟨y, List.mem_cons_of_mem _ hy, hsy⟩
  obtain ⟨y, hy, hsy⟩ := hmem
  exact ⟨y, (Fields.lookup_eq_some_iff (by rwa [h.keys]) k y).mpr hy, hsy⟩

/-- A fitting object is its own parse. -/
theorem strictObject (h : Fits f r) (hf : (f.map Prod.fst).Nodup) :
    strictObject f (.obj r) = .ok (.obj r) := by
  have hnodup : (Fields.keys r).Nodup := by rwa [h.keys]
  -- a tail of the shape reads its own properties off the whole object
  have hshape : ∀ {g : List (String × Schema)} {q : Fields}, Fits g q → (∀ p ∈ q, p ∈ r) →
      shape g r = .ok q := by
    intro g q hg
    induction hg with
    | nil => exact fun _ => rfl
    | @cons a p g q hp _ ih =>
        intro hsub
        have hlookup : r.lookup a.1 = some p.2 :=
          (Fields.lookup_eq_some_iff hnodup a.1 p.2).mpr (hp.1 ▸ hsub p List.mem_cons_self)
        have hrest := ih fun x hx => hsub x (List.mem_cons_of_mem _ hx)
        show shape ((a.1, a.2) :: g) r = _
        rw [shape, hlookup, hrest]
        dsimp only
        rw [hp.2, ← hp.1]
        rfl
  have hnone : (Fields.keys r).filter (fun k => k ∉ f.map Prod.fst) = [] := by
    rw [h.keys]
    simp
  unfold Schema.strictObject
  dsimp only
  rw [if_pos hnone, hshape h fun _ hp => hp]
  rfl

end Fits

/-- What a strict object of stable properties returns is a fitting object. -/
theorem strictObject_fits {f : List (String × Schema)} (h : ∀ a ∈ f, Stable a.2) {v w : JsVal}
    (hw : strictObject f v = .ok w) : ∃ r, w = .obj r ∧ Fits f r := by
  obtain ⟨l, r, rfl, rfl, -, hr⟩ := strictObject_ok hw
  refine ⟨r, rfl, ?_⟩
  clear hw
  induction hr with
  | nil => exact .nil
  | @cons a p f r hp _ ih =>
      obtain ⟨hkey, x, -, hx⟩ := hp
      exact .cons ⟨hkey, h a List.mem_cons_self x p.2 hx⟩
        (ih fun b hb => h b (List.mem_cons_of_mem _ hb))

theorem stable_strictObject {f : List (String × Schema)} (hf : (f.map Prod.fst).Nodup)
    (h : ∀ a ∈ f, Stable a.2) : Stable (strictObject f) := by
  intro v w hw
  obtain ⟨r, rfl, hfits⟩ := strictObject_fits h hw
  exact hfits.strictObject hf

/-- Options that leave each other's results alone make a stable union. -/
theorem stable_union {options : List Schema} (h : ∀ s ∈ options, Stable s)
    (hfix : ∀ s ∈ options, ∀ t ∈ options, ∀ v w u, s v = .ok w → t w = .ok u → u = w) :
    Stable (union options) := by
  intro v w hw
  obtain ⟨s, hs, hsv⟩ := union_ok hw
  have hself := h s hs v w hsv
  cases hu : union options w with
  | ok u =>
      obtain ⟨t, ht, htw⟩ := union_ok hu
      rw [hfix s hs t ht v w u hsv htw]
  | error e =>
      -- impossible: the option that gave the result accepts it
      exfalso
      unfold union at hu
      split at hu
      · cases hu
      · next hnone =>
          have hreject := List.findSome?_eq_none_iff.mp hnone s hs
          rw [hself] at hreject
          cases hreject

/-- Options that keep the tag make a stable discriminated union. -/
theorem stable_discriminatedUnion {key : String} {options : List (String × Schema)}
    (h : ∀ p ∈ options, Stable p.2)
    (htag : ∀ p ∈ options, ∀ v w, p.2 v = .ok w → w.str? key = v.str? key) :
    Stable (discriminatedUnion key options) := by
  intro v w hw
  unfold discriminatedUnion at hw ⊢
  split at hw
  · next s hs =>
      obtain ⟨tag, -, hlookup⟩ := Option.bind_eq_some_iff.mp hs
      obtain ⟨l₁, l₂, hl, -⟩ := List.lookup_eq_some_iff.mp hlookup
      have hmem : (tag, s) ∈ options := by
        rw [hl]
        simp
      rw [htag _ hmem v w hw, hs]
      exact h _ hmem v w hw
  · cases hw

theorem stable_superRefine (hs : Stable s) (check : JsVal → List Issue) :
    Stable (superRefine s check) := by
  intro v w h
  obtain ⟨hsv, hcheck⟩ := superRefine_ok h
  unfold superRefine
  rw [hs v w hsv]
  dsimp only [Except.bind]
  rw [hcheck]

/-! ## Schemas that keep values plain -/

/-- What the schema returns for a plain value is plain. -/
def KeepsPlain (s : Schema) : Prop := ∀ v w, v.plain = true → s v = .ok w → w.plain = true

theorem Exact.keepsPlain (h : Exact s) : KeepsPlain s := by
  intro v w hplain hw
  rwa [h v w hw]

theorem keepsPlain_string (checks : List Check) : KeepsPlain (string checks) := by
  intro v w _ hw
  unfold string at hw
  split at hw
  · obtain ⟨t, -, rfl⟩ := map_ok hw
    rfl
  · cases hw

theorem keepsPlain_array (hs : KeepsPlain s) (size : Nat → Bool) : KeepsPlain (array s size) := by
  intro v w hplain hw
  obtain ⟨l, r, rfl, rfl, -, hlr⟩ := array_ok hw
  have hl := JsVal.plain_arr hplain
  rw [JsVal.plain, JsVal.plainElems_iff]
  intro b hb
  obtain ⟨i, hi, rfl⟩ := List.mem_iff_getElem.mp hb
  have hi' : i < l.length := by rwa [hlr.length_eq]
  exact hs _ _ (hl _ (List.getElem_mem hi')) (hlr.get hi' hi)

theorem keepsPlain_union {options : List Schema} (h : ∀ s ∈ options, KeepsPlain s) :
    KeepsPlain (union options) := by
  intro v w hplain hw
  obtain ⟨s, hs, hsv⟩ := union_ok hw
  exact h s hs v w hplain hsv

theorem keepsPlain_discriminatedUnion {key : String} {options : List (String × Schema)}
    (h : ∀ p ∈ options, KeepsPlain p.2) : KeepsPlain (discriminatedUnion key options) := by
  intro v w hplain hw
  obtain ⟨tag, s, -, hs, hsv⟩ := discriminatedUnion_ok hw
  exact h _ hs v w hplain hsv

theorem keepsPlain_strictObject {f : List (String × Schema)} (hf : (f.map Prod.fst).Nodup)
    (hproto : "__proto__" ∉ f.map Prod.fst) (h : ∀ a ∈ f, KeepsPlain a.2) :
    KeepsPlain (strictObject f) := by
  intro v w hplain hw
  obtain ⟨l, r, rfl, rfl, -, hr⟩ := strictObject_ok hw
  have hkeys := keys_of_shape hr
  refine (JsVal.plain_obj_iff r).mpr ⟨by rwa [hkeys], by rwa [hkeys], fun p hp => ?_⟩
  obtain ⟨i, hi, rfl⟩ := List.mem_iff_getElem.mp hp
  have hi' : i < f.length := by rwa [hr.length_eq]
  obtain ⟨-, x, hx, hp⟩ := hr.get hi' hi
  exact h _ (List.getElem_mem hi') x _ ((JsVal.plain_obj hplain).2 _ (Fields.mem_of_lookup hx)) hp

end Schema

end InspectionHub
