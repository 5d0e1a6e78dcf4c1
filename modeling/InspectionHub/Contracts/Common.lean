import InspectionHub.Lib.Stable

/-!
# Common contracts

The schemas every other contract is built from, and the references to
captured artifacts.
-/

namespace InspectionHub.Contracts

open Schema

variable (fmt : Formats)

def idSchema : Schema := string [satisfies fmt.uuid none]

def sha256Schema : Schema :=
  string [satisfies Js.isHexDigest (some "Expected a lowercase SHA-256 digest")]

def timestampSchema : Schema := string [satisfies fmt.datetime none]

/-- `z.string().trim().min(1).max(n)`. -/
def trimmedText (n : Nat) : Schema := string [trim, minLength 1, maxLength n]

def nonEmptyTextSchema : Schema := trimmedText 4000

def positive : Int → Bool := fun n => 0 < n

def nonnegative : Int → Bool := fun n => 0 ≤ n

def nonEmpty : Nat → Bool := fun n => 0 < n

def moduleTypeSchema : Schema := enum ["building", "timber_pest"]

def commissionedModulesSchema : Schema :=
  union
    [tuple [literal "building"], tuple [literal "timber_pest"],
      tuple [literal "building", literal "timber_pest"]]

/-- An actor with an identifier, of the given type. -/
def identifiedActor (type : String) : String × Schema :=
  (type, strictObject [("type", literal type), ("id", idSchema fmt)])

def identifiedActorSchema : Schema :=
  discriminatedUnion "type"
    [identifiedActor fmt "inspector", identifiedActor fmt "administrator",
      identifiedActor fmt "client", identifiedActor fmt "recipient",
      identifiedActor fmt "access_contact", identifiedActor fmt "provider"]

def actorSchema : Schema :=
  union [identifiedActorSchema fmt, strictObject [("type", literal "system"), ("id", null)]]

def inspectorAttributionSchema : Schema :=
  strictObject
    [("inspectorId", idSchema fmt), ("displayName", trimmedText 200),
      ("credentialVersion", trimmedText 200), ("confirmedAt", timestampSchema fmt)]

/-! ## Artifact references -/

def originalArtifactReferenceSchema : Schema :=
  strictObject
    [("kind", literal "original"), ("artifactId", idSchema fmt), ("contentHash", sha256Schema)]

def derivativeArtifactReferenceSchema : Schema :=
  strictObject
    [("kind", literal "derivative"), ("artifactId", idSchema fmt), ("contentHash", sha256Schema),
      ("parentArtifactId", idSchema fmt),
      ("transformation",
        enum ["annotation", "crop", "compression_proxy", "safe_proxy", "caption_render"])]

def artifactReferenceSchema : Schema :=
  discriminatedUnion "kind"
    [("original", originalArtifactReferenceSchema fmt),
      ("derivative", derivativeArtifactReferenceSchema fmt)]

/-! ## What they keep -/

theorem exact_satisfies (p : String → Bool) (m : Option String) : Exact (string [satisfies p m]) :=
  exact_string fun c hc s t h => by
    rw [List.mem_singleton.mp hc] at h
    exact (satisfies_ok h).1

theorem exact_id : Exact (idSchema fmt) := exact_satisfies _ _

theorem exact_sha256 : Exact sha256Schema := exact_satisfies _ _

theorem exact_timestamp : Exact (timestampSchema fmt) := exact_satisfies _ _

theorem exact_commissionedModules : Exact commissionedModulesSchema := by
  refine exact_union ?_
  intro s hs
  -- each option is a tuple of literals
  have literals : ∀ l : List String, Exact (tuple (l.map literal)) := by
    intro l
    refine exact_tuple fun t ht => ?_
    obtain ⟨m, -, rfl⟩ := List.mem_map.mp ht
    exact exact_literal m
  simp only [List.mem_cons, List.not_mem_nil, or_false] at hs
  rcases hs with rfl | rfl | rfl
  · exact literals ["building"]
  · exact literals ["timber_pest"]
  · exact literals ["building", "timber_pest"]

theorem lossless_identifiedActor (type : String) : Lossless (identifiedActor fmt type).2 := by
  refine lossless_strictObject (by simp) ?_
  intro a ha
  rcases List.mem_cons.mp ha with rfl | ha
  · exact (exact_literal _).lossless
  · rw [List.mem_singleton.mp ha]
    exact (exact_id fmt).lossless

theorem lossless_actor : Lossless (actorSchema fmt) := by
  refine lossless_union ?_
  intro s hs
  rcases List.mem_cons.mp hs with rfl | hs
  · refine lossless_discriminatedUnion ?_
    intro p hp
    simp only [List.mem_cons, List.not_mem_nil, or_false] at hp
    rcases hp with rfl | rfl | rfl | rfl | rfl | rfl <;> exact lossless_identifiedActor fmt _
  · rw [List.mem_singleton.mp hs]
    refine lossless_strictObject (by simp) ?_
    intro a ha
    rcases List.mem_cons.mp ha with rfl | ha
    · exact (exact_literal _).lossless
    · rw [List.mem_singleton.mp ha]
      exact exact_null.lossless

theorem lossless_artifactReference : Lossless (artifactReferenceSchema fmt) := by
  refine lossless_discriminatedUnion ?_
  intro p hp
  simp only [List.mem_cons, List.not_mem_nil, or_false] at hp
  rcases hp with rfl | rfl
  · refine lossless_strictObject (by simp) ?_
    intro a ha
    simp only [List.mem_cons, List.not_mem_nil, or_false] at ha
    rcases ha with rfl | rfl | rfl
    · exact (exact_literal _).lossless
    · exact (exact_id fmt).lossless
    · exact exact_sha256.lossless
  · refine lossless_strictObject (by simp) ?_
    intro a ha
    simp only [List.mem_cons, List.not_mem_nil, or_false] at ha
    rcases ha with rfl | rfl | rfl | rfl | rfl
    · exact (exact_literal _).lossless
    · exact (exact_id fmt).lossless
    · exact exact_sha256.lossless
    · exact (exact_id fmt).lossless
    · exact (exact_enum _).lossless

/-- `trimmedText` accepts strings and returns them trimmed. -/
theorem trimmedText_ok {n : Nat} {v w : JsVal} (h : trimmedText n v = .ok w) :
    ∃ s, v = .str s ∧ w = .str (Js.trim s) := by
  obtain ⟨s, rfl⟩ := string_ok h
  obtain ⟨t, ht, h⟩ := string_cons_ok h
  obtain ⟨u, hu, h⟩ := string_cons_ok h
  obtain ⟨r, hr, h⟩ := string_cons_ok h
  have htrim : t = Js.trim s := (Except.ok.inj ht).symm
  rw [minLength_ok hu] at hr
  rw [maxLength_ok hr, htrim] at h
  exact ⟨s, rfl, (Except.ok.inj h).symm⟩

/-! ## What they return again -/

theorem stable_trimmedText (n : Nat) : Stable (trimmedText n) := by
  refine stable_trimmed fun c hc s t h => ?_
  simp only [List.mem_cons, List.not_mem_nil, or_false] at hc
  rcases hc with rfl | rfl
  · exact minLength_ok h
  · exact maxLength_ok h

theorem identifiedActor_options {p : String × Schema}
    (hp : p ∈ [identifiedActor fmt "inspector", identifiedActor fmt "administrator",
      identifiedActor fmt "client", identifiedActor fmt "recipient",
      identifiedActor fmt "access_contact", identifiedActor fmt "provider"]) :
    ∃ type, type ≠ "system" ∧ p = identifiedActor fmt type := by
  simp only [List.mem_cons, List.not_mem_nil, or_false] at hp
  rcases hp with rfl | rfl | rfl | rfl | rfl | rfl <;> exact ⟨_, by decide, rfl⟩

/-- What an identified actor's schema returns is of its type. -/
theorem identifiedActor_type {type : String} {v w : JsVal}
    (h : (identifiedActor fmt type).2 v = .ok w) :
    w.str? "type" = v.str? "type" ∧ v.str? "type" = some type := by
  refine ⟨strictObject_str? (by simp) List.mem_cons_self (exact_literal type) h, ?_⟩
  obtain ⟨x, y, hx, -, hxy⟩ := strictObject_get (by simp) h (k := "type") List.mem_cons_self
  rw [JsVal.str?, hx, (literal_ok hxy).1]

/-- The tag and the identifier of an actor are returned as they are. -/
theorem exact_actorField {type : String} {a : String × Schema}
    (ha : a ∈ [("type", literal type), ("id", idSchema fmt)]) : Exact a.2 := by
  rcases List.mem_cons.mp ha with rfl | ha
  · exact exact_literal type
  · rw [List.mem_singleton.mp ha]
    exact exact_id fmt

theorem exact_systemField {a : String × Schema}
    (ha : a ∈ [("type", literal "system"), ("id", null)]) : Exact a.2 := by
  rcases List.mem_cons.mp ha with rfl | ha
  · exact exact_literal "system"
  · rw [List.mem_singleton.mp ha]
    exact exact_null

theorem stable_identifiedActor : Stable (identifiedActorSchema fmt) := by
  refine stable_discriminatedUnion ?_ ?_
  · intro p hp
    obtain ⟨type, -, rfl⟩ := identifiedActor_options fmt hp
    exact stable_strictObject (by simp) fun a ha => (exact_actorField fmt ha).stable
  · intro p hp v w h
    obtain ⟨type, -, rfl⟩ := identifiedActor_options fmt hp
    exact (identifiedActor_type fmt h).1

theorem stable_systemActor : Stable (strictObject [("type", literal "system"), ("id", null)]) :=
  stable_strictObject (by simp) fun _ ha => (exact_systemField ha).stable

theorem stable_actor : Stable (actorSchema fmt) := by
  -- an identified actor is never of type `system`, so the options do not overlap
  have identified : ∀ {v w : JsVal}, identifiedActorSchema fmt v = .ok w →
      w.str? "type" = v.str? "type" ∧ v.str? "type" ≠ some "system" := by
    intro v w h
    obtain ⟨tag, s, -, hs, hsv⟩ := discriminatedUnion_ok h
    obtain ⟨type, hne, heq⟩ := identifiedActor_options fmt hs
    have hactor : (identifiedActor fmt type).2 v = .ok w := by
      rw [← heq]
      exact hsv
    obtain ⟨hkeep, htype⟩ := identifiedActor_type fmt hactor
    exact ⟨hkeep, by rw [htype]; exact fun h => hne (Option.some.inj h)⟩
  have system : ∀ {v w : JsVal}, strictObject [("type", literal "system"), ("id", null)] v = .ok w →
      w.str? "type" = some "system" ∧ v.str? "type" = some "system" := by
    intro v w h
    obtain ⟨x, y, hx, hy, hxy⟩ := strictObject_get (by simp) h (k := "type") List.mem_cons_self
    obtain ⟨rfl, rfl⟩ := literal_ok hxy
    exact ⟨by rw [JsVal.str?, hy], by rw [JsVal.str?, hx]⟩
  refine stable_union ?_ ?_
  · intro s hs
    rcases List.mem_cons.mp hs with rfl | hs
    · exact stable_identifiedActor fmt
    · rw [List.mem_singleton.mp hs]
      exact stable_systemActor
  · intro s hs t ht v w u hsv htw
    rcases List.mem_cons.mp hs with rfl | hs
    · rcases List.mem_cons.mp ht with rfl | ht
      · rw [stable_identifiedActor fmt v w hsv] at htw
        exact (Except.ok.inj htw).symm
      · rw [List.mem_singleton.mp ht] at htw
        obtain ⟨hkeep, hne⟩ := identified hsv
        exact absurd (hkeep ▸ (system htw).2) hne
    · rw [List.mem_singleton.mp hs] at hsv
      rcases List.mem_cons.mp ht with rfl | ht
      · exact absurd (system hsv).1 (identified htw).2
      · rw [List.mem_singleton.mp ht, stable_systemActor v w hsv] at htw
        exact (Except.ok.inj htw).symm

theorem keepsPlain_actor : KeepsPlain (actorSchema fmt) := by
  refine keepsPlain_union fun s hs => ?_
  rcases List.mem_cons.mp hs with rfl | hs
  · refine keepsPlain_discriminatedUnion fun p hp => ?_
    obtain ⟨type, -, rfl⟩ := identifiedActor_options fmt hp
    exact keepsPlain_strictObject (by simp) (by simp) fun a ha => (exact_actorField fmt ha).keepsPlain
  · rw [List.mem_singleton.mp hs]
    exact keepsPlain_strictObject (by simp) (by simp) fun a ha => (exact_systemField ha).keepsPlain

/-- The two kinds of artifact references: strict objects of exact properties. -/
theorem artifactReference_option {p : String × Schema}
    (hp : p ∈ [("original", originalArtifactReferenceSchema fmt),
      ("derivative", derivativeArtifactReferenceSchema fmt)]) :
    ∃ f, p.2 = strictObject f ∧ ("kind", literal p.1) ∈ f ∧ (f.map Prod.fst).Nodup ∧
      "__proto__" ∉ f.map Prod.fst ∧ ∀ a ∈ f, Exact a.2 := by
  simp only [List.mem_cons, List.not_mem_nil, or_false] at hp
  rcases hp with rfl | rfl
  · refine ⟨_, rfl, List.mem_cons_self, by simp, by simp, fun a ha => ?_⟩
    simp only [List.mem_cons, List.not_mem_nil, or_false] at ha
    rcases ha with rfl | rfl | rfl
    · exact exact_literal _
    · exact exact_id fmt
    · exact exact_sha256
  · refine ⟨_, rfl, List.mem_cons_self, by simp, by simp, fun a ha => ?_⟩
    simp only [List.mem_cons, List.not_mem_nil, or_false] at ha
    rcases ha with rfl | rfl | rfl | rfl | rfl
    · exact exact_literal _
    · exact exact_id fmt
    · exact exact_sha256
    · exact exact_id fmt
    · exact exact_enum _

theorem stable_artifactReference : Stable (artifactReferenceSchema fmt) := by
  refine stable_discriminatedUnion ?_ ?_
  · intro p hp
    obtain ⟨f, hf, -, hnodup, -, hexact⟩ := artifactReference_option fmt hp
    rw [hf]
    exact stable_strictObject hnodup fun a ha => (hexact a ha).stable
  · intro p hp v w h
    obtain ⟨f, hf, hkind, hnodup, -, -⟩ := artifactReference_option fmt hp
    rw [hf] at h
    exact strictObject_str? hnodup hkind (exact_literal _) h

theorem keepsPlain_artifactReference : KeepsPlain (artifactReferenceSchema fmt) := by
  refine keepsPlain_discriminatedUnion fun p hp => ?_
  obtain ⟨f, hf, -, hnodup, hproto, hexact⟩ := artifactReference_option fmt hp
  rw [hf]
  exact keepsPlain_strictObject hnodup hproto fun a ha => (hexact a ha).keepsPlain

end InspectionHub.Contracts
