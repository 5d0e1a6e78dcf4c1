import InspectionHub.Agreements.Snapshots
import InspectionHub.Contracts.Events
import InspectionHub.Domain.DeliveryPackages
import InspectionHub.Lib.Digest
import InspectionHub.Lib.Throwing

/-!
# Signing an agreement

What `signAgreement` of `packages/agreements/src/agreement.ts` makes of a
template version, and how much of a stored agreement its hash answers for:
verification hashes what the schema makes of the stored texts, and that is
without the white space around them.
-/

namespace InspectionHub.Agreements

open Schema Contracts

/-! ## Templates -/

def agreementScopeSectionSchema : Schema :=
  strictObject [("heading", trimmedText 300), ("body", trimmedText 20000)]

def agreementTemplateVersionSchema (env : Env) : Schema :=
  strictObject
    [("templateId", idSchema env.formats), ("version", int positive),
      ("status", enum ["draft", "published", "retired"]),
      ("publishedAt", nullable (timestampSchema env.formats)), ("title", trimmedText 300),
      ("introductoryText", trimmedText 20000),
      ("building", nullable agreementScopeSectionSchema),
      ("timberPest", nullable agreementScopeSectionSchema),
      ("acknowledgementText", trimmedText 4000)]

structure AgreementSigner where
  assignmentId : String
  contactId : String
  name : String
  email : String

def AgreementSigner.val (signer : AgreementSigner) : JsVal :=
  .obj [("assignmentId", .str signer.assignmentId), ("contactId", .str signer.contactId),
    ("name", .str signer.name), ("email", .str signer.email)]

structure SignAgreementInput where
  agreementId : String
  bookingId : String
  organizationId : String
  template : JsVal
  commissionedModules : Domain.CommissionedModules
  signer : AgreementSigner
  typedName : String
  signedAt : String

inductive SigningError where
  | schema (issues : List Issue)
  /-- A plain `Error`. -/
  | other (message : String)
deriving DecidableEq

abbrev Signing (α : Type) := Except SigningError α

def parse {α : Type} (r : Parsed α) : Signing α := r.mapError .schema

/-! ## Signing -/

/-- The section a template has for a module. -/
def templateSection (template : JsVal) : Domain.ModuleType → Option JsVal
  | .building => template.get? "building"
  | .timber_pest => template.get? "timberPest"

def missingScope : Domain.ModuleType → String
  | .building => "The Building scope is required for this agreement"
  | .timber_pest => "The Timber Pest scope is required for this agreement"

/-- `{ module, ...section }` -/
def scopeSection (template : JsVal) (module : Domain.ModuleType) : Signing JsVal :=
  match templateSection template module with
  | some .null => .error (.other (missingScope module))
  | entry => .ok (.obj (Fields.spread [("module", .str module.text)]
      (entry.elim [] JsVal.fields)))

/-- `{ ...snapshotInput, canonicalHash }` -/
def withHash (snapshotInput : JsVal) (hash : String) : JsVal :=
  .obj (snapshotInput.fields.assign "canonicalHash" (.str hash))

def commissionedVal (modules : Domain.CommissionedModules) : JsVal :=
  .arr (modules.modules.map fun module => .str module.text)

/-- The properties of the template a snapshot repeats. -/
def copied (template : JsVal) (key : String) : JsVal := (template.get? key).getD .null

def snapshotContent (input : SignAgreementInput) (template : JsVal) (scopeSections : List JsVal) :
    JsVal :=
  .obj [("agreementId", .str input.agreementId), ("bookingId", .str input.bookingId),
    ("organizationId", .str input.organizationId), ("templateId", copied template "templateId"),
    ("templateVersion", copied template "version"), ("templateTitle", copied template "title"),
    ("introductoryText", copied template "introductoryText"),
    ("commissionedModules", commissionedVal input.commissionedModules),
    ("scopeSections", .arr scopeSections),
    ("acknowledgementText", copied template "acknowledgementText"),
    ("acknowledgementAccepted", .bool true), ("signer", input.signer.val),
    ("typedName", .str input.typedName),
    ("signatureMethod", .str "typed_name_and_acknowledgement"),
    ("signedAt", .str input.signedAt)]

variable (env : Env)

def signAgreement (input : SignAgreementInput) : Signing JsVal := do
  let template ← parse (agreementTemplateVersionSchema env input.template)
  Throwing.throwIf
    (template.str? "status" ≠ some "published" ∨ template.get? "publishedAt" = some .null)
    (.other "Only a published agreement template version can be signed")
  Throwing.throwIf (Js.trim input.typedName ≠ Js.trim input.signer.name)
    (.other "The typed signature name must match the signer snapshot")
  let scopeSections ← input.commissionedModules.modules.mapM (scopeSection template)
  let snapshotInput ← parse (signedAgreementSnapshotInputSchema env
    (snapshotContent input template scopeSections))
  parse (signedAgreementSnapshotSchema env
    (withHash snapshotInput (Domain.sha256 env.toDomain snapshotInput)))

variable {env}

/-! ## What signing returns -/

theorem parse_ok {α : Type} {r : Parsed α} {a : α} (h : parse r = .ok a) : r = .ok a := by
  cases r with
  | error e => cases h
  | ok b =>
      cases h
      rfl

theorem nodup_fields : ((signedAgreementSnapshotFields env).map Prod.fst).Nodup := by
  simp [signedAgreementSnapshotFields]

theorem canonicalHash_not_field :
    "canonicalHash" ∉ (signedAgreementSnapshotFields env).map Prod.fst := by
  simp [signedAgreementSnapshotFields]

/-- The schema of the hash alone. -/
def hashField : List (String × Schema) :=
  [("canonicalHash", string [satisfies Js.isHexDigest none])]

theorem nodup_snapshotFields :
    ((signedAgreementSnapshotFields env ++ hashField).map Prod.fst).Nodup := by
  simp [signedAgreementSnapshotFields, hashField]

/-- Signing ends with a content that is its own parse, and its hash. -/
structure SignedAs (env : Env) (input : SignAgreementInput) (template : JsVal)
    (scopeSections : List JsVal) (content : Fields) (snapshot : JsVal) : Prop where
  accepted : agreementTemplateVersionSchema env input.template = .ok template
  sections : input.commissionedModules.modules.mapM (scopeSection template) = .ok scopeSections
  parsed : signedAgreementSnapshotInputSchema env (snapshotContent input template scopeSections) =
    .ok (.obj content)
  fits : Fits (signedAgreementSnapshotFields env) content
  written : snapshot =
    .obj (content ++ [("canonicalHash", .str (Domain.sha256 env.toDomain (.obj content)))])
  hash : Fits hashField [("canonicalHash", .str (Domain.sha256 env.toDomain (.obj content)))]

theorem stable_fields : ∀ a ∈ signedAgreementSnapshotFields env, Stable a.2 := by
  simp only [signedAgreementSnapshotFields, List.forall_mem_cons]
  have hid := (exact_id env.formats).stable
  exact ⟨hid, hid, hid, hid, (exact_int _).stable, stable_trimmedText _, stable_trimmedText _,
    exact_commissionedModules.stable, stable_array stable_scopeSection _, stable_trimmedText _,
    exact_literalTrue.stable, stable_signer env, stable_trimmedText _, (exact_literal _).stable,
    (exact_timestamp _).stable, List.forall_mem_nil _⟩

variable {input : SignAgreementInput}

theorem signAgreement_ok {snapshot : JsVal} (h : signAgreement env input = .ok snapshot) :
    ∃ template scopeSections content,
      SignedAs env input template scopeSections content snapshot := by
  obtain ⟨template, htemplate, h⟩ := Throwing.bind_ok h
  obtain ⟨_, -, h⟩ := Throwing.bind_ok h
  obtain ⟨_, -, h⟩ := Throwing.bind_ok h
  obtain ⟨scopeSections, hsections, h⟩ := Throwing.bind_ok h
  obtain ⟨snapshotInput, hinput, h⟩ := Throwing.bind_ok h
  have hparsed := parse_ok hinput
  have hsnapshot := parse_ok h
  obtain ⟨content, rfl, hfits⟩ := strictObject_fits stable_fields hparsed
  have hnew : "canonicalHash" ∉ Fields.keys content := by
    rw [hfits.keys]
    exact canonicalHash_not_field
  have hwith : withHash (.obj content) (Domain.sha256 env.toDomain (.obj content)) =
      .obj (content ++ [("canonicalHash", .str (Domain.sha256 env.toDomain (.obj content)))]) :=
    congrArg JsVal.obj (Fields.assign_new hnew _)
  rw [hwith] at hsnapshot
  have hkey : ("canonicalHash", string [satisfies Js.isHexDigest none]) ∈
      signedAgreementSnapshotFields env ++ hashField :=
    List.mem_append_right _ List.mem_cons_self
  obtain ⟨x, y, hx, -, hxy⟩ := strictObject_get nodup_snapshotFields hsnapshot hkey
  have hlookup : x = .str (Domain.sha256 env.toDomain (.obj content)) := by
    have hfound : (content ++ [("canonicalHash",
        JsVal.str (Domain.sha256 env.toDomain (.obj content)))]).lookup "canonicalHash" = some x :=
      hx
    rw [List.lookup_append, Fields.lookup_eq_none hnew] at hfound
    exact (Option.some.inj hfound).symm
  subst hlookup
  have hhash : Fits hashField
      [("canonicalHash", .str (Domain.sha256 env.toDomain (.obj content)))] :=
    .cons ⟨rfl, stable_satisfies _ _ _ _ (exact_satisfies _ _ _ _ hxy ▸ hxy)⟩ .nil
  rw [signedAgreementSnapshotSchema, show signedAgreementSnapshotFields env ++
    [("canonicalHash", string [satisfies Js.isHexDigest none])] =
      signedAgreementSnapshotFields env ++ hashField from rfl,
    (hfits.append hhash).strictObject nodup_snapshotFields] at hsnapshot
  exact ⟨template, scopeSections, content, parse_ok htemplate, hsections, hparsed, hfits,
    (Except.ok.inj hsnapshot).symm, hhash⟩

variable {key : String}

/-- Taking back what was put at the end. -/
theorem erase_appended {content : Fields} (hnew : key ∉ content.keys) (v : JsVal) :
    Fields.erase (content ++ [(key, v)]) key = content := by
  have hkept : content.filter (fun p => p.1 ≠ key) = content := by
    rw [List.filter_eq_self]
    intro p hp
    exact decide_eq_true fun heq => hnew (heq ▸ List.mem_map_of_mem hp)
  unfold Fields.erase
  rw [List.filter_append, hkept, List.filter_cons_of_neg (by simp), List.filter_nil,
    List.append_nil]

/-- The hash is the last property. -/
theorem get_canonicalHash {content : Fields}
    (hcontent : Fits (signedAgreementSnapshotFields env) content) (hash : String) :
    (JsVal.obj (content ++ [("canonicalHash", .str hash)])).str? "canonicalHash" = some hash ∧
      (JsVal.obj (content ++ [("canonicalHash", .str hash)])).fields.erase "canonicalHash" =
        content := by
  have hnew : "canonicalHash" ∉ Fields.keys content := by
    rw [hcontent.keys]
    exact canonicalHash_not_field
  refine ⟨?_, erase_appended hnew _⟩
  have hfound : (content ++ [("canonicalHash", JsVal.str hash)]).lookup "canonicalHash" =
      some (.str hash) := by
    rw [List.lookup_append, Fields.lookup_eq_none hnew]
    rfl
  rw [JsVal.str?, show JsVal.get? (.obj _) "canonicalHash" = _ from hfound]

theorem SignedAs.verified {template snapshot : JsVal} {scopeSections : List JsVal}
    {content : Fields} (h : SignedAs env input template scopeSections content snapshot) :
    verifySignedAgreementSnapshot env snapshot = .ok true := by
  have hparsed : signedAgreementSnapshotSchema env snapshot = .ok snapshot := by
    rw [h.written]
    exact (h.fits.append h.hash).strictObject nodup_snapshotFields
  obtain ⟨hstored, herase⟩ := get_canonicalHash h.fits (Domain.sha256 env.toDomain (.obj content))
  have hinput : signedAgreementSnapshotInputSchema env
      (.obj (snapshot.fields.erase "canonicalHash")) = .ok (.obj content) := by
    rw [h.written, herase]
    exact h.fits.strictObject nodup_fields
  refine verifySignedAgreementSnapshot_of hparsed hinput ?_
  rw [h.written]
  exact hstored

/-- There is one section for each commissioned module, in their order. -/
structure Covers (modules : List Domain.ModuleType) (snapshot : JsVal) : Prop where
  nodup : modules.Nodup
  commissioned : snapshot.get? "commissionedModules" =
    some (.arr (modules.map fun module => .str module.text))
  sections : (snapshot.elems "scopeSections").map (·.str? "module") =
    modules.map (some ·.text)

theorem lookup_spread {patch : Fields} (h : key ∉ patch.keys) (l : Fields) :
    (Fields.spread l patch).lookup key = l.lookup key := by
  induction patch generalizing l with
  | nil => rfl
  | cons p patch ih =>
      have hkeys : key ≠ p.1 ∧ key ∉ Fields.keys patch := by
        simpa only [Fields.keys, List.map_cons, List.mem_cons, not_or] using h
      change (Fields.spread (l.assign p.1 p.2) patch).lookup key = _
      rw [ih hkeys.2, Fields.lookup_assign, if_neg hkeys.1]

/-- A template's section is absent or has a heading and a body. -/
theorem keys_of_templateSection {given found : JsVal}
    (h : nullable agreementScopeSectionSchema given = .ok found) :
    found = .null ∨ Fields.keys found.fields = ["heading", "body"] := by
  unfold nullable at h
  split at h
  · exact .inl (Except.ok.inj h).symm
  · obtain ⟨l, r, -, rfl, -, hr⟩ := strictObject_ok h
    exact .inr (keys_of_shape hr)

theorem scopeSection_ok {given template entry : JsVal} {module : Domain.ModuleType}
    (htemplate : agreementTemplateVersionSchema env given = .ok template)
    (h : scopeSection template module = .ok entry) : entry.str? "module" = some module.text := by
  have hsection : ∃ found, templateSection template module = some found ∧
      (found = .null ∨ Fields.keys found.fields = ["heading", "body"]) := by
    have hget := fun {k s} => strictObject_get (by simp) htemplate (k := k) (s := s)
    cases module with
    | building =>
        obtain ⟨x, y, -, hy, hxy⟩ := @hget "building" (nullable agreementScopeSectionSchema)
          (by simp)
        exact ⟨y, hy, keys_of_templateSection hxy⟩
    | timber_pest =>
        obtain ⟨x, y, -, hy, hxy⟩ := @hget "timberPest" (nullable agreementScopeSectionSchema)
          (by simp)
        exact ⟨y, hy, keys_of_templateSection hxy⟩
  obtain ⟨found, hfound, hkeys⟩ := hsection
  unfold scopeSection at h
  rw [hfound] at h
  cases hkeys with
  | inl hnull =>
      rw [hnull] at h
      cases h
  | inr hkeys =>
      split at h
      · cases h
      · cases h
        have hmodule : "module" ∉ Fields.keys found.fields := by
          rw [hkeys]
          decide
        have hlookup := lookup_spread hmodule [("module", .str module.text)]
        rw [List.lookup_cons_self] at hlookup
        rw [JsVal.str?, Option.elim, show JsVal.get? (.obj _) "module" = _ from hlookup]

theorem nodup_modules (modules : Domain.CommissionedModules) : modules.modules.Nodup := by
  cases modules <;> decide

/-- Parsing a section keeps the module it names. -/
theorem section_module {given entry : JsVal}
    (h : signedAgreementScopeSectionSchema given = .ok entry) :
    entry.str? "module" = given.str? "module" :=
  strictObject_str? (by simp) List.mem_cons_self (exact_enum _) h

theorem mapM_forall₂ {ε α β : Type} {f : α → Except ε β} {l : List α} {r : List β}
    (h : l.mapM f = .ok r) : List.Forall₂ (fun a b => f a = .ok b) l r := by
  induction l generalizing r with
  | nil =>
      cases h
      exact .nil
  | cons a l ih =>
      rw [List.mapM_cons] at h
      obtain ⟨b, hb, h⟩ := Throwing.bind_ok h
      obtain ⟨r', hr, h⟩ := Throwing.bind_ok h
      cases h
      exact .cons hb (ih hr)

theorem map_eq_of_forall₂ {α β γ : Type} {R : α → β → Prop} {f : α → γ} {g : β → γ} {l : List α}
    {r : List β} (h : List.Forall₂ R l r) (hsame : ∀ a b, R a b → f a = g b) :
    l.map f = r.map g := by
  induction h with
  | nil => rfl
  | cons hab _ ih => rw [List.map_cons, List.map_cons, hsame _ _ hab, ih]

theorem SignedAs.covers {template snapshot : JsVal} {scopeSections : List JsVal}
    {content : Fields} (h : SignedAs env input template scopeSections content snapshot) :
    Covers input.commissionedModules.modules snapshot := by
  have hnew : "canonicalHash" ∉ Fields.keys content := by
    rw [h.fits.keys]
    exact canonicalHash_not_field
  have hget : ∀ key y, content.lookup key = some y → snapshot.get? key = some y := by
    intro key y hlookup
    rw [h.written]
    change (content ++ [_]).lookup key = _
    rw [List.lookup_append, hlookup]
    rfl
  refine ⟨nodup_modules _, ?_, ?_⟩
  · obtain ⟨x, y, hx, hy, hxy⟩ := strictObject_get nodup_fields h.parsed
      (show ("commissionedModules", commissionedModulesSchema) ∈ _ by
        simp [signedAgreementSnapshotFields])
    cases hx
    rw [hget _ y hy, exact_commissionedModules _ _ hxy]
    rfl
  · obtain ⟨x, y, hx, hy, hxy⟩ := strictObject_get nodup_fields h.parsed
      (show ("scopeSections", array signedAgreementScopeSectionSchema oneOrTwo) ∈ _ by
        simp [signedAgreementSnapshotFields])
    cases hx
    obtain ⟨l, stored, hl, rfl, -, hentries⟩ := array_ok hxy
    cases hl
    unfold JsVal.elems
    rw [hget _ _ hy]
    have hnamed : scopeSections.map (·.str? "module") =
        input.commissionedModules.modules.map (some ·.text) :=
      (map_eq_of_forall₂ (mapM_forall₂ h.sections) fun module entry hentry =>
        (scopeSection_ok h.accepted hentry).symm).symm
    rw [← hnamed]
    exact (map_eq_of_forall₂ hentries fun given entry hentry => (section_module hentry).symm).symm

/-! ## What the hash answers for -/

/-- The texts of a snapshot that its schema trims, its sections' apart. -/
def trimmedPaths : List (List String) :=
  [["templateTitle"], ["introductoryText"], ["acknowledgementText"], ["signer", "name"],
    ["typedName"]]

def sectionMargins (entry : JsVal) :
    Option (List Char × List Char) × Option (List Char × List Char) :=
  (marginsAt entry ["heading"], marginsAt entry ["body"])

/-- The white space around the stored texts that the schema trims. -/
def storedMargins (snapshot : JsVal) : List (Option (List Char × List Char)) ×
    List (Option (List Char × List Char) × Option (List Char × List Char)) :=
  (trimmedPaths.map (marginsAt snapshot), (snapshot.elems "scopeSections").map sectionMargins)

/-- What fits two shapes together is made of what fits each. -/
theorem fits_split {f g : List (String × Schema)} {q : Fields} (h : Fits (f ++ g) q) :
    ∃ front back, q = front ++ back ∧ Fits f front ∧ Fits g back := by
  induction f generalizing q with
  | nil => exact ⟨[], q, rfl, .nil, h⟩
  | cons a f ih =>
      cases h with
      | cons hp h =>
          obtain ⟨front, back, rfl, hfront, hback⟩ := ih h
          exact ⟨_ :: front, back, rfl, .cons hp hfront, hback⟩

/-- Verification parsed a snapshot to a content and the hash of it. -/
theorem verifySignedAgreementSnapshot_ok {snapshot : JsVal}
    (h : verifySignedAgreementSnapshot env snapshot = .ok true) :
    ∃ content, Fits (signedAgreementSnapshotFields env) content ∧
      signedAgreementSnapshotSchema env snapshot = .ok (.obj
        (content ++ [("canonicalHash", .str (Domain.sha256 env.toDomain (.obj content)))])) := by
  obtain ⟨parsed, hparsed, h⟩ := Throwing.bind_ok h
  obtain ⟨snapshotInput, hinput, h⟩ := Throwing.bind_ok h
  have hstable : ∀ a ∈ signedAgreementSnapshotFields env ++ hashField, Stable a.2 := by
    intro a ha
    rcases List.mem_append.mp ha with hfield | hhash
    · exact stable_fields a hfield
    · rw [List.mem_singleton.mp hhash]
      exact stable_satisfies _ _
  obtain ⟨q, rfl, hfits⟩ := strictObject_fits hstable hparsed
  obtain ⟨content, rest, rfl, hcontent, hrest⟩ := fits_split hfits
  obtain ⟨hash, rfl⟩ : ∃ hash, rest = [("canonicalHash", JsVal.str hash)] := by
    cases hrest with
    | @cons a p _ _ hp hnil =>
        cases hnil
        obtain ⟨key, value⟩ := p
        obtain ⟨hkey, hvalue⟩ := hp
        obtain ⟨hash, rfl⟩ := string_ok hvalue
        exact ⟨hash, by rw [show key = "canonicalHash" from hkey]⟩
  obtain ⟨hstored, herase⟩ := get_canonicalHash hcontent hash
  refine ⟨content, hcontent, ?_⟩
  have hself : signedAgreementSnapshotInputSchema env (.obj content) = .ok snapshotInput := by
    rw [← hinput, herase]
  have hsame : .obj content = snapshotInput :=
    Except.ok.inj ((hcontent.strictObject nodup_fields).symm.trans hself)
  have hhash := of_decide_eq_true (Except.ok.inj h)
  rw [hstored, ← hsame] at hhash
  rw [Option.some_inj.mp hhash]
  exact hparsed

/-! ## Two stored snapshots -/

theorem lossless_snapshotField {a : String × Schema}
    (ha : a ∈ signedAgreementSnapshotFields env ++ hashField)
    (hkey : a.1 ∉ ["templateTitle", "introductoryText", "acknowledgementText", "signer",
      "typedName", "scopeSections"]) : Lossless a.2 := by
  have hid := (exact_id env.formats).lossless
  simp only [signedAgreementSnapshotFields, hashField, List.mem_append, List.mem_cons,
    List.not_mem_nil, or_false] at ha
  rcases ha with (rfl | rfl | rfl | rfl | rfl | rfl | rfl | rfl | rfl | rfl | rfl | rfl | rfl |
    rfl | rfl) | rfl
  · exact hid
  · exact hid
  · exact hid
  · exact hid
  · exact (exact_int _).lossless
  · simp at hkey
  · simp at hkey
  · exact exact_commissionedModules.lossless
  · simp at hkey
  · simp at hkey
  · exact exact_literalTrue.lossless
  · simp at hkey
  · simp at hkey
  · exact (exact_literal _).lossless
  · exact (exact_timestamp _).lossless
  · exact (exact_satisfies _ _).lossless

/-- A trimmed property is stored the same when it has the same margins. -/
theorem trimmed_same {n : Nat} {a b x x' y y' : JsVal} (hx : a.get? key = some x)
    (hx' : b.get? key = some x') (hy : trimmedText n x = .ok y) (hy' : trimmedText n x' = .ok y')
    (hsame : Same y y') (hmargins : marginsAt a [key] = marginsAt b [key]) : Same x x' := by
  refine trimmedText_same hy hy' hsame ?_
  rintro s s' rfl rfl
  simpa [marginsAt, JsVal.strAt?, hx, hx', JsVal.str?] using hmargins

theorem section_same {a b x y : JsVal} (ha : a.plain = true) (hb : b.plain = true)
    (hx : signedAgreementScopeSectionSchema a = .ok x)
    (hy : signedAgreementScopeSectionSchema b = .ok y) (hsame : Same x y)
    (hheading : marginsAt a ["heading"] = marginsAt b ["heading"])
    (hbody : marginsAt a ["body"] = marginsAt b ["body"]) : Same a b := by
  refine strictObject_congr (by simp) ha hb hx hy hsame ?_
  intro p hp u u' z z' hu hu' huz huz' hzz
  rcases List.mem_cons.mp hp with rfl | hp
  · rw [← exact_enum _ _ _ huz, ← exact_enum _ _ _ huz']
    exact hzz
  rcases List.mem_cons.mp hp with rfl | hp
  · exact trimmed_same hu hu' huz huz' hzz hheading
  · obtain rfl := List.mem_singleton.mp hp
    exact trimmed_same hu hu' huz huz' hzz hbody

theorem signer_same {a b x y : JsVal} (ha : a.plain = true) (hb : b.plain = true)
    (hx : agreementSignerSnapshotSchema env a = .ok x)
    (hy : agreementSignerSnapshotSchema env b = .ok y) (hsame : Same x y)
    (hname : marginsAt a ["name"] = marginsAt b ["name"]) : Same a b := by
  refine strictObject_congr (by simp) ha hb hx hy hsame ?_
  intro p hp u u' z z' hu hu' huz huz' hzz
  have hexact : Exact p.2 → Same u u' := by
    intro hexact
    rw [← hexact _ _ huz, ← hexact _ _ huz']
    exact hzz
  simp only [List.mem_cons, List.not_mem_nil, or_false] at hp
  rcases hp with rfl | rfl | rfl | rfl
  · exact hexact (exact_id _)
  · exact hexact (exact_id _)
  · exact trimmed_same hu hu' huz huz' hzz hname
  · exact hexact (exact_satisfies _ _)

/-- Sections that were parsed to the same ones are the same when their margins are. -/
theorem sections_same {l l' r r' : List JsVal}
    (hl : ∀ v ∈ l, v.plain = true) (hl' : ∀ v ∈ l', v.plain = true)
    (h : List.Forall₂ (fun v w => signedAgreementScopeSectionSchema v = .ok w) l r)
    (h' : List.Forall₂ (fun v w => signedAgreementScopeSectionSchema v = .ok w) l' r')
    (hsame : r.map normalize = r'.map normalize)
    (hmargins : l.map sectionMargins = l'.map sectionMargins) :
    l.map normalize = l'.map normalize := by
  induction h generalizing l' r' with
  | nil =>
      cases h' with
      | nil => rfl
      | cons _ _ => cases hmargins
  | @cons a x l r hx _ ih =>
      cases h' with
      | nil => cases hmargins
      | @cons b y l' r' hy h' =>
          obtain ⟨hfirst, hrest⟩ := List.cons.inj hsame
          obtain ⟨hpair, hpairs⟩ := List.cons.inj hmargins
          obtain ⟨hheading, hbody⟩ := Prod.mk.inj hpair
          have hhead : Same a b := section_same (hl a List.mem_cons_self)
            (hl' b List.mem_cons_self) hx hy hfirst hheading hbody
          have htail := ih (fun v hv => hl v (List.mem_cons_of_mem a hv))
            (fun v hv => hl' v (List.mem_cons_of_mem b hv)) h' hrest hpairs
          exact congrArg₂ List.cons hhead htail

variable {a b : JsVal}

theorem marginsAt_of_same (h : Same a b) (ha : a.plain = true) (hb : b.plain = true)
    (path : List String) : marginsAt a path = marginsAt b path := by
  unfold marginsAt
  rw [h.strAt? ha hb]

theorem plain_elems {v : JsVal} (h : v.plain = true) (key : String) :
    ∀ x ∈ v.elems key, x.plain = true := by
  unfold JsVal.elems
  split
  · next l hl => exact JsVal.plain_arr (JsVal.plain_get? h hl)
  · exact nofun

/-- What is the same has the same elements. -/
theorem elems_of_same (h : Same a b) (ha : a.plain = true) (hb : b.plain = true) (key : String) :
    (a.elems key).map normalize = (b.elems key).map normalize := by
  have hget := h.get? (JsVal.keyed_of_plain ha) (JsVal.keyed_of_plain hb) key
  unfold JsVal.elems
  cases hx : a.get? key with
  | none =>
      rw [hx] at hget
      rw [Option.map_eq_none_iff.mp hget.symm]
  | some x =>
      rw [hx] at hget
      obtain ⟨y, hy, hxy⟩ := Option.map_eq_some_iff.mp hget.symm
      rw [hy]
      cases x <;> cases y <;> first | rfl | cases hxy | exact (normalize_arr_eq_iff _ _).mp hxy.symm

theorem sectionMargins_of_same {l l' : List JsVal} (hl : ∀ v ∈ l, v.plain = true)
    (hl' : ∀ v ∈ l', v.plain = true) (h : l.map normalize = l'.map normalize) :
    l.map sectionMargins = l'.map sectionMargins := by
  induction l generalizing l' with
  | nil =>
      cases l' with
      | nil => rfl
      | cons _ _ => cases h
  | cons a l ih =>
      cases l' with
      | nil => cases h
      | cons b l' =>
          obtain ⟨hfirst, hrest⟩ := List.cons.inj h
          have hsame : Same a b := hfirst
          have ha := hl a List.mem_cons_self
          have hb := hl' b List.mem_cons_self
          have hpair : sectionMargins a = sectionMargins b := by
            unfold sectionMargins
            rw [marginsAt_of_same hsame ha hb, marginsAt_of_same hsame ha hb]
          rw [List.map_cons, List.map_cons, hpair,
            ih (fun v hv => hl v (List.mem_cons_of_mem a hv))
              (fun v hv => hl' v (List.mem_cons_of_mem b hv)) hrest]

/-- What is the same has the same margins. -/
theorem storedMargins_of_same (h : Same a b) (ha : a.plain = true) (hb : b.plain = true) :
    storedMargins a = storedMargins b := by
  have hpaths : trimmedPaths.map (marginsAt a) = trimmedPaths.map (marginsAt b) :=
    List.map_inj_left.mpr fun path _ => marginsAt_of_same h ha hb path
  have hsections := sectionMargins_of_same (plain_elems ha "scopeSections")
    (plain_elems hb "scopeSections") (elems_of_same h ha hb "scopeSections")
  unfold storedMargins
  rw [hpaths, hsections]

/-- Snapshots that parse to the same value are the same exactly when they carry the same
white space around the texts that are trimmed. -/
theorem snapshot_same_iff {a b x y : JsVal} (ha : a.plain = true) (hb : b.plain = true)
    (hx : signedAgreementSnapshotSchema env a = .ok x)
    (hy : signedAgreementSnapshotSchema env b = .ok y) (hsame : Same x y) :
    Same a b ↔ storedMargins a = storedMargins b := by
  refine ⟨fun h => storedMargins_of_same h ha hb, fun hmargins => ?_⟩
  obtain ⟨hpaths, hsections⟩ := Prod.mk.inj hmargins
  have hpath : ∀ path ∈ trimmedPaths, marginsAt a path = marginsAt b path :=
    List.map_inj_left.mp hpaths
  refine strictObject_congr nodup_snapshotFields ha hb hx hy hsame ?_
  intro p hp u u' z z' hu hu' huz huz' hzz
  have hplain := JsVal.plain_get? ha hu
  have hplain' := JsVal.plain_get? hb hu'
  by_cases hkey : p.1 ∈ ["templateTitle", "introductoryText", "acknowledgementText", "signer",
      "typedName", "scopeSections"]
  · simp only [signedAgreementSnapshotFields, hashField, List.mem_append, List.mem_cons,
      List.not_mem_nil, or_false] at hp
    rcases hp with (rfl | rfl | rfl | rfl | rfl | rfl | rfl | rfl | rfl | rfl | rfl | rfl | rfl |
      rfl | rfl) | rfl
    case inl.inr.inr.inr.inr.inr.inl =>
      exact trimmed_same hu hu' huz huz' hzz (hpath _ (by simp [trimmedPaths]))
    case inl.inr.inr.inr.inr.inr.inr.inl =>
      exact trimmed_same hu hu' huz huz' hzz (hpath _ (by simp [trimmedPaths]))
    case inl.inr.inr.inr.inr.inr.inr.inr.inr.inl =>
      obtain ⟨l, r, rfl, rfl, -, hentries⟩ := array_ok huz
      obtain ⟨l', r', rfl, rfl, -, hentries'⟩ := array_ok huz'
      rw [show a.elems "scopeSections" = l by rw [JsVal.elems, hu],
        show b.elems "scopeSections" = l' by rw [JsVal.elems, hu']] at hsections
      exact (normalize_arr_eq_iff l l').mpr (sections_same (JsVal.plain_arr hplain)
        (JsVal.plain_arr hplain') hentries hentries' ((normalize_arr_eq_iff r r').mp hzz)
        hsections)
    case inl.inr.inr.inr.inr.inr.inr.inr.inr.inr.inl =>
      exact trimmed_same hu hu' huz huz' hzz (hpath _ (by simp [trimmedPaths]))
    case inl.inr.inr.inr.inr.inr.inr.inr.inr.inr.inr.inr.inl =>
      have hname := hpath ["signer", "name"] (by simp [trimmedPaths])
      refine signer_same hplain hplain' huz huz' hzz ?_
      simpa only [marginsAt, JsVal.strAt?, hu, hu', Option.bind_some] using hname
    case inl.inr.inr.inr.inr.inr.inr.inr.inr.inr.inr.inr.inr.inl =>
      exact trimmed_same hu hu' huz huz' hzz (hpath _ (by simp [trimmedPaths]))
    all_goals simp at hkey
  · have hless := lossless_snapshotField hp hkey
    exact ((hless u z hplain huz).symm.trans hzz).trans (hless u' z' hplain' huz')

/-- Under one hash there is one parsed snapshot. -/
theorem parsed_same (hinjective : Function.Injective env.digest)
    (ha : verifySignedAgreementSnapshot env a = .ok true)
    (hb : verifySignedAgreementSnapshot env b = .ok true)
    (hhash : a.str? "canonicalHash" = b.str? "canonicalHash") :
    ∃ x y, signedAgreementSnapshotSchema env a = .ok x ∧
      signedAgreementSnapshotSchema env b = .ok y ∧ Same x y := by
  obtain ⟨content, hcontent, hparsed⟩ := verifySignedAgreementSnapshot_ok ha
  obtain ⟨content', hcontent', hparsed'⟩ := verifySignedAgreementSnapshot_ok hb
  refine ⟨_, _, hparsed, hparsed', ?_⟩
  have hkey : ("canonicalHash", string [satisfies Js.isHexDigest none]) ∈
      signedAgreementSnapshotFields env ++ hashField :=
    List.mem_append_right _ List.mem_cons_self
  have hstored := strictObject_str? nodup_snapshotFields hkey (exact_satisfies _ _) hparsed
  have hstored' := strictObject_str? nodup_snapshotFields hkey (exact_satisfies _ _) hparsed'
  rw [(get_canonicalHash hcontent _).1] at hstored
  rw [(get_canonicalHash hcontent' _).1] at hstored'
  have hdigests : Domain.sha256 env.toDomain (.obj content) =
      Domain.sha256 env.toDomain (.obj content') :=
    Option.some_inj.mp (hstored.trans (hhash.trans hstored'.symm))
  have hsame : Same (.obj content) (.obj content') :=
    (canonicalJson_eq_iff _ _).mp (hinjective hdigests)
  have hnodup : ∀ {content : Fields}, Fits (signedAgreementSnapshotFields env) content →
      (Fields.keys content).Nodup := by
    intro content hfits
    rw [hfits.keys]
    exact nodup_fields
  have hnodup' : ∀ {content : Fields} (hash : String),
      Fits (signedAgreementSnapshotFields env) content →
      (Fields.keys (content ++ [("canonicalHash", .str hash)])).Nodup := by
    intro content hash hfits
    have hkeys : Fields.keys (content ++ [("canonicalHash", .str hash)]) =
        (signedAgreementSnapshotFields env ++ hashField).map Prod.fst := by
      rw [List.map_append, ← hfits.keys]
      exact List.map_append
    rw [hkeys]
    exact nodup_snapshotFields
  have hlookups := (normalize_obj_eq_iff (hnodup hcontent) (hnodup hcontent')).mp hsame
  refine (normalize_obj_eq_iff (hnodup' _ hcontent) (hnodup' _ hcontent')).mpr fun key => ?_
  have hlookup := hlookups key
  rw [List.lookup_append, List.lookup_append, hdigests]
  cases hx : content.lookup key with
  | none =>
      rw [hx] at hlookup
      rw [Option.map_eq_none_iff.mp hlookup.symm]
  | some x =>
      rw [hx] at hlookup
      obtain ⟨y, hy, hxy⟩ := Option.map_eq_some_iff.mp hlookup.symm
      rw [hy]
      exact congrArg some hxy.symm

/-- **What a signature binds.** What signing returns verifies and has one section for each
commissioned module. Two stored snapshots that verify under one hash are the same, field by
field, exactly when the texts the schema trims carry the same white space around them. -/
theorem signed_agreement_bound (hinjective : Function.Injective env.digest) :
    (∀ input snapshot, signAgreement env input = .ok snapshot →
      verifySignedAgreementSnapshot env snapshot = .ok true ∧
        Covers input.commissionedModules.modules snapshot) ∧
    ∀ a b : Document, verifySignedAgreementSnapshot env a.val = .ok true →
      verifySignedAgreementSnapshot env b.val = .ok true →
      a.val.str? "canonicalHash" = b.val.str? "canonicalHash" →
      (Same a.val b.val ↔ storedMargins a.val = storedMargins b.val) := by
  refine ⟨?_, ?_⟩
  · intro input snapshot hsigned
    obtain ⟨template, scopeSections, content, h⟩ := signAgreement_ok hsigned
    exact ⟨h.verified, h.covers⟩
  · intro a b ha hb hhash
    obtain ⟨x, y, hx, hy, hsame⟩ := parsed_same hinjective ha hb hhash
    exact snapshot_same_iff a.plain b.plain hx hy hsame

namespace Sample

def terms : JsVal :=
  .obj [("templateId", .str "terms"), ("version", (1 : Int)), ("status", .str "published"),
    ("publishedAt", .str "now"), ("title", .str "Agreement"),
    ("introductoryText", .str "Please read"),
    ("building", .obj [("heading", .str "Scope"), ("body", .str "A visual inspection")]),
    ("timberPest", .null), ("acknowledgementText", .str "I agree")]

def signing : SignAgreementInput where
  agreementId := "agreement"
  bookingId := "booking"
  organizationId := "org"
  template := terms
  commissionedModules := .building
  signer := ⟨"client", "contact", "Casey", "casey@example.test"⟩
  typedName := "Casey"
  signedAt := "now"

/-- What is signed, with the name as it is typed. -/
def content (typedName : String) : Fields :=
  [("agreementId", .str "agreement"), ("bookingId", .str "booking"),
    ("organizationId", .str "org"), ("templateId", .str "terms"), ("templateVersion", (1 : Int)),
    ("templateTitle", .str "Agreement"), ("introductoryText", .str "Please read"),
    ("commissionedModules", .arr [.str "building"]),
    ("scopeSections", .arr [.obj [("module", .str "building"), ("heading", .str "Scope"),
      ("body", .str "A visual inspection")]]),
    ("acknowledgementText", .str "I agree"), ("acknowledgementAccepted", .bool true),
    ("signer", .obj [("assignmentId", .str "client"), ("contactId", .str "contact"),
      ("name", .str "Casey"), ("email", .str "casey@example.test")]),
    ("typedName", .str typedName),
    ("signatureMethod", .str "typed_name_and_acknowledgement"), ("signedAt", .str "now")]

/-- The SHA-256 of the content's canonical text. -/
def hash : String :=
  hex64 0x84e60e0efe24494c6d3b0a2161e4e9643f4e3b2993724c626f33a828baa77670

def digests : List (String × String) := [(canonicalJson (.obj (content "Casey")), hash)]

def domain : Domain.Env where
  formats := ⟨fun _ => true, fun _ => true⟩
  digest := digestOf digests
  issuesText _ := ""
  toInteger _ := none

def host : Env := { domain with email := fun _ => true }

def stored (typedName : String) : Fields :=
  content typedName ++ [("canonicalHash", .str hash)]

def signed : Document := ⟨stored "Casey", by decide⟩

/-- The same with a blank before the typed name. -/
def padded : Document := ⟨stored " Casey", by decide⟩

theorem toDomain_host : host.toDomain = domain := rfl

theorem digest_domain : domain.digest = digestOf digests := by simp only [domain]

theorem digest_injective : Function.Injective host.digest := by
  rw [toDomain_host, digest_domain]
  exact digestOf_injective (List.nodup_singleton _) (by decide)


theorem sha256_content : Domain.sha256 host.toDomain (.obj (content "Casey")) = hash := by
  rw [toDomain_host, Domain.sha256, digest_domain, digests, digestOf_head]

theorem hash_stored (typedName : String) :
    (JsVal.obj (stored typedName)).str? "canonicalHash" = some hash := rfl

theorem schema_stored {typedName : String} (h : typedName = "Casey" ∨ typedName = " Casey") :
    signedAgreementSnapshotSchema host (.obj (stored typedName)) = .ok signed.val := by
  rcases h with rfl | rfl
  · rfl
  · rfl

theorem verified {typedName : String} (h : typedName = "Casey" ∨ typedName = " Casey") :
    verifySignedAgreementSnapshot host (.obj (stored typedName)) = .ok true := by
  refine verifySignedAgreementSnapshot_of (schema_stored h)
    (rfl : _ = Except.ok (JsVal.obj (content "Casey"))) ?_
  rw [sha256_content]
  rfl

theorem signs : signAgreement host signing = .ok signed.val := by
  have hhash : withHash (.obj (content "Casey"))
      (Domain.sha256 host.toDomain (.obj (content "Casey"))) = signed.val := by
    rw [sha256_content]
    rfl
  have hsections : signing.commissionedModules.modules.mapM (scopeSection terms) =
      .ok [.obj [("module", .str "building"), ("heading", .str "Scope"),
        ("body", .str "A visual inspection")]] := rfl
  have hinput : parse (signedAgreementSnapshotInputSchema host
      (snapshotContent signing terms [.obj [("module", .str "building"),
        ("heading", .str "Scope"), ("body", .str "A visual inspection")]])) =
      .ok (.obj (content "Casey")) := rfl
  have htemplate : parse (agreementTemplateVersionSchema host signing.template) = .ok terms := rfl
  unfold signAgreement
  rw [Throwing.bind_of htemplate,
    Throwing.bind_of (Throwing.throwIf_of (by decide) _),
    Throwing.bind_of (Throwing.throwIf_of (by decide) _), Throwing.bind_of hsections,
    Throwing.bind_of hinput, hhash]
  exact congrArg parse (schema_stored (.inl rfl))

theorem not_same : ¬ Same signed.val padded.val := by
  intro h
  have hname := h.str? (JsVal.keyed_of_plain signed.plain) (JsVal.keyed_of_plain padded.plain)
    "typedName"
  have hnames : "Casey" = " Casey" := Option.some.inj hname
  exact absurd hnames (by decide)

/-- A blank put before the signature's name verifies under the hash it was signed with. -/
theorem padding_verifies : Function.Injective host.digest ∧
    signAgreement host signing = .ok signed.val ∧
    verifySignedAgreementSnapshot host signed.val = .ok true ∧
    verifySignedAgreementSnapshot host padded.val = .ok true ∧
    signed.val.str? "canonicalHash" = padded.val.str? "canonicalHash" ∧
    ¬ Same signed.val padded.val :=
  ⟨digest_injective, signs, verified (.inl rfl), verified (.inr rfl),
    (hash_stored "Casey").trans (hash_stored " Casey").symm, not_same⟩

theorem signed_bound : (verifySignedAgreementSnapshot host signed.val = .ok true ∧
      Covers [.building] signed.val) ∧
    (Same signed.val padded.val ↔ storedMargins signed.val = storedMargins padded.val) := by
  obtain ⟨hsigning, hstored⟩ := @signed_agreement_bound host digest_injective
  exact ⟨hsigning signing signed.val signs,
    hstored signed padded (verified (.inl rfl)) (verified (.inr rfl))
      ((hash_stored "Casey").trans (hash_stored " Casey").symm)⟩

end Sample

end InspectionHub.Agreements
