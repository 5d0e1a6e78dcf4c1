import InspectionHub.Domain.Snapshots

/-!
# Signed agreements

The snapshot of a signed pre-inspection agreement, and the check that it
carries the hash of its own content (`packages/agreements`).
-/

namespace InspectionHub.Agreements

open Schema Contracts

/-- What the packages that meet e-mail addresses take from outside. -/
structure Env extends toDomain : Domain.Env where
  /-- `z.email()`. -/
  email : String → Bool

variable (env : Env)

def emailSchema : Schema := string [satisfies env.email none]

/-- `z.literal(true)`. -/
def literalTrue : Schema
  | .bool true => .ok (.bool true)
  | _ => reject

def agreementSignerSnapshotSchema : Schema :=
  strictObject
    [("assignmentId", idSchema env.formats), ("contactId", idSchema env.formats),
      ("name", trimmedText 200), ("email", emailSchema env)]

def signedAgreementScopeSectionSchema : Schema :=
  strictObject
    [("module", moduleTypeSchema), ("heading", trimmedText 300), ("body", trimmedText 20000)]

def oneOrTwo : Nat → Bool := fun n => 1 ≤ n && n ≤ 2

def signedAgreementSnapshotFields : List (String × Schema) :=
  [("agreementId", idSchema env.formats), ("bookingId", idSchema env.formats),
    ("organizationId", idSchema env.formats), ("templateId", idSchema env.formats),
    ("templateVersion", int positive), ("templateTitle", trimmedText 300),
    ("introductoryText", trimmedText 20000),
    ("commissionedModules", commissionedModulesSchema),
    ("scopeSections", array signedAgreementScopeSectionSchema oneOrTwo),
    ("acknowledgementText", trimmedText 4000), ("acknowledgementAccepted", literalTrue),
    ("signer", agreementSignerSnapshotSchema env), ("typedName", trimmedText 200),
    ("signatureMethod", literal "typed_name_and_acknowledgement"),
    ("signedAt", timestampSchema env.formats)]

def signedAgreementSnapshotInputSchema : Schema := strictObject (signedAgreementSnapshotFields env)

def signedAgreementSnapshotSchema : Schema :=
  strictObject
    (signedAgreementSnapshotFields env ++ [("canonicalHash", string [satisfies Js.isHexDigest none])])

/-- `verifySignedAgreementSnapshot(snapshot)`. -/
def verifySignedAgreementSnapshot (snapshot : JsVal) : Parsed Bool := do
  let parsed ← signedAgreementSnapshotSchema env snapshot
  let snapshotInput ← signedAgreementSnapshotInputSchema env
    (.obj (parsed.fields.erase "canonicalHash"))
  return some (Domain.sha256 env.toDomain snapshotInput) = parsed.str? "canonicalHash"

variable {env} in
theorem verifySignedAgreementSnapshot_of {snapshot parsed snapshotInput : JsVal}
    (hparsed : signedAgreementSnapshotSchema env snapshot = .ok parsed)
    (hinput : signedAgreementSnapshotInputSchema env (.obj (parsed.fields.erase "canonicalHash")) =
      .ok snapshotInput)
    (hhash : parsed.str? "canonicalHash" = some (Domain.sha256 env.toDomain snapshotInput)) :
    verifySignedAgreementSnapshot env snapshot = .ok true := by
  unfold verifySignedAgreementSnapshot
  rw [hparsed]
  show (signedAgreementSnapshotInputSchema env (.obj (parsed.fields.erase "canonicalHash")) >>=
    fun w => Except.ok (decide (some (Domain.sha256 env.toDomain w) = _))) = _
  rw [hinput, hhash]
  show Except.ok (decide (_ = _)) = _
  rw [decide_eq_true rfl]

/-! ## What they keep -/

theorem stable_satisfies (p : String → Bool) (m : Option String) :
    Stable (string [satisfies p m]) := (exact_satisfies p m).stable

theorem exact_literalTrue : Exact literalTrue := by
  intro v w h
  unfold literalTrue at h
  split at h
  · exact (Except.ok.inj h).symm
  · cases h

theorem stable_signer : Stable (agreementSignerSnapshotSchema env) := by
  refine stable_strictObject (by simp) ?_
  simp only [List.forall_mem_cons]
  exact ⟨stable_satisfies _ _, stable_satisfies _ _, stable_trimmedText _, stable_satisfies _ _,
    List.forall_mem_nil _⟩

theorem stable_scopeSection : Stable signedAgreementScopeSectionSchema := by
  refine stable_strictObject (by simp) ?_
  simp only [List.forall_mem_cons]
  exact ⟨(exact_enum _).stable, stable_trimmedText _, stable_trimmedText _,
    List.forall_mem_nil _⟩

theorem stable_signedAgreementSnapshot : Stable (signedAgreementSnapshotSchema env) := by
  refine stable_strictObject (by simp [signedAgreementSnapshotFields]) ?_
  simp only [signedAgreementSnapshotFields, List.cons_append, List.nil_append,
    List.forall_mem_cons]
  have hid := (exact_id env.formats).stable
  exact ⟨hid, hid, hid, hid, (exact_int _).stable, stable_trimmedText _, stable_trimmedText _,
    exact_commissionedModules.stable, stable_array stable_scopeSection _, stable_trimmedText _,
    exact_literalTrue.stable, stable_signer env, stable_trimmedText _, (exact_literal _).stable,
    (exact_timestamp _).stable, stable_satisfies _ _,
    List.forall_mem_nil _⟩

end InspectionHub.Agreements
