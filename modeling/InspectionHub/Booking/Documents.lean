import InspectionHub.Agreements.Snapshots

/-!
# Quotes and booking inputs

The documents a booking preserves: the quote, and the input snapshot with the
property and the participants. They stay JSON; the workflow reads a few of
their properties and parses them again at every step.
-/

namespace InspectionHub.Booking

open Schema Contracts
open Agreements hiding Env

/-- What the booking package takes from outside. -/
structure Env extends toAgreements : Agreements.Env where
  /-- `Date.parse`; `none` is `NaN`. -/
  dateParse : String → Option Int

variable (env : Env)

/-- `/^\d{4}$/u`. -/
def isPostcode (s : String) : Bool :=
  s.toList.length = 4 && s.toList.all fun c => '0' ≤ c && c ≤ '9'

def postcodeSchema : Schema := string [satisfies isPostcode none]

def between (a b : Int) : Int → Bool := fun n => a ≤ n && n ≤ b

def propertyQuoteInputSchema : Schema :=
  strictObject
    [("propertyType", enum ["detached_house", "duplex", "townhouse", "unit"]),
      ("storeys", int (between 1 4)), ("bedrooms", int (between 0 20)),
      ("suburb", trimmedText 120), ("postcode", postcodeSchema)]

def quoteLineItemSchema : Schema :=
  strictObject
    [("module", moduleTypeSchema), ("label", trimmedText 200), ("amountCents", int nonnegative)]

/-- The elements of the array under `k`. -/
def itemsAt (v : JsVal) (k : String) : List JsVal :=
  match v.get? k with
  | some (.arr l) => l
  | _ => []

/-- `commissionedModules.join(",")`. -/
def joinedModules (v : JsVal) : String :=
  ",".intercalate ((itemsAt v "commissionedModules").map fun m =>
    match m with
    | .str s => s
    | _ => "")

def lineItemModules (quote : JsVal) : String :=
  ",".intercalate ((itemsAt quote "lineItems").map fun item => (item.str? "module").getD "")

def lineItemTotal (quote : JsVal) : Int :=
  ((itemsAt quote "lineItems").map fun item => (item.int? "amountCents").getD 0).sum

/-- The refinement of a quote. -/
def quoteIssues (quote : JsVal) : List Issue :=
  (if lineItemModules quote = joinedModules quote then []
    else [⟨[.name "lineItems"], some "Quote line items must exactly match commissioned modules"⟩]) ++
  (if some (lineItemTotal quote) = quote.int? "totalAmountCents" then []
    else [⟨[.name "totalAmountCents"],
      some "Quote total must equal the sum of its module line items"⟩])

def quoteFieldsSchema : Schema :=
  strictObject
    [("quoteId", idSchema env.formats), ("ruleSetId", idSchema env.formats),
      ("ruleVersion", int positive), ("commissionedModules", commissionedModulesSchema),
      ("property", propertyQuoteInputSchema), ("currency", literal "AUD"),
      ("lineItems", array quoteLineItemSchema oneOrTwo), ("totalAmountCents", int nonnegative),
      ("createdAt", timestampSchema env.formats), ("expiresAt", timestampSchema env.formats)]

def quoteSnapshotSchema : Schema := superRefine (quoteFieldsSchema env) quoteIssues

def contactSnapshotSchema : Schema :=
  strictObject
    [("contactId", idSchema env.formats), ("name", trimmedText 200),
      ("email", emailSchema env.toAgreements), ("phone", string [trim, minLength 7, maxLength 30])]

def contactRoleAssignmentSchema : Schema :=
  strictObject
    [("assignmentId", idSchema env.formats), ("contact", contactSnapshotSchema env)]

def assignedInspectorSchema : Schema :=
  strictObject
    [("inspectorId", idSchema env.formats), ("displayName", trimmedText 200),
      ("credentialVersion", trimmedText 200)]

/-- The refinement of the participants. -/
def participantsIssues (participants : JsVal) : List Issue :=
  let assignmentIds := ["client", "reportRecipient", "invoiceContact", "accessContact"].map
    fun role => participants.strAt? [role, "assignmentId"]
  if assignmentIds.Nodup then []
  else [⟨[], some "Every participant role requires its own assignment record"⟩]

def bookingParticipantsSchema : Schema :=
  superRefine
    (strictObject
      [("client", contactRoleAssignmentSchema env),
        ("reportRecipient", contactRoleAssignmentSchema env),
        ("invoiceContact", contactRoleAssignmentSchema env),
        ("accessContact", contactRoleAssignmentSchema env),
        ("assignedInspector", assignedInspectorSchema env)])
    participantsIssues

def propertySnapshotSchema : Schema :=
  strictObject
    [("propertyId", idSchema env.formats), ("addressLine1", trimmedText 300),
      ("suburb", trimmedText 120), ("state", literal "QLD"), ("postcode", postcodeSchema),
      ("accessNotes", string [trim, maxLength 4000])]

def bookingInputSnapshotSchema : Schema :=
  strictObject
    [("quote", quoteSnapshotSchema env), ("property", propertySnapshotSchema env),
      ("participants", bookingParticipantsSchema env),
      ("capturedAt", timestampSchema env.formats)]

/-! ## Parsing them again -/

theorem stable_quoteSnapshot : Stable (quoteSnapshotSchema env) := by
  have hid := (exact_id env.formats).stable
  have hat := (exact_timestamp env.formats).stable
  have hproperty : Stable propertyQuoteInputSchema := by
    refine stable_strictObject (by simp) ?_
    simp only [List.forall_mem_cons]
    exact ⟨(exact_enum _).stable, (exact_int _).stable, (exact_int _).stable,
      stable_trimmedText _, stable_satisfies _ _, List.forall_mem_nil _⟩
  have hitem : Stable quoteLineItemSchema := by
    refine stable_strictObject (by simp) ?_
    simp only [List.forall_mem_cons]
    exact ⟨(exact_enum _).stable, stable_trimmedText _, (exact_int _).stable,
      List.forall_mem_nil _⟩
  refine stable_superRefine (stable_strictObject (by simp) ?_) _
  simp only [List.forall_mem_cons]
  exact ⟨hid, hid, (exact_int _).stable, exact_commissionedModules.stable, hproperty,
    (exact_literal _).stable, stable_array hitem _, (exact_int _).stable, hat, hat,
    List.forall_mem_nil _⟩

theorem stable_contactRoleAssignment : Stable (contactRoleAssignmentSchema env) := by
  have hid := (exact_id env.formats).stable
  have hphone : Stable (string [trim, minLength 7, maxLength 30]) := by
    refine stable_trimmed fun c hc s t h => ?_
    simp only [List.mem_cons, List.not_mem_nil, or_false] at hc
    rcases hc with rfl | rfl
    · exact minLength_ok h
    · exact maxLength_ok h
  have hcontact : Stable (contactSnapshotSchema env) := by
    refine stable_strictObject (by simp) ?_
    simp only [List.forall_mem_cons]
    exact ⟨hid, stable_trimmedText _, stable_satisfies _ _, hphone, List.forall_mem_nil _⟩
  refine stable_strictObject (by simp) ?_
  simp only [List.forall_mem_cons]
  exact ⟨hid, hcontact, List.forall_mem_nil _⟩

theorem stable_bookingParticipants : Stable (bookingParticipantsSchema env) := by
  have hrole := stable_contactRoleAssignment env
  have hinspector : Stable (assignedInspectorSchema env) := by
    refine stable_strictObject (by simp) ?_
    simp only [List.forall_mem_cons]
    exact ⟨(exact_id env.formats).stable, stable_trimmedText _, stable_trimmedText _,
      List.forall_mem_nil _⟩
  refine stable_superRefine (stable_strictObject (by simp) ?_) _
  simp only [List.forall_mem_cons]
  exact ⟨hrole, hrole, hrole, hrole, hinspector, List.forall_mem_nil _⟩

theorem stable_propertySnapshot : Stable (propertySnapshotSchema env) := by
  have hnotes : Stable (string [trim, maxLength 4000]) := by
    refine stable_trimmed fun c hc s t h => ?_
    rw [List.mem_singleton.mp hc] at h
    exact maxLength_ok h
  refine stable_strictObject (by simp) ?_
  simp only [List.forall_mem_cons]
  exact ⟨(exact_id env.formats).stable, stable_trimmedText _, stable_trimmedText _,
    (exact_literal _).stable, stable_satisfies _ _, hnotes, List.forall_mem_nil _⟩

theorem stable_bookingInputSnapshot : Stable (bookingInputSnapshotSchema env) := by
  refine stable_strictObject (by simp) ?_
  simp only [List.forall_mem_cons]
  exact ⟨stable_quoteSnapshot env, stable_propertySnapshot env, stable_bookingParticipants env,
    (exact_timestamp env.formats).stable, List.forall_mem_nil _⟩

end InspectionHub.Booking
