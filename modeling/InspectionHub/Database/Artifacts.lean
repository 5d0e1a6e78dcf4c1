import InspectionHub.Database.Modules

/-!
# Members, artifacts and what professional commands read of them

`organization_members` of `20260714000100_u2_primitives.sql`, `artifacts` and
`artifact_durability_receipts` of `20260714000200_u2_inspection_domain.sql`,
`professional_transition_receipts` of
`20260716000800_u10_trusted_transition_commands.sql`, and the predicates over
them that the commands share.
-/

namespace InspectionHub.Database

open Domain (ModuleType)

/-! ## Members -/

inductive MemberRole where
  | inspector | administrator | support | system
deriving DecidableEq

inductive MemberStatus where
  | invited | active | suspended | revoked
deriving DecidableEq

structure OrganizationMember where
  organizationId : Uuid
  actorId : Uuid
  memberRole : MemberRole
  status : MemberStatus

/-- `is_assigned_module_inspector(organization, module)` for the request's actor. -/
def isAssignedModuleInspector (modules : List InspectionModule)
    (members : List OrganizationMember) (actorId : Option Uuid) (organizationId moduleId : Uuid) :
    Bool :=
  modules.any fun m => members.any fun om =>
    om.organizationId = m.organizationId ∧ om.actorId = m.assignedInspectorActorId ∧
      m.organizationId = organizationId ∧ m.id = moduleId ∧
      actorId = some m.assignedInspectorActorId ∧ om.memberRole = .inspector ∧ om.status = .active

/-! ## Artifacts -/

inductive ArtifactKind where
  | photo | audio | document | structured_json | rendered_pdf | safe_proxy
deriving DecidableEq

def ArtifactKind.ofText? : String → Option ArtifactKind
  | "photo" => some .photo
  | "audio" => some .audio
  | "document" => some .document
  | "structured_json" => some .structured_json
  | "rendered_pdf" => some .rendered_pdf
  | "safe_proxy" => some .safe_proxy
  | _ => none

inductive QuarantineState where
  | pending | accepted | rejected | quarantined
deriving DecidableEq

structure Artifact where
  id : Uuid
  organizationId : Uuid
  jobId : Uuid
  captureId : Uuid
  captureSequence : Int
  artifactKind : ArtifactKind
  contentSha256 : String
  byteSize : Int
  mediaType : String
  storageKey : String
  captureArea : Option String
  capturedAt : Int
  deviceId : Option Uuid
  quarantineState : QuarantineState
deriving DecidableEq

/-- `primary key (id)`, `unique (organization_id, capture_id)`,
`unique (organization_id, storage_key)` -/
def Artifact.clash (a b : Artifact) : Prop :=
  a.id = b.id ∨ (a.organizationId = b.organizationId ∧ a.captureId = b.captureId) ∨
    (a.organizationId = b.organizationId ∧ a.storageKey = b.storageKey)

structure ArtifactDurabilityReceipt where
  organizationId : Uuid
  artifactId : Uuid
  objectVersion : String
  observedSha256 : String
  observedByteSize : Int
deriving DecidableEq

/-- `unique (organization_id, artifact_id, object_version)` -/
def ArtifactDurabilityReceipt.clash (a b : ArtifactDurabilityReceipt) : Prop :=
  a.organizationId = b.organizationId ∧ a.artifactId = b.artifactId ∧
    a.objectVersion = b.objectVersion

instance : DecidableRel Artifact.clash := fun _ _ => inferInstanceAs (Decidable (_ ∨ _))
instance : DecidableRel ArtifactDurabilityReceipt.clash :=
  fun _ _ => inferInstanceAs (Decidable (_ ∧ _))

/-- The artifact of the job whose receipt observed its hash and size. -/
def isDurable (artifacts : List Artifact) (receipts : List ArtifactDurabilityReceipt)
    (id organizationId jobId : Uuid) : Bool :=
  artifacts.any fun artifact => receipts.any fun receipt =>
    receipt.artifactId = artifact.id ∧ receipt.organizationId = artifact.organizationId ∧
      receipt.observedSha256 = artifact.contentSha256 ∧
      receipt.observedByteSize = artifact.byteSize ∧ artifact.id = id ∧
      artifact.organizationId = organizationId ∧ artifact.jobId = jobId

/-! ## Receipts -/

inductive ProfessionalCommand where
  | append_finding_version | create_module_snapshot
deriving DecidableEq

structure ProfessionalTransitionReceipt where
  organizationId : Uuid
  actorId : Uuid
  commandName : ProfessionalCommand
  idempotencyKeySha256 : String
  requestFingerprintSha256 : String
  resultRecordId : Uuid
deriving DecidableEq

/-- `unique (organization_id, command_name, idempotency_key_sha256)` -/
def ProfessionalTransitionReceipt.clash (a b : ProfessionalTransitionReceipt) : Prop :=
  a.organizationId = b.organizationId ∧ a.commandName = b.commandName ∧
    a.idempotencyKeySha256 = b.idempotencyKeySha256

instance : DecidableRel ProfessionalTransitionReceipt.clash :=
  fun _ _ => inferInstanceAs (Decidable (_ ∧ _))

abbrev ReceiptTable :=
  Sql.Table ProfessionalTransitionReceipt ProfessionalTransitionReceipt.clash

/-- The receipt under a key. -/
def ReceiptTable.prior? (t : ReceiptTable) (organizationId : Uuid)
    (commandName : ProfessionalCommand) (idempotencySha : String) :
    Option ProfessionalTransitionReceipt :=
  t.rows.find? fun receipt => receipt.organizationId = organizationId ∧
    receipt.commandName = commandName ∧ receipt.idempotencyKeySha256 = idempotencySha

variable {t : ReceiptTable}

/-- A key has one receipt. -/
theorem ReceiptTable.unique {a b : ProfessionalTransitionReceipt} (ha : a ∈ t.rows)
    (hb : b ∈ t.rows) (h : a.clash b) : a = b := by
  refine t.eq_of_key (f := fun r => (r.organizationId, r.commandName, r.idempotencyKeySha256))
    ?_ ha hb ?_
  · intro a b hab
    simp only [Prod.mk.injEq] at hab
    exact hab
  · rw [h.1, h.2.1, h.2.2]

/-- A receipt that is there is the one found under its key. -/
theorem ReceiptTable.prior?_of_mem {receipt : ProfessionalTransitionReceipt}
    (h : receipt ∈ t.rows) :
    t.prior? receipt.organizationId receipt.commandName receipt.idempotencyKeySha256 =
      some receipt := by
  cases hfind : t.prior? receipt.organizationId receipt.commandName
      receipt.idempotencyKeySha256 with
  | none =>
      have hnone := List.find?_eq_none.mp hfind receipt h
      exact absurd (decide_eq_true ⟨rfl, rfl, rfl⟩) hnone
  | some found =>
      have hkey := List.find?_some hfind
      have heq := of_decide_eq_true hkey
      rw [ReceiptTable.unique (List.mem_of_find?_eq_some hfind) h heq]

theorem ReceiptTable.prior?_some {organizationId : Uuid} {commandName : ProfessionalCommand}
    {idempotencySha : String} {receipt : ProfessionalTransitionReceipt}
    (h : t.prior? organizationId commandName idempotencySha = some receipt) :
    receipt ∈ t.rows ∧ receipt.organizationId = organizationId ∧
      receipt.commandName = commandName ∧ receipt.idempotencyKeySha256 = idempotencySha := by
  have hkey := List.find?_some h
  exact ⟨List.mem_of_find?_eq_some h, of_decide_eq_true hkey⟩

end InspectionHub.Database
