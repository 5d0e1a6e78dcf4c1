import InspectionHub.Delivery.Repository

/-!
# Confirming a package

`DeliveryPackageService.confirm`: the durability manifest is checked outside
the transaction; inside it the exact approvals are resolved, the package is
written under the expected revision, and a queued one gets its send message.
-/

namespace InspectionHub.Delivery

/-! ## Durability manifests -/

def optionalText : Option String → JsVal
  | some s => .str s
  | none => .null

def DurabilityManifestEntry.json (e : DurabilityManifestEntry) : JsVal :=
  .obj [("artifactId", .str e.artifactId), ("contentHash", .str e.contentHash),
    ("byteLength", e.byteLength), ("requiredOriginal", .bool e.requiredOriginal),
    ("status", .str e.status.text), ("verifiedAt", optionalText e.verifiedAt)]

/-- `const { canonicalHash, ...input } = manifest`. -/
def DurabilityManifest.input (m : DurabilityManifest) : JsVal :=
  .obj [("manifestId", .str m.manifestId), ("organizationId", .str m.organizationId),
    ("jobId", .str m.jobId), ("revision", m.revision),
    ("entries", .arr (m.entries.map (·.json)))]

def isManifestSendable (manifest : DurabilityManifest) : Bool :=
  manifest.entries.all fun entry => !entry.requiredOriginal || entry.status = .verified

def verifyDurabilityManifest (env : Env) (manifest : DurabilityManifest) : Bool :=
  sha256 env manifest.input = manifest.canonicalHash

def manifestCoversEvidence (manifest : DurabilityManifest) (evidenceHashes : List String) : Bool :=
  let verifiedHashes := (manifest.entries.filter fun entry =>
    entry.requiredOriginal && entry.status = .verified).map (·.contentHash)
  evidenceHashes.all fun hash => hash ∈ verifiedHashes

/-! ## The command -/

structure ConfirmPackageCommand where
  packageId : String
  organizationId : String
  jobId : String
  commissionedModules : List ModuleType
  manifest : DurabilityManifest
  expectedPackageRevision : Int
  idempotencyKey : String
  confirmedAt : String
deriving DecidableEq

inductive ConfirmOutcome where
  | waitingForApproval | waitingForEvidence | queued
deriving DecidableEq, Repr

structure ConfirmPackageResult where
  package : DeliveryPackageRecord
  outcome : ConfirmOutcome
  blockers : List String
  replayed : Bool
deriving DecidableEq

def resultFor (value : DeliveryPackageRecord) (replayed : Bool) : ConfirmPackageResult :=
  let outcome : ConfirmOutcome :=
    match value.state with
    | .waitingForApproval => .waitingForApproval
    | .waitingForEvidence => .waitingForEvidence
    | _ => .queued
  { package := value
    outcome
    blockers := if outcome = .waitingForEvidence then ["required_evidence_not_durable"] else []
    replayed }

/-- The position of a module in the canonical order. -/
def canonicalIndex : ModuleType → Nat
  | .building => 0
  | .timberPest => 1

def increasing : List Nat → Bool
  | i :: j :: l => i < j && increasing (j :: l)
  | _ => true

def assertCanonicalModuleSet (modules : List ModuleType) : Except DeliveryError Unit :=
  if !decide modules.Nodup || !increasing (modules.map canonicalIndex) then
    .error (.gate "delivery_module_set_invalid"
      "Commissioned modules must be unique and in canonical order")
  else .ok ()

/-! ## Exact approvals -/

structure ExactApprovals where
  references : List FrozenModuleReference
  blockers : List String
  requiredEvidenceHashes : List String
deriving DecidableEq

def reference (snapshot : ModuleSnapshot) (approval : ApprovalRecord) : FrozenModuleReference :=
  { module := snapshot.module
    moduleId := snapshot.moduleId
    snapshotId := snapshot.snapshotId
    snapshotHash := snapshot.canonicalHash
    snapshotRevision := snapshot.revision
    approvalId := approval.approvalId
    approvalModuleRevision := approval.moduleRevision }

/-- One turn of the loop over the commissioned modules. -/
def resolveModule (readers : Readers) (command : ConfirmPackageCommand) (acc : ExactApprovals)
    (module : ModuleType) : Except DeliveryError ExactApprovals :=
  let key : ModuleSnapshotKey := ⟨command.organizationId, command.jobId, module⟩
  if readers.isWithdrawn key then
    .ok { acc with blockers := acc.blockers ++ [module.text ++ "_withdrawn"] }
  else
    match readers.getCurrent key, readers.getCurrentApproval key with
    | some snapshot, some approval =>
        if approval.snapshotId ≠ snapshot.snapshotId ∨
            approval.snapshotHash ≠ snapshot.canonicalHash ∨
            approval.snapshotRevision ≠ snapshot.revision then
          .error (.gate "delivery_snapshot_changed"
            (module.text ++ " approval is not for the exact current snapshot"))
        else
          .ok { acc with
            references := acc.references ++ [reference snapshot approval]
            requiredEvidenceHashes := snapshot.evidenceHashes.foldl
              (fun l hash => if hash ∈ l then l else l ++ [hash]) acc.requiredEvidenceHashes }
    | _, _ => .ok { acc with blockers := acc.blockers ++ [module.text ++ "_not_approved"] }

def resolveExactApprovals (readers : Readers) (command : ConfirmPackageCommand) :
    Except DeliveryError ExactApprovals :=
  command.commissionedModules.foldlM (resolveModule readers command) ⟨[], [], []⟩

/-! ## Confirm -/

variable (env : Env)

def confirmFingerprint (command : ConfirmPackageCommand) : String :=
  sha256 env (.obj [("packageId", .str command.packageId),
    ("organizationId", .str command.organizationId), ("jobId", .str command.jobId),
    ("commissionedModules", .arr (command.commissionedModules.map fun m => .str m.text)),
    ("manifestHash", .str command.manifest.canonicalHash),
    ("expectedPackageRevision", command.expectedPackageRevision)])

def scopedIdempotencyKey (command : ConfirmPackageCommand) : String :=
  command.organizationId ++ ":" ++ command.idempotencyKey

def FrozenModuleReference.json (r : FrozenModuleReference) : JsVal :=
  .obj [("module", .str r.module.text), ("moduleId", .str r.moduleId),
    ("snapshotId", .str r.snapshotId), ("snapshotHash", .str r.snapshotHash),
    ("snapshotRevision", r.snapshotRevision), ("approvalId", .str r.approvalId),
    ("approvalModuleRevision", r.approvalModuleRevision)]

def requestFingerprint (command : ConfirmPackageCommand) (frozen : List FrozenModuleReference) :
    String :=
  sha256 env (.obj [("packageId", .str command.packageId),
    ("moduleSnapshots", .arr (frozen.map (·.json))),
    ("manifestHash", .str command.manifest.canonicalHash)])

def sendableManifest (command : ConfirmPackageCommand) (exact : ExactApprovals) : Bool :=
  isManifestSendable command.manifest &&
    manifestCoversEvidence command.manifest exact.requiredEvidenceHashes

def confirmState (command : ConfirmPackageCommand) (exact : ExactApprovals) : DeliveryState :=
  if exact.blockers.length > 0 then .waitingForApproval
  else if sendableManifest command exact then .queued
  else .waitingForEvidence

def confirmedPackage (command : ConfirmPackageCommand) (exact : ExactApprovals) :
    DeliveryPackageRecord :=
  let state := confirmState command exact
  { packageId := command.packageId
    organizationId := command.organizationId
    jobId := command.jobId
    commissionedModules := command.commissionedModules
    moduleSnapshots := if state = .queued then exact.references else []
    durabilityManifestId := command.manifest.manifestId
    durabilityManifestHash := command.manifest.canonicalHash
    revision := command.expectedPackageRevision + 1
    state
    idempotencyKey := command.idempotencyKey
    frozenAt := if state = .queued then some command.confirmedAt else none
    updatedAt := command.confirmedAt
    providerReference := none
    failureCode := none
    interventionRequired := false
    cancellationReason := none }

/-- The send message of a queued package, without its identifier. -/
def sendMessage (command : ConfirmPackageCommand) (next : DeliveryPackageRecord)
    (outboxId : String) : DeliveryOutboxRecord :=
  { outboxId
    packageId := command.packageId
    organizationId := command.organizationId
    jobId := command.jobId
    state := .queued
    idempotencyKey := "send:" ++ command.packageId ++ ":" ++ toString next.revision
    requestFingerprint := requestFingerprint env command next.moduleSnapshots
    createdAt := command.confirmedAt
    updatedAt := command.confirmedAt }

def confirmEvent (command : ConfirmPackageCommand) (exact : ExactApprovals)
    (next : DeliveryPackageRecord) (eventId : String) : DeliveryAuditEvent :=
  { eventId
    packageId := command.packageId
    organizationId := command.organizationId
    jobId := command.jobId
    type :=
      match next.state with
      | .queued => .packageFrozen
      | .waitingForApproval => .waitingForApproval
      | _ => .waitingForEvidence
    packageRevision := next.revision
    recordedAt := command.confirmedAt
    safeMetadata :=
      [("state", .str next.state.text),
        ("moduleCount", (command.commissionedModules.length : Int)),
        ("blockerCount", (exact.blockers.length : Int))] }

/-- An existing package keeps its tenant, job and module set. -/
def checkExisting (command : ConfirmPackageCommand) :
    Option DeliveryPackageRecord → Except DeliveryError Unit
  | some existing =>
      if existing.organizationId ≠ command.organizationId ∨ existing.jobId ≠ command.jobId ∨
          existing.commissionedModules ≠ command.commissionedModules then
        .error (.conflict
          "An existing package cannot change tenant, job, or commissioned module set")
      else .ok ()
  | none => .ok ()

/-- A queued package gets its send message. -/
def enqueueSend (command : ConfirmPackageCommand) (next : DeliveryPackageRecord) :
    DeliveryTx Unit :=
  if next.state = .queued then do
    let _ ← enqueueOutbox env (sendMessage env command next)
  else pure ()

/-- The part of the transaction that writes. -/
def freezePackage (command : ConfirmPackageCommand) (exact : ExactApprovals) :
    DeliveryTx ConfirmPackageResult := do
  let next := confirmedPackage command exact
  Tx.ofExcept (checkExisting command (← getPackage command.packageId))
  let _ ← writePackage next command.expectedPackageRevision
  bindIdempotency (scopedIdempotencyKey command) (confirmFingerprint env command)
    command.packageId
  enqueueSend env command next
  appendEvent env (confirmEvent command exact next)
  return { resultFor next false with
    blockers :=
      if next.state = .waitingForEvidence then ["required_evidence_not_durable"]
      else exact.blockers }

/-- The checks made before the transaction. -/
def checkCommand (command : ConfirmPackageCommand) : Except DeliveryError Unit := do
  assertCanonicalModuleSet command.commissionedModules
  if command.manifest.organizationId ≠ command.organizationId ∨
      command.manifest.jobId ≠ command.jobId then
    .error (.gate "delivery_manifest_scope_mismatch"
      "Durability manifest does not belong to this organisation and job")
  if !verifyDurabilityManifest env command.manifest then
    .error (.gate "delivery_manifest_divergence"
      "Durability manifest content does not match its canonical hash")

def confirm (readers : Readers) (command : ConfirmPackageCommand) :
    DeliveryTx ConfirmPackageResult := do
  Tx.ofExcept (checkCommand env command)
  transact do
    match ← getIdempotentPackage (scopedIdempotencyKey command) (confirmFingerprint env command) with
    | some replay => return resultFor replay true
    | none =>
        let exact ← Tx.ofExcept (resolveExactApprovals readers command)
        freezePackage env command exact

end InspectionHub.Delivery
