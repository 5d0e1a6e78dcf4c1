import InspectionHub.Lib.TSys
import InspectionHub.Storage.Repository

/-!
# The evidence sync service

`EvidenceSyncService` of `packages/storage/src/sync-service.ts`. `upload` and
`finalize` wait for the object store: a call is in flight between two waits,
and other calls run in between. A `Call` is what one waits for next, with what
it has read so far; `advance` lets the store answer and runs the call to its
next wait. The commit that ends `finalize` is a step of its own.
-/

namespace InspectionHub.Storage

open Throwing

universe u

/-- An intent as it is kept: the token only by its digest. -/
structure PersistedUploadIntent where
  intentId : String
  tokenDigest : String
  storageKey : String
  expiresAt : String
  descriptor : UploadDescriptor
  uploaded : Bool
  quarantineReasonCode : Option String
deriving DecidableEq

/-- `intent.uploaded = true` -/
def PersistedUploadIntent.asUploaded (intent : PersistedUploadIntent) : PersistedUploadIntent :=
  { intent with uploaded := true }

/-- `intent.quarantineReasonCode = "existing_object_divergence"` -/
def PersistedUploadIntent.asDiverged (intent : PersistedUploadIntent) : PersistedUploadIntent :=
  { intent with quarantineReasonCode := some "existing_object_divergence" }

/-- `InMemoryUploadIntentStore` -/
abbrev UploadIntents :=
  Table String PersistedUploadIntent PersistedUploadIntent.intentId

def extensionFor : String → String
  | "image/jpeg" => "jpg"
  | "image/heic" => "heic"
  | "audio/m4a" => "m4a"
  | _ => "wav"

def validateDescriptor (env : Env) (descriptor : UploadDescriptor) : Except String Unit := do
  let _ ← safePathSegment descriptor.organizationId "organizationId"
  let _ ← safePathSegment descriptor.jobId "jobId"
  let _ ← safePathSegment descriptor.artifactId "artifactId"
  let _ ← safePathSegment descriptor.captureId "captureId"
  throwIf (descriptor.mediaType ∉ acceptedUploadMediaTypes)
    "Upload descriptor media type is not supported"
  throwIf (¬ Js.isHexDigest descriptor.sha256) "Upload descriptor sha256 is invalid"
  throwIf (¬ Js.isSafeInteger descriptor.byteLength ∨ descriptor.byteLength < 1 ∨
      descriptor.byteLength > 250 * 1024 * 1024)
    "Upload descriptor byte length is outside policy"
  throwIf (¬ Js.isSafeInteger descriptor.captureSequence ∨ descriptor.captureSequence < 1)
    "Upload capture sequence is invalid"
  throwIf (env.host.dateParse descriptor.capturedAt = none)
    "Upload capturedAt timestamp is invalid"

/-- The organisation and the assigned jobs of the principal. -/
def HasTenantJobAccess (principal : SyncPrincipal) (organizationId jobId : String) : Prop :=
  principal.organizationId = organizationId ∧ jobId ∈ principal.assignedJobIds

instance (principal : SyncPrincipal) (organizationId jobId : String) :
    Decidable (HasTenantJobAccess principal organizationId jobId) :=
  inferInstanceAs (Decidable (_ ∧ _))

def assertTenantJobAccess (principal : SyncPrincipal) (organizationId jobId : String) :
    Except String Unit :=
  if HasTenantJobAccess principal organizationId jobId then .ok ()
  else .error "Tenant or assigned-job scope denied"

/-- Where the object of a descriptor is put. -/
def storageKeyOf (descriptor : UploadDescriptor) : String :=
  "quarantine/" ++ descriptor.organizationId ++ "/" ++ descriptor.jobId ++ "/" ++
    descriptor.captureId ++ "/" ++ descriptor.artifactId ++ "." ++
    extensionFor descriptor.mediaType

/-! ## Calls in flight -/

/-- What an exact observation is for. -/
inductive Purpose where
  | upload
  | finalize (principal : SyncPrincipal)
deriving DecidableEq

/-- A call, by what it waits for. -/
inductive Call where
  /-- `head` of an upload. -/
  | uploadHead (intent : PersistedUploadIntent) (bytes : Bytes) (mediaType : String)
  /-- `putImmutable` of an upload that found no object. -/
  | uploadPut (intent : PersistedUploadIntent) (bytes : Bytes) (mediaType : String)
  /-- `head` after a `putImmutable` that threw `error`. -/
  | uploadLost (intent : PersistedUploadIntent) (error : String)
  /-- `afterObjectPut`. -/
  | uploadStored (intent : PersistedUploadIntent) (version : String)
  /-- `head` of an exact observation. -/
  | observeHead (intent : PersistedUploadIntent) (purpose : Purpose)
  /-- `read` of an exact observation. -/
  | observeRead (intent : PersistedUploadIntent) (purpose : Purpose)
      (metadata : Option StoredObjectMetadata)
  /-- `read` of a finalisation after its observation. -/
  | finalizeRead (principal : SyncPrincipal) (intent : PersistedUploadIntent)
      (metadata : StoredObjectMetadata)
  /-- The commit of a finalisation. -/
  | finalizeCommit (principal : SyncPrincipal) (intent : PersistedUploadIntent)
      (metadata : StoredObjectMetadata) (bytes : Bytes)
  | uploaded (objectVersion : String)
  | finalized (principal : SyncPrincipal) (result : DurabilityCommitResult)
  | threw (error : String)
deriving DecidableEq

structure SyncState (τ : Type u) where
  store : InMemoryPrivateObjectStore
  repository : InMemorySyncRepository
  intents : UploadIntents
  tasks : τ
  calls : List Call

variable (env : Env)

/-- Digest of the text of a token. -/
def digestOfToken (token : String) : String := env.sha256 token.toUTF8.toList

/-- `Date.now() >= Date.parse(expiresAt)`. -/
def expired (expiresAt : String) (now : Int) : Bool :=
  match env.host.dateParse expiresAt with
  | some ms => ms ≤ now
  | none => false

def authoriseIntent (intents : UploadIntents)
    (intentId uploadToken : String) (now : Int) (allowExpiredAfterUpload : Bool) :
    Except String PersistedUploadIntent := do
  let some intent := intents.get? intentId | throw "Upload intent was not found"
  throwIf (digestOfToken env uploadToken ≠ intent.tokenDigest)
    "Upload intent token is invalid"
  throwIf (¬ allowExpiredAfterUpload ∧ expired env intent.expiresAt now)
    "Upload intent has expired"
  return intent

/-- Whether what the store holds is not what the intent describes. -/
def diverged (intent : PersistedUploadIntent) (metadata : StoredObjectMetadata)
    (bytes : Bytes) : Prop :=
  metadata.key ≠ intent.storageKey ∨ metadata.mediaType ≠ intent.descriptor.mediaType ∨
    metadata.byteLength ≠ bytes.length ∨ intent.descriptor.byteLength ≠ bytes.length ∨
    intent.descriptor.sha256 ≠ env.sha256 bytes

instance (intent : PersistedUploadIntent) (metadata : StoredObjectMetadata) (bytes : Bytes) :
    Decidable (diverged env intent metadata bytes) :=
  inferInstanceAs (Decidable (_ ∨ _ ∨ _ ∨ _ ∨ _))

/-! ## The operations, up to their first wait -/

variable {τ : Type u}

def issueUploadIntent (intentTtlMs : Int) (fresh : Fresh) (uploadToken : String)
    (intents : UploadIntents) (principal : SyncPrincipal)
    (descriptor : UploadDescriptor) :
    Except String (UploadIntent × UploadIntents) := do
  validateDescriptor env descriptor
  assertTenantJobAccess principal descriptor.organizationId descriptor.jobId
  let persisted : PersistedUploadIntent :=
    { intentId := fresh.randomUUID 0
      tokenDigest := digestOfToken env uploadToken
      storageKey := storageKeyOf descriptor
      expiresAt := env.host.toISOString (fresh.now 0 + intentTtlMs)
      descriptor := descriptor
      uploaded := false
      quarantineReasonCode := none }
  return (⟨persisted.intentId, uploadToken, persisted.storageKey, persisted.expiresAt,
    descriptor⟩, intents.put persisted)

def upload (intents : UploadIntents) (intentId uploadToken : String)
    (bytes : Bytes) (claimedMediaType : String) (now : Int) : Except String Call := do
  let intent ← authoriseIntent env intents intentId uploadToken now false
  throwIf (claimedMediaType ≠ intent.descriptor.mediaType)
    "Upload media type does not match the intent"
  throwIf ((bytes.length : ℚ) ≠ intent.descriptor.byteLength)
    "Upload byte length does not match the intent"
  throwIf (env.sha256 bytes ≠ intent.descriptor.sha256)
    "Upload checksum does not match the intent"
  return .uploadHead intent bytes claimedMediaType

def finalize (intents : UploadIntents) (principal : SyncPrincipal)
    (intentId uploadToken : String) (now : Int) : Except String Call := do
  let intent ← authoriseIntent env intents intentId uploadToken now true
  assertTenantJobAccess principal intent.descriptor.organizationId intent.descriptor.jobId
  return .observeHead intent (.finalize principal)

/-! ## From one wait to the next -/

/-- Note something on an intent; calls share it by reference. -/
def noteIntent (intents : UploadIntents) (intent : PersistedUploadIntent)
    (note : PersistedUploadIntent → PersistedUploadIntent) : UploadIntents :=
  match intents.get? intent.intentId with
  | some current => intents.put (note current)
  | none => intents

/-- A call after the store, the hook or the repository answered. -/
def advanceCall (enqueueTask : Option (TaskSink τ)) (fresh : Fresh)
    (afterObjectPut : Except String Unit) (s : SyncState τ) : Call → Call × SyncState τ
  | .uploadHead intent bytes mediaType =>
      match s.store.head intent.storageKey with
      | some _ => (.observeHead intent .upload, s)
      | none => (.uploadPut intent bytes mediaType, s)
  | .uploadPut intent bytes mediaType =>
      match s.store.putImmutable env fresh intent.storageKey bytes mediaType with
      | .error e => (.uploadLost intent e, s)
      | .ok (metadata, store) =>
          (.uploadStored intent metadata.version, { s with store := store })
  | .uploadLost intent error =>
      match s.store.head intent.storageKey with
      | some _ => (.observeHead intent .upload, s)
      | none => (.threw error, s)
  | .uploadStored intent version =>
      match afterObjectPut with
      | .error e => (.threw e, s)
      | .ok () =>
          (.uploaded version,
            { s with intents := noteIntent s.intents intent .asUploaded })
  | .observeHead intent purpose =>
      (.observeRead intent purpose (s.store.head intent.storageKey), s)
  | .observeRead intent purpose metadata =>
      match metadata, s.store.read intent.storageKey with
      | some metadata, some bytes =>
          if diverged env intent metadata bytes then
            (.threw
              "Independent object verification failed; existing object remains quarantined",
              { s with intents := noteIntent s.intents intent .asDiverged })
          else
            let s := { s with
              intents := noteIntent s.intents intent .asUploaded }
            match purpose with
            | .upload => (.uploaded metadata.version, s)
            | .finalize principal => (.finalizeRead principal intent metadata, s)
      | _, _ => (.threw "Object upload has not completed or is not readable", s)
  | .finalizeRead principal intent metadata =>
      match s.store.read intent.storageKey with
      | none => (.threw "Uploaded object is not independently readable", s)
      | some bytes => (.finalizeCommit principal intent metadata bytes, s)
  | .finalizeCommit principal intent metadata bytes =>
      match s.repository.commitVerifiedDurability env enqueueTask fresh
        { descriptor := intent.descriptor
          storageKey := intent.storageKey
          objectVersion := metadata.version
          observedSha256 := env.sha256 bytes
          observedByteLength := bytes.length } s.tasks with
      | (.error e, repository, tasks) =>
          (.threw e, { s with repository := repository, tasks := tasks })
      | (.ok result, repository, tasks) =>
          (.finalized principal result, { s with repository := repository, tasks := tasks })
  | .uploaded version => (.uploaded version, s)
  | .finalized principal result => (.finalized principal result, s)
  | .threw error => (.threw error, s)

/-! ## Runs -/

/-- One step: a call starts or goes on. -/
inductive SyncStep where
  | issueUploadIntent (fresh : Fresh) (uploadToken : String) (principal : SyncPrincipal)
      (descriptor : UploadDescriptor)
  | upload (intentId uploadToken : String) (bytes : Bytes) (claimedMediaType : String)
      (now : Int)
  | finalize (principal : SyncPrincipal) (intentId uploadToken : String) (now : Int)
  | advance (call : Nat) (fresh : Fresh) (afterObjectPut : Except String Unit)

/-- A service: its configuration. -/
structure SyncService (τ : Type u) where
  intentTtlMs : Int
  enqueueTask : Option (TaskSink τ)

def startCall (s : SyncState τ) : Except String Call → SyncState τ
  | .ok call => { s with calls := s.calls ++ [call] }
  | .error e => { s with calls := s.calls ++ [.threw e] }

def syncStep (service : SyncService τ) (s : SyncState τ) : SyncStep → SyncState τ
  | .issueUploadIntent fresh uploadToken principal descriptor =>
      match issueUploadIntent env service.intentTtlMs fresh uploadToken s.intents principal
        descriptor with
      | .ok (_, intents) => { s with intents := intents }
      | .error _ => s
  | .upload intentId uploadToken bytes claimedMediaType now =>
      startCall s (upload env s.intents intentId uploadToken bytes claimedMediaType now)
  | .finalize principal intentId uploadToken now =>
      startCall s (finalize env s.intents principal intentId uploadToken now)
  | .advance i fresh afterObjectPut =>
      match s.calls[i]? with
      | none => s
      | some call =>
          let (call, s) := advanceCall env service.enqueueTask fresh afterObjectPut s call
          { s with calls := s.calls.set i call }

def SyncState.initial (tasks : τ) : SyncState τ := ⟨.empty, {}, .empty, tasks, []⟩

/-- The runs of a service over stores and repositories that start empty. -/
def syncSystem (service : SyncService τ) (tasks : τ) : TSys (SyncState τ) SyncStep :=
  .ofFun (.initial tasks) (syncStep env service)

end InspectionHub.Storage
