import InspectionHub.Lib.Js
import InspectionHub.Lib.OMap
import InspectionHub.Lib.Sorting

/-!
# Evidence storage records

The records of `packages/storage/src/types.ts`, the digest and path segments of
`hash.ts`, and the in-memory object store of `object-store.ts`. Media types are
their texts; sizes a caller claims are numbers, sizes of bytes are `Nat`. A
field that can have one value only is left out.
-/

namespace InspectionHub.Storage

abbrev Bytes := List UInt8

/-- The surroundings of the storage code. -/
structure Env where
  host : Js.Host
  /-- `createHash("sha256").update(bytes).digest("hex")`. -/
  sha256 : Bytes → String

/-- What one call reads off the clock and the identifier source, in order. -/
structure Fresh where
  now : Nat → Int
  randomUUID : Nat → String

/-! ## Records -/

def acceptedUploadMediaTypes : List String :=
  ["image/jpeg", "image/heic", "audio/m4a", "audio/wav"]

structure SyncPrincipal where
  organizationId : String
  actorId : String
  assignedJobIds : List String
deriving DecidableEq

structure UploadDescriptor where
  artifactId : String
  captureId : String
  organizationId : String
  jobId : String
  captureSequence : ℚ
  capturedAt : String
  mediaType : String
  byteLength : ℚ
  sha256 : String
  deviceId : Option String := none
  captureArea : Option String := none
deriving DecidableEq

structure UploadIntent where
  intentId : String
  uploadToken : String
  storageKey : String
  expiresAt : String
  descriptor : UploadDescriptor
deriving DecidableEq

structure StoredObjectMetadata where
  key : String
  version : String
  byteLength : Nat
  mediaType : String
  createdAt : String
deriving DecidableEq

structure DurableArtifactRecord extends UploadDescriptor where
  storageKey : String
  objectVersion : String
  observedAt : String
deriving DecidableEq

structure SafeProxyRecord where
  artifactId : String
  organizationId : String
  jobId : String
  parentArtifactId : String
  parentSha256 : String
  storageKey : String
  objectVersion : String
  mediaType : String
  byteLength : Nat
  sha256 : String
  transformationVersion : String
  createdAt : String
deriving DecidableEq

inductive AssessmentState where
  | accepted | rejected
deriving DecidableEq

structure ContentAssessment where
  assessmentId : String
  artifactId : String
  organizationId : String
  state : AssessmentState
  reasonCode : Option String
  observedMediaType : Option String
  width : Option ℚ
  height : Option ℚ
  durationMs : Option ℚ
  decoderVersion : String
  createdAt : String
  safeProxyArtifactId : Option String
deriving DecidableEq

inductive SyncEventType where
  | durabilityVerified | contentAccepted | contentRejected | duplicateAttempt | hashDivergence
deriving DecidableEq

/-- A `safeMetadata` value. -/
inductive Meta where
  | str (s : String)
  | num (n : ℚ)
deriving DecidableEq

structure SafeSyncEvent where
  eventId : String
  organizationId : String
  aggregateId : String
  eventType : SyncEventType
  safeMetadata : List (String × Meta)
  recordedAt : String
deriving DecidableEq

inductive OutboxState where
  | observedSuccess | pendingDispatch
deriving DecidableEq

inductive ObservedResult where
  | taskEnqueuedAtomically | taskSinkUnbound
deriving DecidableEq

structure SyncOutboxRecord where
  outboxId : String
  organizationId : String
  aggregateId : String
  idempotencyKey : String
  requestFingerprint : String
  taskId : Option String
  state : OutboxState
  observedResult : ObservedResult
  createdAt : String
deriving DecidableEq

inductive CommitState where
  | recorded | duplicateAttempt | hashDivergence
deriving DecidableEq

structure DurabilityCommitResult where
  state : CommitState
  artifact : DurableArtifactRecord
deriving DecidableEq

structure DurabilityTaskIntent where
  organizationId : String
  taskType : String
  aggregateType : String
  aggregateId : String
  idempotencyKey : String
  requestFingerprint : String
deriving DecidableEq

structure DurabilityTaskReceipt where
  taskId : String
  replayed : Bool
deriving DecidableEq

/-! ## Path segments -/

def isSegmentHead (c : Char) : Bool :=
  ('A' ≤ c && c ≤ 'Z') || ('a' ≤ c && c ≤ 'z') || ('0' ≤ c && c ≤ '9')

/-- `/^[A-Za-z0-9][A-Za-z0-9._-]{0,127}$/`. -/
def isSafePathSegment (value : String) : Bool :=
  match value.toList with
  | [] => false
  | c :: rest =>
      isSegmentHead c && rest.length ≤ 127 &&
        rest.all fun c => isSegmentHead c || c = '.' || c = '_' || c = '-'

def safePathSegment (value label : String) : Except String String :=
  if isSafePathSegment value then .ok value
  else .error (label ++ " is not a safe storage path segment")

/-! ## The object store -/

structure StoredObject where
  metadata : StoredObjectMetadata
  bytes : Bytes
deriving DecidableEq

def StoredObject.key (object : StoredObject) : String := object.metadata.key

structure InMemoryPrivateObjectStore where
  objects : Table String StoredObject StoredObject.key

namespace InMemoryPrivateObjectStore

variable (env : Env) (store : InMemoryPrivateObjectStore)

def empty : InMemoryPrivateObjectStore := ⟨.empty⟩

def putImmutable (fresh : Fresh) (key : String) (bytes : Bytes) (mediaType : String) :
    Except String (StoredObjectMetadata × InMemoryPrivateObjectStore) :=
  if (store.objects.get? key).isSome then .error "Immutable object key already exists"
  else
    let metadata : StoredObjectMetadata :=
      { key, version := fresh.randomUUID 0, byteLength := bytes.length, mediaType
        createdAt := env.host.toISOString (fresh.now 0) }
    .ok (metadata, ⟨store.objects.put ⟨metadata, bytes⟩⟩)

def head (key : String) : Option StoredObjectMetadata :=
  (store.objects.get? key).map StoredObject.metadata

def read (key : String) : Option Bytes := (store.objects.get? key).map StoredObject.bytes

def list (start : String) : List StoredObjectMetadata :=
  Sorting.sortBy (fun left right => env.host.localeCompare left.key right.key)
    ((store.objects.values.map StoredObject.metadata).filter fun metadata =>
      Js.startsWith metadata.key start)

/-! ## What the operations change -/

variable {env store}

/-- A put writes an absent key and no other. -/
theorem putImmutable_ok {fresh : Fresh} {key mediaType : String} {bytes : Bytes}
    {metadata : StoredObjectMetadata} {store' : InMemoryPrivateObjectStore}
    (h : putImmutable env store fresh key bytes mediaType = .ok (metadata, store')) :
    store.objects.get? key = none ∧ metadata.key = key ∧ metadata.mediaType = mediaType ∧
      metadata.byteLength = bytes.length ∧ metadata.version = fresh.randomUUID 0 ∧
      store'.objects.get? key = some ⟨metadata, bytes⟩ ∧
      ∀ k ≠ key, store'.objects.get? k = store.objects.get? k := by
  unfold putImmutable at h
  split at h
  · cases h
  · next habsent =>
      cases h
      refine ⟨Option.not_isSome_iff_eq_none.mp habsent, rfl, rfl, rfl, rfl, ?_, ?_⟩
      · exact Table.get?_put_self _ _
      · exact fun k hk => Table.get?_put_of_ne _ _ hk

end InMemoryPrivateObjectStore

end InspectionHub.Storage
