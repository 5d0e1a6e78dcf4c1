import InspectionHub.Storage.Repository

/-!
# The content quarantine pipeline

`ContentQuarantinePipeline` of `packages/storage/src/content-pipeline.ts`, over
a decoder that is supplied. `inspect` is what `process` checks of the bytes
before it derives a proxy, up to the first rejection.
-/

namespace InspectionHub.Storage

open Throwing

structure DecodedMedia where
  observedMediaType : String
  width : Option ℚ
  height : Option ℚ
  durationMs : Option ℚ
  proxyMediaType : String
  proxyBytes : Bytes
deriving DecidableEq

structure SandboxedMediaDecoder where
  version : String
  /-- What it throws is not looked at. -/
  probeAndReencode : Bytes → String → Option DecodedMedia

structure ContentPolicy where
  maxImageBytes : ℚ
  maxAudioBytes : ℚ
  maxImageWidth : ℚ
  maxImageHeight : ℚ
  maxImagePixels : ℚ
  maxAudioDurationMs : ℚ

def launchContentPolicy : ContentPolicy where
  maxImageBytes := 50 * 1024 * 1024
  maxAudioBytes := 250 * 1024 * 1024
  maxImageWidth := 20000
  maxImageHeight := 20000
  maxImagePixels := 100000000
  maxAudioDurationMs := 2 * 60 * 60 * 1000

/-! ## What is checked of the bytes -/

/-- `Buffer.from(bytes).toString("latin1")` -/
def latin1 (bytes : Bytes) : List Char := bytes.map fun b => Char.ofNat b.toNat

/-- `text.slice(start, stop)` -/
def slice (text : List Char) (start stop : Nat) : List Char := (text.take stop).drop start

def detectMediaType (bytes : Bytes) : Option String :=
  if bytes.take 3 = [0xff, 0xd8, 0xff] then some "image/jpeg"
  else
    let ascii := latin1 bytes
    if bytes.length ≥ 12 ∧ slice ascii 0 4 = "RIFF".toList ∧ slice ascii 8 12 = "WAVE".toList then
      some "audio/wav"
    else if bytes.length ≥ 12 ∧ slice ascii 4 8 = "ftyp".toList then
      let brand := slice ascii 8 12
      if brand ∈ ["heic", "heix", "mif1", "msf1"].map String.toList then some "image/heic"
      else if brand ∈ ["M4A ", "mp42", "isom"].map String.toList then some "audio/m4a"
      else none
    else none

/-- `toLowerCase` of a Latin-1 character. -/
def lowerLatin1 (c : Char) : Char :=
  if ('A' ≤ c ∧ c ≤ 'Z') ∨ (0xC0 ≤ c.toNat ∧ c.toNat ≤ 0xDE ∧ c.toNat ≠ 0xD7) then
    Char.ofNat (c.toNat + 32)
  else c

def activeSignatures : List String :=
  ["<script", "<!doctype html", "<html", "<?xml", "%pdf-", "pk\x03\x04", "javascript:", "<svg"]

def containsActiveOrPolyglotSignature (bytes : Bytes) : Bool :=
  let sample := (latin1 bytes).map lowerLatin1
  activeSignatures.any fun signature => sample.tails.any signature.toList.isPrefixOf

def exceedsBytePolicy (original : DurableArtifactRecord) (policy : ContentPolicy) : Bool :=
  if Js.startsWith original.mediaType "image/" then original.byteLength > policy.maxImageBytes
  else original.byteLength > policy.maxAudioBytes

def dimensionsOrDurationFailure (decoded : DecodedMedia) (policy : ContentPolicy) :
    Option String :=
  let dimensions : Option String :=
    match decoded.width, decoded.height with
    | none, none => none
    | some width, some height =>
        if width < 1 ∨ height < 1 ∨ width > policy.maxImageWidth ∨
            height > policy.maxImageHeight ∨ width * height > policy.maxImagePixels then
          some "dimension_limit_exceeded"
        else none
    | _, _ => some "missing_dimensions"
  match dimensions with
  | some failure => some failure
  | none =>
      if decoded.durationMs.any fun ms => ms ≤ 0 ∨ ms > policy.maxAudioDurationMs then
        some "duration_limit_exceeded"
      else none

/-- A proxy that is not what its decoder says. -/
def unsafeProxy (decoded : DecodedMedia) : Bool :=
  decoded.proxyBytes.length < 8 || containsActiveOrPolyglotSignature decoded.proxyBytes ||
    detectMediaType decoded.proxyBytes ≠ some decoded.proxyMediaType

/-- A call of `reject`. -/
structure Rejection where
  reasonCode : String
  observedMediaType : Option String := none
  decoded : Option DecodedMedia := none
deriving DecidableEq

/-- The store and the repository. -/
structure Evidence where
  store : InMemoryPrivateObjectStore
  repository : InMemorySyncRepository

/-- A pipeline: its configuration. -/
structure ContentQuarantinePipeline where
  decoder : SandboxedMediaDecoder
  policy : ContentPolicy := launchContentPolicy

namespace ContentQuarantinePipeline

variable (env : Env) (pipeline : ContentQuarantinePipeline)

/-- The checks of `process`, on the bytes it read. -/
def inspect (original : DurableArtifactRecord) (read : Option Bytes) :
    Except Rejection DecodedMedia := do
  let some bytes := read | throw { reasonCode := "missing_original_object" }
  let magic := detectMediaType bytes
  throwIf (magic ≠ some original.mediaType)
    { reasonCode := "mime_magic_mismatch", observedMediaType := magic }
  throwIf (containsActiveOrPolyglotSignature bytes)
    { reasonCode := "active_or_polyglot_format", observedMediaType := magic }
  throwIf (exceedsBytePolicy original pipeline.policy)
    { reasonCode := "byte_limit_exceeded", observedMediaType := magic }
  let some decoded := pipeline.decoder.probeAndReencode bytes original.mediaType
    | throw { reasonCode := "sandbox_decoder_failed", observedMediaType := magic }
  throwIf (decoded.observedMediaType ≠ original.mediaType)
    { reasonCode := "decoder_media_mismatch"
      observedMediaType := some decoded.observedMediaType }
  if let some policyFailure := dimensionsOrDurationFailure decoded pipeline.policy then
    throw { reasonCode := policyFailure
            observedMediaType := some decoded.observedMediaType
            decoded := some decoded }
  throwIf (unsafeProxy decoded)
    { reasonCode := "unsafe_proxy_output"
      observedMediaType := some decoded.observedMediaType
      decoded := some decoded }
  return decoded

/-! ## What is recorded -/

def assessmentFor (assessmentId : String) (now : Int) (original : DurableArtifactRecord)
    (state : AssessmentState) (decoded : Option DecodedMedia) (reasonCode : Option String)
    (safeProxyArtifactId : Option String) (observedMediaType : Option String) :
    ContentAssessment where
  assessmentId := assessmentId
  artifactId := original.artifactId
  organizationId := original.organizationId
  state := state
  reasonCode := reasonCode
  observedMediaType := observedMediaType
  width := decoded.bind DecodedMedia.width
  height := decoded.bind DecodedMedia.height
  durationMs := decoded.bind DecodedMedia.durationMs
  decoderVersion := pipeline.decoder.version
  createdAt := env.host.toISOString now
  safeProxyArtifactId := safeProxyArtifactId

/-- The assessment of a rejection; what was observed defaults to what was decoded. -/
def rejectionAssessment (fresh : Fresh) (original : DurableArtifactRecord)
    (rejection : Rejection) : ContentAssessment :=
  assessmentFor env pipeline (fresh.randomUUID 0) (fresh.now 0) original .rejected
    rejection.decoded (some rejection.reasonCode) none
    (rejection.observedMediaType <|> rejection.decoded.map DecodedMedia.observedMediaType)

/-- Where a proxy is put. -/
def proxyStorageKey (original : DurableArtifactRecord) (proxyArtifactId : String)
    (decoded : DecodedMedia) : String :=
  "safe/" ++ original.organizationId ++ "/" ++ original.jobId ++ "/" ++ proxyArtifactId ++ "." ++
    if decoded.proxyMediaType = "image/jpeg" then "jpg" else "wav"

def proxyRecord (fresh : Fresh) (original : DurableArtifactRecord) (decoded : DecodedMedia)
    (metadata : StoredObjectMetadata) : SafeProxyRecord where
  artifactId := fresh.randomUUID 0
  organizationId := original.organizationId
  jobId := original.jobId
  parentArtifactId := original.artifactId
  parentSha256 := original.sha256
  storageKey := proxyStorageKey original (fresh.randomUUID 0) decoded
  objectVersion := metadata.version
  mediaType := decoded.proxyMediaType
  byteLength := decoded.proxyBytes.length
  sha256 := env.sha256 decoded.proxyBytes
  transformationVersion := pipeline.decoder.version
  createdAt := env.host.toISOString (fresh.now 1)

def acceptance (fresh : Fresh) (original : DurableArtifactRecord) (decoded : DecodedMedia) :
    ContentAssessment :=
  assessmentFor env pipeline (fresh.randomUUID 2) (fresh.now 2) original .accepted (some decoded)
    none (some (fresh.randomUUID 0)) (some decoded.observedMediaType)

/-- Whether the proxy that was put is not what is read back. -/
def proxyUnverified (decoded : DecodedMedia) (metadata : StoredObjectMetadata)
    (observedMetadata : Option StoredObjectMetadata) (observedBytes : Option Bytes) : Prop :=
  match observedMetadata, observedBytes with
  | some observed, some bytes =>
      observed.version ≠ metadata.version ∨ observed.mediaType ≠ decoded.proxyMediaType ∨
        observed.byteLength ≠ bytes.length ∨ bytes.length ≠ decoded.proxyBytes.length ∨
        env.sha256 bytes ≠ env.sha256 decoded.proxyBytes
  | _, _ => True

instance (decoded : DecodedMedia) (metadata : StoredObjectMetadata)
    (observedMetadata : Option StoredObjectMetadata) (observedBytes : Option Bytes) :
    Decidable (proxyUnverified env decoded metadata observedMetadata observedBytes) := by
  unfold proxyUnverified
  split <;> infer_instance

/-- What `assertLease` answers before the proxy is put and before an assessment
is recorded. -/
structure LeaseAnswers where
  beforePut : Except String Unit
  beforeRecord : Except String Unit

/-- `#reject` -/
def reject (fresh : Fresh) (lease : LeaseAnswers) (original : DurableArtifactRecord)
    (rejection : Rejection) (evidence : Evidence) :
    Except String ContentAssessment × Evidence :=
  let assessment := rejectionAssessment env pipeline fresh original rejection
  match lease.beforeRecord with
  | .error e => (.error e, evidence)
  | .ok () =>
      match evidence.repository.recordAssessment env ⟨fun n => fresh.now (n + 1), fun n =>
        fresh.randomUUID (n + 1)⟩ assessment none with
      | .error e => (.error e, evidence)
      | .ok repository => (.ok assessment, { evidence with repository := repository })

/-- The proxy and the acceptance of what passed the checks. -/
def accept (fresh : Fresh) (lease : LeaseAnswers) (original : DurableArtifactRecord)
    (decoded : DecodedMedia) (evidence : Evidence) :
    Except String ContentAssessment × Evidence :=
  let storageKey := proxyStorageKey original (fresh.randomUUID 0) decoded
  match lease.beforePut with
  | .error e => (.error e, evidence)
  | .ok () =>
      match evidence.store.putImmutable env ⟨fresh.now, fun n => fresh.randomUUID (n + 1)⟩
        storageKey decoded.proxyBytes decoded.proxyMediaType with
      | .error e => (.error e, evidence)
      | .ok (metadata, store) =>
          let evidence : Evidence := ⟨store, evidence.repository⟩
          if proxyUnverified env decoded metadata (store.head storageKey)
              (store.read storageKey) then
            (.error "Safe proxy durability verification failed", evidence)
          else
            let assessment := acceptance env pipeline fresh original decoded
            match lease.beforeRecord with
            | .error e => (.error e, evidence)
            | .ok () =>
                match evidence.repository.recordAssessment env ⟨fun n => fresh.now (n + 3), fun n =>
                  fresh.randomUUID (n + 3)⟩ assessment
                  (some (proxyRecord env pipeline fresh original decoded metadata)) with
                | .error e => (.error e, evidence)
                | .ok repository => (.ok assessment, { evidence with repository := repository })

/-- `process(artifactId)` -/
def process (fresh : Fresh) (lease : LeaseAnswers) (artifactId : String) (evidence : Evidence) :
    Except String ContentAssessment × Evidence :=
  match evidence.repository.artifacts.get? artifactId with
  | none => (.error "Durable artifact was not found", evidence)
  | some original =>
      match evidence.repository.assessments.get? artifactId with
      | some existing => (.ok existing, evidence)
      | none =>
          match inspect pipeline original (evidence.store.read original.storageKey) with
          | .error rejection => reject env pipeline fresh lease original rejection evidence
          | .ok decoded => accept env pipeline fresh lease original decoded evidence

end ContentQuarantinePipeline

end InspectionHub.Storage
