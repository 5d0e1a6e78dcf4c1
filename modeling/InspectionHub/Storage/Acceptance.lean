import InspectionHub.Storage.ContentPipeline
import InspectionHub.Storage.JobScope

/-!
# What an acceptance is bound to

The proxy of an accepted original names the digest on the original's row. The
bytes that were decoded are those the store holds when they are read; they are
not hashed again.
-/

namespace InspectionHub.Storage

open Throwing

variable {env : Env}

/-! ## Recording an assessment -/

variable {assessment : ContentAssessment}

theorem recordAssessment_ok {repository repository' : InMemorySyncRepository} {fresh : Fresh}
    {proxy : Option SafeProxyRecord}
    (h : repository.recordAssessment env fresh assessment proxy = .ok repository') :
    repository'.assessments = repository.assessments.put assessment ∧
      repository'.proxies = proxy.elim repository.proxies repository.proxies.put ∧
      ∃ original, repository.artifacts.get? assessment.artifactId = some original ∧
        original.organizationId = assessment.organizationId ∧
        ∀ p, proxy = some p → InMemorySyncRepository.ProxyProvenance original p := by
  unfold InMemorySyncRepository.recordAssessment at h
  obtain ⟨_, -, h⟩ := bind_ok h
  split at h
  · next original horiginal =>
      obtain ⟨_, horg, h⟩ := bind_ok h
      obtain ⟨_, -, h⟩ := bind_ok h
      obtain ⟨_, -, h⟩ := bind_ok h
      obtain ⟨_, hproxy, h⟩ := bind_ok h
      cases h
      refine ⟨rfl, rfl, original, horiginal, ?_, ?_⟩
      · exact not_not.mp (throwIf_ok horg)
      · rintro p rfl
        simpa using throwIf_ok hproxy
  · cases h

theorem recordAssessment_of {repository : InMemorySyncRepository} (fresh : Fresh)
    {proxy : SafeProxyRecord} {original : DurableArtifactRecord}
    (hnew : repository.assessments.get? assessment.artifactId = none)
    (horiginal : repository.artifacts.get? assessment.artifactId = some original)
    (horg : original.organizationId = assessment.organizationId)
    (hstate : assessment.state = .accepted)
    (hproxy : InMemorySyncRepository.ProxyProvenance original proxy) :
    ∃ repository', repository.recordAssessment env fresh assessment (some proxy) =
      .ok repository' := by
  unfold InMemorySyncRepository.recordAssessment
  rw [bind_of (throwIf_of (by simp [hnew]) _), horiginal]
  simp only []
  rw [bind_of (throwIf_of (by simp [horg]) _), bind_of (throwIf_of (by simp) _),
    bind_of (throwIf_of (by simp [hstate]) _), bind_of (throwIf_of (by simp [hproxy]) _)]
  exact ⟨_, rfl⟩

/-! ## An acceptance -/

namespace ContentQuarantinePipeline

variable {pipeline : ContentQuarantinePipeline} {fresh : Fresh} {lease : LeaseAnswers}
  {evidence : Evidence} {artifactId : String} {original : DurableArtifactRecord}

/-- What is checked and asked before an acceptance is recorded. -/
structure Passes (pipeline : ContentQuarantinePipeline) (fresh : Fresh) (lease : LeaseAnswers)
    (evidence : Evidence) (original : DurableArtifactRecord) (decoded : DecodedMedia) :
    Prop where
  unassessed : evidence.repository.assessments.get? original.artifactId = none
  inspected : inspect pipeline original (evidence.store.read original.storageKey) = .ok decoded
  beforePut : lease.beforePut = .ok ()
  beforeRecord : lease.beforeRecord = .ok ()
  unused : evidence.store.objects.get?
    (proxyStorageKey original (fresh.randomUUID 0) decoded) = none

/-- `process` records the acceptance of an artifact with a proxy. -/
structure Accepted (env : Env) (pipeline : ContentQuarantinePipeline) (fresh : Fresh)
    (lease : LeaseAnswers) (evidence : Evidence) (artifactId : String)
    (assessment : ContentAssessment) (proxy : SafeProxyRecord) : Prop where
  before : evidence.repository.assessments.get? artifactId = none
  assessed : (process env pipeline fresh lease artifactId evidence).2.repository.assessments.get?
    artifactId = some assessment
  state : assessment.state = .accepted
  proxy : ∃ proxyArtifactId, assessment.safeProxyArtifactId = some proxyArtifactId ∧
    (process env pipeline fresh lease artifactId evidence).2.repository.proxies.get?
      proxyArtifactId = some proxy

theorem process_of_row (hrow : evidence.repository.artifacts.get? artifactId = some original)
    (hnone : evidence.repository.assessments.get? artifactId = none) :
    process env pipeline fresh lease artifactId evidence =
      match inspect pipeline original (evidence.store.read original.storageKey) with
      | .error rejection => reject env pipeline fresh lease original rejection evidence
      | .ok decoded => accept env pipeline fresh lease original decoded evidence := by
  unfold process
  cases hinspect : inspect pipeline original (evidence.store.read original.storageKey) with
  | error _ => simp only [hrow, hnone, hinspect]
  | ok _ => simp only [hrow, hnone, hinspect]

/-- A rejection leaves no acceptance. -/
theorem reject_state {rejection : Rejection}
    (hnone : evidence.repository.assessments.get? original.artifactId = none)
    (h : (reject env pipeline fresh lease original rejection evidence).2.repository.assessments.get?
      original.artifactId = some assessment) : assessment.state = .rejected := by
  unfold reject at h
  simp only at h
  split at h
  · cases hnone.symm.trans h
  · split at h
    · cases hnone.symm.trans h
    · next repository' hrecord =>
        obtain ⟨hassessments, -⟩ := recordAssessment_ok hrecord
        have hget : (evidence.repository.assessments.put
            (rejectionAssessment env pipeline fresh original rejection)).get?
              original.artifactId = some assessment := hassessments ▸ h
        rw [show original.artifactId = (rejectionAssessment env pipeline fresh original
          rejection).artifactId from rfl, Table.get?_put_self] at hget
        cases hget
        rfl

/-- What an acceptance went through, and its proxy. -/
theorem accept_passes {decoded : DecodedMedia}
    (hnone : evidence.repository.assessments.get? original.artifactId = none)
    (hinspect : inspect pipeline original (evidence.store.read original.storageKey) = .ok decoded)
    (h : (accept env pipeline fresh lease original decoded evidence).2.repository.assessments.get?
      original.artifactId = some assessment) :
    Passes pipeline fresh lease evidence original decoded ∧
      assessment = acceptance env pipeline fresh original decoded ∧
      ∃ metadata,
        (accept env pipeline fresh lease original decoded evidence).2.repository.proxies.get?
          (fresh.randomUUID 0) = some (proxyRecord env pipeline fresh original decoded metadata) := by
  unfold accept at h ⊢
  simp only at h ⊢
  split at h
  · cases hnone.symm.trans h
  next hput =>
  split at h
  · cases hnone.symm.trans h
  next metadata store hstored =>
  split at h
  · cases hnone.symm.trans h
  next hverified =>
  split at h
  · cases hnone.symm.trans h
  next hlease =>
  split at h
  · cases hnone.symm.trans h
  next repository' hrecord =>
  obtain ⟨hassessments, hproxies, -⟩ := recordAssessment_ok hrecord
  obtain ⟨hunused, -⟩ := InMemoryPrivateObjectStore.putImmutable_ok hstored
  refine ⟨⟨hnone, hinspect, hput, hlease, hunused⟩, ?_, metadata, ?_⟩
  · have hget : (evidence.repository.assessments.put
        (acceptance env pipeline fresh original decoded)).get? original.artifactId =
          some assessment := hassessments ▸ h
    rw [show original.artifactId = (acceptance env pipeline fresh original decoded).artifactId
      from rfl, Table.get?_put_self] at hget
    exact (Option.some.inj hget).symm
  · rw [if_neg hverified]
    simp only []
    rw [hproxies]
    exact Table.get?_put_self _ (proxyRecord env pipeline fresh original decoded metadata)

/-- What passes is accepted, with the row's digest as the proxy's parent. -/
theorem passes_accepted {decoded : DecodedMedia}
    (hrow : evidence.repository.artifacts.get? artifactId = some original)
    (h : Passes pipeline fresh lease evidence original decoded) :
    ∃ assessment proxy,
      Accepted env pipeline fresh lease evidence artifactId assessment proxy ∧
        proxy.parentSha256 = original.sha256 := by
  obtain rfl : original.artifactId = artifactId :=
    evidence.repository.artifacts.keyed _ _ hrow
  obtain ⟨hnone, hinspect, hput, hlease, hunused⟩ := h
  have hprocess : process env pipeline fresh lease original.artifactId evidence =
      accept env pipeline fresh lease original decoded evidence := by
    rw [process_of_row hrow hnone, hinspect]
  obtain ⟨metadata, store, hstored⟩ : ∃ metadata store, evidence.store.putImmutable env
      ⟨fresh.now, fun n => fresh.randomUUID (n + 1)⟩
      (proxyStorageKey original (fresh.randomUUID 0) decoded) decoded.proxyBytes
      decoded.proxyMediaType = .ok (metadata, store) := by
    unfold InMemoryPrivateObjectStore.putImmutable
    rw [if_neg (by simp [hunused])]
    exact ⟨_, _, rfl⟩
  obtain ⟨-, -, hmedia, hlength, -, hget, -⟩ := InMemoryPrivateObjectStore.putImmutable_ok hstored
  have hverified : ¬ proxyUnverified env decoded metadata
      (store.head (proxyStorageKey original (fresh.randomUUID 0) decoded))
      (store.read (proxyStorageKey original (fresh.randomUUID 0) decoded)) := by
    simp [proxyUnverified, InMemoryPrivateObjectStore.head, InMemoryPrivateObjectStore.read, hget,
      hmedia, hlength]
  obtain ⟨repository', hrecord⟩ : ∃ repository', evidence.repository.recordAssessment env
      ⟨fun n => fresh.now (n + 3), fun n => fresh.randomUUID (n + 3)⟩
      (acceptance env pipeline fresh original decoded)
      (some (proxyRecord env pipeline fresh original decoded metadata)) = .ok repository' :=
    recordAssessment_of _ hnone hrow rfl rfl ⟨rfl, rfl, rfl⟩
  obtain ⟨hassessments, hproxies, -⟩ := recordAssessment_ok hrecord
  have haccept : (accept env pipeline fresh lease original decoded evidence).2.repository =
      repository' := by
    unfold accept
    simp only [hput, hstored, hlease, hrecord, if_neg hverified]
  refine ⟨acceptance env pipeline fresh original decoded,
    proxyRecord env pipeline fresh original decoded metadata, ⟨hnone, ?_, rfl, ?_⟩, rfl⟩
  · rw [hprocess, haccept, hassessments]
    exact Table.get?_put_self _ (acceptance env pipeline fresh original decoded)
  · refine ⟨fresh.randomUUID 0, rfl, ?_⟩
    rw [hprocess, haccept, hproxies]
    exact Table.get?_put_self _ (proxyRecord env pipeline fresh original decoded metadata)

/-- **The bound of an acceptance.** The bytes behind every acceptance hash to
the digest of the row, which is the parent digest of its proxy, just when what
the store holds for the row hashes to it or does not pass. -/
theorem acceptance_bound_iff
    (hrow : evidence.repository.artifacts.get? artifactId = some original) :
    (∀ assessment proxy,
      Accepted env pipeline fresh lease evidence artifactId assessment proxy →
        ∃ bytes, evidence.store.read original.storageKey = some bytes ∧
          env.sha256 bytes = original.sha256 ∧ proxy.parentSha256 = original.sha256) ↔
      ∀ bytes, evidence.store.read original.storageKey = some bytes →
        env.sha256 bytes = original.sha256 ∨
          ∀ decoded, ¬ Passes pipeline fresh lease evidence original decoded := by
  constructor
  · intro hbound bytes hread
    by_cases hpass : ∃ decoded, Passes pipeline fresh lease evidence original decoded
    · obtain ⟨decoded, hpass⟩ := hpass
      obtain ⟨assessment, proxy, haccepted, -⟩ := passes_accepted hrow hpass
      obtain ⟨bytes', hread', hhash, -⟩ := hbound assessment proxy haccepted
      cases hread.symm.trans hread'
      exact .inl hhash
    · exact .inr fun decoded h => hpass ⟨decoded, h⟩
  · rintro hcondition assessment proxy ⟨hbefore, hassessed, hstate, proxyArtifactId, hid, hproxy⟩
    obtain rfl : original.artifactId = artifactId :=
    evidence.repository.artifacts.keyed _ _ hrow
    rw [process_of_row hrow hbefore] at hassessed hproxy
    cases hinspect : inspect pipeline original (evidence.store.read original.storageKey) with
    | error rejection =>
        rw [hinspect] at hassessed
        rw [reject_state hbefore hassessed] at hstate
        cases hstate
    | ok decoded =>
        rw [hinspect] at hassessed hproxy
        obtain ⟨hpass, rfl, metadata, hget⟩ := accept_passes hbefore hinspect hassessed
        cases hid
        cases hget.symm.trans hproxy
        cases hread : evidence.store.read original.storageKey with
        | none =>
            rw [hread] at hinspect
            cases hinspect
        | some bytes =>
            refine ⟨bytes, rfl, ?_, rfl⟩
            rcases hcondition bytes hread with hhash | hfails
            · exact hhash
            · exact absurd hpass (hfails decoded)

/-! ## An original that changed after its commit -/

namespace Swapped

open SharedCapture

/-- A decoder that finds a small photograph in everything. -/
def decoder : SandboxedMediaDecoder where
  version := "fixture-v1"
  probeAndReencode _ claimedMediaType :=
    some ⟨claimedMediaType, some 1, some 1, none, "image/jpeg", [255, 216, 255, 0, 0, 0, 255, 217]⟩

def fixture : ContentQuarantinePipeline := { decoder := decoder }

def ids : Fresh := ⟨fun _ => 0, fun _ => "proxy-one"⟩

def held : LeaseAnswers := ⟨.ok (), .ok ()⟩

def intact : Evidence := ⟨final.store, final.repository⟩

/-- Other bytes under the key of the row. -/
def swapped : Evidence where
  store := ⟨final.store.objects.put
    ⟨⟨row.storageKey, "intent-one", 4, "image/jpeg", ""⟩, [255, 216, 255, 0]⟩⟩
  repository := final.repository

/-- Other bytes than those committed are accepted under the row's digest. -/
theorem swapped_accepted :
    ∃ assessment proxy, Accepted host fixture ids held swapped "artifact-one" assessment proxy ∧
      swapped.repository.artifacts.get? "artifact-one" = some row ∧
      proxy.parentSha256 = row.sha256 ∧
      ∃ bytes, swapped.store.read row.storageKey = some bytes ∧ host.sha256 bytes ≠ row.sha256 := by
  obtain ⟨assessment, proxy, haccepted, hparent⟩ :=
    @passes_accepted host fixture ids held swapped "artifact-one" row
      ⟨"image/jpeg", some 1, some 1, none, "image/jpeg", [255, 216, 255, 0, 0, 0, 255, 217]⟩
      (by decide +kernel)
      ⟨by decide +kernel, by decide +kernel, rfl, rfl, by decide +kernel⟩
  exact ⟨assessment, proxy, haccepted, by decide +kernel, hparent, [255, 216, 255, 0],
    by decide +kernel, by decide +kernel⟩

theorem acceptance_bound_iff_intact :
    (∀ assessment proxy, Accepted host fixture ids held intact "artifact-one" assessment proxy →
      ∃ bytes, intact.store.read row.storageKey = some bytes ∧
        host.sha256 bytes = row.sha256 ∧ proxy.parentSha256 = row.sha256) ↔
      ∀ bytes, intact.store.read row.storageKey = some bytes →
        host.sha256 bytes = row.sha256 ∨
          ∀ decoded, ¬ Passes fixture ids held intact row decoded :=
  @acceptance_bound_iff host fixture ids held intact "artifact-one" row (by decide +kernel)

end Swapped

end ContentQuarantinePipeline

end InspectionHub.Storage
