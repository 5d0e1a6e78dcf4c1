import InspectionHub.Storage.Repository

/-!
# Evidence reconciliation

`reconcileEvidence` of `packages/storage/src/reconciliation.ts`, over what the
object store answers while it runs: one finding for each listed object, then
the rows, keys and proxies that no object accounts for.
-/

namespace InspectionHub.Storage

/-- What an `ImmutableObjectStore` answers. -/
structure ObjectStoreView where
  head : String → Option StoredObjectMetadata
  read : String → Option Bytes
  list : String → List StoredObjectMetadata

def InMemoryPrivateObjectStore.view (env : Env) (store : InMemoryPrivateObjectStore) :
    ObjectStoreView :=
  ⟨store.head, store.read, store.list env⟩

inductive ReconciliationState where
  | consistent | objectOnly | rowOnly | missingObject | divergentChecksum | duplicateAttempt
  | unknownProvider | contentQuarantine | deletionSuppression
deriving DecidableEq

def ReconciliationState.text : ReconciliationState → String
  | .consistent => "consistent"
  | .objectOnly => "object_only"
  | .rowOnly => "row_only"
  | .missingObject => "missing_object"
  | .divergentChecksum => "divergent_checksum"
  | .duplicateAttempt => "duplicate_attempt"
  | .unknownProvider => "unknown_provider"
  | .contentQuarantine => "content_quarantine"
  | .deletionSuppression => "deletion_suppression"

structure ReconciliationFinding where
  state : ReconciliationState
  organizationId : String
  key : String
  artifactId : Option String := none
  detail : String
deriving DecidableEq

/-- The keys of an organisation's originals. -/
def quarantinePrefix (organizationId : String) : String := "quarantine/" ++ organizationId ++ "/"

/-- The keys of an organisation's proxies. -/
def safePrefix (organizationId : String) : String := "safe/" ++ organizationId ++ "/"

/-- Whether the object of a proxy is not what its row says. -/
def proxyDiverges (env : Env) (proxy : SafeProxyRecord) (metadata : StoredObjectMetadata)
    (bytes : Bytes) : Prop :=
  metadata.version ≠ proxy.objectVersion ∨ metadata.byteLength ≠ bytes.length ∨
    proxy.byteLength ≠ bytes.length ∨ metadata.mediaType ≠ proxy.mediaType ∨
    env.sha256 bytes ≠ proxy.sha256

instance (env : Env) (proxy : SafeProxyRecord) (metadata : StoredObjectMetadata)
    (bytes : Bytes) : Decidable (proxyDiverges env proxy metadata bytes) :=
  inferInstanceAs (Decidable (_ ∨ _ ∨ _ ∨ _ ∨ _))

variable (env : Env) (organizationId : String) (store : ObjectStoreView)
  (repository : InMemorySyncRepository)

/-- The finding of an object that no row or proxy claims. -/
def unclaimedFinding (detail : String) (object : StoredObjectMetadata) :
    ReconciliationFinding where
  state :=
    if object.key ∈ repository.deletionSuppressions then .deletionSuppression else .objectOnly
  organizationId := organizationId
  key := object.key
  detail := detail

/-- The finding of an accepted original, by its proxy. -/
def proxyFinding (object : StoredObjectMetadata) (artifact : DurableArtifactRecord)
    (assessment : ContentAssessment) : ReconciliationFinding :=
  let proxy := (assessment.safeProxyArtifactId.bind repository.proxies.get?).filter fun proxy =>
    InMemorySyncRepository.ProxyProvenance artifact proxy
  match proxy with
  | none =>
      { state := .contentQuarantine, organizationId, key := artifact.storageKey
        artifactId := some artifact.artifactId
        detail := "Accepted assessment has no matching safe-proxy provenance." }
  | some proxy =>
      match store.head proxy.storageKey, store.read proxy.storageKey with
      | some proxyMetadata, some proxyBytes =>
          if proxyDiverges env proxy proxyMetadata proxyBytes then
            { state := .divergentChecksum, organizationId, key := proxy.storageKey
              artifactId := some proxy.artifactId
              detail := "Trusted proxy object diverges from its immutable provenance." }
          else
            { state := .consistent, organizationId, key := object.key
              artifactId := some artifact.artifactId
              detail := "Object, receipt, assessment and safe proxy agree." }
      | _, _ =>
          { state := .missingObject, organizationId, key := proxy.storageKey
            artifactId := some proxy.artifactId
            detail := "Trusted proxy row exists but its immutable object is missing." }

/-- The finding of a listed object. -/
def objectFinding (object : StoredObjectMetadata) : ReconciliationFinding :=
  match repository.artifactByStorageKey object.key with
  | none =>
      unclaimedFinding organizationId repository
        "Object exists without a committed artifact row." object
  | some artifact =>
      if ¬ repository.hasDurabilityReceipt artifact.artifactId then
        { state := .rowOnly, organizationId, key := object.key
          artifactId := some artifact.artifactId
          detail := "Artifact row exists without its atomic durability receipt." }
      else if (store.read object.key).map env.sha256 ≠ some artifact.sha256 then
        { state := .divergentChecksum, organizationId, key := object.key
          artifactId := some artifact.artifactId
          detail := "Current object bytes diverge from the immutable receipt." }
      else
        match repository.assessments.get? artifact.artifactId with
        | some assessment =>
            if assessment.state = .accepted then
              proxyFinding env organizationId store repository object artifact assessment
            else
              { state := .contentQuarantine, organizationId, key := object.key
                artifactId := some artifact.artifactId
                detail := "Original is durable but has no accepted safe proxy." }
        | none =>
            { state := .contentQuarantine, organizationId, key := object.key
              artifactId := some artifact.artifactId
              detail := "Original is durable but has no accepted safe proxy." }

def missingFinding (artifact : DurableArtifactRecord) : ReconciliationFinding where
  state := .missingObject
  organizationId := organizationId
  key := artifact.storageKey
  artifactId := some artifact.artifactId
  detail := "Durability row exists but the object cannot be listed."

def duplicateFinding (key : String) : ReconciliationFinding where
  state := .duplicateAttempt
  organizationId := organizationId
  key := key
  detail := "A repeated capture finalisation resolved to the existing identity."

def unknownProviderFinding (key : String) : ReconciliationFinding where
  state := .unknownProvider
  organizationId := organizationId
  key := key
  detail := "Provider outcome requires observation before retry."

/-- The rows of the organisation whose object is not listed. -/
def unlistedRows : List DurableArtifactRecord :=
  repository.artifacts.values.filter fun artifact =>
    artifact.organizationId = organizationId ∧
      artifact.storageKey ∉ (store.list (quarantinePrefix organizationId)).map (·.key)

/-- The listed objects of the safe namespace that no proxy row claims. -/
def unfencedObjects : List StoredObjectMetadata :=
  (store.list (safePrefix organizationId)).filter fun object =>
    repository.proxyByStorageKey object.key = none

/-- The findings in the order they are pushed. -/
def collectFindings : List ReconciliationFinding :=
  (store.list (quarantinePrefix organizationId)).map
      (objectFinding env organizationId store repository) ++
    ((unlistedRows organizationId store repository).map (missingFinding organizationId) ++
      ((repository.duplicateKeys.filter fun key =>
          Js.startsWith key (quarantinePrefix organizationId)).map
          (duplicateFinding organizationId) ++
        (repository.unknownProviderKeys.map (unknownProviderFinding organizationId) ++
          (unfencedObjects organizationId store repository).map
            (unclaimedFinding organizationId repository
              "Safe-namespace object has no fenced proxy provenance and remains untrusted."))))

/-- The order of findings. -/
def compareFindings (left right : ReconciliationFinding) : Ordering :=
  env.host.localeCompare (left.key ++ ":" ++ left.state.text)
    (right.key ++ ":" ++ right.state.text)

def reconcileEvidence : List ReconciliationFinding :=
  Sorting.sortBy (compareFindings env) (collectFindings env organizationId store repository)

/-! ## Every object, every row -/

variable {env organizationId store repository}

/-- What a consistent object has: its row, a receipt, its bytes, an acceptance,
and a proxy whose object is what its row says. -/
structure Consistent (env : Env) (store : ObjectStoreView) (repository : InMemorySyncRepository)
    (key : String) (artifact : DurableArtifactRecord) : Prop where
  row : repository.artifactByStorageKey key = some artifact
  receipt : repository.hasDurabilityReceipt artifact.artifactId = true
  bytes : ∃ bytes, store.read key = some bytes ∧ env.sha256 bytes = artifact.sha256
  proxy : ∃ assessment proxyArtifactId proxy,
    repository.assessments.get? artifact.artifactId = some assessment ∧
      assessment.state = .accepted ∧ assessment.safeProxyArtifactId = some proxyArtifactId ∧
      repository.proxies.get? proxyArtifactId = some proxy ∧
      InMemorySyncRepository.ProxyProvenance artifact proxy ∧
      ∃ metadata bytes, store.head proxy.storageKey = some metadata ∧
        store.read proxy.storageKey = some bytes ∧ metadata.version = proxy.objectVersion ∧
        metadata.byteLength = bytes.length ∧ proxy.byteLength = bytes.length ∧
        metadata.mediaType = proxy.mediaType ∧ env.sha256 bytes = proxy.sha256

theorem not_proxyDiverges_iff {proxy : SafeProxyRecord} {metadata : StoredObjectMetadata}
    {bytes : Bytes} :
    ¬ proxyDiverges env proxy metadata bytes ↔
      metadata.version = proxy.objectVersion ∧ metadata.byteLength = bytes.length ∧
        proxy.byteLength = bytes.length ∧ metadata.mediaType = proxy.mediaType ∧
        env.sha256 bytes = proxy.sha256 := by
  simp only [proxyDiverges, not_or, not_not]

/-- An accepted original is consistent by its proxy. -/
theorem proxyFinding_consistent_iff {object : StoredObjectMetadata}
    {artifact : DurableArtifactRecord} {assessment : ContentAssessment} :
    (proxyFinding env organizationId store repository object artifact assessment).state =
        .consistent ↔
      ∃ proxyArtifactId proxy, assessment.safeProxyArtifactId = some proxyArtifactId ∧
        repository.proxies.get? proxyArtifactId = some proxy ∧
        InMemorySyncRepository.ProxyProvenance artifact proxy ∧
        ∃ metadata bytes, store.head proxy.storageKey = some metadata ∧
          store.read proxy.storageKey = some bytes ∧ ¬ proxyDiverges env proxy metadata bytes := by
  have hproxy : ∀ proxy,
      (assessment.safeProxyArtifactId.bind repository.proxies.get?).filter
          (fun proxy => InMemorySyncRepository.ProxyProvenance artifact proxy) = some proxy ↔
        ∃ proxyArtifactId, assessment.safeProxyArtifactId = some proxyArtifactId ∧
          repository.proxies.get? proxyArtifactId = some proxy ∧
          InMemorySyncRepository.ProxyProvenance artifact proxy := by
    intro proxy
    rw [Option.filter_eq_some_iff, Option.bind_eq_some_iff, decide_eq_true_eq]
    constructor
    · rintro ⟨⟨id, hid, hget⟩, hprovenance⟩
      exact ⟨id, hid, hget, hprovenance⟩
    · rintro ⟨id, hid, hget, hprovenance⟩
      exact ⟨⟨id, hid, hget⟩, hprovenance⟩
  unfold proxyFinding
  simp only
  split
  · next hnone =>
      constructor
      · intro h
        cases h
      · rintro ⟨id, proxy, hid, hget, hprovenance, -⟩
        cases hnone.symm.trans ((hproxy proxy).mpr ⟨id, hid, hget, hprovenance⟩)
  · next proxy hsome =>
      obtain ⟨id, hid, hget, hprovenance⟩ := (hproxy proxy).mp hsome
      split
      · next metadata bytes hhead hread =>
          split
          · next hdiverges =>
              constructor
              · intro h
                cases h
              · rintro ⟨id', proxy', hid', hget', -, metadata', bytes', hhead', hread', hagrees⟩
                cases hid.symm.trans hid'
                cases hget.symm.trans hget'
                cases hhead.symm.trans hhead'
                cases hread.symm.trans hread'
                exact absurd hdiverges hagrees
          · next hagrees =>
              refine ⟨fun _ => ?_, fun _ => rfl⟩
              exact ⟨id, proxy, hid, hget, hprovenance, metadata, bytes, hhead, hread, hagrees⟩
      · next hmissing =>
          constructor
          · intro h
            cases h
          · rintro ⟨id', proxy', hid', hget', -, metadata', bytes', hhead', hread', -⟩
            cases hid.symm.trans hid'
            cases hget.symm.trans hget'
            exact absurd hread' (hmissing metadata' bytes' hhead')

/-- The state of an object's finding, by how far it gets. -/
theorem objectFinding_consistent_iff {object : StoredObjectMetadata} :
    (objectFinding env organizationId store repository object).state = .consistent ↔
      ∃ artifact, Consistent env store repository object.key artifact := by
  unfold objectFinding
  split
  · next hnone =>
      constructor
      · intro h
        simp only [unclaimedFinding] at h
        split at h <;> cases h
      · rintro ⟨artifact, hconsistent⟩
        cases hnone.symm.trans hconsistent.row
  next artifact hrow =>
  have same : ∀ {other}, Consistent env store repository object.key other → artifact = other := by
    intro other hother
    exact Option.some.inj (hrow.symm.trans hother.row)
  split
  · next hreceipt =>
      constructor
      · intro h
        cases h
      · rintro ⟨other, hother⟩
        cases same hother
        exact absurd hother.receipt hreceipt
  next hreceipt =>
  split
  · next hbytes =>
      constructor
      · intro h
        cases h
      · rintro ⟨other, hother⟩
        cases same hother
        obtain ⟨bytes, hread, hhash⟩ := hother.bytes
        rw [hread, Option.map_some, hhash] at hbytes
        exact absurd rfl hbytes
  next hbytes =>
  rw [ne_eq, not_not, Option.map_eq_some_iff] at hbytes
  split
  · next assessment hassessment =>
      split
      · next hstate =>
          rw [proxyFinding_consistent_iff]
          constructor
          · rintro ⟨id, proxy, hid, hget, hprovenance, metadata, bytes, hhead, hread, hagrees⟩
            exact ⟨artifact, hrow, not_not.mp hreceipt, hbytes, assessment, id, proxy, hassessment,
              hstate, hid, hget, hprovenance, metadata, bytes, hhead, hread,
              not_proxyDiverges_iff.mp hagrees⟩
          · rintro ⟨other, hother⟩
            cases same hother
            obtain ⟨assessment', id, proxy, hassessment', -, hid, hget, hprovenance, metadata, bytes,
              hhead, hread, hagrees⟩ := hother.proxy
            cases hassessment.symm.trans hassessment'
            exact ⟨id, proxy, hid, hget, hprovenance, metadata, bytes, hhead, hread,
              not_proxyDiverges_iff.mpr hagrees⟩
      · next hstate =>
          constructor
          · intro h
            cases h
          · rintro ⟨other, hother⟩
            cases same hother
            obtain ⟨assessment', -, -, hassessment', hstate', -⟩ := hother.proxy
            cases hassessment.symm.trans hassessment'
            exact absurd hstate' hstate
  · next hassessment =>
      constructor
      · intro h
        cases h
      · rintro ⟨other, hother⟩
        cases same hother
        obtain ⟨assessment', -, -, hassessment', -⟩ := hother.proxy
        cases hassessment.symm.trans hassessment'

/-- An object's finding is told apart from that of a row without object. -/
theorem objectFinding_ne_missing (object : StoredObjectMetadata)
    (artifact : DurableArtifactRecord) :
    objectFinding env organizationId store repository object ≠
      missingFinding organizationId artifact := by
  intro h
  have hdetail := congrArg ReconciliationFinding.detail h
  simp only [objectFinding, proxyFinding, unclaimedFinding, missingFinding] at hdetail
  repeat' split at hdetail
  all_goals simp at hdetail

/-- What is found besides objects and rows. -/
def furtherFindings (organizationId : String) (store : ObjectStoreView)
    (repository : InMemorySyncRepository) : List ReconciliationFinding :=
  (repository.duplicateKeys.filter fun key =>
      Js.startsWith key (quarantinePrefix organizationId)).map (duplicateFinding organizationId) ++
    (repository.unknownProviderKeys.map (unknownProviderFinding organizationId) ++
      (unfencedObjects organizationId store repository).map
        (unclaimedFinding organizationId repository
          "Safe-namespace object has no fenced proxy provenance and remains untrusted."))

theorem furtherFindings_state {finding : ReconciliationFinding}
    (h : finding ∈ furtherFindings organizationId store repository) :
    finding.state ≠ .consistent ∧ finding.state ≠ .missingObject := by
  unfold furtherFindings at h
  simp only [List.mem_append, List.mem_map] at h
  rcases h with ⟨key, -, rfl⟩ | ⟨key, -, rfl⟩ | ⟨object, -, rfl⟩
  · simp [duplicateFinding]
  · simp [unknownProviderFinding]
  · unfold unclaimedFinding
    simp only
    split <;> simp

theorem reconcileEvidence_perm :
    (reconcileEvidence env organizationId store repository).Perm
      ((store.list (quarantinePrefix organizationId)).map
          (objectFinding env organizationId store repository) ++
        ((unlistedRows organizationId store repository).map (missingFinding organizationId) ++
          furtherFindings organizationId store repository)) :=
  Sorting.sortBy_perm _ _

/-- A row whose object is not listed is found once. -/
theorem count_missing {artifact : DurableArtifactRecord}
    (hrow : artifact ∈ unlistedRows organizationId store repository) :
    (reconcileEvidence env organizationId store repository).count
      (missingFinding organizationId artifact) = 1 := by
  have hinjective : Set.InjOn (missingFinding organizationId)
      {a | a ∈ unlistedRows organizationId store repository} := by
    intro a ha b hb hab
    have hid : a.artifactId = b.artifactId :=
      Option.some.inj (congrArg ReconciliationFinding.artifactId hab)
    exact List.inj_on_of_nodup_map repository.artifacts.nodup_keys_values
      (List.mem_of_mem_filter ha) (List.mem_of_mem_filter hb) hid
  have hnodup : ((unlistedRows organizationId store repository).map
      (missingFinding organizationId)).Nodup := by
    refine List.Nodup.map_on (fun a ha b hb => hinjective ha hb) ?_
    exact (List.Nodup.of_map _ repository.artifacts.nodup_keys_values).filter _
  rw [reconcileEvidence_perm.count_eq, List.count_append, List.count_append]
  have hobjects : List.count (missingFinding organizationId artifact)
      ((store.list (quarantinePrefix organizationId)).map
        (objectFinding env organizationId store repository)) = 0 := by
    refine List.count_eq_zero.mpr ?_
    intro h
    obtain ⟨object, -, hobject⟩ := List.mem_map.mp h
    exact objectFinding_ne_missing object artifact hobject
  have hrows : List.count (missingFinding organizationId artifact)
      ((unlistedRows organizationId store repository).map (missingFinding organizationId)) = 1 :=
    List.count_eq_one_of_mem hnodup (List.mem_map_of_mem hrow)
  have hfurther : List.count (missingFinding organizationId artifact)
      (furtherFindings organizationId store repository) = 0 := by
    refine List.count_eq_zero.mpr ?_
    intro h
    exact (furtherFindings_state h).2 rfl
  rw [hobjects, hrows, hfurther]

/-- **Reconciliation accounts for everything.** The findings are one for each
listed object, one for each row of the organisation whose object is not
listed, and others that are neither; a finding is consistent just when it is
that of a listed object whose row, receipt, bytes, acceptance and proxy agree. -/
theorem reconciliation_accounts (env : Env) (organizationId : String) (store : ObjectStoreView)
    (repository : InMemorySyncRepository) :
    (∃ others,
      (reconcileEvidence env organizationId store repository).Perm
        ((store.list (quarantinePrefix organizationId)).map
            (objectFinding env organizationId store repository) ++
          ((unlistedRows organizationId store repository).map (missingFinding organizationId) ++
            others)) ∧
      ∀ finding ∈ others, finding.state ≠ .consistent ∧ finding.state ≠ .missingObject) ∧
    (∀ artifact ∈ repository.artifacts.values, artifact.organizationId = organizationId →
      artifact.storageKey ∉ (store.list (quarantinePrefix organizationId)).map (·.key) →
      (reconcileEvidence env organizationId store repository).count
        (missingFinding organizationId artifact) = 1) ∧
    (∀ object, (objectFinding env organizationId store repository object).state = .consistent ↔
      ∃ artifact, Consistent env store repository object.key artifact) ∧
    ∀ finding ∈ reconcileEvidence env organizationId store repository,
      finding.state = .consistent →
        ∃ object ∈ store.list (quarantinePrefix organizationId),
          finding = objectFinding env organizationId store repository object := by
  refine ⟨⟨_, reconcileEvidence_perm, fun _ => furtherFindings_state⟩, ?_,
    fun _ => objectFinding_consistent_iff, ?_⟩
  · intro artifact hartifact horg hunlisted
    refine count_missing (List.mem_filter.mpr ⟨hartifact, ?_⟩)
    exact decide_eq_true ⟨horg, hunlisted⟩
  · intro finding hfinding hstate
    have hmem := reconcileEvidence_perm.mem_iff.mp hfinding
    rcases List.mem_append.mp hmem with hobject | hmem
    · obtain ⟨object, hlisted, rfl⟩ := List.mem_map.mp hobject
      exact ⟨object, hlisted, rfl⟩
    · rcases List.mem_append.mp hmem with hrow | hfurther
      · obtain ⟨artifact, -, rfl⟩ := List.mem_map.mp hrow
        cases hstate
      · exact absurd hstate (furtherFindings_state hfurther).1

end InspectionHub.Storage
