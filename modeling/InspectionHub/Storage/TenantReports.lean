import InspectionHub.Storage.ContentPipeline
import InspectionHub.Storage.Reconciliation

/-!
# Reports of one organisation

Two states of the shared store and repository that agree on what is an
organisation's. Its report is the same in both up to the provider outcomes that
are unknown, which the repository keeps for all organisations together.
-/

namespace InspectionHub.Storage

open Sorting

/-- A row under one of the organisation's keys. -/
def StoredRow (organizationId : String) (repository : InMemorySyncRepository)
    (row : DurableArtifactRecord) : Prop :=
  ∃ key, Js.startsWith key (quarantinePrefix organizationId) = true ∧
    repository.artifactByStorageKey key = some row

/-- The proxy that the acceptance of one of the organisation's rows names. -/
def NamedProxy (organizationId : String) (repository : InMemorySyncRepository)
    (proxyArtifactId : String) : Prop :=
  ∃ row assessment, StoredRow organizationId repository row ∧
    repository.assessments.get? row.artifactId = some assessment ∧
    assessment.safeProxyArtifactId = some proxyArtifactId

/-- The two states hold the same of what is the organisation's. -/
structure AgreeOn (organizationId : String) (e e' : Evidence) : Prop where
  objects : ∀ start ∈ [quarantinePrefix organizationId, safePrefix organizationId],
    (e.store.objects.values.filter fun object => Js.startsWith object.key start) =
      e'.store.objects.values.filter fun object => Js.startsWith object.key start
  rows : (e.repository.artifacts.values.filter fun row => row.organizationId = organizationId) =
    e'.repository.artifacts.values.filter fun row => row.organizationId = organizationId
  storedRows : ∀ key, Js.startsWith key (quarantinePrefix organizationId) = true →
    e.repository.artifactByStorageKey key = e'.repository.artifactByStorageKey key
  receipts : ∀ row, StoredRow organizationId e.repository row →
    e.repository.hasDurabilityReceipt row.artifactId =
      e'.repository.hasDurabilityReceipt row.artifactId
  assessments : ∀ row, StoredRow organizationId e.repository row →
    e.repository.assessments.get? row.artifactId = e'.repository.assessments.get? row.artifactId
  proxies : ∀ id, NamedProxy organizationId e.repository id →
    e.repository.proxies.get? id = e'.repository.proxies.get? id
  proxyObjects : ∀ id proxy, NamedProxy organizationId e.repository id →
    e.repository.proxies.get? id = some proxy →
      e.store.objects.get? proxy.storageKey = e'.store.objects.get? proxy.storageKey
  safeProxies : ∀ key, Js.startsWith key (safePrefix organizationId) = true →
    e.repository.proxyByStorageKey key = e'.repository.proxyByStorageKey key
  duplicateKeys :
    (e.repository.duplicateKeys.filter fun key =>
        Js.startsWith key (quarantinePrefix organizationId)) =
      e'.repository.duplicateKeys.filter fun key =>
        Js.startsWith key (quarantinePrefix organizationId)
  suppressions : ∀ start ∈ [quarantinePrefix organizationId, safePrefix organizationId],
    ∀ key, Js.startsWith key start = true →
      (key ∈ e.repository.deletionSuppressions ↔ key ∈ e'.repository.deletionSuppressions)

variable {env : Env} {organizationId : String} {e e' : Evidence}

/-! ## What agreeing states answer -/

variable {start : String}

theorem list_congr (h : AgreeOn organizationId e e')
    (hstart : start ∈ [quarantinePrefix organizationId, safePrefix organizationId]) :
    e.store.list env start = e'.store.list env start := by
  have filterMap : ∀ store : InMemoryPrivateObjectStore,
      ((store.objects.values.map StoredObject.metadata).filter fun metadata =>
        Js.startsWith metadata.key start) =
      (store.objects.values.filter fun object => Js.startsWith object.key start).map
        StoredObject.metadata := by
    intro store
    rw [List.filter_map]
    rfl
  unfold InMemoryPrivateObjectStore.list
  rw [filterMap, filterMap, h.objects start hstart]

variable {object : StoredObjectMetadata}

theorem list_startsWith {store : InMemoryPrivateObjectStore} (h : object ∈ store.list env start) :
    Js.startsWith object.key start = true := by
  have hmem := (sortBy_perm _ _).mem_iff.mp h
  exact (List.mem_filter.mp hmem).2

theorem read_congr (h : AgreeOn organizationId e e') {key : String}
    (hkey : Js.startsWith key (quarantinePrefix organizationId) = true) :
    e.store.read key = e'.store.read key := by
  have hobjects := h.objects (quarantinePrefix organizationId) List.mem_cons_self
  unfold InMemoryPrivateObjectStore.read
  rw [Table.get?_congr (fun k => Js.startsWith k (quarantinePrefix organizationId)) hobjects hkey]

theorem unclaimedFinding_congr (h : AgreeOn organizationId e e')
    (hstart : start ∈ [quarantinePrefix organizationId, safePrefix organizationId])
    (detail : String) (hkey : Js.startsWith object.key start = true) :
    unclaimedFinding organizationId e.repository detail object =
      unclaimedFinding organizationId e'.repository detail object := by
  unfold unclaimedFinding
  simp only [h.suppressions start hstart object.key hkey]

theorem proxyFinding_congr (h : AgreeOn organizationId e e') {row : DurableArtifactRecord}
    {assessment : ContentAssessment} (hrow : StoredRow organizationId e.repository row)
    (hassessment : e.repository.assessments.get? row.artifactId = some assessment) :
    proxyFinding env organizationId (e.store.view env) e.repository object row assessment =
      proxyFinding env organizationId (e'.store.view env) e'.repository object row assessment := by
  cases hid : assessment.safeProxyArtifactId with
  | none => simp only [proxyFinding, hid, Option.bind_none, Option.filter_none]
  | some id =>
      have hnamed : NamedProxy organizationId e.repository id :=
        ⟨row, assessment, hrow, hassessment, hid⟩
      have hsame := h.proxies id hnamed
      cases hproxy : e.repository.proxies.get? id with
      | none => simp only [proxyFinding, hid, Option.bind_some, ← hsame, hproxy, Option.filter_none]
      | some proxy =>
          have hobject := h.proxyObjects id proxy hnamed hproxy
          simp only [proxyFinding, hid, Option.bind_some, ← hsame, hproxy, Option.filter_some,
            InMemoryPrivateObjectStore.view]
          split
          · rfl
          · next other hother =>
              split at hother
              · cases hother
                simp only [InMemoryPrivateObjectStore.head, InMemoryPrivateObjectStore.read, hobject]
              · cases hother

theorem objectFinding_congr (h : AgreeOn organizationId e e')
    (hkey : Js.startsWith object.key (quarantinePrefix organizationId) = true) :
    objectFinding env organizationId (e.store.view env) e.repository object =
      objectFinding env organizationId (e'.store.view env) e'.repository object := by
  unfold objectFinding
  rw [← h.storedRows object.key hkey]
  cases hrow : e.repository.artifactByStorageKey object.key with
  | none => exact unclaimedFinding_congr h List.mem_cons_self _ hkey
  | some row =>
      have hstored : StoredRow organizationId e.repository row := ⟨object.key, hkey, hrow⟩
      simp only
      rw [← h.receipts row hstored, ← h.assessments row hstored,
        show (e'.store.view env).read object.key = (e.store.view env).read object.key from
          (read_congr h hkey).symm]
      cases hassessment : e.repository.assessments.get? row.artifactId with
      | none => rfl
      | some assessment => simp only [proxyFinding_congr h hstored hassessment]

/-! ## The report -/

theorem unclaimedFinding_known {repository : InMemorySyncRepository} (detail : String)
    (object : StoredObjectMetadata) :
    (unclaimedFinding organizationId repository detail object).state ≠ .unknownProvider := by
  unfold unclaimedFinding
  simp only
  split <;> simp

theorem objectFinding_known {store : ObjectStoreView} {repository : InMemorySyncRepository}
    (object : StoredObjectMetadata) :
    (objectFinding env organizationId store repository object).state ≠ .unknownProvider := by
  intro h
  simp only [objectFinding, proxyFinding, unclaimedFinding] at h
  repeat' split at h
  all_goals simp at h

/-- The findings of a state besides the unknown provider outcomes, before and
after them. -/
theorem collectFindings_congr (h : AgreeOn organizationId e e') :
    ∃ before after,
      (∀ finding ∈ before ++ after, finding.state ≠ .unknownProvider) ∧
      collectFindings env organizationId (e.store.view env) e.repository =
        before ++ (e.repository.unknownProviderKeys.map (unknownProviderFinding organizationId) ++
          after) ∧
      collectFindings env organizationId (e'.store.view env) e'.repository =
        before ++ (e'.repository.unknownProviderKeys.map (unknownProviderFinding organizationId) ++
          after) := by
  have hquarantine : quarantinePrefix organizationId ∈
      [quarantinePrefix organizationId, safePrefix organizationId] := List.mem_cons_self
  have hsafe : safePrefix organizationId ∈
      [quarantinePrefix organizationId, safePrefix organizationId] := by simp
  have hlist : (e'.store.view env).list (quarantinePrefix organizationId) =
      (e.store.view env).list (quarantinePrefix organizationId) := (list_congr h hquarantine).symm
  have hlistSafe : (e'.store.view env).list (safePrefix organizationId) =
      (e.store.view env).list (safePrefix organizationId) := (list_congr h hsafe).symm
  have hobjects : ((e.store.view env).list (quarantinePrefix organizationId)).map
        (objectFinding env organizationId (e'.store.view env) e'.repository) =
      ((e.store.view env).list (quarantinePrefix organizationId)).map
        (objectFinding env organizationId (e.store.view env) e.repository) :=
    List.map_congr_left fun object hobject =>
      (objectFinding_congr h (list_startsWith hobject)).symm
  have hrows : unlistedRows organizationId (e'.store.view env) e'.repository =
      unlistedRows organizationId (e.store.view env) e.repository := by
    have split : ∀ (store : ObjectStoreView) (repository : InMemorySyncRepository),
        unlistedRows organizationId store repository =
          (repository.artifacts.values.filter fun row => row.organizationId = organizationId).filter
            fun row => row.storageKey ∉
              (store.list (quarantinePrefix organizationId)).map (·.key) := by
      intro store repository
      rw [List.filter_filter]
      unfold unlistedRows
      congr 1
      funext row
      rw [← Bool.decide_and]
      exact decide_eq_decide.mpr and_comm
    rw [split, split, hlist, h.rows]
  have hunfenced : unfencedObjects organizationId (e'.store.view env) e'.repository =
      unfencedObjects organizationId (e.store.view env) e.repository := by
    unfold unfencedObjects
    rw [hlistSafe]
    refine List.filter_congr fun object hobject => ?_
    rw [h.safeProxies object.key (list_startsWith hobject)]
  have hunclaimed : ∀ detail,
      ((unfencedObjects organizationId (e.store.view env) e.repository).map
        (unclaimedFinding organizationId e'.repository detail)) =
      (unfencedObjects organizationId (e.store.view env) e.repository).map
        (unclaimedFinding organizationId e.repository detail) := by
    intro detail
    refine List.map_congr_left fun object hobject => ?_
    exact (unclaimedFinding_congr h hsafe detail
      (list_startsWith (List.mem_of_mem_filter hobject))).symm
  refine ⟨((e.store.view env).list (quarantinePrefix organizationId)).map
      (objectFinding env organizationId (e.store.view env) e.repository) ++
        ((unlistedRows organizationId (e.store.view env) e.repository).map
          (missingFinding organizationId) ++
        (e.repository.duplicateKeys.filter fun key =>
          Js.startsWith key (quarantinePrefix organizationId)).map
          (duplicateFinding organizationId)),
    (unfencedObjects organizationId (e.store.view env) e.repository).map
      (unclaimedFinding organizationId e.repository
        "Safe-namespace object has no fenced proxy provenance and remains untrusted."), ?_, ?_, ?_⟩
  · intro finding hfinding
    simp only [List.mem_append, List.mem_map] at hfinding
    rcases hfinding with (⟨object, -, rfl⟩ | ⟨row, -, rfl⟩ | ⟨key, -, rfl⟩) | ⟨object, -, rfl⟩
    · exact objectFinding_known object
    · simp [missingFinding]
    · simp [duplicateFinding]
    · exact unclaimedFinding_known _ object
  · simp only [collectFindings, List.append_assoc]
  · simp only [collectFindings, List.append_assoc, hlist, hobjects, hrows, hunfenced, hunclaimed,
      ← h.duplicateKeys]

/-- Provider keys in the order of their findings. -/
def sortProviderKeys (env : Env) (keys : List String) : List String :=
  sortBy (fun left right => env.host.localeCompare (left ++ ":" ++ "unknown_provider")
    (right ++ ":" ++ "unknown_provider")) keys

theorem compareFindings_trans (hcollation : Std.TransCmp env.host.localeCompare) :
    Std.TransCmp (compareFindings env) :=
  transCmp_comap fun finding : ReconciliationFinding => finding.key ++ ":" ++ finding.state.text

/-- Sorting provider findings is sorting their keys. -/
theorem sortBy_providerFindings (keys : List String) :
    sortBy (compareFindings env) (keys.map (unknownProviderFinding organizationId)) =
      (sortProviderKeys env keys).map (unknownProviderFinding organizationId) :=
  (map_sortBy (compareFindings env) (unknownProviderFinding organizationId) keys).symm

theorem unknownProviderFinding_injective :
    Function.Injective (unknownProviderFinding organizationId) :=
  fun _ _ h => congrArg ReconciliationFinding.key h

/-- The provider findings of a report. -/
theorem filter_reconcileEvidence (hcollation : Std.TransCmp env.host.localeCompare)
    {before after : List ReconciliationFinding} {keys : List String}
    (hknown : ∀ finding ∈ before ++ after, finding.state ≠ .unknownProvider) :
    (sortBy (compareFindings env)
        (before ++ (keys.map (unknownProviderFinding organizationId) ++ after))).filter
        (fun finding => finding.state = .unknownProvider) =
      (sortProviderKeys env keys).map (unknownProviderFinding organizationId) := by
  have htrans := compareFindings_trans hcollation
  have hbefore : before.filter (fun finding => finding.state = .unknownProvider) = [] :=
    List.filter_eq_nil_iff.mpr fun finding h => by
      simpa using hknown finding (List.mem_append_left _ h)
  have hafter : after.filter (fun finding => finding.state = .unknownProvider) = [] :=
    List.filter_eq_nil_iff.mpr fun finding h => by
      simpa using hknown finding (List.mem_append_right _ h)
  have hkeys : (keys.map (unknownProviderFinding organizationId)).filter
      (fun finding => finding.state = .unknownProvider) =
        keys.map (unknownProviderFinding organizationId) := by
    refine List.filter_eq_self.mpr fun finding h => ?_
    obtain ⟨key, -, rfl⟩ := List.mem_map.mp h
    rfl
  rw [filter_sortBy, List.filter_append, List.filter_append, hbefore, hafter, hkeys,
    List.nil_append, List.append_nil, sortBy_providerFindings]

/-- **Reports and other organisations.** Where two states agree on what is an
organisation's, its findings are the same just when the unknown provider keys
of all organisations are. -/
theorem findings_agree_iff (hcollation : Std.TransCmp env.host.localeCompare)
    (hagree : AgreeOn organizationId e e') :
    reconcileEvidence env organizationId (e.store.view env) e.repository =
        reconcileEvidence env organizationId (e'.store.view env) e'.repository ↔
      sortProviderKeys env e.repository.unknownProviderKeys =
        sortProviderKeys env e'.repository.unknownProviderKeys := by
  have htrans := compareFindings_trans hcollation
  obtain ⟨before, after, hknown, hcollect, hcollect'⟩ := @collectFindings_congr env _ _ _ hagree
  unfold reconcileEvidence
  rw [hcollect, hcollect']
  constructor
  · intro h
    have hfilter := congrArg (List.filter fun finding => finding.state = .unknownProvider) h
    rw [filter_reconcileEvidence hcollation hknown, filter_reconcileEvidence hcollation hknown] at hfilter
    exact List.map_injective_iff.mpr unknownProviderFinding_injective hfilter
  · intro h
    refine sortBy_replace ?_ before after
    rw [sortBy_providerFindings, sortBy_providerFindings, h]

/-! ## The provider outcome of another organisation -/

namespace ForeignProvider

def host : Env where
  host := Js.Host.plain
  sha256 _ := ""

def before : Evidence := ⟨.empty, {}⟩

/-- After another organisation's call to a provider ended without an answer. -/
def after : Evidence :=
  ⟨.empty, before.repository.recordUnknownProvider "provider/openai/org-beta/run-one"⟩

theorem before_after : AgreeOn "org-alpha" before after where
  objects _ _ := rfl
  rows := rfl
  storedRows _ _ := rfl
  receipts _ _ := rfl
  assessments _ _ := rfl
  proxies _ _ := rfl
  proxyObjects _ _ _ _ := rfl
  safeProxies _ _ := rfl
  duplicateKeys := rfl
  suppressions _ _ _ _ := Iff.rfl

/-- The outcome turns up in the report of an organisation that has nothing. -/
theorem foreign_provider_reported :
    AgreeOn "org-alpha" before after ∧
      reconcileEvidence host "org-alpha" (before.store.view host) before.repository = [] ∧
      reconcileEvidence host "org-alpha" (after.store.view host) after.repository =
        [unknownProviderFinding "org-alpha" "provider/openai/org-beta/run-one"] :=
  ⟨before_after, by decide +kernel, by decide +kernel⟩

theorem findings_agree_iff_foreign :
    reconcileEvidence host "org-alpha" (before.store.view host) before.repository =
        reconcileEvidence host "org-alpha" (after.store.view host) after.repository ↔
      sortProviderKeys host [] = sortProviderKeys host ["provider/openai/org-beta/run-one"] :=
  findings_agree_iff (inferInstanceAs (Std.TransCmp (compare : String → String → Ordering)))
    before_after

end ForeignProvider

end InspectionHub.Storage
