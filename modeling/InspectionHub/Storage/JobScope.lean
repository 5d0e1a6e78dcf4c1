import InspectionHub.Lib.Digest
import InspectionHub.Storage.SyncService

/-!
# What a finalisation may show

A finalisation is let in by the organisation and job of its intent; the row it
returns may be one that another intent committed under the same capture.
-/

namespace InspectionHub.Storage

open Throwing

universe u

/-- The row is of the principal's organisation and one of its jobs. -/
def InScope (principal : SyncPrincipal) (row : DurableArtifactRecord) : Prop :=
  HasTenantJobAccess principal row.organizationId row.jobId

instance (principal : SyncPrincipal) (row : DurableArtifactRecord) :
    Decidable (InScope principal row) :=
  inferInstanceAs (Decidable (HasTenantJobAccess _ _ _))

/-- A finalisation in flight was let in. -/
def Call.LetIn : Call → Prop
  | .observeHead intent (.finalize principal) | .observeRead intent (.finalize principal) _
  | .finalizeRead principal intent _ | .finalizeCommit principal intent _ _ =>
      HasTenantJobAccess principal intent.descriptor.organizationId intent.descriptor.jobId
  | _ => True

variable {env : Env} {τ : Type u}

/-! ## Calls in flight -/

theorem assertTenantJobAccess_ok {principal : SyncPrincipal} {organizationId jobId : String}
    {u : Unit} (h : assertTenantJobAccess principal organizationId jobId = .ok u) :
    HasTenantJobAccess principal organizationId jobId := by
  unfold assertTenantJobAccess at h
  split at h
  · assumption
  · cases h

variable {call : Call}

theorem finalize_letIn {intents : UploadIntents} {principal : SyncPrincipal}
    {intentId uploadToken : String} {now : Int}
    (h : finalize env intents principal intentId uploadToken now = .ok call) : call.LetIn := by
  unfold finalize at h
  obtain ⟨intent, -, h⟩ := bind_ok h
  obtain ⟨_, haccess, h⟩ := bind_ok h
  cases h
  exact assertTenantJobAccess_ok haccess

theorem upload_letIn {intents : UploadIntents} {intentId uploadToken claimedMediaType : String}
    {bytes : Bytes} {now : Int}
    (h : upload env intents intentId uploadToken bytes claimedMediaType now = .ok call) :
    call.LetIn := by
  unfold upload at h
  obtain ⟨intent, -, h⟩ := bind_ok h
  obtain ⟨_, -, h⟩ := bind_ok h
  obtain ⟨_, -, h⟩ := bind_ok h
  obtain ⟨_, -, h⟩ := bind_ok h
  cases h
  trivial

theorem advanceCall_letIn (enqueueTask : Option (TaskSink τ)) (fresh : Fresh)
    (afterObjectPut : Except String Unit) (s : SyncState τ) (h : call.LetIn) :
    (advanceCall env enqueueTask fresh afterObjectPut s call).1.LetIn := by
  cases call with
  | uploadHead | uploadPut | uploadLost | uploadStored =>
      simp only [advanceCall]
      split <;> trivial
  | observeHead intent purpose => cases purpose <;> exact h
  | observeRead intent purpose metadata =>
      simp only [advanceCall]
      split
      · split
        · trivial
        · cases purpose with
          | upload => trivial
          | finalize principal => exact h
      · trivial
  | finalizeRead principal intent metadata =>
      simp only [advanceCall]
      split
      · trivial
      · exact h
  | finalizeCommit =>
      simp only [advanceCall]
      split <;> trivial
  | uploaded | finalized | threw => trivial

theorem advanceCall_calls (enqueueTask : Option (TaskSink τ)) (fresh : Fresh)
    (afterObjectPut : Except String Unit) (s : SyncState τ) (call : Call) :
    (advanceCall env enqueueTask fresh afterObjectPut s call).2.calls = s.calls := by
  cases call with
  | observeHead | uploaded | finalized | threw => rfl
  | uploadHead | uploadPut | uploadLost | uploadStored | finalizeRead | finalizeCommit =>
      simp only [advanceCall]
      split <;> rfl
  | observeRead intent purpose metadata =>
      simp only [advanceCall]
      split
      · split
        · rfl
        · cases purpose <;> rfl
      · rfl

/-! ## Runs -/

/-- Where the calls after a step come from. -/
theorem mem_calls_step {service : SyncService τ} {s : SyncState τ} {step : SyncStep}
    (h : call ∈ (syncStep env service s step).calls) :
    call ∈ s.calls ∨ (∃ e, call = .threw e) ∨
      (∃ intentId uploadToken bytes claimedMediaType now,
        upload env s.intents intentId uploadToken bytes claimedMediaType now = .ok call) ∨
      (∃ principal intentId uploadToken now,
        finalize env s.intents principal intentId uploadToken now = .ok call) ∨
      ∃ before ∈ s.calls, ∃ fresh afterObjectPut,
        call = (advanceCall env service.enqueueTask fresh afterObjectPut s before).1 := by
  have started : ∀ {result}, call ∈ (startCall s result).calls →
      call ∈ s.calls ∨ (∃ e, call = .threw e) ∨ result = .ok call := by
    intro result hcall
    cases result with
    | ok c =>
        rcases List.mem_append.mp hcall with hold | hnew
        · exact .inl hold
        · exact .inr (.inr (congrArg _ (List.mem_singleton.mp hnew).symm))
    | error e =>
        rcases List.mem_append.mp hcall with hold | hnew
        · exact .inl hold
        · exact .inr (.inl ⟨e, List.mem_singleton.mp hnew⟩)
  cases step with
  | issueUploadIntent fresh uploadToken principal descriptor =>
      simp only [syncStep] at h
      split at h <;> exact .inl h
  | upload intentId uploadToken bytes claimedMediaType now =>
      rcases started h with hold | hthrew | hok
      · exact .inl hold
      · exact .inr (.inl hthrew)
      · exact .inr (.inr (.inl ⟨_, _, _, _, _, hok⟩))
  | finalize principal intentId uploadToken now =>
      rcases started h with hold | hthrew | hok
      · exact .inl hold
      · exact .inr (.inl hthrew)
      · exact .inr (.inr (.inr (.inl ⟨_, _, _, _, hok⟩)))
  | advance i fresh afterObjectPut =>
      simp only [syncStep] at h
      split at h
      · exact .inl h
      · next before hbefore =>
          have hcalls : (advanceCall env service.enqueueTask fresh afterObjectPut s before).2.calls =
              s.calls := advanceCall_calls _ _ _ _ _
          rcases List.mem_or_eq_of_mem_set h with hold | hnew
          · rw [hcalls] at hold
            exact .inl hold
          · exact .inr (.inr (.inr (.inr
              ⟨before, List.mem_of_getElem? hbefore, fresh, afterObjectPut, hnew⟩)))

theorem letIn_inductive (service : SyncService τ) (tasks : τ) :
    (syncSystem env service tasks).Inductive TSys.any fun s => ∀ call ∈ s.calls, call.LetIn where
  init := by
    rintro s rfl call hcall
    cases hcall
  step := by
    rintro s step s' hinv - rfl call hcall
    rcases mem_calls_step hcall with hold | ⟨e, rfl⟩ | ⟨_, _, _, _, _, hup⟩ | ⟨_, _, _, _, hfin⟩ |
      ⟨before, hbefore, fresh, afterObjectPut, rfl⟩
    · exact hinv call hold
    · trivial
    · exact upload_letIn hup
    · exact finalize_letIn hfin
    · exact advanceCall_letIn _ _ _ _ (hinv before hbefore)

/-- What a commit returns: the row that holds the capture, or the row of the intent. -/
theorem commit_result {enqueueTask : Option (TaskSink τ)} {fresh : Fresh}
    {repository repository' : InMemorySyncRepository} {input : DurabilityInput}
    {tasks tasks' : τ} {result : DurabilityCommitResult}
    (h : repository.commitVerifiedDurability env enqueueTask fresh input tasks =
      (.ok result, repository', tasks')) :
    repository.captureIndex.get? input.captureKey = some result.artifact ∨
      repository.captureIndex.get? input.captureKey = none ∧
        result.artifact.toUploadDescriptor = input.descriptor := by
  unfold InMemorySyncRepository.commitVerifiedDurability at h
  split at h
  · next existing hexisting =>
      left
      split at h <;> cases h <;> exact hexisting
  · next hnone =>
      right
      refine ⟨hnone, ?_⟩
      split at h
      · cases h
      split at h
      · cases h
        rfl
      · dsimp only at h
        split at h
        · cases h
        · cases h
          rfl

/-- **What a finalisation shows.** Whatever the repository holds, the row that a
finalisation returns is of its caller's organisation and jobs just when the row
that already holds the capture, if there is one, is. -/
theorem finalize_scope_iff {service : SyncService τ} {tasks : τ} {s : SyncState τ}
    (hreach : (syncSystem env service tasks).Reachable TSys.any s) {principal : SyncPrincipal}
    {intent : PersistedUploadIntent} {metadata : StoredObjectMetadata} {bytes : Bytes}
    (hcall : Call.finalizeCommit principal intent metadata bytes ∈ s.calls)
    (repository : InMemorySyncRepository) (fresh : Fresh) (afterObjectPut : Except String Unit)
    {result : DurabilityCommitResult}
    (hreturn : (advanceCall env service.enqueueTask fresh afterObjectPut
      { s with repository := repository }
      (.finalizeCommit principal intent metadata bytes)).1 = .finalized principal result) :
    InScope principal result.artifact ↔
      ∀ row, repository.captureIndex.get?
          (captureKey intent.descriptor.organizationId intent.descriptor.captureId) = some row →
        InScope principal row := by
  have hin := (letIn_inductive service tasks).invariant hreach _ hcall
  simp only [advanceCall] at hreturn
  split at hreturn
  · cases hreturn
  · next committed repository' tasks' hcommit =>
      cases hreturn
      rcases commit_result hcommit with hheld | ⟨hnone, hrow⟩
      · constructor
        · intro hscope row hrow
          have hsame : some result.artifact = some row := hheld.symm.trans hrow
          cases hsame
          exact hscope
        · intro hall
          exact hall _ hheld
      · constructor
        · intro _ row hheld
          cases hnone.symm.trans hheld
        · intro _
          have horg := congrArg UploadDescriptor.organizationId hrow
          have hjob := congrArg UploadDescriptor.jobId hrow
          unfold InScope
          rw [horg, hjob]
          exact hin

/-! ## A capture identifier used in two jobs -/

namespace SharedCapture

def host : Env where
  host := { Js.Host.plain with dateParse := fun _ => some 0 }
  sha256 bytes := hex64 bytes.length

def bytes : Bytes := [255, 216, 255]

def jobOne : SyncPrincipal := ⟨"org-alpha", "inspector-one", ["job-one"]⟩

def jobTwo : SyncPrincipal := ⟨"org-alpha", "inspector-two", ["job-two"]⟩

def descriptor (artifactId jobId : String) : UploadDescriptor where
  artifactId := artifactId
  captureId := "capture-one"
  organizationId := "org-alpha"
  jobId := jobId
  captureSequence := 1
  capturedAt := "2026-07-15T00:00:00.000Z"
  mediaType := "image/jpeg"
  byteLength := 3
  sha256 := hex64 3

def fresh (id : String) : Fresh := ⟨fun _ => 0, fun _ => id⟩

/-- Issue, upload and finalise, the calls of the intent numbered from `call`. -/
def session (principal : SyncPrincipal) (intentId artifactId jobId : String) (call : Nat) :
    List SyncStep :=
  [.issueUploadIntent (fresh intentId) "token" principal (descriptor artifactId jobId),
    .upload intentId "token" bytes "image/jpeg" (-1)] ++
    List.replicate 3 (.advance call (fresh intentId) (.ok ())) ++
    [.finalize principal intentId "token" (-1)] ++
    List.replicate 4 (.advance (call + 1) (fresh intentId) (.ok ()))

def service : SyncService Unit := ⟨300000, none⟩

def both : List SyncStep :=
  session jobOne "intent-one" "artifact-one" "job-one" 0 ++
    session jobTwo "intent-two" "artifact-two" "job-two" 2

def row : DurableArtifactRecord where
  toUploadDescriptor := descriptor "artifact-one" "job-one"
  storageKey := "quarantine/org-alpha/job-one/capture-one/artifact-one.jpg"
  objectVersion := "intent-one"
  observedAt := ""

def final : SyncState Unit := both.foldl (syncStep host service) (.initial ())

theorem final_reachable : (syncSystem host service ()).Reachable TSys.any final :=
  TSys.reachable_foldl _ _ _

/-- A finalisation returns the row of a job its caller is not assigned to. -/
theorem finalize_crosses_jobs :
    (syncSystem host service ()).Reachable TSys.any final ∧
      .finalized jobTwo ⟨.duplicateAttempt, row⟩ ∈ final.calls ∧ ¬ InScope jobTwo row :=
  ⟨final_reachable, by decide +kernel, by decide⟩

/-- The intent of the other job's principal. -/
def intent : PersistedUploadIntent where
  intentId := "intent-two"
  tokenDigest := hex64 5
  storageKey := "quarantine/org-alpha/job-two/capture-one/artifact-two.jpg"
  expiresAt := ""
  descriptor := descriptor "artifact-two" "job-two"
  uploaded := true
  quarantineReasonCode := none

def metadata : StoredObjectMetadata where
  key := "quarantine/org-alpha/job-two/capture-one/artifact-two.jpg"
  version := "intent-two"
  byteLength := 3
  mediaType := "image/jpeg"
  createdAt := ""

/-- Before the second commit. -/
def last : SyncState Unit := both.dropLast.foldl (syncStep host service) (.initial ())

theorem finalize_scope_iff_shared :
    InScope jobTwo row ↔
      ∀ held, last.repository.captureIndex.get? (captureKey "org-alpha" "capture-one") = some held →
        InScope jobTwo held :=
  @finalize_scope_iff host Unit service () last (TSys.reachable_foldl _ _ _) jobTwo intent metadata
    bytes (by decide +kernel) last.repository (fresh "intent-two") (.ok ()) ⟨.duplicateAttempt, row⟩
    (by decide +kernel)

end SharedCapture

end InspectionHub.Storage
