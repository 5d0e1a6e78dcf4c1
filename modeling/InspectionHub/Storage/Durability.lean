import InspectionHub.Lib.Separated
import InspectionHub.Storage.JobScope
import InspectionHub.TaskQueue.Tenants

/-!
# Durable evidence

Every interleaving of issuing, uploading and finalising keeps the committed
rows true to the objects they name: the store only grows, a call carries what
it saw in it, and a commit writes the row, its event, its message and its task
together or not at all.
-/

namespace InspectionHub.Storage

open Throwing

universe u

variable {env : Env} {τ : Type u}

/-! ## The store only grows -/

/-- What `store` holds, `store'` holds. -/
def InMemoryPrivateObjectStore.Grows (store store' : InMemoryPrivateObjectStore) : Prop :=
  ∀ key object, store.objects.get? key = some object → store'.objects.get? key = some object

theorem advanceCall_grows (enqueueTask : Option (TaskSink τ)) (fresh : Fresh)
    (afterObjectPut : Except String Unit) (s : SyncState τ) (call : Call) :
    s.store.Grows (advanceCall env enqueueTask fresh afterObjectPut s call).2.store := by
  cases call with
  | observeHead | uploaded | finalized | threw => exact fun _ _ h => h
  | uploadHead | uploadLost | uploadStored | finalizeRead | finalizeCommit =>
      simp only [advanceCall]
      split <;> exact fun _ _ h => h
  | observeRead intent purpose metadata =>
      simp only [advanceCall]
      split
      · split
        · exact fun _ _ h => h
        · cases purpose <;> exact fun _ _ h => h
      · exact fun _ _ h => h
  | uploadPut intent bytes mediaType =>
      simp only [advanceCall]
      split
      · exact fun _ _ h => h
      · next metadata store hput =>
          obtain ⟨hfree, -, -, -, -, -, hothers⟩ := InMemoryPrivateObjectStore.putImmutable_ok hput
          intro key object hobject
          have hne : key ≠ intent.storageKey := by
            rintro rfl
            cases hfree.symm.trans hobject
          exact (hothers key hne).trans hobject

theorem syncStep_grows (service : SyncService τ) (s : SyncState τ) (step : SyncStep) :
    s.store.Grows (syncStep env service s step).store := by
  cases step with
  | issueUploadIntent =>
      simp only [syncStep]
      split <;> exact fun _ _ h => h
  | upload =>
      simp only [syncStep]
      cases upload env _ _ _ _ _ _ <;> exact fun _ _ h => h
  | finalize =>
      simp only [syncStep]
      cases finalize env _ _ _ _ _ <;> exact fun _ _ h => h
  | advance i fresh afterObjectPut =>
      simp only [syncStep]
      split
      · exact fun _ _ h => h
      · exact advanceCall_grows _ _ _ _ _

/-! ## What a call has seen -/

/-- The intent was issued for a descriptor that passes the checks. -/
structure Issued (env : Env) (intent : PersistedUploadIntent) : Prop where
  valid : validateDescriptor env intent.descriptor = .ok ()

/-- The store holds an object that is what the intent describes. -/
structure Holds (env : Env) (store : InMemoryPrivateObjectStore) (intent : PersistedUploadIntent)
    (object : StoredObject) : Prop where
  stored : store.objects.get? intent.storageKey = some object
  sha256 : env.sha256 object.bytes = intent.descriptor.sha256
  byteLength : (object.bytes.length : ℚ) = intent.descriptor.byteLength
  metadata : object.metadata.byteLength = object.bytes.length

theorem Holds.grows {store store' : InMemoryPrivateObjectStore} {intent : PersistedUploadIntent}
    {object : StoredObject} (h : Holds env store intent object) (hgrows : store.Grows store') :
    Holds env store' intent object :=
  { h with stored := hgrows _ _ h.stored }

/-- A call in flight is for an issued intent, and saw what the store still holds. -/
def Call.Saw (env : Env) (store : InMemoryPrivateObjectStore) : Call → Prop
  | .uploadHead intent _ _ | .uploadPut intent _ _ | .uploadLost intent _
  | .uploadStored intent _ | .observeHead intent _ => Issued env intent
  | .observeRead intent _ metadata =>
      Issued env intent ∧ ∀ seen, metadata = some seen →
        ∃ object, store.objects.get? intent.storageKey = some object ∧ object.metadata = seen
  | .finalizeRead _ intent metadata =>
      Issued env intent ∧ ∃ object, Holds env store intent object ∧ object.metadata = metadata
  | .finalizeCommit _ intent metadata bytes =>
      Issued env intent ∧
        ∃ object, Holds env store intent object ∧ object.metadata = metadata ∧
          object.bytes = bytes
  | .uploaded _ | .finalized _ _ | .threw _ => True

theorem Call.Saw.grows {store store' : InMemoryPrivateObjectStore} {call : Call}
    (h : call.Saw env store) (hgrows : store.Grows store') : call.Saw env store' := by
  cases call with
  | uploadHead | uploadPut | uploadLost | uploadStored | observeHead => exact h
  | uploaded | finalized | threw => trivial
  | observeRead intent purpose metadata =>
      refine ⟨h.1, fun seen hseen => ?_⟩
      obtain ⟨object, hobject, hmetadata⟩ := h.2 seen hseen
      exact ⟨object, hgrows _ _ hobject, hmetadata⟩
  | finalizeRead principal intent metadata =>
      obtain ⟨hissued, object, hholds, hmetadata⟩ := h
      exact ⟨hissued, object, hholds.grows hgrows, hmetadata⟩
  | finalizeCommit principal intent metadata bytes =>
      obtain ⟨hissued, object, hholds, hseen⟩ := h
      exact ⟨hissued, object, hholds.grows hgrows, hseen⟩

theorem head_eq_some {store : InMemoryPrivateObjectStore} {key : String}
    {metadata : StoredObjectMetadata} (h : store.head key = some metadata) :
    ∃ object, store.objects.get? key = some object ∧ object.metadata = metadata :=
  Option.map_eq_some_iff.mp h

theorem read_eq_some {store : InMemoryPrivateObjectStore} {key : String} {bytes : Bytes}
    (h : store.read key = some bytes) :
    ∃ object, store.objects.get? key = some object ∧ object.bytes = bytes :=
  Option.map_eq_some_iff.mp h

theorem not_diverged {intent : PersistedUploadIntent} {metadata : StoredObjectMetadata}
    {bytes : Bytes} (h : ¬ diverged env intent metadata bytes) :
    metadata.byteLength = bytes.length ∧ intent.descriptor.byteLength = bytes.length ∧
      intent.descriptor.sha256 = env.sha256 bytes := by
  simp only [diverged, not_or, not_not] at h
  exact ⟨h.2.2.1, h.2.2.2.1, h.2.2.2.2⟩

theorem advanceCall_saw (enqueueTask : Option (TaskSink τ)) (fresh : Fresh)
    (afterObjectPut : Except String Unit) (s : SyncState τ) {call : Call}
    (h : call.Saw env s.store) :
    (advanceCall env enqueueTask fresh afterObjectPut s call).1.Saw env s.store := by
  cases call with
  | uploaded | finalized | threw => trivial
  | uploadHead | uploadPut | uploadLost =>
      simp only [advanceCall]
      split
      · exact h
      · first | exact h | trivial
  | uploadStored | finalizeCommit =>
      simp only [advanceCall]
      split <;> trivial
  | observeHead intent purpose => exact ⟨h, fun seen hseen => head_eq_some hseen⟩
  | observeRead intent purpose metadata =>
      simp only [advanceCall]
      split
      · next seen bytes hread =>
          split
          · trivial
          · next hexact =>
              cases purpose with
              | upload => trivial
              | finalize principal =>
                  obtain ⟨object, hobject, hmetadata⟩ := h.2 seen rfl
                  obtain ⟨object', hobject', hbytes⟩ := read_eq_some hread
                  cases hobject.symm.trans hobject'
                  obtain ⟨hlength, hdescribed, hhash⟩ := not_diverged hexact
                  subst hmetadata hbytes
                  exact ⟨h.1, object, ⟨hobject, hhash.symm, hdescribed.symm, hlength⟩, rfl⟩
      · trivial
  | finalizeRead principal intent metadata =>
      simp only [advanceCall]
      obtain ⟨hissued, object, hholds, hmetadata⟩ := h
      split
      · trivial
      · next bytes hread =>
          obtain ⟨object', hobject', hbytes⟩ := read_eq_some hread
          cases hholds.stored.symm.trans hobject'
          exact ⟨hissued, object, hholds, hmetadata, hbytes⟩

/-! ## Issued intents -/

theorem issueUploadIntent_ok {ttl : Int} {fresh : Fresh} {uploadToken : String}
    {intents intents' : UploadIntents} {principal : SyncPrincipal} {descriptor : UploadDescriptor}
    {issued : UploadIntent}
    (h : issueUploadIntent env ttl fresh uploadToken intents principal descriptor =
      .ok (issued, intents')) :
    ∃ persisted, intents' = intents.put persisted ∧ Issued env persisted := by
  unfold issueUploadIntent at h
  obtain ⟨_, hvalid, h⟩ := bind_ok h
  obtain ⟨_, -, h⟩ := bind_ok h
  cases h
  exact ⟨_, rfl, ⟨hvalid⟩⟩

theorem authoriseIntent_ok {intents : UploadIntents} {intentId uploadToken : String} {now : Int}
    {allowExpiredAfterUpload : Bool} {intent : PersistedUploadIntent}
    (h : authoriseIntent env intents intentId uploadToken now allowExpiredAfterUpload =
      .ok intent) : intents.get? intentId = some intent := by
  unfold authoriseIntent at h
  split at h
  · next found hfound =>
      obtain ⟨_, -, h⟩ := bind_ok h
      obtain ⟨_, -, h⟩ := bind_ok h
      cases h
      exact hfound
  · cases h

/-- Every kept intent was issued. -/
def AllIssued (env : Env) (intents : UploadIntents) : Prop :=
  ∀ intentId intent, intents.get? intentId = some intent → Issued env intent

theorem AllIssued.put {intents : UploadIntents} (h : AllIssued env intents)
    {intent : PersistedUploadIntent} (hissued : Issued env intent) :
    AllIssued env (intents.put intent) := by
  intro intentId other hother
  rw [Table.get?_put] at hother
  split at hother
  · cases hother
    exact hissued
  · exact h intentId other hother

theorem AllIssued.note {intents : UploadIntents} (h : AllIssued env intents)
    (intent : PersistedUploadIntent) (note : PersistedUploadIntent → PersistedUploadIntent)
    (hnote : ∀ intent, (note intent).descriptor = intent.descriptor) :
    AllIssued env (noteIntent intents intent note) := by
  unfold noteIntent
  split
  · next current hcurrent =>
      refine h.put ⟨?_⟩
      rw [hnote]
      exact (h _ _ hcurrent).valid
  · exact h

theorem advanceCall_issued (enqueueTask : Option (TaskSink τ)) (fresh : Fresh)
    (afterObjectPut : Except String Unit) {s : SyncState τ} (h : AllIssued env s.intents)
    (call : Call) :
    AllIssued env (advanceCall env enqueueTask fresh afterObjectPut s call).2.intents := by
  cases call with
  | observeHead | uploaded | finalized | threw => exact h
  | uploadHead | uploadPut | uploadLost | finalizeRead | finalizeCommit =>
      simp only [advanceCall]
      split <;> exact h
  | uploadStored intent version =>
      simp only [advanceCall]
      split
      · exact h
      · exact h.note _ _ fun _ => rfl
  | observeRead intent purpose metadata =>
      simp only [advanceCall]
      split
      · split
        · exact h.note _ _ fun _ => rfl
        · cases purpose <;> exact h.note _ _ fun _ => rfl
      · exact h

theorem upload_saw {intents : UploadIntents} (hissued : AllIssued env intents)
    {intentId uploadToken claimedMediaType : String} {bytes : Bytes} {now : Int} {call : Call}
    (h : upload env intents intentId uploadToken bytes claimedMediaType now = .ok call)
    (store : InMemoryPrivateObjectStore) : call.Saw env store := by
  unfold upload at h
  obtain ⟨intent, hintent, h⟩ := bind_ok h
  obtain ⟨_, -, h⟩ := bind_ok h
  obtain ⟨_, -, h⟩ := bind_ok h
  obtain ⟨_, -, h⟩ := bind_ok h
  cases h
  exact hissued _ _ (authoriseIntent_ok hintent)

theorem finalize_saw {intents : UploadIntents} (hissued : AllIssued env intents)
    {principal : SyncPrincipal} {intentId uploadToken : String} {now : Int} {call : Call}
    (h : finalize env intents principal intentId uploadToken now = .ok call)
    (store : InMemoryPrivateObjectStore) : call.Saw env store := by
  unfold finalize at h
  obtain ⟨intent, hintent, h⟩ := bind_ok h
  obtain ⟨_, -, h⟩ := bind_ok h
  cases h
  exact hissued _ _ (authoriseIntent_ok hintent)

/-! ## The commit -/

/-- No row is written: only events that are not of a commit. -/
structure Quiet (repository repository' : InMemorySyncRepository) : Prop where
  artifacts : repository'.artifacts = repository.artifacts
  captureIndex : repository'.captureIndex = repository.captureIndex
  outbox : repository'.outbox = repository.outbox
  events : ∃ further, repository'.events = repository.events ++ further ∧
    ∀ event ∈ further, event.eventType ≠ .durabilityVerified

theorem Quiet.refl (repository : InMemorySyncRepository) : Quiet repository repository :=
  ⟨rfl, rfl, rfl, [], (List.append_nil _).symm, fun _ h => nomatch h⟩

/-- What the sink was asked, and how it answered. -/
inductive Asked (enqueueTask : Option (TaskSink τ)) (artifact : DurableArtifactRecord)
    (tasks : τ) : Option (Except String DurabilityTaskReceipt) → τ → Prop where
  | unbound (h : enqueueTask = none) : Asked enqueueTask artifact tasks none tasks
  | bound {sink : TaskSink τ} {answer : Except String DurabilityTaskReceipt} {tasks' : τ}
      (h : enqueueTask = some sink)
      (hanswer : sink (InMemorySyncRepository.taskIntent artifact) tasks = (answer, tasks')) :
      Asked enqueueTask artifact tasks (some answer) tasks'

/-- A commit writes no row and leaves the tasks, or is refused by the sink, or
writes the row of its input. -/
theorem commit_cases {enqueueTask : Option (TaskSink τ)} {fresh : Fresh}
    {repository repository' : InMemorySyncRepository} {input : DurabilityInput} {tasks tasks' : τ}
    {result : Except String DurabilityCommitResult}
    (h : repository.commitVerifiedDurability env enqueueTask fresh input tasks =
      (result, repository', tasks')) :
    Quiet repository repository' ∧ tasks' = tasks ∨
      (repository' = repository ∧ ∃ e, Asked enqueueTask
        (InMemorySyncRepository.newArtifact env fresh input) tasks (some (.error e)) tasks') ∨
      (repository.captureIndex.get? input.captureKey = none ∧
        repository.artifacts.get? input.descriptor.artifactId = none ∧
        ∃ receipt, repository' = repository.record env fresh input receipt ∧
          Asked enqueueTask (InMemorySyncRepository.newArtifact env fresh input) tasks
            (receipt.map .ok) tasks') := by
  unfold InMemorySyncRepository.commitVerifiedDurability at h
  split at h
  · left
    split at h
    · cases h
      exact ⟨⟨rfl, rfl, rfl, _, rfl, by simp⟩, rfl⟩
    · cases h
      exact ⟨⟨rfl, rfl, rfl, _, rfl, by simp⟩, rfl⟩
  next hcapture =>
  split at h
  · cases h
    exact .inl ⟨.refl _, rfl⟩
  next hartifact =>
  have hunused := Option.not_isSome_iff_eq_none.mp hartifact
  split at h
  · cases h
    exact .inr (.inr ⟨hcapture, hunused, none, rfl, .unbound rfl⟩)
  next sink =>
  dsimp only at h
  split at h
  · next e tasks'' hanswer =>
      cases h
      exact .inr (.inl ⟨rfl, e, .bound rfl hanswer⟩)
  · next receipt tasks'' hanswer =>
      cases h
      exact .inr (.inr ⟨hcapture, hunused, some receipt, rfl, .bound rfl hanswer⟩)

/-! ## Rows, events and messages -/

/-- The row describes the object under its key. -/
structure Durable (env : Env) (store : InMemoryPrivateObjectStore)
    (row : DurableArtifactRecord) (object : StoredObject) : Prop where
  stored : store.objects.get? row.storageKey = some object
  sha256 : env.sha256 object.bytes = row.sha256
  byteLength : (object.bytes.length : ℚ) = row.byteLength
  metadata : object.metadata.byteLength = object.bytes.length
  objectVersion : object.metadata.version = row.objectVersion

def isDurabilityEvent (artifactId : String) (event : SafeSyncEvent) : Bool :=
  event.eventType = .durabilityVerified ∧ event.aggregateId = artifactId

/-- One for a stored row, none otherwise. -/
def once (repository : InMemorySyncRepository) (artifactId : String) : Nat :=
  if (repository.artifacts.get? artifactId).isSome then 1 else 0

/-- What holds of the repository over the store. -/
structure RowsInv (env : Env) (store : InMemoryPrivateObjectStore)
    (repository : InMemorySyncRepository) : Prop where
  durable : ∀ row ∈ repository.artifacts.values, ∃ object, Durable env store row object
  segment : ∀ row ∈ repository.artifacts.values, isSafePathSegment row.organizationId = true
  captured : ∀ row ∈ repository.artifacts.values,
    repository.captureIndex.get? row.captureKey = some row
  events : ∀ artifactId, repository.events.countP (isDurabilityEvent artifactId) =
    once repository artifactId
  outbox : ∀ artifactId, repository.outbox.countP (fun m => m.aggregateId = artifactId) =
    once repository artifactId

theorem RowsInv.grows {store store' : InMemoryPrivateObjectStore}
    {repository : InMemorySyncRepository} (h : RowsInv env store repository)
    (hgrows : store.Grows store') : RowsInv env store' repository :=
  { h with
    durable := fun row hrow => by
      obtain ⟨object, hobject⟩ := h.durable row hrow
      exact ⟨object, { hobject with stored := hgrows _ _ hobject.stored }⟩ }

theorem RowsInv.quiet {store : InMemoryPrivateObjectStore}
    {repository repository' : InMemorySyncRepository} (h : RowsInv env store repository)
    (hquiet : Quiet repository repository') : RowsInv env store repository' := by
  obtain ⟨hartifacts, hcapture, houtbox, further, hevents, hfurther⟩ := hquiet
  have honce : ∀ id, once repository' id = once repository id := by
    intro id
    rw [once, hartifacts]
    rfl
  refine ⟨?_, ?_, ?_, ?_, ?_⟩
  · rw [hartifacts]
    exact h.durable
  · rw [hartifacts]
    exact h.segment
  · rw [hartifacts, hcapture]
    exact h.captured
  · intro id
    have hnone : further.countP (isDurabilityEvent id) = 0 := by
      rw [List.countP_eq_zero]
      intro event hevent
      simp [isDurabilityEvent, hfurther event hevent]
    rw [hevents, List.countP_append, hnone, honce, Nat.add_zero, h.events]
  · intro id
    rw [houtbox, honce, h.outbox]

theorem mem_values_put {row new : DurableArtifactRecord}
    {artifacts : Table String DurableArtifactRecord (·.artifactId)}
    (h : row ∈ (artifacts.put new).values) : row = new ∨ row ∈ artifacts.values := by
  rw [Table.mem_values_iff, Table.get?_put] at h
  split at h
  · exact .inl (Option.some.inj h).symm
  · exact .inr ((Table.mem_values_iff _ _).mpr h)

theorem validateDescriptor_organization {descriptor : UploadDescriptor}
    (h : validateDescriptor env descriptor = .ok ()) :
    isSafePathSegment descriptor.organizationId = true := by
  unfold validateDescriptor at h
  obtain ⟨_, hsegment, -⟩ := bind_ok h
  unfold safePathSegment at hsegment
  split at hsegment
  · assumption
  · cases hsegment

section Record

variable {store : InMemoryPrivateObjectStore} {repository : InMemorySyncRepository}
  {fresh : Fresh} {input : DurabilityInput} (receipt : Option DurabilityTaskReceipt)

theorem once_record (artifactId : String)
    (hunused : repository.artifacts.get? input.descriptor.artifactId = none) :
    once (repository.record env fresh input receipt) artifactId =
      once repository artifactId + if input.descriptor.artifactId = artifactId then 1 else 0 := by
  have hget : (repository.record env fresh input receipt).artifacts.get? artifactId =
      if artifactId = input.descriptor.artifactId then
        some (InMemorySyncRepository.newArtifact env fresh input)
      else repository.artifacts.get? artifactId := Table.get?_put _ _ _
  unfold once
  rw [hget]
  by_cases hid : artifactId = input.descriptor.artifactId
  · rw [if_pos hid, if_pos hid.symm, hid, hunused]
    rfl
  · have hother : ¬ input.descriptor.artifactId = artifactId := fun h => hid h.symm
    rw [if_neg hid, if_neg hother, Nat.add_zero]

/-- A commit keeps the rows true, and adds one event and one message. -/
theorem RowsInv.record (h : RowsInv env store repository)
    (hcapture : repository.captureIndex.get? input.captureKey = none)
    (hunused : repository.artifacts.get? input.descriptor.artifactId = none)
    (hvalid : validateDescriptor env input.descriptor = .ok ()) {object : StoredObject}
    (hobject : Durable env store (InMemorySyncRepository.newArtifact env fresh input) object) :
    RowsInv env store (repository.record env fresh input receipt) := by
  have hcases : ∀ row ∈ (repository.record env fresh input receipt).artifacts.values,
      row = InMemorySyncRepository.newArtifact env fresh input ∨
        row ∈ repository.artifacts.values := fun row hrow => mem_values_put hrow
  refine ⟨?_, ?_, ?_, ?_, ?_⟩
  · intro row hrow
    rcases hcases row hrow with rfl | hold
    · exact ⟨object, hobject⟩
    · exact h.durable row hold
  · intro row hrow
    rcases hcases row hrow with rfl | hold
    · exact validateDescriptor_organization hvalid
    · exact h.segment row hold
  · intro row hrow
    have hget : (repository.record env fresh input receipt).captureIndex.get? row.captureKey =
        if row.captureKey = input.captureKey then
          some (InMemorySyncRepository.newArtifact env fresh input)
        else repository.captureIndex.get? row.captureKey := Table.get?_put _ _ _
    rw [hget]
    rcases hcases row hrow with rfl | hold
    · exact if_pos rfl
    · rw [if_neg, h.captured row hold]
      intro hsame
      have hheld := h.captured row hold
      rw [hsame, hcapture] at hheld
      cases hheld
  · intro id
    rw [once_record receipt id hunused]
    have hevents : (repository.record env fresh input receipt).events.countP
          (isDurabilityEvent id) =
        repository.events.countP (isDurabilityEvent id) +
          if input.descriptor.artifactId = id then 1 else 0 := by
      unfold InMemorySyncRepository.record InMemorySyncRepository.appendEvent
      simp only [List.countP_append, List.countP_singleton, isDurabilityEvent, true_and,
        decide_eq_true_eq, InMemorySyncRepository.newArtifact]
    rw [hevents, h.events]
  · intro id
    rw [once_record receipt id hunused]
    have houtbox : (repository.record env fresh input receipt).outbox.countP
          (fun m => m.aggregateId = id) =
        repository.outbox.countP (fun m => m.aggregateId = id) +
          if input.descriptor.artifactId = id then 1 else 0 := by
      unfold InMemorySyncRepository.record InMemorySyncRepository.appendEvent
      simp only [List.countP_append, List.countP_singleton, decide_eq_true_eq,
        InMemorySyncRepository.outboxRecord, InMemorySyncRepository.newArtifact]
    rw [houtbox, h.outbox]

end Record

/-! ## The follow-up task -/

section Tasks

variable (tenv : TaskQueue.Env)

/-- The queue's `enqueue` as a task sink. -/
def queueSink : TaskSink TaskQueue.Queue := fun intent queue =>
  let (answer, queue) := queue.enqueue tenv
    { organizationId := intent.organizationId
      taskType := intent.taskType
      aggregateType := intent.aggregateType
      aggregateId := intent.aggregateId
      idempotencyKey := intent.idempotencyKey
      requestFingerprint := intent.requestFingerprint }
  (answer.map fun (task, replayed) => ⟨task.taskId, replayed⟩, queue)

/-- The queue bound as the sink, or no sink. -/
def sinkOf (bound : Bool) : Option (TaskSink TaskQueue.Queue) :=
  if bound then some (queueSink tenv) else none

/-- What the outbox says of the follow-up of a row. -/
def Dispatched (bound : Bool) (queue : TaskQueue.Queue) (message : SyncOutboxRecord) : Prop :=
  if bound then
    message.state = .observedSuccess ∧
      ∃ task ∈ queue.tasks.values, message.taskId = some task.taskId ∧
        task.aggregateId = message.aggregateId
  else message.state = .pendingDispatch ∧ message.taskId = none

/-- The queue holds the follow-up task of each row, and no other. -/
structure Tracks (repository : InMemorySyncRepository) (queue : TaskQueue.Queue) : Prop where
  indexed : TaskQueue.Indexed queue
  owned : ∀ task ∈ queue.tasks.values, ∃ row ∈ repository.artifacts.values,
    task.aggregateId = row.artifactId ∧ task.organizationId = row.organizationId ∧
      task.idempotencyKey = "content:" ++ row.artifactId
  tasks : ∀ artifactId, queue.tasks.values.countP (fun t => t.aggregateId = artifactId) =
    once repository artifactId

variable {tenv : TaskQueue.Env} {repository : InMemorySyncRepository} {queue queue' : TaskQueue.Queue}

/-- The request a sink passes on. -/
def enqueueRequest (intent : DurabilityTaskIntent) : TaskQueue.EnqueueTask where
  organizationId := intent.organizationId
  taskType := intent.taskType
  aggregateType := intent.aggregateType
  aggregateId := intent.aggregateId
  idempotencyKey := intent.idempotencyKey
  requestFingerprint := intent.requestFingerprint

theorem queueSink_eq (intent : DurabilityTaskIntent) :
    queueSink tenv intent queue =
      ((queue.enqueue tenv (enqueueRequest intent)).1.map fun r => ⟨r.1.taskId, r.2⟩,
        (queue.enqueue tenv (enqueueRequest intent)).2) := rfl

/-- A refused request leaves the queue. -/
theorem queueSink_refused {intent : DurabilityTaskIntent} {e : String}
    (h : queueSink tenv intent queue = (.error e, queue')) :
    TaskQueue.SameContents queue queue' := by
  rw [queueSink_eq] at h
  obtain ⟨hanswer, hqueue⟩ := Prod.mk.inj h
  subst hqueue
  cases hreply : (queue.enqueue tenv (enqueueRequest intent)).1 with
  | error e' => exact TaskQueue.enqueue_clean tenv queue (enqueueRequest intent) e' hreply
  | ok reply =>
      rw [hreply] at hanswer
      cases hanswer

/-- An answered request that is not indexed stores its task. -/
theorem queueSink_stores {intent : DurabilityTaskIntent} {receipt : DurabilityTaskReceipt}
    (h : queueSink tenv intent queue = (.ok receipt, queue'))
    (hnone : queue.idempotencyIndex.get? (enqueueRequest intent).indexKey = none) :
    ∃ now, queue.tasks.get? receipt.taskId = none ∧ queue'.tasks = queue.tasks.set receipt.taskId
      (TaskQueue.Queue.newTask (enqueueRequest intent) receipt.taskId now) := by
  rw [queueSink_eq] at h
  obtain ⟨hanswer, hqueue⟩ := Prod.mk.inj h
  subst hqueue
  cases hvalid : TaskQueue.validateEnqueue tenv (enqueueRequest intent) with
  | error e =>
      rw [TaskQueue.Queue.enqueue, hvalid] at hanswer
      cases hanswer
  | ok u =>
      have hinserts := TaskQueue.enqueue_inserts hvalid hnone
      generalize ((queue.now tenv).2.chooseTaskId tenv (enqueueRequest intent).taskId).1 = taskId
        at hinserts
      cases htaken : queue.tasks.has taskId with
      | true =>
          rw [(hinserts.taken htaken).1] at hanswer
          cases hanswer
      | false =>
          obtain ⟨now, hreply, htasks, -⟩ := hinserts.free htaken
          rw [hreply] at hanswer
          cases hanswer
          refine ⟨now, ?_, htasks⟩
          rw [OMap.has] at htaken
          exact Option.isSome_eq_false_iff.mp htaken |> Option.isNone_iff_eq_none.mp

theorem no_colon {segment : String} (h : isSafePathSegment segment = true) :
    ':' ∉ segment.toList := by
  intro hcolon
  unfold isSafePathSegment at h
  split at h
  · cases h
  · next c rest hlist =>
      rw [hlist] at hcolon
      simp only [Bool.and_eq_true, List.all_eq_true] at h
      rcases List.mem_cons.mp hcolon with rfl | hrest
      · exact absurd h.1.1 (by decide)
      · exact absurd (h.2 ':' hrest) (by decide)

theorem indexKey_content_inj {organizationId organizationId' artifactId artifactId' : String}
    (horg : ':' ∉ organizationId.toList) (horg' : ':' ∉ organizationId'.toList)
    (h : TaskQueue.indexKey organizationId ("content:" ++ artifactId) =
      TaskQueue.indexKey organizationId' ("content:" ++ artifactId')) :
    artifactId = artifactId' := by
  have hchars := congrArg String.toList h
  simp only [TaskQueue.indexKey, String.toList_append, List.append_assoc] at hchars
  have hrest := (Sql.field_cancel horg horg' hchars).2
  exact String.toList_inj.mp (List.append_cancel_left hrest)

/-- The request of a new row is not indexed. -/
theorem Tracks.unindexed (h : Tracks repository queue)
    (hsegments : ∀ row ∈ repository.artifacts.values, isSafePathSegment row.organizationId = true)
    {artifact : DurableArtifactRecord} (hsegment : isSafePathSegment artifact.organizationId = true)
    (hunused : repository.artifacts.get? artifact.artifactId = none) :
    queue.idempotencyIndex.get?
      (enqueueRequest (InMemorySyncRepository.taskIntent artifact)).indexKey = none := by
  by_contra hsome
  obtain ⟨id, hid⟩ := Option.ne_none_iff_exists'.mp hsome
  obtain ⟨task, htask, -, hkey⟩ := h.indexed.stored hid
  obtain ⟨row, hrow, -, horg, hidempotency⟩ := h.owned task htask
  have hsame : TaskQueue.indexKey row.organizationId ("content:" ++ row.artifactId) =
      TaskQueue.indexKey artifact.organizationId ("content:" ++ artifact.artifactId) := by
    rw [← horg, ← hidempotency]
    exact hkey
  have hids := indexKey_content_inj (no_colon (hsegments row hrow)) (no_colon hsegment) hsame
  have hheld := (Table.mem_values_iff _ _).mp hrow
  rw [hids, hunused] at hheld
  cases hheld

theorem Tracks.same (h : Tracks repository queue) (hsame : TaskQueue.SameContents queue queue') :
    Tracks repository queue' where
  indexed := by
    refine h.indexed.same ?_ (.of_same hsame)
    intro id task htask
    rw [hsame.tasks] at htask
    exact h.indexed.keyed id task htask
  owned := by
    rw [hsame.tasks]
    exact h.owned
  tasks := by
    rw [hsame.tasks]
    exact h.tasks

theorem Tracks.quiet {repository' : InMemorySyncRepository} (h : Tracks repository queue)
    (hquiet : Quiet repository repository') : Tracks repository' queue where
  indexed := h.indexed
  owned := by
    rw [hquiet.artifacts]
    exact h.owned
  tasks artifactId := by
    rw [h.tasks, once, once, hquiet.artifacts]

/-- A commit stores the one follow-up task of its row. -/
theorem Tracks.record {fresh : Fresh} {input : DurabilityInput} {receipt : DurabilityTaskReceipt}
    (h : Tracks repository queue)
    (hsegments : ∀ row ∈ repository.artifacts.values, isSafePathSegment row.organizationId = true)
    (hsegment : isSafePathSegment input.descriptor.organizationId = true)
    (hunused : repository.artifacts.get? input.descriptor.artifactId = none)
    (hanswer : queueSink tenv
      (InMemorySyncRepository.taskIntent (InMemorySyncRepository.newArtifact env fresh input)) queue =
        (.ok receipt, queue')) :
    Tracks (repository.record env fresh input (some receipt)) queue' ∧
      (∀ task ∈ queue.tasks.values, task ∈ queue'.tasks.values) ∧
      ∃ task ∈ queue'.tasks.values, task.taskId = receipt.taskId ∧
        task.aggregateId = input.descriptor.artifactId := by
  have hnone : queue.idempotencyIndex.get? (enqueueRequest (InMemorySyncRepository.taskIntent
      (InMemorySyncRepository.newArtifact env fresh input))).indexKey = none :=
    h.unindexed hsegments hsegment hunused
  obtain ⟨now, hfree, htasks⟩ := queueSink_stores hanswer hnone
  have hvalues := OMap.values_set_of_not_mem queue.tasks
    (TaskQueue.Queue.newTask (enqueueRequest (InMemorySyncRepository.taskIntent
      (InMemorySyncRepository.newArtifact env fresh input))) receipt.taskId now)
    ((OMap.get?_eq_none_iff _ _).mp hfree)
  rw [← htasks] at hvalues
  have hrows : ∀ row, row ∈ repository.artifacts.values →
      row ∈ (repository.record env fresh input (some receipt)).artifacts.values := by
    intro row hrow
    rw [Table.mem_values_iff] at hrow ⊢
    refine (Table.get?_put_of_ne _ _ ?_).trans hrow
    intro hsame
    have hheld : repository.artifacts.get? input.descriptor.artifactId = some row := hsame ▸ hrow
    cases hunused.symm.trans hheld
  have hnew : InMemorySyncRepository.newArtifact env fresh input ∈
      (repository.record env fresh input (some receipt)).artifacts.values :=
    (Table.mem_values_iff _ _).mpr (Table.get?_put_self _ _)
  refine ⟨⟨?_, ?_, ?_⟩, ?_, ?_⟩
  · have hindexed := @TaskQueue.Indexed.enqueue tenv queue h.indexed (enqueueRequest
      (InMemorySyncRepository.taskIntent (InMemorySyncRepository.newArtifact env fresh input)))
    rw [queueSink_eq] at hanswer
    rw [← (Prod.mk.inj hanswer).2]
    exact hindexed
  · intro task htask
    rw [hvalues] at htask
    rcases List.mem_append.mp htask with hold | hadded
    · obtain ⟨row, hrow, howned⟩ := h.owned task hold
      exact ⟨row, hrows row hrow, howned⟩
    · obtain rfl := List.mem_singleton.mp hadded
      exact ⟨_, hnew, rfl, rfl, rfl⟩
  · intro artifactId
    rw [once_record (some receipt) artifactId hunused, hvalues, List.countP_append, h.tasks,
      List.countP_singleton]
    simp only [decide_eq_true_eq]
    rfl
  · intro task htask
    rw [hvalues]
    exact List.mem_append_left _ htask
  · rw [hvalues]
    exact ⟨_, List.mem_append_right _ List.mem_cons_self, rfl, rfl⟩

end Tasks

/-! ## Runs -/

section Runs

variable {tenv : TaskQueue.Env} {bound : Bool}

/-- What the repository and the queue hold together. -/
structure CommitInv (env : Env) (bound : Bool) (store : InMemoryPrivateObjectStore)
    (repository : InMemorySyncRepository) (queue : TaskQueue.Queue) : Prop where
  rows : RowsInv env store repository
  tracks : bound = true → Tracks repository queue
  messages : ∀ message ∈ repository.outbox, Dispatched bound queue message

theorem CommitInv.quiet {store : InMemoryPrivateObjectStore}
    {repository repository' : InMemorySyncRepository} {queue : TaskQueue.Queue}
    (h : CommitInv env bound store repository queue) (hquiet : Quiet repository repository') :
    CommitInv env bound store repository' queue where
  rows := h.rows.quiet hquiet
  tracks hbound := (h.tracks hbound).quiet hquiet
  messages := by
    rw [hquiet.outbox]
    exact h.messages

theorem Dispatched.more {queue queue' : TaskQueue.Queue} {message : SyncOutboxRecord}
    (h : Dispatched bound queue message)
    (hmore : ∀ task ∈ queue.tasks.values, task ∈ queue'.tasks.values) :
    Dispatched bound queue' message := by
  cases bound with
  | false => exact h
  | true =>
      obtain ⟨hstate, task, htask, hmessage⟩ := h
      exact ⟨hstate, task, hmore task htask, hmessage⟩

theorem mem_outbox_record {repository : InMemorySyncRepository} {fresh : Fresh}
    {input : DurabilityInput} {receipt : Option DurabilityTaskReceipt} {message : SyncOutboxRecord}
    (h : message ∈ (repository.record env fresh input receipt).outbox) :
    message ∈ repository.outbox ∨ message = InMemorySyncRepository.outboxRecord env fresh
      (InMemorySyncRepository.newArtifact env fresh input) receipt :=
  (List.mem_append.mp h).imp_right List.mem_singleton.mp

/-- A commit of what the store holds keeps rows, messages and tasks together. -/
theorem CommitInv.commit {store : InMemoryPrivateObjectStore}
    {repository repository' : InMemorySyncRepository} {queue queue' : TaskQueue.Queue}
    (h : CommitInv env bound store repository queue) {fresh : Fresh} {input : DurabilityInput}
    {result : Except String DurabilityCommitResult}
    (hcommit : repository.commitVerifiedDurability env (sinkOf tenv bound) fresh input queue =
      (result, repository', queue'))
    (hvalid : validateDescriptor env input.descriptor = .ok ()) {object : StoredObject}
    (hobject : Durable env store (InMemorySyncRepository.newArtifact env fresh input) object) :
    CommitInv env bound store repository' queue' := by
  rcases commit_cases hcommit with ⟨hquiet, rfl⟩ | ⟨rfl, e, hasked⟩ |
    ⟨hcapture, hunused, receipt, rfl, hasked⟩
  · exact h.quiet hquiet
  · cases hasked with
    | bound hsink hanswer =>
        cases bound with
        | false => cases hsink
        | true =>
            cases hsink
            have hsame := queueSink_refused hanswer
            refine ⟨h.rows, fun _ => (h.tracks rfl).same hsame, fun m hm => ?_⟩
            refine (h.messages m hm).more fun task htask => ?_
            rwa [hsame.tasks]
  · refine ⟨h.rows.record receipt hcapture hunused hvalid hobject, ?_, ?_⟩
    · rintro rfl
      generalize hanswered : receipt.map Except.ok = answered at hasked
      cases hasked with
      | unbound hsink => cases hsink
      | bound hsink hanswer =>
          cases hsink
          cases receipt with
          | none => cases hanswered
          | some receipt =>
              cases hanswered
              exact ((h.tracks rfl).record h.rows.segment (validateDescriptor_organization hvalid)
                hunused hanswer).1
    · intro m hm
      generalize hanswered : receipt.map Except.ok = answered at hasked
      cases hasked with
      | unbound hsink =>
          cases bound with
          | true => cases hsink
          | false =>
              cases receipt with
              | some receipt => cases hanswered
              | none =>
                  rcases mem_outbox_record hm with hold | rfl
                  · exact h.messages m hold
                  · exact ⟨rfl, rfl⟩
      | bound hsink hanswer =>
          cases bound with
          | false => cases hsink
          | true =>
              cases hsink
              cases receipt with
              | none => cases hanswered
              | some receipt =>
                  cases hanswered
                  obtain ⟨-, hmore, task, htask, hid, haggregate⟩ := (h.tracks rfl).record
                    h.rows.segment (validateDescriptor_organization hvalid) hunused hanswer
                  rcases mem_outbox_record hm with hold | rfl
                  · exact (h.messages m hold).more hmore
                  · exact ⟨rfl, task, htask, congrArg some hid.symm, haggregate⟩

/-- What holds in every state of a run. -/
structure SyncInv (env : Env) (bound : Bool) (s : SyncState TaskQueue.Queue) : Prop where
  intents : AllIssued env s.intents
  calls : ∀ call ∈ s.calls, call.Saw env s.store
  commits : CommitInv env bound s.store s.repository s.tasks

/-- Only a commit writes the repository and asks the sink. -/
theorem advanceCall_kept (enqueueTask : Option (TaskSink τ)) (fresh : Fresh)
    (afterObjectPut : Except String Unit) (s : SyncState τ) {call : Call}
    (h : ∀ principal intent metadata bytes,
      call ≠ .finalizeCommit principal intent metadata bytes) :
    (advanceCall env enqueueTask fresh afterObjectPut s call).2.repository = s.repository ∧
      (advanceCall env enqueueTask fresh afterObjectPut s call).2.tasks = s.tasks := by
  cases call with
  | observeHead | uploaded | finalized | threw => exact ⟨rfl, rfl⟩
  | uploadHead | uploadPut | uploadLost | uploadStored | finalizeRead =>
      simp only [advanceCall]
      split <;> exact ⟨rfl, rfl⟩
  | observeRead intent purpose metadata =>
      simp only [advanceCall]
      split
      · split
        · exact ⟨rfl, rfl⟩
        · cases purpose <;> exact ⟨rfl, rfl⟩
      · exact ⟨rfl, rfl⟩
  | finalizeCommit principal intent metadata bytes => exact absurd rfl (h _ _ _ _)

theorem advanceCall_commits {fresh : Fresh} {afterObjectPut : Except String Unit}
    {s : SyncState TaskQueue.Queue} (h : CommitInv env bound s.store s.repository s.tasks)
    {call : Call} (hsaw : call.Saw env s.store) :
    CommitInv env bound
      (advanceCall env (sinkOf tenv bound) fresh afterObjectPut s call).2.store
      (advanceCall env (sinkOf tenv bound) fresh afterObjectPut s call).2.repository
      (advanceCall env (sinkOf tenv bound) fresh afterObjectPut s call).2.tasks := by
  have hgrows := @advanceCall_grows env _ (sinkOf tenv bound) fresh afterObjectPut s call
  have hkept := @advanceCall_kept env _ (sinkOf tenv bound) fresh afterObjectPut s call
  cases call with
  | uploadHead | uploadPut | uploadLost | uploadStored | observeHead | observeRead | finalizeRead
  | uploaded | finalized | threw =>
      obtain ⟨hrepository, htasks⟩ := hkept fun _ _ _ _ heq => nomatch heq
      rw [hrepository, htasks]
      exact { h with rows := h.rows.grows hgrows }
  | finalizeCommit principal intent metadata bytes =>
      obtain ⟨hissued, object, hholds, rfl, rfl⟩ := hsaw
      simp only [advanceCall]
      split
      · next e repository' tasks' hcommit =>
          exact h.commit hcommit hissued.valid
            ⟨hholds.stored, hholds.sha256, hholds.byteLength, hholds.metadata, rfl⟩
      · next result repository' tasks' hcommit =>
          exact h.commit hcommit hissued.valid
            ⟨hholds.stored, hholds.sha256, hholds.byteLength, hholds.metadata, rfl⟩

theorem SyncInv.step {ttl : Int} {s : SyncState TaskQueue.Queue} (h : SyncInv env bound s)
    (step : SyncStep) : SyncInv env bound (syncStep env ⟨ttl, sinkOf tenv bound⟩ s step) := by
  have hgrows := @syncStep_grows env _ ⟨ttl, sinkOf tenv bound⟩ s step
  refine ⟨?_, ?_, ?_⟩
  · cases step with
    | issueUploadIntent fresh uploadToken principal descriptor =>
        simp only [syncStep]
        split
        · next issued intents' hissue =>
            obtain ⟨persisted, rfl, hissued⟩ := issueUploadIntent_ok hissue
            exact h.intents.put hissued
        · exact h.intents
    | upload =>
        simp only [syncStep]
        cases upload env _ _ _ _ _ _ <;> exact h.intents
    | finalize =>
        simp only [syncStep]
        cases finalize env _ _ _ _ _ <;> exact h.intents
    | advance i fresh afterObjectPut =>
        simp only [syncStep]
        split
        · exact h.intents
        · exact advanceCall_issued _ _ _ h.intents _
  · intro call hcall
    refine Call.Saw.grows ?_ hgrows
    rcases mem_calls_step hcall with hold | ⟨e, rfl⟩ | ⟨_, _, _, _, _, hup⟩ |
      ⟨_, _, _, _, hfin⟩ | ⟨before, hbefore, fresh, afterObjectPut, rfl⟩
    · exact h.calls call hold
    · trivial
    · exact upload_saw h.intents hup _
    · exact finalize_saw h.intents hfin _
    · exact advanceCall_saw _ _ _ _ (h.calls before hbefore)
  · cases step with
    | issueUploadIntent =>
        simp only [syncStep]
        split <;> exact h.commits
    | upload =>
        simp only [syncStep]
        cases upload env _ _ _ _ _ _ <;> exact h.commits
    | finalize =>
        simp only [syncStep]
        cases finalize env _ _ _ _ _ <;> exact h.commits
    | advance i fresh afterObjectPut =>
        simp only [syncStep]
        split
        · exact h.commits
        · next call hcall =>
            exact advanceCall_commits h.commits (h.calls call (List.mem_of_getElem? hcall))

theorem SyncInv.initial : SyncInv env bound (.initial TaskQueue.Queue.initial) where
  intents _ _ h := nomatch h
  calls _ h := nomatch h
  commits.rows.durable _ h := nomatch h
  commits.rows.segment _ h := nomatch h
  commits.rows.captured _ h := nomatch h
  commits.rows.events _ := rfl
  commits.rows.outbox _ := rfl
  commits.tracks _ :=
    { indexed := ⟨(fun _ _ h => nomatch h), (fun _ _ h => nomatch h), (fun _ _ _ h => nomatch h)⟩
      owned := (fun _ h => nomatch h)
      tasks := fun _ => rfl }
  commits.messages _ h := nomatch h

/-- The service whose repository hands its tasks to the queue, or to nobody. -/
def serviceOf (tenv : TaskQueue.Env) (ttl : Int) (bound : Bool) : SyncService TaskQueue.Queue :=
  ⟨ttl, sinkOf tenv bound⟩

theorem syncInv_inductive (env : Env) (tenv : TaskQueue.Env) (ttl : Int) (bound : Bool) :
    (syncSystem env (serviceOf tenv ttl bound) .initial).Inductive TSys.any (SyncInv env bound) where
  init := by
    rintro s rfl
    exact .initial
  step := by
    rintro s step s' h - rfl
    exact h.step step

theorem once_of_mem {repository : InMemorySyncRepository} {row : DurableArtifactRecord}
    (h : row ∈ repository.artifacts.values) : once repository row.artifactId = 1 := by
  have hheld := (Table.mem_values_iff _ _).mp h
  rw [once, show repository.artifacts.get? row.artifactId = some row from hheld]
  rfl

/-- **Durable evidence.** However the calls of any intents interleave, a
committed row describes the object under its key, a capture has one row, what
was put stays, and a row has one durability event and one message; the message
is of the row's one task where a queue is bound, and waits for dispatch where
none is. -/
theorem durable_evidence (env : Env) (tenv : TaskQueue.Env) (ttl : Int) (bound : Bool)
    {s : SyncState TaskQueue.Queue}
    (hreach : (syncSystem env (serviceOf tenv ttl bound) .initial).Reachable TSys.any s) :
    (∀ row ∈ s.repository.artifacts.values, ∃ object, Durable env s.store row object) ∧
    (s.repository.artifacts.values.map fun row => (row.organizationId, row.captureId)).Nodup ∧
    (∀ s', (syncSystem env (serviceOf tenv ttl bound) .initial).Later TSys.any s s' →
      s.store.Grows s'.store) ∧
    ∀ row ∈ s.repository.artifacts.values,
      s.repository.events.countP (isDurabilityEvent row.artifactId) = 1 ∧
      s.repository.outbox.countP (fun message => message.aggregateId = row.artifactId) = 1 ∧
      (∀ message ∈ s.repository.outbox, message.aggregateId = row.artifactId →
        Dispatched bound s.tasks message) ∧
      (bound = true →
        s.tasks.tasks.values.countP (fun task => task.aggregateId = row.artifactId) = 1) := by
  have hinv := (syncInv_inductive env tenv ttl bound).invariant hreach
  obtain ⟨hrows, htracks, hmessages⟩ := hinv.commits
  refine ⟨hrows.durable, ?_, ?_, ?_⟩
  · refine List.Nodup.map_on ?_ (List.Nodup.of_map _ s.repository.artifacts.nodup_keys_values)
    intro a ha b hb hab
    have hkey : a.captureKey = b.captureKey := by
      obtain ⟨horg, hcapture⟩ := Prod.mk.inj hab
      rw [DurableArtifactRecord.captureKey, DurableArtifactRecord.captureKey, horg, hcapture]
    have hheld := hrows.captured a ha
    rw [hkey, hrows.captured b hb] at hheld
    exact (Option.some.inj hheld).symm
  · intro s' hlater
    refine hlater.preserves (P := fun t => s.store.Grows t.store) ?_ fun _ _ h => h
    rintro t step t' hgrows - rfl key object hobject
    exact syncStep_grows _ t step key object (hgrows key object hobject)
  · intro row hrow
    have honce := once_of_mem hrow
    refine ⟨?_, ?_, fun message hmessage _ => hmessages message hmessage, fun hbound => ?_⟩
    · rw [hrows.events, honce]
    · rw [hrows.outbox, honce]
    · rw [(htracks hbound).tasks, honce]

end Runs

/-! ## One capture, with and without a queue -/

namespace OneCapture

open SharedCapture

def queueEnv : TaskQueue.Env := ⟨Js.Host.plain, fun _ => 0, fun n => toString n⟩

def run (bound : Bool) : SyncState TaskQueue.Queue :=
  (session jobOne "intent-one" "artifact-one" "job-one" 0).foldl
    (syncStep host (serviceOf queueEnv 300000 bound)) (.initial .initial)

/-- Where no queue is bound, a committed row has no task. -/
theorem unbound_no_task :
    (syncSystem host (serviceOf queueEnv 300000 false) .initial).Reachable TSys.any (run false) ∧
      row ∈ (run false).repository.artifacts.values ∧
      (run false).tasks.tasks.values.countP (fun task => task.aggregateId = row.artifactId) = 0 :=
  ⟨TSys.reachable_foldl _ _ _, by decide +kernel, by decide +kernel⟩

theorem durable_evidence_one :
    row ∈ (run true).repository.artifacts.values ∧
      (∃ object, Durable host (run true).store row object) ∧
      (run true).tasks.tasks.values.countP (fun task => task.aggregateId = row.artifactId) = 1 := by
  have hrow : row ∈ (run true).repository.artifacts.values := by decide +kernel
  obtain ⟨hdurable, -, -, hrows⟩ :=
    durable_evidence host queueEnv 300000 true (TSys.reachable_foldl _ _ _ : TSys.Reachable
      (syncSystem host (serviceOf queueEnv 300000 true) .initial) TSys.any (run true))
  exact ⟨hrow, hdurable row hrow, (hrows row hrow).2.2.2 rfl⟩

end OneCapture

end InspectionHub.Storage
