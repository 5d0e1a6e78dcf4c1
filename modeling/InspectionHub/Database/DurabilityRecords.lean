import InspectionHub.Database.Durability
import InspectionHub.Lib.Digest
import InspectionHub.Lib.TSys

/-!
# Durability is recorded once

What a call that records an artifact writes (`recordArtifact_ok`), the
invariant that pairs the rows of the six tables off (`DurabilityInv`), and what
a reader of them may rely on (`durability_exactly_once`).
-/

namespace InspectionHub.Database

namespace DurabilityTables

variable {server : Server} {db db' : DurabilityTables}

/-! ## Runs -/

def empty : DurabilityTables := ⟨.empty, .empty, .empty, .empty, .empty, .empty, []⟩

/-- A call of the function, or the other commands at the jobs. -/
inductive DurabilityStep where
  | record (call : DurabilityCall) (c : RecordDurability)
  | other (jobs : Sql.Table Job Job.clash)

/-- A raised error rolls the call back. -/
def perform (server : Server) (db : DurabilityTables) : DurabilityStep → DurabilityTables
  | .record call c =>
      match recordVerifiedArtifactDurability server call c db with
      | .ok (_, db') => db'
      | .error _ => db
  | .other jobs => { db with jobs }

def durabilitySystem (server : Server) : TSys DurabilityTables DurabilityStep :=
  .ofFun .empty (perform server)

/-! ## The rows of an artifact -/

def isDurabilityEvent (e : SessionEvent) : Bool :=
  e.eventType = "artifact.durability_verified" ∧ e.aggregateType = "artifact"

def receiptsOf (db : DurabilityTables) (a : Artifact) : List ArtifactDurabilityReceipt :=
  db.artifactDurabilityReceipts.rows.filter fun r =>
    (r.organizationId, r.artifactId) = (a.organizationId, a.id)

def durabilityEventsOf (db : DurabilityTables) (a : Artifact) : List SessionEvent :=
  (db.sessionEvents.rows.filter isDurabilityEvent).filter fun e =>
    (e.organizationId, e.aggregateId) = (a.organizationId, a.id)

def tasksOf (db : DurabilityTables) (a : Artifact) : List AsyncTask :=
  db.asyncTasks.rows.filter fun t => (t.organizationId, t.aggregateId) = (a.organizationId, a.id)

def outboxOf (db : DurabilityTables) (a : Artifact) : List OutboxRecord :=
  db.outboxRecords.rows.filter fun o => (o.organizationId, o.aggregateId) = (a.organizationId, a.id)

/-- Its key lies under `quarantine/<organization>/<job>/<capture>/<artifact>.` -/
def InStaging (a : Artifact) : Prop :=
  (stagingPath a.organizationId.text a.jobId.text a.captureId.text a.id.text).toList <+:
    a.storageKey.toList ∧ ¬ climbs a.storageKey

/-- An artifact with everything that is recorded of it, each row once. -/
structure DurablyRecorded (db : DurabilityTables) (a : Artifact) : Prop where
  receipt : ∃ r, db.receiptsOf a = [r] ∧ r.observedSha256 = a.contentSha256 ∧
    r.observedByteSize = a.byteSize
  event : ∃ e, db.durabilityEventsOf a = [e] ∧ e.payloadSha256 = a.contentSha256
  task : ∃ t, db.tasksOf a = [t] ∧ t.taskType = "content.validate_and_proxy" ∧
    t.requestFingerprint = a.contentSha256
  outbox : ∃ o, db.outboxOf a = [o] ∧ o.requestFingerprint = a.contentSha256 ∧
    ∃ t ∈ db.tasksOf a, t.id = o.asyncTaskId
  staging : InStaging a

/-! ## One call -/

/-- What a call that records an artifact writes. -/
structure Recorded (call : DurabilityCall) (c : RecordDurability) (a : Artifact)
    (db db' : DurabilityTables) : Prop where
  request : c.artifact = .ok a
  artifacts : db'.artifacts.rows = db.artifacts.rows ++ [a]
  receipts : ∃ objectVersion, db'.artifactDurabilityReceipts.rows =
    db.artifactDurabilityReceipts.rows ++
      [⟨a.organizationId, a.id, objectVersion, a.contentSha256, a.byteSize⟩]
  events : ∃ e f, db'.sessionEvents.rows = db.sessionEvents.rows ++ [e] ++ [f] ∧
    isDurabilityEvent e = true ∧ e.organizationId = a.organizationId ∧ e.aggregateId = a.id ∧
    e.payloadSha256 = a.contentSha256 ∧ isDurabilityEvent f = false
  tasks : db'.asyncTasks.rows = db.asyncTasks.rows ++ [contentTask call a]
  outbox : db'.outboxRecords.rows = db.outboxRecords.rows ++ [outboxRecord call a]
  streams : Streams db'.sessionEvents.rows

variable {a : Artifact}

theorem insertArtifact_ok (h : db.insertArtifact a = .ok db') :
    ∃ t, t.rows = db.artifacts.rows ++ [a] ∧ db' = { db with artifacts := t } := by
  obtain ⟨-, h⟩ := Sql.check_ok h
  obtain ⟨-, h⟩ := Sql.check_ok h
  obtain ⟨next, -, hdone⟩ := Sql.bind_ok h
  cases hdone
  exact ⟨next.1, next.2, rfl⟩

theorem insertReceipt_ok {r : ArtifactDurabilityReceipt} (h : db.insertReceipt r = .ok db') :
    ∃ t, t.rows = db.artifactDurabilityReceipts.rows ++ [r] ∧
      db' = { db with artifactDurabilityReceipts := t } := by
  obtain ⟨-, h⟩ := Sql.check_ok h
  obtain ⟨next, -, hdone⟩ := Sql.bind_ok h
  cases hdone
  exact ⟨next.1, next.2, rfl⟩

variable {c : RecordDurability} {call : DurabilityCall}

theorem recordArtifact_ok {id : Uuid} (hstreams : Streams db.sessionEvents.rows)
    (h : db.recordArtifact server call c = .ok (id, db')) :
    ∃ a, id = a.id ∧ Recorded call c a db db' := by
  obtain ⟨a, ha, h⟩ := Sql.bind_ok h
  obtain ⟨withArtifact, hartifact, h⟩ := Sql.bind_ok h
  obtain ⟨objectVersion, -, h⟩ := Sql.bind_ok h
  obtain ⟨withReceipt, hreceipt, h⟩ := Sql.bind_ok h
  obtain ⟨t, hartifacts, rfl⟩ := insertArtifact_ok hartifact
  obtain ⟨u, hreceipts, rfl⟩ := insertReceipt_ok hreceipt
  obtain ⟨events, hevent, h⟩ := Sql.bind_ok h
  obtain ⟨-, h⟩ := Sql.check_ok h
  obtain ⟨tasks, -, h⟩ := Sql.bind_ok h
  obtain ⟨events', htaskEvent, h⟩ := Sql.bind_ok h
  obtain ⟨outbox, -, hdone⟩ := Sql.bind_ok h
  cases hdone
  obtain ⟨e, hrows, hprepared, hstreams⟩ := insertSessionEvent_ok hstreams hevent
  obtain ⟨f, htype, -, -, hrows', hstreams⟩ := appendTaskEvent_ok hstreams htaskEvent
  refine ⟨a, rfl, ha, hartifacts, ⟨objectVersion, hreceipts⟩, ⟨e, f, ?_, ?_, ?_, ?_, ?_, ?_⟩,
    tasks.2, outbox.2, hstreams⟩
  · rw [hrows', hrows]
  · rw [hprepared.row]
    rfl
  · rw [hprepared.row]
    rfl
  · rw [hprepared.row]
    rfl
  · rw [hprepared.row]
    rfl
  · simp [isDurabilityEvent, htype]

theorem observe_ok {key : Option String} {state : ReconciliationState} {code : String}
    (h : db.observe a key state code = .ok db') :
    ∃ o, o.artifactId = a.id ∧ o.reconciliationState = state ∧
      db' = { db with
        artifactReconciliationObservations := db.artifactReconciliationObservations ++ [o] } := by
  obtain ⟨storageKey, -, hdone⟩ := Sql.bind_ok h
  cases hdone
  exact ⟨_, rfl, rfl, rfl⟩

/-! ## Storage keys -/

theorem plain_uuid (id : Uuid) : Sql.Plain id.text := by
  intro c hc
  rcases Uuid.mem_text hc with hhex | rfl
  · refine ⟨?_, ?_, ?_⟩ <;> rintro rfl <;> exact absurd hhex (by decide)
  · decide

/-- A staging path has no character that a pattern reads specially. -/
theorem plain_stagingPath (organizationId jobId captureId artifactId : Uuid) :
    Sql.Plain (stagingPath organizationId.text jobId.text captureId.text artifactId.text) := by
  have hstart : Sql.Plain "quarantine/" := by decide
  have hslash : Sql.Plain "/" := by decide
  have hdot : Sql.Plain "." := by decide
  have horganization := hstart.append (plain_uuid organizationId)
  have hjob := (horganization.append hslash).append (plain_uuid jobId)
  have hcapture := (hjob.append hslash).append (plain_uuid captureId)
  exact ((hcapture.append hslash).append (plain_uuid artifactId)).append hdot

/-- The row of a request has the request's own values. -/
theorem artifact_ok (h : c.artifact = .ok a) :
    c.artifactId = some a.id ∧ c.organizationId = some a.organizationId ∧
      c.jobId = some a.jobId ∧ c.captureId = some a.captureId ∧
      c.storageKey = some a.storageKey := by
  obtain ⟨id, hid, h⟩ := Sql.bind_ok h
  obtain ⟨organizationId, horganization, h⟩ := Sql.bind_ok h
  obtain ⟨jobId, hjob, h⟩ := Sql.bind_ok h
  obtain ⟨captureId, hcapture, h⟩ := Sql.bind_ok h
  obtain ⟨sequence, -, h⟩ := Sql.bind_ok h
  obtain ⟨kind, -, h⟩ := Sql.bind_ok h
  obtain ⟨sha, -, h⟩ := Sql.bind_ok h
  obtain ⟨size, -, h⟩ := Sql.bind_ok h
  obtain ⟨media, -, h⟩ := Sql.bind_ok h
  obtain ⟨key, hkey, h⟩ := Sql.bind_ok h
  obtain ⟨captured, -, h⟩ := Sql.bind_ok h
  split at h
  · cases h
    exact ⟨Sql.notNull_ok hid, Sql.notNull_ok horganization, Sql.notNull_ok hjob,
      Sql.notNull_ok hcapture, Sql.notNull_ok hkey⟩
  · cases h

/-- The key of a request that passes the checks lies in its staging path. -/
theorem check_staging (hcheck : c.check = .ok ()) (ha : c.artifact = .ok a) : InStaging a := by
  obtain ⟨hid, horganization, hjob, hcapture, hkey⟩ := artifact_ok ha
  obtain ⟨-, h⟩ := Sql.check_ok hcheck
  have hpath := Sql.raiseIf_ok h
  have hpath_eq : c.expectedPrefix =
      stagingPath a.organizationId.text a.jobId.text a.captureId.text a.id.text := by
    rw [RecordDurability.expectedPrefix, hid, horganization, hjob, hcapture]
    rfl
  rw [hkey, hpath_eq] at hpath
  simp only [Sql.anyTrue, Option.map_some, List.contains_cons, List.contains_nil, Bool.or_false,
    Bool.or_eq_true, beq_iff_eq, Option.some.injEq, not_or] at hpath
  obtain ⟨hlike, hclimbs⟩ := hpath
  refine ⟨?_, by simpa using hclimbs⟩
  exact (Sql.like_prefix (plain_stagingPath _ _ _ _) _).mp (by simpa using hlike)

/-- The capture of a request has an artifact. -/
def IsArtifactOf (c : RecordDurability) (a : Artifact) : Prop :=
  c.organizationId = some a.organizationId ∧ c.captureId = some a.captureId

theorem artifact_unique {a b : Artifact} (ha : a ∈ db.artifacts.rows) (hb : b ∈ db.artifacts.rows)
    (h : IsArtifactOf c a) (h' : IsArtifactOf c b) : a = b := by
  refine db.artifacts.eq_of_key (f := fun a => (a.organizationId, a.captureId)) ?_ ha hb ?_
  · intro a b hab
    simp only [Prod.mk.injEq] at hab
    exact .inr (.inl hab)
  · rw [Option.some.inj (h.1.symm.trans h'.1), Option.some.inj (h.2.symm.trans h'.2)]

/-- What a call does where its capture has an artifact. -/
structure Observed (c : RecordDurability) (a : Artifact) (r : DurabilityResult × Uuid)
    (db db' : DurabilityTables) : Prop where
  result : r = (if some a.contentSha256 = c.observedSha256 ∧ some a.byteSize = c.observedByteSize
    then .duplicate_attempt else .hash_divergence, a.id)
  observation : ∃ o, o.artifactId = a.id ∧ db' = { db with
    artifactReconciliationObservations := db.artifactReconciliationObservations ++ [o] }

/-- A call records the artifact of a new capture, or observes the one that is
there. -/
theorem recordVerified_ok {r : DurabilityResult × Uuid} (hstreams : Streams db.sessionEvents.rows)
    (h : recordVerifiedArtifactDurability server call c db = .ok (r, db')) :
    (∃ a ∈ db.artifacts.rows, IsArtifactOf c a ∧ Observed c a r db db') ∨
    ((∀ a ∈ db.artifacts.rows, ¬ IsArtifactOf c a) ∧
      ∃ a, r = (.recorded, a.id) ∧ Recorded call c a db db' ∧ InStaging a) := by
  obtain ⟨⟨⟩, hcheck, h⟩ := Sql.bind_ok h
  split at h
  · next existing hfind =>
      have hfound := List.find?_some hfind
      obtain ⟨horganization, hcapture⟩ := of_decide_eq_true hfound
      refine .inl ⟨existing, List.mem_of_find?_eq_some hfind,
        ⟨horganization.symm, hcapture.symm⟩, ?_⟩
      split at h
      · next hdivergent =>
          obtain ⟨next, hobserve, hdone⟩ := Sql.bind_ok h
          cases hdone
          obtain ⟨o, ho, -, hdb⟩ := observe_ok hobserve
          exact ⟨by rw [if_neg (not_and_or.mpr hdivergent)], o, ho, hdb⟩
      · next hsame =>
          obtain ⟨next, hobserve, hdone⟩ := Sql.bind_ok h
          cases hdone
          obtain ⟨o, ho, -, hdb⟩ := observe_ok hobserve
          rw [not_or, not_not, not_not] at hsame
          exact ⟨by rw [if_pos hsame], o, ho, hdb⟩
  · next hfind =>
      refine .inr ⟨fun a ha hof => ?_, ?_⟩
      · have hnot := List.find?_eq_none.mp hfind a ha
        exact hnot (decide_eq_true ⟨hof.1.symm, hof.2.symm⟩)
      · obtain ⟨⟨id, recorded⟩, hrecord, hdone⟩ := Sql.bind_ok h
        cases hdone
        obtain ⟨a, rfl, hrecorded⟩ := recordArtifact_ok hstreams hrecord
        exact ⟨a, rfl, hrecorded, check_staging hcheck hrecorded.request⟩

/-- A request whose capture has an artifact is answered. -/
theorem recordVerified_answers {key : String} (hcheck : c.check = .ok ())
    (hkey : c.storageKey = some key) (ha : a ∈ db.artifacts.rows) (hof : IsArtifactOf c a)
    (server : Server) (call : DurabilityCall) :
    ∃ r db', recordVerifiedArtifactDurability server call c db = .ok (r, db') := by
  unfold recordVerifiedArtifactDurability observe
  rw [Sql.bind_of hcheck, hkey]
  split
  · split <;> exact ⟨_, _, rfl⟩
  · next hfind =>
      have hnot := List.find?_eq_none.mp hfind a ha
      exact absurd (decide_eq_true ⟨hof.1.symm, hof.2.symm⟩) hnot

/-! ## The invariant -/

/-- The rows of every table pair off with the artifacts. -/
structure DurabilityInv (db : DurabilityTables) : Prop where
  receipts : (db.artifactDurabilityReceipts.rows.map fun r =>
      ((r.organizationId, r.artifactId), r.observedSha256, r.observedByteSize)) =
    db.artifacts.rows.map fun a => ((a.organizationId, a.id), a.contentSha256, a.byteSize)
  events : ((db.sessionEvents.rows.filter isDurabilityEvent).map fun e =>
      ((e.organizationId, e.aggregateId), e.payloadSha256)) =
    db.artifacts.rows.map fun a => ((a.organizationId, a.id), a.contentSha256)
  tasks : (db.asyncTasks.rows.map fun t =>
      ((t.organizationId, t.aggregateId), t.taskType, t.requestFingerprint)) =
    db.artifacts.rows.map fun a =>
      ((a.organizationId, a.id), "content.validate_and_proxy", a.contentSha256)
  outbox : (db.outboxRecords.rows.map fun o =>
      ((o.organizationId, o.aggregateId), o.asyncTaskId, o.requestFingerprint)) =
    db.asyncTasks.rows.map fun t =>
      ((t.organizationId, t.aggregateId), t.id, t.requestFingerprint)
  streams : Streams db.sessionEvents.rows
  staging : ∀ a ∈ db.artifacts.rows, InStaging a

theorem DurabilityInv.empty : DurabilityInv DurabilityTables.empty :=
  ⟨rfl, rfl, rfl, rfl, Streams.nil, List.forall_mem_nil _⟩

theorem Recorded.inv (h : Recorded call c a db db') (hstaging : InStaging a)
    (hi : DurabilityInv db) : DurabilityInv db' := by
  obtain ⟨objectVersion, hreceipts⟩ := h.receipts
  obtain ⟨e, f, hevents, he, horganization, haggregate, hpayload, hf⟩ := h.events
  refine ⟨?_, ?_, ?_, ?_, h.streams, ?_⟩
  · rw [hreceipts, h.artifacts, List.map_append, List.map_append, hi.receipts]
    rfl
  · rw [hevents, h.artifacts, List.filter_append, List.filter_append, List.map_append,
      List.map_append, List.map_append, hi.events]
    simp [he, hf, horganization, haggregate, hpayload]
  · rw [h.tasks, h.artifacts, List.map_append, List.map_append, hi.tasks]
    rfl
  · rw [h.outbox, h.tasks, List.map_append, List.map_append, hi.outbox]
    rfl
  · intro b hb
    rw [h.artifacts] at hb
    rcases List.mem_append.mp hb with hb | hb
    · exact hi.staging b hb
    · cases List.mem_singleton.mp hb
      exact hstaging

theorem durabilityInv_inductive (server : Server) :
    (durabilitySystem server).Inductive TSys.any DurabilityInv where
  init := by
    rintro _ rfl
    exact DurabilityInv.empty
  step := by
    rintro db step _ hi - rfl
    cases step with
    | record call c =>
        rw [perform]
        split
        · next r db' h =>
            rcases recordVerified_ok hi.streams h with
              ⟨a, -, -, -, o, -, rfl⟩ | ⟨-, a, -, hrecorded, hstaging⟩
            · exact ⟨hi.receipts, hi.events, hi.tasks, hi.outbox, hi.streams, hi.staging⟩
            · exact hrecorded.inv hstaging hi
        · exact hi
    | other jobs => exact ⟨hi.receipts, hi.events, hi.tasks, hi.outbox, hi.streams, hi.staging⟩

theorem artifactIds_nodup (db : DurabilityTables) :
    (db.artifacts.rows.map fun a => (a.organizationId, a.id)).Nodup := by
  refine db.artifacts.nodup_map fun a b hab => ?_
  simp only [Prod.mk.injEq] at hab
  exact .inl hab.2

/-- Every artifact has its rows, each once. -/
theorem DurabilityInv.recorded (hi : DurabilityInv db) (ha : a ∈ db.artifacts.rows) :
    DurablyRecorded db a := by
  have hnodup := artifactIds_nodup db
  obtain ⟨r, hr, hreceipts⟩ := Sql.filter_parallel hi.receipts Prod.fst hnodup ha
  obtain ⟨e, he, hevents⟩ := Sql.filter_parallel hi.events Prod.fst hnodup ha
  obtain ⟨t, ht, htasks⟩ := Sql.filter_parallel hi.tasks Prod.fst hnodup ha
  simp only [Prod.mk.injEq] at hr he ht
  have htask : t ∈ db.tasksOf a := by
    rw [tasksOf]
    simp only [htasks, List.mem_singleton]
  have hnodup' : (db.asyncTasks.rows.map fun t => (t.organizationId, t.aggregateId)).Nodup := by
    have hkeys := congrArg (List.map Prod.fst) hi.tasks
    rw [List.map_map, List.map_map] at hkeys
    exact hkeys ▸ hnodup
  obtain ⟨o, ho, houtbox⟩ := Sql.filter_parallel hi.outbox Prod.fst hnodup'
    (List.mem_filter.mp htask).1
  simp only [Prod.mk.injEq] at ho
  rw [ht.1.1, ht.1.2] at houtbox
  exact {
    receipt := ⟨r, hreceipts, hr.2⟩
    event := ⟨e, hevents, he.2⟩
    task := ⟨t, htasks, ht.2⟩
    outbox := ⟨o, houtbox, ho.2.2.trans ht.2.2, t, htask, ho.2.1.symm⟩
    staging := hi.staging a ha }

/-- **An artifact is recorded once, with everything that belongs to it.** -/
theorem durability_exactly_once {s : DurabilityTables}
    (hs : (durabilitySystem server).Reachable TSys.any s) :
    (∀ a ∈ s.artifacts.rows, ∀ b ∈ s.artifacts.rows, a.organizationId = b.organizationId →
      a.captureId = b.captureId → a = b) ∧
    (∀ a ∈ s.artifacts.rows, DurablyRecorded s a) ∧
    ∀ call c r s', recordVerifiedArtifactDurability server call c s = .ok (r, s') →
      ∀ a ∈ s.artifacts.rows, IsArtifactOf c a → Observed c a r s s' := by
  have hi := (durabilityInv_inductive server).invariant hs
  refine ⟨fun a ha b hb horganization hcapture => ?_, fun a ha => hi.recorded ha, ?_⟩
  · refine s.artifacts.eq_of_key (f := fun a => (a.organizationId, a.captureId)) ?_ ha hb ?_
    · intro a b hab
      simp only [Prod.mk.injEq] at hab
      exact .inr (.inl hab)
    · rw [horganization, hcapture]
  · intro call c r s' h a ha hof
    rcases recordVerified_ok hi.streams h with ⟨b, hb, hof', hobserved⟩ | ⟨hnone, -⟩
    · rwa [artifact_unique ha hb hof hof']
    · exact absurd hof (hnone a ha)

/-! ## A photo, recorded and sent again -/

namespace Sample

def tenant : Uuid := ⟨"aaaaaaaa-0000-0000-0000-000000000001", @rfl _ true⟩
def job : Uuid := ⟨"aaaa0000-0000-0000-0000-000000000001", @rfl _ true⟩
def capture : Uuid := ⟨"bbbb0000-0000-0000-0000-000000000001", @rfl _ true⟩
def photo : Uuid := ⟨"cccc0000-0000-0000-0000-000000000001", @rfl _ true⟩

def photoHash : String := String.ofList (List.replicate 64 '7')

def storageKey : String :=
  stagingPath tenant.text job.text capture.text photo.text ++ "jpg"

def request : RecordDurability :=
  ⟨some tenant, some job, some photo, some capture, some 1, some "photo", some photoHash, some 10,
    some "image/jpeg", some storageKey, some 0, none, none, some photoHash, some 10, some "v1",
    some true, some "durability-1"⟩

/-- Midnight, in microseconds. -/
def midnight : Int := 1784160000000000

def firstCall : DurabilityCall :=
  ⟨⟨"eeee0000-0000-0000-0000-000000000001", @rfl _ true⟩,
    ⟨"dddd0000-0000-0000-0000-000000000001", @rfl _ true⟩,
    ⟨"eeee0000-0000-0000-0000-000000000002", @rfl _ true⟩, midnight⟩

def secondCall : DurabilityCall :=
  ⟨⟨"eeee0000-0000-0000-0000-000000000003", by decide⟩,
    ⟨"dddd0000-0000-0000-0000-000000000002", by decide⟩,
    ⟨"eeee0000-0000-0000-0000-000000000004", by decide⟩, midnight⟩

def jobs : Sql.Table Job Job.clash := ⟨[⟨job, tenant, 0⟩], List.pairwise_singleton _ _⟩

def artifact : Artifact :=
  ⟨photo, tenant, job, capture, 1, .photo, photoHash, 10, "image/jpeg", storageKey, none, 0, none,
    .pending⟩

def clock (_ : Int) : String := "2026-07-16 00:00:00+00"

/-- What the first event is hashed of. -/
def durabilityText : String :=
  (durabilityEvent firstCall (some "durability-1") artifact "v1" []).hashText ⟨id, clock⟩

def taskMetadata : String := Jsonb.text (.obj [("task_type", .str "content.validate_and_proxy")])

def taskMetadataHash : String :=
  "bbd5cdce280a5a6e74bb570e9240cb7661db3dd068e73b533089feec2156494c"

/-- What the second event is hashed of. -/
def taskText : String :=
  Sql.separated "|" [firstCall.taskEventId.text, tenant.text, "async_task", firstCall.taskId.text,
    "1", "system.task_enqueued", "", "", "", clock midnight, "", taskMetadata, "\x7b\x7d", "", "1",
    taskMetadataHash, "", "", ""]

def host : Server where
  sha256 := digestOf [(taskMetadata, taskMetadataHash),
    (durabilityText, "3894659ac721e3d43163642d7e9aaaa5bc547899be87f289c0ee5c4262f6e5d8"),
    (taskText, "bef3733167e95db1d545c15fda7773c4c9f4e640d11ca53d0565b6199488ad54")]
  timestampText := clock

/-- The characters of a key, id by id. -/
theorem stagingPath_toList (organization job capture artifact extension : String) :
    (stagingPath organization job capture artifact ++ extension).toList =
      "quarantine/".toList ++ organization.toList ++ "/".toList ++ job.toList ++ "/".toList ++
        capture.toList ++ "/".toList ++ artifact.toList ++ ".".toList ++ extension.toList := by
  unfold stagingPath
  iterate 9 rw [String.toList_append]

theorem request_checked : request.check = .ok () := by
  have hlike : Sql.like storageKey.toList (request.expectedPrefix.toList ++ ['%']) = true := by
    refine (Sql.like_prefix (plain_stagingPath tenant job capture photo) _).mpr ?_
    rw [storageKey, String.toList_append]
    exact List.prefix_append _ _
  have hclimbs : ¬ climbs storageKey := by
    rw [climbs, storageKey, stagingPath_toList]
    decide +kernel
  have hkey : request.storageKey = some storageKey := rfl
  unfold RecordDurability.check
  rw [Sql.check_of (by decide +kernel), hkey]
  refine Sql.raiseIf_of ?_ _ _
  simp [Sql.anyTrue, hlike, hclimbs]

theorem artifact_checked : artifact.checked = true := by
  have htrimmed : trimmedWithin 1 1024 storageKey := by
    rw [trimmedWithin, btrim, String.length_ofList, storageKey, stagingPath_toList]
    decide +kernel
  have hrest : (decide (0 < artifact.captureSequence) && Js.isHexDigest artifact.contentSha256 &&
      decide (0 ≤ artifact.byteSize) && decide (trimmedWithin 1 160 artifact.mediaType)) = true := by
    decide +kernel
  rw [Artifact.checked, hrest, Bool.true_and]
  exact decide_eq_true htrimmed

def opened : DurabilityTables := DurabilityTables.empty.perform host (.other jobs)

theorem artifact_inserted :
    opened.insertArtifact artifact = .ok { opened with
      artifacts := Sql.Table.empty.snoc artifact (List.forall_mem_nil _) } := by
  unfold insertArtifact
  rw [Sql.check_of (by rw [artifact_checked]; simp)]
  rfl

theorem photo_accepted :
    ∃ s, recordVerifiedArtifactDurability host firstCall request opened =
      .ok ((.recorded, photo), s) := by
  have hrecord : ((opened.recordArtifact host firstCall request).map Prod.fst).toOption =
      some photo := by
    have hrequest : request.artifact = .ok artifact := rfl
    unfold recordArtifact
    rw [Sql.bind_of hrequest, Sql.bind_of artifact_inserted]
    decide +kernel
  unfold recordVerifiedArtifactDurability
  rw [Sql.bind_of request_checked]
  cases hresult : opened.recordArtifact host firstCall request with
  | error e =>
      rw [hresult] at hrecord
      cases hrecord
  | ok result =>
      obtain ⟨id, s⟩ := result
      rw [hresult] at hrecord
      have hid := Option.some.inj hrecord
      subst hid
      exact ⟨s, rfl⟩

/-- Sent again, the photo keeps its rows. -/
theorem photo_exactly_once :
    ∃ s s', recordVerifiedArtifactDurability host firstCall request opened =
        .ok ((.recorded, photo), s) ∧
      recordVerifiedArtifactDurability host secondCall request s =
        .ok ((.duplicate_attempt, photo), s') ∧
      DurablyRecorded s artifact ∧ DurablyRecorded s' artifact := by
  obtain ⟨s, hfirst⟩ := photo_accepted
  have hopened := TSys.reachable_foldl DurabilityTables.empty (perform host) [.other jobs]
  have hs : (durabilitySystem host).Reachable TSys.any s := by
    refine hopened.step (a := .record firstCall request) trivial ?_
    show perform host opened (.record firstCall request) = s
    rw [perform, hfirst]
  obtain ⟨-, hrecorded, hlater⟩ := durability_exactly_once hs
  have hmem : artifact ∈ s.artifacts.rows := by
    rcases recordVerified_ok Streams.nil hfirst with ⟨a, ha, -⟩ | ⟨-, a, -, h, -⟩
    · exact nomatch ha
    · have hrequest : request.artifact = .ok artifact := rfl
      cases hrequest.symm.trans h.request
      rw [h.artifacts]
      exact List.mem_append_right _ List.mem_cons_self
  obtain ⟨r, s', hsecond⟩ := recordVerified_answers request_checked rfl hmem ⟨rfl, rfl⟩ host
    secondCall
  have hobserved := hlater secondCall request r s' hsecond artifact hmem ⟨rfl, rfl⟩
  have hresult : r = (.duplicate_attempt, photo) := by
    rw [hobserved.result, if_pos ⟨rfl, rfl⟩]
    rfl
  have hs' : (durabilitySystem host).Reachable TSys.any s' := by
    refine hs.step (a := .record secondCall request) trivial ?_
    show perform host s (.record secondCall request) = s'
    rw [perform, hsecond]
  obtain ⟨o, -, hdb⟩ := hobserved.observation
  have hmem' : artifact ∈ s'.artifacts.rows := by
    rw [hdb]
    exact hmem
  rw [hresult] at hsecond
  exact ⟨s, s', hfirst, hsecond, hrecorded artifact hmem,
    (durability_exactly_once hs').2.1 artifact hmem'⟩

end Sample

end DurabilityTables

end InspectionHub.Database
