import InspectionHub.Domain.ModuleState
import InspectionHub.Lib.OMap

/-!
# The snapshot store

`InMemoryModuleSnapshotStore` of
`packages/reporting/src/snapshot/snapshot-store.ts`: immutable snapshots by
identifier, and one current pointer for each professional module, which only a
new snapshot of that module moves.
-/

namespace InspectionHub.Reporting

open Contracts Domain

structure ModuleSnapshotKey where
  organizationId : String
  jobId : String
  module : ModuleType
deriving DecidableEq

/-- A snapshot to be created: the properties the store reads, and the rest. -/
structure ModuleSnapshotInput where
  snapshotId : String
  organizationId : String
  jobId : String
  module : ModuleType
  revision : Int
  content : Fields

def ModuleSnapshotInput.key (i : ModuleSnapshotInput) : ModuleSnapshotKey :=
  { organizationId := i.organizationId, jobId := i.jobId, module := i.module }

def ModuleSnapshotInput.val (i : ModuleSnapshotInput) : JsVal :=
  .obj (("snapshotId", .str i.snapshotId) :: ("organizationId", .str i.organizationId) ::
    ("jobId", .str i.jobId) :: ("module", .str i.module.text) ::
    ("revision", .num (.int i.revision)) :: i.content)

def snapshotKey (key : ModuleSnapshotKey) : String :=
  key.organizationId ++ ":" ++ key.jobId ++ ":" ++ key.module.text

inductive SnapshotError where
  /-- `SnapshotConflictError`. -/
  | conflict (message : String)
  | domain (e : DomainError)
  /-- A plain `Error`. -/
  | other (message : String)

structure SnapshotStore where
  byId : OMap String JsVal
  currentIds : OMap String String
  history : OMap String (List String)

namespace SnapshotStore

def empty : SnapshotStore := ⟨.empty, .empty, .empty⟩

def getCurrent (s : SnapshotStore) (key : ModuleSnapshotKey) : Option JsVal :=
  (s.currentIds.get? (snapshotKey key)).bind s.byId.get?

end SnapshotStore

variable (env : Env)

def moduleSnapshotInputSchema (fmt : Formats) : Schema :=
  Schema.union [buildingModuleSnapshotInputSchema fmt, timberPestModuleSnapshotInputSchema fmt]

def createModuleSnapshot (input : JsVal) : Except DomainError JsVal := do
  let parsed ← parse (moduleSnapshotInputSchema env.formats input)
  let canonicalHash := sha256 env parsed
  parse (moduleSnapshotSchema env.formats
    (.obj (parsed.fields.assign "canonicalHash" (.str canonicalHash))))

/-- Throw unless `p`. -/
def check (p : Prop) [Decidable p] (e : SnapshotError) : Except SnapshotError Unit :=
  if p then .ok () else .error e

namespace SnapshotStore

/-- `create`; every check comes before the first write. -/
def create (s : SnapshotStore) (input : ModuleSnapshotInput) (expectedCurrentRevision : Int) :
    Except SnapshotError (JsVal × SnapshotStore) := do
  let key := snapshotKey input.key
  let currentRevision := ((s.getCurrent input.key).bind (JsVal.int? · "revision")).getD 0
  check (currentRevision = expectedCurrentRevision) (.conflict
    s!"Expected {expectedCurrentRevision}, current snapshot revision is {currentRevision}")
  check (input.revision = expectedCurrentRevision + 1) (.conflict
    "A new snapshot revision must advance the current module revision exactly once")
  check (s.byId.has input.snapshotId = false) (.conflict "Snapshot identity already exists")
  let created ← (createModuleSnapshot env input.val).mapError .domain
  let valid ← (verifyModuleSnapshotHash env created).mapError .domain
  check (valid = true) (.other "Created module snapshot failed its canonical hash check")
  let snapshotId := text created "snapshotId"
  return (created,
    { byId := s.byId.set snapshotId created
      currentIds := s.currentIds.set key snapshotId
      history := s.history.set key ((s.history.get? key).getD [] ++ [snapshotId]) })

end SnapshotStore

/-! ## What a created snapshot is -/

variable {env}

theorem check_ok {p : Prop} [Decidable p] {e : SnapshotError} {u : Unit}
    (h : check p e = .ok u) : p := by
  unfold check at h
  split at h
  · assumption
  · cases h

theorem mapError_ok {α : Type} {r : Except DomainError α} {a : α}
    (h : r.mapError SnapshotError.domain = .ok a) : r = .ok a := by
  cases r with
  | error e => cases h
  | ok b =>
      cases h
      rfl

/-- The identity of a created snapshot is the one of its input. -/
structure CreatedFrom (fmt : Formats) (input : ModuleSnapshotInput) (created : JsVal) : Prop where
  snapshotId : created.str? "snapshotId" = some input.snapshotId
  organizationId : created.str? "organizationId" = some input.organizationId
  jobId : created.str? "jobId" = some input.jobId
  module : created.str? "module" = some input.module.text
  uuids : fmt.uuid input.organizationId = true ∧ fmt.uuid input.jobId = true

/-- The identifiers of a snapshot. -/
def idKeys : List String := ["snapshotId", "organizationId", "jobId"]

/-- A schema of snapshot inputs keeps the identifiers, which it checks, and
fixes the module. -/
theorem inputObject_get {fmt : Formats} {module : String} {finding conclusion : Schema}
    {v w : JsVal} (h : Schema.superRefine
      (Schema.strictObject (snapshotFields fmt module finding conclusion))
      validateSnapshotRelationships v = .ok w) :
    (∀ k ∈ idKeys, ∃ id, fmt.uuid id = true ∧ v.str? k = some id ∧ w.get? k = some (.str id)) ∧
      v.str? "module" = some module ∧ w.get? "module" = some (.str module) := by
  obtain ⟨h, -⟩ := Schema.superRefine_ok h
  have hnodup : ((snapshotFields fmt module finding conclusion).map Prod.fst).Nodup := by
    have := snapshotFields_nodup fmt module finding conclusion
    rw [List.map_append] at this
    exact this.of_append_left
  have hget := fun {k s} => Schema.strictObject_get hnodup h (k := k) (s := s)
  refine ⟨?_, ?_⟩
  · intro k hk
    have hmem : (k, idSchema fmt) ∈ snapshotFields fmt module finding conclusion := by
      simp only [idKeys, List.mem_cons, List.not_mem_nil, or_false] at hk
      rcases hk with rfl | rfl | rfl <;> simp [snapshotFields, snapshotIdentityFields]
    obtain ⟨x, y, hx, hy, hxy⟩ := hget hmem
    obtain ⟨id, rfl⟩ := Schema.string_ok hxy
    obtain ⟨t, ht, -⟩ := Schema.string_cons_ok hxy
    have hyx : y = .str id := exact_id fmt _ _ hxy
    exact ⟨id, (Schema.satisfies_ok ht).2, by rw [JsVal.str?, hx], by rw [hy, hyx]⟩
  · obtain ⟨x, y, hx, hy, hxy⟩ := hget (k := "module") (s := Schema.literal module)
      (by simp [snapshotFields, snapshotIdentityFields])
    obtain ⟨rfl, rfl⟩ := Schema.literal_ok hxy
    exact ⟨by rw [JsVal.str?, hx], hy⟩

variable {input : ModuleSnapshotInput} {created : JsVal}

theorem createModuleSnapshot_ok (h : createModuleSnapshot env input.val = .ok created) :
    CreatedFrom env.formats input created := by
  obtain ⟨parsed, hparsed, h⟩ := bind_ok h
  obtain ⟨s, hs, hsv⟩ := Schema.union_ok (parse_ok hparsed)
  have hkept : (∀ k ∈ idKeys, ∃ id, env.formats.uuid id = true ∧ input.val.str? k = some id ∧
      parsed.get? k = some (.str id)) ∧ ∃ module, input.val.str? "module" = some module ∧
      parsed.get? "module" = some (.str module) := by
    simp only [List.mem_cons, List.not_mem_nil, or_false] at hs
    rcases hs with rfl | rfl
    · exact ⟨(inputObject_get hsv).1, _, (inputObject_get hsv).2⟩
    · exact ⟨(inputObject_get hsv).1, _, (inputObject_get hsv).2⟩
  obtain ⟨hids, module, hmodule, hpmodule⟩ := hkept
  have hstored := parse_ok h
  -- the hash is added beside the properties read here
  have hassign : ∀ k, k ≠ "canonicalHash" → ∀ x, parsed.get? k = some x →
      (JsVal.obj (parsed.fields.assign "canonicalHash"
        (.str (sha256 env parsed)))).get? k = some x := by
    intro k hk x hx
    cases parsed with
    | obj l => exact (Fields.lookup_assign l _ k _).trans ((if_neg hk).trans hx)
    | _ => cases hx
  have hread : ∀ k ∈ idKeys, ∀ id, input.val.str? k = some id →
      created.str? k = some id ∧ env.formats.uuid id = true := by
    intro k hk id hid
    obtain ⟨id', huuid, hid', hp⟩ := hids k hk
    have hidentity : k ∈ identityKeys ∧ k ≠ "canonicalHash" := by
      simp only [idKeys, List.mem_cons, List.not_mem_nil, or_false] at hk
      rcases hk with rfl | rfl | rfl <;> simp [identityKeys]
    have heq : id' = id := Option.some.inj (hid'.symm.trans hid)
    subst heq
    have hget := moduleSnapshot_get env.formats hstored hidentity.1
    rw [hassign k hidentity.2 _ hp] at hget
    exact ⟨by rw [JsVal.str?, hget], huuid⟩
  have hsnap := hread "snapshotId" (by simp [idKeys]) _ rfl
  have horg := hread "organizationId" (by simp [idKeys]) _ rfl
  have hjob := hread "jobId" (by simp [idKeys]) _ rfl
  refine ⟨hsnap.1, horg.1, hjob.1, ?_, horg.2, hjob.2⟩
  have hget := moduleSnapshot_module env.formats hstored
  have hinput : input.val.str? "module" = some input.module.text := rfl
  rw [hassign _ (by simp) _ hpmodule] at hget
  rw [JsVal.str?, hget]
  exact hmodule.symm.trans hinput

variable {rev : Int}

/-- What `create` does when it does not throw. -/
theorem create_ok {s s' : SnapshotStore} (h : s.create env input rev = .ok (created, s')) :
    CreatedFrom env.formats input created ∧ s.byId.get? input.snapshotId = none ∧
      s'.byId = s.byId.set input.snapshotId created ∧
      s'.currentIds = s.currentIds.set (snapshotKey input.key) input.snapshotId := by
  obtain ⟨_, -, h⟩ := bind_ok h
  obtain ⟨_, -, h⟩ := bind_ok h
  obtain ⟨_, hfresh, h⟩ := bind_ok h
  obtain ⟨c, hc, h⟩ := bind_ok h
  obtain ⟨_, -, h⟩ := bind_ok h
  obtain ⟨_, -, h⟩ := bind_ok h
  have hcreated := createModuleSnapshot_ok (mapError_ok hc)
  have hid : text c "snapshotId" = input.snapshotId := by
    rw [text, hcreated.snapshotId, Option.getD_some]
  cases h
  refine ⟨hcreated, ?_, by rw [hid], by rw [hid]⟩
  have hhas := check_ok hfresh
  rwa [OMap.has, Option.isSome_eq_false_iff, Option.isNone_iff_eq_none] at hhas

/-- A snapshot is created from its parsed input and the hash of it. -/
theorem createModuleSnapshot_of {input parsed created : JsVal} {hash : String}
    (hparsed : moduleSnapshotInputSchema env.formats input = .ok parsed)
    (hhash : sha256 env parsed = hash)
    (hcreated : moduleSnapshotSchema env.formats
      (.obj (parsed.fields.assign "canonicalHash" (.str hash))) = .ok created) :
    createModuleSnapshot env input = .ok created := by
  unfold createModuleSnapshot
  rw [hparsed]
  show parse (moduleSnapshotSchema env.formats
    (.obj (parsed.fields.assign "canonicalHash" (.str (sha256 env parsed))))) = _
  rw [hhash, hcreated]
  rfl

variable {s : SnapshotStore}

/-- A store with every check passed takes the snapshot. -/
theorem create_of
    (hcurrent : ((s.getCurrent input.key).bind (JsVal.int? · "revision")).getD 0 = rev)
    (hrev : input.revision = rev + 1) (hfresh : s.byId.has input.snapshotId = false)
    (hcreated : createModuleSnapshot env input.val = .ok created)
    (hvalid : verifyModuleSnapshotHash env created = .ok true)
    (hid : created.str? "snapshotId" = some input.snapshotId) :
    s.create env input rev = .ok (created,
      { byId := s.byId.set input.snapshotId created
        currentIds := s.currentIds.set (snapshotKey input.key) input.snapshotId
        history := s.history.set (snapshotKey input.key)
          ((s.history.get? (snapshotKey input.key)).getD [] ++ [input.snapshotId]) }) := by
  have htext : text created "snapshotId" = input.snapshotId := by
    rw [text, hid, Option.getD_some]
  simp only [SnapshotStore.create, check, hcurrent, hrev, hfresh, hcreated, hvalid, htext,
    Except.mapError, bind, Except.bind, if_true]
  rfl

/-! ## Keys -/

/-- Identifiers without a colon, as the ones of the uuid format are. -/
def ColonFree (s : String) : Prop := ':' ∉ s.toList

theorem last_of_module (m : ModuleType) : m.text.toList.getLast? =
    some (match m with | .building => 'g' | .timber_pest => 't') := by
  cases m <;> rfl

/-- A key of colon-free identifiers is the only one with its text. -/
theorem snapshotKey_inj {k k' : ModuleSnapshotKey} (horg : ColonFree k.organizationId)
    (hjob : ColonFree k.jobId) (h : snapshotKey k = snapshotKey k') : k = k' := by
  obtain ⟨org, job, module⟩ := k
  obtain ⟨org', job', module'⟩ := k'
  have hlist := congrArg String.toList h
  simp only [snapshotKey, String.toList_append] at hlist
  -- the modules' names end differently
  have hmodule : module = module' := by
    have hlast := congrArg List.getLast? hlist
    simp only [List.getLast?_append, last_of_module, Option.some_or] at hlast
    cases module <;> cases module' <;> first | rfl | exact absurd hlast (by decide)
  subst hmodule
  have hfront : org.toList ++ ':' :: job.toList = org'.toList ++ ':' :: job'.toList := by
    have := List.append_cancel_right (List.append_cancel_right hlist)
    rwa [List.append_assoc, List.append_assoc] at this
  obtain ⟨horgs, -, hjobs⟩ := (List.append_cons_inj_of_notMem horg hjob).mp hfront
  have horg' : org = org' := String.toList_inj.mp horgs
  have hjob' : job = job' := String.toList_inj.mp hjobs
  rw [horg', hjob']

/-! ## The store's invariant -/

/-- Snapshots sit under their own identifiers, and the current pointers are
those of created snapshots. -/
structure StoreSound (fmt : Formats) (s : SnapshotStore) : Prop where
  keyed : ∀ id snap, s.byId.get? id = some snap → snap.str? "snapshotId" = some id
  current : ∀ k id, s.currentIds.get? k = some id → (s.byId.get? id).isSome ∧
    ∃ key : ModuleSnapshotKey, k = snapshotKey key ∧ fmt.uuid key.organizationId = true ∧
      fmt.uuid key.jobId = true

theorem storeSound_empty (fmt : Formats) : StoreSound fmt .empty :=
  ⟨fun _ _ h => (by cases h), fun _ _ h => (by cases h)⟩

theorem storeSound_create {s s' : SnapshotStore} (hs : StoreSound env.formats s)
    (h : s.create env input rev = .ok (created, s')) : StoreSound env.formats s' := by
  obtain ⟨hcreated, -, hbyId, hcurrent⟩ := create_ok h
  constructor
  · intro id snap hid
    rw [hbyId, OMap.get?_set] at hid
    split at hid
    · next heq =>
        cases hid
        rw [heq]
        exact hcreated.snapshotId
    · exact hs.keyed id snap hid
  · intro k id hk
    rw [hcurrent, OMap.get?_set] at hk
    rw [hbyId, OMap.get?_set]
    split at hk
    · next heq =>
        cases hk
        exact ⟨by rw [if_pos rfl]; rfl, input.key, heq, hcreated.uuids⟩
    · obtain ⟨hsome, hkey⟩ := hs.current k id hk
      refine ⟨?_, hkey⟩
      split
      · rfl
      · exact hsome

/-- The current snapshot of a key, and its identifier. -/
theorem getCurrent_eq_some {key : ModuleSnapshotKey} {snap : JsVal}
    (h : s.getCurrent key = some snap) :
    ∃ id, s.currentIds.get? (snapshotKey key) = some id ∧ s.byId.get? id = some snap := by
  unfold SnapshotStore.getCurrent at h
  cases hid : s.currentIds.get? (snapshotKey key) with
  | none =>
      rw [hid] at h
      cases h
  | some id =>
      rw [hid] at h
      exact ⟨id, rfl, h⟩

/-- A key with a current snapshot shares its text with no other key. -/
theorem key_unique (hs : StoreSound env.formats s)
    (hcolon : ∀ id, env.formats.uuid id = true → ColonFree id) {key key' : ModuleSnapshotKey}
    {snap : JsVal} (h : s.getCurrent key = some snap) (hk : snapshotKey key' = snapshotKey key) :
    key' = key := by
  obtain ⟨id, hid, -⟩ := getCurrent_eq_some h
  obtain ⟨-, owner, howner, horg, hjob⟩ := hs.current _ _ hid
  have h₁ : owner = key := snapshotKey_inj (hcolon _ horg) (hcolon _ hjob) howner.symm
  have h₂ : owner = key' :=
    snapshotKey_inj (hcolon _ horg) (hcolon _ hjob) (howner.symm.trans hk.symm)
  rw [← h₁, ← h₂]

end InspectionHub.Reporting
