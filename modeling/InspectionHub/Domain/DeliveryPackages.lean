import InspectionHub.Domain.ModuleHistory
import InspectionHub.Lib.OMap

/-!
# Delivery packages

A package of one job names the modules commissioned. Confirming a pending one
binds, for each of them, the approval in force and the snapshot it approves;
cancelling and suppressing end the package with its binding as it stood.
`confirm_ok_iff` says when confirming succeeds, for packages and states that
are their own parse, and what it then returns; `package_lifecycle` adds what
becomes of the binding.
-/

namespace InspectionHub.Domain

open Contracts Schema

/-! ## The package -/

/-- The sets of modules that can be commissioned, each in canonical order. -/
inductive CommissionedModules where
  | building
  | timber_pest
  | both
deriving DecidableEq

def CommissionedModules.modules : CommissionedModules → List ModuleType
  | .building => [.building]
  | .timber_pest => [.timber_pest]
  | .both => [.building, .timber_pest]

structure PackageModuleSnapshotReference where
  module : ModuleType
  moduleId : String
  snapshotId : String
  snapshotHash : String
  approvalId : String
deriving DecidableEq

inductive PackageBlocker where
  | building_not_approved
  | timber_pest_not_approved
  | evidence_not_durable
deriving DecidableEq

inductive CancellationReason where
  | module_withdrawn
  | module_amended
  | grant_revoked
  | stale_snapshot
deriving DecidableEq

inductive SuppressionReason where
  | restore_reconciliation
  | professional_hold
  | dispute_hold
deriving DecidableEq

/-- The status of a package, with the fields its schema adds. -/
inductive PackageStatus where
  | pending (blockers : List PackageBlocker)
  | confirmed (confirmedAt : String)
  | cancelled (cancelledAt : String) (cancellationReason : CancellationReason)
  | suppressed (suppressedAt : String) (suppressionReason : SuppressionReason)
deriving DecidableEq

namespace PackageStatus

def text : PackageStatus → String
  | .pending _ => "pending"
  | .confirmed _ => "confirmed"
  | .cancelled _ _ => "cancelled"
  | .suppressed _ _ => "suppressed"

def IsPending : PackageStatus → Prop
  | .pending _ => True
  | _ => False

/-- Cancelled or suppressed. -/
def IsTerminal : PackageStatus → Prop
  | .cancelled _ _ => True
  | .suppressed _ _ => True
  | _ => False

instance : DecidablePred IsPending := fun s => by cases s <;> unfold IsPending <;> infer_instance

instance : DecidablePred IsTerminal := fun s => by cases s <;> unfold IsTerminal <;> infer_instance

end PackageStatus

structure DeliveryPackage where
  packageId : String
  organizationId : String
  jobId : String
  commissionedModules : CommissionedModules
  revision : Int
  status : PackageStatus
  moduleSnapshots : List PackageModuleSnapshotReference
deriving DecidableEq

/-! ## The schema -/

variable (env : Env)

def PackageModuleSnapshotReference.issues (r : PackageModuleSnapshotReference) : List Issue :=
  idField env "moduleId" r.moduleId ++ idField env "snapshotId" r.snapshotId ++
    hashField "snapshotHash" r.snapshotHash ++ idField env "approvalId" r.approvalId

/-- The sizes `moduleSnapshots` may have. -/
def PackageStatus.admits : PackageStatus → Nat → Bool
  | .pending _, n => n ≤ 0
  | .confirmed _, n => 1 ≤ n && n ≤ 2
  | .cancelled _ _, n => n ≤ 2
  | .suppressed _ _, n => n ≤ 2

/-- The fields a status adds to the package. -/
def PackageStatus.issues : PackageStatus → List Issue
  | .pending _ => []
  | .confirmed confirmedAt => timestampField env "confirmedAt" confirmedAt
  | .cancelled cancelledAt _ => timestampField env "cancelledAt" cancelledAt
  | .suppressed suppressedAt _ => timestampField env "suppressedAt" suppressedAt

/-- The strict object, before its refinement. -/
def DeliveryPackage.fieldIssues (v : DeliveryPackage) : List Issue :=
  idField env "packageId" v.packageId ++ idField env "organizationId" v.organizationId ++
    idField env "jobId" v.jobId ++
    failing "revision" none (0 ≤ v.revision && v.revision.natAbs ≤ 2 ^ 53 - 1) ++
    (v.moduleSnapshots.mapIdx fun i r => (r.issues env).map fun issue =>
      { issue with path := .name "moduleSnapshots" :: .index i :: issue.path }).flatten ++
    failing "moduleSnapshots" none (v.status.admits v.moduleSnapshots.length) ++
    v.status.issues env

/-- The refinement of a confirmed package. -/
def DeliveryPackage.refinementIssues (v : DeliveryPackage) : List Issue :=
  match v.status with
  | .confirmed _ =>
      failing "moduleSnapshots"
        (some "Delivery package must bind the exact commissioned module set in canonical order")
        (v.moduleSnapshots.map (·.module) = v.commissionedModules.modules)
  | _ => []

/-- `DeliveryPackageSchema.parse(input)`. -/
def DeliveryPackage.parse (v : DeliveryPackage) : Parsed DeliveryPackage :=
  (accept v (v.fieldIssues env)).bind fun s => accept s s.refinementIssues

/-! ## Transitions -/

/-- One turn of the loop that keys the states by module. -/
def collectStep (byModule : OMap ModuleType ProfessionalModuleState)
    (state : ProfessionalModuleState) :
    Except DomainError (OMap ModuleType ProfessionalModuleState) := do
  require (byModule.has state.module = false) "duplicate_module"
    ("Duplicate " ++ state.module.text ++ " state supplied") []
  return byModule.set state.module state

def collectByModule (moduleStates : List ProfessionalModuleState) :
    Except DomainError (OMap ModuleType ProfessionalModuleState) :=
  moduleStates.foldlM collectStep .empty

def bindModule (deliveryPackage : DeliveryPackage)
    (byModule : OMap ModuleType ProfessionalModuleState) (module : ModuleType) :
    Except DomainError PackageModuleSnapshotReference :=
  let notApproved := DomainError.conflict "commissioned_module_not_approved"
    (module.text ++ " is not approved for this package") []
  match byModule.get? module with
  | none => .error notApproved
  | some state => do
      if state.organizationId ≠ deliveryPackage.organizationId ∨
          state.jobId ≠ deliveryPackage.jobId ∨ state.status ≠ .approved ∨
          state.currentApprovalId = none then
        throw notApproved
      let snapshot ← getCurrentSnapshot state
      match state.approvals.find? fun a => some a.approvalId = state.currentApprovalId with
      | none => .error (.conflict "approval_snapshot_mismatch"
          (module.text ++ " approval is stale or does not match") [])
      | some approval => do
          require
            (snapshot.str? "snapshotId" = some approval.snapshotId ∧
              snapshot.str? "canonicalHash" = some approval.snapshotHash)
            "approval_snapshot_mismatch" (module.text ++ " approval is stale or does not match") []
          return { module := module
                   moduleId := state.moduleId
                   snapshotId := text snapshot "snapshotId"
                   snapshotHash := text snapshot "canonicalHash"
                   approvalId := approval.approvalId }

def confirmDeliveryPackage (deliveryPackage : DeliveryPackage) (expectedRevision : Int)
    (moduleStates : List ProfessionalModuleState) (confirmedAt : String) :
    Except DomainError DeliveryPackage := do
  assertRevision deliveryPackage.revision expectedRevision
  require deliveryPackage.status.IsPending "package_not_confirmable"
    ("A " ++ deliveryPackage.status.text ++ " package cannot be confirmed") []
  require (moduleStates.length = deliveryPackage.commissionedModules.modules.length)
    "commissioned_module_set_mismatch" "Module states must match the exact commissioned set" []
  let byModule ← collectByModule moduleStates
  let moduleSnapshots ←
    deliveryPackage.commissionedModules.modules.mapM (bindModule deliveryPackage byModule)
  require (byModule.keys.length = deliveryPackage.commissionedModules.modules.length)
    "commissioned_module_set_mismatch" "Extra professional module supplied" []
  Domain.parse (DeliveryPackage.parse env
    { deliveryPackage with
      revision := deliveryPackage.revision + 1
      status := .confirmed confirmedAt
      moduleSnapshots := moduleSnapshots })

def cancelDeliveryPackage (deliveryPackage : DeliveryPackage) (expectedRevision : Int)
    (reason : CancellationReason) (cancelledAt : String) : Except DomainError DeliveryPackage := do
  assertRevision deliveryPackage.revision expectedRevision
  require (¬ deliveryPackage.status.IsTerminal) "package_terminal"
    ("A " ++ deliveryPackage.status.text ++ " package cannot be cancelled again") []
  Domain.parse (DeliveryPackage.parse env
    { deliveryPackage with
      revision := deliveryPackage.revision + 1
      status := .cancelled cancelledAt reason })

def suppressDeliveryPackage (deliveryPackage : DeliveryPackage) (expectedRevision : Int)
    (reason : SuppressionReason) (suppressedAt : String) : Except DomainError DeliveryPackage := do
  assertRevision deliveryPackage.revision expectedRevision
  require (¬ deliveryPackage.status.IsTerminal) "package_terminal"
    ("A " ++ deliveryPackage.status.text ++ " package cannot be suppressed") []
  Domain.parse (DeliveryPackage.parse env
    { deliveryPackage with
      revision := deliveryPackage.revision + 1
      status := .suppressed suppressedAt reason })

/-! ## Runs -/

/-- A call of one of the transitions, with its arguments. -/
inductive PackageCall where
  | confirmDeliveryPackage (expectedRevision : Int) (moduleStates : List ProfessionalModuleState)
      (confirmedAt : String)
  | cancelDeliveryPackage (expectedRevision : Int) (reason : CancellationReason)
      (cancelledAt : String)
  | suppressDeliveryPackage (expectedRevision : Int) (reason : SuppressionReason)
      (suppressedAt : String)

def PackageCall.exec (p : DeliveryPackage) : PackageCall → Except DomainError DeliveryPackage
  | .confirmDeliveryPackage r states time => Domain.confirmDeliveryPackage env p r states time
  | .cancelDeliveryPackage r reason time => Domain.cancelDeliveryPackage env p r reason time
  | .suppressDeliveryPackage r reason time => Domain.suppressDeliveryPackage env p r reason time

/-- The call ends the package: it cancels or suppresses it. -/
def PackageCall.Ends : PackageCall → Prop
  | .confirmDeliveryPackage _ _ _ => False
  | .cancelDeliveryPackage _ _ _ => True
  | .suppressDeliveryPackage _ _ _ => True

/-- The package after a call; one that throws leaves it alone. -/
def PackageCall.next (p : DeliveryPackage) (c : PackageCall) : DeliveryPackage :=
  match c.exec env p with
  | .ok q => q
  | .error _ => p

/-- The package after the given calls. -/
def packageRun (p : DeliveryPackage) (calls : List PackageCall) : DeliveryPackage :=
  calls.foldl (PackageCall.next env) p

/-! ## What the schema accepts -/

variable {env}

theorem accept_of {α : Type} (a : α) {issues : List Issue} (h : issues = []) :
    accept a issues = .ok a := by
  rw [h]
  rfl

theorem failing_of {k : String} {m : Option String} {b : Bool} (h : b = true) :
    failing k m b = [] := if_pos h

/-- A package comes out of the schema as it is. -/
theorem DeliveryPackage.parse_ok_iff {v w : DeliveryPackage} :
    v.parse env = .ok w ↔ w = v ∧ v.fieldIssues env = [] ∧ v.refinementIssues = [] := by
  constructor
  · intro h
    obtain ⟨s, hs, hrest⟩ := bind_ok h
    obtain ⟨rfl, hfields⟩ := accept_ok hs
    obtain ⟨rfl, hrefined⟩ := accept_ok hrest
    exact ⟨rfl, hfields, hrefined⟩
  · rintro ⟨rfl, hfields, hrefined⟩
    rw [DeliveryPackage.parse, accept_of _ hfields]
    exact accept_of _ hrefined

/-- The issues of the references, one after the other. -/
theorem references_issues_nil_iff {l : List PackageModuleSnapshotReference} :
    (l.mapIdx fun i r => (r.issues env).map fun issue =>
      ({ issue with path := .name "moduleSnapshots" :: .index i :: issue.path } : Issue)).flatten =
        [] ↔ ∀ r ∈ l, r.issues env = [] := by
  rw [List.flatten_eq_nil_iff]
  constructor
  · intro h r hr
    obtain ⟨i, hi, rfl⟩ := List.mem_iff_getElem.mp hr
    have hmem := h _ (List.mem_mapIdx.mpr ⟨i, hi, rfl⟩)
    exact List.map_eq_nil_iff.mp hmem
  · intro h issues hissues
    obtain ⟨i, hi, rfl⟩ := List.mem_mapIdx.mp hissues
    exact List.map_eq_nil_iff.mpr (h _ (List.getElem_mem hi))

variable {s : ProfessionalModuleState}

/-- The approvals of a state that is its own parse are in the form the schema
asks for, and so is its identity. -/
theorem state_parsed (h : s.parse env = .ok s) :
    idField env "moduleId" s.moduleId = [] ∧ ∀ a ∈ s.approvals,
      idField env "snapshotId" a.snapshotId = [] ∧ hashField "snapshotHash" a.snapshotHash = [] ∧
      idField env "approvalId" a.approvalId = [] := by
  obtain ⟨t, ht, -⟩ := bind_ok h
  obtain ⟨_, s₁, hids, h₁, -⟩ := both_ok ht
  obtain ⟨snapshots, s₂, -, h₂, -⟩ := both_ok h₁
  obtain ⟨approvals, s₃, happrovals, -, -⟩ := both_ok h₂
  have hids := (accept_ok hids).2
  simp only [List.append_eq_nil_iff] at hids
  refine ⟨hids.1.2, ?_⟩
  have each : ∀ {l r : List ModuleApproval} {i : Nat},
      parseAll (ModuleApproval.parse env) i l = .ok r →
      ∀ a ∈ l, idField env "snapshotId" a.snapshotId = [] ∧
        hashField "snapshotHash" a.snapshotHash = [] ∧
        idField env "approvalId" a.approvalId = [] := by
    intro l
    induction l with
    | nil => exact fun _ a ha => absurd ha List.not_mem_nil
    | cons a l ih =>
        intro r i hparse b hb
        obtain ⟨a', l', ha, hl, -⟩ := both_ok hparse
        rcases List.mem_cons.mp hb with rfl | hb
        · have hissues := (accept_ok (under_ok ha)).2
          simp only [List.append_eq_nil_iff] at hissues
          exact ⟨hissues.1.1.1.2, hissues.1.1.2, hissues.1.1.1.1.1.1.1⟩
        · exact ih hl b hb
  exact each (under_ok happrovals)

/-! ## Collecting the states -/

theorem collectStep_ok_iff {acc m : OMap ModuleType ProfessionalModuleState} :
    collectStep acc s = .ok m ↔ s.module ∉ acc.keys ∧ acc.set s.module s = m := by
  have hkeys : acc.has s.module = false ↔ s.module ∉ acc.keys := by
    rw [← OMap.get?_isSome_iff, OMap.has, Bool.not_eq_true]
  unfold collectStep require
  by_cases hhas : acc.has s.module = false
  · rw [if_pos hhas]
    constructor
    · intro h
      exact ⟨hkeys.mp hhas, Except.ok.inj h⟩
    · rintro ⟨-, h⟩
      exact congrArg Except.ok h
  · rw [if_neg hhas]
    constructor
    · intro h
      cases h
    · rintro ⟨h, -⟩
      exact absurd (hkeys.mpr h) hhas

variable {states : List ProfessionalModuleState}

/-- The fold keeps what it has and appends the states, whose modules are new
and distinct. -/
theorem collect_from {acc m : OMap ModuleType ProfessionalModuleState}
    (h : states.foldlM collectStep acc = .ok m) :
    (states.map (·.module)).Nodup ∧ (∀ s ∈ states, s.module ∉ acc.keys) ∧
      m.entries = acc.entries ++ states.map fun s => (s.module, s) := by
  induction states generalizing acc with
  | nil =>
      cases h
      exact ⟨List.nodup_nil, fun _ hs => absurd hs List.not_mem_nil, (List.append_nil _).symm⟩
  | cons s rest ih =>
      rw [List.foldlM_cons] at h
      obtain ⟨mid, hstep, h⟩ := bind_ok h
      obtain ⟨hnew, rfl⟩ := collectStep_ok_iff.mp hstep
      obtain ⟨hnodup, hfresh, hentries⟩ := ih h
      refine ⟨?_, ?_, ?_⟩
      · rw [List.map_cons, List.nodup_cons]
        refine ⟨fun hmem => ?_, hnodup⟩
        obtain ⟨t, ht, hmodule⟩ := List.mem_map.mp hmem
        apply hfresh t ht
        rw [hmodule, OMap.mem_keys_set]
        exact .inl rfl
      · intro t ht
        rcases List.mem_cons.mp ht with rfl | ht
        · exact hnew
        · intro hmem
          apply hfresh t ht
          rw [OMap.mem_keys_set]
          exact .inr hmem
      · rw [hentries, OMap.set, dif_neg hnew, List.map_cons]
        simp

theorem collect_of {acc : OMap ModuleType ProfessionalModuleState}
    (hnodup : (states.map (·.module)).Nodup) (hfresh : ∀ s ∈ states, s.module ∉ acc.keys) :
    ∃ m, states.foldlM collectStep acc = .ok m := by
  induction states generalizing acc with
  | nil => exact ⟨acc, rfl⟩
  | cons s rest ih =>
      rw [List.map_cons, List.nodup_cons] at hnodup
      have hstep := collectStep_ok_iff.mpr ⟨hfresh s List.mem_cons_self, rfl⟩
      rw [List.foldlM_cons, hstep]
      refine ih hnodup.2 fun t ht hmem => ?_
      rw [OMap.mem_keys_set] at hmem
      rcases hmem with heq | hmem
      · exact hnodup.1 (List.mem_map.mpr ⟨t, ht, heq⟩)
      · exact hfresh t (List.mem_cons_of_mem _ ht) hmem

/-- The states collected: distinct modules, and each state under its own. -/
structure Collected (states : List ProfessionalModuleState)
    (m : OMap ModuleType ProfessionalModuleState) : Prop where
  nodup : (states.map (·.module)).Nodup
  get?_iff : ∀ k s, m.get? k = some s ↔ s ∈ states ∧ s.module = k
  size : m.keys.length = states.length

variable {m : OMap ModuleType ProfessionalModuleState}

theorem collectByModule_ok (h : collectByModule states = .ok m) : Collected states m := by
  obtain ⟨hnodup, -, hentries⟩ := collect_from h
  have hentries : m.entries = states.map fun s => (s.module, s) := hentries
  refine ⟨hnodup, fun k s => ?_, ?_⟩
  · rw [OMap.get?_eq_some_iff, hentries, List.mem_map]
    constructor
    · rintro ⟨t, ht, heq⟩
      obtain ⟨rfl, rfl⟩ := Prod.mk.inj heq
      exact ⟨ht, rfl⟩
    · rintro ⟨hs, rfl⟩
      exact ⟨s, hs, rfl⟩
  · rw [OMap.keys, hentries, List.length_map, List.length_map]

theorem collectByModule_of (h : (states.map (·.module)).Nodup) :
    ∃ m, collectByModule states = .ok m ∧ Collected states m := by
  have hfresh : ∀ s ∈ states, s.module ∉
      (OMap.empty : OMap ModuleType ProfessionalModuleState).keys :=
    fun _ _ hmem => absurd hmem List.not_mem_nil
  obtain ⟨m, hm⟩ := collect_of h hfresh
  exact ⟨m, hm, collectByModule_ok hm⟩

/-! ## Binding one module -/

def currentSnapshot (s : ProfessionalModuleState) : Option JsVal :=
  s.currentSnapshotId.bind fun id => s.snapshots.find? fun v => v.str? "snapshotId" = some id

def currentApproval (s : ProfessionalModuleState) : Option ModuleApproval :=
  s.currentApprovalId.bind fun id => s.approvals.find? fun a => a.approvalId = id

/-- The state is approved for the package's job, and `r` refers to the
snapshot its current approval binds, which is the current one. -/
structure ApprovedFor (p : DeliveryPackage) (s : ProfessionalModuleState)
    (r : PackageModuleSnapshotReference) : Prop where
  organizationId : s.organizationId = p.organizationId
  jobId : s.jobId = p.jobId
  status : s.status = .approved
  approval : ∃ snapshot approval, currentSnapshot s = some snapshot ∧
    currentApproval s = some approval ∧ snapshot.str? "snapshotId" = some approval.snapshotId ∧
    snapshot.str? "canonicalHash" = some approval.snapshotHash ∧
    r = ⟨s.module, s.moduleId, approval.snapshotId, approval.snapshotHash, approval.approvalId⟩

theorem getCurrentSnapshot_ok_iff {v : JsVal} :
    getCurrentSnapshot s = .ok v ↔ currentSnapshot s = some v := by
  unfold getCurrentSnapshot currentSnapshot
  cases s.currentSnapshotId with
  | none => simp
  | some id =>
      dsimp only [Option.bind_some]
      cases s.snapshots.find? fun v => v.str? "snapshotId" = some id with
      | none => simp
      | some v => simp

theorem currentApproval_eq (h : s.currentApprovalId ≠ none) :
    (s.approvals.find? fun a => some a.approvalId = s.currentApprovalId) = currentApproval s := by
  obtain ⟨id, hid⟩ := Option.ne_none_iff_exists'.mp h
  simp only [currentApproval, hid, Option.bind_some, Option.some.injEq]

variable {p : DeliveryPackage}

/-- **One module.** What the package binds of the state under the module. -/
theorem bindModule_ok_iff {r : PackageModuleSnapshotReference} (hs : m.get? s.module = some s) :
    bindModule p m s.module = .ok r ↔ ApprovedFor p s r := by
  unfold bindModule
  dsimp only
  rw [hs]
  dsimp only
  constructor
  · intro h
    split at h
    · cases h
    · next hfor =>
        simp only [not_or, ne_eq, not_not] at hfor
        obtain ⟨horganization, hjob, hstatus, hcurrent⟩ := hfor
        obtain ⟨snapshot, hsnapshot, h⟩ := bind_ok h
        rw [currentApproval_eq hcurrent] at h
        cases happroval : currentApproval s with
        | none =>
            rw [happroval] at h
            cases h
        | some approval =>
            rw [happroval] at h
            obtain ⟨_, hmatch, h⟩ := bind_ok h
            obtain ⟨hid, hhash⟩ := require_ok hmatch
            refine ⟨horganization, hjob, hstatus, snapshot, approval,
              getCurrentSnapshot_ok_iff.mp hsnapshot, happroval, hid, hhash, ?_⟩
            cases h
            simp only [text, hid, hhash, Option.getD_some]
  · rintro ⟨horganization, hjob, hstatus, snapshot, approval, hsnapshot, happroval, hid, hhash, rfl⟩
    have hcurrent : s.currentApprovalId ≠ none := by
      intro hnone
      rw [currentApproval, hnone] at happroval
      cases happroval
    rw [if_neg (by simp [horganization, hjob, hstatus, hcurrent]),
      bind_of (getCurrentSnapshot_ok_iff.mpr hsnapshot), currentApproval_eq hcurrent, happroval]
    dsimp only
    rw [bind_of (require_of ⟨hid, hhash⟩ _ _ _)]
    simp only [text, hid, hhash, Option.getD_some]
    rfl

/-- A module no state is collected under is not bound. -/
theorem bindModule_found {k : ModuleType} {r : PackageModuleSnapshotReference}
    (h : bindModule p m k = .ok r) : ∃ s, m.get? k = some s := by
  cases hs : m.get? k with
  | some s => exact ⟨s, rfl⟩
  | none =>
      unfold bindModule at h
      rw [hs] at h
      cases h

theorem bindModule_congr {m m' : OMap ModuleType ProfessionalModuleState}
    (h : ∀ k, m.get? k = m'.get? k) : bindModule p m = bindModule p m' := by
  funext k
  unfold bindModule
  rw [h k]

variable {α β : Type}

theorem mapM_ok_iff {f : α → Except DomainError β} {l : List α} {r : List β} :
    l.mapM f = .ok r ↔ List.Forall₂ (fun a b => f a = .ok b) l r := by
  induction l generalizing r with
  | nil =>
      rw [List.mapM_nil, List.forall₂_nil_left_iff]
      constructor
      · intro h
        exact (Except.ok.inj h).symm
      · rintro rfl
        rfl
  | cons a l ih =>
      rw [List.mapM_cons]
      constructor
      · intro h
        obtain ⟨b, hb, h⟩ := bind_ok h
        obtain ⟨rest, hrest, h⟩ := bind_ok h
        cases h
        exact .cons hb (ih.mp hrest)
      · intro h
        cases h with
        | cons hb hrest =>
            rw [bind_of hb, bind_of (ih.mpr hrest)]
            rfl

/-! ## Confirming -/

theorem CommissionedModules.nodup (c : CommissionedModules) : c.modules.Nodup := by
  cases c <;> decide

/-- **The binding.** A reference for each module commissioned, in the
canonical order, to the state supplied for it. -/
def Binds (p : DeliveryPackage) (states : List ProfessionalModuleState)
    (references : List PackageModuleSnapshotReference) : Prop :=
  List.Forall₂ (fun m r => ∃ s ∈ states, s.module = m ∧ ApprovedFor p s r)
    p.commissionedModules.modules references

/-- The states are one for each module commissioned, each approved for the
package. -/
def ExactlyApproved (p : DeliveryPackage) (states : List ProfessionalModuleState) : Prop :=
  (states.map (·.module)).Perm p.commissionedModules.modules ∧ ∀ s ∈ states, ∃ r, ApprovedFor p s r

variable {references : List PackageModuleSnapshotReference}

theorem collected_binds (hm : Collected states m) :
    p.commissionedModules.modules.mapM (bindModule p m) = .ok references ↔
      Binds p states references := by
  rw [mapM_ok_iff, Binds]
  have each : ∀ k r, bindModule p m k = .ok r ↔ ∃ s ∈ states, s.module = k ∧ ApprovedFor p s r := by
    intro k r
    constructor
    · intro h
      obtain ⟨s, hs⟩ := bindModule_found h
      obtain ⟨hmem, rfl⟩ := (hm.get?_iff k s).mp hs
      exact ⟨s, hmem, rfl, (bindModule_ok_iff hs).mp h⟩
    · rintro ⟨s, hmem, rfl, happroved⟩
      exact (bindModule_ok_iff ((hm.get?_iff _ _).mpr ⟨hmem, rfl⟩)).mpr happroved
  constructor
  · intro h
    exact h.imp fun k r => (each k r).mp
  · intro h
    exact h.imp fun k r => (each k r).mpr

theorem exists_forall₂ {R : α → β → Prop} {l : List α} (h : ∀ a ∈ l, ∃ b, R a b) :
    ∃ r, List.Forall₂ R l r := by
  induction l with
  | nil => exact ⟨[], .nil⟩
  | cons a l ih =>
      obtain ⟨b, hb⟩ := h a List.mem_cons_self
      obtain ⟨r, hr⟩ := ih fun x hx => h x (List.mem_cons_of_mem _ hx)
      exact ⟨b :: r, .cons hb hr⟩

theorem Binds.supplied (h : Binds p states references) :
    ∀ m ∈ p.commissionedModules.modules, ∃ s ∈ states, s.module = m ∧ ∃ r, ApprovedFor p s r := by
  intro m hm
  unfold Binds at h
  generalize p.commissionedModules.modules = modules at h hm
  induction h with
  | nil => exact absurd hm List.not_mem_nil
  | cons hr _ ih =>
      rcases List.mem_cons.mp hm with rfl | hm
      · obtain ⟨s, hs, hmodule, happroved⟩ := hr
        exact ⟨s, hs, hmodule, _, happroved⟩
      · exact ih hm

/-- As many states as modules commissioned, of distinct modules, are exactly
approved when they bind. -/
theorem exactlyApproved_iff :
    ExactlyApproved p states ↔
      (states.map (·.module)).Nodup ∧ states.length = p.commissionedModules.modules.length ∧
        ∃ references, Binds p states references := by
  constructor
  · rintro ⟨hperm, happroved⟩
    refine ⟨hperm.nodup_iff.mpr p.commissionedModules.nodup, ?_, exists_forall₂ fun m hm => ?_⟩
    · rw [← hperm.length_eq, List.length_map]
    · obtain ⟨s, hs, rfl⟩ := List.mem_map.mp (hperm.mem_iff.mpr hm)
      obtain ⟨r, hr⟩ := happroved s hs
      exact ⟨r, s, hs, rfl, hr⟩
  · rintro ⟨hnodup, hlength, references, hbinds⟩
    have hsupplied := hbinds.supplied
    have hsubset : p.commissionedModules.modules ⊆ states.map (·.module) := by
      intro m hm
      obtain ⟨s, hs, hmodule, -⟩ := hsupplied m hm
      exact List.mem_map.mpr ⟨s, hs, hmodule⟩
    have hperm : (states.map (·.module)).Perm p.commissionedModules.modules := by
      refine ((p.commissionedModules.nodup.subperm hsubset).perm_of_length_le ?_).symm
      rw [List.length_map]
      omega
    refine ⟨hperm, fun s hs => ?_⟩
    obtain ⟨t, ht, hmodule, happroved⟩ :=
      hsupplied s.module (hperm.mem_iff.mp (List.mem_map.mpr ⟨s, hs, rfl⟩))
    -- the modules are distinct, so the state found for `s.module` is `s`
    rwa [List.inj_on_of_nodup_map hnodup ht hs hmodule] at happroved

/-- The modules of a binding are those commissioned. -/
theorem Binds.modules (h : Binds p states references) :
    references.map (·.module) = p.commissionedModules.modules := by
  unfold Binds at h
  generalize p.commissionedModules.modules = modules at h
  induction h with
  | nil => rfl
  | cons hr _ ih =>
      obtain ⟨s, -, rfl, happroved⟩ := hr
      obtain ⟨snapshot, approval, -, -, -, -, rfl⟩ := happroved.approval
      rw [List.map_cons, ih]

/-- References to states that are their own parse pass the schema. -/
theorem Binds.issues (h : Binds p states references) (hstates : ∀ s ∈ states, s.parse env = .ok s) :
    ∀ r ∈ references, r.issues env = [] := by
  unfold Binds at h
  generalize p.commissionedModules.modules = modules at h
  induction h with
  | nil => exact fun _ hr => absurd hr List.not_mem_nil
  | cons hr _ ih =>
      intro r hmem
      rcases List.mem_cons.mp hmem with rfl | hmem
      · obtain ⟨s, hs, -, happroved⟩ := hr
        obtain ⟨snapshot, approval, -, happroval, -, -, rfl⟩ := happroved.approval
        obtain ⟨id, -, hfind⟩ := Option.bind_eq_some_iff.mp happroval
        obtain ⟨hmodule, happrovals⟩ := state_parsed (hstates s hs)
        obtain ⟨hsnapshot, hhash, hid⟩ := happrovals approval (List.mem_of_find?_eq_some hfind)
        rw [PackageModuleSnapshotReference.issues, hmodule, hsnapshot, hhash, hid]
        rfl
      · exact ih r hmem

/-- What a confirmed package has to pass besides: a valid time, and a revision
that is still a safe integer. -/
def Stampable (env : Env) (p : DeliveryPackage) (time : String) : Prop :=
  env.formats.datetime time = true ∧ p.revision + 1 ≤ 2 ^ 53 - 1

/-- The package of the next revision, in a new status. -/
def DeliveryPackage.advanced (p : DeliveryPackage) (status : PackageStatus)
    (moduleSnapshots : List PackageModuleSnapshotReference) : DeliveryPackage :=
  { p with revision := p.revision + 1, status := status, moduleSnapshots := moduleSnapshots }

theorem timestampField_nil_iff {k s : String} :
    timestampField env k s = [] ↔ env.formats.datetime s = true := ⟨failing_eq_nil, failing_of⟩

/-- The schema of the next revision, for a package that is its own parse. -/
theorem advanced_parse_iff (hp : p.parse env = .ok p) {status : PackageStatus}
    {l : List PackageModuleSnapshotReference} (hl : ∀ r ∈ l, r.issues env = [])
    (hsize : status.admits l.length = true) :
    (p.advanced status l).fieldIssues env = [] ↔
      status.issues env = [] ∧ p.revision + 1 ≤ 2 ^ 53 - 1 := by
  obtain ⟨-, hfields, -⟩ := DeliveryPackage.parse_ok_iff.mp hp
  simp only [DeliveryPackage.fieldIssues, List.append_eq_nil_iff] at hfields
  obtain ⟨⟨⟨⟨⟨⟨hpackage, horganization⟩, hjob⟩, hrevision⟩, -⟩, -⟩, -⟩ := hfields
  have hrange := failing_eq_nil hrevision
  simp only [Bool.and_eq_true, decide_eq_true_eq] at hrange
  have hnext : failing "revision" none (0 ≤ p.revision + 1 &&
      (p.revision + 1).natAbs ≤ 2 ^ 53 - 1) = [] ↔ p.revision + 1 ≤ 2 ^ 53 - 1 := by
    constructor
    · intro h
      have h := failing_eq_nil h
      simp only [Bool.and_eq_true, decide_eq_true_eq] at h
      omega
    · intro h
      apply failing_of
      simp only [Bool.and_eq_true, decide_eq_true_eq]
      omega
  simp only [DeliveryPackage.fieldIssues, DeliveryPackage.advanced, List.append_eq_nil_iff,
    hpackage, horganization, hjob, references_issues_nil_iff, failing_of hsize]
  constructor
  · rintro ⟨⟨⟨⟨-, hrev⟩, -⟩, -⟩, hstatus⟩
    exact ⟨hstatus, hnext.mp hrev⟩
  · rintro ⟨hstatus, hrev⟩
    exact ⟨⟨⟨⟨⟨⟨trivial, trivial⟩, trivial⟩, hnext.mpr hrev⟩, hl⟩, trivial⟩, hstatus⟩

/-- The checks before the states are looked at. -/
structure Confirmable (p : DeliveryPackage) (expectedRevision : Int) : Prop where
  revision : p.revision = expectedRevision
  pending : p.status.IsPending

theorem commissioned_size (c : CommissionedModules) :
    1 ≤ c.modules.length ∧ c.modules.length ≤ 2 := by
  cases c <;> decide

/-- A binding of the commissioned modules is in the form a confirmed package
asks for. -/
theorem Binds.refined (h : Binds p states references) (time : String) :
    (p.advanced (.confirmed time) references).refinementIssues = [] ∧
      (PackageStatus.confirmed time).admits references.length = true := by
  refine ⟨failing_of (decide_eq_true h.modules), ?_⟩
  have hlength : references.length = p.commissionedModules.modules.length := by
    rw [← h.modules, List.length_map]
  obtain ⟨hmin, hmax⟩ := commissioned_size p.commissionedModules
  simp only [PackageStatus.admits, Bool.and_eq_true, decide_eq_true_eq]
  omega

variable {time : String} {r : Int}

/-- **Confirming.** Whatever the package and the states, a result is the next
revision with the binding, of exactly approved states. -/
theorem confirm_ok {p q : DeliveryPackage}
    (h : confirmDeliveryPackage env p r states time = .ok q) :
    Confirmable p r ∧ ExactlyApproved p states ∧ ∃ references, Binds p states references ∧
      q = p.advanced (.confirmed time) references ∧ q.fieldIssues env = [] := by
  obtain ⟨_, hrevision, h⟩ := bind_ok h
  obtain ⟨_, hpending, h⟩ := bind_ok h
  obtain ⟨_, hlength, h⟩ := bind_ok h
  obtain ⟨m, hm, h⟩ := bind_ok h
  obtain ⟨references, hreferences, h⟩ := bind_ok h
  obtain ⟨_, -, h⟩ := bind_ok h
  obtain ⟨hq, hfields, -⟩ := DeliveryPackage.parse_ok_iff.mp (parse_ok h)
  have hcollected := collectByModule_ok hm
  have hbinds := (collected_binds hcollected).mp hreferences
  refine ⟨⟨require_ok hrevision, require_ok hpending⟩,
    exactlyApproved_iff.mpr ⟨hcollected.nodup, require_ok hlength, references, hbinds⟩,
    references, hbinds, hq, ?_⟩
  rw [hq]
  exact hfields

/-- Confirming goes through where the checks hold and the result fits. -/
theorem confirm_of (hready : Confirmable p r) (happroved : ExactlyApproved p states)
    (hbinds : Binds p states references)
    (hfields : (p.advanced (.confirmed time) references).fieldIssues env = []) :
    confirmDeliveryPackage env p r states time =
      .ok (p.advanced (.confirmed time) references) := by
  obtain ⟨hnodup, hlength, -⟩ := exactlyApproved_iff.mp happroved
  obtain ⟨m, hm, hcollected⟩ := collectByModule_of hnodup
  have hrevision : assertRevision p.revision r = .ok () := require_of hready.revision _ _ _
  rw [confirmDeliveryPackage, bind_of hrevision, bind_of (require_of hready.pending _ _ _),
    bind_of (require_of hlength _ _ _), bind_of hm,
    bind_of ((collected_binds hcollected).mpr hbinds),
    bind_of (require_of (hcollected.size.trans hlength) _ _ _)]
  show Domain.parse (DeliveryPackage.parse env (p.advanced (.confirmed time) references)) = _
  rw [DeliveryPackage.parse_ok_iff.mpr ⟨rfl, hfields, (hbinds.refined time).1⟩]
  rfl

/-- When confirming succeeds, for values of their schemas. -/
theorem confirm_ok_iff (hp : p.parse env = .ok p) (hstates : ∀ s ∈ states, s.parse env = .ok s) :
    (∃ q, confirmDeliveryPackage env p r states time = .ok q) ↔
      Confirmable p r ∧ ExactlyApproved p states ∧ Stampable env p time := by
  have fields : ∀ {references : List PackageModuleSnapshotReference}, Binds p states references →
      ((p.advanced (.confirmed time) references).fieldIssues env = [] ↔ Stampable env p time) := by
    intro references hbinds
    rw [advanced_parse_iff hp (hbinds.issues hstates) (hbinds.refined time).2, Stampable,
      PackageStatus.issues, timestampField_nil_iff]
  constructor
  · rintro ⟨q, hq⟩
    obtain ⟨hready, happroved, references, hbinds, rfl, hfields⟩ := confirm_ok hq
    exact ⟨hready, happroved, (fields hbinds).mp hfields⟩
  · rintro ⟨hready, happroved, hstamp⟩
    obtain ⟨-, -, references, hbinds⟩ := exactlyApproved_iff.mp happroved
    exact ⟨_, confirm_of hready happroved hbinds ((fields hbinds).mpr hstamp)⟩

/-! ## The order of the states -/

/-- Two lists of at most two, one the other reordered. -/
theorem perm_of_length_le_two {α : Type} {l l' : List α} (h : l.Perm l') (hlength : l.length ≤ 2) :
    l = l' ∨ ∃ a b, l = [a, b] ∧ l' = [b, a] := by
  match l, hlength with
  | [], _ => exact .inl (List.nil_perm.mp h).symm
  | [a], _ => exact .inl (List.singleton_perm.mp h)
  | [a, b], _ =>
      rcases List.pair_perm.mp h with rfl | rfl
      · exact .inl rfl
      · exact .inr ⟨a, b, rfl, rfl⟩

theorem bind_congr_ok {x : Except DomainError α} {f g : α → Except DomainError β}
    (h : ∀ a, x = .ok a → f a = g a) : x >>= f = x >>= g := by
  cases x with
  | error e => rfl
  | ok a => exact h a rfl

/-- Two states of one module throw alike in either order. -/
theorem collect_repeated {a b : ProfessionalModuleState} (h : b.module = a.module) :
    collectByModule [a, b] = .error (.conflict "duplicate_module"
      ("Duplicate " ++ a.module.text ++ " state supplied") []) := by
  have hhas : ((OMap.empty : OMap ModuleType ProfessionalModuleState).set a.module a).has
      b.module = true := by
    rw [OMap.has, h, OMap.get?_set_self]
    rfl
  have hfirst : collectStep .empty a = .ok (OMap.empty.set a.module a) :=
    collectStep_ok_iff.mpr ⟨List.not_mem_nil, rfl⟩
  rw [collectByModule, List.foldlM_cons, bind_of hfirst, List.foldlM_cons, collectStep, require,
    if_neg (by rw [hhas]; simp), h]
  rfl

/-- **Order.** The order of the states does not matter to the result. -/
theorem confirm_perm {states states' : List ProfessionalModuleState} (hperm : states.Perm states')
    (p : DeliveryPackage) (r : Int) (time : String) :
    confirmDeliveryPackage env p r states time = confirmDeliveryPackage env p r states' time := by
  unfold confirmDeliveryPackage
  rw [hperm.length_eq]
  refine bind_congr_ok fun _ _ => bind_congr_ok fun _ _ => bind_congr_ok fun _ hsize => ?_
  have hlength : states.length ≤ 2 := by
    have hcount := require_ok hsize
    have hmax := (commissioned_size p.commissionedModules).2
    rw [hperm.length_eq]
    omega
  rcases perm_of_length_le_two hperm hlength with rfl | ⟨a, b, rfl, rfl⟩
  · rfl
  by_cases hsame : b.module = a.module
  · rw [collect_repeated hsame, collect_repeated hsame.symm, hsame]
  · have hnodup : ([a, b].map (·.module)).Nodup := by
      simp only [List.map_cons, List.map_nil, List.nodup_cons, List.mem_singleton,
        List.not_mem_nil, not_false_eq_true, List.nodup_nil, and_true]
      exact Ne.symm hsame
    obtain ⟨m, hm, hcollected⟩ := collectByModule_of hnodup
    obtain ⟨m', hm', hcollected'⟩ :=
      collectByModule_of ((hperm.map (·.module)).nodup_iff.mp hnodup)
    have hget : ∀ k, m.get? k = m'.get? k := by
      intro k
      ext s
      rw [hcollected.get?_iff, hcollected'.get?_iff, hperm.mem_iff]
    rw [bind_of hm, bind_of hm', bindModule_congr hget, hcollected.size, hcollected'.size,
      hperm.length_eq]

/-! ## The life of a package -/

theorem cancel_ok {p q : DeliveryPackage} {reason : CancellationReason}
    (h : cancelDeliveryPackage env p r reason time = .ok q) :
    ¬ p.status.IsTerminal ∧ q = p.advanced (.cancelled time reason) p.moduleSnapshots := by
  obtain ⟨_, -, h⟩ := bind_ok h
  obtain ⟨_, hterminal, h⟩ := bind_ok h
  obtain ⟨hq, -, -⟩ := DeliveryPackage.parse_ok_iff.mp (parse_ok h)
  exact ⟨require_ok hterminal, hq⟩

theorem suppress_ok {p q : DeliveryPackage} {reason : SuppressionReason}
    (h : suppressDeliveryPackage env p r reason time = .ok q) :
    ¬ p.status.IsTerminal ∧ q = p.advanced (.suppressed time reason) p.moduleSnapshots := by
  obtain ⟨_, -, h⟩ := bind_ok h
  obtain ⟨_, hterminal, h⟩ := bind_ok h
  obtain ⟨hq, -, -⟩ := DeliveryPackage.parse_ok_iff.mp (parse_ok h)
  exact ⟨require_ok hterminal, hq⟩

/-- **One call.** A call that succeeds finds the package open; it confirms a
pending one, or ends it with its binding as it is. -/
theorem exec_cases {p q : DeliveryPackage} {c : PackageCall} (h : c.exec env p = .ok q) :
    ¬ p.status.IsTerminal ∧ ((¬ c.Ends ∧ p.status.IsPending ∧ ∃ time, q.status = .confirmed time) ∨
      (c.Ends ∧ q.status.IsTerminal ∧ q.moduleSnapshots = p.moduleSnapshots)) := by
  cases c with
  | confirmDeliveryPackage r states time =>
      obtain ⟨hready, -, references, -, rfl, -⟩ := confirm_ok h
      have hpending := hready.pending
      refine ⟨fun hterminal => ?_, .inl ⟨id, hpending, time, rfl⟩⟩
      cases hstatus : p.status <;> rw [hstatus] at hpending hterminal <;> trivial
  | cancelDeliveryPackage r reason time =>
      obtain ⟨hopen, rfl⟩ := cancel_ok h
      exact ⟨hopen, .inr ⟨trivial, trivial, rfl⟩⟩
  | suppressDeliveryPackage r reason time =>
      obtain ⟨hopen, rfl⟩ := suppress_ok h
      exact ⟨hopen, .inr ⟨trivial, trivial, rfl⟩⟩

/-- No transition of a cancelled or suppressed package succeeds. -/
theorem terminal_refuses (h : p.status.IsTerminal) (c : PackageCall) :
    ∃ e, c.exec env p = .error e := by
  cases hc : c.exec env p with
  | error e => exact ⟨e, rfl⟩
  | ok q => exact absurd h (exec_cases hc).1

theorem next_of_terminal (h : p.status.IsTerminal) (c : PackageCall) : c.next env p = p := by
  obtain ⟨e, he⟩ := @terminal_refuses env p h c
  rw [PackageCall.next, he]

theorem run_of_terminal (h : p.status.IsTerminal) (calls : List PackageCall) :
    packageRun env p calls = p := by
  induction calls with
  | nil => rfl
  | cons c rest ih =>
      show packageRun env (c.next env p) rest = p
      rw [next_of_terminal h, ih]

/-- A call keeps the binding of a package that is not pending. -/
theorem next_keeps (h : ¬ p.status.IsPending) (c : PackageCall) :
    (c.next env p).moduleSnapshots = p.moduleSnapshots ∧ ¬ (c.next env p).status.IsPending := by
  unfold PackageCall.next
  cases hc : c.exec env p with
  | error e => exact ⟨rfl, h⟩
  | ok q =>
      rcases (exec_cases hc).2 with ⟨-, hpending, -⟩ | ⟨-, hterminal, hkept⟩
      · exact absurd hpending h
      · refine ⟨hkept, fun hpending => ?_⟩
        cases hstatus : q.status <;> rw [hstatus] at hpending hterminal <;> trivial

/-- The binding of a package that is not pending is kept by every run. -/
theorem run_keeps (h : ¬ p.status.IsPending) (calls : List PackageCall) :
    (packageRun env p calls).moduleSnapshots = p.moduleSnapshots := by
  induction calls generalizing p with
  | nil => rfl
  | cons c rest ih =>
      obtain ⟨hkept, hstill⟩ := @next_keeps env p h c
      show (packageRun env (c.next env p) rest).moduleSnapshots = _
      rw [ih hstill, hkept]

variable (env) in
/-- **The life of a delivery package.** For values of their schemas, confirming
succeeds exactly when the package is pending at the expected revision, the
states are one approved state for each module commissioned, and the time and
the next revision are in range; the result binds each of them in the canonical
order, whatever the order of the states; and every later cancelling or
suppressing keeps the binding and ends the package. -/
theorem package_lifecycle {p : DeliveryPackage} (hp : p.parse env = .ok p)
    {states : List ProfessionalModuleState} (hstates : ∀ s ∈ states, s.parse env = .ok s)
    (r : Int) (time : String) :
    ((∃ q, confirmDeliveryPackage env p r states time = .ok q) ↔
      Confirmable p r ∧ ExactlyApproved p states ∧ Stampable env p time) ∧
    (∀ states' : List ProfessionalModuleState, states.Perm states' →
      confirmDeliveryPackage env p r states' time = confirmDeliveryPackage env p r states time) ∧
    (∀ q, confirmDeliveryPackage env p r states time = .ok q →
      Binds p states q.moduleSnapshots ∧
      ∀ calls, (packageRun env q calls).moduleSnapshots = q.moduleSnapshots) ∧
    ∀ (q q' : DeliveryPackage) (c : PackageCall), c.Ends → c.exec env q = .ok q' →
      q'.moduleSnapshots = q.moduleSnapshots ∧
      ∀ calls, packageRun env q' calls = q' ∧
        ∀ c' : PackageCall, ∃ e, c'.exec env (packageRun env q' calls) = .error e := by
  refine ⟨confirm_ok_iff hp hstates, fun states' hperm => ?_, fun q hq => ?_,
    fun q q' c hends hexec => ?_⟩
  · exact (confirm_perm hperm p r time).symm
  · obtain ⟨-, -, references, hbinds, rfl, -⟩ := confirm_ok hq
    exact ⟨hbinds, run_keeps id⟩
  · rcases (exec_cases hexec).2 with ⟨hopen, -⟩ | ⟨-, hterminal, hkept⟩
    · exact absurd hends hopen
    · refine ⟨hkept, fun calls => ?_⟩
      rw [run_of_terminal hterminal]
      exact ⟨rfl, terminal_refuses hterminal⟩

/-! ## A package of one building module

The approved module of the stale amendment, before it is amended.
-/

namespace SoleModule

open StaleAmendment (approvedOnce firstApproval identity snapshotId beforeHash timestamp)

/-- The host again, with a datetime format that refuses a word. -/
def host : Env :=
  { StaleAmendment.host with formats := ⟨fun _ => true, fun t => t ≠ "soon"⟩ }

def pending : DeliveryPackage where
  packageId := "00000000-0000-4000-8000-000000000020"
  organizationId := identity.organizationId
  jobId := identity.jobId
  commissionedModules := .building
  revision := 0
  status := .pending [.evidence_not_durable]
  moduleSnapshots := []

def reference : PackageModuleSnapshotReference where
  module := .building
  moduleId := identity.moduleId
  snapshotId := snapshotId
  snapshotHash := beforeHash
  approvalId := firstApproval

theorem parsed_pending : pending.parse host = .ok pending := rfl

theorem parsed_approved : ∀ s ∈ [approvedOnce], s.parse host = .ok s := by
  intro s hs
  rw [List.mem_singleton.mp hs]
  rfl

theorem approved_pending : ApprovedFor pending approvedOnce reference where
  organizationId := rfl
  jobId := rfl
  status := rfl
  approval := by
    refine ⟨StaleAmendment.hashed StaleAmendment.before beforeHash,
      StaleAmendment.recorded firstApproval, ?_, ?_, rfl, rfl, rfl⟩
    · rfl
    · rfl

theorem exactly_approved : ExactlyApproved pending [approvedOnce] := by
  refine ⟨.refl _, fun s hs => ?_⟩
  rw [List.mem_singleton.mp hs]
  exact ⟨reference, approved_pending⟩

/-- The right states do not help a time that is none. -/
theorem untimely_refused : Confirmable pending 0 ∧ ExactlyApproved pending [approvedOnce] ∧
    pending.parse host = .ok pending ∧ approvedOnce.parse host = .ok approvedOnce ∧
    ¬ ∃ q, confirmDeliveryPackage host pending 0 [approvedOnce] "soon" = .ok q := by
  refine ⟨⟨rfl, trivial⟩, exactly_approved, rfl, parsed_approved _ List.mem_cons_self, ?_⟩
  rintro ⟨q, hq⟩
  obtain ⟨-, -, references, -, rfl, hfields⟩ := confirm_ok hq
  simp only [DeliveryPackage.fieldIssues, List.append_eq_nil_iff] at hfields
  have hformat : host.formats.datetime "soon" = true := timestampField_nil_iff.mp hfields.2
  exact absurd hformat (by decide)

/-- The package confirmed binds the building module, and stays bound to it. -/
theorem package_lifecycle_building : ∃ q,
    confirmDeliveryPackage host pending 0 [approvedOnce] timestamp = .ok q ∧
    Binds pending [approvedOnce] q.moduleSnapshots ∧
    ∀ calls, (packageRun host q calls).moduleSnapshots = q.moduleSnapshots := by
  obtain ⟨hiff, -, hconfirmed, -⟩ :=
    package_lifecycle host parsed_pending parsed_approved 0 timestamp
  obtain ⟨q, hq⟩ := hiff.mpr ⟨⟨rfl, trivial⟩, exactly_approved, by decide, by decide⟩
  exact ⟨q, hq, hconfirmed q hq⟩

end SoleModule

end InspectionHub.Domain
