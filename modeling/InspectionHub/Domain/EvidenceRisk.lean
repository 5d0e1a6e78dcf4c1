import InspectionHub.Domain.ModuleHistory

/-!
# Blocked modules

A module that is withdrawn, or whose evidence is at risk, is blocked: no
transition is meant to lead on from there. A withdrawal is indeed final. The
risk of a module that has no snapshot yet is cleared by its first one, since
`registerModuleSnapshot` looks at no status.
-/

namespace InspectionHub.Domain

open Contracts

variable {env : Env} {s s' : ProfessionalModuleState}

def Blocked (s : ProfessionalModuleState) : Prop :=
  s.status = .withdrawn ∨ s.status = .evidence_at_risk

/-- A first snapshot that passes its checks clears the risk of the module. -/
def ClearsRisk (env : Env) (s : ProfessionalModuleState) : ModuleCall → Prop
  | .registerModuleSnapshot snapshot expectedRevision =>
      s.status = .evidence_at_risk ∧ s.snapshots = [] ∧ s.revision = expectedRevision ∧
        assertSnapshotForState env s snapshot = .ok () ∧ snapshot.int? "revision" = some 1
  | _ => False

/-- The step condition: the call does not clear a risk. -/
def KeepsRisk (env : Env) (s : ProfessionalModuleState) (c : ModuleCall) : Prop :=
  ¬ ClearsRisk env s c

/-! ## What the statuses tell -/

/-- Nothing is approved or withdrawn before its first snapshot. -/
def Founded (s : ProfessionalModuleState) : Prop :=
  s.status = .approved ∨ s.status = .withdrawn → s.snapshots ≠ []

variable {v : ProfessionalModuleState}

/-- A frozen state that is blocked has the record of why. -/
theorem records_of_frozen (h : Frozen v s) :
    (s.status = .withdrawn → s.withdrawal ≠ none) ∧
      (s.status = .evidence_at_risk → s.evidenceRisk ≠ none) := by
  have hrefined := h.refined
  simp only [stateIssues, List.append_eq_nil_iff] at hrefined
  obtain ⟨⟨⟨⟨⟨-, hwithdrawal⟩, hrisk⟩, -⟩, -⟩, -⟩ := hrefined
  have hwithdrawal := failing_eq_nil hwithdrawal
  have hrisk := failing_eq_nil hrisk
  simp only [decide_eq_true_eq, not_and] at hwithdrawal hrisk
  exact ⟨hwithdrawal, hrisk⟩

theorem snapshots_ne_nil (h : Frozen v s) (hv : v.snapshots ≠ []) : s.snapshots ≠ [] := by
  intro hnil
  have hall := h.snapshots
  rw [hnil] at hall
  exact hv (List.forall₂_nil_right_iff.mp hall)

theorem getCurrent_ne_nil {snapshot : JsVal} (h : getCurrentSnapshot s = .ok snapshot) :
    s.snapshots ≠ [] := by
  intro hnil
  unfold getCurrentSnapshot at h
  rw [hnil] at h
  cases hid : s.currentSnapshotId <;> rw [hid] at h <;> cases h

/-- What every state of a run satisfies. -/
structure Recorded (s : ProfessionalModuleState) : Prop where
  founded : Founded s
  withdrawal : s.status = .withdrawn → s.withdrawal ≠ none
  evidenceRisk : s.status = .evidence_at_risk → s.evidenceRisk ≠ none

theorem recorded_of_frozen (h : Frozen v s)
    (hv : v.status = .approved ∨ v.status = .withdrawn → v.snapshots ≠ []) : Recorded s := by
  obtain ⟨hwithdrawal, hrisk⟩ := records_of_frozen h
  refine ⟨fun hstatus => snapshots_ne_nil h (hv ?_), hwithdrawal, hrisk⟩
  rwa [h.status] at hstatus

theorem recorded_exec {c : ModuleCall} (hs : Recorded s) (h : c.exec env s = .ok s') :
    Recorded s' := by
  cases c with
  | registerModuleSnapshot snapshot r =>
      obtain ⟨-, -, -, hf⟩ := register_ok h
      exact recorded_of_frozen hf fun hstatus => hstatus.elim nofun nofun
  | approveModule c =>
      obtain ⟨-, snapshot, a, hget, hf, -⟩ := approve_ok h
      exact recorded_of_frozen hf fun _ => getCurrent_ne_nil hget
  | amendModule c =>
      obtain ⟨-, -, prior, m, -, -, hf⟩ := amend_ok h
      exact recorded_of_frozen hf fun hstatus => hstatus.elim nofun nofun
  | withdrawModule c =>
      obtain ⟨happroved, w, hf⟩ := withdraw_ok h
      exact recorded_of_frozen hf fun _ => hs.founded (.inl happroved)
  | markEvidenceAtRisk c =>
      obtain ⟨-, e, hf⟩ := markAtRisk_ok h
      exact recorded_of_frozen hf fun hstatus => hstatus.elim nofun nofun

variable (env) (s) in
theorem next_cases (c : ModuleCall) : c.next env s = s ∨ c.exec env s = .ok (c.next env s) := by
  unfold ModuleCall.next
  cases h : c.exec env s with
  | error e => exact .inl rfl
  | ok s' => exact .inr rfl

theorem recorded_inductive {ok : ProfessionalModuleState → ModuleCall → Prop} :
    (moduleSystem env).Inductive ok Recorded where
  init := by
    rintro s ⟨identity, h⟩
    have hf := freezeModuleState_ok env h
    exact recorded_of_frozen hf fun hstatus => hstatus.elim nofun nofun
  step := by
    rintro s c s' hs - rfl
    rcases next_cases env s c with hsame | hexec
    · rw [hsame]
      exact hs
    · exact recorded_exec hs hexec

/-! ## One call on a blocked module -/

/-- The call reports evidence at risk. -/
def Marks : ModuleCall → Prop
  | .markEvidenceAtRisk _ => True
  | _ => False

/-- **A blocked module stands still**, except that a risk is reported anew. -/
theorem blocked_next {c : ModuleCall} (hs : Recorded s) (hb : Blocked s)
    (hok : KeepsRisk env s c) :
    c.next env s = s ∨
      (Marks c ∧ s.status = .evidence_at_risk ∧ (c.next env s).status = .evidence_at_risk) := by
  rcases next_cases env s c with hsame | hexec
  · exact .inl hsame
  · generalize c.next env s = t at hexec ⊢
    cases c with
    | registerModuleSnapshot snapshot r =>
        obtain ⟨hempty, -, -, -⟩ := register_ok hexec
        obtain ⟨_, hrevision, h⟩ := bind_ok hexec
        obtain ⟨_, -, h⟩ := bind_ok h
        obtain ⟨_, hassert, h⟩ := bind_ok h
        obtain ⟨_, hfirst, -⟩ := bind_ok h
        rcases hb with hwithdrawn | hrisk
        · exact absurd hempty (hs.founded (.inr hwithdrawn))
        · -- the module has no snapshot, so this is the call the condition excludes
          exact absurd ⟨hrisk, hempty, require_ok hrevision, hassert, require_ok hfirst⟩ hok
    | approveModule c =>
        obtain ⟨hdraft, -⟩ := approve_ok hexec
        rcases hb with hb | hb <;> exact absurd (hb.symm.trans hdraft) nofun
    | amendModule c =>
        obtain ⟨happroved, -⟩ := amend_ok hexec
        rcases hb with hb | hb <;> exact absurd (hb.symm.trans happroved) nofun
    | withdrawModule c =>
        obtain ⟨happroved, -⟩ := withdraw_ok hexec
        rcases hb with hb | hb <;> exact absurd (hb.symm.trans happroved) nofun
    | markEvidenceAtRisk c =>
        obtain ⟨hopen, e, hf⟩ := markAtRisk_ok hexec
        rcases hb with hb | hb
        · exact absurd hb hopen
        · exact .inr ⟨trivial, hb, hf.status⟩

/-! ## The theorem -/

/-- From the blocked state `s` to a later state `s'`. -/
structure RiskKept (env : Env) (s s' : ProfessionalModuleState) : Prop where
  /-- The module is blocked as it was, so it is not approved. -/
  status : s'.status = s.status
  /-- A withdrawn module, with its record, is as it was. -/
  withdrawn : s.status = .withdrawn → s'.withdrawal ≠ none ∧ s' = s
  /-- A risk has a record. -/
  evidenceRisk : s.status = .evidence_at_risk → s'.evidenceRisk ≠ none
  /-- Only another report replaces the record. -/
  replaced : ∀ c, KeepsRisk env s' c → ¬ Marks c → c.next env s' = s'

/-- **Evidence risk is not cleared** along a run, after a state that is blocked,
while no first snapshot clears it. -/
theorem evidence_risk_kept (env : Env) (s s' : ProfessionalModuleState)
    (hs : (moduleSystem env).Reachable (KeepsRisk env) s) (hb : Blocked s)
    (hl : (moduleSystem env).Later (KeepsRisk env) s s') : RiskKept env s s' := by
  have hkept : s'.status = s.status ∧ (s.status = .withdrawn → s' = s) := by
    refine recorded_inductive.stable
      (P := fun t => t.status = s.status ∧ (s.status = .withdrawn → t = s))
      ?_ hs hl ⟨rfl, fun _ => rfl⟩
    rintro t c t' ht ⟨hstatus, hsame⟩ hok rfl
    have hblocked : Blocked t := by
      unfold Blocked
      rwa [hstatus]
    rcases blocked_next ht hblocked hok with hnext | ⟨-, hrisk, hnext⟩
    · rw [hnext]
      exact ⟨hstatus, hsame⟩
    · have hfirst : s.status = .evidence_at_risk := hstatus.symm.trans hrisk
      exact ⟨hnext.trans hfirst.symm, fun hw => absurd (hw.symm.trans hfirst) nofun⟩
  obtain ⟨hstatus, hsame⟩ := hkept
  have hs' := recorded_inductive.invariant (hs.later hl)
  refine ⟨hstatus, fun hw => ⟨hs'.withdrawal (hstatus.trans hw), hsame hw⟩,
    fun hr => hs'.evidenceRisk (hstatus.trans hr), fun c hok hmark => ?_⟩
  have hblocked : Blocked s' := by
    unfold Blocked
    rwa [hstatus]
  rcases blocked_next hs' hblocked hok with hnext | ⟨hmarks, -, -⟩
  · exact hnext
  · exact absurd hmarks hmark

/-! ## A risk that is cleared

The evidence of a module is at risk before its first snapshot; the snapshot is
then registered and approved.
-/

namespace RiskCleared

open StaleAmendment

def report : EvidenceAtRiskCommand where
  expectedRevision := 0
  artifactIds := ["00000000-0000-4000-8000-000000000009"]
  reason := .device_lost_before_server_durability
  recordedAt := timestamp

def atRisk : ProfessionalModuleState :=
  { initial with
    revision := 1
    status := .evidence_at_risk
    evidenceRisk := some
      { artifactIds := ["00000000-0000-4000-8000-000000000009"]
        reason := .device_lost_before_server_durability
        recordedAt := timestamp } }

def cleared : ProfessionalModuleState := { registered with revision := 2 }

def approvedAfter : ProfessionalModuleState := { approvedOnce with revision := 3 }

theorem report_initial : markEvidenceAtRisk host initial report = .ok atRisk := rfl

theorem assert_atRisk : assertSnapshotForState host atRisk (hashed before beforeHash) = .ok () := by
  have hparsed : moduleSnapshotSchema host.formats (hashed before beforeHash) =
      .ok (hashed before beforeHash) := rfl
  unfold assertSnapshotForState
  rw [hparsed, verify_before]
  rfl

theorem register_atRisk :
    registerModuleSnapshot host atRisk (hashed before beforeHash) 1 = .ok cleared := by
  simp only [registerModuleSnapshot, assert_atRisk]
  rfl

theorem approve_cleared :
    approveModule host cleared (approval 2 firstApproval) = .ok approvedAfter := by
  rfl

/-- A module whose evidence is at risk becomes approved, and has no record of
the risk. -/
theorem risk_cleared :
    createInitialModuleState host identity = .ok initial ∧
      (moduleRun host initial [.markEvidenceAtRisk report]).status = .evidence_at_risk ∧
      (moduleRun host initial [.markEvidenceAtRisk report,
        .registerModuleSnapshot (hashed before beforeHash) 1,
        .approveModule (approval 2 firstApproval)]).status = .approved ∧
      (moduleRun host initial [.markEvidenceAtRisk report,
        .registerModuleSnapshot (hashed before beforeHash) 1,
        .approveModule (approval 2 firstApproval)]).evidenceRisk = none := by
  have first := next_of_ok (c := .markEvidenceAtRisk report) report_initial
  have second := next_of_ok (c := .registerModuleSnapshot (hashed before beforeHash) 1)
    register_atRisk
  have third := next_of_ok (c := .approveModule (approval 2 firstApproval)) approve_cleared
  simp only [moduleRun, List.foldl_cons, List.foldl_nil, first, second, third]
  exact ⟨created, rfl, rfl, rfl⟩

/-- The risk of the sample is kept by a second report. -/
theorem report_kept : RiskKept host atRisk atRisk := by
  have hinit : (moduleSystem host).Reachable (KeepsRisk host) initial :=
    .init ⟨identity, created⟩
  have first := next_of_ok (c := .markEvidenceAtRisk report) report_initial
  have hkeeps : KeepsRisk host initial (.markEvidenceAtRisk report) := id
  have hreach := hinit.step hkeeps first
  exact evidence_risk_kept host atRisk atRisk hreach (.inr rfl) (.refl atRisk)

end RiskCleared

end InspectionHub.Domain
