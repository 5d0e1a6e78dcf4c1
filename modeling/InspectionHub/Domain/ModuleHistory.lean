import InspectionHub.Domain.ModuleState
import InspectionHub.Lib.TSys

/-!
# The history of a professional module

Runs of the five transitions from `createInitialModuleState`. Snapshots,
approvals and amendments are only ever appended, but every lookup goes by an
identifier the caller supplied, so the history stays readable
(`WellFormed`) exactly as long as each amendment brings a new one
(`FreshAmendment`).
-/

namespace InspectionHub.Domain

open Contracts

variable (env : Env)

/-! ## Runs -/

/-- A call of one of the transitions, with its arguments. -/
inductive ModuleCall where
  | registerModuleSnapshot (snapshot : JsVal) (expectedRevision : Int)
  | approveModule (command : ApprovalCommand)
  | amendModule (command : AmendmentCommand)
  | withdrawModule (command : WithdrawalCommand)
  | markEvidenceAtRisk (command : EvidenceAtRiskCommand)

def ModuleCall.exec (s : ProfessionalModuleState) :
    ModuleCall → Except DomainError ProfessionalModuleState
  | .registerModuleSnapshot snapshot r => Domain.registerModuleSnapshot env s snapshot r
  | .approveModule c => Domain.approveModule env s c
  | .amendModule c => Domain.amendModule env s c
  | .withdrawModule c => Domain.withdrawModule env s c
  | .markEvidenceAtRisk c => Domain.markEvidenceAtRisk env s c

/-- The state after a call; one that throws leaves it alone. -/
def ModuleCall.next (s : ProfessionalModuleState) (c : ModuleCall) : ProfessionalModuleState :=
  match c.exec env s with
  | .ok s' => s'
  | .error _ => s

/-- The module after the given calls. -/
def moduleRun (s₀ : ProfessionalModuleState) (calls : List ModuleCall) : ProfessionalModuleState :=
  calls.foldl (ModuleCall.next env) s₀

/-- An accepted amendment brings a snapshot identifier no stored snapshot has. -/
def FreshAmendment (s : ProfessionalModuleState) : ModuleCall → Prop
  | .amendModule c => ∀ s', amendModule env s c = .ok s' →
      ∀ stored ∈ s.snapshots, stored.str? "snapshotId" ≠ c.replacementSnapshot.str? "snapshotId"
  | _ => True

def moduleSystem : TSys ProfessionalModuleState ModuleCall where
  Init s := ∃ identity, createInitialModuleState env identity = .ok s
  Step s c s' := c.next env s = s'

/-- The approval `a` is the one `currentApprovalId` names. -/
def IsCurrentApproval (s : ProfessionalModuleState) (a : ModuleApproval) : Prop :=
  a ∈ s.approvals ∧ some a.approvalId = s.currentApprovalId

/-- A history whose last snapshot is the current one, and the one approved. -/
structure WellFormed (s : ProfessionalModuleState) : Prop where
  revisions : s.snapshots.map (fun v => v.int? "revision") =
    (List.range s.snapshots.length).map fun i : Nat => some ((i : Int) + 1)
  distinct : (s.snapshots.map fun v => v.str? "snapshotId").Nodup
  current : s.currentSnapshotId = s.snapshots.getLast?.bind fun v => v.str? "snapshotId"
  getCurrent : ∀ last, s.snapshots.getLast? = some last → getCurrentSnapshot s = .ok last
  approved : s.status = .approved → ∃ last a, s.snapshots.getLast? = some last ∧
    IsCurrentApproval s a ∧ (∀ b, IsCurrentApproval s b → b = a) ∧
    last.str? "snapshotId" = some a.snapshotId ∧ last.str? "canonicalHash" = some a.snapshotHash

/-! ## What each transition accepts -/

variable {env}

variable {snapshot : JsVal}

theorem assertSnapshot_ok {s : ProfessionalModuleState} {u : Unit}
    (h : assertSnapshotForState env s snapshot = .ok u) :
    ∃ id, snapshot.str? "snapshotId" = some id := by
  obtain ⟨w, hw, -⟩ := bind_ok h
  exact moduleSnapshot_snapshotId env.formats (parse_ok hw)

theorem createInitial_ok {identity : ModuleIdentity} {s : ProfessionalModuleState}
    (h : createInitialModuleState env identity = .ok s) :
    s.snapshots = [] ∧ s.approvals = [] ∧ s.currentSnapshotId = none ∧ s.status = .draft := by
  have hf := freezeModuleState_ok env h
  exact ⟨List.forall₂_nil_left_iff.mp hf.snapshots, hf.approvals, hf.currentSnapshotId, hf.status⟩

variable {s s' : ProfessionalModuleState}

theorem register_ok {r : Int} (h : registerModuleSnapshot env s snapshot r = .ok s') :
    s.snapshots = [] ∧ (∃ id, snapshot.str? "snapshotId" = some id) ∧
      snapshot.int? "revision" = some 1 ∧
      Frozen { s with
        revision := s.revision + 1
        status := .draft
        snapshots := s.snapshots ++ [snapshot]
        currentSnapshotId := snapshot.str? "snapshotId"
        currentApprovalId := none
        withdrawal := none
        evidenceRisk := none } s' := by
  obtain ⟨_, -, h⟩ := bind_ok h
  obtain ⟨_, hempty, h⟩ := bind_ok h
  obtain ⟨_, hassert, h⟩ := bind_ok h
  obtain ⟨_, hrev, h⟩ := bind_ok h
  exact ⟨require_ok hempty, assertSnapshot_ok hassert, require_ok hrev, freezeModuleState_ok env h⟩

theorem approve_ok {c : ApprovalCommand} (h : approveModule env s c = .ok s') :
    s.status = .draft ∧ ∃ snapshot a, getCurrentSnapshot s = .ok snapshot ∧
      Frozen { s with
        revision := s.revision + 1
        status := .approved
        approvals := s.approvals ++ [a]
        currentApprovalId := some a.approvalId
        withdrawal := none
        evidenceRisk := none } s' ∧
      a.snapshotId = text snapshot "snapshotId" := by
  obtain ⟨_, -, h⟩ := bind_ok h
  obtain ⟨_, hstatus, h⟩ := bind_ok h
  obtain ⟨snapshot, hsnap, h⟩ := bind_ok h
  obtain ⟨_, -, h⟩ := bind_ok h
  obtain ⟨a, ha, h⟩ := bind_ok h
  have ha := (accept_ok (parse_ok ha)).1
  refine ⟨require_ok hstatus, snapshot, a, hsnap, freezeModuleState_ok env h, ?_⟩
  rw [ha]

variable {c : AmendmentCommand}

theorem amend_ok (h : amendModule env s c = .ok s') :
    s.status = .approved ∧ (∃ id, c.replacementSnapshot.str? "snapshotId" = some id) ∧
      ∃ prior m, getCurrentSnapshot s = .ok prior ∧
        c.replacementSnapshot.int? "revision" = (prior.int? "revision").map (· + 1) ∧
        Frozen { s with
          revision := s.revision + 1
          status := .draft
          snapshots := s.snapshots ++ [c.replacementSnapshot]
          amendments := s.amendments ++ [m]
          currentSnapshotId := c.replacementSnapshot.str? "snapshotId"
          currentApprovalId := none
          withdrawal := none
          evidenceRisk := none } s' := by
  obtain ⟨_, -, h⟩ := bind_ok h
  obtain ⟨_, hstatus, h⟩ := bind_ok h
  obtain ⟨prior, hprior, h⟩ := bind_ok h
  obtain ⟨_, hassert, h⟩ := bind_ok h
  obtain ⟨_, hrev, h⟩ := bind_ok h
  exact ⟨require_ok hstatus, assertSnapshot_ok hassert, prior, _, hprior, require_ok hrev, freezeModuleState_ok env h⟩

theorem withdraw_ok {c : WithdrawalCommand} (h : withdrawModule env s c = .ok s') :
    s.status = .approved ∧ ∃ w, Frozen { s with
      revision := s.revision + 1
      status := .withdrawn
      currentApprovalId := none
      withdrawal := w
      evidenceRisk := none } s' := by
  obtain ⟨_, -, h⟩ := bind_ok h
  obtain ⟨_, hstatus, h⟩ := bind_ok h
  obtain ⟨snapshot, -, h⟩ := bind_ok h
  exact ⟨require_ok hstatus, _, freezeModuleState_ok env h⟩

theorem markAtRisk_ok {c : EvidenceAtRiskCommand} (h : markEvidenceAtRisk env s c = .ok s') :
    s.status ≠ .withdrawn ∧ ∃ e, Frozen { s with
      revision := s.revision + 1
      status := .evidence_at_risk
      currentApprovalId := none
      withdrawal := none
      evidenceRisk := e } s' := by
  obtain ⟨_, -, h⟩ := bind_ok h
  obtain ⟨_, hstatus, h⟩ := bind_ok h
  exact ⟨require_ok hstatus, _, freezeModuleState_ok env h⟩

/-! ## The invariant -/

def snapshotIds (s : ProfessionalModuleState) : List (Option String) :=
  s.snapshots.map fun v => v.str? "snapshotId"

def snapshotRevisions (s : ProfessionalModuleState) : List (Option Int) :=
  s.snapshots.map fun v => v.int? "revision"

/-- What the runs keep: `WellFormed`, and where the approvals point. -/
structure History (s : ProfessionalModuleState) : Prop where
  named : ∀ x ∈ snapshotIds s, ∃ id, x = some id
  revisions : snapshotRevisions s =
    (List.range s.snapshots.length).map fun i : Nat => some ((i : Int) + 1)
  distinct : (snapshotIds s).Nodup
  current : s.currentSnapshotId = (snapshotIds s).getLast?.bind id
  registered : ∀ a ∈ s.approvals, some a.snapshotId ∈ snapshotIds s
  unapproved : s.status = .draft → ∀ a ∈ s.approvals, some a.snapshotId ≠ s.currentSnapshotId
  bound : s.status = .approved → s.currentSnapshotId ≠ none ∧ bindsCurrent s = true ∧
    ∃ a, IsCurrentApproval s a ∧ ∀ b, IsCurrentApproval s b → b = a

theorem map_eq_of_same {β : Type} {l r : List JsVal} (f : JsVal → β)
    (hf : ∀ given stored, SameIdentity stored given → f stored = f given)
    (h : List.Forall₂ (fun given stored => SameIdentity stored given) l r) :
    r.map f = l.map f := by
  induction h with
  | nil => rfl
  | cons hsame _ ih => rw [List.map_cons, List.map_cons, hf _ _ hsame, ih]

theorem same_str {given stored : JsVal} (h : SameIdentity stored given) {k : String}
    (hk : k ∈ identityKeys) : stored.str? k = given.str? k := by
  simp only [JsVal.str?, h k hk]

theorem Frozen.ids {v s : ProfessionalModuleState} (h : Frozen v s) :
    snapshotIds s = snapshotIds v :=
  map_eq_of_same _ (fun _ _ hs => same_str hs (by simp [identityKeys])) h.snapshots

theorem Frozen.revs {v s : ProfessionalModuleState} (h : Frozen v s) :
    snapshotRevisions s = snapshotRevisions v := by
  refine map_eq_of_same _ (fun given stored hs => ?_) h.snapshots
  simp only [JsVal.int?, hs "revision" (by simp [identityKeys])]

theorem Frozen.length {v s : ProfessionalModuleState} (h : Frozen v s) :
    s.snapshots.length = v.snapshots.length :=
  h.snapshots.length_eq.symm

/-- Among distinct identifiers, looking up the last one finds the last
snapshot. -/
theorem find_last {l : List JsVal} {last : JsVal} {id : String}
    (hl : (l.map fun v => v.str? "snapshotId").Nodup) (hlast : l.getLast? = some last)
    (hid : last.str? "snapshotId" = some id) :
    l.find? (fun v => v.str? "snapshotId" = some id) = some last := by
  have hmem : last ∈ l := List.mem_of_getLast? hlast
  cases hfind : l.find? (fun v => v.str? "snapshotId" = some id) with
  | none =>
      have := List.find?_eq_none.mp hfind last hmem
      simp [hid] at this
  | some w =>
      have hw : w.str? "snapshotId" = some id := by simpa using List.find?_some hfind
      have hwmem := List.mem_of_find?_eq_some hfind
      have heq : w = last := List.inj_on_of_nodup_map hl hwmem hmem (by rw [hw, hid])
      rw [heq]

theorem History.last {s : ProfessionalModuleState} (h : History s) {last : JsVal}
    (hlast : s.snapshots.getLast? = some last) :
    ∃ id, last.str? "snapshotId" = some id ∧ s.currentSnapshotId = some id := by
  have hids : (snapshotIds s).getLast? = some (last.str? "snapshotId") := by
    rw [snapshotIds, List.getLast?_map, hlast, Option.map_some]
  obtain ⟨i, hi⟩ := h.named _ (List.mem_of_getLast? hids)
  refine ⟨i, hi, ?_⟩
  rw [h.current, hids, Option.bind_some, hi]
  rfl

theorem History.getCurrent {s : ProfessionalModuleState} (h : History s) {last : JsVal}
    (hlast : s.snapshots.getLast? = some last) : getCurrentSnapshot s = .ok last := by
  obtain ⟨i, hi, hcur⟩ := h.last hlast
  simp only [getCurrentSnapshot, hcur, find_last h.distinct hlast hi]

/-- A current snapshot is the last one. -/
theorem History.last_of_current {s : ProfessionalModuleState} (h : History s)
    (hcur : s.currentSnapshotId ≠ none) : ∃ last, s.snapshots.getLast? = some last := by
  cases hlast : s.snapshots.getLast? with
  | some last => exact ⟨last, rfl⟩
  | none =>
      refine absurd ?_ hcur
      rw [h.current, snapshotIds, List.getLast?_map, hlast]
      rfl

theorem bindsCurrent_spec {s : ProfessionalModuleState} (h : bindsCurrent s = true) :
    ∃ a v, s.approvals.find? (fun a => some a.approvalId = s.currentApprovalId) = some a ∧
      s.snapshots.find? (fun v => v.str? "snapshotId" = s.currentSnapshotId) = some v ∧
      v.str? "snapshotId" = some a.snapshotId ∧ v.str? "canonicalHash" = some a.snapshotHash := by
  unfold bindsCurrent at h
  split at h
  · next a v ha hv =>
      simp only [decide_eq_true_eq] at h
      exact ⟨a, v, ha, hv, h⟩
  · cases h

theorem History.wellFormed {s : ProfessionalModuleState} (h : History s) : WellFormed s := by
  refine ⟨h.revisions, h.distinct, ?_, fun last hlast => h.getCurrent hlast, ?_⟩
  · rw [h.current, snapshotIds, List.getLast?_map]
    cases s.snapshots.getLast? <;> rfl
  · intro happ
    obtain ⟨hcur, hbinds, a, ha, huniq⟩ := h.bound happ
    obtain ⟨last, hlast⟩ := h.last_of_current hcur
    obtain ⟨i, hi, hcurId⟩ := h.last hlast
    obtain ⟨b, v, hb, hv, hid, hhash⟩ := bindsCurrent_spec hbinds
    have hbCur : IsCurrentApproval s b := by
      refine ⟨List.mem_of_find?_eq_some hb, ?_⟩
      simpa using List.find?_some hb
    rw [hcurId, find_last h.distinct hlast hi] at hv
    cases hv
    rw [huniq b hbCur] at hid hhash
    exact ⟨last, a, hlast, ha, huniq, hid, hhash⟩

/-! ## The invariant holds along runs -/

theorem history_init {identity : ModuleIdentity} {s : ProfessionalModuleState}
    (h : createInitialModuleState env identity = .ok s) : History s := by
  obtain ⟨hsnap, happ, hcur, hstatus⟩ := createInitial_ok h
  refine ⟨?_, ?_, ?_, ?_, ?_, ?_, ?_⟩
  · simp [snapshotIds, hsnap]
  · simp [snapshotRevisions, hsnap]
  · simp [snapshotIds, hsnap]
  · simp [snapshotIds, hsnap, hcur]
  · simp [happ]
  · simp [happ]
  · intro hs
    rw [hstatus] at hs
    cases hs

/-- Appending a snapshot with a new identifier and the next revision, back in
draft, keeps the history. -/
theorem history_append {s s' v : ProfessionalModuleState} {id : String} (hs : History s)
    (hf : Frozen v s') (hsnap : v.snapshots = s.snapshots ++ [snapshot])
    (hid : snapshot.str? "snapshotId" = some id) (hcur : v.currentSnapshotId = some id)
    (hstatus : v.status = .draft) (happ : v.approvals = s.approvals)
    (hfresh : some id ∉ snapshotIds s)
    (hrev : snapshot.int? "revision" = some ((s.snapshots.length : Int) + 1)) : History s' := by
  have hids : snapshotIds s' = snapshotIds s ++ [some id] := by
    rw [hf.ids, snapshotIds, hsnap, List.map_append, ← snapshotIds, List.map_singleton, hid]
  refine ⟨?_, ?_, ?_, ?_, ?_, ?_, ?_⟩
  · intro x hx
    rw [hids, List.mem_append, List.mem_singleton] at hx
    rcases hx with hx | rfl
    · exact hs.named x hx
    · exact ⟨id, rfl⟩
  · rw [hf.revs, hf.length, snapshotRevisions, hsnap, List.map_append, ← snapshotRevisions,
      hs.revisions, List.length_append, List.length_singleton, List.range_succ, List.map_append,
      List.map_singleton, List.map_singleton, hrev]
  · rw [hids]
    refine hs.distinct.append (List.nodup_singleton _) ?_
    rw [List.disjoint_singleton]
    exact hfresh
  · rw [hids, hf.currentSnapshotId, hcur, List.getLast?_concat]
    rfl
  · intro a ha
    rw [hf.approvals, happ] at ha
    rw [hids]
    exact List.mem_append_left _ (hs.registered a ha)
  · intro _ a ha heq
    rw [hf.approvals, happ] at ha
    rw [hf.currentSnapshotId, hcur] at heq
    exact hfresh (heq ▸ hs.registered a ha)
  · intro h
    rw [hf.status, hstatus] at h
    cases h

/-- Leaving snapshots, approvals and the current snapshot alone, in a status
that carries no approval, keeps the history. -/
theorem history_close {s s' v : ProfessionalModuleState} (hs : History s) (hf : Frozen v s')
    (hsnap : v.snapshots = s.snapshots) (hcur : v.currentSnapshotId = s.currentSnapshotId)
    (happ : v.approvals = s.approvals) (hdraft : v.status ≠ .draft)
    (hstatus : v.status ≠ .approved) : History s' := by
  have hids : snapshotIds s' = snapshotIds s := by rw [hf.ids, snapshotIds, hsnap, snapshotIds]
  refine ⟨?_, ?_, ?_, ?_, ?_, ?_, ?_⟩
  · rw [hids]
    exact hs.named
  · rw [hf.revs, hf.length, snapshotRevisions, hsnap, ← hs.revisions, snapshotRevisions]
  · rw [hids]
    exact hs.distinct
  · rw [hids, hf.currentSnapshotId, hcur]
    exact hs.current
  · rw [hf.approvals, happ, hids]
    exact hs.registered
  · intro h
    exact absurd (hf.status ▸ h) hdraft
  · intro h
    exact absurd (hf.status ▸ h) hstatus

/-- The approval just recorded is the only current one: an older approval
under the same identifier would be found first, and binds an older snapshot. -/
theorem approve_history {c : ApprovalCommand} (hs : History s)
    (h : approveModule env s c = .ok s') : History s' := by
  obtain ⟨hdraft, snapshot, a, hget, hf, ha⟩ := approve_ok h
  have hcur : s.currentSnapshotId ≠ none := by
    intro hnone
    simp only [getCurrentSnapshot, hnone] at hget
    cases hget
  obtain ⟨last, hlast⟩ := hs.last_of_current hcur
  obtain ⟨id, hid, hcurId⟩ := hs.last hlast
  have hsnapshot : snapshot = last := by
    rw [hs.getCurrent hlast] at hget
    exact (Except.ok.inj hget).symm
  have haId : a.snapshotId = id := by rw [ha, hsnapshot, text, hid, Option.getD_some]
  have hids : snapshotIds s' = snapshotIds s := hf.ids
  have hcur' : s'.currentSnapshotId = some id := hf.currentSnapshotId.trans hcurId
  have happ' : s'.approvals = s.approvals ++ [a] := hf.approvals
  have hnames : s'.currentApprovalId = some a.approvalId := hf.currentApprovalId
  have hbinds : bindsCurrent s' = true :=
    approved_binds hf.refined hf.status (by rw [hcur']; exact Option.some_ne_none id)
  refine ⟨?_, ?_, ?_, ?_, ?_, ?_, ?_⟩
  · rw [hids]
    exact hs.named
  · rw [hf.revs, hf.length]
    exact hs.revisions
  · rw [hids]
    exact hs.distinct
  · rw [hids, hcur', ← hcurId]
    exact hs.current
  · intro b hb
    rw [happ', List.mem_append, List.mem_singleton] at hb
    rw [hids]
    rcases hb with hb | rfl
    · exact hs.registered b hb
    · have hmem : last.str? "snapshotId" ∈ snapshotIds s :=
        List.mem_map_of_mem (List.mem_of_getLast? hlast)
      rwa [haId, ← hid]
  · intro hst
    have hstatus : s'.status = .approved := hf.status
    rw [hstatus] at hst
    cases hst
  · intro _
    have hnew : IsCurrentApproval s' a :=
      ⟨by rw [happ']; exact List.mem_append_right _ (List.mem_singleton_self a), hnames.symm⟩
    refine ⟨by rw [hcur']; exact Option.some_ne_none id, hbinds, a, hnew, ?_⟩
    rintro b ⟨hb, hbId⟩
    rw [happ', List.mem_append, List.mem_singleton] at hb
    rcases hb with hb | hb
    · -- the schema looks the approval up among the older ones first
      exfalso
      obtain ⟨d, v, hd, hv, hdId, -⟩ := bindsCurrent_spec hbinds
      have hvId : v.str? "snapshotId" = some id := by
        have := List.find?_some hv
        simpa [hcur'] using this
      rw [happ', List.find?_append] at hd
      have hsome : (s.approvals.find? fun x => some x.approvalId = s'.currentApprovalId).isSome := by
        rw [List.find?_isSome]
        exact ⟨b, hb, by simpa using hbId⟩
      obtain ⟨e, he⟩ := Option.isSome_iff_exists.mp hsome
      rw [he, Option.some_or] at hd
      cases hd
      rw [hvId] at hdId
      refine hs.unapproved hdraft d (List.mem_of_find?_eq_some he) ?_
      rw [hcurId, hdId]
    · exact hb

theorem register_history {r : Int} (hs : History s)
    (h : registerModuleSnapshot env s snapshot r = .ok s') : History s' := by
  obtain ⟨hempty, ⟨id, hid⟩, hrev, hf⟩ := register_ok h
  refine history_append hs hf rfl hid hid rfl rfl ?_ ?_
  · simp [snapshotIds, hempty]
  · simp [hempty, hrev]

theorem amend_history (hs : History s) (h : amendModule env s c = .ok s')
    (hfresh : ∀ stored ∈ s.snapshots,
      stored.str? "snapshotId" ≠ c.replacementSnapshot.str? "snapshotId") : History s' := by
  obtain ⟨-, ⟨id, hid⟩, prior, m, hprior, hrev, hf⟩ := amend_ok h
  have hcur : s.currentSnapshotId ≠ none := by
    intro hnone
    simp only [getCurrentSnapshot, hnone] at hprior
    cases hprior
  obtain ⟨last, hlast⟩ := hs.last_of_current hcur
  have hprior : prior = last := by
    rw [hs.getCurrent hlast] at hprior
    exact (Except.ok.inj hprior).symm
  have hlastRev : last.int? "revision" = some (s.snapshots.length : Int) := by
    have hlen : s.snapshots.length ≠ 0 := by
      rintro hzero
      rw [List.length_eq_zero_iff.mp hzero] at hlast
      cases hlast
    obtain ⟨n, hn⟩ := Nat.exists_eq_succ_of_ne_zero hlen
    have := congrArg List.getLast? hs.revisions
    rw [snapshotRevisions, List.getLast?_map, hlast, hn, List.range_succ, List.map_append,
      List.map_singleton, List.getLast?_concat, Option.map_some] at this
    rw [Option.some.inj this, hn]
    simp
  refine history_append hs hf rfl hid hid rfl rfl ?_ ?_
  · intro hmem
    obtain ⟨stored, hstored, heq⟩ := List.mem_map.mp hmem
    exact hfresh stored hstored (heq.trans hid.symm)
  · rw [hrev, hprior, hlastRev, Option.map_some]

theorem exec_history {c : ModuleCall} (hs : History s) (hfresh : FreshAmendment env s c)
    (h : c.exec env s = .ok s') : History s' := by
  cases c with
  | registerModuleSnapshot snapshot r => exact register_history hs h
  | approveModule c => exact approve_history hs h
  | amendModule c => exact amend_history hs h (hfresh s' h)
  | withdrawModule c =>
      obtain ⟨-, w, hf⟩ := withdraw_ok h
      exact history_close hs hf rfl rfl rfl (by simp) (by simp)
  | markEvidenceAtRisk c =>
      obtain ⟨-, e, hf⟩ := markAtRisk_ok h
      exact history_close hs hf rfl rfl rfl (by simp) (by simp)

theorem next_history {s : ProfessionalModuleState} {c : ModuleCall} (hs : History s)
    (hfresh : FreshAmendment env s c) : History (c.next env s) := by
  unfold ModuleCall.next
  split
  · next s' h => exact exec_history hs hfresh h
  · exact hs

/-- An accepted amendment under an identifier already stored leaves two
snapshots that no lookup tells apart. -/
theorem stale_amendment {stored : JsVal} (h : amendModule env s c = .ok s')
    (hmem : stored ∈ s.snapshots)
    (hid : stored.str? "snapshotId" = c.replacementSnapshot.str? "snapshotId") :
    ¬ (snapshotIds s').Nodup := by
  obtain ⟨-, -, prior, m, -, -, hf⟩ := amend_ok h
  rw [hf.ids, snapshotIds, List.map_append, List.map_singleton]
  intro hnodup
  refine List.disjoint_of_nodup_append hnodup (List.mem_map_of_mem hmem) ?_
  rw [List.mem_singleton]
  exact hid

theorem next_of_ok {c : ModuleCall} (h : c.exec env s = .ok s') : c.next env s = s' := by
  rw [ModuleCall.next, h]

theorem moduleRun_snoc (s₀ : ProfessionalModuleState) (calls : List ModuleCall) (c : ModuleCall) :
    moduleRun env s₀ (calls ++ [c]) = c.next env (moduleRun env s₀ calls) := by
  rw [moduleRun, List.foldl_append, moduleRun]
  rfl

variable (env) in
/-- **Module history.** A run keeps the history readable in every state it
passes exactly as long as its amendments bring new snapshot identifiers. -/
theorem wellFormed_iff_freshAmendments (identity : ModuleIdentity) (s₀ : ProfessionalModuleState)
    (hinit : createInitialModuleState env identity = .ok s₀) (calls : List ModuleCall) :
    (∀ before, before <+: calls → WellFormed (moduleRun env s₀ before)) ↔
      ∀ before c, before ++ [c] <+: calls → FreshAmendment env (moduleRun env s₀ before) c := by
  constructor
  · intro hwell before c hprefix
    cases c with
    | amendModule command =>
        intro s' hs' stored hmem hid
        refine stale_amendment hs' hmem hid ?_
        have := hwell _ hprefix
        rw [moduleRun_snoc, ModuleCall.next, ModuleCall.exec, hs'] at this
        exact this.distinct
    | registerModuleSnapshot snapshot r => trivial
    | approveModule command => trivial
    | withdrawModule command => trivial
    | markEvidenceAtRisk command => trivial
  · intro hok before hprefix
    refine History.wellFormed ?_
    -- induction on the run so far, from its last call
    induction before using List.reverseRecOn with
    | nil => exact history_init hinit
    | append_singleton before c ih =>
        rw [moduleRun_snoc]
        have hbefore : before <+: calls := (List.prefix_append before [c]).trans hprefix
        exact next_history (ih hbefore) (hok before c hprefix)

/-! ## An amendment under the old identifier

A module is approved on a snapshot, amended with other content under the same
snapshot identifier, and approved again: the second approval binds the hash of
the first snapshot. The two digests are SHA-256 of the canonical texts.
-/

namespace StaleAmendment

def timestamp : String := "2026-07-14T00:00:00Z"

def inspectorId : String := "00000000-0000-4000-8000-000000000005"

def snapshotId : String := "00000000-0000-4000-8000-000000000004"

def firstApproval : String := "00000000-0000-4000-8000-000000000006"

def secondApproval : String := "00000000-0000-4000-8000-000000000007"

/-- A building snapshot without findings, before it is hashed. -/
def content (revision : Int) (summary : String) : Fields :=
  [("snapshotId", .str snapshotId),
    ("organizationId", .str "00000000-0000-4000-8000-000000000001"),
    ("jobId", .str "00000000-0000-4000-8000-000000000002"),
    ("moduleId", .str "00000000-0000-4000-8000-000000000003"),
    ("revision", revision), ("createdAt", .str timestamp),
    ("inspector", .obj
      [("inspectorId", .str inspectorId), ("displayName", .str "Ada"),
        ("credentialVersion", .str "c1"), ("confirmedAt", .str timestamp)]),
    ("requirementVersion", .str "r1"), ("templateVersion", .str "t1"), ("limitations", .arr []),
    ("verifierResults", .arr []), ("evidenceHashes", .arr []), ("mediaSelection", .arr []),
    ("module", .str "building"), ("findings", .arr []), ("coverage", .arr []),
    ("conclusion", .obj
      [("module", .str "building"), ("summary", .str summary),
        ("majorDefectCount", (0 : Int)), ("minorDefectCount", (0 : Int))])]

def before : Fields := content 1 "Sound"

def after : Fields := content 2 "Major defect"

def beforeHash : String := "f56f3835476953158ac506fb8d60f8b30223f0e3c73dd87350439fae813679f2"

def afterHash : String := "ea0815006be707d535481d3c7c74448325ae535d0d2479d88b2d10c515b25e16"

/-- SHA-256 on the two texts the run hashes, with formats its input meets. -/
def host : Env where
  formats := ⟨fun _ => true, fun _ => true⟩
  digest text := if text = canonicalJson (.obj before) then beforeHash else afterHash
  issuesText _ := ""
  toInteger _ := none

def hashed (content : Fields) (hash : String) : JsVal :=
  .obj (content ++ [("canonicalHash", .str hash)])

def identity : ModuleIdentity where
  organizationId := "00000000-0000-4000-8000-000000000001"
  jobId := "00000000-0000-4000-8000-000000000002"
  moduleId := "00000000-0000-4000-8000-000000000003"
  module := .building

/-- The approval of the current snapshot at the given revision. -/
def approval (revision : Int) (approvalId : String) : ApprovalCommand where
  expectedRevision := revision
  approvalId := approvalId
  snapshotId := snapshotId
  snapshotHash := beforeHash
  inspectorId := inspectorId
  approvedAt := timestamp

def amendment : AmendmentCommand where
  expectedRevision := 2
  amendmentId := "00000000-0000-4000-8000-000000000008"
  reason := "New evidence"
  amendedByInspectorId := inspectorId
  amendedAt := timestamp
  replacementSnapshot := hashed after afterHash

def calls : List ModuleCall :=
  [.registerModuleSnapshot (hashed before beforeHash) 0,
    .approveModule (approval 1 firstApproval),
    .amendModule amendment,
    .approveModule (approval 3 secondApproval)]

/-- The approval record the given command leaves. -/
def recorded (approvalId : String) : ModuleApproval where
  approvalId := approvalId
  organizationId := identity.organizationId
  jobId := identity.jobId
  moduleId := identity.moduleId
  module := .building
  snapshotId := snapshotId
  snapshotHash := beforeHash
  inspectorId := inspectorId
  approvedAt := timestamp

def initial : ProfessionalModuleState where
  organizationId := identity.organizationId
  jobId := identity.jobId
  moduleId := identity.moduleId
  module := .building
  revision := 0
  status := .draft
  snapshots := []
  approvals := []
  amendments := []
  currentSnapshotId := none
  currentApprovalId := none
  withdrawal := none
  evidenceRisk := none

def registered : ProfessionalModuleState :=
  { initial with
    revision := 1
    snapshots := [hashed before beforeHash]
    currentSnapshotId := some snapshotId }

def approvedOnce : ProfessionalModuleState :=
  { registered with
    revision := 2
    status := .approved
    approvals := [recorded firstApproval]
    currentApprovalId := some firstApproval }

def amended : ProfessionalModuleState :=
  { approvedOnce with
    revision := 3
    status := .draft
    snapshots := [hashed before beforeHash, hashed after afterHash]
    amendments := [{
      amendmentId := "00000000-0000-4000-8000-000000000008"
      priorSnapshotId := snapshotId
      replacementSnapshotId := snapshotId
      reason := "New evidence"
      amendedByInspectorId := inspectorId
      amendedAt := timestamp }]
    currentApprovalId := none }

def approvedTwice : ProfessionalModuleState :=
  { amended with
    revision := 4
    status := .approved
    approvals := amended.approvals ++ [recorded secondApproval]
    currentApprovalId := some secondApproval }

theorem created : createInitialModuleState host identity = .ok initial := rfl

theorem texts_differ : canonicalJson (.obj after) ≠ canonicalJson (.obj before) := by
  rw [ne_eq, canonicalJson_eq_iff, Same]
  intro h
  have hrev := (normalize_obj_eq_iff (by decide) (by decide)).mp h "revision"
  simp [after, before, content, normalize, List.lookup_cons] at hrev

theorem sha256_before : sha256 host (.obj before) = beforeHash := by
  dsimp only [sha256, host]
  rw [if_pos rfl]

theorem sha256_after : sha256 host (.obj after) = afterHash := by
  dsimp only [sha256, host]
  rw [if_neg texts_differ]

theorem verify_before : verifyModuleSnapshotHash host (hashed before beforeHash) = .ok true := by
  have hparsed : moduleSnapshotSchema host.formats (hashed before beforeHash) =
      .ok (hashed before beforeHash) := rfl
  have hinput : snapshotInput host.formats (hashed before beforeHash) = .ok (.obj before) := rfl
  exact verify_of hparsed hinput (by rw [sha256_before]; rfl)

theorem assert_before : assertSnapshotForState host initial (hashed before beforeHash) = .ok () := by
  have hparsed : moduleSnapshotSchema host.formats (hashed before beforeHash) =
      .ok (hashed before beforeHash) := rfl
  unfold assertSnapshotForState
  rw [hparsed, verify_before]
  rfl

theorem assert_after :
    assertSnapshotForState host approvedOnce (hashed after afterHash) = .ok () := by
  have hparsed : moduleSnapshotSchema host.formats (hashed after afterHash) =
      .ok (hashed after afterHash) := rfl
  have hinput : snapshotInput host.formats (hashed after afterHash) = .ok (.obj after) := rfl
  have hverify : verifyModuleSnapshotHash host (hashed after afterHash) = .ok true :=
    verify_of hparsed hinput (by rw [sha256_after]; rfl)
  unfold assertSnapshotForState
  rw [hparsed, hverify]
  rfl

theorem register_before :
    registerModuleSnapshot host initial (hashed before beforeHash) 0 = .ok registered := by
  simp only [registerModuleSnapshot, assert_before]
  rfl

theorem approve_before :
    approveModule host registered (approval 1 firstApproval) = .ok approvedOnce := by
  rfl

theorem approve_after :
    approveModule host amended (approval 3 secondApproval) = .ok approvedTwice := by
  rfl

theorem amend_after : amendModule host approvedOnce amendment = .ok amended := by
  have hassert : assertSnapshotForState host approvedOnce amendment.replacementSnapshot = .ok () :=
    assert_after
  simp only [amendModule, hassert]
  rfl

theorem run_calls : moduleRun host initial calls = approvedTwice := by
  have first := next_of_ok (c := .registerModuleSnapshot (hashed before beforeHash) 0)
    register_before
  have second := next_of_ok (c := .approveModule (approval 1 firstApproval)) approve_before
  have third := next_of_ok (c := .amendModule amendment) amend_after
  have fourth := next_of_ok (c := .approveModule (approval 3 secondApproval)) approve_after
  rw [moduleRun, calls, List.foldl_cons, first, List.foldl_cons, second, List.foldl_cons, third,
    List.foldl_cons, fourth, List.foldl_nil]

/-- The module ends approved, its current snapshot is the first one, and the
approval binds that one's hash and not the amended content's. -/
theorem approval_binds_old_content :
    createInitialModuleState host identity = .ok initial ∧
      (moduleRun host initial calls).status = .approved ∧
      (moduleRun host initial calls).snapshots.getLast? = some (hashed after afterHash) ∧
      getCurrentSnapshot (moduleRun host initial calls) = .ok (hashed before beforeHash) ∧
      IsCurrentApproval (moduleRun host initial calls) (recorded secondApproval) ∧
      (recorded secondApproval).snapshotHash ≠ afterHash ∧
      ¬ WellFormed (moduleRun host initial calls) := by
  rw [run_calls]
  have hfirst : (hashed before beforeHash).str? "snapshotId" = some snapshotId := rfl
  refine ⟨created, rfl, rfl, ?_, ⟨by simp [approvedTwice], rfl⟩, ?_, fun h => ?_⟩
  · simp [getCurrentSnapshot, approvedTwice, amended, approvedOnce, registered, hfirst]
  · intro heq
    exact absurd (congrArg String.toList heq) (by decide)
  · have hsame : (hashed before beforeHash).str? "snapshotId" =
        (hashed after afterHash).str? "snapshotId" := rfl
    have hdistinct := h.distinct
    simp [approvedTwice, amended, hsame] at hdistinct

/-- The equivalence at this run. -/
theorem wellFormed_iff_here :
    (∀ before, before <+: calls → WellFormed (moduleRun host initial before)) ↔
      ∀ before c, before ++ [c] <+: calls →
        FreshAmendment host (moduleRun host initial before) c :=
  wellFormed_iff_freshAmendments host identity initial created calls

end StaleAmendment

end InspectionHub.Domain
