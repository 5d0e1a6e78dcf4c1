import InspectionHub.Database.InvestigationEvents
import InspectionHub.Lib.ReadCommitted

/-!
# Closing an investigation

Revisions and capture rows in concurrent read-committed transactions, with
`u5_require_active_investigation` of
`20260715000600_u5_investigation_history.sql`. The trigger of a revision takes
the advisory lock of its investigation; the trigger of a capture row takes
none, so a row that was checked before the completion may commit after it
(`Sample.race_captures_after`). Where no completion commits over an open
capture, none does (`closed_when_completes_alone`).

What else a statement may raise is a `rollback` of its transaction.
-/

namespace InspectionHub.Database

open Inspection (InvestigationStatus)
open InvestigationTables (Legal NextAfter validate_iff mem_revisionsOf)

/-! ## Rows -/

inductive CaptureTable where
  | investigation_modules | investigation_areas | investigation_artifacts
  | investigation_artifact_area_assignments | investigation_notes | measurements
deriving DecidableEq

structure CaptureRow where
  table : CaptureTable
  id : Uuid
  organizationId : Uuid
  investigationId : Uuid
deriving DecidableEq

inductive InvestigationRecord where
  | revision (r : InvestigationRevision)
  | capture (c : CaptureRow)
deriving DecidableEq

namespace InvestigationRecord

def clash : InvestigationRecord → InvestigationRecord → Prop
  | .revision a, .revision b => a.clash b
  | .capture a, .capture b => a.table = b.table ∧ a.id = b.id
  | _, _ => False

instance : DecidableRel clash
  | .revision a, .revision b => inferInstanceAs (Decidable (a.clash b))
  | .capture _, .capture _ => inferInstanceAs (Decidable (_ ∧ _))
  | .revision _, .capture _ => inferInstanceAs (Decidable False)
  | .capture _, .revision _ => inferInstanceAs (Decidable False)

/-- The advisory lock a trigger takes: that of a revision takes its
investigation's, that of a capture row none. -/
def lock : InvestigationRecord → Option (Uuid × Uuid)
  | .revision r => some (r.organizationId, r.investigationId)
  | .capture _ => none

def revision? : InvestigationRecord → Option InvestigationRevision
  | .revision r => some r
  | .capture _ => none

end InvestigationRecord

/-- `investigation_revisions`, as a statement sees it. -/
def revisionsIn (l : List InvestigationRecord) : List InvestigationRevision :=
  l.filterMap InvestigationRecord.revision?

/-- `u5_require_active_investigation` -/
def requireActiveInvestigation (revisions : List InvestigationRevision) (c : CaptureRow) :
    Except Sql.Error Unit :=
  Sql.raiseIf (¬ ∃ r ∈ revisions, r.investigationId = c.investigationId ∧
      r.organizationId = c.organizationId ∧ r.status = .active ∧
      ¬ ∃ later ∈ revisions, later.investigationId = r.investigationId ∧
        r.revision < later.revision) "55000" "investigation is not active"

/-- The trigger of a row lets it through. -/
def passesTrigger (visible : List InvestigationRecord) : InvestigationRecord → Bool
  | .revision r => (validateInvestigationRevision (revisionsIn visible) r).isOk && r.checked
  | .capture c => (requireActiveInvestigation (revisionsIn visible) c).isOk

/-! ## Runs -/

abbrev InvestigationStore := ReadCommitted InvestigationRecord (Uuid × Uuid)

inductive TransactionStep where
  | insert (t : Nat) (row : InvestigationRecord)
  | commit (t : Nat)
  | rollback (t : Nat)

def InvestigationStore.perform (s : InvestigationStore) : TransactionStep → InvestigationStore
  | .insert t row =>
      ReadCommitted.insert InvestigationRecord.clash InvestigationRecord.lock passesTrigger s t row
  | .commit t => ReadCommitted.commit s t
  | .rollback t => ReadCommitted.rollback s t

def transactionSystem : TSys InvestigationStore TransactionStep :=
  .ofFun .empty InvestigationStore.perform

/-- A completed revision of the investigation a capture row belongs to. -/
def Completes (r : InvestigationRevision) (c : CaptureRow) : Prop :=
  r.investigationId = c.investigationId ∧ r.organizationId = c.organizationId ∧
    isCompleted r.status = true

/-- No capture row of an investigation commits after a completed revision of it. -/
def Closed (commits : List (List InvestigationRecord)) : Prop :=
  commits.Pairwise fun earlier later =>
    ∀ r ∈ revisionsIn earlier, ∀ c, .capture c ∈ later → ¬ Completes r c

/-- No completed revision commits while another transaction has an uncommitted
capture row of its investigation. -/
def CompletesAlone (s : InvestigationStore) : TransactionStep → Prop
  | .commit t => ∀ t', t' ≠ t → ∀ r ∈ revisionsIn (s.transaction t).rows,
      ∀ c, .capture c ∈ (s.transaction t').rows → ¬ Completes r c
  | _ => True

/-! ## Serial revisions -/

theorem revisionsIn_append (l l' : List InvestigationRecord) :
    revisionsIn (l ++ l') = revisionsIn l ++ revisionsIn l' := List.filterMap_append

/-- The revisions under the lock of an investigation are its revisions. -/
theorem revisionsIn_rowsOf (k : Uuid × Uuid) (l : List InvestigationRecord) :
    revisionsIn (ReadCommitted.rowsOf InvestigationRecord.lock k l) =
      revisionsOf (revisionsIn l) k.1 k.2 := by
  induction l with
  | nil => rfl
  | cons row l ih =>
      cases row with
      | capture c => exact ih
      | revision r =>
          have hlock : InvestigationRecord.lock (.revision r) = some k ↔
              r.investigationId = k.2 ∧ r.organizationId = k.1 := by
            simp only [InvestigationRecord.lock, Option.some.injEq, Prod.ext_iff]
            exact and_comm
          have hcons : revisionsOf (revisionsIn (.revision r :: l)) k.1 k.2 =
              if r.investigationId = k.2 ∧ r.organizationId = k.1 then
                r :: revisionsOf (revisionsIn l) k.1 k.2
              else revisionsOf (revisionsIn l) k.1 k.2 := by
            show List.filter _ (r :: revisionsIn l) = _
            simp only [List.filter_cons, decide_eq_true_eq]
            rfl
          rw [ReadCommitted.rowsOf_cons, hcons, ← ih]
          by_cases hk : r.investigationId = k.2 ∧ r.organizationId = k.1
          · rw [if_pos (hlock.mpr hk), if_pos hk]
            rfl
          · rw [if_neg fun h => hk (hlock.mp h), if_neg hk]

/-- The revisions of each investigation form a legal history in every view. -/
abbrev SerialRevisions : InvestigationStore → Prop :=
  ReadCommitted.Serial InvestigationRecord.lock fun _ l => Legal (revisionsIn l)

variable {s : InvestigationStore}

theorem SerialRevisions.step (h : SerialRevisions s) (step : TransactionStep) :
    SerialRevisions (s.perform step) := by
  cases step with
  | commit t => exact ReadCommitted.Serial.commit h t
  | rollback t => exact ReadCommitted.Serial.idle h t
  | insert t row =>
      refine ReadCommitted.Serial.insert h (fun k l row hkey hpasses hlegal => ?_) t row
      cases row with
      | capture c => cases hkey
      | revision r =>
          cases hkey
          rw [revisionsIn_rowsOf] at hlegal
          rw [revisionsIn_append, revisionsIn_rowsOf]
          rw [passesTrigger, Bool.and_eq_true] at hpasses
          exact hlegal.snoc ((validate_iff hlegal).mp (Sql.eq_ok_of_isOk hpasses.1))

/-- Where a capture row is let through, no revision that is seen completes its
investigation. -/
theorem requireActive_open {revisions : List InvestigationRevision} {c : CaptureRow}
    (hlegal : Legal (revisionsOf revisions c.organizationId c.investigationId))
    (h : requireActiveInvestigation revisions c = .ok ()) :
    ∀ r ∈ revisions, ¬ Completes r c := by
  rintro r hr ⟨hid, horganization, hcompleted⟩
  obtain ⟨a, ha, haid, haorganization, hactive, hlatest⟩ := not_not.mp (Sql.raiseIf_ok h)
  obtain ⟨before, after, hsplit⟩ :=
    List.append_of_mem (mem_revisionsOf.mpr ⟨hr, hid, horganization⟩)
  rw [hsplit] at hlegal
  -- the completed revision is the last, so the active one comes before it
  have hafter := hlegal.completed_last hcompleted
  have hmem := mem_revisionsOf.mpr ⟨ha, haid, haorganization⟩
  rw [hsplit, hafter] at hmem
  rcases List.mem_append.mp hmem with hbefore | hlast
  · have hlt := (List.pairwise_append.mp hlegal.numbered.pairwise_lt).2.2 a hbefore r
      List.mem_cons_self
    exact hlatest ⟨r, hr, hid.trans haid.symm, Nat.lt_of_succ_lt_succ hlt⟩
  · cases List.mem_singleton.mp hlast
    rw [hactive] at hcompleted
    cases hcompleted

/-! ## Closed -/

/-- Uncommitted capture rows belong to investigations that are not completed,
and none has been committed late. -/
structure ClosingInv (s : InvestigationStore) : Prop where
  serial : SerialRevisions s
  isOpen : ∀ t, ∀ c, .capture c ∈ (s.transaction t).rows →
    ∀ r ∈ revisionsIn s.committed, ¬ Completes r c
  closed : Closed s.commits

theorem ClosingInv.idle (hi : ClosingInv s) (t : Nat) :
    ClosingInv (s.put t .idle) where
  serial := hi.serial.idle t
  isOpen t' c hc := by
    rw [ReadCommitted.transaction_put] at hc
    split at hc
    · cases hc
    · exact hi.isOpen t' c hc
  closed := hi.closed

theorem ClosingInv.insert (hi : ClosingInv s) (t : Nat) (row : InvestigationRecord) :
    ClosingInv (s.perform (.insert t row)) := by
  show ClosingInv (ReadCommitted.insert InvestigationRecord.clash InvestigationRecord.lock
    passesTrigger s t row)
  have hserial : SerialRevisions (ReadCommitted.insert InvestigationRecord.clash
      InvestigationRecord.lock passesTrigger s t row) :=
    SerialRevisions.step hi.serial (.insert t row)
  have hinserted := ReadCommitted.inserted InvestigationRecord.clash InvestigationRecord.lock
    passesTrigger s t row
  generalize ReadCommitted.insert InvestigationRecord.clash InvestigationRecord.lock passesTrigger s
    t row = s' at hinserted hserial ⊢
  cases hinserted with
  | waits => exact hi
  | aborts => exact hi.idle t
  | locks free =>
      refine ⟨hserial, fun t' c hc => ?_, hi.closed⟩
      rw [ReadCommitted.transaction_put] at hc
      split at hc
      · exact hi.isOpen t c hc
      · exact hi.isOpen t' c hc
  | adds free passes =>
      refine ⟨hserial, fun t' c hc => ?_, hi.closed⟩
      rw [ReadCommitted.transaction_put] at hc
      split at hc
      · rcases List.mem_append.mp hc with hc | hc
        · exact hi.isOpen t c hc
        · cases List.mem_singleton.mp hc
          intro r hr
          have hlegal := hi.serial.views t (c.organizationId, c.investigationId)
          rw [revisionsIn_rowsOf] at hlegal
          have hactive : requireActiveInvestigation (revisionsIn (s.visible t)) c = .ok () :=
            Sql.eq_ok_of_isOk passes
          refine requireActive_open hlegal hactive r ?_
          rw [ReadCommitted.visible, revisionsIn_append]
          exact List.mem_append_left _ hr
      · exact hi.isOpen t' c hc

theorem ClosingInv.commit (hi : ClosingInv s) {t : Nat} (halone : CompletesAlone s (.commit t)) :
    ClosingInv (s.perform (.commit t)) := by
  refine ⟨SerialRevisions.step hi.serial (.commit t), fun t' c hc => ?_, ?_⟩
  · change .capture c ∈ ((s.put t .idle).transaction t').rows at hc
    rw [ReadCommitted.transaction_put] at hc
    split at hc
    · cases hc
    · next hne =>
        intro r hr
        change r ∈ revisionsIn (s.commits ++ [(s.transaction t).rows]).flatten at hr
        rw [List.flatten_append, List.flatten_singleton, revisionsIn_append] at hr
        rcases List.mem_append.mp hr with hr | hr
        · exact hi.isOpen t' c hc r hr
        · exact halone t' hne r hr c hc
  · refine List.pairwise_append.mpr ⟨hi.closed, List.pairwise_singleton _ _, ?_⟩
    intro earlier hearlier later hlater r hr c hc
    cases List.mem_singleton.mp hlater
    refine hi.isOpen t c hc r ?_
    obtain ⟨row, hrow, hrevision⟩ := List.mem_filterMap.mp hr
    exact List.mem_filterMap.mpr ⟨row, List.mem_flatten.mpr ⟨earlier, hearlier, hrow⟩, hrevision⟩

theorem closingInv_inductive : transactionSystem.Inductive CompletesAlone ClosingInv where
  init := by
    rintro _ rfl
    refine ⟨ReadCommitted.Serial.empty fun _ => Legal.nil, ?_, List.Pairwise.nil⟩
    intro t c hc
    cases hc
  step := by
    rintro s step _ hi halone rfl
    cases step with
    | insert t row => exact hi.insert t row
    | commit t => exact hi.commit halone
    | rollback t => exact hi.idle t

/-- **A completed investigation is closed, where completions commit alone.** -/
theorem closed_when_completes_alone {s : InvestigationStore}
    (hs : transactionSystem.Reachable CompletesAlone s) : Closed s.commits :=
  (closingInv_inductive.invariant hs).closed

/-! ## A note that commits late -/

namespace InvestigationStore.Sample

open InvestigationTables.Sample (tenant job inspector investigation kitchen contentHash begins)

/-- Revision one, which completes the investigation. -/
def completes : InvestigationRevision :=
  ⟨⟨"bbbb2000-0000-0000-0000-000000000002", by decide⟩, tenant, job, investigation, 1, some 0,
    .completed_no_reportable_finding, kitchen, some 0, some inspector, some .manual_only, contentHash⟩

def note : CaptureRow :=
  ⟨.investigation_notes, ⟨"bbbb3000-0000-0000-0000-000000000001", @rfl _ true⟩, tenant,
    investigation⟩

/-- The note commits before the investigation is completed. -/
def quiet : List TransactionStep :=
  [.insert 1 (.revision begins), .commit 1, .insert 2 (.capture note), .commit 2,
    .insert 3 (.revision completes), .commit 3]

/-- The note is checked before the completion and commits after it. -/
def race : List TransactionStep :=
  [.insert 1 (.revision begins), .commit 1, .insert 2 (.capture note),
    .insert 3 (.revision completes), .commit 3, .commit 2]

def run (steps : List TransactionStep) : InvestigationStore :=
  steps.foldl perform ReadCommitted.empty

/-- A commit while nothing else is open completes alone. -/
theorem alone {t : Nat} (h : ∀ p ∈ s.transactions.entries, p.1 ≠ t → p.2.rows = []) :
    CompletesAlone s (.commit t) := by
  intro t' hne r _ c hc
  rw [ReadCommitted.rows_eq_nil h hne] at hc
  cases hc

/-- An insert commits nothing. -/
theorem inserts (h : transactionSystem.Reachable CompletesAlone s) (t : Nat)
    (row : InvestigationRecord) :
    transactionSystem.Reachable CompletesAlone (s.perform (.insert t row)) :=
  h.step (a := .insert t row) trivial rfl

theorem quiet_closed : (run quiet).commits =
      [[.revision begins], [.capture note], [.revision completes]] ∧ Closed (run quiet).commits := by
  refine ⟨by decide +kernel, closed_when_completes_alone ?_⟩
  have h₀ : transactionSystem.Reachable CompletesAlone ReadCommitted.empty := .init rfl
  have h₁ := inserts h₀ 1 (.revision begins)
  have h₂ := h₁.step (a := .commit 1) (alone (by decide +kernel)) rfl
  have h₃ := inserts h₂ 2 (.capture note)
  have h₄ := h₃.step (a := .commit 2) (alone (by decide +kernel)) rfl
  have h₅ := inserts h₄ 3 (.revision completes)
  exact h₅.step (a := .commit 3) (alone (by decide +kernel)) rfl

theorem race_captures_after :
    transactionSystem.Reachable TSys.any (run race) ∧ ¬ Closed (run race).commits := by
  refine ⟨TSys.reachable_foldl ReadCommitted.empty perform race, fun hclosed => ?_⟩
  have hcommits : (run race).commits =
      [[.revision begins], [.revision completes], [.capture note]] := by
    decide +kernel
  rw [hcommits] at hclosed
  have hlater := (List.pairwise_cons.mp (List.pairwise_cons.mp hclosed).2).1 [.capture note]
    List.mem_cons_self
  exact hlater completes List.mem_cons_self note List.mem_cons_self ⟨rfl, rfl, rfl⟩

end InvestigationStore.Sample

end InspectionHub.Database
