import InspectionHub.Capture.CrashRecovery

/-!
# Recovering twice

`apps/mobile/src/storage/startup-recovery.ts`. A startup reconciles the ledger
with the files of a scan, and moves the ones that were quarantined. The next
startup does not find them, and judges an intent by what it finds: an intent
keeps its state, its code and its place among the evidence at risk exactly when
the first startup had no file of it to move.
-/

namespace InspectionHub.Capture

open Domain (bind_ok bind_of)

/-! ## One startup -/

/-- The `residue` of an instruction. -/
inductive Residue where
  | finals
  | partials
deriving DecidableEq

structure QuarantineInstruction where
  captureId : String
  reason : String
  residue : Residue
deriving DecidableEq

@[simp] def quarantineInstruction : ReconciliationAction → Option QuarantineInstruction
  | .quarantine_final captureId reason => some { captureId, reason, residue := .finals }
  | ReconciliationAction.quarantine_partial captureId reason =>
      some { captureId, reason, residue := .partials }
  | _ => none

/-- What `inventory.scan()` finds. -/
structure CaptureResidues where
  finals : List FinalFileObservation
  partials : List PartialFileObservation

/-- `inventory.quarantine(instruction)` moves the files of the capture to a
directory that is not scanned. -/
def CaptureResidues.quarantine (files : CaptureResidues) (q : QuarantineInstruction) :
    CaptureResidues :=
  match q.residue with
  | .finals =>
      { files with finals := files.finals.filter fun f => f.artifact.captureId ≠ q.captureId }
  | .partials =>
      { files with partials := files.partials.filter fun f => f.captureId ≠ q.captureId }

/-- The startup, with the files that it leaves. -/
def runStartupCaptureRecovery (ledger : SQLiteLedger) (files : CaptureResidues) :
    Except LedgerError (SQLiteLedger × ReconciliationResult × CaptureResidues) := do
  let (ledger, result) ← reconcileCaptureStorage ledger files.finals files.partials
  return (ledger, result,
    (result.actions.filterMap quarantineInstruction).foldl CaptureResidues.quarantine files)

/-! ## The verdict on an intent -/

/-- What a reconciliation makes of an intent. -/
structure Verdict where
  state : CaptureIntentState
  failureCode : Option String
  artifact : Option DurableArtifact
  actions : List ReconciliationAction
  atRisk : Bool

/-- The verdict by the files that were found and the artifact of the ledger. -/
def verdict (observedFinal : Option FinalFileObservation)
    (observedPartial : Option PartialFileObservation) (artifact : Option DurableArtifact)
    (intent : CaptureIntent) : Verdict :=
  let id := intent.captureId
  match observedFinal with
  | some f =>
      if f.integrity ≠ .valid then
        { state := .evidence_at_risk
          failureCode := some f.integrity.text
          artifact := artifact
          actions := [.quarantine_final id f.integrity.text]
          atRisk := true }
      else
        match artifact with
        | none =>
            { state := .acknowledged
              failureCode := intent.failureCode
              artifact := some (durableArtifactFromObservation f.artifact intent.kind)
              actions := [.adopted_final id]
              atRisk := false }
        | some a =>
            if ¬ artifactIdentityMatches a f.artifact then
              { state := .evidence_at_risk
                failureCode := some "ledger_identity_mismatch"
                artifact := some a
                actions := [.quarantine_final id "ledger_identity_mismatch"]
                atRisk := true }
            else
              { state := .acknowledged
                failureCode := intent.failureCode
                artifact := some a
                actions := if intent.state ≠ .acknowledged then [.resume_acknowledgement id] else []
                atRisk := false }
  | none =>
      match observedPartial, artifact with
      | some _, some a =>
          { state := .evidence_at_risk
            failureCode := some "final_missing_partial_present"
            artifact := some a
            actions := [ReconciliationAction.quarantine_partial id "publication_incomplete",
              .ledger_missing_final id]
            atRisk := true }
      | some _, none =>
          { state := .quarantined
            failureCode := some "publication_incomplete"
            artifact := none
            actions := [ReconciliationAction.quarantine_partial id "publication_incomplete"]
            atRisk := false }
      | none, some a =>
          { state := .evidence_at_risk
            failureCode := some "final_missing"
            artifact := some a
            actions := [.ledger_missing_final id]
            atRisk := true }
      | none, none =>
          { state := .failed
            failureCode := some "no_file_residue"
            artifact := none
            actions := [.discard_pending_intent id]
            atRisk := false }

/-- The verdict on an intent of a ledger. -/
def judge (files : CaptureResidues) (m : Memory) (intent : CaptureIntent) : Verdict :=
  verdict (lastOf (·.artifact.captureId) files.finals intent.captureId)
    (lastOf (·.captureId) files.partials intent.captureId) (m.artifacts.get? intent.captureId)
    intent

/-- The intent after the verdict. -/
@[simp] def Verdict.onto (v : Verdict) (intent : CaptureIntent) : CaptureIntent :=
  { intent with state := v.state, failureCode := v.failureCode }

/-- The reconciliation of an intent is its verdict. -/
structure Judged (v : Verdict) (intent : CaptureIntent) (r r' : Reconciling) : Prop where
  found : r'.ledger.memory.intents.get? intent.captureId = some (v.onto intent)
  artifact : r'.ledger.memory.artifacts.get? intent.captureId = v.artifact
  elsewhere : Elsewhere intent.captureId r.ledger.memory r'.ledger.memory
  actions : r'.actions = r.actions ++ v.actions
  atRisk : ∀ k, k ∈ r'.evidenceAtRisk ↔
    k ∈ r.evidenceAtRisk ∨ (k = intent.captureId ∧ v.atRisk = true)

variable {r r' : Reconciling} {l l' : SQLiteLedger} {files : CaptureResidues}
  {intent : CaptureIntent}

variable {actions : List ReconciliationAction} {state : CaptureIntentState} {code : Option String}

theorem mark_judged (hintent : r.ledger.memory.intents.get? intent.captureId = some intent)
    (h : r.mark intent.captureId state code actions = .ok r') :
    Judged ⟨state, code.or intent.failureCode, r.ledger.memory.artifacts.get? intent.captureId,
      actions, false⟩ intent r r' := by
  obtain ⟨l', hmark, h⟩ := bind_ok h
  cases h
  obtain ⟨current, hcurrent, -, rfl⟩ := markIntent_ok hmark
  obtain rfl := Option.some.inj (hintent.symm.trans hcurrent)
  exact {
    found := Table.get?_put_self _ _
    artifact := rfl
    elsewhere := ⟨fun k hk => Table.get?_put_of_ne _ _ hk, fun _ _ => rfl, fun _ _ => rfl⟩
    actions := rfl
    atRisk := fun k => ⟨.inl, fun h => h.elim id fun h => absurd h.2 nofun⟩ }

theorem mem_addTo {values : List String} {value k : String} :
    k ∈ addTo values value ↔ k ∈ values ∨ k = value := by
  unfold addTo
  split
  · next h =>
      refine ⟨.inl, ?_⟩
      rintro (hk | rfl)
      · exact hk
      · exact h
  · rw [List.mem_append, List.mem_singleton]

theorem Judged.atRisk_of {v : Verdict} (h : Judged v intent r r') (hv : v.atRisk = false) :
    Judged { v with atRisk := true } intent r (r'.atRisk intent.captureId) :=
  { h with
    atRisk := fun k => by
      show k ∈ addTo r'.evidenceAtRisk intent.captureId ↔ _
      rw [mem_addTo, h.atRisk, hv]
      simp }

/-- An adopted file is the artifact of the capture. -/
theorem adopt_judged {f : FinalFileObservation}
    (hid : f.artifact.captureId = intent.captureId)
    (hintent : r.ledger.memory.intents.get? intent.captureId = some intent)
    (hnone : r.ledger.memory.artifacts.get? intent.captureId = none)
    (hcommit : r.ledger.commitDurableCapture false intent.captureId
      (durableArtifactFromObservation f.artifact intent.kind) = .ok l')
    (hmark : Reconciling.mark { r with ledger := l' } intent.captureId .acknowledged none
      [.adopted_final intent.captureId] = .ok r') :
    Judged ⟨.acknowledged, intent.failureCode,
      some (durableArtifactFromObservation f.artifact intent.kind),
      [.adopted_final intent.captureId], false⟩ intent r r' := by
  obtain ⟨current, hcurrent, -, -, ⟨hsome, -⟩ | ⟨-, -, -, rfl⟩⟩ := commit_ok hcommit
  · cases hnone.symm.trans hsome
  obtain rfl := Option.some.inj (hintent.symm.trans hcurrent)
  have hkey : (durableArtifactFromObservation f.artifact intent.kind).captureId =
      intent.captureId := hid
  obtain ⟨l', hmarked, h⟩ := bind_ok hmark
  cases h
  obtain ⟨durable, hdurable, -, rfl⟩ := markIntent_ok hmarked
  have hput : (r.ledger.memory.intents.put { intent with state := .durable }).get?
      intent.captureId = some { intent with state := .durable } := Table.get?_put_self _ _
  obtain rfl := Option.some.inj (hput.symm.trans hdurable)
  exact {
    found := Table.get?_put_self _ _
    artifact := by
      show (r.ledger.memory.artifacts.put _).get? _ = _
      rw [← hkey]
      exact Table.get?_put_self _ _
    elsewhere := {
      intents := fun k hk => by
        have hput : ∀ (t : Table String CaptureIntent (·.captureId)) (v : CaptureIntent),
            v.captureId = intent.captureId → (t.put v).get? k = t.get? k :=
          fun t v hv => Table.get?_put_of_ne t v fun h => hk (h.trans hv)
        refine (hput _ _ ?_).trans (hput _ _ ?_) <;> rfl
      artifacts := fun k hk => Table.get?_put_of_ne _ _ fun h => hk (h.trans hkey)
      queue := fun k hk => Table.get?_put_of_ne _ _ fun h => hk (h.trans hkey) }
    actions := rfl
    atRisk := fun k => ⟨.inl, fun h => h.elim id fun h => absurd h.2 nofun⟩ }

variable {α : Type}

theorem lastOf_key {key : α → String} {l : List α} {id : String} {a : α}
    (h : lastOf key l id = some a) : key a = id := by
  unfold lastOf at h
  simpa using List.find?_some h

/-- **One intent.** What its reconciliation returns is the verdict on it. -/
theorem reconcileIntent_judged
    (hintent : r.ledger.memory.intents.get? intent.captureId = some intent)
    (h : reconcileIntent files.finals files.partials r intent = .ok r') :
    Judged (judge files r.ledger.memory intent) intent r r' := by
  unfold reconcileIntent at h
  dsimp only at h
  unfold judge verdict
  cases hfinal : lastOf (·.artifact.captureId) files.finals intent.captureId with
  | some f =>
      rw [hfinal] at h
      dsimp only at h ⊢
      by_cases hvalid : f.integrity = .valid
      · rw [if_neg (not_not.mpr hvalid)] at h ⊢
        cases hartifact : r.ledger.memory.artifacts.get? intent.captureId with
        | none =>
            rw [hartifact] at h
            obtain ⟨l', hcommit, hmark⟩ := bind_ok h
            have hid := lastOf_key hfinal
            exact adopt_judged hid hintent hartifact hcommit hmark
        | some a =>
            rw [hartifact] at h
            dsimp only at h ⊢
            by_cases hmatch : artifactIdentityMatches a f.artifact
            · rw [if_neg (not_not.mpr hmatch)] at h ⊢
              by_cases hstate : intent.state = .acknowledged
              · rw [if_neg (not_not.mpr hstate)] at h
                rw [if_neg (not_not.mpr hstate)]
                cases h
                have hsame : Verdict.onto ⟨.acknowledged, intent.failureCode, some a, [], false⟩
                    intent = intent := by
                  rw [Verdict.onto, ← hstate]
                exact ⟨by rw [hsame]; exact hintent, hartifact, .refl _ _,
                  (List.append_nil _).symm,
                  fun k => ⟨.inl, fun h => h.elim id fun h => absurd h.2 nofun⟩⟩
              · rw [if_pos hstate] at h ⊢
                rw [← hartifact]
                exact mark_judged hintent h
            · rw [if_pos hmatch] at h ⊢
              obtain ⟨r₁, hmark, h⟩ := bind_ok h
              cases h
              have hjudged := (mark_judged hintent hmark).atRisk_of rfl
              rw [hartifact] at hjudged
              exact hjudged
      · rw [if_pos hvalid] at h ⊢
        obtain ⟨r₁, hmark, h⟩ := bind_ok h
        cases h
        exact (mark_judged hintent hmark).atRisk_of rfl
  | none =>
      rw [hfinal] at h
      dsimp only at h ⊢
      cases hresidue : lastOf (·.captureId) files.partials intent.captureId with
      | some p =>
          cases hartifact : r.ledger.memory.artifacts.get? intent.captureId with
          | some a =>
              rw [hresidue, hartifact] at h
              obtain ⟨r₁, hmark, h⟩ := bind_ok h
              cases h
              have hjudged := (mark_judged hintent hmark).atRisk_of rfl
              rw [hartifact] at hjudged
              exact hjudged
          | none =>
              rw [hresidue, hartifact] at h
              have hjudged := mark_judged hintent h
              rw [hartifact] at hjudged
              exact hjudged
      | none =>
          cases hartifact : r.ledger.memory.artifacts.get? intent.captureId with
          | some a =>
              rw [hresidue, hartifact] at h
              obtain ⟨r₁, hmark, h⟩ := bind_ok h
              cases h
              have hjudged := (mark_judged hintent hmark).atRisk_of rfl
              rw [hartifact] at hjudged
              exact hjudged
          | none =>
              rw [hresidue, hartifact] at h
              have hjudged := mark_judged hintent h
              rw [hartifact] at hjudged
              exact hjudged

/-! ## A pass over the intents -/

/-- The verdict on an intent only reads what is kept for its capture. -/
theorem judge_congr {m m' : Memory}
    (h : m'.artifacts.get? intent.captureId = m.artifacts.get? intent.captureId) :
    judge files m' intent = judge files m intent := by
  unfold judge
  rw [h]

/-- What a pass over some intents does to the maps and to the report. -/
structure Swept (files : CaptureResidues) (intents : List CaptureIntent) (r r' : Reconciling) :
    Prop where
  found : ∀ i ∈ intents, r'.ledger.memory.intents.get? i.captureId =
    some ((judge files r.ledger.memory i).onto i)
  artifact : ∀ i ∈ intents, r'.ledger.memory.artifacts.get? i.captureId =
    (judge files r.ledger.memory i).artifact
  elsewhere : ∀ k ∉ intents.map (·.captureId),
    r'.ledger.memory.intents.get? k = r.ledger.memory.intents.get? k ∧
      r'.ledger.memory.artifacts.get? k = r.ledger.memory.artifacts.get? k
  actions : ∀ a, a ∈ r'.actions ↔
    a ∈ r.actions ∨ ∃ i ∈ intents, a ∈ (judge files r.ledger.memory i).actions
  atRisk : ∀ k, k ∈ r'.evidenceAtRisk ↔ k ∈ r.evidenceAtRisk ∨
    ∃ i ∈ intents, k = i.captureId ∧ (judge files r.ledger.memory i).atRisk = true

/-- **Run.** Intents of distinct captures get their verdicts one after another. -/
theorem foldlM_swept (intents : List CaptureIntent)
    (hnodup : (intents.map (·.captureId)).Nodup) {r r' : Reconciling}
    (hintents : ∀ i ∈ intents, r.ledger.memory.intents.get? i.captureId = some i)
    (h : intents.foldlM (reconcileIntent files.finals files.partials) r = .ok r') :
    Swept files intents r r' := by
  induction intents generalizing r with
  | nil =>
      cases h
      exact ⟨nofun, nofun, fun _ _ => ⟨rfl, rfl⟩, fun _ => by simp, fun _ => by simp⟩
  | cons intent intents ih =>
      rw [List.map_cons, List.nodup_cons] at hnodup
      rw [List.foldlM_cons] at h
      obtain ⟨r₁, hfirst, hrest⟩ := bind_ok h
      have hjudged := reconcileIntent_judged (hintents intent List.mem_cons_self) hfirst
      have hne : ∀ other ∈ intents, other.captureId ≠ intent.captureId := by
        intro other hother heq
        exact hnodup.1 (heq ▸ List.mem_map_of_mem hother)
      have hsame : ∀ other ∈ intents,
          judge files r₁.ledger.memory other = judge files r.ledger.memory other :=
        fun other hother => judge_congr (hjudged.elsewhere.artifacts _ (hne other hother))
      have hswept := ih hnodup.2 (r := r₁) (fun other hother => by
        rw [hjudged.elsewhere.intents _ (hne other hother)]
        exact hintents other (List.mem_cons_of_mem _ hother)) hrest
      obtain ⟨hkept, hartifact⟩ := hswept.elsewhere _ hnodup.1
      refine ⟨fun i hi => ?_, fun i hi => ?_, fun k hk => ?_, fun a => ?_, fun k => ?_⟩
      · rcases List.mem_cons.mp hi with rfl | hi
        · rw [hkept, hjudged.found]
        · rw [hswept.found i hi, hsame i hi]
      · rcases List.mem_cons.mp hi with rfl | hi
        · rw [hartifact, hjudged.artifact]
        · rw [hswept.artifact i hi, hsame i hi]
      · rw [List.map_cons, List.mem_cons, not_or] at hk
        obtain ⟨hintent, hartifact⟩ := hswept.elsewhere k hk.2
        exact ⟨hintent.trans (hjudged.elsewhere.intents k hk.1),
          hartifact.trans (hjudged.elsewhere.artifacts k hk.1)⟩
      · rw [hswept.actions, hjudged.actions, List.mem_append, List.exists_mem_cons_iff, or_assoc]
        refine or_congr_right (or_congr_right (exists_congr fun i => and_congr_right fun hi => ?_))
        rw [hsame i hi]
      · rw [hswept.atRisk, hjudged.atRisk, List.exists_mem_cons_iff, or_assoc]
        refine or_congr_right (or_congr_right (exists_congr fun i => and_congr_right fun hi => ?_))
        rw [hsame i hi]

/-- What is quarantined of the captures, and which of them are at risk, is the
same. -/
structure SameReport (ids : List String) (r r' : Reconciling) : Prop where
  instructions : ∀ q : QuarantineInstruction, q.captureId ∈ ids →
    (q ∈ r'.actions.filterMap quarantineInstruction ↔
      q ∈ r.actions.filterMap quarantineInstruction)
  atRisk : ∀ k ∈ ids, (k ∈ r'.evidenceAtRisk ↔ k ∈ r.evidenceAtRisk)

theorem sameReport_foldl {ids : List String} {step : Reconciling → α → Reconciling}
    (hstep : ∀ r a, SameReport ids r (step r a)) (found : List α) (r : Reconciling) :
    SameReport ids r (found.foldl step r) := by
  induction found generalizing r with
  | nil => exact ⟨fun _ _ => .rfl, fun _ _ => .rfl⟩
  | cons a found ih =>
      have hrest := ih (step r a)
      exact ⟨fun q hq => (hrest.instructions q hq).trans ((hstep r a).instructions q hq),
        fun k hk => (hrest.atRisk k hk).trans ((hstep r a).atRisk k hk)⟩

/-- An action about another capture. -/
theorem sameReport_other {ids : List String} {a : ReconciliationAction} {r : Reconciling}
    (ha : ∀ q ∈ quarantineInstruction a, q.captureId ∉ ids) : SameReport ids r (r.report [a]) where
  instructions q hq := by
    show q ∈ (r.actions ++ [a]).filterMap quarantineInstruction ↔ _
    rw [List.filterMap_append, List.mem_append]
    refine ⟨fun h => h.elim id fun h => ?_, .inl⟩
    obtain ⟨b, hb, hqa⟩ := List.mem_filterMap.mp h
    rw [List.mem_singleton.mp hb] at hqa
    exact absurd hq (ha q hqa)
  atRisk _ _ := .rfl

theorem sameReport_otherFinal (ids : List String) (r : Reconciling) (f : FinalFileObservation) :
    SameReport ids r (reconcileForeignFinal ids r f) := by
  unfold reconcileForeignFinal
  dsimp only
  split
  · exact ⟨fun _ _ => .rfl, fun _ _ => .rfl⟩
  · next hid =>
      have hother : SameReport ids r
          (r.report [.quarantine_final f.artifact.captureId "missing_recovery_intent"]) := by
        refine sameReport_other ?_
        rintro q ⟨⟩
        exact hid
      refine ⟨hother.instructions, fun k hk => ?_⟩
      refine mem_addTo.trans ⟨fun h => h.elim id fun h => ?_, .inl⟩
      exact absurd (h ▸ hk) hid

theorem sameReport_otherPartial (ids : List String) (r : Reconciling) (f : PartialFileObservation) :
    SameReport ids r (reconcileForeignPartial ids r f) := by
  unfold reconcileForeignPartial
  split
  · exact ⟨fun _ _ => .rfl, fun _ _ => .rfl⟩
  · next hid =>
      refine sameReport_other ?_
      rintro q ⟨⟩
      exact hid

/-! ## What a startup does to an intent -/

/-- A startup, intent by intent. -/
structure Pass (files : CaptureResidues) (l l₁ : SQLiteLedger) (result : ReconciliationResult)
    (files₁ : CaptureResidues) : Prop where
  found : ∀ id intent, l.memory.intents.get? id = some intent →
    l₁.memory.intents.get? id = some ((judge files l.memory intent).onto intent)
  artifact : ∀ id intent, l.memory.intents.get? id = some intent →
    l₁.memory.artifacts.get? id = (judge files l.memory intent).artifact
  none : ∀ id, l.memory.intents.get? id = none → l₁.memory.intents.get? id = none
  instructions : ∀ id intent, l.memory.intents.get? id = some intent →
    ∀ q : QuarantineInstruction, q.captureId = id →
      (q ∈ result.actions.filterMap quarantineInstruction ↔
        q ∈ (judge files l.memory intent).actions.filterMap quarantineInstruction)
  atRisk : ∀ id intent, l.memory.intents.get? id = some intent →
    (id ∈ result.evidenceAtRisk ↔ (judge files l.memory intent).atRisk = true)
  moved : files₁ =
    (result.actions.filterMap quarantineInstruction).foldl CaptureResidues.quarantine files

/-- The instructions of a verdict are about its capture. -/
theorem judge_captureId {m : Memory} {q : QuarantineInstruction}
    (h : q ∈ (judge files m intent).actions.filterMap quarantineInstruction) :
    q.captureId = intent.captureId := by
  obtain ⟨a, ha, hq⟩ := List.mem_filterMap.mp h
  unfold judge verdict at ha
  dsimp only at ha
  split at ha
  · split at ha
    · cases List.mem_singleton.mp ha
      cases hq
      rfl
    · split at ha
      · cases List.mem_singleton.mp ha
        cases hq
      · split at ha
        · cases List.mem_singleton.mp ha
          cases hq
          rfl
        · dsimp only at ha
          split at ha
          · cases List.mem_singleton.mp ha
            cases hq
          · cases ha
  · split at ha
    · rcases List.mem_cons.mp ha with rfl | ha
      · cases hq
        rfl
      · cases List.mem_singleton.mp ha
        cases hq
    · cases List.mem_singleton.mp ha
      cases hq
      rfl
    · cases List.mem_singleton.mp ha
      cases hq
    · cases List.mem_singleton.mp ha
      cases hq

theorem runStartupCaptureRecovery_ok {l₁ : SQLiteLedger} {result : ReconciliationResult}
    {files₁ : CaptureResidues}
    (h : runStartupCaptureRecovery l files = .ok (l₁, result, files₁)) :
    Pass files l l₁ result files₁ := by
  obtain ⟨⟨l', result'⟩, hreconcile, h⟩ := bind_ok h
  cases h
  obtain ⟨r, hfold, hreturn⟩ := bind_ok hreconcile
  have hintents : ∀ i ∈ l.memory.intents.values, l.memory.intents.get? i.captureId = some i :=
    fun i hi => (l.memory.intents.mem_values_iff i).mp hi
  have hswept := foldlM_swept l.memory.intents.values l.memory.intents.nodup_keys_values
    hintents hfold
  have hforeign := foreign_ledger (l.memory.intents.values.map (·.captureId)) files.finals
    files.partials r
  have hfinals := sameReport_foldl
    (sameReport_otherFinal (l.memory.intents.values.map (·.captureId))) files.finals r
  have hresidues := sameReport_foldl
    (sameReport_otherPartial (l.memory.intents.values.map (·.captureId))) files.partials
    (files.finals.foldl (reconcileForeignFinal (l.memory.intents.values.map (·.captureId))) r)
  cases hreturn
  have hvalue : ∀ {id intent}, l.memory.intents.get? id = some intent →
      intent ∈ l.memory.intents.values ∧ intent.captureId = id := by
    intro id intent hget
    have hkey := Table.key_of_get? hget
    refine ⟨(l.memory.intents.mem_values_iff intent).mpr ?_, hkey⟩
    rw [hkey]
    exact hget
  have hid : ∀ {id intent}, l.memory.intents.get? id = some intent →
      id ∈ l.memory.intents.values.map (·.captureId) := by
    intro id intent hget
    obtain ⟨hmem, hkey⟩ := hvalue hget
    exact List.mem_map.mpr ⟨intent, hmem, hkey⟩
  refine ⟨fun id intent hget => ?_, fun id intent hget => ?_, fun id hnone => ?_,
    fun id intent hget q hq => ?_, fun id intent hget => ?_, rfl⟩
  · obtain ⟨hmem, rfl⟩ := hvalue hget
    rw [hforeign]
    exact hswept.found intent hmem
  · obtain ⟨hmem, rfl⟩ := hvalue hget
    rw [hforeign]
    exact hswept.artifact intent hmem
  · rw [hforeign, (hswept.elsewhere id ?_).1]
    · exact hnone
    · intro hmem
      obtain ⟨i, hi, rfl⟩ := List.mem_map.mp hmem
      exact absurd (hnone.symm.trans (hintents i hi)) nofun
  · rw [hresidues.instructions q (hq ▸ hid hget), hfinals.instructions q (hq ▸ hid hget)]
    obtain ⟨hmem, hkey⟩ := hvalue hget
    rw [List.mem_filterMap, List.mem_filterMap]
    constructor
    · rintro ⟨a, ha, hqa⟩
      rcases (hswept.actions a).mp ha with ha | ⟨i, hi, ha⟩
      · cases ha
      · have hcapture := judge_captureId (List.mem_filterMap.mpr ⟨a, ha, hqa⟩)
        have hsame : l.memory.intents.get? id = some i := by
          rw [← hq, hcapture]
          exact hintents i hi
        cases hget.symm.trans hsame
        exact ⟨a, ha, hqa⟩
    · rintro ⟨a, ha, hqa⟩
      exact ⟨a, (hswept.actions a).mpr (.inr ⟨intent, hmem, ha⟩), hqa⟩
  · rw [hresidues.atRisk id (hid hget), hfinals.atRisk id (hid hget), hswept.atRisk]
    obtain ⟨hmem, hkey⟩ := hvalue hget
    constructor
    · rintro (h | ⟨i, hi, rfl, hrisk⟩)
      · cases h
      · cases hget.symm.trans (hintents i hi)
        exact hrisk
    · exact fun hrisk => .inr ⟨intent, hmem, hkey.symm, hrisk⟩

/-! ## The files of the next startup -/

theorem lastOf_filter (key : α → String) (l : List α) (k id : String) :
    lastOf key (l.filter fun a => key a ≠ k) id = if id = k then none else lastOf key l id := by
  unfold lastOf
  rw [← List.filter_reverse, List.find?_filter]
  split
  · next h =>
      rw [List.find?_eq_none]
      intro a _
      simp only [decide_eq_true_eq, h, ne_eq, not_and_self, not_false_eq_true]
  · next h =>
      congr 1
      funext a
      refine decide_eq_decide.mpr ⟨fun ha => of_decide_eq_true ha.2, fun ha => ?_⟩
      exact ⟨decide_eq_true (ha ▸ h), decide_eq_true ha⟩

/-- One kind of files, once instructions were followed. -/
theorem lastOf_quarantined {key : α → String} {select : CaptureResidues → List α}
    {residue : Residue} (hselect : ∀ (files : CaptureResidues) (q : QuarantineInstruction),
      select (files.quarantine q) =
      if q.residue = residue then (select files).filter fun a => key a ≠ q.captureId
      else select files) (qs : List QuarantineInstruction) (files : CaptureResidues) (id : String) :
    lastOf key (select (qs.foldl CaptureResidues.quarantine files)) id =
      if ∃ q ∈ qs, q.captureId = id ∧ q.residue = residue then none
      else lastOf key (select files) id := by
  induction qs generalizing files with
  | nil => simp
  | cons q qs ih =>
      rw [List.foldl_cons, ih, hselect]
      by_cases hresidue : q.residue = residue
      · rw [if_pos hresidue, lastOf_filter]
        by_cases hid : id = q.captureId
        · simp [hid, hresidue]
        · have hne : ¬ q.captureId = id := fun e => hid e.symm
          simp [hid, hne]
      · simp [hresidue]

theorem lastOf_finals (qs : List QuarantineInstruction) (files : CaptureResidues) (id : String) :
    lastOf (·.artifact.captureId) (qs.foldl CaptureResidues.quarantine files).finals id =
      if ∃ q ∈ qs, q.captureId = id ∧ q.residue = .finals then none
      else lastOf (·.artifact.captureId) files.finals id := by
  refine @lastOf_quarantined _ _ CaptureResidues.finals _ (fun files q => ?_) qs files id
  unfold CaptureResidues.quarantine
  cases q.residue <;> rfl

theorem lastOf_partials (qs : List QuarantineInstruction) (files : CaptureResidues) (id : String) :
    lastOf (·.captureId) (qs.foldl CaptureResidues.quarantine files).partials id =
      if ∃ q ∈ qs, q.captureId = id ∧ q.residue = .partials then none
      else lastOf (·.captureId) files.partials id := by
  refine @lastOf_quarantined _ _ CaptureResidues.partials _ (fun files q => ?_) qs files id
  unfold CaptureResidues.quarantine
  cases q.residue <;> rfl

/-- The verdict has files of this kind moved. -/
@[simp] def Verdict.Moves (v : Verdict) (residue : Residue) : Prop :=
  ∃ q ∈ v.actions.filterMap quarantineInstruction, q.residue = residue

instance (v : Verdict) (residue : Residue) : Decidable (v.Moves residue) :=
  inferInstanceAs (Decidable (∃ q ∈ _, _))

/-- What is found of a capture after its verdict. -/
@[simp] def Verdict.leaves {α : Type} (v : Verdict) (residue : Residue) (found : Option α) :
    Option α :=
  if v.Moves residue then none else found

section

variable {l₁ : SQLiteLedger} {result : ReconciliationResult} {files₁ : CaptureResidues}

/-- The report has the files of a capture moved as its verdict does. -/
theorem Pass.moves_iff (h : Pass files l l₁ result files₁)
    (hget : l.memory.intents.get? intent.captureId = some intent) (residue : Residue) :
    (∃ q ∈ result.actions.filterMap quarantineInstruction,
      q.captureId = intent.captureId ∧ q.residue = residue) ↔
        (judge files l.memory intent).Moves residue := by
  constructor
  · rintro ⟨q, hq, hid, hresidue⟩
    exact ⟨q, (h.instructions _ intent hget q hid).mp hq, hresidue⟩
  · rintro ⟨q, hq, hresidue⟩
    have hid := judge_captureId hq
    exact ⟨q, (h.instructions _ intent hget q hid).mpr hq, hid, hresidue⟩

theorem Pass.finals_next (h : Pass files l l₁ result files₁)
    (hget : l.memory.intents.get? intent.captureId = some intent) :
    lastOf (·.artifact.captureId) files₁.finals intent.captureId =
      (judge files l.memory intent).leaves .finals
        (lastOf (·.artifact.captureId) files.finals intent.captureId) := by
  rw [h.moved, lastOf_finals]
  simp only [Verdict.leaves, h.moves_iff hget]

theorem Pass.partials_next (h : Pass files l l₁ result files₁)
    (hget : l.memory.intents.get? intent.captureId = some intent) :
    lastOf (·.captureId) files₁.partials intent.captureId =
      (judge files l.memory intent).leaves .partials
        (lastOf (·.captureId) files.partials intent.captureId) := by
  rw [h.moved, lastOf_partials]
  simp only [Verdict.leaves, h.moves_iff hget]

end

/-! ## Two verdicts -/

/-- No file of the capture is in the way: the final that was found is valid and
the one the ledger holds, if it holds one, or no file was found at all. -/
def Undisturbed (observedFinal : Option FinalFileObservation)
    (observedPartial : Option PartialFileObservation) (artifact : Option DurableArtifact) : Prop :=
  match observedFinal with
  | some f => f.integrity = .valid ∧ ∀ a ∈ artifact, artifactIdentityMatches a f.artifact
  | none => observedPartial = none

/-- Both verdicts agree on the state, the code and the risk. -/
@[simp] def SameVerdict (v w : Verdict) : Prop :=
  w.state = v.state ∧ w.failureCode = v.failureCode ∧ w.atRisk = v.atRisk

/-- **Two verdicts.** The second one agrees with the first exactly where no file
was in the way. -/
theorem sameVerdict_iff (f : Option FinalFileObservation) (p : Option PartialFileObservation)
    (a : Option DurableArtifact) (intent : CaptureIntent) :
    let v := verdict f p a intent
    SameVerdict v (verdict (v.leaves .finals f) (v.leaves .partials p) v.artifact
      (v.onto intent)) ↔ Undisturbed f p a := by
  cases f with
  | some o =>
      by_cases hvalid : o.integrity = .valid
      · cases a with
        | none =>
            -- the artifact that was adopted is the file
            have hmatch := matches_observed o intent.kind
            simp [verdict, Undisturbed, hvalid, hmatch]
        | some a =>
            by_cases hmatch : artifactIdentityMatches a o.artifact
            · by_cases hstate : intent.state = .acknowledged
              · simp [verdict, Undisturbed, hvalid, hmatch, hstate]
              · simp [verdict, Undisturbed, hvalid, hmatch, hstate]
            · -- the file is moved, and then it is missing
              cases p <;> simp [verdict, Undisturbed, hvalid, hmatch]
      · have hcode : o.integrity = .corrupt ∨ o.integrity = .hash_mismatch := by
          cases h : o.integrity with
          | valid => exact absurd h hvalid
          | corrupt => exact .inl rfl
          | hash_mismatch => exact .inr rfl
        rcases hcode with hcode | hcode <;> cases p <;> cases a <;>
          simp [verdict, Undisturbed, hcode, Integrity.text]
  | none =>
      cases p with
      | some o =>
          -- the partial is moved, and then there is no file
          cases a <;> simp [verdict, Undisturbed]
      | none => cases a <;> simp [verdict, Undisturbed]

/-! ## The second startup returns -/

/-- What the first startup leaves of an intent: a final that is found is the
artifact of an acknowledged capture. -/
def AtRest (files : CaptureResidues) (m : Memory) (intent : CaptureIntent) : Prop :=
  ∀ f, lastOf (·.artifact.captureId) files.finals intent.captureId = some f →
    f.integrity = .valid ∧ intent.state = .acknowledged ∧
      ∃ a, m.artifacts.get? intent.captureId = some a ∧ artifactIdentityMatches a f.artifact

theorem mark_of (hintent : r.ledger.memory.intents.get? intent.captureId = some intent)
    (hstate : state ≠ .acknowledged) :
    ∃ r', r.mark intent.captureId state code actions = .ok r' := by
  unfold Reconciling.mark SQLiteLedger.markIntent
  rw [hintent]
  simp only [if_neg hstate]
  exact ⟨_, rfl⟩

/-- A mark, and the capture among the evidence at risk. -/
theorem mark_atRisk_of {id : String}
    (h : ∃ r', r.mark intent.captureId state code actions = .ok r') :
    ∃ r', (do
      let r ← r.mark intent.captureId state code actions
      return r.atRisk id : Except LedgerError Reconciling) = .ok r' := by
  obtain ⟨r', hr'⟩ := h
  exact ⟨_, bind_of hr' _⟩

theorem reconcileIntent_of
    (hintent : r.ledger.memory.intents.get? intent.captureId = some intent)
    (hrest : AtRest files r.ledger.memory intent) :
    ∃ r', reconcileIntent files.finals files.partials r intent = .ok r' := by
  unfold reconcileIntent
  dsimp only
  cases hfinal : lastOf (·.artifact.captureId) files.finals intent.captureId with
  | some f =>
      obtain ⟨hvalid, hstate, a, hartifact, hmatch⟩ := hrest f hfinal
      dsimp only
      rw [if_neg (not_not.mpr hvalid), hartifact]
      dsimp only
      rw [if_neg (not_not.mpr hmatch), if_neg (not_not.mpr hstate)]
      exact ⟨r, rfl⟩
  | none =>
      dsimp only
      cases lastOf (·.captureId) files.partials intent.captureId with
      | some p =>
          cases r.ledger.memory.artifacts.get? intent.captureId with
          | some a => exact mark_atRisk_of (mark_of hintent nofun)
          | none => exact mark_of hintent nofun
      | none =>
          cases r.ledger.memory.artifacts.get? intent.captureId with
          | some a => exact mark_atRisk_of (mark_of hintent nofun)
          | none => exact mark_of hintent nofun

/-- **Run.** A pass over intents at rest returns. -/
theorem foldlM_of (intents : List CaptureIntent) (hnodup : (intents.map (·.captureId)).Nodup)
    {r : Reconciling}
    (hintents : ∀ i ∈ intents, r.ledger.memory.intents.get? i.captureId = some i)
    (hrest : ∀ i ∈ intents, AtRest files r.ledger.memory i) :
    ∃ r', intents.foldlM (reconcileIntent files.finals files.partials) r = .ok r' := by
  induction intents generalizing r with
  | nil => exact ⟨r, rfl⟩
  | cons intent intents ih =>
      rw [List.map_cons, List.nodup_cons] at hnodup
      obtain ⟨r₁, hfirst⟩ := reconcileIntent_of (hintents intent List.mem_cons_self)
        (hrest intent List.mem_cons_self)
      have helsewhere := (reconcileIntent_judged (hintents intent List.mem_cons_self)
        hfirst).elsewhere
      have hne : ∀ other ∈ intents, other.captureId ≠ intent.captureId := by
        intro other hother heq
        exact hnodup.1 (heq ▸ List.mem_map_of_mem hother)
      obtain ⟨r', hrest'⟩ := ih hnodup.2 (r := r₁)
        (fun other hother => by
          rw [helsewhere.intents _ (hne other hother)]
          exact hintents other (List.mem_cons_of_mem _ hother))
        (fun other hother => by
          unfold AtRest
          rw [helsewhere.artifacts _ (hne other hother)]
          exact hrest other (List.mem_cons_of_mem _ hother))
      refine ⟨r', ?_⟩
      rw [List.foldlM_cons]
      exact (bind_of hfirst _).trans hrest'

/-- What a verdict leaves is at rest. -/
theorem verdict_atRest {f : Option FinalFileObservation} {p : Option PartialFileObservation}
    {a : Option DurableArtifact} {o : FinalFileObservation}
    (h : (verdict f p a intent).leaves .finals f = some o) :
    o.integrity = .valid ∧ (verdict f p a intent).state = .acknowledged ∧
      ∃ b, (verdict f p a intent).artifact = some b ∧ artifactIdentityMatches b o.artifact := by
  cases f with
  | none =>
      unfold Verdict.leaves at h
      split at h <;> cases h
  | some o' =>
      by_cases hvalid : o'.integrity = .valid
      · cases a with
        | none =>
            have hmatch := matches_observed o' intent.kind
            simp_all [verdict]
        | some a =>
            by_cases hmatch : artifactIdentityMatches a o'.artifact
            · simp_all [verdict]
            · simp [verdict, hvalid, hmatch] at h
      · simp [verdict, hvalid] at h

theorem next_startup_returns {l₁ : SQLiteLedger} {result : ReconciliationResult}
    {files₁ : CaptureResidues} (h : Pass files l l₁ result files₁) :
    ∃ l₂ result₂ files₂, runStartupCaptureRecovery l₁ files₁ = .ok (l₂, result₂, files₂) := by
  have hintents : ∀ i ∈ l₁.memory.intents.values, l₁.memory.intents.get? i.captureId = some i :=
    fun i hi => (l₁.memory.intents.mem_values_iff i).mp hi
  have hrest : ∀ i ∈ l₁.memory.intents.values, AtRest files₁ l₁.memory i := by
    intro i hi f hf
    have hfound := hintents i hi
    cases hget : l.memory.intents.get? i.captureId with
    | none => cases (h.none _ hget).symm.trans hfound
    | some intent =>
        have hkey : intent.captureId = i.captureId := Table.key_of_get? hget
        rw [← hkey] at hget hfound hf ⊢
        obtain rfl := Option.some.inj (hfound.symm.trans (h.found _ intent hget))
        rw [h.finals_next hget] at hf
        rw [h.artifact _ intent hget]
        exact verdict_atRest hf
  obtain ⟨r, hfold⟩ := foldlM_of l₁.memory.intents.values
    l₁.memory.intents.nodup_keys_values (r := ⟨l₁, [], []⟩) hintents hrest
  have hreconcile : ∃ out, reconcileCaptureStorage l₁ files₁.finals files₁.partials = .ok out :=
    ⟨_, bind_of hfold _⟩
  obtain ⟨⟨l₂, result₂⟩, hout⟩ := hreconcile
  exact ⟨_, _, _, bind_of hout _⟩

/-! ## The theorem -/

/-- The second startup leaves what the first one made of the capture. -/
structure Unchanged (id : String) (l₁ : SQLiteLedger) (result₁ : ReconciliationResult)
    (l₂ : SQLiteLedger) (result₂ : ReconciliationResult) : Prop where
  state : (l₂.memory.intents.get? id).map (·.state) = (l₁.memory.intents.get? id).map (·.state)
  failureCode : (l₂.memory.intents.get? id).map (·.failureCode) =
    (l₁.memory.intents.get? id).map (·.failureCode)
  atRisk : id ∈ result₂.evidenceAtRisk ↔ id ∈ result₁.evidenceAtRisk

/-- **Recovering twice.** After a startup that returns, the next one on the
files that were left returns too. It changes neither the state nor the code nor
the risk of an intent if and only if the first one found no file of it to move. -/
theorem recovery_repeats_iff {l₁ : SQLiteLedger} {result₁ : ReconciliationResult}
    {files₁ : CaptureResidues}
    (h : runStartupCaptureRecovery l files = .ok (l₁, result₁, files₁)) :
    ∃ l₂ result₂ files₂, runStartupCaptureRecovery l₁ files₁ = .ok (l₂, result₂, files₂) ∧
      ∀ id intent, l.memory.intents.get? id = some intent →
        (Unchanged id l₁ result₁ l₂ result₂ ↔
          Undisturbed (lastOf (·.artifact.captureId) files.finals id)
            (lastOf (·.captureId) files.partials id) (l.memory.artifacts.get? id)) := by
  have hfirst := runStartupCaptureRecovery_ok h
  obtain ⟨l₂, result₂, files₂, hrun⟩ := next_startup_returns hfirst
  have hsecond := runStartupCaptureRecovery_ok hrun
  refine ⟨l₂, result₂, files₂, hrun, fun id intent hget => ?_⟩
  obtain rfl : intent.captureId = id := Table.key_of_get? hget
  have hget₁ := hfirst.found _ intent hget
  have hget₂ := hsecond.found _ _ hget₁
  have hrisk₁ := hfirst.atRisk _ intent hget
  have hrisk₂ := hsecond.atRisk _ _ hget₁
  have hnext : judge files₁ l₁.memory ((judge files l.memory intent).onto intent) =
      verdict
        ((judge files l.memory intent).leaves .finals
          (lastOf (·.artifact.captureId) files.finals intent.captureId))
        ((judge files l.memory intent).leaves .partials
          (lastOf (·.captureId) files.partials intent.captureId))
        (judge files l.memory intent).artifact ((judge files l.memory intent).onto intent) := by
    show verdict (lastOf _ files₁.finals intent.captureId)
      (lastOf _ files₁.partials intent.captureId) (l₁.memory.artifacts.get? intent.captureId) _ = _
    rw [hfirst.finals_next hget, hfirst.partials_next hget, hfirst.artifact _ intent hget]
  refine Iff.trans ?_ (sameVerdict_iff _ _ _ intent)
  rw [hnext] at hget₂ hrisk₂
  constructor
  · rintro ⟨hstate, hcode, hrisk⟩
    rw [hget₁, hget₂] at hstate hcode
    rw [hrisk₁, hrisk₂, Bool.eq_iff_iff.symm] at hrisk
    exact ⟨Option.some.inj hstate, Option.some.inj hcode, hrisk⟩
  · rintro ⟨hstate, hcode, hrisk⟩
    refine ⟨?_, ?_, ?_⟩
    · rw [hget₁, hget₂]
      exact congrArg some hstate
    · rw [hget₁, hget₂]
      exact congrArg some hcode
    · rw [hrisk₁, hrisk₂]
      exact Bool.eq_iff_iff.mp hrisk

namespace Sample

/-- The published file is adopted, and found again. -/
theorem adopted_stays : ∃ l₁ result₁ files₁ l₂ result₂ files₂,
    runStartupCaptureRecovery publishedCapture.ledger ⟨[⟨final, .valid⟩], []⟩ =
      .ok (l₁, result₁, files₁) ∧
    runStartupCaptureRecovery l₁ files₁ = .ok (l₂, result₂, files₂) ∧
    Unchanged "capture" l₁ result₁ l₂ result₂ := by
  have hintent : ∃ intent, publishedCapture.ledger.memory.intents.get? "capture" = some intent :=
    ⟨_, rfl⟩
  obtain ⟨intent, hintent⟩ := hintent
  have hfirst : ∃ l₁ result₁ files₁,
      runStartupCaptureRecovery publishedCapture.ledger ⟨[⟨final, .valid⟩], []⟩ =
        .ok (l₁, result₁, files₁) := ⟨_, _, _, rfl⟩
  obtain ⟨l₁, result₁, files₁, hfirst⟩ := hfirst
  obtain ⟨l₂, result₂, files₂, hrun, hiff⟩ := recovery_repeats_iff hfirst
  refine ⟨l₁, result₁, files₁, l₂, result₂, files₂, hfirst, hrun,
    (hiff "capture" intent hintent).mpr ?_⟩
  exact ⟨rfl, nofun⟩

/-- A file that is corrupt is moved: the capture is at risk, and no longer so at
the next startup. -/
theorem corrupt_forgotten : ∃ l₁ result₁ files₁ l₂ result₂ files₂,
    runStartupCaptureRecovery publishedCapture.ledger ⟨[⟨final, .corrupt⟩], []⟩ =
      .ok (l₁, result₁, files₁) ∧
    runStartupCaptureRecovery l₁ files₁ = .ok (l₂, result₂, files₂) ∧
    (l₁.memory.intents.get? "capture").map (fun i => (i.state, i.failureCode)) =
      some (.evidence_at_risk, some "corrupt") ∧
    "capture" ∈ result₁.evidenceAtRisk ∧
    (l₂.memory.intents.get? "capture").map (fun i => (i.state, i.failureCode)) =
      some (.failed, some "no_file_residue") ∧
    "capture" ∉ result₂.evidenceAtRisk ∧ ¬ Unchanged "capture" l₁ result₁ l₂ result₂ := by
  refine ⟨_, _, _, _, _, _, rfl, rfl, rfl, List.mem_singleton.mpr rfl, rfl, List.not_mem_nil, ?_⟩
  rintro ⟨hstate, -, -⟩
  exact absurd hstate (by decide)

end Sample

end InspectionHub.Capture
