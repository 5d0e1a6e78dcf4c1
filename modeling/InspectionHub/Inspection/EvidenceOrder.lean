import InspectionHub.Inspection.InvestigationLaws
import InspectionHub.Inspection.Packet
import InspectionHub.Lib.Sorting

/-!
# The order of the evidence

Uploads arrive out of order. A batch is attached in the order of capture,
which tells its artifacts apart, so the order they are given in does not show
in the investigation (`evidence_order`). What is read in the order of capture
is the evidence, strictly sorted: of two pieces captured alike the one linked
first comes first.
-/

namespace InspectionHub.Inspection

open Domain

variable {host : Js.Host} {s : Investigation}

/-! ## The comparisons -/

theorem transCmp_captureOrder [Std.TransCmp host.localeCompare] :
    Std.TransCmp (compareCaptureOrder host) := by
  have hcapturedAt : Std.TransCmp fun a b : EvidenceAttachmentInput =>
      host.localeCompare a.capturedAt b.capturedAt :=
    Sorting.transCmp_comap EvidenceAttachmentInput.capturedAt
  have hartifactId : Std.TransCmp fun a b : EvidenceAttachmentInput =>
      host.localeCompare a.artifactId b.artifactId :=
    Sorting.transCmp_comap EvidenceAttachmentInput.artifactId
  exact inferInstanceAs (Std.TransCmp (compareLex _
    (compareLex (compareOn EvidenceAttachmentInput.captureSequence) _)))

theorem transCmp_evidenceOrder [Std.TransCmp host.localeCompare] :
    Std.TransCmp (compareEvidenceOrder host) := by
  have hcapturedAt : Std.TransCmp fun a b : InvestigationEvidence =>
      host.localeCompare a.capturedAt b.capturedAt :=
    Sorting.transCmp_comap InvestigationEvidence.capturedAt
  exact inferInstanceAs (Std.TransCmp (compareLex _
    (compareLex (compareOn InvestigationEvidence.captureSequence)
      (compareOn InvestigationEvidence.linkOrdinal))))

/-- Inputs that come level are of one artifact. -/
theorem artifactId_eq [Std.LawfulEqCmp host.localeCompare] {a b : EvidenceAttachmentInput}
    (h : compareCaptureOrder host a b = .eq) : a.artifactId = b.artifactId := by
  obtain ⟨-, hrest⟩ := Ordering.then_eq_eq.mp h
  obtain ⟨-, hartifact⟩ := Ordering.then_eq_eq.mp hrest
  exact Std.LawfulEqCmp.eq_of_compare hartifact

/-- Evidence that comes level has one link ordinal. -/
theorem linkOrdinal_eq {a b : InvestigationEvidence} (h : compareEvidenceOrder host a b = .eq) :
    a.linkOrdinal = b.linkOrdinal := by
  obtain ⟨-, hrest⟩ := Ordering.then_eq_eq.mp h
  obtain ⟨-, hordinal⟩ := Ordering.then_eq_eq.mp hrest
  exact Std.LawfulEqCmp.eq_of_compare hordinal

/-! ## Batches -/

/-- The batch is of the job, and new. -/
theorem checkArtifacts_iff (seen : List String) (artifacts : List EvidenceAttachmentInput) :
    checkArtifacts s seen artifacts = .ok () ↔
      (∀ a ∈ artifacts, a.jobId = s.jobId ∧ a.artifactId ∉ s.evidence.map (·.artifactId) ∧
        a.artifactId ∉ seen) ∧ (artifacts.map (·.artifactId)).Nodup := by
  constructor
  · intro h
    obtain ⟨hnew, hnodup⟩ := checkArtifacts_ok h
    refine ⟨fun a ha => ⟨?_, hnew a ha⟩, hnodup⟩
    clear hnew hnodup
    induction artifacts generalizing seen with
    | nil => cases ha
    | cons first rest ih =>
        unfold checkArtifacts at h
        obtain ⟨_, hjob, h⟩ := bind_ok h
        obtain ⟨_, -, h⟩ := bind_ok h
        rcases List.mem_cons.mp ha with rfl | ha
        · exact require_ok hjob
        · exact ih _ h ha
  · rintro ⟨hall, hnodup⟩
    induction artifacts generalizing seen with
    | nil => rfl
    | cons first rest ih =>
        obtain ⟨hjob, hattached, hseen⟩ := hall first List.mem_cons_self
        obtain ⟨hfirst, hrest⟩ := List.nodup_cons.mp hnodup
        unfold checkArtifacts
        rw [bind_of (require_of hjob _ _ _),
          bind_of (require_of (not_or.mpr ⟨hattached, hseen⟩) _ _ _)]
        refine ih _ (fun a ha => ?_) hrest
        obtain ⟨hjob', hattached', hseen'⟩ := hall a (List.mem_cons_of_mem _ ha)
        refine ⟨hjob', hattached', fun hmem => ?_⟩
        rcases List.mem_append.mp hmem with hmem | hmem
        · exact hseen' hmem
        · refine hfirst (List.mem_map.mpr ⟨a, ha, ?_⟩)
          exact List.mem_singleton.mp hmem

theorem checkArtifacts_perm {artifacts artifacts' : List EvidenceAttachmentInput}
    (h : artifacts.Perm artifacts') (seen : List String) :
    checkArtifacts s seen artifacts = .ok () ↔ checkArtifacts s seen artifacts' = .ok () := by
  rw [checkArtifacts_iff, checkArtifacts_iff, (h.map _).nodup_iff]
  simp only [h.mem_iff]

theorem sorted_perm (host : Js.Host) [Std.TransCmp host.localeCompare]
    [Std.LawfulEqCmp host.localeCompare]
    {artifacts artifacts' : List EvidenceAttachmentInput} (h : artifacts.Perm artifacts')
    (hnodup : (artifacts.map (·.artifactId)).Nodup) :
    Sorting.sortBy (compareCaptureOrder host) artifacts =
      Sorting.sortBy (compareCaptureOrder host) artifacts' := by
  have hcmp : Std.TransCmp (compareCaptureOrder host) := transCmp_captureOrder
  refine Sorting.sortBy_congr h fun a ha b hb heq => ?_
  exact List.inj_on_of_nodup_map hnodup ha hb (artifactId_eq heq)

/-- A batch that is accepted is accepted in any order, with the same result. -/
theorem attach_perm [Std.TransCmp host.localeCompare] [Std.LawfulEqCmp host.localeCompare]
    (command : AttachEvidence) {artifacts : List EvidenceAttachmentInput}
    (h : command.artifacts.Perm artifacts) {s' : Investigation}
    (hs : attachInvestigationEvidence host s command = .ok s') :
    attachInvestigationEvidence host s { command with artifacts := artifacts } = .ok s' := by
  unfold attachInvestigationEvidence at hs ⊢
  obtain ⟨u, hwritable, hs⟩ := bind_ok hs
  obtain ⟨u', hsome, hs⟩ := bind_ok hs
  obtain ⟨⟨⟩, hchecked, hs⟩ := bind_ok hs
  have hsome' : artifacts ≠ [] := by
    rintro rfl
    exact require_ok hsome h.eq_nil
  have hchecked' := (checkArtifacts_perm h []).mp hchecked
  have hsorted := sorted_perm host h ((checkArtifacts_iff _ _).mp hchecked).2
  rw [bind_of hwritable, bind_of (require_of hsome' _ _ _), bind_of hchecked', ← hs]
  show pure (advance _) = pure (advance _)
  unfold Sorting.sortBy at hsorted
  simp only [hsorted]
  rfl

/-! ## The main result -/

variable (host) in
theorem attach_perm_iff [Std.TransCmp host.localeCompare] [Std.LawfulEqCmp host.localeCompare]
    {command : AttachEvidence} {artifacts : List EvidenceAttachmentInput}
    (h : command.artifacts.Perm artifacts) (s' : Investigation) :
    attachInvestigationEvidence host s command = .ok s' ↔
      attachInvestigationEvidence host s { command with artifacts := artifacts } = .ok s' :=
  ⟨attach_perm command h, attach_perm { command with artifacts := artifacts } h.symm⟩

theorem linkOrdinals_nodup (hi : InvestigationInv s) : (s.evidence.map (·.linkOrdinal)).Nodup := by
  rw [hi.linkOrdinals]
  exact List.nodup_range'

/-- The evidence, strictly sorted: pieces that come level carry one link ordinal. -/
theorem ordered_sorted [Std.TransCmp host.localeCompare] (hi : InvestigationInv s) :
    (orderedInvestigationEvidence host s).Pairwise
      fun a b => compareEvidenceOrder host a b = .lt := by
  have hcmp : Std.TransCmp (compareEvidenceOrder host) := transCmp_evidenceOrder
  have hperm := Sorting.sortBy_perm (compareEvidenceOrder host) s.evidence
  have hsorted := Sorting.sortBy_sorted (compareEvidenceOrder host) s.evidence
  have hdistinct := (hperm.map (·.linkOrdinal)).nodup_iff.mpr (linkOrdinals_nodup hi)
  refine (hsorted.and (List.pairwise_map.mp hdistinct)).imp fun {a b} hab => ?_
  obtain ⟨hle, hne⟩ := hab
  cases hc : compareEvidenceOrder host a b with
  | lt => rfl
  | eq => exact absurd (linkOrdinal_eq hc) hne
  | gt => exact absurd hc hle

/-- **The order of the evidence.** Under a collation that is a total order and equal on equal
strings only, a batch gives the same investigation in whichever order its artifacts are
listed, or is rejected in each; and the evidence of an investigation that a run can reach,
read in the order of capture, is that evidence strictly sorted. -/
theorem evidence_order (host : Js.Host) [Std.TransCmp host.localeCompare]
    [Std.LawfulEqCmp host.localeCompare] :
    (∀ (state : Investigation) (command : AttachEvidence)
        (artifacts : List EvidenceAttachmentInput), command.artifacts.Perm artifacts →
      ∀ state', attachInvestigationEvidence host state command = .ok state' ↔
        attachInvestigationEvidence host state { command with artifacts := artifacts } =
          .ok state') ∧
    ∀ v, (investigationSystem host).Reachable TSys.any v →
      (orderedInvestigationEvidence host v.state).Perm v.state.evidence ∧
        (orderedInvestigationEvidence host v.state).Pairwise
          fun a b => compareEvidenceOrder host a b = .lt := by
  refine ⟨fun state command artifacts hperm => attach_perm_iff host hperm, fun v hv => ?_⟩
  obtain ⟨hi, -, -⟩ := investigation_laws hv
  exact ⟨Sorting.sortBy_perm _ _, ordered_sorted hi⟩

namespace Sample

def photo (artifactId capturedAt : String) : EvidenceAttachmentInput where
  artifactId := artifactId
  artifactKind := .photo
  captureAreaId := "area-roof-void"
  capturedAt := capturedAt
  captureSequence := 1
  jobId := "job"

/-- Two photos of a burst, the later one uploaded first. -/
def burst : AttachEvidence where
  expectedRevision := 0
  artifacts := [photo "artifact-b" "2026-07-14T08:30:02.000+10:00",
    photo "artifact-a" "2026-07-14T08:30:01.000+10:00"]
  attachedAt := "2026-07-14T08:35:00.000+10:00"
  inspectorId := "inspector"
  source := .captured_during_investigation

/-- The session that attached them. -/
def attached : Session := (Session.mk started 0).next .plain (.attachEvidence burst)

theorem evidence_order_burst :
    (∀ state', attachInvestigationEvidence .plain started burst = .ok state' ↔
      attachInvestigationEvidence .plain started
        { burst with artifacts := burst.artifacts.reverse } = .ok state') ∧
    (orderedInvestigationEvidence .plain attached.state).Perm attached.state.evidence ∧
      (orderedInvestigationEvidence .plain attached.state).Pairwise
        fun a b => compareEvidenceOrder .plain a b = .lt := by
  have htrans : Std.TransCmp Js.Host.plain.localeCompare :=
    inferInstanceAs (Std.TransCmp (compare : String → String → Ordering))
  have hlawful : Std.LawfulEqCmp Js.Host.plain.localeCompare :=
    inferInstanceAs (Std.LawfulEqCmp (compare : String → String → Ordering))
  have hinit : (investigationSystem .plain).Init ⟨started, 0⟩ := ⟨⟨startCommand, rfl⟩, rfl⟩
  obtain ⟨hattach, hordered⟩ := evidence_order .plain
  exact ⟨hattach started burst _ (List.reverse_perm _).symm,
    hordered attached ((TSys.Reachable.init hinit).step trivial rfl)⟩

end Sample

end InspectionHub.Inspection
