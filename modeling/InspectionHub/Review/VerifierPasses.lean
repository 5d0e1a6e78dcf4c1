import InspectionHub.Lib.TSys
import InspectionHub.Review.InvestigationReview

/-!
# What a verifier pass covers

Runs of a review item: the operations of the inspector in any order, a
verifier that takes the present version at any moment, and the passes it
issued, recorded at any later moment. An operation that throws leaves the item
as it was and is no step.

A pass names the version id and the content hash it is for, both of which the
editor supplies. As long as no edit of an AI draft takes a pair that a pass
was issued for before, a finding is confirmed only by a pass issued since its
last edit.
-/

namespace InspectionHub.Review

open Throwing (bind_ok throwIf_ok)

variable (fmt : Formats)

/-! ## Runs -/

/-- A pass, with the content the verifier was given and the number of edits
the item had seen by then. -/
structure Issued where
  pass : VerifierPass
  content : FindingContent
  edits : Nat
deriving DecidableEq

structure ReviewRun where
  item : InvestigationReviewItem
  edits : Nat
  issued : List Issued
deriving DecidableEq

inductive ReviewAction where
  | resolveCheck (checkId : String)
  | accept
  | reject (reason : String)
  | markStale (supersededByVersionId recordedAt : String)
  | edit (input : EditInput)
  /-- A verifier takes the present version, and will pass it. -/
  | verify (verifierVersion verifiedAt : String)
  /-- The result of a verifier arrives. -/
  | record (verifier : VerifierResult)
deriving DecidableEq

/-- The item after an action, or what the action throws. -/
def perform (item : InvestigationReviewItem) :
    ReviewAction → Except ReviewError InvestigationReviewItem
  | .resolveCheck checkId => resolveReviewCheck item checkId
  | .accept => acceptReviewItem item
  | .reject reason => rejectReviewItem item reason
  | .markStale supersededByVersionId recordedAt =>
      markReviewItemStale fmt item supersededByVersionId recordedAt
  | .edit input => editReviewItem fmt item input
  | .verify _ _ => .ok item
  | .record verifier => recordExactReverification fmt item verifier

namespace ReviewRun

/-- The pass a verifier issues for the present version. -/
def passFor (s : ReviewRun) (verifierVersion verifiedAt : String) : VerifierPass :=
  ⟨s.item.finding.versionId, s.item.finding.contentHash, Js.trim verifierVersion, verifiedAt⟩

def editsAfter (s : ReviewRun) : ReviewAction → Nat
  | .edit _ => s.edits + 1
  | _ => s.edits

def issuedAfter (s : ReviewRun) : ReviewAction → List Issued
  | .verify verifierVersion verifiedAt =>
      s.issued ++ [⟨s.passFor verifierVersion verifiedAt, s.item.finding.content, s.edits⟩]
  | _ => s.issued

/-- The run after an action, or what the action throws. -/
def next (s : ReviewRun) (a : ReviewAction) : Except ReviewError ReviewRun := do
  let item ← perform fmt s.item a
  return ⟨item, s.editsAfter a, s.issuedAfter a⟩

/-- A pass that is recorded was issued, and an issued one passes its schema. -/
def Honest (s : ReviewRun) : ReviewAction → Prop
  | .verify verifierVersion verifiedAt => (s.passFor verifierVersion verifiedAt).issues fmt = []
  | .record (.passed pass) => ∃ i ∈ s.issued, i.pass = pass
  | _ => True

instance (s : ReviewRun) (a : ReviewAction) : Decidable (s.Honest fmt a) :=
  match a with
  | .verify verifierVersion verifiedAt =>
      inferInstanceAs (Decidable ((s.passFor verifierVersion verifiedAt).issues fmt = []))
  | .record (.passed pass) => inferInstanceAs (Decidable (∃ i ∈ s.issued, i.pass = pass))
  | .record .pending | .record (.rejected _ _ _ _) | .record (.stale _ _ _ _)
  | .record .not_required | .resolveCheck _ | .accept | .reject _ | .markStale _ _ | .edit _ =>
      inferInstanceAs (Decidable True)

/-- The run of a new item. A pass its draft came with is for that draft. -/
def start (item : InvestigationReviewItem) : ReviewRun :=
  { item
    edits := 0
    issued := match item.finding.verifier with
      | .passed pass => [⟨pass, item.finding.content, 0⟩]
      | _ => [] }

/-- An edit of an AI draft takes a version id and a content hash that no pass
was issued for. -/
def FreshPair (s : ReviewRun) : ReviewAction → Prop
  | .edit input => input.pathway = .reverify_ai → ∀ i ∈ s.issued,
      ¬ (i.pass.draftVersionId = input.newVersionId ∧ i.pass.contentHash = input.newContentHash)
  | _ => True

instance (s : ReviewRun) (a : ReviewAction) : Decidable (s.FreshPair a) :=
  match a with
  | .edit input =>
      inferInstanceAs (Decidable (input.pathway = .reverify_ai → ∀ i ∈ s.issued,
        ¬ (i.pass.draftVersionId = input.newVersionId ∧
          i.pass.contentHash = input.newContentHash)))
  | .resolveCheck _ | .accept | .reject _ | .markStale _ _ | .verify _ _ | .record _ =>
      inferInstanceAs (Decidable True)

/-- Whatever AI finding the item confirms now, the pass it carries was issued
for the content it confirms, and since the last edit. -/
def PassCovers (s : ReviewRun) : Prop :=
  ∀ inspectorAttribution confirmed,
    confirmAcceptedReviewItem fmt s.item inspectorAttribution = .ok confirmed →
    confirmed.authorship.origin.isAi = true →
    confirmed.content = s.item.finding.content ∧
      ∃ i ∈ s.issued, confirmed.verifier = .passed i.pass ∧ i.content = confirmed.content ∧
        i.edits = s.edits

end ReviewRun

/-- A review item under its operations and its verifier. -/
def reviewing : TSys ReviewRun ReviewAction where
  Init s := ∃ input item, createInvestigationReviewItem fmt input = .ok item ∧ s = .start item
  Step s a s' := s.Honest fmt a ∧ s.next fmt a = .ok s'

/-- The run after some actions, if each is honest, meets `ok` and returns. -/
def follow (ok : ReviewRun → ReviewAction → Prop) [∀ s a, Decidable (ok s a)] :
    ReviewRun → List ReviewAction → Option ReviewRun
  | s, [] => some s
  | s, a :: l =>
      match s.next fmt a with
      | .ok s' => if s.Honest fmt a ∧ ok s a then follow ok s' l else none
      | .error _ => none

theorem follow_reachable {ok : ReviewRun → ReviewAction → Prop} [∀ s a, Decidable (ok s a)]
    {s s' : ReviewRun} {l : List ReviewAction} (h : (reviewing fmt).Reachable ok s)
    (hl : follow fmt ok s l = some s') : (reviewing fmt).Reachable ok s' := by
  induction l generalizing s with
  | nil =>
      cases hl
      exact h
  | cons a l ih =>
      unfold follow at hl
      cases hnext : s.next fmt a with
      | error e => simp only [hnext, reduceCtorEq] at hl
      | ok t =>
          simp only [hnext, Option.ite_none_right_eq_some] at hl
          exact ih (h.step hl.1.2 ⟨hl.1.1, hnext⟩) hl.2

/-! ## What the operations do to the finding -/

theorem parsed_ok {f g : ProvisionalFinding} (h : parsed (f.parse fmt) = .ok g) :
    g = f.trimmed := by
  unfold parsed at h
  cases hf : f.parse fmt with
  | error e =>
      rw [hf] at h
      cases h
  | ok f' =>
      rw [hf] at h
      cases h
      exact (Domain.accept_ok hf).1

theorem create_ok {input : CreateInput} {item : InvestigationReviewItem}
    (h : createInvestigationReviewItem fmt input = .ok item) :
    item.finding = input.finding.trimmed := by
  obtain ⟨finding, hfinding, h⟩ := bind_ok h
  obtain ⟨_, -, h⟩ := bind_ok h
  cases h
  exact parsed_ok fmt hfinding

theorem resolveCheck_ok {item item' : InvestigationReviewItem} {checkId : String}
    (h : resolveReviewCheck item checkId = .ok item') : item'.finding = item.finding := by
  obtain ⟨_, -, h⟩ := bind_ok h
  obtain ⟨_, -, h⟩ := bind_ok h
  cases h
  rfl

theorem accept_ok {item item' : InvestigationReviewItem} (h : acceptReviewItem item = .ok item') :
    item'.finding = item.finding := by
  obtain ⟨_, -, h⟩ := bind_ok h
  obtain ⟨_, -, h⟩ := bind_ok h
  obtain ⟨_, -, h⟩ := bind_ok h
  cases h
  rfl

theorem reject_ok {item item' : InvestigationReviewItem} {reason : String}
    (h : rejectReviewItem item reason = .ok item') : item'.finding = item.finding := by
  obtain ⟨_, -, h⟩ := bind_ok h
  obtain ⟨_, -, h⟩ := bind_ok h
  cases h
  rfl

/-- The finding is unchanged, or carries no pass any more. -/
theorem markStale_ok {item item' : InvestigationReviewItem} {supersededByVersionId : String}
    {recordedAt : String}
    (h : markReviewItemStale fmt item supersededByVersionId recordedAt = .ok item') :
    item' = item ∨ ∃ verifier, (∀ pass, verifier ≠ .passed pass) ∧
      item'.finding = ProvisionalFinding.trimmed { item.finding with verifier } := by
  unfold markReviewItemStale at h
  split at h
  · cases h
    exact .inl rfl
  · obtain ⟨finding, hfinding, h⟩ := bind_ok h
    cases h
    refine .inr ⟨_, ?_, parsed_ok fmt hfinding⟩
    intro pass hpass
    cases hpass

theorem edit_ok {item item' : InvestigationReviewItem} {input : EditInput}
    (h : editReviewItem fmt item input = .ok item') :
    item'.finding = (editedFinding item.finding input).trimmed := by
  obtain ⟨_, -, h⟩ := bind_ok h
  obtain ⟨_, -, h⟩ := bind_ok h
  obtain ⟨_, -, h⟩ := bind_ok h
  obtain ⟨_, -, h⟩ := bind_ok h
  obtain ⟨finding, hfinding, h⟩ := bind_ok h
  cases h
  exact parsed_ok fmt hfinding

variable {verifier : VerifierResult}

theorem bindsPass_eq_true {f : ProvisionalFinding} (h : f.bindsPass verifier = true) :
    ∃ pass, verifier = .passed pass ∧ pass.draftVersionId = f.versionId ∧
      pass.contentHash = f.contentHash := by
  cases verifier with
  | passed pass =>
      rw [ProvisionalFinding.bindsPass, Bool.and_eq_true, decide_eq_true_iff,
        decide_eq_true_iff] at h
      exact ⟨pass, rfl, h⟩
  | pending => cases h
  | rejected => cases h
  | stale => cases h
  | not_required => cases h

theorem record_ok {item item' : InvestigationReviewItem}
    (h : recordExactReverification fmt item verifier = .ok item') :
    ∃ pass, verifier = .passed pass ∧
      item'.finding = ProvisionalFinding.trimmed { item.finding with verifier } := by
  obtain ⟨_, -, h⟩ := bind_ok h
  obtain ⟨_, -, h⟩ := bind_ok h
  obtain ⟨_, hbinds, h⟩ := bind_ok h
  obtain ⟨finding, hfinding, h⟩ := bind_ok h
  cases h
  obtain ⟨pass, hpass, -⟩ := bindsPass_eq_true (by simpa using throwIf_ok hbinds)
  exact ⟨pass, hpass, parsed_ok fmt hfinding⟩

/-- An AI finding is confirmed as it stands, with the pass that binds it. -/
theorem confirm_ok {item : InvestigationReviewItem} {attribution : InspectorAttribution}
    {confirmed : ConfirmedFinding}
    (h : confirmAcceptedReviewItem fmt item attribution = .ok confirmed)
    (hai : confirmed.authorship.origin.isAi = true) :
    confirmed.toProvisionalFinding = item.finding.trimmed ∧
      item.finding.bindsPass item.finding.verifier = true := by
  obtain ⟨_, -, h⟩ := bind_ok h
  obtain ⟨_, hverifier, h⟩ := bind_ok h
  unfold parsed at h
  cases hparse : ConfirmedFinding.parse fmt
      { toProvisionalFinding := item.finding, inspectorAttribution := attribution } with
  | error e =>
      rw [hparse] at h
      cases h
  | ok f =>
      rw [hparse] at h
      cases h
      have hf := (Domain.accept_ok hparse).1
      have htrimmed : confirmed.toProvisionalFinding = item.finding.trimmed := by
        rw [hf]
        rfl
      refine ⟨htrimmed, ?_⟩
      have horigin : item.finding.authorship.origin.isAi = true := by
        rw [htrimmed] at hai
        exact (AuthorshipOrigin.isAi_trimmed _).symm.trans hai
      unfold assertConfirmableVerifier at hverifier
      split at hverifier
      · next hhuman =>
          rw [hhuman] at horigin
          cases horigin
      · simpa using throwIf_ok hverifier

/-! ## Passes of a run -/

namespace ReviewRun

/-- Every pass issued for the present pair was issued for the present content
since the last edit, and the pass the finding carries was issued. -/
structure Bound (s : ReviewRun) : Prop where
  trimmed : s.item.finding.content.trimmed = s.item.finding.content
  covers : ∀ i ∈ s.issued, s.item.finding.authorship.origin.isAi = true →
    i.pass.draftVersionId = s.item.finding.versionId →
    i.pass.contentHash = s.item.finding.contentHash →
    i.content = s.item.finding.content ∧ i.edits = s.edits
  carried : ∀ pass, s.item.finding.verifier = .passed pass → ∃ i ∈ s.issued, i.pass = pass
  passes : ∀ i ∈ s.issued, i.pass.trimmed = i.pass

namespace Bound

variable {fmt} {s : ReviewRun}

theorem passCovers (h : s.Bound) : s.PassCovers fmt := by
  intro attribution confirmed hconfirmed hai
  obtain ⟨htrimmed, hbinds⟩ := confirm_ok fmt hconfirmed hai
  obtain ⟨pass, hverifier, hversion, hhash⟩ := bindsPass_eq_true hbinds
  obtain ⟨i, hi, rfl⟩ := h.carried pass hverifier
  have horigin : s.item.finding.authorship.origin.isAi = true := by
    rw [htrimmed] at hai
    exact (AuthorshipOrigin.isAi_trimmed _).symm.trans hai
  obtain ⟨hcontent, hedits⟩ := h.covers i hi horigin hversion hhash
  have hsame : confirmed.content = s.item.finding.content := by
    rw [htrimmed]
    exact h.trimmed
  refine ⟨hsame, i, hi, ?_, hcontent.trans hsame.symm, hedits⟩
  rw [htrimmed]
  show VerifierResult.trimmed s.item.finding.verifier = _
  rw [hverifier, VerifierResult.trimmed, h.passes i hi]

theorem of_create {input : CreateInput} {item : InvestigationReviewItem}
    (h : createInvestigationReviewItem fmt input = .ok item) : (start item).Bound := by
  have hfinding := create_ok fmt h
  have hissued : ∀ i ∈ (start item).issued,
      item.finding.verifier = .passed i.pass ∧ i.content = item.finding.content ∧ i.edits = 0 := by
    intro i hi
    unfold start at hi
    dsimp only at hi
    split at hi
    · next pass hpass =>
        cases List.mem_singleton.mp hi
        exact ⟨hpass, rfl, rfl⟩
    · cases hi
  refine ⟨?_, fun i hi _ _ _ => (hissued i hi).2, fun pass hpass => ?_, fun i hi => ?_⟩
  · show item.finding.content.trimmed = item.finding.content
    rw [hfinding]
    exact FindingContent.trimmed_trimmed _
  · refine ⟨⟨pass, item.finding.content, 0⟩, ?_, rfl⟩
    have hpass : item.finding.verifier = .passed pass := hpass
    unfold start
    rw [hpass]
    exact List.mem_singleton.mpr rfl
  · have hverifier := (hissued i hi).1
    rw [hfinding] at hverifier
    have htrimmed : VerifierResult.trimmed input.finding.verifier = .passed i.pass := hverifier
    cases hinput : input.finding.verifier with
    | passed pass =>
        rw [hinput] at htrimmed
        rw [← VerifierResult.passed.inj htrimmed]
        exact VerifierPass.trimmed_trimmed pass
    | pending => rw [hinput] at htrimmed; cases htrimmed
    | rejected => rw [hinput] at htrimmed; cases htrimmed
    | stale => rw [hinput] at htrimmed; cases htrimmed
    | not_required => rw [hinput] at htrimmed; cases htrimmed

/-- A step that keeps the pair, the content and the author keeps the bound, if
the pass the finding then carries was issued. -/
theorem frame (h : s.Bound) {item : InvestigationReviewItem}
    (hitem : item.finding = ProvisionalFinding.trimmed { s.item.finding with verifier })
    (hcarried : ∀ pass, verifier = .passed pass → ∃ i ∈ s.issued, i.pass = pass) :
    Bound ⟨item, s.edits, s.issued⟩ := by
  have hcontent : item.finding.content = s.item.finding.content := by
    rw [hitem]
    exact h.trimmed
  refine ⟨?_, fun i hi hai hversion hhash => ?_, fun pass hpass => ?_, h.passes⟩
  · show item.finding.content.trimmed = item.finding.content
    rw [hcontent]
    exact h.trimmed
  · have hai : item.finding.authorship.origin.isAi = true := hai
    have hversion : i.pass.draftVersionId = item.finding.versionId := hversion
    have hhash : i.pass.contentHash = item.finding.contentHash := hhash
    show i.content = item.finding.content ∧ _
    rw [hcontent]
    rw [hitem] at hai hversion hhash
    exact h.covers i hi ((AuthorshipOrigin.isAi_trimmed _).symm.trans hai) hversion hhash
  · have hpass : item.finding.verifier = .passed pass := hpass
    rw [hitem] at hpass
    cases verifier with
    | passed issued =>
        obtain ⟨i, hi, rfl⟩ := hcarried issued rfl
        have htrimmed : i.pass.trimmed = pass := VerifierResult.passed.inj hpass
        exact ⟨i, hi, (h.passes i hi).symm.trans htrimmed⟩
    | pending => cases hpass
    | rejected => cases hpass
    | stale => cases hpass
    | not_required => cases hpass

/-- A step that leaves the finding alone. -/
theorem sameFinding (h : s.Bound) {item : InvestigationReviewItem}
    (hitem : item.finding = s.item.finding) : Bound ⟨item, s.edits, s.issued⟩ := by
  obtain ⟨htrimmed, hcovers, hcarried, hpasses⟩ := h
  rw [← hitem] at htrimmed hcovers hcarried
  exact ⟨htrimmed, hcovers, hcarried, hpasses⟩

/-- The edited version has no pass yet. -/
theorem edited (h : s.Bound) {item : InvestigationReviewItem} {input : EditInput}
    (hitem : item.finding = (editedFinding s.item.finding input).trimmed)
    (hfresh : s.FreshPair (.edit input)) : Bound ⟨item, s.edits + 1, s.issued⟩ := by
  refine ⟨?_, fun i hi hai hversion hhash => ?_, fun pass hpass => ?_, h.passes⟩
  · show item.finding.content.trimmed = item.finding.content
    rw [hitem]
    exact FindingContent.trimmed_trimmed _
  · have hai : item.finding.authorship.origin.isAi = true := hai
    have hversion : i.pass.draftVersionId = item.finding.versionId := hversion
    have hhash : i.pass.contentHash = item.finding.contentHash := hhash
    rw [hitem] at hai hversion hhash
    have hai := (AuthorshipOrigin.isAi_trimmed _).symm.trans hai
    cases hpathway : input.pathway with
    | reverify_ai => exact absurd ⟨hversion, hhash⟩ (hfresh hpathway i hi)
    | convert_to_human =>
        simp only [editedFinding, hpathway] at hai
        cases hai
  · have hpass : item.finding.verifier = .passed pass := hpass
    rw [hitem] at hpass
    simp only [editedFinding, ProvisionalFinding.trimmed] at hpass
    cases hpathway : input.pathway with
    | reverify_ai =>
        rw [hpathway] at hpass
        cases hpass
    | convert_to_human =>
        rw [hpathway] at hpass
        cases hpass

theorem verified (h : s.Bound) (verifierVersion verifiedAt : String) :
    Bound ⟨s.item, s.edits, s.issuedAfter (.verify verifierVersion verifiedAt)⟩ where
  trimmed := h.trimmed
  covers i hi hai hversion hhash := by
    rcases List.mem_append.mp hi with hi | hi
    · exact h.covers i hi hai hversion hhash
    · cases List.mem_singleton.mp hi
      exact ⟨rfl, rfl⟩
  carried pass hpass := by
    obtain ⟨i, hi, hpass⟩ := h.carried pass hpass
    exact ⟨i, List.mem_append_left _ hi, hpass⟩
  passes i hi := by
    rcases List.mem_append.mp hi with hi | hi
    · exact h.passes i hi
    · cases List.mem_singleton.mp hi
      simp [passFor, VerifierPass.trimmed, Js.trim_trim]

end Bound

end ReviewRun

/-- The passes stay bound as long as the edits take fresh pairs. -/
theorem bound_inductive : (reviewing fmt).Inductive ReviewRun.FreshPair ReviewRun.Bound where
  init s hs := by
    obtain ⟨input, item, hcreate, rfl⟩ := hs
    exact .of_create hcreate
  step s a s' h hfresh hstep := by
    obtain ⟨hhonest, hnext⟩ := hstep
    obtain ⟨item, hitem, hnext⟩ := bind_ok hnext
    cases hnext
    cases a with
    | resolveCheck checkId => exact h.sameFinding (resolveCheck_ok hitem)
    | accept => exact h.sameFinding (accept_ok hitem)
    | reject reason => exact h.sameFinding (reject_ok hitem)
    | markStale supersededByVersionId recordedAt =>
        rcases markStale_ok fmt hitem with rfl | ⟨verifier, hnone, hfinding⟩
        · exact h
        · exact h.frame hfinding fun pass hpass => absurd hpass (hnone pass)
    | edit input => exact h.edited (edit_ok fmt hitem) hfresh
    | verify verifierVersion verifiedAt =>
        cases hitem
        exact h.verified verifierVersion verifiedAt
    | record verifier =>
        obtain ⟨pass, rfl, hfinding⟩ := record_ok fmt hitem
        refine h.frame hfinding fun pass' hpass => ?_
        cases hpass
        exact hhonest

/-- **Exact verification.** In a run whose edits of an AI draft never take the
version id and content hash of a pass issued before them, the pass that lets a
finding be confirmed was issued for its present content, since its last edit. -/
theorem verifier_pass_covers (s : ReviewRun)
    (h : (reviewing fmt).Reachable ReviewRun.FreshPair s) : s.PassCovers fmt :=
  ((bound_inductive fmt).invariant h).passCovers

/-- A finding that is confirmed with content no pass was issued for. -/
theorem not_passCovers {s : ReviewRun} {attribution : InspectorAttribution}
    {confirmed : ConfirmedFinding}
    (h : confirmAcceptedReviewItem fmt s.item attribution = .ok confirmed)
    (hai : confirmed.authorship.origin.isAi = true)
    (hother : ∀ i ∈ s.issued, i.content ≠ confirmed.content) : ¬ s.PassCovers fmt := by
  intro hcovers
  obtain ⟨-, i, hi, -, hcontent, -⟩ := hcovers attribution confirmed h hai
  exact hother i hi hcontent

/-! ## Bathroom tiles -/

namespace Sample

def bathroom : String := "60000000-0000-4000-8000-000000000003"

def draftVersion : String := "60000000-0000-4000-8000-000000000004"

def editedVersion : String := "60000000-0000-4000-8000-000000000005"

def time : String := "2026-07-15T04:00:00.000Z"

def formats : Formats where
  uuid s := s = bathroom ∨ s = draftVersion ∨ s = editedVersion
  datetime s := s = time

def digest (c : Char) : String := String.ofList (List.replicate 64 c)

/-- The content with the given observation. -/
def observed (observation : String) : FindingContent :=
  .building
    { location := "Bathroom"
      observation
      apparentExtent := "Floor"
      qualifiedOpinion := "Movement"
      uncertainty := []
      furtherInvestigation := none }
    .major_defect

def firstPass : VerifierPass := ⟨draftVersion, digest 'c', "v1", time⟩

def secondPass : VerifierPass := ⟨editedVersion, digest 'd', "v1", time⟩

/-- A draft with the pass it was verified by. -/
def created : CreateInput where
  reviewId := bathroom
  investigationId := bathroom
  finding :=
    { findingId := bathroom
      versionId := draftVersion
      organizationId := bathroom
      jobId := bathroom
      moduleId := bathroom
      contentHash := digest 'c'
      content := observed "Cracked tiles"
      authorship :=
        { origin := .ai "model" "v1" [] 1
          sourceArtifactReferences := [.original bathroom (digest 'a')]
          transcriptSpanReferences := [] }
      verifier := .passed firstPass }
  provenance :=
    { packetId := bathroom
      packetRevision := 1
      packetHash := digest 'b'
      sourceRevision := 1
      sourceArtifactIds := [bathroom]
      transcriptSpanIds := []
      transcriptUncertainty := []
      assumptions := [] }
  checks := []

def inspector : InspectorAttribution := ⟨bathroom, "Inspector", "v1", time⟩

/-- An edit that keeps the version id and the content hash. -/
def keptPair : EditInput := ⟨observed "Sound tiles", draftVersion, digest 'c', .reverify_ai⟩

def newPair : EditInput := ⟨observed "Sound tiles", editedVersion, digest 'd', .reverify_ai⟩

/-- The item as it was created. -/
def item : InvestigationReviewItem :=
  (createInvestigationReviewItem formats created).toOption.getD
    ⟨"", "", .building, .stale, none, created.finding, created.provenance, [], none, none⟩

theorem item_created : createInvestigationReviewItem formats created = .ok item := by
  decide +kernel

theorem start_reachable (ok : ReviewRun → ReviewAction → Prop) :
    (reviewing formats).Reachable ok (.start item) :=
  .init ⟨created, item, item_created, rfl⟩

/-- Kept pair, old pass, accepted. -/
def reused : ReviewRun :=
  (follow formats TSys.any (.start item)
    [.edit keptPair, .record (.passed firstPass), .accept]).getD (.start item)

theorem reused_reachable : (reviewing formats).Reachable TSys.any reused :=
  follow_reachable formats (start_reachable TSys.any)
    (l := [.edit keptPair, .record (.passed firstPass), .accept]) (by decide +kernel)

/-- New pair, new pass, accepted. -/
def reverified : ReviewRun :=
  (follow formats ReviewRun.FreshPair (.start item)
    [.edit newPair, .verify "v1" time,
      .record (.passed secondPass), .accept]).getD (.start item)

theorem reverified_reachable : (reviewing formats).Reachable ReviewRun.FreshPair reverified :=
  follow_reachable formats (start_reachable ReviewRun.FreshPair)
    (l := [.edit newPair, .verify "v1" time,
      .record (.passed secondPass), .accept]) (by decide +kernel)

def confirmed : ConfirmedFinding := ⟨reused.item.finding, inspector⟩

/-- The pass for the cracked tiles confirms the sound ones. -/
theorem reused_pass_confirms :
    ¬ ∀ s, (reviewing formats).Reachable TSys.any s → s.PassCovers formats := by
  intro hall
  have hconfirmed : confirmAcceptedReviewItem formats reused.item inspector = .ok confirmed ∧
      confirmed.authorship.origin.isAi = true ∧
      ∀ i ∈ reused.issued, i.content ≠ confirmed.content := by
    decide +kernel
  obtain ⟨hok, hai, hother⟩ := hconfirmed
  exact not_passCovers formats hok hai hother (hall reused reused_reachable)

theorem reverified_covers : reverified.PassCovers formats :=
  verifier_pass_covers formats reverified reverified_reachable

end Sample

end InspectionHub.Review
