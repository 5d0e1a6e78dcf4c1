import InspectionHub.Lib.Throwing
import InspectionHub.Review.Findings

/-!
# Review of investigation findings

`apps/mobile/src/review/investigation-review.ts`: the review item an inspector
works on, from the draft it was created with to the finding it confirms. Every
operation returns the next item or throws.
-/

namespace InspectionHub.Review

open Domain (ModuleType)
open Throwing (throwIf)

/-! ## Items -/

inductive CheckSeverity where
  | blocking
  | advisory
deriving DecidableEq

inductive CheckState where
  | open
  | resolved
deriving DecidableEq

structure ReviewCheck where
  checkId : String
  code : String
  severity : CheckSeverity
  state : CheckState
  explanation : String
deriving DecidableEq

structure ReviewProvenance where
  packetId : String
  packetRevision : ℚ
  packetHash : String
  sourceRevision : ℚ
  sourceArtifactIds : List String
  transcriptSpanIds : List String
  transcriptUncertainty : List String
  assumptions : List String
deriving DecidableEq

inductive ReviewStatus where
  | awaiting_decision
  | accepted
  | rejected
  | stale
deriving DecidableEq

def ReviewStatus.text : ReviewStatus → String
  | .awaiting_decision => "awaiting_decision"
  | .accepted => "accepted"
  | .rejected => "rejected"
  | .stale => "stale"

inductive DecisionMode where
  | ai_unchanged
  | ai_reverified
  | human_authored
deriving DecidableEq

structure InvestigationReviewItem where
  reviewId : String
  investigationId : String
  module : ModuleType
  status : ReviewStatus
  decisionMode : Option DecisionMode
  finding : ProvisionalFinding
  provenance : ReviewProvenance
  checks : List ReviewCheck
  supersededByVersionId : Option String
  rejectionReason : Option String
deriving DecidableEq

/-! ## Errors -/

inductive ReviewDecisionCode where
  | review_not_actionable
  | review_blocking_check_open
  | review_verifier_not_exact
  | review_module_mismatch
  | review_provenance_mismatch
  | review_ai_edit_path_required
deriving DecidableEq

inductive ReviewError where
  /-- `ReviewDecisionError`. -/
  | decision (code : ReviewDecisionCode) (message : String)
  /-- The validation library's error. -/
  | schema (issues : List Issue)
deriving DecidableEq

/-- `schema.parse(value)`. -/
def parsed {α : Type} (r : Parsed α) : Except ReviewError α := r.mapError .schema

/-! ## Guards -/

def assertActionable (item : InvestigationReviewItem) : Except ReviewError Unit :=
  throwIf (item.status ≠ .awaiting_decision)
    (.decision .review_not_actionable
      ("Review item is " ++ item.status.text ++ " and cannot take that action"))

/-- The verifier result is a pass with the version and the hash of the finding. -/
def ProvisionalFinding.bindsPass (f : ProvisionalFinding) : VerifierResult → Bool
  | .passed pass => pass.draftVersionId = f.versionId && pass.contentHash = f.contentHash
  | _ => false

def assertConfirmableVerifier (finding : ProvisionalFinding) : Except ReviewError Unit :=
  if finding.authorship.origin = .human then
    throwIf (finding.verifier ≠ .not_required)
      (.decision .review_verifier_not_exact
        "Human-authored finding must record that AI verification is not required")
  else
    throwIf (finding.bindsPass finding.verifier = false)
      (.decision .review_verifier_not_exact "AI finding requires an exact current verifier pass")

/-- The sets of the two lists have one size, and the first is within the second. -/
def sameStringSet (left right : List String) : Bool :=
  left.dedup.length = right.dedup.length && left.all fun value => value ∈ right

/-- An AI author drafted from this revision of the packet. -/
def AuthorshipOrigin.ofPacket (packetRevision : ℚ) : AuthorshipOrigin → Bool
  | .human => true
  | .ai _ _ _ authored => authored = packetRevision

def assertProvenanceMatches (finding : ProvisionalFinding) (provenance : ReviewProvenance) :
    Except ReviewError Unit :=
  throwIf
    (¬ Js.isHexDigest provenance.packetHash ∨ ¬ Js.isSafeInteger provenance.packetRevision ∨
      provenance.packetRevision < 1 ∨ ¬ Js.isSafeInteger provenance.sourceRevision ∨
      provenance.sourceRevision < 1 ∨
      ¬ sameStringSet (finding.authorship.sourceArtifactReferences.map (·.artifactId))
        provenance.sourceArtifactIds ∨
      ¬ sameStringSet finding.authorship.transcriptSpanReferences provenance.transcriptSpanIds ∨
      ¬ finding.authorship.origin.ofPacket provenance.packetRevision)
    (.decision .review_provenance_mismatch
      "Review provenance must match the exact draft packet and selected sources")

/-! ## Operations -/

variable (fmt : Formats)

structure CreateInput where
  reviewId : String
  investigationId : String
  finding : ProvisionalFinding
  provenance : ReviewProvenance
  checks : List ReviewCheck

def createInvestigationReviewItem (input : CreateInput) :
    Except ReviewError InvestigationReviewItem := do
  let finding ← parsed (input.finding.parse fmt)
  assertProvenanceMatches finding input.provenance
  return {
    reviewId := input.reviewId
    investigationId := input.investigationId
    module := finding.content.module
    status := match finding.verifier with
      | .stale _ _ _ _ => .stale
      | .rejected _ _ _ _ => .rejected
      | _ => .awaiting_decision
    decisionMode := none
    finding
    provenance := input.provenance
    checks := input.checks
    supersededByVersionId := match finding.verifier with
      | .stale _ _ supersededByVersionId _ => some supersededByVersionId
      | _ => none
    rejectionReason := match finding.verifier with
      | .rejected _ _ reasons _ => some ("; ".intercalate reasons)
      | _ => none }

def resolveReviewCheck (item : InvestigationReviewItem) (checkId : String) :
    Except ReviewError InvestigationReviewItem := do
  assertActionable item
  throwIf (¬ item.checks.any fun check => check.checkId = checkId)
    (.decision .review_not_actionable "Review check does not exist")
  return { item with
    checks := item.checks.map fun check =>
      if check.checkId = checkId then { check with state := .resolved } else check }

def acceptReviewItem (item : InvestigationReviewItem) :
    Except ReviewError InvestigationReviewItem := do
  assertActionable item
  throwIf (item.checks.any fun check => check.severity = .blocking && check.state = .open)
    (.decision .review_blocking_check_open
      "Resolve every blocking investigation check before accepting")
  assertConfirmableVerifier item.finding
  return { item with
    status := .accepted
    decisionMode :=
      if item.finding.authorship.origin = .human then some .human_authored
      else if 1 < item.provenance.sourceRevision then some .ai_reverified
      else some .ai_unchanged }

def rejectReviewItem (item : InvestigationReviewItem) (reason : String) :
    Except ReviewError InvestigationReviewItem := do
  assertActionable item
  throwIf (Js.trim reason = "")
    (.decision .review_not_actionable "A rejection reason is required")
  return { item with status := .rejected, rejectionReason := some (Js.trim reason) }

def markReviewItemStale (item : InvestigationReviewItem)
    (supersededByVersionId recordedAt : String) : Except ReviewError InvestigationReviewItem :=
  if item.status = .rejected then return item
  else do
    let finding ← parsed (ProvisionalFinding.parse fmt
      { item.finding with
        verifier := .stale item.finding.versionId item.finding.contentHash supersededByVersionId
          recordedAt })
    return { item with
      status := .stale
      decisionMode := none
      supersededByVersionId := some supersededByVersionId
      finding }

inductive EditPathway where
  | reverify_ai
  | convert_to_human
deriving DecidableEq

structure EditInput where
  content : FindingContent
  newVersionId : String
  newContentHash : String
  pathway : EditPathway
deriving DecidableEq

/-- The finding an edit makes, before it is parsed. -/
def editedFinding (finding : ProvisionalFinding) (input : EditInput) : ProvisionalFinding :=
  { finding with
    versionId := input.newVersionId
    contentHash := input.newContentHash
    content := input.content
    -- `reverify_ai` reaches this only where the author is already an AI
    authorship := match input.pathway with
      | .convert_to_human => { finding.authorship with origin := .human }
      | .reverify_ai => finding.authorship
    verifier := match input.pathway with
      | .convert_to_human => .not_required
      | .reverify_ai => .pending }

def editReviewItem (item : InvestigationReviewItem) (input : EditInput) :
    Except ReviewError InvestigationReviewItem := do
  assertActionable item
  throwIf (input.content.module ≠ item.module)
    (.decision .review_module_mismatch
      "An edit cannot move a finding between professional modules")
  throwIf (item.finding.authorship.origin = .human ∧ input.pathway = .reverify_ai)
    (.decision .review_ai_edit_path_required
      "A human-authored finding cannot silently become AI-authored")
  throwIf (¬ Js.isHexDigest input.newContentHash)
    (.decision .review_provenance_mismatch
      ("Edited content requires a lowercase SHA-256 hash from the durable content pipeline"))
  let finding ← parsed ((editedFinding item.finding input).parse fmt)
  return { item with
    status := .awaiting_decision
    decisionMode := none
    finding
    provenance := { item.provenance with sourceRevision := item.provenance.sourceRevision + 1 }
    supersededByVersionId := none
    rejectionReason := none }

def recordExactReverification (item : InvestigationReviewItem) (verifier : VerifierResult) :
    Except ReviewError InvestigationReviewItem := do
  assertActionable item
  throwIf (¬ item.finding.authorship.origin.isAi)
    (.decision .review_verifier_not_exact
      "Human-authored findings do not require AI verifier results")
  throwIf (item.finding.bindsPass verifier = false)
    (.decision .review_verifier_not_exact
      "Verifier pass must bind this exact edited version and content hash")
  let finding ← parsed (ProvisionalFinding.parse fmt { item.finding with verifier })
  return { item with finding }

def confirmAcceptedReviewItem (item : InvestigationReviewItem)
    (inspectorAttribution : InspectorAttribution) : Except ReviewError ConfirmedFinding := do
  throwIf (item.status ≠ .accepted)
    (.decision .review_not_actionable
      "Only an accepted current review version can be confirmed")
  assertConfirmableVerifier item.finding
  parsed (ConfirmedFinding.parse fmt
    { toProvisionalFinding := item.finding, inspectorAttribution })

end InspectionHub.Review
