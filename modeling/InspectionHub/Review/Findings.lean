import InspectionHub.Domain.ModuleState

/-!
# Findings under review

`packages/contracts/src/findings.ts`: a provisional finding, who wrote it, the
verifier result it carries, and the schemas it passes. What a schema returns
is its input with the texts trimmed.
-/

namespace InspectionHub.Review

open Domain (ModuleType accept failing hashField nonEmptyTextField)

/-! ## Content -/

inductive BuildingClassification where
  | major_defect
  | minor_defect
  | safety_hazard
  | other_building_condition
deriving DecidableEq

inductive TimberPestCategory where
  | visible_evidence
  | timber_damage
  | conducive_condition
  | no_visible_evidence
deriving DecidableEq

/-- `ProfessionalContentFields`. -/
structure ProfessionalContent where
  location : String
  observation : String
  apparentExtent : String
  qualifiedOpinion : String
  uncertainty : List String
  furtherInvestigation : Option String
deriving DecidableEq

inductive FindingContent where
  | building (fields : ProfessionalContent) (classification : BuildingClassification)
  | timber_pest (fields : ProfessionalContent) (category : TimberPestCategory)
deriving DecidableEq

def FindingContent.module : FindingContent → ModuleType
  | .building _ _ => .building
  | .timber_pest _ _ => .timber_pest

/-! ## Authorship -/

inductive Transformation where
  | annotation
  | crop
  | compression_proxy
  | safe_proxy
  | caption_render
deriving DecidableEq

inductive ArtifactReference where
  | original (artifactId contentHash : String)
  | derivative (artifactId contentHash parentArtifactId : String) (transformation : Transformation)
deriving DecidableEq

def ArtifactReference.artifactId : ArtifactReference → String
  | .original id _ => id
  | .derivative id _ _ _ => id

inductive AuthorshipOrigin where
  | human
  | ai (model promptVersion : String) (skillVersions : List String) (packetRevision : Int)
deriving DecidableEq

structure Authorship where
  origin : AuthorshipOrigin
  sourceArtifactReferences : List ArtifactReference
  transcriptSpanReferences : List String
deriving DecidableEq

/-- `authorship.origin === "ai"` -/
def AuthorshipOrigin.isAi : AuthorshipOrigin → Bool
  | .human => false
  | .ai _ _ _ _ => true

/-! ## Verifier results -/

/-- `VerifierPassedSchema`. -/
structure VerifierPass where
  draftVersionId : String
  contentHash : String
  verifierVersion : String
  verifiedAt : String
deriving DecidableEq

inductive VerifierResult where
  | pending
  | passed (pass : VerifierPass)
  | rejected (draftVersionId contentHash : String) (reasons : List String) (verifiedAt : String)
  | stale (draftVersionId contentHash supersededByVersionId recordedAt : String)
  | not_required
deriving DecidableEq

/-! ## Findings -/

structure ProvisionalFinding where
  findingId : String
  versionId : String
  organizationId : String
  jobId : String
  moduleId : String
  contentHash : String
  content : FindingContent
  authorship : Authorship
  verifier : VerifierResult
deriving DecidableEq

structure InspectorAttribution where
  inspectorId : String
  displayName : String
  credentialVersion : String
  confirmedAt : String
deriving DecidableEq

/-- A finding whose status is `confirmed`. -/
structure ConfirmedFinding extends ProvisionalFinding where
  inspectorAttribution : InspectorAttribution
deriving DecidableEq

/-! ## What the schemas return -/

def ProfessionalContent.trimmed (c : ProfessionalContent) : ProfessionalContent :=
  { location := Js.trim c.location
    observation := Js.trim c.observation
    apparentExtent := Js.trim c.apparentExtent
    qualifiedOpinion := Js.trim c.qualifiedOpinion
    uncertainty := c.uncertainty.map Js.trim
    furtherInvestigation := c.furtherInvestigation.map Js.trim }

def FindingContent.trimmed : FindingContent → FindingContent
  | .building fields classification => .building fields.trimmed classification
  | .timber_pest fields category => .timber_pest fields.trimmed category

def AuthorshipOrigin.trimmed : AuthorshipOrigin → AuthorshipOrigin
  | .human => .human
  | .ai model promptVersion skillVersions packetRevision =>
      .ai (Js.trim model) (Js.trim promptVersion) (skillVersions.map Js.trim) packetRevision

def Authorship.trimmed (a : Authorship) : Authorship := { a with origin := a.origin.trimmed }

def VerifierPass.trimmed (p : VerifierPass) : VerifierPass :=
  { p with verifierVersion := Js.trim p.verifierVersion }

def VerifierResult.trimmed : VerifierResult → VerifierResult
  | .passed pass => .passed pass.trimmed
  | .rejected draftVersionId contentHash reasons verifiedAt =>
      .rejected draftVersionId contentHash (reasons.map Js.trim) verifiedAt
  | result => result

def ProvisionalFinding.trimmed (f : ProvisionalFinding) : ProvisionalFinding :=
  { f with
    content := f.content.trimmed
    authorship := f.authorship.trimmed
    verifier := f.verifier.trimmed }

def InspectorAttribution.trimmed (a : InspectorAttribution) : InspectorAttribution :=
  { a with
    displayName := Js.trim a.displayName
    credentialVersion := Js.trim a.credentialVersion }

def ConfirmedFinding.trimmed (f : ConfirmedFinding) : ConfirmedFinding :=
  { toProvisionalFinding := f.toProvisionalFinding.trimmed
    inspectorAttribution := f.inspectorAttribution.trimmed }

/-! ## What the schemas object to -/

variable (fmt : Formats)

def idField (k s : String) : List Issue := failing k none (fmt.uuid s)

def timestampField (k s : String) : List Issue := failing k none (fmt.datetime s)

/-- `z.string().trim().min(1).max(200)`. -/
def shortTextField (k s : String) : List Issue :=
  failing k none (1 ≤ Js.length (Js.trim s) && Js.length (Js.trim s) ≤ 200)

/-- Issues below the property `k`. -/
def below (k : String) (issues : List Issue) : List Issue :=
  issues.map fun e => ⟨.name k :: e.path, e.message⟩

/-- The issues of the elements of the array `k`, and of its size. -/
def arrayField {α : Type} (size : Nat → Bool) (issues : α → List Issue) (k : String)
    (l : List α) : List Issue :=
  below k (l.mapIdx fun i a => (issues a).map fun e => ⟨.index i :: e.path, e.message⟩).flatten ++
    failing k none (size l.length)

/-- The issue, if any, of a value with no name of its own. -/
def unnamed (ok : Bool) : List Issue := if ok then [] else [⟨[], none⟩]

def nonEmptyText (s : String) : Bool :=
  1 ≤ Js.length (Js.trim s) && Js.length (Js.trim s) ≤ 4000

def ProfessionalContent.issues (c : ProfessionalContent) : List Issue :=
  nonEmptyTextField "location" c.location ++ nonEmptyTextField "observation" c.observation ++
    nonEmptyTextField "apparentExtent" c.apparentExtent ++
    nonEmptyTextField "qualifiedOpinion" c.qualifiedOpinion ++
    arrayField (· ≤ 50) (unnamed ∘ nonEmptyText) "uncertainty" c.uncertainty ++
    (c.furtherInvestigation.toList.map (nonEmptyTextField "furtherInvestigation")).flatten

def FindingContent.issues : FindingContent → List Issue
  | .building fields _ => fields.issues
  | .timber_pest fields _ => fields.issues

def ArtifactReference.issues : ArtifactReference → List Issue
  | .original artifactId contentHash =>
      idField fmt "artifactId" artifactId ++ hashField "contentHash" contentHash
  | .derivative artifactId contentHash parentArtifactId _ =>
      idField fmt "artifactId" artifactId ++ hashField "contentHash" contentHash ++
        idField fmt "parentArtifactId" parentArtifactId

def AuthorshipOrigin.issues : AuthorshipOrigin → List Issue
  | .human => []
  | .ai model promptVersion skillVersions packetRevision =>
      shortTextField "model" model ++ shortTextField "promptVersion" promptVersion ++
        arrayField (fun _ => true)
          (fun s => unnamed (1 ≤ Js.length (Js.trim s) && Js.length (Js.trim s) ≤ 200))
          "skillVersions" skillVersions ++
        failing "packetRevision" none (1 ≤ packetRevision && packetRevision ≤ 2 ^ 53 - 1)

def Authorship.issues (a : Authorship) : List Issue :=
  a.origin.issues ++
    arrayField (1 ≤ ·) (ArtifactReference.issues fmt) "sourceArtifactReferences"
      a.sourceArtifactReferences ++
    arrayField (fun _ => true) (unnamed ∘ fmt.uuid) "transcriptSpanReferences"
      a.transcriptSpanReferences

def VerifierPass.issues (p : VerifierPass) : List Issue :=
  idField fmt "draftVersionId" p.draftVersionId ++ hashField "contentHash" p.contentHash ++
    shortTextField "verifierVersion" p.verifierVersion ++
    timestampField fmt "verifiedAt" p.verifiedAt

def VerifierResult.issues : VerifierResult → List Issue
  | .pending | .not_required => []
  | .passed pass => pass.issues fmt
  | .rejected draftVersionId contentHash reasons verifiedAt =>
      idField fmt "draftVersionId" draftVersionId ++ hashField "contentHash" contentHash ++
        arrayField (1 ≤ ·) (unnamed ∘ nonEmptyText) "reasons" reasons ++
        timestampField fmt "verifiedAt" verifiedAt
  | .stale draftVersionId contentHash supersededByVersionId recordedAt =>
      idField fmt "draftVersionId" draftVersionId ++ hashField "contentHash" contentHash ++
        idField fmt "supersededByVersionId" supersededByVersionId ++
        timestampField fmt "recordedAt" recordedAt

/-- `FindingIdentityFields`, then the content and the authorship. -/
def ProvisionalFinding.authoredIssues (f : ProvisionalFinding) : List Issue :=
  idField fmt "findingId" f.findingId ++ idField fmt "versionId" f.versionId ++
    idField fmt "organizationId" f.organizationId ++ idField fmt "jobId" f.jobId ++
    idField fmt "moduleId" f.moduleId ++ hashField "contentHash" f.contentHash ++
    below "content" f.content.issues ++ below "authorship" (f.authorship.issues fmt)

def ProvisionalFinding.issues (f : ProvisionalFinding) : List Issue :=
  f.authoredIssues fmt ++ below "verifier" (f.verifier.issues fmt)

def InspectorAttribution.issues (a : InspectorAttribution) : List Issue :=
  idField fmt "inspectorId" a.inspectorId ++ shortTextField "displayName" a.displayName ++
    shortTextField "credentialVersion" a.credentialVersion ++
    timestampField fmt "confirmedAt" a.confirmedAt

def validateConfirmation (value : ProvisionalFinding) : List Issue :=
  if value.authorship.origin.isAi then
    match value.verifier with
    | .passed pass =>
        if pass.draftVersionId ≠ value.versionId ∨ pass.contentHash ≠ value.contentHash then
          [⟨[.name "verifier"],
            some "Verifier result does not match the exact confirmed version and content hash"⟩]
        else []
    | _ =>
        [⟨[.name "verifier", .name "status"],
          some "AI-authored findings require a verifier pass for the exact confirmed version"⟩]
  else if value.verifier ≠ .not_required then
    [⟨[.name "verifier", .name "status"],
      some ("Human-authored findings must explicitly record that AI verification was not " ++
        "required")⟩]
  else []

/-- `ProvisionalFindingSchema.parse(input)`. -/
def ProvisionalFinding.parse (f : ProvisionalFinding) : Parsed ProvisionalFinding :=
  accept f.trimmed (f.issues fmt)

/-- `ConfirmedFindingSchema.parse(input)`. -/
def ConfirmedFinding.parse (f : ConfirmedFinding) : Parsed ConfirmedFinding :=
  accept f.trimmed
    (f.authoredIssues fmt ++
      below "inspectorAttribution" (f.inspectorAttribution.issues fmt) ++
      below "verifier" (f.verifier.issues fmt) ++ validateConfirmation f.toProvisionalFinding)

/-! ## Trimming twice -/

theorem ProfessionalContent.trimmed_trimmed (c : ProfessionalContent) :
    c.trimmed.trimmed = c.trimmed := by
  cases c with
  | mk _ _ _ _ _ furtherInvestigation =>
      cases furtherInvestigation <;> simp [ProfessionalContent.trimmed, Js.trim_trim]

@[simp] theorem FindingContent.trimmed_trimmed (c : FindingContent) :
    c.trimmed.trimmed = c.trimmed := by
  cases c <;> simp [FindingContent.trimmed, ProfessionalContent.trimmed_trimmed]

@[simp] theorem VerifierPass.trimmed_trimmed (p : VerifierPass) : p.trimmed.trimmed = p.trimmed := by
  simp [VerifierPass.trimmed, Js.trim_trim]

@[simp] theorem AuthorshipOrigin.isAi_trimmed (o : AuthorshipOrigin) :
    o.trimmed.isAi = o.isAi := by
  cases o <;> rfl

end InspectionHub.Review
