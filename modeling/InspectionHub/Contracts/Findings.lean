import InspectionHub.Contracts.Common

/-!
# Confirmed findings

The findings a module snapshot may hold: professional content, how it was
authored, and the verifier result the confirmation relied on.
-/

namespace InspectionHub.Contracts

open Schema

variable (fmt : Formats)

def buildingClassificationSchema : Schema :=
  enum ["major_defect", "minor_defect", "safety_hazard", "other_building_condition"]

def timberPestCategorySchema : Schema :=
  enum ["visible_evidence", "timber_damage", "conducive_condition", "no_visible_evidence"]

def professionalContentFields : List (String × Schema) :=
  [("location", nonEmptyTextSchema), ("observation", nonEmptyTextSchema),
    ("apparentExtent", nonEmptyTextSchema), ("qualifiedOpinion", nonEmptyTextSchema),
    ("uncertainty", array nonEmptyTextSchema (fun n => n ≤ 50)),
    ("furtherInvestigation", nullable nonEmptyTextSchema)]

def buildingFindingContentSchema : Schema :=
  strictObject
    ([("module", literal "building")] ++ professionalContentFields ++
      [("classification", buildingClassificationSchema)])

def timberPestFindingContentSchema : Schema :=
  strictObject
    ([("module", literal "timber_pest")] ++ professionalContentFields ++
      [("category", timberPestCategorySchema)])

def humanAuthorshipSchema : Schema :=
  strictObject
    [("origin", literal "human"),
      ("sourceArtifactReferences", array (artifactReferenceSchema fmt) nonEmpty),
      ("transcriptSpanReferences", array (idSchema fmt) anySize)]

def aiAuthorshipSchema : Schema :=
  strictObject
    [("origin", literal "ai"), ("model", trimmedText 200), ("promptVersion", trimmedText 200),
      ("skillVersions", array (trimmedText 200) anySize), ("packetRevision", int positive),
      ("sourceArtifactReferences", array (artifactReferenceSchema fmt) nonEmpty),
      ("transcriptSpanReferences", array (idSchema fmt) anySize)]

def authorshipSchema : Schema :=
  discriminatedUnion "origin"
    [("human", humanAuthorshipSchema fmt), ("ai", aiAuthorshipSchema fmt)]

def verifierPendingSchema : Schema := strictObject [("status", literal "pending")]

def verifierPassedSchema : Schema :=
  strictObject
    [("status", literal "passed"), ("draftVersionId", idSchema fmt), ("contentHash", sha256Schema),
      ("verifierVersion", trimmedText 200), ("verifiedAt", timestampSchema fmt)]

def verifierRejectedSchema : Schema :=
  strictObject
    [("status", literal "rejected"), ("draftVersionId", idSchema fmt),
      ("contentHash", sha256Schema), ("reasons", array nonEmptyTextSchema nonEmpty),
      ("verifiedAt", timestampSchema fmt)]

def verifierStaleSchema : Schema :=
  strictObject
    [("status", literal "stale"), ("draftVersionId", idSchema fmt), ("contentHash", sha256Schema),
      ("supersededByVersionId", idSchema fmt), ("recordedAt", timestampSchema fmt)]

def verifierNotRequiredSchema : Schema :=
  strictObject [("status", literal "not_required"), ("reason", literal "human_authored")]

def verifierResultSchema : Schema :=
  discriminatedUnion "status"
    [("pending", verifierPendingSchema), ("passed", verifierPassedSchema fmt),
      ("rejected", verifierRejectedSchema fmt), ("stale", verifierStaleSchema fmt),
      ("not_required", verifierNotRequiredSchema)]

def findingIdentityFields : List (String × Schema) :=
  [("findingId", idSchema fmt), ("versionId", idSchema fmt), ("organizationId", idSchema fmt),
    ("jobId", idSchema fmt), ("moduleId", idSchema fmt), ("contentHash", sha256Schema)]

/-- The verifier result a confirmation must rest on. -/
def validateConfirmation (value : JsVal) : List Issue :=
  if value.strAt? ["authorship", "origin"] = some "ai" then
    if value.strAt? ["verifier", "status"] ≠ some "passed" then
      [⟨[.name "verifier", .name "status"],
        some "AI-authored findings require a verifier pass for the exact confirmed version"⟩]
    else if value.strAt? ["verifier", "draftVersionId"] ≠ value.str? "versionId" ∨
        value.strAt? ["verifier", "contentHash"] ≠ value.str? "contentHash" then
      [⟨[.name "verifier"],
        some "Verifier result does not match the exact confirmed version and content hash"⟩]
    else []
  else if value.strAt? ["verifier", "status"] ≠ some "not_required" then
    [⟨[.name "verifier", .name "status"],
      some ("Human-authored findings must explicitly record that AI verification was not " ++
        "required")⟩]
  else []

/-- A confirmed finding with the given content schema. -/
def confirmedFinding (content : Schema) : Schema :=
  superRefine
    (strictObject
      ([("status", literal "confirmed")] ++ findingIdentityFields fmt ++
        [("content", content), ("authorship", authorshipSchema fmt),
          ("inspectorAttribution", inspectorAttributionSchema fmt),
          ("verifier", verifierResultSchema fmt)]))
    validateConfirmation

def buildingConfirmedFindingSchema : Schema :=
  confirmedFinding fmt buildingFindingContentSchema

def timberPestConfirmedFindingSchema : Schema :=
  confirmedFinding fmt timberPestFindingContentSchema

end InspectionHub.Contracts
