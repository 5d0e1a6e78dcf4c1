import InspectionHub.Contracts.Findings

/-!
# Module snapshots

The immutable content a professional module is approved on: coverage,
limitations, findings and a conclusion, with the refinement that ties them to
one module and one inspector.
-/

namespace InspectionHub.Contracts

open Schema

variable (fmt : Formats)

def coverageIdentityFields : List (String × Schema) :=
  [("coverageEntryId", idSchema fmt), ("module", moduleTypeSchema), ("moduleId", idSchema fmt),
    ("areaId", idSchema fmt), ("recordedAt", timestampSchema fmt),
    ("recordedByInspectorId", idSchema fmt)]

def coverageInspectedSchema : Schema :=
  strictObject (coverageIdentityFields fmt ++ [("state", literal "inspected")])

def coverageNotApplicableSchema : Schema :=
  strictObject
    (coverageIdentityFields fmt ++
      [("state", literal "not_applicable"), ("reason", nonEmptyTextSchema)])

/-- The three states that name a limitation. -/
def limitedCoverage (state : String) : Schema :=
  strictObject
    (coverageIdentityFields fmt ++ [("limitation", nonEmptyTextSchema), ("state", literal state)])

def coverageAccessLimitedSchema : Schema := limitedCoverage fmt "access_limited"

def coverageInaccessibleSchema : Schema := limitedCoverage fmt "inaccessible"

def coverageRevisitSchema : Schema := limitedCoverage fmt "revisit"

def coverageEntrySchema : Schema :=
  discriminatedUnion "state"
    [("inspected", coverageInspectedSchema fmt), ("access_limited", coverageAccessLimitedSchema fmt),
      ("inaccessible", coverageInaccessibleSchema fmt),
      ("not_applicable", coverageNotApplicableSchema fmt), ("revisit", coverageRevisitSchema fmt)]

def moduleLimitationSchema : Schema :=
  strictObject
    [("limitationId", idSchema fmt), ("module", moduleTypeSchema), ("moduleId", idSchema fmt),
      ("areaId", idSchema fmt), ("material", boolean), ("description", nonEmptyTextSchema),
      ("recordedAt", timestampSchema fmt), ("recordedByInspectorId", idSchema fmt)]

def buildingConclusionSchema : Schema :=
  strictObject
    [("module", literal "building"), ("summary", nonEmptyTextSchema),
      ("majorDefectCount", int nonnegative), ("minorDefectCount", int nonnegative)]

def timberPestConclusionSchema : Schema :=
  strictObject
    [("module", literal "timber_pest"), ("summary", nonEmptyTextSchema),
      ("visibleEvidenceObserved", boolean),
      ("categoriesObserved", array timberPestCategorySchema anySize)]

def snapshotIdentityFields : List (String × Schema) :=
  [("snapshotId", idSchema fmt), ("organizationId", idSchema fmt), ("jobId", idSchema fmt),
    ("moduleId", idSchema fmt), ("revision", int positive), ("createdAt", timestampSchema fmt),
    ("inspector", inspectorAttributionSchema fmt), ("requirementVersion", trimmedText 200),
    ("templateVersion", trimmedText 200),
    ("limitations", array (moduleLimitationSchema fmt) anySize),
    ("verifierResults", array (verifierPassedSchema fmt) anySize),
    ("evidenceHashes", array sha256Schema anySize),
    ("mediaSelection", array (artifactReferenceSchema fmt) anySize)]

/-- The fields of a snapshot of the given module. -/
def snapshotFields (module : String) (finding conclusion : Schema) : List (String × Schema) :=
  snapshotIdentityFields fmt ++
    [("module", literal module), ("findings", array finding anySize),
      ("coverage", array (coverageEntrySchema fmt) anySize), ("conclusion", conclusion)]

def buildingSnapshotFields : List (String × Schema) :=
  snapshotFields fmt "building" (buildingConfirmedFindingSchema fmt) buildingConclusionSchema

def timberPestSnapshotFields : List (String × Schema) :=
  snapshotFields fmt "timber_pest" (timberPestConfirmedFindingSchema fmt)
    timberPestConclusionSchema

/-- The issues of one element of an array property. -/
def findingIssues (value : JsVal) (index : Nat) (finding : JsVal) : List Issue :=
  (if finding.str? "organizationId" ≠ value.str? "organizationId" ∨
      finding.str? "jobId" ≠ value.str? "jobId" ∨
      finding.str? "moduleId" ≠ value.str? "moduleId" ∨
      finding.strAt? ["content", "module"] ≠ value.str? "module" then
    [⟨[.name "findings", .index index],
      some ("Finding does not belong to this exact organisation, job, and professional " ++
        "module")⟩]
  else []) ++
  (if finding.strAt? ["inspectorAttribution", "inspectorId"] ≠
        value.strAt? ["inspector", "inspectorId"] ∨
      finding.strAt? ["inspectorAttribution", "credentialVersion"] ≠
        value.strAt? ["inspector", "credentialVersion"] then
    [⟨[.name "findings", .index index, .name "inspectorAttribution"],
      some ("Finding confirmation must be attributed to the snapshot inspector and " ++
        "credential version")⟩]
  else []) ++
  (if finding.strAt? ["authorship", "origin"] = some "ai" ∧
      ¬ (value.elems "verifierResults").any (fun result =>
        result.str? "draftVersionId" = finding.str? "versionId" ∧
          result.str? "contentHash" = finding.str? "contentHash") then
    [⟨[.name "verifierResults"],
      some ("AI-authored findings require the exact verifier pass in the immutable " ++
        "snapshot")⟩]
  else [])

/-- Coverage entries and limitations stay in their module. -/
def scopeIssues (field message : String) (value : JsVal) (index : Nat) (entry : JsVal) :
    List Issue :=
  if entry.str? "module" ≠ value.str? "module" ∨ entry.str? "moduleId" ≠ value.str? "moduleId" then
    [⟨[.name field, .index index], some message⟩]
  else []

def mediaIssues (value : JsVal) (index : Nat) (media : JsVal) : List Issue :=
  if (value.elems "evidenceHashes").any (fun hash =>
      match hash with
      | .str h => media.str? "contentHash" = some h
      | _ => false) then []
  else
    [⟨[.name "mediaSelection", .index index, .name "contentHash"],
      some "Selected report media must be represented in the snapshot evidence hash set"⟩]

def validateSnapshotRelationships (value : JsVal) : List Issue :=
  let findingIds := (value.elems "findings").map fun finding => finding.str? "findingId"
  ((value.elems "findings").mapIdx (findingIssues value)).flatten ++
  ((value.elems "coverage").mapIdx
    (scopeIssues "coverage" "Coverage is module-scoped and cannot cross professional modules"
      value)).flatten ++
  ((value.elems "limitations").mapIdx
    (scopeIssues "limitations"
      "Limitation is module-scoped and cannot cross professional modules" value)).flatten ++
  ((value.elems "mediaSelection").mapIdx (mediaIssues value)).flatten ++
  (if findingIds.Nodup then []
    else [⟨[.name "findings"], some "Snapshot findings must be unique"⟩])

def buildingModuleSnapshotInputSchema : Schema :=
  superRefine (strictObject (buildingSnapshotFields fmt)) validateSnapshotRelationships

def timberPestModuleSnapshotInputSchema : Schema :=
  superRefine (strictObject (timberPestSnapshotFields fmt)) validateSnapshotRelationships

def buildingModuleSnapshotSchema : Schema :=
  superRefine (strictObject (buildingSnapshotFields fmt ++ [("canonicalHash", sha256Schema)]))
    validateSnapshotRelationships

def timberPestModuleSnapshotSchema : Schema :=
  superRefine (strictObject (timberPestSnapshotFields fmt ++ [("canonicalHash", sha256Schema)]))
    validateSnapshotRelationships

def moduleSnapshotSchema : Schema :=
  union [buildingModuleSnapshotSchema fmt, timberPestModuleSnapshotSchema fmt]

/-! ## What parsing a snapshot keeps -/

/-- The fields of a snapshot that are read outside its schema. -/
def identityKeys : List String :=
  ["snapshotId", "organizationId", "jobId", "moduleId", "revision", "canonicalHash"]

theorem snapshotFields_nodup (module : String) (finding conclusion : Schema) :
    ((snapshotFields fmt module finding conclusion ++ [("canonicalHash", sha256Schema)]).map
      Prod.fst).Nodup := by
  simp [snapshotFields, snapshotIdentityFields]

variable {v w : JsVal}

/-- Identifiers, the revision and the hash come out of a snapshot schema as
they went in. -/
theorem snapshotObject_get {module : String} {finding conclusion : Schema}
    (h : superRefine (strictObject
      (snapshotFields fmt module finding conclusion ++ [("canonicalHash", sha256Schema)]))
      validateSnapshotRelationships v = .ok w) {k : String} (hk : k ∈ identityKeys) :
    w.get? k = v.get? k ∧ w.get? "module" = some (.str module) ∧
      v.get? "module" = some (.str module) := by
  obtain ⟨h, -⟩ := superRefine_ok h
  have hget := fun {k s} =>
    strictObject_get (snapshotFields_nodup fmt module finding conclusion) h (k := k) (s := s)
  have exact : ∀ {s : Schema}, Exact s → (k, s) ∈ snapshotFields fmt module finding conclusion ++
      [("canonicalHash", sha256Schema)] → w.get? k = v.get? k := by
    intro s hs hmem
    obtain ⟨x, y, hx, hy, hxy⟩ := hget hmem
    rw [hx, hy, hs x y hxy]
  refine ⟨?_, ?_⟩
  · simp only [identityKeys, List.mem_cons, List.not_mem_nil, or_false] at hk
    rcases hk with rfl | rfl | rfl | rfl | rfl | rfl
    · exact exact (exact_id fmt) (by simp [snapshotFields, snapshotIdentityFields])
    · exact exact (exact_id fmt) (by simp [snapshotFields, snapshotIdentityFields])
    · exact exact (exact_id fmt) (by simp [snapshotFields, snapshotIdentityFields])
    · exact exact (exact_id fmt) (by simp [snapshotFields, snapshotIdentityFields])
    · exact exact (exact_int positive) (by simp [snapshotFields, snapshotIdentityFields])
    · exact exact exact_sha256 (by simp [snapshotFields, snapshotIdentityFields])
  · obtain ⟨x, y, hx, hy, hxy⟩ := hget (k := "module") (s := literal module)
      (by simp [snapshotFields, snapshotIdentityFields])
    obtain ⟨rfl, rfl⟩ := literal_ok hxy
    exact ⟨hy, hx⟩

theorem moduleSnapshot_get (h : moduleSnapshotSchema fmt v = .ok w) {k : String}
    (hk : k ∈ identityKeys) : w.get? k = v.get? k := by
  obtain ⟨s, hs, hsv⟩ := union_ok h
  simp only [List.mem_cons, List.not_mem_nil, or_false] at hs
  rcases hs with rfl | rfl
  · exact (snapshotObject_get fmt hsv hk).1
  · exact (snapshotObject_get fmt hsv hk).1

theorem moduleSnapshot_module (h : moduleSnapshotSchema fmt v = .ok w) :
    w.get? "module" = v.get? "module" := by
  obtain ⟨s, hs, hsv⟩ := union_ok h
  have hk : "snapshotId" ∈ identityKeys := by simp [identityKeys]
  simp only [List.mem_cons, List.not_mem_nil, or_false] at hs
  rcases hs with rfl | rfl
  · rw [(snapshotObject_get fmt hsv hk).2.1, (snapshotObject_get fmt hsv hk).2.2]
  · rw [(snapshotObject_get fmt hsv hk).2.1, (snapshotObject_get fmt hsv hk).2.2]

/-- A snapshot the schema accepts has an identifier. -/
theorem moduleSnapshot_snapshotId (h : moduleSnapshotSchema fmt v = .ok w) :
    ∃ id, v.str? "snapshotId" = some id := by
  obtain ⟨s, hs, hsv⟩ := union_ok h
  have named : ∀ {module : String} {finding conclusion : Schema}, superRefine (strictObject
      (snapshotFields fmt module finding conclusion ++ [("canonicalHash", sha256Schema)]))
      validateSnapshotRelationships v = .ok w → ∃ id, v.str? "snapshotId" = some id := by
    intro module finding conclusion h
    obtain ⟨x, y, hx, -, hxy⟩ := strictObject_get
      (snapshotFields_nodup fmt module finding conclusion) (superRefine_ok h).1
      (k := "snapshotId") (s := idSchema fmt) (by simp [snapshotFields, snapshotIdentityFields])
    obtain ⟨id, rfl⟩ := string_ok hxy
    exact ⟨id, by simp only [JsVal.str?, hx]⟩
  simp only [List.mem_cons, List.not_mem_nil, or_false] at hs
  rcases hs with rfl | rfl
  · exact named hsv
  · exact named hsv

end InspectionHub.Contracts
