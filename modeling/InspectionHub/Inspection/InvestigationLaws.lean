import InspectionHub.Inspection.Investigation
import InspectionHub.Lib.Numbered
import InspectionHub.Lib.TSys

/-!
# The laws of an investigation

An investigation keeps each fact twice: in the collection of its kind and in
the timeline. The two are appended to together, so the timeline restricted to
a kind always lists that collection, and both carry gapless ordinals. A
correction of an area rewrites evidence in place and leaves the timeline, which
tells where the evidence was captured.
-/

namespace InspectionHub.Inspection

open Domain

variable {host : Js.Host} {s s' : Investigation}

/-! ## What the timeline lists of each kind -/

/-- The area and the time of an `area_entered` entry. -/
def InvestigationTimelineEntry.entered? (t : InvestigationTimelineEntry) :
    Option (String × String) :=
  match t.entry with
  | .area_entered occurredAt areaId => some (areaId, occurredAt)
  | _ => none

/-- The artifact, the area and the time of an `evidence_linked` entry. -/
def InvestigationTimelineEntry.linked? (t : InvestigationTimelineEntry) :
    Option (String × String × String) :=
  match t.entry with
  | .evidence_linked occurredAt artifactId areaId => some (artifactId, areaId, occurredAt)
  | _ => none

/-- The measurement, the area and the time of a `measurement_recorded` entry. -/
def InvestigationTimelineEntry.measured? (t : InvestigationTimelineEntry) :
    Option (String × String × String) :=
  match t.entry with
  | .measurement_recorded occurredAt measurementId areaId =>
      some (measurementId, areaId, occurredAt)
  | _ => none

/-- The observation, the area and the time of an `observation_recorded` entry. -/
def InvestigationTimelineEntry.observed? (t : InvestigationTimelineEntry) :
    Option (String × String × String) :=
  match t.entry with
  | .observation_recorded occurredAt observationId areaId =>
      some (observationId, areaId, occurredAt)
  | _ => none

/-- The timeline, kind by kind, lists the collections in their order. -/
structure TimelineLists (s : Investigation) : Prop where
  visits : s.timeline.filterMap (·.entered?) = s.areaVisits.map fun v => (v.areaId, v.enteredAt)
  evidence : s.timeline.filterMap (·.linked?) =
    s.evidence.map fun e => (e.artifactId, e.captureAreaId, e.attachedAt)
  measurements : s.timeline.filterMap (·.measured?) =
    s.measurements.map fun m => (m.measurementId, m.areaId, m.measuredAt)
  observations : s.timeline.filterMap (·.observed?) =
    s.observations.map fun o => (o.observationId, o.areaId, o.recordedAt)

/-- The assignment history runs from the capture area to the current one. -/
def InvestigationEvidence.Assigned (e : InvestigationEvidence) : Prop :=
  e.areaAssignmentHistory.head?.map (·.areaId) = some e.captureAreaId ∧
    e.areaAssignmentHistory.getLast?.map (·.areaId) = some e.currentAreaId

/-- What every reachable investigation satisfies. -/
structure InvestigationInv (s : Investigation) : Prop where
  timelineOrdinals : Numbered (·.ordinal) s.timeline
  visitOrdinals : Numbered (·.ordinal) s.areaVisits
  linkOrdinals : Numbered (·.linkOrdinal) s.evidence
  lists : TimelineLists s
  artifactIds : (s.evidence.map (·.artifactId)).Nodup
  measurementIds : (s.measurements.map (·.measurementId)).Nodup
  observationIds : (s.observations.map (·.observationId)).Nodup
  current : s.areaVisits.getLast?.map (·.areaId) = some s.currentAreaId
  moves : s.areaVisits.IsChain fun v w => v.areaId ≠ w.areaId
  assigned : ∀ e ∈ s.evidence, e.Assigned

/-- The investigation is closed. -/
def Completed (s : Investigation) : Prop :=
  s.status = .completed_findings ∨ s.status = .completed_no_reportable_finding

/-! ## Runs -/

/-- An investigation with the number of commands it accepted. -/
structure Session where
  state : Investigation
  accepted : Nat

/-- The session after a command; a rejected command leaves it as it is. -/
def Session.next (host : Js.Host) (v : Session) (c : InvestigationCommand) : Session :=
  match c.exec host v.state with
  | .ok state => { state, accepted := v.accepted + 1 }
  | .error _ => v

def investigationSystem (host : Js.Host) : TSys Session InvestigationCommand where
  Init v := (∃ command, startInvestigation command = .ok v.state) ∧ v.accepted = 0
  Step v c v' := v.next host c = v'

/-! ## The guards -/

theorem assertWritable_ok {r : Nat} {u : Unit} (h : assertWritable s r = .ok u) :
    s.revision = r ∧ s.status = .active := by
  unfold assertWritable at h
  obtain ⟨_, hrevision, hstatus⟩ := bind_ok h
  exact ⟨require_ok hrevision, require_ok hstatus⟩

/-- A closed investigation is neither active nor paused. -/
theorem Completed.not_open (h : Completed s) : s.status ≠ .active ∧ s.status ≠ .paused := by
  rcases h with h | h <;> rw [h] <;> exact ⟨nofun, nofun⟩

/-- The artifacts of a batch are new and pairwise distinct. -/
theorem checkArtifacts_ok :
    ∀ {seen : List String} {artifacts : List EvidenceAttachmentInput},
      checkArtifacts s seen artifacts = .ok () →
      (∀ a ∈ artifacts, a.artifactId ∉ s.evidence.map (·.artifactId) ∧ a.artifactId ∉ seen) ∧
        (artifacts.map (·.artifactId)).Nodup := by
  intro seen artifacts h
  induction artifacts generalizing seen with
  | nil => simp
  | cons artifact rest ih =>
      unfold checkArtifacts at h
      obtain ⟨_, -, h⟩ := bind_ok h
      obtain ⟨_, hnew, h⟩ := bind_ok h
      have hnew := not_or.mp (require_ok hnew)
      obtain ⟨hrest, hnodup⟩ := ih h
      refine ⟨?_, ?_⟩
      · intro a ha
        rcases List.mem_cons.mp ha with rfl | ha
        · exact hnew
        · obtain ⟨hattached, hseen⟩ := hrest a ha
          exact ⟨hattached, fun hmem => hseen (List.mem_append_left _ hmem)⟩
      · rw [List.map_cons, List.nodup_cons]
        refine ⟨?_, hnodup⟩
        intro hmem
        obtain ⟨a, ha, he⟩ := List.mem_map.mp hmem
        exact (hrest a ha).2 (by simp [he])

/-- Appending to the timeline and to the collections together. -/
theorem TimelineLists.append (h : TimelineLists s) {added : List InvestigationTimelineEntry}
    (htimeline : s'.timeline = s.timeline ++ added)
    (hvisits : s'.areaVisits.map (fun v => (v.areaId, v.enteredAt)) =
      s.areaVisits.map (fun v => (v.areaId, v.enteredAt)) ++ added.filterMap (·.entered?))
    (hevidence : s'.evidence.map (fun e => (e.artifactId, e.captureAreaId, e.attachedAt)) =
      s.evidence.map (fun e => (e.artifactId, e.captureAreaId, e.attachedAt)) ++
        added.filterMap (·.linked?))
    (hmeasurements : s'.measurements.map (fun m => (m.measurementId, m.areaId, m.measuredAt)) =
      s.measurements.map (fun m => (m.measurementId, m.areaId, m.measuredAt)) ++
        added.filterMap (·.measured?))
    (hobservations : s'.observations.map (fun o => (o.observationId, o.areaId, o.recordedAt)) =
      s.observations.map (fun o => (o.observationId, o.areaId, o.recordedAt)) ++
        added.filterMap (·.observed?)) :
    TimelineLists s' := by
  refine ⟨?_, ?_, ?_, ?_⟩
  · rw [htimeline, List.filterMap_append, h.visits, hvisits]
  · rw [htimeline, List.filterMap_append, h.evidence, hevidence]
  · rw [htimeline, List.filterMap_append, h.measurements, hmeasurements]
  · rw [htimeline, List.filterMap_append, h.observations, hobservations]

/-- A pause or a resumption lists nothing. -/
theorem TimelineLists.silent (h : TimelineLists s) {t : InvestigationTimelineEntry}
    (htimeline : s'.timeline = s.timeline ++ [t]) (hvisits : s'.areaVisits = s.areaVisits)
    (hevidence : s'.evidence = s.evidence) (hmeasurements : s'.measurements = s.measurements)
    (hobservations : s'.observations = s.observations)
    (ht : t.entered? = none ∧ t.linked? = none ∧ t.measured? = none ∧ t.observed? = none) :
    TimelineLists s' := by
  obtain ⟨h₁, h₂, h₃, h₄⟩ := ht
  refine h.append htimeline ?_ ?_ ?_ ?_
  · simp [hvisits, h₁]
  · simp [hevidence, h₂]
  · simp [hmeasurements, h₃]
  · simp [hobservations, h₄]

/-! ## Creation -/

theorem start_inv {command : StartInvestigation} (h : startInvestigation command = .ok s) :
    InvestigationInv s ∧ s.revision = 0 := by
  unfold startInvestigation at h
  obtain ⟨_, -, h⟩ := bind_ok h
  obtain ⟨_, -, h⟩ := bind_ok h
  cases h
  refine ⟨?_, rfl⟩
  exact {
    timelineOrdinals := rfl
    visitOrdinals := rfl
    linkOrdinals := rfl
    lists := ⟨rfl, rfl, rfl, rfl⟩
    artifactIds := List.nodup_nil
    measurementIds := List.nodup_nil
    observationIds := List.nodup_nil
    current := rfl
    moves := List.isChain_singleton _
    assigned := nofun }

/-! ## One lemma per command -/

/-- Walking on from the last visit to another area. -/
theorem isChain_visit {visits : List InvestigationAreaVisit} {areaId : String}
    (h : visits.IsChain fun v w => v.areaId ≠ w.areaId)
    (hlast : visits.getLast?.map (·.areaId) = some areaId) {visit : InvestigationAreaVisit}
    (hmoved : areaId ≠ visit.areaId) :
    (visits ++ [visit]).IsChain fun v w => v.areaId ≠ w.areaId := by
  refine List.isChain_append.mpr ⟨h, List.isChain_singleton _, ?_⟩
  intro v hv w hw
  obtain rfl : visit = w := by simpa using hw
  have harea : v.areaId = areaId := by
    rw [Option.mem_def.mp hv] at hlast
    simpa using hlast
  rwa [harea]

theorem nodup_snoc {α : Type} {f : α → String} {l : List α} {a : α} (h : (l.map f).Nodup)
    (ha : f a ∉ l.map f) : ((l ++ [a]).map f).Nodup := by
  rw [List.map_append, List.map_singleton, ← List.concat_eq_append]
  exact h.concat ha

theorem changeArea_inv {c : ChangeArea} (hi : InvestigationInv s)
    (h : changeInvestigationArea s c = .ok s') :
    InvestigationInv s' ∧ s'.revision = s.revision + 1 := by
  unfold changeInvestigationArea at h
  obtain ⟨_, -, h⟩ := bind_ok h
  obtain ⟨_, hmoved, h⟩ := bind_ok h
  have hmoved := require_ok hmoved
  cases h
  refine ⟨?_, rfl⟩
  exact { hi with
    timelineOrdinals := hi.timelineOrdinals.snoc rfl
    visitOrdinals := hi.visitOrdinals.snoc rfl
    lists := hi.lists.append rfl List.map_append (List.append_nil _).symm (List.append_nil _).symm
      (List.append_nil _).symm
    current := by simp [advance]
    moves := isChain_visit hi.moves hi.current hmoved }

/-- A batch of evidence and its timeline entries, both stamped by position. -/
theorem attachEvidence_inv {c : AttachEvidence} (hi : InvestigationInv s)
    (h : attachInvestigationEvidence host s c = .ok s') :
    InvestigationInv s' ∧ s'.revision = s.revision + 1 := by
  unfold attachInvestigationEvidence at h
  obtain ⟨_, -, h⟩ := bind_ok h
  obtain ⟨_, -, h⟩ := bind_ok h
  obtain ⟨_, hartifacts, h⟩ := bind_ok h
  obtain ⟨hnew, hnodup⟩ := checkArtifacts_ok hartifacts
  cases h
  refine ⟨?_, rfl⟩
  have hperm := List.mergeSort_perm c.artifacts fun a b => compareCaptureOrder host a b ≠ .gt
  generalize c.artifacts.mergeSort (fun a b => compareCaptureOrder host a b ≠ .gt) = inputs at hperm
  -- what is read off the additions is read off the inputs
  have hread : ∀ {γ : Type} (g : InvestigationEvidence → γ) (k : EvidenceAttachmentInput → γ),
      (∀ ordinal a, g (addition c ordinal a) = k a) →
      (inputs.mapIdx fun i a => addition c (s.evidence.length + i + 1) a).map g = inputs.map k :=
    fun g k hg => map_mapIdx_of (fun i a => hg (s.evidence.length + i + 1) a) inputs
  have hlinked : ∀ batch : List InvestigationEvidence,
      (batch.mapIdx fun i e => (⟨.evidence_linked c.attachedAt e.artifactId e.currentAreaId,
        s.timeline.length + i + 1⟩ : InvestigationTimelineEntry)).filterMap (·.linked?) =
      batch.map fun e => (e.artifactId, e.currentAreaId, c.attachedAt) := by
    intro batch
    apply filterMap_mapIdx_of
    intro i e
    rfl
  exact { hi with
    timelineOrdinals := hi.timelineOrdinals.append_mapIdx (fun _ _ => rfl) _
    linkOrdinals := hi.linkOrdinals.append_mapIdx (fun _ _ => rfl) _
    lists := by
      refine hi.lists.append rfl ?_ ?_ ?_ ?_
      · rw [filterMap_mapIdx_none fun _ _ => rfl, List.append_nil]
        rfl
      · refine List.map_append.trans (congrArg _ (Eq.symm ?_))
        rw [hlinked, hread _ (fun a => (a.artifactId, a.captureAreaId, c.attachedAt)) fun _ _ => rfl,
          hread _ (fun a => (a.artifactId, a.captureAreaId, c.attachedAt)) fun _ _ => rfl]
      · rw [filterMap_mapIdx_none fun _ _ => rfl, List.append_nil]
        rfl
      · rw [filterMap_mapIdx_none fun _ _ => rfl, List.append_nil]
        rfl
    artifactIds := by
      show ((s.evidence ++ _).map _).Nodup
      rw [List.map_append, hread _ (·.artifactId) fun _ _ => rfl, List.nodup_append]
      refine ⟨hi.artifactIds, (hperm.map _).nodup_iff.mpr hnodup, ?_⟩
      rintro x hx y hy rfl
      obtain ⟨a, ha, rfl⟩ := List.mem_map.mp hy
      exact (hnew a (hperm.mem_iff.mp ha)).1 hx
    assigned := by
      intro e he
      rcases List.mem_append.mp he with he | he
      · exact hi.assigned e he
      · obtain ⟨i, hi, rfl⟩ := List.mem_mapIdx.mp he
        exact ⟨rfl, rfl⟩ }

/-- A correction appends to the history. -/
theorem InvestigationEvidence.Assigned.corrected {e : InvestigationEvidence} (h : e.Assigned)
    (c : ReassignEvidence) : (corrected c e).Assigned := by
  refine ⟨?_, ?_⟩
  · refine Eq.trans ?_ h.1
    cases hhistory : e.areaAssignmentHistory with
    | nil =>
        have hfirst := h.1
        rw [hhistory] at hfirst
        cases hfirst
    | cons change rest => simp [Inspection.corrected, hhistory]
  · simp [Inspection.corrected]

theorem reassign_inv {c : ReassignEvidence} (hi : InvestigationInv s)
    (h : reassignInvestigationEvidenceArea s c = .ok s') :
    InvestigationInv s' ∧ s'.revision = s.revision + 1 := by
  unfold reassignInvestigationEvidenceArea at h
  obtain ⟨_, -, h⟩ := bind_ok h
  split at h
  · cases h
  obtain ⟨_, -, h⟩ := bind_ok h
  cases h
  refine ⟨?_, rfl⟩
  -- a correction keeps what the timeline and the ordinals are about
  have hkeep : ∀ {β : Type} (f : InvestigationEvidence → β),
      (∀ e : InvestigationEvidence, ∀ areaId history,
        f { e with currentAreaId := areaId, areaAssignmentHistory := history } = f e) →
      (s.evidence.map fun item => if item.artifactId = c.artifactId then corrected c item
        else item).map f = s.evidence.map f := by
    intro β f hf
    rw [List.map_map]
    refine List.map_congr_left fun e _ => ?_
    simp only [Function.comp]
    split
    · exact hf ..
    · rfl
  exact { hi with
    linkOrdinals := hi.linkOrdinals.map fun e _ => by split <;> rfl
    lists := ⟨hi.lists.visits, hi.lists.evidence.trans (hkeep _ fun _ _ _ => rfl).symm,
      hi.lists.measurements, hi.lists.observations⟩
    artifactIds := by
      exact (hkeep (·.artifactId) fun _ _ _ => rfl).symm ▸ hi.artifactIds
    assigned := by
      intro e he
      obtain ⟨item, hitem, rfl⟩ := List.mem_map.mp he
      split
      · exact (hi.assigned item hitem).corrected c
      · exact hi.assigned item hitem }

theorem recordMeasurement_inv {c : RecordMeasurement} (hi : InvestigationInv s)
    (h : recordInvestigationMeasurement s c = .ok s') :
    InvestigationInv s' ∧ s'.revision = s.revision + 1 := by
  unfold recordInvestigationMeasurement at h
  obtain ⟨_, -, h⟩ := bind_ok h
  obtain ⟨_, -, h⟩ := bind_ok h
  obtain ⟨_, hnew, h⟩ := bind_ok h
  have hnew := require_ok hnew
  cases h
  refine ⟨?_, rfl⟩
  exact { hi with
    timelineOrdinals := hi.timelineOrdinals.snoc rfl
    lists := hi.lists.append rfl (List.append_nil _).symm (List.append_nil _).symm List.map_append
      (List.append_nil _).symm
    measurementIds := nodup_snoc hi.measurementIds hnew }

theorem recordObservation_inv {c : RecordObservation} (hi : InvestigationInv s)
    (h : recordInvestigationObservation s c = .ok s') :
    InvestigationInv s' ∧ s'.revision = s.revision + 1 := by
  unfold recordInvestigationObservation at h
  obtain ⟨_, -, h⟩ := bind_ok h
  obtain ⟨_, -, h⟩ := bind_ok h
  obtain ⟨_, hnew, h⟩ := bind_ok h
  have hnew := require_ok hnew
  cases h
  refine ⟨?_, rfl⟩
  exact { hi with
    timelineOrdinals := hi.timelineOrdinals.snoc rfl
    lists := hi.lists.append rfl (List.append_nil _).symm (List.append_nil _).symm
      (List.append_nil _).symm List.map_append
    observationIds := nodup_snoc hi.observationIds hnew }

theorem pause_inv {c : PauseInvestigation} (hi : InvestigationInv s)
    (h : pauseInvestigation s c = .ok s') :
    InvestigationInv s' ∧ s'.revision = s.revision + 1 := by
  unfold pauseInvestigation at h
  obtain ⟨_, -, h⟩ := bind_ok h
  obtain ⟨_, -, h⟩ := bind_ok h
  cases h
  refine ⟨?_, rfl⟩
  exact { hi with
    timelineOrdinals := hi.timelineOrdinals.snoc rfl
    lists := hi.lists.silent rfl rfl rfl rfl rfl ⟨rfl, rfl, rfl, rfl⟩ }

theorem resume_inv {c : ResumeInvestigation} (hi : InvestigationInv s)
    (h : resumeInvestigation s c = .ok s') :
    InvestigationInv s' ∧ s'.revision = s.revision + 1 := by
  unfold resumeInvestigation at h
  obtain ⟨_, -, h⟩ := bind_ok h
  obtain ⟨_, -, h⟩ := bind_ok h
  cases h
  refine ⟨?_, rfl⟩
  exact { hi with
    timelineOrdinals := hi.timelineOrdinals.snoc rfl
    lists := hi.lists.silent rfl rfl rfl rfl rfl ⟨rfl, rfl, rfl, rfl⟩ }

theorem finish_inv {c : FinishInvestigation} (hi : InvestigationInv s)
    (h : finishInvestigation s c = .ok s') :
    InvestigationInv s' ∧ s'.revision = s.revision + 1 := by
  unfold finishInvestigation at h
  obtain ⟨_, -, h⟩ := bind_ok h
  obtain ⟨_, -, h⟩ := bind_ok h
  obtain ⟨_, -, h⟩ := bind_ok h
  obtain ⟨_, -, h⟩ := bind_ok h
  obtain ⟨_, -, h⟩ := bind_ok h
  cases h
  exact ⟨{ hi with lists := ⟨hi.lists.visits, hi.lists.evidence, hi.lists.measurements,
    hi.lists.observations⟩ }, rfl⟩

/-! ## Runs of commands -/

/-- **One command.** An accepted command keeps the laws and counts one
revision. -/
theorem exec_inv (hi : InvestigationInv s) {c : InvestigationCommand}
    (h : c.exec host s = .ok s') : InvestigationInv s' ∧ s'.revision = s.revision + 1 := by
  cases c with
  | changeArea c => exact changeArea_inv hi h
  | attachEvidence c => exact attachEvidence_inv hi h
  | reassignEvidenceArea c => exact reassign_inv hi h
  | recordMeasurement c => exact recordMeasurement_inv hi h
  | recordObservation c => exact recordObservation_inv hi h
  | pause c => exact pause_inv hi h
  | resume c => exact resume_inv hi h
  | finish c => exact finish_inv hi h

/-- Every command first asks for an active or a paused investigation. -/
theorem open_of_exec {c : InvestigationCommand} (h : c.exec host s = .ok s') :
    s.status = .active ∨ s.status = .paused := by
  cases c with
  | pause c =>
      obtain ⟨_, -, h⟩ := bind_ok h
      obtain ⟨_, hstatus, -⟩ := bind_ok h
      exact .inl (require_ok hstatus)
  | resume c =>
      obtain ⟨_, -, h⟩ := bind_ok h
      obtain ⟨_, hstatus, -⟩ := bind_ok h
      exact .inr (require_ok hstatus)
  | changeArea c | attachEvidence c | reassignEvidenceArea c | recordMeasurement c
  | recordObservation c | finish c =>
      obtain ⟨_, hwritable, -⟩ := bind_ok h
      exact .inl (assertWritable_ok hwritable).2

/-- A closed investigation rejects every command. -/
theorem completed_rejects (h : Completed s) (c : InvestigationCommand) :
    ∃ e, c.exec host s = .error e := by
  obtain ⟨hactive, hpaused⟩ := h.not_open
  cases hexec : c.exec host s with
  | error e => exact ⟨e, rfl⟩
  | ok s' =>
      rcases open_of_exec hexec with hstatus | hstatus
      · exact absurd hstatus hactive
      · exact absurd hstatus hpaused

theorem investigation_inductive : (investigationSystem host).Inductive TSys.any
    fun v => InvestigationInv v.state ∧ v.state.revision = v.accepted where
  init := by
    rintro v ⟨⟨command, h⟩, haccepted⟩
    obtain ⟨hi, hrevision⟩ := start_inv h
    exact ⟨hi, by rw [hrevision, haccepted]⟩
  step := by
    rintro v c v' ⟨hi, hrevision⟩ - rfl
    unfold Session.next
    split
    · next hexec =>
        obtain ⟨hi', hrevision'⟩ := exec_inv hi hexec
        exact ⟨hi', by rw [hrevision', hrevision]⟩
    · exact ⟨hi, hrevision⟩

/-- **The investigation.** Every reachable investigation obeys its laws, its
revision counts the accepted commands, and once completed it accepts none. -/
theorem investigation_laws {v : Session}
    (h : (investigationSystem host).Reachable TSys.any v) :
    InvestigationInv v.state ∧ v.state.revision = v.accepted ∧
      (Completed v.state → ∀ c : InvestigationCommand, ∃ e, c.exec host v.state = .error e) := by
  obtain ⟨hi, hrevision⟩ := investigation_inductive.invariant h
  exact ⟨hi, hrevision, fun hcompleted c => completed_rejects hcompleted c⟩

namespace Sample

def startCommand : StartInvestigation where
  investigationId := "investigation"
  organizationId := "organization"
  jobId := "job"
  commissionedModules := [⟨.building, "module-building"⟩]
  areaId := "area-roof-void"
  startedAt := "2026-07-14T08:30:00.000+10:00"
  inspectorId := "inspector"

/-- A crack seen in the roof void. -/
def observationCommand : RecordObservation where
  expectedRevision := 0
  observation := {
    areaId := "area-roof-void"
    observationId := "observation"
    recordedAt := "2026-07-14T08:31:00.000+10:00"
    recordedByInspectorId := "inspector"
    text := " A cracked rafter. " }

def finishCommand : FinishInvestigation where
  expectedRevision := 1
  completedAt := "2026-07-14T08:40:00.000+10:00"
  inspectorId := "inspector"
  draftingDisposition := .manual_only
  outcome := .finding_candidates
  moduleLinks := some [⟨"candidate", .building, "module-building", []⟩]

/-- The roof void, entered and not yet written about. -/
def started : Investigation where
  investigationId := "investigation"
  organizationId := "organization"
  jobId := "job"
  commissionedModules := startCommand.commissionedModules
  startedAt := "2026-07-14T08:30:00.000+10:00"
  startedByInspectorId := "inspector"
  status := .active
  revision := 0
  currentAreaId := "area-roof-void"
  areaVisits := [⟨"area-roof-void", "2026-07-14T08:30:00.000+10:00", 1⟩]
  evidence := []
  measurements := []
  observations := []
  timeline := [⟨.area_entered "2026-07-14T08:30:00.000+10:00" "area-roof-void", 1⟩]
  completion := none

/-- The session that recorded the observation and was closed with a finding. -/
def closed (host : Js.Host) : Session :=
  ((Session.mk started 0).next host (.recordObservation observationCommand)).next host
    (.finish finishCommand)

theorem closed_reachable (host : Js.Host) :
    (investigationSystem host).Reachable TSys.any (closed host) := by
  have hstart : startInvestigation startCommand = .ok started := rfl
  have hinit : (investigationSystem host).Init ⟨started, 0⟩ := ⟨⟨startCommand, hstart⟩, rfl⟩
  exact ((TSys.Reachable.init hinit).step trivial rfl).step trivial rfl

example : (closed .plain).accepted = 2 := rfl

theorem investigation_laws_closed :
    InvestigationInv (closed .plain).state ∧
      (closed .plain).state.revision = (closed .plain).accepted ∧
      (Completed (closed .plain).state → ∀ c : InvestigationCommand,
        ∃ e, c.exec .plain (closed .plain).state = .error e) :=
  investigation_laws (closed_reachable .plain)

end Sample

end InspectionHub.Inspection
