import InspectionHub.Inspection.CoverageLaws
import InspectionHub.Inspection.InvestigationLaws
import InspectionHub.Inspection.Packet

/-!
# Where the sources of a packet come from

A reference to a source names a kind and an identity. Evidence, spans,
measurements and observations are given an identity once, which is checked when
they are recorded. Coverage entries and limitations carry the identity the
inspector's device chose, which nothing checks: two pairs of an area and a
module may share one, and then the packet lists one identity twice and its
request is refused.
-/

namespace InspectionHub.Inspection

open Domain Register

variable {host : Js.Host} {l : CoverageLedger}

/-! ## Lists told apart -/

section Lists

variable {α β γ : Type} [DecidableEq β]

variable {items : List α} {f : α → β}

/-- Where each value is taken once, none is taken twice. -/
theorem nodup_map_of_filter_le_one (h : ∀ b, (items.filter fun a => f a = b).length ≤ 1) :
    (items.map f).Nodup := by
  rw [List.nodup_iff_count_le_one]
  intro b
  have hcount : (items.map f).count b = (items.filter fun a => f a = b).length := by
    rw [List.count, List.countP_map, List.countP_eq_length_filter]
    rfl
  rw [hcount]
  exact h b

/-- Of items told apart by `f`, the ones at `b` are the one there. -/
theorem filter_eq_toList (hf : (items.map f).Nodup) {b : β} {o : Option α}
    (ho : ∀ a, o = some a ↔ a ∈ items ∧ f a = b) : items.filter (fun a => f a = b) = o.toList := by
  cases o with
  | none =>
      refine List.filter_eq_nil_iff.mpr fun a ha hb => ?_
      exact absurd ((ho a).mpr ⟨ha, of_decide_eq_true hb⟩) (Option.some_ne_none a).symm
  | some a =>
      have hnodup : (items.filter fun a => f a = b).Nodup := hf.of_map.filter _
      refine List.perm_singleton.mp
        ((List.perm_ext_iff_of_nodup hnodup (List.nodup_singleton a)).mpr fun x => ?_)
      rw [List.mem_filter, decide_eq_true_eq, ← ho, List.mem_singleton, Option.some.injEq]
      exact ⟨Eq.symm, Eq.symm⟩

omit [DecidableEq β] in
/-- Items told apart by `f` are told apart by `g` when `g` decides `f`. -/
theorem nodup_map_iff {g : α → γ} (hf : (items.map f).Nodup) :
    (items.map g).Nodup ↔ ∀ a ∈ items, ∀ b ∈ items, g a = g b → f a = f b := by
  constructor
  · intro hg a ha b hb hab
    rw [List.inj_on_of_nodup_map hg ha hb hab]
  · intro h
    refine hf.of_map.map_on fun a ha b hb hab => ?_
    exact List.inj_on_of_nodup_map hf ha hb (h a ha b hb hab)

end Lists

/-! ## Coverage -/

variable {e : CoverageEntry}

/-- The current entry of a pair is the latest one. -/
theorem mem_current_iff (host : Js.Host) :
    e ∈ currentCoverageEntries host l ↔
      (entryRegister.under (e.areaId, e.moduleId) l.entries).getLast? = some e := by
  rw [currentCoverageEntries, List.mem_mergeSort, Table.mem_values_iff, entryMap,
    Table.get?_foldl_put_last, Table.get?_empty, Option.or_none]
  have hsame : (l.entries.filter fun e' =>
      coverageKey e'.moduleId e'.areaId = coverageKey e.moduleId e.areaId) =
        entryRegister.under (e.areaId, e.moduleId) l.entries := by
    refine List.filter_congr fun e' _ => ?_
    rw [decide_eq_decide]
    constructor
    · intro hkey
      obtain ⟨hid, harea⟩ := coverageKey_injective hkey
      exact Prod.ext harea hid
    · intro hkey
      obtain ⟨harea, hid⟩ := Prod.mk.inj hkey
      rw [harea, hid]
  rw [hsame]

theorem mem_of_mem_current (host : Js.Host) (h : e ∈ currentCoverageEntries host l) :
    e ∈ l.entries :=
  (List.mem_filter.mp (List.mem_of_getLast? ((mem_current_iff host).mp h))).1

/-- In a lawful ledger an entry is current when it is the latest of its area and module. -/
theorem mem_current_iff_latest (host : Js.Host) (hi : LedgerInv l) :
    e ∈ currentCoverageEntries host l ↔ l.latestEntry e.areaId e.module = some e := by
  by_cases he : e ∈ l.entries
  · have heq := entriesOf_eq l hi (hi.entries e he) e.areaId
    rw [mem_current_iff, CoverageLedger.latestEntry]
    exact iff_of_eq (congrArg (fun es => List.getLast? es = some e) heq.symm)
  · constructor
    · intro hcurrent
      exact absurd (mem_of_mem_current host hcurrent) he
    · intro hlatest
      exact absurd (List.mem_filter.mp (List.mem_of_getLast? hlatest)).1 he

theorem latestEntry_pair {areaId : String} {module : ModuleType}
    (h : l.latestEntry areaId module = some e) : e.areaId = areaId ∧ e.module = module := by
  have hmem := (List.mem_filter.mp (List.mem_of_getLast? h)).2
  simpa using hmem

/-- The pairs of the current entries are distinct. -/
theorem nodup_current (host : Js.Host) (hi : LedgerInv l) :
    ((currentCoverageEntries host l).map fun e => (e.areaId, e.module)).Nodup := by
  have hperm := List.mergeSort_perm (entryMap l.entries).values fun a b =>
    compareEntries host a b ≠ .gt
  have hkeys : ((currentCoverageEntries host l).map fun e =>
      coverageKey e.moduleId e.areaId).Nodup :=
    (hperm.map _).nodup_iff.mpr (entryMap l.entries).nodup_keys_values
  refine (nodup_map_iff hkeys).mpr ?_
  intro a ha b hb hpair
  obtain ⟨harea, hmodule⟩ := Prod.mk.inj hpair
  have hid : a.moduleId = b.moduleId := (moduleId_iff hi
    (hi.entries b (mem_of_mem_current host hb))
    (hi.entries a (mem_of_mem_current host ha))).mp hmodule
  rw [harea, hid]

/-- **One current entry for each recorded pair.** -/
theorem current_of_pair (host : Js.Host) (hi : LedgerInv l) (areaId : String)
    (module : ModuleType) :
    (currentCoverageEntries host l).filter (fun e => (e.areaId, e.module) = (areaId, module)) =
      (l.latestEntry areaId module).toList := by
  refine filter_eq_toList (nodup_current host hi) fun e => ?_
  constructor
  · intro hlatest
    obtain ⟨rfl, rfl⟩ := latestEntry_pair hlatest
    exact ⟨(mem_current_iff_latest host hi).mpr hlatest, rfl⟩
  · rintro ⟨hcurrent, hpair⟩
    obtain ⟨rfl, rfl⟩ := Prod.mk.inj hpair
    exact (mem_current_iff_latest host hi).mp hcurrent

/-! ## Limitations -/

/-- The limitations a packet lists. -/
def CoverageLedger.listed (l : CoverageLedger) : List CoverageLimitation :=
  l.limitations.filter (·.status = .active)

theorem listed_of_pair (l : CoverageLedger) (areaId : String) (module : ModuleType) :
    (l.listed.filter fun x => (x.areaId, x.module) = (areaId, module)) =
      l.activeLimitations areaId module := by
  rw [CoverageLedger.listed, List.filter_filter]
  refine List.filter_congr fun x _ => ?_
  simp only [Prod.mk.injEq, Bool.decide_and]

theorem nodup_listed (hi : LedgerInv l) :
    (l.listed.map fun x => (x.areaId, x.module)).Nodup := by
  refine nodup_map_of_filter_le_one ?_
  rintro ⟨areaId, module⟩
  rw [listed_of_pair]
  exact (pairLaws_of hi areaId module).one_limitation

/-- **An active limitation for each limited pair.** -/
theorem listed_iff_limited (hi : LedgerInv l) (areaId : String) (module : ModuleType) :
    (∃ x ∈ l.listed, x.areaId = areaId ∧ x.module = module) ↔
      ∃ e, l.latestEntry areaId module = some e ∧
        (e.state = .access_limited ∨ e.state = .inaccessible) := by
  rw [← (pairLaws_of hi areaId module).limitation_iff, ← listed_of_pair, ne_eq,
    List.filter_eq_nil_iff]
  simp only [decide_eq_true_eq, Prod.mk.injEq, not_forall, not_not, exists_prop]

/-! ## Identities -/

/-- No two pairs have current entries, or active limitations, of one identity. -/
structure DistinctRecords (l : CoverageLedger) : Prop where
  entries : ∀ areaId module areaId' module' e e', l.latestEntry areaId module = some e →
    l.latestEntry areaId' module' = some e' → e.coverageEntryId = e'.coverageEntryId →
      areaId = areaId' ∧ module = module'
  limitations : ∀ x ∈ l.limitations, ∀ x' ∈ l.limitations, x.status = .active →
    x'.status = .active → x.limitationId = x'.limitationId →
      x.areaId = x'.areaId ∧ x.module = x'.module

theorem nodup_coverageIds_iff (host : Js.Host) (hi : LedgerInv l) :
    ((currentCoverageEntries host l).map (·.coverageEntryId)).Nodup ↔
      ∀ areaId module areaId' module' e e', l.latestEntry areaId module = some e →
        l.latestEntry areaId' module' = some e' → e.coverageEntryId = e'.coverageEntryId →
          areaId = areaId' ∧ module = module' := by
  rw [nodup_map_iff (nodup_current host hi)]
  constructor
  · intro h areaId module areaId' module' e e' he he' hid
    obtain ⟨rfl, rfl⟩ := latestEntry_pair he
    obtain ⟨rfl, rfl⟩ := latestEntry_pair he'
    exact Prod.mk.inj (h e ((mem_current_iff_latest host hi).mpr he) e'
      ((mem_current_iff_latest host hi).mpr he') hid)
  · intro h e he e' he' hid
    obtain ⟨harea, hmodule⟩ := h _ _ _ _ e e' ((mem_current_iff_latest host hi).mp he)
      ((mem_current_iff_latest host hi).mp he') hid
    exact Prod.ext harea hmodule

theorem nodup_limitationIds_iff (hi : LedgerInv l) :
    (l.listed.map (·.limitationId)).Nodup ↔
      ∀ x ∈ l.limitations, ∀ x' ∈ l.limitations, x.status = .active → x'.status = .active →
        x.limitationId = x'.limitationId → x.areaId = x'.areaId ∧ x.module = x'.module := by
  rw [nodup_map_iff (nodup_listed hi)]
  simp only [CoverageLedger.listed, List.mem_filter, decide_eq_true_eq, Prod.mk.injEq]
  constructor
  · intro h x hx x' hx' hactive hactive' hid
    exact h x ⟨hx, hactive⟩ x' ⟨hx', hactive'⟩ hid
  · intro h x hx x' hx' hid
    exact h x hx.1 x' hx'.1 hx.2 hx'.2 hid

theorem checkTranscriptSpans_ok {selected spanIds : List String}
    {spans : List InvestigationTranscriptSpan}
    (h : checkTranscriptSpans selected spanIds spans = .ok ()) :
    (∀ span ∈ spans, span.spanId ∉ spanIds) ∧ (spans.map (·.spanId)).Nodup := by
  induction spans generalizing spanIds with
  | nil => exact ⟨nofun, List.nodup_nil⟩
  | cons span rest ih =>
      unfold checkTranscriptSpans at h
      obtain ⟨_, hvalid, h⟩ := bind_ok h
      obtain ⟨_, -, h⟩ := bind_ok h
      obtain ⟨hunseen, hnodup⟩ := ih h
      have hnew : span.spanId ∉ spanIds := fun hseen => require_ok hvalid (.inl hseen)
      refine ⟨?_, ?_⟩
      · intro other hother hseen
        rcases List.mem_cons.mp hother with rfl | hother
        · exact hnew hseen
        · exact hunseen other hother (List.mem_append_left _ hseen)
      · rw [List.map_cons, List.nodup_cons]
        refine ⟨fun hmem => ?_, hnodup⟩
        obtain ⟨other, hother, hid⟩ := List.mem_map.mp hmem
        refine hunseen other hother (List.mem_append_right _ ?_)
        rw [hid]
        exact List.mem_singleton_self _

/-! ## Sources -/

theorem PacketSourceKind.text_injective : Function.Injective PacketSourceKind.text := by
  intro kind kind' h
  cases kind <;> cases kind' <;> first | rfl | exact absurd h (by decide)

/-- A kind's name has no colon, so the first colon of a key ends it. -/
theorem PacketSource.kind_of_key (source : PacketSource) :
    source.key.toList.takeWhile (· ≠ ':') = source.kind.text.toList := by
  have hcolon : ∀ c ∈ source.kind.text.toList, decide (c ≠ ':') = true := by
    have hall : source.kind.text.toList.all (· ≠ ':') = true := by
      cases source.kind <;> decide
    exact List.all_eq_true.mp hall
  have hlist : source.key.toList =
      source.kind.text.toList ++ ':' :: source.sourceId.toList := by
    simp only [PacketSource.key, String.toList_append, List.append_assoc]
    rfl
  rw [hlist, List.takeWhile_append_of_pos hcolon]
  simp

theorem PacketSource.key_injective : Function.Injective PacketSource.key := by
  intro source source' h
  have hkind : source.kind = source'.kind := by
    apply PacketSourceKind.text_injective
    apply String.toList_inj.mp
    rw [← source.kind_of_key, ← source'.kind_of_key, h]
  have hlist := congrArg String.toList h
  simp only [PacketSource.key, String.toList_append, hkind] at hlist
  have hid := String.toList_inj.mp (List.append_cancel_left hlist)
  cases source
  cases source'
  cases hkind
  cases hid
  rfl

/-- A source is refused for a blank identity or for a key met before. -/
theorem checkSources_error {keys : List String} {sources : List PacketSource} {message : String}
    (h : checkSources keys sources = .error message) :
    (∃ source ∈ sources, Js.trim source.sourceId = "") ∨
      ¬ (keys ++ sources.map PacketSource.key).Nodup := by
  induction sources generalizing keys with
  | nil => cases h
  | cons source rest ih =>
      unfold checkSources at h
      by_cases hblank : Js.trim source.sourceId = ""
      · exact .inl ⟨source, List.mem_cons_self .., hblank⟩
      by_cases hseen : source.key ∈ keys
      · refine .inr fun hnodup => ?_
        exact (List.nodup_append.mp hnodup).2.2 _ hseen _ (List.mem_cons_self ..) rfl
      · have hpassed : demand (¬ (Js.trim source.sourceId = "" ∨ source.key ∈ keys))
            "AI packet contains an invalid or duplicate source" = .ok () :=
          if_pos (not_or.mpr ⟨hblank, hseen⟩)
        rw [hpassed] at h
        rcases ih h with ⟨other, hother, hblank'⟩ | hdup
        · exact .inl ⟨other, List.mem_cons_of_mem _ hother, hblank'⟩
        · rw [List.append_assoc] at hdup
          exact .inr hdup

/-- Sources with one kind and distinct identities. -/
theorem nodup_sources {α : Type} {kind : PacketSourceKind} {id : α → String} {items : List α}
    (h : (items.map id).Nodup) : (items.map fun a => PacketSource.mk kind (id a)).Nodup := by
  have hid : (items.map fun a => PacketSource.mk kind (id a)).map PacketSource.sourceId =
      items.map id := by
    rw [List.map_map]
    rfl
  exact List.Nodup.of_map _ (hid ▸ h)

/-- Where the packet comes from, and what its sources are called. -/
structure Provenance (l : CoverageLedger) (sha256 : JsVal → String)
    (packet : InvestigationPacket) : Prop where
  evidence : (packet.evidence.map (·.artifactId)).Nodup
  transcriptSpans : (packet.transcriptSpans.map (·.spanId)).Nodup
  observations : (packet.observations.map (·.observationId)).Nodup
  measurements : (packet.measurements.map (·.measurementId)).Nodup
  limitations : (packet.limitations.map (·.limitationId)).Nodup
  coverage : (packet.coverage.map (·.coverageEntryId)).Nodup
  current : ∀ areaId module,
    packet.coverage.filter (fun e => (e.areaId, e.module) = (areaId, module)) =
      (l.latestEntry areaId module).toList
  limited : ∀ areaId module,
    (∃ x ∈ packet.limitations, x.areaId = areaId ∧ x.module = module) ↔
      ∃ e, l.latestEntry areaId module = some e ∧
        (e.state = .access_limited ∨ e.state = .inaccessible)
  /-- A request is refused for a source only when its identity is blank. -/
  prepared : validateMinimizedPacket (minimizedPacket sha256 packet) =
      .error "AI packet contains an invalid or duplicate source" →
    ∃ source ∈ packet.allSources, Js.trim source.sourceId = ""

theorem nodup_allSources {packet : InvestigationPacket}
    (evidence : (packet.evidence.map (·.artifactId)).Nodup)
    (transcriptSpans : (packet.transcriptSpans.map (·.spanId)).Nodup)
    (observations : (packet.observations.map (·.observationId)).Nodup)
    (measurements : (packet.measurements.map (·.measurementId)).Nodup)
    (limitations : (packet.limitations.map (·.limitationId)).Nodup)
    (coverage : (packet.coverage.map (·.coverageEntryId)).Nodup) : packet.allSources.Nodup := by
  unfold InvestigationPacket.allSources
  -- Sources of different kinds differ, so only the kinds themselves matter.
  refine .append (.append (.append (.append (.append (nodup_sources evidence)
    (nodup_sources transcriptSpans) ?_) (nodup_sources observations) ?_)
    (nodup_sources measurements) ?_) (nodup_sources limitations) ?_) (nodup_sources coverage) ?_
  all_goals
    intro source hleft hright
    simp only [List.mem_append, List.mem_map] at hleft hright
    obtain ⟨_, -, rfl⟩ := hright
    simp at hleft

theorem demand_error {p : Prop} [Decidable p] {message message' : String}
    (h : demand p message = .error message') : message' = message := by
  unfold demand at h
  split at h
  · cases h
  · cases h
    rfl

/-- A sequence that throws threw in its first step or in the rest. -/
theorem error_of_bind {α β : Type} {x : Except String α} {f : α → Except String β}
    {message : String} (h : (x >>= f) = .error message) :
    x = .error message ∨ ∃ a, f a = .error message := by
  cases x with
  | error e =>
      cases h
      exact .inl rfl
  | ok a => exact .inr ⟨a, h⟩

/-- Distinct sources are refused only for a blank identity. -/
theorem validate_refuses {packet : MinimizedAiPacket} (hnodup : packet.redactedSources.Nodup)
    (h : validateMinimizedPacket packet =
      .error "AI packet contains an invalid or duplicate source") :
    ∃ source ∈ packet.redactedSources, Js.trim source.sourceId = "" := by
  unfold validateMinimizedPacket at h
  rcases error_of_bind h with hopaque | ⟨_, h⟩
  · exact absurd (demand_error hopaque) (by decide)
  rcases error_of_bind h with hidentity | ⟨_, h⟩
  · exact absurd (demand_error hidentity) (by decide)
  rcases checkSources_error h with hblank | hdup
  · exact hblank
  · refine absurd ?_ hdup
    rw [List.nil_append]
    exact hnodup.map PacketSource.key_injective

/-! ## Packets -/

/-- What a created packet took from its investigation and its ledger. -/
theorem createInvestigationPacket_ok {hash : InvestigationPacketContent → String}
    {input : CreateInvestigationPacket} {packet : InvestigationPacket}
    (h : createInvestigationPacket host hash input = .ok packet) :
    packet.evidence = (orderedInvestigationEvidence host input.investigation).filter
        (fun item => item.artifactId ∈ input.selectedArtifactIds) ∧
      packet.measurements = input.investigation.measurements ∧
      packet.observations = input.investigation.observations ∧
      (packet.transcriptSpans.map (·.spanId)).Nodup ∧
      packet.coverage = currentCoverageEntries host input.coverageLedger ∧
      packet.limitations = input.coverageLedger.listed := by
  unfold createInvestigationPacket at h
  obtain ⟨_, -, h⟩ := bind_ok h
  obtain ⟨_, -, h⟩ := bind_ok h
  obtain ⟨_, -, h⟩ := bind_ok h
  obtain ⟨_, -, h⟩ := bind_ok h
  obtain ⟨_, -, h⟩ := bind_ok h
  obtain ⟨_, hcontext, h⟩ := bind_ok h
  cases h
  unfold validatePacketContext at hcontext
  obtain ⟨_, -, hcontext⟩ := bind_ok hcontext
  obtain ⟨_, -, hcontext⟩ := bind_ok hcontext
  obtain ⟨_, -, hcontext⟩ := bind_ok hcontext
  obtain ⟨_, -, hcontext⟩ := bind_ok hcontext
  obtain ⟨_, -, hcontext⟩ := bind_ok hcontext
  obtain ⟨_, hspans, -⟩ := bind_ok hcontext
  exact ⟨rfl, rfl, rfl, (checkTranscriptSpans_ok hspans).2, rfl, rfl⟩

/-- **Provenance.** A packet of a reachable investigation and a reachable ledger has
unambiguous sources exactly when no two pairs share the identity of their current
entries or of their active limitations. -/
theorem packet_provenance_iff {hash : InvestigationPacketContent → String}
    {sha256 : JsVal → String} {v : Session} {input : CreateInvestigationPacket}
    {packet : InvestigationPacket}
    (hv : (investigationSystem host).Reachable TSys.any v)
    (hl : coverageSystem.Reachable TSys.any input.coverageLedger)
    (hinvestigation : input.investigation = v.state)
    (h : createInvestigationPacket host hash input = .ok packet) :
    Provenance input.coverageLedger sha256 packet ↔ DistinctRecords input.coverageLedger := by
  obtain ⟨hevidence, hmeasurements, hobservations, hspans, hcoverage, hlimitations⟩ :=
    createInvestigationPacket_ok h
  have hi := (investigation_laws hv).1
  rw [← hinvestigation] at hi
  have hledger := coverage_inductive.invariant hl
  constructor
  · intro hp
    refine ⟨(nodup_coverageIds_iff host hledger).mp ?_, (nodup_limitationIds_iff hledger).mp ?_⟩
    · rw [← hcoverage]
      exact hp.coverage
    · rw [← hlimitations]
      exact hp.limitations
  · intro hd
    have hartifacts : (packet.evidence.map (·.artifactId)).Nodup := by
      have hperm : (orderedInvestigationEvidence host input.investigation).Perm
          input.investigation.evidence := List.mergeSort_perm _ _
      rw [hevidence]
      exact ((hperm.map _).nodup_iff.mpr hi.artifactIds).sublist
        (List.filter_sublist.map _)
    have hmeasured : (packet.measurements.map (·.measurementId)).Nodup :=
      hmeasurements ▸ hi.measurementIds
    have hobserved : (packet.observations.map (·.observationId)).Nodup :=
      hobservations ▸ hi.observationIds
    have hlimited : (packet.limitations.map (·.limitationId)).Nodup :=
      hlimitations ▸ (nodup_limitationIds_iff hledger).mpr hd.limitations
    have hcovered : (packet.coverage.map (·.coverageEntryId)).Nodup :=
      hcoverage ▸ (nodup_coverageIds_iff host hledger).mpr hd.entries
    exact {
      evidence := hartifacts
      transcriptSpans := hspans
      observations := hobserved
      measurements := hmeasured
      limitations := hlimited
      coverage := hcovered
      current := fun areaId module => hcoverage ▸ current_of_pair host hledger areaId module
      limited := fun areaId module => hlimitations ▸ listed_iff_limited hledger areaId module
      prepared := validate_refuses
        (nodup_allSources hartifacts hspans hobserved hmeasured hlimited hcovered) }

namespace Sample

/-- The roof void, inspected for timber pests under the identity of another entry. -/
def pestCommand : CoverageCommand :=
  { revisitCommand with
    expectedRevision := 1
    module := .timber_pest
    state := .inspected
    detail := none
    revisitItemId := none }

/-- The roof void, with an entry for each of its modules. -/
def repeated : CoverageLedger := revisitLedger.recorded pestCommand "module-timber-pest"

theorem repeated_reachable : coverageSystem.Reachable TSys.any repeated := by
  have hrecorded : recordAreaCoverage revisitLedger pestCommand = .ok repeated := rfl
  exact revisitLedger_reachable.step trivial (.inl hrecorded)

def packetInput : CreateInvestigationPacket where
  packetId := "packet"
  packetRevision := 1
  investigation := (closed .plain).state
  coverageLedger := repeated
  selectedArtifactIds := []
  transcriptSpans := none
  contradictions := none
  priorInspectorFeedback := none
  moduleSchemas := [⟨⟨.building, "module-building"⟩, "one"⟩]
  versionPins := ⟨"model", "prompt", []⟩
  unknowns := []
  createdAt := "2026-07-14T08:50:00.000+10:00"

/-- A hash of the right form. -/
def digest : String := String.ofList (List.replicate 64 '0')

theorem no_evidence :
    orderedInvestigationEvidence .plain packetInput.investigation = [] := List.mergeSort_nil

theorem current_repeated :
    currentCoverageEntries .plain packetInput.coverageLedger = repeated.entries := by
  have hvalues : (entryMap repeated.entries).values = repeated.entries := by decide +kernel
  show currentCoverageEntries .plain repeated = _
  rw [currentCoverageEntries, hvalues]
  exact List.mergeSort_of_pairwise (by decide +kernel)

theorem packet_provenance_repeated :
    (createInvestigationPacket .plain (fun _ => digest) packetInput).isOk = true ∧
      ∀ packet, createInvestigationPacket .plain (fun _ => digest) packetInput = .ok packet →
        (Provenance repeated (fun _ => digest) packet ↔ DistinctRecords repeated) := by
  refine ⟨?_, fun packet h =>
    packet_provenance_iff (closed_reachable .plain) repeated_reachable rfl h⟩
  unfold createInvestigationPacket
  simp only [no_evidence]
  decide +kernel

/-- The message a packet is refused with. -/
def refusal : Except String Unit → Option String
  | .ok _ => none
  | .error message => some message

/-- Both entries of the roof void go by one identity, and the request is refused. -/
theorem repeated_refused :
    (investigationSystem .plain).Reachable TSys.any (closed .plain) ∧
      coverageSystem.Reachable TSys.any repeated ∧
      (createInvestigationPacket .plain (fun _ => digest) packetInput).toOption.map
        (fun packet => (packet.allSources.map PacketSource.key,
          refusal (validateMinimizedPacket (minimizedPacket (fun _ => digest) packet)))) =
        some (["observation:observation", "coverage:coverage-building-roof",
            "coverage:coverage-building-roof"],
          some "AI packet contains an invalid or duplicate source") := by
  refine ⟨closed_reachable .plain, repeated_reachable, ?_⟩
  unfold createInvestigationPacket
  simp only [no_evidence, current_repeated]
  decide +kernel

end Sample

end InspectionHub.Inspection
