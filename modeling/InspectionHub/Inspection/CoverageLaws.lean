import InspectionHub.Inspection.Coverage
import InspectionHub.Lib.Register
import InspectionHub.Lib.TSys

/-!
# The laws of the coverage ledger

The limitations and the revisits of a ledger are registers: a judgement about
a pair closes what is open there and opens at most one record. What is open
for a pair is therefore told by its latest entry, and the completion gate,
which looks at recorded keys and open revisits, tells exactly whether every
applicable pair is settled.
-/

namespace InspectionHub.Inspection

open Domain Register

variable {host : Js.Host} {l l' : CoverageLedger} {c : CoverageCommand}

/-! ## The ledger by pairs -/

/-- The entries of an area and a module, oldest first. -/
def CoverageLedger.entriesOf (l : CoverageLedger) (areaId : String) (module : ModuleType) :
    List CoverageEntry :=
  l.entries.filter fun e => e.areaId = areaId && e.module = module

def CoverageLedger.latestEntry (l : CoverageLedger) (areaId : String) (module : ModuleType) :
    Option CoverageEntry :=
  (l.entriesOf areaId module).getLast?

def CoverageLedger.activeLimitations (l : CoverageLedger) (areaId : String)
    (module : ModuleType) : List CoverageLimitation :=
  l.limitations.filter fun x => x.areaId = areaId && x.module = module && x.status = .active

def CoverageLedger.openRevisits (l : CoverageLedger) (areaId : String) (module : ModuleType) :
    List CoverageRevisitItem :=
  l.revisitItems.filter fun x => x.areaId = areaId && x.module = module && x.status = .opened

/-- What a ledger holds about one area and one module. -/
structure PairLaws (l : CoverageLedger) (areaId : String) (module : ModuleType) : Prop where
  one_limitation : (l.activeLimitations areaId module).length ≤ 1
  one_revisit : (l.openRevisits areaId module).length ≤ 1
  limitation_iff : l.activeLimitations areaId module ≠ [] ↔
    ∃ e, l.latestEntry areaId module = some e ∧
      (e.state = .access_limited ∨ e.state = .inaccessible)
  revisit_iff : l.openRevisits areaId module ≠ [] ↔
    ∃ e, l.latestEntry areaId module = some e ∧ e.state = .revisit
  revisions : (l.entriesOf areaId module).map (·.revision) =
    List.range' 1 (l.entriesOf areaId module).length

/-- Every applicable pair has a latest entry that asks for no revisit. -/
def Settled (l : CoverageLedger) : Prop :=
  ∀ area ∈ l.areas, ∀ module ∈ area.applicableModules,
    ∃ e, l.latestEntry area.areaId module = some e ∧ e.state ≠ .revisit

/-! ## Runs -/

/-- A ledger that was created, and what a command leaves of it; a rejected
command leaves it as it is. -/
def coverageSystem : TSys CoverageLedger CoverageCommand where
  Init l := ∃ input, createCoverageLedger input = .ok l
  Step l c l' := recordAreaCoverage l c = .ok l' ∨
    (∃ e, recordAreaCoverage l c = .error e) ∧ l' = l

/-! ## The registers

The source files its records under the area and the identity of the module.
-/

def entryRegister : Register (String × String) CoverageEntry where
  key e := (e.areaId, e.moduleId)
  isOpen _ := false

def limitationRegister : Register (String × String) CoverageLimitation where
  key x := (x.areaId, x.moduleId)
  isOpen x := x.status = .active

def revisitRegister : Register (String × String) CoverageRevisitItem where
  key x := (x.areaId, x.moduleId)
  isOpen x := x.status = .opened

def CoverageLimitation.supersede (at_ : String) (x : CoverageLimitation) : CoverageLimitation :=
  { x with status := .superseded, supersededAt := some at_ }

def CoverageRevisitItem.resolve (at_ : String) (x : CoverageRevisitItem) : CoverageRevisitItem :=
  { x with status := .resolved, resolvedAt := some at_ }

/-- The latest entry under a key is in a state that satisfies `p`. -/
def LatestIs (p : AreaCoverageState → Prop) (l : CoverageLedger) (k : String × String) : Prop :=
  ∃ e, (entryRegister.under k l.entries).getLast? = some e ∧ p e.state

/-- What every reachable ledger satisfies. -/
structure LedgerInv (l : CoverageLedger) : Prop where
  modules : (l.commissionedModules.map (·.module)).Nodup
  moduleIds : (l.commissionedModules.map (·.moduleId)).Nodup
  areaIds : (l.areas.map (·.areaId)).Nodup
  applicable : ∀ area ∈ l.areas, ∀ m ∈ area.applicableModules,
    ∃ reference ∈ l.commissionedModules, reference.module = m
  entries : ∀ e ∈ l.entries, ⟨e.module, e.moduleId⟩ ∈ l.commissionedModules
  limitations : ∀ x ∈ l.limitations, ⟨x.module, x.moduleId⟩ ∈ l.commissionedModules
  revisits : ∀ x ∈ l.revisitItems, ⟨x.module, x.moduleId⟩ ∈ l.commissionedModules ∧
    ∃ area ∈ l.areas, area.areaId = x.areaId ∧ x.module ∈ area.applicableModules
  active : ∀ k, limitationRegister.OpenWhen k (LatestIs (·.limited) l k) l.limitations
  opened : ∀ k, revisitRegister.OpenWhen k (LatestIs (· = .revisit) l k) l.revisitItems
  numbered : ∀ k, (entryRegister.under k l.entries).map (·.revision) =
    List.range' 1 (entryRegister.under k l.entries).length

/-! ## Creation -/

theorem checkAreas_ok {modules : List ProfessionalModuleReference} :
    ∀ {seen : List String} {areas : List InspectionArea},
      checkAreas modules seen areas = .ok () →
      (∀ area ∈ areas, area.areaId ∉ seen) ∧ (areas.map (·.areaId)).Nodup ∧
        ∀ area ∈ areas, ∀ m ∈ area.applicableModules,
          ∃ reference ∈ modules, reference.module = m := by
  intro seen areas h
  induction areas generalizing seen with
  | nil => simp
  | cons area rest ih =>
      unfold checkAreas at h
      obtain ⟨_, hnew, h⟩ := bind_ok h
      have hnew := require_ok hnew
      split at h
      · cases h
      next hfind =>
      obtain ⟨hseen, hnodup, happlicable⟩ := ih h
      have hrest : ∀ a ∈ rest, a.areaId ≠ area.areaId := fun a ha e =>
        hseen a ha (by simp [e])
      refine ⟨?_, ?_, ?_⟩
      · intro a ha
        rcases List.mem_cons.mp ha with rfl | ha
        · exact hnew
        · exact fun hmem => hseen a ha (List.mem_append_left _ hmem)
      · rw [List.map_cons, List.nodup_cons]
        refine ⟨?_, hnodup⟩
        rintro hmem
        obtain ⟨a, ha, he⟩ := List.mem_map.mp hmem
        exact hrest a ha he
      · intro a ha
        rcases List.mem_cons.mp ha with rfl | ha
        · intro m hm
          have hm := List.find?_eq_none.mp hfind m hm
          simpa using hm
        · exact happlicable a ha

theorem ledgerInv_create {input : CoverageLedgerInput} (h : createCoverageLedger input = .ok l) :
    LedgerInv l := by
  unfold createCoverageLedger at h
  obtain ⟨_, -, h⟩ := bind_ok h
  obtain ⟨_, hunique, h⟩ := bind_ok h
  obtain ⟨hmodules, hids⟩ := require_ok hunique
  obtain ⟨_, hareas, h⟩ := bind_ok h
  obtain ⟨-, hnodup, happlicable⟩ := checkAreas_ok hareas
  cases h
  have nothing : ∀ {p : AreaCoverageState → Prop} {k : String × String},
      ¬ LatestIs p ⟨input.organizationId, input.jobId, input.commissionedModules, input.areas,
        0, [], [], []⟩ k := by
    rintro p k ⟨e, he, -⟩
    simp at he
  exact {
    modules := hmodules
    moduleIds := hids
    areaIds := hnodup
    applicable := happlicable
    entries := nofun
    limitations := nofun
    revisits := nofun
    active := fun k => ⟨fun hk => absurd hk nothing, fun _ => rfl⟩
    opened := fun k => ⟨fun hk => absurd hk nothing, fun _ => rfl⟩
    numbered := fun k => by simp }

/-! ## Recording -/

/-- Everything an accepted command passed, and the ledger it leaves. -/
theorem record_ok (h : recordAreaCoverage l c = .ok l') :
    ∃ area ∈ l.areas, ∃ reference ∈ l.commissionedModules,
      area.areaId = c.areaId ∧ reference.module = c.module ∧
      (c.module ∈ area.applicableModules ∨ c.state = .not_applicable) ∧
      (c.state.limited → ∃ id, c.limitationId = some id) ∧
      (c.state = .revisit → ∃ id, c.revisitItemId = some id) ∧
      l' = l.recorded c reference.moduleId := by
  unfold recordAreaCoverage at h
  obtain ⟨_, -, h⟩ := bind_ok h
  split at h
  · cases h
  next area harea =>
  split at h
  · cases h
  next reference hreference =>
  obtain ⟨_, happlicable, h⟩ := bind_ok h
  obtain ⟨_, -, h⟩ := bind_ok h
  obtain ⟨_, hlimitation, h⟩ := bind_ok h
  obtain ⟨_, hrevisit, h⟩ := bind_ok h
  cases h
  refine ⟨area, List.mem_of_find?_eq_some harea, reference,
    List.mem_of_find?_eq_some hreference, by simpa using List.find?_some harea,
    by simpa using List.find?_some hreference, require_ok happlicable, ?_, ?_, rfl⟩
  · intro hlimited
    exact Option.ne_none_iff_exists'.mp fun hnone => require_ok hlimitation ⟨hlimited, hnone⟩
  · intro hstate
    exact Option.ne_none_iff_exists'.mp fun hnone => require_ok hrevisit ⟨hstate, hnone⟩

section Recorded

variable (l) (c) (moduleId : String)

/-- The limitation a judgement opens, if any. -/
def addedLimitation (c : CoverageCommand) (moduleId : String) : Option CoverageLimitation :=
  if c.state.limited then
    c.limitationId.map fun limitationId =>
      { areaId := c.areaId, limitationId, module := c.module, moduleId
        description := c.trimmedDetail, material := c.material.getD true
        recordedAt := c.recordedAt, status := .active, supersededAt := none }
  else none

/-- The revisit a judgement opens, if any. -/
def addedRevisit (c : CoverageCommand) (moduleId : String) : Option CoverageRevisitItem :=
  if c.state = .revisit then
    c.revisitItemId.map fun revisitItemId =>
      { areaId := c.areaId, module := c.module, moduleId, reason := c.trimmedDetail
        revisitItemId, openedAt := c.recordedAt, status := .opened, resolvedAt := none }
  else none

theorem addedLimitation_spec {c : CoverageCommand} {moduleId : String} {x : CoverageLimitation}
    (h : x ∈ addedLimitation c moduleId) :
    x.areaId = c.areaId ∧ x.module = c.module ∧ x.moduleId = moduleId ∧ x.status = .active := by
  unfold addedLimitation at h
  split at h
  · obtain ⟨_, -, rfl⟩ := Option.map_eq_some_iff.mp h
    exact ⟨rfl, rfl, rfl, rfl⟩
  · cases h

theorem addedRevisit_spec {c : CoverageCommand} {moduleId : String} {x : CoverageRevisitItem}
    (h : x ∈ addedRevisit c moduleId) :
    x.areaId = c.areaId ∧ x.module = c.module ∧ x.moduleId = moduleId ∧ x.status = .opened ∧
      c.state = .revisit := by
  unfold addedRevisit at h
  split at h
  · next hstate =>
      obtain ⟨_, -, rfl⟩ := Option.map_eq_some_iff.mp h
      exact ⟨rfl, rfl, rfl, rfl, hstate⟩
  · cases h

theorem recorded_limitations : (l.recorded c moduleId).limitations =
    limitationRegister.record (c.areaId, moduleId) (·.supersede c.recordedAt)
      (addedLimitation c moduleId) l.limitations := by
  simp only [CoverageLedger.recorded, record, supersede, limitationRegister, addedLimitation,
    CoverageLimitation.supersede, Prod.mk.injEq, Bool.decide_and]

theorem recorded_revisitItems : (l.recorded c moduleId).revisitItems =
    revisitRegister.record (c.areaId, moduleId) (·.resolve c.recordedAt)
      (addedRevisit c moduleId) l.revisitItems := by
  simp only [CoverageLedger.recorded, record, supersede, revisitRegister, addedRevisit,
    CoverageRevisitItem.resolve, Prod.mk.injEq, Bool.decide_and]

/-- The entry a judgement appends, with the number its pair has reached. -/
theorem recorded_entries : ∃ e : CoverageEntry,
    (l.recorded c moduleId).entries = l.entries ++ [e] ∧
      e.areaId = c.areaId ∧ e.module = c.module ∧ e.moduleId = moduleId ∧ e.state = c.state ∧
      e.revision = (entryRegister.under (c.areaId, moduleId) l.entries).length + 1 := by
  refine ⟨_, rfl, rfl, rfl, rfl, rfl, ?_⟩
  simp only [under, entryRegister, Prod.mk.injEq, Bool.decide_and]

theorem latestIs_recorded (p : AreaCoverageState → Prop) (k : String × String) :
    LatestIs p (l.recorded c moduleId) k ↔
      if k = (c.areaId, moduleId) then p c.state else LatestIs p l k := by
  obtain ⟨e, hentries, harea, -, hid, hstate, -⟩ := recorded_entries l c moduleId
  have hkey : entryRegister.key e = (c.areaId, moduleId) := by rw [← harea, ← hid]; rfl
  rw [LatestIs, hentries, under_append, under_singleton, hkey]
  by_cases h : k = (c.areaId, moduleId)
  · rw [if_pos h, if_pos h.symm]
    simp [hstate]
  · rw [if_neg h, if_neg fun he => h he.symm, List.append_nil, LatestIs]

end Recorded

/-- **One judgement.** An accepted command keeps every law of the ledger. -/
theorem ledgerInv_record (hi : LedgerInv l) (h : recordAreaCoverage l c = .ok l') :
    LedgerInv l' := by
  obtain ⟨area, harea, reference, hreference, hareaId, hmodule, happlicable, hlimitation, hrevisit,
    rfl⟩ := record_ok h
  obtain ⟨e, hentries, hearea, hem, heid, -, hrevision⟩ :=
    recorded_entries l c reference.moduleId
  have hcommissioned : ⟨c.module, reference.moduleId⟩ ∈ l.commissionedModules := by
    rw [← hmodule]
    exact hreference
  refine {
    modules := hi.modules
    moduleIds := hi.moduleIds
    areaIds := hi.areaIds
    applicable := hi.applicable
    entries := ?_
    limitations := ?_
    revisits := ?_
    active := ?_
    opened := ?_
    numbered := ?_ }
  · intro x hx
    rw [hentries] at hx
    rcases List.mem_append.mp hx with hx | hx
    · exact hi.entries x hx
    · rw [List.mem_singleton.mp hx, hem, heid]
      exact hcommissioned
  · intro x hx
    rw [recorded_limitations] at hx
    rcases mem_record hx with hx | ⟨y, hy, rfl⟩ | hx
    · exact hi.limitations x hx
    · exact hi.limitations y hy
    · obtain ⟨-, hxm, hxid, -⟩ := addedLimitation_spec hx
      rw [hxm, hxid]
      exact hcommissioned
  · intro x hx
    rw [recorded_revisitItems] at hx
    rcases mem_record hx with hx | ⟨y, hy, rfl⟩ | hx
    · exact hi.revisits x hx
    · exact hi.revisits y hy
    · obtain ⟨hxa, hxm, hxid, -, hstate⟩ := addedRevisit_spec hx
      rw [hxm, hxid]
      refine ⟨hcommissioned, area, harea, hareaId.trans hxa.symm, ?_⟩
      exact happlicable.resolve_right (by rw [hstate]; nofun)
  · intro k
    rw [recorded_limitations]
    have hkey : ∀ x : CoverageLimitation,
        limitationRegister.key (x.supersede c.recordedAt) = limitationRegister.key x := fun _ => rfl
    have hclosed : ∀ x : CoverageLimitation,
        limitationRegister.isOpen (x.supersede c.recordedAt) = false := fun _ => rfl
    refine openWhen_record _ hkey hclosed ?_ (hi.active k)
      (latestIs_recorded l c reference.moduleId _ k) ?_ ?_
    · intro x hx
      obtain ⟨hxa, -, hxid, hxs⟩ := addedLimitation_spec hx
      exact ⟨Prod.ext hxa hxid, decide_eq_true hxs⟩
    · intro hlimited
      obtain ⟨id, hid⟩ := hlimitation hlimited
      rw [addedLimitation, if_pos hlimited, hid]
      rfl
    · exact fun hlimited => if_neg hlimited
  · intro k
    rw [recorded_revisitItems]
    have hkey : ∀ x : CoverageRevisitItem,
        revisitRegister.key (x.resolve c.recordedAt) = revisitRegister.key x := fun _ => rfl
    have hclosed : ∀ x : CoverageRevisitItem,
        revisitRegister.isOpen (x.resolve c.recordedAt) = false := fun _ => rfl
    refine openWhen_record _ hkey hclosed ?_ (hi.opened k)
      (latestIs_recorded l c reference.moduleId _ k) ?_ ?_
    · intro x hx
      obtain ⟨hxa, -, hxid, hxs, -⟩ := addedRevisit_spec hx
      exact ⟨Prod.ext hxa hxid, decide_eq_true hxs⟩
    · intro hstate
      obtain ⟨id, hid⟩ := hrevisit hstate
      rw [addedRevisit, if_pos hstate, hid]
      rfl
    · exact fun hstate => if_neg hstate
  · intro k
    rw [hentries, under_append, under_singleton]
    split
    · next hk =>
        have hkey : k = (c.areaId, reference.moduleId) := by
          rw [← hk]
          exact Prod.ext hearea heid
        rw [List.map_append, hi.numbered k, List.length_append, List.length_singleton,
          List.range'_concat, hkey, List.map_singleton, hrevision, Nat.add_comm, Nat.one_mul]
    · rw [List.append_nil]
      exact hi.numbered k

theorem coverage_inductive : coverageSystem.Inductive TSys.any LedgerInv where
  init := by
    rintro l ⟨input, h⟩
    exact ledgerInv_create h
  step := by
    intro l c l' hi _ hstep
    rcases hstep with h | ⟨-, rfl⟩
    · exact ledgerInv_record hi h
    · exact hi

/-! ## From identities to modules

Among commissioned modules the type and the identity name the same module, so
filing by the one is filing by the other.
-/

/-- A record of the pair is filed under the identity of its module. -/
theorem moduleId_iff (hi : LedgerInv l) {reference r : ProfessionalModuleReference}
    (hreference : reference ∈ l.commissionedModules) (hr : r ∈ l.commissionedModules) :
    r.module = reference.module ↔ r.moduleId = reference.moduleId := by
  constructor
  · intro h
    rw [List.inj_on_of_nodup_map hi.modules hr hreference h]
  · intro h
    rw [List.inj_on_of_nodup_map hi.moduleIds hr hreference h]

variable (l)

variable {reference : ProfessionalModuleReference}

/-- Filtering by area and module is reading the register under the identity. -/
theorem entriesOf_eq (hi : LedgerInv l) (hreference : reference ∈ l.commissionedModules)
    (areaId : String) :
    l.entriesOf areaId reference.module =
      entryRegister.under (areaId, reference.moduleId) l.entries := by
  apply List.filter_congr
  intro e he
  simp only [entryRegister, Prod.mk.injEq, Bool.decide_and,
    moduleId_iff hi hreference (hi.entries e he)]

theorem activeLimitations_eq (hi : LedgerInv l) (hreference : reference ∈ l.commissionedModules)
    (areaId : String) :
    l.activeLimitations areaId reference.module =
      limitationRegister.openUnder (areaId, reference.moduleId) l.limitations := by
  apply List.filter_congr
  intro x hx
  simp only [limitationRegister, Prod.mk.injEq, Bool.decide_and,
    moduleId_iff hi hreference (hi.limitations x hx)]

theorem openRevisits_eq (hi : LedgerInv l) (hreference : reference ∈ l.commissionedModules)
    (areaId : String) :
    l.openRevisits areaId reference.module =
      revisitRegister.openUnder (areaId, reference.moduleId) l.revisitItems := by
  apply List.filter_congr
  intro x hx
  simp only [revisitRegister, Prod.mk.injEq, Bool.decide_and,
    moduleId_iff hi hreference (hi.revisits x hx).1]

variable {l}

/-- Nothing is filed about a module that is not commissioned. -/
theorem pair_empty (hi : LedgerInv l) {module : ModuleType}
    (hmodule : ∀ reference ∈ l.commissionedModules, reference.module ≠ module) (areaId : String) :
    l.entriesOf areaId module = [] ∧ l.activeLimitations areaId module = [] ∧
      l.openRevisits areaId module = [] := by
  refine ⟨?_, ?_, ?_⟩
  · refine List.filter_eq_nil_iff.mpr fun e he => ?_
    simp [hmodule _ (hi.entries e he)]
  · refine List.filter_eq_nil_iff.mpr fun x hx => ?_
    simp [hmodule _ (hi.limitations x hx)]
  · refine List.filter_eq_nil_iff.mpr fun x hx => ?_
    simp [hmodule _ (hi.revisits x hx).1]

/-- The laws of one pair. -/
theorem pairLaws_of (hi : LedgerInv l) (areaId : String) (module : ModuleType) :
    PairLaws l areaId module := by
  by_cases hmodule : ∃ reference ∈ l.commissionedModules, reference.module = module
  · obtain ⟨reference, hreference, rfl⟩ := hmodule
    have hactive := hi.active (areaId, reference.moduleId)
    have hopened := hi.opened (areaId, reference.moduleId)
    refine ⟨?_, ?_, ?_, ?_, ?_⟩
    · rw [activeLimitations_eq l hi hreference]
      exact hactive.length_le_one
    · rw [openRevisits_eq l hi hreference]
      exact hopened.length_le_one
    · rw [activeLimitations_eq l hi hreference, hactive.ne_nil_iff, CoverageLedger.latestEntry,
        entriesOf_eq l hi hreference]
      simp only [LatestIs, AreaCoverageState.limited, Bool.or_eq_true, decide_eq_true_eq]
    · rw [openRevisits_eq l hi hreference, hopened.ne_nil_iff, CoverageLedger.latestEntry,
        entriesOf_eq l hi hreference]
      exact Iff.rfl
    · rw [entriesOf_eq l hi hreference]
      exact hi.numbered _
  · have hnone : ∀ reference ∈ l.commissionedModules, reference.module ≠ module :=
      fun reference hreference h => hmodule ⟨reference, hreference, h⟩
    obtain ⟨hentries, hlimitations, hrevisits⟩ := pair_empty hi hnone areaId
    refine ⟨?_, ?_, ?_, ?_, ?_⟩ <;>
      simp [CoverageLedger.latestEntry, hentries, hlimitations, hrevisits]

/-! ## The completion gate -/

theorem coverageKey_injective {moduleId moduleId' areaId areaId' : String}
    (h : coverageKey moduleId areaId = coverageKey moduleId' areaId') :
    moduleId = moduleId' ∧ areaId = areaId' := by
  have hjson := Json.stringify_injective h
  simpa using hjson

/-- The gate finds a key when an entry of the pair was recorded. -/
theorem current_isSome_iff (host : Js.Host) (l : CoverageLedger) (moduleId areaId : String) :
    ((entryMap (currentCoverageEntries host l)).get? (coverageKey moduleId areaId)).isSome ↔
      entryRegister.under (areaId, moduleId) l.entries ≠ [] := by
  have hvalues : ∀ k, (∃ e ∈ currentCoverageEntries host l, coverageKey e.moduleId e.areaId = k) ↔
      ((entryMap l.entries).get? k).isSome := by
    intro k
    rw [← Table.exists_value_iff]
    simp only [currentCoverageEntries, List.mem_mergeSort]
  rw [entryMap, Table.isSome_foldl_put, hvalues, entryMap, Table.isSome_foldl_put]
  simp only [Table.get?_empty, Option.isSome_none, Bool.false_eq_true, or_false, ne_eq, under,
    List.filter_eq_nil_iff, decide_eq_true_eq, not_forall, not_not, exists_prop, entryRegister,
    Prod.mk.injEq]
  constructor
  · rintro ⟨e, he, hkey⟩
    obtain ⟨hid, harea⟩ := coverageKey_injective hkey
    exact ⟨e, he, harea, hid⟩
  · rintro ⟨e, he, harea, hid⟩
    exact ⟨e, he, by rw [harea, hid]⟩

/-- The gate reports nothing when every applicable pair has an entry and no
revisit is open. -/
theorem issues_nil_iff : coverageCompletionIssues host l = [] ↔
    (∀ area ∈ l.areas, ∀ module ∈ area.applicableModules, ∀ reference,
      l.commissionedModules.find? (fun r => r.module = module) = some reference →
        entryRegister.under (area.areaId, reference.moduleId) l.entries ≠ []) ∧
      ∀ x ∈ l.revisitItems, x.status ≠ .opened := by
  simp only [coverageCompletionIssues, List.append_eq_nil_iff, List.flatMap_eq_nil_iff]
  refine and_congr ?_ ?_
  · refine forall₂_congr fun area _ => forall₂_congr fun module _ => ?_
    split
    · next hfind => simp [hfind]
    · next reference hfind =>
        simp only [hfind, Option.some.injEq, forall_eq']
        rw [← current_isSome_iff host l, Option.isSome_iff_ne_none]
        simp
  · refine forall₂_congr fun x _ => ?_
    split
    · next h => simp [h]
    · next h => simp [h]

/-- The first reference to a commissioned module is the only one. -/
theorem find?_module (hi : LedgerInv l) (hreference : reference ∈ l.commissionedModules) :
    l.commissionedModules.find? (fun r => r.module = reference.module) = some reference := by
  cases hfind : l.commissionedModules.find? (fun r => r.module = reference.module) with
  | none =>
      have hnone := List.find?_eq_none.mp hfind reference hreference
      exact absurd (decide_eq_true rfl) hnone
  | some r =>
      have hmodule : r.module = reference.module := by simpa using List.find?_some hfind
      rw [List.inj_on_of_nodup_map hi.modules (List.mem_of_find?_eq_some hfind) hreference hmodule]

/-- The gate passes exactly the settled ledgers. -/
theorem issues_nil_iff_settled (hi : LedgerInv l) :
    coverageCompletionIssues host l = [] ↔ Settled l := by
  rw [issues_nil_iff]
  constructor
  · rintro ⟨hrecorded, hclosed⟩ area harea module hmodule
    obtain ⟨reference, hreference, rfl⟩ := hi.applicable area harea module hmodule
    have hne := hrecorded area harea _ hmodule reference (find?_module hi hreference)
    rw [← entriesOf_eq l hi hreference] at hne
    refine ⟨_, List.getLast?_eq_getLast_of_ne_nil hne, fun hstate => ?_⟩
    -- a latest entry that asks for a revisit left one open
    have hopen := (pairLaws_of hi area.areaId reference.module).revisit_iff.mpr
      ⟨_, List.getLast?_eq_getLast_of_ne_nil hne, hstate⟩
    obtain ⟨x, hx⟩ := List.exists_mem_of_ne_nil _ hopen
    simp only [CoverageLedger.openRevisits, List.mem_filter, Bool.and_eq_true,
      decide_eq_true_eq] at hx
    exact hclosed x hx.1 hx.2.2
  · intro hsettled
    refine ⟨?_, ?_⟩
    · intro area harea module hmodule reference hfind
      have hreference := List.mem_of_find?_eq_some hfind
      obtain rfl : reference.module = module := by simpa using List.find?_some hfind
      obtain ⟨e, he, -⟩ := hsettled area harea _ hmodule
      rw [CoverageLedger.latestEntry, entriesOf_eq l hi hreference] at he
      intro hnil
      rw [hnil] at he
      cases he
    · intro x hx hstatus
      -- an open revisit belongs to an applicable pair, whose latest entry asks for it
      obtain ⟨hcommissioned, area, harea, hareaId, hmodule⟩ := hi.revisits x hx
      obtain ⟨e, he, hstate⟩ := hsettled area harea _ hmodule
      have hopen : l.openRevisits area.areaId x.module ≠ [] := by
        refine List.ne_nil_of_mem (a := x) ?_
        simp [CoverageLedger.openRevisits, hx, hareaId, hstatus]
      obtain ⟨e', he', hstate'⟩ := (pairLaws_of hi area.areaId x.module).revisit_iff.mp hopen
      rw [he] at he'
      cases he'
      exact hstate hstate'

/-- **The coverage ledger.** In every reachable ledger each pair obeys its laws,
and the completion gate passes exactly when every applicable pair has a latest
entry that asks for no revisit. -/
theorem coverage_ledger_laws (h : coverageSystem.Reachable TSys.any l) :
    (∀ areaId module, PairLaws l areaId module) ∧
      (coverageCompletionIssues host l = [] ↔ Settled l) := by
  have hi := coverage_inductive.invariant h
  exact ⟨pairLaws_of hi, issues_nil_iff_settled hi⟩

namespace Sample

/-- One area that two modules inspect. -/
def coverageInput : CoverageLedgerInput where
  organizationId := "organization"
  jobId := "job"
  commissionedModules := [⟨.building, "module-building"⟩, ⟨.timber_pest, "module-timber-pest"⟩]
  areas := [⟨"area-roof-void", "Roof void", [.building, .timber_pest]⟩]

/-- The roof void is to be revisited for one of them. -/
def revisitCommand : CoverageCommand where
  expectedRevision := 0
  coverageEntryId := "coverage-building-roof"
  areaId := "area-roof-void"
  module := .building
  state := .revisit
  detail := some "Return with a ladder."
  material := none
  recordedAt := "2026-07-14T08:30:00.000+10:00"
  inspectorId := "inspector"
  limitationId := none
  revisitItemId := some "revisit-roof"

def coverageLedger : CoverageLedger where
  organizationId := "organization"
  jobId := "job"
  commissionedModules := coverageInput.commissionedModules
  areas := coverageInput.areas
  revision := 0
  entries := []
  limitations := []
  revisitItems := []

def revisitLedger : CoverageLedger := coverageLedger.recorded revisitCommand "module-building"

theorem revisitLedger_reachable : coverageSystem.Reachable TSys.any revisitLedger := by
  have hcreated : createCoverageLedger coverageInput = .ok coverageLedger := rfl
  have hrecorded : recordAreaCoverage coverageLedger revisitCommand = .ok revisitLedger := rfl
  have hinit : coverageSystem.Init coverageLedger := ⟨coverageInput, hcreated⟩
  exact (TSys.Reachable.init hinit).step trivial (.inl hrecorded)

theorem coverage_ledger_laws_roof :
    (∀ areaId module, PairLaws revisitLedger areaId module) ∧
      (coverageCompletionIssues .plain revisitLedger = [] ↔ Settled revisitLedger) :=
  coverage_ledger_laws revisitLedger_reachable

end Sample

end InspectionHub.Inspection
