import InspectionHub.Domain.Checkpoint
import InspectionHub.Domain.ModuleState
import InspectionHub.Domain.UpcastHistory
import InspectionHub.Lib.Views

/-!
# Module independence of replay

Replayed on its own, a module is a small machine: a status, the two pointers
and a count, moved by the events tagged with the module (`replayModuleEvent`).
The projection carries the machine's state of each module in its part for the
module, whatever else stands in the history: an event tagged with the other
module, or with none, leaves the part as it is (`watches_module`). So the part
is computed from the module's own events (`module_replayed`), and histories
that agree on those agree on it (`replay_module_independent`).
-/

namespace InspectionHub.Domain

open Contracts Schema

variable {env : Env}

/-! ## What the replay reads of an event -/

/-- An event as the replay reads it for a module: its type and its metadata. -/
structure EventReading where
  eventType : String
  metadata : String → Option JsVal

/-- The metadata under `key`, when it is text. -/
def EventReading.text (e : EventReading) (key : String) : Option String :=
  match e.metadata key with
  | some (.str s) => some s
  | _ => none

/-- `metadataString`: the text under `key`, when there is some. -/
def EventReading.nonEmpty (e : EventReading) (key : String) : Option String :=
  (e.text key).filter (· ≠ "")

/-- The reading of an event tagged with the module. -/
def EventReading.ofModule (m : ModuleType) (e : EventReading) : Option EventReading :=
  if e.text "module" = some m.text then some e else none

/-- The reading of an event in the current schema. -/
def currentReading (event : JsVal) : EventReading :=
  ⟨eventTypeText event, fun k => (event.get? "safeMetadata").bind fun m => m.get? k⟩

/-- The reading of a stored event, of either schema. -/
def storedReading (event : JsVal) : EventReading :=
  ⟨(storedEventType event).getD "", storedMetadata event⟩

/-- The events of a stored history tagged with the module, in order. -/
def moduleEvents (m : ModuleType) (history : List Document) : List EventReading :=
  history.filterMap fun e => (storedReading e.val).ofModule m

/-! ## A module on its own -/

inductive ProjectedModuleStatus where
  | not_started
  | inspection_in_progress
  | inspection_completed
  | approved
  | amendment_pending
  | withdrawn
deriving DecidableEq

def ProjectedModuleStatus.text : ProjectedModuleStatus → String
  | .not_started => "not_started"
  | .inspection_in_progress => "inspection_in_progress"
  | .inspection_completed => "inspection_completed"
  | .approved => "approved"
  | .amendment_pending => "amendment_pending"
  | .withdrawn => "withdrawn"

/-- A module's part of the projection. -/
structure ModuleReplayProjection where
  status : ProjectedModuleStatus
  currentSnapshotId : Option String
  currentApprovalId : Option String
  amendmentCount : Int

namespace ModuleReplayProjection

/-- The part of a module nothing has happened to. -/
def initial : ModuleReplayProjection := ⟨.not_started, none, none, 0⟩

def nullableText (s : Option String) : JsVal := (s.map JsVal.str).getD .null

/-- The part as the projection of the module's name holds it. -/
def json (m : ModuleType) (p : ModuleReplayProjection) : JsVal :=
  .obj [("module", .str m.text), ("status", .str p.status.text),
    ("currentSnapshotId", nullableText p.currentSnapshotId),
    ("currentApprovalId", nullableText p.currentApprovalId), ("amendmentCount", p.amendmentCount)]

end ModuleReplayProjection

/-- One event of the module's own history. -/
def replayModuleEvent (p : ModuleReplayProjection) (e : EventReading) :
    Option ModuleReplayProjection :=
  match e.eventType with
  | "inspection.module_started" => some { p with status := .inspection_in_progress }
  | "inspection.module_completed" => some { p with status := .inspection_completed }
  | "approval.module_approved" => do
      let snapshotId ← e.nonEmpty "snapshotId"
      let approvalId ← e.nonEmpty "approvalId"
      some { p with status := .approved, currentSnapshotId := some snapshotId,
                    currentApprovalId := some approvalId }
  | "amendment.module_amended" => do
      let replacementId ← e.nonEmpty "replacementSnapshotId"
      some { p with status := .amendment_pending, currentSnapshotId := some replacementId,
                    currentApprovalId := none, amendmentCount := p.amendmentCount + 1 }
  | "approval.module_withdrawn" => some { p with status := .withdrawn, currentApprovalId := none }
  | _ => some p

/-! ## The part of the projection -/

/-- The key of `projection.modules` for the module. -/
def moduleKey : ModuleType → String
  | .building => "building"
  | .timber_pest => "timberPest"

theorem moduleKey_injective {m m' : ModuleType} (h : moduleKey m = moduleKey m') : m = m' := by
  cases m <;> cases m' <;> simp [moduleKey] at h ⊢

/-- `projection.modules[key]`. -/
def partAt (projection : JsVal) (key : String) : Option JsVal :=
  (projection.get? "modules").bind fun modules => modules.get? key

/-- `moduleProjection`. -/
def moduleProjection (projection : JsVal) (m : ModuleType) : Option JsVal :=
  partAt projection (moduleKey m)

/-- Setting a property reads back, and leaves the other ones. -/
theorem get?_assign {v : JsVal} {k k' : String} {w x : JsVal} (hv : v.get? k = some w) :
    (JsVal.obj (v.fields.assign k' x)).get? k = if k = k' then some x else some w := by
  cases v with
  | obj l =>
      show (Fields.assign l k' x).lookup k = _
      rw [Fields.lookup_assign]
      show (if k = k' then some x else (JsVal.obj l).get? k) = _
      rw [hv]
  | _ => cases hv

theorem partAt_assign {v : JsVal} {key k : String} {w x : JsVal} (hk : k ≠ "modules")
    (hv : partAt v key = some w) : partAt (.obj (v.fields.assign k x)) key = some w := by
  obtain ⟨modules, hmodules, hpart⟩ := Option.bind_eq_some_iff.mp hv
  rw [partAt, get?_assign hmodules, if_neg (Ne.symm hk)]
  exact hpart

theorem readProp_ok {v w : JsVal} {k : String} (h : readProp v k = .ok w) : v.get? k = some w := by
  unfold readProp at h
  split at h
  · next x hx => rw [hx, Except.ok.inj h]
  · cases h

variable {key : String}

/-- An update of a module patches the part under its key and keeps the other. -/
theorem updateModule_ok {v w : JsVal} {patch : Fields} (h : updateModule v key patch = .ok w)
    {key' : String} {part : JsVal} (hpart : partAt v key' = some part) :
    partAt w key' = some (if key' = key then .obj (part.fields.spread patch) else part) := by
  obtain ⟨modules, hmodules, h⟩ := bind_ok h
  obtain ⟨current, hcurrent, h⟩ := bind_ok h
  cases h
  have hmodules := readProp_ok hmodules
  have hcurrent := readProp_ok hcurrent
  rw [partAt, hmodules] at hpart
  have hpart : modules.get? key' = some part := hpart
  rw [partAt, get?_assign hmodules, if_pos rfl]
  show (JsVal.obj (modules.fields.assign key _)).get? key' = _
  rw [get?_assign hpart]
  by_cases hkey : key' = key
  · subst hkey
    rw [hpart] at hcurrent
    rw [if_pos rfl, if_pos rfl, Option.some.inj hcurrent]
  · rw [if_neg hkey, if_neg hkey]

/-! ## One event -/

theorem currentReading_text (event : JsVal) (key : String) :
    (currentReading event).text key = event.strAt? ["safeMetadata", key] := by
  show _ = (event.get? "safeMetadata").bind fun w => w.str? key
  unfold EventReading.text currentReading
  cases event.get? "safeMetadata" with
  | none => rfl
  | some w => rfl

theorem metadataString_ok {event v : JsVal} (h : metadataString event key = .ok v) :
    ∃ s, (currentReading event).nonEmpty key = some s ∧ v = .str s := by
  unfold metadataString at h
  rw [← currentReading_text] at h
  split at h
  · next s hs =>
      split at h
      · cases h
      · next hne =>
          cases h
          refine ⟨s, ?_, rfl⟩
          rw [EventReading.nonEmpty, hs]
          simp [hne]
  · cases h

/-- An event that updates a module is tagged with it. -/
theorem metadataModule_ok {event : JsVal} (h : metadataModule event = .ok key) :
    ∃ m : ModuleType, key = moduleKey m ∧
      (currentReading event).text "module" = some m.text := by
  unfold metadataModule at h
  rw [← currentReading_text] at h
  split at h
  · next htag =>
      cases h
      exact ⟨.building, rfl, htag⟩
  · next htag =>
      cases h
      exact ⟨.timber_pest, rfl, htag⟩
  · cases h

theorem moduleText_injective {m m' : ModuleType} (h : m.text = m'.text) : m = m' := by
  cases m <;> cases m' <;> simp [ModuleType.text] at h ⊢

/-- The projection carries the module's part. -/
def Carries (m : ModuleType) (p : ModuleReplayProjection) (projection : JsVal) : Prop :=
  moduleProjection projection m = some (p.json m)

/-- The event moves the module's part as the module's own machine moves. -/
structure Moves (m : ModuleType) (p : ModuleReplayProjection) (event projection : JsVal) :
    Prop where
  tagged : (currentReading event).text "module" = some m.text →
    ∃ p', replayModuleEvent p (currentReading event) = some p' ∧ Carries m p' projection
  untagged : (currentReading event).text "module" ≠ some m.text → Carries m p projection

variable {p : ModuleReplayProjection} {m : ModuleType}

/-- Neither the module's own machine nor its part takes note of the event. -/
theorem Moves.idle {event w : JsVal}
    (hmachine : replayModuleEvent p (currentReading event) = some p) (hcarries : Carries m p w) :
    Moves m p event w := ⟨fun _ => ⟨p, hmachine, hcarries⟩, fun _ => hcarries⟩

variable {event v w : JsVal}

/-- An event that patches the part of the module it names. -/
theorem moves_update {patch : Fields} (hkey : metadataModule event = .ok key)
    (hcarries : Carries m p v) (h : updateModule v key patch = .ok w)
    (hown : key = moduleKey m → ∃ p', replayModuleEvent p (currentReading event) = some p' ∧
      .obj ((p.json m).fields.spread patch) = p'.json m) : Moves m p event w := by
  obtain ⟨m', rfl, htag⟩ := metadataModule_ok hkey
  have hpart := updateModule_ok h hcarries
  by_cases hm : m = m'
  · subst hm
    obtain ⟨p', hmachine, hpatch⟩ := hown rfl
    rw [if_pos rfl, hpatch] at hpart
    exact ⟨fun _ => ⟨p', hmachine, hpart⟩, fun hne => absurd htag hne⟩
  · -- the patch goes to the other module's part
    rw [if_neg fun hsame => hm (moduleKey_injective hsame)] at hpart
    refine ⟨fun htagged => ?_, fun _ => hpart⟩
    rw [htag] at htagged
    exact absurd (moduleText_injective (Option.some.inj htagged)).symm hm

theorem statusCases_idle {eventType : String} {c : String × String}
    (h : statusCases.lookup eventType = some c) :
    c.1 ≠ "modules" ∧ ∀ p metadata, replayModuleEvent p ⟨eventType, metadata⟩ = some p := by
  obtain ⟨l₁, l₂, hl, -⟩ := List.lookup_eq_some_iff.mp h
  have hmem : (eventType, c) ∈ statusCases := by
    rw [hl]
    exact List.mem_append_right _ List.mem_cons_self
  simp only [statusCases, List.mem_cons, List.not_mem_nil, or_false, Prod.mk.injEq] at hmem
  rcases hmem with ⟨rfl, rfl⟩ | ⟨rfl, rfl⟩ | ⟨rfl, rfl⟩ | ⟨rfl, rfl⟩ | ⟨rfl, rfl⟩ | ⟨rfl, rfl⟩ |
    ⟨rfl, rfl⟩ | ⟨rfl, rfl⟩ | ⟨rfl, rfl⟩ | ⟨rfl, rfl⟩ <;>
    exact ⟨by decide, fun _ _ => rfl⟩

/-- What the module's own machine does with an event of the type. -/
theorem replayModuleEvent_of {event : JsVal} {eventType : String}
    (htype : eventTypeText event = eventType) (p : ModuleReplayProjection) :
    replayModuleEvent p (currentReading event) =
      replayModuleEvent p ⟨eventType, (currentReading event).metadata⟩ := by
  rw [← htype]
  rfl

theorem moves_moduleEvent (hcarries : Carries m p v) (h : applyModuleEvent v event = .ok w) :
    Moves m p event w := by
  unfold applyModuleEvent at h
  split at h
  · next htype =>
      obtain ⟨key, hkey, h⟩ := bind_ok h
      refine moves_update hkey hcarries h fun _ => ?_
      exact ⟨{ p with status := .inspection_in_progress }, replayModuleEvent_of htype p, rfl⟩
  · next htype =>
      obtain ⟨key, hkey, h⟩ := bind_ok h
      refine moves_update hkey hcarries h fun _ => ?_
      exact ⟨{ p with status := .inspection_completed }, replayModuleEvent_of htype p, rfl⟩
  · next htype =>
      obtain ⟨snapshotId, hsnapshot, h⟩ := bind_ok h
      obtain ⟨approvalId, happroval, h⟩ := bind_ok h
      obtain ⟨key, hkey, h⟩ := bind_ok h
      obtain ⟨s, hs, rfl⟩ := metadataString_ok hsnapshot
      obtain ⟨a, ha, rfl⟩ := metadataString_ok happroval
      refine moves_update hkey hcarries h fun _ => ?_
      refine ⟨⟨.approved, some s, some a, p.amendmentCount⟩, ?_, rfl⟩
      rw [replayModuleEvent_of htype]
      show ((currentReading event).nonEmpty "snapshotId").bind (fun s =>
        ((currentReading event).nonEmpty "approvalId").bind fun a => some _) = _
      rw [hs, ha]
      rfl
  · next htype =>
      obtain ⟨key, hkey, h⟩ := bind_ok h
      obtain ⟨modules, hmodules, h⟩ := bind_ok h
      obtain ⟨current, hcurrent, h⟩ := bind_ok h
      obtain ⟨replacementId, hreplacement, h⟩ := bind_ok h
      obtain ⟨amendmentCount, hcount, h⟩ := bind_ok h
      obtain ⟨s, hs, rfl⟩ := metadataString_ok hreplacement
      refine moves_update hkey hcarries h fun hown => ?_
      -- the count is read off the part the event patches
      have hpart : some current = some (p.json m) := by
        rw [← readProp_ok hcurrent, ← hcarries, moduleProjection, partAt, readProp_ok hmodules,
          hown]
        rfl
      rw [Option.some.inj hpart] at hcount
      obtain rfl := Except.ok.inj hcount
      refine ⟨⟨.amendment_pending, some s, none, p.amendmentCount + 1⟩, ?_, rfl⟩
      rw [replayModuleEvent_of htype]
      show ((currentReading event).nonEmpty "replacementSnapshotId").bind (fun s => some _) = _
      rw [hs]
      rfl
  · next htype =>
      obtain ⟨key, hkey, h⟩ := bind_ok h
      refine moves_update hkey hcarries h fun _ => ?_
      exact ⟨{ p with status := .withdrawn, currentApprovalId := none },
        replayModuleEvent_of htype p, rfl⟩
  · next htype =>
      obtain ⟨ids, hids, h⟩ := bind_ok h
      obtain ⟨checkpointId, hcheckpoint, h⟩ := bind_ok h
      cases h
      exact .idle (replayModuleEvent_of htype p) (partAt_assign (by decide) hcarries)
  · next h₁ h₂ h₃ h₄ h₅ h₆ =>
      cases h
      refine .idle ?_ hcarries
      unfold replayModuleEvent
      split
      · exact absurd ‹_› h₁
      · exact absurd ‹_› h₂
      · exact absurd ‹_› h₃
      · exact absurd ‹_› h₄
      · exact absurd ‹_› h₅
      · rfl

/-- **One event.** The part of a module moves with the events tagged with it
and with no other. -/
theorem applyEvent_moves (hcarries : Carries m p v) (h : applyEvent v event = .ok w) :
    Moves m p event w := by
  have hnext : Carries m p
      (.obj ((v.fields.assign "revision" (prop event "aggregateVersion")).assign
        "lastEventId" (prop event "eventId"))) :=
    partAt_assign (v := .obj (v.fields.assign "revision" (prop event "aggregateVersion")))
      (by decide) (partAt_assign (by decide) hcarries)
  unfold applyEvent at h
  dsimp only at h
  split at h
  · next key status hcase =>
      obtain ⟨hkey, hidle⟩ := statusCases_idle hcase
      cases h
      have hpart := partAt_assign (x := .str status) hkey hnext
      exact .idle ((replayModuleEvent_of rfl p).trans (hidle p _)) hpart
  · exact moves_moduleEvent hnext h

/-! ## A whole history -/

/-- The module's own machine watches the replay through the events tagged with
the module. -/
theorem watches_module (m : ModuleType) :
    Views.Watches applyEvent (fun event => (currentReading event).ofModule m) replayModuleEvent
      (Carries m) where
  seen := by
    intro p v w event reading hcarries hstep hread
    unfold EventReading.ofModule at hread
    split at hread
    · next htag =>
        rw [← Option.some.inj hread]
        exact (applyEvent_moves hcarries hstep).tagged htag
    · cases hread
  unseen := by
    intro p v w event hcarries hstep hread
    unfold EventReading.ofModule at hread
    split at hread
    · cases hread
    · next htag => exact (applyEvent_moves hcarries hstep).untagged htag

theorem initialProjection_carries (m : ModuleType) (event : JsVal) :
    Carries m .initial (initialProjection event) := by
  cases m <;> rfl

/-- An envelope has the properties of the draft it is made of. -/
theorem createEventEnvelope_get? {l : Fields} {previous : Option JsVal} {c : JsVal}
    (hl : IsDraft env.formats l) (h : createEventEnvelope env (.obj l) previous = .ok c)
    {k : String} {s : Schema} (hk : (k, s) ∈ eventDraftFields env.formats)
    (hseal : k ∉ ["payloadHash", "previousEventHash", "eventHash"]) :
    c.get? k = (JsVal.obj l).get? k := by
  simp only [List.mem_cons, List.not_mem_nil, or_false, not_or] at hseal
  obtain ⟨hpayload, hprevious, hhash⟩ := hseal
  -- whatever is added to the draft, the envelope parses the draft's own value
  have parsed : ∀ {x y z : JsVal},
      parse (eventEnvelopeV1Schema env.formats (.obj (((l.assign "payloadHash" x).assign
        "previousEventHash" y).assign "eventHash" z))) = .ok c →
      c.get? k = (JsVal.obj l).get? k := by
    intro x y z hparse
    obtain ⟨v, w, hv, hw, hvw⟩ := strictObject_get (eventEnvelopeFields_nodup env.formats)
      (parse_ok hparse) (k := k) (s := s) (List.mem_append_left _ hk)
    obtain ⟨own, hown, hself⟩ := hl.fits.get (eventDraftFields_nodup env.formats) hk
    have hread : v = own := by
      have hlookup : (((l.assign "payloadHash" x).assign "previousEventHash" y).assign
          "eventHash" z).lookup k = some v := hv
      rw [Fields.lookup_assign, if_neg hhash, Fields.lookup_assign, if_neg hprevious,
        Fields.lookup_assign, if_neg hpayload, hown] at hlookup
      exact (Option.some.inj hlookup).symm
    rw [hread, hself] at hvw
    rw [hw, ← Except.ok.inj hvw]
    exact hown.symm
  obtain ⟨draft, hdraft, h⟩ := bind_ok h
  have hparsed : eventDraftV1Schema env.formats (.obj l) = .ok (.obj l) :=
    hl.fits.strictObject (eventDraftFields_nodup env.formats)
  rw [parse_ok hdraft |>.symm.trans hparsed |> Except.ok.inj] at h
  cases previous with
  | none =>
      obtain ⟨_, -, h⟩ := bind_ok h
      exact parsed h
  | some q =>
      obtain ⟨_, -, h⟩ := bind_ok h
      obtain ⟨_, -, h⟩ := bind_ok h
      obtain ⟨_, -, h⟩ := bind_ok h
      exact parsed h

/-- Upcasting keeps what the replay reads of an event. -/
theorem upcastStep_reading {done next : List JsVal} {e : Document}
    (h : upcastStep env done e = .ok next) :
    ∃ c, next = c :: done ∧ currentReading c = storedReading e.val := by
  obtain ⟨draft, hdraft, h⟩ := bind_ok h
  obtain ⟨c, hc, h⟩ := bind_ok h
  cases h
  refine ⟨c, rfl, ?_⟩
  have hupcasts : Upcasts env e := ⟨_, draft, hdraft⟩
  obtain ⟨l, hl, hagain, hmigrated⟩ := exists_draft hupcasts
  obtain rfl : JsVal.obj l = draft := Except.ok.inj ((hagain _).symm.trans hdraft)
  have htype := createEventEnvelope_get? hl hc (k := "eventType") (by simp [eventDraftFields]; rfl)
    (by decide)
  have hmetadata := createEventEnvelope_get? hl hc (k := "safeMetadata")
    (by simp [eventDraftFields]; rfl) (by decide)
  have hsameType : eventTypeText c = (storedEventType e.val).getD "" := by
    rw [← hmigrated.eventType, eventTypeText, JsVal.str?, JsVal.str?, htype]
  have hsameMetadata : (fun k => (c.get? "safeMetadata").bind fun m => m.get? k) =
      storedMetadata e.val := by
    funext k
    rw [hmetadata]
    exact hmigrated.metadata k
  rw [currentReading, storedReading, hsameType, hsameMetadata]

theorem upcastLoop_readings {events : List Document} {done next : List JsVal}
    (h : events.foldlM (upcastStep env) done = .ok next) :
    next.reverse.map currentReading =
      done.reverse.map currentReading ++ events.map fun e => storedReading e.val := by
  induction events generalizing done with
  | nil =>
      cases h
      simp
  | cons e rest ih =>
      rw [List.foldlM_cons] at h
      obtain ⟨mid, hstep, h⟩ := bind_ok h
      obtain ⟨c, rfl, hc⟩ := upcastStep_reading hstep
      rw [ih h]
      simp [hc]

variable {history : List Document}

theorem upcastEventStream_readings {events : List JsVal}
    (h : upcastEventStream env history = .ok events) :
    events.map currentReading = history.map fun e => storedReading e.val := by
  obtain ⟨_, -, h⟩ := bind_ok h
  obtain ⟨done, hdone, h⟩ := bind_ok h
  cases h
  exact upcastLoop_readings hdone

/-- The events of the module, read off the history or off its upcast. -/
theorem moduleEvents_upcast (m : ModuleType) {events : List JsVal}
    (h : upcastEventStream env history = .ok events) :
    events.filterMap (fun event => (currentReading event).ofModule m) = moduleEvents m history := by
  have hmap := congrArg (List.filterMap (EventReading.ofModule m)) (upcastEventStream_readings h)
  rw [List.filterMap_map, List.filterMap_map] at hmap
  exact hmap

variable {r : JsVal}

/-- **The module on its own.** The replay's part of a module is what the
module's own machine makes of the events tagged with it. -/
theorem module_replayed (m : ModuleType) (h : replayInspectionProjection env history none = .ok r) :
    ∃ p, (moduleEvents m history).foldlM replayModuleEvent .initial = some p ∧
      moduleProjection r m = some (p.json m) := by
  obtain ⟨events, hevents, h⟩ := bind_ok h
  obtain ⟨_, -, h⟩ := bind_ok h
  rw [← moduleEvents_upcast m hevents]
  have hfold : reduceEvents events none = .ok r := h
  cases events with
  | nil => cases hfold
  | cons e rest => exact (watches_module m).run (initialProjection_carries m e) hfold

/-- Like projections have like parts. -/
theorem moduleProjection_alike {v w part : JsVal} (h : Alike v w)
    (hpart : moduleProjection v m = some part) :
    ∃ part', moduleProjection w m = some part' ∧ Alike part part' := by
  obtain ⟨modules, hmodules, hpart⟩ := Option.bind_eq_some_iff.mp hpart
  obtain ⟨modules', hmodules', halike⟩ := h.get?_some hmodules
  obtain ⟨part', hpart', hparts⟩ := halike.get?_some hpart
  exact ⟨part', Option.bind_eq_some_iff.mpr ⟨modules', hmodules', hpart'⟩, hparts⟩

/-- A replay, resumed or not, has the module's part up to the order of its
properties. -/
theorem module_resumed (hinj : Function.Injective env.digest) (m : ModuleType)
    {checkpoint : Option JsData}
    (h : replayInspectionProjection env history (checkpoint.map (·.val)) = .ok r) :
    ∃ p part, (moduleEvents m history).foldlM replayModuleEvent .initial = some p ∧
      moduleProjection r m = some part ∧ Same part (p.json m) := by
  cases checkpoint with
  | none =>
      obtain ⟨p, hp, hpart⟩ := module_replayed m h
      exact ⟨p, _, hp, hpart, Same.refl _⟩
  | some c =>
      obtain ⟨full, hfull, halike⟩ := resumed_alike hinj h
      obtain ⟨p, hp, hpart⟩ := module_replayed m hfull
      obtain ⟨part, hresumed, hparts⟩ := moduleProjection_alike halike.symm hpart
      exact ⟨p, part, hp, hresumed, hparts.same.symm⟩

variable (env) in
/-- **Module independence.** The part of a module depends on the events tagged
with it alone: accepted histories that agree on those have equal parts, and
parts of like content where a checkpoint was resumed from. -/
theorem replay_module_independent (m : ModuleType) {history history' : List Document}
    (hsame : moduleEvents m history = moduleEvents m history') :
    (∀ r r', replayInspectionProjection env history none = .ok r →
      replayInspectionProjection env history' none = .ok r' →
      ∃ part, moduleProjection r m = some part ∧ moduleProjection r' m = some part) ∧
    (Function.Injective env.digest → ∀ (checkpoint checkpoint' : Option JsData) (r r' : JsVal),
      replayInspectionProjection env history (checkpoint.map (·.val)) = .ok r →
      replayInspectionProjection env history' (checkpoint'.map (·.val)) = .ok r' →
      ∃ part part', moduleProjection r m = some part ∧ moduleProjection r' m = some part' ∧
        Same part part') := by
  refine ⟨fun r r' hr hr' => ?_, fun hinj checkpoint checkpoint' r r' hr hr' => ?_⟩
  · obtain ⟨p, hp, hpart⟩ := module_replayed m hr
    obtain ⟨p', hp', hpart'⟩ := module_replayed m hr'
    rw [hsame, hp'] at hp
    rw [Option.some.inj hp] at hpart'
    exact ⟨p.json m, hpart, hpart'⟩
  · obtain ⟨p, part, hp, hpart, hown⟩ := module_resumed hinj m hr
    obtain ⟨p', part', hp', hpart', hown'⟩ := module_resumed hinj m hr'
    rw [hsame, hp'] at hp
    rw [Option.some.inj hp] at hown'
    exact ⟨part, part', hpart, hpart', hown.trans hown'.symm⟩

/-! ## Two histories of one pest inspection

One history starts the building inspection too. The pest parts are one, the
building parts two.
-/

variable {ls : List Fields}

/-- Contiguous drafts are the upcast of a stored history. -/
theorem exists_history (hdigest : HexDigest env) (hls : ∀ l ∈ ls, IsDraft env.formats l)
    (hids : Contiguous none (identities ls)) :
    ∃ history : List Document, history.map Document.val = chainFrom env .null ls ∧
      upcastEventStream env history = .ok (chainFrom env .null ls) := by
  obtain ⟨docs, hdocs⟩ := exists_documents hdigest hls (p := .null) rfl
  obtain ⟨t, ht⟩ := verify_fold hdigest hls (fun _ => rfl) .start hids hdocs
  have hok : verifyStoredEventChain env docs = .ok () := by
    rw [verifyStoredEventChain, verifyLoop, ht]
    rfl
  exact ⟨docs, hdocs, upcastEventStream_of hdigest hok (chainFrom_drafts hls hdocs) hids⟩

/-- The events of the module, read off the drafts of a history. -/
theorem moduleEvents_drafts (m : ModuleType) (hls : ∀ l ∈ ls, IsDraft env.formats l) {p : JsVal}
    (h : history.map Document.val = chainFrom env p ls) :
    moduleEvents m history = ls.filterMap fun l => (currentReading (.obj l)).ofModule m := by
  induction ls generalizing p history with
  | nil =>
      rw [chainFrom, List.map_eq_nil_iff] at h
      rw [h]
      rfl
  | cons l ls ih =>
      rw [chainFrom, List.map_eq_cons_iff] at h
      obtain ⟨e, rest, rfl, he, hrest⟩ := h
      have hread : storedReading e.val = currentReading (.obj l) := by
        have hcurrent := envelope_current (hls l List.mem_cons_self) p
        have hmetadata : storedMetadata (.obj (envelope env l p)) =
            fun k => ((JsVal.obj l).get? "safeMetadata").bind fun m => m.get? k := by
          funext k
          rw [storedMetadata, if_neg (by simp [hcurrent]), envelope_get? l p (by decide)]
        rw [he, storedReading, storedEventType, if_neg (by simp [hcurrent]), hmetadata,
          envelope_str? l p (by decide)]
        rfl
      rw [moduleEvents, List.filterMap_cons, List.filterMap_cons, hread, ← moduleEvents,
        ih (fun x hx => hls x (List.mem_cons_of_mem _ hx)) hrest]

namespace PaddedKey

/-- The booking's event again, of another version, type and metadata. -/
def draftOf (aggregateVersion : Int) (eventType : String) (safeMetadata : Fields) : Fields :=
  (((fieldsWith "booking-1").assign "aggregateVersion" aggregateVersion).assign "eventType"
    (.str eventType)).assign "safeMetadata" (.obj safeMetadata)

def started (aggregateVersion : Int) (m : ModuleType) : Fields :=
  draftOf aggregateVersion "inspection.module_started" [("module", .str m.text)]

def pestOnly : List Fields := [draftOf 1 "booking.created" [], started 2 .timber_pest]

def bothStarted : List Fields :=
  [draftOf 1 "booking.created" [], started 2 .building, started 3 .timber_pest]

theorem isDraft_of {l : Fields} (hplain : (JsVal.obj l).plain = true)
    (h : eventDraftV1Schema hexHost.formats (.obj l) = .ok (.obj l)) :
    IsDraft hexHost.formats l := by
  obtain ⟨l', hl', hdraft⟩ := eventDraft_parsed hexHost.formats hplain h
  cases hl'
  exact hdraft

theorem bothStarted_drafts : ∀ l ∈ bothStarted, IsDraft hexHost.formats l := by
  intro l hl
  simp only [bothStarted, List.mem_cons, List.not_mem_nil, or_false] at hl
  rcases hl with rfl | rfl | rfl
  · exact isDraft_of (by decide) rfl
  · exact isDraft_of (by decide) rfl
  · exact isDraft_of (by decide) rfl

theorem pestOnly_drafts : ∀ l ∈ pestOnly, IsDraft hexHost.formats l := by
  intro l hl
  simp only [pestOnly, List.mem_cons, List.not_mem_nil, or_false] at hl
  rcases hl with rfl | rfl
  · exact isDraft_of (by decide) rfl
  · exact isDraft_of (by decide) rfl

theorem replayed_of (h : upcastEventStream hexHost history = .ok (chainFrom hexHost .null ls))
    (hne : chainFrom hexHost .null ls ≠ [])
    (hr : reduceEvents (chainFrom hexHost .null ls) none = .ok r) :
    replayInspectionProjection hexHost history none = .ok r := by
  rw [replayInspectionProjection, bind_of h, bind_of (requireIntegrity_of hne _ _)]
  exact hr

/-- Starting the building inspection leaves the pest part as it is. -/
theorem replay_module_independent_started :
    ∃ (history history' : List Document) (r r' part : JsVal),
    history.length = 2 ∧ history'.length = 3 ∧
    replayInspectionProjection hexHost history none = .ok r ∧
    replayInspectionProjection hexHost history' none = .ok r' ∧
    moduleProjection r .timber_pest = some part ∧ moduleProjection r' .timber_pest = some part := by
  obtain ⟨history, hdocs, hup⟩ := exists_history hexHost_digest pestOnly_drafts
    ⟨rfl, rfl, trivial⟩
  obtain ⟨history', hdocs', hup'⟩ := exists_history hexHost_digest bothStarted_drafts
    ⟨rfl, rfl, rfl, trivial⟩
  obtain ⟨r, hr⟩ : ∃ r, replayInspectionProjection hexHost history none = .ok r :=
    ⟨_, replayed_of hup (by simp [chainFrom, pestOnly]) rfl⟩
  obtain ⟨r', hr'⟩ : ∃ r, replayInspectionProjection hexHost history' none = .ok r :=
    ⟨_, replayed_of hup' (by simp [chainFrom, bothStarted]) rfl⟩
  have hsame : moduleEvents .timber_pest history = moduleEvents .timber_pest history' := by
    rw [moduleEvents_drafts _ pestOnly_drafts hdocs,
      moduleEvents_drafts _ bothStarted_drafts hdocs']
    rfl
  obtain ⟨part, hpart, hpart'⟩ :=
    (replay_module_independent hexHost .timber_pest hsame).1 r r' hr hr'
  have hlength := congrArg List.length hdocs
  have hlength' := congrArg List.length hdocs'
  rw [List.length_map] at hlength hlength'
  exact ⟨history, history', r, r', part, hlength, hlength', hr, hr', hpart, hpart'⟩

end PaddedKey

end InspectionHub.Domain
