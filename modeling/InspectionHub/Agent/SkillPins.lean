import InspectionHub.Agent.CrashSafety
import InspectionHub.Lib.Throwing

/-!
# Pinned skills

A packet pins the versions of the skills its drafts are written with. What the
runner compares is the number of versions and that each is pinned, which makes
the two sets equal exactly if they have the same size. Every draft it later
loads for the packet was accepted so.
-/

namespace InspectionHub.Agent

open Domain (accept_ok parseAll)
open Inspection (InvestigationPacket)
open Schema (both_ok under_ok)
open Throwing (bind_ok)

/-! ## The comparison -/

/-- The lists hold the same versions. -/
def SameVersions (versions pins : List String) : Prop := ∀ v, v ∈ versions ↔ v ∈ pins

/-- The lists hold as many different versions. -/
def SameCount (versions pins : List String) : Prop := versions.dedup.length = pins.dedup.length

theorem sameVersions_iff {versions pins : List String} (h : ∀ v ∈ versions, v ∈ pins) :
    SameVersions versions pins ↔ SameCount versions pins := by
  have hsub : versions.toFinset ⊆ pins.toFinset := by
    intro v hv
    exact List.mem_toFinset.mpr (h v (List.mem_toFinset.mp hv))
  rw [SameCount, ← List.card_toFinset, ← List.card_toFinset]
  constructor
  · intro hsame
    exact congrArg Finset.card (Finset.ext fun v => by simpa using hsame v)
  · intro hcard v
    have heq := Finset.eq_of_subset_of_card_le hsub hcard.ge
    rw [← List.mem_toFinset, ← List.mem_toFinset, heq]

/-! ## What is accepted -/

theorem demand_ok {p : Prop} [Decidable p] {message : String} {u : Unit}
    (h : demand p message = .ok u) : p := by
  unfold demand at h
  split at h
  · assumption
  · cases h

theorem parseAll_map {α : Type} {f : α → Parsed α} {g : α → α} (hf : ∀ a b, f a = .ok b → b = g a)
    {i : Nat} {l r : List α} (h : parseAll f i l = .ok r) : r = l.map g := by
  induction l generalizing i r with
  | nil =>
      cases h
      rfl
  | cons a l ih =>
      obtain ⟨b, r', hb, hr, rfl⟩ := both_ok h
      rw [hf a b (under_ok hb), ih hr, List.map_cons]

/-- A parsed draft has its versions trimmed. -/
theorem parsed_skillVersions {d draft : InspectionDraft} (h : d.parse = .ok draft) :
    draft.skillVersions = d.skillVersions.map Js.trim := by
  unfold InspectionDraft.parse at h
  -- the fields are parsed in the order of the schema, the versions last
  obtain ⟨_, _, -, h, h1⟩ := both_ok h
  obtain ⟨_, _, -, h, h2⟩ := both_ok h
  obtain ⟨_, _, -, h, h3⟩ := both_ok h
  obtain ⟨_, _, -, h, h4⟩ := both_ok h
  obtain ⟨versions, _, hversions, h, h5⟩ := both_ok h
  obtain ⟨l, _, hl, -, hrefined⟩ := both_ok (under_ok hversions)
  subst h1 h2 h3 h4 h5 hrefined
  exact parseAll_map (fun a b hb => (accept_ok hb).1) hl

/-- What the runner has compared of a draft it accepts. -/
theorem acceptResult_ok {runner : InspectionDraftRunner} {packet : InvestigationPacket}
    {result : DraftModelResult} {draft : InspectionDraft}
    (h : acceptResult runner packet result = .ok draft) :
    draft.skillVersions = result.draft.skillVersions.map Js.trim ∧
      ∀ v ∈ draft.skillVersions, v ∈ packet.versionPins.skillVersions := by
  obtain ⟨_, -, h⟩ := bind_ok h
  obtain ⟨parsed, hparsed, h⟩ := bind_ok h
  obtain ⟨_, hpins, h⟩ := bind_ok h
  -- what was loaded is compared after the draft, for one architecture
  have hreturned : parsed = draft := by
    change (if runner.architecture = .agents_sdk then _ else _) = _ at h
    split at h
    · obtain ⟨_, -, h⟩ := bind_ok h
      exact Except.ok.inj h
    · exact Except.ok.inj h
  subst hreturned
  constructor
  · cases hparse : result.draft.parse with
    | error e =>
        rw [hparse] at hparsed
        cases hparsed
    | ok d =>
        rw [hparse] at hparsed
        cases hparsed
        exact parsed_skillVersions hparse
  · obtain ⟨_, -, hpins⟩ := bind_ok hpins
    obtain ⟨_, -, hpins⟩ := bind_ok hpins
    exact (demand_ok hpins).2

/-- An accepted draft has the versions pinned exactly if the model named as
many different ones. -/
theorem accepted_versions {runner : InspectionDraftRunner} {packet : InvestigationPacket}
    {result : DraftModelResult} {draft : InspectionDraft}
    (h : acceptResult runner packet result = .ok draft) :
    SameVersions draft.skillVersions packet.versionPins.skillVersions ↔
      SameCount (result.draft.skillVersions.map Js.trim) packet.versionPins.skillVersions := by
  obtain ⟨htrimmed, hpinned⟩ := acceptResult_ok h
  rw [← htrimmed]
  exact sameVersions_iff hpinned

/-! ## What is stored -/

variable {host : Host} {good : AgentRunIdentity → InspectionDraft → Prop}

/-- The drafts first stored in between are good ones. -/
def Writes (good : AgentRunIdentity → InspectionDraft → Prop) (s t : World) : Prop :=
  ∀ record, .persisted record ∈ t.trace →
    .persisted record ∈ s.trace ∨ good record.toAgentRunIdentity record.draft

theorem Writes.refl (s : World) : Writes good s s := fun _ => .inl

theorem Writes.trans {s t u : World} (h : Writes good s t) (h' : Writes good t u) :
    Writes good s u := fun record hrecord => (h' record hrecord).elim (h record) .inr

theorem Writes.traced {s t : World} (h : t.trace = s.trace) : Writes good s t := by
  intro record hrecord
  rw [h] at hrecord
  exact .inl hrecord

/-- A step that first stores good drafts only. -/
abbrev Stores (good : AgentRunIdentity → InspectionDraft → Prop) {ε α : Type} (x : Tx ε World α) :
    Prop := Tx.Within (Writes good) x

namespace Stores

variable {ε α β : Type}

variable {x : Tx ε World α}

theorem quiet (h : Quiet x) : Stores good x := fun s => .traced (h s).2

theorem pure (a : α) : Stores good (Pure.pure a : Tx ε World α) := Writes.refl

theorem throw (e : ε) : Stores good (MonadExcept.throw e : Tx ε World α) := Writes.refl

theorem bind {f : α → Tx ε World β} (hx : Stores good x) (hf : ∀ a, Stores good (f a)) :
    Stores good (x >>= f) :=
  Tx.Within.bind (R := Writes good) (fun h h' => h.trans h') hx hf

theorem throwIf (c : Prop) [Decidable c] (e : ε) :
    Stores good (Tx.throwIf c e : Tx ε World PUnit) :=
  Tx.Within.throwIf (R := Writes good) Writes.refl c e

theorem ofExcept (r : Except ε α) : Stores good (Tx.ofExcept r : Tx ε World α) :=
  Tx.Within.ofExcept (R := Writes good) Writes.refl r

/-- What follows a result there is. -/
theorem bind_ofExcept {r : Except ε α} {f : α → Tx ε World β}
    (hf : ∀ a, r = .ok a → Stores good (f a)) : Stores good (Tx.ofExcept r >>= f) := by
  cases r with
  | error e => exact Writes.refl
  | ok a => exact hf a rfl

theorem ite {c : Prop} [Decidable c] {x y : Tx ε World α} (hx : c → Stores good x)
    (hy : ¬ c → Stores good y) : Stores good (if c then x else y) := by
  split
  · next h => exact hx h
  · next h => exact hy h

theorem port {x : Step α} (h : Stores good x) : Stores good (port x) := by
  intro s
  unfold Agent.port
  split
  · exact .refl s
  · exact h _
  · exact h s

theorem holding {x : Step α} (record : Option ProvisionalDraftRecord) (h : Stores good x) :
    Stores good (holding record x) := by
  intro s
  have hs := h s
  unfold Agent.holding Tx.mapError
  cases hx : x s with
  | ok a t =>
      rw [hx] at hs
      exact hs
  | error e t =>
      rw [hx] at hs
      exact hs

theorem catching {ε' : Type} {handler : ε → Tx ε' World α} (hx : Stores good x)
    (hhandler : ∀ e, Stores good (handler e)) : Stores good (Tx.catching x handler) := by
  intro s
  have hs := hx s
  unfold Tx.catching
  cases h : x s with
  | ok a t =>
      rw [h] at hs
      exact hs
  | error e t =>
      rw [h] at hs
      exact hs.trans (hhandler e t)

end Stores

variable {record : ProvisionalDraftRecord}

theorem insertIfCurrent_stores (h : good record.toAgentRunIdentity record.draft) :
    Stores good (insertIfCurrent host record) := by
  refine .port (.bind (.quiet (bindIdentity_quiet _)) fun _ => .bind Writes.refl fun s =>
    .bind (.throwIf _ _) fun _ => .bind ?_ fun _ => .bind ?_ fun _ => .pure _)
  · exact .bind (.quiet (askCurrent_quiet _ _ _)) fun _ => .throwIf _ _
  · intro s r hr
    rcases List.mem_append.mp hr with hr | hr
    · exact .inl hr
    · cases List.mem_singleton.mp hr
      exact .inr h

theorem requireVersion_stores (runId expectedDraftHash message : String) :
    Stores good (requireVersion runId expectedDraftHash message) := by
  refine .bind Writes.refl fun s => ?_
  cases s.records.get? runId with
  | none => exact .throw _
  | some current => exact .bind (.throwIf _ _) fun _ => .pure _

theorem updateIfCurrent_stores (runId expectedDraftHash : String)
    (update : ProvisionalDraftRecord → ProvisionalDraftRecord) :
    Stores good (updateIfCurrent host runId expectedDraftHash update) := by
  refine .port (.bind (requireVersion_stores _ _ _) fun current => .bind Writes.refl fun s =>
    .bind ?_ fun _ => .bind (.throwIf _ _) fun _ => .bind ?_ fun _ => .pure _)
  · exact .bind (.quiet (askCurrent_quiet _ _ _)) fun _ => .throwIf _ _
  · -- a checkpoint is no first draft
    intro s r hr
    rcases List.mem_append.mp hr with hr | hr
    · exact .inl hr
    · cases List.mem_singleton.mp hr

theorem markStale_stores (runId expectedDraftHash : String) :
    Stores good (markStale runId expectedDraftHash) :=
  .port (.bind (requireVersion_stores _ _ _) fun _ => .bind (fun _ => .traced rfl) fun _ => .pure _)

/-! ## What an attempt stores -/

section

variable (runner : InspectionDraftRunner) (input : RunInput)

/-- What the runner accepts for the input is good. -/
def Accepts (good : AgentRunIdentity → InspectionDraft → Prop) (runner : InspectionDraftRunner)
    (input : RunInput) : Prop :=
  ∀ result draft, acceptResult runner input.packet result = .ok draft →
    good (identityOf input) draft

theorem append_stores (type : AgentRunEventType) (metadata : SafeMetadata) :
    Stores good (append host input type metadata) := .quiet (append_quiet _ _ _)

theorem callModel_stores (runId : String) (request : DraftModelInput) :
    Stores good (callModel runner runId request) := by
  refine .port fun s => ?_
  have hcalled : Writes good s { s with
      answers := s.answers + 1
      trace := s.trace ++ [PortEvent.generated runId] } := by
    intro record hrecord
    rcases List.mem_append.mp hrecord with hrecord | hrecord
    · exact .inl hrecord
    · cases List.mem_singleton.mp hrecord
  exact hcalled.trans (Stores.ofExcept (runner.generate s.answers request) _)

theorem generateAndPersist_stores (h : Accepts good runner input) :
    Stores good (generateAndPersist host runner input) := by
  refine .bind (append_stores _ _ _) fun _ => .bind (.ofExcept _) fun request =>
    .bind (callModel_stores _ _ _) fun result => .bind_ofExcept fun draft haccepted => ?_
  refine .bind (.quiet (quiet_forM (fun _ => append_quiet _ _ _) _)) fun _ =>
    .bind (append_stores _ _ _) fun _ => ?_
  exact .bind (insertIfCurrent_stores (h _ _ haccepted)) fun _ =>
    .bind (append_stores _ _ _) fun _ => .pure _

theorem currentDraft_stores (h : Accepts good runner input)
    (bound : Option ProvisionalDraftRecord) :
    Stores good (currentDraft host runner input bound) := by
  cases bound with
  | some record => exact .pure _
  | none => exact .holding none (generateAndPersist_stores runner input h)

theorem checkDraft_stores (record : ProvisionalDraftRecord) :
    Stores good (checkDraft host runner input record) := by
  refine .ite (fun _ => .pure _) fun _ => ?_
  exact .bind (.holding _ (updateIfCurrent_stores _ _ _)) fun _ =>
    .bind (.holding _ (append_stores _ _ _)) fun _ => .pure _

theorem verifyDraft_stores (record : ProvisionalDraftRecord) :
    Stores good (verifyDraft host runner input record) := by
  refine .ite (fun _ => .pure _) fun _ => ?_
  refine .bind (.holding _ (append_stores _ _ _)) fun _ s => ?_
  have hrest : Stores good (holding (some record)
      (Tx.ofExcept (runner.verify input.packet record.draft (host.nowIso s.times))) >>=
      fun verification => holding (some record) (updateIfCurrent host record.runId
        record.draftHash (withVerification verification)) >>= fun verified => holding
          (some verified) (append host input .verifier_completed
            [("draftHash", .string verified.draftHash), ("passed", .boolean verification.passed),
              ("criticalIssueCount", .number (criticalIssueCount verification.issues))]) >>=
            fun _ => Pure.pure verified) :=
    .bind (.holding _ (.ofExcept _)) fun _ => .bind (.holding _ (updateIfCurrent_stores _ _ _))
      fun _ => .bind (.holding _ (append_stores _ _ _)) fun _ => .pure _
  exact (Writes.traced rfl).trans (hrest { s with times := s.times + 1 })

theorem attemptDraft_stores (h : Accepts good runner input)
    (bound : Option ProvisionalDraftRecord) :
    Stores good (attemptDraft host runner input bound) := by
  have hasked : Quiet (isPacketCurrent host input.packet) := quiet_port (askCurrent_quiet _ _ _)
  refine .bind (.holding _ (.quiet hasked)) fun current => .bind (.throwIf _ _) fun _ =>
    .bind (currentDraft_stores runner input h bound) fun record => .bind (.throwIf _ _) fun _ => ?_
  refine .bind (checkDraft_stores runner input record) fun record => .bind (.throwIf _ _) fun _ => ?_
  refine .bind (verifyDraft_stores runner input record) fun record =>
    .bind (.throwIf _ _) fun _ => ?_
  exact .bind (.holding _ (.quiet (appendOnce_quiet _ _ _))) fun _ => .pure _

theorem recoverAttempt_stores (thrown : Thrown × Option ProvisionalDraftRecord) :
    Stores good (recoverAttempt host input thrown) := by
  obtain ⟨error, record⟩ := thrown
  -- what is answered for any error but these three
  have hfailed : ∀ error : Thrown, Stores good (do
      let reason := safeErrorReason error
      append host input .run_failed [("reason", .string reason)]
      if input.manualFallbackOnProviderFailure then do
        append host input .run_manual_fallback [("reason", .string reason)]
        return AgentRunOutcome.manual_required reason
      else throw error) := fun error =>
    .bind (append_stores _ _ _) fun _ =>
      .ite (fun _ => .bind (append_stores _ _ _) fun _ => .pure _) fun _ => .throw _
  cases error with
  | stopped => exact .throw _
  | simulatedCrash checkpoint => exact .throw _
  | stalePacket =>
      refine .bind ?_ fun _ => .bind (.quiet (appendOnce_quiet _ _ _)) fun _ => .pure _
      cases record with
      | none => exact .pure _
      | some record => exact .bind (markStale_stores _ _) fun _ => .pure _
  | runIdentityConflict => exact hfailed _
  | schema issues => exact hfailed _
  | error message => exact hfailed _
  | other name => exact hfailed _
  | unknown => exact hfailed _

/-- An attempt first stores what its runner accepts. -/
theorem run_stores (h : Accepts good runner input) : Stores good (run host runner input) := by
  have hbound : Stores good (bindAndGet (identityOf input)) := by
    refine .port (.bind (.quiet (bindIdentity_quiet _)) fun _ => .bind Writes.refl fun s => ?_)
    cases s.records.get? (identityOf input).runId with
    | none => exact .pure _
    | some record => exact .bind (.throwIf _ _) fun _ => .pure _
  refine .bind hbound fun bound => .bind (append_stores _ _ _) fun _ =>
    .bind (append_stores _ _ _) fun _ => .bind (append_stores _ _ _) fun _ => ?_
  exact .catching (attemptDraft_stores runner input h bound) (recoverAttempt_stores input)

end

/-! ## Runs -/

theorem worldAfter_stores {plans : List AttemptPlan}
    (h : ∀ plan ∈ plans, Accepts good plan.runner plan.input) :
    Writes good .empty (worldAfter host plans) := by
  unfold worldAfter
  induction plans using List.reverseRecOn with
  | nil => exact .refl _
  | append_singleton plans plan ih =>
      rw [List.foldl_append]
      have hearlier := ih fun p hp => h p (List.mem_append_left _ hp)
      have haccepts := h plan (List.mem_append_right _ (List.mem_singleton_self _))
      have hrun : Stores good (run host plan.runner plan.input) := run_stores _ _ haccepts
      exact hearlier.trans ((Writes.traced rfl).trans (hrun (World.starting _ plan.stopsAfter)))

/-- A stored draft was accepted from a model, for a packet of its identity. -/
theorem stored_accepted {plans : List AttemptPlan} {runId : String}
    (h : (worldAfter host plans).records.get? runId = some record) :
    ∃ plan ∈ plans, ∃ result, identityOf plan.input = record.toAgentRunIdentity ∧
      acceptResult plan.runner plan.input.packet result = .ok record.draft := by
  obtain ⟨first, hfirst, hidentity, -, hdraft⟩ := (worldAfter_sound plans).drafted runId record h
  have hstores : Writes (fun identity draft => ∃ plan ∈ plans, ∃ result,
      identityOf plan.input = identity ∧
        acceptResult plan.runner plan.input.packet result = .ok draft)
      .empty (worldAfter host plans) :=
    worldAfter_stores fun plan hplan result draft haccepted =>
      ⟨plan, hplan, result, rfl, haccepted⟩
  rcases hstores first hfirst with hempty | hgood
  · cases hempty
  · rwa [hidentity, hdraft] at hgood

/-- A call that returns ran its body on the drafts that stood. -/
theorem port_ok {α : Type} {x : Step α} {a : α} {s t : World} (h : port x s = .ok a t) :
    ∃ u : World, u.records = s.records ∧ x u = .ok a t := by
  unfold port at h
  split at h
  · cases h
  · refine ⟨_, ?_, h⟩
    rfl
  · exact ⟨s, rfl, h⟩

/-- What an attempt loads is on record for its identity. -/
theorem bindAndGet_some {identity : AgentRunIdentity} {s t : World}
    (h : bindAndGet identity s = .ok (some record) t) :
    s.records.get? identity.runId = some record ∧ record.toAgentRunIdentity = identity := by
  -- the call sees the drafts that stand, whatever is left of the host's life
  obtain ⟨u, hrecords, hu⟩ := port_ok h
  have hquiet := bindIdentity_quiet identity u
  obtain ⟨_, v, hbind, hu⟩ := Tx.bind_ok hu
  rw [hbind] at hquiet
  rw [← hrecords, ← hquiet.1]
  rw [Tx.bind_of (show (get : Step World) v = .ok v v from rfl)] at hu
  cases hget : v.records.get? identity.runId with
  | none =>
      rw [hget] at hu
      cases hu
  | some stored =>
      rw [hget] at hu
      obtain ⟨hsame, hreturned⟩ := Tx.throwIf_ok hu
      cases hreturned
      exact ⟨hget, not_not.mp hsame⟩

/-- **Skill pins.** The runner accepts a draft with exactly the pinned skill
versions if and only if the model named as many different versions as are
pinned, and the same is true of a draft that an attempt loads after any
attempts, packets of one identity having the same pins. -/
theorem pinned_skills (host : Host) (plans : List AttemptPlan) :
    (∀ runner packet result draft, acceptResult runner packet result = .ok draft →
      (SameVersions draft.skillVersions packet.versionPins.skillVersions ↔
        SameCount (result.draft.skillVersions.map Js.trim) packet.versionPins.skillVersions)) ∧
    ∀ (input : RunInput) stopsAfter record w,
      bindAndGet (identityOf input) ((worldAfter host plans).starting stopsAfter) =
        .ok (some record) w →
      (∀ plan ∈ plans, identityOf plan.input = identityOf input →
        plan.input.packet.versionPins.skillVersions = input.packet.versionPins.skillVersions) →
      ∃ plan ∈ plans, ∃ result, identityOf plan.input = identityOf input ∧
        acceptResult plan.runner plan.input.packet result = .ok record.draft ∧
        (SameVersions record.draft.skillVersions input.packet.versionPins.skillVersions ↔
          SameCount (result.draft.skillVersions.map Js.trim)
            input.packet.versionPins.skillVersions) := by
  refine ⟨fun runner packet result draft => accepted_versions,
    fun input stopsAfter record w hload hnamed => ?_⟩
  obtain ⟨hget, hrecord⟩ := bindAndGet_some hload
  obtain ⟨plan, hplan, result, hidentity, haccepted⟩ := stored_accepted hget
  rw [hrecord] at hidentity
  refine ⟨plan, hplan, result, hidentity, haccepted, ?_⟩
  rw [← hnamed plan hplan hidentity]
  exact accepted_versions haccepted

/-! ## Two pins and one skill -/

namespace Resumed

/-- The packet, with its skills pinned. -/
def pinning (pins : List String) : InvestigationPacket :=
  { packet with versionPins := ⟨"model-1", "prompt-1", pins⟩ }

/-- A result that names the skills. -/
def named (skills : List String) : DraftModelResult :=
  ⟨{ draft with skillVersions := skills }, "model-1", 0, ⟨0, 0, 1⟩, 0, []⟩

def naming (skills : List String) : InspectionDraftRunner :=
  { runner with generate := fun _ _ => .ok (named skills) }

def pinnedInput : RunInput := { input none with packet := pinning ["a", "b"] }

def pinned : AttemptPlan := ⟨naming [" b", "a"], pinnedInput, none⟩

/-- The versions of a draft there is. -/
def versions : Except Thrown InspectionDraft → Option (List String)
  | .ok draft => some draft.skillVersions
  | .error _ => none

/-- Whether a record was loaded. -/
def loads : EStateM.Result Thrown World (Option ProvisionalDraftRecord) → Bool
  | .ok (some _) _ => true
  | _ => false

theorem exists_versions {r : Except Thrown InspectionDraft} {l : List String}
    (h : versions r = some l) : ∃ draft, r = .ok draft ∧ draft.skillVersions = l := by
  cases r with
  | error e => cases h
  | ok draft => exact ⟨draft, rfl, Option.some.inj h⟩

theorem exists_loaded {r : EStateM.Result Thrown World (Option ProvisionalDraftRecord)}
    (h : loads r = true) : ∃ record w, r = .ok (some record) w := by
  match r with
  | .ok (some record) w => exact ⟨record, w, rfl⟩
  | .ok none _ => cases h
  | .error _ _ => cases h

/-- One skill named twice passes for two. -/
theorem repeated_skill_accepted : ∃ draft,
    acceptResult runner (pinning ["a", "b"]) (named ["a", "a"]) = .ok draft ∧
      ¬ SameVersions draft.skillVersions (pinning ["a", "b"]).versionPins.skillVersions := by
  have haccepted : versions (acceptResult runner (pinning ["a", "b"]) (named ["a", "a"])) =
      some ["a", "a"] := by decide +kernel
  obtain ⟨draft, haccepted, hversions⟩ := exists_versions haccepted
  refine ⟨draft, haccepted, fun hsame => ?_⟩
  rw [hversions] at hsame
  have hmissing : "b" ∈ ["a", "a"] := (hsame "b").mpr (by decide)
  exact absurd hmissing (by decide)

theorem pinned_skills_resumed :
    (∃ draft, acceptResult runner (pinning ["a", "b"]) (named [" b", "a"]) = .ok draft ∧
      SameVersions draft.skillVersions ["a", "b"]) ∧
    ∃ record w, bindAndGet (identityOf pinnedInput) ((worldAfter steady [pinned]).starting none) =
      .ok (some record) w ∧
      ∃ plan ∈ [pinned], ∃ result, identityOf plan.input = identityOf pinnedInput ∧
        acceptResult plan.runner plan.input.packet result = .ok record.draft ∧
        (SameVersions record.draft.skillVersions ["a", "b"] ↔
          SameCount (result.draft.skillVersions.map Js.trim) ["a", "b"]) := by
  have hchecked : versions (acceptResult runner (pinning ["a", "b"]) (named [" b", "a"])) =
      some ["b", "a"] ∧
    loads (bindAndGet (identityOf pinnedInput) ((worldAfter steady [pinned]).starting none)) =
      true ∧ SameCount ([" b", "a"].map Js.trim) ["a", "b"] := by
    unfold SameCount
    decide +kernel
  obtain ⟨haccepted, hloads, hcount⟩ := hchecked
  obtain ⟨draft, haccepted, -⟩ := exists_versions haccepted
  obtain ⟨record, w, hload⟩ := exists_loaded hloads
  refine ⟨⟨draft, haccepted, ?_⟩, record, w, hload, ?_⟩
  · exact ((pinned_skills steady []).1 _ _ _ _ haccepted).mpr hcount
  · refine (pinned_skills steady [pinned]).2 pinnedInput none record w hload fun plan hplan _ => ?_
    rw [List.mem_singleton.mp hplan]
    rfl

end Resumed

end InspectionHub.Agent
