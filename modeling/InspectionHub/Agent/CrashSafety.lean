import InspectionHub.Agent.Runner

/-!
# Attempts that stop anywhere

Attempts of runs follow one another on shared stores, each stopping where it
likes. What holds between any two steps is `Sound`: of a run with a draft the
model is not called again and no second draft is stored, and a record is
verified only when a verification passed and was stored on the answer that its
packet was current. Every step keeps it, so every attempt does (`run_sound`).
-/

namespace InspectionHub.Agent

open Domain (Env ModuleType)
open Inspection (InvestigationPacket)

variable {host : Host}

/-! ## What holds between steps -/

/-- What may follow a draft: no call of the model and no draft of its run. -/
def MayFollow : PortEvent → PortEvent → Prop
  | .persisted record, .generated runId => runId ≠ record.runId
  | .persisted record, .persisted later => later.runId ≠ record.runId
  | _, _ => True

variable (host) in
/-- The record is verified by a verification that passed, and that was stored
when the packet was current. -/
def Justified (trace : List PortEvent) (record : ProvisionalDraftRecord) : Prop :=
  ∃ v stored question, record.verification = some v ∧ v.passed = true ∧
    .updated stored question ∈ trace ∧ stored.toAgentRunIdentity = record.toAgentRunIdentity ∧
    stored.verification = some v ∧ stored.status = .verified ∧
    (host.packetsAt question).isCurrent record.organizationId record.packetId record.packetHash =
      true

variable (host) in
structure Sound (w : World) : Prop where
  settled : w.trace.Pairwise MayFollow
  recorded : ∀ record, .persisted record ∈ w.trace → w.records.get? record.runId ≠ none
  keyed : ∀ runId record, w.records.get? runId = some record → record.runId = runId
  drafted : ∀ runId record, w.records.get? runId = some record →
    ∃ first, .persisted first ∈ w.trace ∧ first.toAgentRunIdentity = record.toAgentRunIdentity ∧
      first.draftHash = record.draftHash ∧ first.draft = record.draft
  justified : ∀ runId record, w.records.get? runId = some record → record.status = .verified →
    Justified host w.trace record

variable (host) in
/-- The stores hold the record. -/
def Held (record : ProvisionalDraftRecord) (w : World) : Prop :=
  Sound host w ∧ w.records.get? record.runId = some record

variable (host) in
/-- The stores hold no record of the run. -/
def Unborn (runId : String) (w : World) : Prop := Sound host w ∧ w.records.get? runId = none

theorem sound_empty : Sound host .empty where
  settled := List.Pairwise.nil
  recorded _ h := absurd h List.not_mem_nil
  keyed _ _ h := by cases h
  drafted _ _ h := by cases h
  justified _ _ h := by cases h

variable {record : ProvisionalDraftRecord}

theorem Justified.mono {trace trace' : List PortEvent} (h : Justified host trace record)
    (hsub : ∀ e ∈ trace, e ∈ trace') : Justified host trace' record := by
  obtain ⟨v, stored, question, hv, hpassed, hmem, hrest⟩ := h
  exact ⟨v, stored, question, hv, hpassed, hsub _ hmem, hrest⟩

/-! ## Steps that touch neither drafts nor the trace -/

/-- Same drafts, same trace. -/
def SameDrafts (s t : World) : Prop := t.records = s.records ∧ t.trace = s.trace

theorem SameDrafts.refl (s : World) : SameDrafts s s := ⟨rfl, rfl⟩

theorem SameDrafts.trans {s t u : World} (h : SameDrafts s t) (h' : SameDrafts t u) :
    SameDrafts s u := ⟨h'.1.trans h.1, h'.2.trans h.2⟩

/-- A step that leaves drafts and trace alone. -/
abbrev Quiet {ε α : Type} (x : Tx ε World α) : Prop := Tx.Within SameDrafts x

variable {s t : World}

theorem Sound.same (h : Sound host s) (hst : SameDrafts s t) : Sound host t := by
  obtain ⟨hrecords, htrace⟩ := hst
  constructor
  · rw [htrace]
    exact h.settled
  · rw [htrace, hrecords]
    exact h.recorded
  · rw [hrecords]
    exact h.keyed
  · rw [htrace, hrecords]
    exact h.drafted
  · rw [htrace, hrecords]
    exact h.justified

variable {P : World → Prop}

/-- Whatever is said of drafts and trace survives a quiet step. -/
theorem Quiet.triple {ε α : Type} {x : Tx ε World α} (hx : Quiet x)
    (hP : ∀ s t, P s → SameDrafts s t → P t) : Tx.Triple P x (fun _ => P) (fun _ => P) := by
  refine .of (fun s a t hs h => ?_) (fun s e t hs h => ?_)
  · have hsame := hx s
    rw [h] at hsame
    exact hP s t hs hsame
  · have hsame := hx s
    rw [h] at hsame
    exact hP s t hs hsame

variable {α : Type}

theorem quiet_port {x : Step α} (h : Quiet x) : Quiet (port x) := by
  intro s
  unfold port
  split
  · exact .refl s
  · exact h _
  · exact h s

/-- A step that begins by reading the world. -/
theorem quiet_get {f : World → Step α} (h : ∀ s, SameDrafts s (Tx.after (f s s))) :
    Quiet (get >>= f) := h

/-- A write, and what comes after it. -/
theorem quiet_write {x : Step α} (h : SameDrafts s t) (hx : Quiet x) :
    SameDrafts s (Tx.after ((set t >>= fun _ : PUnit => x) s)) := h.trans (hx t)

theorem quiet_ofExcept (r : Except Thrown α) : Quiet (Tx.ofExcept r : Step α) :=
  Tx.Within.ofExcept SameDrafts.refl r

theorem quiet_pure (a : α) : Quiet (pure a : Step α) := Tx.Within.pure SameDrafts.refl a

theorem Quiet.bind {α β : Type} {x : Step α} {f : α → Step β} (hx : Quiet x)
    (hf : ∀ a, Quiet (f a)) : Quiet (x >>= f) := 
  Tx.Within.bind (R := SameDrafts) (fun h h' => h.trans h') hx hf

theorem appendEvent_quiet (input : AgentRunEventInput) : Quiet (appendEvent host input) := by
  refine quiet_port (Quiet.bind (quiet_ofExcept _) fun _ => quiet_get fun s => ?_)
  exact quiet_write ⟨rfl, rfl⟩ (quiet_pure _)

theorem append_quiet (input : RunInput) (type : AgentRunEventType) (metadata : SafeMetadata) :
    Quiet (append host input type metadata) := by
  refine quiet_get fun s => quiet_write ⟨rfl, rfl⟩ ?_
  exact Quiet.bind (appendEvent_quiet _) fun _ => quiet_pure _

theorem readEvents_quiet (runId : String) : Quiet (readEvents runId) :=
  quiet_port (quiet_get fun s => SameDrafts.refl s)

theorem appendOnce_quiet (input : RunInput) (type : AgentRunEventType) (metadata : SafeMetadata) :
    Quiet (appendOnce host input type metadata) := by
  refine Quiet.bind (readEvents_quiet _) fun events => ?_
  split
  · exact quiet_pure _
  · exact append_quiet _ _ _

theorem askCurrent_quiet (organizationId packetId packetHash : String) :
    Quiet (askCurrent host organizationId packetId packetHash) := fun _ => ⟨rfl, rfl⟩

theorem bindIdentity_quiet (identity : AgentRunIdentity) : Quiet (bindIdentity identity) := by
  refine quiet_get fun s => ?_
  cases s.identities.get? identity.runId with
  | some current => exact Tx.Within.throwIf SameDrafts.refl _ _ s
  | none => exact ⟨rfl, rfl⟩

/-! ## Steps that store a draft -/

/-- A step of the process keeps what does not depend on its remaining steps. -/
theorem port_triple {x : Step α} {Q : α → World → Prop} (hx : Tx.Triple P x Q fun _ => Sound host)
    (hsame : ∀ s t, P s → SameDrafts s t → P t) (hsound : ∀ s, P s → Sound host s) :
    Tx.Triple P (port x) Q fun _ => Sound host := by
  intro s hs
  unfold port
  cases hleft : s.left with
  | none => exact hx s hs
  | some n =>
      cases n with
      | zero => exact hsound s hs
      | succ n => exact hx _ (hsame s _ hs ⟨rfl, rfl⟩)

theorem sound_same (h : Sound host s) (hst : SameDrafts s t) : Sound host t :=
  h.same hst

theorem held_same (h : Held host record s) (hst : SameDrafts s t) : Held host record t :=
  ⟨h.1.same hst, by rw [hst.1]; exact h.2⟩

variable {runId : String}

theorem unborn_same (h : Unborn host runId s) (hst : SameDrafts s t) : Unborn host runId t :=
  ⟨h.1.same hst, by rw [hst.1]; exact h.2⟩

/-- A quiet step between two that store drafts. -/
theorem Quiet.keeps {x : Step α} (hx : Quiet x) (hsame : ∀ s t, P s → SameDrafts s t → P t)
    (hsound : ∀ s, P s → Sound host s) : Tx.Triple P x (fun _ => P) fun _ => Sound host :=
  (hx.triple hsame).weaken (fun _ => id) (fun _ _ => id) fun _ => hsound

/-- What `bindAndGet` answers is the record of the run. -/
def Bound (host : Host) (runId : String) : Option ProvisionalDraftRecord → World → Prop
  | none => Unborn host runId
  | some record => Held host record

variable {w : World}

theorem bound_sound {r : Option ProvisionalDraftRecord} (h : Bound host runId r w) :
    Sound host w := by
  cases r with
  | none => exact h.1
  | some record => exact h.1

theorem bound_same {r : Option ProvisionalDraftRecord} (h : Bound host runId r s)
    (hst : SameDrafts s t) : Bound host runId r t := by
  cases r with
  | none => exact unborn_same h hst
  | some record => exact held_same h hst

theorem bindAndGet_spec (identity : AgentRunIdentity) :
    Tx.Triple (Sound host) (bindAndGet identity) (Bound host identity.runId)
      fun _ => Sound host := by
  refine port_triple ?_ (fun _ _ => sound_same) fun _ => id
  refine Tx.Triple.bind ((bindIdentity_quiet identity).keeps (fun _ _ => sound_same) fun _ => id)
    fun _ => ?_
  refine .get fun s hs => ?_
  cases hget : s.records.get? identity.runId with
  | none =>
      refine (Tx.Triple.pure none).pre ?_
      rintro t rfl
      exact ⟨hs, hget⟩
  | some record =>
      have hrun := hs.keyed _ _ hget
      refine Tx.Triple.bind (Q := fun _ => Held host record)
        ((Tx.Triple.throwIf ?_).weaken ?_ (fun _ _ h => h.1) fun _ _ => id)
        fun _ => Tx.Triple.returns fun _ => id
      · exact fun _ h _ => h.1
      · rintro t rfl
        rw [← hrun] at hget
        exact ⟨hs, hget⟩

/-- The packet was current when it was asked. -/
theorem assertPacketCurrent_spec (s : World) (record : AgentRunIdentity) :
    Tx.Triple (fun t => t = s) (assertPacketCurrent host record)
      (fun _ t => SameDrafts s t ∧ (host.packetsAt s.questions).isCurrent record.organizationId
        record.packetId record.packetHash = true)
      fun _ t => SameDrafts s t := by
  rintro t rfl
  unfold assertPacketCurrent
  rw [Tx.bind_of (show askCurrent host record.organizationId record.packetId record.packetHash t =
    .ok _ _ from rfl)]
  unfold Tx.throwIf
  by_cases hcurrent : (host.packetsAt t.questions).isCurrent record.organizationId record.packetId
      record.packetHash = false
  · rw [if_pos hcurrent]
    exact ⟨rfl, rfl⟩
  · rw [if_neg hcurrent]
    exact ⟨⟨rfl, rfl⟩, by simpa using hcurrent⟩

/-- Storing the first draft of a run. -/
theorem Sound.persist {s : World} (h : Sound host s) (hnew : s.records.get? record.runId = none)
    (hstatus : record.status ≠ .verified) :
    Held host record { s with
      records := s.records.set record.runId record
      trace := s.trace ++ [.persisted record] } := by
  refine ⟨⟨?_, ?_, ?_, ?_, ?_⟩, OMap.get?_set_self _ _ _⟩
  · rw [List.pairwise_append]
    refine ⟨h.settled, List.pairwise_singleton _ _, fun e he e' he' => ?_⟩
    rw [List.mem_singleton.mp he']
    cases e with
    | persisted earlier =>
        -- a draft of the run would be on record
        intro hrun
        apply h.recorded earlier he
        rw [← hrun]
        exact hnew
    | generated runId => trivial
    | updated earlier question => trivial
  · intro r hr
    rw [OMap.get?_set]
    split
    · simp
    · next hne =>
        rcases List.mem_append.mp hr with hr | hr
        · exact h.recorded r hr
        · have heq : r = record := by simpa using hr
          exact absurd (congrArg (·.runId) heq) hne
  · intro runId r hr
    rw [OMap.get?_set] at hr
    split at hr
    · next heq =>
        cases hr
        exact heq.symm
    · exact h.keyed runId r hr
  · intro runId r hr
    rw [OMap.get?_set] at hr
    split at hr
    · cases hr
      exact ⟨record, List.mem_append_right _ (List.mem_singleton_self _), rfl, rfl, rfl⟩
    · obtain ⟨first, hfirst, hrest⟩ := h.drafted runId r hr
      exact ⟨first, List.mem_append_left _ hfirst, hrest⟩
  · intro runId r hr hverified
    rw [OMap.get?_set] at hr
    split at hr
    · cases hr
      exact absurd hverified hstatus
    · exact (h.justified runId r hr hverified).mono fun e he => List.mem_append_left _ he

/-- Storing a later version of a draft, which may be a checkpoint. -/
theorem Sound.replace {s : World} (h : Sound host s) {current next : ProvisionalDraftRecord}
    {extra : List PortEvent} (hcurrent : s.records.get? current.runId = some current)
    (hidentity : next.toAgentRunIdentity = current.toAgentRunIdentity)
    (hhash : next.draftHash = current.draftHash) (hdraft : next.draft = current.draft)
    (hextra : ∀ e ∈ extra, ∃ stored question, e = .updated stored question)
    (hjustified : next.status = .verified → Justified host (s.trace ++ extra) next) :
    Held host next { s with
      records := s.records.set current.runId next
      trace := s.trace ++ extra } := by
  have hrun : next.runId = current.runId := congrArg AgentRunIdentity.runId hidentity
  refine ⟨⟨?_, ?_, ?_, ?_, ?_⟩, ?_⟩
  · rw [List.pairwise_append]
    refine ⟨h.settled, ?_, fun e _ e' he' => ?_⟩
    · refine List.pairwise_of_forall_mem_list fun a _ b hb => ?_
      obtain ⟨stored, question, rfl⟩ := hextra b hb
      cases a <;> trivial
    · obtain ⟨stored, question, rfl⟩ := hextra e' he'
      cases e <;> trivial
  · intro r hr
    rw [OMap.get?_set]
    split
    · simp
    · rcases List.mem_append.mp hr with hr | hr
      · exact h.recorded r hr
      · obtain ⟨stored, question, heq⟩ := hextra _ hr
        cases heq
  · intro runId r hr
    rw [OMap.get?_set] at hr
    split at hr
    · next heq =>
        cases hr
        rw [heq, hrun]
    · exact h.keyed runId r hr
  · intro runId r hr
    rw [OMap.get?_set] at hr
    split at hr
    · cases hr
      obtain ⟨first, hfirst, hsame, hfirstHash, hfirstDraft⟩ := h.drafted _ _ hcurrent
      exact ⟨first, List.mem_append_left _ hfirst, hsame.trans hidentity.symm,
        hfirstHash.trans hhash.symm, hfirstDraft.trans hdraft.symm⟩
    · obtain ⟨first, hfirst, hrest⟩ := h.drafted runId r hr
      exact ⟨first, List.mem_append_left _ hfirst, hrest⟩
  · intro runId r hr hverified
    rw [OMap.get?_set] at hr
    split at hr
    · cases hr
      exact hjustified hverified
    · exact (h.justified runId r hr hverified).mono fun e he => List.mem_append_left _ he
  · rw [hrun]
    exact OMap.get?_set_self _ _ _

/-- A new draft is stored for a run without one, or not at all. -/
theorem insertIfCurrent_spec (hstatus : record.status ≠ .verified) :
    Tx.Triple (Sound host) (insertIfCurrent host record) (fun r => Held host r)
      fun _ => Sound host := by
  refine port_triple ?_ (fun _ _ => sound_same) fun _ => id
  refine Tx.Triple.bind ((bindIdentity_quiet _).keeps (fun _ _ => sound_same) fun _ => id)
    fun _ => .get fun s hs => ?_
  have hguard : Tx.Triple (fun t => t = s)
      (Tx.throwIf (s.records.has record.runId = true) (Thrown.error
        "A model attempt cannot overwrite an existing provisional draft") : Step PUnit)
      (fun _ t => t = s ∧ ¬ s.records.has record.runId = true) fun _ => Sound host := by
    apply Tx.Triple.throwIf
    rintro t rfl -
    exact hs
  refine Tx.Triple.bind hguard fun _ => ?_
  refine (Tx.Triple.assuming fun hnew => ?_).pre (fun t ht => And.symm ht)
  refine Tx.Triple.bind ((assertPacketCurrent_spec s _).weaken (fun _ => id) (fun _ _ => id)
    fun _ t ht => hs.same ht) fun _ => Tx.Triple.modify (Tx.Triple.returns ?_)
  rintro t ⟨u, ⟨hsame, -⟩, rfl⟩
  refine (hs.same hsame).persist ?_ hstatus
  rw [hsame.1]
  simpa [OMap.has] using hnew

theorem requireVersion_spec (s : World) (hs : Sound host s)
    (runId expectedDraftHash message : String) :
    Tx.Triple (fun t => t = s) (requireVersion runId expectedDraftHash message)
      (fun current t => t = s ∧ s.records.get? current.runId = some current ∧
        current.runId = runId)
      fun _ => Sound host := by
  refine .get fun t ht => ?_
  subst ht
  cases hget : t.records.get? runId with
  | none =>
      apply Tx.Triple.throws
      rintro u rfl
      exact hs
  | some current =>
      have hrun := hs.keyed _ _ hget
      refine Tx.Triple.bind (Q := fun _ u => u = t) ((Tx.Triple.throwIf ?_).post fun _ _ h => h.1)
        fun _ => Tx.Triple.returns ?_
      · rintro u rfl -
        exact hs
      · rintro u rfl
        refine ⟨rfl, ?_, hrun⟩
        rw [hrun]
        exact hget

/-- An update may verify a draft only by a verification that passed. -/
structure Checkpoint (update : ProvisionalDraftRecord → ProvisionalDraftRecord) : Prop where
  draft : ∀ current, (update current).draft = current.draft
  status : ∀ current, (update current).status = .verified →
    (current.status = .verified ∧ (update current).verification = current.verification) ∨
      ∃ v, (update current).verification = some v ∧ v.passed = true

/-- A checkpoint is stored on the answer that the packet is current. -/
theorem updateIfCurrent_spec {update : ProvisionalDraftRecord → ProvisionalDraftRecord}
    (hupdate : Checkpoint update) (runId expectedDraftHash : String) :
    Tx.Triple (Sound host) (updateIfCurrent host runId expectedDraftHash update)
      (fun r => Held host r) fun _ => Sound host := by
  refine port_triple ?_ (fun _ _ => sound_same) fun _ => id
  intro s hs
  refine Tx.Triple.bind (requireVersion_spec s hs _ _ _) (fun current => ?_) s rfl
  refine .get fun t ht => ?_
  obtain ⟨rfl, hcurrent, rfl⟩ := ht
  refine Tx.Triple.bind ((assertPacketCurrent_spec t current.toAgentRunIdentity).weaken
    (fun u hu => hu) (fun _ _ => id) fun _ u hu => hs.same hu) fun _ => ?_
  refine Tx.Triple.bind (Tx.Triple.throwIf fun u hu _ => hs.same hu.1) fun _ => ?_
  refine Tx.Triple.modify (Tx.Triple.returns ?_)
  rintro v ⟨u, ⟨⟨hsame, hasked⟩, hkept⟩, rfl⟩
  simp only [not_or, ne_eq, not_not] at hkept
  obtain ⟨-, hhash, hidentity⟩ := hkept
  have hsound := hs.same hsame
  have hget : u.records.get? current.runId = some current := by rw [hsame.1, hcurrent]
  refine hsound.replace hget hidentity hhash (hupdate.draft current) ?_ fun hverified => ?_
  · intro e he
    exact ⟨_, _, List.mem_singleton.mp he⟩
  · rcases hupdate.status current hverified with ⟨hearlier, hsameVerdict⟩ | ⟨v, hv, hpassed⟩
    · -- it was verified before, and stays so
      obtain ⟨v, stored, question, hv, hpassed, hmem, hstored, hrest⟩ :=
        hsound.justified _ _ hget hearlier
      refine ⟨v, stored, question, hsameVerdict.trans hv, hpassed, List.mem_append_left _ hmem,
        hstored.trans hidentity.symm, hrest.1, hrest.2.1, ?_⟩
      rw [congrArg AgentRunIdentity.organizationId hidentity,
        congrArg AgentRunIdentity.packetId hidentity,
        congrArg AgentRunIdentity.packetHash hidentity]
      exact hrest.2.2
    · refine ⟨v, update current, t.questions, hv, hpassed,
        List.mem_append_right _ (List.mem_singleton_self _), rfl, hv, hverified, ?_⟩
      rw [congrArg AgentRunIdentity.organizationId hidentity,
        congrArg AgentRunIdentity.packetId hidentity,
        congrArg AgentRunIdentity.packetHash hidentity]
      exact hasked

theorem markStale_spec (runId expectedDraftHash : String) :
    Tx.Triple (Sound host) (markStale runId expectedDraftHash) (fun r => Held host r)
      fun _ => Sound host := by
  refine port_triple ?_ (fun _ _ => sound_same) fun _ => id
  intro s hs
  refine Tx.Triple.bind (requireVersion_spec s hs _ _ _) (fun current => ?_) s rfl
  refine Tx.Triple.modify (Tx.Triple.returns ?_)
  rintro v ⟨u, ⟨rfl, hcurrent, rfl⟩, rfl⟩
  let stale : ProvisionalDraftRecord := { current with status := .stale }
  have hstale : stale.status = .verified → Justified host (u.trace ++ []) stale :=
    fun h => nomatch h
  have hheld : Held host stale { u with
      records := u.records.set current.runId stale
      trace := u.trace ++ [] } :=
    hs.replace hcurrent rfl rfl rfl (fun _ he => absurd he List.not_mem_nil) hstale
  rwa [List.append_nil] at hheld

/-- The model is called while the run has no draft. -/
theorem callModel_spec (runner : InspectionDraftRunner) (runId : String) (input : DraftModelInput) :
    Tx.Triple (Unborn host runId) (callModel runner runId input) (fun _ => Unborn host runId)
      fun _ => Sound host := by
  refine port_triple ?_ (fun _ _ => unborn_same) fun _ h => h.1
  refine .get fun s hs => ?_
  obtain ⟨hsound, hnone⟩ := hs
  have hcalled : Unborn host runId { s with
      answers := s.answers + 1
      trace := s.trace ++ [PortEvent.generated runId] } := by
    refine ⟨⟨?_, ?_, hsound.keyed, ?_, ?_⟩, hnone⟩
    · rw [List.pairwise_append]
      refine ⟨hsound.settled, List.pairwise_singleton _ _, fun e he e' he' => ?_⟩
      rw [List.mem_singleton.mp he']
      cases e with
      | persisted earlier =>
          rintro rfl
          exact hsound.recorded earlier he hnone
      | generated _ => trivial
      | updated _ _ => trivial
    · intro r hr
      rcases List.mem_append.mp hr with hr | hr
      · exact hsound.recorded r hr
      · cases List.mem_singleton.mp hr
    · intro id r hr
      obtain ⟨first, hfirst, hrest⟩ := hsound.drafted id r hr
      exact ⟨first, List.mem_append_left _ hfirst, hrest⟩
    · intro id r hr hverified
      exact (hsound.justified id r hr hverified).mono fun e he => List.mem_append_left _ he
  refine Tx.Triple.set (Tx.Triple.ofExcept ?_ ?_)
  · rintro t a rfl -
    exact hcalled
  · rintro t e rfl -
    exact hcalled.1

/-! ## An attempt -/

theorem checked_checkpoint :
    Checkpoint fun current => { current with deterministicChecked := true } where
  draft _ := rfl
  status _ h := .inl ⟨h, rfl⟩

theorem withVerification_checkpoint (verification : DraftVerification) :
    Checkpoint (withVerification verification) where
  draft _ := rfl
  status current h := by
    refine .inr ⟨verification, rfl, ?_⟩
    change (if verification.passed = true then DraftStatus.verified else .rejected) = .verified at h
    by_contra hfailed
    rw [if_neg hfailed] at h
    cases h

theorem append_unborn (input : RunInput) (type : AgentRunEventType) (metadata : SafeMetadata) :
    Tx.Triple (Unborn host runId) (append host input type metadata) (fun _ => Unborn host runId)
      fun _ => Sound host :=
  (append_quiet input type metadata).keeps (fun _ _ => unborn_same) fun _ h => h.1

theorem append_held (input : RunInput) (type : AgentRunEventType) (metadata : SafeMetadata) :
    Tx.Triple (Held host record) (append host input type metadata) (fun _ => Held host record)
      fun _ => Sound host :=
  (append_quiet input type metadata).keeps (fun _ _ => held_same) fun _ h => h.1

theorem quiet_forM {f : α → Step PUnit} (h : ∀ a, Quiet (f a)) (l : List α) : Quiet (l.forM f) := by
  induction l with
  | nil => exact quiet_pure _
  | cons a l ih => exact Quiet.bind (h a) fun _ => ih

/-- What the model answers is not on record before it is accepted. -/
theorem ofExcept_unborn (r : Except Thrown α) :
    Tx.Triple (Unborn host runId) (Tx.ofExcept r : Step α) (fun _ => Unborn host runId)
      fun _ => Sound host :=
  (quiet_ofExcept r).keeps (fun _ _ => unborn_same) fun _ h => h.1

theorem generateAndPersist_spec (runner : InspectionDraftRunner) (input : RunInput) :
    Tx.Triple (Unborn host input.runId) (generateAndPersist host runner input)
      (fun r => Held host r) fun _ => Sound host := by
  refine .bind (append_unborn _ _ _) fun _ => ?_
  refine .bind (ofExcept_unborn _) fun request => ?_
  refine .bind (callModel_spec runner input.runId request) fun result => ?_
  refine .bind (ofExcept_unborn _) fun draft => ?_
  refine .bind ((quiet_forM (fun _ => append_quiet _ _ _) _).keeps (fun _ _ => unborn_same)
    fun _ h => h.1) fun _ => ?_
  refine .bind (append_unborn _ _ _) fun _ => ?_
  have hprovisional : DraftStatus.provisional ≠ .verified := by decide
  refine .bind ((insertIfCurrent_spec hprovisional).pre fun _ h => h.1) fun record => ?_
  exact .bind (append_held _ _ _) fun _ => .returns fun _ h => h

/-- A step taken while a record is held. -/
theorem holding_triple {x : Step α} {Q : α → World → Prop}
    (record : Option ProvisionalDraftRecord) (h : Tx.Triple P x Q fun _ => Sound host) :
    Tx.Triple P (holding record x) Q fun _ => Sound host :=
  Tx.Triple.mapError h

theorem currentDraft_spec (runner : InspectionDraftRunner) (input : RunInput)
    (bound : Option ProvisionalDraftRecord) :
    Tx.Triple (Bound host input.runId bound) (currentDraft host runner input bound)
      (fun r => Held host r) fun _ => Sound host := by
  cases bound with
  | some record => exact .returns fun _ h => h
  | none => exact holding_triple none (generateAndPersist_spec runner input)

theorem checkDraft_spec (runner : InspectionDraftRunner) (input : RunInput)
    (record : ProvisionalDraftRecord) :
    Tx.Triple (Held host record) (checkDraft host runner input record) (fun r => Held host r)
      fun _ => Sound host := by
  refine .ite (fun _ => .returns fun _ h => h) fun _ => ?_
  refine .bind (holding_triple _ ((updateIfCurrent_spec checked_checkpoint _ _).pre
    fun _ h => h.1)) fun checked => ?_
  exact .bind (holding_triple _ (append_held _ _ _)) fun _ => .returns fun _ h => h

theorem verifyDraft_spec (runner : InspectionDraftRunner) (input : RunInput)
    (record : ProvisionalDraftRecord) :
    Tx.Triple (Held host record) (verifyDraft host runner input record) (fun r => Held host r)
      fun _ => Sound host := by
  refine .ite (fun _ => .returns fun _ h => h) fun _ => ?_
  refine .bind (holding_triple _ (append_held _ _ _)) fun _ => .get fun s hs => .set ?_
  have htimed : Sound host { s with times := s.times + 1 } := hs.1.same ⟨rfl, rfl⟩
  refine .bind (Q := fun _ => Sound host) (holding_triple _ (.ofExcept ?_ ?_))
    fun verification => ?_
  · rintro t _ rfl -
    exact htimed
  · rintro t _ rfl -
    exact htimed
  · refine .bind (holding_triple _ (updateIfCurrent_spec
      (withVerification_checkpoint verification) _ _)) fun verified => ?_
    exact .bind (holding_triple _ (append_held _ _ _)) fun _ => .returns fun _ h => h

theorem crashAt_spec (input : RunInput) (checkpoint : RunnerFaultCheckpoint)
    (record : ProvisionalDraftRecord) (reached : Bool) :
    Tx.Triple (Held host record) (crashAt input checkpoint record reached)
      (fun _ => Held host record) fun _ => Sound host :=
  (Tx.Triple.throwIf fun _ h _ => h.1).post fun _ _ h => h.1

variable (host) in
/-- What an attempt may answer: a verified record is one the stores hold. -/
def Answered (outcome : AgentRunOutcome) (w : World) : Prop :=
  Sound host w ∧ ∀ record, outcome = .verified record → record.status = .verified ∧
    w.records.get? record.runId = some record

theorem attemptDraft_spec (runner : InspectionDraftRunner) (input : RunInput)
    (bound : Option ProvisionalDraftRecord) :
    Tx.Triple (Bound host input.runId bound) (attemptDraft host runner input bound)
      (Answered host) fun _ => Sound host := by
  have hasked : Quiet (isPacketCurrent host input.packet) := quiet_port (askCurrent_quiet _ _ _)
  refine .bind (holding_triple _ (hasked.keeps (fun _ _ => bound_same) fun _ => bound_sound))
    fun current => ?_
  refine .bind (Q := fun _ => Bound host input.runId bound)
    ((Tx.Triple.throwIf (E := fun _ => Sound host) fun _ h _ => bound_sound h).post
      fun _ _ h => h.1) fun _ => ?_
  refine .bind (currentDraft_spec runner input bound) fun record => ?_
  refine .bind (crashAt_spec _ _ _ _) fun _ => ?_
  refine .bind (checkDraft_spec runner input record) fun record => ?_
  refine .bind (crashAt_spec _ _ _ _) fun _ => ?_
  refine .bind (verifyDraft_spec runner input record) fun record => ?_
  refine .bind (crashAt_spec _ _ _ _) fun _ => ?_
  refine .bind (holding_triple _ ((appendOnce_quiet _ _ _).keeps (fun _ _ => held_same)
    fun _ h => h.1)) fun _ => .returns ?_
  intro w h
  refine ⟨h.1, fun r hr => ?_⟩
  split at hr
  · next hverified =>
      cases hr
      exact ⟨hverified, h.2⟩
  · cases hr

theorem markSuperseded_spec (record : Option ProvisionalDraftRecord) :
    Tx.Triple (Sound host) (markSuperseded record) (fun _ => Sound host) fun _ => Sound host := by
  cases record with
  | none => exact .returns fun _ h => h
  | some record => exact .bind (markStale_spec _ _) fun _ => .returns fun _ h => h.1

theorem recoverAttempt_spec (input : RunInput)
    (thrown : Thrown × Option ProvisionalDraftRecord) :
    Tx.Triple (Sound host) (recoverAttempt host input thrown) (Answered host)
      fun _ => Sound host := by
  obtain ⟨error, record⟩ := thrown
  have hquiet : ∀ type metadata, Tx.Triple (Sound host) (append host input type metadata)
      (fun _ => Sound host) fun _ => Sound host := fun type metadata =>
    (append_quiet input type metadata).keeps (fun _ _ => sound_same) fun _ => id
  -- what is answered for any error but these three
  have hfailed : ∀ error : Thrown, Tx.Triple (Sound host) (do
      let reason := safeErrorReason error
      append host input .run_failed [("reason", .string reason)]
      if input.manualFallbackOnProviderFailure then do
        append host input .run_manual_fallback [("reason", .string reason)]
        return AgentRunOutcome.manual_required reason
      else throw error) (Answered host) fun _ => Sound host := by
    intro error
    refine .bind (hquiet _ _) fun _ => .ite (fun _ => ?_) fun _ => .throws fun _ h => h
    exact .bind (hquiet _ _) fun _ => .returns fun _ h => ⟨h, fun _ hr => by cases hr⟩
  cases error with
  | stopped => exact .throws fun _ h => h
  | simulatedCrash checkpoint => exact .throws fun _ h => h
  | stalePacket =>
      refine .bind (markSuperseded_spec record) fun record => ?_
      refine .bind ((appendOnce_quiet _ _ _).keeps (fun _ _ => sound_same) fun _ => id) fun _ => ?_
      exact .returns fun _ h => ⟨h, fun _ hr => by cases hr⟩
  | runIdentityConflict => exact hfailed _
  | schema issues => exact hfailed _
  | error message => exact hfailed _
  | other name => exact hfailed _
  | unknown => exact hfailed _

/-- **Run.** An attempt keeps what holds between steps, wherever it stops. -/
theorem run_spec (runner : InspectionDraftRunner) (input : RunInput) :
    Tx.Triple (Sound host) (run host runner input) (Answered host) fun _ => Sound host := by
  have hbound : ∀ bound type metadata, Tx.Triple (Bound host input.runId bound)
      (append host input type metadata) (fun _ => Bound host input.runId bound)
      fun _ => Sound host := fun _ type metadata =>
    (append_quiet input type metadata).keeps (fun _ _ => bound_same) fun _ => bound_sound
  refine .bind (bindAndGet_spec (identityOf input)) fun bound => ?_
  refine .bind (hbound bound _ _) fun _ => .bind (hbound bound _ _) fun _ =>
    .bind (hbound bound _ _) fun _ => ?_
  exact .catching (attemptDraft_spec runner input bound) fun thrown =>
    recoverAttempt_spec input thrown

theorem Sound.starting (h : Sound host w) (stopsAfter : Option Nat) :
    Sound host (w.starting stopsAfter) := h.same ⟨rfl, rfl⟩

theorem worldAfter_sound (plans : List AttemptPlan) : Sound host (worldAfter host plans) := by
  unfold worldAfter
  induction plans using List.reverseRecOn with
  | nil => exact sound_empty
  | append_singleton plans plan ih =>
      rw [List.foldl_append]
      have hrun := run_spec plan.runner plan.input _ (ih.starting plan.stopsAfter)
      change Sound host (Tx.after (plan.exec host _))
      revert hrun
      unfold AttemptPlan.exec
      cases run host plan.runner plan.input _ with
      | ok outcome w => exact fun h => h.1
      | error e w => exact fun h => h

/-! ## Runs -/

/-- The event stores a draft of the run. -/
def PortEvent.persists (runId : String) : PortEvent → Bool
  | .persisted record => record.runId = runId
  | _ => false

/-- Of what never comes twice there is at most one. -/
theorem length_filter_le_one {R : α → α → Prop} {l : List α} {p : α → Bool} (h : l.Pairwise R)
    (hp : ∀ a b, p a = true → p b = true → ¬ R a b) : (l.filter p).length ≤ 1 := by
  by_contra hmany
  obtain ⟨first, second, rest, hl⟩ : ∃ a b l', l.filter p = a :: b :: l' := by
    rcases hl : l.filter p with _ | ⟨a, _ | ⟨b, l'⟩⟩
    · simp [hl] at hmany
    · simp [hl] at hmany
    · exact ⟨a, b, l', rfl⟩
  have hfirst : first ∈ l.filter p := by simp [hl]
  have hsecond : second ∈ l.filter p := by simp [hl]
  have hpairs := h.filter p
  rw [hl, List.pairwise_cons] at hpairs
  exact hp first second (List.mem_filter.mp hfirst).2 (List.mem_filter.mp hsecond).2
    (hpairs.1 second List.mem_cons_self)

theorem Sound.one_draft (h : Sound host w) (runId : String) :
    (w.trace.filter (·.persists runId)).length ≤ 1 := by
  refine length_filter_le_one h.settled fun first second hfirst hsecond => ?_
  cases first with
  | generated runId => cases hfirst
  | updated record question => cases hfirst
  | persisted earlier =>
      cases second with
      | generated runId => cases hsecond
      | updated record question => cases hsecond
      | persisted later =>
          intro hfollow
          exact hfollow ((of_decide_eq_true hsecond).trans (of_decide_eq_true hfirst).symm)

theorem Sound.not_called_again (h : Sound host w) {before after : List PortEvent}
    (htrace : w.trace = before ++ .persisted record :: after) :
    .generated record.runId ∉ after := by
  intro hcalled
  have hsettled := h.settled
  rw [htrace, List.pairwise_append] at hsettled
  have hfollow : MayFollow (.persisted record) (.generated record.runId) :=
    (List.pairwise_cons.mp hsettled.2.1).1 _ hcalled
  exact hfollow rfl

theorem exec_answered (plans : List AttemptPlan) (plan : AttemptPlan) {outcome : AgentRunOutcome}
    (h : plan.exec host (worldAfter host plans) = .ok outcome w) : Answered host outcome w :=
  (run_spec plan.runner plan.input).ok ((worldAfter_sound plans).starting plan.stopsAfter) h

/-- **Attempts that stop anywhere.** After any attempts, whatever runner made
each, whatever packets were current in between and wherever their processes
stopped: a run has at most one draft, the model is not called for a run that
has one, and an attempt that answers `verified` answers with the draft stored
first, a verification that passed, and a checkpoint that stored the two on the
answer that the packet was current. -/
theorem crash_safe_runs (host : Host) (plans : List AttemptPlan) :
    (∀ runId, ((worldAfter host plans).trace.filter (·.persists runId)).length ≤ 1) ∧
    (∀ before after record,
      (worldAfter host plans).trace = before ++ .persisted record :: after →
        .generated record.runId ∉ after) ∧
    ∀ (plan : AttemptPlan) record w,
      plan.exec host (worldAfter host plans) = .ok (.verified record) w →
      (∃ first, .persisted first ∈ w.trace ∧
        first.toAgentRunIdentity = record.toAgentRunIdentity ∧ first.draft = record.draft) ∧
      ∃ v stored question, record.verification = some v ∧ v.passed = true ∧
        .updated stored question ∈ w.trace ∧
        stored.toAgentRunIdentity = record.toAgentRunIdentity ∧
        stored.verification = some v ∧ stored.status = .verified ∧
        (host.packetsAt question).isCurrent record.organizationId record.packetId
          record.packetHash = true := by
  have hsound : Sound host (worldAfter host plans) := worldAfter_sound plans
  refine ⟨hsound.one_draft, fun before after record => hsound.not_called_again,
    fun plan record w hexec => ?_⟩
  obtain ⟨hafter, hverified⟩ := exec_answered plans plan hexec
  obtain ⟨hstatus, hheld⟩ := hverified record rfl
  refine ⟨?_, hafter.justified _ _ hheld hstatus⟩
  obtain ⟨first, hfirst, hsame, -, hdraft⟩ := hafter.drafted _ _ hheld
  exact ⟨first, hfirst, hsame, hdraft⟩

/-! ## A run in three attempts -/

namespace Resumed

def packet : InvestigationPacket where
  packetId := "packet-1"
  packetRevision := 1
  organizationId := "organization-1"
  jobId := "job-1"
  investigationId := "investigation-1"
  investigationRevision := 1
  modules := []
  moduleSchemas := []
  versionPins := ⟨"model-1", "prompt-1", []⟩
  areaHistory := []
  evidence := []
  measurements := []
  observations := []
  transcriptSpans := []
  contradictions := []
  priorInspectorFeedback := []
  coverage := []
  limitations := []
  unknowns := []
  createdAt := "2026-07-14T08:00:00.000Z"
  canonicalHash := "0f0f0f0f0f0f0f0f0f0f0f0f0f0f0f0f0f0f0f0f0f0f0f0f0f0f0f0f0f0f0f0f"

def draft : InspectionDraft where
  packetId := packet.packetId
  packetHash := packet.canonicalHash
  packetRevision := 1
  origin := .ai
  model := "model-1"
  promptVersion := "prompt-1"
  skillVersions := []
  modules := [{
    module := .building
    moduleId := "module-1"
    findings := []
    limitations := []
    conclusion := ⟨"clause-1", .conclusion, "No defect was seen.", .observed, [.coverage "entry-1"]⟩
    noReportableFinding := true }]

def digest : String := "1e1e1e1e1e1e1e1e1e1e1e1e1e1e1e1e1e1e1e1e1e1e1e1e1e1e1e1e1e1e1e1e"

def verdict : DraftVerification where
  verifierVersion := "verifier-1"
  packetHash := packet.canonicalHash
  draftHash := digest
  passed := true
  issues := []
  verifiedAt := "2026-07-14T08:00:00.000Z"

def runner : InspectionDraftRunner where
  architecture := .deterministic_fixture
  generate _ _ := .ok ⟨draft, "model-1", 0, ⟨0, 0, 1⟩, 0, []⟩
  verify _ _ _ := .ok verdict
  runDeterministicDraftGuard _ _ := ⟨true, []⟩
  assertPreparedAiRequest _ := .ok ()
  budgets := ⟨1, 1, 1⟩
  positive := by norm_num

/-- The packet is current whenever it is asked about. -/
def steady : Host where
  formats := ⟨fun _ => true, fun _ => true⟩
  digest _ := digest
  issuesText _ := ""
  toInteger _ := none
  number q := .int q.num
  nowIso _ := "2026-07-14T08:00:00.000Z"
  eventId n := "event-" ++ String.ofList (Json.natText n)
  packetsAt _ := OMap.empty.set ("organization-1", "packet-1") packet.canonicalHash

/-- The one input of the run, but for where it fails. -/
def input (faultAfter : Option RunnerFaultCheckpoint) : RunInput where
  runId := "run-1"
  attempt := 1
  packet := packet
  preparedRequest := none
  manualFallbackOnProviderFailure := false
  faultAfter := faultAfter

/-- The model answers, and the process stops before the draft is stored. -/
def lost : AttemptPlan := ⟨runner, input none, some 7⟩

def crashed : AttemptPlan := ⟨runner, input (some .after_guard), none⟩

def resumed : AttemptPlan := ⟨runner, input none, none⟩

/-- The attempt answered `verified`. -/
def verifies : EStateM.Result Thrown World AgentRunOutcome → Bool
  | .ok (.verified _) _ => true
  | _ => false

theorem exists_verified {r : EStateM.Result Thrown World AgentRunOutcome}
    (h : verifies r = true) : ∃ record w, r = .ok (.verified record) w := by
  match r with
  | .ok (.verified record) w => exact ⟨record, w, rfl⟩
  | .ok (.rejected _) _ => cases h
  | .ok (.superseded _) _ => cases h
  | .ok (.manual_required _) _ => cases h
  | .error _ _ => cases h

theorem resumed_verifies :
    verifies (resumed.exec steady (worldAfter steady [lost, crashed])) = true := by decide +kernel

theorem crash_safe_runs_resumed : ∃ record w,
    resumed.exec steady (worldAfter steady [lost, crashed]) = .ok (.verified record) w ∧
      ∃ v stored question, record.verification = some v ∧ v.passed = true ∧
        .updated stored question ∈ w.trace ∧
        (steady.packetsAt question).isCurrent record.organizationId record.packetId
          record.packetHash = true := by
  obtain ⟨record, w, hexec⟩ := exists_verified resumed_verifies
  obtain ⟨-, v, stored, question, hv, hpassed, hstored, -, -, -, hcurrent⟩ :=
    (crash_safe_runs steady [lost, crashed]).2.2 resumed record w hexec
  exact ⟨record, w, hexec, v, stored, question, hv, hpassed, hstored, hcurrent⟩

end Resumed

end InspectionHub.Agent
