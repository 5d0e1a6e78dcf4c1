import InspectionHub.Approvals.Runs
import InspectionHub.Domain.ModuleHistory
import InspectionHub.Lib.Digest

/-!
# Withdrawn snapshots

A snapshot whose approval was withdrawn should stay unapproved. Reopening asks
for another current snapshot, and the store never makes an old snapshot
current again. `invalidateForSnapshotEdit` does not look at the withdrawal: an
edit that names the withdrawn snapshot as the new one lifts it.
-/

namespace InspectionHub.Approvals

open Domain Reporting

variable {env : Surroundings} {w w' : World}

/-- The edit is accepted, and names the snapshot whose withdrawal is in force
as the new one. -/
def RenamesWithdrawn (w : World) (i : SnapshotEdit) : Prop :=
  ((w.state i.key).revision : Int) = i.expectedModuleRevision ∧
    (w.snapshots.getCurrent i.key).bind (·.str? "snapshotId") = some i.newSnapshotId ∧
    (w.state i.key).withdrawnSnapshotId = some i.newSnapshotId

/-- No step tells the service that a withdrawn snapshot replaces itself. -/
def RespectsWithdrawal (w : World) (step : Step) : Prop :=
  ∀ i, step = .call (.invalidateForSnapshotEdit i) → ¬ RenamesWithdrawn w i

/-- The snapshot `id` cannot become the approved one of `key`: either another
snapshot is current, or the withdrawal of `id` is in force. -/
structure Retired (key : ModuleSnapshotKey) (id : String) (w : World) : Prop where
  stored : (w.snapshots.byId.get? id).isSome
  notApproved : ∀ a, (w.state key).currentApproval = some a → a.snapshotId ≠ id
  inForce : w.snapshots.currentIds.get? (snapshotKey key) = some id →
    (w.state key).withdrawn = true ∧ (w.state key).withdrawnSnapshotId = some id

/-- The current snapshot of a sound store carries the identifier it is current
under. -/
theorem current_id {key : ModuleSnapshotKey} {snapshot : JsVal} (hw : Sound env w)
    (h : w.snapshots.getCurrent key = some snapshot) : ∃ id,
      w.snapshots.currentIds.get? (snapshotKey key) = some id ∧
        snapshot.str? "snapshotId" = some id := by
  obtain ⟨id, hid, hsnap⟩ := getCurrent_eq_some h
  exact ⟨id, hid, hw.keyed id snapshot hsnap⟩

variable {id : String} {s : ModuleApprovalState}

/-- A record written afresh keeps a snapshot retired when it does so on its
own. -/
theorem Retired.writes {key k : ModuleSnapshotKey} {e : List ApprovalAuditEvent}
    (h : Retired key id w) (hs : Writes k s e w w')
    (hnew : moduleIdentity key = moduleIdentity k →
      (∀ a, s.currentApproval = some a → a.snapshotId ≠ id) ∧
      (w.snapshots.currentIds.get? (snapshotKey k) = some id →
      s.withdrawn = true ∧ s.withdrawnSnapshotId = some id)) : Retired key id w' := by
  by_cases hid : moduleIdentity key = moduleIdentity k
  · obtain ⟨happ, hforce⟩ := hnew hid
    have hkey : snapshotKey key = snapshotKey k := hid
    refine ⟨by rw [hs.snapshots]; exact h.stored, ?_, ?_⟩
    · rw [hs.state key, if_pos hid]
      exact happ
    · rw [hs.state key, if_pos hid, hs.snapshots, hkey]
      exact hforce
  · refine ⟨by rw [hs.snapshots]; exact h.stored, ?_, ?_⟩
    · rw [hs.state key, if_neg hid]
      exact h.notApproved
    · rw [hs.state key, if_neg hid, hs.snapshots]
      exact h.inForce

/-- The same for a module that shares the record. -/
theorem Retired.shared {key k : ModuleSnapshotKey} (h : Retired key id w)
    (hid : moduleIdentity key = moduleIdentity k)
    (hcur : w.snapshots.currentIds.get? (snapshotKey k) = some id) :
    (w.state k).withdrawn = true ∧ (w.state k).withdrawnSnapshotId = some id := by
  have hkey : snapshotKey key = snapshotKey k := hid
  have hforce := h.inForce (by rw [hkey]; exact hcur)
  rwa [World.state, hid] at hforce

theorem retired_create {s : SnapshotStore} {input : ModuleSnapshotInput} {n : Int}
    {created : JsVal} {key : ModuleSnapshotKey} (h : Retired key id w)
    (hc : w.snapshots.create env.domain input n = .ok (created, s)) :
    Retired key id { w with snapshots := s } := by
  obtain ⟨-, hfresh, hbyId, hcurrent⟩ := create_ok hc
  -- the new snapshot has another identifier
  have hne : id ≠ input.snapshotId := by
    rintro rfl
    have hstored := h.stored
    rw [hfresh] at hstored
    cases hstored
  refine ⟨?_, h.notApproved, fun hcur => h.inForce ?_⟩
  · show (s.byId.get? id).isSome
    rw [hbyId, OMap.get?_set_of_ne _ _ hne]
    exact h.stored
  · have hcur : s.currentIds.get? (snapshotKey key) = some id := hcur
    rw [hcurrent, OMap.get?_set] at hcur
    split at hcur
    · exact absurd (Option.some.inj hcur).symm hne
    · exact hcur

/-- No mutation that respects the withdrawal brings a retired snapshot back. -/
theorem retired_mutation {op : Operation} {key : ModuleSnapshotKey} (hw : Sound env w)
    (h : Retired key id w) (hm : Mutation env w w' op) (hok : RespectsWithdrawal w (.call op)) :
    Retired key id w' := by
  cases hm with
  | @recorded c a hrec =>
      obtain ⟨e, hs⟩ := hrec.writes
      obtain ⟨snapshot, hsnapshot, hsid, -⟩ := hrec.snapshot
      obtain ⟨cur, hcur, hcid⟩ := current_id hw hsnapshot
      -- approving asks that no withdrawal is in force
      have hne : moduleIdentity key = moduleIdentity c.key → cur ≠ id := by
        rintro hid rfl
        exact absurd ((h.shared hid hcur).1.symm.trans hrec.active) (by rintro ⟨⟩)
      refine h.writes hs fun hid => ⟨?_, fun hcur' => ?_⟩
      · intro b hb hbid
        have hab : a = b := Option.some.inj hb
        refine hne hid ?_
        rw [← hbid, ← hab]
        exact Option.some.inj (hcid.symm.trans hsid)
      · exact absurd (Option.some.inj (hcur.symm.trans hcur')) (hne hid)
  | @invalidated i hinv =>
      obtain ⟨e, hs, -⟩ := hinv.writes
      obtain ⟨snapshot, hsnapshot, hsid⟩ := hinv.current
      refine h.writes hs fun hid => ⟨fun _ hb => absurd hb (by rintro ⟨⟩), fun hcur => ?_⟩
      -- the edit would name the withdrawn snapshot
      obtain ⟨cur, hcur', hcid⟩ := current_id hw hsnapshot
      have hcurid : cur = id := Option.some.inj (hcur'.symm.trans hcur)
      have hnew : i.newSnapshotId = id := by
        rw [← hcurid]
        exact Option.some.inj (hsid.symm.trans hcid)
      refine absurd ⟨hinv.revision, ?_, ?_⟩ (hok i rfl)
      · rw [hsnapshot]
        exact hsid
      · rw [hnew]
        exact (h.shared hid hcur).2
  | @withdrawn i hwit =>
      obtain ⟨snapshot, hsnapshot, e, hs, -⟩ := hwit.snapshot
      refine h.writes hs fun hid => ⟨fun _ hb => absurd hb (by rintro ⟨⟩), fun hcur => ⟨rfl, ?_⟩⟩
      obtain ⟨cur, hcur', hcid⟩ := current_id hw hsnapshot
      have hcurid : cur = id := Option.some.inj (hcur'.symm.trans hcur)
      rw [← hcurid, text, hcid, Option.getD_some]
  | @reopened k hre =>
      obtain ⟨snapshot, id', hsnapshot, hwid, hne⟩ := hre.replaced
      refine h.writes hre.writes fun hid => ⟨fun _ hb => absurd hb (by rintro ⟨⟩), fun hcur => ?_⟩
      obtain ⟨cur, hcur', hcid⟩ := current_id hw hsnapshot
      have hcurid : cur = id := Option.some.inj (hcur'.symm.trans hcur)
      have hsame : id' = id := Option.some.inj (hwid.symm.trans (h.shared hid hcur).2)
      exact absurd (hcid.trans (by rw [hcurid, hsame])) hne

theorem retired_next (hw : Sound env w) {key : ModuleSnapshotKey} (h : Retired key id w)
    {step : Step} (hok : RespectsWithdrawal w step) : Retired key id (next env w step) := by
  cases step with
  | createSnapshot input n =>
      simp only [next]
      split
      · next created s hc => exact retired_create h hc
      · exact h
  | setAuthority k authority => exact ⟨h.stored, h.notApproved, h.inForce⟩
  | call op =>
      show Retired key id (Tx.after (perform env op w))
      rcases perform_spec env op w with ⟨-, hm⟩ | ⟨-, hview⟩
      · exact retired_mutation hw h hm hok
      · refine ⟨by rw [hview.snapshots]; exact h.stored, ?_, ?_⟩
        · rw [hview.state key]
          exact h.notApproved
        · rw [hview.state key, hview.snapshots]
          exact h.inForce

/-! ## Runs -/

/-- Approved snapshots are stored. -/
def ApprovalsStored (w : World) : Prop :=
  ∀ key a, (w.state key).currentApproval = some a → (w.snapshots.byId.get? a.snapshotId).isSome

theorem approvalsStored_next (hw : Sound env w) (h : ApprovalsStored w) (step : Step) :
    ApprovalsStored (next env w step) := by
  cases step with
  | createSnapshot input n =>
      simp only [next]
      split
      · next created s hc =>
          obtain ⟨-, -, hbyId, -⟩ := create_ok hc
          intro key a ha
          show (s.byId.get? a.snapshotId).isSome
          rw [hbyId, OMap.get?_set]
          split
          · rfl
          · exact h key a ha
      · exact h
  | setAuthority k authority => exact h
  | call op =>
      show ApprovalsStored (Tx.after (perform env op w))
      rcases perform_spec env op w with ⟨-, hm⟩ | ⟨-, hview⟩
      · -- a record that is written afresh holds no approval, or a stored one
        have written : ∀ {s : ModuleApprovalState} {e : List ApprovalAuditEvent},
            Writes op.key s e w (Tx.after (perform env op w)) →
            (∀ a, s.currentApproval = some a → (w.snapshots.byId.get? a.snapshotId).isSome) →
            ApprovalsStored (Tx.after (perform env op w)) := by
          intro s e hs hnew key a ha
          rw [hs.snapshots]
          rw [hs.state key] at ha
          split at ha
          · exact hnew a ha
          · exact h key a ha
        cases hm with
        | @recorded c a hrec =>
            obtain ⟨e, hs⟩ := hrec.writes
            obtain ⟨snapshot, hsnapshot, hsid, -⟩ := hrec.snapshot
            obtain ⟨id, -, hget⟩ := getCurrent_eq_some hsnapshot
            refine written hs fun b hb => ?_
            have hab : a = b := Option.some.inj hb
            have hid : id = b.snapshotId := by
              rw [← hab]
              exact Option.some.inj ((hw.keyed id snapshot hget).symm.trans hsid)
            rw [← hid, hget]
            rfl
        | invalidated hinv =>
            obtain ⟨e, hs, -⟩ := hinv.writes
            exact written hs fun _ hb => absurd hb (by rintro ⟨⟩)
        | withdrawn hwit =>
            obtain ⟨snapshot, -, e, hs, -⟩ := hwit.snapshot
            exact written hs fun _ hb => absurd hb (by rintro ⟨⟩)
        | reopened hre => exact written hre.writes fun _ hb => absurd hb (by rintro ⟨⟩)
      · intro key a ha
        rw [hview.state key] at ha
        rw [hview.snapshots]
        exact h key a ha

theorem stored_reachable (hw : (system env).Reachable TSys.any w) :
    Sound env w ∧ ApprovalsStored w := by
  have hind : (system env).Inductive TSys.any fun w => Sound env w ∧ ApprovalsStored w := by
    refine ⟨?_, ?_⟩
    · rintro w rfl
      exact ⟨storeSound_empty _, fun _ _ h => nomatch h⟩
    · rintro w step w' ⟨hw, h⟩ - rfl
      exact ⟨sound_next hw step, approvalsStored_next hw h step⟩
  exact hind.invariant hw

/-- What a withdrawal in `w` withdraws: the current snapshot of the module,
and the snapshot its current approval was for. -/
def WithdrawnBy (w : World) (i : Withdrawal) (id : String) : Prop :=
  (w.snapshots.getCurrent i.key).bind (·.str? "snapshotId") = some id ∨
    ∃ a, (w.state i.key).currentApproval = some a ∧ a.snapshotId = id

theorem retired_withdraw (hw : Sound env w) (hstored : ApprovalsStored w) {i : Withdrawal}
    {n : Nat} (h : withdraw env i w = .ok n w') (hid : WithdrawnBy w i id) :
    Retired i.key id w' := by
  obtain ⟨snapshot, hsnapshot, e, hs, -⟩ := (withdraw_ok h).snapshot
  obtain ⟨cur, hcur, hcid⟩ := current_id hw hsnapshot
  have hthis := hs.state i.key
  rw [if_pos rfl] at hthis
  refine ⟨?_, ?_, ?_⟩
  · rw [hs.snapshots]
    rcases hid with hid | ⟨a, ha, rfl⟩
    · obtain ⟨id', -, hget⟩ := getCurrent_eq_some hsnapshot
      rw [hsnapshot] at hid
      have hsame : id' = id :=
        Option.some.inj ((hw.keyed id' snapshot hget).symm.trans hid)
      rw [← hsame, hget]
      rfl
    · exact hstored i.key a ha
  · intro a ha
    rw [hthis] at ha
    exact absurd ha nofun
  · intro hcur'
    rw [hs.snapshots] at hcur'
    rw [hthis]
    have hcurid : cur = id := Option.some.inj (hcur.symm.trans hcur')
    exact ⟨rfl, by rw [text, hcid, Option.getD_some, hcurid]⟩

/-- **Withdrawn snapshots stay withdrawn**, in every run that respects the
withdrawal: the snapshot is never the one of a current approval again, and
what a later `approve` records is for another snapshot. -/
theorem withdrawn_stays_withdrawn (env : Surroundings) (w : World)
    (hw : (system env).Reachable TSys.any w) (i : Withdrawal) (n : Nat) (w₁ : World)
    (h : withdraw env i w = .ok n w₁) (w' : World)
    (hlater : (system env).Later RespectsWithdrawal w₁ w') (id : String)
    (hid : WithdrawnBy w i id) :
    (∀ a, (w'.state i.key).currentApproval = some a → a.snapshotId ≠ id) ∧
      ∀ c a w'', c.key = i.key →
        (w'.state c.key).idempotency.get? c.idempotencyKey = none →
        approve env c w' = .ok a w'' → a.snapshotId ≠ id := by
  obtain ⟨hsound, hstored⟩ := stored_reachable hw
  have hsound₁ : Sound env w₁ := by
    obtain ⟨snapshot, -, e, hs, -⟩ := (withdraw_ok h).snapshot
    rw [Sound, hs.snapshots]
    exact hsound
  have hkept : Sound env w' ∧ Retired i.key id w' := by
    refine hlater.preserves (P := fun w => Sound env w ∧ Retired i.key id w) ?_
      ⟨hsound₁, retired_withdraw hsound hstored h hid⟩
    rintro w step w' ⟨hs, hr⟩ hok rfl
    exact ⟨sound_next hs step, retired_next hs hr hok⟩
  refine ⟨hkept.2.notApproved, ?_⟩
  intro c a w'' hc hunused happ
  rcases approve_ok happ with ⟨r, hr, -⟩ | hrec
  · exact absurd (hunused.symm.trans hr) nofun
  · have hretired := retired_mutation hkept.1 hkept.2 (.recorded hrec) fun i' hi => nomatch hi
    obtain ⟨e, hs⟩ := hrec.writes
    refine hretired.notApproved a ?_
    rw [hs.state i.key, if_pos (by rw [hc])]

/-! ## An edit that names the withdrawn snapshot

A snapshot is approved and withdrawn; an edit is noted that names the same
snapshot as the new one, and the snapshot is approved again.
-/

namespace SelfReplacement

open StaleAmendment (before beforeHash hashed snapshotId inspectorId timestamp firstApproval
  secondApproval sha256_before verify_before)

def host : Surroundings where
  domain := StaleAmendment.host
  ids n := [firstApproval, "event-1", "event-2", "event-3", secondApproval].getD n ""

def key : ModuleSnapshotKey where
  organizationId := StaleAmendment.identity.organizationId
  jobId := StaleAmendment.identity.jobId
  module := .building

def input : ModuleSnapshotInput where
  snapshotId := snapshotId
  organizationId := key.organizationId
  jobId := key.jobId
  module := .building
  revision := 1
  content :=
    [("moduleId", .str StaleAmendment.identity.moduleId), ("createdAt", .str timestamp),
      ("inspector", .obj
        [("inspectorId", .str inspectorId), ("displayName", .str "Ada"),
          ("credentialVersion", .str "c1"), ("confirmedAt", .str timestamp)]),
      ("requirementVersion", .str "r1"), ("templateVersion", .str "t1"), ("limitations", .arr []),
      ("verifierResults", .arr []), ("evidenceHashes", .arr []), ("mediaSelection", .arr []),
      ("findings", .arr []), ("coverage", .arr []),
      ("conclusion", .obj
        [("module", .str "building"), ("summary", .str "Sound"),
          ("majorDefectCount", (0 : Int)), ("minorDefectCount", (0 : Int))])]

def snapshot : JsVal := hashed before beforeHash

def authority : InspectorAuthority where
  assignedInspectorId := inspectorId
  eligible := true
  credentialVersion := "c1"

/-- The approval of the snapshot at the given revision. -/
def approval (revision : Int) (idempotencyKey : String) : ApprovalCommand where
  key := key
  snapshotId := snapshotId
  snapshotHash := beforeHash
  expectedModuleRevision := revision
  inspectorId := inspectorId
  credentialVersion := "c1"
  recentAuthentication := true
  idempotencyKey := idempotencyKey
  approvedAt := timestamp

def withdrawal : Withdrawal where
  key := key
  expectedModuleRevision := 1
  inspectorId := inspectorId
  recentAuthentication := true
  recordedAt := timestamp
  reasonCode := "material_error"

def edit : SnapshotEdit where
  key := key
  expectedModuleRevision := 2
  priorSnapshotId := snapshotId
  newSnapshotId := snapshotId
  inspectorId := inspectorId
  recordedAt := timestamp

def created : World := next host .initial (.createSnapshot input 0)

def assigned : World := next host created (.setAuthority key authority)

def approved : World := next host assigned (.call (.approve (approval 0 "k1")))

def withdrawn : World := next host approved (.call (.withdraw withdrawal))

def edited : World := next host withdrawn (.call (.invalidateForSnapshotEdit edit))

def approvedAgain : World := next host edited (.call (.approve (approval 3 "k2")))

theorem createModuleSnapshot_input :
    createModuleSnapshot StaleAmendment.host input.val = .ok snapshot := by
  have hparsed : moduleSnapshotInputSchema StaleAmendment.host.formats input.val =
      .ok (.obj before) := rfl
  refine createModuleSnapshot_of hparsed sha256_before ?_
  show _ = Except.ok (hashed before beforeHash)
  rfl

theorem create_input :
    ∃ s, World.initial.snapshots.create host.domain input 0 = .ok (snapshot, s) := by
  show ∃ s, World.initial.snapshots.create StaleAmendment.host input 0 = .ok (snapshot, s)
  have hid : snapshot.str? "snapshotId" = some input.snapshotId := rfl
  exact ⟨_, create_of rfl rfl rfl createModuleSnapshot_input verify_before hid⟩

theorem created_eq :
    ∃ s, created = { World.initial with snapshots := s } ∧ s.getCurrent key = some snapshot := by
  obtain ⟨s, hs⟩ := create_input
  obtain ⟨-, -, hbyId, hcurrent⟩ := create_ok hs
  have hid : s.currentIds.get? (snapshotKey key) = some input.snapshotId := by
    rw [hcurrent]
    exact OMap.get?_set_self _ _ _
  refine ⟨s, next_create hs, ?_⟩
  unfold SnapshotStore.getCurrent
  rw [hid, Option.bind_some, hbyId]
  exact OMap.get?_set_self _ _ _

/-- What the calls of the run leave as it is. -/
structure Staged (w : World) : Prop where
  authority : w.authorities.get? (moduleIdentity key) = some authority
  current : w.snapshots.getCurrent key = some snapshot

theorem staged_assigned : Staged assigned := by
  obtain ⟨s, hcreated, hcurrent⟩ := created_eq
  unfold assigned
  rw [hcreated]
  exact ⟨OMap.get?_set_self _ _ _, hcurrent⟩

theorem Staged.writes {e : List ApprovalAuditEvent} (h : Staged w) (hs : Writes key s e w w') :
    Staged w' :=
  ⟨by rw [hs.authorities]; exact h.authority, by rw [hs.snapshots]; exact h.current⟩

theorem parse_recorded (approvalId : String) :
    (StaleAmendment.recorded approvalId).parse StaleAmendment.host =
      .ok (StaleAmendment.recorded approvalId) := by
  have hhash : hashField "snapshotHash" (StaleAmendment.recorded approvalId).snapshotHash = [] := by
    have hhex : Js.isHexDigest beforeHash = true := by decide +kernel
    show failing _ _ (Js.isHexDigest beforeHash) = []
    rw [hhex]
    rfl
  unfold ModuleApproval.parse
  rw [hhash]
  rfl

/-- The module is as `s` says, and can be approved at its revision with a key
that was not used. -/
theorem approve_accepted (idempotencyKey : String) (h : Staged w) (hs : w.state key = s)
    (hunused : s.idempotency.get? idempotencyKey = none) (hactive : s.withdrawn = false) :
    ∃ a e, a.snapshotId = snapshotId ∧
      a.snapshotHash = beforeHash ∧
      approve host (approval s.revision idempotencyKey) w =
        .ok a (next host w (.call (.approve (approval s.revision idempotencyKey)))) ∧
      Writes key
        { s with
          revision := s.revision + 1
          currentApproval := some a
          idempotency := s.idempotency.set idempotencyKey
            { fingerprint := approvalFingerprint (approval s.revision idempotencyKey)
              approval := a } } [e] w
        (next host w (.call (.approve (approval s.revision idempotencyKey)))) := by
  subst hs
  have happrovable : Approvable host (approval (w.state key).revision idempotencyKey) w snapshot :=
    { unused := hunused
      revision := rfl
      active := hactive
      recent := rfl
      authority := h.authority
      current := h.current
      scope := ⟨rfl, rfl, rfl⟩
      identity := ⟨rfl, rfl⟩
      inspector := ⟨rfl, rfl⟩
      parses := parse_recorded _ }
  obtain ⟨a, w', ha⟩ := returned_ok (approve_of happrovable)
  have hnext : next host w (.call (.approve (approval (w.state key).revision idempotencyKey))) =
      w' := by
    show Tx.after ((approve host _ >>= fun a => pure (Reply.approval a)) w) = w'
    rw [Tx.bind_of ha]
    rfl
  rw [hnext]
  rcases approve_ok ha with ⟨r, hr, -⟩ | hrec
  · exact absurd (hunused.symm.trans hr) nofun
  · obtain ⟨e, hw⟩ := hrec.writes
    obtain ⟨current, hcurrent, hid, hhash⟩ := hrec.snapshot
    have hsame : current = snapshot := Option.some.inj (hcurrent.symm.trans h.current)
    subst hsame
    exact ⟨a, e, (Option.some.inj hid).symm, (Option.some.inj hhash).symm, ha, hw⟩

theorem approved_spec : ∃ a e, a.snapshotId = snapshotId ∧ Writes key
    { ModuleApprovalState.fresh with
      revision := 1
      currentApproval := some a
      idempotency := OMap.empty.set "k1"
        { fingerprint := approvalFingerprint (approval 0 "k1"), approval := a } } [e]
    assigned approved := by
  have hfresh : assigned.state key = .fresh := by
    obtain ⟨s, hcreated, -⟩ := created_eq
    unfold assigned
    rw [hcreated]
    rfl
  obtain ⟨a, e, hid, -, -, hw⟩ := approve_accepted "k1" staged_assigned hfresh rfl rfl
  exact ⟨a, e, hid, hw⟩

theorem staged_approved : Staged approved := by
  obtain ⟨a, e, -, hw⟩ := approved_spec
  exact staged_assigned.writes hw

/-- The withdrawal of the approved snapshot is accepted. -/
theorem withdraw_accepted :
    (∃ n, withdraw host withdrawal approved = .ok n withdrawn) ∧ ∃ a e,
      a.snapshotId = snapshotId ∧ (approved.state key).currentApproval = some a ∧ Writes key
        { revision := 2
          currentApproval := none
          withdrawn := true
          withdrawnSnapshotId := some snapshotId
          idempotency := OMap.empty.set "k1"
            { fingerprint := approvalFingerprint (approval 0 "k1"), approval := a } } [e]
        approved withdrawn := by
  obtain ⟨a, e, hid, hw⟩ := approved_spec
  have hstate := hw.state key
  rw [if_pos rfl] at hstate
  have haccepted : returned (withdraw host withdrawal approved) = true := by
    refine withdraw_of ?_ rfl staged_approved.authority rfl staged_approved.current
    show ((approved.state key).revision : Int) = 1
    rw [hstate]
    rfl
  obtain ⟨n, w', hwithdraw⟩ := returned_ok haccepted
  have hnext : withdrawn = w' := by
    show Tx.after ((withdraw host withdrawal >>= fun n => pure (Reply.revision n)) approved) = w'
    rw [Tx.bind_of hwithdraw]
    rfl
  obtain ⟨current, hcurrent, e', hw', -⟩ := (withdraw_ok hwithdraw).snapshot
  have hsame : current = snapshot := Option.some.inj (hcurrent.symm.trans staged_approved.current)
  subst hsame
  rw [hnext]
  refine ⟨⟨n, hwithdraw⟩, a, e', hid, by rw [hstate], ?_⟩
  have hkey : withdrawal.key = key := rfl
  rw [hkey, hstate] at hw'
  exact hw'

/-- The withdrawn snapshot is the approved one again. -/
theorem withdrawn_then_approved :
    (∃ n, withdraw host withdrawal approved = .ok n withdrawn) ∧
      WithdrawnBy approved withdrawal snapshotId ∧
      RenamesWithdrawn withdrawn edit ∧
      ∃ a, (approvedAgain.state key).currentApproval = some a ∧ a.snapshotId = snapshotId ∧
        a.snapshotHash = beforeHash ∧ ∃ c, approve host c edited = .ok a approvedAgain ∧
          (edited.state key).idempotency.get? c.idempotencyKey = none := by
  obtain ⟨haccepted, b, e, hb, happroved, hw⟩ := withdraw_accepted
  have hwithdrawn := hw.state key
  rw [if_pos rfl] at hwithdrawn
  have hstaged : Staged withdrawn := staged_approved.writes hw
  have hrev : ((withdrawn.state key).revision : Int) = edit.expectedModuleRevision := by
    rw [hwithdrawn]
    rfl
  have hedit : returned (invalidateForSnapshotEdit host edit withdrawn) = true := by
    refine invalidateForSnapshotEdit_of hrev hstaged.current rfl rfl ?_
    show (withdrawn.state key).currentApproval = none
    rw [hwithdrawn]
  obtain ⟨n, w', hedit⟩ := returned_ok hedit
  have hnext : edited = w' := by
    show Tx.after ((invalidateForSnapshotEdit host edit >>= fun n => pure (Reply.revision n))
      withdrawn) = w'
    rw [Tx.bind_of hedit]
    rfl
  obtain ⟨e', hw', -⟩ := (invalidateForSnapshotEdit_ok hedit).writes
  rw [← hnext] at hw'
  have hedited := hw'.state key
  have hkey : edit.key = key := rfl
  rw [hkey, if_pos rfl, hwithdrawn] at hedited
  have hunused : (edited.state key).idempotency.get? "k2" = none := by
    rw [hedited]
    exact OMap.get?_set_of_ne _ _ (by decide)
  obtain ⟨a, e'', hid, hhash, hagain, hw''⟩ := approve_accepted "k2"
    (hstaged.writes hw') hedited (OMap.get?_set_of_ne _ _ (by decide)) rfl
  refine ⟨haccepted, .inr ⟨b, happroved, hb⟩, ⟨hrev, ?_, ?_⟩, a, ?_, hid, hhash, _, hagain, hunused⟩
  · show (withdrawn.snapshots.getCurrent key).bind (·.str? "snapshotId") = some snapshotId
    rw [hstaged.current]
    rfl
  · show (withdrawn.state key).withdrawnSnapshotId = some snapshotId
    rw [hwithdrawn]
  · have happrovedAgain := hw''.state key
    rw [if_pos rfl] at happrovedAgain
    exact congrArg ModuleApprovalState.currentApproval happrovedAgain

/-- After the withdrawal alone, the snapshot cannot be approved. -/
theorem stays_withdrawn_here :
    (∃ n, withdraw host withdrawal approved = .ok n withdrawn) ∧
      RespectsWithdrawal withdrawn (.call (.approve (approval 2 "k2"))) ∧
      ∀ a, ((next host withdrawn (.call (.approve (approval 2 "k2")))).state key).currentApproval =
        some a → a.snapshotId ≠ snapshotId := by
  obtain ⟨⟨n, hn⟩, b, e, hb, happroved, -⟩ := withdraw_accepted
  have hcreated : (system host).Reachable TSys.any created :=
    (TSys.Reachable.init rfl).step trivial rfl
  have hassigned : (system host).Reachable TSys.any assigned := hcreated.step trivial rfl
  have hreachable : (system host).Reachable TSys.any approved := hassigned.step trivial rfl
  have hrespects : RespectsWithdrawal withdrawn (.call (.approve (approval 2 "k2"))) :=
    fun i hi => nomatch hi
  have hlater : (system host).Later RespectsWithdrawal withdrawn
      (next host withdrawn (.call (.approve (approval 2 "k2")))) :=
    (TSys.Later.refl withdrawn).snoc hrespects rfl
  exact ⟨⟨n, hn⟩, hrespects, (withdrawn_stays_withdrawn host approved hreachable withdrawal n
    withdrawn hn _ hlater snapshotId (.inr ⟨b, happroved, hb⟩)).1⟩

end SelfReplacement

end InspectionHub.Approvals
