import InspectionHub.Approvals.Service

/-!
# What each call of the approval service does

A call that throws leaves every view of the service as it was. A call that
returns replays an earlier approval, or writes the record of its own module
and nothing else. Later modules cite these lemmas and never unfold a call.
-/

namespace InspectionHub.Approvals

open Domain Reporting

/-- No reader of the service can tell the two apart. -/
structure SameView (w w' : World) : Prop where
  snapshots : w'.snapshots = w.snapshots
  authorities : w'.authorities = w.authorities
  events : w'.events = w.events
  state : ∀ key, w'.state key = w.state key

/-- The record of `key` becomes `s`, and `e` are the new events. -/
structure Writes (key : ModuleSnapshotKey) (s : ModuleApprovalState)
    (e : List ApprovalAuditEvent) (w w' : World) : Prop where
  snapshots : w'.snapshots = w.snapshots
  authorities : w'.authorities = w.authorities
  events : w'.events = w.events ++ e
  state : ∀ k, w'.state k =
    if moduleIdentity k = moduleIdentity key then s else w.state k

theorem SameView.refl (w : World) : SameView w w := ⟨rfl, rfl, rfl, fun _ => rfl⟩

theorem SameView.trans {w w' w'' : World} (h : SameView w w') (h' : SameView w' w'') :
    SameView w w'' :=
  ⟨h'.snapshots.trans h.snapshots, h'.authorities.trans h.authorities,
    h'.events.trans h.events, fun key => (h'.state key).trans (h.state key)⟩

variable {key : ModuleSnapshotKey}

theorem Writes.after {s : ModuleApprovalState} {e : List ApprovalAuditEvent} {w w' w'' : World}
    (h : SameView w w') (h' : Writes key s e w' w'') : Writes key s e w w'' where
  snapshots := h'.snapshots.trans h.snapshots
  authorities := h'.authorities.trans h.authorities
  events := by rw [h'.events, h.events]
  state k := by rw [h'.state k, h.state k]

theorem state_set (w : World) (key k : ModuleSnapshotKey) (s : ModuleApprovalState) :
    ({ w with states := w.states.set (moduleIdentity key) s } : World).state k =
      if moduleIdentity k = moduleIdentity key then s else w.state k := by
  simp only [World.state, OMap.get?_set]
  split <;> rfl

/-! ## The parts that only read -/

variable {env : Surroundings} {w w' : World} {α β : Type}

theorem within_state (key : ModuleSnapshotKey) : Tx.Within SameView (state key) := by
  intro w
  unfold state
  split
  · exact .refl w
  · next hnone =>
      refine ⟨rfl, rfl, rfl, fun k => ?_⟩
      show ({ w with states := w.states.set (moduleIdentity key) .fresh } : World).state k = _
      rw [state_set]
      split
      · next hk => rw [World.state, hk, hnone, Option.getD_none]
      · rfl

theorem within_getAuthority (key : ModuleSnapshotKey) :
    Tx.Within SameView (getAuthority key) := by
  intro w
  unfold getAuthority
  split <;> exact .refl w

theorem within_requireSnapshot (key : ModuleSnapshotKey) (m : String) :
    Tx.Within SameView (requireSnapshot key m) := by
  intro w
  unfold requireSnapshot
  split <;> exact .refl w

variable (env) in
theorem within_nextId : Tx.Within SameView (nextId env) := fun _ => ⟨rfl, rfl, rfl, fun _ => rfl⟩

theorem within_throwIf (c : Prop) [Decidable c] (e : ServiceError) :
    Tx.Within SameView (Tx.throwIf c e) := Tx.Within.throwIf .refl c e

theorem within_assertAuthority (authority : InspectorAuthority) (c : ApprovalCommand) :
    Tx.Within SameView (assertAuthority authority c) :=
  .bind .trans (within_throwIf _ _) fun _ => .bind .trans (within_throwIf _ _) fun _ =>
    within_throwIf _ _

theorem within_replayApproval (r : Receipt) (c : ApprovalCommand) :
    Tx.Within SameView (replayApproval r c) :=
  .bind .trans (within_throwIf _ _) fun _ => .pure .refl _

variable {b : β}

/-- Continue with the record of a module. -/
theorem state_ok {f : ModuleApprovalState → Call β} {w w' : World}
    (h : (state key >>= f) w = .ok b w') : ∃ w₁, SameView w w₁ ∧ f (w.state key) w₁ = .ok b w' := by
  obtain ⟨s, w₁, hs, hrest⟩ := Tx.bind_ok h
  have hview := within_state key w
  rw [hs] at hview
  have hstate : s = w.state key := by
    unfold state at hs
    unfold World.state
    split at hs
    · next existing hfound =>
        cases hs
        rw [hfound, Option.getD_some]
    · next hnone =>
        cases hs
        rw [hnone, Option.getD_none]
  exact ⟨w₁, hview, hstate ▸ hrest⟩

theorem getAuthority_ok {f : InspectorAuthority → Call β} {w w' : World}
    (h : (getAuthority key >>= f) w = .ok b w') :
    ∃ a, w.authorities.get? (moduleIdentity key) = some a ∧ f a w = .ok b w' := by
  obtain ⟨a, w₁, ha, hrest⟩ := Tx.bind_ok h
  unfold getAuthority at ha
  split at ha
  · next hfound =>
      cases ha
      exact ⟨a, hfound, hrest⟩
  · cases ha

theorem requireSnapshot_ok {m : String} {f : JsVal → Call β} {w w' : World}
    (h : (requireSnapshot key m >>= f) w = .ok b w') :
    ∃ snap, w.snapshots.getCurrent key = some snap ∧ f snap w = .ok b w' := by
  obtain ⟨snap, w₁, hs, hrest⟩ := Tx.bind_ok h
  unfold requireSnapshot at hs
  split at hs
  · next hfound =>
      cases hs
      exact ⟨snap, hfound, hrest⟩
  · cases hs

variable {c : ApprovalCommand}

/-- What the checks on the inspector establish. -/
theorem assertAuthority_ok {a : InspectorAuthority} {f : PUnit → Call β} {w w' : World}
    (h : (assertAuthority a c >>= f) w = .ok b w') :
    a.assignedInspectorId = c.inspectorId ∧ a.eligible = true ∧
      a.credentialVersion = c.credentialVersion ∧ f ⟨⟩ w = .ok b w' := by
  obtain ⟨u, w₁, ha, hrest⟩ := Tx.bind_ok h
  obtain ⟨hassigned, ha⟩ := Tx.throwIf_ok ha
  obtain ⟨heligible, ha⟩ := Tx.throwIf_ok ha
  unfold Tx.throwIf at ha
  split at ha
  · cases ha
  · next hcred =>
      cases ha
      exact ⟨not_not.mp hassigned, by simpa using heligible, not_not.mp hcred, hrest⟩

/-! ## Calls that throw -/

variable (env) in
/-- The writes of a call, its last steps. -/
theorem writes_tail (key : ModuleSnapshotKey) (s : ModuleApprovalState)
    (e : String → ApprovalAuditEvent) (a : α) (w : World) :
    ∃ w', (do
        setState key s
        let eventId ← nextId env
        pushEvent (e eventId)
        return a : Call α) w = .ok a w' ∧ Writes key s [e (env.ids w.ids)] w w' :=
  ⟨_, rfl, rfl, rfl, rfl, fun k => state_set w key k s⟩

theorem onError_tail (key : ModuleSnapshotKey) (s : ModuleApprovalState)
    (e : String → ApprovalAuditEvent) (a : α) :
    Tx.OnError SameView (do
      setState key s
      let eventId ← nextId env
      pushEvent (e eventId)
      return a : Call α) := by
  refine .total fun w => ?_
  obtain ⟨w', hw, -⟩ := writes_tail env key s e a w
  exact ⟨a, w', hw⟩

theorem approve_atomic (c : ApprovalCommand) : Tx.OnError SameView (approve env c) := by
  refine .bind .trans (within_state _) fun s => ?_
  split
  · exact (within_replayApproval _ _).onError
  · unfold recordApproval
    refine .bind .trans (within_throwIf _ _) fun _ => ?_
    refine .bind .trans (within_throwIf _ _) fun _ => ?_
    refine .bind .trans (within_throwIf _ _) fun _ => ?_
    refine .bind .trans (within_getAuthority _) fun authority => ?_
    refine .bind .trans (within_assertAuthority _ _) fun _ => ?_
    refine .bind .trans (within_requireSnapshot _ _) fun snapshot => ?_
    refine .bind .trans (within_throwIf _ _) fun _ => ?_
    refine .bind .trans (within_throwIf _ _) fun _ => ?_
    refine .bind .trans (within_nextId env) fun approvalId => ?_
    refine .bind .trans (.ofExcept .refl _) fun parsed => ?_
    exact onError_tail _ _ _ _

theorem invalidateForSnapshotEdit_atomic (i : SnapshotEdit) :
    Tx.OnError SameView (invalidateForSnapshotEdit env i) := by
  refine .bind .trans (within_state _) fun s => ?_
  refine .bind .trans (within_throwIf _ _) fun _ => ?_
  refine .bind .trans (fun w => .refl w) fun current => ?_
  refine .bind .trans (within_throwIf _ _) fun _ => ?_
  refine .bind .trans (within_throwIf _ _) fun _ => ?_
  exact onError_tail _ _ _ _

theorem withdraw_atomic (i : Withdrawal) : Tx.OnError SameView (withdraw env i) := by
  refine .bind .trans (within_state _) fun s => ?_
  refine .bind .trans (within_throwIf _ _) fun _ => ?_
  refine .bind .trans (within_throwIf _ _) fun _ => ?_
  refine .bind .trans (within_getAuthority _) fun authority => ?_
  refine .bind .trans (within_throwIf _ _) fun _ => ?_
  refine .bind .trans (within_requireSnapshot _ _) fun snapshot => ?_
  exact onError_tail _ _ _ _

theorem reopenWithNewSnapshot_atomic (key : ModuleSnapshotKey) :
    Tx.OnError SameView (reopenWithNewSnapshot key) := by
  refine .bind .trans (within_state _) fun s => ?_
  refine .bind .trans (within_requireSnapshot _ _) fun snapshot => ?_
  refine .bind .trans (within_throwIf _ _) fun _ => ?_
  exact .total fun w => ⟨_, _, rfl⟩

/-! ## Calls that return -/

/-- The writes at the end of a call, read back. -/
theorem tail_ok {s : ModuleApprovalState} {e : String → ApprovalAuditEvent} {a b : α}
    {w w' : World} (h : (do
      setState key s
      let eventId ← nextId env
      pushEvent (e eventId)
      return a : Call α) w = .ok b w') : b = a ∧ Writes key s [e (env.ids w.ids)] w w' := by
  obtain ⟨w₁, hw, hwrites⟩ := writes_tail env key s e a w
  rw [hw] at h
  cases h
  exact ⟨rfl, hwrites⟩

/-- `c` recorded the approval `a`: every check passed in the world before, and
the record of the module now carries it. -/
structure Records (env : Surroundings) (c : ApprovalCommand) (a : ApprovalRecord)
    (w w' : World) : Prop where
  unused : (w.state c.key).idempotency.get? c.idempotencyKey = none
  revision : ((w.state c.key).revision : Int) = c.expectedModuleRevision
  active : (w.state c.key).withdrawn = false
  recent : c.recentAuthentication = true
  authority : ∃ authority, w.authorities.get? (moduleIdentity c.key) = some authority ∧
    authority.assignedInspectorId = a.inspectorId ∧ authority.eligible = true ∧
    authority.credentialVersion = a.credentialVersion
  snapshot : ∃ snapshot, w.snapshots.getCurrent c.key = some snapshot ∧
    snapshot.str? "snapshotId" = some a.snapshotId ∧
    snapshot.str? "canonicalHash" = some a.snapshotHash
  key : a.organizationId = c.key.organizationId ∧ a.jobId = c.key.jobId ∧ a.module = c.key.module
  inspector : a.inspectorId = c.inspectorId ∧ a.credentialVersion = c.credentialVersion
  writes : ∃ e, Writes c.key
    { w.state c.key with
      revision := (w.state c.key).revision + 1
      currentApproval := some a
      idempotency := (w.state c.key).idempotency.set c.idempotencyKey
        { fingerprint := approvalFingerprint c, approval := a } } [e] w w'

theorem recordApproval_ok {a : ApprovalRecord} {w w' : World}
    (hunused : (w.state c.key).idempotency.get? c.idempotencyKey = none)
    (h : recordApproval env (w.state c.key) c w = .ok a w') : Records env c a w w' := by
  obtain ⟨hrev, h⟩ := Tx.throwIf_ok h
  obtain ⟨hactive, h⟩ := Tx.throwIf_ok h
  obtain ⟨hrecent, h⟩ := Tx.throwIf_ok h
  obtain ⟨authority, hauthority, h⟩ := getAuthority_ok h
  obtain ⟨hassigned, heligible, hcredential, h⟩ := assertAuthority_ok h
  obtain ⟨snapshot, hsnapshot, h⟩ := requireSnapshot_ok h
  obtain ⟨hexact, h⟩ := Tx.throwIf_ok h
  obtain ⟨-, h⟩ := Tx.throwIf_ok h
  obtain ⟨approvalId, w₁, hid, h⟩ := Tx.bind_ok h
  have hview : SameView w w₁ := by
    have := within_nextId env w
    rwa [hid] at this
  obtain ⟨parsed, hparsed, h⟩ := Tx.ofExcept_ok h
  have hparsed : parsed = newApproval c snapshot approvalId := by
    cases hp : (newApproval c snapshot approvalId).parse env.domain with
    | error e =>
        rw [hp] at hparsed
        cases hparsed
    | ok p =>
        rw [hp] at hparsed
        cases hparsed
        exact (accept_ok hp).1
  subst hparsed
  obtain ⟨ha, hwrites⟩ := tail_ok h
  simp only [not_or, not_not] at hexact
  obtain ⟨-, -, -, hsid, hhash⟩ := hexact
  have hsame : w₁.state c.key = w.state c.key := hview.state c.key
  subst ha
  refine ⟨hunused, not_not.mp hrev, by simpa using hactive, by simpa using hrecent, ?_, ?_,
    ⟨rfl, rfl, rfl⟩, ⟨rfl, rfl⟩, _, .after hview hwrites⟩
  · exact ⟨authority, hauthority, hassigned, heligible, hcredential⟩
  · have read : ∀ {k v : String}, snapshot.str? k = some v →
        snapshot.str? k = some (text snapshot k) := by
      intro k v hk
      rw [text, hk, Option.getD_some]
    exact ⟨snapshot, hsnapshot, read hsid, read hhash⟩

/-- **Spec of `approve`.** It replays, or records. -/
theorem approve_ok {a : ApprovalRecord} {w w' : World} (h : approve env c w = .ok a w') :
    (∃ r, (w.state c.key).idempotency.get? c.idempotencyKey = some r ∧
      r.fingerprint = approvalFingerprint c ∧ r.approval = a ∧ SameView w w') ∨
    Records env c a w w' := by
  obtain ⟨w₁, hview, h⟩ := state_ok h
  have hsame : w₁.state c.key = w.state c.key := hview.state c.key
  cases hr : (w.state c.key).idempotency.get? c.idempotencyKey with
  | some r =>
      rw [hr] at h
      obtain ⟨hfp, h⟩ := Tx.throwIf_ok h
      cases h
      exact .inl ⟨r, rfl, not_not.mp hfp, rfl, hview⟩
  | none =>
      rw [hr] at h
      have hnone := hr
      rw [← hsame] at hnone h
      have hrec := recordApproval_ok hnone h
      obtain ⟨e, hwrites⟩ := hrec.writes
      refine .inr ⟨?_, ?_, ?_, hrec.recent, ?_, ?_, hrec.key, hrec.inspector, e, ?_⟩
      · rw [← hsame]
        exact hnone
      · rw [← hsame]
        exact hrec.revision
      · rw [← hsame]
        exact hrec.active
      · rw [← hview.authorities]
        exact hrec.authority
      · rw [← hview.snapshots]
        exact hrec.snapshot
      · rw [← hsame]
        exact .after hview hwrites

/-- A command whose key carries its fingerprint replays. -/
theorem approve_replays {r : Receipt} {w : World}
    (hr : (w.state c.key).idempotency.get? c.idempotencyKey = some r)
    (hfp : r.fingerprint = approvalFingerprint c) :
    ∃ w', approve env c w = .ok r.approval w' ∧ SameView w w' := by
  have hview := within_state c.key w
  cases hs : state c.key w with
  | error e w₁ =>
      unfold state at hs
      split at hs <;> cases hs
  | ok s w₁ =>
      rw [hs] at hview
      have hstate : s = w.state c.key := by
        have hpure : (state c.key >>= pure) w = .ok s w₁ := Tx.bind_of hs _
        obtain ⟨w₂, -, h⟩ := state_ok hpure
        cases h
        rfl
      refine ⟨w₁, ?_, hview⟩
      unfold approve
      rw [Tx.bind_of hs, hstate, hr]
      show (Tx.throwIf _ _ >>= fun _ => pure r.approval) w₁ = _
      rw [Tx.bind_of (Tx.throwIf_of (not_not.mpr hfp))]
      rfl

/-- A snapshot edit was noted: the named snapshot is current, and the module
waits for its approval. -/
structure Invalidates (i : SnapshotEdit) (w w' : World) : Prop where
  revision : ((w.state i.key).revision : Int) = i.expectedModuleRevision
  current : ∃ snapshot, w.snapshots.getCurrent i.key = some snapshot ∧
    snapshot.str? "snapshotId" = some i.newSnapshotId
  writes : ∃ e, Writes i.key
    { w.state i.key with
      revision := (w.state i.key).revision + 1
      currentApproval := none
      withdrawn := false
      withdrawnSnapshotId := none } [e] w w' ∧ e.type = .invalidated

theorem invalidateForSnapshotEdit_ok {i : SnapshotEdit} {n : Nat} {w w' : World}
    (h : invalidateForSnapshotEdit env i w = .ok n w') : Invalidates i w w' := by
  obtain ⟨w₁, hview, h⟩ := state_ok h
  obtain ⟨hrev, h⟩ := Tx.throwIf_ok h
  obtain ⟨current, w₂, hcurrent, h⟩ := Tx.bind_ok h
  cases hcurrent
  obtain ⟨hstale, h⟩ := Tx.throwIf_ok h
  obtain ⟨-, h⟩ := Tx.throwIf_ok h
  obtain ⟨-, hwrites⟩ := tail_ok h
  simp only [not_or, not_not] at hstale
  obtain ⟨snapshot, hsnapshot, hid⟩ := Option.bind_eq_some_iff.mp hstale.1
  rw [hview.snapshots] at hsnapshot
  exact ⟨not_not.mp hrev, ⟨snapshot, hsnapshot, hid⟩, _, .after hview hwrites, rfl⟩

/-- A withdrawal was recorded against the current snapshot. -/
structure Withdraws (i : Withdrawal) (w w' : World) : Prop where
  snapshot : ∃ snapshot, w.snapshots.getCurrent i.key = some snapshot ∧ ∃ e, Writes i.key
    { w.state i.key with
      revision := (w.state i.key).revision + 1
      currentApproval := none
      withdrawn := true
      withdrawnSnapshotId := some (text snapshot "snapshotId") } [e] w w' ∧
    e.type = .withdrawn ∧ e.snapshotId = text snapshot "snapshotId"

theorem withdraw_ok {i : Withdrawal} {n : Nat} {w w' : World}
    (h : withdraw env i w = .ok n w') : Withdraws i w w' := by
  obtain ⟨w₁, hview, h⟩ := state_ok h
  obtain ⟨-, h⟩ := Tx.throwIf_ok h
  obtain ⟨-, h⟩ := Tx.throwIf_ok h
  obtain ⟨authority, -, h⟩ := getAuthority_ok h
  obtain ⟨-, h⟩ := Tx.throwIf_ok h
  obtain ⟨snapshot, hsnapshot, h⟩ := requireSnapshot_ok h
  obtain ⟨-, hwrites⟩ := tail_ok h
  rw [hview.snapshots] at hsnapshot
  exact ⟨snapshot, hsnapshot, _, .after hview hwrites, rfl, rfl⟩

/-- A withdrawn module was reopened: another snapshot is current by now. -/
structure Reopens (key : ModuleSnapshotKey) (w w' : World) : Prop where
  replaced : ∃ snapshot id, w.snapshots.getCurrent key = some snapshot ∧
    (w.state key).withdrawnSnapshotId = some id ∧ snapshot.str? "snapshotId" ≠ some id
  writes : Writes key
    { w.state key with
      revision := (w.state key).revision + 1
      currentApproval := none
      withdrawn := false
      withdrawnSnapshotId := none } [] w w'

theorem reopenWithNewSnapshot_ok {u : Unit} {w w' : World}
    (h : reopenWithNewSnapshot key w = .ok u w') : Reopens key w w' := by
  obtain ⟨w₁, hview, h⟩ := state_ok h
  obtain ⟨snapshot, hsnapshot, h⟩ := requireSnapshot_ok h
  obtain ⟨hcond, h⟩ := Tx.throwIf_ok h
  simp only [not_or] at hcond
  obtain ⟨-, hsome, hne⟩ := hcond
  obtain ⟨id, hid⟩ := Option.ne_none_iff_exists'.mp hsome
  rw [hview.snapshots] at hsnapshot
  refine ⟨⟨snapshot, id, hsnapshot, hid, by rwa [hid] at hne⟩, .after hview ?_⟩
  cases h
  exact ⟨rfl, rfl, (List.append_nil _).symm, fun k => state_set w₁ key k _⟩

/-! ## Calls that are accepted -/

/-- Whether a call returned. -/
def returned {α : Type} : EStateM.Result ServiceError World α → Bool
  | .ok _ _ => true
  | .error _ _ => false

theorem returned_ok {α : Type} {r : EStateM.Result ServiceError World α} (h : returned r = true) :
    ∃ a w', r = .ok a w' := by
  cases r with
  | ok a w' => exact ⟨a, w', rfl⟩
  | error e w' => cases h

theorem state_of (key : ModuleSnapshotKey) (w : World) :
    ∃ w₁, state key w = .ok (w.state key) w₁ ∧ SameView w w₁ ∧ w₁.ids = w.ids := by
  have hview := within_state key w
  unfold state World.state at *
  split at hview
  · next existing hfound =>
      rw [hfound]
      exact ⟨w, rfl, hview, rfl⟩
  · next hnone =>
      rw [hnone]
      exact ⟨_, rfl, hview, rfl⟩

theorem getAuthority_of {a : InspectorAuthority}
    (h : w.authorities.get? (moduleIdentity key) = some a) : getAuthority key w = .ok a w := by
  unfold getAuthority
  rw [h]

variable {snapshot : JsVal}

theorem requireSnapshot_of {m : String} (h : w.snapshots.getCurrent key = some snapshot) :
    requireSnapshot key m w = .ok snapshot w := by
  unfold requireSnapshot
  rw [h]

/-- What a module's assigned inspector needs to approve `snapshot`. -/
structure Approvable (env : Surroundings) (c : ApprovalCommand) (w : World)
    (snapshot : JsVal) : Prop where
  unused : (w.state c.key).idempotency.get? c.idempotencyKey = none
  revision : ((w.state c.key).revision : Int) = c.expectedModuleRevision
  active : (w.state c.key).withdrawn = false
  recent : c.recentAuthentication = true
  authority : w.authorities.get? (moduleIdentity c.key) =
    some { assignedInspectorId := c.inspectorId, eligible := true
           credentialVersion := c.credentialVersion }
  current : w.snapshots.getCurrent c.key = some snapshot
  scope : snapshot.str? "organizationId" = some c.key.organizationId ∧
    snapshot.str? "jobId" = some c.key.jobId ∧ snapshot.str? "module" = some c.key.module.text
  identity : snapshot.str? "snapshotId" = some c.snapshotId ∧
    snapshot.str? "canonicalHash" = some c.snapshotHash
  inspector : snapshot.strAt? ["inspector", "inspectorId"] = some c.inspectorId ∧
    snapshot.strAt? ["inspector", "credentialVersion"] = some c.credentialVersion
  parses : (newApproval c snapshot (env.ids w.ids)).parse env.domain =
    .ok (newApproval c snapshot (env.ids w.ids))

theorem approve_of (h : Approvable env c w snapshot) : returned (approve env c w) = true := by
  obtain ⟨w₁, hs, hview, hids⟩ := state_of c.key w
  have hauthority : getAuthority c.key w₁ = .ok
      { assignedInspectorId := c.inspectorId, eligible := true
        credentialVersion := c.credentialVersion } w₁ :=
    getAuthority_of (by rw [hview.authorities]; exact h.authority)
  have hassert : ∀ e c', e.assignedInspectorId = c'.inspectorId → e.eligible = true →
      e.credentialVersion = c'.credentialVersion → assertAuthority e c' w₁ = .ok ⟨⟩ w₁ := by
    intro e c' h₁ h₂ h₃
    unfold assertAuthority
    rw [Tx.bind_of (Tx.throwIf_of (not_not.mpr h₁)), Tx.bind_of (Tx.throwIf_of (by simp [h₂])),
      Tx.throwIf_of (not_not.mpr h₃)]
  have hsnapshot : ∀ m, requireSnapshot c.key m w₁ = .ok snapshot w₁ := fun m =>
    requireSnapshot_of (by rw [hview.snapshots]; exact h.current)
  have hexact : assertExactSnapshot snapshot c w₁ = .ok ⟨⟩ w₁ := by
    refine Tx.throwIf_of ?_
    simp only [h.scope, h.identity, ne_eq, not_true_eq_false, or_self, not_false_eq_true]
  have hparse : (Tx.ofExcept (((newApproval c snapshot (env.ids w₁.ids)).parse
      env.domain).mapError ServiceError.schema) : Call ModuleApproval) =
      pure (newApproval c snapshot (env.ids w₁.ids)) := by
    rw [hids, h.parses]
    rfl
  unfold approve
  rw [Tx.bind_of hs, h.unused]
  show returned (recordApproval env (w.state c.key) c w₁) = true
  unfold recordApproval
  rw [Tx.bind_of (Tx.throwIf_of (not_not.mpr h.revision)),
    Tx.bind_of (Tx.throwIf_of (by simp [h.active])),
    Tx.bind_of (Tx.throwIf_of (by simp [h.recent])), Tx.bind_of hauthority,
    Tx.bind_of (hassert _ _ rfl rfl rfl), Tx.bind_of (hsnapshot _), Tx.bind_of hexact,
    Tx.bind_of (Tx.throwIf_of (by simp [h.inspector]))]
  show returned ((Tx.ofExcept (((newApproval c snapshot (env.ids w₁.ids)).parse
    env.domain).mapError ServiceError.schema) >>= _) { w₁ with ids := w₁.ids + 1 }) = true
  rw [hparse]
  rfl

theorem invalidateForSnapshotEdit_of {i : SnapshotEdit}
    (hrev : ((w.state i.key).revision : Int) = i.expectedModuleRevision)
    (hcurrent : w.snapshots.getCurrent i.key = some snapshot)
    (hid : snapshot.str? "snapshotId" = some i.newSnapshotId)
    (hone : (snapshot.int? "revision").any (· < 1) = false)
    (hprior : (w.state i.key).currentApproval = none) :
    returned (invalidateForSnapshotEdit env i w) = true := by
  obtain ⟨w₁, hs, hview, -⟩ := state_of i.key w
  have hread : currentSnapshot i.key w₁ = .ok (some snapshot) w₁ := by
    rw [currentSnapshot, hview.snapshots, hcurrent]
  unfold invalidateForSnapshotEdit
  rw [Tx.bind_of hs, Tx.bind_of (Tx.throwIf_of (not_not.mpr hrev)), Tx.bind_of hread,
    Tx.bind_of (Tx.throwIf_of (by simp [hid, hone])),
    Tx.bind_of (Tx.throwIf_of (by simp [hprior]))]
  rfl

theorem withdraw_of {i : Withdrawal} {authority : InspectorAuthority}
    (hrev : ((w.state i.key).revision : Int) = i.expectedModuleRevision)
    (hrecent : i.recentAuthentication = true)
    (hauthority : w.authorities.get? (moduleIdentity i.key) = some authority)
    (hassigned : authority.assignedInspectorId = i.inspectorId)
    (hcurrent : w.snapshots.getCurrent i.key = some snapshot) :
    returned (withdraw env i w) = true := by
  obtain ⟨w₁, hs, hview, -⟩ := state_of i.key w
  have hauthority : getAuthority i.key w₁ = .ok authority w₁ :=
    getAuthority_of (by rw [hview.authorities]; exact hauthority)
  have hsnapshot : ∀ m, requireSnapshot i.key m w₁ = .ok snapshot w₁ := fun m =>
    requireSnapshot_of (by rw [hview.snapshots]; exact hcurrent)
  unfold withdraw
  rw [Tx.bind_of hs, Tx.bind_of (Tx.throwIf_of (not_not.mpr hrev)),
    Tx.bind_of (Tx.throwIf_of (by simp [hrecent])), Tx.bind_of hauthority,
    Tx.bind_of (Tx.throwIf_of (not_not.mpr hassigned)), Tx.bind_of (hsnapshot _)]
  rfl

end InspectionHub.Approvals
