import InspectionHub.Lib.TSys
import InspectionHub.RecipientAccess.Service

/-!
# Calls of the recipient access service

What each call leaves as it was and what it writes. The checks read the clock
and add events, and touch no grant, invitation or delivered version.
-/

namespace InspectionHub.RecipientAccess

open Domain (ModuleType)

variable {env : Surroundings} {s s' t : State}

/-! ## Passive calls -/

/-- An order that only reading the clock, drawing tokens and recording events
goes along. -/
structure Passive (R : State → State → Prop) : Prop where
  refl : ∀ s, R s s
  trans : ∀ {s t u}, R s t → R t u → R s u
  passes : ∀ s ticks tokens otps events, s.ticks ≤ ticks → s.tokens ≤ tokens →
    R s { s with ticks, tokens, otps, events }

variable {α : Type}

namespace Passive

variable {R : State → State → Prop} (hR : Passive R)

include hR

theorem bind {α β : Type} {x : Call α} {f : α → Call β} (hx : Tx.Within R x)
    (hf : ∀ a, Tx.Within R (f a)) : Tx.Within R (x >>= f) :=
  Tx.Within.bind (R := R) hR.trans hx hf

theorem pure (a : α) : Tx.Within R (pure a : Call α) := Tx.Within.pure hR.refl a

theorem throw (e : AccessError) : Tx.Within R (throw e : Call α) :=
  Tx.Within.throw hR.refl e

theorem throwIf (c : Prop) [Decidable c] (e : AccessError) :
    Tx.Within R (Tx.throwIf c e : Call PUnit) := Tx.Within.throwIf hR.refl c e

theorem ofExcept (r : Except AccessError α) : Tx.Within R (Tx.ofExcept r : Call α) :=
  Tx.Within.ofExcept hR.refl r

theorem read (f : State → α) : Tx.Within R (fun s => .ok (f s) s : Call α) := hR.refl

theorem now : Tx.Within R (now env) := fun s =>
  hR.passes s (s.ticks + 1) s.tokens s.otps s.events (Nat.le_succ _) (le_refl _)

theorem token (kind : String) : Tx.Within R (token env kind) := fun s =>
  hR.passes s s.ticks (s.tokens + 1) s.otps s.events (le_refl _) (Nat.le_succ _)

theorem nextOtp : Tx.Within R (nextOtp env) := fun s =>
  hR.passes s s.ticks s.tokens (s.otps + 1) s.events (le_refl _) (le_refl _)

theorem appendEvent (type : AccessEventType) (fields : EventFields) :
    Tx.Within R (appendEvent env type fields) := by
  refine hR.bind (hR.token _) fun eventId => hR.bind hR.now fun occurredAt => ?_
  exact fun s => hR.passes s s.ticks s.tokens s.otps _ (le_refl _) (le_refl _)

theorem assertSession (session : MailboxSession) : Tx.Within R (assertSession env session) :=
  hR.bind (hR.throwIf _ _) fun _ => hR.bind hR.now fun _ => hR.bind (hR.throwIf _ _) fun _ =>
    hR.bind hR.now fun _ => hR.throwIf _ _

theorem requireGrant (grantId : String) : Tx.Within R (requireGrant grantId) := by
  intro s
  unfold RecipientAccess.requireGrant
  split <;> exact hR.refl s

theorem assertLineage (budget : Nat) (seen : List String) (parentGrantId : Option String) :
    Tx.Within R (assertLineage env budget seen parentGrantId) := by
  induction budget generalizing seen parentGrantId with
  | zero =>
      cases parentGrantId with
      | none => exact hR.pure _
      | some id => exact hR.throw _
  | succ budget ih =>
      cases parentGrantId with
      | none => exact hR.pure _
      | some id =>
          exact hR.bind (hR.throwIf _ _) fun _ => hR.bind (hR.requireGrant id) fun parent =>
            hR.bind (hR.throwIf _ _) fun _ => hR.bind hR.now fun _ =>
              hR.bind (hR.throwIf _ _) fun _ => ih _ _

theorem assertGrantLineageActive (grant : RecipientGrant) :
    Tx.Within R (assertGrantLineageActive env grant) := fun s =>
  hR.assertLineage (s.grants.values.length + 1) _ _ s

theorem requireDelivered (organizationId jobId reportVersionId : String)
    (modules : List ModuleType) :
    Tx.Within R (requireDelivered organizationId jobId reportVersionId modules) := by
  intro s
  unfold RecipientAccess.requireDelivered
  split
  · exact hR.refl s
  · split <;> exact hR.refl s

theorem invitationState (invitation : ShareInvitation) :
    Tx.Within R (invitationState env invitation) := by
  unfold RecipientAccess.invitationState
  split
  · exact hR.bind hR.now fun _ => hR.pure _
  · exact hR.pure _

theorem invitationView (invitation : ShareInvitation) :
    Tx.Within R (invitationView env invitation) :=
  hR.bind (hR.invitationState invitation) fun _ => hR.pure _

theorem checkCapability (session : MailboxSession) (grantId : String)
    (request : AuthorisationRequest) : Tx.Within R (checkCapability env session grantId request) :=
  hR.bind (hR.assertSession session) fun _ => hR.bind (hR.requireGrant grantId) fun grant =>
    hR.bind (hR.assertGrantLineageActive grant) fun _ =>
      hR.bind (hR.requireDelivered _ _ _ _) fun _ => hR.bind (hR.throwIf _ _) fun _ =>
        hR.bind (hR.ofExcept _) fun _ => hR.bind (hR.throwIf _ _) fun _ =>
          hR.bind hR.now fun _ => hR.bind (hR.throwIf _ _) fun _ =>
            hR.bind (hR.appendEvent _ _) fun _ => hR.pure _

theorem denyRequest (session : MailboxSession) (grantId : String)
    (request : AuthorisationRequest) : Tx.Within R (denyRequest env session grantId request) :=
  hR.bind (hR.appendEvent _ _) fun _ => hR.throw _

theorem authorise (session : MailboxSession) (grantId : String)
    (request : AuthorisationRequest) : Tx.Within R (authorise env session grantId request) := by
  intro s
  have hbody : R s (Tx.after (RecipientAccess.checkCapability env session grantId request s)) :=
    hR.checkCapability session grantId request s
  unfold RecipientAccess.authorise
  cases h : RecipientAccess.checkCapability env session grantId request s with
  | ok grant s' =>
      rw [h] at hbody
      exact hbody
  | error e s' =>
      rw [h] at hbody
      exact hR.trans hbody (hR.denyRequest session grantId request s')

theorem recheck (session : MailboxSession) (grantId : String)
    (request : AuthorisationRequest) (before : RecipientGrant) :
    Tx.Within R (recheck env session grantId request before) :=
  hR.bind (hR.authorise session grantId request) fun _ => hR.throwIf _ _

end Passive

/-! ## What checks keep -/

/-- Time passes, tokens are drawn and events recorded, nothing else. -/
structure Keeps (s t : State) : Prop where
  grants : t.grants = s.grants
  invitations : t.invitations = s.invitations
  deliveredVersions : t.deliveredVersions = s.deliveredVersions
  ticks : s.ticks ≤ t.ticks
  tokens : s.tokens ≤ t.tokens

theorem Keeps.refl (s : State) : Keeps s s := ⟨rfl, rfl, rfl, le_refl _, le_refl _⟩

theorem Keeps.trans {s t u : State} (h : Keeps s t) (h' : Keeps t u) : Keeps s u where
  grants := h'.grants.trans h.grants
  invitations := h'.invitations.trans h.invitations
  deliveredVersions := h'.deliveredVersions.trans h.deliveredVersions
  ticks := le_trans h.ticks h'.ticks
  tokens := le_trans h.tokens h'.tokens

/-- A call that keeps all but clock, tokens and events. -/
abbrev Checks {α : Type} (x : Call α) : Prop := Tx.Within Keeps x

theorem Checks.bind {α β : Type} {x : Call α} {f : α → Call β} (hx : Checks x)
    (hf : ∀ a, Checks (f a)) : Checks (x >>= f) := Tx.Within.bind (R := Keeps) Keeps.trans hx hf

theorem Checks.pure (a : α) : Checks (pure a : Call α) := Tx.Within.pure Keeps.refl a

theorem Checks.throw (e : AccessError) : Checks (throw e : Call α) :=
  Tx.Within.throw Keeps.refl e

theorem Checks.throwIf (c : Prop) [Decidable c] (e : AccessError) :
    Checks (Tx.throwIf c e : Call PUnit) := Tx.Within.throwIf Keeps.refl c e

theorem Checks.ofExcept (r : Except AccessError α) : Checks (Tx.ofExcept r : Call α) :=
  Tx.Within.ofExcept Keeps.refl r

theorem Checks.ok {x : Call α} (h : Checks x) {a : α} (hs : x s = .ok a s') : Keeps s s' := by
  have hkeeps := h s
  rwa [hs] at hkeeps

theorem keeps_passive : Passive Keeps :=
  ⟨Keeps.refl, Keeps.trans, fun _ _ _ _ _ hticks htokens => ⟨rfl, rfl, rfl, hticks, htokens⟩⟩

theorem checks_now : Checks (now env) := keeps_passive.now

theorem checks_token (kind : String) : Checks (token env kind) := keeps_passive.token kind

theorem checks_nextOtp : Checks (nextOtp env) := keeps_passive.nextOtp

theorem checks_appendEvent (type : AccessEventType) (fields : EventFields) :
    Checks (appendEvent env type fields) := keeps_passive.appendEvent type fields

theorem checks_assertSession (session : MailboxSession) : Checks (assertSession env session) :=
  keeps_passive.assertSession session

theorem checks_requireGrant (grantId : String) : Checks (requireGrant grantId) :=
  keeps_passive.requireGrant grantId

theorem checks_assertGrantLineageActive (grant : RecipientGrant) :
    Checks (assertGrantLineageActive env grant) := keeps_passive.assertGrantLineageActive grant

theorem checks_requireDelivered (organizationId jobId reportVersionId : String)
    (modules : List ModuleType) :
    Checks (requireDelivered organizationId jobId reportVersionId modules) :=
  keeps_passive.requireDelivered _ _ _ _

theorem checks_invitationState (invitation : ShareInvitation) :
    Checks (invitationState env invitation) := keeps_passive.invitationState invitation

theorem checks_invitationView (invitation : ShareInvitation) :
    Checks (invitationView env invitation) := keeps_passive.invitationView invitation

theorem checks_authorise (session : MailboxSession) (grantId : String)
    (request : AuthorisationRequest) : Checks (authorise env session grantId request) :=
  keeps_passive.authorise session grantId request

theorem checks_recheck (session : MailboxSession) (grantId : String)
    (request : AuthorisationRequest) (before : RecipientGrant) :
    Checks (recheck env session grantId request before) :=
  keeps_passive.recheck session grantId request before

/-! ## What writes write -/

/-- A call that throws before it writes. -/
abbrev ThrowsClean {α : Type} (x : Call α) : Prop := Tx.OnError Keeps x

theorem ThrowsClean.bind {α β : Type} {x : Call α} {f : α → Call β} (hx : Checks x)
    (hf : ∀ a, ThrowsClean (f a)) : ThrowsClean (x >>= f) :=
  Tx.OnError.bind (R := Keeps) Keeps.trans hx hf

/-- Delivered versions stay, and what is withdrawn stays withdrawn. -/
def WithdrawsMore (s t : State) : Prop :=
  ∀ key version, s.deliveredVersions.get? key = some version →
    ∃ version', t.deliveredVersions.get? key = some version' ∧
      version.withdrawnModules ⊆ version'.withdrawnModules

theorem WithdrawsMore.of_eq (h : t.deliveredVersions = s.deliveredVersions) :
    WithdrawsMore s t := fun _ version hversion =>
  ⟨version, h ▸ hversion, List.Subset.refl _⟩

/-- Only delivered versions, clock, tokens and events may differ. -/
structure KeepsGrants (s t : State) : Prop where
  grants : t.grants = s.grants
  invitations : t.invitations = s.invitations
  withdraws : WithdrawsMore s t
  ticks : s.ticks ≤ t.ticks
  tokens : s.tokens ≤ t.tokens

theorem Keeps.keepsGrants (h : Keeps s t) : KeepsGrants s t :=
  ⟨h.grants, h.invitations, .of_eq h.deliveredVersions, h.ticks, h.tokens⟩

variable {u v : State}

/-- A delivered version is put. -/
theorem Keeps.keepsGrants_put {version : DeliveredReportVersion} (h : Keeps s t)
    (hput : setDelivered version t = .ok () u) (h' : Keeps u v)
    (hwithdrawn : ∀ old, s.deliveredVersions.get? version.versionKey = some old →
      old.withdrawnModules ⊆ version.withdrawnModules) : KeepsGrants s v := by
  cases hput
  refine ⟨h'.grants.trans h.grants, h'.invitations.trans h.invitations, ?_,
    le_trans h.ticks h'.ticks, le_trans h.tokens h'.tokens⟩
  intro key old hold
  rw [h'.deliveredVersions]
  show ∃ version', (t.deliveredVersions.put version).get? key = some version' ∧ _
  rw [Table.get?_put]
  by_cases hkey : key = version.versionKey
  · rw [if_pos hkey]
    exact ⟨version, rfl, hwithdrawn old (hkey ▸ hold)⟩
  · rw [if_neg hkey, h.deliveredVersions]
    exact ⟨old, hold, List.Subset.refl _⟩

/-- A grant is put. -/
structure PutsGrant (grant : RecipientGrant) (s t : State) : Prop where
  grants : t.grants = s.grants.put grant
  invitations : t.invitations = s.invitations
  deliveredVersions : t.deliveredVersions = s.deliveredVersions
  ticks : s.ticks ≤ t.ticks
  tokens : s.tokens ≤ t.tokens

/-- An invitation is put. -/
structure PutsInvitation (invitation : ShareInvitation) (s t : State) : Prop where
  grants : t.grants = s.grants
  invitations : t.invitations = s.invitations.put invitation
  deliveredVersions : t.deliveredVersions = s.deliveredVersions
  ticks : s.ticks ≤ t.ticks
  tokens : s.tokens ≤ t.tokens

variable {grant : RecipientGrant}

theorem Keeps.putsGrant (h : Keeps s t) (hput : PutsGrant grant t u) (h' : Keeps u v) :
    PutsGrant grant s v where
  grants := by rw [h'.grants, hput.grants, h.grants]
  invitations := by rw [h'.invitations, hput.invitations, h.invitations]
  deliveredVersions := by rw [h'.deliveredVersions, hput.deliveredVersions, h.deliveredVersions]
  ticks := le_trans h.ticks (le_trans hput.ticks h'.ticks)
  tokens := le_trans h.tokens (le_trans hput.tokens h'.tokens)

theorem Keeps.putsInvitation {invitation : ShareInvitation} (h : Keeps s t)
    (hput : PutsInvitation invitation t u) (h' : Keeps u v) : PutsInvitation invitation s v where
  grants := by rw [h'.grants, hput.grants, h.grants]
  invitations := by rw [h'.invitations, hput.invitations, h.invitations]
  deliveredVersions := by rw [h'.deliveredVersions, hput.deliveredVersions, h.deliveredVersions]
  ticks := le_trans h.ticks (le_trans hput.ticks h'.ticks)
  tokens := le_trans h.tokens (le_trans hput.tokens h'.tokens)

theorem setGrant_ok {u : Unit} (h : setGrant grant s = .ok u t) : PutsGrant grant s t := by
  cases h
  exact ⟨rfl, rfl, rfl, le_refl _, le_refl _⟩

theorem setInvitation_ok {invitation : ShareInvitation} {u : Unit}
    (h : setInvitation invitation s = .ok u t) : PutsInvitation invitation s t := by
  cases h
  exact ⟨rfl, rfl, rfl, le_refl _, le_refl _⟩

/-- A write and an event after it always succeed. -/
theorem throwsClean_write {x : Call Unit} {type : AccessEventType} {fields : EventFields} {a : α}
    (hx : ∀ s, ∃ u t, x s = .ok u t) :
    ThrowsClean (x >>= fun _ => appendEvent env type fields >>= fun _ => (pure a : Call α)) := by
  refine Tx.OnError.total fun s => ?_
  obtain ⟨u, t, ht⟩ := hx s
  exact ⟨a, _, (Tx.bind_of ht _).trans rfl⟩

variable {grantId : String}

theorem requireGrant_ok (h : requireGrant grantId s = .ok grant t) :
    s.grants.get? grantId = some grant ∧ s = t := by
  unfold requireGrant at h
  split at h
  · next found hfound =>
      cases h
      exact ⟨hfound, rfl⟩
  · cases h

/-- A grant drawn from the token factory and stored. -/
structure Stores (env : Surroundings) (scope : Scope) (parentGrantId : Option String)
    (grant : RecipientGrant) (s t : State) : Prop where
  puts : PutsGrant grant s t
  drawn : ∃ n, s.tokens ≤ n ∧ n < t.tokens ∧ grant.grantId = env.token "grant" n
  scope : grant.toScope = { scope with
    permittedModules := unique scope.permittedModules
    permittedActions := unique scope.permittedActions }
  parent : grant.parentGrantId = parentGrantId
  active : grant.status = .active

theorem storeGrant_ok {scope : Scope} {principalId verifiedEmail issuedBy : String}
    {parentGrantId issuedAt : Option String}
    (h : storeGrant env scope principalId verifiedEmail issuedBy parentGrantId issuedAt s =
      .ok grant t) : Stores env scope parentGrantId grant s t := by
  unfold storeGrant at h
  obtain ⟨time, s₁, hnow, h⟩ := Tx.bind_ok h
  obtain ⟨grantId, s₂, htoken, h⟩ := Tx.bind_ok h
  obtain ⟨email, -, h⟩ := Tx.ofExcept_ok h
  obtain ⟨u, s₃, hput, h⟩ := Tx.bind_ok h
  obtain ⟨u', s₄, hevent, h⟩ := Tx.bind_ok h
  cases h
  have hbefore := (checks_now.ok hnow).trans ((checks_token "grant").ok htoken)
  have hafter := (checks_appendEvent _ _).ok hevent
  have hputs := setGrant_ok hput
  cases hnow
  cases htoken
  refine ⟨hbefore.putsGrant hputs hafter, ⟨s.tokens, le_refl _, ?_, rfl⟩, rfl, rfl, rfl⟩
  exact lt_of_lt_of_le (Nat.lt_succ_self _) (le_trans hputs.tokens hafter.tokens)

theorem storeGrant_clean (scope : Scope) (principalId verifiedEmail issuedBy : String)
    (parentGrantId issuedAt : Option String) :
    ThrowsClean (storeGrant env scope principalId verifiedEmail issuedBy parentGrantId
      issuedAt) :=
  ThrowsClean.bind checks_now fun _ => ThrowsClean.bind (checks_token _) fun _ =>
    ThrowsClean.bind (.ofExcept _) fun _ => throwsClean_write fun _ => ⟨(), _, rfl⟩

/-! ## What an authorisation passed -/

/-- A grant that some reading of the clock from now on finds active. -/
structure Live (env : Surroundings) (s : State) (grant : RecipientGrant) : Prop where
  status : grant.status = .active
  unexpired : ∃ n, s.ticks ≤ n ∧
    env.host.parsesAtOrBefore grant.expiresAt (env.clock n) = false

theorem now_ok {time : Int} (h : now env s = .ok time t) : time = env.clock s.ticks := by
  cases h
  rfl

/-- A lineage that is active starts with a parent that is. -/
theorem assertLineage_ok {budget : Nat} {seen : List String} {parentGrantId : String} {u : PUnit}
    (h : assertLineage env budget seen (some parentGrantId) s = .ok u t) :
    ∃ parent, s.grants.get? parentGrantId = some parent ∧ Live env s parent := by
  cases budget with
  | zero => cases h
  | succ budget =>
      unfold assertLineage at h
      obtain ⟨-, h⟩ := Tx.throwIf_ok h
      obtain ⟨parent, s₁, hparent, h⟩ := Tx.bind_ok h
      obtain ⟨hfound, rfl⟩ := requireGrant_ok hparent
      obtain ⟨hstatus, h⟩ := Tx.throwIf_ok h
      obtain ⟨time, s₂, hnow, h⟩ := Tx.bind_ok h
      obtain ⟨hexpiry, -⟩ := Tx.throwIf_ok h
      rw [now_ok hnow] at hexpiry
      exact ⟨parent, hfound, not_not.mp hstatus, s.ticks, le_refl _,
        Bool.eq_false_iff.mpr hexpiry⟩

/-- What `authorise` checks of a request. -/
structure Authorised (env : Surroundings) (s : State) (grantId : String)
    (request : AuthorisationRequest) (grant : RecipientGrant) : Prop where
  stored : s.grants.get? grantId = some grant
  live : Live env s grant
  parent : ∀ parentGrantId, grant.parentGrantId = some parentGrantId →
    ∃ parent, s.grants.get? parentGrantId = some parent ∧ Live env s parent
  report : grant.organizationId = request.organizationId ∧ grant.jobId = request.jobId ∧
    grant.reportVersionId = request.reportVersionId
  module : request.module ∈ grant.permittedModules
  action : request.action ∈ grant.permittedActions
  delivered : ∃ version, s.deliveredVersions.get?
      (versionKeyOf request.organizationId request.jobId request.reportVersionId) =
        some version ∧ request.module ∉ version.withdrawnModules

theorem requireDelivered_ok {organizationId jobId reportVersionId : String}
    {modules : List ModuleType} {version : DeliveredReportVersion}
    (h : requireDelivered organizationId jobId reportVersionId modules s = .ok version t) :
    s.deliveredVersions.get? (versionKeyOf organizationId jobId reportVersionId) = some version ∧
      s = t := by
  unfold requireDelivered at h
  split at h
  · cases h
  · next found hfound =>
      split at h
      · cases h
      · cases h
        exact ⟨hfound, rfl⟩

/-- A later reading of the clock is a reading from now on. -/
theorem Live.earlier (h : Live env t grant) (hticks : s.ticks ≤ t.ticks) : Live env s grant := by
  obtain ⟨n, hn, hexpiry⟩ := h.unexpired
  exact ⟨h.status, n, le_trans hticks hn, hexpiry⟩

theorem assertGrantLineageActive_ok {u : PUnit}
    (h : assertGrantLineageActive env grant s = .ok u t) :
    ∀ parentGrantId, grant.parentGrantId = some parentGrantId →
      ∃ parent, s.grants.get? parentGrantId = some parent ∧ Live env s parent := by
  intro parentGrantId hparent
  unfold assertGrantLineageActive at h
  rw [hparent] at h
  exact assertLineage_ok h

variable {request : AuthorisationRequest}

theorem checkCapability_ok {session : MailboxSession}
    (h : checkCapability env session grantId request s = .ok grant t) :
    Authorised env s grantId request grant := by
  unfold checkCapability at h
  obtain ⟨_, s₁, hsession, h⟩ := Tx.bind_ok h
  obtain ⟨found, s₂, hgrant, h⟩ := Tx.bind_ok h
  obtain ⟨hstored, rfl⟩ := requireGrant_ok hgrant
  obtain ⟨_, s₃, hlineage, h⟩ := Tx.bind_ok h
  obtain ⟨version, s₄, hversion, h⟩ := Tx.bind_ok h
  obtain ⟨hdelivered, rfl⟩ := requireDelivered_ok hversion
  obtain ⟨hstatus, h⟩ := Tx.throwIf_ok h
  obtain ⟨email, -, h⟩ := Tx.ofExcept_ok h
  obtain ⟨-, h⟩ := Tx.throwIf_ok h
  obtain ⟨time, s₅, hnow, h⟩ := Tx.bind_ok h
  obtain ⟨hcapability, h⟩ := Tx.throwIf_ok h
  obtain ⟨_, s₆, -, h⟩ := Tx.bind_ok h
  cases h
  simp only [not_or, not_not] at hstatus hcapability
  obtain ⟨hexpiry, horganization, hjob, hreport, hmodule, haction, hwithdrawn⟩ := hcapability
  have h₁ := (checks_assertSession session).ok hsession
  have h₂ := h₁.trans ((checks_assertGrantLineageActive grant).ok hlineage)
  rw [now_ok hnow] at hexpiry
  refine {
    stored := by rw [← h₁.grants]; exact hstored
    live := ⟨hstatus.1, s₃.ticks, h₂.ticks, Bool.eq_false_iff.mpr hexpiry⟩
    parent := ?_
    report := ⟨horganization, hjob, hreport⟩
    module := hmodule
    action := haction
    delivered := ⟨version, by rw [← h₂.deliveredVersions]; exact hdelivered, hwithdrawn⟩ }
  intro parentGrantId hparent
  obtain ⟨parent, hfound, hlive⟩ := assertGrantLineageActive_ok hlineage parentGrantId hparent
  rw [h₁.grants] at hfound
  exact ⟨parent, hfound, hlive.earlier h₁.ticks⟩

theorem authorise_ok {session : MailboxSession}
    (h : authorise env session grantId request s = .ok grant t) :
    Authorised env s grantId request grant := by
  unfold authorise at h
  cases hbody : checkCapability env session grantId request s with
  | ok found s' =>
      rw [hbody] at h
      cases h
      exact checkCapability_ok hbody
  | error e s' =>
      rw [hbody] at h
      unfold denyRequest at h
      obtain ⟨_, _, -, h⟩ := Tx.bind_ok h
      cases h

/-! ## What a call can do -/

theorem mem_unique [DecidableEq α] {items : List α} {a : α} : a ∈ unique items ↔ a ∈ items := List.mem_eraseDups

/-- What an invitation may pass on of its inviter's scope. -/
structure Offered (env : Surroundings) (inviter offered : Scope) : Prop where
  report : offered.organizationId = inviter.organizationId ∧ offered.jobId = inviter.jobId ∧
    offered.reportVersionId = inviter.reportVersionId
  modules : offered.permittedModules ⊆ inviter.permittedModules
  actions : ∀ action ∈ offered.permittedActions,
    action ∈ inviter.permittedActions ∧ action ≠ .invite_recipient
  finite : ∃ time, env.host.dateParse offered.expiresAt = some time
  notAfter : ¬ expiresAfter env offered.expiresAt inviter.expiresAt

/-- An invitation with another state. -/
structure Resolves (invitation resolved : ShareInvitation) : Prop where
  scope : resolved.toScope = invitation.toScope
  invitationId : resolved.invitationId = invitation.invitationId
  inviter : resolved.inviterGrantId = invitation.inviterGrantId

/-- What one call can do to grants and invitations. -/
inductive Effect (env : Surroundings) (s t : State) : Prop where
  /-- Nothing. -/
  | quiet (keeps : KeepsGrants s t)
  /-- Issue an owner grant. -/
  | issue (scope : Scope) (grant : RecipientGrant) (stores : Stores env scope none grant s t)
      (finite : ∃ time, env.host.dateParse scope.expiresAt = some time)
  /-- Invite on behalf of a grant that may. -/
  | invite (inviter : RecipientGrant) (invitation : ShareInvitation)
      (stored : s.grants.get? invitation.inviterGrantId = some inviter)
      (action : .invite_recipient ∈ inviter.permittedActions)
      (offered : Offered env inviter.toScope invitation.toScope)
      (puts : PutsInvitation invitation s t)
  /-- Revoke an invitation, or mark it redeemed. -/
  | resolve (invitation resolved : ShareInvitation)
      (stored : s.invitations.get? invitation.invitationId = some invitation)
      (resolves : Resolves invitation resolved) (puts : PutsInvitation resolved s t)
  /-- Redeem an invitation. -/
  | redeem (invitation resolved : ShareInvitation) (grant : RecipientGrant) (u : State)
      (stored : s.invitations.get? invitation.invitationId = some invitation)
      (resolves : Resolves invitation resolved) (puts : PutsInvitation resolved s u)
      (stores : Stores env invitation.toScope (some invitation.inviterGrantId) grant u t)
  /-- Revoke a grant. -/
  | revoke (grant revoked : RecipientGrant)
      (stored : s.grants.get? grant.grantId = some grant)
      (scope : revoked.toScope = grant.toScope) (grantId : revoked.grantId = grant.grantId)
      (parent : revoked.parentGrantId = grant.parentGrantId) (status : revoked.status = .revoked)
      (puts : PutsGrant revoked s t)

theorem Keeps.effect (h : Keeps s t) : Effect env s t := .quiet h.keepsGrants

/-- Steps before a call that only check. -/
theorem Keeps.then_effect {u : State} (h : Keeps s t) (h' : Effect env t u) : Effect env s u := by
  cases h' with
  | quiet keeps =>
      refine .quiet ⟨keeps.grants.trans h.grants, keeps.invitations.trans h.invitations, ?_,
        le_trans h.ticks keeps.ticks, le_trans h.tokens keeps.tokens⟩
      rw [WithdrawsMore, ← h.deliveredVersions]
      exact keeps.withdraws
  | issue scope grant stores finite =>
      obtain ⟨n, hn, hlt, hid⟩ := stores.drawn
      exact .issue scope grant { stores with
        puts := h.putsGrant stores.puts (.refl _)
        drawn := ⟨n, le_trans h.tokens hn, hlt, hid⟩ } finite
  | invite inviter invitation stored action offered puts =>
      exact .invite inviter invitation (h.grants ▸ stored) action offered
        (h.putsInvitation puts (.refl _))
  | resolve invitation resolved stored resolves puts =>
      exact .resolve invitation resolved (h.invitations ▸ stored) resolves
        (h.putsInvitation puts (.refl _))
  | redeem invitation resolved grant v stored resolves puts stores =>
      exact .redeem invitation resolved grant v (h.invitations ▸ stored) resolves
        (h.putsInvitation puts (.refl _)) stores
  | revoke grant revoked stored scope grantId parent status puts =>
      exact .revoke grant revoked (h.grants ▸ stored) scope grantId parent status
        (h.putsGrant puts (.refl _))

theorem issueOwnerGrant_ok {input : OwnerGrantInput}
    (h : issueOwnerGrant env input s = .ok grant t) : Effect env s t := by
  unfold issueOwnerGrant at h
  obtain ⟨time, s₁, hnow, h⟩ := Tx.bind_ok h
  obtain ⟨hfuture, h⟩ := Tx.throwIf_ok h
  obtain ⟨version, s₂, hdelivered, h⟩ := Tx.bind_ok h
  obtain ⟨-, h⟩ := Tx.throwIf_ok h
  obtain ⟨email, -, h⟩ := Tx.ofExcept_ok h
  have hbefore := (checks_now.ok hnow).trans ((checks_requireDelivered _ _ _ _).ok hdelivered)
  refine hbefore.then_effect (.issue _ grant (storeGrant_ok h) ?_)
  push Not at hfuture
  obtain ⟨expiry, hexpiry, -⟩ := hfuture
  exact ⟨expiry, hexpiry⟩

theorem issueOwnerGrant_clean (input : OwnerGrantInput) :
    ThrowsClean (issueOwnerGrant env input) :=
  ThrowsClean.bind checks_now fun _ => ThrowsClean.bind (.throwIf _ _) fun _ =>
    ThrowsClean.bind (checks_requireDelivered _ _ _ _) fun _ =>
      ThrowsClean.bind (.throwIf _ _) fun _ => ThrowsClean.bind (.ofExcept _) fun _ =>
        storeGrant_clean _ _ _ _ _ _

theorem Authorised.earlier (h : Authorised env t grantId request grant) (hkeeps : Keeps s t) :
    Authorised env s grantId request grant where
  stored := hkeeps.grants ▸ h.stored
  live := h.live.earlier hkeeps.ticks
  parent parentGrantId hparent := by
    obtain ⟨parent, hfound, hlive⟩ := h.parent parentGrantId hparent
    exact ⟨parent, hkeeps.grants ▸ hfound, hlive.earlier hkeeps.ticks⟩
  report := h.report
  module := h.module
  action := h.action
  delivered := hkeeps.deliveredVersions ▸ h.delivered

/-- What an inviter asks to be authorised for. -/
def invitationRequest (inviter : RecipientGrant) : AuthorisationRequest where
  organizationId := inviter.organizationId
  jobId := inviter.jobId
  reportVersionId := inviter.reportVersionId
  module := inviter.permittedModules.head?.getD .building
  action := .invite_recipient

theorem offered_of_accepted {input : ShareInvitationInput} {inviter : RecipientGrant} {now : Int}
    (hfuture : ¬ ∀ time ∈ env.host.dateParse input.expiresAt, time ≤ now)
    (hafter : ¬ expiresAfter env input.expiresAt inviter.expiresAt)
    (hexceeds : ¬ exceeds input inviter) :
    Offered env inviter.toScope {
      organizationId := inviter.organizationId
      jobId := inviter.jobId
      reportVersionId := inviter.reportVersionId
      permittedModules := unique input.permittedModules
      permittedActions := unique input.permittedActions
      expiresAt := input.expiresAt } := by
  unfold exceeds at hexceeds
  simp only [not_or, not_not] at hexceeds
  obtain ⟨-, -, hmodules, hactions, hinvite⟩ := hexceeds
  push Not at hfuture
  obtain ⟨expiry, hexpiry, -⟩ := hfuture
  refine ⟨⟨rfl, rfl, rfl⟩, fun module hmodule => hmodules (mem_unique.mp hmodule), ?_,
    ⟨expiry, hexpiry⟩, hafter⟩
  intro action haction
  have hasked := mem_unique.mp haction
  refine ⟨hactions hasked, ?_⟩
  rintro rfl
  exact hinvite hasked

/-- An accepted invitation passed the inviter's own authorisation. -/
theorem createShareInvitation_ok {input : ShareInvitationInput} {issued : IssuedInvitation}
    (h : createShareInvitation env input s = .ok issued t) :
    (∃ inviter, Authorised env s input.inviterGrantId (invitationRequest inviter) inviter) ∧
      Effect env s t := by
  unfold createShareInvitation at h
  obtain ⟨time, s₁, hnow, h⟩ := Tx.bind_ok h
  obtain ⟨inviter, s₂, hinviter, h⟩ := Tx.bind_ok h
  obtain ⟨hstored, rfl⟩ := requireGrant_ok hinviter
  obtain ⟨authorised, s₃, hauthorise, h⟩ := Tx.bind_ok h
  have h₁ := checks_now.ok hnow
  have h₃ := h₁.trans ((checks_authorise _ _ _).ok hauthorise)
  have hid : inviter.grantId = input.inviterGrantId := Table.key_of_get? hstored
  have hpassed := (authorise_ok hauthorise).earlier h₁
  rw [hid] at hpassed
  have hsame : authorised = inviter :=
    Option.some_inj.mp (hpassed.stored.symm.trans (h₁.grants ▸ hstored))
  rw [hsame] at hpassed
  refine ⟨⟨inviter, hpassed⟩, ?_⟩
  obtain ⟨hfuture, h⟩ := Tx.throwIf_ok h
  obtain ⟨hafter, h⟩ := Tx.throwIf_ok h
  obtain ⟨hexceeds, h⟩ := Tx.throwIf_ok h
  obtain ⟨inviteToken, s₄, htoken, h⟩ := Tx.bind_ok h
  obtain ⟨invitationId, s₅, htoken', h⟩ := Tx.bind_ok h
  obtain ⟨email, -, h⟩ := Tx.ofExcept_ok h
  obtain ⟨u, s₆, hput, h⟩ := Tx.bind_ok h
  obtain ⟨u', s₇, hevent, h⟩ := Tx.bind_ok h
  obtain ⟨view, s₈, hview, h⟩ := Tx.bind_ok h
  cases h
  have h₅ := h₃.trans (((checks_token _).ok htoken).trans ((checks_token _).ok htoken'))
  have h₇ := ((checks_appendEvent _ _).ok hevent).trans ((checks_invitationView _).ok hview)
  refine .invite inviter _ ?_ hpassed.action (offered_of_accepted hfuture hafter hexceeds)
    (h₅.putsInvitation (setInvitation_ok hput) h₇)
  rw [hid, ← h₁.grants]
  exact hstored

end InspectionHub.RecipientAccess
