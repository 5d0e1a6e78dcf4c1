import InspectionHub.RecipientAccess.Calls

/-!
# Runs of the recipient access service

The service and its requests in flight: any call, in any order, and
`withAuthorisedRequest` as two steps with anything between them. Every step has
one of the effects of `Effect`.
-/

namespace InspectionHub.RecipientAccess

open Domain (ModuleType)

/-! ## Calls -/

/-- A `withAuthorisedRequest` that awaits its operation. -/
structure Pending where
  session : MailboxSession
  grantId : String
  request : AuthorisationRequest
  before : RecipientGrant

structure World where
  state : State
  pending : List Pending

def World.empty : World := ⟨.empty, []⟩

inductive AccessCall where
  | registerDeliveredVersion (organizationId jobId reportVersionId : String)
      (modules : List ModuleType) (deliveredAt : String)
  | withdrawModule (organizationId jobId reportVersionId : String) (module : ModuleType)
  | beginMailboxAuthentication (email : String)
  | verifyMailboxAuthentication (challengeId otp principalId : String)
  | issueOwnerGrant (input : OwnerGrantInput)
  | createShareInvitation (input : ShareInvitationInput)
  | redeemInvitation (inviteToken : String) (session : MailboxSession)
  | invitation (invitationId : String)
  | revokeInvitation (invitationId : String) (actorSession : MailboxSession)
  | revokeGrant (grantId revokedBy reason : String)
  | authorise (session : MailboxSession) (grantId : String) (request : AuthorisationRequest)
  /-- `withAuthorisedRequest` up to its `await`. -/
  | beginRequest (session : MailboxSession) (grantId : String) (request : AuthorisationRequest)
  /-- The operation of the `i`-th request in flight is over. -/
  | endRequest (i : Nat)

/-- A call of the service that leaves the requests in flight. -/
def onState {α : Type} (x : Call α) : Tx AccessError World Unit := fun w =>
  match x w.state with
  | .ok _ s => .ok () { w with state := s }
  | .error e s => .error e { w with state := s }

variable (env : Surroundings)

def beginRequest (session : MailboxSession) (grantId : String) (request : AuthorisationRequest) :
    Tx AccessError World Unit := fun w =>
  match authorise env session grantId request w.state with
  | .ok before s =>
      .ok () { state := s, pending := w.pending ++ [{ session, grantId, request, before }] }
  | .error e s => .error e { w with state := s }

/-- A request that is over is no longer in flight, whatever it answers. -/
def endRequest (i : Nat) : Tx AccessError World Unit := fun w =>
  match w.pending[i]? with
  | none => .error .denied w
  | some request =>
      match recheck env request.session request.grantId request.request request.before w.state with
      | .ok _ s => .ok () ⟨s, w.pending.eraseIdx i⟩
      | .error e s => .error e ⟨s, w.pending.eraseIdx i⟩

def perform : AccessCall → Tx AccessError World Unit
  | .registerDeliveredVersion organizationId jobId reportVersionId modules deliveredAt =>
      onState (registerDeliveredVersion env organizationId jobId reportVersionId modules deliveredAt)
  | .withdrawModule organizationId jobId reportVersionId module =>
      onState (withdrawModule env organizationId jobId reportVersionId module)
  | .beginMailboxAuthentication email => onState (beginMailboxAuthentication env email)
  | .verifyMailboxAuthentication challengeId otp principalId =>
      onState (verifyMailboxAuthentication env challengeId otp principalId)
  | .issueOwnerGrant input => onState (issueOwnerGrant env input)
  | .createShareInvitation input => onState (createShareInvitation env input)
  | .redeemInvitation inviteToken session => onState (redeemInvitation env inviteToken session)
  | .invitation invitationId => onState (invitation env invitationId)
  | .revokeInvitation invitationId actorSession =>
      onState (revokeInvitation env invitationId actorSession)
  | .revokeGrant grantId revokedBy reason => onState (revokeGrant env grantId revokedBy reason)
  | .authorise session grantId request => onState (authorise env session grantId request)
  | .beginRequest session grantId request => beginRequest env session grantId request
  | .endRequest i => endRequest env i

/-- The service of a new process, under any calls in any order. -/
def service : TSys World AccessCall := .ofFun .empty fun w call => Tx.after (perform env call w)

variable {env} {s t : State}

/-! ## The effect of each call -/

variable {α : Type}

theorem checks_read (f : State → α) : Checks (fun s => .ok (f s) s) :=
  fun s => .refl s

theorem throws_bind {α β : Type} {x : Call α} {e : AccessError} (h : x s = .error e t)
    (f : α → Call β) : (x >>= f) s = .error e t := by
  show EStateM.bind x f s = _
  rw [EStateM.bind, h]

/-- Checks first: what the rest does is the effect of the whole. -/
theorem effect_bind {α β : Type} {x : Call α} {f : α → Call β} (hx : Checks x)
    (hf : ∀ a t, x s = .ok a t → Effect env t (Tx.after (f a t))) :
    Effect env s (Tx.after ((x >>= f) s)) := by
  have hkeeps := hx s
  cases h : x s with
  | ok a t =>
      rw [h] at hkeeps
      rw [Tx.bind_of h]
      exact hkeeps.then_effect (hf a t h)
  | error e t =>
      rw [h] at hkeeps
      rw [throws_bind h f]
      exact hkeeps.effect

theorem Checks.effect {x : Call α} (h : Checks x) : Effect env s (Tx.after (x s)) :=
  (h s).effect

/-- A call that throws before it writes has the effect it has when it returns. -/
theorem effect_of_ok {x : Call α} (hok : ∀ a t, x s = .ok a t → Effect env s t)
    (hclean : ThrowsClean x) : Effect env s (Tx.after (x s)) := by
  cases h : x s with
  | ok a t => exact hok a t h
  | error e t => exact (hclean s e t h).effect

theorem putsInvitation_then {invitation : ShareInvitation} {rest : Unit → Call α}
    (hrest : Checks (rest ())) :
    PutsInvitation invitation s (Tx.after ((setInvitation invitation >>= rest) s)) :=
  (Keeps.refl s).putsInvitation (setInvitation_ok rfl) (hrest _)

variable {grant : RecipientGrant}

theorem putsGrant_then {rest : Unit → Call α} (hrest : Checks (rest ())) :
    PutsGrant grant s (Tx.after ((setGrant grant >>= rest) s)) :=
  (Keeps.refl s).putsGrant (setGrant_ok rfl) (hrest _)

theorem effect_registerDeliveredVersion (organizationId jobId reportVersionId : String)
    (modules : List ModuleType) (deliveredAt : String) :
    Effect env s (Tx.after (registerDeliveredVersion env organizationId jobId reportVersionId
      modules deliveredAt s)) := by
  refine effect_bind (checks_read _) fun existing s₁ hexisting => ?_
  cases hexisting
  cases h : s.deliveredVersions.get? (versionKeyOf organizationId jobId reportVersionId) with
  | some existing => exact ((Checks.throwIf _ _).bind fun _ => .pure _).effect
  | none =>
      -- A version that was not there withdraws nothing it had withdrawn.
      refine .quiet ((Keeps.refl s).keepsGrants_put rfl
        (((checks_appendEvent _ _).bind fun _ => .pure _) _) ?_)
      intro old hold
      exact absurd (h.symm.trans hold) (Option.some_ne_none old).symm

theorem effect_withdrawModule (organizationId jobId reportVersionId : String)
    (module : ModuleType) :
    Effect env s (Tx.after (withdrawModule env organizationId jobId reportVersionId module s)) := by
  refine effect_bind (checks_read _) fun found s₁ hfound => ?_
  cases hfound
  cases h : s.deliveredVersions.get? (versionKeyOf organizationId jobId reportVersionId) with
  | none => exact (Checks.throw _).effect
  | some delivered =>
      refine effect_bind (Checks.throwIf _ _) fun _ s₂ hmodule => ?_
      have hkeeps := (Checks.throwIf _ _).ok hmodule
      have hkey : delivered.versionKey = versionKeyOf organizationId jobId reportVersionId :=
        Table.key_of_get? h
      refine .quiet ((Keeps.refl s₂).keepsGrants_put rfl
        (((checks_appendEvent _ _).bind fun _ => .pure _) _) ?_)
      intro old hold
      rw [hkeeps.deliveredVersions] at hold
      have hsame : old = delivered := by
        refine Option.some_inj.mp (hold.symm.trans ?_)
        show s.deliveredVersions.get? delivered.versionKey = _
        rw [hkey, h]
      subst hsame
      intro withdrawn hwithdrawn
      exact mem_unique.mpr (List.mem_append_left _ hwithdrawn)

theorem checks_setChallenge (challenge : MailboxChallenge) : Checks (setChallenge challenge) :=
  fun _ => ⟨rfl, rfl, rfl, le_refl _, le_refl _⟩

theorem checks_beginMailboxAuthentication (email : String) :
    Checks (beginMailboxAuthentication env email) :=
  checks_now.bind fun _ => (checks_token _).bind fun _ => checks_nextOtp.bind fun _ =>
    (Checks.throwIf _ _).bind fun _ => (Checks.ofExcept _).bind fun _ =>
      (checks_setChallenge _).bind fun _ => (checks_appendEvent _ _).bind fun _ => .pure _

theorem checks_verifyMailboxAuthentication (challengeId otp principalId : String) :
    Checks (verifyMailboxAuthentication env challengeId otp principalId) := by
  refine checks_now.bind fun time => (checks_read _).bind fun found => ?_
  cases found with
  | none => exact .throw _
  | some challenge =>
      refine (Checks.throwIf _ _).bind fun _ => ?_
      dsimp only
      split
      · exact (checks_setChallenge _).bind fun _ => .throw _
      · exact (checks_setChallenge _).bind fun _ => (checks_token _).bind fun _ =>
          (checks_appendEvent _ _).bind fun _ => .pure _

theorem createShareInvitation_clean (input : ShareInvitationInput) :
    ThrowsClean (createShareInvitation env input) :=
  ThrowsClean.bind checks_now fun _ => ThrowsClean.bind (checks_requireGrant _) fun _ =>
    ThrowsClean.bind (checks_authorise _ _ _) fun _ => ThrowsClean.bind (.throwIf _ _) fun _ =>
      ThrowsClean.bind (.throwIf _ _) fun _ => ThrowsClean.bind (.throwIf _ _) fun _ =>
        ThrowsClean.bind (checks_token _) fun _ => ThrowsClean.bind (checks_token _) fun _ =>
          ThrowsClean.bind (.ofExcept _) fun _ => Tx.OnError.total fun _ => ⟨_, _, rfl⟩

/-- What a redeemed invitation's inviter passed. -/
theorem redeem_ok {invitation : ShareInvitation} {session : MailboxSession} {time : Int}
    (h : redeem env invitation session time s = .ok grant t) :
    ∃ inviter, s.grants.get? invitation.inviterGrantId = some inviter ∧
      inviter.status = .active ∧ env.host.parsesAtOrBefore inviter.expiresAt time = false ∧
      ∀ parentGrantId, inviter.parentGrantId = some parentGrantId →
        ∃ parent, s.grants.get? parentGrantId = some parent ∧ Live env s parent := by
  unfold redeem at h
  obtain ⟨inviter, s₁, hinviter, h⟩ := Tx.bind_ok h
  obtain ⟨hstored, rfl⟩ := requireGrant_ok hinviter
  obtain ⟨_, s₂, hlineage, h⟩ := Tx.bind_ok h
  obtain ⟨hactive, -⟩ := Tx.throwIf_ok h
  simp only [not_or, not_not, Bool.not_eq_true] at hactive
  exact ⟨inviter, hstored, hactive.1, hactive.2, assertGrantLineageActive_ok hlineage⟩

theorem Stores.then_keeps {u : State} {scope : Scope} {parentGrantId : Option String}
    (h : Stores env scope parentGrantId grant s t) (hkeeps : Keeps t u) :
    Stores env scope parentGrantId grant s u := by
  obtain ⟨n, hn, hlt, hid⟩ := h.drawn
  exact { h with
    puts := (Keeps.refl s).putsGrant h.puts hkeeps
    drawn := ⟨n, hn, lt_of_lt_of_le hlt hkeeps.tokens, hid⟩ }

/-- An invitation is marked and its grant stored. The mark comes first, so it
stays when `storeGrant` throws. -/
theorem effect_redeemed {invitation resolved : ShareInvitation}
    {principalId verifiedEmail issuedBy : String} {parentGrantId issuedAt : Option String}
    {rest : RecipientGrant → Call RecipientGrant}
    (hstored : s.invitations.get? invitation.invitationId = some invitation)
    (hresolves : Resolves invitation resolved)
    (hparent : parentGrantId = some invitation.inviterGrantId)
    (hrest : ∀ grant, Checks (rest grant)) :
    Effect env s (Tx.after ((setInvitation resolved >>= fun _ =>
      storeGrant env invitation.toScope principalId verifiedEmail issuedBy parentGrantId issuedAt
        >>= rest) s)) := by
  subst hparent
  have hset : setInvitation resolved s = .ok () { s with
    invitations := s.invitations.put resolved } := rfl
  have hputs := setInvitation_ok hset
  rw [Tx.bind_of hset]
  cases h : storeGrant env invitation.toScope principalId verifiedEmail issuedBy
      (some invitation.inviterGrantId) issuedAt { s with
        invitations := s.invitations.put resolved } with
  | ok grant t =>
      rw [Tx.bind_of h]
      exact .redeem invitation resolved grant _ hstored hresolves hputs
        ((storeGrant_ok h).then_keeps (hrest grant t))
  | error e t =>
      rw [throws_bind h rest]
      exact .resolve invitation resolved hstored hresolves
        ((Keeps.refl s).putsInvitation hputs (storeGrant_clean _ _ _ _ _ _ _ _ _ h))

theorem effect_redeem {invitation : ShareInvitation} (session : MailboxSession) (time : Int)
    (hstored : s.invitations.get? invitation.invitationId = some invitation) :
    Effect env s (Tx.after (redeem env invitation session time s)) := by
  refine effect_bind (checks_requireGrant _) fun inviter s₁ hinviter => ?_
  obtain ⟨hfound, rfl⟩ := requireGrant_ok hinviter
  have hid : inviter.grantId = invitation.inviterGrantId := Table.key_of_get? hfound
  refine effect_bind (checks_assertGrantLineageActive _) fun _ s₂ hlineage => ?_
  refine effect_bind (Checks.throwIf _ _) fun _ s₃ hactive => ?_
  have hkeeps := ((checks_assertGrantLineageActive _).ok hlineage).trans
    ((Checks.throwIf _ _).ok hactive)
  rw [← hkeeps.invitations] at hstored
  refine effect_redeemed hstored ?_ (congrArg some hid) fun grant => ?_
  · exact ⟨rfl, rfl, rfl⟩
  · exact (checks_appendEvent _ _).bind fun _ => .pure _

theorem opened_stored {inviteToken : String} {invitation : ShareInvitation}
    (h : s.opened env inviteToken = some invitation) :
    s.invitations.get? invitation.invitationId = some invitation :=
  (Table.mem_values_iff _ _).mp (List.mem_of_find?_eq_some h)

theorem effect_redeemInvitation (inviteToken : String) (session : MailboxSession) :
    Effect env s (Tx.after (redeemInvitation env inviteToken session s)) := by
  refine effect_bind (checks_assertSession _) fun _ s₁ _ => ?_
  refine effect_bind checks_now fun time s₂ _ => ?_
  refine effect_bind (checks_read _) fun found s₃ hfound => ?_
  cases hfound
  cases h : s₂.opened env inviteToken with
  | none => exact (Checks.throw _).effect
  | some invitation =>
      have hstored := opened_stored h
      refine effect_bind (checks_invitationState _) fun state s₄ hstate => ?_
      refine effect_bind (Checks.throwIf _ _) fun _ s₅ hsent => ?_
      refine effect_bind (Checks.ofExcept _) fun email s₆ hemail => ?_
      refine effect_bind (Checks.throwIf _ _) fun _ s₇ hmailbox => ?_
      have hkeeps := ((checks_invitationState _).ok hstate).trans
        (((Checks.throwIf _ _).ok hsent).trans
          (((Checks.ofExcept _).ok hemail).trans ((Checks.throwIf _ _).ok hmailbox)))
      rw [← hkeeps.invitations] at hstored
      exact effect_redeem session time hstored

theorem checks_invitation (invitationId : String) : Checks (invitation env invitationId) := by
  refine (checks_read _).bind fun found => ?_
  cases found with
  | none => exact .throw _
  | some invitation => exact checks_invitationView _

theorem effect_revokeInvitation (invitationId : String) (actorSession : MailboxSession) :
    Effect env s (Tx.after (revokeInvitation env invitationId actorSession s)) := by
  refine effect_bind (checks_assertSession _) fun _ s₁ _ => ?_
  refine effect_bind (checks_read _) fun found s₂ hfound => ?_
  cases hfound
  cases h : s₁.invitations.get? invitationId with
  | none => exact (Checks.throw _).effect
  | some invitation =>
      have hid : invitation.invitationId = invitationId := Table.key_of_get? h
      refine effect_bind (Checks.throwIf _ _) fun _ s₂ hallowed => ?_
      refine effect_bind checks_now fun time s₃ hnow => ?_
      have hkeeps := ((Checks.throwIf _ _).ok hallowed).trans (checks_now.ok hnow)
      have hstored : s₃.invitations.get? invitation.invitationId = some invitation := by
        rw [hkeeps.invitations, hid]
        exact h
      refine .resolve invitation _ hstored ?_ (putsInvitation_then
        ((checks_appendEvent _ _).bind fun _ => checks_invitationView _))
      exact ⟨rfl, rfl, rfl⟩

theorem effect_revokeGrant (grantId revokedBy reason : String) :
    Effect env s (Tx.after (revokeGrant env grantId revokedBy reason s)) := by
  refine effect_bind (checks_requireGrant _) fun grant s₁ hgrant => ?_
  obtain ⟨hfound, rfl⟩ := requireGrant_ok hgrant
  have hid : grant.grantId = grantId := Table.key_of_get? hfound
  dsimp only
  split
  · exact (Checks.pure _).effect
  · refine effect_bind (Checks.throwIf _ _) fun _ s₂ hreason => ?_
    refine effect_bind checks_now fun time s₃ hnow => ?_
    have hkeeps := ((Checks.throwIf _ _).ok hreason).trans (checks_now.ok hnow)
    have hstored : s₃.grants.get? grant.grantId = some grant := by
      rw [hkeeps.grants, hid]
      exact hfound
    refine .revoke grant _ hstored ?_ ?_ ?_ ?_ (putsGrant_then
      ((checks_appendEvent _ _).bind fun _ => .pure _)) <;> rfl

/-! ## The effect of each step -/

theorem onState_after (x : Call α) (w : World) :
    (Tx.after (onState x w)).state = Tx.after (x w.state) := by
  unfold onState
  cases x w.state <;> rfl

/-- **Step effect.** Whatever is called, and whether it returns or throws. -/
theorem perform_effect (call : AccessCall) (w : World) :
    Effect env w.state (Tx.after (perform env call w)).state := by
  cases call with
  | registerDeliveredVersion organizationId jobId reportVersionId modules deliveredAt =>
      exact (onState_after _ w).symm ▸ effect_registerDeliveredVersion _ _ _ _ _
  | withdrawModule organizationId jobId reportVersionId module =>
      exact (onState_after _ w).symm ▸ effect_withdrawModule _ _ _ _
  | beginMailboxAuthentication email =>
      exact (onState_after _ w).symm ▸ (checks_beginMailboxAuthentication email).effect
  | verifyMailboxAuthentication challengeId otp principalId =>
      exact (onState_after _ w).symm ▸ (checks_verifyMailboxAuthentication _ _ _).effect
  | issueOwnerGrant input =>
      exact (onState_after _ w).symm ▸
        effect_of_ok (fun _ _ h => issueOwnerGrant_ok h) (issueOwnerGrant_clean input)
  | createShareInvitation input =>
      exact (onState_after _ w).symm ▸
        effect_of_ok (fun _ _ h => (createShareInvitation_ok h).2)
          (createShareInvitation_clean input)
  | redeemInvitation inviteToken session =>
      exact (onState_after _ w).symm ▸ effect_redeemInvitation inviteToken session
  | invitation invitationId =>
      exact (onState_after _ w).symm ▸ (checks_invitation invitationId).effect
  | revokeInvitation invitationId actorSession =>
      exact (onState_after _ w).symm ▸ effect_revokeInvitation invitationId actorSession
  | revokeGrant grantId revokedBy reason =>
      exact (onState_after _ w).symm ▸ effect_revokeGrant grantId revokedBy reason
  | authorise session grantId request =>
      exact (onState_after _ w).symm ▸ (checks_authorise session grantId request).effect
  | beginRequest session grantId request =>
      have hkeeps := @checks_authorise env session grantId request w.state
      show Effect env w.state (Tx.after (beginRequest env session grantId request w)).state
      unfold beginRequest
      cases h : authorise env session grantId request w.state <;> rw [h] at hkeeps <;>
        exact hkeeps.effect
  | endRequest i =>
      show Effect env w.state (Tx.after (endRequest env i w)).state
      unfold endRequest
      cases w.pending[i]? with
      | none => exact (Keeps.refl _).effect
      | some request =>
          have hkeeps := @checks_recheck env request.session request.grantId
            request.request request.before w.state
          dsimp only
          cases h : recheck env request.session request.grantId request.request request.before
            w.state <;> rw [h] at hkeeps <;> exact hkeeps.effect

end InspectionHub.RecipientAccess
