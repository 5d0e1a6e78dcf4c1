import InspectionHub.RecipientAccess.Attenuation

/-!
# What is over stays over

A grant that was revoked, has expired or has nothing left that was not withdrawn
is of no use any more, nor is what was shared from it: whatever is called later
on it throws, with one exception. `redeemInvitation` looks at the inviter's status
and expiry and not at what was withdrawn, so an invitation of a grant that
has nothing left is still redeemed.
-/

namespace InspectionHub.RecipientAccess

variable {env : Surroundings} {s t : State}

/-! ## Over -/

/-- Every module the grant permits was withdrawn. -/
def Exhausted (s : State) (grant : RecipientGrant) : Prop :=
  ∃ version, s.deliveredVersions.get?
      (versionKeyOf grant.organizationId grant.jobId grant.reportVersionId) = some version ∧
    grant.permittedModules ⊆ version.withdrawnModules

/-- The grant was revoked, has expired or is exhausted. -/
inductive Over (env : Surroundings) (s : State) (grant : RecipientGrant) : Prop where
  | revoked (h : grant.status = .revoked)
  | expired (h : env.host.parsesAtOrBefore grant.expiresAt (env.clock s.ticks) = true)
  | exhausted (h : Exhausted s grant)

/-- The grant stored under `id` is over. -/
def GrantOver (env : Surroundings) (s : State) (id : String) : Prop :=
  ∃ grant, s.grants.get? id = some grant ∧ Over env s grant

/-- What has expired stays expired. -/
theorem parsesAtOrBefore_mono {host : Js.Host} {text : String} {early late : Int}
    (h : host.parsesAtOrBefore text early = true) (hle : early ≤ late) :
    host.parsesAtOrBefore text late = true := by
  unfold Js.Host.parsesAtOrBefore at h ⊢
  split at h
  · exact decide_eq_true (le_trans (of_decide_eq_true h) hle)
  · cases h

theorem Effect.ticks (h : Effect env s t) : s.ticks ≤ t.ticks := by
  cases h with
  | quiet keeps => exact keeps.ticks
  | issue scope grant stores finite => exact stores.puts.ticks
  | invite inviter invitation stored action offered puts => exact puts.ticks
  | resolve invitation resolved stored resolves puts => exact puts.ticks
  | redeem invitation resolved grant u stored resolves puts stores =>
      exact le_trans puts.ticks stores.puts.ticks
  | revoke grant revoked stored scope grantId parent status puts => exact puts.ticks

theorem Effect.withdraws (h : Effect env s t) : WithdrawsMore s t := by
  cases h with
  | quiet keeps => exact keeps.withdraws
  | issue scope grant stores finite => exact .of_eq stores.puts.deliveredVersions
  | invite inviter invitation stored action offered puts => exact .of_eq puts.deliveredVersions
  | resolve invitation resolved stored resolves puts => exact .of_eq puts.deliveredVersions
  | redeem invitation resolved grant u stored resolves puts stores =>
      exact .of_eq (stores.puts.deliveredVersions.trans puts.deliveredVersions)
  | revoke grant revoked stored scope grantId parent status puts =>
      exact .of_eq puts.deliveredVersions

variable {id : String}

/-- A step leaves what is over over. -/
theorem GrantOver.effect (h : GrantOver env s id) (hrooted : Rooted env s)
    (hfresh : FreshGrants env) (hclock : Monotone env.clock) (heffect : Effect env s t) :
    GrantOver env t id := by
  obtain ⟨grant, hgrant, hover⟩ := h
  obtain ⟨grant', hgrant', hscope, -, hstatus⟩ := hrooted.effect_keeps hfresh heffect id grant hgrant
  refine ⟨grant', hgrant', ?_⟩
  cases hover with
  | revoked h => exact .revoked (hstatus h)
  | expired h =>
      rw [← hscope] at h
      exact .expired (parsesAtOrBefore_mono h (hclock heffect.ticks))
  | exhausted h =>
      obtain ⟨version, hversion, hwithdrawn⟩ := h
      obtain ⟨version', hversion', hmore⟩ := heffect.withdraws _ version hversion
      refine .exhausted ⟨version', ?_, ?_⟩
      · rw [hscope]
        exact hversion'
      · rw [hscope]
        exact fun module hmodule => hmore (hwithdrawn hmodule)

variable {w w' : World}

/-- **Over for good.** -/
theorem GrantOver.later (hfresh : FreshGrants env) (hclock : Monotone env.clock)
    (hw : (service env).Reachable TSys.any w) (h : GrantOver env w.state id)
    (hlater : (service env).Later TSys.any w w') : GrantOver env w'.state id := by
  refine (rooted hfresh).stable (P := fun w => GrantOver env w.state id) ?_ hw hlater h
  rintro w call _ hrooted hover - rfl
  exact hover.effect hrooted hfresh hclock (perform_effect call w)

/-! ## What is over authorises nothing -/

variable {grant : RecipientGrant}

/-- A grant some later reading of the clock finds active is neither revoked nor expired. -/
theorem Live.over_exhausted (h : Live env s grant) (hclock : Monotone env.clock)
    (hover : Over env s grant) : Exhausted s grant := by
  cases hover with
  | revoked hrevoked =>
      rw [h.status] at hrevoked
      cases hrevoked
  | expired hexpired =>
      obtain ⟨n, hn, hactive⟩ := h.unexpired
      rw [parsesAtOrBefore_mono hexpired (hclock hn)] at hactive
      cases hactive
  | exhausted hexhausted => exact hexhausted

variable {request : AuthorisationRequest}

/-- An authorised request asks for a module that was not withdrawn. -/
theorem Authorised.not_exhausted (h : Authorised env s id request grant) {scope : RecipientGrant}
    (hreport : grant.organizationId = scope.organizationId ∧ grant.jobId = scope.jobId ∧
      grant.reportVersionId = scope.reportVersionId)
    (hmodules : grant.permittedModules ⊆ scope.permittedModules) : ¬ Exhausted s scope := by
  rintro ⟨version, hversion, hwithdrawn⟩
  obtain ⟨asked, hasked, hleft⟩ := h.delivered
  rw [← h.report.1, ← h.report.2.1, ← h.report.2.2, hreport.1, hreport.2.1, hreport.2.2] at hasked
  obtain rfl := Option.some_inj.mp (hversion.symm.trans hasked)
  exact hleft (hwithdrawn (hmodules h.module))

/-- No ancestor of an authorised grant is over, nor is the grant. -/
theorem Authorised.not_over {id ancestor : String} (h : Authorised env s id request grant)
    (hrooted : Rooted env s) (hclock : Monotone env.clock)
    (hancestor : Relation.ReflTransGen (ParentOf s) id ancestor) : ¬ GrantOver env s ancestor := by
  rintro ⟨ended, hstored, hover⟩
  rcases Relation.reflTransGen_iff_eq_or_transGen.mp hancestor with rfl | hproper
  · obtain rfl := Option.some_inj.mp (h.stored.symm.trans hstored)
    exact h.not_exhausted ⟨rfl, rfl, rfl⟩ (List.Subset.refl _) (h.live.over_exhausted hclock hover)
  · -- The only ancestor is the parent, and the grant lies within it.
    obtain ⟨child, hchild, hlineage⟩ := hrooted.ancestor hproper
    obtain rfl := Option.some_inj.mp (h.stored.symm.trans hchild)
    obtain ⟨parent, hparent, hlive⟩ := h.parent ancestor hlineage
    obtain rfl := Option.some_inj.mp (hparent.symm.trans hstored)
    obtain ⟨root, hroot, -, hwithin⟩ := hrooted.grant id grant ancestor h.stored hlineage
    obtain rfl := Option.some_inj.mp (hparent.symm.trans hroot)
    exact h.not_exhausted hwithin.report hwithin.modules (hlive.over_exhausted hclock hover)

/-! ## Later calls -/

/-- The grant a call is made on; for a redemption, the one the invitation is shared from. -/
def AccessCall.grantUsed (env : Surroundings) (w : World) : AccessCall → Option String
  | .createShareInvitation input => some input.inviterGrantId
  | .redeemInvitation inviteToken _ =>
      (w.state.opened env inviteToken).map (·.inviterGrantId)
  | .authorise _ grantId _ => some grantId
  | .beginRequest _ grantId _ => some grantId
  | .endRequest i => w.pending[i]?.map (·.grantId)
  | _ => none

/-- An outstanding invitation of an active but exhausted grant is redeemed from
the mailbox it was sent to. -/
def RedeemsExhausted (env : Surroundings) (w : World) (call : AccessCall) : Prop :=
  ∃ inviteToken session invitation inviter, call = .redeemInvitation inviteToken session ∧
    w.state.opened env inviteToken = some invitation ∧ invitation.state = .sent ∧
    canonicalEmail env session.email = .ok invitation.intendedEmail ∧
    w.state.grants.get? invitation.inviterGrantId = some inviter ∧ inviter.status = .active ∧
    Exhausted w.state inviter

theorem invitationState_sent {invitation : ShareInvitation}
    (h : invitationState env invitation s = .ok .sent t) : invitation.state = .sent := by
  unfold invitationState at h
  split at h
  · next hsent => exact hsent
  · cases hstate : invitation.state with
    | sent => rfl
    | redeemed =>
        rw [hstate] at h
        cases h
    | revoked =>
        rw [hstate] at h
        cases h

theorem opened_of_keeps (hkeeps : Keeps s t) (inviteToken : String) :
    t.opened env inviteToken = s.opened env inviteToken := by
  unfold State.opened
  rw [hkeeps.invitations]

/-- What a redemption that returns has checked. -/
theorem redeemInvitation_ok {inviteToken : String} {session : MailboxSession}
    (h : redeemInvitation env inviteToken session s = .ok grant t) :
    ∃ invitation inviter, s.opened env inviteToken = some invitation ∧ invitation.state = .sent ∧
      canonicalEmail env session.email = .ok invitation.intendedEmail ∧
      s.grants.get? invitation.inviterGrantId = some inviter ∧ Live env s inviter := by
  unfold redeemInvitation at h
  obtain ⟨_, s₁, hsession, h⟩ := Tx.bind_ok h
  obtain ⟨time, s₂, hnow, h⟩ := Tx.bind_ok h
  obtain ⟨found, s₃, hfound, h⟩ := Tx.bind_ok h
  cases hfound
  have h₁ := (checks_assertSession session).ok hsession
  have h₂ := h₁.trans (checks_now.ok hnow)
  cases hopened : s₂.opened env inviteToken with
  | none =>
      rw [hopened] at h
      cases h
  | some invitation =>
      rw [hopened] at h
      obtain ⟨state, s₃, hstate, h⟩ := Tx.bind_ok h
      obtain ⟨hsent, h⟩ := Tx.throwIf_ok h
      obtain ⟨email, hemail, h⟩ := Tx.ofExcept_ok h
      obtain ⟨hmailbox, h⟩ := Tx.throwIf_ok h
      obtain ⟨inviter, hinviter, hactive, hexpiry, -⟩ := redeem_ok h
      obtain rfl := not_not.mp hsent
      obtain rfl := not_not.mp hmailbox
      have h₃ := h₂.trans ((checks_invitationState _).ok hstate)
      rw [h₃.grants] at hinviter
      rw [opened_of_keeps h₂] at hopened
      rw [now_ok hnow] at hexpiry
      exact ⟨invitation, inviter, hopened, invitationState_sent hstate, hemail, hinviter,
        hactive, s₁.ticks, h₁.ticks, hexpiry⟩

theorem onState_ok {α : Type} {x : Call α} (h : onState x w = .ok () w') :
    ∃ a, x w.state = .ok a w'.state := by
  unfold onState at h
  cases hx : x w.state with
  | ok a s' =>
      rw [hx] at h
      cases h
      exact ⟨a, rfl⟩
  | error e s' =>
      rw [hx] at h
      cases h

theorem recheck_ok {session : MailboxSession} {grantId : String} {before : RecipientGrant}
    {u : Unit} (h : recheck env session grantId request before s = .ok u t) :
    ∃ grant, Authorised env s grantId request grant := by
  unfold recheck at h
  obtain ⟨grant, s₁, hauthorise, -⟩ := Tx.bind_ok h
  exact ⟨grant, authorise_ok hauthorise⟩

/-- A call on a grant that returns authorised a request on it, or redeemed an
invitation of a grant that is neither revoked nor expired. -/
theorem perform_ok {call : AccessCall} {used : String} (h : perform env call w = .ok () w')
    (hused : call.grantUsed env w = some used) :
    (∃ request grant, Authorised env w.state used request grant) ∨
    ∃ inviteToken session invitation inviter, call = .redeemInvitation inviteToken session ∧
      w.state.opened env inviteToken = some invitation ∧ invitation.state = .sent ∧
      canonicalEmail env session.email = .ok invitation.intendedEmail ∧
      invitation.inviterGrantId = used ∧
      w.state.grants.get? used = some inviter ∧ Live env w.state inviter := by
  cases call with
  | createShareInvitation input =>
      obtain rfl := Option.some_inj.mp hused
      obtain ⟨issued, hissued⟩ := onState_ok h
      obtain ⟨⟨inviter, hpassed⟩, -⟩ := createShareInvitation_ok hissued
      exact .inl ⟨_, inviter, hpassed⟩
  | authorise session grantId request =>
      obtain rfl := Option.some_inj.mp hused
      obtain ⟨grant, hgrant⟩ := onState_ok h
      exact .inl ⟨request, grant, authorise_ok hgrant⟩
  | beginRequest session grantId request =>
      obtain rfl := Option.some_inj.mp hused
      replace h : beginRequest env session grantId request w = .ok () w' := h
      unfold beginRequest at h
      split at h
      · next before s₁ hbefore => exact .inl ⟨request, before, authorise_ok hbefore⟩
      · cases h
  | endRequest i =>
      obtain ⟨pending, hpending, rfl⟩ := Option.map_eq_some_iff.mp hused
      replace h : endRequest env i w = .ok () w' := h
      unfold endRequest at h
      rw [hpending] at h
      dsimp only at h
      split at h
      · next hrecheck => exact .inl ⟨pending.request, recheck_ok hrecheck⟩
      · cases h
  | redeemInvitation inviteToken session =>
      obtain ⟨invitation, hopened, rfl⟩ := Option.map_eq_some_iff.mp hused
      obtain ⟨grant, hgrant⟩ := onState_ok h
      obtain ⟨found, inviter, hfound, hsent, hemail, hinviter, hlive⟩ := redeemInvitation_ok hgrant
      obtain rfl := Option.some_inj.mp (hopened.symm.trans hfound)
      exact .inr ⟨inviteToken, session, invitation, inviter, rfl, hopened, hsent, hemail, rfl,
        hinviter, hlive⟩
  | registerDeliveredVersion organizationId jobId reportVersionId modules deliveredAt => cases hused
  | withdrawModule organizationId jobId reportVersionId module => cases hused
  | beginMailboxAuthentication email => cases hused
  | verifyMailboxAuthentication challengeId otp principalId => cases hused
  | issueOwnerGrant input => cases hused
  | invitation invitationId => cases hused
  | revokeInvitation invitationId actorSession => cases hused
  | revokeGrant grantId revokedBy reason => cases hused

/-- **Finality.** Once a grant is over, any call on it or on what was shared from it
throws, however late, a request in flight included: unless an outstanding
invitation of an exhausted grant is redeemed. -/
theorem over_refused (hfresh : FreshGrants env) (hclock : Monotone env.clock) {w w' : World}
    {id used : String} {call : AccessCall} (hw : (service env).Reachable TSys.any w)
    (hover : GrantOver env w.state id) (hlater : (service env).Later TSys.any w w')
    (hused : call.grantUsed env w' = some used)
    (hshared : Relation.ReflTransGen (ParentOf w'.state) used id)
    (hcall : ¬ RedeemsExhausted env w' call) : ∀ w'', perform env call w' ≠ .ok () w'' := by
  intro w'' hok
  have hrooted := (rooted hfresh).invariant (hw.later hlater)
  have hstill := hover.later hfresh hclock hw hlater
  rcases perform_ok hok hused with ⟨request, grant, hpassed⟩ |
    ⟨inviteToken, session, invitation, inviter, rfl, hopened, hsent, hemail, rfl, hinviter, hlive⟩
  · exact hpassed.not_over hrooted hclock hshared hstill
  · -- An inviter has no parent, so it is the grant that is over.
    obtain ⟨ended, hstored, hover'⟩ := hstill
    rcases Relation.reflTransGen_iff_eq_or_transGen.mp hshared with rfl | hproper
    · obtain rfl := Option.some_inj.mp (hinviter.symm.trans hstored)
      exact hcall ⟨inviteToken, session, invitation, inviter, rfl, hopened, hsent, hemail, hinviter,
        hlive.status, hlive.over_exhausted hclock hover'⟩
    · obtain ⟨child, hchild, hlineage⟩ := hrooted.ancestor hproper
      obtain ⟨root, hroot, hnone, -⟩ := hrooted.invitation _ invitation (opened_stored hopened)
      obtain rfl := Option.some_inj.mp (hroot.symm.trans hchild)
      rw [hnone] at hlineage
      cases hlineage

namespace Sample

theorem monotone_clock : Monotone surroundings.clock := fun _ _ h => Int.ofNat_le.mpr h

/-- The owner's grant is revoked after it was shared. -/
def revoked : World :=
  run (delivered ++ [.redeemInvitation "invite...." recipient,
    .revokeGrant "grant." "inspector" "Sold"])

def read : AccessCall := .authorise recipient "grant......." {
  organizationId := "org"
  jobId := "job"
  reportVersionId := "version"
  module := .building
  action := .read_report }

/-- The grant is over, and the recipient may no longer read. -/
theorem read_refused :
    GrantOver surroundings revoked.state "grant." ∧
      ∀ w, perform surroundings read revoked ≠ .ok () w := by
  have hover : GrantOver surroundings revoked.state "grant." := ⟨_, rfl, .revoked rfl⟩
  refine ⟨hover, over_refused freshGrants monotone_clock (TSys.reachable_foldl _ _ _)
    hover (.refl _) rfl (.single ⟨_, rfl, rfl⟩) ?_⟩
  rintro ⟨inviteToken, session, invitation, inviter, hcall, -⟩
  cases hcall

/-- Everything the owner's grant permits is withdrawn before its invitation is redeemed. -/
def withdrawn : World :=
  run (delivered ++ [.withdrawModule "org" "job" "version" .building])

/-- The invitation of an exhausted grant is redeemed. -/
theorem exhausted_redeemed :
    FreshGrants surroundings ∧ Monotone surroundings.clock ∧
      (service surroundings).Reachable TSys.any withdrawn ∧
      GrantOver surroundings withdrawn.state "grant." ∧
      (AccessCall.redeemInvitation "invite...." recipient).grantUsed surroundings withdrawn =
        some "grant." ∧
      ∃ w, perform surroundings (.redeemInvitation "invite...." recipient) withdrawn =
        .ok () w := by
  refine ⟨freshGrants, monotone_clock, TSys.reachable_foldl _ _ _, ?_, rfl, _, rfl⟩
  exact ⟨_, rfl, .exhausted ⟨_, rfl, by decide⟩⟩

end Sample

end InspectionHub.RecipientAccess
