import InspectionHub.RecipientAccess.Finality

/-!
# Single use

An invitation is redeemed once and a mailbox challenge answered once. Both are
kept under the id they were issued with; what closes one (its use, a
revocation, its expiry, the fifth wrong answer) is never undone, because the
record stays, and no later one is given the same id.
-/

namespace InspectionHub.RecipientAccess

variable {env : Surroundings} {s t u : State}

/-! ## What becomes of a secret -/

/-- No two invitations and no two challenges are given the same id. -/
structure FreshSecrets (env : Surroundings) : Prop where
  invitations : Function.Injective (env.token "invitation")
  challenges : Function.Injective (env.token "challenge")

/-- The same invitation later: resolved at most once. -/
structure ShareInvitation.Later (i i' : ShareInvitation) : Prop where
  expiresAt : i'.expiresAt = i.expiresAt
  state : i.state ≠ .sent → i'.state = i.state

/-- The same challenge later: consumed for good, failures never forgotten. -/
structure MailboxChallenge.Later (c c' : MailboxChallenge) : Prop where
  expiresAt : c'.expiresAt = c.expiresAt
  consumed : c.consumedAt ≠ none → c'.consumedAt ≠ none
  failed : c.failedAttempts ≤ c'.failedAttempts

theorem ShareInvitation.Later.trans {i i' i'' : ShareInvitation} (h : i.Later i')
    (h' : i'.Later i'') : i.Later i'' where
  expiresAt := h'.expiresAt.trans h.expiresAt
  state hstate := by
    have hkept := h.state hstate
    rw [← hkept] at hstate
    exact (h'.state hstate).trans hkept

theorem MailboxChallenge.Later.trans {c c' c'' : MailboxChallenge} (h : c.Later c')
    (h' : c'.Later c'') : c.Later c'' where
  expiresAt := h'.expiresAt.trans h.expiresAt
  consumed hconsumed := h'.consumed (h.consumed hconsumed)
  failed := le_trans h.failed h'.failed

/-- The ids in use were drawn. -/
structure Drawn (env : Surroundings) (s : State) : Prop where
  invitations : ∀ id i, s.invitations.get? id = some i →
    ∃ n, n < s.tokens ∧ id = env.token "invitation" n
  challenges : ∀ id c, s.challenges.get? id = some c →
    ∃ n, n < s.tokens ∧ id = env.token "challenge" n

/-- Time passes, and no secret is lost or opened again. -/
structure Evolves (s t : State) : Prop where
  ticks : s.ticks ≤ t.ticks
  tokens : s.tokens ≤ t.tokens
  invitations : ∀ id i, s.invitations.get? id = some i →
    ∃ i', t.invitations.get? id = some i' ∧ i.Later i'
  challenges : ∀ id c, s.challenges.get? id = some c →
    ∃ c', t.challenges.get? id = some c' ∧ c.Later c'

/-- What every call keeps to. -/
def Guarded (env : Surroundings) (s t : State) : Prop := Drawn env s → Drawn env t ∧ Evolves s t

theorem Evolves.trans (h : Evolves s t) (h' : Evolves t u) : Evolves s u where
  ticks := le_trans h.ticks h'.ticks
  tokens := le_trans h.tokens h'.tokens
  invitations id i hi := by
    obtain ⟨i', hi', hlater⟩ := h.invitations id i hi
    obtain ⟨i'', hi'', hlater'⟩ := h'.invitations id i' hi'
    exact ⟨i'', hi'', hlater.trans hlater'⟩
  challenges id c hc := by
    obtain ⟨c', hc', hlater⟩ := h.challenges id c hc
    obtain ⟨c'', hc'', hlater'⟩ := h'.challenges id c' hc'
    exact ⟨c'', hc'', hlater.trans hlater'⟩

theorem Guarded.trans (h : Guarded env s t) (h' : Guarded env t u) : Guarded env s u := by
  intro hdrawn
  obtain ⟨hdrawn', hevolves⟩ := h hdrawn
  obtain ⟨hdrawn'', hevolves'⟩ := h' hdrawn'
  exact ⟨hdrawn'', hevolves.trans hevolves'⟩

/-- Where neither table changes. -/
theorem guarded_of_eq (hinvitations : t.invitations = s.invitations)
    (hchallenges : t.challenges = s.challenges) (hticks : s.ticks ≤ t.ticks)
    (htokens : s.tokens ≤ t.tokens) : Guarded env s t := by
  intro hdrawn
  refine ⟨⟨fun id i hi => ?_, fun id c hc => ?_⟩, hticks, htokens, fun id i hi => ?_,
    fun id c hc => ?_⟩
  · rw [hinvitations] at hi
    obtain ⟨n, hn, hid⟩ := hdrawn.invitations id i hi
    exact ⟨n, lt_of_lt_of_le hn htokens, hid⟩
  · rw [hchallenges] at hc
    obtain ⟨n, hn, hid⟩ := hdrawn.challenges id c hc
    exact ⟨n, lt_of_lt_of_le hn htokens, hid⟩
  · exact ⟨i, hinvitations ▸ hi, rfl, fun _ => rfl⟩
  · exact ⟨c, hchallenges ▸ hc, rfl, fun h => h, le_refl _⟩

theorem guarded_passive : Passive (Guarded env) where
  refl _ := guarded_of_eq rfl rfl (le_refl _) (le_refl _)
  trans := Guarded.trans
  passes _ _ _ _ _ hticks htokens := guarded_of_eq rfl rfl hticks htokens

/-- An invitation is put: a new one under the id just drawn, or the stored one
resolved. -/
theorem guarded_invitation {i' : ShareInvitation}
    (hput : t.invitations = s.invitations.put i') (hchallenges : t.challenges = s.challenges)
    (hticks : s.ticks ≤ t.ticks) (htokens : s.tokens ≤ t.tokens)
    (hid : Drawn env s → ∃ n, n < t.tokens ∧ i'.invitationId = env.token "invitation" n)
    (hlater : Drawn env s → ∀ i, s.invitations.get? i'.invitationId = some i → i.Later i') :
    Guarded env s t := by
  intro hdrawn
  obtain ⟨⟨-, hchallenges'⟩, hevolves⟩ :=
    guarded_of_eq (s := s) (t := { t with invitations := s.invitations }) rfl hchallenges hticks
      htokens hdrawn
  refine ⟨⟨fun id i hi => ?_, hchallenges'⟩, hticks, htokens, fun id i hi => ?_,
    hevolves.challenges⟩
  · rw [hput, Table.get?_put] at hi
    by_cases hsame : id = i'.invitationId
    · exact hsame ▸ hid hdrawn
    · rw [if_neg hsame] at hi
      obtain ⟨n, hn, hn'⟩ := hdrawn.invitations id i hi
      exact ⟨n, lt_of_lt_of_le hn htokens, hn'⟩
  · rw [hput, Table.get?_put]
    by_cases hsame : id = i'.invitationId
    · rw [if_pos hsame]
      exact ⟨i', rfl, hlater hdrawn i (hsame ▸ hi)⟩
    · rw [if_neg hsame]
      exact ⟨i, hi, rfl, fun _ => rfl⟩

theorem guarded_challenge {c' : MailboxChallenge}
    (hput : t.challenges = s.challenges.put c') (hinvitations : t.invitations = s.invitations)
    (hticks : s.ticks ≤ t.ticks) (htokens : s.tokens ≤ t.tokens)
    (hid : Drawn env s → ∃ n, n < t.tokens ∧ c'.challengeId = env.token "challenge" n)
    (hlater : Drawn env s → ∀ c, s.challenges.get? c'.challengeId = some c → c.Later c') :
    Guarded env s t := by
  intro hdrawn
  obtain ⟨⟨hinvitations', -⟩, hevolves⟩ :=
    guarded_of_eq (s := s) (t := { t with challenges := s.challenges }) hinvitations rfl hticks
      htokens hdrawn
  refine ⟨⟨hinvitations', fun id c hc => ?_⟩, hticks, htokens, hevolves.invitations,
    fun id c hc => ?_⟩
  · rw [hput, Table.get?_put] at hc
    by_cases hsame : id = c'.challengeId
    · exact hsame ▸ hid hdrawn
    · rw [if_neg hsame] at hc
      obtain ⟨n, hn, hn'⟩ := hdrawn.challenges id c hc
      exact ⟨n, lt_of_lt_of_le hn htokens, hn'⟩
  · rw [hput, Table.get?_put]
    by_cases hsame : id = c'.challengeId
    · rw [if_pos hsame]
      exact ⟨c', rfl, hlater hdrawn c (hsame ▸ hc)⟩
    · rw [if_neg hsame]
      exact ⟨c, hc, rfl, fun h => h, le_refl _⟩

/-! ## What each call does -/

theorem guarded_bind {α β : Type} {x : Call α} {f : α → Call β}
    (hx : Tx.Within (Guarded env) x)
    (hf : ∀ a t, x s = .ok a t → Guarded env t (Tx.after (f a t))) :
    Guarded env s (Tx.after ((x >>= f) s)) :=
  Tx.Within.bind_at (R := Guarded env) Guarded.trans hx hf

/-- A write, and what comes after it. The state before it need not be the one
the write starts from. -/
theorem guarded_step {α β : Type} {x : Call α} {f : α → Call β} {a : α}
    (hx : x t = .ok a u) (hstep : Guarded env s u) (hf : Tx.Within (Guarded env) (f a)) :
    Guarded env s (Tx.after ((x >>= f) t)) := by
  rw [Tx.bind_of hx]
  exact hstep.trans (hf u)

theorem guarded_setGrant (grant : RecipientGrant) :
    Tx.Within (Guarded env) (setGrant grant) :=
  fun _ => guarded_of_eq rfl rfl (le_refl _) (le_refl _)

theorem guarded_setDelivered (delivered : DeliveredReportVersion) :
    Tx.Within (Guarded env) (setDelivered delivered) :=
  fun _ => guarded_of_eq rfl rfl (le_refl _) (le_refl _)

theorem guarded_storeGrant (scope : Scope) (principalId verifiedEmail issuedBy : String)
    (parentGrantId issuedAt : Option String) :
    Tx.Within (Guarded env)
      (storeGrant env scope principalId verifiedEmail issuedBy parentGrantId issuedAt) :=
  guarded_passive.bind guarded_passive.now fun _ =>
    guarded_passive.bind (guarded_passive.token _) fun _ =>
      guarded_passive.bind (guarded_passive.ofExcept _) fun _ =>
        guarded_passive.bind (guarded_setGrant _) fun _ =>
          guarded_passive.bind (guarded_passive.appendEvent _ _) fun _ => guarded_passive.pure _

theorem guarded_registerDeliveredVersion (organizationId jobId reportVersionId : String)
    (modules : List Domain.ModuleType) (deliveredAt : String) :
    Tx.Within (Guarded env) (registerDeliveredVersion env organizationId jobId reportVersionId
      modules deliveredAt) := by
  refine guarded_passive.bind (guarded_passive.read _) fun existing => ?_
  cases existing with
  | some existing =>
      exact guarded_passive.bind (guarded_passive.throwIf _ _) fun _ => guarded_passive.pure _
  | none =>
      exact guarded_passive.bind (guarded_setDelivered _) fun _ =>
        guarded_passive.bind (guarded_passive.appendEvent _ _) fun _ => guarded_passive.pure _

theorem guarded_withdrawModule (organizationId jobId reportVersionId : String)
    (module : Domain.ModuleType) :
    Tx.Within (Guarded env) (withdrawModule env organizationId jobId reportVersionId module) := by
  refine guarded_passive.bind (guarded_passive.read _) fun found => ?_
  cases found with
  | none => exact guarded_passive.throw _
  | some delivered =>
      exact guarded_passive.bind (guarded_passive.throwIf _ _) fun _ =>
        guarded_passive.bind (guarded_setDelivered _) fun _ =>
          guarded_passive.bind (guarded_passive.appendEvent _ _) fun _ => guarded_passive.pure _

theorem guarded_issueOwnerGrant (input : OwnerGrantInput) :
    Tx.Within (Guarded env) (issueOwnerGrant env input) :=
  guarded_passive.bind guarded_passive.now fun _ =>
    guarded_passive.bind (guarded_passive.throwIf _ _) fun _ =>
      guarded_passive.bind (guarded_passive.requireDelivered _ _ _ _) fun _ =>
        guarded_passive.bind (guarded_passive.throwIf _ _) fun _ =>
          guarded_passive.bind (guarded_passive.ofExcept _) fun _ => guarded_storeGrant _ _ _ _ _ _

theorem guarded_revokeGrant (grantId revokedBy reason : String) :
    Tx.Within (Guarded env) (revokeGrant env grantId revokedBy reason) := by
  refine guarded_passive.bind (guarded_passive.requireGrant _) fun grant => ?_
  dsimp only
  split
  · exact guarded_passive.pure _
  · exact guarded_passive.bind (guarded_passive.throwIf _ _) fun _ =>
      guarded_passive.bind guarded_passive.now fun _ =>
        guarded_passive.bind (guarded_setGrant _) fun _ =>
          guarded_passive.bind (guarded_passive.appendEvent _ _) fun _ => guarded_passive.pure _

/-- An id drawn now is no stored invitation's. -/
theorem Drawn.unused_invitation (hfresh : FreshSecrets env) (h : Drawn env s) :
    s.invitations.get? (env.token "invitation" s.tokens) = none := by
  rw [Option.eq_none_iff_forall_ne_some]
  intro i hi
  obtain ⟨n, hn, hid⟩ := h.invitations _ i hi
  have hsame := hfresh.invitations hid
  omega

theorem Drawn.unused_challenge (hfresh : FreshSecrets env) (h : Drawn env s) :
    s.challenges.get? (env.token "challenge" s.tokens) = none := by
  rw [Option.eq_none_iff_forall_ne_some]
  intro c hc
  obtain ⟨n, hn, hid⟩ := h.challenges _ c hc
  have hsame := hfresh.challenges hid
  omega

theorem guarded_createShareInvitation (hfresh : FreshSecrets env) (input : ShareInvitationInput) :
    Tx.Within (Guarded env) (createShareInvitation env input) := by
  refine guarded_passive.bind guarded_passive.now fun time => ?_
  refine guarded_passive.bind (guarded_passive.requireGrant _) fun inviter => ?_
  refine guarded_passive.bind (guarded_passive.authorise _ _ _) fun _ => ?_
  refine guarded_passive.bind (guarded_passive.throwIf _ _) fun _ => ?_
  refine guarded_passive.bind (guarded_passive.throwIf _ _) fun _ => ?_
  refine guarded_passive.bind (guarded_passive.throwIf _ _) fun _ => ?_
  refine guarded_passive.bind (guarded_passive.token _) fun inviteToken => ?_
  -- from the draw of the id to the put
  intro s
  rw [Tx.bind_of (x := token env "invitation") rfl]
  cases hemail : canonicalEmail env input.intendedEmail with
  | error e => exact guarded_of_eq rfl rfl (le_refl _) (Nat.le_succ _)
  | ok email =>
      rw [Tx.bind_of (x := Tx.ofExcept _) rfl]
      refine guarded_step (x := setInvitation _) rfl
        (guarded_invitation rfl rfl (le_refl _) (Nat.le_succ _) ?_ ?_)
        (guarded_passive.bind (guarded_passive.appendEvent _ _) fun _ =>
          guarded_passive.bind (guarded_passive.invitationView _) fun _ => guarded_passive.pure _)
      · exact fun _ => ⟨s.tokens, Nat.lt_succ_self _, rfl⟩
      · intro hdrawn i hi
        rw [hdrawn.unused_invitation hfresh] at hi
        cases hi

theorem guarded_beginMailboxAuthentication (hfresh : FreshSecrets env) (email : String) :
    Tx.Within (Guarded env) (beginMailboxAuthentication env email) := by
  refine guarded_passive.bind guarded_passive.now fun time => ?_
  intro s
  rw [Tx.bind_of (x := token env "challenge") rfl, Tx.bind_of (x := nextOtp env) rfl]
  by_cases hotp : isOtp (env.otp s.otps) = false
  · rw [throws_bind (x := Tx.throwIf _ _) (if_pos hotp)]
    exact guarded_of_eq rfl rfl (le_refl _) (Nat.le_succ _)
  · rw [Tx.bind_of (Tx.throwIf_of hotp)]
    cases hemail : canonicalEmail env email with
    | error e => exact guarded_of_eq rfl rfl (le_refl _) (Nat.le_succ _)
    | ok email =>
        rw [Tx.bind_of (x := Tx.ofExcept _) rfl]
        refine guarded_step (x := setChallenge _) rfl
          (guarded_challenge rfl rfl (le_refl _) (Nat.le_succ _) ?_ ?_)
          (guarded_passive.bind (guarded_passive.appendEvent _ _) fun _ => guarded_passive.pure _)
        · exact fun _ => ⟨s.tokens, Nat.lt_succ_self _, rfl⟩
        · intro hdrawn c hc
          rw [hdrawn.unused_challenge hfresh] at hc
          cases hc

/-- A stored invitation that was only sent is put again, resolved. -/
theorem guarded_resolve {invitation resolved : ShareInvitation}
    (hstored : s.invitations.get? invitation.invitationId = some invitation)
    (hsent : invitation.state = .sent) (hid : resolved.invitationId = invitation.invitationId)
    (hexpiry : resolved.expiresAt = invitation.expiresAt) :
    Guarded env s { s with invitations := s.invitations.put resolved } := by
  refine guarded_invitation rfl rfl (le_refl _) (le_refl _) (fun hdrawn => ?_)
    fun _ i hi => ?_
  · rw [hid]
    exact hdrawn.invitations _ _ hstored
  · rw [hid, hstored] at hi
    obtain rfl := Option.some_inj.mp hi
    exact ⟨hexpiry, fun hstate => absurd hsent hstate⟩

variable {invitation : ShareInvitation}

theorem guarded_redeem (session : MailboxSession) (time : Int)
    (hstored : s.invitations.get? invitation.invitationId = some invitation)
    (hsent : invitation.state = .sent) :
    Guarded env s (Tx.after (redeem env invitation session time s)) := by
  refine guarded_bind (guarded_passive.requireGrant _) fun inviter s₁ hinviter => ?_
  obtain ⟨-, rfl⟩ := requireGrant_ok hinviter
  refine guarded_bind (guarded_passive.assertGrantLineageActive _) fun _ s₂ hlineage => ?_
  refine guarded_bind (guarded_passive.throwIf _ _) fun _ s₃ hactive => ?_
  have hkeeps := ((checks_assertGrantLineageActive _).ok hlineage).trans
    ((Checks.throwIf _ _).ok hactive)
  rw [← hkeeps.invitations] at hstored
  exact guarded_step (x := setInvitation _) rfl (guarded_resolve hstored hsent rfl rfl)
    (guarded_passive.bind (guarded_storeGrant _ _ _ _ _ _) fun _ =>
      guarded_passive.bind (guarded_passive.appendEvent _ _) fun _ => guarded_passive.pure _)

theorem guarded_redeemInvitation (inviteToken : String) (session : MailboxSession) :
    Tx.Within (Guarded env) (redeemInvitation env inviteToken session) := by
  intro s
  refine guarded_bind (guarded_passive.assertSession _) fun _ s₁ _ => ?_
  refine guarded_bind guarded_passive.now fun time s₂ _ => ?_
  refine guarded_bind (guarded_passive.read _) fun found s₃ hfound => ?_
  cases hfound
  cases h : s₂.opened env inviteToken with
  | none => exact guarded_passive.throw _ _
  | some invitation =>
      have hstored := opened_stored h
      refine guarded_bind (guarded_passive.invitationState _) fun state s₄ hstate => ?_
      refine guarded_bind (guarded_passive.throwIf _ _) fun _ s₅ hsent => ?_
      refine guarded_bind (guarded_passive.ofExcept _) fun email s₆ hemail => ?_
      refine guarded_bind (guarded_passive.throwIf _ _) fun _ s₇ hmailbox => ?_
      have hkeeps := ((checks_invitationState _).ok hstate).trans
        (((Checks.throwIf _ _).ok hsent).trans
          (((Checks.ofExcept _).ok hemail).trans ((Checks.throwIf _ _).ok hmailbox)))
      rw [← hkeeps.invitations] at hstored
      obtain rfl := not_not.mp (Tx.throwIf_returned hsent).1
      exact guarded_redeem session time hstored (invitationState_sent hstate)

theorem guarded_revokeInvitation (invitationId : String) (actorSession : MailboxSession) :
    Tx.Within (Guarded env) (revokeInvitation env invitationId actorSession) := by
  intro s
  refine guarded_bind (guarded_passive.assertSession _) fun _ s₁ _ => ?_
  refine guarded_bind (guarded_passive.read _) fun found s₂ hfound => ?_
  cases hfound
  cases h : s₁.invitations.get? invitationId with
  | none => exact guarded_passive.throw _ _
  | some invitation =>
      have hid : invitation.invitationId = invitationId := Table.key_of_get? h
      refine guarded_bind (guarded_passive.throwIf _ _) fun _ s₂ hallowed => ?_
      refine guarded_bind guarded_passive.now fun time s₃ hnow => ?_
      have hkeeps := ((Checks.throwIf _ _).ok hallowed).trans (checks_now.ok hnow)
      have hsent := (Tx.throwIf_returned hallowed).1
      simp only [not_or, not_not] at hsent
      have hstored : s₃.invitations.get? invitation.invitationId = some invitation := by
        rw [hkeeps.invitations, hid]
        exact h
      exact guarded_step (x := setInvitation _) rfl (guarded_resolve hstored hsent.2 rfl rfl)
        (guarded_passive.bind (guarded_passive.appendEvent _ _) fun _ =>
          guarded_passive.invitationView _)

/-- A stored challenge is put again, with one more failure or consumed. -/
theorem guarded_answered {challenge answered : MailboxChallenge}
    (hstored : s.challenges.get? challenge.challengeId = some challenge)
    (hid : answered.challengeId = challenge.challengeId) (hlater : challenge.Later answered) :
    Guarded env s { s with challenges := s.challenges.put answered } := by
  refine guarded_challenge rfl rfl (le_refl _) (le_refl _) (fun hdrawn => ?_) fun _ c hc => ?_
  · rw [hid]
    exact hdrawn.challenges _ _ hstored
  · rw [hid, hstored] at hc
    obtain rfl := Option.some_inj.mp hc
    exact hlater

theorem guarded_verifyMailboxAuthentication (challengeId otp principalId : String) :
    Tx.Within (Guarded env) (verifyMailboxAuthentication env challengeId otp principalId) := by
  intro s
  refine guarded_bind guarded_passive.now fun time s₁ _ => ?_
  refine guarded_bind (guarded_passive.read _) fun found s₂ hfound => ?_
  cases hfound
  cases h : s₁.challenges.get? challengeId with
  | none => exact guarded_passive.throw _ _
  | some challenge =>
      have hid : challenge.challengeId = challengeId := Table.key_of_get? h
      rw [← hid] at h
      refine guarded_bind (guarded_passive.throwIf _ _) fun _ s₂ hopen => ?_
      obtain ⟨hopen, rfl⟩ := Tx.throwIf_returned hopen
      dsimp only
      split
      · exact guarded_step (x := setChallenge _) rfl
          (guarded_answered h rfl ⟨rfl, fun hc => hc, Nat.le_succ _⟩) (guarded_passive.throw _)
      · exact guarded_step (x := setChallenge _) rfl
          (guarded_answered h rfl ⟨rfl, fun _ => Option.some_ne_none _, le_refl _⟩)
          (guarded_passive.bind (guarded_passive.token _) fun _ =>
            guarded_passive.bind (guarded_passive.appendEvent _ _) fun _ => guarded_passive.pure _)

/-- **What a step keeps to.** Whatever is called, and whether it returns or throws. -/
theorem guarded_perform (hfresh : FreshSecrets env) (call : AccessCall) (w : World) :
    Guarded env w.state (Tx.after (perform env call w)).state := by
  cases call with
  | registerDeliveredVersion organizationId jobId reportVersionId modules deliveredAt =>
      exact (onState_after _ w).symm ▸ guarded_registerDeliveredVersion _ _ _ _ _ _
  | withdrawModule organizationId jobId reportVersionId module =>
      exact (onState_after _ w).symm ▸ guarded_withdrawModule _ _ _ _ _
  | beginMailboxAuthentication email =>
      exact (onState_after _ w).symm ▸ guarded_beginMailboxAuthentication hfresh email _
  | verifyMailboxAuthentication challengeId otp principalId =>
      exact (onState_after _ w).symm ▸ guarded_verifyMailboxAuthentication _ _ _ _
  | issueOwnerGrant input => exact (onState_after _ w).symm ▸ guarded_issueOwnerGrant input _
  | createShareInvitation input =>
      exact (onState_after _ w).symm ▸ guarded_createShareInvitation hfresh input _
  | redeemInvitation inviteToken session =>
      exact (onState_after _ w).symm ▸ guarded_redeemInvitation inviteToken session _
  | invitation invitationId =>
      refine (onState_after _ w).symm ▸ guarded_passive.bind (guarded_passive.read _) ?_ _
      intro found
      cases found with
      | none => exact guarded_passive.throw _
      | some invitation => exact guarded_passive.invitationView _
  | revokeInvitation invitationId actorSession =>
      exact (onState_after _ w).symm ▸ guarded_revokeInvitation invitationId actorSession _
  | revokeGrant grantId revokedBy reason =>
      exact (onState_after _ w).symm ▸ guarded_revokeGrant grantId revokedBy reason _
  | authorise session grantId request =>
      exact (onState_after _ w).symm ▸ guarded_passive.authorise session grantId request _
  | beginRequest session grantId request =>
      have h : Guarded env w.state (Tx.after (authorise env session grantId request w.state)) :=
        guarded_passive.authorise session grantId request w.state
      show Guarded env w.state (Tx.after (beginRequest env session grantId request w)).state
      unfold beginRequest
      cases hx : authorise env session grantId request w.state <;> rw [hx] at h <;> exact h
  | endRequest i =>
      show Guarded env w.state (Tx.after (endRequest env i w)).state
      unfold endRequest
      cases w.pending[i]? with
      | none => exact guarded_passive.refl _
      | some request =>
          have h : Guarded env w.state (Tx.after (recheck env request.session request.grantId
              request.request request.before w.state)) := guarded_passive.recheck _ _ _ _ _
          dsimp only
          cases hx : recheck env request.session request.grantId request.request request.before
            w.state <;> rw [hx] at h <;> exact h

/-! ## Over -/

/-- The next reading of the clock is at or past the time the text names. -/
def Expired (env : Surroundings) (s : State) (expiresAt : String) : Prop :=
  env.host.parsesAtOrBefore expiresAt (env.clock s.ticks) = true

/-- The invitation was resolved or has expired. -/
def InvitationOver (env : Surroundings) (s : State) (id : String) : Prop :=
  ∃ i, s.invitations.get? id = some i ∧ (i.state ≠ .sent ∨ Expired env s i.expiresAt)

/-- The challenge was consumed, has expired or failed five times. -/
def MailboxChallenge.Closed (env : Surroundings) (s : State) (c : MailboxChallenge) : Prop :=
  c.consumedAt ≠ none ∨ Expired env s c.expiresAt ∨ 5 ≤ c.failedAttempts

def ChallengeOver (env : Surroundings) (s : State) (id : String) : Prop :=
  ∃ c, s.challenges.get? id = some c ∧ c.Closed env s

theorem Expired.later {expiresAt : String} (h : Expired env s expiresAt)
    (hclock : Monotone env.clock) (hticks : s.ticks ≤ t.ticks) : Expired env t expiresAt :=
  parsesAtOrBefore_mono h (hclock hticks)

variable {id : String}

theorem InvitationOver.evolves (h : InvitationOver env s id) (hclock : Monotone env.clock)
    (hevolves : Evolves s t) : InvitationOver env t id := by
  obtain ⟨i, hi, hover⟩ := h
  obtain ⟨i', hi', hlater⟩ := hevolves.invitations id i hi
  refine ⟨i', hi', ?_⟩
  rcases hover with hstate | hexpired
  · left
    rw [hlater.state hstate]
    exact hstate
  · right
    rw [hlater.expiresAt]
    exact hexpired.later hclock hevolves.ticks

theorem MailboxChallenge.Closed.later {c c' : MailboxChallenge} (h : c.Closed env s)
    (hclock : Monotone env.clock) (hticks : s.ticks ≤ t.ticks) (hlater : c.Later c') :
    c'.Closed env t := by
  rcases h with hconsumed | hexpired | hfailed
  · exact .inl (hlater.consumed hconsumed)
  · right
    left
    rw [hlater.expiresAt]
    exact hexpired.later hclock hticks
  · exact .inr (.inr (le_trans hfailed hlater.failed))

theorem ChallengeOver.evolves (h : ChallengeOver env s id) (hclock : Monotone env.clock)
    (hevolves : Evolves s t) : ChallengeOver env t id := by
  obtain ⟨c, hc, hclosed⟩ := h
  obtain ⟨c', hc', hlater⟩ := hevolves.challenges id c hc
  exact ⟨c', hc', hclosed.later hclock hevolves.ticks hlater⟩

/-! ## What a use takes, and what it leaves -/

/-- An invitation shown as sent has not expired. -/
theorem invitationState_unexpired (hclock : Monotone env.clock)
    (h : invitationState env invitation s = .ok .sent t) :
    ¬ Expired env s invitation.expiresAt := by
  have hsent := invitationState_sent h
  unfold invitationState at h
  rw [if_pos hsent] at h
  obtain ⟨time, s₁, hnow, h⟩ := Tx.bind_ok h
  cases hnow
  intro hexpired
  rw [Expired] at hexpired
  rw [hexpired] at h
  cases h

variable (env) in
theorem invitationOver_of_put {i : ShareInvitation} (h : t.invitations = s.invitations.put i)
    (hstate : i.state ≠ .sent) : InvitationOver env t i.invitationId := by
  refine ⟨i, ?_, .inl hstate⟩
  rw [h]
  exact Table.get?_put_self _ _

variable {session : MailboxSession}

theorem redeem_over {time : Int} {grant : RecipientGrant}
    (h : redeem env invitation session time s = .ok grant t) :
    InvitationOver env t invitation.invitationId := by
  unfold redeem at h
  obtain ⟨inviter, s₁, -, h⟩ := Tx.bind_ok h
  obtain ⟨_, s₂, -, h⟩ := Tx.bind_ok h
  obtain ⟨-, h⟩ := Tx.throwIf_ok h
  obtain ⟨_, s₃, hput, h⟩ := Tx.bind_ok h
  obtain ⟨stored, s₄, hstore, h⟩ := Tx.bind_ok h
  obtain ⟨_, s₅, hevent, h⟩ := Tx.bind_ok h
  cases h
  have hkept := ((checks_appendEvent _ _).ok hevent).invitations.trans
    (storeGrant_ok hstore).puts.invitations
  cases hput
  have hover := invitationOver_of_put env hkept nofun
  exact hover

/-- A redemption that returns took an invitation that was neither resolved nor
expired, and leaves it resolved. -/
theorem redeemInvitation_takes (hclock : Monotone env.clock) {inviteToken : String}
    {grant : RecipientGrant} (h : redeemInvitation env inviteToken session s = .ok grant t) :
    ∃ invitation, s.opened env inviteToken = some invitation ∧
      ¬ InvitationOver env s invitation.invitationId ∧
      InvitationOver env t invitation.invitationId := by
  unfold redeemInvitation at h
  obtain ⟨_, s₁, hsession, h⟩ := Tx.bind_ok h
  obtain ⟨time, s₂, hnow, h⟩ := Tx.bind_ok h
  obtain ⟨found, s₃, hfound, h⟩ := Tx.bind_ok h
  cases hfound
  have hkeeps := ((checks_assertSession session).ok hsession).trans (checks_now.ok hnow)
  cases hopened : s₂.opened env inviteToken with
  | none =>
      rw [hopened] at h
      cases h
  | some invitation =>
      rw [hopened] at h
      obtain ⟨state, s₃, hstate, h⟩ := Tx.bind_ok h
      obtain ⟨hsent, h⟩ := Tx.throwIf_ok h
      obtain ⟨email, -, h⟩ := Tx.ofExcept_ok h
      obtain ⟨-, h⟩ := Tx.throwIf_ok h
      rw [not_not.mp hsent] at hstate
      rw [opened_of_keeps hkeeps] at hopened
      refine ⟨invitation, hopened, ?_, redeem_over h⟩
      rintro ⟨i, hi, hover⟩
      obtain rfl := Option.some_inj.mp ((opened_stored hopened).symm.trans hi)
      rcases hover with hresolved | hexpired
      · exact hresolved (invitationState_sent hstate)
      · exact invitationState_unexpired hclock hstate (hexpired.later hclock hkeeps.ticks)

theorem revokeInvitation_over {invitationId : String} {actorSession : MailboxSession}
    {view : InvitationView}
    (h : revokeInvitation env invitationId actorSession s = .ok view t) :
    InvitationOver env t invitationId := by
  unfold revokeInvitation at h
  obtain ⟨_, s₁, -, h⟩ := Tx.bind_ok h
  obtain ⟨found, s₂, hfound, h⟩ := Tx.bind_ok h
  cases hfound
  cases hget : s₁.invitations.get? invitationId with
  | none =>
      rw [hget] at h
      cases h
  | some invitation =>
      rw [hget] at h
      obtain ⟨-, h⟩ := Tx.throwIf_ok h
      obtain ⟨time, s₂, -, h⟩ := Tx.bind_ok h
      obtain ⟨_, s₃, hput, h⟩ := Tx.bind_ok h
      obtain ⟨_, s₄, hevent, h⟩ := Tx.bind_ok h
      have hkept := ((checks_invitationView _).ok h).invitations.trans
        ((checks_appendEvent _ _).ok hevent).invitations
      have hid : invitation.invitationId = invitationId := Table.key_of_get? hget
      cases hput
      have hover := invitationOver_of_put env hkept nofun
      exact hid ▸ hover

/-- A verification that returns took a challenge that was open, and leaves it
consumed. -/
theorem verifyMailboxAuthentication_takes {challengeId otp principalId : String}
    (h : verifyMailboxAuthentication env challengeId otp principalId s = .ok session t) :
    ¬ ChallengeOver env s challengeId ∧ ChallengeOver env t challengeId := by
  unfold verifyMailboxAuthentication at h
  obtain ⟨time, s₁, hnow, h⟩ := Tx.bind_ok h
  cases hnow
  obtain ⟨found, s₂, hfound, h⟩ := Tx.bind_ok h
  cases hfound
  cases hget : s.challenges.get? challengeId with
  | none =>
      rw [hget] at h
      cases h
  | some challenge =>
      have hid : challenge.challengeId = challengeId := Table.key_of_get? hget
      rw [hget] at h
      obtain ⟨hopen, h⟩ := Tx.throwIf_ok h
      dsimp only at h
      split at h
      · obtain ⟨_, _, -, hthrow⟩ := Tx.bind_ok h
        cases hthrow
      · obtain ⟨_, s₃, hput, h⟩ := Tx.bind_ok h
        obtain ⟨sessionId, s₄, htoken, h⟩ := Tx.bind_ok h
        obtain ⟨_, s₅, hevent, h⟩ := Tx.bind_ok h
        cases hput
        cases htoken
        cases hevent
        cases h
        constructor
        · rintro ⟨c, hc, hclosed⟩
          obtain rfl := Option.some_inj.mp (hget.symm.trans hc)
          exact hopen hclosed
        · refine ⟨{ challenge with consumedAt := some (env.host.toISOString (env.clock s.ticks)) },
            ?_, .inl (Option.some_ne_none _)⟩
          rw [← hid]
          exact Table.get?_put_self _ _

variable {e : AccessError}

/-- A refused answer met a closed challenge, or is counted. -/
theorem verifyMailboxAuthentication_refused {challengeId otp principalId : String}
    {challenge : MailboxChallenge} (hget : s.challenges.get? challengeId = some challenge)
    (h : verifyMailboxAuthentication env challengeId otp principalId s = .error e t) :
    challenge.Closed env s ∨ ∃ c, t.challenges.get? challengeId = some c ∧
      c.failedAttempts = challenge.failedAttempts + 1 := by
  have hid : challenge.challengeId = challengeId := Table.key_of_get? hget
  unfold verifyMailboxAuthentication at h
  obtain hnow | ⟨time, s₁, hnow, h⟩ := Tx.bind_error h
  · cases hnow
  cases hnow
  obtain hfound | ⟨found, s₂, hfound, h⟩ := Tx.bind_error h
  · cases hfound
  cases hfound
  rw [hget] at h
  obtain ⟨hclosed, -, -⟩ | ⟨-, h⟩ := Tx.throwIf_error h
  · exact .inl hclosed
  dsimp only at h
  split at h
  · rw [Tx.bind_of (x := setChallenge _) rfl] at h
    cases h
    refine .inr ⟨{ challenge with failedAttempts := challenge.failedAttempts + 1 }, ?_, rfl⟩
    rw [← hid]
    exact Table.get?_put_self _ _
  · cases h

/-! ## Uses along a run -/

/-- The call redeems the invitation: it returns a grant, or leaves one behind. -/
def YieldsGrant (env : Surroundings) (w : World) (call : AccessCall) (id : String) : Prop :=
  ∃ inviteToken session invitation, call = .redeemInvitation inviteToken session ∧
    w.state.opened env inviteToken = some invitation ∧ invitation.invitationId = id ∧
    ((∃ w', perform env call w = .ok () w') ∨
      (Tx.after (perform env call w)).state.grants ≠ w.state.grants)

/-- The call answers the challenge with a session. -/
def YieldsSession (env : Surroundings) (w : World) (call : AccessCall) (id : String) : Prop :=
  ∃ otp principalId w', call = .verifyMailboxAuthentication id otp principalId ∧
    perform env call w = .ok () w'

/-- The call tries the challenge, which was issued, and is refused. -/
def refuses (env : Surroundings) (id : String) (w : World) : AccessCall → Bool
  | .verifyMailboxAuthentication challengeId otp principalId =>
      challengeId = id && (w.state.challenges.get? id).isSome &&
        match verifyMailboxAuthentication env challengeId otp principalId w.state with
        | .ok _ _ => false
        | .error _ _ => true
  | _ => false

/-- How many of the calls try the challenge and are refused. -/
def failures (env : Surroundings) (id : String) : World → List AccessCall → Nat
  | _, [] => 0
  | w, call :: calls =>
      (if refuses env id w call then 1 else 0) +
        failures env id (Tx.after (perform env call w)) calls

/-- The grants are those of before. -/
def SameGrants (s t : State) : Prop := t.grants = s.grants

theorem sameGrants_passive : Passive SameGrants where
  refl _ := rfl
  trans h h' := h'.trans h
  passes _ _ _ _ _ _ _ := rfl

/-- A redemption that throws stores no grant. -/
theorem redeemInvitation_error {inviteToken : String}
    (h : redeemInvitation env inviteToken session s = .error e t) : t.grants = s.grants := by
  have hbind : ∀ {α β : Type} {x : Call α} {f : α → Call β}, Tx.Within SameGrants x →
      (∀ a, Tx.OnError SameGrants (f a)) → Tx.OnError SameGrants (x >>= f) :=
    Tx.OnError.bind (R := SameGrants) sameGrants_passive.trans
  have hstore : ∀ (scope : Scope) (a b c : String) (p i : Option String)
      (f : RecipientGrant → EventFields),
      Tx.OnError SameGrants (storeGrant env scope a b c p i >>= fun grant =>
        appendEvent env .invitation_redeemed (f grant) >>= fun _ => pure grant) := by
    intro scope a b c p i f s e t h
    obtain h | ⟨grant, s₁, -, h⟩ := Tx.bind_error h
    · exact (storeGrant_clean scope a b c p i s e t h).grants
    · cases h
  refine hbind (sameGrants_passive.assertSession _) (fun _ => hbind sameGrants_passive.now
    fun time => hbind (sameGrants_passive.read _) fun found => ?_) s e t h
  cases found with
  | none => exact (sameGrants_passive.throw _).onError
  | some invitation =>
      refine hbind (sameGrants_passive.invitationState _) fun _ => ?_
      refine hbind (sameGrants_passive.throwIf _ _) fun _ => ?_
      refine hbind (sameGrants_passive.ofExcept _) fun _ => ?_
      refine hbind (sameGrants_passive.throwIf _ _) fun _ => ?_
      refine hbind (sameGrants_passive.requireGrant _) fun inviter => ?_
      refine hbind (sameGrants_passive.assertGrantLineageActive _) fun _ => ?_
      refine hbind (sameGrants_passive.throwIf _ _) fun _ => ?_
      refine hbind ?_ fun _ => hstore _ _ _ _ _ _ _
      exact fun _ => rfl

theorem onState_error {α : Type} {x : Call α} {w w' : World} (h : onState x w = .error e w') :
    x w.state = .error e w'.state := by
  unfold onState at h
  cases hx : x w.state with
  | ok a s' =>
      rw [hx] at h
      cases h
  | error e' s' =>
      rw [hx] at h
      cases h
      rfl

variable {call : AccessCall} {w : World}

/-- A call that redeems an invitation finds it open and leaves it over. -/
theorem YieldsGrant.takes (hclock : Monotone env.clock) (h : YieldsGrant env w call id) :
    ¬ InvitationOver env w.state id ∧
      InvitationOver env (Tx.after (perform env call w)).state id := by
  obtain ⟨inviteToken, session, invitation, rfl, hopened, rfl, hyields⟩ := h
  have hok : ∃ w', perform env (.redeemInvitation inviteToken session) w = .ok () w' := by
    rcases hyields with hok | hgrants
    · exact hok
    · cases hx : perform env (.redeemInvitation inviteToken session) w with
      | ok u w' => exact ⟨w', rfl⟩
      | error e w' =>
          rw [hx] at hgrants
          exact absurd (redeemInvitation_error (onState_error hx)) hgrants
  obtain ⟨w', hw'⟩ := hok
  obtain ⟨grant, hgrant⟩ := onState_ok hw'
  obtain ⟨found, hfound, hbefore, hafter⟩ := redeemInvitation_takes hclock hgrant
  obtain rfl := Option.some_inj.mp (hopened.symm.trans hfound)
  rw [hw']
  exact ⟨hbefore, hafter⟩

theorem YieldsSession.takes (h : YieldsSession env w call id) :
    ¬ ChallengeOver env w.state id ∧
      ChallengeOver env (Tx.after (perform env call w)).state id := by
  obtain ⟨otp, principalId, w', rfl, hw'⟩ := h
  obtain ⟨session, hsession⟩ := onState_ok hw'
  rw [hw']
  exact verifyMailboxAuthentication_takes hsession

theorem drawn_empty : Drawn env State.empty where
  invitations _ _ h := by cases h
  challenges _ _ h := by cases h

theorem drawn (hfresh : FreshSecrets env) :
    (service env).Inductive TSys.any fun w => Drawn env w.state where
  init := by
    rintro w rfl
    exact drawn_empty
  step := by
    rintro w call w' h - rfl
    exact (guarded_perform hfresh call w h).1

theorem evolves_later (hfresh : FreshSecrets env) {w w' : World} (h : Drawn env w.state)
    (hlater : (service env).Later TSys.any w w') : Evolves w.state w'.state := by
  have hkeeps : Guarded env w.state w'.state := by
    refine hlater.preserves (P := fun v => Guarded env w.state v.state) ?_ (guarded_passive.refl _)
    rintro v call v' hv - rfl
    exact hv.trans (guarded_perform hfresh call v)
  exact (hkeeps h).2

/-! ## Failures along a run -/

/-- Of `n` refused attempts each was counted, unless the challenge is closed. -/
def Tried (env : Surroundings) (n : Nat) (s : State) (id : String) : Prop :=
  0 < n → ∃ c, s.challenges.get? id = some c ∧ (n ≤ c.failedAttempts ∨ c.Closed env s)

/-- A refused attempt met a closed challenge, or is counted. -/
theorem refuses_cases (h : refuses env id w call = true) :
    ∃ c, w.state.challenges.get? id = some c ∧
      (c.Closed env w.state ∨
        ∃ c', (Tx.after (perform env call w)).state.challenges.get? id = some c' ∧
          c'.failedAttempts = c.failedAttempts + 1) := by
  cases call with
  | verifyMailboxAuthentication challengeId otp principalId =>
      simp only [refuses, Bool.and_eq_true, decide_eq_true_eq] at h
      obtain ⟨⟨rfl, hstored⟩, hthrew⟩ := h
      obtain ⟨c, hc⟩ := Option.isSome_iff_exists.mp hstored
      refine ⟨c, hc, ?_⟩
      cases hx : verifyMailboxAuthentication env challengeId otp principalId w.state with
      | ok session t =>
          rw [hx] at hthrew
          cases hthrew
      | error e t =>
          have hafter : (Tx.after (perform env
              (.verifyMailboxAuthentication challengeId otp principalId) w)).state = t := by
            refine (onState_after _ w).trans ?_
            rw [hx]
            rfl
          rw [hafter]
          exact verifyMailboxAuthentication_refused hc hx
  | _ => cases h

theorem Tried.step (hfresh : FreshSecrets env) (hclock : Monotone env.clock) {n : Nat}
    (hdrawn : Drawn env w.state) (h : Tried env n w.state id) (call : AccessCall) :
    Tried env (n + if refuses env id w call then 1 else 0)
      (Tx.after (perform env call w)).state id := by
  have hevolves := (guarded_perform hfresh call w hdrawn).2
  intro hpos
  by_cases hrefused : refuses env id w call = true
  · rw [if_pos hrefused]
    obtain ⟨c, hc, hcase⟩ := refuses_cases hrefused
    obtain ⟨c', hc', hlater⟩ := hevolves.challenges id c hc
    refine ⟨c', hc', ?_⟩
    -- the attempts before this one were counted too, or the challenge is closed
    have hbefore : n ≤ c.failedAttempts ∨ c.Closed env w.state := by
      by_cases hn : 0 < n
      · obtain ⟨c₁, hc₁, hcounted⟩ := h hn
        obtain rfl := Option.some_inj.mp (hc.symm.trans hc₁)
        exact hcounted
      · left
        omega
    rcases hcase with hclosed | ⟨c₂, hc₂, hcount⟩
    · exact .inr (hclosed.later hclock hevolves.ticks hlater)
    · obtain rfl := Option.some_inj.mp (hc'.symm.trans hc₂)
      rcases hbefore with hcounted | hclosed
      · left
        omega
      · exact .inr (hclosed.later hclock hevolves.ticks hlater)
  · rw [if_neg hrefused] at hpos ⊢
    obtain ⟨c, hc, hcounted⟩ := h hpos
    obtain ⟨c', hc', hlater⟩ := hevolves.challenges id c hc
    refine ⟨c', hc', ?_⟩
    rcases hcounted with hcounted | hclosed
    · exact .inl (le_trans hcounted hlater.failed)
    · exact .inr (hclosed.later hclock hevolves.ticks hlater)

theorem Tried.run (hfresh : FreshSecrets env) (hclock : Monotone env.clock) {n : Nat}
    (hdrawn : Drawn env w.state) (h : Tried env n w.state id) (calls : List AccessCall) :
    Tried env (n + failures env id w calls)
      (calls.foldl (fun w call => Tx.after (perform env call w)) w).state id := by
  induction calls generalizing w n with
  | nil => exact h
  | cons call calls ih =>
      have hnext := ih (guarded_perform hfresh call w hdrawn).1 (h.step hfresh hclock hdrawn call)
      rw [Nat.add_assoc] at hnext
      exact hnext

/-- **Single use.** In every run with unique ids and a clock that does not go
back, an invitation yields one grant at most, and none once it was revoked or
has expired; a challenge yields one session at most, and none once it has
expired or five attempts on it were refused. -/
theorem secrets_single_use (hfresh : FreshSecrets env) (hclock : Monotone env.clock) {w : World}
    (hw : (service env).Reachable TSys.any w) (id : String) :
    (∀ call, YieldsGrant env w call id →
      ∀ w', (service env).Later TSys.any (Tx.after (perform env call w)) w' →
        ∀ call', ¬ YieldsGrant env w' call' id) ∧
    (∀ actorSession w₁, perform env (.revokeInvitation id actorSession) w = .ok () w₁ →
      ∀ w', (service env).Later TSys.any w₁ w' → ∀ call', ¬ YieldsGrant env w' call' id) ∧
    (∀ i, w.state.invitations.get? id = some i → Expired env w.state i.expiresAt →
      ∀ w', (service env).Later TSys.any w w' → ∀ call', ¬ YieldsGrant env w' call' id) ∧
    (∀ call, YieldsSession env w call id →
      ∀ w', (service env).Later TSys.any (Tx.after (perform env call w)) w' →
        ∀ call', ¬ YieldsSession env w' call' id) ∧
    (∀ c, w.state.challenges.get? id = some c → Expired env w.state c.expiresAt →
      ∀ w', (service env).Later TSys.any w w' → ∀ call', ¬ YieldsSession env w' call' id) ∧
    ∀ calls, 5 ≤ failures env id w calls →
      ∀ call, ¬ YieldsSession env
        (calls.foldl (fun w call => Tx.after (perform env call w)) w) call id := by
  have hdrawn := (drawn hfresh).invariant hw
  have hinvitation : ∀ {v w' : World}, Drawn env v.state → InvitationOver env v.state id →
      (service env).Later TSys.any v w' → ∀ call', ¬ YieldsGrant env w' call' id := by
    intro v w' hv hover hlater call' hyields
    exact (hyields.takes hclock).1 (hover.evolves hclock (evolves_later hfresh hv hlater))
  have hchallenge : ∀ {v w' : World}, Drawn env v.state → ChallengeOver env v.state id →
      (service env).Later TSys.any v w' → ∀ call', ¬ YieldsSession env w' call' id := by
    intro v w' hv hover hlater call' hyields
    exact hyields.takes.1 (hover.evolves hclock (evolves_later hfresh hv hlater))
  refine ⟨fun call hyields w' hlater => ?_, fun actorSession w₁ hrevoke w' hlater => ?_,
    fun i hi hexpired w' hlater => ?_, fun call hyields w' hlater => ?_,
    fun c hc hexpired w' hlater => ?_, fun calls hfailures call hyields => ?_⟩
  · exact hinvitation (guarded_perform hfresh call w hdrawn).1 (hyields.takes hclock).2 hlater
  · obtain ⟨view, hview⟩ := onState_ok hrevoke
    have hnext := (guarded_perform hfresh (.revokeInvitation id actorSession) w hdrawn).1
    rw [hrevoke] at hnext
    exact hinvitation hnext (revokeInvitation_over hview) hlater
  · exact hinvitation hdrawn ⟨i, hi, .inr hexpired⟩ hlater
  · exact hchallenge (guarded_perform hfresh call w hdrawn).1 hyields.takes.2 hlater
  · exact hchallenge hdrawn ⟨c, hc, .inr (.inl hexpired)⟩ hlater
  · have hnone : Tried env 0 w.state id := fun h => absurd h (Nat.lt_irrefl 0)
    have htried := hnone.run hfresh hclock hdrawn calls
    rw [Nat.zero_add] at htried
    obtain ⟨c, hc, hcounted⟩ := htried (by omega)
    refine hyields.takes.1 ⟨c, hc, ?_⟩
    rcases hcounted with hcounted | hclosed
    · exact .inr (.inr (le_trans hfailures hcounted))
    · exact hclosed

namespace Sample

theorem token_injective (kind : String) : Function.Injective (surroundings.token kind) := by
  intro i j h
  have hlength := congrArg String.length h
  simp only [surroundings, String.length_append, String.length_ofList,
    List.length_replicate] at hlength
  omega

theorem freshSecrets : FreshSecrets surroundings := ⟨token_injective _, token_injective _⟩

/-- The recipient's invitation is redeemed, and never again. -/
theorem redeemed_once :
    YieldsGrant surroundings (run delivered) (.redeemInvitation "invite...." recipient)
      "invitation....." ∧
    ∀ w', (service surroundings).Later TSys.any redeemed w' → ∀ call,
      ¬ YieldsGrant surroundings w' call "invitation....." := by
  have hyields : YieldsGrant surroundings (run delivered)
      (.redeemInvitation "invite...." recipient) "invitation....." :=
    ⟨_, _, _, rfl, rfl, rfl, .inl ⟨_, rfl⟩⟩
  exact ⟨hyields, (secrets_single_use freshSecrets monotone_clock (TSys.reachable_foldl _ _ _)
    "invitation.....").1 _ hyields⟩

end Sample

end InspectionHub.RecipientAccess
