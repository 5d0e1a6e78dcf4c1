import InspectionHub.RecipientAccess.Types

/-!
# The recipient access service

`packages/recipient-access/src/recipient-access.ts`. A call that throws keeps
what it wrote before. `withAuthorisedRequest` is its two authorisations; the
operation it awaits runs between them.
-/

namespace InspectionHub.RecipientAccess

open Domain (ModuleType)

variable (env : Surroundings)

abbrev Call (α : Type) := Tx AccessError State α

/-! ## Surroundings -/

/-- `this.#clock().getTime()`. -/
def now : Call Int := fun s => .ok (env.clock s.ticks) { s with ticks := s.ticks + 1 }

/-- `this.#tokenFactory(kind)`. -/
def token (kind : String) : Call String := fun s =>
  .ok (env.token kind s.tokens) { s with tokens := s.tokens + 1 }

/-- `this.#otpFactory()`. -/
def nextOtp : Call String := fun s => .ok (env.otp s.otps) { s with otps := s.otps + 1 }

/-- `/^[^@\s]+@[^@\s]+\.[^@\s]+$/u`: one `@`, something before it, and after it a
dot with something on both its sides. -/
def isMailbox (text : String) : Bool :=
  match text.toList.span (· ≠ '@') with
  | (before, '@' :: domain) =>
      !before.isEmpty && before.all (!Js.isWhite ·) &&
        domain.all (fun c => c ≠ '@' && !Js.isWhite c) && domain.tail.dropLast.contains '.'
  | _ => false

def canonicalEmail (email : String) : Except AccessError String :=
  let canonical := env.lower (Js.trim email)
  if isMailbox canonical then .ok canonical
  else .error (.input "A valid mailbox address is required")

def assertFuture (iso : String) (now : Int) (field : String) : Call PUnit :=
  Tx.throwIf (∀ time ∈ env.host.dateParse iso, time ≤ now)
    (.input (field ++ " must be a future timestamp"))

/-- `[...new Set(items)]`. -/
def unique {α : Type} [DecidableEq α] (items : List α) : List α := items.eraseDups

/-- `/^\d{6}$/u`. -/
def isOtp (text : String) : Bool :=
  text.toList.length = 6 && text.toList.all fun c => '0' ≤ c && c ≤ '9'

/-- `#appendEvent(type, fields)`. -/
def appendEvent (type : AccessEventType) (fields : EventFields) : Call Unit := do
  let eventId ← token env "access_event"
  let occurredAt ← now env
  fun s => .ok () { s with
    events := s.events ++
      [{ fields with eventId, occurredAt := env.host.toISOString occurredAt, type }] }

/-! ## Checks -/

/-- `Date.parse(session.mailboxVerifiedAt) > now`. -/
def verifiedAfter (session : MailboxSession) (now : Int) : Prop :=
  ∃ time ∈ env.host.dateParse session.mailboxVerifiedAt, now < time

instance (session : MailboxSession) (now : Int) : Decidable (verifiedAfter env session now) :=
  inferInstanceAs (Decidable (∃ time ∈ env.host.dateParse session.mailboxVerifiedAt, _))

def assertSession (session : MailboxSession) : Call PUnit := do
  Tx.throwIf (session.active = false) .denied
  let time ← now env
  Tx.throwIf (env.host.parsesAtOrBefore session.expiresAt time = true) .denied
  let time ← now env
  Tx.throwIf (verifiedAfter env session time) .denied

def requireGrant (grantId : String) : Call RecipientGrant := fun s =>
  match s.grants.get? grantId with
  | some grant => .ok grant s
  | none => .error .denied s

/-- The loop of `#assertGrantLineageActive`. It adds a grant to `seen` in each
round, so a budget of as many rounds as there are grants is never spent. -/
def assertLineage : Nat → List String → Option String → Call PUnit
  | _, _, none => pure ⟨⟩
  | 0, _, some _ => throw .denied
  | budget + 1, seen, some parentGrantId => do
      Tx.throwIf (parentGrantId ∈ seen) .denied
      let parent ← requireGrant parentGrantId
      Tx.throwIf (parent.status ≠ .active) .denied
      let time ← now env
      Tx.throwIf (env.host.parsesAtOrBefore parent.expiresAt time = true) .denied
      assertLineage budget (parentGrantId :: seen) parent.parentGrantId

def assertGrantLineageActive (grant : RecipientGrant) : Call PUnit := fun s =>
  assertLineage env (s.grants.values.length + 1) [grant.grantId] grant.parentGrantId s

def requireDelivered (organizationId jobId reportVersionId : String)
    (modules : List ModuleType) : Call DeliveredReportVersion := fun s =>
  match s.deliveredVersions.get? (versionKeyOf organizationId jobId reportVersionId) with
  | none => .error .denied s
  | some delivered =>
      if modules = [] ∨ ¬ modules ⊆ delivered.modules then .error .denied s else .ok delivered s

/-- `#invitationState(invitation)`. -/
def invitationState (invitation : ShareInvitation) : Call ShareInvitationState := do
  if invitation.state = .sent then do
    let time ← now env
    return if env.host.parsesAtOrBefore invitation.expiresAt time then .expired else .sent
  else return invitation.state.shown

def invitationView (invitation : ShareInvitation) : Call InvitationView := do
  let state ← invitationState env invitation
  return {
    invitationId := invitation.invitationId
    intendedEmail := invitation.intendedEmail
    reportVersionId := invitation.reportVersionId
    permittedModules := invitation.permittedModules
    permittedActions := invitation.permittedActions
    sentAt := invitation.sentAt
    expiresAt := invitation.expiresAt
    state }

/-! ## Writes -/

def setGrant (grant : RecipientGrant) : Call Unit := fun s =>
  .ok () { s with grants := s.grants.put grant }

def setInvitation (invitation : ShareInvitation) : Call Unit := fun s =>
  .ok () { s with invitations := s.invitations.put invitation }

def setChallenge (challenge : MailboxChallenge) : Call Unit := fun s =>
  .ok () { s with challenges := s.challenges.put challenge }

def setDelivered (delivered : DeliveredReportVersion) : Call Unit := fun s =>
  .ok () { s with deliveredVersions := s.deliveredVersions.put delivered }

/-- `#storeGrant(input)`. -/
def storeGrant (scope : Scope) (principalId verifiedEmail issuedBy : String)
    (parentGrantId issuedAt : Option String) : Call RecipientGrant := do
  let time ← now env
  let grantId ← token env "grant"
  let verifiedEmail ← Tx.ofExcept (canonicalEmail env verifiedEmail)
  let grant : RecipientGrant := {
    toScope := { scope with
      permittedModules := unique scope.permittedModules
      permittedActions := unique scope.permittedActions }
    grantId, principalId, verifiedEmail, issuedBy
    issuedAt := issuedAt.getD (env.host.toISOString time)
    status := .active
    revision := 1
    parentGrantId
    revokedAt := none
    revokedBy := none
    revocationReason := none }
  setGrant grant
  appendEvent env .grant_issued {
    principalId := some grant.principalId
    grantId := some grant.grantId
    reportVersionId := some grant.reportVersionId }
  return grant

/-! ## Delivered versions -/

def registerDeliveredVersion (organizationId jobId reportVersionId : String)
    (modules : List ModuleType) (deliveredAt : String) : Call DeliveredReportVersion := do
  let existing : Option DeliveredReportVersion ← fun s =>
    .ok (s.deliveredVersions.get? (versionKeyOf organizationId jobId reportVersionId)) s
  match existing with
  | some existing => do
      Tx.throwIf (existing.modules ≠ unique modules)
        (.conflict "A delivered report version cannot be rewritten with another module set")
      return existing
  | none => do
      let delivered : DeliveredReportVersion := {
        organizationId, jobId, reportVersionId
        modules := unique modules
        deliveredAt
        withdrawnModules := [] }
      setDelivered delivered
      appendEvent env .version_delivered { reportVersionId := some reportVersionId }
      return delivered

def withdrawModule (organizationId jobId reportVersionId : String) (module : ModuleType) :
    Call DeliveredReportVersion := do
  let found : Option DeliveredReportVersion ← fun s =>
    .ok (s.deliveredVersions.get? (versionKeyOf organizationId jobId reportVersionId)) s
  match found with
  | none => throw (.conflict "Delivered module version was not found")
  | some delivered => do
      Tx.throwIf (module ∉ delivered.modules) (.conflict "Delivered module version was not found")
      let next := { delivered with
        withdrawnModules := unique (delivered.withdrawnModules ++ [module]) }
      setDelivered next
      appendEvent env .module_withdrawn {
        reportVersionId := some reportVersionId
        safeReason := some module.text }
      return next

/-! ## Mailbox authentication -/

structure IssuedChallenge where
  challengeId : String
  otp : String
  expiresAt : String

def beginMailboxAuthentication (email : String) : Call IssuedChallenge := do
  let time ← now env
  let challengeId ← token env "challenge"
  let otp ← nextOtp env
  Tx.throwIf (isOtp otp = false) (.input "OTP factory must return six digits")
  let expiresAt := env.host.toISOString (time + 10 * 60000)
  let email ← Tx.ofExcept (canonicalEmail env email)
  setChallenge {
    challengeId, email
    otpDigest := env.digest ("otp:" ++ challengeId ++ ":" ++ otp)
    issuedAt := env.host.toISOString time
    expiresAt
    failedAttempts := 0
    consumedAt := none }
  appendEvent env .mailbox_challenge_issued {}
  return { challengeId, otp, expiresAt }

def verifyMailboxAuthentication (challengeId otp principalId : String) :
    Call MailboxSession := do
  let time ← now env
  let found : Option MailboxChallenge ← fun s => .ok (s.challenges.get? challengeId) s
  match found with
  | none => throw .denied
  | some challenge => do
      Tx.throwIf (challenge.consumedAt ≠ none ∨
        env.host.parsesAtOrBefore challenge.expiresAt time = true ∨ 5 ≤ challenge.failedAttempts)
        .denied
      let actual := env.digest ("otp:" ++ challenge.challengeId ++ ":" ++ otp)
      if actual ≠ challenge.otpDigest then do
        setChallenge { challenge with failedAttempts := challenge.failedAttempts + 1 }
        throw .denied
      else do
        let verifiedAt := env.host.toISOString time
        setChallenge { challenge with consumedAt := some verifiedAt }
        let sessionId ← token env "session"
        appendEvent env .mailbox_verified { principalId := some principalId }
        return {
          sessionId, principalId
          email := challenge.email
          mailboxVerifiedAt := verifiedAt
          authenticatedAt := verifiedAt
          expiresAt := env.host.toISOString (time + 60 * 60000)
          active := true }

/-! ## Authorisation -/

/-- The `try` block of `authorise`. -/
def checkCapability (session : MailboxSession) (grantId : String)
    (request : AuthorisationRequest) : Call RecipientGrant := do
  assertSession env session
  let grant ← requireGrant grantId
  assertGrantLineageActive env grant
  let delivered ← requireDelivered request.organizationId request.jobId request.reportVersionId
    [request.module]
  Tx.throwIf (grant.status ≠ .active ∨ grant.principalId ≠ session.principalId) .denied
  let email ← Tx.ofExcept (canonicalEmail env session.email)
  Tx.throwIf (grant.verifiedEmail ≠ email) .denied
  let time ← now env
  Tx.throwIf
    (env.host.parsesAtOrBefore grant.expiresAt time = true ∨
      grant.organizationId ≠ request.organizationId ∨
      grant.jobId ≠ request.jobId ∨
      grant.reportVersionId ≠ request.reportVersionId ∨
      request.module ∉ grant.permittedModules ∨
      request.action ∉ grant.permittedActions ∨
      request.module ∈ delivered.withdrawnModules) .denied
  appendEvent env .request_authorised {
    principalId := some session.principalId
    grantId := some grantId
    reportVersionId := some request.reportVersionId
    safeReason := some (request.module.text ++ ":" ++ request.action.text) }
  return grant

/-- The `catch` block of `authorise`: every error is a denial. -/
def denyRequest (session : MailboxSession) (grantId : String) (request : AuthorisationRequest) :
    Call RecipientGrant := do
  appendEvent env .request_denied {
    principalId := some session.principalId
    grantId := some grantId
    reportVersionId := some request.reportVersionId
    safeReason := some "capability_check_failed" }
  throw .denied

def authorise (session : MailboxSession) (grantId : String) (request : AuthorisationRequest) :
    Call RecipientGrant := fun s =>
  match checkCapability env session grantId request s with
  | .ok grant s' => .ok grant s'
  | .error _ s' => denyRequest env session grantId request s'

/-- What `withAuthorisedRequest` does once its operation has run. -/
def recheck (session : MailboxSession) (grantId : String) (request : AuthorisationRequest)
    (before : RecipientGrant) : Call Unit := do
  let after ← authorise env session grantId request
  Tx.throwIf (after.revision ≠ before.revision ∨ after.status ≠ .active) .denied

/-! ## Grants and invitations -/

def issueOwnerGrant (input : OwnerGrantInput) : Call RecipientGrant := do
  let time ← now env
  assertFuture env input.expiresAt time "Grant expiry"
  let _ ← requireDelivered input.organizationId input.jobId input.reportVersionId
    input.permittedModules
  Tx.throwIf (input.permittedModules = [] ∨ input.permittedActions = [])
    (.input "A grant needs at least one module and one action")
  let verifiedEmail ← Tx.ofExcept (canonicalEmail env input.verifiedEmail)
  storeGrant env
    { input.toScope with
      permittedModules := unique input.permittedModules
      permittedActions := unique input.permittedActions }
    input.principalId verifiedEmail input.issuedBy none none

/-- `Date.parse(expiresAt) > Date.parse(limit)`. -/
def expiresAfter (expiresAt limit : String) : Prop :=
  ∃ time ∈ env.host.dateParse expiresAt, ∃ last ∈ env.host.dateParse limit, last < time

instance (expiresAt limit : String) : Decidable (expiresAfter env expiresAt limit) :=
  inferInstanceAs (Decidable (∃ time ∈ env.host.dateParse expiresAt,
    ∃ last ∈ env.host.dateParse limit, last < time))

/-- The invitation and its token. -/
structure IssuedInvitation where
  invitation : InvitationView
  token : String

/-- What an inviter may not pass on. -/
def exceeds (input : ShareInvitationInput) (inviter : RecipientGrant) : Prop :=
  input.permittedModules = [] ∨ input.permittedActions = [] ∨
    ¬ input.permittedModules ⊆ inviter.permittedModules ∨
    ¬ input.permittedActions ⊆ inviter.permittedActions ∨
    .invite_recipient ∈ input.permittedActions

instance (input : ShareInvitationInput) (inviter : RecipientGrant) :
    Decidable (exceeds input inviter) :=
  inferInstanceAs (Decidable (_ ∨ _))

def createShareInvitation (input : ShareInvitationInput) : Call IssuedInvitation := do
  let time ← now env
  let inviter ← requireGrant input.inviterGrantId
  let _ ← authorise env input.inviterSession inviter.grantId {
    organizationId := inviter.organizationId
    jobId := inviter.jobId
    reportVersionId := inviter.reportVersionId
    module := inviter.permittedModules.head?.getD .building
    action := .invite_recipient }
  assertFuture env input.expiresAt time "Invitation expiry"
  Tx.throwIf (expiresAfter env input.expiresAt inviter.expiresAt) .denied
  Tx.throwIf (exceeds input inviter) .denied
  let inviteToken ← token env "invite"
  let invitationId ← token env "invitation"
  let intendedEmail ← Tx.ofExcept (canonicalEmail env input.intendedEmail)
  let invitation : ShareInvitation := {
    organizationId := inviter.organizationId
    jobId := inviter.jobId
    reportVersionId := inviter.reportVersionId
    permittedModules := unique input.permittedModules
    permittedActions := unique input.permittedActions
    expiresAt := input.expiresAt
    invitationId
    inviterGrantId := inviter.grantId
    intendedEmail
    issuedBy := input.inviterSession.principalId
    sentAt := env.host.toISOString time
    tokenDigest := env.digest ("invite:" ++ inviteToken)
    state := .sent
    redeemedAt := none
    redeemedByPrincipalId := none
    revokedAt := none
    revokedBy := none }
  setInvitation invitation
  appendEvent env .invitation_sent {
    principalId := some input.inviterSession.principalId
    grantId := some inviter.grantId
    invitationId := some invitationId
    reportVersionId := some inviter.reportVersionId }
  let view ← invitationView env invitation
  return { invitation := view, token := inviteToken }

/-- The invitation a token opens. -/
def State.opened (s : State) (inviteToken : String) : Option ShareInvitation :=
  s.invitations.values.find? fun candidate =>
    candidate.tokenDigest = env.digest ("invite:" ++ inviteToken)

/-- `redeemInvitation` once the invitation is found redeemable. -/
def redeem (invitation : ShareInvitation) (session : MailboxSession) (time : Int) :
    Call RecipientGrant := do
  let inviter ← requireGrant invitation.inviterGrantId
  assertGrantLineageActive env inviter
  Tx.throwIf (inviter.status ≠ .active ∨
    env.host.parsesAtOrBefore inviter.expiresAt time = true) .denied
  let redeemedAt := env.host.toISOString time
  setInvitation { invitation with
    state := .redeemed
    redeemedAt := some redeemedAt
    redeemedByPrincipalId := some session.principalId }
  let grant ← storeGrant env invitation.toScope session.principalId invitation.intendedEmail
    invitation.issuedBy (some inviter.grantId) (some redeemedAt)
  appendEvent env .invitation_redeemed {
    principalId := some session.principalId
    grantId := some grant.grantId
    invitationId := some invitation.invitationId
    reportVersionId := some grant.reportVersionId }
  return grant

def redeemInvitation (inviteToken : String) (session : MailboxSession) :
    Call RecipientGrant := do
  assertSession env session
  let time ← now env
  let found : Option ShareInvitation ← fun s => .ok (s.opened env inviteToken) s
  match found with
  | none => throw .denied
  | some invitation => do
      let state ← invitationState env invitation
      Tx.throwIf (state ≠ .sent) .denied
      let email ← Tx.ofExcept (canonicalEmail env session.email)
      Tx.throwIf (invitation.intendedEmail ≠ email) .denied
      redeem env invitation session time

def invitation (invitationId : String) : Call InvitationView := do
  let found : Option ShareInvitation ← fun s => .ok (s.invitations.get? invitationId) s
  match found with
  | none => throw .denied
  | some invitation => invitationView env invitation

def revokeInvitation (invitationId : String) (actorSession : MailboxSession) :
    Call InvitationView := do
  assertSession env actorSession
  let found : Option ShareInvitation ← fun s => .ok (s.invitations.get? invitationId) s
  match found with
  | none => throw .denied
  | some invitation => do
      Tx.throwIf (invitation.issuedBy ≠ actorSession.principalId ∨ invitation.state ≠ .sent)
        .denied
      let time ← now env
      let revoked := { invitation with
        state := .revoked
        revokedAt := some (env.host.toISOString time)
        revokedBy := some actorSession.principalId }
      setInvitation revoked
      appendEvent env .invitation_revoked {
        principalId := some actorSession.principalId
        grantId := some invitation.inviterGrantId
        invitationId := some invitationId
        reportVersionId := some invitation.reportVersionId }
      invitationView env revoked

def revokeGrant (grantId revokedBy reason : String) : Call RecipientGrant := do
  let grant ← requireGrant grantId
  if grant.status = .revoked then return grant
  else do
    Tx.throwIf ((Js.trim reason).toList = []) (.input "A revocation reason is required")
    let time ← now env
    let revoked := { grant with
      status := .revoked
      revision := grant.revision + 1
      revokedAt := some (env.host.toISOString time)
      revokedBy := some revokedBy
      revocationReason := some (Js.trim reason) }
    setGrant revoked
    appendEvent env .grant_revoked {
      principalId := some grant.principalId
      grantId := some grant.grantId
      reportVersionId := some grant.reportVersionId }
    return revoked

end InspectionHub.RecipientAccess
