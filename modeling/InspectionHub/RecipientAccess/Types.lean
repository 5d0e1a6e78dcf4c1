import InspectionHub.Domain.ModuleState
import InspectionHub.Lib.OMap
import InspectionHub.Lib.Tx

/-!
# What the recipient access service stores

`packages/recipient-access/src/types.ts` and `errors.ts`.
-/

namespace InspectionHub.RecipientAccess

open Domain (ModuleType)

inductive RecipientAction where
  | read_report
  | download_pdf
  | view_curated_media
  | view_history
  | contact_inspector
  | invite_recipient
deriving DecidableEq

def RecipientAction.text : RecipientAction → String
  | .read_report => "read_report"
  | .download_pdf => "download_pdf"
  | .view_curated_media => "view_curated_media"
  | .view_history => "view_history"
  | .contact_inspector => "contact_inspector"
  | .invite_recipient => "invite_recipient"

structure MailboxSession where
  sessionId : String
  principalId : String
  email : String
  mailboxVerifiedAt : String
  authenticatedAt : String
  expiresAt : String
  active : Bool
deriving DecidableEq

inductive GrantStatus where
  | active
  | revoked
deriving DecidableEq

/-- What is granted: to which report, which of it, what may be done, until when. -/
structure Scope where
  organizationId : String
  jobId : String
  reportVersionId : String
  permittedModules : List ModuleType
  permittedActions : List RecipientAction
  expiresAt : String
deriving DecidableEq

structure RecipientGrant extends Scope where
  grantId : String
  principalId : String
  verifiedEmail : String
  issuedBy : String
  issuedAt : String
  status : GrantStatus
  revision : Nat
  parentGrantId : Option String
  revokedAt : Option String
  revokedBy : Option String
  revocationReason : Option String
deriving DecidableEq

inductive StoredInvitationState where
  | sent
  | redeemed
  | revoked
deriving DecidableEq

structure ShareInvitation extends Scope where
  invitationId : String
  inviterGrantId : String
  intendedEmail : String
  issuedBy : String
  sentAt : String
  tokenDigest : String
  state : StoredInvitationState
  redeemedAt : Option String
  redeemedByPrincipalId : Option String
  revokedAt : Option String
  revokedBy : Option String
deriving DecidableEq

inductive ShareInvitationState where
  | sent
  | redeemed
  | expired
  | revoked
deriving DecidableEq

def StoredInvitationState.shown : StoredInvitationState → ShareInvitationState
  | .sent => .sent
  | .redeemed => .redeemed
  | .revoked => .revoked

structure InvitationView where
  invitationId : String
  intendedEmail : String
  reportVersionId : String
  permittedModules : List ModuleType
  permittedActions : List RecipientAction
  sentAt : String
  expiresAt : String
  state : ShareInvitationState
deriving DecidableEq

structure AuthorisationRequest where
  organizationId : String
  jobId : String
  reportVersionId : String
  module : ModuleType
  action : RecipientAction
deriving DecidableEq

structure MailboxChallenge where
  challengeId : String
  email : String
  otpDigest : String
  issuedAt : String
  expiresAt : String
  failedAttempts : Nat
  consumedAt : Option String
deriving DecidableEq

structure DeliveredReportVersion where
  organizationId : String
  jobId : String
  reportVersionId : String
  modules : List ModuleType
  deliveredAt : String
  withdrawnModules : List ModuleType
deriving DecidableEq

inductive AccessEventType where
  | mailbox_challenge_issued
  | mailbox_verified
  | grant_issued
  | grant_revoked
  | invitation_sent
  | invitation_redeemed
  | invitation_revoked
  | request_authorised
  | request_denied
  | version_delivered
  | module_withdrawn
deriving DecidableEq

/-- The fields an event may carry. -/
structure EventFields where
  principalId : Option String := none
  grantId : Option String := none
  invitationId : Option String := none
  reportVersionId : Option String := none
  safeReason : Option String := none
deriving DecidableEq

structure RecipientAccessEvent extends EventFields where
  eventId : String
  occurredAt : String
  type : AccessEventType
deriving DecidableEq

inductive AccessError where
  /-- `RecipientAccessDeniedError`. -/
  | denied
  /-- `RecipientInputError`. -/
  | input (message : String)
  /-- `RecipientConflictError`. -/
  | conflict (message : String)
deriving DecidableEq

structure OwnerGrantInput extends Scope where
  principalId : String
  verifiedEmail : String
  issuedBy : String

structure ShareInvitationInput where
  inviterGrantId : String
  inviterSession : MailboxSession
  intendedEmail : String
  permittedModules : List ModuleType
  permittedActions : List RecipientAction
  expiresAt : String

/-- `${organizationId}:${jobId}:${reportVersionId}`. -/
def versionKeyOf (organizationId jobId reportVersionId : String) : String :=
  organizationId ++ ":" ++ jobId ++ ":" ++ reportVersionId

def DeliveredReportVersion.versionKey (version : DeliveredReportVersion) : String :=
  versionKeyOf version.organizationId version.jobId version.reportVersionId

/-- The maps of the service. `ticks`, `tokens` and `otps` count the calls made so
far of the clock and of the two factories. -/
structure State where
  grants : Table String RecipientGrant (·.grantId)
  invitations : Table String ShareInvitation (·.invitationId)
  challenges : Table String MailboxChallenge (·.challengeId)
  deliveredVersions : Table String DeliveredReportVersion DeliveredReportVersion.versionKey
  events : List RecipientAccessEvent
  ticks : Nat
  tokens : Nat
  otps : Nat

def State.empty : State := ⟨.empty, .empty, .empty, .empty, [], 0, 0, 0⟩

/-- The options of the service, with what the platform decides. -/
structure Surroundings where
  host : Js.Host
  /-- `text.toLocaleLowerCase("en-AU")`. -/
  lower : String → String
  /-- The milliseconds of the `n`-th reading of `clock()`. -/
  clock : Nat → Int
  /-- What the `n`-th call of `tokenFactory(kind)` returns. -/
  token : String → Nat → String
  /-- What the `n`-th call of `otpFactory()` returns. -/
  otp : Nat → String
  /-- The keyed digest of a text. -/
  digest : String → String

end InspectionHub.RecipientAccess
