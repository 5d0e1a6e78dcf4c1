import InspectionHub.Database.Modules
import InspectionHub.Lib.TSys
import InspectionHub.RecipientAccess.Types

/-!
# The shared authority of the recipient portal

`20260716000900_recipient_demo_authority.sql`: invitations that are claimed
once, the grants issued on them, and what a grant lets its holder do. The
tables are append-only; every command derives the status of its grant from the
rows there are. The commands are taken one after another, each at a time that
does not come before the last.

Arguments may be null. A condition that compares a null is unknown and raises
nothing; what it lets through, a column that is not null refuses.
-/

namespace InspectionHub.Database

open Domain (ModuleType)
open RecipientAccess (RecipientAction)

/-! ## Rows -/

structure InvitationClaim where
  invitationDigest : String
  challengeId : Uuid
  intendedEmail : String
  claimedAt : Int
  expiresAt : Int
deriving DecidableEq

/-- `primary key (invitation_digest)`, `unique (challenge_id)` -/
def InvitationClaim.clash (a b : InvitationClaim) : Prop :=
  a.invitationDigest = b.invitationDigest ∨ a.challengeId = b.challengeId

structure ChallengeCompletion where
  challengeId : Uuid
  completedAt : Int

/-- `primary key (challenge_id)` -/
def ChallengeCompletion.clash (a b : ChallengeCompletion) : Prop := a.challengeId = b.challengeId

structure DemoGrant where
  id : Uuid
  challengeId : Uuid
  principalId : String
  verifiedEmail : String
  organizationId : String
  jobId : String
  reportVersionId : String
  permittedModules : List ModuleType
  permittedActions : List RecipientAction
  revision : Int
  issuedAt : Int
  expiresAt : Int
deriving DecidableEq

/-- `primary key (id)`, `unique (challenge_id)` -/
def DemoGrant.clash (a b : DemoGrant) : Prop := a.id = b.id ∨ a.challengeId = b.challengeId

structure DemoGrantRevocation where
  grantId : Uuid
  safeReason : String
  revokedAt : Int

/-- `primary key (grant_id)` -/
def DemoGrantRevocation.clash (a b : DemoGrantRevocation) : Prop := a.grantId = b.grantId

inductive ModuleEventState where
  | withdrawn | restored
deriving DecidableEq

structure ModuleEvent where
  id : Uuid
  moduleType : ModuleType
  state : ModuleEventState
  recordedAt : Int
deriving DecidableEq

/-- `primary key (id)` -/
def ModuleEvent.clash (a b : ModuleEvent) : Prop := a.id = b.id

structure ShareRequest where
  id : Uuid
  grantId : Uuid
  email : String
  permittedModules : List ModuleType
  recordedAt : Int
  expiresAt : Int
deriving DecidableEq

/-- `primary key (id)` -/
def ShareRequest.clash (a b : ShareRequest) : Prop := a.id = b.id

structure ShareRevocation where
  shareRequestId : Uuid
  grantId : Uuid
  revokedAt : Int

/-- `primary key (share_request_id)` -/
def ShareRevocation.clash (a b : ShareRevocation) : Prop := a.shareRequestId = b.shareRequestId

structure ContactRequest where
  id : Uuid
  grantId : Uuid
  findingReference : Option String
  moduleType : Option ModuleType
  recordedAt : Int
deriving DecidableEq

/-- `primary key (id)` -/
def ContactRequest.clash (a b : ContactRequest) : Prop := a.id = b.id

instance : DecidableRel InvitationClaim.clash := fun _ _ => inferInstanceAs (Decidable (_ ∨ _))
instance : DecidableRel ChallengeCompletion.clash := fun _ _ => inferInstanceAs (Decidable (_ = _))
instance : DecidableRel DemoGrant.clash := fun _ _ => inferInstanceAs (Decidable (_ ∨ _))
instance : DecidableRel DemoGrantRevocation.clash := fun _ _ => inferInstanceAs (Decidable (_ = _))
instance : DecidableRel ModuleEvent.clash := fun _ _ => inferInstanceAs (Decidable (_ = _))
instance : DecidableRel ShareRequest.clash := fun _ _ => inferInstanceAs (Decidable (_ = _))
instance : DecidableRel ShareRevocation.clash := fun _ _ => inferInstanceAs (Decidable (_ = _))
instance : DecidableRel ContactRequest.clash := fun _ _ => inferInstanceAs (Decidable (_ = _))

structure DemoTables where
  invitationClaims : Sql.Table InvitationClaim InvitationClaim.clash
  challengeCompletions : Sql.Table ChallengeCompletion ChallengeCompletion.clash
  grants : Sql.Table DemoGrant DemoGrant.clash
  grantRevocations : Sql.Table DemoGrantRevocation DemoGrantRevocation.clash
  moduleEvents : Sql.Table ModuleEvent ModuleEvent.clash
  shareRequests : Sql.Table ShareRequest ShareRequest.clash
  shareRevocations : Sql.Table ShareRevocation ShareRevocation.clash
  contactRequests : Sql.Table ContactRequest ContactRequest.clash

/-! ## The projection of the modules -/

/-- In the order `recorded_at, id`; the digits of an id are in the order of its bytes. -/
def ModuleEvent.upTo (a b : ModuleEvent) : Prop :=
  a.recordedAt < b.recordedAt ∨ (a.recordedAt = b.recordedAt ∧ a.id.text ≤ b.id.text)

instance : DecidableRel ModuleEvent.upTo := fun _ _ => inferInstanceAs (Decidable (_ ∨ _))

/-- `order by recorded_at desc, id desc limit 1` -/
def latestEvent (events : List ModuleEvent) : Option ModuleEvent :=
  events.find? fun e => events.all fun other => other.upTo e

/-- `recipient_demo_module_is_withdrawn` -/
def moduleIsWithdrawn (events : List ModuleEvent) (module : Option String) : Bool :=
  (latestEvent (events.filter fun e => module = some e.moduleType.text)).any
    fun e => e.state = .withdrawn

namespace DemoTables

def empty : DemoTables :=
  ⟨.empty, .empty, .empty, .empty, .empty, .empty, .empty, .empty⟩

/-! ## The grant of a command -/

/-- The arguments that name a grant and what it was issued for. -/
structure GrantArguments where
  grantId : Option Uuid
  revision : Option Int
  principalId : Option String
  verifiedEmail : Option String
  organizationId : Option String
  jobId : Option String
  reportVersionId : Option String

/-- `exists (select 1 from recipient_demo_grant_revocations …)` -/
def isRevoked (db : DemoTables) (grantId : Uuid) : Bool :=
  db.grantRevocations.rows.any fun r => r.grantId = grantId

/-- `recipient_demo_grant_locked` -/
def grantLocked (now : Int) (db : DemoTables) (a : GrantArguments) :
    Except Sql.Error DemoGrant := do
  let some grantRow := db.grants.rows.find? fun g => a.grantId = some g.id
    | throw ⟨"42501", "recipient grant is unavailable"⟩
  Sql.raiseIf (db.isRevoked grantRow.id ∨ some grantRow.revision ≠ a.revision ∨
      some grantRow.principalId ≠ a.principalId ∨ some grantRow.verifiedEmail ≠ a.verifiedEmail ∨
      some grantRow.organizationId ≠ a.organizationId ∨ some grantRow.jobId ≠ a.jobId ∨
      some grantRow.reportVersionId ≠ a.reportVersionId ∨ grantRow.expiresAt ≤ now) "42501"
    "recipient grant is unavailable"
  return grantRow

/-! ## Claiming and issuing -/

/-- A letter, a digit, `_` or `-`. -/
def isDigestChar (c : Char) : Bool := c.isAlphanum || c == '_' || c == '-'

/-- `digest ~ '^[A-Za-z0-9_-]{43}$'` -/
def isInvitationDigest (digest : String) : Bool :=
  digest.length = 43 && digest.toList.all isDigestChar

variable (lower : String → String)

/-- `command_recipient_demo_claim_invitation` -/
def claimInvitation (now : Int) (challengeId : Uuid) (digest email : Option String)
    (db : DemoTables) : Except Sql.Error (InvitationClaim × DemoTables) := do
  Sql.raiseIf (Sql.anyTrue [digest.map fun d => !isInvitationDigest d,
      some (email ≠ email.map lower), email.map (· ≠ "recipient@example.com")]) "22023"
    "recipient invitation is invalid"
  let digest ← Sql.notNull "invitation_digest" digest
  let email ← Sql.notNull "intended_email" email
  let claimRow : InvitationClaim := ⟨digest, challengeId, email, now, now + 600000000⟩
  let next ← db.invitationClaims.insert "recipient invitation is unavailable" claimRow
  return (claimRow, { db with invitationClaims := next.1 })

/-- `date_trunc('milliseconds', now)`, of microseconds. -/
def truncated (now : Int) : Int := now - now % 1000

def allActions : List RecipientAction :=
  [.read_report, .download_pdf, .view_curated_media, .view_history, .contact_inspector,
    .invite_recipient]

/-- The grant that a challenge earns. -/
def issued (now : Int) (grantId challengeId : Uuid) (email : String) : DemoGrant where
  id := grantId
  challengeId := challengeId
  principalId := "principal_demo_recipient"
  verifiedEmail := email
  organizationId := "org_demo"
  jobId := "job_demo_cracked_tile"
  reportVersionId := "report_demo_v2"
  permittedModules := [.building, .timber_pest]
  permittedActions := allActions
  revision := 1
  issuedAt := truncated now
  expiresAt := truncated now + 3600000000

/-- `command_recipient_demo_issue_grant` -/
def issueGrant (now : Int) (grantId : Uuid) (challengeId : Option Uuid)
    (digest email : Option String) (db : DemoTables) :
    Except Sql.Error (DemoGrant × DemoTables) := do
  let some claimRow := db.invitationClaims.rows.find? fun c => challengeId = some c.challengeId
    | throw ⟨"42501", "recipient challenge is unavailable"⟩
  Sql.raiseIf (some claimRow.invitationDigest ≠ digest ∨ some claimRow.intendedEmail ≠ email ∨
      claimRow.expiresAt ≤ now ∨
      ∃ completion ∈ db.challengeCompletions.rows, challengeId = some completion.challengeId)
    "42501" "recipient challenge is unavailable"
  let completions ← db.challengeCompletions.insert "recipient_demo_challenge_completions"
    ⟨claimRow.challengeId, now⟩
  let grantRow := issued now grantId claimRow.challengeId claimRow.intendedEmail
  let grants ← db.grants.insert "recipient_demo_grants" grantRow
  return (grantRow, { db with challengeCompletions := completions.1, grants := grants.1 })

/-! ## Using a grant -/

/-- `command_recipient_demo_authorise` -/
def authorise (now : Int) (a : GrantArguments) (module action : Option String) (db : DemoTables) :
    Except Sql.Error (DemoGrant × DemoTables) := do
  let grantRow ← db.grantLocked now a
  Sql.raiseIf (Sql.anyTrue [module.map (· ∉ grantRow.permittedModules.map ModuleType.text),
      action.map (· ∉ grantRow.permittedActions.map RecipientAction.text),
      some (moduleIsWithdrawn db.moduleEvents.rows module)]) "42501"
    "recipient capability is unavailable"
  return (grantRow, db)

inductive ShareState where
  | recorded | expired | revoked
deriving DecidableEq

structure PortalState where
  buildingWithdrawn : Bool
  shareInvitations : List (ShareRequest × ShareState)
  contactRequests : List ContactRequest

/-- The state of a share request that the portal shows. -/
def shareState (now : Int) (db : DemoTables) (share : ShareRequest) : ShareState :=
  if db.shareRevocations.rows.any fun r => r.shareRequestId = share.id then .revoked
  else if share.expiresAt ≤ now then .expired
  else .recorded

/-- `command_recipient_demo_portal_state` -/
def portalState (now : Int) (a : GrantArguments) (db : DemoTables) :
    Except Sql.Error (PortalState × DemoTables) := do
  let grantRow ← db.grantLocked now a
  Sql.raiseIf (.read_report ∉ grantRow.permittedActions ∨
      .timber_pest ∉ grantRow.permittedModules ∨
      moduleIsWithdrawn db.moduleEvents.rows (some "timber_pest")) "42501"
    "recipient portal is unavailable"
  let shares := (db.shareRequests.rows.filter fun s => s.grantId = grantRow.id).mergeSort
    fun s t => decide (t.recordedAt ≤ s.recordedAt)
  let contacts := (db.contactRequests.rows.filter fun c => c.grantId = grantRow.id).mergeSort
    fun c d => decide (d.recordedAt ≤ c.recordedAt)
  return (⟨moduleIsWithdrawn db.moduleEvents.rows (some "building"),
    shares.map fun s => (s, db.shareState now s), contacts⟩, db)

/-- `command_recipient_demo_revoke_grant` -/
def revokeGrant (now : Int) (a : GrantArguments) (db : DemoTables) :
    Except Sql.Error DemoTables := do
  let grantRow ← db.grantLocked now a
  let next ← db.grantRevocations.insert "recipient_demo_grant_revocations"
    ⟨grantRow.id, "recipient_session_ended", now⟩
  return { db with grantRevocations := next.1 }

/-- The modules of the grant that are not withdrawn, in the order of their names. -/
def activeModules (db : DemoTables) (grantRow : DemoGrant) : List ModuleType :=
  (grantRow.permittedModules.filter fun m =>
    !moduleIsWithdrawn db.moduleEvents.rows (some m.text)).mergeSort
      fun m n => decide (m.text ≤ n.text)

/-- `length(email) between 3 and 320` -/
def emailWithin (email : String) : Bool := 3 ≤ email.length && email.length ≤ 320

/-- `command_recipient_demo_record_share` -/
def recordShare (now : Int) (id : Uuid) (a : GrantArguments) (email : Option String)
    (shareExpiresAt : Option Int) (db : DemoTables) :
    Except Sql.Error (ShareRequest × DemoTables) := do
  let grantRow ← db.grantLocked now a
  let active := db.activeModules grantRow
  Sql.raiseIf (Sql.anyTrue [some (.invite_recipient ∉ grantRow.permittedActions),
      some active.isEmpty, some (email ≠ email.map lower), email.map (!emailWithin ·),
      shareExpiresAt.map (· ≤ now), shareExpiresAt.map (grantRow.expiresAt < ·)]) "42501"
    "recipient share request is unavailable"
  let email ← Sql.notNull "email" email
  let expiresAt ← Sql.notNull "expires_at" shareExpiresAt
  let shareRow : ShareRequest := ⟨id, grantRow.id, email, active, now, expiresAt⟩
  let next ← db.shareRequests.insert "recipient_demo_share_requests" shareRow
  return (shareRow, { db with shareRequests := next.1 })

/-- `command_recipient_demo_revoke_share` -/
def revokeShare (now : Int) (a : GrantArguments) (invitationId : Option Uuid) (db : DemoTables) :
    Except Sql.Error (ShareRequest × DemoTables) := do
  let grantRow ← db.grantLocked now a
  Sql.raiseIf (.invite_recipient ∉ grantRow.permittedActions) "42501"
    "recipient share request is unavailable"
  let some shareRow := db.shareRequests.rows.find? fun s =>
      invitationId = some s.id ∧ s.grantId = grantRow.id
    | throw ⟨"42501", "recipient share request is unavailable"⟩
  Sql.raiseIf (shareRow.expiresAt ≤ now ∨
      ∃ r ∈ db.shareRevocations.rows, r.shareRequestId = shareRow.id) "42501"
    "recipient share request is unavailable"
  let next ← db.shareRevocations.insert "recipient_demo_share_revocations"
    ⟨shareRow.id, grantRow.id, now⟩
  return (shareRow, { db with shareRevocations := next.1 })

/-- `module_type in ('building', 'timber_pest')` -/
def moduleTypeOf? (text : String) : Option ModuleType :=
  [ModuleType.building, .timber_pest].find? fun m => m.text = text

/-- `active_module_exists` -/
def activeModuleExists (db : DemoTables) (grantRow : DemoGrant) : Option String → Bool
  | none => grantRow.permittedModules.any fun m =>
      !moduleIsWithdrawn db.moduleEvents.rows (some m.text)
  | some module => module ∈ grantRow.permittedModules.map ModuleType.text &&
      !moduleIsWithdrawn db.moduleEvents.rows (some module)

/-- `command_recipient_demo_record_contact` -/
def recordContact (now : Int) (id : Uuid) (a : GrantArguments)
    (findingReference module : Option String) (db : DemoTables) :
    Except Sql.Error (ContactRequest × DemoTables) := do
  let grantRow ← db.grantLocked now a
  Sql.raiseIf (.contact_inspector ∉ grantRow.permittedActions ∨
      db.activeModuleExists grantRow module = false ∨
      module.any (fun m => (moduleTypeOf? m).isNone) ∨
      findingReference.any fun f => ¬ (1 ≤ f.length ∧ f.length ≤ 120)) "42501"
    "recipient contact request is unavailable"
  let contactRow : ContactRequest :=
    ⟨id, grantRow.id, findingReference, module.bind moduleTypeOf?, now⟩
  let next ← db.contactRequests.insert "recipient_demo_contact_requests" contactRow
  return (contactRow, { db with contactRequests := next.1 })

/-- `command_recipient_demo_set_module_withdrawal` -/
def setModuleWithdrawal (now : Int) (id : Uuid) (module : Option String)
    (withdrawn : Option Bool) (db : DemoTables) : Except Sql.Error DemoTables := do
  Sql.raiseIf (module.any fun m => (moduleTypeOf? m).isNone) "22023"
    "recipient demo module is invalid"
  let moduleType ← Sql.notNull "module_type" (module.bind moduleTypeOf?)
  let next ← db.moduleEvents.insert "recipient_demo_module_events"
    ⟨id, moduleType, if withdrawn = some true then .withdrawn else .restored, now⟩
  return { db with moduleEvents := next.1 }

end DemoTables

end InspectionHub.Database
