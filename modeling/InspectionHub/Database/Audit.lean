import InspectionHub.Lib.Sql
import InspectionHub.Lib.Uuid

/-!
# Privileged commands and their audit

`privileged_action_audit` of `20260715000700_u10_security_operations.sql` and
the steps its commands share: an idempotency key used for another request
raises, a request the guard refuses leaves a denied attempt and answers null,
and a completed request answers what it recorded.

What the guard decides is an input of a call (`Request.allowed`): it reads the
session and device tables, which no modelled function writes.
-/

namespace InspectionHub.Database

inductive PrivilegedAction where
  | approve_module | deliver_report | share_report | revoke_access
  | withdraw_report | create_amendment | export_protected_data
  | place_lifecycle_hold | revoke_device | rotate_secret
  | enable_restore_egress | disable_restore_egress
deriving DecidableEq

def PrivilegedAction.text : PrivilegedAction → String
  | .approve_module => "approve_module"
  | .deliver_report => "deliver_report"
  | .share_report => "share_report"
  | .revoke_access => "revoke_access"
  | .withdraw_report => "withdraw_report"
  | .create_amendment => "create_amendment"
  | .export_protected_data => "export_protected_data"
  | .place_lifecycle_hold => "place_lifecycle_hold"
  | .revoke_device => "revoke_device"
  | .rotate_secret => "rotate_secret"
  | .enable_restore_egress => "enable_restore_egress"
  | .disable_restore_egress => "disable_restore_egress"

inductive AssuranceLevel where
  | aal1 | aal2 | unknown
deriving DecidableEq

inductive AuditOutcome where
  | allowed | denied | failed | completed
deriving DecidableEq

structure PrivilegedActionAudit where
  organizationId : Uuid
  actorId : Option Uuid
  deviceId : Option Uuid
  actionName : PrivilegedAction
  assuranceLevel : AssuranceLevel
  outcome : AuditOutcome
  reasonCode : String
  targetSha256 : Option String
  idempotencyKeySha256 : String
  requestFingerprintSha256 : String
  resultRecordId : Option Uuid

/-- `unique (organization_id, idempotency_key_sha256) where outcome = 'completed'` -/
def PrivilegedActionAudit.clash (a b : PrivilegedActionAudit) : Prop :=
  a.outcome = .completed ∧ b.outcome = .completed ∧ a.organizationId = b.organizationId ∧
    a.idempotencyKeySha256 = b.idempotencyKeySha256

instance : DecidableRel PrivilegedActionAudit.clash :=
  fun _ _ => inferInstanceAs (Decidable (_ ∧ _))

abbrev AuditTable := Sql.Table PrivilegedActionAudit PrivilegedActionAudit.clash

/-- What a call reads of the session it runs in, and the identifier
`gen_random_uuid()` gives it. -/
structure Request where
  /-- `request_actor_id()` -/
  actorId : Option Uuid
  /-- `request_bound_device_id(…)` -/
  deviceId : Option Uuid
  /-- `request_assurance_level()` -/
  assuranceLevel : AssuranceLevel
  /-- `is_privileged_request_allowed(…)` -/
  allowed : Bool
  newId : Uuid

/-- One attempt at a privileged action. -/
structure Attempt where
  organizationId : Uuid
  action : PrivilegedAction
  idempotencySha : String
  fingerprintSha : String

namespace AuditTable

/-- The key was used for another request. -/
def usedElsewhere (t : AuditTable) (a : Attempt) : Prop :=
  ∃ audit ∈ t.rows, audit.organizationId = a.organizationId ∧
    audit.idempotencyKeySha256 = a.idempotencySha ∧
    (audit.actionName ≠ a.action ∨ audit.requestFingerprintSha256 ≠ a.fingerprintSha)

instance (t : AuditTable) (a : Attempt) : Decidable (usedElsewhere t a) :=
  inferInstanceAs (Decidable (∃ _ ∈ _, _))

/-- The completed attempt under the key. -/
def prior? (t : AuditTable) (a : Attempt) : Option PrivilegedActionAudit :=
  t.rows.find? fun audit => audit.organizationId = a.organizationId ∧
    audit.idempotencyKeySha256 = a.idempotencySha ∧ audit.outcome = .completed

/-- Record a refused attempt. -/
def deny (t : AuditTable) (a : Attempt) (r : Request) (reasonCode : String)
    (targetSha256 : Option String) : Except Sql.Error AuditTable := do
  let t' ← t.insert "privileged_action_audit"
    ⟨a.organizationId, r.actorId, r.deviceId, a.action, r.assuranceLevel, .denied, reasonCode,
      targetSha256, a.idempotencySha, a.fingerprintSha, none⟩
  return t'.1

/-- Record a completed attempt. -/
def complete (t : AuditTable) (a : Attempt) (r : Request) (reasonCode : String)
    (targetSha256 : Option String) (resultRecordId : Uuid) : Except Sql.Error AuditTable := do
  let t' ← t.insert "privileged_action_audit"
    ⟨a.organizationId, r.actorId, r.deviceId, a.action, r.assuranceLevel, .completed, reasonCode,
      targetSha256, a.idempotencySha, a.fingerprintSha, some resultRecordId⟩
  return t'.1

end AuditTable

/-- The steps a privileged command starts with; `act` is the rest of it. -/
def privileged {σ : Type} (audit : AuditTable) (db : σ) (store : AuditTable → σ) (a : Attempt)
    (r : Request) (targetSha256 : Option String)
    (act : Except Sql.Error (Option Uuid × σ)) : Except Sql.Error (Option Uuid × σ) := do
  Sql.raiseIf (audit.usedElsewhere a) "23505"
    "idempotency key was already used for another request"
  if r.allowed then
    match audit.prior? a with
    | some prior => return (prior.resultRecordId, db)
    | none => act
  else
    let audit' ← audit.deny a r "privileged_guard_denied" targetSha256
    return (none, store audit')

variable {targetSha256 : Option String} {a : Attempt} {r : Request}

theorem AuditTable.deny_ok {t t' : AuditTable} {reasonCode : String}
    (h : t.deny a r reasonCode targetSha256 = .ok t') : ∃ row, t'.rows = t.rows ++ [row] := by
  obtain ⟨next, -, hdone⟩ := Sql.bind_ok h
  cases hdone
  exact ⟨_, next.2⟩

/-- A privileged command that returned recorded a denied attempt, answered from
the completed one, or did the rest. -/
theorem privileged_peel {σ : Type} {audit : AuditTable} {db : σ} {store : AuditTable → σ}
    {act : Except Sql.Error (Option Uuid × σ)} {answer : Option Uuid} {db' : σ}
    (h : privileged audit db store a r targetSha256 act = .ok (answer, db')) :
    (∃ audit' row, audit'.rows = audit.rows ++ [row] ∧ answer = none ∧ db' = store audit') ∨
      db' = db ∨ act = .ok (answer, db') := by
  obtain ⟨-, hrest⟩ := Sql.check_ok h
  split at hrest
  · split at hrest
    · cases hrest
      exact .inr (.inl rfl)
    · exact .inr (.inr hrest)
  · obtain ⟨audit', hdeny, hdone⟩ := Sql.bind_ok hrest
    cases hdone
    obtain ⟨row, hrow⟩ := AuditTable.deny_ok hdeny
    exact .inl ⟨audit', row, hrow, rfl, rfl⟩

theorem privileged_ok {σ : Type} {audit : AuditTable} {db : σ} {store : AuditTable → σ}
    {act : Except Sql.Error (Option Uuid × σ)} {answer : Option Uuid} {db' : σ}
    (h : privileged audit db store a r targetSha256 act = .ok (answer, db')) :
    (∃ audit', answer = none ∧ db' = store audit') ∨ db' = db ∨ act = .ok (answer, db') := by
  rcases privileged_peel h with ⟨audit', -, -, hanswer, hdb⟩ | hrest
  · exact .inl ⟨audit', hanswer, hdb⟩
  · exact .inr hrest

end InspectionHub.Database
