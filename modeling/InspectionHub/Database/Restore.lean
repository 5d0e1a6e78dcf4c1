import InspectionHub.Database.Audit

/-!
# Restore generations and egress

The restore tables and commands of
`20260715000700_u10_security_operations.sql`. Enablement is stored nowhere:
`restoreEgressIsEnabled` computes it from the generations begun, the checks
each verification run recorded and the egress events.

What the eight canonical checks find is an input of `command_verify_…`, as the
read models they query belong to the restored system.
-/

namespace InspectionHub.Database

/-! ## Rows -/

inductive RestoreCheckName where
  | artifact_checksums | event_replay | recipient_grants | deletion_suppressions
  | session_revocations | package_pointers | provider_truth | secret_environment
deriving DecidableEq

def RestoreCheckName.text : RestoreCheckName → String
  | .artifact_checksums => "artifact_checksums"
  | .event_replay => "event_replay"
  | .recipient_grants => "recipient_grants"
  | .deletion_suppressions => "deletion_suppressions"
  | .session_revocations => "session_revocations"
  | .package_pointers => "package_pointers"
  | .provider_truth => "provider_truth"
  | .secret_environment => "secret_environment"

/-- The array `command_verify_restore_generation` loops over. -/
def restoreCheckNames : List RestoreCheckName :=
  [.artifact_checksums, .event_replay, .recipient_grants, .deletion_suppressions,
    .session_revocations, .package_pointers, .provider_truth, .secret_environment]

/-- `order by check_name` -/
def restoreCheckNamesByText : List RestoreCheckName :=
  [.artifact_checksums, .deletion_suppressions, .event_replay, .package_pointers,
    .provider_truth, .recipient_grants, .secret_environment, .session_revocations]

/-- `environment_name in ('development', 'test', 'preview', 'production')` -/
def isEnvironmentName (s : String) : Bool :=
  s ∈ ["development", "test", "preview", "production"]

structure RestoreGeneration where
  restoreSessionId : Uuid
  organizationId : Uuid
  environmentName : String
  generation : Nat
  sourceManifestSha256 : String
  initiatedByActorId : Uuid
deriving DecidableEq

/-- `primary key (restore_session_id)`,
`unique (organization_id, environment_name, generation)` -/
def RestoreGeneration.clash (a b : RestoreGeneration) : Prop :=
  a.restoreSessionId = b.restoreSessionId ∨
    (a.organizationId = b.organizationId ∧ a.environmentName = b.environmentName ∧
      a.generation = b.generation)

inductive RestoreVerdict where
  | passed | failed
deriving DecidableEq

structure RestoreReconciliationCheck where
  organizationId : Uuid
  restoreSessionId : Uuid
  environmentName : String
  restoreGeneration : Nat
  verificationRun : Nat
  checkName : RestoreCheckName
  verdict : RestoreVerdict
  violationCount : Nat
  evidenceSha256 : String
  checkedByActorId : Uuid
deriving DecidableEq

/-- `unique (organization_id, restore_session_id, environment_name,
verification_run, check_name)` -/
def RestoreReconciliationCheck.clash (a b : RestoreReconciliationCheck) : Prop :=
  a.organizationId = b.organizationId ∧ a.restoreSessionId = b.restoreSessionId ∧
    a.environmentName = b.environmentName ∧ a.verificationRun = b.verificationRun ∧
    a.checkName = b.checkName

inductive RestoreEgressEventKind where
  | enabled | disabled
deriving DecidableEq

structure RestoreEgressEvent where
  id : Uuid
  organizationId : Uuid
  restoreSessionId : Uuid
  environmentName : String
  restoreGeneration : Nat
  eventVersion : Nat
  eventKind : RestoreEgressEventKind
  recordedByActorId : Uuid
  evidenceProjectionSha256 : String
deriving DecidableEq

/-- `primary key (id)`, `unique (organization_id, restore_session_id,
environment_name, restore_generation, event_version)` -/
def RestoreEgressEvent.clash (a b : RestoreEgressEvent) : Prop :=
  a.id = b.id ∨
    (a.organizationId = b.organizationId ∧ a.restoreSessionId = b.restoreSessionId ∧
      a.environmentName = b.environmentName ∧ a.restoreGeneration = b.restoreGeneration ∧
      a.eventVersion = b.eventVersion)

instance : DecidableRel RestoreGeneration.clash := fun _ _ => inferInstanceAs (Decidable (_ ∨ _))
instance : DecidableRel RestoreReconciliationCheck.clash :=
  fun _ _ => inferInstanceAs (Decidable (_ ∧ _))
instance : DecidableRel RestoreEgressEvent.clash := fun _ _ => inferInstanceAs (Decidable (_ ∨ _))

structure RestoreTables where
  restoreGenerations : Sql.Table RestoreGeneration RestoreGeneration.clash
  restoreReconciliationChecks :
    Sql.Table RestoreReconciliationCheck RestoreReconciliationCheck.clash
  restoreEgressEvents : Sql.Table RestoreEgressEvent RestoreEgressEvent.clash
  privilegedActionAudit : AuditTable

/-- A restored tenant, session and environment. -/
structure RestoreScope where
  organizationId : Uuid
  restoreSessionId : Uuid
  environmentName : String
deriving DecidableEq

namespace RestoreTables

def empty : RestoreTables := ⟨.empty, .empty, .empty, .empty⟩

variable (db : RestoreTables)

/-! ## What enablement is computed from -/

/-- The generations of a tenant's environment. -/
def generationsOf (organizationId : Uuid) (environmentName : String) : List RestoreGeneration :=
  db.restoreGenerations.rows.filter fun g =>
    g.organizationId = organizationId ∧ g.environmentName = environmentName

def generation? (scope : RestoreScope) : Option RestoreGeneration :=
  db.restoreGenerations.rows.find? fun g =>
    g.restoreSessionId = scope.restoreSessionId ∧ g.organizationId = scope.organizationId ∧
      g.environmentName = scope.environmentName

def checksOf (scope : RestoreScope) : List RestoreReconciliationCheck :=
  db.restoreReconciliationChecks.rows.filter fun c =>
    c.organizationId = scope.organizationId ∧ c.restoreSessionId = scope.restoreSessionId ∧
      c.environmentName = scope.environmentName

def eventsOf (scope : RestoreScope) : List RestoreEgressEvent :=
  db.restoreEgressEvents.rows.filter fun e =>
    e.organizationId = scope.organizationId ∧ e.restoreSessionId = scope.restoreSessionId ∧
      e.environmentName = scope.environmentName

/-- `coalesce(max(verification_run), 0)` -/
def latestRun (scope : RestoreScope) : Nat :=
  Sql.maxOf ((db.checksOf scope).map RestoreReconciliationCheck.verificationRun)

/-- The checks of the latest run. -/
def latestChecks (scope : RestoreScope) : List RestoreReconciliationCheck :=
  (db.checksOf scope).filter fun c => c.verificationRun = db.latestRun scope

/-- `order by event_version desc limit 1` -/
def latestEvent? (scope : RestoreScope) : Option RestoreEgressEvent :=
  (db.eventsOf scope).find? fun e =>
    e.eventVersion = Sql.maxOf ((db.eventsOf scope).map RestoreEgressEvent.eventVersion)

/-- `restore_generation_is_current` -/
def restoreGenerationIsCurrent (scope : RestoreScope) : Bool :=
  isEnvironmentName scope.environmentName &&
    db.restoreGenerations.rows.any fun g =>
      g.restoreSessionId = scope.restoreSessionId ∧ g.organizationId = scope.organizationId ∧
        g.environmentName = scope.environmentName ∧
        g.generation = Sql.maxOf ((db.generationsOf scope.organizationId
          scope.environmentName).map RestoreGeneration.generation)

/-- `restore_is_reconciled` -/
def restoreIsReconciled (scope : RestoreScope) : Bool :=
  db.restoreGenerationIsCurrent scope && (db.latestChecks scope).length = 8 &&
    (db.latestChecks scope).all fun c => c.verdict = .passed ∧ c.violationCount = 0

/-- `restore_egress_is_enabled` -/
def restoreEgressIsEnabled (scope : RestoreScope) : Bool :=
  db.restoreGenerationIsCurrent scope && db.restoreIsReconciled scope &&
    (db.latestEvent? scope).any fun e => e.eventKind = .enabled

end RestoreTables

/-! ## Commands -/

/-- Who administers a tenant when a statement runs. -/
abbrev Administrators := Uuid → Uuid → Bool

/-- What `restore_check_projection` answers for each check: the violations and
the digest of the evidence. -/
abbrev CheckFindings := RestoreCheckName → Nat × String

namespace RestoreTables

/-- `command_begin_restore_generation` -/
def commandBeginRestoreGeneration (administrators : Administrators) (scope : RestoreScope)
    (sourceManifestSha256 : String) (initiatedByActorId : Uuid) (db : RestoreTables) :
    Except Sql.Error (Nat × RestoreTables) := do
  Sql.raiseIf (¬ isEnvironmentName scope.environmentName ∨
      ¬ Js.isHexDigest sourceManifestSha256 ∨
      ¬ administrators scope.organizationId initiatedByActorId) "22023"
    "invalid restore generation request"
  let nextGeneration := Sql.maxOf ((db.generationsOf scope.organizationId
    scope.environmentName).map RestoreGeneration.generation) + 1
  let generations ← db.restoreGenerations.insert "restore_generations"
    ⟨scope.restoreSessionId, scope.organizationId, scope.environmentName, nextGeneration,
      sourceManifestSha256, initiatedByActorId⟩
  return (nextGeneration, { db with restoreGenerations := generations.1 })

/-- The row one pass of the loop inserts. -/
def checkRow (scope : RestoreScope) (generation run : Nat) (findings : CheckFindings)
    (checkedByActorId : Uuid) (name : RestoreCheckName) : RestoreReconciliationCheck :=
  ⟨scope.organizationId, scope.restoreSessionId, scope.environmentName, generation, run, name,
    if (findings name).1 = 0 then .passed else .failed, (findings name).1, (findings name).2,
    checkedByActorId⟩

/-- `command_verify_restore_generation` -/
def commandVerifyRestoreGeneration (administrators : Administrators) (findings : CheckFindings)
    (scope : RestoreScope) (checkedByActorId : Uuid) (db : RestoreTables) :
    Except Sql.Error (Nat × RestoreTables) := do
  Sql.raiseIf (¬ db.restoreGenerationIsCurrent scope ∨
      ¬ administrators scope.organizationId checkedByActorId) "42501"
    "restore verification denied"
  match db.generation? scope with
  | none => throw ⟨"P0002", "query returned no rows"⟩
  | some generation =>
      let nextRun := db.latestRun scope + 1
      let checks ← restoreCheckNames.foldlM (fun t name => do
          let t' ← t.insert "restore_reconciliation_checks"
            (checkRow scope generation.generation nextRun findings checkedByActorId name)
          return t'.1) db.restoreReconciliationChecks
      return (nextRun, { db with restoreReconciliationChecks := checks })

/-- Append the next egress event and the completed attempt. -/
def recordEgressEvent (a : Attempt) (r : Request) (scope : RestoreScope) (generation : Nat)
    (kind : RestoreEgressEventKind) (reasonCode projectionSha : String) (db : RestoreTables) :
    Except Sql.Error (Option Uuid × RestoreTables) := do
  let nextVersion :=
    Sql.maxOf ((db.eventsOf scope).map RestoreEgressEvent.eventVersion) + 1
  match r.actorId with
  | none => throw ⟨"23502", "recorded_by_actor_id"⟩
  | some actorId =>
      let events ← db.restoreEgressEvents.insert "restore_egress_events"
        ⟨r.newId, scope.organizationId, scope.restoreSessionId, scope.environmentName, generation,
          nextVersion, kind, actorId, projectionSha⟩
      let audit ← db.privilegedActionAudit.complete a r reasonCode (some projectionSha) r.newId
      return (some r.newId,
        { db with restoreEgressEvents := events.1, privilegedActionAudit := audit })

/-- Refuse, leaving the attempt. -/
def refuse (a : Attempt) (r : Request) (reasonCode : String) (targetSha : String)
    (db : RestoreTables) : Except Sql.Error (Option Uuid × RestoreTables) := do
  let audit ← db.privilegedActionAudit.deny a r reasonCode (some targetSha)
  return (none, { db with privilegedActionAudit := audit })

section

variable (sha256 : String → String)

/-- The attempt a call of an egress command makes. -/
def attempt (action : PrivilegedAction) (scope : RestoreScope) (rawIdempotencyKey : String) :
    Attempt where
  organizationId := scope.organizationId
  action := action
  idempotencySha := sha256 rawIdempotencyKey
  fingerprintSha := sha256 (Sql.concatWs "|" [some action.text, some scope.organizationId.text,
    some scope.restoreSessionId.text, some scope.environmentName])

def targetSha (scope : RestoreScope) : String :=
  sha256 (Sql.concatWs "|" [some scope.restoreSessionId.text, some scope.environmentName])

/-- `string_agg(check_name || ':' || evidence_sha256, '|' order by check_name)` over the
passed checks of the run. -/
def passedEvidence (db : RestoreTables) (scope : RestoreScope) : List (RestoreCheckName × String) :=
  restoreCheckNamesByText.flatMap fun name =>
    ((db.latestChecks scope).filter fun c => c.checkName = name ∧ c.verdict = .passed).map
      fun c => (name, c.evidenceSha256)

/-- The envelope both egress commands check. -/
def checkEgressRequest (scope : RestoreScope) (rawIdempotencyKey : String) :
    Except Sql.Error Unit :=
  Sql.raiseIf (¬ (16 ≤ rawIdempotencyKey.length ∧ rawIdempotencyKey.length ≤ 160) ∨
    ¬ isEnvironmentName scope.environmentName) "22023" "invalid restore egress request"

/-- `command_enable_restore_egress` -/
def commandEnableRestoreEgress (r : Request) (scope : RestoreScope) (rawIdempotencyKey : String)
    (db : RestoreTables) : Except Sql.Error (Option Uuid × RestoreTables) := do
  checkEgressRequest scope rawIdempotencyKey
  let a := attempt sha256 .enable_restore_egress scope rawIdempotencyKey
  let target := targetSha sha256 scope
  privileged db.privilegedActionAudit db (fun audit => { db with privilegedActionAudit := audit })
      a r (some target) do
    if db.restoreIsReconciled scope then
      match db.generation? scope with
      | none => throw ⟨"P0002", "query returned no rows"⟩
      | some generation =>
          let projectionSha := sha256 (Sql.concatWs "|" [some (Sql.natText generation.generation),
            some (Sql.natText (db.latestRun scope)),
            Sql.stringAgg "|" ((db.passedEvidence scope).map fun e => e.1.text ++ ":" ++ e.2)])
          recordEgressEvent a r scope generation.generation .enabled "restore_egress_enabled"
            projectionSha db
    else refuse a r "restore_reconciliation_incomplete" target db

/-- `command_disable_restore_egress` -/
def commandDisableRestoreEgress (r : Request) (scope : RestoreScope) (rawIdempotencyKey : String)
    (db : RestoreTables) : Except Sql.Error (Option Uuid × RestoreTables) := do
  checkEgressRequest scope rawIdempotencyKey
  let a := attempt sha256 .disable_restore_egress scope rawIdempotencyKey
  let target := targetSha sha256 scope
  privileged db.privilegedActionAudit db (fun audit => { db with privilegedActionAudit := audit })
      a r (some target) do
    if db.restoreGenerationIsCurrent scope then
      match db.generation? scope with
      | none => throw ⟨"P0002", "query returned no rows"⟩
      | some generation =>
          let projectionSha := sha256 (Sql.concatWs "|" [some "disabled",
            some scope.organizationId.text, some scope.restoreSessionId.text,
            some scope.environmentName, some (Sql.natText generation.generation)])
          recordEgressEvent a r scope generation.generation .disabled "restore_egress_disabled"
            projectionSha db
    else refuse a r "restore_generation_not_current" target db

end

end RestoreTables

/-! ## Calls -/

/-- A call of one of the restore commands. -/
inductive RestoreCall where
  | begin (administrators : Administrators) (scope : RestoreScope)
      (sourceManifestSha256 : String) (initiatedByActorId : Uuid)
  | verify (administrators : Administrators) (findings : CheckFindings) (scope : RestoreScope)
      (checkedByActorId : Uuid)
  | enable (r : Request) (scope : RestoreScope) (rawIdempotencyKey : String)
  | disable (r : Request) (scope : RestoreScope) (rawIdempotencyKey : String)

namespace RestoreTables

/-- The tables after a call: what a call that raised wrote is rolled back. -/
def perform (sha256 : String → String) (db : RestoreTables) (call : RestoreCall) :
    RestoreTables :=
  let outcome := match call with
    | .begin administrators scope manifest actorId =>
        (commandBeginRestoreGeneration administrators scope manifest actorId db).map Prod.snd
    | .verify administrators findings scope actorId =>
        (commandVerifyRestoreGeneration administrators findings scope actorId db).map Prod.snd
    | .enable r scope key => (commandEnableRestoreEgress sha256 r scope key db).map Prod.snd
    | .disable r scope key => (commandDisableRestoreEgress sha256 r scope key db).map Prod.snd
  match outcome with
  | .ok db' => db'
  | .error _ => db

end RestoreTables

end InspectionHub.Database
