import InspectionHub.Delivery.Service

/-!
# The delivery worker

The worker's transactions, and `send` cut at its awaits: each segment runs to
the next await and answers with the phase the send is then in. `now` is the
clock reading a transaction takes.
-/

namespace InspectionHub.Delivery

variable (env : Env)

/-- An audit event about `about`, at the revision of `next`. -/
def auditEvent (about next : DeliveryPackageRecord) (type : EventType) (now : String)
    (safeMetadata : Fields) (eventId : String) : DeliveryAuditEvent :=
  { eventId
    packageId := about.packageId
    organizationId := about.organizationId
    jobId := about.jobId
    type
    packageRevision := next.revision
    recordedAt := now
    safeMetadata }

/-! ## Transactions -/

/-- The transaction `send` starts with. -/
def startSending (packageId now : String) : DeliveryTx DeliveryPackageRecord :=
  transact do
    let current ← requirePackage packageId
    if current.state = .cancelled then return current
    Tx.throwIf (current.state ≠ .queued)
      (.conflict ("Only a queued package can start sending; current state is " ++
        current.state.text))
    let next ← transition packageId [.queued] .sending now {}
    updateOutbox packageId .processing now
    appendEvent env (auditEvent current next .sendStarted now
      [("priorState", .str current.state.text)])
    return next

inductive CancelReason where
  | jobCancelled | moduleWithdrawn | deliverySuspended
deriving DecidableEq, Repr

def CancelReason.text : CancelReason → String
  | .jobCancelled => "job_cancelled"
  | .moduleWithdrawn => "module_withdrawn"
  | .deliverySuspended => "delivery_suspended"

def cancellable : List DeliveryState :=
  [.waitingForApproval, .waitingForEvidence, .queued, .sending, .providerAccepted, .failed,
    .unknown]

def cancelPackage (packageId : String) (reason : CancelReason) (now : String) :
    DeliveryTx DeliveryPackageRecord :=
  transact do
    let current ← requirePackage packageId
    Tx.throwIf (current.state = .sent)
      (.conflict ("A sent copy cannot be recalled; withdrawal must be represented by " ++
        "notice and audit history"))
    if current.state = .cancelled then return current
    let next ← transition packageId cancellable .cancelled now
      { cancellationReason := some (some reason.text) }
    if (← getOutboxForPackage packageId).isSome then
      updateOutbox packageId .cancelled now
    appendEvent env (auditEvent current next .cancelled now [("reason", .str reason.text)])
    return next

def retry (packageId now : String) : DeliveryTx DeliveryPackageRecord :=
  transact do
    let current ← requirePackage packageId
    Tx.throwIf (current.state ≠ .failed ∨ current.interventionRequired)
      (.conflict "Only a retryable failed delivery can be queued automatically")
    let next ← transition packageId [.failed] .queued now { failureCode := some none }
    updateOutbox packageId .queued now
    return next

def markProviderSent (packageId providerReference now : String) :
    DeliveryTx DeliveryPackageRecord :=
  transact do
    let current ← requirePackage packageId
    let next ← transition packageId [.providerAccepted, .unknown, .cancelled] .sent now
      { providerReference := some (some providerReference), failureCode := some none,
        interventionRequired := some false }
    updateOutbox packageId .completed now
    appendEvent env (auditEvent current next .sent now
      [("providerReference", .str providerReference),
        ("observedAfterCancellation", .bool (current.state = .cancelled))])
    return next

def recordUnknown (started : DeliveryPackageRecord) (reconciliationKey now : String) :
    DeliveryTx DeliveryPackageRecord :=
  transact do
    match (← getPackage started.packageId).filter (·.state = .cancelled) with
    | some current => return current
    | none =>
        let next ← transition started.packageId [.sending] .unknown now
          { failureCode := some (some "provider_outcome_unknown") }
        appendEvent env (auditEvent started next .unknown now
          [("reconciliationHash", .str (sha256 env (.str reconciliationKey)))])
        return next

/-- The package a provider result applies to, cancelled or still `sending`. -/
def currentForResult (started : DeliveryPackageRecord) : DeliveryTx DeliveryPackageRecord := do
  match ← getPackage started.packageId with
  | none => throw (.conflict "Provider result is stale for the current delivery state")
  | some current =>
      Tx.throwIf (current.state ≠ .cancelled ∧ current.state ≠ .sending)
        (.conflict "Provider result is stale for the current delivery state")
      return current

def recordSent (started : DeliveryPackageRecord) (providerReference now : String) :
    DeliveryTx DeliveryPackageRecord :=
  transact do
    let current ← currentForResult started
    if current.state = .cancelled then
      let next ← transition started.packageId [.cancelled] .sent now
        { providerReference := some (some providerReference) }
      updateOutbox started.packageId .completed now
      appendEvent env (auditEvent started next .sent now
        [("providerReference", .str providerReference), ("observedAfterCancellation", .bool true)])
      return next
    let next ← transition started.packageId [.sending] .sent now
      { providerReference := some (some providerReference) }
    updateOutbox started.packageId .completed now
    appendEvent env (auditEvent started next .sent now
      [("providerReference", .str providerReference)])
    return next

def recordAccepted (started : DeliveryPackageRecord) (providerReference now : String) :
    DeliveryTx DeliveryPackageRecord :=
  transact do
    let current ← currentForResult started
    if current.state = .cancelled then return current
    let next ← transition started.packageId [.sending] .providerAccepted now
      { providerReference := some (some providerReference) }
    appendEvent env (auditEvent started next .providerAccepted now
      [("providerReference", .str providerReference)])
    return next

def recordFailed (started : DeliveryPackageRecord) (code : String) (retryable : Bool)
    (now : String) : DeliveryTx DeliveryPackageRecord :=
  transact do
    let current ← currentForResult started
    if current.state = .cancelled then return current
    let next ← transition started.packageId [.sending] .failed now
      { failureCode := some (some code), interventionRequired := some (!retryable) }
    updateOutbox started.packageId (if retryable then .queued else .completed) now
    appendEvent env (auditEvent started next .failed now
      [("code", .str code), ("retryable", .bool retryable),
        ("interventionRequired", .bool (!retryable))])
    return next

def recordResult (started : DeliveryPackageRecord) (result : DeliveryProviderResult)
    (now : String) : DeliveryTx DeliveryPackageRecord :=
  match result with
  | .unknown reconciliationKey => recordUnknown env started reconciliationKey now
  | .sent ref => recordSent env started ref now
  | .accepted ref => recordAccepted env started ref now
  | .failed code retryable => recordFailed env started code retryable now

def recordEgressBlocked (started : DeliveryPackageRecord) (now : String) :
    DeliveryTx DeliveryPackageRecord :=
  transact do
    match ← getPackage started.packageId with
    | none => throw (.conflict "Delivery changed while restore egress was being authorised")
    | some current =>
        if current.state = .cancelled then return current
        Tx.throwIf (current.state ≠ .sending)
          (.conflict "Delivery changed while restore egress was being authorised")
        let next ← transition started.packageId [.sending] .failed now
          { failureCode := some (some "restore_egress_blocked"),
            interventionRequired := some false }
        updateOutbox started.packageId .queued now
        appendEvent env (auditEvent started next .failed now
          [("code", .str "restore_egress_blocked"), ("retryable", .bool true),
            ("interventionRequired", .bool false)])
        return next

/-! ## Guards -/

def readStatus (professionalStatus : ProfessionalDeliveryStatusPort)
    (packageRecord : DeliveryPackageRecord) : ProfessionalDeliveryStatus :=
  professionalStatus packageRecord.organizationId packageRecord.jobId

def isBlocked (packageRecord : DeliveryPackageRecord) (status : ProfessionalDeliveryStatus) :
    Bool :=
  status.jobCancelled ||
    packageRecord.commissionedModules.any fun module => module ∈ status.withdrawnModules

def cancelBlocked (packageRecord : DeliveryPackageRecord) (status : ProfessionalDeliveryStatus)
    (now : String) : DeliveryTx DeliveryPackageRecord :=
  cancelPackage env packageRecord.packageId
    (if status.jobCancelled then .jobCancelled else .moduleWithdrawn) now

/-- The package to answer with when the send must stop, none when it may go
on. -/
def revalidateSendability (professionalStatus : ProfessionalDeliveryStatusPort)
    (started : DeliveryPackageRecord) (now : String) :
    DeliveryTx (Option DeliveryPackageRecord) := do
  match ← getPackage started.packageId with
  | none => throw (.conflict "Package state changed immediately before provider delivery")
  | some current =>
      if current.state = .cancelled then return some current
      Tx.throwIf (current.state ≠ .sending)
        (.conflict "Package state changed immediately before provider delivery")
      let status := readStatus professionalStatus current
      if isBlocked current status then
        return some (← cancelBlocked env current status now)
      return none

/-! ## Sends -/

/-- Where a send stands: at one of its awaits, or settled. -/
inductive SendPhase where
  | beforeProviderCall
  | requireEgress
  | providerCall (request : DeliveryProviderRequest)
  | afterProviderCall (result : DeliveryProviderResult)
  | settled (outcome : Except DeliveryError DeliveryPackageRecord)

/-- How the awaited promise settles. -/
inductive Awaited where
  | fulfilled
  | replied (result : DeliveryProviderResult)
  | rejected (message : String)

/-- `send` up to its first await: what its transaction returned, and the phase. -/
def sendStart (professionalStatus : ProfessionalDeliveryStatusPort)
    (packageId now cancelNow : String) : DeliveryTx (DeliveryPackageRecord × SendPhase) := do
  let started ← startSending env packageId now
  if started.state = .cancelled then return (started, .settled (.ok started))
  let firstGuard := readStatus professionalStatus started
  if isBlocked started firstGuard then
    let cancelled ← cancelBlocked env started firstGuard cancelNow
    return (started, .settled (.ok cancelled))
  return (started, .beforeProviderCall)

def afterHook (professionalStatus : ProfessionalDeliveryStatusPort)
    (started : DeliveryPackageRecord) (now : String) : DeliveryTx SendPhase := do
  match ← revalidateSendability env professionalStatus started now with
  | some blocked => return .settled (.ok blocked)
  | none => return .requireEgress

def providerRequest (started : DeliveryPackageRecord) (outbox : DeliveryOutboxRecord) :
    DeliveryProviderRequest :=
  { packageId := started.packageId
    organizationId := started.organizationId
    jobId := started.jobId
    idempotencyKey := outbox.idempotencyKey
    requestFingerprint := outbox.requestFingerprint }

def afterEgress (professionalStatus : ProfessionalDeliveryStatusPort)
    (started : DeliveryPackageRecord) (now : String) : DeliveryTx SendPhase := do
  match ← getOutboxForPackage started.packageId with
  | none => throw (.other "Delivery outbox record is missing")
  | some outbox =>
      match ← revalidateSendability env professionalStatus started now with
      | some blocked => return .settled (.ok blocked)
      | none => return .providerCall (providerRequest started outbox)

def settleWith (work : DeliveryTx DeliveryPackageRecord) : DeliveryTx SendPhase := do
  return .settled (.ok (← work))

/-- `send` from the await it stands at, once the promise has settled. -/
def sendResume (professionalStatus : ProfessionalDeliveryStatusPort)
    (started : DeliveryPackageRecord) (now : String) :
    SendPhase → Awaited → Option (DeliveryTx SendPhase)
  | .beforeProviderCall, .fulfilled => some (afterHook env professionalStatus started now)
  | .beforeProviderCall, .rejected message => some (throw (.other message))
  | .requireEgress, .fulfilled => some (afterEgress env professionalStatus started now)
  | .requireEgress, .rejected _ => some (settleWith (recordEgressBlocked env started now))
  | .providerCall _, .replied result => some (return .afterProviderCall result)
  | .afterProviderCall result, .fulfilled =>
      some (settleWith (recordResult env started result now))
  | .providerCall _, .rejected _ | .afterProviderCall _, .rejected _ =>
      some (settleWith (recordUnknown env started "provider_result_not_durably_recorded" now))
  | _, _ => none

end InspectionHub.Delivery
