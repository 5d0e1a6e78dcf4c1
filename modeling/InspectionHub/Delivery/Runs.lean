import InspectionHub.Delivery.PackageSteps
import InspectionHub.Lib.TSys

/-!
# Runs of the delivery component

The repository, the sends in progress and the professional status they read,
under any sequence of confirms, sends, resumptions, cancellations, retries,
provider observations and changes of status. The session also keeps every
request handed to the provider.
-/

namespace InspectionHub.Delivery

/-- A send, with the package its own transaction returned. -/
structure SendTask where
  started : DeliveryPackageRecord
  phase : SendPhase

structure Session where
  repository : Repository
  status : ProfessionalDeliveryStatusPort
  sends : List SendTask
  calls : List DeliveryProviderRequest

inductive Label where
  | confirm (readers : Readers) (command : ConfirmPackageCommand)
  | send (packageId now cancelNow : String)
  | resume (send : Nat) (awaited : Awaited) (now : String)
  | cancelPackage (packageId : String) (reason : CancelReason) (now : String)
  | retry (packageId now : String)
  | markProviderSent (packageId providerReference now : String)
  /-- A module is withdrawn, a job cancelled, or either undone. -/
  | setStatus (status : ProfessionalDeliveryStatusPort)

/-- The requests a phase has just handed to the provider. -/
def SendPhase.requests : SendPhase → List DeliveryProviderRequest
  | .providerCall request => [request]
  | _ => []

variable (env : Env)

/-- A send runs to its first await, or rejects before it. -/
def Session.send (s : Session) (packageId now cancelNow : String) : Session :=
  match sendStart env s.status packageId now cancelNow s.repository with
  | .ok (started, phase) r => { s with repository := r, sends := s.sends ++ [⟨started, phase⟩] }
  | .error _ r => { s with repository := r }

/-- The promise a send awaits settles, and the send runs to its next await. -/
def Session.resume (s : Session) (i : Nat) (awaited : Awaited) (now : String) : Session :=
  match s.sends[i]? with
  | none => s
  | some task =>
      match sendResume env s.status task.started now task.phase awaited with
      | none => s
      | some work =>
          match work s.repository with
          | .ok phase r =>
              { s with
                repository := r
                sends := s.sends.set i ⟨task.started, phase⟩
                calls := s.calls ++ phase.requests }
          | .error e r =>
              { s with repository := r, sends := s.sends.set i ⟨task.started, .settled (.error e)⟩ }

def Session.next (s : Session) : Label → Session
  | .confirm readers command =>
      { s with repository := Tx.after (confirm env readers command s.repository) }
  | .send packageId now cancelNow => s.send env packageId now cancelNow
  | .resume i awaited now => s.resume env i awaited now
  | .cancelPackage packageId reason now =>
      { s with repository := Tx.after (cancelPackage env packageId reason now s.repository) }
  | .retry packageId now =>
      { s with repository := Tx.after (retry packageId now s.repository) }
  | .markProviderSent packageId providerReference now =>
      { s with
        repository := Tx.after (markProviderSent env packageId providerReference now s.repository) }
  | .setStatus status => { s with status }

def Session.initial (status : ProfessionalDeliveryStatusPort) : Session :=
  ⟨.initial, status, [], []⟩

def system : TSys Session Label where
  Init s := ∃ status, s = Session.initial status
  Step s a s' := Session.next env s a = s'

/-! ## What a step does to the repository -/

variable {env}

/-- One worker transaction: undone, or a move of one package. -/
def WorkerStep (r r' : Repository) : Prop :=
  Restored r r' ∨ ∃ packageId p', Worked r r' packageId p'

abbrev WorkerSteps : Repository → Repository → Prop := Relation.ReflTransGen WorkerStep

variable {r r' : Repository}

theorem WorkerSteps.restored (h : Restored r r') : WorkerSteps r r' :=
  .single (.inl h)

theorem WorkerSteps.worked {packageId : String} {p' : DeliveryPackageRecord}
    (h : Worked r r' packageId p') : WorkerSteps r r' := .single (.inr ⟨packageId, p', h⟩)

/-- A public transaction is one worker step. -/
theorem workerStep_after {x : DeliveryTx DeliveryPackageRecord} {packageId : String}
    (hatomic : Atomic x) (r : Repository)
    (hok : ∀ {p' r'}, x r = .ok p' r' → Worked r r' packageId p') :
    WorkerSteps r (Tx.after (x r)) := by
  cases h : x r with
  | ok p' r' => exact .worked (hok h)
  | error e r' => exact .restored (hatomic h)

theorem Resumed.steps {status : ProfessionalDeliveryStatusPort} {started : DeliveryPackageRecord}
    {phase phase' : SendPhase} (h : Resumed env status started r r' phase phase') :
    WorkerSteps r r' := by
  cases h with
  | authorise h => rw [h]
  | call h => rw [h]
  | reply h => rw [h]
  | settle h => exact .worked h

theorem send_workerSteps (s : Session) (packageId now cancelNow : String) :
    WorkerSteps s.repository (s.send env packageId now cancelNow).repository := by
  unfold Session.send
  split
  · next started phase r h =>
      cases sendStart_ok h with
      | go hworked => exact .worked hworked
      | ended hclaim _ hcancel _ => exact (WorkerSteps.worked hclaim).trans (WorkerSteps.worked hcancel)
  · next e r h =>
      rcases sendStart_error h with h | ⟨t, started, h, -, h'⟩
      · exact .restored h
      · exact (WorkerSteps.worked h).trans (WorkerSteps.restored h')

theorem resume_workerSteps (s : Session) (i : Nat) (awaited : Awaited) (now : String) :
    WorkerSteps s.repository (s.resume env i awaited now).repository := by
  unfold Session.resume
  split
  · exact .refl
  · split
    · exact .refl
    · next hwork =>
        split
        · next h => exact (sendResume_ok hwork h).steps
        · next h => exact .restored (sendResume_atomic hwork h)

variable (env) in
/-- **Steps of the worker.** Every step but a confirm is a sequence of worker
transactions. -/
theorem next_workerSteps (s : Session) (a : Label)
    (ha : ∀ readers command, a ≠ .confirm readers command) :
    WorkerSteps s.repository (s.next env a).repository := by
  cases a with
  | confirm readers command => exact absurd rfl (ha readers command)
  | send packageId now cancelNow => exact send_workerSteps s packageId now cancelNow
  | resume i awaited now => exact resume_workerSteps s i awaited now
  | cancelPackage packageId reason now =>
      exact workerStep_after (cancelPackage_atomic _ _ _) _ fun h => (cancelPackage_ok h).1
  | retry packageId now => exact workerStep_after (retry_atomic _ _) _ fun h => (retry_ok h).1
  | markProviderSent packageId providerReference now =>
      exact workerStep_after (markProviderSent_atomic _ _ _) _ fun h => (markProviderSent_ok h).1
  | setStatus status => exact .refl

end InspectionHub.Delivery
