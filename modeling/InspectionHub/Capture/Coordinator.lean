import InspectionHub.Capture.Reconciliation

/-!
# The capture coordinator

`apps/mobile/src/capture/capture-coordinator.ts` with `capture-machine.ts`. A
capture is a run of awaited steps: reserve the intent, publish the file, commit
the artifact, acknowledge. Each of them is one step here, so that other calls
may come between two and the process may end after any. What the file port
answers, the identity drawn and the clock are inputs of the steps.
-/

namespace InspectionHub.Capture

/-! ## The machine -/

inductive CaptureMachineState where
  | acknowledged
  | blocked
  | committing_ledger
  | failed
  | idle
  | persisting_file
  | reserving_identity
deriving DecidableEq

inductive CaptureMachineEvent where
  | acknowledge
  | block
  | commit_ledger
  | fail
  | persist_file
  | reserve_identity
deriving DecidableEq

/-- `transitions[state][event]`. -/
def captureTransitions : CaptureMachineState → CaptureMachineEvent → Option CaptureMachineState
  | .committing_ledger, .acknowledge => some .acknowledged
  | .committing_ledger, .fail => some .failed
  | .idle, .block => some .blocked
  | .idle, .reserve_identity => some .reserving_identity
  | .persisting_file, .commit_ledger => some .committing_ledger
  | .persisting_file, .fail => some .failed
  | .reserving_identity, .fail => some .failed
  | .reserving_identity, .persist_file => some .persisting_file
  | _, _ => none

structure CaptureMachine where
  trace : List CaptureMachineState
deriving DecidableEq

def CaptureMachine.initial : CaptureMachine := ⟨[.idle]⟩

def CaptureMachine.state (machine : CaptureMachine) : CaptureMachineState :=
  machine.trace.getLast?.getD .idle

/-- `machine.send(event)`; `none` where it throws. -/
def CaptureMachine.send (machine : CaptureMachine) (event : CaptureMachineEvent) :
    Option CaptureMachine :=
  (captureTransitions machine.state event).map fun next => ⟨machine.trace ++ [next]⟩

/-! ## Requests and results -/

inductive CapturePermission where
  | denied
  | granted
  | unavailable
deriving DecidableEq

/-- A request, but for the source and the failure point, which only reach the
file port. -/
structure CaptureRequest where
  areaId : String
  captureId : Option String
  capturedAt : String
  deviceId : String
  deviceState : Option DeviceState
  jobId : String
  kind : CaptureKind
  permission : CapturePermission
  sequence : ℚ
deriving DecidableEq

inductive CaptureResult where
  | acknowledged (captureId : String) (localDurableSaveMs : ℚ) (queueLane : UploadLane)
      (stateTrace : List CaptureMachineState)
  | blocked (fallback : Option String) (reason : String) (stateTrace : List CaptureMachineState)
  | failed (captureId reason residue : String) (stateTrace : List CaptureMachineState)
deriving DecidableEq

inductive ArtifactState where
  | final_may_exist
  | none
  | partial_preserved_debug
deriving DecidableEq

/-- How `persistCapture` ends: its promise rejects, it reports an error, or the
file is published. -/
inductive PersistOutcome where
  | rejected
  | failed (code : String) (artifactState : ArtifactState)
  | published (file : ObservedFinalFile)
deriving DecidableEq

def permissionReason (request : CaptureRequest) : Option String :=
  let device := match request.kind with
    | .photo => "camera"
    | .voice => "microphone"
  match request.permission with
  | .granted => none
  | .denied => some (device ++ "_permission_denied")
  | .unavailable => some (device ++ "_permission_unavailable")

/-- The fallback and the reason of a request that is blocked. -/
def blockedReason (request : CaptureRequest) : Option (Option String × String) :=
  match request.deviceState with
  | some .revoked => some (none, "device_revoked")
  | some .lost => some (none, "device_lost")
  | _ => (permissionReason request).map fun reason => (some "manual_note", reason)

def failureResidue : ArtifactState → String
  | .none => "none"
  | .final_may_exist => "final_without_artifact_ledger"
  | .partial_preserved_debug => "partial_possible"

/-! ## One capture -/

/-- What a capture does next. -/
inductive CaptureStage where
  /-- Await `persistCapture`. -/
  | persisting
  /-- Mark the intent, then report a failure of the native module. -/
  | marking (state : CaptureIntentState) (code residue : String)
  /-- Commit the artifact. -/
  | committing (artifact : DurableArtifact)
  /-- Acknowledge what is committed. -/
  | acknowledging (queueLane : UploadLane)
  | returned (result : CaptureResult)
  /-- The promise of `capture` rejects. -/
  | threw
deriving DecidableEq

structure CaptureRun where
  captureId : String
  kind : CaptureKind
  startedAt : ℚ
  machine : CaptureMachine
  stage : CaptureStage
deriving DecidableEq

namespace CaptureRun

variable (run : CaptureRun)

/-- `machine.send(event)` and what follows. -/
def sending (event : CaptureMachineEvent) (next : CaptureRun → CaptureStage) : CaptureRun :=
  match run.machine.send event with
  | some machine => { run with machine := machine, stage := next { run with machine := machine } }
  | none => { run with stage := .threw }

def failing (reason residue : String) : CaptureRun :=
  run.sending .fail fun run =>
    .returned (.failed run.captureId reason residue run.machine.trace)

/-- The first steps of `capture`, up to the reserved intent. -/
def start (l : SQLiteLedger) (fails : Bool) (request : CaptureRequest) (fresh : String)
    (startedAt : ℚ) : SQLiteLedger × CaptureRun :=
  let run : CaptureRun := {
    captureId := request.captureId.getD fresh
    kind := request.kind
    startedAt := startedAt
    machine := .initial
    stage := .threw }
  match blockedReason request with
  | some (fallback, reason) =>
      (l, run.sending .block fun run => .returned (.blocked fallback reason run.machine.trace))
  | none =>
      match run.machine.send .reserve_identity with
      | none => (l, run)
      | some machine =>
          let run := { run with machine := machine }
          let intent : CaptureIntent := {
            areaId := request.areaId
            captureId := run.captureId
            capturedAt := request.capturedAt
            deviceId := request.deviceId
            failureCode := none
            jobId := request.jobId
            kind := request.kind
            sequence := request.sequence
            state := .pending }
          match l.beginIntent fails intent with
          | .error _ => (l, run.failing "ledger_commit_failed" "none")
          | .ok l => (l, run.sending .persist_file fun _ => .persisting)

/-- The file port has answered. -/
def persist (outcome : PersistOutcome) : CaptureRun :=
  match outcome with
  | .rejected =>
      { run with stage := .marking .failed "NATIVE_BRIDGE_REJECTED" "native_state_unknown" }
  | .failed code artifactState =>
      { run with stage := .marking .failed code (failureResidue artifactState) }
  | .published file =>
      if file.directorySync ≠ .synced then
        { run with
          stage := .marking .evidence_at_risk "DIRECTORY_SYNC_UNSUPPORTED"
            "final_without_artifact_ledger" }
      else
        run.sending .commit_ledger fun run =>
          .committing (durableArtifactFromObservation file run.kind)

/-- The next call of the ledger; nothing where none is due. -/
def advance (l : SQLiteLedger) (fails : Bool) (now : ℚ) : SQLiteLedger × CaptureRun :=
  match run.stage with
  | .marking state code residue =>
      match l.markIntent fails run.captureId state (some code) with
      | .error _ => (l, { run with stage := .threw })
      | .ok l => (l, run.failing "native_durability_failed" residue)
  | .committing artifact =>
      match l.commitDurableCapture fails run.captureId artifact with
      | .error _ => (l, run.failing "ledger_commit_failed" "final_without_artifact_ledger")
      | .ok l => (l, { run with stage := .acknowledging artifact.queueLane })
  | .acknowledging queueLane =>
      match run.machine.send .acknowledge with
      | none => (l, { run with stage := .threw })
      | some machine =>
          let run := { run with machine := machine }
          match l.markIntent fails run.captureId .acknowledged none with
          | .error _ => (l, { run with stage := .threw })
          | .ok l =>
              (l, { run with
                stage := .returned (.acknowledged run.captureId (max 0 (now - run.startedAt))
                  queueLane machine.trace) })
  | _ => (l, run)

end CaptureRun

/-! ## A process -/

/-- The ledger of a process and the captures it has made or is making. -/
structure CaptureProcess where
  ledger : SQLiteLedger
  runs : List CaptureRun

/-- Captures take their steps; a boundary hook of one throws; the application
calls the ledger; the process ends and the next one hydrates the ledger. -/
inductive CaptureStep where
  | start (request : CaptureRequest) (fresh : String) (startedAt : ℚ) (fails : Bool)
  | persist (i : Nat) (outcome : PersistOutcome)
  | advance (i : Nat) (now : ℚ) (fails : Bool)
  | hookThrows (i : Nat)
  | call (c : LedgerCall) (fails : Bool)
  | restart

def CaptureProcess.next (host : Js.Host) (w : CaptureProcess) : CaptureStep → CaptureProcess
  | .start request fresh startedAt fails =>
      let (ledger, run) := CaptureRun.start w.ledger fails request fresh startedAt
      { ledger := ledger, runs := w.runs ++ [run] }
  | .persist i outcome =>
      match w.runs[i]? with
      | some run =>
          if run.stage = .persisting then { w with runs := w.runs.set i (run.persist outcome) }
          else w
      | none => w
  | .advance i now fails =>
      match w.runs[i]? with
      | some run =>
          let (ledger, run) := run.advance w.ledger fails now
          { ledger := ledger, runs := w.runs.set i run }
      | none => w
  | .hookThrows i =>
      match w.runs[i]? with
      | some run =>
          match run.stage with
          | .acknowledging _ => { w with runs := w.runs.set i { run with stage := .threw } }
          | _ => w
      | none => w
  | .call c fails =>
      match w.ledger.exec fails c with
      | .ok ledger => { w with ledger := ledger }
      | .error _ => w
  | .restart =>
      match hydrate host w.ledger.database with
      | .ok memory => { ledger := { w.ledger with memory := memory }, runs := [] }
      | .error _ => w

/-- A first process on a fresh database. -/
def CaptureProcess.empty : CaptureProcess := ⟨.empty, []⟩

end InspectionHub.Capture
