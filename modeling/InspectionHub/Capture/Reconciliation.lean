import InspectionHub.Capture.SqliteLedger

/-!
# Reconciling files with the ledger

`apps/mobile/src/storage/reconciliation.ts`: what the native module finds on
disk at startup is compared with the intents and artifacts of a hydrated
ledger. No call of the ledger is failed by the storage here: one that is stops
the reconciliation, and what it wrote by then is a run of ledger calls.
-/

namespace InspectionHub.Capture

/-- A `DurableArtifact` without its lane. -/
structure ObservedFinalFile where
  byteLength : ℚ
  captureId : String
  directorySync : DirectorySync
  fileUri : String
  sha256 : String
deriving DecidableEq

inductive Integrity where
  | corrupt
  | hash_mismatch
  | valid
deriving DecidableEq

def Integrity.text : Integrity → String
  | .corrupt => "corrupt"
  | .hash_mismatch => "hash_mismatch"
  | .valid => "valid"

structure FinalFileObservation where
  artifact : ObservedFinalFile
  integrity : Integrity
deriving DecidableEq

structure PartialFileObservation where
  captureId : String
  fileUri : String
deriving DecidableEq

inductive ReconciliationAction where
  | adopted_final (captureId : String)
  | discard_pending_intent (captureId : String)
  | ledger_missing_final (captureId : String)
  | quarantine_final (captureId reason : String)
  | quarantine_partial (captureId reason : String)
  | resume_acknowledgement (captureId : String)
deriving DecidableEq

structure ReconciliationResult where
  actions : List ReconciliationAction
  evidenceAtRisk : List String
deriving DecidableEq

def artifactIdentityMatches (left : DurableArtifact) (right : ObservedFinalFile) : Prop :=
  left.captureId = right.captureId ∧ left.byteLength = right.byteLength ∧
    left.fileUri = right.fileUri ∧ left.sha256 = right.sha256

instance (left : DurableArtifact) (right : ObservedFinalFile) :
    Decidable (artifactIdentityMatches left right) :=
  inferInstanceAs (Decidable (_ ∧ _))

def uploadLane : CaptureKind → UploadLane
  | .photo => .photo_upload
  | .voice => .voice_upload

def durableArtifactFromObservation (observed : ObservedFinalFile) (kind : CaptureKind) :
    DurableArtifact where
  byteLength := observed.byteLength
  captureId := observed.captureId
  directorySync := observed.directorySync
  fileUri := observed.fileUri
  queueLane := uploadLane kind
  sha256 := observed.sha256

/-- A `Map` made from a list holds the last entry of each key. -/
def lastOf {α : Type} (key : α → String) (l : List α) (captureId : String) : Option α :=
  l.reverse.find? fun a => key a = captureId

/-- `set.add(value)`. -/
def addTo (values : List String) (value : String) : List String :=
  if value ∈ values then values else values ++ [value]

/-- The ledger, the actions and the captures at risk so far. -/
structure Reconciling where
  ledger : SQLiteLedger
  actions : List ReconciliationAction
  evidenceAtRisk : List String

namespace Reconciling

variable (r : Reconciling)

/-- `actions.push(...)`. -/
def report (actions : List ReconciliationAction) : Reconciling :=
  { r with actions := r.actions ++ actions }

/-- `await ledger.markIntent(captureId, state, code)` and the actions after it. -/
def mark (captureId : String) (state : CaptureIntentState) (code : Option String)
    (actions : List ReconciliationAction) : Except LedgerError Reconciling := do
  let ledger ← r.ledger.markIntent false captureId state code
  return { r with ledger := ledger }.report actions

def atRisk (captureId : String) : Reconciling :=
  { r with evidenceAtRisk := addTo r.evidenceAtRisk captureId }

end Reconciling

/-- The body of the loop over the intents. -/
def reconcileIntent (finals : List FinalFileObservation) (partials : List PartialFileObservation)
    (r : Reconciling) (intent : CaptureIntent) : Except LedgerError Reconciling :=
  let id := intent.captureId
  let observedPartial := lastOf (·.captureId) partials id
  let ledgerArtifact := r.ledger.memory.artifacts.get? id
  match lastOf (·.artifact.captureId) finals id with
  | some observedFinal =>
      if observedFinal.integrity ≠ .valid then do
        let r ← r.mark id .evidence_at_risk (some observedFinal.integrity.text)
          [.quarantine_final id observedFinal.integrity.text]
        return r.atRisk id
      else
        match ledgerArtifact with
        | none => do
            let ledger ← r.ledger.commitDurableCapture false id
              (durableArtifactFromObservation observedFinal.artifact intent.kind)
            { r with ledger := ledger }.mark id .acknowledged none [.adopted_final id]
        | some artifact =>
            if ¬ artifactIdentityMatches artifact observedFinal.artifact then do
              let r ← r.mark id .evidence_at_risk (some "ledger_identity_mismatch")
                [.quarantine_final id "ledger_identity_mismatch"]
              return r.atRisk id
            else if intent.state ≠ .acknowledged then
              r.mark id .acknowledged none [.resume_acknowledgement id]
            else .ok r
  | none =>
      match observedPartial, ledgerArtifact with
      | some _, some _ => do
          let r ← r.mark id .evidence_at_risk (some "final_missing_partial_present")
            [ReconciliationAction.quarantine_partial id "publication_incomplete", .ledger_missing_final id]
          return r.atRisk id
      | some _, none =>
          r.mark id .quarantined (some "publication_incomplete")
            [ReconciliationAction.quarantine_partial id "publication_incomplete"]
      | none, some _ => do
          let r ← r.mark id .evidence_at_risk (some "final_missing") [.ledger_missing_final id]
          return r.atRisk id
      | none, none =>
          r.mark id .failed (some "no_file_residue") [.discard_pending_intent id]

/-- A final of no intent. -/
def reconcileForeignFinal (intentIds : List String) (r : Reconciling)
    (observedFinal : FinalFileObservation) : Reconciling :=
  let captureId := observedFinal.artifact.captureId
  if captureId ∈ intentIds then r
  else (r.report [.quarantine_final captureId "missing_recovery_intent"]).atRisk captureId

/-- A partial of no intent. -/
def reconcileForeignPartial (intentIds : List String) (r : Reconciling)
    (observedPartial : PartialFileObservation) : Reconciling :=
  if observedPartial.captureId ∈ intentIds then r
  else r.report [ReconciliationAction.quarantine_partial observedPartial.captureId "missing_recovery_intent"]

def reconcileCaptureStorage (ledger : SQLiteLedger) (finals : List FinalFileObservation)
    (partials : List PartialFileObservation) :
    Except LedgerError (SQLiteLedger × ReconciliationResult) := do
  let intents := ledger.memory.intents.values
  let intentIds := intents.map (·.captureId)
  let r ← intents.foldlM (reconcileIntent finals partials) ⟨ledger, [], []⟩
  let r := finals.foldl (reconcileForeignFinal intentIds) r
  let r := partials.foldl (reconcileForeignPartial intentIds) r
  return (r.ledger, ⟨r.actions, r.evidenceAtRisk⟩)

/-- A restart: a fresh ledger is hydrated from the database and reconciled. -/
def recover (host : Js.Host) (db : Database) (finals : List FinalFileObservation)
    (partials : List PartialFileObservation) :
    Except LedgerError (SQLiteLedger × ReconciliationResult) := do
  let memory ← hydrate host db
  reconcileCaptureStorage ⟨db, memory⟩ finals partials

end InspectionHub.Capture
