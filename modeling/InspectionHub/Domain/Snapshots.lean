import InspectionHub.Contracts.Snapshots

/-!
# Content hashes of module snapshots

The errors of the domain package, its `sha256` over canonical JSON, and the
check that a snapshot carries the hash of its own content.
-/

namespace InspectionHub.Domain

open Contracts

/-- What the domain package takes from outside. -/
structure Env where
  formats : Formats
  /-- `createHash("sha256").update(text).digest("hex")`. -/
  digest : String → String
  /-- `error.message` of the validation library's error. -/
  issuesText : List Issue → String
  /-- The integer a value that is no number becomes in arithmetic, if any. -/
  toInteger : JsVal → Option Int

/-- The errors a domain operation throws. -/
inductive DomainError where
  /-- `DomainConflictError`. -/
  | conflict (code message : String) (details : Fields)
  /-- `EventIntegrityError`; `none` where the index computed is no integer. -/
  | integrity (message : String) (eventIndex : Option Int)
  /-- The validation library's error. -/
  | schema (issues : List Issue)
  /-- `TypeError`. -/
  | type (message : String)
deriving DecidableEq

variable (env : Env)

/-- `sha256(value)`. -/
def sha256 (v : JsVal) : String := env.digest (canonicalJson v)

/-- `schema.parse(value)`. -/
def parse {α : Type} (r : Parsed α) : Except DomainError α := r.mapError .schema

/-- Throw unless `p`. -/
def require (p : Prop) [Decidable p] (code message : String) (details : Fields) :
    Except DomainError Unit :=
  if p then .ok () else .error (.conflict code message details)

/-- The content of a parsed snapshot, as the schema of its module parses it. -/
def snapshotInput (fmt : Formats) (parsed : JsVal) : Parsed JsVal :=
  let input := JsVal.obj (parsed.fields.erase "canonicalHash")
  if input.str? "module" = some "building" then buildingModuleSnapshotInputSchema fmt input
  else timberPestModuleSnapshotInputSchema fmt input

/-- `verifyModuleSnapshotHash(snapshot)`. -/
def verifyModuleSnapshotHash (snapshot : JsVal) : Except DomainError Bool := do
  let parsed ← parse (moduleSnapshotSchema env.formats snapshot)
  let validInput ← parse (snapshotInput env.formats parsed)
  return sha256 env validInput = parsed.str? "canonicalHash"

/-! ## Peeling computations apart -/

theorem bind_ok {ε α β : Type} {x : Except ε α} {f : α → Except ε β} {b : β}
    (h : (x >>= f) = .ok b) : ∃ a, x = .ok a ∧ f a = .ok b := by
  cases x with
  | error e => cases h
  | ok a => exact ⟨a, rfl, h⟩

theorem require_ok {p : Prop} [Decidable p] {code message : String} {details : Fields} {u : Unit}
    (h : require p code message details = .ok u) : p := by
  unfold require at h
  split at h
  · assumption
  · cases h

theorem require_of {p : Prop} [Decidable p] (h : p) (code message : String) (details : Fields) :
    require p code message details = .ok () := if_pos h

/-- Past a step that returned. -/
theorem bind_of {ε α β : Type} {x : Except ε α} {a : α} (h : x = .ok a) (f : α → Except ε β) :
    (x >>= f) = f a := by
  rw [h]
  rfl

theorem parse_ok {α : Type} {r : Parsed α} {a : α} (h : parse r = .ok a) : r = .ok a := by
  cases r with
  | error e => cases h
  | ok b =>
      cases h
      rfl

/-- A snapshot verifies when its content hashes to what it carries. -/
theorem verify_of {env : Env} {snapshot input : JsVal}
    (hparsed : moduleSnapshotSchema env.formats snapshot = .ok snapshot)
    (hinput : snapshotInput env.formats snapshot = .ok input)
    (hhash : snapshot.str? "canonicalHash" = some (sha256 env input)) :
    verifyModuleSnapshotHash env snapshot = .ok true := by
  have hcheck : verifyModuleSnapshotHash env snapshot =
      .ok (decide (some (sha256 env input) = snapshot.str? "canonicalHash")) := by
    unfold verifyModuleSnapshotHash
    rw [hparsed]
    show (parse (snapshotInput env.formats snapshot) >>= fun _ => _) = _
    rw [hinput]
    rfl
  rw [hcheck, hhash, decide_eq_true rfl]

end InspectionHub.Domain
