import InspectionHub.Contracts.Commands
import InspectionHub.Domain.Replay

/-!
# The idempotency ledger of commands

`packages/domain/src/idempotency.ts`. A key stands for one request: what is
compared on a later submission is the fingerprint of the whole request (its
type, actor, expected revision and payload), not of the payload alone.
-/

namespace InspectionHub.Domain

open Contracts

structure IdempotencyRecord where
  organizationId : String
  aggregateId : String
  idempotencyKey : String
  requestFingerprint : String
  commandId : String
deriving DecidableEq

structure IdempotencyLedger where
  records : List IdempotencyRecord
deriving DecidableEq

inductive IdempotencyOutcome where
  | accepted
  | replay
deriving DecidableEq

structure IdempotencyDecision where
  outcome : IdempotencyOutcome
  ledger : IdempotencyLedger
  requestFingerprint : String
deriving DecidableEq

def createIdempotencyLedger : IdempotencyLedger := ⟨[]⟩

/-- The property `k` of a parsed command, a string. -/
def textOf (command : JsVal) (k : String) : String := (command.str? k).getD ""

/-- What of a command is fingerprinted. -/
def requestOf (command : JsVal) : JsVal :=
  .obj [("schemaVersion", prop command "schemaVersion"), ("type", prop command "type"),
    ("organizationId", prop command "organizationId"), ("aggregateId", prop command "aggregateId"),
    ("actor", prop command "actor"), ("expectedRevision", prop command "expectedRevision"),
    ("payload", prop command "payload")]

variable (env : Env)

def fingerprintCommand (command : JsVal) : String := sha256 env (requestOf command)

def registerVersionedCommand (ledger : IdempotencyLedger) (input : JsVal) :
    Except DomainError IdempotencyDecision := do
  let command ← parse (commandEnvelopeSchema env.formats input)
  let requestFingerprint := fingerprintCommand env command
  let existing := ledger.records.find? fun record =>
    record.organizationId = textOf command "organizationId" ∧
      record.aggregateId = textOf command "aggregateId" ∧
      record.idempotencyKey = textOf command "idempotencyKey"
  match existing with
  | some existing => do
      require (existing.requestFingerprint = requestFingerprint) "idempotency_key_reused"
        "An idempotency key cannot be reused with a different request fingerprint" []
      return ⟨.replay, ledger, requestFingerprint⟩
  | none =>
      let nextLedger : IdempotencyLedger :=
        ⟨ledger.records ++ [
          { organizationId := textOf command "organizationId"
            aggregateId := textOf command "aggregateId"
            idempotencyKey := textOf command "idempotencyKey"
            requestFingerprint := requestFingerprint
            commandId := textOf command "commandId" }]⟩
      return ⟨.accepted, nextLedger, requestFingerprint⟩

/-! ## Runs -/

/-- The ledger after a submission; one that throws leaves it. -/
def submit (ledger : IdempotencyLedger) (input : JsVal) : IdempotencyLedger :=
  match registerVersionedCommand env ledger input with
  | .ok decision => decision.ledger
  | .error _ => ledger

/-- The ledger after the submissions `inputs`. -/
def ledgerAfter (inputs : List JsVal) : IdempotencyLedger :=
  inputs.foldl (submit env) createIdempotencyLedger

/-! ## Keys -/

def IdempotencyRecord.key (r : IdempotencyRecord) : String × String × String :=
  (r.organizationId, r.aggregateId, r.idempotencyKey)

/-- Organisation, aggregate and trimmed key of what is submitted. -/
def submissionKey (input : JsVal) : String × String × String :=
  (textOf input "organizationId", textOf input "aggregateId",
    Js.trim (textOf input "idempotencyKey"))

/-- The key of a parsed command. -/
def commandKey (command : JsVal) : String × String × String :=
  (textOf command "organizationId", textOf command "aggregateId",
    textOf command "idempotencyKey")

/-- The record that an accepted command leaves. -/
def recordOf (command : JsVal) : IdempotencyRecord where
  organizationId := textOf command "organizationId"
  aggregateId := textOf command "aggregateId"
  idempotencyKey := textOf command "idempotencyKey"
  requestFingerprint := fingerprintCommand env command
  commandId := textOf command "commandId"

/-- The first command submitted under a key, as it was parsed. -/
def firstUnder (inputs : List JsVal) (key : String × String × String) : Option JsVal :=
  inputs.findSome? fun input =>
    (commandEnvelopeSchema env.formats input).toOption.filter fun command =>
      commandKey command = key

variable {env}

variable {input command : JsVal}

/-- A command is known under the trimmed key of its submission. -/
theorem commandKey_eq (h : commandEnvelopeSchema env.formats input = .ok command) :
    commandKey command = submissionKey input := by
  have horg : ("organizationId", idSchema env.formats) ∈ commandFields env.formats := by
    simp [commandFields]
  have haggregate : ("aggregateId", idSchema env.formats) ∈ commandFields env.formats := by
    simp [commandFields]
  obtain ⟨org, hi, hc⟩ := command_id env.formats h horg
  obtain ⟨aggregate, hi', hc'⟩ := command_id env.formats h haggregate
  obtain ⟨key, hi'', hc''⟩ := command_key env.formats h
  simp only [commandKey, submissionKey, textOf, hi, hc, hi', hc', hi'', hc'', Option.getD_some]

/-! ## The same request -/

/-- Two commands ask for the same: type, actor, expected revision and payload
are the same, up to the order of properties. -/
structure SameRequest (c c' : JsVal) : Prop where
  type : Same (prop c "type") (prop c' "type")
  actor : Same (prop c "actor") (prop c' "actor")
  expectedRevision : Same (prop c "expectedRevision") (prop c' "expectedRevision")
  payload : Same (prop c "payload") (prop c' "payload")

theorem prop_of_str? {v : JsVal} {k s : String} (h : v.str? k = some s) : prop v k = .str s := by
  rw [prop, JsVal.get?_of_str? h]
  rfl

/-- Among commands under one key, the request is the four fields. -/
theorem same_requestOf_iff {input input' c c' : JsVal}
    (h : commandEnvelopeSchema env.formats input = .ok c)
    (h' : commandEnvelopeSchema env.formats input' = .ok c') (hkey : commandKey c = commandKey c') :
    Same (requestOf c) (requestOf c') ↔ SameRequest c c' := by
  have version : ∀ {input c : JsVal}, commandEnvelopeSchema env.formats input = .ok c →
      prop c "schemaVersion" = .num (.int 1) := by
    intro input c h
    obtain ⟨x, y, -, hy, hxy⟩ := command_field env.formats h
      (k := "schemaVersion") (s := Schema.literalInt 1) (by simp [commandFields])
    rw [prop, hy, (Schema.literalInt_ok hxy).2]
    rfl
  have identifier : ∀ {input c : JsVal} {k : String}, (k, idSchema env.formats) ∈
      commandFields env.formats → commandEnvelopeSchema env.formats input = .ok c →
      prop c k = .str (textOf c k) := by
    intro input c k hk h
    obtain ⟨s, -, hs⟩ := command_id env.formats h hk
    rw [prop_of_str? hs, textOf, hs]
    rfl
  have horgField : ("organizationId", idSchema env.formats) ∈ commandFields env.formats := by
    simp [commandFields]
  have haggregateField : ("aggregateId", idSchema env.formats) ∈ commandFields env.formats := by
    simp [commandFields]
  have horgText : textOf c "organizationId" = textOf c' "organizationId" := congrArg Prod.fst hkey
  have haggregateText : textOf c "aggregateId" = textOf c' "aggregateId" :=
    congrArg (fun k => k.2.1) hkey
  have horg : prop c "organizationId" = prop c' "organizationId" := by
    rw [identifier horgField h, identifier horgField h', horgText]
  have haggregate : prop c "aggregateId" = prop c' "aggregateId" := by
    rw [identifier haggregateField h, identifier haggregateField h', haggregateText]
  have hversion : prop c "schemaVersion" = prop c' "schemaVersion" := by
    rw [version h, version h']
  have hnodup : ∀ c, (Fields.keys (JsVal.fields (requestOf c))).Nodup := by
    intro c
    simp [requestOf, JsVal.fields, Fields.keys]
  show normalize (.obj (JsVal.fields (requestOf c))) =
    normalize (.obj (JsVal.fields (requestOf c'))) ↔ _
  rw [normalize_obj_eq_iff (hnodup c) (hnodup c')]
  constructor
  · intro hsame
    have field : ∀ k x x', List.lookup k (JsVal.fields (requestOf c)) = some x →
        List.lookup k (JsVal.fields (requestOf c')) = some x' → Same x x' := by
      intro k x x' hx hx'
      have hk := hsame k
      rw [show List.lookup k _ = some x from hx, show List.lookup k _ = some x' from hx'] at hk
      exact Option.some.inj hk
    exact ⟨field "type" _ _ rfl rfl, field "actor" _ _ rfl rfl,
      field "expectedRevision" _ _ rfl rfl, field "payload" _ _ rfl rfl⟩
  · rintro ⟨htype, hactor, hrevision, hpayload⟩ k
    unfold Same at htype hactor hrevision hpayload
    simp only [requestOf, JsVal.fields, List.lookup_cons, List.lookup_nil, hversion, horg,
      haggregate]
    split
    · rfl
    split
    · simp [htype]
    split
    · rfl
    split
    · rfl
    split
    · simp [hactor]
    split
    · simp [hrevision]
    split
    · simp [hpayload]
    · rfl

/-! ## One submission -/

theorem find_existing (ledger : IdempotencyLedger) (command : JsVal) :
    (ledger.records.find? fun record =>
      record.organizationId = textOf command "organizationId" ∧
        record.aggregateId = textOf command "aggregateId" ∧
        record.idempotencyKey = textOf command "idempotencyKey") =
      ledger.records.find? fun record => record.key = commandKey command := by
  congr 1
  funext record
  simp only [IdempotencyRecord.key, commandKey, Prod.mk.injEq]

variable {ledger : IdempotencyLedger} {issues : List Issue}

theorem register_unparsed {input : JsVal}
    (h : commandEnvelopeSchema env.formats input = .error issues) :
    registerVersionedCommand env ledger input = .error (.schema issues) := by
  unfold registerVersionedCommand
  rw [h]
  rfl

theorem register_new (h : commandEnvelopeSchema env.formats input = .ok command)
    (hnone : (ledger.records.find? fun record => record.key = commandKey command) = none) :
    registerVersionedCommand env ledger input =
      .ok ⟨.accepted, ⟨ledger.records ++ [recordOf env command]⟩,
        fingerprintCommand env command⟩ := by
  rw [← find_existing] at hnone
  unfold registerVersionedCommand
  rw [h, show parse (Except.ok command : Parsed JsVal) = .ok command from rfl, bind_of rfl]
  simp only [hnone]
  rfl

theorem register_known {existing : IdempotencyRecord}
    (h : commandEnvelopeSchema env.formats input = .ok command)
    (hsome : (ledger.records.find? fun record => record.key = commandKey command) =
      some existing) :
    registerVersionedCommand env ledger input =
      if existing.requestFingerprint = fingerprintCommand env command then
        .ok ⟨.replay, ledger, fingerprintCommand env command⟩
      else .error (.conflict "idempotency_key_reused"
        "An idempotency key cannot be reused with a different request fingerprint" []) := by
  rw [← find_existing] at hsome
  unfold registerVersionedCommand
  rw [h, show parse (Except.ok command : Parsed JsVal) = .ok command from rfl, bind_of rfl]
  simp only [hsome, require]
  split
  · rfl
  · rfl

theorem submit_unparsed {input : JsVal}
    (h : commandEnvelopeSchema env.formats input = .error issues) :
    submit env ledger input = ledger := by
  rw [submit, register_unparsed h]

theorem submit_new (h : commandEnvelopeSchema env.formats input = .ok command)
    (hnone : (ledger.records.find? fun record => record.key = commandKey command) = none) :
    submit env ledger input = ⟨ledger.records ++ [recordOf env command]⟩ := by
  rw [submit, register_new h hnone]

theorem submit_known {existing : IdempotencyRecord}
    (h : commandEnvelopeSchema env.formats input = .ok command)
    (hsome : (ledger.records.find? fun record => record.key = commandKey command) =
      some existing) : submit env ledger input = ledger := by
  rw [submit, register_known h hsome]
  split <;> rename_i hif <;> split at hif <;> cases hif <;> rfl

/-! ## Sequences of submissions -/

theorem ledgerAfter_concat (inputs : List JsVal) (input : JsVal) :
    ledgerAfter env (inputs ++ [input]) = submit env (ledgerAfter env inputs) input := by
  rw [ledgerAfter, List.foldl_append]
  rfl

variable {inputs : List JsVal}

theorem firstUnder_unparsed {input : JsVal}
    (h : commandEnvelopeSchema env.formats input = .error issues) (key : String × String × String) :
    firstUnder env (inputs ++ [input]) key = firstUnder env inputs key := by
  unfold firstUnder
  rw [List.findSome?_append, List.findSome?_cons, h]
  exact Option.or_none

theorem firstUnder_other {key : String × String × String}
    (h : commandEnvelopeSchema env.formats input = .ok command) (hkey : commandKey command ≠ key) :
    firstUnder env (inputs ++ [input]) key = firstUnder env inputs key := by
  unfold firstUnder
  rw [List.findSome?_append, List.findSome?_cons, h,
    show (Except.ok command : Parsed JsVal).toOption = some command from rfl,
    Option.filter_some_neg (by simpa using hkey)]
  exact Option.or_none

theorem firstUnder_command (h : commandEnvelopeSchema env.formats input = .ok command) :
    firstUnder env (inputs ++ [input]) (commandKey command) =
      (firstUnder env inputs (commandKey command)).or (some command) := by
  unfold firstUnder
  rw [List.findSome?_append, List.findSome?_cons, h,
    show (Except.ok command : Parsed JsVal).toOption = some command from rfl,
    Option.filter_some_pos (by simp)]

/-- The record under a key is that of the first command under it. -/
theorem find_record (inputs : List JsVal) (key : String × String × String) :
    ((ledgerAfter env inputs).records.find? fun record => record.key = key) =
      (firstUnder env inputs key).map (recordOf env) := by
  induction inputs using List.reverseRecOn generalizing key with
  | nil => rfl
  | append_singleton inputs input ih =>
      rw [ledgerAfter_concat]
      cases hparse : commandEnvelopeSchema env.formats input with
      | error issues => rw [submit_unparsed hparse, firstUnder_unparsed hparse, ih]
      | ok command =>
          have hfind := ih (commandKey command)
          cases hfirst : firstUnder env inputs (commandKey command) with
          | none =>
              rw [hfirst] at hfind
              rw [submit_new hparse hfind, List.find?_append, ih]
              by_cases hkey : commandKey command = key
              · subst hkey
                rw [firstUnder_command hparse, hfirst, List.find?_cons_of_pos]
                · rfl
                · exact decide_eq_true rfl
              · have hrecord : ¬ (recordOf env command).key = key := hkey
                rw [firstUnder_other hparse hkey, List.find?_cons_of_neg (by simpa using hrecord)]
                exact Option.or_none
          | some first =>
              rw [hfirst] at hfind
              rw [submit_known hparse hfind, ih]
              by_cases hkey : commandKey command = key
              · subst hkey
                rw [firstUnder_command hparse, hfirst]
                rfl
              · rw [firstUnder_other hparse hkey]

theorem firstUnder_some {key : String × String × String} {first : JsVal}
    (h : firstUnder env inputs key = some first) :
    ∃ input ∈ inputs, commandEnvelopeSchema env.formats input = .ok first ∧
      commandKey first = key := by
  obtain ⟨input, hin, hfirst⟩ := List.exists_of_findSome?_eq_some h
  obtain ⟨hparse, hkey⟩ := Option.filter_eq_some_iff.mp hfirst
  refine ⟨input, hin, ?_, by simpa using hkey⟩
  cases hschema : commandEnvelopeSchema env.formats input with
  | error issues =>
      rw [hschema] at hparse
      cases hparse
  | ok command =>
      rw [hschema] at hparse
      cases hparse
      rfl

/-- What holds of the ledger after any submissions. -/
structure LedgerInv (ledger : IdempotencyLedger) : Prop where
  keys : (ledger.records.map IdempotencyRecord.key).Nodup
  trimmed : ∀ r ∈ ledger.records, Js.trim r.idempotencyKey = r.idempotencyKey

theorem submit_inv (h : LedgerInv ledger) (input : JsVal) :
    LedgerInv (submit env ledger input) := by
  cases hparse : commandEnvelopeSchema env.formats input with
  | error issues => rwa [submit_unparsed hparse]
  | ok command =>
      cases hfind : ledger.records.find? fun record => record.key = commandKey command with
      | some existing => rwa [submit_known hparse hfind]
      | none =>
          rw [submit_new hparse hfind]
          constructor
          · rw [List.map_append, List.map_singleton]
            rw [← List.concat_eq_append]
            refine List.Nodup.concat ?_ h.keys
            intro hmem
            obtain ⟨r, hr, hkey⟩ := List.mem_map.mp hmem
            have hne := List.find?_eq_none.mp hfind r hr
            exact hne (decide_eq_true hkey)
          · intro r hr
            rcases List.mem_append.mp hr with hr | hr
            · exact h.trimmed r hr
            · obtain rfl := List.mem_singleton.mp hr
              obtain ⟨key, -, hkey⟩ := command_key env.formats hparse
              show Js.trim (textOf command "idempotencyKey") = textOf command "idempotencyKey"
              rw [textOf, hkey]
              exact Js.trim_trim key

theorem ledgerAfter_inv (inputs : List JsVal) : LedgerInv (ledgerAfter env inputs) := by
  induction inputs using List.reverseRecOn with
  | nil => exact ⟨List.nodup_nil, by simp [ledgerAfter, createIdempotencyLedger]⟩
  | append_singleton inputs input ih =>
      rw [ledgerAfter_concat]
      exact submit_inv ih input

theorem fingerprint_eq_iff (hsha : Function.Injective env.digest) (c c' : JsVal) :
    fingerprintCommand env c = fingerprintCommand env c' ↔ Same (requestOf c) (requestOf c') := by
  constructor
  · intro h
    exact (canonicalJson_eq_iff _ _).mp (hsha h)
  · intro h
    exact congrArg env.digest ((canonicalJson_eq_iff _ _).mpr h)

/-- **The idempotency ledger.** After any submissions there is at most one
record under a key, and the key is trimmed. A command under a new key is
accepted and recorded; under a key that is taken, the request that took it is
answered as a replay and any other request throws, and the ledger stays. -/
theorem idempotency_ledger (hsha : Function.Injective env.digest) (inputs : List JsVal) :
    ((ledgerAfter env inputs).records.map IdempotencyRecord.key).Nodup ∧
    (∀ r ∈ (ledgerAfter env inputs).records, Js.trim r.idempotencyKey = r.idempotencyKey) ∧
    (∀ input issues, commandEnvelopeSchema env.formats input = .error issues →
      registerVersionedCommand env (ledgerAfter env inputs) input = .error (.schema issues)) ∧
    ∀ input command, commandEnvelopeSchema env.formats input = .ok command →
      (firstUnder env inputs (submissionKey input) = none →
        registerVersionedCommand env (ledgerAfter env inputs) input =
          .ok ⟨.accepted, ⟨(ledgerAfter env inputs).records ++ [recordOf env command]⟩,
            fingerprintCommand env command⟩) ∧
      ∀ first, firstUnder env inputs (submissionKey input) = some first →
        (SameRequest first command →
          registerVersionedCommand env (ledgerAfter env inputs) input =
            .ok ⟨.replay, ledgerAfter env inputs, fingerprintCommand env first⟩) ∧
        (¬ SameRequest first command →
          registerVersionedCommand env (ledgerAfter env inputs) input =
            .error (.conflict "idempotency_key_reused"
              "An idempotency key cannot be reused with a different request fingerprint" []) ∧
          ledgerAfter env (inputs ++ [input]) = ledgerAfter env inputs) := by
  refine ⟨(ledgerAfter_inv inputs).keys, (ledgerAfter_inv inputs).trimmed,
    fun input issues h => register_unparsed h, ?_⟩
  intro input command hparse
  rw [← commandKey_eq hparse]
  have hfind := @find_record env inputs (commandKey command)
  constructor
  · intro hnone
    rw [hnone] at hfind
    exact register_new hparse hfind
  · intro first hfirst
    rw [hfirst] at hfind
    obtain ⟨earlier, -, hearlier, hkey⟩ := firstUnder_some hfirst
    have hsame : fingerprintCommand env first = fingerprintCommand env command ↔
        SameRequest first command := by
      rw [fingerprint_eq_iff hsha, same_requestOf_iff hearlier hparse hkey]
    have hregister := register_known hparse hfind
    rw [show (recordOf env first).requestFingerprint = fingerprintCommand env first from rfl]
      at hregister
    constructor
    · intro hrequest
      have hprint := hsame.mpr hrequest
      rw [hregister, if_pos hprint, hprint]
    · intro hrequest
      refine ⟨?_, ?_⟩
      · rw [hregister, if_neg fun hprint => hrequest (hsame.mp hprint)]
      · rw [ledgerAfter_concat, submit_known hparse hfind]

/-! ## Two revisions under one key -/

namespace Revised

def host : Env where
  formats := ⟨fun _ => true, fun _ => true⟩
  digest text := text
  issuesText _ := ""
  toInteger _ := none

def withdrawal (expectedRevision : Int) (key : String) : JsVal :=
  .obj [("schemaVersion", (1 : Int)), ("commandId", .str "10000000-0000-4000-8000-000000000001"),
    ("organizationId", .str "10000000-0000-4000-8000-000000000002"),
    ("aggregateId", .str "10000000-0000-4000-8000-000000000003"),
    ("actor", .obj
      [("type", .str "inspector"), ("id", .str "10000000-0000-4000-8000-000000000004")]),
    ("expectedRevision", expectedRevision), ("idempotencyKey", .str key),
    ("occurredAt", .str "2026-07-14T08:00:00.000Z"), ("type", .str "module.withdraw.v1"),
    ("payload", .obj [("snapshotId", .str "10000000-0000-4000-8000-000000000005"),
      ("reason", .str "Wrong dwelling")])]

theorem parsed_first : commandEnvelopeSchema host.formats (withdrawal 4 "key-1") =
    .ok (withdrawal 4 "key-1") := by decide +kernel

theorem first_under (key : String × String × String)
    (hkey : commandKey (withdrawal 4 "key-1") = key) :
    firstUnder host [withdrawal 4 "key-1"] key = some (withdrawal 4 "key-1") := by
  subst hkey
  exact @firstUnder_command host _ _ [] parsed_first

/-- A payload submitted again under its key throws when the revision that is
expected has moved. -/
theorem revised_payload_conflicts :
    ∃ first input command, firstUnder host [first] (submissionKey input) = some first ∧
      commandEnvelopeSchema host.formats input = .ok command ∧
      prop first "payload" = prop command "payload" ∧
      registerVersionedCommand host (ledgerAfter host [first]) input =
        .error (.conflict "idempotency_key_reused"
          "An idempotency key cannot be reused with a different request fingerprint" []) := by
  have hparse : commandEnvelopeSchema host.formats (withdrawal 5 " key-1 ") =
      .ok (withdrawal 5 "key-1") := by decide +kernel
  have hkey : commandKey (withdrawal 4 "key-1") = commandKey (withdrawal 5 "key-1") := by
    decide +kernel
  have hfirst := first_under _ hkey
  have hrecord := @find_record host [withdrawal 4 "key-1"] (commandKey (withdrawal 5 "key-1"))
  rw [hfirst] at hrecord
  have hprint : fingerprintCommand host (withdrawal 4 "key-1") ≠
      fingerprintCommand host (withdrawal 5 "key-1") := by
    intro hprint
    have hsame := (same_requestOf_iff parsed_first hparse hkey).mp
      ((fingerprint_eq_iff (fun _ _ h => h) _ _).mp hprint)
    exact absurd ((canonicalJson_eq_iff _ _).mpr hsame.expectedRevision) (by decide +kernel)
  rw [commandKey_eq hparse] at hfirst
  exact ⟨_, _, _, hfirst, hparse, by decide +kernel,
    (register_known hparse hrecord).trans (if_neg hprint)⟩

theorem idempotency_ledger_revised :
    registerVersionedCommand host (ledgerAfter host [withdrawal 4 "key-1"])
        (withdrawal 4 " key-1 ") =
      .ok ⟨.replay, ledgerAfter host [withdrawal 4 "key-1"],
        fingerprintCommand host (withdrawal 4 "key-1")⟩ := by
  obtain ⟨-, -, -, hcommand⟩ :=
    @idempotency_ledger host (fun _ _ h => h) [withdrawal 4 "key-1"]
  obtain ⟨-, hknown⟩ :=
    hcommand (withdrawal 4 " key-1 ") (withdrawal 4 "key-1") (by decide +kernel)
  exact (hknown (withdrawal 4 "key-1") (first_under _ (by decide +kernel))).1
    ⟨rfl, rfl, rfl, rfl⟩

end Revised

end InspectionHub.Domain
