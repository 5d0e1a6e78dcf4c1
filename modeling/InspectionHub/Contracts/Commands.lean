import InspectionHub.Contracts.Common

/-!
# Command contracts

`packages/contracts/src/commands.ts`: the envelope of a versioned command and
the payload of each type. The idempotency key is trimmed; so are the texts of
some payloads.
-/

namespace InspectionHub.Contracts

open Schema

variable (fmt : Formats)

/-- `CommandFields`. -/
def commandFields : List (String × Schema) :=
  [("schemaVersion", literalInt 1), ("commandId", idSchema fmt), ("organizationId", idSchema fmt),
    ("aggregateId", idSchema fmt), ("actor", actorSchema fmt),
    ("expectedRevision", int nonnegative), ("idempotencyKey", trimmedText 300),
    ("occurredAt", timestampSchema fmt)]

/-- The schema of the commands of a type. -/
def commandSchema (type : String) (payload : Schema) : String × Schema :=
  (type, strictObject (commandFields fmt ++ [("type", literal type), ("payload", payload)]))

def createModuleSnapshotCommandSchema : String × Schema :=
  commandSchema fmt "module.snapshot.create.v1"
    (strictObject [("snapshotId", idSchema fmt), ("module", moduleTypeSchema)])

def approveModuleCommandSchema : String × Schema :=
  commandSchema fmt "module.approve.v1"
    (strictObject [("snapshotId", idSchema fmt), ("snapshotHash", sha256Schema)])

def withdrawModuleCommandSchema : String × Schema :=
  commandSchema fmt "module.withdraw.v1"
    (strictObject [("snapshotId", idSchema fmt), ("reason", nonEmptyTextSchema)])

def markEvidenceAtRiskCommandSchema : String × Schema :=
  commandSchema fmt "module.evidence_at_risk.v1"
    (strictObject [("artifactIds", array (idSchema fmt) nonEmpty),
      ("reason", literal "device_lost_before_server_durability")])

def amendReportCommandSchema : String × Schema :=
  commandSchema fmt "report.amend.v1"
    (strictObject [("priorSnapshotId", idSchema fmt), ("replacementSnapshotId", idSchema fmt),
      ("reason", nonEmptyTextSchema)])

def confirmDeliveryPackageCommandSchema : String × Schema :=
  commandSchema fmt "delivery.package.confirm.v1" (strictObject [("packageId", idSchema fmt)])

def revokeRecipientGrantCommandSchema : String × Schema :=
  commandSchema fmt "recipient.grant.revoke.v1"
    (strictObject [("grantId", idSchema fmt), ("reason", nonEmptyTextSchema)])

def suppressLifecycleCommandSchema : String × Schema :=
  commandSchema fmt "lifecycle.suppress.v1"
    (strictObject [("resourceId", idSchema fmt),
      ("reason", enum ["retained_professional_reference", "professional_hold", "dispute_hold",
        "tenant_offboarding", "restore_reconciliation"]),
      ("referenceIds", array (idSchema fmt) nonEmpty)])

def commandEnvelopeSchema : Schema :=
  discriminatedUnion "type"
    [createModuleSnapshotCommandSchema fmt, approveModuleCommandSchema fmt,
      withdrawModuleCommandSchema fmt, markEvidenceAtRiskCommandSchema fmt,
      amendReportCommandSchema fmt, confirmDeliveryPackageCommandSchema fmt,
      revokeRecipientGrantCommandSchema fmt, suppressLifecycleCommandSchema fmt]

/-! ## What parsing a command keeps -/

theorem commandFields_nodup (type : String) (payload : Schema) :
    ((commandFields fmt ++ [("type", literal type), ("payload", payload)]).map Prod.fst).Nodup := by
  simp [commandFields]

variable {v w : JsVal}

/-- A parsed command was parsed by the schema of some type. -/
theorem commandEnvelope_ok (h : commandEnvelopeSchema fmt v = .ok w) :
    ∃ type payload, (commandSchema fmt type payload).2 v = .ok w := by
  obtain ⟨tag, s, -, hs, hsv⟩ := discriminatedUnion_ok h
  simp only [List.mem_cons, List.not_mem_nil, or_false] at hs
  rcases hs with hs | hs | hs | hs | hs | hs | hs | hs
  all_goals
    obtain rfl := congrArg Prod.snd hs
    exact ⟨_, _, hsv⟩

/-- A field of every command that is checked as it stands. -/
theorem command_field (h : commandEnvelopeSchema fmt v = .ok w) {k : String} {s : Schema}
    (hk : (k, s) ∈ commandFields fmt) :
    ∃ x y, v.get? k = some x ∧ w.get? k = some y ∧ s x = .ok y := by
  obtain ⟨type, payload, hv⟩ := commandEnvelope_ok fmt h
  exact strictObject_get (commandFields_nodup fmt type payload) hv (List.mem_append_left _ hk)

theorem idSchema_ok (h : idSchema fmt v = .ok w) : ∃ s, v = .str s ∧ w = .str s := by
  obtain ⟨s, rfl⟩ := string_ok h
  exact ⟨s, rfl, exact_id fmt _ _ h⟩

/-- An identifier of a parsed command is the one that was submitted. -/
theorem command_id (h : commandEnvelopeSchema fmt v = .ok w) {k : String}
    (hk : (k, idSchema fmt) ∈ commandFields fmt) : ∃ s, v.str? k = some s ∧ w.str? k = some s := by
  obtain ⟨x, y, hx, hy, hxy⟩ := command_field fmt h hk
  obtain ⟨s, rfl, rfl⟩ := idSchema_ok fmt hxy
  exact ⟨s, by rw [JsVal.str?, hx], by rw [JsVal.str?, hy]⟩

/-- The idempotency key of a parsed command is trimmed. -/
theorem command_key (h : commandEnvelopeSchema fmt v = .ok w) :
    ∃ s, v.str? "idempotencyKey" = some s ∧ w.str? "idempotencyKey" = some (Js.trim s) := by
  have hk : ("idempotencyKey", trimmedText 300) ∈ commandFields fmt := by simp [commandFields]
  obtain ⟨x, y, hx, hy, hxy⟩ := command_field fmt h hk
  obtain ⟨s, rfl, rfl⟩ := trimmedText_ok hxy
  exact ⟨s, by rw [JsVal.str?, hx], by rw [JsVal.str?, hy]⟩

end InspectionHub.Contracts
