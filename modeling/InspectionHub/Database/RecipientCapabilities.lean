import InspectionHub.Database.ApprovalChain

/-!
# Recipient capabilities

`recipient_grants` of `20260714000300_u2_reports_continuity.sql` and
`has_recipient_capability` of `20260714000400_u2_integrity_and_rls.sql`. A grant
binds one delivered report version, which is of one module, and names one module
or two; the trigger asks that the version's is among them. The capability looks
for its module among those of the grant and not at the version's, so it is sound
in exactly the runs in which no usable grant names another module
(`capabilities_sound_iff`).
-/

namespace InspectionHub.Database

open Domain (ModuleType)

/-! ## Rows -/

inductive GrantAction where
  | read | download_pdf | view_media | share
deriving DecidableEq

def GrantAction.text : GrantAction → String
  | .read => "read"
  | .download_pdf => "download_pdf"
  | .view_media => "view_media"
  | .share => "share"

structure RecipientGrant where
  id : Uuid
  organizationId : Uuid
  principalActorId : Uuid
  jobId : Uuid
  deliveredReportVersionId : Uuid
  permittedModules : List ModuleType
  permittedActions : List GrantAction
  expiresAt : Int
  issuedAt : Int
  invitationId : Uuid

/-- `primary key (id)`, `unique (invitation_id)` -/
def RecipientGrant.clash (a b : RecipientGrant) : Prop :=
  a.id = b.id ∨ a.invitationId = b.invitationId

/-- The check constraints of `recipient_grants`. -/
def RecipientGrant.checked (g : RecipientGrant) : Bool :=
  g.issuedAt < g.expiresAt && 1 ≤ g.permittedModules.length && g.permittedModules.length ≤ 2 &&
    0 < g.permittedActions.length

structure RecipientGrantRevocation where
  id : Uuid
  organizationId : Uuid
  grantId : Uuid
  reason : String

/-- `primary key (id)`, `unique (organization_id, grant_id)` -/
def RecipientGrantRevocation.clash (a b : RecipientGrantRevocation) : Prop :=
  a.id = b.id ∨ (a.organizationId = b.organizationId ∧ a.grantId = b.grantId)

instance : DecidableRel RecipientGrant.clash := fun _ _ => inferInstanceAs (Decidable (_ ∨ _))
instance : DecidableRel RecipientGrantRevocation.clash :=
  fun _ _ => inferInstanceAs (Decidable (_ ∨ _))

/-- The store with the grants, and the time of its last statement. -/
structure GrantStore extends ModuleStore where
  recipientGrants : Sql.Table RecipientGrant RecipientGrant.clash
  recipientGrantRevocations : Sql.Table RecipientGrantRevocation RecipientGrantRevocation.clash
  clock : Int

namespace GrantStore

variable (db : GrantStore)

/-! ## Granting -/

/-- `u2_validate_recipient_grant` -/
def validateRecipientGrant (g : RecipientGrant) : Except Sql.Error Unit := do
  let reportRow? := db.reportVersions.rows.find? fun r =>
    r.id = g.deliveredReportVersionId ∧ r.organizationId = g.organizationId
  Sql.raiseIf (reportRow?.all fun reportRow =>
      reportRow.jobId ≠ g.jobId ∨ reportRow.moduleType ∉ g.permittedModules) "23514"
    "recipient grant must bind its exact job, delivered report version and module"

/-- What a grant must pass but for its keys. -/
def checkGrant (g : RecipientGrant) : Except Sql.Error Unit := do
  db.validateRecipientGrant g
  Sql.raiseIf (¬ g.checked) "23514" "recipient_grants"
  Sql.raiseIf (¬ db.hasJob g.jobId g.organizationId) "23503" "recipient_grants"

/-- `insert into recipient_grants` -/
def insertGrant (g : RecipientGrant) : Except Sql.Error GrantStore := do
  db.checkGrant g
  let next ← db.recipientGrants.insert "recipient_grants" g
  return { db with recipientGrants := next.1 }

/-- `insert into recipient_grant_revocations` -/
def insertRevocation (rv : RecipientGrantRevocation) : Except Sql.Error GrantStore := do
  Sql.raiseIf (¬ trimmedWithin 1 1000 rv.reason) "23514" "recipient_grant_revocations"
  let next ← db.recipientGrantRevocations.insert "recipient_grant_revocations" rv
  Sql.raiseIf (¬ ∃ g ∈ db.recipientGrants.rows, g.id = rv.grantId ∧
      g.organizationId = rv.organizationId) "23503" "recipient_grant_revocations"
  return { db with recipientGrantRevocations := next.1 }

/-! ## The capability -/

/-- `exists (select 1 from recipient_grant_revocations rv where rv.grant_id = g.id)` -/
def isRevoked (g : RecipientGrant) : Bool :=
  db.recipientGrantRevocations.rows.any fun rv => rv.grantId = g.id

/-- The module's snapshot in the report version was withdrawn. -/
def isWithdrawn (r : ReportVersion) : Bool :=
  db.moduleWithdrawals.rows.any fun w => w.moduleId = r.moduleId ∧ w.snapshotId = r.moduleSnapshotId

/-- `has_recipient_capability`, asked by `actorId` at `now`. -/
def hasRecipientCapability (now : Int) (actorId organizationId jobId reportVersionId : Option Uuid)
    (module action : Option String) : Bool :=
  (Sql.join (fun g r => r.id = g.deliveredReportVersionId ∧ r.organizationId = g.organizationId)
    db.recipientGrants.rows db.reportVersions.rows).any fun (g, r) =>
      organizationId = some g.organizationId ∧ jobId = some g.jobId ∧
        reportVersionId = some g.deliveredReportVersionId ∧ actorId = some g.principalActorId ∧
        module ∈ g.permittedModules.map (fun m => some m.text) ∧
        action ∈ g.permittedActions.map (fun a => some a.text) ∧ now < g.expiresAt ∧
        db.isRevoked g = false ∧ db.isWithdrawn r = false

end GrantStore

/-! ## Runs -/

inductive GrantStep where
  /-- A step on the tables of modules. -/
  | modules (step : ModuleStore.ModuleStep)
  | grant (g : RecipientGrant)
  | revoke (rv : RecipientGrantRevocation)
  /-- Time passes. -/
  | tick (now : Int)

namespace GrantStore

section

variable (columnSize : JsVal → Nat) (sha256 : String → String)

def outcome (db : GrantStore) : GrantStep → Except Sql.Error GrantStore
  | .modules step => .ok { db with
      toModuleStore := db.toModuleStore.perform columnSize sha256 step }
  | .grant g => db.insertGrant g
  | .revoke rv => db.insertRevocation rv
  | .tick now => .ok { db with clock := max db.clock now }

/-- A raised error rolls the step back. -/
def perform (db : GrantStore) (step : GrantStep) : GrantStore :=
  match outcome columnSize sha256 db step with
  | .ok db' => db'
  | .error _ => db

end

def empty : GrantStore where
  toModuleStore := .empty
  recipientGrants := .empty
  recipientGrantRevocations := .empty
  clock := 0

/-! ## Soundness -/

/-- The caller holds a grant for the report version that permits the action, neither expired nor
revoked; the version is the organisation's, of the job and of the module, and was not
withdrawn. -/
def Holds (db : GrantStore) (now : Int) (actorId organizationId jobId reportVersionId : Option Uuid)
    (module action : Option String) : Prop :=
  ∃ g ∈ db.recipientGrants.rows, ∃ r ∈ db.reportVersions.rows,
    actorId = some g.principalActorId ∧ now < g.expiresAt ∧ db.isRevoked g = false ∧
      g.deliveredReportVersionId = r.id ∧ (∃ a ∈ g.permittedActions, action = some a.text) ∧
      reportVersionId = some r.id ∧ organizationId = some r.organizationId ∧
      jobId = some r.jobId ∧ module = some r.moduleType.text ∧ db.isWithdrawn r = false

/-- Whatever is asked from now on, the capability is backed by such a grant. -/
def CapabilitiesSound (db : GrantStore) : Prop :=
  ∀ now, db.clock ≤ now → ∀ actorId organizationId jobId reportVersionId module action,
    db.hasRecipientCapability now actorId organizationId jobId reportVersionId module action =
      true → db.Holds now actorId organizationId jobId reportVersionId module action

/-- The grant can be used for the report version and names another module than its own. -/
def Wide (db : GrantStore) (g : RecipientGrant) (r : ReportVersion) : Prop :=
  r.id = g.deliveredReportVersionId ∧ r.organizationId = g.organizationId ∧
    db.clock < g.expiresAt ∧ db.isWithdrawn r = false ∧ ∃ m ∈ g.permittedModules, m ≠ r.moduleType

/-- A grant that is accepted and wide. -/
def Widens (db : GrantStore) : GrantStep → Prop
  | .grant g => db.checkGrant g = .ok () ∧ (∀ b ∈ db.recipientGrants.rows, ¬ b.clash g) ∧
      ∃ r ∈ db.reportVersions.rows, db.Wide g r
  | _ => False

/-! ## The invariant -/

/-- What the trigger and the keys leave of every grant. -/
structure Granted (db : GrantStore) : Prop where
  report : ∀ g ∈ db.recipientGrants.rows, ∃ r ∈ db.reportVersions.rows,
    r.id = g.deliveredReportVersionId ∧ r.organizationId = g.organizationId ∧ r.jobId = g.jobId
  actions : ∀ g ∈ db.recipientGrants.rows, g.permittedActions ≠ []
  revocations : ∀ rv ∈ db.recipientGrantRevocations.rows,
    ∃ g ∈ db.recipientGrants.rows, g.id = rv.grantId

/-- No grant that is not revoked is wide. -/
def Exact (db : GrantStore) : Prop :=
  ∀ g ∈ db.recipientGrants.rows, db.isRevoked g = false →
    ∀ r ∈ db.reportVersions.rows, ¬ db.Wide g r

variable {columnSize : JsVal → Nat} {sha256 : String → String} {db db' : GrantStore}

theorem Granted.empty : Granted empty where
  report := fun _ h => absurd h List.not_mem_nil
  actions := fun _ h => absurd h List.not_mem_nil
  revocations := fun _ h => absurd h List.not_mem_nil

theorem report_eq_of_id {r s : ReportVersion} (hr : r ∈ db.reportVersions.rows)
    (hs : s ∈ db.reportVersions.rows) (h : r.id = s.id) : r = s :=
  db.reportVersions.eq_of_key (f := ReportVersion.id) (fun _ _ heq => .inl heq) hr hs h

theorem text_injective : Function.Injective ModuleType.text := by
  intro a b h
  cases a <;> cases b <;> first | rfl | exact absurd h (by decide)

theorem hasRecipientCapability_iff {now : Int}
    {actorId organizationId jobId reportVersionId : Option Uuid} {module action : Option String} :
    db.hasRecipientCapability now actorId organizationId jobId reportVersionId module action =
      true ↔ ∃ g ∈ db.recipientGrants.rows, ∃ r ∈ db.reportVersions.rows,
        (r.id = g.deliveredReportVersionId ∧ r.organizationId = g.organizationId) ∧
          organizationId = some g.organizationId ∧ jobId = some g.jobId ∧
          reportVersionId = some g.deliveredReportVersionId ∧ actorId = some g.principalActorId ∧
          (∃ m ∈ g.permittedModules, module = some m.text) ∧
          (∃ a ∈ g.permittedActions, action = some a.text) ∧ now < g.expiresAt ∧
          db.isRevoked g = false ∧ db.isWithdrawn r = false := by
  unfold hasRecipientCapability
  rw [List.any_eq_true]
  constructor
  · rintro ⟨⟨g, r⟩, hpair, hcondition⟩
    obtain ⟨hg, hr, hon⟩ := Sql.mem_join.mp hpair
    obtain ⟨horganization, hjob, hreport, hactor, hmodule, haction, hrest⟩ :=
      of_decide_eq_true hcondition
    obtain ⟨m, hm, hmodule⟩ := List.mem_map.mp hmodule
    obtain ⟨a, ha, haction⟩ := List.mem_map.mp haction
    exact ⟨g, hg, r, hr, of_decide_eq_true hon, horganization, hjob, hreport, hactor,
      ⟨m, hm, hmodule.symm⟩, ⟨a, ha, haction.symm⟩, hrest⟩
  · rintro ⟨g, hg, r, hr, hon, horganization, hjob, hreport, hactor, ⟨m, hm, hmodule⟩,
      ⟨a, ha, haction⟩, hrest⟩
    refine ⟨(g, r), Sql.mem_join.mpr ⟨hg, hr, decide_eq_true hon⟩, decide_eq_true
      ⟨horganization, hjob, hreport, hactor, ?_, ?_, hrest⟩⟩
    · exact List.mem_map.mpr ⟨m, hm, hmodule.symm⟩
    · exact List.mem_map.mpr ⟨a, ha, haction.symm⟩

/-- The capability is sound exactly if no grant that is not revoked is wide. -/
theorem capabilitiesSound_iff (hdb : Granted db) : CapabilitiesSound db ↔ Exact db := by
  constructor
  · rintro hsound g hg hrevoked r hr ⟨hid, horganization, hexpires, hwithdrawn, m, hm, hother⟩
    obtain ⟨s, hs, hsid, -, hjob⟩ := hdb.report g hg
    obtain rfl := report_eq_of_id hs hr (hsid.trans hid.symm)
    obtain ⟨a, ha⟩ := List.exists_mem_of_ne_nil _ (hdb.actions g hg)
    obtain ⟨-, -, r, hr', -, -, -, -, -, hreport, -, -, hmodule, -⟩ :=
      hsound db.clock (Int.le_refl _) (some g.principalActorId) (some g.organizationId)
        (some g.jobId) (some g.deliveredReportVersionId) (some m.text) (some a.text)
        (hasRecipientCapability_iff.mpr ⟨g, hg, s, hs, ⟨hid, horganization⟩, rfl, rfl, rfl, rfl,
          ⟨m, hm, rfl⟩, ⟨a, ha, rfl⟩, hexpires, hrevoked, hwithdrawn⟩)
    obtain rfl := report_eq_of_id hr' hs (hid.trans (Option.some.inj hreport)).symm
    exact hother (text_injective (Option.some.inj hmodule))
  · intro hexact now hnow actorId organizationId jobId reportVersionId module action hcapability
    obtain ⟨g, hg, r, hr, ⟨hid, horganization⟩, rfl, rfl, rfl, rfl, ⟨m, hm, rfl⟩, haction,
      hexpires, hrevoked, hwithdrawn⟩ := hasRecipientCapability_iff.mp hcapability
    obtain ⟨s, hs, hsid, -, hjob⟩ := hdb.report g hg
    obtain rfl := report_eq_of_id hs hr (hsid.trans hid.symm)
    have hmodule : m = s.moduleType := by
      by_contra hother
      exact hexact g hg hrevoked s hs
        ⟨hid, horganization, Int.lt_of_le_of_lt hnow hexpires, hwithdrawn, m, hm, hother⟩
    refine ⟨g, hg, s, hs, rfl, hexpires, hrevoked, hid.symm, haction, ?_, ?_, ?_, ?_, hwithdrawn⟩
    · rw [hid]
    · rw [horganization]
    · rw [hjob]
    · rw [hmodule]

/-! ## One step -/

/-- The reports and the withdrawals that were there are there afterwards. -/
theorem perform_modules (columnSize : JsVal → Nat) (sha256 : String → String) (store : ModuleStore)
    (step : ModuleStore.ModuleStep) :
    (∀ r ∈ store.reportVersions.rows,
      r ∈ (store.perform columnSize sha256 step).reportVersions.rows) ∧
    ∀ w ∈ store.moduleWithdrawals.rows,
      w ∈ (store.perform columnSize sha256 step).moduleWithdrawals.rows := by
  have hchange := ModuleStore.perform_change columnSize sha256 store step
  revert hchange
  generalize (store.perform columnSize sha256 step).toModuleTables = after
  intro hchange
  cases hchange with
  | drafted new hsnapshots hmodules hrest =>
      rw [hrest.2.1, hrest.2.2]
      exact ⟨fun _ h => h, fun _ h => h⟩
  | approved a hbinds hrows hrest =>
      rw [hrest]
      exact ⟨fun _ h => h, fun _ h => h⟩
  | withdrew w hwithdraws hrows hrest =>
      rw [hrows]
      refine ⟨fun r hr => ?_, fun w hw => List.mem_append_left _ hw⟩
      rw [hrest]
      exact hr
  | reported r hcurrent hcleared hsupersedes hrows hrest =>
      rw [hrows]
      refine ⟨fun r hr => List.mem_append_left _ hr, fun w hw => ?_⟩
      rw [hrest]
      exact hw

variable {g : RecipientGrant}

/-- The trigger and the checks on a grant. -/
theorem checkGrant_ok (h : db.checkGrant g = .ok ()) :
    (∃ r ∈ db.reportVersions.rows, r.id = g.deliveredReportVersionId ∧
      r.organizationId = g.organizationId ∧ r.jobId = g.jobId) ∧ g.permittedActions ≠ [] := by
  obtain ⟨⟨⟩, hvalid, h⟩ := Sql.bind_ok h
  obtain ⟨hchecked, -⟩ := Sql.check_ok h
  have hbound := Sql.raiseIf_ok hvalid
  constructor
  · cases hfind : db.reportVersions.rows.find? fun r =>
        r.id = g.deliveredReportVersionId ∧ r.organizationId = g.organizationId with
    | none =>
        rw [hfind] at hbound
        exact absurd rfl hbound
    | some r =>
        rw [hfind] at hbound
        have hkeys := List.find?_some hfind
        obtain ⟨hid, horganization⟩ := of_decide_eq_true hkeys
        refine ⟨r, List.mem_of_find?_eq_some hfind, hid, horganization, ?_⟩
        by_contra hjob
        exact hbound (decide_eq_true (.inl hjob))
  · rintro hnil
    apply hchecked
    simp [RecipientGrant.checked, hnil]

/-- An accepted grant is one row more. -/
theorem insertGrant_ok (h : db.insertGrant g = .ok db') :
    db.checkGrant g = .ok () ∧ (∀ b ∈ db.recipientGrants.rows, ¬ b.clash g) ∧
      ∃ t : Sql.Table RecipientGrant RecipientGrant.clash,
        t.rows = db.recipientGrants.rows ++ [g] ∧ db' = { db with recipientGrants := t } := by
  obtain ⟨⟨⟩, hchecked, h⟩ := Sql.bind_ok h
  obtain ⟨next, hinsert, hdone⟩ := Sql.bind_ok h
  cases hdone
  exact ⟨hchecked, Sql.Table.insert_ok hinsert, next.1, next.2, rfl⟩

theorem insertRevocation_ok {rv : RecipientGrantRevocation} (h : db.insertRevocation rv = .ok db') :
    (∃ g ∈ db.recipientGrants.rows, g.id = rv.grantId) ∧
      ∃ t : Sql.Table RecipientGrantRevocation RecipientGrantRevocation.clash,
        t.rows = db.recipientGrantRevocations.rows ++ [rv] ∧
          db' = { db with recipientGrantRevocations := t } := by
  obtain ⟨-, h⟩ := Sql.check_ok h
  obtain ⟨next, -, h⟩ := Sql.bind_ok h
  obtain ⟨hgrant, hdone⟩ := Sql.check_ok h
  cases hdone
  obtain ⟨g, hg, hid, -⟩ := not_not.mp hgrant
  exact ⟨⟨g, hg, hid⟩, next.1, next.2, rfl⟩

theorem perform_granted (hdb : Granted db) (step : GrantStep) :
    Granted (db.perform columnSize sha256 step) := by
  unfold perform
  split
  case h_2 => exact hdb
  next db' h =>
  cases step with
  | modules step =>
      cases h
      refine ⟨fun g hg => ?_, hdb.actions, hdb.revocations⟩
      obtain ⟨r, hr, hkeys⟩ := hdb.report g hg
      exact ⟨r, (perform_modules columnSize sha256 db.toModuleStore step).1 r hr, hkeys⟩
  | grant g =>
      obtain ⟨hchecked, -, t, hrows, rfl⟩ := insertGrant_ok h
      obtain ⟨hreport, hactions⟩ := checkGrant_ok hchecked
      refine ⟨fun b hb => ?_, fun b hb => ?_, fun rv hrv => ?_⟩
      · change b ∈ t.rows at hb
        rw [hrows, List.mem_append, List.mem_singleton] at hb
        rcases hb with hold | rfl
        · exact hdb.report b hold
        · exact hreport
      · change b ∈ t.rows at hb
        rw [hrows, List.mem_append, List.mem_singleton] at hb
        rcases hb with hold | rfl
        · exact hdb.actions b hold
        · exact hactions
      · obtain ⟨b, hb, hid⟩ := hdb.revocations rv hrv
        refine ⟨b, ?_, hid⟩
        change b ∈ t.rows
        rw [hrows]
        exact List.mem_append_left _ hb
  | revoke rv =>
      obtain ⟨hgrant, t, hrows, rfl⟩ := insertRevocation_ok h
      refine ⟨hdb.report, hdb.actions, fun other hother => ?_⟩
      change other ∈ t.rows at hother
      rw [hrows, List.mem_append, List.mem_singleton] at hother
      rcases hother with hold | rfl
      · exact hdb.revocations other hold
      · exact hgrant
  | tick now =>
      cases h
      exact ⟨hdb.report, hdb.actions, hdb.revocations⟩

/-- No grant is revoked before it is there. -/
theorem Granted.not_revoked (hdb : Granted db)
    (hfresh : ∀ b ∈ db.recipientGrants.rows, ¬ b.clash g) : db.isRevoked g = false := by
  refine Bool.eq_false_iff.mpr fun hrevoked => ?_
  obtain ⟨rv, hrv, hgrant⟩ := List.any_eq_true.mp hrevoked
  obtain ⟨b, hb, hid⟩ := hdb.revocations rv hrv
  exact hfresh b hb (.inl (hid.trans (of_decide_eq_true hgrant)))

/-- A step leaves no usable grant wide exactly if it inserts none that is. -/
theorem exact_perform_iff (hdb : Granted db) (hexact : Exact db) (step : GrantStep) :
    Exact (db.perform columnSize sha256 step) ↔ ¬ Widens db step := by
  cases step with
  | modules step =>
      refine iff_of_true ?_ id
      rintro g hg hrevoked r hr ⟨hid, horganization, hexpires, hwithdrawn, hother⟩
      obtain ⟨hreports, hwithdrawals⟩ := perform_modules columnSize sha256 db.toModuleStore step
      obtain ⟨s, hs, hsid, -⟩ := hdb.report g hg
      have hs' := hreports s hs
      obtain rfl := report_eq_of_id hs' hr (hsid.trans hid.symm)
      refine hexact g hg hrevoked s hs ⟨hid, horganization, hexpires, ?_, hother⟩
      refine Bool.eq_false_iff.mpr fun hbefore => ?_
      obtain ⟨w, hw, hkeys⟩ := List.any_eq_true.mp hbefore
      exact Bool.eq_false_iff.mp hwithdrawn (List.any_eq_true.mpr ⟨w, hwithdrawals w hw, hkeys⟩)
  | grant g =>
      constructor
      · rintro hafter ⟨hchecked, hfresh, r, hr, hwide⟩
        unfold perform outcome insertGrant at hafter
        dsimp only at hafter
        rw [Sql.bind_of hchecked, Sql.bind_of (Sql.Table.insert_of hfresh _)] at hafter
        exact hafter g (List.mem_append_right _ (List.mem_singleton_self g))
          (hdb.not_revoked hfresh) r hr hwide
      · intro hnot
        unfold perform
        split
        case h_2 => exact hexact
        next db' h =>
        obtain ⟨hchecked, hfresh, t, hrows, rfl⟩ := insertGrant_ok h
        intro b hb hrevoked r hr hwide
        change b ∈ t.rows at hb
        rw [hrows, List.mem_append, List.mem_singleton] at hb
        rcases hb with hold | rfl
        · exact hexact b hold hrevoked r hr hwide
        · exact hnot ⟨hchecked, hfresh, r, hr, hwide⟩
  | revoke rv =>
      refine iff_of_true ?_ id
      unfold perform
      split
      case h_2 => exact hexact
      next db' h =>
      obtain ⟨-, t, hrows, rfl⟩ := insertRevocation_ok h
      intro g hg hrevoked r hr hwide
      refine hexact g hg (Bool.eq_false_iff.mpr fun hbefore => ?_) r hr hwide
      obtain ⟨other, hother, hgrant⟩ := List.any_eq_true.mp hbefore
      refine Bool.eq_false_iff.mp hrevoked (List.any_eq_true.mpr ⟨other, ?_, hgrant⟩)
      change other ∈ t.rows
      rw [hrows]
      exact List.mem_append_left _ hother
  | tick now =>
      refine iff_of_true ?_ id
      rintro g hg hrevoked r hr ⟨hid, horganization, hexpires, hrest⟩
      exact hexact g hg hrevoked r hr
        ⟨hid, horganization, Int.lt_of_le_of_lt (Int.le_max_left _ _) hexpires, hrest⟩

/-- **Sound.** Throughout a run every capability is backed by a grant for exactly its report
version, module and action, exactly if no grant that is inserted can be used for a module other
than its version's. -/
theorem capabilities_sound_iff (columnSize : JsVal → Nat) (sha256 : String → String)
    (l : List GrantStep) :
    (∀ before after, l = before ++ after →
      CapabilitiesSound (before.foldl (perform columnSize sha256) empty)) ↔
      ∀ before step after, l = before ++ step :: after →
        ¬ Widens (before.foldl (perform columnSize sha256) empty) step := by
  refine TSys.throughout_iff (perform columnSize sha256) Granted CapabilitiesSound
    (fun db step => ¬ Widens db step) (fun _ step hdb => perform_granted hdb step)
    (fun db step hdb hsound => ?_) Granted.empty ?_ l
  · rw [capabilitiesSound_iff (perform_granted hdb step)]
    exact exact_perform_iff hdb ((capabilitiesSound_iff hdb).mp hsound) step
  · exact (capabilitiesSound_iff Granted.empty).mpr fun _ h => absurd h List.not_mem_nil

/-! ## A grant for two modules -/

namespace Widened

open ModuleStore.Withdrawn (tenant job reportId contentHash)

def recipient : Uuid := ⟨"22222222-0000-0000-0000-000000000001", by decide⟩

/-- A grant for the building report that names both modules. -/
def both : RecipientGrant where
  id := ⟨"eeee0000-0000-0000-0000-000000000001", by decide⟩
  organizationId := tenant
  principalActorId := recipient
  jobId := job
  deliveredReportVersionId := reportId
  permittedModules := [.building, .timber_pest]
  permittedActions := [.read]
  expiresAt := 3600000000
  issuedAt := 0
  invitationId := ⟨"eeee1000-0000-0000-0000-000000000001", by decide⟩

/-- The report is made as before, and the grant. -/
def steps : List GrantStep :=
  (ModuleStore.Withdrawn.steps.take 6).map GrantStep.modules ++ [.grant both]

def final : GrantStore := steps.foldl (perform (fun _ => 0) fun _ => contentHash) empty

/-- The recipient has the timber pest report, which the version is not. -/
theorem final_answers :
    final.hasRecipientCapability 0 (some recipient) (some tenant) (some job) (some reportId)
      (some "timber_pest") (some "read") = true ∧
    final.reportVersions.rows.all (fun r => decide (r.moduleType = .building)) = true ∧
    final.clock = 0 := by
  decide +kernel

/-- A capability is answered for a module the report version is not of. -/
theorem answers_other_module : ¬ ∀ (columnSize : JsVal → Nat) (sha256 : String → String)
    (l before after : List GrantStep), l = before ++ after →
      CapabilitiesSound (before.foldl (perform columnSize sha256) empty) := by
  intro hall
  have hsound : CapabilitiesSound final :=
    hall (fun _ => 0) (fun _ => contentHash) steps steps [] (List.append_nil _).symm
  obtain ⟨hanswer, hbuilding, hclock⟩ := final_answers
  obtain ⟨-, -, r, hr, -, -, -, -, -, -, -, -, hmodule, -⟩ :=
    hsound 0 (Int.le_of_eq hclock) _ _ _ _ _ _ hanswer
  have htype := of_decide_eq_true (List.all_eq_true.mp hbuilding r hr)
  rw [htype] at hmodule
  exact absurd (Option.some.inj hmodule) (by decide)

end Widened

end GrantStore

end InspectionHub.Database
