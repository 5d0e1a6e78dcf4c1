import InspectionHub.RecipientAccess.Runs

/-!
# Grants pass on less than they have

A shared grant holds no more than the grant it was shared from, and a shared
grant shares nothing further. The first passes through the invitation, which is
held to the inviter's scope from the moment it is stored; the second is why
lineages are one step long.
-/

namespace InspectionHub.RecipientAccess

variable {env : Surroundings} {s t : State}

/-! ## Attenuation -/

/-- What was passed on lies within what there was, save the right to pass on. -/
structure Attenuates (env : Surroundings) (parent child : Scope) : Prop where
  report : child.organizationId = parent.organizationId ∧ child.jobId = parent.jobId ∧
    child.reportVersionId = parent.reportVersionId
  modules : child.permittedModules ⊆ parent.permittedModules
  actions : ∀ action ∈ child.permittedActions,
    action ∈ parent.permittedActions ∧ action ≠ .invite_recipient
  expiry : ∃ childEnds ∈ env.host.dateParse child.expiresAt,
    ∃ parentEnds ∈ env.host.dateParse parent.expiresAt, childEnds ≤ parentEnds

/-- `Date.parse` compares nothing with `NaN`; both ends being dates, it compares. -/
theorem Offered.attenuates {inviter offered : Scope} (h : Offered env inviter offered)
    (hfinite : ∃ time, env.host.dateParse inviter.expiresAt = some time) :
    Attenuates env inviter offered where
  report := h.report
  modules := h.modules
  actions := h.actions
  expiry := by
    obtain ⟨childEnds, hchild⟩ := h.finite
    obtain ⟨parentEnds, hparent⟩ := hfinite
    refine ⟨childEnds, hchild, parentEnds, hparent, ?_⟩
    by_contra hlater
    exact h.notAfter ⟨childEnds, hchild, parentEnds, hparent, lt_of_not_ge hlater⟩

theorem Attenuates.of_unique {parent child stored : Scope} (h : Attenuates env parent child)
    (hstored : stored = { child with
      permittedModules := unique child.permittedModules
      permittedActions := unique child.permittedActions }) : Attenuates env parent stored := by
  subst hstored
  exact {
    report := h.report
    modules := fun module hmodule => h.modules (mem_unique.mp hmodule)
    actions := fun action haction => h.actions action (mem_unique.mp haction)
    expiry := h.expiry }

/-! ## What holds of every state -/

/-- A scope lies within that of a stored grant that has no parent. -/
def Anchored (env : Surroundings) (s : State) (parentGrantId : String) (scope : Scope) : Prop :=
  ∃ parent, s.grants.get? parentGrantId = some parent ∧ parent.parentGrantId = none ∧
    Attenuates env parent.toScope scope

structure Rooted (env : Surroundings) (s : State) : Prop where
  drawn : ∀ id grant, s.grants.get? id = some grant → ∃ n < s.tokens, id = env.token "grant" n
  finite : ∀ id grant, s.grants.get? id = some grant →
    ∃ time, env.host.dateParse grant.expiresAt = some time
  grant : ∀ id grant parentGrantId, s.grants.get? id = some grant →
    grant.parentGrantId = some parentGrantId → Anchored env s parentGrantId grant.toScope
  invitation : ∀ id invitation, s.invitations.get? id = some invitation →
    Anchored env s invitation.inviterGrantId invitation.toScope

/-- Grants stay, with the scope and the parent they have. -/
def KeepsLineage (s t : State) : Prop :=
  ∀ id grant, s.grants.get? id = some grant →
    ∃ grant', t.grants.get? id = some grant' ∧ grant'.toScope = grant.toScope ∧
      grant'.parentGrantId = grant.parentGrantId ∧
        (grant.status = .revoked → grant'.status = .revoked)

theorem KeepsLineage.of_eq (h : t.grants = s.grants) : KeepsLineage s t :=
  fun _ grant hgrant => ⟨grant, h ▸ hgrant, rfl, rfl, id⟩

variable {scope : Scope}

theorem Anchored.kept {parentGrantId : String} (h : Anchored env s parentGrantId scope)
    (hkeeps : KeepsLineage s t) : Anchored env t parentGrantId scope := by
  obtain ⟨parent, hparent, hroot, hwithin⟩ := h
  obtain ⟨parent', hparent', hscope, hlineage, -⟩ := hkeeps _ parent hparent
  exact ⟨parent', hparent', hlineage.trans hroot, hscope ▸ hwithin⟩

/-- A grant that may invite has no parent. -/
theorem Rooted.inviter_root (h : Rooted env s) {id : String} {inviter : RecipientGrant}
    (hstored : s.grants.get? id = some inviter)
    (hinvites : .invite_recipient ∈ inviter.permittedActions) : inviter.parentGrantId = none := by
  rw [Option.eq_none_iff_forall_ne_some]
  intro parentGrantId hparent
  obtain ⟨parent, -, -, hwithin⟩ := h.grant id inviter parentGrantId hstored hparent
  exact (hwithin.actions _ hinvites).2 rfl

/-! ## What a step preserves -/

/-- No two grants are given the same id. -/
def FreshGrants (env : Surroundings) : Prop :=
  ∀ i j, env.token "grant" i = env.token "grant" j → i = j

/-- A newly drawn id is no stored grant's. -/
theorem Rooted.unused (h : Rooted env s) (hfresh : FreshGrants env) {n : Nat}
    (hn : s.tokens ≤ n) : s.grants.get? (env.token "grant" n) = none := by
  rw [Option.eq_none_iff_forall_ne_some]
  intro grant hgrant
  obtain ⟨m, hm, hid⟩ := h.drawn _ grant hgrant
  have hsame := hfresh n m hid
  omega

theorem keepsLineage_of_puts {grant : RecipientGrant} (hputs : PutsGrant grant s t)
    (hnew : s.grants.get? grant.grantId = none) : KeepsLineage s t := by
  intro id old hold
  have hne : id ≠ grant.grantId := by
    rintro rfl
    exact absurd (hnew.symm.trans hold) (Option.some_ne_none old).symm
  refine ⟨old, ?_, rfl, rfl, fun hrevoked => hrevoked⟩
  rw [hputs.grants, Table.get?_put_of_ne _ _ hne]
  exact hold

/-- A grant found after a `put` is the one put or was there before. -/
theorem PutsGrant.found {grant found : RecipientGrant} {id : String} (hputs : PutsGrant grant s t)
    (h : t.grants.get? id = some found) :
    (id = grant.grantId ∧ found = grant) ∨ s.grants.get? id = some found := by
  rw [hputs.grants, Table.get?_put] at h
  by_cases hid : id = grant.grantId
  · rw [if_pos hid] at h
    exact .inl ⟨hid, (Option.some_inj.mp h).symm⟩
  · rw [if_neg hid] at h
    exact .inr h

theorem PutsInvitation.found {invitation found : ShareInvitation} {id : String}
    (hputs : PutsInvitation invitation s t) (h : t.invitations.get? id = some found) :
    found = invitation ∨ s.invitations.get? id = some found := by
  rw [hputs.invitations, Table.get?_put] at h
  by_cases hid : id = invitation.invitationId
  · rw [if_pos hid] at h
    exact .inl (Option.some_inj.mp h).symm
  · rw [if_neg hid] at h
    exact .inr h

/-- An invitation is put whose scope lies within a stored root's. -/
theorem Rooted.puts_invitation (h : Rooted env s) {invitation : ShareInvitation}
    (hputs : PutsInvitation invitation s t)
    (hanchored : Anchored env s invitation.inviterGrantId invitation.toScope) : Rooted env t where
  drawn id grant hgrant := by
    obtain ⟨n, hn, hid⟩ := h.drawn id grant (hputs.grants ▸ hgrant)
    exact ⟨n, lt_of_lt_of_le hn hputs.tokens, hid⟩
  finite id grant hgrant := h.finite id grant (hputs.grants ▸ hgrant)
  grant id grant parentGrantId hgrant hparent :=
    (h.grant id grant parentGrantId (hputs.grants ▸ hgrant) hparent).kept (.of_eq hputs.grants)
  invitation id found hfound := by
    rcases hputs.found hfound with rfl | hold
    · exact hanchored.kept (.of_eq hputs.grants)
    · exact (h.invitation id found hold).kept (.of_eq hputs.grants)

variable {parentGrantId : Option String}

theorem Rooted.stores_keep (h : Rooted env s) (hfresh : FreshGrants env) {grant : RecipientGrant}
    (hstores : Stores env scope parentGrantId grant s t) : KeepsLineage s t := by
  obtain ⟨n, hn, -, hid⟩ := hstores.drawn
  refine keepsLineage_of_puts hstores.puts ?_
  rw [hid]
  exact h.unused hfresh hn

/-- A grant is stored under a new id. -/
theorem Rooted.stores (h : Rooted env s) (hfresh : FreshGrants env) {grant : RecipientGrant}
    (hstores : Stores env scope parentGrantId grant s t)
    (hfinite : ∃ time, env.host.dateParse scope.expiresAt = some time)
    (hanchored : ∀ parent, parentGrantId = some parent → Anchored env s parent scope) :
    Rooted env t := by
  obtain ⟨n, hn, hlt, hid⟩ := hstores.drawn
  have hkeeps := h.stores_keep hfresh hstores
  refine ⟨?_, ?_, ?_, ?_⟩
  · intro id found hfound
    rcases hstores.puts.found hfound with ⟨rfl, -⟩ | hold
    · exact ⟨n, hlt, hid⟩
    · obtain ⟨m, hm, hdrawn⟩ := h.drawn id found hold
      exact ⟨m, by omega, hdrawn⟩
  · intro id found hfound
    rcases hstores.puts.found hfound with ⟨-, rfl⟩ | hold
    · rw [hstores.scope]
      exact hfinite
    · exact h.finite id found hold
  · intro id found parent hfound hparent
    rcases hstores.puts.found hfound with ⟨-, rfl⟩ | hold
    · rw [hstores.parent] at hparent
      obtain ⟨root, hroot, hnone, hwithin⟩ := (hanchored parent hparent).kept hkeeps
      exact ⟨root, hroot, hnone, hwithin.of_unique hstores.scope⟩
    · exact (h.grant id found parent hold hparent).kept hkeeps
  · intro id found hfound
    rw [hstores.puts.invitations] at hfound
    exact (h.invitation id found hfound).kept hkeeps

/-- A grant is revoked in place. -/
theorem keepsLineage_of_revoke {grant revoked : RecipientGrant}
    (hstored : s.grants.get? grant.grantId = some grant)
    (hscope : revoked.toScope = grant.toScope) (hid : revoked.grantId = grant.grantId)
    (hparent : revoked.parentGrantId = grant.parentGrantId) (hstatus : revoked.status = .revoked)
    (hputs : PutsGrant revoked s t) : KeepsLineage s t := by
  intro id old hold
  rw [hputs.grants, Table.get?_put]
  by_cases hsame : id = revoked.grantId
  · rw [if_pos hsame]
    rw [hsame, hid] at hold
    obtain rfl := Option.some_inj.mp (hstored.symm.trans hold)
    exact ⟨revoked, rfl, hscope, hparent, fun _ => hstatus⟩
  · rw [if_neg hsame]
    exact ⟨old, hold, rfl, rfl, fun hrevoked => hrevoked⟩

theorem Rooted.revokes (h : Rooted env s) {grant revoked : RecipientGrant}
    (hstored : s.grants.get? grant.grantId = some grant)
    (hscope : revoked.toScope = grant.toScope) (hid : revoked.grantId = grant.grantId)
    (hparent : revoked.parentGrantId = grant.parentGrantId) (hstatus : revoked.status = .revoked)
    (hputs : PutsGrant revoked s t) : Rooted env t := by
  -- Whatever is found afterwards was found before, up to the status.
  have hback : ∀ id found, t.grants.get? id = some found → ∃ old,
      s.grants.get? id = some old ∧ found.toScope = old.toScope ∧
        found.parentGrantId = old.parentGrantId := by
    intro id found hfound
    rcases hputs.found hfound with ⟨rfl, rfl⟩ | hold
    · exact ⟨grant, hid ▸ hstored, hscope, hparent⟩
    · exact ⟨found, hold, rfl, rfl⟩
  have hkeeps := keepsLineage_of_revoke hstored hscope hid hparent hstatus hputs
  refine ⟨?_, ?_, ?_, ?_⟩
  · intro id found hfound
    obtain ⟨old, hold, -, -⟩ := hback id found hfound
    obtain ⟨n, hn, hdrawn⟩ := h.drawn id old hold
    exact ⟨n, lt_of_lt_of_le hn hputs.tokens, hdrawn⟩
  · intro id found hfound
    obtain ⟨old, hold, hscope', -⟩ := hback id found hfound
    rw [hscope']
    exact h.finite id old hold
  · intro id found parent hfound hfoundParent
    obtain ⟨old, hold, hscope', hparent'⟩ := hback id found hfound
    rw [hscope']
    exact (h.grant id old parent hold (hparent'.symm.trans hfoundParent)).kept hkeeps
  · intro id found hfound
    rw [hputs.invitations] at hfound
    exact (h.invitation id found hfound).kept hkeeps

theorem Rooted.kept (h : Rooted env s) (hkeeps : KeepsGrants s t) : Rooted env t where
  drawn id grant hgrant := by
    obtain ⟨n, hn, hid⟩ := h.drawn id grant (hkeeps.grants ▸ hgrant)
    exact ⟨n, lt_of_lt_of_le hn hkeeps.tokens, hid⟩
  finite id grant hgrant := h.finite id grant (hkeeps.grants ▸ hgrant)
  grant id grant parentGrantId hgrant hparent :=
    (h.grant id grant parentGrantId (hkeeps.grants ▸ hgrant) hparent).kept (.of_eq hkeeps.grants)
  invitation id invitation hinvitation :=
    (h.invitation id invitation (hkeeps.invitations ▸ hinvitation)).kept (.of_eq hkeeps.grants)

theorem Anchored.finite {parentGrantId : String} (h : Anchored env s parentGrantId scope) :
    ∃ time, env.host.dateParse scope.expiresAt = some time := by
  obtain ⟨_, _, _, hwithin⟩ := h
  obtain ⟨ends, hends, -⟩ := hwithin.expiry
  exact ⟨ends, hends⟩

/-- **Step lemma.** Each effect keeps every grant and invitation within a root. -/
theorem Rooted.effect (h : Rooted env s) (hfresh : FreshGrants env) (heffect : Effect env s t) :
    Rooted env t := by
  cases heffect with
  | quiet keeps => exact h.kept keeps
  | issue scope grant stores finite =>
      exact h.stores hfresh stores finite fun _ hnone => nomatch hnone
  | invite inviter invitation stored action offered puts =>
      exact h.puts_invitation puts ⟨inviter, stored, h.inviter_root stored action,
        offered.attenuates (h.finite _ inviter stored)⟩
  | resolve invitation resolved stored resolves puts =>
      refine h.puts_invitation puts ?_
      rw [resolves.scope, resolves.inviter]
      exact h.invitation _ invitation stored
  | redeem invitation resolved grant u stored resolves puts stores =>
      have hanchored := h.invitation _ invitation stored
      have hmarked : Rooted env u := by
        refine h.puts_invitation puts ?_
        rw [resolves.scope, resolves.inviter]
        exact hanchored
      refine hmarked.stores hfresh stores hanchored.finite ?_
      intro parent hparent
      obtain rfl := Option.some_inj.mp hparent
      exact hanchored.kept (.of_eq puts.grants)
  | revoke grant revoked stored scope grantId parent status puts =>
      exact h.revokes stored scope grantId parent status puts

/-- Whatever happens, grants stay. -/
theorem Rooted.effect_keeps (h : Rooted env s) (hfresh : FreshGrants env)
    (heffect : Effect env s t) : KeepsLineage s t := by
  cases heffect with
  | quiet keeps => exact .of_eq keeps.grants
  | issue scope grant stores finite => exact h.stores_keep hfresh stores
  | invite inviter invitation stored action offered puts => exact .of_eq puts.grants
  | resolve invitation resolved stored resolves puts => exact .of_eq puts.grants
  | redeem invitation resolved grant u stored resolves puts stores =>
      have hmarked : Rooted env u := by
        refine h.puts_invitation puts ?_
        rw [resolves.scope, resolves.inviter]
        exact h.invitation _ invitation stored
      have hkeeps := hmarked.stores_keep hfresh stores
      rw [KeepsLineage, puts.grants] at hkeeps
      exact hkeeps
  | revoke grant revoked stored scope grantId parent status puts =>
      exact keepsLineage_of_revoke stored scope grantId parent status puts

theorem rooted_empty : Rooted env .empty where
  drawn _ _ h := nomatch h
  finite _ _ h := nomatch h
  grant _ _ _ h := nomatch h
  invitation _ _ h := nomatch h

theorem rooted (hfresh : FreshGrants env) :
    (service env).Inductive TSys.any fun w => Rooted env w.state where
  init := by
    rintro _ rfl
    exact rooted_empty
  step := by
    rintro w call _ hrooted - rfl
    exact hrooted.effect hfresh (perform_effect call w)

/-! ## The lineage -/

/-- `parent` is the parent of `child`. -/
def ParentOf (s : State) (child parent : String) : Prop :=
  ∃ grant, s.grants.get? child = some grant ∧ grant.parentGrantId = some parent

/-- A parent has no parent. -/
theorem Rooted.parent_root (h : Rooted env s) {child parent grandparent : String}
    (hparent : ParentOf s child parent) : ¬ ParentOf s parent grandparent := by
  obtain ⟨grant, hgrant, hlineage⟩ := hparent
  obtain ⟨root, hroot, hnone, -⟩ := h.grant child grant parent hgrant hlineage
  rintro ⟨found, hfound, hgrandparent⟩
  obtain rfl := Option.some_inj.mp (hroot.symm.trans hfound)
  rw [hnone] at hgrandparent
  cases hgrandparent

/-- Ancestors are parents. -/
theorem Rooted.ancestor (h : Rooted env s) {child ancestor : String}
    (hancestor : Relation.TransGen (ParentOf s) child ancestor) : ParentOf s child ancestor := by
  induction hancestor with
  | single hparent => exact hparent
  | tail _ hnext ih => exact absurd hnext (h.parent_root ih)

/-- A walk from a grant of depth at most one is over after one round. -/
theorem assertLineage_budget {seen : List String}
    (hroot : ∀ id parent, parentGrantId = some id → s.grants.get? id = some parent →
      parent.parentGrantId = none) (budget : Nat) :
    assertLineage env (budget + 1) seen parentGrantId s =
      assertLineage env 1 seen parentGrantId s := by
  cases parentGrantId with
  | none => rfl
  | some id =>
      refine Tx.bind_congr fun _ s₁ hseen => ?_
      obtain ⟨-, rfl⟩ := Tx.throwIf_returned hseen
      refine Tx.bind_congr fun parent s₂ hparent => ?_
      obtain ⟨hfound, rfl⟩ := requireGrant_ok hparent
      rw [hroot id parent rfl hfound]
      -- What is left of the walk starts at no grant.
      refine Tx.bind_congr fun _ s₃ _ => Tx.bind_congr fun _ s₄ _ => Tx.bind_congr fun _ s₅ _ => ?_
      cases budget <;> rfl

/-- **Attenuation.** Whatever was called, in whatever order: a grant with a parent
lies within it, no lineage is longer than one step, and the walk along it ends
within one round however many it may take. -/
theorem grants_attenuate (hfresh : FreshGrants env) {w : World}
    (h : (service env).Reachable TSys.any w) :
    (∀ id child parentGrantId, w.state.grants.get? id = some child →
      child.parentGrantId = some parentGrantId →
      ∃ parent, w.state.grants.get? parentGrantId = some parent ∧
        Attenuates env parent.toScope child.toScope) ∧
    (∀ child parent grandparent, ParentOf w.state child parent →
      ¬ ParentOf w.state parent grandparent) ∧
    (∀ id, ¬ Relation.TransGen (ParentOf w.state) id id) ∧
    ∀ id grant t budget, w.state.grants.get? id = some grant → t.grants = w.state.grants →
      assertLineage env (budget + 1) [grant.grantId] grant.parentGrantId t =
        assertLineage env 1 [grant.grantId] grant.parentGrantId t := by
  have hrooted := (rooted hfresh).invariant h
  refine ⟨?_, fun _ _ _ hparent => hrooted.parent_root hparent, ?_, ?_⟩
  · intro id child parentGrantId hchild hparent
    obtain ⟨parent, hstored, -, hwithin⟩ := hrooted.grant id child parentGrantId hchild hparent
    exact ⟨parent, hstored, hwithin⟩
  · intro id hcycle
    have hself := hrooted.ancestor hcycle
    exact hrooted.parent_root hself hself
  · intro id grant t budget hgrant hsame
    refine assertLineage_budget ?_ budget
    intro parentGrantId parent hlineage hparent
    rw [hsame] at hparent
    obtain ⟨root, hroot, hnone, -⟩ := hrooted.grant id grant parentGrantId hgrant hlineage
    obtain rfl := Option.some_inj.mp (hroot.symm.trans hparent)
    exact hnone

namespace Sample

/-- Tokens are told apart by their length, times read as written. -/
def surroundings : Surroundings where
  host := {
    dateParse := fun text =>
      if text = "soon" then some 500 else if text = "later" then some 1000 else none
    toISOString := fun _ => "now"
    localeCompare := compare }
  lower := id
  clock n := n
  token kind n := kind ++ String.ofList (List.replicate n '.')
  otp _ := "000000"
  digest := id

theorem freshGrants : FreshGrants surroundings := by
  intro i j h
  have hlength := congrArg String.length h
  simp only [surroundings, String.length_append, String.length_ofList,
    List.length_replicate] at hlength
  omega

def owner : MailboxSession where
  sessionId := "owner session"
  principalId := "owner"
  email := "owner@mail.example"
  mailboxVerifiedAt := "now"
  authenticatedAt := "now"
  expiresAt := "later"
  active := true

def recipient : MailboxSession :=
  { owner with
    sessionId := "recipient session"
    principalId := "recipient"
    email := "r@mail.example" }

def grantOwner : AccessCall := .issueOwnerGrant {
  organizationId := "org"
  jobId := "job"
  reportVersionId := "version"
  permittedModules := [.building]
  permittedActions := [.read_report, .invite_recipient]
  expiresAt := "later"
  principalId := "owner"
  verifiedEmail := "owner@mail.example"
  issuedBy := "inspector" }

def share : AccessCall := .createShareInvitation {
  inviterGrantId := "grant."
  inviterSession := owner
  intendedEmail := "r@mail.example"
  permittedModules := [.building]
  permittedActions := [.read_report]
  expiresAt := "soon" }

def delivered : List AccessCall :=
  [.registerDeliveredVersion "org" "job" "version" [.building] "now", grantOwner, share]

def run (calls : List AccessCall) : World :=
  calls.foldl (fun w call => Tx.after (perform surroundings call w)) .empty

def redeemed : World :=
  run (delivered ++ [.redeemInvitation "invite...." recipient])

theorem reachable_redeemed : (service surroundings).Reachable TSys.any redeemed :=
  TSys.reachable_foldl _ _ _

/-- The recipient's grant lies within the owner's. -/
theorem redeemed_grant_within :
    (∃ child, redeemed.state.grants.get? "grant......." = some child ∧
      child.parentGrantId = some "grant.") ∧
    ∀ child, redeemed.state.grants.get? "grant......." = some child →
      child.parentGrantId = some "grant." →
      ∃ parent, redeemed.state.grants.get? "grant." = some parent ∧
        Attenuates surroundings parent.toScope child.toScope :=
  ⟨⟨_, rfl, rfl⟩, fun child hchild hparent =>
    (grants_attenuate freshGrants reachable_redeemed).1 _ child _ hchild hparent⟩

end Sample

end InspectionHub.RecipientAccess
