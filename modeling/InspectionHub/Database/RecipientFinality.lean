import InspectionHub.Database.RecipientDemo

/-!
# Recipient authority is used once and ends for good

A run of the recipient commands, one after another, records the calls that were
accepted with the time of each. Along every run an invitation is claimed once,
a challenge earns one grant before it expires, nothing is done with a grant
after it was revoked or has expired, and a share stays within its grant.

* `DemoTables.outcome_accepts` — what an accepted call found and appended;
* `Kept.perform` — the accepted calls and the tables agree after each call;
* `run_final` — the four laws, along every run.
-/

namespace InspectionHub.Database

open DemoTables (GrantArguments)

/-! ## Calls -/

inductive DemoCall where
  | claimInvitation (challengeId : Uuid) (digest email : Option String)
  | issueGrant (grantId : Uuid) (challengeId : Option Uuid) (digest email : Option String)
  | authorise (a : GrantArguments) (module action : Option String)
  | portalState (a : GrantArguments)
  | revokeGrant (a : GrantArguments)
  | recordShare (id : Uuid) (a : GrantArguments) (email : Option String) (expiresAt : Option Int)
  | revokeShare (a : GrantArguments) (invitationId : Option Uuid)
  | recordContact (id : Uuid) (a : GrantArguments) (findingReference module : Option String)
  | setModuleWithdrawal (id : Uuid) (module : Option String) (withdrawn : Option Bool)

namespace DemoCall

def claimedDigest : DemoCall → Option String
  | .claimInvitation _ digest _ => digest
  | _ => none

def issuedChallenge : DemoCall → Option Uuid
  | .issueGrant _ challengeId _ _ => challengeId
  | _ => none

def revokedGrant : DemoCall → Option Uuid
  | .revokeGrant a => a.grantId
  | _ => none

/-- The grant that a call is made with. -/
def grantId : DemoCall → Option Uuid
  | .authorise a _ _ | .portalState a | .revokeGrant a | .recordShare _ a _ _
  | .revokeShare a _ | .recordContact _ a _ _ => a.grantId
  | _ => none

end DemoCall

/-! ## Runs -/

/-- The tables, the time of the last call, and the accepted calls with their times. -/
structure DemoRun extends DemoTables where
  clock : Int
  accepted : List (Int × DemoCall)

section

variable (lower : String → String)

def DemoTables.outcome (now : Int) (db : DemoTables) : DemoCall → Except Sql.Error DemoTables
  | .claimInvitation challengeId digest email =>
      (db.claimInvitation lower now challengeId digest email).map Prod.snd
  | .issueGrant grantId challengeId digest email =>
      (db.issueGrant now grantId challengeId digest email).map Prod.snd
  | .authorise a module action => (db.authorise now a module action).map Prod.snd
  | .portalState a => (db.portalState now a).map Prod.snd
  | .revokeGrant a => db.revokeGrant now a
  | .recordShare id a email expiresAt =>
      (db.recordShare lower now id a email expiresAt).map Prod.snd
  | .revokeShare a invitationId => (db.revokeShare now a invitationId).map Prod.snd
  | .recordContact id a findingReference module =>
      (db.recordContact now id a findingReference module).map Prod.snd
  | .setModuleWithdrawal id module withdrawn => db.setModuleWithdrawal now id module withdrawn

namespace DemoRun

def empty : DemoRun := ⟨.empty, 0, []⟩

/-- A call some time after the last; a raised error rolls it back. -/
def perform (run : DemoRun) (step : Nat × DemoCall) : DemoRun :=
  let now := run.clock + step.1
  match run.outcome lower now step.2 with
  | .ok next => ⟨next, now, run.accepted ++ [(now, step.2)]⟩
  | .error _ => { run with clock := now }

def ofSteps (steps : List (Nat × DemoCall)) : DemoRun := steps.foldl (perform lower) empty

end DemoRun

end

/-! ## The laws -/

/-- The modules and the time of a share are its grant's at most. -/
def ShareRequest.Within (s : ShareRequest) (g : DemoGrant) : Prop :=
  s.grantId = g.id ∧ s.permittedModules ⊆ g.permittedModules ∧ s.expiresAt ≤ g.expiresAt

/-- Authority is used once and ends for good. -/
structure SingleUseAndFinal (run : DemoRun) : Prop where
  /-- No digest is claimed twice. -/
  claimed : (run.accepted.filterMap fun c => c.2.claimedDigest).Nodup
  /-- No challenge is accepted for a grant twice. -/
  issued : (run.accepted.filterMap fun c => c.2.issuedChallenge).Nodup
  /-- The grants there are were earned by different challenges. -/
  granted : (run.grants.rows.map DemoGrant.challengeId).Nodup
  /-- A challenge earns a grant only before it expires. -/
  unexpired : ∀ c ∈ run.accepted, ∀ challengeId, c.2.issuedChallenge = some challengeId →
    ∃ claimRow ∈ run.invitationClaims.rows, claimRow.challengeId = challengeId ∧
      c.1 < claimRow.expiresAt
  /-- Nothing is accepted with a grant after it was revoked. -/
  revoked : run.accepted.Pairwise fun first second => ∀ id,
    first.2.revokedGrant = some id → second.2.grantId ≠ some id
  /-- Nothing is accepted with a grant from the time it expires. -/
  expired : ∀ c ∈ run.accepted, ∀ id, c.2.grantId = some id →
    ∃ g ∈ run.grants.rows, g.id = id ∧ c.1 < g.expiresAt
  shares : ∀ s ∈ run.shareRequests.rows, ∃ g ∈ run.grants.rows, s.Within g

/-! ## One call -/

/-- What an accepted call found and appended. -/
structure Accepts (now : Int) (db : DemoTables) (call : DemoCall) (next : DemoTables) : Prop where
  claims : ∃ new, next.invitationClaims.rows = db.invitationClaims.rows ++ new ∧
    new.map InvitationClaim.invitationDigest = call.claimedDigest.toList
  grants : ∃ new, next.grants.rows = db.grants.rows ++ new ∧
    new.map DemoGrant.challengeId = call.issuedChallenge.toList
  revocations : ∃ new, next.grantRevocations.rows = db.grantRevocations.rows ++ new ∧
    new.map DemoGrantRevocation.grantId = call.revokedGrant.toList
  shares : ∃ new, next.shareRequests.rows = db.shareRequests.rows ++ new ∧
    ∀ s ∈ new, ∃ g ∈ db.grants.rows, s.Within g
  challenge : ∀ challengeId, call.issuedChallenge = some challengeId →
    ∃ c ∈ db.invitationClaims.rows, c.challengeId = challengeId ∧ now < c.expiresAt
  grant : ∀ id, call.grantId = some id →
    db.isRevoked id = false ∧ ∃ g ∈ db.grants.rows, g.id = id ∧ now < g.expiresAt

variable {call : DemoCall}

namespace DemoTables

variable {lower : String → String} {now : Int} {db next : DemoTables} {a : GrantArguments}

/-- The grant is the one named, neither revoked nor expired. -/
theorem grantLocked_ok {g : DemoGrant} (h : db.grantLocked now a = .ok g) :
    g ∈ db.grants.rows ∧ a.grantId = some g.id ∧ db.isRevoked g.id = false ∧
      now < g.expiresAt := by
  unfold grantLocked at h
  split at h
  · next grantRow hfind =>
      obtain ⟨hactive, h⟩ := Sql.check_ok h
      cases h
      have hid := List.find?_some hfind
      push Not at hactive
      exact ⟨List.mem_of_find?_eq_some hfind, of_decide_eq_true hid,
        Bool.eq_false_iff.mpr hactive.1, hactive.2.2.2.2.2.2.2⟩
  · cases h

/-- Calls that are made with a grant and append to none of the four tables. -/
theorem accepts_of_locked {g : DemoGrant} (h : db.grantLocked now a = .ok g)
    (hgrant : call.grantId = a.grantId) (hdigest : call.claimedDigest = none)
    (hchallenge : call.issuedChallenge = none) (hrevoked : call.revokedGrant = none)
    (hclaims : next.invitationClaims = db.invitationClaims) (hgrants : next.grants = db.grants)
    (hrevocations : next.grantRevocations = db.grantRevocations)
    (hshares : next.shareRequests = db.shareRequests) : Accepts now db call next := by
  obtain ⟨hmem, hid, hactive, hunexpired⟩ := grantLocked_ok h
  refine ⟨⟨[], ?_, ?_⟩, ⟨[], ?_, ?_⟩, ⟨[], ?_, ?_⟩, ⟨[], ?_, fun _ hs => nomatch hs⟩, ?_, ?_⟩
  · rw [hclaims, List.append_nil]
  · rw [hdigest]
    rfl
  · rw [hgrants, List.append_nil]
  · rw [hchallenge]
    rfl
  · rw [hrevocations, List.append_nil]
  · rw [hrevoked]
    rfl
  · rw [hshares, List.append_nil]
  · intro challengeId hissued
    rw [hchallenge] at hissued
    cases hissued
  · intro id hnamed
    rw [hgrant, hid] at hnamed
    obtain rfl := Option.some.inj hnamed
    exact ⟨hactive, g, hmem, rfl, hunexpired⟩

theorem claimInvitation_accepts {challengeId : Uuid} {digest email : Option String}
    {r : InvitationClaim × DemoTables}
    (h : db.claimInvitation lower now challengeId digest email = .ok r) :
    Accepts now db (.claimInvitation challengeId digest email) r.2 := by
  obtain ⟨-, h⟩ := Sql.check_ok h
  obtain ⟨d, hd, h⟩ := Sql.bind_ok h
  obtain ⟨e, -, h⟩ := Sql.bind_ok h
  obtain ⟨t, -, h⟩ := Sql.bind_ok h
  cases h
  obtain rfl := Sql.notNull_ok hd
  exact ⟨⟨_, t.2, rfl⟩, ⟨[], (List.append_nil _).symm, rfl⟩, ⟨[], (List.append_nil _).symm, rfl⟩,
    ⟨[], (List.append_nil _).symm, fun _ hs => nomatch hs⟩, (fun _ h => nomatch h),
    (fun _ h => nomatch h)⟩

theorem issueGrant_accepts {grantId : Uuid} {challengeId : Option Uuid}
    {digest email : Option String} {r : DemoGrant × DemoTables}
    (h : db.issueGrant now grantId challengeId digest email = .ok r) :
    Accepts now db (.issueGrant grantId challengeId digest email) r.2 := by
  unfold issueGrant at h
  split at h
  · next claimRow hfind =>
      obtain ⟨havailable, h⟩ := Sql.check_ok h
      obtain ⟨completions, -, h⟩ := Sql.bind_ok h
      obtain ⟨t, -, h⟩ := Sql.bind_ok h
      cases h
      have hid := List.find?_some hfind
      obtain rfl : challengeId = some claimRow.challengeId := of_decide_eq_true hid
      push Not at havailable
      refine ⟨⟨[], (List.append_nil _).symm, rfl⟩, ⟨_, t.2, rfl⟩,
        ⟨[], (List.append_nil _).symm, rfl⟩,
        ⟨[], (List.append_nil _).symm, fun _ hs => nomatch hs⟩, ?_, (fun _ h => nomatch h)⟩
      rintro - ⟨⟩
      exact ⟨claimRow, List.mem_of_find?_eq_some hfind, rfl, havailable.2.2.1⟩
  · cases h

theorem authorise_accepts {module action : Option String} {r : DemoGrant × DemoTables}
    (h : db.authorise now a module action = .ok r) :
    Accepts now db (.authorise a module action) r.2 := by
  obtain ⟨g, hlocked, h⟩ := Sql.bind_ok h
  obtain ⟨-, h⟩ := Sql.check_ok h
  cases h
  exact accepts_of_locked hlocked rfl rfl rfl rfl rfl rfl rfl rfl

theorem portalState_accepts {r : PortalState × DemoTables} (h : db.portalState now a = .ok r) :
    Accepts now db (.portalState a) r.2 := by
  obtain ⟨g, hlocked, h⟩ := Sql.bind_ok h
  obtain ⟨-, h⟩ := Sql.check_ok h
  cases h
  exact accepts_of_locked hlocked rfl rfl rfl rfl rfl rfl rfl rfl

theorem revokeGrant_accepts (h : db.revokeGrant now a = .ok next) :
    Accepts now db (.revokeGrant a) next := by
  obtain ⟨g, hlocked, h⟩ := Sql.bind_ok h
  obtain ⟨t, -, h⟩ := Sql.bind_ok h
  cases h
  obtain ⟨hmem, hid, hactive, hunexpired⟩ := grantLocked_ok hlocked
  refine ⟨⟨[], (List.append_nil _).symm, rfl⟩, ⟨[], (List.append_nil _).symm, rfl⟩,
    ⟨_, t.2, ?_⟩, ⟨[], (List.append_nil _).symm, fun _ hs => nomatch hs⟩,
    (fun _ h => nomatch h), ?_⟩
  · show [g.id] = a.grantId.toList
    rw [hid]
    rfl
  · intro id hnamed
    obtain rfl : g.id = id := Option.some.inj (hid.symm.trans hnamed)
    exact ⟨hactive, g, hmem, rfl, hunexpired⟩

theorem activeModules_subset (db : DemoTables) (g : DemoGrant) :
    db.activeModules g ⊆ g.permittedModules := by
  intro m hm
  exact (List.mem_filter.mp (List.mem_mergeSort.mp hm)).1

variable {id : Uuid}

theorem recordShare_accepts {email : Option String} {expiresAt : Option Int}
    {r : ShareRequest × DemoTables} (h : db.recordShare lower now id a email expiresAt = .ok r) :
    Accepts now db (.recordShare id a email expiresAt) r.2 := by
  obtain ⟨g, hlocked, h⟩ := Sql.bind_ok h
  obtain ⟨hvalid, h⟩ := Sql.check_ok h
  obtain ⟨e, -, h⟩ := Sql.bind_ok h
  obtain ⟨expiry, hexpiry, h⟩ := Sql.bind_ok h
  obtain ⟨t, -, h⟩ := Sql.bind_ok h
  cases h
  obtain rfl := Sql.notNull_ok hexpiry
  obtain ⟨hmem, hid, hactive, hunexpired⟩ := grantLocked_ok hlocked
  refine ⟨⟨[], (List.append_nil _).symm, rfl⟩, ⟨[], (List.append_nil _).symm, rfl⟩,
    ⟨[], (List.append_nil _).symm, rfl⟩, ⟨_, t.2, ?_⟩, (fun _ h => nomatch h), ?_⟩
  · intro s hs
    obtain rfl := List.mem_singleton.mp hs
    refine ⟨g, hmem, rfl, activeModules_subset db g, ?_⟩
    -- a share that outlasts its grant is refused
    show expiry ≤ g.expiresAt
    by_contra hlater
    apply hvalid
    simp [Sql.anyTrue, Int.not_le.mp hlater]
  · intro id hnamed
    obtain rfl : g.id = id := Option.some.inj (hid.symm.trans hnamed)
    exact ⟨hactive, g, hmem, rfl, hunexpired⟩

theorem revokeShare_accepts {invitationId : Option Uuid} {r : ShareRequest × DemoTables}
    (h : db.revokeShare now a invitationId = .ok r) :
    Accepts now db (.revokeShare a invitationId) r.2 := by
  obtain ⟨g, hlocked, h⟩ := Sql.bind_ok h
  obtain ⟨-, h⟩ := Sql.check_ok h
  split at h
  · obtain ⟨-, h⟩ := Sql.check_ok h
    obtain ⟨t, -, h⟩ := Sql.bind_ok h
    cases h
    exact accepts_of_locked hlocked rfl rfl rfl rfl rfl rfl rfl rfl
  · cases h

theorem recordContact_accepts {findingReference module : Option String}
    {r : ContactRequest × DemoTables}
    (h : db.recordContact now id a findingReference module = .ok r) :
    Accepts now db (.recordContact id a findingReference module) r.2 := by
  obtain ⟨g, hlocked, h⟩ := Sql.bind_ok h
  obtain ⟨-, h⟩ := Sql.check_ok h
  obtain ⟨t, -, h⟩ := Sql.bind_ok h
  cases h
  exact accepts_of_locked hlocked rfl rfl rfl rfl rfl rfl rfl rfl

theorem setModuleWithdrawal_accepts {module : Option String} {withdrawn : Option Bool}
    (h : db.setModuleWithdrawal now id module withdrawn = .ok next) :
    Accepts now db (.setModuleWithdrawal id module withdrawn) next := by
  obtain ⟨-, h⟩ := Sql.check_ok h
  obtain ⟨m, -, h⟩ := Sql.bind_ok h
  obtain ⟨t, -, h⟩ := Sql.bind_ok h
  cases h
  exact ⟨⟨[], (List.append_nil _).symm, rfl⟩, ⟨[], (List.append_nil _).symm, rfl⟩,
    ⟨[], (List.append_nil _).symm, rfl⟩, ⟨[], (List.append_nil _).symm, fun _ hs => nomatch hs⟩,
    (fun _ h => nomatch h), (fun _ h => nomatch h)⟩

theorem outcome_accepts (h : db.outcome lower now call = .ok next) : Accepts now db call next := by
  cases call with
  | claimInvitation challengeId digest email =>
      obtain ⟨r, h, hr⟩ := Sql.map_ok h
      rw [← hr]
      exact claimInvitation_accepts h
  | issueGrant grantId challengeId digest email =>
      obtain ⟨r, h, hr⟩ := Sql.map_ok h
      rw [← hr]
      exact issueGrant_accepts h
  | authorise a module action =>
      obtain ⟨r, h, hr⟩ := Sql.map_ok h
      rw [← hr]
      exact authorise_accepts h
  | portalState a =>
      obtain ⟨r, h, hr⟩ := Sql.map_ok h
      rw [← hr]
      exact portalState_accepts h
  | revokeGrant a => exact revokeGrant_accepts h
  | recordShare id a email expiresAt =>
      obtain ⟨r, h, hr⟩ := Sql.map_ok h
      rw [← hr]
      exact recordShare_accepts h
  | revokeShare a invitationId =>
      obtain ⟨r, h, hr⟩ := Sql.map_ok h
      rw [← hr]
      exact revokeShare_accepts h
  | recordContact id a findingReference module =>
      obtain ⟨r, h, hr⟩ := Sql.map_ok h
      rw [← hr]
      exact recordContact_accepts h
  | setModuleWithdrawal id module withdrawn => exact setModuleWithdrawal_accepts h

end DemoTables

/-! ## Runs -/

/-- The laws, with what ties the accepted calls to the rows. -/
structure Kept (run : DemoRun) : Prop extends SingleUseAndFinal run where
  digests : run.accepted.filterMap (fun c => c.2.claimedDigest) =
    run.invitationClaims.rows.map InvitationClaim.invitationDigest
  challenges : run.accepted.filterMap (fun c => c.2.issuedChallenge) =
    run.grants.rows.map DemoGrant.challengeId
  revocations : run.accepted.filterMap (fun c => c.2.revokedGrant) =
    run.grantRevocations.rows.map DemoGrantRevocation.grantId

theorem Kept.empty : Kept DemoRun.empty where
  claimed := List.nodup_nil
  issued := List.nodup_nil
  granted := List.nodup_nil
  unexpired := fun _ hc => nomatch hc
  revoked := List.Pairwise.nil
  expired := fun _ hc => nomatch hc
  shares := fun _ hs => nomatch hs
  digests := rfl
  challenges := rfl
  revocations := rfl

/-- One more accepted call adds its own key to the keys of those before. -/
theorem filterMap_snoc {κ : Type} (key : DemoCall → Option κ) (l : List (Int × DemoCall))
    (c : Int × DemoCall) : (l ++ [c]).filterMap (fun c => key c.2) =
      l.filterMap (fun c => key c.2) ++ (key c.2).toList := by
  rw [List.filterMap_append, List.filterMap_cons]
  cases key c.2 <;> rfl

/-- The keys of the accepted calls are those of the rows, also after one more call. -/
theorem keys_snoc {κ ρ : Type} {key : DemoCall → Option κ} {column : ρ → κ}
    {l : List (Int × DemoCall)} {rows rows' : List ρ} {c : Int × DemoCall}
    (h : l.filterMap (fun c => key c.2) = rows.map column)
    (happended : ∃ new, rows' = rows ++ new ∧ new.map column = (key c.2).toList) :
    (l ++ [c]).filterMap (fun c => key c.2) = rows'.map column := by
  obtain ⟨new, rfl, hnew⟩ := happended
  rw [filterMap_snoc, h, List.map_append, hnew]

variable {run : DemoRun}

/-- The laws survive one accepted call. -/
theorem Kept.accept (hrun : Kept run) {now : Int} {next : DemoTables}
    (h : Accepts now run.toDemoTables call next) :
    Kept ⟨next, now, run.accepted ++ [(now, call)]⟩ := by
  have hdigests := keys_snoc (c := (now, call)) hrun.digests h.claims
  have hchallenges := keys_snoc (c := (now, call)) hrun.challenges h.grants
  have hrevocations := keys_snoc (c := (now, call)) hrun.revocations h.revocations
  have hclaims : run.invitationClaims.rows ⊆ next.invitationClaims.rows := by
    obtain ⟨new, hrows, -⟩ := h.claims
    rw [hrows]
    exact List.subset_append_left _ _
  have hgrants : run.grants.rows ⊆ next.grants.rows := by
    obtain ⟨new, hrows, -⟩ := h.grants
    rw [hrows]
    exact List.subset_append_left _ _
  have hgranted : (next.grants.rows.map DemoGrant.challengeId).Nodup :=
    next.grants.nodup_map fun _ _ heq => .inr heq
  refine
    { claimed := ?_, issued := ?_, granted := hgranted, unexpired := ?_, revoked := ?_,
      expired := ?_, shares := ?_, digests := hdigests, challenges := hchallenges,
      revocations := hrevocations }
  · -- two rows with one digest would violate the primary key
    rw [hdigests]
    exact next.invitationClaims.nodup_map fun _ _ heq => .inl heq
  · rw [hchallenges]
    exact hgranted
  · intro c hc challengeId hissued
    rcases List.mem_append.mp hc with hold | hnew
    · obtain ⟨claimRow, hclaimRow, hrest⟩ := hrun.unexpired c hold challengeId hissued
      exact ⟨claimRow, hclaims hclaimRow, hrest⟩
    · obtain rfl := List.mem_singleton.mp hnew
      obtain ⟨claimRow, hclaimRow, hrest⟩ := h.challenge challengeId hissued
      exact ⟨claimRow, hclaims hclaimRow, hrest⟩
  · refine List.pairwise_append.mpr ⟨hrun.revoked, List.pairwise_singleton _ _, ?_⟩
    intro first hfirst second hsecond id hrevoked hnamed
    obtain rfl := List.mem_singleton.mp hsecond
    -- the revocation is a row that the lock on the grant finds
    have hmem : id ∈ run.grantRevocations.rows.map DemoGrantRevocation.grantId := by
      rw [← hrun.revocations]
      exact List.mem_filterMap.mpr ⟨first, hfirst, hrevoked⟩
    obtain ⟨r, hr, hid⟩ := List.mem_map.mp hmem
    have hfound : run.isRevoked id = true :=
      List.any_eq_true.mpr ⟨r, hr, decide_eq_true hid⟩
    rw [(h.grant id hnamed).1] at hfound
    cases hfound
  · intro c hc id hnamed
    rcases List.mem_append.mp hc with hold | hnew
    · obtain ⟨g, hg, hrest⟩ := hrun.expired c hold id hnamed
      exact ⟨g, hgrants hg, hrest⟩
    · obtain rfl := List.mem_singleton.mp hnew
      obtain ⟨-, g, hg, hrest⟩ := h.grant id hnamed
      exact ⟨g, hgrants hg, hrest⟩
  · intro s hs
    obtain ⟨new, hrows, hnew⟩ := h.shares
    rw [hrows] at hs
    rcases List.mem_append.mp hs with hold | hs
    · obtain ⟨g, hg, hwithin⟩ := hrun.shares s hold
      exact ⟨g, hgrants hg, hwithin⟩
    · obtain ⟨g, hg, hwithin⟩ := hnew s hs
      exact ⟨g, hgrants hg, hwithin⟩

theorem Kept.perform {lower : String → String} (hrun : Kept run) (step : Nat × DemoCall) :
    Kept (run.perform lower step) := by
  unfold DemoRun.perform
  dsimp only
  split
  · next next h => exact hrun.accept (DemoTables.outcome_accepts h)
  · exact { hrun with }

theorem kept_foldl {lower : String → String} (steps : List (Nat × DemoCall)) (hrun : Kept run) :
    Kept (steps.foldl (DemoRun.perform lower) run) := by
  induction steps generalizing run with
  | nil => exact hrun
  | cons step steps ih => exact ih (hrun.perform step)

/-- **Single use and finality.** Along every run of the commands, a digest is
claimed at most once; a challenge earns at most one grant, before it expires;
nothing is accepted with a grant that was revoked or has expired; and every
share stays within its grant. -/
theorem run_final (lower : String → String) (steps : List (Nat × DemoCall)) :
    SingleUseAndFinal (DemoRun.ofSteps lower steps) :=
  (kept_foldl steps Kept.empty).toSingleUseAndFinal

end InspectionHub.Database
