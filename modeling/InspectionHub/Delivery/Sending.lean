import InspectionHub.Delivery.Messages

/-!
# No duplicate or forbidden send

A send that has not settled is the only one on its package, and while the
package is `sending` it is the record that send's own claim wrote (`Live`).
Nobody else can put a live package back to `queued`: retry starts from
`failed`, where only the send itself could have left it, and a confirm would
need the package to have no message. The invariant of the session (`Sound`)
says this of every interleaving.
-/

namespace InspectionHub.Delivery

variable {env : Env} {r r' : Repository}

/-- The send still awaits something. -/
def SendPhase.live : SendPhase → Bool
  | .settled _ => false
  | _ => true

/-- The provider has the request and has not answered. -/
def SendPhase.inFlight : SendPhase → Bool
  | .providerCall _ => true
  | _ => false

/-- Where the package of a live send can be, when not `sending`. -/
def overtaken : List DeliveryState :=
  [.cancelled, .sent, .waitingForApproval, .waitingForEvidence]

/-- What is known of the package of a live send. -/
structure Live (r : Repository) (started : DeliveryPackageRecord) : Prop where
  message : r.HasMessage started.packageId
  current : ∃ p, r.getPackage started.packageId = some p ∧ p.interventionRequired = false ∧
    (p.state = .sending ∧ p = started ∨ p.state ∈ overtaken)

variable {started : DeliveryPackageRecord}

theorem Live.restored (h : Live r started) (hr : Restored r r') : Live r' started := by
  obtain ⟨p, hp, hcurrent⟩ := h.current
  refine ⟨?_, p, ?_, hcurrent⟩
  · have := h.message
    rwa [Repository.HasMessage, Repository.getOutboxForPackage, hr.outbox]
  · rw [hr.getPackage, hp]

/-- The states a transaction other than the send's own can leave a live
package in, or claim another package with. -/
def foreign : List DeliveryState := [.cancelled, .sent, .queued, .sending]

/-- Transactions on other packages, and cancellations, retries, observations
and claims of any package, keep a send live. -/
theorem Live.worked {started q : DeliveryPackageRecord} {packageId : String}
    (h : Live r started) (hw : Worked r r' packageId q)
    (hq : packageId ≠ started.packageId ∨ q.state ∈ foreign) : Live r' started := by
  cases hw with
  | kept heq _ _ => exact heq ▸ h
  | moved p m hid hmoves hedge =>
      have hmessage : r'.HasMessage started.packageId :=
        (hmoves.outbox.hasMessage _).mpr h.message
      obtain ⟨p₀, hp₀, hflag, hstate⟩ := h.current
      by_cases hk : started.packageId = p.packageId
      · have hforeign : q.state ∈ foreign := hq.resolve_left fun hne => hne (hid.symm.trans hk.symm)
        rw [hk, hmoves.before] at hp₀
        obtain rfl := Option.some.inj hp₀
        have hget : r'.getPackage started.packageId = some q := by
          rw [getPackage_moves hmoves, if_pos hk]
        -- claims and retries need a state the package of a live send is never in
        have hneither : p.state ≠ .queued ∧ p.state ≠ .failed := by
          rcases hstate with ⟨h, -⟩ | h
          · rw [h]
            decide
          · constructor
            · intro heq
              rw [heq] at h
              exact absurd h (by decide)
            · intro heq
              rw [heq] at h
              exact absurd h (by decide)
        cases hedge with
        | claims hqueued _ _ => exact absurd hqueued hneither.1
        | requeues hfailed _ _ _ => exact absurd hfailed hneither.2
        | cancels _ h' hsame _ _ =>
            exact ⟨hmessage, q, hget, hsame.trans hflag, .inr (by rw [h']; decide)⟩
        | sends _ h' hsame =>
            refine ⟨hmessage, q, hget, ?_, .inr (by rw [h']; decide)⟩
            by_contra hraised
            rw [Bool.not_eq_false] at hraised
            rw [hsame hraised] at hflag
            cases hflag
        | pends _ h' =>
            rcases h' with h' | h' <;> rw [h'] at hforeign <;> exact absurd hforeign (by decide)
        | fails _ h' =>
            rw [h'] at hforeign
            exact absurd hforeign (by decide)
      · refine ⟨hmessage, p₀, ?_, hflag, hstate⟩
        rw [getPackage_moves hmoves, if_neg hk]
        exact hp₀

/-- A confirm cannot queue the package of a live send again. -/
theorem Live.freezes (hids : Function.Injective env.ids) (hkept : Kept env r) {readers : Readers}
    {command : ConfirmPackageCommand} {exact : ExactApprovals} (h : Live r started)
    (hf : Freezes env readers command exact r r') : Live r' started := by
  have hmessage : r'.HasMessage started.packageId :=
    (hf.hasMessage hids hkept _).mpr (.inl h.message)
  by_cases hk : started.packageId = command.packageId
  · refine ⟨hmessage, confirmedPackage command exact, ?_, rfl, .inr ?_⟩
    · rw [Repository.getPackage, hf.packages, hk]
      exact Table.get?_put_self _ _
    · have hwaiting : (confirmedPackage command exact).state ≠ .queued := by
        intro hqueued
        have hnone := (hf.queued hqueued).1
        have hsome := h.message
        rw [Repository.HasMessage, hk, hnone] at hsome
        cases hsome
      have hwaits := confirmedPackage_waits command exact hwaiting
      revert hwaits
      cases (confirmedPackage command exact).state <;> decide
  · obtain ⟨p, hp, hcurrent⟩ := h.current
    refine ⟨hmessage, p, ?_, hcurrent⟩
    rw [Repository.getPackage, hf.packages,
      Table.get?_put_of_ne r.packages (confirmedPackage command exact) hk]
    exact hp

/-- A package just claimed is live. -/
theorem Live.claimed {packageId : String} (hkept : Kept env r)
    (hw : Worked r r' packageId started) (hstate : started.state = .sending) :
    Live r' started ∧ ∃ p, r.getPackage started.packageId = some p ∧ p.state = .queued := by
  cases hw with
  | kept _ _ hcancelled =>
      rw [hstate] at hcancelled
      cases hcancelled
  | moved p m hid hmoves hedge =>
      have hget : r'.getPackage started.packageId = some started := by
        rw [getPackage_moves hmoves, if_pos hmoves.packageId]
      cases hedge with
      | claims h _ hsame =>
          have hflag : p.interventionRequired = false := by
            by_contra hraised
            rw [Bool.not_eq_false] at hraised
            exact (hkept.flags _ p hmoves.before hraised).1 h
          refine ⟨⟨?_, started, hget, hsame.trans hflag, .inl ⟨hstate, rfl⟩⟩, p, ?_, h⟩
          · rw [hmoves.packageId]
            exact (hmoves.outbox.hasMessage _).mpr hmoves.outbox.found
          · rw [hmoves.packageId]
            exact hmoves.before
      | cancels _ h' _ _ _ => rw [hstate] at h'; cases h'
      | requeues _ _ h' _ => rw [hstate] at h'; cases h'
      | sends _ h' _ => rw [hstate] at h'; cases h'
      | pends _ h' => rw [hstate] at h'; rcases h' with h' | h' <;> cases h'
      | fails _ h' => rw [hstate] at h'; cases h'

/-! ## The invariant of a session -/

/-- The repository is kept, and the live sends are on different packages, each
live. -/
structure Sound (env : Env) (s : Session) : Prop where
  kept : Kept env s.repository
  live : ∀ {i : Nat} {t : SendTask}, s.sends[i]? = some t → t.phase.live = true → Live s.repository t.started
  unique : ∀ {i j : Nat} {t u : SendTask}, s.sends[i]? = some t → s.sends[j]? = some u → t.phase.live = true →
    u.phase.live = true → t.started.packageId = u.started.packageId → i = j

theorem Sound.initial (status : ProfessionalDeliveryStatusPort) :
    Sound env (.initial status) := by
  refine ⟨Kept.initial, fun h => ?_, fun h => ?_⟩
  · cases h
  · cases h

variable {s : Session}

/-- A step that only works on the repository, and keeps its sends live. -/
theorem Sound.repository (h : Sound env s) {r : Repository} (hkept : Kept env r)
    (hlive : ∀ {started}, Live s.repository started → Live r started)
    (status : ProfessionalDeliveryStatusPort) (calls : List DeliveryProviderRequest) :
    Sound env ⟨r, status, s.sends, calls⟩ :=
  ⟨hkept, fun ht hl => hlive (h.live ht hl), h.unique⟩

theorem Sound.after (h : Sound env s) (packageId : String) {x : DeliveryTx DeliveryPackageRecord}
    (hatomic : Atomic x) (hok : ∀ {q r'}, x s.repository = .ok q r' →
      Worked s.repository r' packageId q ∧ q.state ∈ foreign) : Sound env { s with repository := Tx.after (x s.repository) } := by
  cases hx : x s.repository with
  | ok q r' =>
      obtain ⟨hworked, hforeign⟩ := hok hx
      exact h.repository (h.kept.worked hworked) (fun hl => hl.worked hworked (.inr hforeign)) _ _
  | error e r' =>
      have hrestored := hatomic hx
      exact h.repository (h.kept.restored hrestored) (fun hl => hl.restored hrestored) _ _

theorem Sound.confirm (hids : Function.Injective env.ids) (h : Sound env s) (readers : Readers)
    (command : ConfirmPackageCommand) : Sound env { s with repository := Tx.after (Delivery.confirm env readers command s.repository) } :=
      by
  cases hx : Delivery.confirm env readers command s.repository with
  | ok result r' =>
      rcases confirm_ok hx with heq | ⟨exact, hfreezes⟩
      · rw [heq]
        exact h.repository h.kept (fun hl => hl) _ _
      · exact h.repository (h.kept.freezes hids hfreezes)
          (fun hl => hl.freezes hids h.kept hfreezes) _ _
  | error e r' =>
      have hrestored := confirm_atomic readers command hx
      exact h.repository (h.kept.restored hrestored) (fun hl => hl.restored hrestored) _ _

variable {t : SendTask}

/-- A new send that is over adds no live one. -/
theorem Sound.append_settled (h : Sound env s) (ht : t.phase.live = false) :
    Sound env { s with sends := s.sends ++ [t] } := by
  have old : ∀ {i : Nat} {u : SendTask}, (s.sends ++ [t])[i]? = some u → u.phase.live = true →
      s.sends[i]? = some u := by
    intro i u hu hlive
    by_cases hi : i < s.sends.length
    · rwa [List.getElem?_append_left hi] at hu
    · rw [List.getElem?_append_right (by omega), List.getElem?_singleton] at hu
      split at hu
      · rw [← Option.some.inj hu, ht] at hlive
        cases hlive
      · cases hu
  exact ⟨h.kept, fun hu hl => h.live (old hu hl) hl,
    fun hu hv hl hl' => h.unique (old hu hl) (old hv hl') hl hl'⟩

/-- A new live send on a package no live send is on. -/
theorem Sound.append_live (h : Sound env s) (ht : Live s.repository t.started)
    (hfree : ∀ {i : Nat} {u : SendTask}, s.sends[i]? = some u → u.phase.live = true →
      u.started.packageId ≠ t.started.packageId) : Sound env { s with sends := s.sends ++ [t] } := by
  have cases_of : ∀ {i : Nat} {u : SendTask}, (s.sends ++ [t])[i]? = some u →
      s.sends[i]? = some u ∧ i < s.sends.length ∨ u = t ∧ i = s.sends.length := by
    intro i u hu
    by_cases hi : i < s.sends.length
    · rw [List.getElem?_append_left hi] at hu
      exact .inl ⟨hu, hi⟩
    · rw [List.getElem?_append_right (by omega), List.getElem?_singleton] at hu
      split at hu
      · next hzero => exact .inr ⟨(Option.some.inj hu).symm, by omega⟩
      · cases hu
  refine ⟨h.kept, fun {i u} hu hl => ?_, fun {i j u v} hu hv hl hl' hsame => ?_⟩
  · rcases cases_of hu with ⟨hu, -⟩ | ⟨rfl, -⟩
    · exact h.live hu hl
    · exact ht
  · rcases cases_of hu with ⟨hu', -⟩ | ⟨rfl, hi⟩
    · rcases cases_of hv with ⟨hv', -⟩ | ⟨rfl, hj⟩
      · exact h.unique hu' hv' hl hl' hsame
      · exact absurd hsame (hfree hu' hl)
    · rcases cases_of hv with ⟨hv', -⟩ | ⟨rfl, hj⟩
      · exact absurd hsame.symm (hfree hv' hl')
      · rw [hi, hj]

theorem Sound.send (h : Sound env s) (packageId now cancelNow : String) :
    Sound env (s.send env packageId now cancelNow) := by
  unfold Session.send
  split
  · next started phase r hres =>
      cases sendStart_ok hres with
      | go hworked hstate hopen =>
          have hbefore := h.repository (h.kept.worked hworked)
            (fun hl => hl.worked hworked (.inr (by rw [hstate]; decide))) s.status s.calls
          obtain ⟨hclaimed, p, hp, hqueued⟩ := Live.claimed h.kept hworked hstate
          refine hbefore.append_live hclaimed fun {i u} hu hl hsame => ?_
          -- the package was queued, so no live send was on it
          obtain ⟨q, hq, -, hcurrent⟩ := (h.live hu hl).current
          have hsame : u.started.packageId = started.packageId := hsame
          rw [hsame, hp] at hq
          obtain rfl := Option.some.inj hq
          rcases hcurrent with ⟨hsending, -⟩ | hover
          · rw [hqueued] at hsending
            cases hsending
          · rw [hqueued] at hover
            exact absurd hover (by decide)
      | ended hworked hstate hcancel hstate' =>
          have hfirst : started.state ∈ foreign := by
            rcases hstate with hstate | hstate <;> rw [hstate] <;> decide
          have hmid := h.repository (h.kept.worked hworked)
            (fun hl => hl.worked hworked (.inr hfirst)) s.status s.calls
          have hlast := hmid.repository (hmid.kept.worked hcancel)
            (fun hl => hl.worked hcancel (.inr (by rw [hstate']; decide))) s.status s.calls
          exact hlast.append_settled rfl
  · next e r hres =>
      rcases sendStart_error hres with hrestored | ⟨t, started, hworked, hstate, hrestored⟩
      · exact h.repository (h.kept.restored hrestored) (fun hl => hl.restored hrestored) _ _
      · have hfirst : started.state ∈ foreign := by
          rcases hstate with hstate | hstate <;> rw [hstate] <;> decide
        have hmid := h.repository (h.kept.worked hworked)
          (fun hl => hl.worked hworked (.inr hfirst)) s.status s.calls
        exact hmid.repository (hmid.kept.restored hrestored) (fun hl => hl.restored hrestored) _ _

theorem sendResume_live {status : ProfessionalDeliveryStatusPort} {now : String}
    {phase : SendPhase} {awaited : Awaited} {work : DeliveryTx SendPhase}
    (h : sendResume env status started now phase awaited = some work) : phase.live = true := by
  cases phase with
  | settled outcome => cases awaited <;> cases h
  | beforeProviderCall => rfl
  | requireEgress => rfl
  | providerCall request => rfl
  | afterProviderCall result => rfl

/-- The stepping send takes a new phase; the others are as they were. -/
theorem Sound.set_phase (h : Sound env s) {i : Nat} (ht : s.sends[i]? = some t)
    (hlive : t.phase.live = true) {r : Repository} (hkept : Kept env r) (phase : SendPhase)
    (hown : phase.live = true → Live r t.started)
    (hothers : ∀ {started}, Live s.repository started →
      started.packageId ≠ t.started.packageId → Live r started)
    (calls : List DeliveryProviderRequest) :
    Sound env ⟨r, s.status, s.sends.set i ⟨t.started, phase⟩, calls⟩ := by
  have hi : i < s.sends.length := (List.getElem?_eq_some_iff.mp ht).1
  have cases_of : ∀ {j : Nat} {u : SendTask}, (s.sends.set i ⟨t.started, phase⟩)[j]? = some u →
      j = i ∧ u = ⟨t.started, phase⟩ ∨ j ≠ i ∧ s.sends[j]? = some u := by
    intro j u hu
    by_cases hj : i = j
    · subst hj
      rw [List.getElem?_set_self hi] at hu
      exact .inl ⟨rfl, (Option.some.inj hu).symm⟩
    · rw [List.getElem?_set_ne hj] at hu
      exact .inr ⟨Ne.symm hj, hu⟩
  refine ⟨hkept, fun {j u} hu hl => ?_, fun {j k u v} hu hv hl hl' hsame => ?_⟩
  · rcases cases_of hu with ⟨-, rfl⟩ | ⟨hj, hu⟩
    · exact hown hl
    · refine hothers (h.live hu hl) fun hsame => hj ?_
      exact h.unique hu ht hl hlive hsame
  · rcases cases_of hu with ⟨hj, rfl⟩ | ⟨hj, hu⟩
    · rcases cases_of hv with ⟨hk, -⟩ | ⟨hk, hv⟩
      · rw [hj, hk]
      · exact hj.trans (h.unique ht hv hlive hl' hsame)
    · rcases cases_of hv with ⟨hk, rfl⟩ | ⟨hk, hv⟩
      · exact (h.unique hu ht hl hlive hsame).trans hk.symm
      · exact h.unique hu hv hl hl' hsame

theorem Sound.resume (h : Sound env s) (i : Nat) (awaited : Awaited) (now : String) :
    Sound env (s.resume env i awaited now) := by
  unfold Session.resume
  split
  · exact h
  · next t ht =>
      split
      · exact h
      · next work hwork =>
          have hlive := sendResume_live hwork
          split
          · next phase r hres =>
              have hresumed := sendResume_ok hwork hres
              have hsame : r = s.repository → Sound env
                  ⟨r, s.status, s.sends.set i ⟨t.started, phase⟩, s.calls ++ phase.requests⟩ := by
                rintro rfl
                exact h.set_phase ht hlive h.kept phase (fun _ => h.live ht hlive)
                  (fun hl _ => hl) _
              generalize hphase : t.phase = ph at hresumed
              cases hresumed with
              | authorise hr _ _ _ => exact hsame hr
              | call hr _ _ _ => exact hsame hr
              | reply hr => exact hsame hr
              | settle hworked _ =>
                  refine h.set_phase ht hlive (h.kept.worked hworked) _ (fun hl => by cases hl)
                    (fun hl hne => ?_) _
                  exact hl.worked hworked (.inl (Ne.symm hne))
          · next e r hres =>
              have hrestored := sendResume_atomic hwork hres
              exact h.set_phase ht hlive (h.kept.restored hrestored) _ (fun hl => by cases hl)
                (fun hl _ => hl.restored hrestored) _

/-- **The invariant.** -/
theorem sound_inductive (hids : Function.Injective env.ids) :
    (system env).Inductive TSys.any (Sound env) := by
  refine ⟨?_, ?_⟩
  · rintro s ⟨status, rfl⟩
    exact Sound.initial status
  · rintro s a s' h - rfl
    cases a with
    | confirm readers command => exact h.confirm hids readers command
    | send packageId now cancelNow => exact h.send packageId now cancelNow
    | resume i awaited now => exact h.resume i awaited now
    | cancelPackage packageId reason now =>
        refine h.after packageId (cancelPackage_atomic _ _ _) fun hx => ?_
        obtain ⟨hworked, hstate⟩ := cancelPackage_ok hx
        exact ⟨hworked, by rw [hstate]; decide⟩
    | retry packageId now =>
        refine h.after packageId (retry_atomic _ _) fun hx => ?_
        obtain ⟨hworked, hstate⟩ := retry_ok hx
        exact ⟨hworked, by rw [hstate]; decide⟩
    | markProviderSent packageId providerReference now =>
        refine h.after packageId (markProviderSent_atomic _ _ _) fun hx => ?_
        obtain ⟨hworked, hstate⟩ := markProviderSent_ok hx
        exact ⟨hworked, by rw [hstate]; decide⟩
    | setStatus status => exact h.repository h.kept (fun hl => hl) status s.calls

/-! ## Provider calls -/

/-- The step hands the request to the provider, on behalf of the send `t`. -/
structure Calls (env : Env) (s : Session) (a : Label) (t : SendTask)
    (request : DeliveryProviderRequest) : Prop where
  turn : ∃ i now, a = .resume i .fulfilled now ∧ s.sends[i]? = some t ∧ t.phase = .requireEgress
  addressed : request.packageId = t.started.packageId
  /-- The package is the record this send's own claim wrote. -/
  claimed : s.repository.getPackage request.packageId = some t.started
  sending : t.started.state = .sending
  jobActive : (readStatus s.status t.started).jobCancelled = false
  noneWithdrawn : ∀ m ∈ t.started.commissionedModules,
    m ∉ (readStatus s.status t.started).withdrawnModules
  alone : ∀ {j : Nat} {u : SendTask}, s.sends[j]? = some u → u.phase.inFlight = true →
    u.started.packageId ≠ request.packageId
  unchanged : (s.next env a).repository = s.repository

theorem isBlocked_false {p : DeliveryPackageRecord} {status : ProfessionalDeliveryStatus}
    (h : isBlocked p status = false) :
    status.jobCancelled = false ∧ ∀ m ∈ p.commissionedModules, m ∉ status.withdrawnModules := by
  rw [isBlocked, Bool.or_eq_false_iff] at h
  refine ⟨h.1, fun m hm hwithdrawn => ?_⟩
  have hnone := List.any_eq_false.mp h.2 m hm
  exact hnone (decide_eq_true hwithdrawn)

theorem inFlight_live {phase : SendPhase} (h : phase.inFlight = true) : phase.live = true := by
  cases phase with
  | providerCall request => rfl
  | beforeProviderCall => cases h
  | requireEgress => cases h
  | afterProviderCall result => cases h
  | settled outcome => cases h

/-- A step either leaves the calls alone or makes one, with all its guards. -/
theorem next_calls (h : Sound env s) (a : Label) :
    (s.next env a).calls = s.calls ∨
      ∃ t request, (s.next env a).calls = s.calls ++ [request] ∧ Calls env s a t request := by
  cases a with
  | confirm readers command => exact .inl rfl
  | cancelPackage packageId reason now => exact .inl rfl
  | retry packageId now => exact .inl rfl
  | markProviderSent packageId providerReference now => exact .inl rfl
  | setStatus status => exact .inl rfl
  | send packageId now cancelNow =>
      left
      show (s.send env packageId now cancelNow).calls = s.calls
      unfold Session.send
      split
      · rfl
      · rfl
  | resume i awaited now =>
      have hnext : s.next env (.resume i awaited now) = s.resume env i awaited now := rfl
      rw [hnext]
      have hrepository : ∀ {t work phase r}, s.sends[i]? = some t →
          sendResume env s.status t.started now t.phase awaited = some work →
          work s.repository = .ok phase r →
          s.resume env i awaited now = ⟨r, s.status, s.sends.set i ⟨t.started, phase⟩,
            s.calls ++ phase.requests⟩ := by
        intro t work phase r ht hwork hres
        simp only [Session.resume, ht, hwork, hres]
      cases ht : s.sends[i]? with
      | none =>
          left
          simp only [Session.resume, ht]
      | some t =>
          cases hwork : sendResume env s.status t.started now t.phase awaited with
          | none =>
              left
              simp only [Session.resume, ht, hwork]
          | some work =>
              cases hres : work s.repository with
              | error e r =>
                  left
                  simp only [Session.resume, ht, hwork, hres]
              | ok phase r =>
                  have hstep := hrepository ht hwork hres
                  rw [hstep]
                  have hresumed := sendResume_ok hwork hres
                  have hlive := sendResume_live hwork
                  generalize hphase : t.phase = ph at hresumed
                  cases hresumed with
                  | authorise _ _ _ _ => exact .inl (List.append_nil _)
                  | reply _ => exact .inl (List.append_nil _)
                  | settle _ _ => exact .inl (List.append_nil _)
                  | call hr hget hstate hopen =>
                      right
                      next current outbox =>
                      -- a send that is live finds its own record
                      have hown : current = t.started := by
                        obtain ⟨p, hp, -, hcurrent⟩ := (h.live ht hlive).current
                        rw [hget] at hp
                        obtain rfl := Option.some.inj hp
                        rcases hcurrent with ⟨-, heq⟩ | hover
                        · exact heq
                        · rw [hstate] at hover
                          exact absurd hover (by decide)
                      subst hown
                      have hfulfilled : awaited = .fulfilled := by
                        rw [hphase] at hwork
                        cases awaited with
                        | fulfilled => rfl
                        | replied result => cases hwork
                        | rejected message =>
                            cases hwork
                            obtain ⟨p', -, hsettled⟩ := settleWith_ok hres
                            cases hsettled
                      obtain ⟨hactive, hnone⟩ := isBlocked_false hopen
                      refine ⟨t, _, rfl, ⟨⟨i, now, by rw [hfulfilled], ht, hphase⟩, rfl, hget,
                        hstate, hactive, hnone, ?_, ?_⟩⟩
                      · intro j u hu hflight hsame
                        have hij := h.unique hu ht (inFlight_live hflight) hlive hsame
                        rw [hij, ht] at hu
                        rw [← Option.some.inj hu, hphase] at hflight
                        cases hflight
                      · rw [hnext, hstep]
                        exact hr

/-! ## Packages that are not sent again -/

/-- The package has a message and is not on the way to being sent. -/
structure Shut (r : Repository) (k : String) : Prop where
  message : r.HasMessage k
  current : ∃ p, r.getPackage k = some p ∧ p.state ≠ .queued ∧ p.state ≠ .sending ∧
    (p.state = .failed → p.interventionRequired = true)

variable {k : String}

theorem Shut.restored (h : Shut r k) (hr : Restored r r') : Shut r' k := by
  obtain ⟨p, hp, hcurrent⟩ := h.current
  refine ⟨?_, p, by rw [hr.getPackage, hp], hcurrent⟩
  have := h.message
  rwa [Repository.HasMessage, Repository.getOutboxForPackage, hr.outbox]

theorem Shut.worked {k packageId : String} {q : DeliveryPackageRecord} (h : Shut r k)
    (hw : Worked r r' packageId q) : Shut r' k := by
  cases hw with
  | kept heq _ _ => exact heq ▸ h
  | moved p m hid hmoves hedge =>
      obtain ⟨p₀, hp₀, hqueued, hsending, hfailed⟩ := h.current
      refine ⟨(hmoves.outbox.hasMessage k).mpr h.message, ?_⟩
      by_cases hk : k = p.packageId
      · rw [hk, hmoves.before] at hp₀
        obtain rfl := Option.some.inj hp₀
        refine ⟨q, by rw [getPackage_moves hmoves, if_pos hk], ?_⟩
        -- only cancellations and observations start here
        cases hedge with
        | claims h _ _ => exact absurd h hqueued
        | requeues h hno _ _ =>
            rw [hfailed h] at hno
            cases hno
        | pends h _ => exact absurd h hsending
        | fails h _ => exact absurd h hsending
        | cancels _ h' _ _ _ =>
            rw [h']
            refine ⟨by decide, by decide, fun h => ?_⟩
            cases h
        | sends _ h' _ =>
            rw [h']
            refine ⟨by decide, by decide, fun h => ?_⟩
            cases h
      · exact ⟨p₀, by rw [getPackage_moves hmoves, if_neg hk, hp₀], hqueued, hsending, hfailed⟩

theorem Shut.workerSteps (h : Shut r k) (hsteps : WorkerSteps r r') : Shut r' k := by
  induction hsteps with
  | refl => exact h
  | tail _ hstep ih =>
      rcases hstep with hrestored | ⟨packageId, q, hworked⟩
      · exact ih.restored hrestored
      · exact ih.worked hworked

theorem Shut.freezes (hids : Function.Injective env.ids) (hkept : Kept env r) {readers : Readers}
    {command : ConfirmPackageCommand} {exact : ExactApprovals} (h : Shut r k)
    (hf : Freezes env readers command exact r r') : Shut r' k := by
  refine ⟨(hf.hasMessage hids hkept k).mpr (.inl h.message), ?_⟩
  by_cases hk : k = command.packageId
  · refine ⟨confirmedPackage command exact, ?_, ?_⟩
    · rw [Repository.getPackage, hf.packages, hk]
      exact Table.get?_put_self _ _
    · have hwaiting : (confirmedPackage command exact).state ≠ .queued := by
        intro hqueued
        have hnone := (hf.queued hqueued).1
        have hsome := h.message
        rw [Repository.HasMessage, hk, hnone] at hsome
        cases hsome
      have hwaits := confirmedPackage_waits command exact hwaiting
      refine ⟨hwaiting, fun hstate => ?_, fun hstate => ?_⟩
      · rw [hstate] at hwaits
        cases hwaits
      · rw [hstate] at hwaits
        cases hwaits
  · obtain ⟨p, hp, hcurrent⟩ := h.current
    refine ⟨p, ?_, hcurrent⟩
    rw [Repository.getPackage, hf.packages,
      Table.get?_put_of_ne r.packages (confirmedPackage command exact) hk]
    exact hp

/-- Nor is a send on it live. -/
structure Closed (s : Session) (k : String) : Prop where
  shut : Shut s.repository k
  idle : ∀ {i : Nat} {t : SendTask}, s.sends[i]? = some t → t.phase.live = true →
    t.started.packageId ≠ k

/-- A live send was live before the step, or has just claimed a queued
package. -/
theorem next_live (h : Sound env s) (a : Label) {i : Nat} (ht : (s.next env a).sends[i]? = some t)
    (hlive : t.phase.live = true) :
    (∃ t₀ : SendTask, s.sends[i]? = some t₀ ∧ t₀.phase.live = true ∧ t₀.started = t.started) ∨
      ∃ p, s.repository.getPackage t.started.packageId = some p ∧ p.state = .queued := by
  cases a with
  | confirm readers command => exact .inl ⟨t, ht, hlive, rfl⟩
  | cancelPackage packageId reason now => exact .inl ⟨t, ht, hlive, rfl⟩
  | retry packageId now => exact .inl ⟨t, ht, hlive, rfl⟩
  | markProviderSent packageId providerReference now => exact .inl ⟨t, ht, hlive, rfl⟩
  | setStatus status => exact .inl ⟨t, ht, hlive, rfl⟩
  | send packageId now cancelNow =>
      have ht : (s.send env packageId now cancelNow).sends[i]? = some t := ht
      unfold Session.send at ht
      split at ht
      · next started phase r hres =>
          by_cases hi : i < s.sends.length
          · rw [List.getElem?_append_left hi] at ht
            exact .inl ⟨t, ht, hlive, rfl⟩
          · rw [List.getElem?_append_right (by omega), List.getElem?_singleton] at ht
            split at ht
            · obtain rfl := Option.some.inj ht
              right
              cases sendStart_ok hres with
              | go hworked hstate _ => exact (Live.claimed h.kept hworked hstate).2
              | ended _ _ _ _ => cases hlive
            · cases ht
      · exact .inl ⟨t, ht, hlive, rfl⟩
  | resume j awaited now =>
      left
      have ht : (s.resume env j awaited now).sends[i]? = some t := ht
      have old : ∀ {t₀ : SendTask} {phase : SendPhase}, s.sends[j]? = some t₀ →
          t₀.phase.live = true → (s.sends.set j ⟨t₀.started, phase⟩)[i]? = some t →
          ∃ t₁ : SendTask, s.sends[i]? = some t₁ ∧ t₁.phase.live = true ∧
            t₁.started = t.started := by
        intro t₀ phase ht₀ hlive₀ hset
        by_cases hij : j = i
        · subst hij
          rw [List.getElem?_set_self (List.getElem?_eq_some_iff.mp ht₀).1] at hset
          refine ⟨t₀, ht₀, hlive₀, ?_⟩
          rw [← Option.some.inj hset]
        · rw [List.getElem?_set_ne hij] at hset
          exact ⟨t, hset, hlive, rfl⟩
      unfold Session.resume at ht
      split at ht
      · exact ⟨t, ht, hlive, rfl⟩
      · next t₀ ht₀ =>
          split at ht
          · exact ⟨t, ht, hlive, rfl⟩
          · next work hwork =>
              split at ht
              · exact old ht₀ (sendResume_live hwork) ht
              · exact old ht₀ (sendResume_live hwork) ht

theorem Closed.next (hids : Function.Injective env.ids) (h : Sound env s) (hk : Closed s k)
    (a : Label) : Closed (s.next env a) k := by
  refine ⟨?_, fun {i t} ht hlive hsame => ?_⟩
  · by_cases hconfirm : ∃ readers command, a = .confirm readers command
    · obtain ⟨readers, command, rfl⟩ := hconfirm
      show Shut (Tx.after (confirm env readers command s.repository)) k
      cases hx : confirm env readers command s.repository with
      | ok result r' =>
          rcases confirm_ok hx with heq | ⟨exact, hfreezes⟩
          · exact heq ▸ hk.shut
          · exact hk.shut.freezes hids h.kept hfreezes
      | error e r' => exact hk.shut.restored (confirm_atomic readers command hx)
    · refine hk.shut.workerSteps (next_workerSteps env s a fun readers command heq => ?_)
      exact hconfirm ⟨readers, command, heq⟩
  · rcases next_live h a ht hlive with ⟨t₀, ht₀, hlive₀, hstarted⟩ | ⟨p, hp, hqueued⟩
    · exact hk.idle ht₀ hlive₀ (hstarted ▸ hsame)
    · obtain ⟨q, hq, hnot, -⟩ := hk.shut.current
      rw [hsame, hq] at hp
      exact hnot (Option.some.inj hp ▸ hqueued)

/-- The requests handed to the provider for a package. -/
def Session.callsFor (s : Session) (k : String) : List DeliveryProviderRequest :=
  s.calls.filter fun request => request.packageId = k

theorem Closed.callsFor (h : Sound env s) (hk : Closed s k) (a : Label) :
    (s.next env a).callsFor k = s.callsFor k := by
  rcases next_calls h a with hsame | ⟨t, request, hcalls, hcall⟩
  · rw [Session.callsFor, hsame]
    rfl
  · obtain ⟨i, now, -, ht, hphase⟩ := hcall.turn
    have hne : request.packageId ≠ k := by
      rw [hcall.addressed]
      exact hk.idle ht (by rw [hphase]; rfl)
    have hnone : [request].filter (fun request => request.packageId = k) = [] := by
      simpa using hne
    rw [Session.callsFor, hcalls, List.filter_append, hnone, List.append_nil]
    rfl

/-- An outcome after which a package is not to be sent automatically. -/
def Final (p : DeliveryPackageRecord) : Prop :=
  p.state = .unknown ∨ p.state = .providerAccepted ∨ p.interventionRequired = true

theorem Sound.closed (h : Sound env s) {p : DeliveryPackageRecord}
    (hp : s.repository.getPackage k = some p) (hfinal : Final p) : Closed s k := by
  refine ⟨⟨h.kept.messages k p hp ?_, p, hp, ?_, ?_, ?_⟩, ?_⟩
  · rcases hfinal with hstate | hstate | hflag
    · exact .inl (by rw [hstate]; rfl)
    · exact .inl (by rw [hstate]; rfl)
    · exact .inr hflag
  · intro hqueued
    rcases hfinal with hstate | hstate | hflag
    · rw [hqueued] at hstate
      cases hstate
    · rw [hqueued] at hstate
      cases hstate
    · exact (h.kept.flags k p hp hflag).1 hqueued
  · intro hsending
    rcases hfinal with hstate | hstate | hflag
    · rw [hsending] at hstate
      cases hstate
    · rw [hsending] at hstate
      cases hstate
    · exact (h.kept.flags k p hp hflag).2 hsending
  · intro hfailed
    rcases hfinal with hstate | hstate | hflag
    · rw [hfailed] at hstate
      cases hstate
    · rw [hfailed] at hstate
      cases hstate
    · exact hflag
  · intro i t ht hlive hk
    obtain ⟨q, hq, hflag', hcurrent⟩ := (h.live ht hlive).current
    rw [hk, hp] at hq
    obtain rfl := Option.some.inj hq
    rcases hfinal with hstate | hstate | hflag
    · rcases hcurrent with ⟨hsending, -⟩ | hover
      · rw [hstate] at hsending
        cases hsending
      · rw [hstate] at hover
        exact absurd hover (by decide)
    · rcases hcurrent with ⟨hsending, -⟩ | hover
      · rw [hstate] at hsending
        cases hsending
      · rw [hstate] at hover
        exact absurd hover (by decide)
    · rw [hflag] at hflag'
      cases hflag'

/-- What holds of an unfinished outcome holds for the rest of the run. -/
theorem Sound.callsFor_later (hids : Function.Injective env.ids) {s s' : Session}
    (hs : (system env).Reachable TSys.any s) (hl : (system env).Later TSys.any s s')
    (hk : Closed s k) : s'.callsFor k = s.callsFor k := by
  have hstep : ∀ t a t', Sound env t → (Closed t k ∧ t.callsFor k = s.callsFor k) → TSys.any t a →
      (system env).Step t a t' → Closed t' k ∧ t'.callsFor k = s.callsFor k := by
    rintro t a t' hsound ⟨hclosed, hcalls⟩ - rfl
    exact ⟨hclosed.next hids hsound a, (hclosed.callsFor hsound a).trans hcalls⟩
  exact ((sound_inductive hids).stable hstep hs hl ⟨hk, rfl⟩).2

variable (env) in
/-- **No duplicate or forbidden send.** In every reachable state, for every
interleaving: two calls in flight are on different packages; a step that calls
the provider does so for the package its own send claimed and that still is
that record, `sending`, the job not cancelled, no commissioned module
withdrawn, and no other call on the package in flight; and a package whose
outcome is unknown, accepted or in need of intervention is never handed to the
provider again. -/
theorem no_forbidden_send (hids : Function.Injective env.ids) {s : Session}
    (hs : (system env).Reachable TSys.any s) :
    (∀ (i j : Nat) (t u : SendTask), s.sends[i]? = some t → s.sends[j]? = some u →
      t.phase.inFlight = true → u.phase.inFlight = true →
      t.started.packageId = u.started.packageId → i = j) ∧
    (∀ a, (s.next env a).calls = s.calls ∨
      ∃ t request, (s.next env a).calls = s.calls ++ [request] ∧ Calls env s a t request) ∧
    (∀ k p, s.repository.getPackage k = some p → Final p →
      ∀ s', (system env).Later TSys.any s s' → s'.callsFor k = s.callsFor k) := by
  have hsound := (sound_inductive hids).invariant hs
  refine ⟨fun i j t u ht hu hflight hflight' hsame => ?_, next_calls hsound,
    fun k p hp hfinal s' hl => ?_⟩
  · exact hsound.unique ht hu (inFlight_live hflight) (inFlight_live hflight') hsame
  · exact Sound.callsFor_later hids hs hl (hsound.closed hp hfinal)

namespace Reopened

theorem ids_injective : Function.Injective host.ids := by
  intro n m h
  have hlists : String.ofList (Json.natText n) = String.ofList (Json.natText m) :=
    (String.append_right_inj "id-").mp h
  exact Json.natText_injective (String.ofList_injective hlists)

/-- Where the first send of the queued package stands after its hook. -/
def claimed : Session :=
  (queued.next host (.send "package-1" "2026-07-14T08:01:00.000Z" "2026-07-14T08:01:00.000Z")).next
    host (.resume 0 .fulfilled "2026-07-14T08:02:00.000Z")

theorem claimed_reachable : (system host).Reachable TSys.any claimed :=
  (queued_reachable.step trivial rfl).step trivial rfl

/-- The guards at the step that follows the authorised egress. -/
theorem no_forbidden_send_claimed :
    (claimed.next host (.resume 0 .fulfilled "2026-07-14T08:03:00.000Z")).calls = claimed.calls ∨
      ∃ t request, (claimed.next host (.resume 0 .fulfilled "2026-07-14T08:03:00.000Z")).calls =
        claimed.calls ++ [request] ∧
        Calls host claimed (.resume 0 .fulfilled "2026-07-14T08:03:00.000Z") t request :=
  (no_forbidden_send host ids_injective claimed_reachable).2.1 _

end Reopened

end InspectionHub.Delivery
