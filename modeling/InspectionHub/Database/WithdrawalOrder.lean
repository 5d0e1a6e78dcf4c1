import InspectionHub.Database.RecipientDemo

/-!
# Withdrawal decisions of statements that overlap

`command_recipient_demo_set_module_withdrawal` in transactions that run at once.
A statement's time is taken when it starts and its advisory lock is acquired
later; readers order the events by the time, so a decision that waited for the
lock is not the newest one when it is committed (`last_decision_wins_iff`).
-/

namespace InspectionHub.Database

/-! ## The newest event -/

namespace ModuleEvent

/-- The place of an event in the order of the readers. -/
def place (e : ModuleEvent) : ℤ ×ₗ String := toLex (e.recordedAt, e.id.text)

theorem upTo_iff {a b : ModuleEvent} : a.upTo b ↔ a.place ≤ b.place := by
  unfold place
  rw [Prod.Lex.toLex_le_toLex]
  exact Iff.rfl

end ModuleEvent

/-- No event of the list comes after it. -/
def Newest (events : List ModuleEvent) (e : ModuleEvent) : Prop :=
  e ∈ events ∧ ∀ other ∈ events, other.upTo e

/-- Events with different identifiers. -/
abbrev Identified (events : List ModuleEvent) : Prop :=
  events.Pairwise fun a b => ¬ a.clash b

variable {events : List ModuleEvent}

theorem Newest.unique (h : Identified events) {a b : ModuleEvent} (ha : Newest events a)
    (hb : Newest events b) : a = b := by
  have hplace : a.place = b.place :=
    le_antisymm (ModuleEvent.upTo_iff.mp (hb.2 a ha.1)) (ModuleEvent.upTo_iff.mp (ha.2 b hb.1))
  have hid : a.id.text = b.id.text := congrArg (fun p => (ofLex p).2) hplace
  have hnodup : (events.map ModuleEvent.id).Nodup := List.pairwise_map.mpr h
  exact List.inj_on_of_nodup_map hnodup ha.1 hb.1 (Uuid.text_injective hid)

theorem exists_newest (h : events ≠ []) : ∃ e, Newest events e := by
  obtain ⟨e, he, hmax⟩ := events.toFinset.exists_max_image ModuleEvent.place
    ((List.toFinset_nonempty_iff events).mpr h)
  refine ⟨e, List.mem_toFinset.mp he, fun other hother => ?_⟩
  exact ModuleEvent.upTo_iff.mpr (hmax other (List.mem_toFinset.mpr hother))

/-- It is what the query finds. -/
theorem Newest.latestEvent (h : Identified events) {e : ModuleEvent} (hnewest : Newest events e) :
    latestEvent events = some e := by
  cases hfind : Database.latestEvent events with
  | none =>
      have hnone := List.find?_eq_none.mp hfind e hnewest.1
      refine absurd (List.all_eq_true.mpr fun other hother => ?_) hnone
      exact decide_eq_true (hnewest.2 other hother)
  | some other =>
      have hall := List.find?_some hfind
      have hother : Newest events other := ⟨List.mem_of_find?_eq_some hfind, fun x hx =>
        of_decide_eq_true (List.all_eq_true.mp hall x hx)⟩
      rw [hother.unique h hnewest]

/-- Readers take a module for withdrawn if the newest of its events says so. -/
theorem any_latestEvent_iff (h : Identified events) (b : Bool) (hne : events ≠ []) :
    (latestEvent events).any (fun e => e.state = .withdrawn) = b ↔
      ∀ e, Newest events e → (e.state = .withdrawn ↔ b = true) := by
  obtain ⟨e, he⟩ := exists_newest hne
  rw [he.latestEvent h, Option.any_some]
  constructor
  · rintro rfl other hother
    rw [hother.unique h he, decide_eq_true_iff]
  · intro hall
    rw [Bool.eq_iff_iff, decide_eq_true_iff]
    exact hall e he

/-- What one event more makes of it. -/
theorem any_latestEvent_snoc {e : ModuleEvent} (h : Identified (events ++ [e])) :
    (latestEvent (events ++ [e])).any (fun e => e.state = .withdrawn) =
        decide (e.state = .withdrawn) ↔
      ∀ newest, Newest events newest → e.upTo newest →
        (newest.state = .withdrawn ↔ e.state = .withdrawn) := by
  rw [any_latestEvent_iff h _ (by simp)]
  simp only [decide_eq_true_eq]
  constructor
  · intro hall newest hnewest hover
    refine hall newest ⟨List.mem_append_left _ hnewest.1, fun other hother => ?_⟩
    rcases List.mem_append.mp hother with hother | hother
    · exact hnewest.2 other hother
    · rwa [List.mem_singleton.mp hother]
  · intro hall newest hnewest
    rcases List.mem_append.mp hnewest.1 with hmem | hmem
    · refine hall newest ⟨hmem, fun other hother => ?_⟩ ?_
      · exact hnewest.2 other (List.mem_append_left _ hother)
      · exact hnewest.2 e (List.mem_append_right _ List.mem_cons_self)
    · rw [List.mem_singleton.mp hmem]

/-! ## Transactions that overlap -/

/-- A call of the command, from the start of its statement. -/
structure WithdrawalCall where
  module : Option String
  withdrawn : Option Bool
  startedAt : Int

/-- `case when target_withdrawn then 'withdrawn' else 'restored' end` -/
def WithdrawalCall.decision (call : WithdrawalCall) : Bool := call.withdrawn = some true

/-- The tables, the statements that wait for the lock, and the transaction that holds it with
the id it drew and the tables it sees. -/
structure WithdrawalStore where
  committed : DemoTables
  now : Int
  waiting : List WithdrawalCall
  holder : Option (WithdrawalCall × Uuid × DemoTables)

inductive WithdrawalStep where
  | call (elapsed : Nat) (module : Option String) (withdrawn : Option Bool)
  /-- `pg_advisory_xact_lock` returns for a statement that waits, and its insert runs. -/
  | acquire (index : Nat) (id : Uuid)
  | commit
  | rollback

namespace WithdrawalStore

def perform (s : WithdrawalStore) : WithdrawalStep → WithdrawalStore
  | .call elapsed module withdrawn =>
      let now := s.now + elapsed
      -- the check of the argument comes before the lock
      if module.any fun m => (DemoTables.moduleTypeOf? m).isNone then { s with now }
      else { s with now, waiting := s.waiting ++ [⟨module, withdrawn, now⟩] }
  | .acquire index id =>
      match s.holder, s.waiting[index]? with
      | none, some call =>
          let waiting := s.waiting.eraseIdx index
          match s.committed.setModuleWithdrawal call.startedAt id call.module call.withdrawn with
          | .ok tables => { s with waiting, holder := some (call, id, tables) }
          | .error _ => { s with waiting }
      | _, _ => s
  | .commit =>
      match s.holder with
      | some (_, _, tables) => { s with committed := tables, holder := none }
      | none => s
  | .rollback => { s with holder := none }

/-- The holder's tables are the committed ones after its command. -/
def Performed (s : WithdrawalStore) : Prop :=
  ∀ call id tables, s.holder = some (call, id, tables) →
    s.committed.setModuleWithdrawal call.startedAt id call.module call.withdrawn = .ok tables

/-- The decision that is committed is what readers see. -/
def LastWins (s : WithdrawalStore) : WithdrawalStep → Prop
  | .commit => ∀ call id tables, s.holder = some (call, id, tables) →
      moduleIsWithdrawn (s.perform .commit).committed.moduleEvents.rows call.module = call.decision
  | _ => True

/-- The newest event of the module does not come after the holder's, or decides the same. -/
def InOrder (s : WithdrawalStore) : WithdrawalStep → Prop
  | .commit => ∀ call id tables, s.holder = some (call, id, tables) → ∀ newest,
      Newest (s.committed.moduleEvents.rows.filter fun e =>
        call.module = some e.moduleType.text) newest →
      call.startedAt < newest.recordedAt ∨
        (call.startedAt = newest.recordedAt ∧ id.text ≤ newest.id.text) →
      (newest.state = .withdrawn ↔ call.decision = true)
  | _ => True

theorem performed_perform (s : WithdrawalStore) (step : WithdrawalStep) (h : s.Performed) :
    (s.perform step).Performed := by
  cases step with
  | call elapsed module withdrawn =>
      unfold perform
      dsimp only
      split <;> exact h
  | acquire index id =>
      unfold perform
      dsimp only
      split
      · split
        · next htables =>
            rintro call id tables ⟨⟩
            exact htables
        · exact h
      · exact h
  | commit =>
      unfold perform
      dsimp only
      split
      · exact fun _ _ _ hnone => nomatch hnone
      · exact h
  | rollback => exact fun _ _ _ hnone => nomatch hnone

end WithdrawalStore

/-- What the command adds. -/
theorem DemoTables.setModuleWithdrawal_ok {now : Int} {id : Uuid} {module : Option String}
    {withdrawn : Option Bool} {db tables : DemoTables}
    (h : db.setModuleWithdrawal now id module withdrawn = .ok tables) :
    ∃ moduleType : Domain.ModuleType, module = some moduleType.text ∧
      tables.moduleEvents.rows = db.moduleEvents.rows ++
        [⟨id, moduleType, if withdrawn = some true then .withdrawn else .restored, now⟩] := by
  obtain ⟨-, h⟩ := Sql.check_ok h
  obtain ⟨moduleType, hmodule, h⟩ := Sql.bind_ok h
  obtain ⟨next, -, h⟩ := Sql.bind_ok h
  cases h
  obtain ⟨text, rfl, htype⟩ := Option.bind_eq_some_iff.mp (Sql.notNull_ok hmodule)
  have htext := List.find?_some htype
  exact ⟨moduleType, congrArg some (of_decide_eq_true htext).symm, next.2⟩

namespace WithdrawalStore

theorem lastWins_iff (s : WithdrawalStore) (step : WithdrawalStep) (h : s.Performed) :
    s.LastWins step ↔ s.InOrder step := by
  cases step with
  | call | acquire | rollback => exact Iff.rfl
  | commit =>
      refine forall_congr' fun call => forall_congr' fun id => forall_congr' fun tables =>
        forall_congr' fun hholder => ?_
      obtain ⟨moduleType, hmodule, hrows⟩ := DemoTables.setModuleWithdrawal_ok (h _ _ _ hholder)
      have hcommitted : (s.perform .commit).committed = tables := by simp only [perform, hholder]
      have hidentified := tables.moduleEvents.distinct
      rw [hrows] at hidentified
      have hsplit := hidentified.filter fun e => call.module = some e.moduleType.text
      unfold moduleIsWithdrawn
      rw [List.filter_append, List.filter_cons_of_pos (by simpa using hmodule),
        List.filter_nil] at hsplit
      rw [hcommitted, hrows, List.filter_append, List.filter_cons_of_pos (by simpa using hmodule),
        List.filter_nil]
      have hsnoc := any_latestEvent_snoc hsplit
      by_cases hdecision : call.withdrawn = some true <;>
        simpa [WithdrawalCall.decision, hdecision, ModuleEvent.upTo] using hsnoc

end WithdrawalStore

/-- **The last decision.** Whatever overlaps, each decision is what readers see once it is
committed exactly if no opposite decision on its module that started later was committed
before it. -/
theorem last_decision_wins_iff (db : DemoTables) (now : Int) (l : List WithdrawalStep) :
    (∀ before step after, l = before ++ step :: after →
      (before.foldl WithdrawalStore.perform ⟨db, now, [], none⟩).LastWins step) ↔
    ∀ before step after, l = before ++ step :: after →
      (before.foldl WithdrawalStore.perform ⟨db, now, [], none⟩).InOrder step :=
  TSys.along_iff WithdrawalStore.perform WithdrawalStore.Performed WithdrawalStore.LastWins
    WithdrawalStore.InOrder (fun s step h _ => s.performed_perform step h)
    (fun s step h => s.lastWins_iff step h) (by
      rintro call id tables ⟨⟩) l

namespace Sample

/-- A restoration starts, a withdrawal overtakes it, and both commit. -/
def overtaken : List WithdrawalStep :=
  [.call 1 (some "building") (some false), .call 1 (some "building") (some true),
    .acquire 1 ⟨"aaaaaaaa-0000-4000-8000-000000000001", @rfl _ true⟩, .commit,
    .acquire 0 ⟨"aaaaaaaa-0000-4000-8000-000000000002", by decide⟩]

/-- The restoration is committed last, and the module stays withdrawn. -/
theorem overtaken_decision_lost :
    ¬ ∀ (l : List WithdrawalStep) before step after, l = before ++ step :: after →
      (before.foldl WithdrawalStore.perform ⟨.empty, 0, [], none⟩).LastWins step := by
  intro hall
  have hlost : (overtaken.foldl WithdrawalStore.perform ⟨.empty, 0, [], none⟩).holder.any
      (fun held => moduleIsWithdrawn held.2.2.moduleEvents.rows held.1.module !=
        held.1.decision) = true := by decide +kernel
  obtain ⟨⟨call, id, tables⟩, hholder, hlost⟩ := (Option.any_eq_true _ _).mp hlost
  have hlast := hall (overtaken ++ [.commit]) overtaken .commit [] rfl call id tables hholder
  simp only [WithdrawalStore.perform, hholder] at hlast
  exact bne_iff_ne.mp hlost hlast

end Sample

end InspectionHub.Database
