import InspectionHub.Inspection.LocalRepository
import InspectionHub.Lib.TSys

/-!
# Concurrent saves

The saves of an inspection that commit carry the revisions 0, 1, 2, … The open
transaction sees the committed tables and what it wrote itself, so the revision
it matched is still the stored one when it commits.
-/

namespace InspectionHub.Inspection

/-! ## What the tables hold -/

/-- The compare-and-sets of one aggregate. -/
def filedUnder (key : AggregateKey) (l : List CompareAndSet) : List CompareAndSet :=
  l.filter fun c => c.snapshot.key = key

/-- The tables hold what the compare-and-sets wrote, in their order. -/
structure Consistent (tables : LocalTables) (l : List CompareAndSet) : Prop where
  revisions : ∀ key, (filedUnder key l).map (·.snapshot.aggregateRevision) =
    List.range (filedUnder key l).length
  snapshots : ∀ key, tables.snapshots.get? key = (filedUnder key l).getLast?.map (·.snapshot)
  events : tables.events = l.map (·.event)

/-- What `saveAggregate` passes: the next revision, with its event. -/
structure CompareAndSet.WellFormed (c : CompareAndSet) : Prop where
  eventKey : c.event.key = c.snapshot.key
  eventRevision : c.event.aggregateRevision = c.snapshot.aggregateRevision
  eventSha256 : c.event.snapshotSha256 = c.snapshot.snapshotSha256
  next : (c.snapshot.aggregateRevision : ℚ) = requiredRevision c.expectedStoredRevision

/-- The stored revision is the one expected. -/
def LocalTables.Matches (tables : LocalTables) (c : CompareAndSet) : Prop :=
  (tables.currentRevision c.snapshot.key).map (Nat.cast (R := ℚ)) = c.expectedStoredRevision

theorem filedUnder_snoc (key : AggregateKey) (l : List CompareAndSet) (c : CompareAndSet) :
    filedUnder key (l ++ [c]) =
      if c.snapshot.key = key then filedUnder key l ++ [c] else filedUnder key l := by
  unfold filedUnder
  rw [List.filter_append]
  split
  · rename_i h
    rw [List.filter_cons_of_pos (by simpa using h), List.filter_nil]
  · rename_i h
    rw [List.filter_cons_of_neg (by simpa using h), List.filter_nil, List.append_nil]

namespace Consistent

variable {tables : LocalTables} {l : List CompareAndSet} {c : CompareAndSet}

theorem empty : Consistent ⟨.empty, []⟩ [] where
  revisions _ := rfl
  snapshots _ := rfl
  events := rfl

/-- The stored revision is the number of saves before the last one. -/
theorem currentRevision (h : Consistent tables l) (key : AggregateKey) :
    tables.currentRevision key =
      if (filedUnder key l).length = 0 then none else some ((filedUnder key l).length - 1) := by
  have hlast : (filedUnder key l).getLast?.map (·.snapshot.aggregateRevision) =
      (List.range (filedUnder key l).length).getLast? := by
    rw [← h.revisions key, List.getLast?_map]
  unfold LocalTables.currentRevision
  rw [h.snapshots key, Option.map_map]
  refine hlast.trans ?_
  rw [List.getLast?_range]

/-- A save that finds the revision it expects carries the next one. -/
theorem next_revision (h : Consistent tables l) (hc : c.WellFormed) (hmatches : tables.Matches c) :
    c.snapshot.aggregateRevision = (filedUnder c.snapshot.key l).length := by
  have hnext := hc.next
  unfold LocalTables.Matches at hmatches
  rw [h.currentRevision] at hmatches
  by_cases hzero : (filedUnder c.snapshot.key l).length = 0
  · rw [if_pos hzero] at hmatches
    rw [← hmatches, Option.map_none, requiredRevision] at hnext
    rw [hzero]
    exact_mod_cast hnext
  · rw [if_neg hzero] at hmatches
    rw [← hmatches, Option.map_some, requiredRevision] at hnext
    have hpos : ((filedUnder c.snapshot.key l).length - 1) + 1 =
        (filedUnder c.snapshot.key l).length := Nat.sub_add_cancel (Nat.pos_of_ne_zero hzero)
    rw [← hpos]
    exact_mod_cast hnext

/-- Both writes of a save that matched. -/
theorem snoc (h : Consistent tables l) (hc : c.WellFormed) (hmatches : tables.Matches c) :
    Consistent ⟨tables.snapshots.set c.snapshot.key c.snapshot, tables.events ++ [c.event]⟩
      (l ++ [c]) where
  revisions key := by
    rw [filedUnder_snoc]
    split
    · rename_i hkey
      subst hkey
      rw [List.map_append, h.revisions, List.length_append, List.length_singleton, List.range_succ,
        List.map_singleton, h.next_revision hc hmatches]
    · exact h.revisions key
  snapshots key := by
    rw [filedUnder_snoc]
    split
    · rename_i hkey
      subst hkey
      rw [OMap.get?_set_self, List.getLast?_concat]
      rfl
    · rename_i hkey
      rw [OMap.get?_set_of_ne _ _ (Ne.symm hkey)]
      exact h.snapshots key
  events := by rw [List.map_append, h.events, List.map_singleton]

end Consistent

/-! ## The open transaction -/

/-- The tables that the statements done so far have made of the committed ones. -/
def Transaction.made (committed : LocalTables) (transaction : Transaction) : LocalTables :=
  let c := transaction.input
  match transaction.stage with
  | .begun | .matched => committed
  | .snapshotWritten =>
      { committed with snapshots := committed.snapshots.set c.snapshot.key c.snapshot }
  | .eventWritten =>
      ⟨committed.snapshots.set c.snapshot.key c.snapshot, committed.events ++ [c.event]⟩

/-- A transaction over the committed tables. -/
structure Transaction.Over (committed : LocalTables) (transaction : Transaction) : Prop where
  tables : transaction.tables = transaction.made committed
  matched : transaction.stage ≠ .begun → committed.Matches transaction.input

/-! ## The saves -/

variable {env : SaveEnv}

/-- What a save has come to. -/
def LocalSave.Sound (env : SaveEnv) (accepted : List (Nat × CompareAndSet)) (i : Nat)
    (pending : LocalSave) : Prop :=
  match pending.stage with
  | .digest => checkSave env pending.input = .ok ()
  | .compareAndSet c => checkSave env pending.input = .ok () ∧
      ∃ sha256, c = pending.input.compareAndSet env sha256
  | .settled (.ok ()) => ∃ sha256, (i, pending.input.compareAndSet env sha256) ∈ accepted
  | .settled (.error _) => True

/-- What holds of the repository whatever the order of the awaits. -/
structure LocalStore.Held (env : SaveEnv) (s : LocalStore) : Prop where
  consistent : Consistent s.tables (s.accepted.map Prod.snd)
  open_save : ∀ transaction, s.transaction = some transaction →
    ∃ input, s.saves[transaction.save]? = some ⟨input, .compareAndSet transaction.input⟩
  overTables : ∀ transaction, s.transaction = some transaction → transaction.Over s.tables
  saves : ∀ i pending, s.saves[i]? = some pending →
    LocalSave.Sound env s.accepted i pending
  accepted : ∀ e ∈ s.accepted, ∃ input, s.saves[e.1]? = some ⟨input, .settled (.ok ())⟩ ∧
    ∃ sha256, e.2 = input.compareAndSet env sha256
  once : (s.accepted.map Prod.fst).Nodup

variable {input : SaveInput}

theorem wellFormed_of_check (h : checkSave env input = .ok ()) (sha256 : String) :
    (input.compareAndSet env sha256).WellFormed where
  eventKey := rfl
  eventRevision := rfl
  eventSha256 := rfl
  next := by
    unfold checkSave at h
    split at h
    · cases h
    · rename_i hrevision
      exact Decidable.not_not.mp hrevision

namespace LocalStore

variable {s : LocalStore}

variable {pending : LocalSave} {i : Nat}

theorem setStage_self (h : s.saves[i]? = some pending) (stage : SaveStage) :
    (s.setStage i stage).saves[i]? = some { pending with stage } := by
  simp [setStage, h]

theorem setStage_of_ne {i j : Nat} (h : i ≠ j) (stage : SaveStage) :
    (s.setStage i stage).saves[j]? = s.saves[j]? := by
  simp [setStage, h]

/-- A save that waited was not accepted. -/
theorem Held.not_accepted (h : s.Held env) {stage : SaveStage}
    (hi : s.saves[i]? = some ⟨input, stage⟩) (hstage : stage ≠ .settled (.ok ())) :
    ∀ e ∈ s.accepted, e.1 ≠ i := by
  rintro e he rfl
  obtain ⟨input', hi', -⟩ := h.accepted e he
  rw [hi] at hi'
  cases hi'
  exact hstage rfl

/-- A save goes on, without the database. -/
theorem Held.setStage (h : s.Held env) {stage stage' : SaveStage}
    (hi : s.saves[i]? = some ⟨input, stage⟩) (hstage : stage ≠ .settled (.ok ()))
    (hclosed : ∀ transaction, s.transaction = some transaction → transaction.save ≠ i)
    (hsound : LocalSave.Sound env s.accepted i ⟨input, stage'⟩) :
    (s.setStage i stage').Held env where
  consistent := h.consistent
  open_save transaction htransaction := by
    rw [setStage_of_ne (hclosed transaction htransaction).symm]
    exact h.open_save transaction htransaction
  overTables := h.overTables
  saves j pending hj := by
    by_cases hij : i = j
    · subst hij
      rw [setStage_self hi] at hj
      cases hj
      exact hsound
    · rw [setStage_of_ne hij] at hj
      exact h.saves j pending hj
  accepted e he := by
    have hne := h.not_accepted hi hstage e he
    rw [setStage_of_ne hne.symm]
    exact h.accepted e he
  once := h.once

/-- A save that fails leaves the tables as they are committed. -/
theorem Held.settle_error (h : s.Held env) {stage : SaveStage}
    (hi : s.saves[i]? = some ⟨input, stage⟩) (hstage : stage ≠ .settled (.ok ())) (e : SaveError) :
    (s.settle i (.error e)).Held env := by
  have hclosed : LocalStore.Held env { s with transaction := none } :=
    ⟨h.consistent, (fun _ h => nomatch h), (fun _ h => nomatch h), h.saves, h.accepted, h.once⟩
  exact hclosed.setStage hi hstage (fun _ h => nomatch h) trivial

/-- The transaction goes on to its next statement. -/
theorem Held.setTransaction (h : s.Held env) {transaction transaction' : Transaction}
    (ht : s.transaction = some transaction) (hsave : transaction'.save = transaction.save)
    (hinput : transaction'.input = transaction.input) (hover : transaction'.Over s.tables) :
    LocalStore.Held env { s with transaction := some transaction' } where
  consistent := h.consistent
  open_save t' ht' := by
    cases ht'
    rw [hsave, hinput]
    exact h.open_save transaction ht
  overTables t' ht' := by
    cases ht'
    exact hover
  saves := h.saves
  accepted := h.accepted
  once := h.once

/-- A transaction that wrote both rows commits. -/
theorem Held.commit (h : s.Held env) {transaction : Transaction}
    (ht : s.transaction = some transaction) (hstage : transaction.stage = .eventWritten) :
    LocalStore.Held env { s.settle transaction.save (.ok ()) with
      tables := transaction.tables
      accepted := s.accepted ++ [(transaction.save, transaction.input)] } := by
  obtain ⟨input, hi⟩ := h.open_save transaction ht
  obtain ⟨hchecked, sha256, hinput⟩ := h.saves _ _ hi
  have hover := h.overTables transaction ht
  have hmatches := hover.matched (by rw [hstage]; decide)
  have htables : transaction.tables = ⟨s.tables.snapshots.set transaction.input.snapshot.key
      transaction.input.snapshot, s.tables.events ++ [transaction.input.event]⟩ := by
    rw [hover.tables, Transaction.made, hstage]
  have hnot := h.not_accepted hi (by simp)
  refine ⟨?_, (fun _ h => nomatch h), (fun _ h => nomatch h), ?_, ?_, ?_⟩
  · rw [List.map_append, htables]
    refine h.consistent.snoc ?_ hmatches
    rw [hinput]
    exact wellFormed_of_check hchecked sha256
  · intro j pending hj
    change (s.setStage transaction.save (.settled (.ok ()))).saves[j]? = some pending at hj
    by_cases hij : transaction.save = j
    · subst hij
      rw [setStage_self hi] at hj
      cases hj
      exact ⟨sha256, by rw [← hinput]; exact List.mem_append_right _ (List.mem_singleton_self _)⟩
    · rw [setStage_of_ne hij] at hj
      have hsound := h.saves j pending hj
      unfold LocalSave.Sound at hsound ⊢
      split at hsound
      · exact hsound
      · exact hsound
      · obtain ⟨sha256', hmem⟩ := hsound
        exact ⟨sha256', List.mem_append_left _ hmem⟩
      · trivial
  · intro e he
    change ∃ input, (s.setStage transaction.save (.settled (.ok ()))).saves[e.1]? = _ ∧ _
    rcases List.mem_append.mp he with he | he
    · rw [setStage_of_ne (hnot e he).symm]
      exact h.accepted e he
    · obtain rfl := List.mem_singleton.mp he
      exact ⟨input, setStage_self hi _, sha256, hinput⟩
  · rw [List.map_append, List.map_singleton]
    refine List.nodup_append.mpr ⟨h.once, List.nodup_singleton _, ?_⟩
    intro a ha b hb
    obtain ⟨e, he, rfl⟩ := List.mem_map.mp ha
    obtain rfl := List.mem_singleton.mp hb
    exact hnot e he

/-- A statement of the transaction. -/
theorem Held.proceedIn (h : s.Held env) {transaction : Transaction}
    (ht : s.transaction = some transaction) : (s.proceedIn transaction).Held env := by
  obtain ⟨input, hi⟩ := h.open_save transaction ht
  have hover := h.overTables transaction ht
  unfold LocalStore.proceedIn
  cases hstage : transaction.stage with
  | begun =>
      have htables : transaction.tables = s.tables := by
        rw [hover.tables, Transaction.made, hstage]
      dsimp only
      split
      · rename_i hmatches
        rw [htables] at hmatches
        exact h.setTransaction ht rfl rfl ⟨htables, fun _ => hmatches⟩
      · exact h.settle_error hi (by simp) _
  | matched =>
      have htables : transaction.tables = s.tables := by
        rw [hover.tables, Transaction.made, hstage]
      dsimp only
      split
      · exact h.settle_error hi (by simp) _
      · rename_i tables hupsert
        refine h.setTransaction ht rfl rfl ⟨?_, fun _ => hover.matched (by rw [hstage]; decide)⟩
        unfold LocalTables.upsert at hupsert
        split at hupsert
        · cases hupsert
          rw [htables]
          rfl
        · cases hupsert
  | snapshotWritten =>
      dsimp only
      split
      · exact h.settle_error hi (by simp) _
      · rename_i tables hinsert
        refine h.setTransaction ht rfl rfl ⟨?_, fun _ => hover.matched (by rw [hstage]; decide)⟩
        unfold LocalTables.insertEvent at hinsert
        split at hinsert
        · cases hinsert
          rw [hover.tables, Transaction.made, hstage]
          rfl
        · cases hinsert
  | eventWritten => exact h.commit ht hstage

theorem stopSave_settled (h : pending.stage = .settled (.ok ())) : stopSave pending = pending := by
  unfold stopSave
  rw [h]

theorem sound_stopSave {accepted : List (Nat × CompareAndSet)}
    (h : LocalSave.Sound env accepted i pending) :
    LocalSave.Sound env accepted i (stopSave pending) := by
  obtain ⟨input, stage⟩ := pending
  cases stage with
  | digest => trivial
  | compareAndSet c => trivial
  | settled outcome => exact h

/-- **One action.** -/
theorem Held.next (h : s.Held env) (action : StoreAction) : (s.next env action).Held env := by
  cases action with
  | call input =>
      have hold : ∀ i pending, s.saves[i]? = some pending → i < s.saves.length :=
        fun i pending hi => (List.getElem?_eq_some_iff.mp hi).1
      refine ⟨h.consistent, ?_, h.overTables, ?_, ?_, h.once⟩
      · intro transaction ht
        obtain ⟨input', hi⟩ := h.open_save transaction ht
        exact ⟨input', by rw [LocalStore.next, List.getElem?_append_left (hold _ _ hi)]; exact hi⟩
      · intro i pending hi
        rw [LocalStore.next] at hi
        rcases Nat.lt_or_ge i s.saves.length with hlt | hge
        · rw [List.getElem?_append_left hlt] at hi
          exact h.saves i pending hi
        · rw [List.getElem?_append_right hge] at hi
          have hzero : i - s.saves.length < 1 := (List.getElem?_eq_some_iff.mp hi).1
          obtain rfl : i = s.saves.length := by omega
          rw [Nat.sub_self] at hi
          cases hi
          cases hcheck : checkSave env input with
          | ok u => exact hcheck
          | error e => trivial
      · intro e he
        obtain ⟨input', hi, hinput⟩ := h.accepted e he
        exact ⟨input', by rw [LocalStore.next, List.getElem?_append_left (hold _ _ hi)]; exact hi,
          hinput⟩
  | digested save sha256 =>
      unfold LocalStore.next
      dsimp only
      split
      · rename_i input hi
        have hclosed : ∀ transaction, s.transaction = some transaction →
            transaction.save ≠ save := by
          rintro transaction ht rfl
          obtain ⟨input', hi'⟩ := h.open_save transaction ht
          rw [hi] at hi'
          cases hi'
        cases sha256 with
        | none => exact h.setStage hi (by simp) hclosed trivial
        | some sha256 =>
            exact h.setStage hi (by simp) hclosed ⟨h.saves _ _ hi, sha256, rfl⟩
      · exact h
  | proceed save =>
      unfold LocalStore.next
      dsimp only
      split
      · rename_i input c hi
        split
        · exact ⟨h.consistent, fun t ht => by cases ht; exact ⟨input, hi⟩,
            fun t ht => by cases ht; exact ⟨rfl, fun hne => absurd rfl hne⟩, h.saves, h.accepted,
            h.once⟩
        · rename_i transaction ht
          split
          · exact h.proceedIn ht
          · exact h
      · exact h
  | fails save =>
      unfold LocalStore.next
      dsimp only
      split
      · rename_i input c hi
        split
        · exact h.settle_error hi (by simp) _
        · rename_i transaction ht
          split
          · exact h.settle_error hi (by simp) _
          · rename_i hne
            refine h.setStage hi (by simp) ?_ trivial
            intro transaction' ht'
            rw [ht] at ht'
            cases ht'
            exact hne
      · exact h
  | stops =>
      refine ⟨h.consistent, (by rintro _ ⟨⟩), (by rintro _ ⟨⟩), ?_, ?_, h.once⟩
      · intro i pending hi
        rw [LocalStore.next, List.getElem?_map] at hi
        obtain ⟨pending', hi', rfl⟩ := Option.map_eq_some_iff.mp hi
        exact sound_stopSave (h.saves i pending' hi')
      · intro e he
        obtain ⟨input, hi, hinput⟩ := h.accepted e he
        refine ⟨input, ?_, hinput⟩
        rw [LocalStore.next, List.getElem?_map, hi, Option.map_some, stopSave_settled rfl]

/-- Only a commit changes the tables, and it accepts its save. -/
theorem next_tables (s : LocalStore) (action : StoreAction) :
    ((s.next env action).tables = s.tables ∧ (s.next env action).accepted = s.accepted) ∨
      ∃ i, (s.next env action).saves = (s.setStage i (.settled (.ok ()))).saves := by
  cases action with
  | call input => exact .inl ⟨rfl, rfl⟩
  | digested save sha256 =>
      unfold LocalStore.next
      dsimp only
      split
      · cases sha256 with
        | none => exact .inl ⟨rfl, rfl⟩
        | some sha256 => exact .inl ⟨rfl, rfl⟩
      · exact .inl ⟨rfl, rfl⟩
  | proceed save =>
      unfold LocalStore.next
      dsimp only
      split
      · split
        · exact .inl ⟨rfl, rfl⟩
        · rename_i transaction _
          split
          · unfold LocalStore.proceedIn
            cases transaction.stage with
            | begun =>
                dsimp only
                split
                · exact .inl ⟨rfl, rfl⟩
                · exact .inl ⟨rfl, rfl⟩
            | matched =>
                dsimp only
                split
                · exact .inl ⟨rfl, rfl⟩
                · exact .inl ⟨rfl, rfl⟩
            | snapshotWritten =>
                dsimp only
                split
                · exact .inl ⟨rfl, rfl⟩
                · exact .inl ⟨rfl, rfl⟩
            | eventWritten => exact .inr ⟨transaction.save, rfl⟩
          · exact .inl ⟨rfl, rfl⟩
      · exact .inl ⟨rfl, rfl⟩
  | fails save =>
      unfold LocalStore.next
      dsimp only
      split
      · split
        · exact .inl ⟨rfl, rfl⟩
        · split
          · exact .inl ⟨rfl, rfl⟩
          · exact .inl ⟨rfl, rfl⟩
      · exact .inl ⟨rfl, rfl⟩
  | stops => exact .inl ⟨rfl, rfl⟩

/-- A save that fails changes nothing that is stored. -/
theorem failed_keeps {action : StoreAction} {e : SaveError}
    (hbefore : s.saves[i]? ≠ some ⟨input, .settled (.error e)⟩)
    (hafter : (s.next env action).saves[i]? = some ⟨input, .settled (.error e)⟩) :
    (s.next env action).tables = s.tables ∧ (s.next env action).accepted = s.accepted := by
  rcases next_tables s action with hkept | ⟨j, hsaves⟩
  · exact hkept
  · rw [hsaves] at hafter
    by_cases hij : j = i
    · subst hij
      cases hold : s.saves[j]? with
      | none => simp [setStage, hold] at hafter
      | some pending =>
          rw [setStage_self hold] at hafter
          cases hafter
    · rw [setStage_of_ne hij] at hafter
      exact absurd hafter hbefore

end LocalStore

/-! ## Runs -/

/-- The repository over every order of its calls and awaits. -/
def localStore (env : SaveEnv) : TSys LocalStore StoreAction :=
  .ofFun .empty fun s action => s.next env action

theorem held_inductive (env : SaveEnv) :
    (localStore env).Inductive TSys.any (LocalStore.Held env) where
  init s h := by
    cases h
    exact ⟨.empty, (fun _ h => nomatch h), (fun _ h => nomatch h), (fun _ _ h => nomatch h),
      (fun _ h => nomatch h), .nil⟩
  step s action s' h _ hstep := by
    cases hstep
    exact h.next action

/-- **Compare and set.** The saves that succeed are those that committed, each
once. Of one aggregate they carry the revisions 0, 1, 2, …; the tables hold the
event of each and the snapshot of the last. A save that fails leaves them. -/
theorem local_saves (env : SaveEnv) {s : LocalStore}
    (h : (localStore env).Reachable TSys.any s) :
    (∀ (i : Nat) input, s.saves[i]? = some ⟨input, .settled (.ok ())⟩ →
      ∃ sha256, (i, input.compareAndSet env sha256) ∈ s.accepted) ∧
    (∀ e ∈ s.accepted, ∃ input, s.saves[e.1]? = some ⟨input, .settled (.ok ())⟩ ∧
      ∃ sha256, e.2 = input.compareAndSet env sha256) ∧
    (s.accepted.map Prod.fst).Nodup ∧
    (∀ key, (filedUnder key (s.accepted.map Prod.snd)).map (·.snapshot.aggregateRevision) =
      List.range (filedUnder key (s.accepted.map Prod.snd)).length) ∧
    s.tables.events = s.accepted.map (·.2.event) ∧
    (∀ key, s.tables.snapshots.get? key =
      (filedUnder key (s.accepted.map Prod.snd)).getLast?.map (·.snapshot)) ∧
    ∀ (action : StoreAction) (i : Nat) input e,
      s.saves[i]? ≠ some ⟨input, .settled (.error e)⟩ →
      (s.next env action).saves[i]? = some ⟨input, .settled (.error e)⟩ →
      (s.next env action).tables = s.tables ∧ (s.next env action).accepted = s.accepted := by
  have hheld := (held_inductive env).invariant h
  refine ⟨?_, hheld.accepted, hheld.once, hheld.consistent.revisions, ?_,
    hheld.consistent.snapshots, ?_⟩
  · intro i input hi
    exact hheld.saves i _ hi
  · rw [hheld.consistent.events, List.map_map]
    rfl
  · intro action i input e hbefore hafter
    exact LocalStore.failed_keeps hbefore hafter

namespace LocalStore.Sample

def phone : SaveEnv := ⟨fun _ => "\x7b\x7d", fun _ => .entries []⟩

def firstSave (eventId : String) : SaveInput where
  aggregate := .coverage ⟨"tenant", "job", [], [], 0, [], [], []⟩
  expectedStoredRevision := none
  event := ⟨eventId, .area_coverage_initialized, "now", "\x7b\x7d"⟩
  updatedAt := "now"

def sha256 : String := String.ofList (List.replicate 64 '7')

/-- Two first saves of one ledger, whose digests come in the other order. -/
def race : List StoreAction :=
  [.call (firstSave "one"), .call (firstSave "two"), .digested 1 (some sha256),
    .digested 0 (some sha256), .proceed 1, .proceed 0, .proceed 1, .proceed 1, .proceed 1,
    .proceed 1, .proceed 0, .proceed 0]

def raced : LocalStore := race.foldl (fun s action => s.next phone action) .empty

theorem raced_saves :
    raced.saves.map (fun save => match save.stage with
      | .settled outcome => outcome.toOption
      | _ => none) = [none, some ()] ∧
      raced.tables.events = raced.accepted.map (·.2.event) := by
  refine ⟨by decide +kernel, ?_⟩
  have hreachable : (localStore phone).Reachable TSys.any raced := TSys.reachable_foldl _ _ race
  exact (local_saves phone hreachable).2.2.2.2.1

end LocalStore.Sample

end InspectionHub.Inspection
