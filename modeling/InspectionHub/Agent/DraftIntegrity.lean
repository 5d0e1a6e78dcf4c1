import InspectionHub.Agent.DraftCalls

/-!
# Drafts under overlapping calls

What is stored is what the calls wrote, so an overlapped insert and a stale
mark written over are exactly the two races of the schedule.
-/

namespace InspectionHub.Agent

open DraftRepository

/-! ## What each part of a call does -/

variable {update : ProvisionalDraftRecord → ProvisionalDraftRecord}
  {current : ProvisionalDraftRecord} {runId : String}

namespace DraftRepository

/-- Whether it returns or throws, the call leaves the records alone. -/
def SameRecords (s s' : DraftRepository) : Prop := s'.records = s.records

theorem within_assertRunIdentity (expected actual : AgentRunIdentity) :
    Tx.Within SameRecords (assertRunIdentity expected actual) :=
  Tx.Within.throwIf (R := SameRecords) (fun _ => rfl) _ _

theorem within_bindIdentity (identity : AgentRunIdentity) :
    Tx.Within SameRecords (bindIdentity identity) := by
  intro s
  rw [bindIdentity, Tx.bind_of (show (get : DraftTx DraftRepository) s = .ok s s from rfl)]
  cases s.identities.get? identity.runId with
  | none => rfl
  | some current => exact within_assertRunIdentity current identity s

theorem within_askInsert (record : ProvisionalDraftRecord) :
    Tx.Within SameRecords (askInsert record) := by
  refine Tx.Within.bind (fun h h' => h'.trans h) (within_bindIdentity _) fun _ s => ?_
  exact Tx.Within.throwIf (R := SameRecords) (fun _ => rfl) (s.records.has record.runId = true) _ s

theorem within_bindAndGet (identity : AgentRunIdentity) :
    Tx.Within SameRecords (bindAndGet identity) := by
  refine Tx.Within.bind (fun h h' => h'.trans h) (within_bindIdentity _) fun _ s => ?_
  rw [Tx.bind_of (show (get : DraftTx DraftRepository) s = .ok s s from rfl)]
  cases s.records.get? identity.runId with
  | none => rfl
  | some record =>
      exact Tx.Within.bind (R := SameRecords) (fun h h' => h'.trans h)
        (within_assertRunIdentity _ _) (fun _ => Tx.Within.pure (R := SameRecords) (fun _ => rfl) _) s

theorem requireVersion_eq (runId expectedDraftHash message : String) (s : DraftRepository) :
    (∃ current, s.records.get? runId = some current ∧
      requireVersion runId expectedDraftHash message s = .ok current s) ∨
    requireVersion runId expectedDraftHash message s = .error (.error message) s := by
  rw [requireVersion, Tx.bind_of (show (get : DraftTx DraftRepository) s = .ok s s from rfl)]
  cases hget : s.records.get? runId with
  | none => exact .inr rfl
  | some current =>
      by_cases hhash : current.draftHash ≠ expectedDraftHash
      · right
        show (Tx.throwIf (current.draftHash ≠ expectedDraftHash) (.error message) >>=
          fun _ => pure current : DraftTx ProvisionalDraftRecord) s = _
        show EStateM.bind _ _ s = _
        rw [EStateM.bind, Tx.throwIf, if_pos hhash]
      · exact .inl ⟨current, rfl, Tx.bind_of (Tx.throwIf_of hhash) _⟩

theorem finishInsert_current (record : ProvisionalDraftRecord) (s : DraftRepository) :
    finishInsert record (.ok true) s =
      .ok record { s with records := s.records.set record.runId record } := rfl

/-- A call that is not told its packet is current throws, and stores nothing. -/
theorem finishInsert_other (record : ProvisionalDraftRecord) {answer : Except Thrown Bool}
    (h : answer ≠ .ok true) (s : DraftRepository) :
    ∃ e, finishInsert record answer s = .error e s := by
  rcases answer with e | (_ | _)
  · exact ⟨e, rfl⟩
  · exact ⟨.stalePacket, rfl⟩
  · exact absurd rfl h

theorem finishUpdate_other (runId : String) (current : ProvisionalDraftRecord)
    (update : ProvisionalDraftRecord → ProvisionalDraftRecord) {answer : Except Thrown Bool}
    (h : answer ≠ .ok true) (s : DraftRepository) :
    ∃ e, finishUpdate runId current update answer s = .error e s := by
  rcases answer with e | (_ | _)
  · exact ⟨e, rfl⟩
  · exact ⟨.stalePacket, rfl⟩
  · exact absurd rfl h

theorem finishUpdate_same (h : SameDraft (update current) current) (s : DraftRepository) :
    finishUpdate runId current update (.ok true) s =
      .ok (update current) { s with records := s.records.set runId (update current) } := by
  have hcurrent : assertPacketCurrent (.ok true) s = .ok () s := rfl
  rw [finishUpdate, Tx.bind_of hcurrent, Tx.bind_of (Tx.throwIf_of (not_not.mpr h))]
  rfl

theorem finishUpdate_differs (runId : String) (h : ¬ SameDraft (update current) current)
    (s : DraftRepository) : ∃ e, finishUpdate runId current update (.ok true) s = .error e s := by
  have hcurrent : assertPacketCurrent (.ok true) s = .ok () s := rfl
  refine ⟨.error "A checkpoint update cannot change immutable draft identity", ?_⟩
  rw [finishUpdate, Tx.bind_of hcurrent]
  show EStateM.bind _ _ s = _
  rw [EStateM.bind, Tx.throwIf, if_pos h]

theorem markStale_eq (runId expectedDraftHash : String) (s : DraftRepository) :
    (∃ current, s.records.get? runId = some current ∧
      DraftRepository.markStale runId expectedDraftHash s =
        .ok { current with status := .stale }
          { s with records := s.records.set runId { current with status := .stale } }) ∨
    ∃ e, DraftRepository.markStale runId expectedDraftHash s = .error e s := by
  rcases requireVersion_eq runId expectedDraftHash
    "Stale marker compare-and-set rejected a missing or changed draft" s with
    ⟨current, hget, hok⟩ | herror
  · left
    refine ⟨current, hget, ?_⟩
    rw [DraftRepository.markStale, Tx.bind_of hok]
    rfl
  · right
    refine ⟨.error "Stale marker compare-and-set rejected a missing or changed draft", ?_⟩
    show EStateM.bind _ _ s = _
    rw [EStateM.bind, herror]

end DraftRepository

namespace DraftCalls

/-! ## What is stored -/

/-- The stored records are the latest writes, and the runs that have one are
those with a finished insert. -/
structure Tracked (s : DraftCalls) : Prop where
  records : ∀ k, s.repository.records.get? k = (latest DraftWrite.runId k s.writes).map (·.record)
  inserted : ∀ record, .inserted record ∈ s.calls → ∃ w ∈ s.writes, w.runId = record.runId
  written : ∀ w ∈ s.writes, ∃ record, .inserted record ∈ s.calls ∧ record.runId = w.runId
  updating : ∀ runId current update, .updating runId current update ∈ s.calls →
    ∃ w ∈ s.writes, w.runId = runId

theorem tracked_empty : empty.Tracked where
  records _ := rfl
  inserted _ h := nomatch h
  written _ h := nomatch h
  updating _ _ _ h := nomatch h

variable {record : ProvisionalDraftRecord} {repository : DraftRepository} {calls : List DraftCall}

namespace Tracked

variable {s : DraftCalls}

/-- A run whose record is stored was written to. -/
theorem exists_write (h : s.Tracked) {k : String}
    (hget : s.repository.records.get? k = some record) : ∃ w ∈ s.writes, w.runId = k := by
  rw [h.records, Option.map_eq_some_iff] at hget
  obtain ⟨w, hw, -⟩ := hget
  exact ⟨w, latest_mem hw⟩

/-- A new call that has not finished an insert. -/
theorem snoc (h : s.Tracked) {call : DraftCall}
    (hrecords : repository.records = s.repository.records)
    (hnot : ∀ record, call ≠ .inserted record)
    (hupdating : ∀ runId current update, call = .updating runId current update →
      ∃ w ∈ s.writes, w.runId = runId) :
    Tracked ⟨repository, s.calls ++ [call], s.writes⟩ where
  records k := by
    show repository.records.get? k = _
    rw [hrecords, h.records]
  inserted record hrecord := by
    rcases List.mem_append.mp hrecord with hold | hnew
    · exact h.inserted record hold
    · exact absurd (List.mem_singleton.mp hnew).symm (hnot record)
  written w hw := by
    obtain ⟨record, hrecord, hrun⟩ := h.written w hw
    exact ⟨record, List.mem_append_left _ hrecord, hrun⟩
  updating runId current update hcall := by
    rcases List.mem_append.mp hcall with hold | hnew
    · exact h.updating runId current update hold
    · exact hupdating runId current update (List.mem_singleton.mp hnew).symm

/-- Another repository with the same records. -/
theorem sameRecords (h : s.Tracked) (hrecords : repository.records = s.repository.records) :
    Tracked ⟨repository, s.calls, s.writes⟩ where
  records k := by
    show repository.records.get? k = _
    rw [hrecords, h.records]
  inserted := h.inserted
  written := h.written
  updating := h.updating

variable {i : Nat}

/-- The calls after one of them, which waited, has come to its end. -/
theorem mem_set {waiting done : DraftCall} (hi : calls[i]? = some waiting)
    (hwaits : ∀ record, waiting ≠ .inserted record) (h : .inserted record ∈ calls) :
    .inserted record ∈ calls.set i done := by
  obtain ⟨j, hj, hrecord⟩ := List.getElem_of_mem h
  have hij : i ≠ j := by
    rintro rfl
    rw [List.getElem?_eq_getElem hj, hrecord] at hi
    exact hwaits record (Option.some.inj hi).symm
  refine List.mem_iff_getElem.mpr ⟨j, by rwa [List.length_set], ?_⟩
  rw [List.getElem_set_ne hij, hrecord]

/-- A call that throws when it is answered. -/
theorem threw (h : s.Tracked) {waiting : DraftCall} (hi : s.calls[i]? = some waiting)
    (hwaits : ∀ record, waiting ≠ .inserted record) (e : Thrown) :
    Tracked ⟨s.repository, s.calls.set i (.threw e), s.writes⟩ where
  records := h.records
  inserted record hrecord := by
    rcases List.mem_or_eq_of_mem_set hrecord with hold | hnew
    · exact h.inserted record hold
    · cases hnew
  written w hw := by
    obtain ⟨record, hrecord, hrun⟩ := h.written w hw
    exact ⟨record, mem_set hi hwaits hrecord, hrun⟩
  updating runId current update hcall := by
    rcases List.mem_or_eq_of_mem_set hcall with hold | hnew
    · exact h.updating runId current update hold
    · cases hnew

/-- The records after a write. -/
theorem records_snoc (h : s.Tracked) (w : DraftWrite) (k : String) :
    (s.repository.records.set w.runId w.record).get? k =
      (latest DraftWrite.runId k (s.writes ++ [w])).map (·.record) := by
  rw [OMap.get?_set, latest_snoc]
  by_cases hk : k = w.runId
  · rw [if_pos hk, if_pos hk.symm, Option.map_some]
  · rw [if_neg hk, if_neg (Ne.symm hk), h.records]

/-- An insert that has stored its record. -/
theorem insertDone (h : s.Tracked) (hi : s.calls[i]? = some (.inserting record)) :
    Tracked ⟨{ s.repository with records := s.repository.records.set record.runId record },
      s.calls.set i (.inserted record), s.writes ++ [⟨record.runId, record, true⟩]⟩ where
  records := h.records_snoc ⟨record.runId, record, true⟩
  inserted other hother := by
    rcases List.mem_or_eq_of_mem_set hother with hold | hnew
    · obtain ⟨w, hw, hrun⟩ := h.inserted other hold
      exact ⟨w, List.mem_append_left _ hw, hrun⟩
    · cases hnew
      exact ⟨_, List.mem_append_right _ (List.mem_singleton.mpr rfl), rfl⟩
  written w hw := by
    rcases List.mem_append.mp hw with hold | hnew
    · obtain ⟨other, hother, hrun⟩ := h.written w hold
      exact ⟨other, mem_set hi (fun _ hwaiting => nomatch hwaiting) hother, hrun⟩
    · cases List.mem_singleton.mp hnew
      have hlt : i < s.calls.length := (List.getElem?_eq_some_iff.mp hi).1
      exact ⟨record, List.mem_set hlt _, rfl⟩
  updating runId current update hcall := by
    rcases List.mem_or_eq_of_mem_set hcall with hold | hnew
    · obtain ⟨w, hw, hrun⟩ := h.updating runId current update hold
      exact ⟨w, List.mem_append_left _ hw, hrun⟩
    · cases hnew

/-- A record stored over one that is there. -/
theorem rewrite (h : s.Tracked) (hrun : ∃ w ∈ s.writes, w.runId = runId)
    (hsame : ∀ other, .inserted other ∈ calls ↔ .inserted other ∈ s.calls)
    (hupdating : ∀ runId current update, .updating runId current update ∈ calls →
      .updating runId current update ∈ s.calls) : Tracked ⟨{ s.repository with records := s.repository.records.set runId record }, calls,
      s.writes ++ [⟨runId, record, false⟩]⟩ where
  records := h.records_snoc ⟨runId, record, false⟩
  inserted other hother := by
    obtain ⟨w, hw, hrun⟩ := h.inserted other ((hsame other).mp hother)
    exact ⟨w, List.mem_append_left _ hw, hrun⟩
  written w hw := by
    have hold : ∃ v ∈ s.writes, v.runId = w.runId := by
      rcases List.mem_append.mp hw with hold | hnew
      · exact ⟨w, hold, rfl⟩
      · cases List.mem_singleton.mp hnew
        exact hrun
    obtain ⟨v, hv, hvw⟩ := hold
    obtain ⟨other, hother, hother'⟩ := h.written v hv
    exact ⟨other, (hsame other).mpr hother, hother'.trans hvw⟩
  updating runId current update hcall := by
    obtain ⟨w, hw, hrun⟩ := h.updating runId current update (hupdating _ _ _ hcall)
    exact ⟨w, List.mem_append_left _ hw, hrun⟩

theorem updateDone (h : s.Tracked) (hi : s.calls[i]? = some (.updating runId current update))
    (record : ProvisionalDraftRecord) : Tracked ⟨{ s.repository with records := s.repository.records.set runId record },
      s.calls.set i (.updated record), s.writes ++ [⟨runId, record, false⟩]⟩ := by
  refine h.rewrite (h.updating _ _ _ (List.mem_of_getElem? hi)) (fun other => ?_) ?_
  · refine ⟨fun hmem => ?_, mem_set hi fun _ hwaiting => nomatch hwaiting⟩
    rcases List.mem_or_eq_of_mem_set hmem with hold | hnew
    · exact hold
    · cases hnew
  · intro _ _ _ hmem
    rcases List.mem_or_eq_of_mem_set hmem with hold | hnew
    · exact hold
    · cases hnew

end Tracked

/-! ## One step -/

/-- A write is in order: it is no insert over a record, and no other status
over a stale mark. -/
theorem intact_snoc {s : DraftCalls} (hs : s.Intact) (w : DraftWrite) :
    Intact ⟨repository, calls, s.writes ++ [w]⟩ ↔
      ∀ v ∈ s.writes, v.runId = w.runId →
        w.byInsert = false ∧ (v.record.status = .stale → w.record.status = .stale) := by
  unfold Intact
  rw [List.pairwise_append]
  constructor
  · rintro ⟨-, -, h⟩ v hv
    exact h v hv w (List.mem_singleton.mpr rfl)
  · intro h
    refine ⟨hs, List.pairwise_singleton _ _, fun v hv u hu => ?_⟩
    cases List.mem_singleton.mp hu
    exact h v hv

/-- The stored record is stale exactly if some record stored for its run was. -/
theorem Tracked.stale_iff {s : DraftCalls} (h : s.Tracked) (hs : s.Intact) (k : String) :
    (s.repository.records.get? k).map (·.status) = some .stale ↔
      ∃ v ∈ s.writes, v.runId = k ∧ v.record.status = .stale := by
  rw [h.records, Option.map_map]
  constructor
  · intro hstale
    obtain ⟨w, hw, hstatus⟩ := Option.map_eq_some_iff.mp hstale
    exact ⟨w, (latest_mem hw).1, (latest_mem hw).2, hstatus⟩
  · rintro ⟨v, hv, hk, hstatus⟩
    cases hlast : latest DraftWrite.runId k s.writes with
    | none => exact absurd hk (latest_eq_none_iff.mp hlast v hv)
    | some w =>
        have hstale : w.record.status = .stale := by
          rcases rel_latest hs hv hk hlast with rfl | hrel
          · exact hstatus
          · exact hrel.2 hstatus
        rw [Option.map_some, Function.comp_apply, hstale]

theorem intact_insert_iff {s : DraftCalls} (h : s.Tracked) (hs : s.Intact)
    (record : ProvisionalDraftRecord) :
    Intact ⟨repository, calls, s.writes ++ [⟨record.runId, record, true⟩]⟩ ↔
      ∀ other, .inserted other ∈ s.calls → other.runId ≠ record.runId := by
  rw [intact_snoc hs]
  constructor
  · intro hfirst other hother hrun
    obtain ⟨w, hw, hwrun⟩ := h.inserted other hother
    cases (hfirst w hw (hwrun.trans hrun)).1
  · intro hfirst v hv hrun
    obtain ⟨other, hother, hother'⟩ := h.written v hv
    exact absurd (hother'.trans hrun) (hfirst other hother)

theorem intact_rewrite_iff {s : DraftCalls} (h : s.Tracked) (hs : s.Intact) (runId : String)
    (record : ProvisionalDraftRecord) :
    Intact ⟨repository, calls, s.writes ++ [⟨runId, record, false⟩]⟩ ↔
      ((s.repository.records.get? runId).map (·.status) = some .stale → record.status = .stale) := by
  rw [intact_snoc hs, h.stale_iff hs]
  constructor
  · rintro hkeep ⟨v, hv, hrun, hstatus⟩
    exact (hkeep v hv hrun).2 hstatus
  · intro hkeep v hv hrun
    exact ⟨rfl, fun hstatus => hkeep ⟨v, hv, hrun, hstatus⟩⟩

/-- What a step keeps, and when it leaves the drafts intact. -/
def StepRule (s : DraftCalls) (a : DraftAction) : Prop :=
  (s.next a).Tracked ∧ (s.Intact → ((s.next a).Intact ↔ s.RaceFree a))

attribute [local simp] next begin finish

theorem rule_insert {s : DraftCalls} (h : s.Tracked) (record : ProvisionalDraftRecord) :
    s.StepRule (.insertIfCurrent record) := by
  have hrecords := within_askInsert record s.repository
  cases hask : askInsert record s.repository with
  | ok u repository =>
      rw [hask] at hrecords
      simp only [StepRule, next, begin, hask]
      refine ⟨h.snoc hrecords ?_ ?_, fun hs => iff_of_true hs trivial⟩
      · exact fun _ hcall => nomatch hcall
      · exact fun _ _ _ hcall => nomatch hcall
  | error e repository =>
      rw [hask] at hrecords
      simp only [StepRule, next, begin, hask]
      refine ⟨h.snoc hrecords ?_ ?_, fun hs => iff_of_true hs trivial⟩
      · exact fun _ hcall => nomatch hcall
      · exact fun _ _ _ hcall => nomatch hcall

theorem rule_update {s : DraftCalls} (h : s.Tracked) (runId expectedDraftHash : String)
    (update : ProvisionalDraftRecord → ProvisionalDraftRecord) :
    s.StepRule (.updateIfCurrent runId expectedDraftHash update) := by
  rcases requireVersion_eq runId expectedDraftHash
    "Draft compare-and-set rejected a missing or changed version" s.repository with
    ⟨current, hget, hok⟩ | herror
  · simp only [StepRule, next, begin, askUpdate, hok]
    refine ⟨h.snoc rfl ?_ ?_, fun hs => iff_of_true hs trivial⟩
    · exact fun _ hcall => nomatch hcall
    · intro runId' current' update' hcall
      cases hcall
      exact h.exists_write hget
  · simp only [StepRule, next, begin, askUpdate, herror]
    refine ⟨h.snoc rfl ?_ ?_, fun hs => iff_of_true hs trivial⟩
    · exact fun _ hcall => nomatch hcall
    · exact fun _ _ _ hcall => nomatch hcall

theorem rule_markStale {s : DraftCalls} (h : s.Tracked) (runId expectedDraftHash : String) :
    s.StepRule (.markStale runId expectedDraftHash) := by
  rcases markStale_eq runId expectedDraftHash s.repository with ⟨current, hget, hok⟩ | ⟨e, herror⟩
  · simp only [StepRule, next, hok]
    refine ⟨h.rewrite (h.exists_write hget) (fun _ => Iff.rfl) fun _ _ _ hcall => hcall, ?_⟩
    intro hs
    exact iff_of_true ((intact_rewrite_iff h hs _ _).mpr fun _ => rfl) trivial
  · simp only [StepRule, next, herror]
    exact ⟨h, fun hs => iff_of_true hs trivial⟩

theorem rule_bindAndGet {s : DraftCalls} (h : s.Tracked) (identity : AgentRunIdentity) :
    s.StepRule (.bindAndGet identity) :=
  ⟨h.sameRecords (within_bindAndGet identity s.repository), fun hs => iff_of_true hs trivial⟩

/-- An insert that is answered. -/
theorem rule_resume_insert {s : DraftCalls} (h : s.Tracked) {call : Nat}
    (hcall : s.calls[call]? = some (.inserting record)) (answer : Except Thrown Bool) :
    s.StepRule (.resume call answer) := by
  by_cases hanswer : answer = .ok true
  · subst hanswer
    simp only [StepRule, next, hcall, finish, finishInsert_current, RaceFree]
    exact ⟨h.insertDone hcall, fun hs => intact_insert_iff h hs record⟩
  · obtain ⟨e, herror⟩ := finishInsert_other record hanswer s.repository
    have hfree : s.RaceFree (.resume call answer) := by
      rcases answer with e | (_ | _)
      · trivial
      · trivial
      · exact absurd rfl hanswer
    simp only [StepRule, next, hcall, finish, herror]
    exact ⟨h.threw hcall (fun _ hwaiting => nomatch hwaiting) e, fun hs => iff_of_true hs hfree⟩

/-- An update that is answered. -/
theorem rule_resume_update {s : DraftCalls} (h : s.Tracked) {call : Nat}
    (hcall : s.calls[call]? = some (.updating runId current update)) (answer : Except Thrown Bool) :
    s.StepRule (.resume call answer) := by
  by_cases hanswer : answer = .ok true
  · subst hanswer
    by_cases hsame : SameDraft (update current) current
    · simp only [StepRule, next, hcall, finish, finishUpdate_same hsame, RaceFree]
      refine ⟨h.updateDone hcall _, fun hs => ?_⟩
      rw [intact_rewrite_iff h hs]
      exact ⟨fun hkeep _ => hkeep, fun hkeep => hkeep hsame⟩
    · obtain ⟨e, herror⟩ := finishUpdate_differs runId hsame s.repository
      simp only [StepRule, next, hcall, finish, herror, RaceFree]
      exact ⟨h.threw hcall (fun _ hwaiting => nomatch hwaiting) e,
        fun hs => iff_of_true hs fun hsame' => absurd hsame' hsame⟩
  · obtain ⟨e, herror⟩ := finishUpdate_other runId current update hanswer s.repository
    have hfree : s.RaceFree (.resume call answer) := by
      rcases answer with e | (_ | _)
      · trivial
      · trivial
      · exact absurd rfl hanswer
    simp only [StepRule, next, hcall, finish, herror]
    exact ⟨h.threw hcall (fun _ hwaiting => nomatch hwaiting) e, fun hs => iff_of_true hs hfree⟩

/-- An answer to a call that does not wait. -/
theorem rule_idle {s : DraftCalls} (h : s.Tracked) {a : DraftAction} (hnext : s.next a = s)
    (hfree : s.RaceFree a) : s.StepRule a := by
  unfold StepRule
  rw [hnext]
  exact ⟨h, fun hs => iff_of_true hs hfree⟩

theorem rule_resume {s : DraftCalls} (h : s.Tracked) (call : Nat) (answer : Except Thrown Bool) :
    s.StepRule (.resume call answer) := by
  cases hcall : s.calls[call]? with
  | none =>
      refine rule_idle h (by simp [hcall]) ?_
      rcases answer with e | (_ | _) <;> simp only [RaceFree, hcall]
  | some c =>
      cases c with
      | inserting record => exact rule_resume_insert h hcall answer
      | updating runId current update => exact rule_resume_update h hcall answer
      | inserted record =>
          refine rule_idle h (by simp [hcall]) ?_
          rcases answer with e | (_ | _) <;> simp only [RaceFree, hcall]
      | updated record =>
          refine rule_idle h (by simp [hcall]) ?_
          rcases answer with e | (_ | _) <;> simp only [RaceFree, hcall]
      | threw e =>
          refine rule_idle h (by simp [hcall]) ?_
          rcases answer with e | (_ | _) <;> simp only [RaceFree, hcall]

theorem stepRule {s : DraftCalls} (h : s.Tracked) (a : DraftAction) : s.StepRule a := by
  cases a with
  | insertIfCurrent record => exact rule_insert h record
  | updateIfCurrent runId expectedDraftHash update => exact rule_update h _ _ update
  | resume call answer => exact rule_resume h call answer
  | markStale runId expectedDraftHash => exact rule_markStale h _ _
  | bindAndGet identity => exact rule_bindAndGet h identity

end DraftCalls

/-- **Draft integrity.** The drafts stay intact throughout a schedule exactly
if no call that is told its packet is current wins a race. -/
theorem draft_integrity (l : List DraftAction) :
    (∀ before after, l = before ++ after → (before.foldl DraftCalls.next .empty).Intact) ↔
      ∀ before a after, l = before ++ a :: after →
        (before.foldl DraftCalls.next .empty).RaceFree a :=
  TSys.throughout_iff DraftCalls.next DraftCalls.Tracked DraftCalls.Intact DraftCalls.RaceFree
    (fun _ a h => (DraftCalls.stepRule h a).1) (fun _ a h hs => (DraftCalls.stepRule h a).2 hs)
    DraftCalls.tracked_empty List.Pairwise.nil l

/-! ## Two races -/

namespace Sample

/-- A draft of the run, with the text its hash stands for. -/
def drafted (draftHash : String) : ProvisionalDraftRecord where
  runId := "run"
  organizationId := "organization"
  jobId := "job"
  packetId := "packet"
  packetHash := "packet hash"
  attempt := 1
  draftHash := draftHash
  draft := ⟨"packet", "packet hash", 1, .ai, "model", "v1", [], []⟩
  deterministicChecked := true
  verification := none
  status := .provisional

def verify (record : ProvisionalDraftRecord) : ProvisionalDraftRecord :=
  { record with status := .verified }

/-- Two attempts look for a draft of their run before either has stored one. -/
def twoInserts : List DraftAction :=
  [.insertIfCurrent (drafted "first"), .insertIfCurrent (drafted "second"),
    .resume 0 (.ok true), .resume 1 (.ok true)]

/-- A verification waits for its answer while the draft is marked stale. -/
def lateVerification : List DraftAction :=
  [.insertIfCurrent (drafted "first"), .resume 0 (.ok true),
    .updateIfCurrent "run" "first" verify, .markStale "run" "first", .resume 1 (.ok true)]

/-- The second insert stores over the first, and the verification over the
mark. -/
theorem races_break_drafts :
    ¬ (∀ l : List DraftAction, (l.foldl DraftCalls.next .empty).Intact) ∧
      ¬ (twoInserts.foldl DraftCalls.next .empty).Intact ∧
      ¬ (lateVerification.foldl DraftCalls.next .empty).Intact := by
  have hinserts : (twoInserts.foldl DraftCalls.next .empty).writes =
      [⟨"run", drafted "first", true⟩, ⟨"run", drafted "second", true⟩] := rfl
  have hlate : (lateVerification.foldl DraftCalls.next .empty).writes =
      [⟨"run", drafted "first", true⟩, ⟨"run", { drafted "first" with status := .stale }, false⟩,
        ⟨"run", verify (drafted "first"), false⟩] := rfl
  have hfirst : ¬ (twoInserts.foldl DraftCalls.next .empty).Intact := by
    intro h
    rw [DraftCalls.Intact, hinserts] at h
    cases (List.rel_of_pairwise_cons h (List.mem_singleton.mpr rfl) rfl).1
  refine ⟨fun hall => hfirst (hall twoInserts), hfirst, fun h => ?_⟩
  rw [DraftCalls.Intact, hlate] at h
  cases (List.rel_of_pairwise_cons h.of_cons (List.mem_singleton.mpr rfl) rfl).2 rfl

end Sample

end InspectionHub.Agent
