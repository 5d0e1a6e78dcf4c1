import InspectionHub.Database.Modules
import InspectionHub.Lib.ReadCommitted
import InspectionHub.Lib.TSys

/-!
# Lifecycle holds

`lifecycle_holds` and `lifecycle_hold_releases` of
`20260714000300_u2_reports_continuity.sql` in concurrent read-committed
transactions. `u2_validate_lifecycle_hold` of
`20260714000400_u2_integrity_and_rls.sql` looks for an active hold among the rows
it sees and takes no lock, and the unique key of a hold has the time it was
placed at: two holds that are checked while neither is committed both commit
(`Sample.two_active_holds`). Where no hold is checked while another transaction
has one of its target open, one is active at most (`one_active_hold`).

What else a statement may raise is a `rollback` of its transaction.
-/

namespace InspectionHub.Database

/-! ## Rows -/

inductive LifecycleTargetClass where
  | job | artifact | module_snapshot | report_version | delivery | actor_identity | event_stream
deriving DecidableEq

inductive LifecycleHoldKind where
  | professional | dispute | legal | accounting | security_incident
deriving DecidableEq

/-- What is held, and how. -/
structure HoldTarget where
  organizationId : Uuid
  targetClass : LifecycleTargetClass
  targetId : Uuid
  holdKind : LifecycleHoldKind
deriving DecidableEq

structure LifecycleHold extends HoldTarget where
  id : Uuid
  reason : String
  placedAt : Int
deriving DecidableEq

structure LifecycleHoldRelease where
  id : Uuid
  organizationId : Uuid
  holdId : Uuid
  releaseReason : String
deriving DecidableEq

inductive LifecycleRecord where
  | hold (h : LifecycleHold)
  | release (r : LifecycleHoldRelease)
deriving DecidableEq

namespace LifecycleRecord

/-- `primary key (id)` of both; `unique (organization_id, target_class, target_id, hold_kind,
placed_at)` and `unique (organization_id, hold_id)` -/
def clash : LifecycleRecord → LifecycleRecord → Prop
  | .hold a, .hold b => a.id = b.id ∨ (a.toHoldTarget = b.toHoldTarget ∧ a.placedAt = b.placedAt)
  | .release a, .release b =>
      a.id = b.id ∨ (a.organizationId = b.organizationId ∧ a.holdId = b.holdId)
  | _, _ => False

instance : DecidableRel clash
  | .hold _, .hold _ => inferInstanceAs (Decidable (_ ∨ _))
  | .release _, .release _ => inferInstanceAs (Decidable (_ ∨ _))
  | .hold _, .release _ => inferInstanceAs (Decidable False)
  | .release _, .hold _ => inferInstanceAs (Decidable False)

def hold? : LifecycleRecord → Option LifecycleHold
  | .hold h => some h
  | .release _ => none

def release? : LifecycleRecord → Option LifecycleHoldRelease
  | .hold _ => none
  | .release r => some r

end LifecycleRecord

/-- `lifecycle_holds` and `lifecycle_hold_releases`, as a statement sees them. -/
def holdsIn (l : List LifecycleRecord) : List LifecycleHold := l.filterMap LifecycleRecord.hold?

def releasesIn (l : List LifecycleRecord) : List LifecycleHoldRelease :=
  l.filterMap LifecycleRecord.release?

/-- `not exists (select 1 from lifecycle_hold_releases r where r.hold_id = h.id)` -/
def isActive (l : List LifecycleRecord) (h : LifecycleHold) : Bool :=
  (releasesIn l).all fun r => r.holdId ≠ h.id

/-- The active holds of a target. -/
def activeHolds (target : HoldTarget) (l : List LifecycleRecord) : List LifecycleHold :=
  (holdsIn l).filter fun h => h.toHoldTarget = target && isActive l h

/-! ## Statements -/

/-- `u2_validate_lifecycle_hold` -/
def validateLifecycleHold (visible : List LifecycleRecord) (h : LifecycleHold) :
    Except Sql.Error Unit :=
  Sql.raiseIf (∃ other ∈ holdsIn visible, other.toHoldTarget = h.toHoldTarget ∧
      isActive visible other = true) "23505"
    "an active lifecycle hold already exists for this target and kind"

/-- The trigger of a row and the check constraints let it through. -/
def passesHoldTrigger (visible : List LifecycleRecord) : LifecycleRecord → Bool
  | .hold h => (validateLifecycleHold visible h).isOk && decide (trimmedWithin 1 2000 h.reason)
  | .release r => decide (trimmedWithin 1 2000 r.releaseReason)

/-- `references lifecycle_holds(id, organization_id)` -/
def refersToHold (visible : List LifecycleRecord) : LifecycleRecord → Bool
  | .hold _ => true
  | .release r => (holdsIn visible).any fun h =>
      h.id = r.holdId ∧ h.organizationId = r.organizationId

/-- The transactions, and the rows that are checked and wait for another transaction's row that
they clash with. -/
structure HoldStore where
  base : ReadCommitted LifecycleRecord Unit
  waiting : OMap Nat (Option LifecycleRecord)

namespace HoldStore

def empty : HoldStore := ⟨.empty, .empty⟩

def committed (s : HoldStore) : List LifecycleRecord := s.base.committed

def rows (s : HoldStore) (t : Nat) : List LifecycleRecord := (s.base.transaction t).rows

def visible (s : HoldStore) (t : Nat) : List LifecycleRecord := s.base.visible t

def pending (s : HoldStore) (t : Nat) : Option LifecycleRecord := (s.waiting.get? t).join

/-- The rows of a transaction, and the one that waits. -/
def put (s : HoldStore) (t : Nat) (rows : List LifecycleRecord) (row : Option LifecycleRecord) :
    HoldStore :=
  ⟨s.base.put t ⟨rows, []⟩, s.waiting.set t row⟩

/-- A checked row is added, unless it clashes with what is committed or refers to nothing; it
waits for a row of another open transaction that it clashes with. -/
def add (s : HoldStore) (t : Nat) (row : LifecycleRecord) : HoldStore :=
  if ∃ a ∈ s.visible t, a.clash row then s.put t [] none
  else if s.base.clashesElsewhere LifecycleRecord.clash t row then s.put t (s.rows t) (some row)
  else if refersToHold (s.visible t ++ [row]) row then s.put t (s.rows t ++ [row]) none
  else s.put t [] none

end HoldStore

inductive HoldStep where
  | insert (t : Nat) (row : LifecycleRecord)
  /-- The row that waits is tried again; its trigger does not run again. -/
  | resume (t : Nat)
  | commit (t : Nat)
  | rollback (t : Nat)

namespace HoldStore

def perform (s : HoldStore) : HoldStep → HoldStore
  | .insert t row =>
      match s.pending t with
      | some _ => s
      | none => if passesHoldTrigger (s.visible t) row then s.add t row else s.put t [] none
  | .resume t =>
      match s.pending t with
      | some row => s.add t row
      | none => s
  | .commit t =>
      match s.pending t with
      | some _ => s
      | none => ⟨s.base.commit t, s.waiting⟩
  | .rollback t => s.put t [] none

def holdSystem : TSys HoldStore HoldStep := .ofFun .empty perform

/-! ## One active hold -/

/-- No target has two active holds. -/
def OneActive (l : List LifecycleRecord) : Prop :=
  ∀ target, (activeHolds target l).length ≤ 1

/-- The transaction has an active hold of the target that is not committed, or one that waits. -/
def Engages (s : HoldStore) (t : Nat) (target : HoldTarget) : Prop :=
  activeHolds target (s.rows t) ≠ [] ∨
    ∃ h, s.pending t = some (.hold h) ∧ h.toHoldTarget = target

/-- No hold is checked while another transaction has one of its target open. -/
def ChecksAlone (s : HoldStore) : HoldStep → Prop
  | .insert t (.hold h) => ∀ t', t' ≠ t → ¬ s.Engages t' h.toHoldTarget
  | _ => True

end HoldStore

/-! ## Active holds of more rows -/

@[simp] theorem holdsIn_append (l l' : List LifecycleRecord) :
    holdsIn (l ++ l') = holdsIn l ++ holdsIn l' := List.filterMap_append

@[simp] theorem releasesIn_append (l l' : List LifecycleRecord) :
    releasesIn (l ++ l') = releasesIn l ++ releasesIn l' := List.filterMap_append

theorem isActive_append (l l' : List LifecycleRecord) (h : LifecycleHold) :
    isActive (l ++ l') h = (isActive l h && isActive l' h) := by
  rw [isActive, releasesIn_append, List.all_append]
  rfl

/-- What is active among more rows was active among fewer. -/
theorem activeHolds_append_sublist (target : HoldTarget) (l l' : List LifecycleRecord) :
    (activeHolds target (l ++ l')).Sublist (activeHolds target l ++ activeHolds target l') := by
  rw [activeHolds, holdsIn_append, List.filter_append]
  refine List.Sublist.append ?_ ?_
  · refine List.monotone_filter_right _ fun h hh => ?_
    rw [isActive_append, ← Bool.and_assoc] at hh
    exact (Bool.and_eq_true_iff.mp hh).1
  · refine List.monotone_filter_right _ fun h hh => ?_
    rw [isActive_append, Bool.and_comm (isActive l h), ← Bool.and_assoc] at hh
    exact (Bool.and_eq_true_iff.mp hh).1

/-- Rows without an active hold of their own add none. -/
theorem activeHolds_of_left {target : HoldTarget} {l l' : List LifecycleRecord}
    (h : activeHolds target l' = []) :
    (activeHolds target (l ++ l')).Sublist (activeHolds target l) := by
  have hsublist := activeHolds_append_sublist target l l'
  rwa [h, List.append_nil] at hsublist

/-- The same, of rows in the middle. -/
theorem activeHolds_of_outer {target : HoldTarget} {l m l' : List LifecycleRecord}
    (h : activeHolds target m = []) :
    (activeHolds target (l ++ m ++ l')).Sublist (activeHolds target (l ++ l')) := by
  have hmiddle : (holdsIn m).filter (fun h =>
      h.toHoldTarget = target && isActive (l ++ m ++ l') h) = [] := by
    refine List.filter_eq_nil_iff.mpr fun a ha hactive => ?_
    rw [isActive_append, isActive_append, Bool.and_eq_true_iff, Bool.and_eq_true_iff,
      Bool.and_eq_true_iff] at hactive
    exact List.filter_eq_nil_iff.mp h a ha (Bool.and_eq_true_iff.mpr ⟨hactive.1, hactive.2.1.2⟩)
  have hfewer : ∀ a, (decide (a.toHoldTarget = target) && isActive (l ++ m ++ l') a) = true →
      (decide (a.toHoldTarget = target) && isActive (l ++ l') a) = true := by
    intro a ha
    rw [isActive_append, isActive_append, Bool.and_eq_true_iff, Bool.and_eq_true_iff,
      Bool.and_eq_true_iff] at ha
    rw [isActive_append, Bool.and_eq_true_iff, Bool.and_eq_true_iff]
    exact ⟨ha.1, ha.2.1.1, ha.2.2⟩
  unfold activeHolds
  rw [holdsIn_append, holdsIn_append, List.filter_append, List.filter_append, hmiddle,
    List.append_nil, holdsIn_append, List.filter_append]
  exact (List.monotone_filter_right _ hfewer).append (List.monotone_filter_right _ hfewer)

/-- One more row has one active hold at most, of its own target. -/
theorem activeHolds_singleton (target : HoldTarget) (row : LifecycleRecord) :
    activeHolds target [row] = match row with
      | .hold h => if h.toHoldTarget = target then [h] else []
      | .release _ => [] := by
  cases row with
  | hold h => simp [activeHolds, holdsIn, LifecycleRecord.hold?, isActive, releasesIn,
      LifecycleRecord.release?, List.filter_cons]
  | release r => rfl

/-- The trigger lets a hold through where its target has none. -/
theorem validateLifecycleHold_ok {l : List LifecycleRecord} {h : LifecycleHold}
    (hpasses : passesHoldTrigger l (.hold h) = true) : activeHolds h.toHoldTarget l = [] := by
  have hvalid := Sql.raiseIf_ok (Sql.eq_ok_of_isOk (Bool.and_eq_true_iff.mp hpasses).1)
  refine List.filter_eq_nil_iff.mpr fun other hother hactive => ?_
  rw [Bool.and_eq_true_iff, decide_eq_true_iff] at hactive
  exact hvalid ⟨other, hother, hactive⟩

namespace HoldStore

variable {s : HoldStore}

/-! ## The invariant -/

theorem rows_put (s : HoldStore) (t : Nat) (rows : List LifecycleRecord)
    (row : Option LifecycleRecord) (t' : Nat) :
    (s.put t rows row).rows t' = if t' = t then rows else s.rows t' := by
  unfold HoldStore.rows put
  rw [ReadCommitted.transaction_put]
  split <;> rfl

theorem pending_put (s : HoldStore) (t : Nat) (rows : List LifecycleRecord)
    (row : Option LifecycleRecord) (t' : Nat) :
    (s.put t rows row).pending t' = if t' = t then row else s.pending t' := by
  unfold pending put
  rw [OMap.get?_set]
  split <;> rfl

theorem visible_eq (s : HoldStore) (t : Nat) : s.visible t = s.committed ++ s.rows t := rfl

/-- Every view has one active hold of a target at most, no two transactions engage one target, and
the target of a hold that waits has no active hold in its view. -/
structure HoldInv (s : HoldStore) : Prop where
  committed : OneActive s.committed
  views : ∀ t, OneActive (s.visible t)
  alone : ∀ t t' target, s.Engages t target → s.Engages t' target → t = t'
  waits : ∀ t h, s.pending t = some (.hold h) → activeHolds h.toHoldTarget (s.visible t) = []

/-- A transaction that comes to have other rows and another row that waits: it may engage a target
that no other engages. -/
theorem HoldInv.change (hi : HoldInv s) (t : Nat) {rows : List LifecycleRecord}
    {row : Option LifecycleRecord} (hview : OneActive (s.committed ++ rows))
    (hengages : ∀ target, (s.put t rows row).Engages t target →
      ∀ t', t' ≠ t → ¬ s.Engages t' target)
    (hwaits : ∀ h, row = some (.hold h) → activeHolds h.toHoldTarget (s.committed ++ rows) = []) :
    HoldInv (s.put t rows row) := by
  have hother : ∀ t', t' ≠ t → ∀ target, (s.put t rows row).Engages t' target →
      s.Engages t' target := by
    intro t' hne target h
    unfold Engages at h ⊢
    rwa [rows_put, if_neg hne, pending_put, if_neg hne] at h
  refine ⟨hi.committed, fun t' => ?_, fun t₁ t₂ target h₁ h₂ => ?_, fun t' h hpending => ?_⟩
  · rw [visible_eq, rows_put]
    split
    · exact hview
    · exact hi.views t'
  · by_cases e₁ : t₁ = t <;> by_cases e₂ : t₂ = t
    · rw [e₁, e₂]
    · rw [e₁] at h₁
      exact absurd (hother t₂ e₂ target h₂) (hengages target h₁ t₂ e₂)
    · rw [e₂] at h₂
      exact absurd (hother t₁ e₁ target h₁) (hengages target h₂ t₁ e₁)
    · exact hi.alone t₁ t₂ target (hother t₁ e₁ target h₁) (hother t₂ e₂ target h₂)
  · rw [pending_put] at hpending
    rw [visible_eq, rows_put]
    split at hpending
    · next heq =>
        rw [if_pos heq]
        exact hwaits h hpending
    · next hne =>
        rw [if_neg hne]
        exact hi.waits t' h hpending

/-- A transaction that ends without committing. -/
theorem HoldInv.idle (hi : HoldInv s) (t : Nat) : HoldInv (s.put t [] none) := by
  refine hi.change t ?_ (fun target h => ?_) (fun h hnone => nomatch hnone)
  · rw [List.append_nil]
    exact hi.committed
  · rcases h with hactive | ⟨h, hpending, -⟩
    · rw [rows_put, if_pos rfl] at hactive
      exact absurd rfl hactive
    · rw [pending_put, if_pos rfl] at hpending
      cases hpending

/-- A checked row that is added or waits: a hold's target is engaged by no other transaction and
has no active hold in the view. -/
theorem HoldInv.add (hi : HoldInv s) (t : Nat) (row : LifecycleRecord)
    (hhold : ∀ h, row = .hold h → activeHolds h.toHoldTarget (s.visible t) = [] ∧
      ∀ t', t' ≠ t → ¬ s.Engages t' h.toHoldTarget) : HoldInv (s.add t row) := by
  -- what the transaction engages it engaged before, or it is the target of the row
  have hengaged : ∀ target, activeHolds target (s.rows t) ≠ [] →
      ∀ t', t' ≠ t → ¬ s.Engages t' target :=
    fun target hactive t' hne h => hne (hi.alone t' t target h (.inl hactive))
  unfold HoldStore.add
  split
  · exact hi.idle t
  split
  · refine hi.change t (hi.views t) (fun target h => ?_) (fun h hrow => ?_)
    · rcases h with hactive | ⟨h, hpending, rfl⟩
      · rw [rows_put, if_pos rfl] at hactive
        exact hengaged target hactive
      · rw [pending_put, if_pos rfl] at hpending
        exact (hhold h (Option.some.inj hpending)).2
    · exact (hhold h (Option.some.inj hrow)).1
  split
  · refine hi.change t (fun target => ?_) (fun target h => ?_) (by rintro h ⟨⟩)
    · rw [← List.append_assoc]
      have hsublist := activeHolds_append_sublist target (s.committed ++ s.rows t) [row]
      rw [activeHolds_singleton] at hsublist
      have hlength := hsublist.length_le
      cases row with
      | release r =>
          rw [List.append_nil] at hlength
          exact hlength.trans (hi.views t target)
      | hold h =>
          dsimp only at hlength
          split at hlength
          · next htarget =>
              have hnone := (hhold h rfl).1
              rw [htarget, visible_eq] at hnone
              rw [hnone] at hlength
              exact hlength
          · rw [List.append_nil] at hlength
            exact hlength.trans (hi.views t target)
    · rcases h with hactive | ⟨h, hpending, -⟩
      · rw [rows_put, if_pos rfl] at hactive
        by_cases hbefore : activeHolds target (s.rows t) = []
        · -- the hold that is active now is the row
          have hsublist := activeHolds_append_sublist target (s.rows t) [row]
          rw [hbefore, activeHolds_singleton, List.nil_append] at hsublist
          cases row with
          | release r => exact absurd (List.sublist_nil.mp hsublist) hactive
          | hold h =>
              dsimp only at hsublist
              split at hsublist
              · next htarget =>
                  rw [← htarget]
                  exact (hhold h rfl).2
              · exact absurd (List.sublist_nil.mp hsublist) hactive
        · exact hengaged target hbefore
      · rw [pending_put, if_pos rfl] at hpending
        cases hpending
  · exact hi.idle t

/-- A commit makes the transaction's holds active for all: of no target that another engages. -/
theorem HoldInv.commit (hi : HoldInv s) (t : Nat) (hnone : s.pending t = none) :
    HoldInv ⟨s.base.commit t, s.waiting⟩ := by
  have hcommitted :
      HoldStore.committed ⟨s.base.commit t, s.waiting⟩ = s.committed ++ s.rows t := by
    show (s.base.commits ++ [(s.base.transaction t).rows]).flatten = _
    rw [List.flatten_append, List.flatten_singleton]
    rfl
  have hrows : ∀ t', HoldStore.rows ⟨s.base.commit t, s.waiting⟩ t' =
      if t' = t then [] else s.rows t' := by
    intro t'
    show ((s.base.put t .idle).transaction t').rows = _
    rw [ReadCommitted.transaction_put]
    split <;> rfl
  have hengages : ∀ t' target, Engages ⟨s.base.commit t, s.waiting⟩ t' target →
      t' ≠ t ∧ s.Engages t' target := by
    rintro t' target (hactive | ⟨h, hpending, htarget⟩)
    · rw [hrows] at hactive
      split at hactive
      · exact absurd rfl hactive
      · next hne => exact ⟨hne, .inl hactive⟩
    · refine ⟨fun heq => ?_, .inr ⟨h, hpending, htarget⟩⟩
      change s.pending t' = _ at hpending
      rw [heq, hnone] at hpending
      cases hpending
  refine ⟨hcommitted ▸ hi.views t, fun t' target => ?_, fun t₁ t₂ target h₁ h₂ => ?_,
    fun t' h hpending => ?_⟩
  · rw [visible_eq, hcommitted, hrows]
    split
    · rw [List.append_nil]
      exact hi.views t target
    · next hne =>
        by_cases hmine : activeHolds target (s.rows t) = []
        · exact (activeHolds_of_outer hmine).length_le.trans (hi.views t' target)
        · have hother : activeHolds target (s.rows t') = [] := by
            by_contra hactive
            exact hne (hi.alone t' t target (.inl hactive) (.inl hmine))
          exact (activeHolds_of_left hother).length_le.trans (hi.views t target)
  · exact hi.alone t₁ t₂ target (hengages t₁ target h₁).2 (hengages t₂ target h₂).2
  · obtain ⟨hne, hengaged⟩ := hengages t' h.toHoldTarget (.inr ⟨h, hpending, rfl⟩)
    rw [visible_eq, hcommitted, hrows, if_neg hne]
    have hmine : activeHolds h.toHoldTarget (s.rows t) = [] := by
      by_contra hactive
      exact hne (hi.alone t' t h.toHoldTarget hengaged (.inl hactive))
    have hsublist : (activeHolds h.toHoldTarget (s.committed ++ s.rows t ++ s.rows t')).Sublist
        (activeHolds h.toHoldTarget (s.committed ++ s.rows t')) := activeHolds_of_outer hmine
    rw [← visible_eq s t', hi.waits t' h hpending] at hsublist
    exact List.sublist_nil.mp hsublist

theorem holdInv_inductive : holdSystem.Inductive ChecksAlone HoldInv where
  init := by
    rintro _ rfl
    refine ⟨fun target => Nat.zero_le 1, fun t target => Nat.zero_le 1,
      fun t t' target h _ => ?_, fun t h hpending => nomatch hpending⟩
    rcases h with hactive | ⟨h, hpending, -⟩
    · exact absurd rfl hactive
    · cases hpending
  step := by
    rintro s step _ hi halone rfl
    cases step with
    | insert t row =>
        show HoldInv (match s.pending t with
          | some _ => s
          | none => if passesHoldTrigger (s.visible t) row then s.add t row else s.put t [] none)
        split
        · exact hi
        · split
          · next hpasses =>
              refine hi.add t row fun h hrow => ?_
              rw [hrow] at hpasses halone
              exact ⟨validateLifecycleHold_ok hpasses, halone⟩
          · exact hi.idle t
    | resume t =>
        show HoldInv (match s.pending t with
          | some row => s.add t row
          | none => s)
        split
        · next row hpending =>
            refine hi.add t row fun h hrow => ?_
            rw [hrow] at hpending
            refine ⟨hi.waits t h hpending, fun t' hne hengages => ?_⟩
            exact hne (hi.alone t' t h.toHoldTarget hengages (.inr ⟨h, hpending, rfl⟩))
        · exact hi
    | commit t =>
        show HoldInv (match s.pending t with
          | some _ => s
          | none => ⟨s.base.commit t, s.waiting⟩)
        split
        · exact hi
        · next hnone => exact hi.commit t hnone
    | rollback t => exact hi.idle t

/-- **One active hold, where holds are checked alone.** -/
theorem one_active_hold {s : HoldStore} (hs : holdSystem.Reachable ChecksAlone s) :
    OneActive s.committed :=
  (holdInv_inductive.invariant hs).committed

/-! ## Two active holds -/

namespace Sample

def artifact : Uuid := ⟨"aaaa3000-0000-0000-0000-000000000001", by decide⟩
def releaseId : Uuid := ⟨"aaaaf100-0000-0000-0000-000000000001", by decide⟩

def dispute : HoldTarget where
  organizationId := ⟨"aaaaaaaa-0000-0000-0000-000000000001", @rfl _ true⟩
  targetClass := .artifact
  targetId := artifact
  holdKind := .dispute

def first : LifecycleHold :=
  ⟨dispute, ⟨"aaaaf000-0000-0000-0000-000000000001", by decide⟩, "Disputed", 0⟩

def second : LifecycleHold :=
  ⟨dispute, ⟨"aaaaf000-0000-0000-0000-000000000002", by decide⟩, "Disputed", 1⟩

def resolved : LifecycleHoldRelease :=
  ⟨releaseId, dispute.organizationId, first.id, "Resolved"⟩

/-- Both holds are checked before either is committed. -/
def race : List HoldStep :=
  [.insert 1 (.hold first), .insert 2 (.hold second), .commit 1, .commit 2]

def run (steps : List HoldStep) : HoldStore := steps.foldl perform empty

theorem race_active : (activeHolds dispute (run race).committed).length = 2 := by decide +kernel

/-- Two holds of one target are active, of transactions that overlap. -/
theorem two_active_holds :
    ¬ ∀ s, holdSystem.Reachable TSys.any s → OneActive s.committed := by
  intro hall
  have hone := hall (run race) (TSys.reachable_foldl empty perform race) dispute
  rw [race_active] at hone
  omega

/-- The hold is released before the next is placed. -/
def quiet : List HoldStep :=
  [.insert 1 (.hold first), .commit 1, .insert 2 (.release resolved), .commit 2,
    .insert 3 (.hold second), .commit 3]

/-- An insert while no other transaction has rows, or one that waits, is checked alone. -/
theorem checksAlone {s : HoldStore} {t : Nat} {row : LifecycleRecord}
    (hrows : ∀ p ∈ s.base.transactions.entries, p.1 ≠ t → p.2.rows = [])
    (hwaiting : ∀ p ∈ s.waiting.entries, p.2 = none) : ChecksAlone s (.insert t row) := by
  cases row with
  | release r => trivial
  | hold hold =>
      rintro t' hne (hactive | ⟨other, hpending, -⟩)
      · rw [HoldStore.rows, ReadCommitted.rows_eq_nil hrows hne] at hactive
        exact hactive rfl
      · have hentry := (OMap.get?_eq_some_iff _ _ _).mp (Option.join_eq_some_iff.mp hpending)
        exact absurd (hwaiting _ hentry) (Option.some_ne_none _)

/-- The holds and the release are committed, and one hold is active. -/
theorem quiet_active : (run quiet).committed = [.hold first, .release resolved, .hold second] ∧
    OneActive (run quiet).committed := by
  refine ⟨by decide +kernel, one_active_hold ?_⟩
  have other : ∀ {s : HoldStore} (step : HoldStep), (∀ t h, step ≠ .insert t (.hold h)) →
      holdSystem.Reachable ChecksAlone s → holdSystem.Reachable ChecksAlone (s.perform step) := by
    intro s step hstep hs
    refine hs.step (a := step) ?_ rfl
    unfold ChecksAlone
    split
    · next t h => exact absurd rfl (hstep t h)
    · trivial
  have h₀ : holdSystem.Reachable ChecksAlone empty := .init rfl
  have h₁ := h₀.step (a := .insert 1 (.hold first))
    (checksAlone (by decide +kernel) (by decide +kernel)) rfl
  have h₂ := other (.commit 1) (fun _ _ => nofun) h₁
  have h₃ := other (.insert 2 (.release resolved)) (fun _ _ => nofun) h₂
  have h₄ := other (.commit 2) (fun _ _ => nofun) h₃
  have h₅ := h₄.step (a := .insert 3 (.hold second))
    (checksAlone (by decide +kernel) (by decide +kernel)) rfl
  exact other (.commit 3) (fun _ _ => nofun) h₅

end Sample

end HoldStore

end InspectionHub.Database
