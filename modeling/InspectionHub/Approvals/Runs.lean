import InspectionHub.Approvals.Calls
import InspectionHub.Lib.TSys

/-!
# Runs of the approval service

Any operations on any modules, while snapshots are created and inspectors
assigned beside them. Two modules never share a record: the text a record is
found by belongs to one key only, once a snapshot of that key exists, and no
operation writes before it found one.
-/

namespace InspectionHub.Approvals

open Domain Reporting

/-- A public call of the service. -/
inductive Operation where
  | approve (command : ApprovalCommand)
  | invalidateForSnapshotEdit (input : SnapshotEdit)
  | withdraw (input : Withdrawal)
  | reopenWithNewSnapshot (key : ModuleSnapshotKey)
  | getCurrentApproval (key : ModuleSnapshotKey)
  | getRevision (key : ModuleSnapshotKey)
  | isWithdrawn (key : ModuleSnapshotKey)

def Operation.key : Operation → ModuleSnapshotKey
  | .approve c => c.key
  | .invalidateForSnapshotEdit i => i.key
  | .withdraw i => i.key
  | .reopenWithNewSnapshot key | .getCurrentApproval key | .getRevision key | .isWithdrawn key =>
      key

inductive Reply where
  | approval (a : ApprovalRecord)
  | revision (n : Nat)
  | reopened
  | currentApproval (a : Option ApprovalRecord)
  | withdrawn (b : Bool)

inductive Step where
  /-- `InMemoryModuleSnapshotStore.create`. -/
  | createSnapshot (input : ModuleSnapshotInput) (expectedCurrentRevision : Int)
  /-- `InMemoryInspectorAuthority.set`. -/
  | setAuthority (key : ModuleSnapshotKey) (authority : InspectorAuthority)
  | call (op : Operation)

variable (env : Surroundings)

def perform : Operation → Call Reply
  | .approve c => do return .approval (← approve env c)
  | .invalidateForSnapshotEdit i => do return .revision (← invalidateForSnapshotEdit env i)
  | .withdraw i => do return .revision (← withdraw env i)
  | .reopenWithNewSnapshot key => do
      reopenWithNewSnapshot key
      return .reopened
  | .getCurrentApproval key => do return .currentApproval (← getCurrentApproval key)
  | .getRevision key => do return .revision (← getRevision key)
  | .isWithdrawn key => do return .withdrawn (← isWithdrawn key)

def next (w : World) : Step → World
  | .createSnapshot input expectedCurrentRevision =>
      match w.snapshots.create env.domain input expectedCurrentRevision with
      | .ok (_, snapshots) => { w with snapshots }
      | .error _ => w
  | .setAuthority key authority =>
      { w with authorities := w.authorities.set (moduleIdentity key) authority }
  | .call op => Tx.after (perform env op w)

def run (steps : List Step) : World := steps.foldl (next env) .initial

/-- The service and its surroundings as a transition system. -/
def system : TSys World Step := .ofFun .initial (next env)

/-! ## What an operation does -/

variable {env} {w w' : World}

/-- The record of a module after an operation that wrote it. -/
inductive Mutation (env : Surroundings) (w w' : World) : Operation → Prop
  | recorded {c a} : Records env c a w w' → Mutation env w w' (.approve c)
  | invalidated {i} : Invalidates i w w' → Mutation env w w' (.invalidateForSnapshotEdit i)
  | withdrawn {i} : Withdraws i w w' → Mutation env w w' (.withdraw i)
  | reopened {key} : Reopens key w w' → Mutation env w w' (.reopenWithNewSnapshot key)

variable (env) in
/-- The operation succeeds in `w`, and is no replay. -/
def mutates (w : World) : Operation → Bool
  | .approve c => returned (approve env c w) && !(w.state c.key).idempotency.has c.idempotencyKey
  | .invalidateForSnapshotEdit i => returned (invalidateForSnapshotEdit env i w)
  | .withdraw i => returned (withdraw env i w)
  | .reopenWithNewSnapshot key => returned (reopenWithNewSnapshot key w)
  | _ => false

theorem next_create {input : ModuleSnapshotInput} {n : Int} {created : JsVal} {s : SnapshotStore}
    (h : w.snapshots.create env.domain input n = .ok (created, s)) :
    next env w (.createSnapshot input n) = { w with snapshots := s } := by
  simp only [next, h]

variable {α : Type}

/-- A call and the reply made of its result end in the same world. -/
theorem reply_cases (x : Call α) (f : α → Reply) (w : World) :
    (∃ a w', x w = .ok a w' ∧ (do return f (← x) : Call Reply) w = .ok (f a) w') ∨
      ∃ e w', x w = .error e w' ∧ (do return f (← x) : Call Reply) w = .error e w' := by
  cases h : x w with
  | ok a w' => exact .inl ⟨a, w', rfl, Tx.bind_of h _⟩
  | error e w' =>
      refine .inr ⟨e, w', rfl, ?_⟩
      show EStateM.bind x _ w = _
      rw [EStateM.bind, h]

/-- A call that only reads. -/
theorem within_reader (key : ModuleSnapshotKey) (f : ModuleApprovalState → α) :
    Tx.Within SameView (state key >>= fun s => pure (f s) : Call α) :=
  .bind .trans (within_state key) fun s => .pure .refl (f s)

theorem reader_sameView (key : ModuleSnapshotKey) (f : ModuleApprovalState → α) (g : α → Reply)
    (w : World) : SameView w
      (Tx.after (((state key >>= fun s => pure (f s) : Call α) >>= fun a => pure (g a) : Call Reply) w)) :=
  Tx.Within.bind .trans (within_reader key f) (fun a => .pure .refl (g a)) w

variable (env) in
/-- **Spec of an operation.** It mutates the record of its module, or changes
no view. -/
theorem perform_spec (op : Operation) (w : World) :
    (mutates env w op = true ∧ Mutation env w (Tx.after (perform env op w)) op) ∨
      (mutates env w op = false ∧ SameView w (Tx.after (perform env op w))) := by
  cases op with
  | approve c =>
      rcases reply_cases (approve env c) .approval w with ⟨a, w', hx, hy⟩ | ⟨e, w', hx, hy⟩
      · rw [perform, hy, mutates, hx]
        rcases approve_ok hx with ⟨r, hr, -, -, hview⟩ | hrec
        · exact .inr ⟨by rw [OMap.has, hr]; rfl, hview⟩
        · exact .inl ⟨by rw [OMap.has, hrec.unused]; rfl, .recorded hrec⟩
      · rw [perform, hy, mutates, hx]
        exact .inr ⟨rfl, approve_atomic c _ _ _ hx⟩
  | invalidateForSnapshotEdit i =>
      rcases reply_cases (invalidateForSnapshotEdit env i) .revision w with
        ⟨n, w', hx, hy⟩ | ⟨e, w', hx, hy⟩
      · rw [perform, hy, mutates, hx]
        exact .inl ⟨rfl, .invalidated (invalidateForSnapshotEdit_ok hx)⟩
      · rw [perform, hy, mutates, hx]
        exact .inr ⟨rfl, invalidateForSnapshotEdit_atomic i _ _ _ hx⟩
  | withdraw i =>
      rcases reply_cases (withdraw env i) .revision w with ⟨n, w', hx, hy⟩ | ⟨e, w', hx, hy⟩
      · rw [perform, hy, mutates, hx]
        exact .inl ⟨rfl, .withdrawn (withdraw_ok hx)⟩
      · rw [perform, hy, mutates, hx]
        exact .inr ⟨rfl, withdraw_atomic i _ _ _ hx⟩
  | reopenWithNewSnapshot key =>
      rcases reply_cases (reopenWithNewSnapshot key) (fun _ => .reopened) w with
        ⟨u, w', hx, hy⟩ | ⟨e, w', hx, hy⟩
      · have hy : perform env (.reopenWithNewSnapshot key) w = .ok .reopened w' := hy
        rw [hy, mutates, hx]
        exact .inl ⟨rfl, .reopened (reopenWithNewSnapshot_ok hx)⟩
      · have hy : perform env (.reopenWithNewSnapshot key) w = .error e w' := hy
        rw [hy, mutates, hx]
        exact .inr ⟨rfl, reopenWithNewSnapshot_atomic key _ _ _ hx⟩
  | getCurrentApproval key => exact .inr ⟨rfl, reader_sameView key _ _ w⟩
  | getRevision key => exact .inr ⟨rfl, reader_sameView key _ _ w⟩
  | isWithdrawn key => exact .inr ⟨rfl, reader_sameView key _ _ w⟩

variable {op : Operation}

/-- An operation that throws changes no view. -/
theorem perform_error {e : ServiceError} (h : perform env op w = .error e w') : SameView w w' := by
  have quiet : ∀ {α : Type} {x : Call α} {f : α → Reply}, Tx.OnError SameView x →
      (do return f (← x) : Call Reply) w = .error e w' → SameView w w' := by
    intro α x f hx h
    rcases Tx.bind_error h with h | ⟨a, w₁, -, h⟩
    · exact hx w e w' h
    · cases h
  cases op with
  | approve c => exact quiet (approve_atomic c) h
  | invalidateForSnapshotEdit i => exact quiet (invalidateForSnapshotEdit_atomic i) h
  | withdraw i => exact quiet (withdraw_atomic i) h
  | reopenWithNewSnapshot key =>
      exact quiet (f := fun _ => .reopened) (reopenWithNewSnapshot_atomic key) h
  | getCurrentApproval key => exact quiet (within_reader key _).onError h
  | getRevision key => exact quiet (within_reader key _).onError h
  | isWithdrawn key => exact quiet (within_reader key _).onError h

/-- The record an operation leaves, and the snapshot it found. -/
theorem Mutation.writes (h : Mutation env w w' op) :
    (∃ snapshot, w.snapshots.getCurrent op.key = some snapshot) ∧
      ∃ s e, Writes op.key s e w w' ∧ s.revision = (w.state op.key).revision + 1 := by
  cases h with
  | recorded h =>
      obtain ⟨snapshot, hs, -⟩ := h.snapshot
      obtain ⟨e, hw⟩ := h.writes
      exact ⟨⟨snapshot, hs⟩, _, _, hw, rfl⟩
  | invalidated h =>
      obtain ⟨snapshot, hs, -⟩ := h.current
      obtain ⟨e, hw, -⟩ := h.writes
      exact ⟨⟨snapshot, hs⟩, _, _, hw, rfl⟩
  | withdrawn h =>
      obtain ⟨snapshot, hs, e, hw, -⟩ := h.snapshot
      exact ⟨⟨snapshot, hs⟩, _, _, hw, rfl⟩
  | reopened h =>
      obtain ⟨snapshot, id, hs, -⟩ := h.replaced
      exact ⟨⟨snapshot, hs⟩, _, _, h.writes, rfl⟩

/-! ## What a step does -/

/-- What the service rests on: a sound snapshot store. -/
def Sound (env : Surroundings) (w : World) : Prop := StoreSound env.domain.formats w.snapshots

theorem sound_next (hw : Sound env w) (step : Step) : Sound env (next env w step) := by
  cases step with
  | createSnapshot input n =>
      simp only [next]
      split
      · next created snapshots hc => exact storeSound_create hw hc
      · exact hw
  | setAuthority key authority => exact hw
  | call op =>
      unfold Sound
      rcases perform_spec env op w with ⟨-, h⟩ | ⟨-, h⟩
      · obtain ⟨-, s, e, hwrites, -⟩ := h.writes
        simp only [next, hwrites.snapshots]
        exact hw
      · simp only [next, h.snapshots]
        exact hw

theorem sound_run (env : Surroundings) (steps : List Step) : Sound env (run env steps) := by
  have hind : (system env).Inductive TSys.any (Sound env) := by
    refine ⟨fun w h => h ▸ storeSound_empty _, ?_⟩
    rintro w step w' hw - rfl
    exact sound_next hw step
  exact hind.invariant (TSys.reachable_foldl _ _ steps)

section Modules

variable (hcolon : ∀ id, env.domain.formats.uuid id = true → ColonFree id)

include hcolon

/-- A mutation touches the record of its own key and of no other. -/
theorem Mutation.state (hw : Sound env w) (h : Mutation env w w' op) :
    ∃ s, s.revision = (w.state op.key).revision + 1 ∧
      ∀ key, w'.state key = if key = op.key then s else w.state key := by
  obtain ⟨⟨snapshot, hs⟩, s, e, hwrites, hrev⟩ := h.writes
  refine ⟨s, hrev, fun key => ?_⟩
  rw [hwrites.state key]
  by_cases hk : key = op.key
  · rw [if_pos hk, if_pos (by rw [hk])]
  · have hid : moduleIdentity key ≠ moduleIdentity op.key := fun hid =>
      hk (key_unique hw hcolon hs hid)
    rw [if_neg hk, if_neg hid]

/-- Only an operation on a module changes its record. -/
theorem next_other (hw : Sound env w) {step : Step} {key : ModuleSnapshotKey}
    (h : ∀ op, step = .call op → op.key ≠ key) : (next env w step).state key = w.state key := by
  cases step with
  | createSnapshot input n =>
      simp only [next]
      split <;> rfl
  | setAuthority k authority => rfl
  | call op =>
      rcases perform_spec env op w with ⟨-, hm⟩ | ⟨-, hview⟩
      · obtain ⟨s, -, hstate⟩ := hm.state hcolon hw
        exact (hstate key).trans (if_neg fun hk => h op rfl hk.symm)
      · exact hview.state key

/-! ## Counting mutations -/

end Modules

end InspectionHub.Approvals

