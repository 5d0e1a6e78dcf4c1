import Mathlib

/-!
# What an observer knows after a run

A run folds a step that may fail over a list of events. An observer reads some
of the events and keeps a state of its own. When every step keeps the two in
touch (`Watches`), the observer's state after the run is computed from what it
read alone (`Watches.run`), so two runs it reads alike leave it in one state.
-/

namespace InspectionHub.Views

universe u

variable {σ τ ε ι δ : Type u} {step : σ → ε → Except δ σ} {reads : ε → Option ι}
  {watch : τ → ι → Option τ} {Holds : τ → σ → Prop}

variable (step reads watch Holds) in
/-- A step whose event the observer reads moves the observer with it, and any
other step leaves the observer in touch where it is. -/
structure Watches : Prop where
  seen : ∀ {t : τ} {s s' : σ} {e : ε} {i : ι}, Holds t s → step s e = .ok s' →
    reads e = some i → ∃ t', watch t i = some t' ∧ Holds t' s'
  unseen : ∀ {t : τ} {s s' : σ} {e : ε}, Holds t s → step s e = .ok s' → reads e = none →
    Holds t s'

/-- A run takes the observer along its own readings. -/
theorem Watches.run (hw : Watches step reads watch Holds) {events : List ε} {t : τ} {s s' : σ}
    (hholds : Holds t s) (hrun : events.foldlM step s = .ok s') :
    ∃ t', (events.filterMap reads).foldlM watch t = some t' ∧ Holds t' s' := by
  induction events generalizing t s with
  | nil =>
      cases hrun
      exact ⟨t, rfl, hholds⟩
  | cons e rest ih =>
      rw [List.foldlM_cons] at hrun
      cases hstep : step s e with
      | error d =>
          rw [hstep] at hrun
          cases hrun
      | ok mid =>
          rw [hstep] at hrun
          cases hread : reads e with
          | none =>
              rw [List.filterMap_cons_none hread]
              exact ih (hw.unseen hholds hstep hread) hrun
          | some i =>
              obtain ⟨t₁, ht₁, hmid⟩ := hw.seen hholds hstep hread
              obtain ⟨t', ht', hend⟩ := ih hmid hrun
              refine ⟨t', ?_, hend⟩
              rw [List.filterMap_cons_some hread, List.foldlM_cons, ht₁]
              exact ht'

end InspectionHub.Views
