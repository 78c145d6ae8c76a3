import WatchFirmware.Shared.Transition

set_option autoImplicit false

namespace Refinement

open Transition

variable {State Abstract Action : Type}

/-- Related states enable the same of the allowed actions, and these lead to related states. -/
def Refines (concrete : Step State Action) (abstract : Step Abstract Action)
    (guard : State → Action → Prop) (related : State → Abstract → Prop) : Prop :=
  ∀ state spec action, related state spec → guard state action →
    Option.Rel related (concrete state action) (abstract spec action)

section Run

variable {concrete : Step State Action} {abstract : Step Abstract Action} {guard : State → Action → Prop}
  {related : State → Abstract → Prop}

theorem Refines.run (refines : Refines concrete abstract guard related) {state : State} {spec : Abstract}
    (start : related state spec) {actions : List Action} (guarded : Guarded concrete guard state actions) :
    Option.Rel related (run concrete state actions) (run abstract spec actions) := by
  induction actions generalizing state spec with
  | nil => exact .some start
  | cons action rest ih =>
      obtain ⟨allowed, remaining⟩ := guarded
      have first := refines state spec action start allowed
      simp only [Transition.run]
      generalize concrete state action = next at first remaining ⊢
      generalize abstract spec action = specNext at first ⊢
      cases first with
      | none => exact .none
      | some kept => exact ih kept remaining

theorem Refines.run_some (refines : Refines concrete abstract guard related) {state after : State}
    {spec : Abstract} (start : related state spec) {actions : List Action}
    (guarded : Guarded concrete guard state actions) (ran : Transition.run concrete state actions = some after) :
    ∃ specAfter, Transition.run abstract spec actions = some specAfter ∧ related after specAfter := by
  have both := refines.run start guarded
  rw [ran] at both
  generalize Transition.run abstract spec actions = specRun at both ⊢
  cases both with
  | some kept => exact ⟨_, rfl, kept⟩

end Run

/-- A run of allowed actions goes to its end where every allowed action is enabled under the invariant. -/
theorem run_guarded {step : Step State Action} {guard : State → Action → Prop} {holds : State → Prop}
    (total : ∀ state action, holds state → guard state action → ∃ after, step state action = some after ∧ holds after)
    {state : State} (start : holds state) {actions : List Action} (guarded : Guarded step guard state actions) :
    ∃ after, run step state actions = some after ∧ holds after := by
  induction actions generalizing state with
  | nil => exact ⟨state, rfl, start⟩
  | cons action rest ih =>
      obtain ⟨allowed, remaining⟩ := guarded
      obtain ⟨next, taken, kept⟩ := total state action start allowed
      rw [taken] at remaining
      obtain ⟨after, ran, last⟩ := ih kept remaining
      refine ⟨after, ?_, last⟩
      rw [run, taken]
      exact ran

end Refinement
