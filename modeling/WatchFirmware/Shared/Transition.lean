import Mathlib

set_option autoImplicit false

namespace Transition

variable {State Action : Type}

-- A step answers none where the action is not enabled in the state.
abbrev Step (State Action : Type) := State → Action → Option State

def run (step : Step State Action) : State → List Action → Option State
  | state, [] => some state
  | state, action :: rest => (step state action).bind fun next => run step next rest

theorem run_append (step : Step State Action) (state : State) (first second : List Action) :
    run step state (first ++ second) =
      (run step state first).bind fun middle => run step middle second := by
  induction first generalizing state with
  | nil => rfl
  | cons action rest ih =>
      simp only [List.cons_append, run]
      cases step state action with
      | none => rfl
      | some next => exact ih next

/-- The states of the runs that start in `init` and take only steps `guard` allows. -/
inductive Reach (step : Step State Action) (init : State → Prop)
    (guard : State → Action → Prop) : State → Prop where
  | start {state : State} (initial : init state) : Reach step init guard state
  | next {state after : State} {action : Action} (reached : Reach step init guard state)
      (allowed : guard state action) (taken : step state action = some after) :
      Reach step init guard after

def Unguarded : State → Action → Prop := fun _ _ => True

theorem Reach.invariant {step : Step State Action} {init : State → Prop}
    {guard : State → Action → Prop} {holds : State → Prop}
    (initial : ∀ state, init state → holds state)
    (preserved : ∀ state action after, holds state → guard state action →
      step state action = some after → holds after)
    {state : State} (reached : Reach step init guard state) : holds state := by
  induction reached with
  | start given => exact initial _ given
  | next _ allowed taken ih => exact preserved _ _ _ ih allowed taken

def Guarded (step : Step State Action) (guard : State → Action → Prop) :
    State → List Action → Prop
  | _, [] => True
  | state, action :: rest =>
      guard state action ∧
        match step state action with
        | none => True
        | some next => Guarded step guard next rest

instance decidableGuarded (step : Step State Action) (guard : State → Action → Prop)
    [∀ state action, Decidable (guard state action)] (state : State) (actions : List Action) :
    Decidable (Guarded step guard state actions) :=
  match actions with
  | [] => .isTrue trivial
  | action :: rest => by
      unfold Guarded
      have tail : Decidable (match step state action with
          | none => True
          | some next => Guarded step guard next rest) :=
        match step state action with
        | none => .isTrue trivial
        | some next => decidableGuarded step guard next rest
      exact instDecidableAnd

theorem Reach.of_run {step : Step State Action} {init : State → Prop}
    {guard : State → Action → Prop} {state after : State} {actions : List Action}
    (reached : Reach step init guard state) (guarded : Guarded step guard state actions)
    (taken : run step state actions = some after) : Reach step init guard after := by
  induction actions generalizing state with
  | nil =>
      cases taken
      exact reached
  | cons action rest ih =>
      obtain ⟨next, first, remaining⟩ := Option.bind_eq_some_iff.mp taken
      have allowed := guarded
      simp only [Guarded, first] at allowed
      exact ih (.next reached allowed.1 first) allowed.2 remaining

theorem guarded_unguarded (step : Step State Action) (state : State) (actions : List Action) :
    Guarded step Unguarded state actions := by
  induction actions generalizing state with
  | nil => trivial
  | cons action rest ih =>
      refine ⟨trivial, ?_⟩
      cases step state action with
      | none => trivial
      | some next => exact ih next

/-- Where a step that is not allowed spoils what an allowed one keeps, the guarded runs are those that stay
good all the way. -/
theorem guarded_iff {step : Step State Action} {guard : State → Action → Prop} {holds good : State → Prop}
    (fine : ∀ state, holds state → good state)
    (preserved : ∀ state action after, holds state → guard state action →
      step state action = some after → holds after)
    (spoiled : ∀ state action, holds state → ¬guard state action →
      ∃ after, step state action = some after ∧ ¬good after)
    {state : State} (start : holds state) (actions : List Action) :
    Guarded step guard state actions ↔
      ∀ front, front <+: actions → ∀ after, run step state front = some after → good after := by
  induction actions generalizing state with
  | nil =>
      refine ⟨fun _ front shorter after ran => ?_, fun _ => trivial⟩
      obtain rfl := List.prefix_nil.mp shorter
      cases ran
      exact fine _ start
  | cons action rest ih =>
      have tail {next : State} (taken : step state action = some next) (front : List Action) :
          run step state (action :: front) = run step next front := by rw [run, taken, Option.bind_some]
      constructor
      · intro guarded front shorter after ran
        obtain ⟨allowed, remaining⟩ := guarded
        cases front with
        | nil =>
            cases ran
            exact fine _ start
        | cons first front =>
            obtain ⟨rfl, within⟩ := List.cons_prefix_cons.mp shorter
            obtain ⟨next, taken, further⟩ := Option.bind_eq_some_iff.mp ran
            rw [taken] at remaining
            exact (ih (preserved _ _ _ start allowed taken)).mp remaining front within after further
      · intro good
        have allowed : guard state action := by
          by_contra forbidden
          obtain ⟨after, taken, bad⟩ := spoiled state action start forbidden
          exact bad (good [action] (by simp) after (by rw [tail taken, run]))
        refine ⟨allowed, ?_⟩
        split
        next => trivial
        next next taken =>
          refine (ih (preserved _ _ _ start allowed taken)).mpr fun front shorter after ran => ?_
          exact good (action :: front) (by simpa using shorter) after (by rw [tail taken, ran])

/-- Where a step that is not allowed spoils the state for good, a run is guarded or ends spoiled. -/
theorem guarded_or_spoiled {step : Step State Action} {guard : State → Action → Prop}
    {holds spoiled : State → Prop}
    (preserved : ∀ state action after, holds state → guard state action →
      step state action = some after → holds after)
    (spoils : ∀ state action after, holds state → ¬guard state action →
      step state action = some after → spoiled after)
    (stays : ∀ state action after, spoiled state → step state action = some after → spoiled after)
    {state after : State} {actions : List Action} (start : holds state)
    (ran : run step state actions = some after) :
    Guarded step guard state actions ∧ holds after ∨ spoiled after := by
  have keeps {state : State} {rest : List Action} (bad : spoiled state)
      (ran : run step state rest = some after) : spoiled after := by
    induction rest generalizing state with
    | nil =>
        cases ran
        exact bad
    | cons action rest ih =>
        obtain ⟨next, taken, further⟩ := Option.bind_eq_some_iff.mp ran
        exact ih (stays _ _ _ bad taken) further
  induction actions generalizing state with
  | nil =>
      cases ran
      exact .inl ⟨trivial, start⟩
  | cons action rest ih =>
      obtain ⟨next, taken, further⟩ := Option.bind_eq_some_iff.mp ran
      by_cases allowed : guard state action
      · refine (ih (preserved _ _ _ start allowed taken) further).imp_left fun ⟨guarded, last⟩ => ⟨⟨allowed, ?_⟩, last⟩
        rw [taken]
        exact guarded
      · exact .inr (keeps (spoils _ _ _ start allowed taken) further)

end Transition
