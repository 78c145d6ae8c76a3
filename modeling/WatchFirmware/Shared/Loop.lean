import Mathlib

set_option autoImplicit false

namespace Loop

variable {σ : Type}

inductive Flow (σ : Type) where
  | again (state : σ)
  | exit (state : σ)

def Flow.state : Flow σ → σ
  | .again state => state
  | .exit state => state

/-- A body answers `none` when it would fault; so does a run that is out of fuel. -/
def loop (body : σ → Option (Flow σ)) : Nat → σ → Option σ
  | 0, _ => none
  | fuel + 1, state =>
      match body state with
      | none => none
      | some (.exit after) => some after
      | some (.again next) => loop body fuel next

inductive Exits (body : σ → Option (Flow σ)) : σ → σ → Prop where
  | exit {state after : σ} (left : body state = some (.exit after)) : Exits body state after
  | again {state next after : σ} (round : body state = some (.again next))
      (rest : Exits body next after) : Exits body state after

theorem exits_of_loop {body : σ → Option (Flow σ)} {fuel : Nat} {state after : σ}
    (done : loop body fuel state = some after) : Exits body state after := by
  induction fuel generalizing state with
  | zero => cases done
  | succ fuel ih =>
      simp only [loop] at done
      split at done
      next => cases done
      next left =>
        cases done
        exact .exit left
      next round => exact .again round (ih done)

theorem loop_of_some_exits {body : σ → Option (Flow σ)} {state after : σ} (exits : Exits body state after) :
    ∃ fuel, loop body fuel state = some after := by
  induction exits with
  | exit left => exact ⟨1, by simp [loop, left]⟩
  | again round _ ih =>
      obtain ⟨fuel, done⟩ := ih
      exact ⟨fuel + 1, by simp [loop, round, done]⟩

theorem Exits.relates {body : σ → Option (Flow σ)} (related : σ → σ → Prop)
    (composes : ∀ first second third, related first second → related second third → related first third)
    (each : ∀ state flow, body state = some flow → related state flow.state)
    {state after : σ} (exits : Exits body state after) : related state after := by
  induction exits with
  | exit left => exact each _ _ left
  | again round _ ih => exact composes _ _ _ (each _ _ round) ih

/-- A measure that every further round lowers is fuel enough for a loop that exits. -/
theorem loop_of_exits {body : σ → Option (Flow σ)} {measure : σ → Nat}
    (decreasing : ∀ state next, body state = some (.again next) → measure next < measure state)
    {state after : σ} (exits : Exits body state after) {fuel : Nat} (enough : measure state < fuel) :
    loop body fuel state = some after := by
  induction exits generalizing fuel with
  | exit left =>
      obtain ⟨fuel, rfl⟩ : ∃ less, fuel = less + 1 := ⟨fuel - 1, by omega⟩
      simp [loop, left]
  | again round _ ih =>
      obtain ⟨fuel, rfl⟩ : ∃ less, fuel = less + 1 := ⟨fuel - 1, by omega⟩
      have lower := decreasing _ _ round
      simp [loop, round, @ih fuel (by omega)]

theorem exists_exits {body : σ → Option (Flow σ)} {measure : σ → Nat} {invariant post : σ → Prop}
    (decreasing : ∀ state next, body state = some (.again next) → measure next < measure state)
    (runs : ∀ state, invariant state →
      (∃ next, body state = some (.again next) ∧ invariant next) ∨
        ∃ after, body state = some (.exit after) ∧ post after)
    {state : σ} (holds : invariant state) : ∃ after, Exits body state after ∧ post after := by
  generalize bound : measure state = size
  induction size using Nat.strongRecOn generalizing state with
  | _ size ih =>
      rcases runs state holds with ⟨next, round, kept⟩ | ⟨after, left, final⟩
      · have lower := decreasing _ _ round
        obtain ⟨after, exits, final⟩ := ih (measure next) (by omega) kept rfl
        exact ⟨after, .again round exits, final⟩
      · exact ⟨after, .exit left, final⟩

theorem exists_loop {body : σ → Option (Flow σ)} {measure : σ → Nat} {invariant post : σ → Prop}
    (runs : ∀ state, invariant state →
      (∃ next, body state = some (.again next) ∧ invariant next ∧ measure next < measure state) ∨
        ∃ after, body state = some (.exit after) ∧ post after)
    {state : σ} (holds : invariant state) {fuel : Nat} (enough : measure state < fuel) :
    ∃ after, loop body fuel state = some after ∧ post after := by
  induction fuel generalizing state with
  | zero => contradiction
  | succ fuel ih =>
      obtain ⟨next, round, kept, lower⟩ | ⟨after, left, final⟩ := runs state holds
      next =>
        obtain ⟨after, done, final⟩ := ih kept (by omega)
        exact ⟨after, by rw [loop, round]; exact done, final⟩
      next => exact ⟨after, by rw [loop, left], final⟩

inductive Visits (body : σ → Option (Flow σ)) (start : σ) : σ → Prop where
  | start : Visits body start start
  | again {state next : σ} (visited : Visits body start state) (round : body state = some (.again next)) :
      Visits body start next

theorem Visits.invariant {body : σ → Option (Flow σ)} {start : σ} {holds : σ → Prop} (initial : holds start)
    (kept : ∀ state next, holds state → body state = some (.again next) → holds next) {state : σ}
    (visited : Visits body start state) : holds state := by
  induction visited with
  | start => exact initial
  | again _ round ih => exact kept _ _ ih round

/-- Passes of two loops that fault, go round again and leave together. -/
inductive Lockstep (related : σ → σ → Prop) : Option (Flow σ) → Option (Flow σ) → Prop where
  | fault : Lockstep related none none
  | again {next twin : σ} (kept : related next twin) : Lockstep related (some (.again next)) (some (.again twin))
  | exit {after twin : σ} (kept : related after twin) : Lockstep related (some (.exit after)) (some (.exit twin))

theorem loop_lockstep {body : σ → Option (Flow σ)} {related : σ → σ → Prop}
    (each : ∀ state twin, related state twin → Lockstep related (body state) (body twin)) (fuel : Nat)
    {state twin : σ} (start : related state twin) :
    Option.Rel related (loop body fuel state) (loop body fuel twin) := by
  induction fuel generalizing state twin with
  | zero => exact .none
  | succ fuel ih =>
      have pass := each state twin start
      unfold loop
      generalize body state = flow at pass ⊢
      generalize body twin = other at pass ⊢
      cases pass with
      | fault => exact .none
      | again kept => exact ih kept
      | exit kept => exact .some kept

/-- A loop over given rounds comes to its end where no round faults; the invariant may count them. -/
theorem foldlM_total {Round : Type} {body : σ → Round → Option σ} {rounds : List Round}
    {holds : Nat → σ → Prop} {state : σ}
    (each : ∀ i, (inside : i < rounds.length) → ∀ state, holds i state →
      ∃ next, body state rounds[i] = some next ∧ holds (i + 1) next)
    (initial : holds 0 state) :
    ∃ after, rounds.foldlM body state = some after ∧ holds rounds.length after := by
  induction rounds generalizing state holds with
  | nil => exact ⟨state, rfl, initial⟩
  | cons round rest ih =>
      obtain ⟨next, first, kept⟩ := each 0 (Nat.zero_lt_succ _) state initial
      have first : body state round = some next := first
      rw [List.foldlM_cons, first]
      have later : ∀ i, (inside : i < rest.length) → ∀ state, holds (i + 1) state →
          ∃ next, body state rest[i] = some next ∧ holds (i + 1 + 1) next := by
        intro i inside
        exact each (i + 1) (Nat.succ_lt_succ inside)
      have shifted := @ih (fun i => holds (i + 1)) next later kept
      exact shifted

theorem foldlM_invariant {Round : Type} {body : σ → Round → Option σ} {rounds : List Round}
    {holds : σ → Prop} {state : σ}
    (each : ∀ round ∈ rounds, ∀ state, holds state → ∃ next, body state round = some next ∧ holds next)
    (initial : holds state) : ∃ after, rounds.foldlM body state = some after ∧ holds after :=
  @foldlM_total _ _ _ _ (fun _ => holds) _ (fun _ inside => each _ (List.getElem_mem inside)) initial

theorem mapM_total {Input Output : Type} {f : Input → Option Output} {inputs : List Input}
    {good : Output → Prop} (each : ∀ input ∈ inputs, ∃ output, f input = some output ∧ good output) :
    ∃ outputs, inputs.mapM f = some outputs ∧ outputs.length = inputs.length ∧
      ∀ output ∈ outputs, good output := by
  induction inputs with
  | nil => exact ⟨[], rfl, rfl, by simp⟩
  | cons input rest ih =>
      obtain ⟨output, first, fine⟩ := each input List.mem_cons_self
      obtain ⟨outputs, later, length, others⟩ := ih fun other member => each other (List.mem_cons_of_mem _ member)
      refine ⟨output :: outputs, ?_, by rw [List.length_cons, List.length_cons, length], ?_⟩
      · rw [List.mapM_cons, first, later]
        rfl
      · intro other member
        obtain rfl | member := List.mem_cons.mp member
        next => exact fine
        next => exact others other member

end Loop
