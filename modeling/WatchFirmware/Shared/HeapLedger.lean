import Mathlib

set_option autoImplicit false

namespace HeapLedger

inductive Event where
  | allocate
  | free
  | hand
  deriving DecidableEq, Repr

-- Blocks are numbered in the order they are allocated. held is the one the pointer refers to.
structure Ledger where
  allocated : Nat
  held : Option Nat
  freed : List Nat
  handed : List Nat
  deriving DecidableEq, Repr

namespace Ledger

def empty : Ledger := ⟨0, none, [], []⟩

/-- `none` where a block would be lost, or one that is not there freed or handed over. -/
def apply (ledger : Ledger) : Event → Option Ledger
  | .allocate =>
      match ledger.held with
      | none => some { ledger with allocated := ledger.allocated + 1, held := some ledger.allocated }
      | some _ => none
  | .free => ledger.held.map fun block => { ledger with held := none, freed := ledger.freed ++ [block] }
  | .hand => ledger.held.map fun block => { ledger with held := none, handed := ledger.handed ++ [block] }

def applyAll : Ledger → List Event → Option Ledger
  | ledger, [] => some ledger
  | ledger, event :: rest => (ledger.apply event).bind fun next => next.applyAll rest

def Accounted (ledger : Ledger) : Prop :=
  (ledger.freed ++ ledger.handed ++ ledger.held.toList).Perm (List.range ledger.allocated)

theorem empty_accounted : empty.Accounted := List.Perm.refl _

theorem apply_accounted {ledger next : Ledger} {event : Event} (accounted : ledger.Accounted)
    (applied : ledger.apply event = some next) : next.Accounted := by
  unfold Accounted at accounted ⊢
  cases held : ledger.held with
  | none =>
      cases event with
      | allocate =>
          simp only [apply, held] at applied
          cases applied
          rw [held, Option.toList_none, List.append_nil] at accounted
          rw [List.range_succ]
          exact accounted.append_right _
      | free | hand => simp [apply, held] at applied
  | some block =>
      rw [held, Option.toList_some] at accounted
      cases event with
      | allocate => simp [apply, held] at applied
      | free =>
          simp only [apply, held, Option.map_some] at applied
          cases applied
          rw [Option.toList_none, List.append_nil]
          refine List.Perm.trans ?_ accounted
          rw [List.append_assoc, List.append_assoc]
          exact List.perm_append_comm.append_left _
      | hand =>
          simp only [apply, held, Option.map_some] at applied
          cases applied
          rw [Option.toList_none, List.append_nil, ← List.append_assoc]
          exact accounted

theorem applyAll_accounted {ledger last : Ledger} {events : List Event} (accounted : ledger.Accounted)
    (applied : ledger.applyAll events = some last) : last.Accounted := by
  induction events generalizing ledger with
  | nil =>
      cases applied
      exact accounted
  | cons event rest ih =>
      obtain ⟨next, first, remaining⟩ := Option.bind_eq_some_iff.mp applied
      exact ih (apply_accounted accounted first) remaining

theorem applyAll_append (ledger : Ledger) (events more : List Event) :
    ledger.applyAll (events ++ more) = (ledger.applyAll events).bind fun next => next.applyAll more := by
  induction events generalizing ledger with
  | nil => rfl
  | cons event rest ih =>
      simp only [List.cons_append, applyAll]
      cases ledger.apply event with
      | none => rfl
      | some next => exact ih next

end Ledger

/-- From any ledger that holds a block or not, the events go through, and leave one that does or does not. -/
def Moves (before : Bool) (events : List Event) (after : Bool) : Prop :=
  ∀ ledger : Ledger, ledger.held.isSome = before →
    ∃ last, ledger.applyAll events = some last ∧ last.held.isSome = after

theorem Moves.nothing (held : Bool) : Moves held [] held := fun ledger same => ⟨ledger, rfl, same⟩

theorem Moves.allocate : Moves false [.allocate] true := by
  intro ledger unheld
  have free : ledger.held = none := Option.not_isSome_iff_eq_none.mp (by simp [unheld])
  refine ⟨{ ledger with allocated := ledger.allocated + 1, held := some ledger.allocated }, ?_, rfl⟩
  simp only [Ledger.applyAll, Ledger.apply, free, Option.bind_some]

theorem Moves.free : Moves true [.free] false := by
  intro ledger held
  obtain ⟨block, same⟩ := Option.isSome_iff_exists.mp held
  refine ⟨{ ledger with held := none, freed := ledger.freed ++ [block] }, ?_, rfl⟩
  simp only [Ledger.applyAll, Ledger.apply, same, Option.map_some, Option.bind_some]

theorem Moves.hand : Moves true [.hand] false := by
  intro ledger held
  obtain ⟨block, same⟩ := Option.isSome_iff_exists.mp held
  refine ⟨{ ledger with held := none, handed := ledger.handed ++ [block] }, ?_, rfl⟩
  simp only [Ledger.applyAll, Ledger.apply, same, Option.map_some, Option.bind_some]

theorem Moves.append {before middle after : Bool} {events more : List Event} (first : Moves before events middle)
    (second : Moves middle more after) : Moves before (events ++ more) after := by
  intro ledger start
  obtain ⟨next, taken, held⟩ := first ledger start
  obtain ⟨last, further, final⟩ := second next held
  exact ⟨last, by rw [Ledger.applyAll_append, taken, Option.bind_some, further], final⟩

end HeapLedger
