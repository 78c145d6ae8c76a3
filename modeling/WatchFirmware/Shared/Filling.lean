import Mathlib

set_option autoImplicit false

namespace Filling

variable {α : Type}

/-- A block written front to back: its cells, `none` where nothing has been written yet, and the
places written so far in the order of the writes. -/
structure Block (α : Type) where
  cells : List (Option α)
  next : Nat
  places : List Nat
  deriving DecidableEq, Repr

def Block.fresh (size : Nat) : Block α := ⟨List.replicate size none, 0, []⟩

/-- Write at the cursor and advance it; `none` is a write behind the end. -/
def Block.put (block : Block α) (value : α) : Option (Block α) :=
  if block.next < block.cells.length then
    some ⟨block.cells.set block.next (some value), block.next + 1, block.places ++ [block.next]⟩
  else none

structure Block.Holds (block : Block α) (size : Nat) (values : List α) : Prop where
  room : values.length ≤ size
  cells : block.cells = values.map some ++ List.replicate (size - values.length) none
  next : block.next = values.length
  places : block.places = List.range values.length

theorem Block.Holds.fresh (size : Nat) : (Block.fresh size).Holds size ([] : List α) where
  room := Nat.zero_le _
  cells := rfl
  next := rfl
  places := rfl

theorem Block.Holds.put {block : Block α} {size : Nat} {values : List α} (holds : block.Holds size values)
    (value : α) (room : values.length < size) :
    ∃ after, block.put value = some after ∧ after.Holds size (values ++ [value]) := by
  have inside : block.next < block.cells.length := by
    rw [holds.next, holds.cells, List.length_append, List.length_map, List.length_replicate]
    omega
  refine ⟨_, if_pos inside, ?_⟩
  constructor
  case room =>
    rw [List.length_append, List.length_singleton]
    exact room
  case cells =>
    have rest : size - values.length = (size - (values ++ [value]).length) + 1 := by
      rw [List.length_append, List.length_singleton]
      omega
    have front : (values.map some).length = values.length := List.length_map _
    change block.cells.set block.next (some value) = _
    rw [holds.cells, holds.next, List.set_append_right _ _ (Nat.le_of_eq front), front, Nat.sub_self, rest,
      List.replicate_succ, List.set_cons_zero, List.map_append, List.append_assoc]
    rfl
  case next => rw [List.length_append, List.length_singleton, ← holds.next]
  case places => rw [List.length_append, List.length_singleton, List.range_succ, ← holds.places, ← holds.next]

theorem Block.Holds.full {block : Block α} {values : List α} (holds : block.Holds values.length values) :
    block.cells = values.map some := by
  rw [holds.cells, Nat.sub_self, List.replicate_zero, List.append_nil]

def Appends (code : Block α → Option (Block α)) (values : List α) : Prop :=
  ∀ block size before, block.Holds size before → before.length + values.length ≤ size →
    ∃ after, code block = some after ∧ after.Holds size (before ++ values)

theorem Appends.nothing : Appends (some : Block α → Option (Block α)) [] := by
  intro block size before holds _
  exact ⟨block, rfl, by rwa [List.append_nil]⟩

theorem Appends.put (value : α) : Appends (fun block => block.put value) [value] := by
  intro block size before holds room
  exact holds.put value room

theorem Appends.bind {code rest : Block α → Option (Block α)} {values more : List α}
    (first : Appends code values) (second : Appends rest more) :
    Appends (fun block => (code block).bind rest) (values ++ more) := by
  intro block size before holds room
  rw [List.length_append] at room
  obtain ⟨middle, ran, kept⟩ := first block size before holds (by omega)
  obtain ⟨after, further, final⟩ := second middle size _ kept (by
    rw [List.length_append]
    omega)
  refine ⟨after, ?_, by rwa [← List.append_assoc]⟩
  change (code block).bind rest = some after
  rw [ran, Option.bind_some, further]

theorem Appends.foldlM {Round : Type} {body : Block α → Round → Option (Block α)} {values : Round → List α}
    {rounds : List Round} (each : ∀ round ∈ rounds, Appends (fun block => body block round) (values round)) :
    Appends (fun block => rounds.foldlM body block) (rounds.flatMap values) := by
  induction rounds with
  | nil => exact Appends.nothing
  | cons round rest ih =>
      have first := each round List.mem_cons_self
      have later := ih fun other member => each other (List.mem_cons_of_mem _ member)
      simp only [List.foldlM_cons, List.flatMap_cons]
      exact first.bind later

theorem Appends.fills {code : Block α → Option (Block α)} {values : List α} (appends : Appends code values) :
    ∃ after, code (Block.fresh values.length) = some after ∧ after.cells = values.map some ∧
      after.places = List.range values.length := by
  obtain ⟨after, ran, holds⟩ := appends _ values.length [] (Block.Holds.fresh _) (by simp)
  exact ⟨after, ran, holds.full, holds.places⟩

end Filling
