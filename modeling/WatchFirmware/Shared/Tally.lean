import Mathlib

set_option autoImplicit false

namespace Tally

variable {Index Value Total : Type} [Fintype Index] [DecidableEq Index] [AddCommMonoid Total]

theorem sum_update (weight : Value → Total) (values : Index → Value) (i : Index) (value : Value) :
    ∑ j, weight (Function.update values i value j) + weight (values i) =
      ∑ j, weight (values j) + weight value := by
  have others : ∑ j ∈ Finset.univ.erase i, weight (Function.update values i value j) =
      ∑ j ∈ Finset.univ.erase i, weight (values j) :=
    Finset.sum_congr rfl fun j member => by
      rw [Function.update_of_ne (Finset.ne_of_mem_erase member)]
  have after := Finset.sum_erase_add Finset.univ
    (fun j => weight (Function.update values i value j)) (Finset.mem_univ i)
  have before := Finset.sum_erase_add Finset.univ (fun j => weight (values j)) (Finset.mem_univ i)
  rw [← after, ← before, others, Function.update_self]
  exact add_right_comm _ _ _

def weigh {Item : Type} (f : Item → Nat) (items : List Item) : Nat := (items.map f).sum

section Weigh

variable {Item : Type} (f : Item → Nat)

@[simp] theorem weigh_nil : weigh f [] = 0 := by
  rw [weigh, List.map_nil, List.sum_nil]

@[simp] theorem weigh_cons (item : Item) (rest : List Item) :
    weigh f (item :: rest) = f item + weigh f rest := by
  simp [weigh]

@[simp] theorem weigh_append (first second : List Item) :
    weigh f (first ++ second) = weigh f first + weigh f second := by
  simp [weigh]

theorem weigh_flatMap {Place : Type} (places : List Place) (contents : Place → List Item) :
    weigh f (places.flatMap contents) = (places.map fun place => weigh f (contents place)).sum := by
  induction places with
  | nil => rfl
  | cons place rest ih => simp [ih]

theorem weigh_count [DecidableEq Item] (item : Item) (items : List Item) :
    weigh (fun other => if other = item then 1 else 0) items = items.count item := by
  induction items with
  | nil => rfl
  | cons head rest ih =>
      rw [weigh_cons, ih, List.count_cons]
      by_cases same : head = item <;> simp [same, Nat.add_comm]

end Weigh

theorem perm_of_weigh {Item : Type} {first second : List Item}
    (same : ∀ f, weigh f first = weigh f second) : first.Perm second := by
  classical
  refine List.perm_iff_count.mpr fun item => ?_
  rw [← weigh_count, ← weigh_count]
  exact same _

end Tally
