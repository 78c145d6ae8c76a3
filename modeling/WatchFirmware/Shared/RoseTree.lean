import Mathlib

set_option autoImplicit false

namespace RoseTree

inductive Rose (α : Type) where
  | node (label : α) (children : List (Rose α))

variable {α : Type}

namespace Rose

def label : Rose α → α
  | node label _ => label

def children : Rose α → List (Rose α)
  | node _ children => children

theorem forest {motive : List (Rose α) → Prop} (nil : motive [])
    (cons : ∀ label children rest, motive children → motive rest → motive (node label children :: rest)) :
    ∀ row : List (Rose α), motive row
  | [] => nil
  | node label children :: rest =>
      cons label children rest (forest nil cons children) (forest nil cons rest)

end Rose

/-- A place in a tree: the way down to it from the root, its own index first. -/
abbrev Place := List Nat

def treeAt (root : Rose α) : Place → Option (Rose α)
  | [] => some root
  | i :: parent => (treeAt root parent).bind fun tree => tree.children[i]?

mutual

def descendants : Rose α → Place → List Place
  | .node _ children, place => rowDescendants children place 0

def rowDescendants : List (Rose α) → Place → Nat → List Place
  | [], _, _ => []
  | tree :: rest, parent, i => (i :: parent) :: descendants tree (i :: parent) ++ rowDescendants rest parent (i + 1)

end

example : descendants (.node () [.node () [.node () []], .node () []]) [] = [[0], [0, 0], [1]] := by decide

theorem rowDescendants_cons (label : α) (children rest : List (Rose α)) (parent : Place) (i : Nat) :
    rowDescendants (.node label children :: rest) parent i =
      (i :: parent) :: rowDescendants children (i :: parent) 0 ++ rowDescendants rest parent (i + 1) := rfl

theorem mem_rowDescendants {row : List (Rose α)} {parent : Place} {i : Nat} {place : Place}
    (below : place ∈ rowDescendants row parent i) : ∃ j, i ≤ j ∧ (j :: parent) <:+ place := by
  induction row using Rose.forest generalizing parent i with
  | nil => cases below
  | cons label children rest down across =>
      rw [rowDescendants_cons, List.cons_append, List.mem_cons, List.mem_append] at below
      obtain rfl | below | below := below
      next => exact ⟨i, Nat.le_refl i, List.suffix_refl _⟩
      next =>
        obtain ⟨j, _, deeper⟩ := down below
        exact ⟨i, Nat.le_refl i, (List.suffix_cons j (i :: parent)).trans deeper⟩
      next =>
        obtain ⟨j, later, deeper⟩ := across below
        exact ⟨j, Nat.le_of_succ_le later, deeper⟩

theorem suffix_of_mem_rowDescendants {row : List (Rose α)} {parent : Place} {i : Nat} {place : Place}
    (below : place ∈ rowDescendants row parent i) : parent <:+ place ∧ parent.length < place.length := by
  obtain ⟨j, _, deeper⟩ := mem_rowDescendants below
  have longer := deeper.length_le
  exact ⟨(List.suffix_cons j parent).trans deeper, longer⟩

theorem same_child {i j : Nat} {parent place : Place} (first : (i :: parent) <:+ place)
    (second : (j :: parent) <:+ place) : i = j := by
  have same := List.suffix_of_suffix_length_le first second (Nat.le_refl _)
  have equal := same.eq_of_length rfl
  exact (List.cons.inj equal).1

theorem rowDescendants_nodup (row : List (Rose α)) (parent : Place) (i : Nat) :
    (rowDescendants row parent i).Nodup := by
  induction row using Rose.forest generalizing parent i with
  | nil => exact List.nodup_nil
  | cons label children rest down across =>
      have shorter : (i :: parent) ∉ rowDescendants children (i :: parent) 0 := by
        intro below
        exact absurd (suffix_of_mem_rowDescendants below).2 (Nat.lt_irrefl _)
      have other {place : Place} (deeper : (i :: parent) <:+ place) :
          place ∉ rowDescendants rest parent (i + 1) := by
        intro below
        obtain ⟨j, later, alsoDeeper⟩ := mem_rowDescendants below
        have same := same_child deeper alsoDeeper
        omega
      rw [rowDescendants_cons, List.cons_append, List.nodup_cons, List.mem_append, not_or]
      refine ⟨⟨shorter, other (List.suffix_refl _)⟩, (down _ _).append (across _ _) ?_⟩
      intro place below
      exact other (suffix_of_mem_rowDescendants below).1

section Foremost

variable {holds : α → Prop} {root : Rose α} {above : Place}

def HoldsAt (holds : α → Prop) (root : Rose α) (place : Place) : Prop :=
  ∃ tree ∈ treeAt root place, holds tree.label

def Reached (holds : α → Prop) (root : Rose α) (above place : Place) : Prop :=
  HoldsAt holds root place ∧
    ∀ between ∈ place.tails, between ≠ place → above.length < between.length → ¬HoldsAt holds root between

theorem holdsAt_iff {place : Place} {tree : Rose α} (found : treeAt root place = some tree) :
    HoldsAt holds root place ↔ holds tree.label := by
  simp [HoldsAt, found]

theorem reached_child {i : Nat} {parent : Place}
    (none_between : ∀ between ∈ parent.tails, above.length < between.length → ¬HoldsAt holds root between) :
    Reached holds root above (i :: parent) ↔ HoldsAt holds root (i :: parent) := by
  refine ⟨And.left, fun here => ⟨here, ?_⟩⟩
  intro between onWay other
  rw [List.tails_cons, List.mem_cons] at onWay
  exact none_between between (onWay.resolve_left other)

theorem not_reached_below {place first : Place} (here : HoldsAt holds root first)
    (below : above.length < first.length) (deeper : first <:+ place) (longer : first.length < place.length) :
    ¬Reached holds root above place := by
  rintro ⟨_, none_between⟩
  have other : first ≠ place := by
    rintro rfl
    exact Nat.lt_irrefl _ longer
  exact none_between first ((List.mem_tails _ _).mpr deeper) other below here

variable [DecidablePred holds]

instance (place : Place) : Decidable (HoldsAt holds root place) :=
  inferInstanceAs (Decidable (∃ tree ∈ treeAt root place, holds tree.label))

instance (place : Place) : Decidable (Reached holds root above place) :=
  inferInstanceAs (Decidable (_ ∧ _))

/-- The first nodes with the property on every way down from a place, in preorder. -/
def foremost (holds : α → Prop) [DecidablePred holds] (root : Rose α) (above : Place) : List Place :=
  match treeAt root above with
  | none => []
  | some tree => (descendants tree above).filter fun place => Reached holds root above place

mutual

def treeForemost (holds : α → Prop) [DecidablePred holds] : Rose α → Place → List Place
  | .node label children, place => if holds label then [place] else rowForemost holds children place 0

def rowForemost (holds : α → Prop) [DecidablePred holds] : List (Rose α) → Place → Nat → List Place
  | [], _, _ => []
  | tree :: rest, parent, i => treeForemost holds tree (i :: parent) ++ rowForemost holds rest parent (i + 1)

end

theorem filter_rowDescendants {row : List (Rose α)} {parent : Place} {i : Nat} {tree : Rose α}
    (found : treeAt root parent = some tree) (rowOf : tree.children.drop i = row)
    (below : above.length ≤ parent.length)
    (none_between : ∀ between ∈ parent.tails, above.length < between.length → ¬HoldsAt holds root between) :
    (rowDescendants row parent i).filter (fun place => Reached holds root above place) =
      rowForemost holds row parent i := by
  induction row using Rose.forest generalizing parent i tree with
  | nil => rfl
  | cons label children rest down across =>
      have inside : i < tree.children.length := by
        by_contra beyond
        rw [List.drop_of_length_le (Nat.le_of_not_lt beyond)] at rowOf
        cases rowOf
      rw [List.drop_eq_getElem_cons inside] at rowOf
      obtain ⟨child, later⟩ := List.cons.inj rowOf
      have place : treeAt root (i :: parent) = some (.node label children) := by
        simp [treeAt, found, List.getElem?_eq_getElem inside, child]
      have next := across found later below none_between
      rw [rowDescendants_cons, List.cons_append, List.filter_cons, List.filter_append, next]
      rw [rowForemost, treeForemost]
      simp only [reached_child none_between, holdsAt_iff place]
      by_cases here : holds label
      next =>
        have rest_skipped :
            (rowDescendants children (i :: parent) 0).filter (fun place => Reached holds root above place) = [] := by
          rw [List.filter_eq_nil_iff]
          intro deeper member
          obtain ⟨suffix, longer⟩ := suffix_of_mem_rowDescendants member
          have skipped := not_reached_below ((holdsAt_iff place).mpr here) (Nat.lt_succ_of_le below) suffix longer
          simpa using skipped
        simp [Rose.label, here, rest_skipped]
      next =>
        have further : ∀ between ∈ (i :: parent).tails, above.length < between.length →
            ¬HoldsAt holds root between := by
          intro between onWay
          rw [List.tails_cons, List.mem_cons] at onWay
          obtain rfl | onWay := onWay
          next =>
            intro _
            rw [holdsAt_iff place]
            exact here
          next => exact none_between between onWay
        have inner := down place (List.drop_zero) (Nat.le_succ_of_le below) further
        simp [Rose.label, here, inner]

/-- The recursion finds the nodes that the preorder leaves when those behind another are dropped. -/
theorem foremost_eq {tree : Rose α} (found : treeAt root above = some tree) :
    foremost holds root above = rowForemost holds tree.children above 0 := by
  have none_between : ∀ between ∈ above.tails, above.length < between.length → ¬HoldsAt holds root between := by
    intro between onWay longer
    have shorter := ((List.mem_tails _ _).mp onWay).length_le
    omega
  have filtered := filter_rowDescendants found List.drop_zero (Nat.le_refl _) none_between
  cases tree with
  | node label children =>
      rw [foremost, found]
      exact filtered

theorem foremost_nodup (root : Rose α) (above : Place) : (foremost holds root above).Nodup := by
  unfold foremost
  split
  next => exact List.nodup_nil
  next tree _ =>
    cases tree with
    | node label children => exact (rowDescendants_nodup children above 0).filter _

theorem mem_foremost {place : Place} (reached : place ∈ foremost holds root above) :
    above <:+ place ∧ above.length < place.length ∧ Reached holds root above place := by
  unfold foremost at reached
  split at reached
  next => cases reached
  next tree _ =>
    obtain ⟨below, passed⟩ := List.mem_filter.mp reached
    cases tree with
    | node label children =>
        obtain ⟨deeper, longer⟩ := suffix_of_mem_rowDescendants below
        exact ⟨deeper, longer, by simpa using passed⟩

end Foremost

end RoseTree
