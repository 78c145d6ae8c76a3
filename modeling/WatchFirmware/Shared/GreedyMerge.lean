import Mathlib

set_option autoImplicit false

namespace GreedyMerge

variable {Item : Type} (place : Item → Nat) (outweighs : Item → Item → Bool) (gap : Nat)

/-- Take an item in behind the others: of two that lie closer than the gap the heavier one stays. -/
def absorb (kept : List Item) (item : Item) : List Item :=
  match kept.getLast? with
  | none => [item]
  | some last =>
      if place item < place last + gap then
        if outweighs item last then kept.dropLast ++ [item] else kept
      else kept ++ [item]

abbrev Separated (kept : List Item) : Prop :=
  kept.Pairwise fun first second => place first + gap ≤ place second

def Near (first second : Item) : Prop :=
  place first < place second + gap ∧ place second < place first + gap

def merge (items : List Item) : List Item := items.foldl (absorb place outweighs gap) []

/-- Heavier than all that lies near it, where of two that are equal the first counts as heavier. -/
def Prevails (items : List Item) (item : Item) : Prop :=
  (∀ other ∈ items, place other < place item → place item < place other + gap → outweighs item other = true) ∧
    ∀ other ∈ items, place item < place other → place other < place item + gap → outweighs other item = false

/-- Nothing near it takes its place: no item behind it is heavier, and none before it prevails. -/
def Stands (items : List Item) (item : Item) : Prop :=
  (∀ other ∈ items, place item < place other → place other < place item + gap → outweighs other item = false) ∧
    ∀ other ∈ items, place other < place item → place item < place other + gap →
      ¬Prevails place outweighs gap items other

section Decidability

variable (items : List Item) (item : Item)

instance : Decidable (Prevails place outweighs gap items item) := inferInstanceAs (Decidable (_ ∧ _))

instance : Decidable (Stands place outweighs gap items item) := inferInstanceAs (Decidable (_ ∧ _))

end Decidability

variable {place outweighs gap} {kept : List Item} {item : Item}

theorem absorb_cases (front : List Item) (last : Item) :
    (place item < place last + gap ∧ outweighs item last = true ∧
      absorb place outweighs gap (front ++ [last]) item = front ++ [item]) ∨
    (place item < place last + gap ∧ outweighs item last = false ∧
      absorb place outweighs gap (front ++ [last]) item = front ++ [last]) ∨
    (place last + gap ≤ place item ∧
      absorb place outweighs gap (front ++ [last]) item = front ++ [last] ++ [item]) := by
  unfold absorb
  rw [List.getLast?_concat]
  simp only
  split
  next close =>
    split
    next heavier => exact .inl ⟨close, heavier, by rw [List.dropLast_concat]⟩
    next lighter => exact .inr (.inl ⟨close, Bool.not_eq_true _ ▸ lighter, rfl⟩)
  next distant => exact .inr (.inr ⟨Nat.le_of_not_lt distant, rfl⟩)

theorem mem_of_mem_absorb {other : Item} (present : other ∈ absorb place outweighs gap kept item) :
    other ∈ kept ∨ other = item := by
  obtain rfl | ⟨front, last, rfl⟩ := List.eq_nil_or_concat' kept
  next => exact .inr (List.mem_singleton.mp present)
  next =>
    obtain ⟨_, _, same⟩ | ⟨_, _, same⟩ | ⟨_, same⟩ := @absorb_cases _ place outweighs gap item front last
    all_goals
      rw [same] at present
      simp only [List.mem_append, List.mem_singleton] at present ⊢
      tauto

theorem length_absorb_le : (absorb place outweighs gap kept item).length ≤ kept.length + 1 := by
  obtain rfl | ⟨front, last, rfl⟩ := List.eq_nil_or_concat' kept
  next => exact Nat.le_refl 1
  next =>
    obtain ⟨_, _, same⟩ | ⟨_, _, same⟩ | ⟨_, same⟩ := @absorb_cases _ place outweighs gap item front last
    all_goals
      rw [same]
      simp only [List.length_append, List.length_singleton]
      omega

theorem Separated.absorb (separated : Separated place gap kept)
    (behind : ∀ other ∈ kept, place other ≤ place item) :
    Separated place gap (absorb place outweighs gap kept item) := by
  -- a heavier item takes the place of the last one further on, so it stays as far from the others
  obtain rfl | ⟨front, last, rfl⟩ := List.eq_nil_or_concat' kept
  next => exact List.pairwise_singleton _ _
  next =>
    obtain ⟨apart, _, far⟩ := List.pairwise_append.mp separated
    have order := behind last (List.mem_append_right _ List.mem_cons_self)
    have ahead (other : Item) (member : other ∈ front) : place other + gap ≤ place item :=
      Nat.le_trans (far other member last List.mem_cons_self) order
    obtain ⟨_, _, same⟩ | ⟨_, _, same⟩ | ⟨distant, same⟩ :=
      @absorb_cases _ place outweighs gap item front last
    next =>
      rw [same]
      apply List.pairwise_append.mpr
      refine ⟨apart, List.pairwise_singleton _ _, ?_⟩
      intro other member new single
      rw [List.mem_singleton.mp single]
      exact ahead other member
    next =>
      rw [same]
      exact separated
    next =>
      rw [same]
      apply List.pairwise_append.mpr
      refine ⟨separated, List.pairwise_singleton _ _, ?_⟩
      intro other member new single
      rw [List.mem_singleton.mp single]
      obtain earlier | here := List.mem_append.mp member
      next => exact ahead other earlier
      next =>
        rw [List.mem_singleton.mp here]
        exact distant

theorem kept_or_near (asymmetric : ∀ first second, outweighs first second = true → outweighs second first = false)
    (behind : ∀ other ∈ kept, place other ≤ place item) {other : Item} (known : other ∈ kept ∨ other = item) :
    other ∈ absorb place outweighs gap kept item ∨
      ∃ keeper ∈ absorb place outweighs gap kept item,
        Near place gap other keeper ∧ outweighs other keeper = false := by
  obtain rfl | ⟨front, last, rfl⟩ := List.eq_nil_or_concat' kept
  next =>
    obtain nowhere | rfl := known
    next => cases nowhere
    next => exact .inl List.mem_cons_self
  next =>
    have order := behind last (List.mem_append_right _ List.mem_cons_self)
    obtain ⟨close, heavier, same⟩ | ⟨close, lighter, same⟩ | ⟨_, same⟩ :=
      @absorb_cases _ place outweighs gap item front last
    next =>
      have near : Near place gap last item := ⟨by omega, close⟩
      rw [same]
      obtain earlier | rfl := known
      next =>
        obtain ahead | single := List.mem_append.mp earlier
        next => exact .inl (List.mem_append_left _ ahead)
        next =>
          rw [List.mem_singleton.mp single]
          exact .inr ⟨item, List.mem_append_right _ List.mem_cons_self, near, asymmetric _ _ heavier⟩
      next => exact .inl (List.mem_append_right _ List.mem_cons_self)
    next =>
      have near : Near place gap item last := ⟨close, by omega⟩
      rw [same]
      obtain earlier | rfl := known
      next => exact .inl earlier
      next => exact .inr ⟨last, List.mem_append_right _ List.mem_cons_self, near, lighter⟩
    next =>
      rw [same]
      obtain earlier | rfl := known
      next => exact .inl (List.mem_append_left _ earlier)
      next => exact .inl (List.mem_append_right _ List.mem_cons_self)

theorem mem_absorb_of_not_outweighed {other : Item} (present : other ∈ kept)
    (lighter : place item < place other + gap → outweighs item other = false) :
    other ∈ absorb place outweighs gap kept item := by
  obtain rfl | ⟨front, last, rfl⟩ := List.eq_nil_or_concat' kept
  next => cases present
  next =>
    obtain ⟨close, heavier, same⟩ | ⟨_, _, same⟩ | ⟨_, same⟩ :=
      @absorb_cases _ place outweighs gap item front last
    next =>
      rw [same]
      obtain ahead | single := List.mem_append.mp present
      next => exact List.mem_append_left _ ahead
      next =>
        rw [List.mem_singleton.mp single] at lighter
        rw [lighter close] at heavier
        contradiction
    next =>
      rw [same]
      exact present
    next =>
      rw [same]
      exact List.mem_append_left _ present

theorem mem_absorb_self
    (heavier : ∀ other ∈ kept, place item < place other + gap → outweighs item other = true) :
    item ∈ absorb place outweighs gap kept item := by
  obtain rfl | ⟨front, last, rfl⟩ := List.eq_nil_or_concat' kept
  next => exact List.mem_cons_self
  next =>
    obtain ⟨_, _, same⟩ | ⟨close, lighter, _⟩ | ⟨_, same⟩ :=
      @absorb_cases _ place outweighs gap item front last
    next =>
      rw [same]
      exact List.mem_append_right _ List.mem_cons_self
    next =>
      rw [heavier last (List.mem_append_right _ List.mem_cons_self) close] at lighter
      contradiction
    next =>
      rw [same]
      exact List.mem_append_right _ List.mem_cons_self

theorem not_outweighed_of_mem_absorb (separated : Separated place gap kept)
    (behind : ∀ other ∈ kept, place other ≤ place item) {other : Item} (present : other ∈ kept)
    (order : place other < place item) (close : place item < place other + gap)
    (stays : other ∈ absorb place outweighs gap kept item) : outweighs item other = false := by
  obtain rfl | ⟨front, last, rfl⟩ := List.eq_nil_or_concat' kept
  next => cases present
  next =>
    obtain ⟨_, _, apart⟩ := List.pairwise_append.mp separated
    have upTo := behind last (List.mem_append_right _ List.mem_cons_self)
    -- the items before the last one lie too far ahead
    have ahead : other ∉ front := by
      intro earlier
      have far := apart other earlier last List.mem_cons_self
      omega
    have final : other = last := by
      obtain earlier | single := List.mem_append.mp present
      next => exact absurd earlier ahead
      next => exact List.mem_singleton.mp single
    subst final
    obtain ⟨_, _, same⟩ | ⟨_, lighter, _⟩ | ⟨distant, _⟩ :=
      @absorb_cases _ place outweighs gap item front other
    next =>
      rw [same] at stays
      obtain earlier | single := List.mem_append.mp stays
      next => exact absurd earlier ahead
      next =>
        rw [List.mem_singleton.mp single] at order
        exact absurd order (Nat.lt_irrefl _)
    next => exact lighter
    next => omega

section Merge

variable {items : List Item}

theorem merge_concat : merge place outweighs gap (items ++ [item]) =
    absorb place outweighs gap (merge place outweighs gap items) item := by
  unfold merge
  rw [List.foldl_concat]

theorem mem_of_mem_merge {other : Item} (present : other ∈ merge place outweighs gap items) : other ∈ items := by
  induction items using List.reverseRecOn with
  | nil => cases present
  | append_singleton items item ih =>
      rw [merge_concat] at present
      obtain earlier | rfl := mem_of_mem_absorb present
      next => exact List.mem_append_left _ (ih earlier)
      next => exact List.mem_append_right _ List.mem_cons_self

theorem merge_separated (ascending : items.Pairwise fun first second => place first < place second) :
    Separated place gap (merge place outweighs gap items) := by
  induction items using List.reverseRecOn with
  | nil => exact List.Pairwise.nil
  | append_singleton items item ih =>
      obtain ⟨before, _, behind⟩ := List.pairwise_append.mp ascending
      rw [merge_concat]
      apply (ih before).absorb
      intro other present
      exact Nat.le_of_lt (behind other (mem_of_mem_merge present) item List.mem_cons_self)

/-- The merge keeps an item that prevails: nothing near it takes its place, before or after. -/
theorem Prevails.mem_merge (ascending : items.Pairwise fun first second => place first < place second)
    (prevails : Prevails place outweighs gap items item) (present : item ∈ items) :
    item ∈ merge place outweighs gap items := by
  induction items using List.reverseRecOn with
  | nil => cases present
  | append_singleton items last ih =>
      obtain ⟨before, _, behind⟩ := List.pairwise_append.mp ascending
      rw [merge_concat]
      obtain earlier | single := List.mem_append.mp present
      next =>
        have order := behind item earlier last List.mem_cons_self
        have kept := ih before
          ⟨fun other member => prevails.1 other (List.mem_append_left _ member),
            fun other member => prevails.2 other (List.mem_append_left _ member)⟩ earlier
        apply mem_absorb_of_not_outweighed kept
        exact prevails.2 last (List.mem_append_right _ List.mem_cons_self) order
      next =>
        obtain rfl := List.mem_singleton.mp single
        apply mem_absorb_self
        intro other member
        have known := mem_of_mem_merge member
        exact prevails.1 other (List.mem_append_left _ known) (behind other known item List.mem_cons_self)

theorem not_outweighed_of_mem_merge (ascending : items.Pairwise fun first second => place first < place second)
    (kept : item ∈ merge place outweighs gap items) {other : Item} (present : other ∈ items)
    (order : place item < place other) (close : place other < place item + gap) :
    outweighs other item = false := by
  induction items using List.reverseRecOn with
  | nil => cases present
  | append_singleton items last ih =>
      obtain ⟨before, _, behind⟩ := List.pairwise_append.mp ascending
      have upTo (earlier : Item) (member : earlier ∈ merge place outweighs gap items) :
          place earlier ≤ place last :=
        Nat.le_of_lt (behind earlier (mem_of_mem_merge member) last List.mem_cons_self)
      rw [merge_concat] at kept
      obtain earlier | rfl := mem_of_mem_absorb kept
      next =>
        obtain known | single := List.mem_append.mp present
        next => exact ih before earlier known
        next =>
          rw [List.mem_singleton.mp single] at order close ⊢
          exact not_outweighed_of_mem_absorb (merge_separated before) upTo earlier order close kept
      next =>
        obtain known | single := List.mem_append.mp present
        next =>
          have further := behind other known item List.mem_cons_self
          omega
        next =>
          rw [List.mem_singleton.mp single] at order
          exact absurd order (Nat.lt_irrefl _)

/-- What the merge keeps stands: an item that prevails is kept too, and two kept ones are not near. -/
theorem stands_of_mem_merge (ascending : items.Pairwise fun first second => place first < place second)
    (kept : item ∈ merge place outweighs gap items) : Stands place outweighs gap items item := by
  refine ⟨fun other present => not_outweighed_of_mem_merge ascending kept present, ?_⟩
  intro other present order close prevails
  have both := prevails.mem_merge ascending present
  have apart : Separated place gap (merge place outweighs gap items) := merge_separated ascending
  have far : place other < place item → place other + gap ≤ place item := by
    apply List.Pairwise.forall_of_forall_of_flip (R := fun first second =>
      place first < place second → place first + gap ≤ place second) _ _ _ both kept
    next => exact fun first _ self => absurd self (Nat.lt_irrefl _)
    next =>
      apply apart.imp
      intro first second far _
      exact far
    next =>
      apply apart.imp
      intro first second far back
      omega
  exact absurd close (Nat.not_lt_of_le (far order))

end Merge

end GreedyMerge
