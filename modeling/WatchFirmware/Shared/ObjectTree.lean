import Mathlib

set_option autoImplicit false

namespace ObjectTree

abbrev Object := Nat

/-- The objects that are there, each with those that it stands in, its parent first. -/
structure Tree where
  created : Nat
  above : Object → Option (List Object)
  known : ∀ {object ancestors}, above object = some ancestors → object < created
  chained : ∀ {object parent ancestors}, above object = some (parent :: ancestors) →
    parent < object ∧ above parent = some ancestors

namespace Tree

variable {tree after : Tree} {object other : Object} {ancestors : List Object}

def Live (tree : Tree) (object : Object) : Prop := (tree.above object).isSome

instance (tree : Tree) (object : Object) : Decidable (tree.Live object) :=
  inferInstanceAs (Decidable (_ = true))

theorem Live.of_above (found : tree.above object = some ancestors) : tree.Live object := by
  rw [Live, found, Option.isSome_some]

theorem Live.above (live : tree.Live object) : ∃ ancestors, tree.above object = some ancestors :=
  Option.isSome_iff_exists.mp live

theorem older {ancestor : Object} (found : tree.above object = some ancestors)
    (member : ancestor ∈ ancestors) : ancestor < object := by
  induction ancestors generalizing object with
  | nil => cases member
  | cons parent ancestors ih =>
      obtain ⟨below, next⟩ := tree.chained found
      rcases List.mem_cons.mp member with rfl | further
      · exact below
      · exact Nat.lt_trans (ih next further) below

def root : Tree where
  created := 1
  above object := if object = 0 then some [] else none
  known := by
    intro object ancestors found
    split at found
    next same => exact same ▸ Nat.one_pos
    next => cases found
  chained := by
    intro object parent ancestors found
    split at found <;> cases found

-- The first object is the new one.
def insert (tree : Tree) (parent : Object) (ancestors : List Object)
    (found : tree.above parent = some ancestors) : Tree where
  created := tree.created + 1
  above object := if object = tree.created then some (parent :: ancestors) else tree.above object
  known := by
    intro object _ there
    split at there
    next same => exact same ▸ Nat.lt_succ_self _
    next => exact Nat.lt_succ_of_lt (tree.known there)
  chained := by
    intro object upper rest there
    have fresh {old : Object} {ancestors : List Object} (known : tree.above old = some ancestors) :
        old ≠ tree.created := Nat.ne_of_lt (tree.known known)
    split at there
    next same =>
      cases there
      exact ⟨same ▸ tree.known found, by rw [if_neg (fresh found), found]⟩
    next =>
      obtain ⟨below, next⟩ := tree.chained there
      exact ⟨below, by rw [if_neg (fresh next), next]⟩

def create (tree : Tree) (parent : Object) : Option (Object × Tree) :=
  match found : tree.above parent with
  | none => none
  | some ancestors => some (tree.created, tree.insert parent ancestors found)

/-- Without the objects that go: with an object goes what stands in it. -/
def prune (tree : Tree) (goes : Object → List Object → Bool)
    (closed : ∀ {object parent ancestors}, goes parent ancestors → goes object (parent :: ancestors)) :
    Tree where
  created := tree.created
  above object := (tree.above object).filter fun ancestors => !goes object ancestors
  known := by
    intro object ancestors there
    exact tree.known (Option.filter_eq_some_iff.mp there).1
  chained := by
    intro object parent ancestors there
    obtain ⟨found, stays⟩ := Option.filter_eq_some_iff.mp there
    obtain ⟨below, next⟩ := tree.chained found
    refine ⟨below, Option.filter_eq_some_iff.mpr ⟨next, ?_⟩⟩
    cases gone : goes parent ancestors with
    | false => rfl
    | true => simp [closed gone] at stays

def delete (tree : Tree) (object : Object) : Option Tree :=
  if tree.Live object then
    some (tree.prune (fun other ancestors => other = object ∨ object ∈ ancestors) (by
      intro _ parent ancestors gone
      rw [decide_eq_true_eq] at gone
      simp [gone.imp_left Eq.symm]))
  else none

def clean (tree : Tree) (object : Object) : Option Tree :=
  if tree.Live object then
    some (tree.prune (fun _ ancestors => object ∈ ancestors) (by
      intro _ parent ancestors gone
      rw [decide_eq_true_eq] at gone
      simp [gone]))
  else none

def Grows (tree after : Tree) : Prop :=
  ∀ {object ancestors}, tree.above object = some ancestors → after.above object = some ancestors

theorem Grows.live (grows : tree.Grows after) (live : tree.Live object) : after.Live object := by
  obtain ⟨ancestors, found⟩ := live.above
  exact .of_above (grows found)

theorem create_live {parent : Object} (found : tree.above parent = some ancestors) :
    ∃ object after, tree.create parent = some (object, after) ∧ tree.Grows after ∧
      after.above object = some (parent :: ancestors) ∧ ∀ other, tree.Live other → other < object := by
  refine ⟨tree.created, tree.insert parent ancestors found, ?_, ?_, if_pos rfl, ?_⟩
  · unfold create
    split
    next missing => simp [missing] at found
    next found' =>
      cases found'.symm.trans found
      rfl
  · intro other above there
    exact (if_neg (Nat.ne_of_lt (tree.known there))).trans there
  · intro other live
    obtain ⟨_, there⟩ := live.above
    exact tree.known there

theorem delete_live (live : tree.Live object) : ∃ after, tree.delete object = some after :=
  ⟨_, if_pos live⟩

theorem delete_kept (deleted : tree.delete object = some after) (found : tree.above other = some ancestors)
    (elsewhere : other ≠ object ∧ object ∉ ancestors) : after.above other = some ancestors := by
  unfold delete at deleted
  split at deleted
  next =>
    cases deleted
    refine Option.filter_eq_some_iff.mpr ⟨found, ?_⟩
    simp [elsewhere.1, elsewhere.2]
  next => cases deleted

theorem delete_older (deleted : tree.delete object = some after) (before : other < object)
    (found : tree.above other = some ancestors) : after.above other = some ancestors := by
  refine delete_kept deleted found ⟨Nat.ne_of_lt before, fun member => ?_⟩
  exact Nat.lt_asymm before (tree.older found member)

theorem delete_gone (deleted : tree.delete object = some after) (found : tree.above other = some ancestors)
    (inside : other = object ∨ object ∈ ancestors) : ¬after.Live other := by
  unfold delete at deleted
  split at deleted
  next =>
    cases deleted
    simp only [Live, prune, found, Option.filter_some, Option.isSome_ite]
    simpa using inside.resolve_left
  next => cases deleted

theorem delete_again (deleted : tree.delete object = some after) (found : tree.above other = some ancestors)
    (inside : other = object ∨ object ∈ ancestors) : after.delete other = none :=
  if_neg (delete_gone deleted found inside)

theorem clean_live (live : tree.Live object) : ∃ after, tree.clean object = some after :=
  ⟨_, if_pos live⟩

theorem clean_kept (cleaned : tree.clean object = some after) (found : tree.above other = some ancestors)
    (outside : object ∉ ancestors) : after.above other = some ancestors := by
  unfold clean at cleaned
  split at cleaned
  next =>
    cases cleaned
    refine Option.filter_eq_some_iff.mpr ⟨found, ?_⟩
    simp [outside]
  next => cases cleaned

theorem clean_older (cleaned : tree.clean object = some after) (before : other ≤ object)
    (found : tree.above other = some ancestors) : after.above other = some ancestors := by
  refine clean_kept cleaned found fun member => ?_
  exact absurd (tree.older found member) (Nat.not_lt_of_le before)

end Tree

section Pointers

variable {tree after : Tree} {Part : Type} {depth : Part → Nat} {pointer left : Part → Option Object}
  {part : Part} {object : Object}

/-- Pointers to objects that are there. The deeper a part stands, the later its object was created. -/
structure Held (depth : Part → Nat) (tree : Tree) (pointer : Part → Option Object) : Prop where
  live : ∀ {part object}, pointer part = some object → tree.Live object
  order : ∀ {part object deeper below}, pointer part = some object → pointer deeper = some below →
    depth part < depth deeper → object < below

namespace Held

theorem replace (held : Held depth tree pointer)
    (kept : ∀ {part object ancestors}, pointer part = some object → tree.above object = some ancestors →
      after.above object = some ancestors) : Held depth after pointer where
  live set := by
    obtain ⟨_, found⟩ := (held.live set).above
    exact .of_above (kept set found)
  order := held.order

theorem fewer (held : Held depth tree pointer)
    (old : ∀ {part object}, left part = some object → pointer part = some object) : Held depth tree left where
  live set := held.live (old set)
  order set below := held.order (old set) (old below)

theorem more (held : Held depth tree pointer) (there : tree.Live object)
    (newest : ∀ {other found}, pointer other = some found → found < object)
    (old : ∀ {other found}, left other = some found → other = part ∧ found = object ∨
      pointer other = some found ∧ depth other ≤ depth part) : Held depth tree left where
  live set := by
    rcases old set with ⟨_, rfl⟩ | ⟨set, _⟩
    next => exact there
    next => exact held.live set
  order set below deeper := by
    rcases old set with ⟨rfl, rfl⟩ | ⟨set, shallow⟩ <;> rcases old below with ⟨rfl, rfl⟩ | ⟨below, bounded⟩
    next => exact absurd deeper (Nat.lt_irrefl _)
    next => exact absurd deeper (Nat.not_lt_of_le bounded)
    next => exact newest set
    next => exact held.order set below deeper

end Held

end Pointers

end ObjectTree
