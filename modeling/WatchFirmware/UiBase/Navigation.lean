import WatchFirmware.Shared.RoseTree

set_option autoImplicit false

namespace WatchFirmware.UiBase

open RoseTree

abbrev Group := Nat

/-- A widget with its group, or NULL, and its children. The pointer to one is its place on the screen. -/
abbrev LvObj := Rose (Option Group)

def lvObjGetGroup (screen : LvObj) (obj : Place) : Option Group := (treeAt screen obj).bind Rose.label

-- `lv_group_get_default`
variable (defaultGroup : Option Group)

mutual

def findFirstFocusableChildDfs : LvObj → Place → Option Place
  | .node _ children, root =>
      if defaultGroup = none then none else firstFocusableChild children root 0

/-- The loop over the children, from this one on. -/
def firstFocusableChild : List LvObj → Place → Nat → Option Place
  | [], _, _ => none
  | child :: rest, root, i =>
      if child.label = defaultGroup then some (i :: root)
      else
        match findFirstFocusableChildDfs child (i :: root) with
        | some found => some found
        | none => firstFocusableChild rest root (i + 1)

end

def findFirstFocusableParentDfs (screen : LvObj) : Place → Option Place
  | [] => none
  | _ :: parent =>
      if lvObjGetGroup screen parent = defaultGroup then some parent
      else findFirstFocusableParentDfs screen parent

/-- What `scan_subtree_focus_sequence` passes on through its pointers. -/
structure Scan where
  lastFoundNav : Option Place
  originNodePassed : Bool
  deriving DecidableEq, Repr

def Scan.start : Scan := ⟨none, false⟩

mutual

def scanSubtreeFocusSequence (currentFocus : Place) (isForwardSearch : Bool) :
    LvObj → Place → Scan → Option Place × Scan
  | .node _ children, root, scan => scanChildren currentFocus isForwardSearch children root 0 scan

def scanChildren (currentFocus : Place) (isForwardSearch : Bool) :
    List LvObj → Place → Nat → Scan → Option Place × Scan
  | [], _, _, scan => (none, scan)
  | child :: rest, root, i, scan =>
      if child.label = defaultGroup then
        if isForwardSearch then
          if scan.originNodePassed then (some (i :: root), scan)
          else if i :: root = currentFocus then
            scanChildren currentFocus isForwardSearch rest root (i + 1) { scan with originNodePassed := true }
          else scanChildren currentFocus isForwardSearch rest root (i + 1) scan
        else if i :: root = currentFocus then (scan.lastFoundNav, scan)
        else
          scanChildren currentFocus isForwardSearch rest root (i + 1)
            { scan with lastFoundNav := some (i :: root) }
      else
        match scanSubtreeFocusSequence currentFocus isForwardSearch child (i :: root) scan with
        | (some resolvedTarget, scan) => (some resolvedTarget, scan)
        -- also where the one before is NULL: the scan goes on behind the subtree
        | (none, scan) => scanChildren currentFocus isForwardSearch rest root (i + 1) scan

end

def findFocusableSibling (isForwardSearch : Bool) (screen : LvObj) (obj : Place) : Option Place := do
  let boundaryRoof ← findFirstFocusableParentDfs defaultGroup screen obj
  let root ← treeAt screen boundaryRoof
  (scanSubtreeFocusSequence defaultGroup obj isForwardSearch root boundaryRoof .start).1

def findNextFocusableSibling (screen : LvObj) (obj : Option Place) : Option Place :=
  obj.bind (findFocusableSibling defaultGroup true screen)

def findPrevFocusableSibling (screen : LvObj) (obj : Option Place) : Option Place :=
  obj.bind (findFocusableSibling defaultGroup false screen)

section Traversal

/-- The nodes of a group below one, in preorder, that are not behind another of the group. -/
def focusSequence (group : Group) (screen : LvObj) (roof : Place) : List Place :=
  foremost (· = some group) screen roof

variable {group : Group} {screen : LvObj} {roof currentFocus : Place}

theorem lvObjGetGroup_eq_iff {obj : Place} :
    lvObjGetGroup screen obj = some group ↔ HoldsAt (· = some group) screen obj := by
  simp [lvObjGetGroup, HoldsAt, Option.bind_eq_some_iff]

theorem firstFocusableChild_eq (row : List LvObj) (root : Place) (i : Nat) :
    firstFocusableChild (some group) row root i = (rowForemost (· = some group) row root i).head? := by
  induction row using Rose.forest generalizing root i with
  | nil => rfl
  | cons label children rest down across =>
      rw [firstFocusableChild, rowForemost, treeForemost, findFirstFocusableChildDfs, List.head?_append]
      simp only [Rose.label, reduceCtorEq, if_false]
      split
      next => rfl
      next =>
        rw [down, across]
        cases (rowForemost (· = some group) children (i :: root) 0).head? with
        | none => rfl
        | some found => rfl

theorem scanForward_passed (row : List LvObj) (root : Place) (i : Nat) {scan : Scan}
    (passed : scan.originNodePassed = true) :
    scanChildren (some group) currentFocus true row root i scan =
      ((rowForemost (· = some group) row root i).head?, scan) := by
  induction row using Rose.forest generalizing root i with
  | nil => rfl
  | cons label children rest down across =>
      rw [scanChildren, rowForemost, treeForemost, scanSubtreeFocusSequence, List.head?_append]
      simp only [Rose.label, passed, if_true]
      split
      next => rfl
      next =>
        rw [down]
        cases (rowForemost (· = some group) children (i :: root) 0).head? with
        | none => exact across root (i + 1)
        | some found => rfl

theorem scanForward_absent {row : List LvObj} {root : Place} {i : Nat} {scan : Scan}
    (before : scan.originNodePassed = false)
    (absent : currentFocus ∉ rowForemost (· = some group) row root i) :
    scanChildren (some group) currentFocus true row root i scan = (none, scan) := by
  induction row using Rose.forest generalizing root i with
  | nil => rfl
  | cons label children rest down across =>
      rw [rowForemost, treeForemost, List.mem_append, not_or] at absent
      rw [scanChildren, scanSubtreeFocusSequence]
      have behind := across absent.2
      have first := absent.1
      simp only [Rose.label]
      by_cases navigable : label = some group
      next =>
        rw [if_pos navigable, List.mem_singleton, eq_comm] at first
        simp [navigable, before, first, behind]
      next =>
        rw [if_neg navigable] at first
        simp [navigable, down first, behind]

theorem append_split {xs ys before after : List Place} {place : Place}
    (same : xs ++ ys = before ++ place :: after) :
    (∃ middle, before = xs ++ middle ∧ ys = middle ++ place :: after) ∨
      ∃ middle, xs = before ++ place :: middle ∧ after = middle ++ ys := by
  obtain ⟨middle, behind, rest⟩ | ⟨middle, within, rest⟩ := List.append_eq_append_iff.mp same
  next => exact .inl ⟨middle, behind, rest⟩
  next =>
    cases middle with
    | nil => exact .inl ⟨[], by simpa using within.symm, rest.symm⟩
    | cons first middle =>
        obtain ⟨rfl, later⟩ := List.cons.inj rest
        exact .inr ⟨middle, within, later⟩

theorem scanForward_found {row : List LvObj} {root : Place} {i : Nat} {scan : Scan} {before after : List Place}
    (start : scan.originNodePassed = false)
    (sequence : rowForemost (· = some group) row root i = before ++ currentFocus :: after)
    (once : currentFocus ∉ before) :
    scanChildren (some group) currentFocus true row root i scan =
      (after.head?, { scan with originNodePassed := true }) := by
  induction row using Rose.forest generalizing root i before after with
  | nil => exact absurd sequence.symm (by simp [rowForemost])
  | cons label children rest down across =>
      rw [rowForemost, treeForemost] at sequence
      rw [scanChildren, scanSubtreeFocusSequence]
      simp only [Rose.label, if_true]
      by_cases navigable : label = some group
      next =>
        rw [if_pos navigable, List.singleton_append] at sequence
        rw [if_pos navigable, start, if_neg Bool.false_ne_true]
        cases before with
        | nil =>
            obtain ⟨here, behind⟩ := List.cons.inj sequence
            rw [if_pos here, scanForward_passed rest root (i + 1) rfl, behind]
        | cons first before =>
            obtain ⟨here, behind⟩ := List.cons.inj sequence
            rw [List.mem_cons, not_or] at once
            have other : i :: root ≠ currentFocus := by
              rw [here]
              exact Ne.symm once.1
            rw [if_neg other]
            exact across behind once.2
      next =>
        rw [if_neg navigable] at sequence
        rw [if_neg navigable]
        obtain ⟨middle, rfl, behind⟩ | ⟨middle, inside, rfl⟩ := append_split sequence
        next =>
          rw [List.mem_append, not_or] at once
          rw [scanForward_absent start once.1]
          exact across behind once.2
        next =>
          rw [down inside once]
          cases middle with
          | nil => exact scanForward_passed rest root (i + 1) rfl
          | cons next middle => rfl

theorem scanBackward_absent {row : List LvObj} {root : Place} {i : Nat} {scan : Scan}
    (absent : currentFocus ∉ rowForemost (· = some group) row root i) :
    scanChildren (some group) currentFocus false row root i scan =
      (none, { scan with
        lastFoundNav := (rowForemost (· = some group) row root i).getLast?.or scan.lastFoundNav }) := by
  induction row using Rose.forest generalizing root i scan with
  | nil => rfl
  | cons label children rest down across =>
      rw [rowForemost, treeForemost] at absent ⊢
      rw [scanChildren, scanSubtreeFocusSequence, List.getLast?_append]
      rw [List.mem_append, not_or] at absent
      have first := absent.1
      simp only [Rose.label, Bool.false_eq_true, if_false]
      by_cases navigable : label = some group
      next =>
        rw [if_pos navigable, List.mem_singleton, eq_comm] at first
        rw [if_pos navigable, if_neg first, across absent.2]
        simp [navigable]
      next =>
        rw [if_neg navigable] at first
        simp only [if_neg navigable, down first, across absent.2, Option.or_assoc]

theorem scanBackward_found {row : List LvObj} {root : Place} {i : Nat} {scan : Scan} {before after : List Place}
    (sequence : rowForemost (· = some group) row root i = before ++ currentFocus :: after)
    (once : currentFocus ∉ before ∧ currentFocus ∉ after) :
    (scanChildren (some group) currentFocus false row root i scan).1 = before.getLast?.or scan.lastFoundNav := by
  induction row using Rose.forest generalizing root i scan before after with
  | nil => exact absurd sequence.symm (by simp [rowForemost])
  | cons label children rest down across =>
      rw [rowForemost, treeForemost] at sequence
      rw [scanChildren, scanSubtreeFocusSequence]
      simp only [Rose.label, Bool.false_eq_true, if_false]
      by_cases navigable : label = some group
      next =>
        rw [if_pos navigable, List.singleton_append] at sequence
        rw [if_pos navigable]
        cases before with
        | nil =>
            obtain ⟨here, behind⟩ := List.cons.inj sequence
            rw [if_pos here]
            rfl
        | cons first before =>
            obtain ⟨here, behind⟩ := List.cons.inj sequence
            rw [List.mem_cons, not_or] at once
            have other : i :: root ≠ currentFocus := by
              rw [here]
              exact Ne.symm once.1.1
            rw [if_neg other, across behind ⟨once.1.2, once.2⟩, here]
            rw [List.getLast?_cons, Option.some_or, Option.or_some]
      next =>
        rw [if_neg navigable] at sequence
        rw [if_neg navigable]
        obtain ⟨middle, rfl, behind⟩ | ⟨middle, inside, rfl⟩ := append_split sequence
        next =>
          rw [List.mem_append, not_or] at once
          rw [scanBackward_absent once.1.1]
          rw [List.getLast?_append, Option.or_assoc]
          exact across behind ⟨once.1.2, once.2⟩
        next =>
          -- NULL is the answer at the head of the sequence, and the scan finds nothing behind it
          rw [List.mem_append, not_or] at once
          have found := @down (i :: root) 0 scan before middle inside ⟨once.1, once.2.1⟩
          split
          next same =>
            rw [same] at found
            exact found
          next same =>
            rw [same] at found
            rw [scanBackward_absent once.2.2]
            exact found

theorem parent_of_reached {obj : Place} (roofHolds : HoldsAt (· = some group) screen roof)
    (below : roof <:+ obj) (deeper : roof.length < obj.length)
    (none_between : ∀ between ∈ obj.tails, between ≠ obj → roof.length < between.length →
      ¬HoldsAt (· = some group) screen between) :
    findFirstFocusableParentDfs (some group) screen obj = some roof := by
  induction obj with
  | nil => cases deeper
  | cons i parent ih =>
      have onWay : roof <:+ parent := by
        obtain same | inside := List.suffix_cons_iff.mp below
        next =>
          rw [same] at deeper
          exact absurd deeper (Nat.lt_irrefl _)
        next => exact inside
      rw [findFirstFocusableParentDfs]
      simp only [lvObjGetGroup_eq_iff]
      by_cases same : roof = parent
      next =>
        subst same
        rw [if_pos roofHolds]
      next =>
        have shorter : roof.length < parent.length :=
          Nat.lt_of_le_of_ne onWay.length_le fun equal => same (onWay.eq_of_length equal)
        have passed : ¬HoldsAt (· = some group) screen parent := by
          apply none_between parent ((List.mem_tails _ _).mpr (List.suffix_cons i parent)) _ shorter
          exact (List.cons_ne_self i parent).symm
        rw [if_neg passed]
        apply ih onWay shorter
        intro between inside other longer
        have onLongerWay : between <:+ i :: parent :=
          ((List.mem_tails _ _).mp inside).trans (List.suffix_cons i parent)
        apply none_between between ((List.mem_tails _ _).mpr onLongerWay) _ longer
        rintro rfl
        have tooLong := ((List.mem_tails _ _).mp inside).length_le
        exact absurd tooLong (Nat.not_succ_le_self _)

theorem parent_of_mem {obj : Place} (roofHolds : HoldsAt (· = some group) screen roof)
    (reached : obj ∈ focusSequence group screen roof) :
    findFirstFocusableParentDfs (some group) screen obj = some roof := by
  obtain ⟨below, deeper, _, none_between⟩ := mem_foremost reached
  exact parent_of_reached roofHolds below deeper none_between

variable {root : LvObj}

theorem findFirstFocusableChildDfs_eq (found : treeAt screen roof = some root) :
    findFirstFocusableChildDfs (some group) root roof = (focusSequence group screen roof).head? := by
  rw [focusSequence, foremost_eq found]
  cases root with
  | node label children => exact firstFocusableChild_eq children roof 0

theorem scan_of_roof (found : treeAt screen roof = some root) {obj : Place}
    (parent : findFirstFocusableParentDfs (some group) screen obj = some roof) (isForwardSearch : Bool) :
    findFocusableSibling (some group) isForwardSearch screen obj =
      (scanChildren (some group) obj isForwardSearch root.children roof 0 .start).1 := by
  cases root with
  | node label children => simp [findFocusableSibling, parent, found, scanSubtreeFocusSequence, Rose.children]

theorem siblings_of_split (found : treeAt screen roof = some root) (navigable : root.label = some group)
    {before after : List Place} {obj : Place}
    (sequence : focusSequence group screen roof = before ++ obj :: after) :
    findNextFocusableSibling (some group) screen (some obj) = after.head? ∧
      findPrevFocusableSibling (some group) screen (some obj) = before.getLast? := by
  have roofHolds : HoldsAt (· = some group) screen roof := (holdsAt_iff found).mpr navigable
  have member : obj ∈ focusSequence group screen roof := by simp [sequence]
  have parent := parent_of_mem roofHolds member
  have nodup : (before ++ obj :: after).Nodup := by
    rw [← sequence]
    exact foremost_nodup screen roof
  obtain ⟨_, behind, apart⟩ := List.nodup_append.mp nodup
  have once : obj ∉ before := fun earlier => apart obj earlier obj List.mem_cons_self rfl
  have never : obj ∉ after := (List.nodup_cons.mp behind).1
  rw [focusSequence, foremost_eq found] at sequence
  have forward := @scanForward_found group obj root.children roof 0 .start before after rfl sequence once
  have backward := @scanBackward_found group obj root.children roof 0 .start before after sequence ⟨once, never⟩
  constructor
  next =>
    have next : findNextFocusableSibling (some group) screen (some obj) = _ := scan_of_roof found parent true
    rw [next, forward]
  next =>
    have prev : findPrevFocusableSibling (some group) screen (some obj) = _ := scan_of_roof found parent false
    rw [prev, backward]
    exact Option.or_none

end Traversal

/-- Focus goes through the nodes below a roof in preorder, both ways. -/
theorem focus_traversal (screen root : LvObj) (group : Group) (roof : Place)
    (found : treeAt screen roof = some root) (navigable : root.label = some group) :
    findFirstFocusableChildDfs (some group) root roof = (focusSequence group screen roof).head? ∧
      (focusSequence group screen roof).Nodup ∧
      (∀ obj ∈ focusSequence group screen roof,
        findFirstFocusableParentDfs (some group) screen obj = some roof) ∧
      (∀ before obj after, focusSequence group screen roof = before ++ obj :: after →
        findNextFocusableSibling (some group) screen (some obj) = after.head? ∧
          findPrevFocusableSibling (some group) screen (some obj) = before.getLast?) ∧
      (∀ first ∈ focusSequence group screen roof, ∀ second ∈ focusSequence group screen roof,
        findNextFocusableSibling (some group) screen (some first) = some second ↔
          findPrevFocusableSibling (some group) screen (some second) = some first) ∧
      ∀ count, (findNextFocusableSibling (some group) screen)^[count]
        (findFirstFocusableChildDfs (some group) root roof) = (focusSequence group screen roof)[count]? := by
  have roofHolds : HoldsAt (· = some group) screen roof := (holdsAt_iff found).mpr navigable
  have first := @findFirstFocusableChildDfs_eq group screen roof root found
  refine ⟨first, foremost_nodup screen roof, fun obj => parent_of_mem roofHolds, ?_, ?_, ?_⟩
  next =>
    intro before obj after
    exact siblings_of_split found navigable
  next =>
    intro first firstIn second secondIn
    constructor
    next =>
      intro next
      obtain ⟨before, after, sequence⟩ := List.append_of_mem firstIn
      rw [(siblings_of_split found navigable sequence).1] at next
      obtain ⟨rest, rfl⟩ := List.head?_eq_some_iff.mp next
      have shifted : focusSequence group screen roof = (before ++ [first]) ++ second :: rest := by
        simpa using sequence
      rw [(siblings_of_split found navigable shifted).2, List.getLast?_concat]
    next =>
      intro prev
      obtain ⟨before, after, sequence⟩ := List.append_of_mem secondIn
      rw [(siblings_of_split found navigable sequence).2] at prev
      obtain ⟨rest, rfl⟩ := List.getLast?_eq_some_iff.mp prev
      have shifted : focusSequence group screen roof = rest ++ first :: second :: after := by
        simpa using sequence
      rw [(siblings_of_split found navigable shifted).1, List.head?_cons]
  next =>
    intro count
    induction count with
    | zero => rw [Function.iterate_zero_apply, first, List.head?_eq_getElem?]
    | succ count ih =>
        rw [Function.iterate_succ_apply', ih]
        by_cases inside : count < (focusSequence group screen roof).length
        next =>
          have sequence : focusSequence group screen roof =
              (focusSequence group screen roof).take count ++
                (focusSequence group screen roof)[count] :: (focusSequence group screen roof).drop (count + 1) := by
            rw [← List.drop_eq_getElem_cons inside, List.take_append_drop]
          rw [List.getElem?_eq_getElem inside, (siblings_of_split found navigable sequence).1, List.head?_drop]
        next =>
          rw [List.getElem?_eq_none (Nat.le_of_not_lt inside), List.getElem?_eq_none (by omega)]
          rfl

theorem focus_traversal_panel :
    let screen : LvObj :=
      .node (some 0)
        [.node none [], .node none [.node (some 0) [.node (some 0) []], .node (some 1) []], .node (some 0) []]
    focusSequence 0 screen [] = [[0, 1], [2]] ∧
      findFirstFocusableChildDfs (some 0) screen [] = (focusSequence 0 screen []).head? ∧
      ∀ count, (findNextFocusableSibling (some 0) screen)^[count]
        (findFirstFocusableChildDfs (some 0) screen []) = (focusSequence 0 screen [])[count]? := by
  intro screen
  have traversal := focus_traversal screen screen 0 [] rfl rfl
  exact ⟨by decide, traversal.1, traversal.2.2.2.2.2⟩

end WatchFirmware.UiBase
