import Mathlib

set_option autoImplicit false

namespace WatchFirmware.EncoderDriver

inductive InputKey where
  | left
  | right
  | ok
  | esc
  deriving DecidableEq, Repr

abbrev debounceMs : Nat := 50
abbrev longPressMs : Nat := 250

/-- The button of the encoder with its two timers, each with the time at which it expires when it is
active, and the keys that were registered. Times are in microseconds. -/
structure Button where
  pressed : Bool
  debounceTimer : Option Nat
  longPressTimer : Option Nat
  registered : List InputKey
  deriving DecidableEq, Repr

/-- After `encoder_init`. -/
def Button.start : Button := ⟨false, none, none, []⟩

def Before (alarm : Nat) : Option Nat → Prop
  | none => True
  | some limit => alarm < limit

instance (alarm : Nat) (limit : Option Nat) : Decidable (Before alarm limit) := by
  cases limit <;> unfold Before <;> infer_instance

namespace Button

def registerInput (button : Button) (key : InputKey) : Button :=
  { button with registered := button.registered ++ [key] }

def longPressTimerCb (button : Button) : Button :=
  if button.pressed then button.registerInput .esc else button.registerInput .ok

-- A timer that is active already is not started again.
def debounceTimerCb (button : Button) (now : Nat) : Button :=
  if button.pressed then
    { button with longPressTimer := some (button.longPressTimer.getD (now + longPressMs * 1000)) }
  else registerInput { button with longPressTimer := none } .ok

def gpioIsrHandlerCb (button : Button) (now : Nat) : Button :=
  { button with debounceTimer := some (now + debounceMs * 1000) }

def longPressExpires (limit : Option Nat) (button : Button) : Button :=
  match button.longPressTimer with
  | none => button
  | some alarm =>
      if Before alarm limit then longPressTimerCb { button with longPressTimer := none } else button

def debounceExpires (limit : Option Nat) (button : Button) : Button :=
  match button.debounceTimer with
  | none => button
  | some alarm =>
      if Before alarm limit then debounceTimerCb { button with debounceTimer := none } alarm else button

/-- The long press timer comes before the debounce timer: at one alarm, the one started first. -/
def LongPressFirst (button : Button) : Prop :=
  ∀ longPress ∈ button.longPressTimer, ∀ debounce ∈ button.debounceTimer, longPress ≤ debounce

instance (button : Button) : Decidable button.LongPressFirst :=
  inferInstanceAs (Decidable (∀ longPress ∈ button.longPressTimer, ∀ debounce ∈ button.debounceTimer,
    longPress ≤ debounce))

def elapse (button : Button) (limit : Option Nat) : Button :=
  longPressExpires limit
    (debounceExpires limit (if button.LongPressFirst then longPressExpires limit button else button))

-- An interrupt at the alarm of a timer comes before the task that runs the timer's callback.
def edge (button : Button) (now : Nat) : Button :=
  let waited := button.elapse (some now)
  if waited.pressed then { waited with pressed := false }
  else gpioIsrHandlerCb { waited with pressed := true } now

end Button

/-- A press of the button, by its edges: the contact closes and may open and close again, then it opens
and may close and open again. -/
structure Press where
  down : Nat
  downBounces : List (Nat × Nat)
  up : Nat
  upBounces : List (Nat × Nat)
  deriving DecidableEq, Repr

namespace Press

def bounceEdges (bounces : List (Nat × Nat)) : List Nat := bounces.flatMap fun bounce => [bounce.1, bounce.2]

def edges (press : Press) : List Nat :=
  press.down :: bounceEdges press.downBounces ++ press.up :: bounceEdges press.upBounces

def settledAt (first : Nat) (bounces : List (Nat × Nat)) : Nat := (bounces.getLast?.map Prod.snd).getD first

def closedAt (press : Press) : Nat := settledAt press.down press.downBounces

structure Physical (press : Press) : Prop where
  ordered : press.edges.Pairwise (· < ·)
  downBounces : settledAt press.down press.downBounces ≤ press.down + debounceMs * 1000
  upBounces : settledAt press.up press.upBounces ≤ press.up + debounceMs * 1000
  held : press.down + debounceMs * 1000 < press.up

def debouncedAt (press : Press) : Nat := press.closedAt + debounceMs * 1000

def longPressAt (press : Press) : Nat := press.debouncedAt + longPressMs * 1000

def key (press : Press) : InputKey := if press.longPressAt < press.up then .esc else .ok

def reboundAt (bounces : List (Nat × Nat)) : Option Nat :=
  bounces.getLast?.map fun bounce => bounce.1 + debounceMs * 1000

/-- The contact closes while it opens, and the next press comes too late to restart the debounce. -/
def Rebounds (press : Press) (next : Option Nat) : Prop :=
  ∃ alarm ∈ reboundAt press.upBounces, Before alarm next

instance (press : Press) (next : Option Nat) : Decidable (press.Rebounds next) :=
  inferInstanceAs (Decidable (∃ alarm ∈ reboundAt press.upBounces, Before alarm next))

/-- Just one of the timers answers the press, and it does so before the next one. -/
def AnsweredOnce (press : Press) (next : Option Nat) : Prop :=
  if press.longPressAt < press.up then ¬press.Rebounds next
  else if press.debouncedAt < press.up then
    if press.Rebounds next then
      ∃ alarm ∈ reboundAt press.upBounces, alarm < press.longPressAt
    else
      Before press.longPressAt next ∧
        ∀ bounce ∈ press.upBounces, press.longPressAt < bounce.1 ∨ bounce.2 ≤ press.longPressAt
  else (∃ bounce ∈ press.upBounces.head?, bounce.1 ≤ press.debouncedAt) ↔ press.Rebounds next

instance (press : Press) (next : Option Nat) : Decidable (press.AnsweredOnce next) := by
  unfold AnsweredOnce
  infer_instance

end Press

def Presses : List Press → Prop
  | [] => True
  | press :: rest =>
      press.Physical ∧ (∀ next ∈ rest.head?, press.up + debounceMs * 1000 < next.down) ∧ Presses rest

def AnsweredOnce : List Press → Prop
  | [] => True
  | press :: rest => press.AnsweredOnce (rest.head?.map Press.down) ∧ AnsweredOnce rest

def Button.after (presses : List Press) (next : Option Nat) : Button :=
  ((presses.flatMap Press.edges).foldl Button.edge .start).elapse next

section Elapse

variable {debounce longPress : Nat} {registered : List InputKey} {limit : Option Nat} {button : Button}

namespace Button

def Quiet (button : Button) (limit : Option Nat) : Prop :=
  (∀ alarm ∈ button.debounceTimer, ¬Before alarm limit) ∧ ∀ alarm ∈ button.longPressTimer, ¬Before alarm limit

theorem Quiet.elapse (quiet : button.Quiet limit) : button.elapse limit = button := by
  have noLongPress : longPressExpires limit button = button := by
    unfold longPressExpires
    split
    next => rfl
    next alarm active => exact if_neg (quiet.2 alarm active)
  have noDebounce : debounceExpires limit button = button := by
    unfold debounceExpires
    split
    next => rfl
    next alarm active => exact if_neg (quiet.1 alarm active)
  unfold Button.elapse
  rw [noLongPress, ite_self, noDebounce, noLongPress]

theorem Quiet.edge {now : Nat} (quiet : button.Quiet (some now)) :
    button.edge now =
      if button.pressed then { button with pressed := false }
      else gpioIsrHandlerCb { button with pressed := true } now := by
  unfold Button.edge
  rw [quiet.elapse]

theorem edge_elapse {now : Nat} (quiet : (button.elapse (some now)).Quiet (some now)) :
    (button.elapse (some now)).edge now = button.edge now := by
  unfold edge
  rw [quiet.elapse]

theorem debounced_open (expires : Before debounce limit) :
    (⟨false, some debounce, none, registered⟩ : Button).elapse limit =
      ⟨false, none, none, registered ++ [.ok]⟩ := by
  simp [elapse, longPressExpires, debounceExpires, debounceTimerCb, registerInput, expires]

theorem debounced_closed (expires : Before debounce limit)
    (pending : ¬Before (debounce + longPressMs * 1000) limit) :
    (⟨true, some debounce, none, registered⟩ : Button).elapse limit =
      ⟨true, none, some (debounce + longPressMs * 1000), registered⟩ := by
  simp [elapse, longPressExpires, debounceExpires, debounceTimerCb, expires, pending]

theorem held_long (expires : Before (debounce + longPressMs * 1000) limit) :
    (⟨true, some debounce, none, registered⟩ : Button).elapse limit =
      ⟨true, none, none, registered ++ [.esc]⟩ := by
  have sooner : Before debounce limit := by
    cases limit with
    | none => trivial
    | some limit => exact Nat.lt_of_le_of_lt (Nat.le_add_right _ _) expires
  simp [elapse, longPressExpires, debounceExpires, debounceTimerCb, longPressTimerCb, registerInput, expires, sooner]

theorem released_before {debounceTimer : Option Nat} (expires : Before longPress limit)
    (later : ∀ alarm ∈ debounceTimer, ¬Before alarm limit) :
    (⟨false, debounceTimer, some longPress, registered⟩ : Button).elapse limit =
      ⟨false, debounceTimer, none, registered ++ [.ok]⟩ := by
  have first : (⟨false, debounceTimer, some longPress, registered⟩ : Button).LongPressFirst := by
    rintro _ ⟨⟩ debounce active
    cases limit with
    | none => exact absurd trivial (later debounce active)
    | some limit => exact Nat.le_of_lt (Nat.lt_of_lt_of_le expires (Nat.le_of_not_lt (later debounce active)))
  cases debounceTimer with
  | none => simp [elapse, first, longPressExpires, debounceExpires, longPressTimerCb, registerInput, expires]
  | some debounce =>
      have waits := later debounce rfl
      simp [elapse, first, longPressExpires, debounceExpires, longPressTimerCb, registerInput, expires, waits]

theorem debounced_first (expires : Before debounce limit) (first : debounce < longPress) :
    (⟨false, some debounce, some longPress, registered⟩ : Button).elapse limit =
      ⟨false, none, none, registered ++ [.ok]⟩ := by
  have other : ¬(⟨false, some debounce, some longPress, registered⟩ : Button).LongPressFirst := by
    intro longPressFirst
    exact absurd (longPressFirst longPress rfl debounce rfl) (Nat.not_le_of_lt first)
  simp [elapse, other, longPressExpires, debounceExpires, debounceTimerCb, registerInput, expires]

end Button

end Elapse

open Press

section Bounces

def Within (first last : Nat) (bounces : List (Nat × Nat)) : Prop :=
  ∀ bounce ∈ bounces, first < bounce.1 ∧ bounce.1 < bounce.2 ∧ bounce.2 ≤ last

theorem Within.of_subset {first last : Nat} {bounces fewer : List (Nat × Nat)}
    (within : Within first last bounces) (subset : fewer ⊆ bounces) : Within first last fewer :=
  fun bounce member => within bounce (subset member)

theorem bounces_around {bounces : List (Nat × Nat)} {time : Nat}
    (apart : ∀ bounce ∈ bounces, time < bounce.1 ∨ bounce.2 ≤ time) :
    ∃ earlier later, bounces = earlier ++ later ∧ (∀ bounce ∈ earlier, bounce.2 ≤ time) ∧
      ∀ bounce ∈ later.head?, time < bounce.1 := by
  let passed (bounce : Nat × Nat) : Bool := bounce.2 ≤ time
  refine ⟨bounces.takeWhile passed, bounces.dropWhile passed, List.takeWhile_append_dropWhile.symm, ?_, ?_⟩
  next =>
    intro bounce member
    simpa [passed] using List.mem_takeWhile_imp member
  next =>
    intro bounce head
    have stopped := List.head?_dropWhile_not passed bounces
    rw [Option.mem_def.mp head] at stopped
    have member := (List.dropWhile_suffix passed).subset (List.mem_of_mem_head? head)
    obtain after | expired := apart bounce member
    next => exact after
    next => simp [passed, expired] at stopped

theorem bounceEdges_cons (bounce : Nat × Nat) (rest : List (Nat × Nat)) :
    bounceEdges (bounce :: rest) = bounce.1 :: bounce.2 :: bounceEdges rest := rfl

theorem settledAt_cons (first : Nat) (bounce : Nat × Nat) (rest : List (Nat × Nat)) :
    settledAt first (bounce :: rest) = settledAt bounce.2 rest := by
  unfold settledAt
  rw [List.getLast?_cons]
  cases rest.getLast? <;> rfl

theorem within_settled {first : Nat} {bounces : List (Nat × Nat)}
    (ordered : (first :: bounceEdges bounces).Pairwise (· < ·)) :
    first ≤ settledAt first bounces ∧ Within first (settledAt first bounces) bounces := by
  induction bounces generalizing first with
  | nil =>
      refine ⟨Nat.le_refl _, ?_⟩
      intro bounce member
      cases member
  | cons bounce rest ih =>
      rw [bounceEdges_cons, List.pairwise_cons, List.pairwise_cons] at ordered
      obtain ⟨later, between, behind⟩ := ordered
      obtain ⟨most, inside⟩ := ih behind
      have opens := later bounce.1 (by simp)
      have closes := between bounce.2 (by simp)
      rw [settledAt_cons]
      refine ⟨by omega, ?_⟩
      intro other member
      obtain rfl | member := List.mem_cons.mp member
      next => exact ⟨opens, closes, most⟩
      next =>
        obtain ⟨lower, order, upper⟩ := inside other member
        exact ⟨by omega, order, upper⟩

variable {registered : List InputKey} {first last : Nat} {bounces : List (Nat × Nat)}

theorem downBounces_restart {closed : Nat} (within : Within first last bounces) (closedIn : first ≤ closed)
    (short : last ≤ first + debounceMs * 1000) :
    (bounceEdges bounces).foldl Button.edge ⟨true, some (closed + debounceMs * 1000), none, registered⟩ =
      ⟨true, some (settledAt closed bounces + debounceMs * 1000), none, registered⟩ := by
  induction bounces generalizing closed with
  | nil => rfl
  | cons bounce rest ih =>
      obtain ⟨opens, closes, upper⟩ := within bounce List.mem_cons_self
      -- all edges fall into the debounce that the last closing one has started
      have quiet (pressed : Bool) (now : Nat) (soon : now ≤ last) :
          (⟨pressed, some (closed + debounceMs * 1000), none, registered⟩ : Button).Quiet (some now) := by
        refine ⟨?_, fun alarm impossible => by cases impossible⟩
        rintro alarm ⟨⟩
        exact Nat.not_lt_of_le (by omega)
      have opened : (⟨true, some (closed + debounceMs * 1000), none, registered⟩ : Button).edge bounce.1 =
          ⟨false, some (closed + debounceMs * 1000), none, registered⟩ := by
        rw [(quiet true bounce.1 (by omega)).edge]
        rfl
      have closedAgain : (⟨false, some (closed + debounceMs * 1000), none, registered⟩ : Button).edge bounce.2 =
          ⟨true, some (bounce.2 + debounceMs * 1000), none, registered⟩ := by
        rw [(quiet false bounce.2 upper).edge]
        rfl
      rw [bounceEdges_cons, settledAt_cons, List.foldl_cons, List.foldl_cons, opened, closedAgain]
      exact ih (within.of_subset (List.subset_cons_self _ _)) (by omega)

theorem upBounces_restart {debounceTimer longPressTimer : Option Nat} (within : Within first last bounces)
    (short : last ≤ first + debounceMs * 1000)
    (debounces : ∀ alarm ∈ debounceTimer, ∀ bounce ∈ bounces.head?, bounce.1 ≤ alarm)
    (outlasts : ∀ alarm ∈ longPressTimer, ∀ bounce ∈ bounces, bounce.2 ≤ alarm) :
    (bounceEdges bounces).foldl Button.edge ⟨false, debounceTimer, longPressTimer, registered⟩ =
      ⟨false, (reboundAt bounces).or debounceTimer, longPressTimer, registered⟩ := by
  induction bounces generalizing debounceTimer with
  | nil => rfl
  | cons bounce rest ih =>
      obtain ⟨closes, opens, upper⟩ := within bounce List.mem_cons_self
      -- a long press timer that is active expires behind the bounces and is left alone
      have outlasted : ∀ alarm ∈ longPressTimer, bounce.2 ≤ alarm :=
        fun alarm active => outlasts alarm active bounce List.mem_cons_self
      have closed : (⟨false, debounceTimer, longPressTimer, registered⟩ : Button).edge bounce.1 =
          ⟨true, some (bounce.1 + debounceMs * 1000), longPressTimer, registered⟩ := by
        have quiet : (⟨false, debounceTimer, longPressTimer, registered⟩ : Button).Quiet (some bounce.1) := by
          constructor
          next => exact fun alarm active => Nat.not_lt_of_le (debounces alarm active bounce rfl)
          next =>
            intro alarm active
            have later := outlasted alarm active
            exact Nat.not_lt_of_le (by omega)
        rw [quiet.edge]
        rfl
      have opened : (⟨true, some (bounce.1 + debounceMs * 1000), longPressTimer, registered⟩ : Button).edge bounce.2 =
          ⟨false, some (bounce.1 + debounceMs * 1000), longPressTimer, registered⟩ := by
        have quiet : (⟨true, some (bounce.1 + debounceMs * 1000), longPressTimer, registered⟩ : Button).Quiet
            (some bounce.2) := by
          constructor
          next =>
            rintro alarm ⟨⟩
            exact Nat.not_lt_of_le (by omega)
          next => exact fun alarm active => Nat.not_lt_of_le (outlasted alarm active)
        rw [quiet.edge]
        rfl
      rw [bounceEdges_cons, List.foldl_cons, List.foldl_cons, closed, opened, ih]
      next =>
        unfold reboundAt
        rw [List.getLast?_cons]
        cases rest.getLast? <;> rfl
      next => exact within.of_subset (List.subset_cons_self _ _)
      next =>
        rintro alarm ⟨⟩ other member
        obtain ⟨_, order, below⟩ := within other (List.mem_cons_of_mem _ (List.mem_of_mem_head? member))
        omega
      next => exact fun alarm active other member => outlasts alarm active other (List.mem_cons_of_mem _ member)

end Bounces

section Answer

variable {press : Press} {next debounceTimer : Option Nat} {registered : List InputKey}

def Ready (registered : List InputKey) (next : Option Nat) (button : Button) : Prop :=
  ∃ debounceTimer, button = ⟨false, debounceTimer, none, registered⟩ ∧
    ∀ alarm ∈ debounceTimer, ¬Before alarm next

theorem Ready.quiet {button : Button} (ready : Ready registered next button) : button.Quiet next := by
  obtain ⟨debounceTimer, rfl, waits⟩ := ready
  refine ⟨waits, ?_⟩
  intro alarm impossible
  cases impossible

theorem Press.Physical.within (physical : press.Physical) :
    Within press.down press.closedAt press.downBounces ∧
      Within press.up (settledAt press.up press.upBounces) press.upBounces := by
  have ordered := List.pairwise_append.mp physical.ordered
  exact ⟨(within_settled ordered.1).2, (within_settled ordered.2.1).2⟩

theorem Press.Physical.settle (physical : press.Physical) {button : Button}
    (ready : Ready registered (some press.down) button) :
    (press.down :: bounceEdges press.downBounces).foldl Button.edge button =
      ⟨true, some press.debouncedAt, none, registered⟩ := by
  have first : button.edge press.down = ⟨true, some (press.down + debounceMs * 1000), none, registered⟩ := by
    rw [ready.quiet.edge]
    obtain ⟨debounceTimer, rfl, _⟩ := ready
    rfl
  rw [List.foldl_cons, first]
  exact downBounces_restart physical.within.1 (Nat.le_refl _) physical.downBounces

theorem ready_of_not_rebounds (unbounced : ¬press.Rebounds next) :
    Ready registered next ⟨false, (reboundAt press.upBounces).or none, none, registered⟩ := by
  refine ⟨_, rfl, ?_⟩
  intro alarm active expires
  rw [Option.or_none] at active
  exact unbounced ⟨alarm, active, expires⟩

theorem Press.Physical.closedAt_lt (physical : press.Physical) : press.closedAt < press.up :=
  Nat.lt_of_le_of_lt physical.downBounces physical.held

theorem Press.Physical.long (physical : press.Physical) (held : press.longPressAt < press.up)
    (answered : press.AnsweredOnce next) :
    Ready (registered ++ [press.key]) next
      (((press.up :: bounceEdges press.upBounces).foldl Button.edge
        ⟨true, some press.debouncedAt, none, registered⟩).elapse next) := by
  rw [Press.AnsweredOnce, if_pos held] at answered
  have expires : Before (press.debouncedAt + longPressMs * 1000) (some press.up) := held
  have opened : (⟨true, some press.debouncedAt, none, registered⟩ : Button).edge press.up =
      ⟨false, none, none, registered ++ [.esc]⟩ := by
    unfold Button.edge
    rw [Button.held_long expires]
    rfl
  have reopened := @upBounces_restart (registered ++ [.esc]) _ _ press.upBounces none none physical.within.2
    physical.upBounces (fun _ impossible => by cases impossible) (fun _ impossible => by cases impossible)
  rw [List.foldl_cons, opened, reopened, Press.key, if_pos held]
  have ready := @ready_of_not_rebounds press next (registered ++ [.esc]) answered
  rw [ready.quiet.elapse]
  exact ready

theorem ready_answered {button : Button} (answered : button = ⟨false, none, none, registered⟩) :
    Ready registered next button := by
  refine ⟨none, answered, ?_⟩
  intro alarm impossible
  cases impossible

theorem foldl_of_elapse {bounce : Nat × Nat} {rest : List (Nat × Nat)} {button waited : Button}
    (elapsed : button.elapse (some bounce.1) = waited) (quiet : waited.Quiet (some bounce.1)) :
    (bounceEdges (bounce :: rest)).foldl Button.edge button =
      (bounceEdges (bounce :: rest)).foldl Button.edge waited := by
  have same : waited.edge bounce.1 = button.edge bounce.1 := by
    rw [← elapsed] at quiet ⊢
    exact Button.edge_elapse quiet
  rw [bounceEdges_cons]
  simp only [List.foldl_cons, same]

theorem Press.Physical.short (physical : press.Physical) (tooShort : ¬press.debouncedAt < press.up)
    (pause : ∀ start ∈ next, press.up + debounceMs * 1000 < start) (answered : press.AnsweredOnce next) :
    Ready (registered ++ [press.key]) next
      (((press.up :: bounceEdges press.upBounces).foldl Button.edge
        ⟨true, some press.debouncedAt, none, registered⟩).elapse next) := by
  -- a press over before the debounce, which restarts as long as the contact bounces
  have notLong : ¬press.longPressAt < press.up := by
    unfold Press.longPressAt
    omega
  rw [Press.AnsweredOnce, if_neg notLong, if_neg tooShort] at answered
  have closedFirst := physical.closedAt_lt
  have opened : (⟨true, some press.debouncedAt, none, registered⟩ : Button).edge press.up =
      ⟨false, some press.debouncedAt, none, registered⟩ := by
    have quiet : (⟨true, some press.debouncedAt, none, registered⟩ : Button).Quiet (some press.up) := by
      refine ⟨?_, fun alarm impossible => by cases impossible⟩
      rintro alarm ⟨⟩
      exact tooShort
    unfold Button.edge
    rw [quiet.elapse]
    rfl
  rw [List.foldl_cons, opened, Press.key, if_neg notLong]
  by_cases restarts : ∃ bounce ∈ press.upBounces.head?, bounce.1 ≤ press.debouncedAt
  next =>
    obtain ⟨bounce, first, soon⟩ := restarts
    obtain ⟨alarm, last, expires⟩ := answered.mp ⟨bounce, first, soon⟩
    have debounces : ∀ alarm ∈ some press.debouncedAt, ∀ bounce ∈ press.upBounces.head?, bounce.1 ≤ alarm := by
      rintro alarm ⟨⟩ other member
      rw [Option.mem_def.mp first] at member
      cases member
      exact soon
    have reopened := @upBounces_restart registered _ _ press.upBounces _ none physical.within.2
      physical.upBounces debounces (fun _ impossible => by cases impossible)
    rw [reopened, Option.mem_def.mp last]
    exact ready_answered (Button.debounced_open expires)
  next =>
    have unbounced := fun rebounds => restarts (answered.mpr rebounds)
    cases bounces : press.upBounces with
    | nil =>
        have expires : Before press.debouncedAt next := by
          cases next with
          | none => trivial
          | some start =>
              have later := pause start rfl
              exact Nat.lt_trans (Nat.add_lt_add_right closedFirst _) later
        exact ready_answered (Button.debounced_open expires)
    | cons bounce rest =>
        have late : press.debouncedAt < bounce.1 := by
          rw [bounces] at restarts
          by_contra soon
          exact restarts ⟨bounce, rfl, Nat.le_of_not_lt soon⟩
        have decided : (⟨false, some press.debouncedAt, none, registered⟩ : Button).elapse (some bounce.1) =
            ⟨false, none, none, registered ++ [.ok]⟩ := Button.debounced_open late
        have reopened := @upBounces_restart (registered ++ [.ok]) _ _ press.upBounces none none physical.within.2
          physical.upBounces (fun _ impossible => by cases impossible) (fun _ impossible => by cases impossible)
        rw [foldl_of_elapse decided (ready_answered rfl).quiet, ← bounces, reopened]
        have ready := @ready_of_not_rebounds press next (registered ++ [.ok]) unbounced
        rw [ready.quiet.elapse]
        exact ready

theorem bounceEdges_append (first second : List (Nat × Nat)) :
    bounceEdges (first ++ second) = bounceEdges first ++ bounceEdges second := List.flatMap_append

theorem Press.Physical.reopen_expiring (physical : press.Physical) (inTime : Before press.longPressAt next)
    (apart : ∀ bounce ∈ press.upBounces, press.longPressAt < bounce.1 ∨ bounce.2 ≤ press.longPressAt)
    (unbounced : ¬press.Rebounds next) :
    ((bounceEdges press.upBounces).foldl Button.edge ⟨false, none, some press.longPressAt, registered⟩).elapse
        next =
      ⟨false, (reboundAt press.upBounces).or none, none, registered ++ [.ok]⟩ := by
  -- the long press timer expires between the bounces or behind them, where the contact is open
  have within := physical.within.2
  have short := physical.upBounces
  obtain ⟨earlier, later, split, before, behind⟩ := bounces_around apart
  have withinEarlier : Within press.up (settledAt press.up press.upBounces) earlier := by
    apply within.of_subset
    rw [split]
    exact List.subset_append_left _ _
  have first := @upBounces_restart registered _ _ earlier none (some press.longPressAt) withinEarlier short
    (fun _ impossible => by cases impossible)
    (by
      rintro alarm ⟨⟩
      exact before)
  rw [split, bounceEdges_append, List.foldl_append, first]
  cases later with
  | nil =>
      rw [List.append_nil] at split ⊢
      have waits : ∀ alarm ∈ (reboundAt earlier).or none, ¬Before alarm next := by
        intro alarm active expires
        rw [Option.or_none, ← split] at active
        exact unbounced ⟨alarm, active, expires⟩
      exact Button.released_before inTime waits
  | cons bounce rest =>
      have withinLater : Within press.up (settledAt press.up press.upBounces) (bounce :: rest) := by
        apply within.of_subset
        rw [split]
        exact List.subset_append_right _ _
      have closes := withinLater bounce List.mem_cons_self
      have waits : ∀ alarm ∈ (reboundAt earlier).or none, ¬Before alarm (some bounce.1) := by
        intro alarm active
        rw [Option.or_none] at active
        obtain ⟨last, lastIs, rfl⟩ := Option.map_eq_some_iff.mp active
        have closing := withinEarlier last (List.mem_of_getLast? lastIs)
        exact Nat.not_lt_of_le (by omega)
      have expires : Before press.longPressAt (some bounce.1) := behind bounce rfl
      have decided := @Button.released_before _ registered (some bounce.1) _ expires waits
      have quiet : Ready (registered ++ [.ok]) (some bounce.1)
          ⟨false, (reboundAt earlier).or none, none, registered ++ [.ok]⟩ := ⟨_, rfl, waits⟩
      have second := @upBounces_restart (registered ++ [.ok]) _ _ (bounce :: rest) ((reboundAt earlier).or none)
        none withinLater short
        (by
          rintro alarm active other ⟨⟩
          exact Nat.le_of_not_lt (waits alarm active))
        (fun _ impossible => by cases impossible)
      rw [foldl_of_elapse decided quiet.quiet, second]
      have whole : (reboundAt (bounce :: rest)).or ((reboundAt earlier).or none) =
          (reboundAt (earlier ++ bounce :: rest)).or none := by
        unfold reboundAt
        rw [List.getLast?_append, Option.or_none, Option.or_none, Option.map_or]
      rw [whole, ← split]
      exact (ready_of_not_rebounds unbounced).quiet.elapse

theorem Press.Physical.middle (physical : press.Physical) (debounced : press.debouncedAt < press.up)
    (notLong : ¬press.longPressAt < press.up) (answered : press.AnsweredOnce next) :
    Ready (registered ++ [press.key]) next
      (((press.up :: bounceEdges press.upBounces).foldl Button.edge
        ⟨true, some press.debouncedAt, none, registered⟩).elapse next) := by
  rw [Press.AnsweredOnce, if_neg notLong, if_pos debounced] at answered
  have within := physical.within.2
  have bounced := physical.upBounces
  have opened : (⟨true, some press.debouncedAt, none, registered⟩ : Button).edge press.up =
      ⟨false, none, some press.longPressAt, registered⟩ := by
    have expires : Before press.debouncedAt (some press.up) := debounced
    have pending : ¬Before (press.debouncedAt + longPressMs * 1000) (some press.up) := notLong
    unfold Button.edge
    rw [Button.debounced_closed expires pending]
    rfl
  rw [List.foldl_cons, opened, Press.key, if_neg notLong]
  by_cases rebounds : press.Rebounds next
  next =>
    rw [if_pos rebounds] at answered
    obtain ⟨alarm, last, expires⟩ := rebounds
    obtain ⟨same, lastToo, sooner⟩ := answered
    rw [Option.mem_def.mp last] at lastToo
    cases lastToo
    have outlasts : ∀ alarm ∈ some press.longPressAt, ∀ bounce ∈ press.upBounces, bounce.2 ≤ alarm := by
      rintro alarm ⟨⟩ bounce member
      obtain ⟨final, finalIs, rfl⟩ := Option.map_eq_some_iff.mp last
      have opening := within final (List.mem_of_getLast? finalIs)
      have inside := within bounce member
      omega
    have reopened := @upBounces_restart registered _ _ press.upBounces none _ physical.within.2
      physical.upBounces (fun _ impossible => by cases impossible) outlasts
    rw [reopened, Option.mem_def.mp last]
    exact ready_answered (Button.debounced_first expires sooner)
  next =>
    rw [if_neg rebounds] at answered
    obtain ⟨inTime, apart⟩ := answered
    have ready := @ready_of_not_rebounds press next (registered ++ [.ok]) rebounds
    rw [physical.reopen_expiring inTime apart rebounds]
    exact ready

theorem Press.Physical.answered (physical : press.Physical)
    (pause : ∀ start ∈ next, press.up + debounceMs * 1000 < start) (answered : press.AnsweredOnce next)
    {button : Button} (ready : Ready registered (some press.down) button) :
    Ready (registered ++ [press.key]) next ((press.edges.foldl Button.edge button).elapse next) := by
  rw [Press.edges, List.foldl_append, physical.settle ready]
  by_cases long : press.longPressAt < press.up
  next => exact physical.long long answered
  next =>
    by_cases debounced : press.debouncedAt < press.up
    next => exact physical.middle debounced long answered
    next => exact physical.short debounced pause answered

theorem foldl_presses {button : Button} {presses : List Press} {limit : Option Nat}
    (quiet : (button.elapse ((presses.head?.map Press.down).or limit)).Quiet
      ((presses.head?.map Press.down).or limit)) :
    ((presses.flatMap Press.edges).foldl Button.edge
        (button.elapse ((presses.head?.map Press.down).or limit))).elapse limit =
      ((presses.flatMap Press.edges).foldl Button.edge button).elapse limit := by
  cases presses with
  | nil => exact quiet.elapse
  | cons press rest =>
      have first := @Button.edge_elapse button press.down quiet
      have edges : (press :: rest).flatMap Press.edges = press.down ::
          (bounceEdges press.downBounces ++ press.up :: bounceEdges press.upBounces ++ rest.flatMap Press.edges) := rfl
      rw [edges, List.foldl_cons, List.foldl_cons]
      exact congrArg (fun button => (List.foldl Button.edge button _).elapse limit) first

end Answer

theorem presses_answered {presses before after : List Press} {registered : List InputKey} {button : Button}
    (split : presses = before ++ after) (physical : Presses presses) (answered : AnsweredOnce presses)
    (ready : Ready registered (presses.head?.map Press.down) button) :
    Ready (registered ++ before.map Press.key) (after.head?.map Press.down)
      (((before.flatMap Press.edges).foldl Button.edge button).elapse (after.head?.map Press.down)) := by
  induction before generalizing presses registered button with
  | nil =>
      have same : presses = after := split
      rw [same] at ready
      rw [List.map_nil, List.append_nil, List.flatMap_nil, List.foldl_nil, ready.quiet.elapse]
      exact ready
  | cons press rest ih =>
      subst split
      obtain ⟨one, pause, others⟩ := physical
      obtain ⟨first, further⟩ := answered
      have later : ∀ start ∈ (rest ++ after).head?.map Press.down, press.up + debounceMs * 1000 < start := by
        intro start active
        obtain ⟨next, isNext, rfl⟩ := Option.map_eq_some_iff.mp active
        exact pause next isNext
      have ready := one.answered later first ready
      have heads : (rest ++ after).head?.map Press.down =
          (rest.head?.map Press.down).or (after.head?.map Press.down) := by
        rw [List.head?_append, Option.map_or]
      have done := ih rfl others further ready
      have quiet := ready.quiet
      rw [heads] at done quiet
      rw [foldl_presses quiet, List.append_assoc] at done
      rw [List.flatMap_cons, List.foldl_append]
      exact done

/-- Every press has given its one key by the time the next one starts, or the timers have run out. -/
theorem one_key_per_press (presses before after : List Press) (split : presses = before ++ after)
    (physical : Presses presses) (answered : AnsweredOnce presses) :
    (Button.after before (after.head?.map Press.down)).registered = before.map Press.key := by
  have ready : Ready [] (presses.head?.map Press.down) .start := ready_answered rfl
  obtain ⟨debounceTimer, same, _⟩ := presses_answered split physical answered ready
  unfold Button.after
  rw [same]
  rfl

theorem one_key_per_press_bounced :
    let presses : List Press := [⟨1000, [(1100, 1300)], 90000, [(90200, 91000)]⟩, ⟨400000, [], 900000, []⟩]
    (Button.after presses none).registered = [.ok, .esc] := by
  intro presses
  have physical : Presses presses := by
    refine ⟨?_, ?_, ?_, ?_, trivial⟩
    next => constructor <;> decide
    next =>
      rintro next ⟨⟩
      decide
    next => constructor <;> decide
    next =>
      rintro next ⟨⟩
  have keys : presses.map Press.key = [.ok, .esc] := by decide
  rw [← keys]
  exact one_key_per_press presses presses [] (List.append_nil presses).symm physical
    ⟨by decide, by decide, trivial⟩

/-- A long press whose contact closes once more as it opens gives a second key. -/
theorem rebound_gives_second_key :
    ¬∀ presses : List Press, Presses presses →
      (Button.after presses none).registered = presses.map Press.key := by
  intro always
  have physical : Presses [⟨1000, [], 900000, [(900200, 900500)]⟩] := by
    refine ⟨?_, ?_, trivial⟩
    next => constructor <;> decide
    next => simp
  exact absurd (always _ physical) (by decide)

end WatchFirmware.EncoderDriver
