import WatchFirmware.EncoderDriver.KeyPipeline
import WatchFirmware.Shared.Refinement

set_option autoImplicit false

namespace WatchFirmware.EncoderDriver

open Transition

/-- The knob and the button as they are moved: the position, the position of the last key that the knob gave, and
the messages of `register_input`. -/
structure Knob where
  position : Int
  notch : Int
  inIsr : Option InputKey
  inTimer : Option InputKey
  sent : List EncoderInput

namespace Knob

def start : Knob := ⟨0, 0, none, none, []⟩

def step : Step Knob KeyAction := fun knob action =>
  match action with
  | .edge forward => some { knob with position := if forward then knob.position + 1 else knob.position - 1 }
  | .reach =>
      if knob.inIsr.isNone ∧ (knob.position = knob.notch + 2 ∨ knob.position = knob.notch - 2) then
        let key := if knob.notch < knob.position then InputKey.right else InputKey.left
        some { knob with notch := knob.position, inIsr := some key, sent := knob.sent ++ [⟨key, .pressed⟩] }
      else none
  | .reachReturns =>
      knob.inIsr.map fun key => { knob with inIsr := none, sent := knob.sent ++ [⟨key, .released⟩] }
  | .timer key =>
      if knob.inTimer.isNone then
        some { knob with inTimer := some key, sent := knob.sent ++ [⟨key, .pressed⟩] }
      else none
  | .timerReturns =>
      knob.inTimer.map fun key => { knob with inTimer := none, sent := knob.sent ++ [⟨key, .released⟩] }
  | .read => some knob

end Knob

section Messages

def pressedKeys : InputKeyState → List EncoderInput → List LvKey
  | _, [] => []
  | before, input :: rest =>
      (if before = .released ∧ input.state = .pressed then [input.key.lvKey] else []) ++ pressedKeys input.state rest

def lastState : InputKeyState → List EncoderInput → InputKeyState
  | before, [] => before
  | _, input :: rest => lastState input.state rest

theorem lastState_append (before : InputKeyState) (inputs : List EncoderInput) (input : EncoderInput) :
    lastState before (inputs ++ [input]) = input.state := by
  induction inputs generalizing before with
  | nil => rfl
  | cons first rest ih => exact ih first.state

theorem pressedKeys_append (before : InputKeyState) (inputs more : List EncoderInput) :
    pressedKeys before (inputs ++ more) =
      pressedKeys before inputs ++ pressedKeys (lastState before inputs) more := by
  induction inputs generalizing before with
  | nil => rfl
  | cons first rest ih => simp only [List.cons_append, pressedKeys, lastState, ih, List.append_assoc]

def both (key : InputKey) : List EncoderInput := [⟨key, .pressed⟩, ⟨key, .released⟩]

theorem pressedKeys_both (keys : List InputKey) :
    pressedKeys .released (keys.flatMap both) = keys.map InputKey.lvKey := by
  induction keys with
  | nil => rfl
  | cons key rest ih =>
      rw [List.flatMap_cons, pressedKeys_append, List.map_cons]
      exact congrArg (key.lvKey :: ·) ih

def turns (inputs : List EncoderInput) : Int :=
  inputs.count ⟨.right, .pressed⟩ - inputs.count ⟨.left, .pressed⟩

theorem turns_append (inputs : List EncoderInput) (input : EncoderInput) :
    turns (inputs ++ [input]) = turns inputs +
      (if input = ⟨.right, .pressed⟩ then 1 else if input = ⟨.left, .pressed⟩ then -1 else 0) := by
  obtain ⟨key, state⟩ := input
  unfold turns
  cases key with
  | left | right | ok | esc =>
      cases state with
      | pressed | released =>
          simp only [List.count_append, List.count_singleton]
          simp
          try omega

end Messages

namespace KeyPipeline

variable {k : KeyPipeline} {knob : Knob}

/-- An interrupt of the knob is served before its next edge, the timers of the button give its two keys, and there
is a place in the queue. -/
def Allowed (k : KeyPipeline) : KeyAction → Prop
  | .edge _ => k.reached = none ∧ k.inIsr = none
  | .timer key => (key = .ok ∨ key = .esc) ∧ k.inputQueue.length < maxInputs
  | .reach | .reachReturns | .timerReturns => k.inputQueue.length < maxInputs
  | .read => True

instance (k : KeyPipeline) (action : KeyAction) : Decidable (k.Allowed action) := by
  cases action with
  | edge _ | reach | reachReturns | timer _ | timerReturns | read =>
      unfold Allowed
      infer_instance

structure Follows (k : KeyPipeline) (knob : Knob) : Prop where
  messages : k.handled ++ pressedKeys k.indevState k.inputQueue = pressedKeys .released knob.sent
  last : lastState k.indevState k.inputQueue = lastState .released knob.sent
  read : k.lastInputState = k.indevState
  inIsr : k.inIsr = knob.inIsr
  inTimer : k.inTimer = knob.inTimer
  held : lastState .released knob.sent = .pressed → knob.inIsr ≠ none ∨ knob.inTimer ≠ none
  notch : knob.notch = 2 * turns knob.sent
  counting : knob.inIsr = none → k.count = knob.position - knob.notch ∧ -2 ≤ k.count ∧ k.count ≤ 2 ∧
    k.reached = if k.count = 2 ∨ k.count = -2 then some k.count else none
  counted : knob.inIsr ≠ none → knob.position = knob.notch ∧ k.reached = none

theorem queueSend_room (room : k.inputQueue.length < maxInputs) (input : EncoderInput) :
    k.queueSend input = { k with inputQueue := k.inputQueue ++ [input] } := by
  simp [queueSend, BoundedQueue.send, room]

theorem Follows.sent (follows : k.Follows knob) (input : EncoderInput) :
    k.handled ++ pressedKeys k.indevState (k.inputQueue ++ [input]) =
        pressedKeys .released (knob.sent ++ [input]) ∧
      lastState k.indevState (k.inputQueue ++ [input]) = lastState .released (knob.sent ++ [input]) := by
  constructor
  · rw [pressedKeys_append, pressedKeys_append, ← List.append_assoc, follows.messages, follows.last]
  · rw [lastState_append, lastState_append]

theorem Follows.readKey (follows : k.Follows knob) :
    k.indevRead.handled ++ pressedKeys k.indevRead.indevState k.indevRead.inputQueue =
        pressedKeys .released knob.sent ∧
      lastState k.indevRead.indevState k.indevRead.inputQueue = lastState .released knob.sent ∧
      k.indevRead.lastInputState = k.indevRead.indevState ∧ k.indevRead.inputQueue = k.inputQueue.tail := by
  have messages := follows.messages
  have last := follows.last
  have same := follows.read
  cases waiting : k.inputQueue with
  | nil =>
      rw [waiting] at messages last
      simp only [indevRead, keypadReadCallback, waiting, same]
      have steady : ¬(k.indevState = .released ∧ k.indevState = .pressed) := by
        rintro ⟨released, pressed⟩
        rw [released] at pressed
        cases pressed
      rw [if_neg steady]
      exact ⟨messages, last, trivial, rfl⟩
  | cons input rest =>
      rw [waiting] at messages last
      simp only [indevRead, keypadReadCallback, waiting]
      refine ⟨?_, last, trivial, rfl⟩
      rw [← messages, pressedKeys, ← List.append_assoc]
      split
      next => rfl
      next => rw [List.append_nil]

theorem indevRead_frame (k : KeyPipeline) :
    k.indevRead.inIsr = k.inIsr ∧ k.indevRead.inTimer = k.inTimer ∧ k.indevRead.count = k.count ∧
      k.indevRead.reached = k.reached := by
  unfold indevRead keypadReadCallback
  cases k.inputQueue with
  | nil | cons _ _ => exact ⟨rfl, rfl, rfl, rfl⟩

theorem follows_edge (follows : k.Follows knob) (forward : Bool) (idle : k.reached = none ∧ k.inIsr = none) :
    Follows (k.pulse forward)
      { knob with position := if forward then knob.position + 1 else knob.position - 1 } := by
  obtain ⟨noWatch, noIsr⟩ := idle
  have knobIdle : knob.inIsr = none := follows.inIsr.symm.trans noIsr
  obtain ⟨count, low, high, reached⟩ := follows.counting knobIdle
  have inside : ¬(k.count = 2 ∨ k.count = -2) := by
    intro atPoint
    rw [noWatch, if_pos atPoint] at reached
    cases reached
  constructor
  case messages => exact follows.messages
  case last => exact follows.last
  case read => exact follows.read
  case inIsr => exact follows.inIsr
  case inTimer => exact follows.inTimer
  case held => exact follows.held
  case notch => exact follows.notch
  case counting =>
    intro _
    cases forward with
    | true =>
        simp only [pulse, noWatch, if_true]
        refine ⟨by omega, by omega, by omega, ?_⟩
        simp
    | false =>
        simp only [pulse, noWatch]
        refine ⟨by simp; omega, by simp; omega, by simp; omega, ?_⟩
        simp
  case counted =>
    intro busy
    exact absurd knobIdle busy

theorem follows_reach (follows : k.Follows knob) (room : k.inputQueue.length < maxInputs) :
    Option.Rel Follows (k.step .reach) (knob.step .reach) := by
  cases isr : knob.inIsr with
  | some key =>
      have busy : k.inIsr = some key := follows.inIsr.trans isr
      have refused : k.step .reach = none := by simp [step, busy]
      have same : knob.step .reach = none := by simp [Knob.step, isr]
      rw [refused, same]
      exact .none
  | none =>
      have free : k.inIsr = none := follows.inIsr.trans isr
      obtain ⟨count, low, high, reached⟩ := follows.counting isr
      by_cases atPoint : k.count = 2 ∨ k.count = -2
      next =>
        rw [if_pos atPoint] at reached
        have away : knob.position = knob.notch + 2 ∨ knob.position = knob.notch - 2 := by omega
        have direction : (if 0 < k.count then InputKey.right else InputKey.left) =
            if knob.notch < knob.position then InputKey.right else InputKey.left := by
          have same : 0 < k.count ↔ knob.notch < knob.position := by omega
          simp only [same]
        have taken : k.step .reach = some (k.pcntOnReachCb k.count) := by simp [step, free, reached]
        have turned : knob.step .reach = some
            { knob with
              notch := knob.position
              inIsr := some (if knob.notch < knob.position then InputKey.right else InputKey.left)
              sent := knob.sent ++
                [⟨if knob.notch < knob.position then InputKey.right else InputKey.left, .pressed⟩] } := by
          simp [Knob.step, isr, away]
        rw [taken, turned, pcntOnReachCb, queueSend_room room, direction]
        generalize newKey : (if knob.notch < knob.position then InputKey.right else InputKey.left) = key
        obtain ⟨messages, last⟩ := follows.sent ⟨key, .pressed⟩
        refine .some ⟨messages, last, follows.read, rfl, follows.inTimer, fun _ => .inl (by simp), ?_, ?_, ?_⟩
        next =>
          have notch := follows.notch
          dsimp only
          rw [turns_append, ← newKey]
          split
          next =>
            simp
            omega
          next =>
            simp
            omega
        next =>
          intro idle
          cases idle
        next => exact fun _ => ⟨rfl, rfl⟩
      next =>
        rw [if_neg atPoint] at reached
        have refused : k.step .reach = none := by simp [step, free, reached]
        have near : ¬(knob.position = knob.notch + 2 ∨ knob.position = knob.notch - 2) := by omega
        have same : knob.step .reach = none := by simp [Knob.step, near]
        rw [refused, same]
        exact .none

theorem follows_reachReturns (follows : k.Follows knob) (room : k.inputQueue.length < maxInputs) :
    Option.Rel Follows (k.step .reachReturns) (knob.step .reachReturns) := by
  simp only [step, Knob.step, follows.inIsr]
  cases isr : knob.inIsr with
  | none => exact .none
  | some key =>
      obtain ⟨position, reached⟩ := follows.counted (by simp [isr])
      obtain ⟨messages, last⟩ := follows.sent ⟨key, .released⟩
      simp only [Option.map_some, pcntOnReachReturns, queueSend_room room]
      refine .some ⟨messages, last, follows.read, rfl, follows.inTimer, ?_, ?_, ?_, ?_⟩
      next =>
        intro pressed
        rw [lastState_append] at pressed
        cases pressed
      next =>
        dsimp only
        rw [turns_append, follows.notch]
        simp
      next =>
        intro _
        have still : (0 : Int) = knob.position - knob.notch := by omega
        have low : (-2 : Int) ≤ 0 := by decide
        have high : (0 : Int) ≤ 2 := by decide
        exact ⟨still, low, high, reached⟩
      next =>
        intro busy
        exact absurd rfl busy

theorem follows_timer (follows : k.Follows knob) {key : InputKey} (button : key = .ok ∨ key = .esc)
    (room : k.inputQueue.length < maxInputs) : Option.Rel Follows (k.step (.timer key)) (knob.step (.timer key)) := by
  simp only [step, Knob.step, follows.inTimer]
  split
  next =>
    obtain ⟨messages, last⟩ := follows.sent ⟨key, .pressed⟩
    rw [queueSend_room room]
    refine .some ⟨messages, last, follows.read, follows.inIsr, rfl, fun _ => .inr (by simp), ?_, follows.counting,
      follows.counted⟩
    dsimp only
    rw [turns_append, follows.notch]
    obtain rfl | rfl := button
    next => simp
    next => simp
  next => exact .none

theorem follows_timerReturns (follows : k.Follows knob) (room : k.inputQueue.length < maxInputs) :
    Option.Rel Follows (k.step .timerReturns) (knob.step .timerReturns) := by
  simp only [step, Knob.step, follows.inTimer]
  cases timer : knob.inTimer with
  | none => exact .none
  | some key =>
      obtain ⟨messages, last⟩ := follows.sent ⟨key, .released⟩
      simp only [Option.map_some, queueSend_room room]
      refine .some ⟨messages, last, follows.read, follows.inIsr, rfl, ?_, ?_, follows.counting, follows.counted⟩
      next =>
        intro pressed
        rw [lastState_append] at pressed
        cases pressed
      next =>
        dsimp only
        rw [turns_append, follows.notch]
        simp

theorem follows_refines : Refinement.Refines step Knob.step Allowed Follows := by
  intro k knob action follows allowed
  cases action with
  | edge forward => exact .some (follows_edge follows forward allowed)
  | reach => exact follows_reach follows allowed
  | reachReturns => exact follows_reachReturns follows allowed
  | timer key => exact follows_timer follows allowed.1 allowed.2
  | timerReturns => exact follows_timerReturns follows allowed
  | read =>
      obtain ⟨messages, last, same, _⟩ := follows.readKey
      obtain ⟨isr, timer, count, reached⟩ := indevRead_frame k
      refine .some ⟨messages, last, same, isr.trans follows.inIsr, timer.trans follows.inTimer, follows.held,
        follows.notch, ?_, ?_⟩
      next =>
        rw [count, reached]
        exact follows.counting
      next =>
        rw [reached]
        exact follows.counted

theorem start_follows : start.Follows .start := by
  refine ⟨rfl, rfl, rfl, rfl, rfl, fun pressed => (by cases pressed), rfl, fun _ => ?_, fun busy => absurd rfl busy⟩
  exact ⟨rfl, by decide, by decide, rfl⟩

theorem Follows.drains (follows : k.Follows knob) :
    ∃ after, run step k (List.replicate k.inputQueue.length .read) = some after ∧ after.Follows knob ∧
      after.inputQueue = [] := by
  induction waiting : k.inputQueue.length generalizing k with
  | zero => exact ⟨k, rfl, follows, List.length_eq_zero_iff.mp waiting⟩
  | succ count ih =>
      have shorter : k.indevRead.inputQueue.length = count := by
        rw [follows.readKey.2.2.2, List.length_tail, waiting, Nat.add_sub_cancel]
      have kept : k.indevRead.Follows knob := by
        have guarded : Guarded step Allowed k [.read] := ⟨trivial, trivial⟩
        obtain ⟨next, taken, goes⟩ := follows_refines.run_some follows guarded rfl
        cases taken
        exact goes
      obtain ⟨after, ran, ended⟩ := ih kept shorter
      exact ⟨after, ran, ended⟩

/-- However the interrupt of the knob, the timers of the button and the reads of LVGL interleave, LVGL acts on the keys
at which the messages turn to pressed, in their order: on some it has acted, the others wait. When nothing is being
registered, the reads of the waiting messages leave no key pressed, and if no two keys were registered at the same
time, LVGL has acted on each of them. -/
theorem keys_delivered {actions : List KeyAction} (allowed : Guarded step Allowed start actions) {k : KeyPipeline}
    (ran : run step start actions = some k) :
    ∃ knob, run Knob.step .start actions = some knob ∧
      k.handled ++ pressedKeys k.indevState k.inputQueue = pressedKeys .released knob.sent ∧
      (-2 ≤ knob.position - 2 * turns knob.sent ∧ knob.position - 2 * turns knob.sent ≤ 2) ∧
      (k.inIsr = none → k.inTimer = none →
        ∃ after, run step k (List.replicate k.inputQueue.length .read) = some after ∧ after.inputQueue = [] ∧
          after.lastInputState = .released ∧ after.handled = pressedKeys .released knob.sent ∧
          ∀ keys : List InputKey, knob.sent = keys.flatMap both → after.handled = keys.map InputKey.lvKey) := by
  obtain ⟨knob, spec, follows⟩ := follows_refines.run_some start_follows allowed ran
  refine ⟨knob, spec, follows.messages, ?_, ?_⟩
  next =>
    rw [← follows.notch]
    by_cases idle : knob.inIsr = none
    next =>
      obtain ⟨count, low, high, _⟩ := follows.counting idle
      omega
    next =>
      obtain ⟨position, _⟩ := follows.counted idle
      omega
  next =>
    intro isr timer
    obtain ⟨after, drained, ended, empty⟩ := follows.drains
    have messages := ended.messages
    have last := ended.last
    rw [empty] at messages last
    have handled : after.handled = pressedKeys .released knob.sent := (List.append_nil _).symm.trans messages
    have released : lastState .released knob.sent = .released := by
      cases state : lastState .released knob.sent with
      | released => rfl
      | pressed =>
          obtain busy | busy := follows.held state
          next => exact absurd (follows.inIsr.symm.trans isr) busy
          next => exact absurd (follows.inTimer.symm.trans timer) busy
    refine ⟨after, drained, empty, ended.read.trans (last.trans released), handled, fun keys whole => ?_⟩
    rw [handled, whole, pressedKeys_both]

theorem keys_delivered_notch : ∃ k,
    run step start [.edge true, .edge true, .reach, .read, .reachReturns, .timer .ok, .timerReturns] = some k ∧
      k.handled = [.right] ∧
      ∃ after, run step k [.read, .read, .read] = some after ∧ after.handled = [.right, .enter] := by
  obtain ⟨knob, spec, _, _, drains⟩ := @keys_delivered
    [.edge true, .edge true, .reach, .read, .reachReturns, .timer .ok, .timerReturns] (by decide) _ rfl
  obtain ⟨after, drained, _, _, _, whole⟩ := drains rfl rfl
  cases spec
  exact ⟨_, rfl, rfl, after, drained, whole [.right, .ok] rfl⟩

end KeyPipeline

end WatchFirmware.EncoderDriver
