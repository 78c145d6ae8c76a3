import WatchFirmware.EncoderDriver.Button
import WatchFirmware.Shared.BoundedQueue
import WatchFirmware.Shared.Transition

set_option autoImplicit false

namespace WatchFirmware.EncoderDriver

open Transition

abbrev maxInputs : Nat := 10

-- The watch points at which the pulse counter calls `pcnt_on_reach_cb`.
abbrev watchPoint : Int := 2

inductive InputKeyState where
  | pressed
  | released
  deriving DecidableEq, Repr

structure EncoderInput where
  key : InputKey
  state : InputKeyState
  deriving DecidableEq, Repr

inductive LvKey where
  | enter
  | esc
  | left
  | right
  deriving DecidableEq, Repr

structure KeyPipeline where
  count : Int
  -- the watch point whose interrupt is pending
  reached : Option Int
  -- the keys whose release register_input has not sent yet: in the interrupt and in the timer task
  inIsr : Option InputKey
  inTimer : Option InputKey
  inputQueue : List EncoderInput
  -- 0 is none
  lastKey : Option LvKey
  lastInputState : InputKeyState
  -- the state that LVGL read last, and the keys that it has acted on
  indevState : InputKeyState
  handled : List LvKey
  deriving DecidableEq, Repr

inductive KeyAction where
  | edge (forward : Bool)
  | reach
  | reachReturns
  | timer (key : InputKey)
  | timerReturns
  | read
  deriving DecidableEq, Repr

def InputKey.lvKey : InputKey → LvKey
  | .ok => .enter
  | .esc => .esc
  | .left => .left
  | .right => .right

namespace KeyPipeline

def start : KeyPipeline := ⟨0, none, none, none, [], none, .released, .released, []⟩

-- The answer is not looked at.
def queueSend (k : KeyPipeline) (input : EncoderInput) : KeyPipeline :=
  { k with inputQueue := (BoundedQueue.send maxInputs k.inputQueue input).getD k.inputQueue }

def pulse (k : KeyPipeline) (forward : Bool) : KeyPipeline :=
  let count := if forward then k.count + 1 else k.count - 1
  { k with
    count := count
    reached := if k.reached.isNone ∧ (count = watchPoint ∨ count = -watchPoint) then some count else k.reached }

/-- `pcnt_on_reach_cb` until `register_input` has sent the press. -/
def pcntOnReachCb (k : KeyPipeline) (watchPointValue : Int) : KeyPipeline :=
  let key := if 0 < watchPointValue then InputKey.right else InputKey.left
  { k.queueSend ⟨key, .pressed⟩ with reached := none, inIsr := some key }

/-- The rest of it, with `pcnt_unit_clear_count`. -/
def pcntOnReachReturns (k : KeyPipeline) (key : InputKey) : KeyPipeline :=
  { k.queueSend ⟨key, .released⟩ with inIsr := none, count := 0 }

def keypadReadCallback (k : KeyPipeline) : (Option LvKey × InputKeyState) × KeyPipeline :=
  match k.inputQueue with
  | [] => ((k.lastKey, k.lastInputState), k)
  | received :: rest =>
      ((some received.key.lvKey, received.state),
        { k with inputQueue := rest, lastKey := some received.key.lvKey, lastInputState := received.state })

/-- LVGL acts on a key when its state turns to pressed. -/
def indevRead (k : KeyPipeline) : KeyPipeline :=
  let (data, k) := k.keypadReadCallback
  { k with
    indevState := data.2
    handled :=
      if k.indevState = .released ∧ data.2 = .pressed then k.handled ++ data.1.toList else k.handled }

def step : Step KeyPipeline KeyAction := fun k action =>
  match action with
  | .edge forward => some (k.pulse forward)
  | .reach => if k.inIsr.isNone then k.reached.map k.pcntOnReachCb else none
  | .reachReturns => k.inIsr.map k.pcntOnReachReturns
  | .timer key =>
      if k.inTimer.isNone then some { k.queueSend ⟨key, .pressed⟩ with inTimer := some key } else none
  | .timerReturns => k.inTimer.map fun key => { k.queueSend ⟨key, .released⟩ with inTimer := none }
  | .read => some k.indevRead

end KeyPipeline

end WatchFirmware.EncoderDriver
