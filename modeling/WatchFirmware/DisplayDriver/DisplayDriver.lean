import WatchFirmware.Shared.Transition

set_option autoImplicit false

namespace WatchFirmware.DisplayDriver

open Transition

inductive DisplayState where
  | off
  | on
  | sleep
  deriving DecidableEq, Repr

structure Panel where
  outputOn : Bool
  asleep : Bool
  deriving DecidableEq, Repr

structure Display where
  displayState : DisplayState
  -- `panel_handle` is not NULL
  panelHandle : Bool
  panel : Panel
  deriving DecidableEq, Repr

namespace Display

-- display_fsm.c

def fsmUpdateDisplayState (d : Display) (nextState : DisplayState) : Display :=
  { d with displayState := nextState }

def fsmDisplayStateTransition (d : Display) (nextState : DisplayState) : Bool × Display :=
  if d.displayState = nextState then (false, d)
  else
    match nextState with
    | .off | .on => (true, d.fsmUpdateDisplayState nextState)
    | .sleep =>
        if d.displayState = .off then (false, d) else (true, d.fsmUpdateDisplayState nextState)

-- display_driver.c; `succeeds` is the answer of the panel operation of the call.

def espLcdPanelDispOnOff (d : Display) (onOff succeeds : Bool) : Bool × Display :=
  if succeeds then (true, { d with panel := { d.panel with outputOn := onOff } }) else (false, d)

def espLcdPanelDispSleep (d : Display) (sleep succeeds : Bool) : Bool × Display :=
  if succeeds then (true, { d with panel := { d.panel with asleep := sleep } }) else (false, d)

def rollback (rollbackState : DisplayState) (done : Bool × Display) : Bool × Display :=
  if done.1 then done else (false, (done.2.fsmDisplayStateTransition rollbackState).2)

def displaySleep (d : Display) (succeeds : Bool) : Bool × Display :=
  rollback d.displayState <|
    let moved := d.fsmDisplayStateTransition .sleep
    if moved.1 then
      if moved.2.panelHandle then moved.2.espLcdPanelDispSleep true succeeds else (false, moved.2)
    else (false, moved.2)

def displayWakeup (d : Display) (succeeds : Bool) : Bool × Display :=
  if d.panelHandle then d.espLcdPanelDispSleep false succeeds else (false, d)

def displayOn (d : Display) (succeeds : Bool) : Bool × Display :=
  rollback d.displayState <|
    match d.displayState with
    | .sleep =>
        let moved := d.fsmDisplayStateTransition .on
        if moved.1 then moved.2.displayWakeup succeeds else (true, moved.2)
    | .off =>
        let moved := d.fsmDisplayStateTransition .on
        if moved.1 then
          if moved.2.panelHandle then moved.2.espLcdPanelDispOnOff true succeeds else (false, moved.2)
        else (true, moved.2)
    | .on => (false, d)

def displayOff (d : Display) (succeeds : Bool) : Bool × Display :=
  rollback d.displayState <|
    let moved := d.fsmDisplayStateTransition .off
    if moved.1 then
      if moved.2.panelHandle then moved.2.espLcdPanelDispOnOff false succeeds else (false, moved.2)
    else (false, moved.2)

inductive Call where
  | displayOn
  | displayOff
  | displaySleep
  deriving DecidableEq, Repr

def call (d : Display) (request : Call) (succeeds : Bool) : Bool × Display :=
  match request with
  | .displayOn => d.displayOn succeeds
  | .displayOff => d.displayOff succeeds
  | .displaySleep => d.displaySleep succeeds

def step : Step Display (Call × Bool) := fun d request => some (d.call request.1 request.2).2

/-- The state `init_display` leaves. -/
def Initial (d : Display) : Prop := d.displayState = .off ∧ d.panel = ⟨false, false⟩

end Display

end WatchFirmware.DisplayDriver
