import WatchFirmware.IrBlaster.Symbols
import WatchFirmware.Shared.Custody
import WatchFirmware.Shared.Transition

set_option autoImplicit false

namespace WatchFirmware.IrBlaster

open Transition
open Ble (Byte)
open Custody (Block)

/-- An `ir_blaster_data_t` on its way. The pointer is the number of the block; the timings take no part. -/
structure Message where
  frequency : UInt32
  payloadLen : Byte
  payloadData : Option Block
  deriving DecidableEq, Repr

def poisonMsg : Message where
  frequency := 0xFFFFFFFF
  payloadLen := 0xFF
  payloadData := none

/-- Where a task is in `ir_blaster_driver_send_data`; its own test of the arguments is over. -/
inductive Send where
  | idle
  | initialized (data : Message)
  | irQueue (data : Message)
  | abortFlag (data : Message)
  | malloc (data : Message)
  | xQueueSend (data : Message) (payloadCopy : Block)
  | free (payloadCopy : Block)
  deriving DecidableEq, Repr

inductive IrTask where
  | abortFlag
  | xQueueReceive
  | sendData (msg : Message)
  | free (msg : Message)
  | xSemaphoreGive
  | ended
  | deleted
  deriving DecidableEq, Repr

/-- The next statement of `ir_blaster_driver_deinit`. -/
inductive Deinit where
  | notCalled
  | createSem
  | setAbort
  | sendPoison
  | takeSem
  | deleteTask
  | receiveLeftover
  | deleteQueue
  | clearQueue
  | deleteSem
  | returned
  deriving DecidableEq, Repr

def Deinit.place : Deinit → Nat
  | notCalled => 0
  | createSem => 1
  | setAbort => 2
  | sendPoison => 3
  | takeSem => 4
  | deleteTask => 5
  | receiveLeftover => 6
  | deleteQueue => 7
  | clearQueue => 8
  | deleteSem => 9
  | returned => 10

inductive IrFault where
  | queueGone
  | exitSemGone
  deriving DecidableEq, Repr

variable {Task : Type} [DecidableEq Task]

structure IrDriver (Task : Type) where
  initialized : Bool
  abortFlag : Bool
  -- whether the pointer is set, and what waits in the queue as long as it is there
  irQueue : Bool
  queue : Option (List Message)
  -- none before it is created and once it is deleted, else whether it was given
  exitSem : Option Bool
  irTask : IrTask
  deinit : Deinit
  sends : Task → Send
  allocated : Nat
  freed : List Block
  -- what the calls returned, each with the copy it made
  results : List (Option Block × Bool)

abbrev IrOutcome (Task : Type) := Except IrFault (IrDriver Task)

inductive IrAction (Task : Type) where
  | irBlasterDriverSendData (task : Task) (data : Option Message)
  -- malloc says whether the size is served
  | sendStep (task : Task) (malloc : Bool)
  | irTaskStep
  | irBlasterDriverDeinit
  | deinitStep
  | deinitTimeout

/-- What `ir_blaster_driver_init` leaves. -/
def started : IrDriver Task where
  initialized := true
  abortFlag := false
  irQueue := true
  queue := some []
  exitSem := none
  irTask := .abortFlag
  deinit := .notCalled
  sends _ := .idle
  allocated := 0
  freed := []
  results := []

namespace IrDriver

def goesOn (driver : IrDriver Task) (task : Task) (send : Send) : IrDriver Task :=
  { driver with sends := Function.update driver.sends task send }

def returns (driver : IrDriver Task) (task : Task) (payloadCopy : Option Block) (success : Bool) : IrDriver Task :=
  { driver with
    sends := Function.update driver.sends task .idle, results := driver.results ++ [(payloadCopy, success)] }

def irBlasterDriverSendData (driver : IrDriver Task) (task : Task) (data : Option Message) : IrDriver Task :=
  match data with
  | none => driver.returns task none false
  | some data =>
      if data.payloadData.isNone then driver.returns task none false
      else driver.goesOn task (.initialized data)

def sendStep (driver : IrDriver Task) (task : Task) (malloc : Bool) : Option (IrOutcome Task) :=
  match driver.sends task with
  | .idle => none
  | .initialized data =>
      some (.ok (if driver.initialized then driver.goesOn task (.irQueue data)
        else driver.returns task none false))
  | .irQueue data =>
      some (.ok (if driver.irQueue then driver.goesOn task (.abortFlag data)
        else driver.returns task none false))
  | .abortFlag data =>
      some (.ok (if driver.abortFlag then driver.returns task none false
        else driver.goesOn task (.malloc data)))
  | .malloc data =>
      some (.ok (if malloc then
          { driver with allocated := driver.allocated + 1 }.goesOn task (.xQueueSend data driver.allocated)
        else driver.returns task none false))
  | .xQueueSend data payloadCopy =>
      match driver.irQueue, driver.queue with
      | true, some waiting =>
          match BoundedQueue.send maxConcurrentIrMessages waiting { data with payloadData := some payloadCopy } with
          | some waiting =>
              some (.ok ({ driver with queue := some waiting }.returns task (some payloadCopy) true))
          | none => some (.ok (driver.goesOn task (.free payloadCopy)))
      | _, _ => some (.error .queueGone)
  | .free payloadCopy =>
      some (.ok ({ driver with freed := driver.freed ++ [payloadCopy] }.returns task (some payloadCopy) false))

-- A task that waits for a message takes no step.
def irTaskStep (driver : IrDriver Task) : Option (IrOutcome Task) :=
  match driver.irTask with
  | .abortFlag =>
      some (.ok { driver with irTask := if driver.abortFlag then .xSemaphoreGive else .xQueueReceive })
  | .xQueueReceive =>
      match driver.irQueue, driver.queue with
      | true, some [] => none
      | true, some (msg :: waiting) =>
          some (.ok { driver with
            queue := some waiting, irTask := if msg = poisonMsg then .xSemaphoreGive else .sendData msg })
      | _, _ => some (.error .queueGone)
  | .sendData msg => some (.ok { driver with irTask := .free msg })
  | .free msg =>
      some (.ok { driver with irTask := .abortFlag, freed := driver.freed ++ msg.payloadData.toList })
  | .xSemaphoreGive =>
      match driver.exitSem with
      | some _ => some (.ok { driver with irTask := .ended, exitSem := some true })
      | none => some (.error .exitSemGone)
  | .ended | .deleted => none

def irBlasterDriverDeinit (driver : IrDriver Task) : Option (IrOutcome Task) :=
  match driver.deinit with
  | .notCalled =>
      some (.ok (if driver.initialized then { driver with initialized := false, deinit := .createSem }
        else { driver with deinit := .returned }))
  | _ => none

-- In takeSem the wait goes on until the semaphore is given or the time is over.
def deinitStep (driver : IrDriver Task) : Option (IrOutcome Task) :=
  match driver.deinit with
  | .notCalled => none
  | .createSem => some (.ok { driver with exitSem := some false, deinit := .setAbort })
  | .setAbort => some (.ok { driver with abortFlag := true, deinit := .sendPoison })
  | .sendPoison =>
      match driver.queue with
      | some waiting =>
          some (.ok { driver with
            queue := some ((BoundedQueue.send maxConcurrentIrMessages waiting poisonMsg).getD waiting)
            deinit := .takeSem })
      | none => some (.error .queueGone)
  | .takeSem =>
      match driver.exitSem with
      | some true => some (.ok { driver with exitSem := some false, deinit := .receiveLeftover })
      | some false => none
      | none => some (.error .exitSemGone)
  | .deleteTask => some (.ok { driver with irTask := .deleted, deinit := .receiveLeftover })
  | .receiveLeftover =>
      match driver.queue with
      | some [] => some (.ok { driver with deinit := .deleteQueue })
      | some (leftover :: waiting) =>
          some (.ok { driver with
            queue := some waiting, freed := driver.freed ++ leftover.payloadData.toList })
      | none => some (.error .queueGone)
  | .deleteQueue => some (.ok { driver with queue := none, deinit := .clearQueue })
  | .clearQueue => some (.ok { driver with irQueue := false, deinit := .deleteSem })
  | .deleteSem => some (.ok { driver with exitSem := none, deinit := .returned })
  | .returned => none

def deinitTimeout (driver : IrDriver Task) : Option (IrOutcome Task) :=
  if driver.deinit = .takeSem ∧ driver.exitSem = some false then some (.ok { driver with deinit := .deleteTask })
  else none

end IrDriver

def irStep : Step (IrOutcome Task) (IrAction Task) := fun outcome action =>
  match outcome with
  | .error _ => none
  | .ok driver =>
      match action with
      | .irBlasterDriverSendData task data =>
          if driver.sends task = .idle then some (.ok (driver.irBlasterDriverSendData task data)) else none
      | .sendStep task malloc => driver.sendStep task malloc
      | .irTaskStep => driver.irTaskStep
      | .irBlasterDriverDeinit => driver.irBlasterDriverDeinit
      | .deinitStep => driver.deinitStep
      | .deinitTimeout => driver.deinitTimeout

end WatchFirmware.IrBlaster
