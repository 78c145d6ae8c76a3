import WatchFirmware.Shared.Memory
import WatchFirmware.StateManager.AlarmManager

set_option autoImplicit false

namespace WatchFirmware.StateManager

open Transition

/-- `alarm_sync_t`, the block in RTC memory. -/
structure AlarmSync where
  alarms : List Alarm
  nAlarms : Nat
  valid : Nat
  sized : alarms.length = maxWatchAlarms

namespace AlarmSync

/-- The alarms that count; the array behind them keeps what earlier ones left. -/
def list (block : AlarmSync) : List Alarm := block.alarms.take block.nAlarms

def zero : AlarmSync where
  alarms := List.replicate maxWatchAlarms ⟨0, .global, false⟩
  nAlarms := 0
  valid := 0
  sized := List.length_replicate

def overwrite (block : AlarmSync) (cells : List Alarm) (same : cells.length = block.alarms.length) :
    AlarmSync :=
  { block with alarms := cells, sized := same.trans block.sized }

-- Every access answers none where it would leave the array.
def memmove (block : AlarmSync) (target source count : Nat) : Option AlarmSync :=
  match moved : Memory.move block.alarms target source count with
  | none => none
  | some cells => some (block.overwrite cells (Memory.move_length moved))

def memcpy (block : AlarmSync) (cells : List Alarm) : Option AlarmSync :=
  match written : Memory.write block.alarms 0 cells with
  | none => none
  | some after => some (block.overwrite after (Memory.write_length written))

def store (block : AlarmSync) (index : Nat) (alarm : Alarm) : Option AlarmSync :=
  if index < block.alarms.length then
    some (block.overwrite (block.alarms.set index alarm) List.length_set)
  else none

/-- The loop that counts `valid_idx` up to the first alarm not expired. -/
def countExpired (alarms : List Alarm) (limit : UInt32) (validIdx : Nat) : Nat → Option Nat
  | 0 => some validIdx
  | left + 1 => do
      let alarm ← alarms[validIdx]?
      if alarm.epoch ≤ limit then countExpired alarms limit (validIdx + 1) left else some validIdx

def discardExpiredAlarms (block : AlarmSync) (now : UInt32) : Option AlarmSync :=
  if block.nAlarms = 0 then some block
  else
    (countExpired block.alarms (now + alarmBufferSec) 0 block.nAlarms).bind fun validIdx =>
      if validIdx = 0 then some block
      else
        let remaining := block.nAlarms - validIdx
        let moved := if 0 < remaining then block.memmove 0 validIdx remaining else some block
        moved.map fun moved => { moved with nAlarms := remaining }

/-- The loop that moves later alarms up, with `insert_idx + 1` for `insert_idx`. -/
def shiftLater (block : AlarmSync) (epoch : UInt32) : Nat → Option (Nat × AlarmSync)
  | 0 => some (0, block)
  | below + 1 => do
      let alarm ← block.alarms[below]?
      if epoch < alarm.epoch then shiftLater (← block.store (below + 1) alarm) epoch below
      else some (below + 1, block)

def insert (block : AlarmSync) (alarm : Alarm) (count : Nat) : Option AlarmSync :=
  (block.shiftLater alarm.epoch count).bind fun place =>
    (place.2.store place.1 alarm).map fun stored =>
      { stored with
        nAlarms := if stored.nAlarms < maxWatchAlarms then stored.nAlarms + 1 else stored.nAlarms }

/-- The loop that looks for an alarm of the same time. -/
def hasEpoch (alarms : List Alarm) (epoch : UInt32) (k : Nat) : Nat → Option Bool
  | 0 => some false
  | left + 1 => do
      let alarm ← alarms[k]?
      if alarm.epoch = epoch then some true else hasEpoch alarms epoch (k + 1) left

/-- What moves down when the alarm at `index` goes. -/
def remove (block : AlarmSync) (index : Nat) : Option AlarmSync :=
  let numToMove := block.nAlarms - 1 - index
  let moved := if 0 < numToMove then block.memmove index (index + 1) numToMove else some block
  moved.map fun moved => { moved with nAlarms := block.nAlarms - 1 }

/-- The check of `state_manager_init` on the block. -/
def sanitised (block : AlarmSync) : AlarmSync :=
  if block.valid ≠ 1 ∨ maxWatchAlarms < block.nAlarms then { zero with valid := 1 } else block

-- Without a valid time the whole state is wiped before the check.
def atInit (block : AlarmSync) (timeValid : Bool) : AlarmSync :=
  sanitised (if timeValid then block else zero)

end AlarmSync

-- The array only: what these functions do to the timer is in AlarmManager. attached says that
-- alarm_manager_init has set the pointer to the block and created the timer and the mutex.
structure AlarmStore where
  block : AlarmSync
  attached : Bool
  now : UInt32

namespace AlarmStore

def withBlock (s : AlarmStore) (block : AlarmSync) : AlarmStore := { s with block := block }

def createAlarm (s : AlarmStore) (alarm : Alarm) (acquired : Bool) : Option (Bool × AlarmStore) :=
  let refused := some (false, s)
  let inserted := fun count => (s.block.insert alarm count).map fun block => (true, s.withBlock block)
  if s.attached = false then refused
  else if maxWatchAlarms < s.block.nAlarms then none
  else if acquired = false then refused
  else if alarm.epoch ≤ s.now ∨ alarm.epoch - s.now ≤ alarmBufferSec then refused
  else if 31536000 < alarm.epoch - s.now then refused
  else
    (AlarmSync.hasEpoch s.block.alarms alarm.epoch 0 s.block.nAlarms).bind fun duplicate =>
      if duplicate then refused
      else if s.block.nAlarms = maxWatchAlarms then
        s.block.alarms[maxWatchAlarms - 1]?.bind fun last =>
          if last.epoch ≤ alarm.epoch then refused else inserted (maxWatchAlarms - 1)
      else inserted s.block.nAlarms

def deleteAlarm (s : AlarmStore) (index : Int) (acquired : Bool) : Option (Bool × AlarmStore) :=
  if s.attached = false ∨ acquired = false ∨ index < 0 ∨ s.block.nAlarms ≤ index then some (false, s)
  else (s.block.remove index.toNat).map fun block => (true, s.withBlock block)

/-- One lock for the look at the old alarm, and one for each call. -/
structure EditLocks where
  look : Bool
  delete : Bool
  create : Bool
  rollback : Bool
  deriving DecidableEq, Repr

def editAlarm (s : AlarmStore) (index : Int) (new : Alarm) (locks : EditLocks) :
    Option (Bool × AlarmStore) :=
  if s.attached = false ∨ locks.look = false ∨ index < 0 ∨ s.block.nAlarms ≤ index then some (false, s)
  else
    s.block.alarms[index.toNat]?.bind fun old =>
      (s.deleteAlarm index locks.delete).bind fun deleted =>
        if deleted.1 = false then some (false, deleted.2)
        else
          (deleted.2.createAlarm new locks.create).bind fun created =>
            if created.1 then some (true, created.2)
            else (created.2.createAlarm old locks.rollback).map fun restored => (false, restored.2)

def revalidate (s : AlarmStore) (acquired : Bool) : Option (Bool × AlarmStore) :=
  if s.attached = false ∨ acquired = false then some (false, s)
  else (s.block.discardExpiredAlarms s.now).map fun block => (true, s.withBlock block)

def alarmFiredCb (s : AlarmStore) (acquired : Bool) : Option AlarmStore :=
  if s.attached = false ∨ acquired = false ∨ s.block.nAlarms = 0 then some s
  else (s.block.remove 0).map s.withBlock

/-- The cells that `alarm_manager_get_all_alarms` copies out, as many as it answers. -/
def getAllAlarms (s : AlarmStore) (acquired : Bool) : Option (List Alarm) :=
  if s.attached = false ∨ acquired = false ∨ maxWatchAlarms < s.block.nAlarms then some []
  else Memory.read s.block.alarms 0 s.block.nAlarms

/-- `qsort` may leave alarms of one time in any order. -/
def Sorts (alarms sorted : List Alarm) : Prop :=
  sorted.Perm alarms ∧ sorted.Pairwise fun one other => one.epoch ≤ other.epoch

instance (alarms sorted : List Alarm) : Decidable (Sorts alarms sorted) :=
  inferInstanceAs (Decidable (_ ∧ _))

/-- `state_manager_init` up to the end of `alarm_manager_init`. -/
def init (s : AlarmStore) (timeValid : Bool) (sorted : List Alarm) : Option AlarmStore :=
  if Sorts (s.block.atInit timeValid).list sorted then
    ((s.block.atInit timeValid).memcpy sorted).bind fun block =>
      (block.discardExpiredAlarms s.now).map fun block => { s with block := block, attached := true }
  else none

inductive Action where
  | init (timeValid : Bool) (sorted : List Alarm)
  | deinit
  | create (alarm : Alarm) (acquired : Bool)
  | delete (index : Int) (acquired : Bool)
  | edit (index : Int) (new : Alarm) (locks : EditLocks)
  | revalidate (acquired : Bool)
  | fire (acquired : Bool)
  | time (now : UInt32)
  deriving DecidableEq, Repr

def step (s : AlarmStore) : Action → Option AlarmStore
  | .init timeValid sorted => s.init timeValid sorted
  | .deinit => some { s with attached := false }
  | .create alarm acquired => (s.createAlarm alarm acquired).map Prod.snd
  | .delete index acquired => (s.deleteAlarm index acquired).map Prod.snd
  | .edit index new locks => (s.editAlarm index new locks).map Prod.snd
  | .revalidate acquired => (s.revalidate acquired).map Prod.snd
  | .fire acquired => s.alarmFiredCb acquired
  | .time now => some { s with now := now }

/-- Power-up: whatever the RTC memory holds. -/
def Initial (rtc : AlarmSync) (s : AlarmStore) : Prop := s.block = rtc ∧ s.attached = false

end AlarmStore

end WatchFirmware.StateManager
