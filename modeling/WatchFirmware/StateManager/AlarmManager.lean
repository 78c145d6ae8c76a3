import WatchFirmware.Shared.Transition

set_option autoImplicit false

namespace WatchFirmware.StateManager

inductive AlarmType where
  | global
  | watch
  | invalid
  deriving DecidableEq, Repr

structure Alarm where
  epoch : UInt32
  type : AlarmType
  syncWithPhone : Bool
  deriving DecidableEq, Repr

abbrev maxWatchAlarms : Nat := 5
abbrev alarmBufferSec : UInt32 := 5

/-- An alarm of the list; the id tells alarms that were accepted at different times apart. -/
structure Entry where
  id : Nat
  alarm : Alarm
  deriving DecidableEq, Repr

structure Timer where
  deadline : Nat
  target : Nat
  deriving DecidableEq, Repr

/-- An `alarm_manager_edit_alarm` call between two of its locked sections. -/
inductive Edit where
  | deleting (index : Int) (old new : Alarm)
  | creating (old new : Alarm)
  | rollback (old : Alarm)
  deriving DecidableEq, Repr

/-- `EVENT_ALARM_TRIGGERED` as it was published: the alarm, the list it came from, the time. -/
structure Publication where
  entry : Entry
  listed : List Entry
  now : Nat
  deriving DecidableEq, Repr

-- mono and wall are esp_timer_get_time() and the system clock in microseconds. nextId, published
-- and behind are bookkeeping: behind says that the clock was set back, or not valid, since the
-- timer was armed.
structure AlarmManager where
  alarms : List Entry
  timer : Option Timer
  pending : Bool
  edits : List Edit
  mono : Nat
  wall : Nat
  timeValid : Bool
  nextId : Nat
  published : List Publication
  behind : Bool
  deriving DecidableEq, Repr

namespace AlarmManager

def epochSeconds (m : AlarmManager) : Nat := if m.timeValid then m.wall / 10 ^ 6 else 0

def getEpochTime (m : AlarmManager) : UInt32 := UInt32.ofNat m.epochSeconds

def discardExpiredAlarms (m : AlarmManager) (now : UInt32) : AlarmManager :=
  { m with alarms := m.alarms.dropWhile fun entry => entry.alarm.epoch ≤ now + alarmBufferSec }

def timeoutUs (now target : UInt32) : Nat :=
  if now + alarmBufferSec < target then (target - now).toNat * 10 ^ 6 else 5 * 10 ^ 6

def scheduleNextAlarmInternal (m : AlarmManager) : AlarmManager :=
  match m.alarms with
  | [] => m
  | head :: _ =>
      { m with
        timer := some ⟨m.mono + timeoutUs m.getEpochTime head.alarm.epoch, head.id⟩
        behind := !m.timeValid }

-- Every public function first tries the mutex for 100 ms; acquired says whether it got it.
def alarmManagerRevalidate (m : AlarmManager) (acquired : Bool) : Bool × AlarmManager :=
  if acquired then
    let kept := m.discardExpiredAlarms m.getEpochTime
    (true, if kept.alarms = [] then { kept with timer := none } else kept.scheduleNextAlarmInternal)
  else (false, m)

def insertEntry (alarms : List Entry) (entry : Entry) : List Entry :=
  let later := fun other : Entry => decide (entry.alarm.epoch < other.alarm.epoch)
  alarms.rdropWhile later ++ entry :: alarms.rtakeWhile later

def alarmManagerCreateAlarm (m : AlarmManager) (alarm : Alarm) (acquired : Bool) : Bool × AlarmManager :=
  if acquired then
    let now := m.getEpochTime
    if alarm.epoch ≤ now ∨ alarm.epoch - now ≤ alarmBufferSec then (false, m)
    else if 31536000 < alarm.epoch - now then (false, m)
    else if m.alarms.any fun other => other.alarm.epoch = alarm.epoch then (false, m)
    else
      let full := m.alarms.length = maxWatchAlarms
      if full ∧ (m.alarms[maxWatchAlarms - 1]?).any fun last => last.alarm.epoch ≤ alarm.epoch then
        (false, m)
      else
        -- A full list gives up its last alarm.
        let kept := if full then m.alarms.take (maxWatchAlarms - 1) else m.alarms
        let entry : Entry := ⟨m.nextId, alarm⟩
        let inserted := { m with alarms := insertEntry kept entry, nextId := m.nextId + 1 }
        (true, if inserted.alarms.head? = some entry then inserted.scheduleNextAlarmInternal else inserted)
  else (false, m)

def alarmManagerDeleteAlarm (m : AlarmManager) (index : Int) (acquired : Bool) : Bool × AlarmManager :=
  if acquired then
    if index < 0 ∨ m.alarms.length ≤ index then (false, m)
    else
      let deleted := { m with alarms := m.alarms.eraseIdx index.toNat }
      if index = 0 then
        (true,
          if deleted.alarms = [] then { deleted with timer := none }
          else deleted.scheduleNextAlarmInternal)
      else (true, deleted)
  else (false, m)

/-- The first locked section: only the old alarm is read. -/
def alarmManagerEditAlarm (m : AlarmManager) (index : Int) (new : Alarm) (acquired : Bool) : AlarmManager :=
  if acquired ∧ 0 ≤ index then
    match m.alarms[index.toNat]? with
    | none => m
    | some old => { m with edits := m.edits ++ [.deleting index old.alarm new] }
  else m

/-- The next locked section of the `k`-th edit under way. -/
def editStep (m : AlarmManager) (k : Nat) (acquired : Bool) : Option AlarmManager :=
  match m.edits[k]? with
  | none => none
  | some (.deleting index old new) =>
      let (deleted, after) := m.alarmManagerDeleteAlarm index acquired
      some (if deleted then { after with edits := after.edits.set k (.creating old new) }
        else { after with edits := after.edits.eraseIdx k })
  | some (.creating old new) =>
      let (created, after) := m.alarmManagerCreateAlarm new acquired
      some (if created then { after with edits := after.edits.eraseIdx k }
        else { after with edits := after.edits.set k (.rollback old) })
  | some (.rollback old) =>
      let (_, after) := m.alarmManagerCreateAlarm old acquired
      some { after with edits := after.edits.eraseIdx k }

def alarmFiredCb (m : AlarmManager) (acquired : Bool) : AlarmManager :=
  let done := { m with pending := false }
  if acquired then
    match m.alarms with
    | [] => done
    | fired :: rest =>
        let publication : Publication := ⟨fired, m.alarms, m.epochSeconds⟩
        let popped := { done with alarms := rest, published := m.published ++ [publication] }
        popped.scheduleNextAlarmInternal
  else done

inductive Action where
  | create (alarm : Alarm) (acquired : Bool)
  | delete (index : Int) (acquired : Bool)
  | edit (index : Int) (new : Alarm) (acquired : Bool)
  | editStep (k : Nat) (acquired : Bool)
  | revalidate (acquired : Bool)
  | setTime (epoch : UInt32)
  | elapse (us : Nat)
  | expire
  | callback (acquired : Bool)
  deriving DecidableEq, Repr

-- The timer task runs one callback at a time, so nothing expires while one is pending.
def step (m : AlarmManager) : Action → Option AlarmManager
  | .create alarm acquired => some (m.alarmManagerCreateAlarm alarm acquired).2
  | .delete index acquired => some (m.alarmManagerDeleteAlarm index acquired).2
  | .edit index new acquired => some (m.alarmManagerEditAlarm index new acquired)
  | .editStep k acquired => m.editStep k acquired
  | .revalidate acquired => some (m.alarmManagerRevalidate acquired).2
  | .setTime epoch =>
      let wall := epoch.toNat * 10 ^ 6
      some { m with wall := wall, timeValid := true, behind := m.behind || decide (wall < m.wall) }
  | .elapse us => some { m with mono := m.mono + us, wall := m.wall + us }
  | .expire =>
      match m.timer with
      | none => none
      | some timer =>
          if timer.deadline ≤ m.mono ∧ m.pending = false then
            some { m with timer := none, pending := true }
          else none
  | .callback acquired => if m.pending then some (m.alarmFiredCb acquired) else none

/-- `rtc` is the alarm block kept in RTC memory, which `state_manager_init` has checked. -/
def alarmManagerInit (rtc : List Alarm) (mono wall : Nat) (timeValid : Bool) : AlarmManager :=
  let entries := rtc.zipIdx.map fun (alarm, id) => Entry.mk id alarm
  let sorted := entries.mergeSort fun one other => one.alarm.epoch ≤ other.alarm.epoch
  let fresh : AlarmManager := ⟨sorted, none, false, [], mono, wall, timeValid, rtc.length, [], false⟩
  (fresh.discardExpiredAlarms fresh.getEpochTime).scheduleNextAlarmInternal

def Initial (m : AlarmManager) : Prop :=
  ∃ rtc mono wall timeValid, rtc.length ≤ maxWatchAlarms ∧ m = alarmManagerInit rtc mono wall timeValid

end AlarmManager

end WatchFirmware.StateManager
