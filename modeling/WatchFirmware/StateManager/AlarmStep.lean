import WatchFirmware.StateManager.AlarmOperations

set_option autoImplicit false

namespace WatchFirmware.StateManager.AlarmManager

open Transition

inductive Creates (m : AlarmManager) : Action → Alarm → Prop where
  | create (alarm : Alarm) : Creates m (.create alarm true) alarm
  | creating (k : Nat) (old new : Alarm) (under : m.edits[k]? = some (.creating old new)) :
      Creates m (.editStep k true) new
  | rollback (k : Nat) (old : Alarm) (under : m.edits[k]? = some (.rollback old)) :
      Creates m (.editStep k true) old

inductive Deletes (m : AlarmManager) : Action → Nat → Prop where
  | delete (position : Nat) : Deletes m (.delete position true) position
  | deleting (k position : Nat) (old new : Alarm)
      (under : m.edits[k]? = some (.deleting position old new)) :
      Deletes m (.editStep k true) position

def withEdits (m : AlarmManager) (edits : List Edit) : AlarmManager := { m with edits := edits }

def popped (m : AlarmManager) (fired : Entry) (rest : List Entry) : AlarmManager :=
  { m with
    alarms := rest
    pending := false
    published := m.published ++ [⟨fired, m.alarms, m.epochSeconds⟩] }

inductive Effect (m : AlarmManager) : Action → AlarmManager → Prop where
  | refused (action : Action) (edits : List Edit) : Effect m action (m.withEdits edits)
  | created (action : Action) (alarm : Alarm) (kept : List Entry) (edits : List Edit)
      (creates : Creates m action alarm) (admitted : Admits m alarm) (keeps : Keeps m alarm kept) :
      Effect m action ((m.accept alarm kept).withEdits edits)
  | deleted (action : Action) (position : Nat) (edits : List Edit)
      (deletes : Deletes m action position) (within : position < m.alarms.length) :
      Effect m action ((m.erase position).withEdits edits)
  | revalidated : Effect m (.revalidate true) (m.alarmManagerRevalidate true).2
  | timeSet (epoch : UInt32) (after : AlarmManager) (taken : m.step (.setTime epoch) = some after) :
      Effect m (.setTime epoch) after
  | elapsed (us : Nat) : Effect m (.elapse us) { m with mono := m.mono + us, wall := m.wall + us }
  | expired (timer : Timer) (armed : m.timer = some timer) (reached : timer.deadline ≤ m.mono)
      (free : m.pending = false) : Effect m .expire { m with timer := none, pending := true }
  | fired (head : Entry) (rest : List Entry) (pending : m.pending = true)
      (list : m.alarms = head :: rest) :
      Effect m (.callback true) (m.popped head rest).scheduleNextAlarmInternal
  | missed (acquired : Bool) (pending : m.pending = true) (nothing : acquired = true → m.alarms = []) :
      Effect m (.callback acquired) { m with pending := false }

theorem effect_create (m : AlarmManager) (action : Action) (alarm : Alarm) (acquired : Bool)
    (edits : Bool × AlarmManager → List Edit) (creates : acquired = true → Creates m action alarm) :
    let result := m.alarmManagerCreateAlarm alarm acquired
    Effect m action (result.2.withEdits (edits result)) := by
  rcases createAlarm_cases m alarm acquired with same | ⟨got, admitted, kept, keeps, same⟩
  · simp only [same]
    exact .refused _ _
  · simp only [same]
    exact .created _ _ _ _ (creates got) admitted keeps

theorem effect_delete (m : AlarmManager) (action : Action) (index : Int) (acquired : Bool)
    (edits : Bool × AlarmManager → List Edit)
    (deletes : ∀ position : Nat, index = position → acquired = true → Deletes m action position) :
    let result := m.alarmManagerDeleteAlarm index acquired
    Effect m action (result.2.withEdits (edits result)) := by
  rcases deleteAlarm_cases m index acquired with same | ⟨got, position, at_, within, same⟩
  · simp only [same]
    exact .refused _ _
  · simp only [same]
    exact .deleted _ _ _ (deletes position at_ got) within

theorem effect_editStep {m after : AlarmManager} {k : Nat} {acquired : Bool}
    (taken : m.editStep k acquired = some after) : Effect m (.editStep k acquired) after := by
  unfold editStep at taken
  cases under : m.edits[k]? with
  | none => simp [under] at taken
  | some edit =>
      simp only [under] at taken
      cases edit with
      | deleting index old new =>
          have effect := effect_delete m (.editStep k acquired) index acquired
            (fun result => if result.1 then result.2.edits.set k (.creating old new)
              else result.2.edits.eraseIdx k)
            (by rintro position rfl rfl; exact .deleting k position old new under)
          cases taken
          dsimp only at effect ⊢
          split
          next deleted => simpa only [deleted, if_true, withEdits] using effect
          next kept => simpa only [kept, Bool.false_eq_true, if_false, withEdits] using effect
      | creating old new =>
          have effect := effect_create m (.editStep k acquired) new acquired
            (fun result => if result.1 then result.2.edits.eraseIdx k
              else result.2.edits.set k (.rollback old))
            (by rintro rfl; exact .creating k old new under)
          cases taken
          dsimp only at effect ⊢
          split
          next created => simpa only [created, if_true, withEdits] using effect
          next refused => simpa only [refused, Bool.false_eq_true, if_false, withEdits] using effect
      | rollback old =>
          cases taken
          exact effect_create m _ _ _ (fun result => result.2.edits.eraseIdx k)
            (by rintro rfl; exact .rollback k old under)

theorem effect_of_step {m after : AlarmManager} {action : Action}
    (taken : m.step action = some after) : Effect m action after := by
  cases action with
  | create alarm acquired =>
      cases taken
      exact effect_create m _ _ _ (fun result => result.2.edits) (by rintro rfl; exact .create alarm)
  | delete index acquired =>
      cases taken
      exact effect_delete m _ _ _ (fun result => result.2.edits)
        (by rintro position rfl rfl; exact .delete position)
  | edit index new acquired =>
      cases taken
      unfold alarmManagerEditAlarm
      split
      next =>
        cases m.alarms[index.toNat]? with
        | none => exact .refused _ m.edits
        | some old => exact .refused _ _
      next => exact .refused _ m.edits
  | editStep k acquired => exact effect_editStep taken
  | revalidate acquired =>
      cases taken
      cases acquired with
      | false => exact .refused _ m.edits
      | true => exact .revalidated
  | setTime epoch => exact .timeSet _ _ taken
  | elapse us =>
      cases taken
      exact .elapsed us
  | expire =>
      simp only [step] at taken
      cases armed : m.timer with
      | none => simp [armed] at taken
      | some timer =>
          simp only [armed, Option.ite_none_right_eq_some, Option.some.injEq] at taken
          obtain ⟨⟨reached, free⟩, rfl⟩ := taken
          exact .expired timer armed reached free
  | callback acquired =>
      simp only [step, Option.ite_none_right_eq_some, Option.some.injEq] at taken
      obtain ⟨pending, rfl⟩ := taken
      unfold alarmFiredCb
      cases acquired with
      | false => exact .missed false pending (by simp)
      | true =>
          cases list : m.alarms with
          | nil => simpa [list] using Effect.missed true pending fun _ => list
          | cons head rest => simpa [list, popped] using Effect.fired head rest pending list

def booted : AlarmManager := alarmManagerInit [] 0 (1000000 * 10 ^ 6) true

theorem booted_initial : Initial booted := ⟨[], 0, 1000000 * 10 ^ 6, true, by decide, rfl⟩

end WatchFirmware.StateManager.AlarmManager
