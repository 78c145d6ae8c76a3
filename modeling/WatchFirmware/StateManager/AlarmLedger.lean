import WatchFirmware.StateManager.AlarmStep

set_option autoImplicit false

namespace WatchFirmware.StateManager.AlarmManager

open Transition

inductive Leaves (m after : AlarmManager) (entry : Entry) : Action → Prop where
  | deleted (action : Action) (position : Nat) (deletes : Deletes m action position)
      (listed : m.alarms[position]? = some entry) : Leaves m after entry action
  | evicted (action : Action) (alarm : Alarm) (creates : Creates m action alarm)
      (full : m.alarms.length = maxWatchAlarms) (last : m.alarms.getLast? = some entry)
      (earlier : alarm.epoch < entry.alarm.epoch) (listed : ⟨m.nextId, alarm⟩ ∈ after.alarms) :
      Leaves m after entry action
  | fired (front : m.alarms.head? = some entry)
      (published : after.published = m.published ++ [⟨entry, m.alarms, m.epochSeconds⟩]) :
      Leaves m after entry (.callback true)
  | discarded (soon : entry.alarm.epoch ≤ m.getEpochTime + alarmBufferSec) :
      Leaves m after entry (.revalidate true)

theorem leaves_of_step {m after : AlarmManager} {action : Action} {entry : Entry}
    (taken : m.step action = some after) (listed : entry ∈ m.alarms) (left : entry ∉ after.alarms) :
    Leaves m after entry action := by
  cases effect_of_step taken with
  | refused => exact absurd listed left
  | created _ alarm kept edits creates admitted keeps =>
      simp only [withEdits, accept_alarms, (insertEntry_perm _ _).mem_iff] at left
      cases keeps with
      | all => exact absurd (List.mem_cons_of_mem _ listed) left
      | evicting _ last list full later =>
          rw [list, List.mem_append, List.mem_singleton] at listed
          rcases listed with stayed | rfl
          · exact absurd (List.mem_cons_of_mem _ stayed) left
          · refine .evicted _ alarm creates full (by rw [list]; simp) later ?_
            simp only [withEdits, accept_alarms, (insertEntry_perm _ _).mem_iff]
            exact List.mem_cons_self
  | deleted _ position edits deletes within =>
      refine .deleted _ position deletes ?_
      obtain ⟨i, bound, rfl⟩ := List.getElem_of_mem listed
      have same : i = position := by
        by_contra other
        refine left ?_
        simp only [withEdits, erase_alarms]
        exact List.mem_eraseIdx_iff_getElem.mpr ⟨i, bound, other, rfl⟩
      rw [← same]
      exact List.getElem?_eq_getElem bound
  | revalidated =>
      refine .discarded ?_
      rw [revalidate_alarms] at left
      rw [← List.takeWhile_append_dropWhile (l := m.alarms)] at listed
      simpa using List.mem_takeWhile_imp ((List.mem_append.mp listed).resolve_right left)
  | timeSet =>
      cases taken
      exact absurd listed left
  | elapsed => exact absurd listed left
  | expired => exact absurd listed left
  | fired head rest pending list =>
      rw [scheduleNext_alarms] at left
      have isHead : entry = head := by
        rw [list] at listed
        exact (List.mem_cons.mp listed).resolve_right left
      refine .fired (by rw [list, isHead]; rfl) ?_
      rw [scheduleNext_published, isHead]
      rfl
  | missed => exact absurd listed left

def Wakes (m : AlarmManager) : Prop :=
  ∀ head, m.alarms.head? = some head →
    m.pending = true ∨ ∃ timer, m.timer = some timer ∧ timer.target = head.id

def CallbackAcquires (_ : AlarmManager) (action : Action) : Prop := action ≠ .callback false

instance (m : AlarmManager) (action : Action) : Decidable (m.CallbackAcquires action) :=
  inferInstanceAs (Decidable (_ ≠ _))

theorem Wakes.relisted {m after : AlarmManager} (wakes : m.Wakes) (relisted : Relisted m after)
    (pending : after.pending = m.pending) : after.Wakes := by
  intro head front
  rw [pending]
  cases relisted.timing with
  | untouched sameFront sameTimer =>
      rw [sameTimer]
      exact wakes head (sameFront ▸ front)
  | rearmed first isFirst newTimer =>
      rw [isFirst] at front
      cases front
      exact .inr ⟨_, newTimer, rfl⟩
  | emptied empty => simp [empty] at front

theorem wakes_scheduled (m : AlarmManager) : m.scheduleNextAlarmInternal.Wakes := by
  intro head front
  rw [scheduleNext_alarms] at front
  cases list : m.alarms with
  | nil => simp [list] at front
  | cons first rest =>
      rw [list] at front
      cases front
      simp only [scheduleNextAlarmInternal, list]
      exact .inr ⟨_, rfl, rfl⟩

theorem Wakes.step {m after : AlarmManager} {action : Action} (wakes : m.Wakes)
    (acquires : m.CallbackAcquires action) (taken : m.step action = some after) : after.Wakes := by
  cases effect_of_step taken with
  | refused => exact wakes
  | created _ alarm kept edits creates admitted keeps =>
      have accepted := wakes.relisted (accept_relisted keeps) (accept_pending m alarm kept)
      exact accepted
  | deleted _ position =>
      have erased := wakes.relisted (erase_relisted m position) (erase_pending m position)
      exact erased
  | revalidated => exact wakes.relisted (revalidate_relisted m true) (revalidate_pending m)
  | timeSet =>
      cases taken
      exact wakes
  | elapsed => exact wakes
  | expired => exact fun _ _ => .inl rfl
  | fired => exact wakes_scheduled _
  | missed acquired pending nothing =>
      cases acquired with
      | false => exact absurd rfl acquires
      | true =>
          intro head front
          simp [nothing rfl] at front

/-- No alarm leaves without a reason, and unless a callback misses the mutex the rest is served. -/
theorem no_alarm_lost (m : AlarmManager) :
    (∀ action after entry, m.step action = some after → entry ∈ m.alarms → entry ∉ after.alarms →
        Leaves m after entry action) ∧
      (Reach step Initial CallbackAcquires m → m.Wakes) := by
  refine ⟨fun _ _ _ taken listed left => leaves_of_step taken listed left, fun acquiring => ?_⟩
  refine acquiring.invariant ?_ fun _ _ _ wakes acquires taken => wakes.step acquires taken
  rintro _ ⟨rtc, mono, wall, timeValid, -, rfl⟩
  exact wakes_scheduled _

def fullRun : List Action :=
  [.create ⟨1000100, .watch, false⟩ true, .create ⟨1000050, .watch, false⟩ true,
    .create ⟨1000200, .global, true⟩ true, .create ⟨1000150, .watch, false⟩ false,
    .create ⟨1000150, .watch, false⟩ true, .create ⟨1000300, .watch, false⟩ true,
    .delete 0 true, .create ⟨1000060, .watch, false⟩ true]

theorem no_alarm_lost_full :
    ∃ m, m.alarms.map Entry.id = [5, 0, 3, 2, 4] ∧
      (∀ action after entry, m.step action = some after → entry ∈ m.alarms → entry ∉ after.alarms →
        Leaves m after entry action) ∧ m.Wakes := by
  have ran : ((run step booted fullRun).map fun m => m.alarms.map Entry.id) = some [5, 0, 3, 2, 4] := by
    decide +kernel
  obtain ⟨m, taken, listed⟩ := Option.map_eq_some_iff.mp ran
  have acquiring := (Reach.start booted_initial).of_run
    (by decide +kernel : Guarded step CallbackAcquires booted fullRun) taken
  obtain ⟨leaves, wakes⟩ := no_alarm_lost m
  exact ⟨m, listed, leaves, wakes acquiring⟩

/-- Three seconds before it is due, the alarm is within the buffer of a revalidation. -/
theorem alarm_discarded_early :
    ∃ m after entry, Reach step Initial Unguarded m ∧ m.step (.revalidate true) = some after ∧
      entry ∈ m.alarms ∧ entry ∉ after.alarms ∧ m.getEpochTime < entry.alarm.epoch := by
  let before : List Action := [.create ⟨1000010, .watch, false⟩ true, .elapse (7 * 10 ^ 6)]
  have ran : ((run step booted before).map fun m => (m.alarms, m.getEpochTime,
      (m.step (.revalidate true)).map AlarmManager.alarms)) =
      some ([⟨0, ⟨1000010, .watch, false⟩⟩], 1000007, some []) := by decide +kernel
  obtain ⟨m, taken, seen⟩ := Option.map_eq_some_iff.mp ran
  simp only [Prod.mk.injEq] at seen
  obtain ⟨alarms, now, discarded⟩ := seen
  obtain ⟨after, next, empty⟩ := Option.map_eq_some_iff.mp discarded
  refine ⟨m, after, ⟨0, ⟨1000010, .watch, false⟩⟩,
    (Reach.start booted_initial).of_run (guarded_unguarded _ _ _) taken, next, ?_, ?_, ?_⟩
  · rw [alarms]
    exact List.mem_singleton_self _
  · rw [empty]
    exact List.not_mem_nil
  · rw [now]
    decide

end WatchFirmware.StateManager.AlarmManager
