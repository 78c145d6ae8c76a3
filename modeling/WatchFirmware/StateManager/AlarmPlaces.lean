import WatchFirmware.StateManager.AlarmSafety

set_option autoImplicit false

namespace WatchFirmware.StateManager.AlarmManager

/-- Where the alarm at a place comes to when the one at `position` leaves. -/
def erasedPlace (position place : Nat) : Option Nat :=
  if place = position then none else some (if position < place then place - 1 else place)

def insertPlace (kept : List Entry) (alarm : Alarm) : Nat :=
  (kept.rdropWhile fun other => decide (alarm.epoch < other.alarm.epoch)).length

def createdPlace (m : AlarmManager) (alarm : Alarm) (acquired : Bool) (place : Nat) : Option Nat :=
  if (m.alarmManagerCreateAlarm alarm acquired).1 then
    let full := m.alarms.length = maxWatchAlarms
    if full ∧ place = maxWatchAlarms - 1 then none
    else
      let kept := if full then m.alarms.take (maxWatchAlarms - 1) else m.alarms
      some (if place < insertPlace kept alarm then place else place + 1)
  else some place

def deletedPlace (m : AlarmManager) (index : Int) (acquired : Bool) (place : Nat) : Option Nat :=
  if (m.alarmManagerDeleteAlarm index acquired).1 then erasedPlace index.toNat place else some place

/-- Where the alarm at a place comes to, or that it leaves the list. -/
def moved (m : AlarmManager) (place : Nat) : Action → Option Nat
  | .create alarm acquired => m.createdPlace alarm acquired place
  | .delete index acquired => m.deletedPlace index acquired place
  | .editStep k acquired =>
      match m.edits[k]? with
      | some (.deleting index _ _) => m.deletedPlace index acquired place
      | some (.creating _ new) => m.createdPlace new acquired place
      | some (.rollback old) => m.createdPlace old acquired place
      | none => some place
  | .revalidate acquired =>
      if acquired then
        let expired := (m.alarms.takeWhile fun entry => entry.alarm.epoch ≤ m.getEpochTime + alarmBufferSec).length
        if place < expired then none else some (place - expired)
      else some place
  | .callback acquired => if acquired then erasedPlace 0 place else some place
  | _ => some place

def At (alarms : List Entry) (entry : Entry) : Option Nat → Prop
  | some place => alarms[place]? = some entry
  | none => entry ∉ alarms

theorem at_erased {alarms : List Entry} {entry : Entry} {place : Nat} (position : Nat) (nodup : alarms.Nodup)
    (there : alarms[place]? = some entry) : At (alarms.eraseIdx position) entry (erasedPlace position place) := by
  unfold erasedPlace
  split
  next same =>
    subst same
    intro still
    obtain ⟨other, away, again⟩ := List.mem_eraseIdx_iff_getElem?.mp still
    have inside := (List.getElem?_eq_some_iff.mp there).1
    exact away ((List.getElem?_inj inside nodup).mp (there.trans again.symm)).symm
  next away =>
    show (alarms.eraseIdx position)[_]? = some entry
    split
    next behind =>
      rw [List.getElem?_eraseIdx_of_ge (by omega), Nat.sub_add_cancel (by omega), there]
    next => rw [List.getElem?_eraseIdx_of_lt (by omega), there]

theorem at_inserted {kept : List Entry} {entry : Entry} {place id : Nat} (alarm : Alarm)
    (there : kept[place]? = some entry) :
    (insertEntry kept ⟨id, alarm⟩)[if place < insertPlace kept alarm then place else place + 1]? = some entry := by
  have shape : insertEntry kept ⟨id, alarm⟩ =
      (kept.rdropWhile fun other => decide (alarm.epoch < other.alarm.epoch)) ++
        ⟨id, alarm⟩ :: kept.rtakeWhile fun other => decide (alarm.epoch < other.alarm.epoch) := rfl
  rw [← @List.rdropWhile_append_rtakeWhile _ (fun other => decide (alarm.epoch < other.alarm.epoch)) kept] at there
  rw [shape, insertPlace]
  split
  next front =>
    rw [List.getElem?_append_left front] at there
    rw [List.getElem?_append_left front, there]
  next behind =>
    rw [List.getElem?_append_right (by omega)] at there
    rw [List.getElem?_append_right (by omega), Nat.sub_add_comm (by omega), List.getElem?_cons_succ, there]

theorem at_dropped {alarms : List Entry} {entry : Entry} {place : Nat} (expired : Entry → Bool)
    (nodup : alarms.Nodup) (there : alarms[place]? = some entry) :
    At (alarms.dropWhile expired) entry
      (if place < (alarms.takeWhile expired).length then none
        else some (place - (alarms.takeWhile expired).length)) := by
  rw [← @List.takeWhile_append_dropWhile _ expired alarms] at there nodup
  split
  next front =>
    rw [List.getElem?_append_left front] at there
    exact fun still => List.disjoint_of_nodup_append nodup (List.mem_of_getElem? there) still
  next behind =>
    rw [List.getElem?_append_right (Nat.le_of_not_lt behind)] at there
    exact there

theorem createAlarm_accepted {m : AlarmManager} {alarm : Alarm} {acquired : Bool}
    (created : (m.alarmManagerCreateAlarm alarm acquired).1 = true) :
    (m.alarmManagerCreateAlarm alarm acquired).2.alarms =
      insertEntry (if m.alarms.length = maxWatchAlarms then m.alarms.take (maxWatchAlarms - 1) else m.alarms)
        ⟨m.nextId, alarm⟩ := by
  unfold alarmManagerCreateAlarm at created ⊢
  cases acquired with
  | false => contradiction
  | true =>
      simp only [if_true] at created ⊢
      split at created
      next => contradiction
      next past =>
        split at created
        next => contradiction
        next far =>
          split at created
          next => contradiction
          next twice =>
            split at created
            next => contradiction
            next late =>
              simp only [if_neg past, if_neg far, if_neg twice, if_neg late]
              exact accept_alarms m alarm _

theorem createAlarm_refused {m : AlarmManager} {alarm : Alarm} {acquired : Bool}
    (refused : ¬(m.alarmManagerCreateAlarm alarm acquired).1 = true) :
    (m.alarmManagerCreateAlarm alarm acquired).2 = m := by
  obtain same | ⟨_, _, _, _, same⟩ := createAlarm_cases m alarm acquired
  next => rw [same]
  next =>
    rw [same] at refused
    contradiction

theorem at_created {m : AlarmManager} {entry : Entry} {place : Nat} (alarm : Alarm) (acquired : Bool)
    (tracked : m.Tracked) (there : m.alarms[place]? = some entry) :
    At (m.alarmManagerCreateAlarm alarm acquired).2.alarms entry (m.createdPlace alarm acquired place) := by
  have apart : (m.alarms.map Entry.id).Nodup := (List.nodup_append.mp tracked.1).2.1
  have nodup : m.alarms.Nodup := apart.of_map
  have old : entry.id < m.nextId :=
    tracked.2 _ (List.mem_append_right _ (List.mem_map_of_mem (List.mem_of_getElem? there)))
  unfold createdPlace
  split
  next created =>
    rw [createAlarm_accepted created]
    dsimp only
    by_cases full : m.alarms.length = maxWatchAlarms
    next =>
      have inside := (List.getElem?_eq_some_iff.mp there).1
      simp only [full, true_and, if_true]
      split
      next last =>
        -- the alarm was the last of a full list
        intro still
        obtain rfl | kept := List.mem_cons.mp ((insertEntry_perm _ _).mem_iff.mp still)
        next => exact absurd old (Nat.lt_irrefl _)
        next =>
          obtain ⟨other, again⟩ := List.mem_iff_getElem?.mp kept
          rw [List.getElem?_take] at again
          split at again
          next early =>
            have same := (List.getElem?_inj inside nodup).mp (there.trans again.symm)
            omega
          next => contradiction
      next =>
        apply at_inserted
        rw [List.getElem?_take_of_lt (by omega), there]
    next =>
      simp only [full, false_and, if_false]
      exact at_inserted alarm there
  next refused =>
    rw [createAlarm_refused refused]
    exact there

theorem at_deleted {m : AlarmManager} {entry : Entry} {place : Nat} (index : Int) (acquired : Bool)
    (tracked : m.Tracked) (there : m.alarms[place]? = some entry) :
    At (m.alarmManagerDeleteAlarm index acquired).2.alarms entry (m.deletedPlace index acquired place) := by
  have apart : (m.alarms.map Entry.id).Nodup := (List.nodup_append.mp tracked.1).2.1
  unfold deletedPlace
  obtain refused | ⟨_, position, rfl, _, removed⟩ := m.deleteAlarm_cases index acquired
  next =>
    rw [refused]
    exact there
  next =>
    rw [removed, erase_alarms]
    exact at_erased position apart.of_map there

/-- The alarm at a place is found where `moved` says, and nowhere where it says that it is gone. -/
theorem at_moved {m after : AlarmManager} {action : Action} {entry : Entry} {place : Nat} (tracked : m.Tracked)
    (taken : m.step action = some after) (there : m.alarms[place]? = some entry) :
    At after.alarms entry (m.moved place action) := by
  have apart : (m.alarms.map Entry.id).Nodup := (List.nodup_append.mp tracked.1).2.1
  have nodup : m.alarms.Nodup := apart.of_map
  cases action with
  | create alarm acquired =>
      cases taken
      exact at_created alarm acquired tracked there
  | delete index acquired =>
      cases taken
      exact at_deleted index acquired tracked there
  | edit index new acquired =>
      cases taken
      have same : (m.alarmManagerEditAlarm index new acquired).alarms = m.alarms := by
        unfold alarmManagerEditAlarm
        split
        next => split <;> rfl
        next => rfl
      show (m.alarmManagerEditAlarm index new acquired).alarms[place]? = some entry
      rw [same, there]
  | editStep k acquired =>
      simp only [step, editStep] at taken
      rw [moved]
      cases under : m.edits[k]? with
      | none => simp [under] at taken
      | some edit =>
          rw [under] at taken
          cases edit with
          | deleting index old new =>
              cases taken
              have kept := at_deleted index acquired tracked there
              dsimp only
              split <;> exact kept
          | creating old new =>
              cases taken
              have kept := at_created new acquired tracked there
              dsimp only
              split <;> exact kept
          | rollback old =>
              cases taken
              exact at_created old acquired tracked there
  | revalidate acquired =>
      cases taken
      cases acquired with
      | false => exact there
      | true =>
          rw [moved, revalidate_alarms]
          exact at_dropped _ nodup there
  | setTime epoch =>
      cases taken
      exact there
  | elapse us =>
      cases taken
      exact there
  | expire =>
      simp only [step] at taken
      split at taken
      next => contradiction
      next =>
        split at taken
        next =>
          cases taken
          exact there
        next => contradiction
  | callback acquired =>
      simp only [step, Option.ite_none_right_eq_some, Option.some.injEq] at taken
      obtain ⟨_, rfl⟩ := taken
      cases acquired with
      | false => exact there
      | true =>
          have popped : (m.alarmFiredCb true).alarms = m.alarms.eraseIdx 0 := by
            unfold alarmFiredCb
            cases list : m.alarms with
            | nil => rfl
            | cons head rest => simp
          rw [moved, popped]
          exact at_erased 0 nodup there

theorem nextId_mono {m after : AlarmManager} {action : Action} (taken : m.step action = some after) :
    m.nextId ≤ after.nextId := by
  cases effect_of_step taken with
  | created _ alarm kept edits =>
      show m.nextId ≤ (m.accept alarm kept).nextId
      rw [accept_nextId]
      exact Nat.le_succ _
  | deleted _ position edits =>
      show m.nextId ≤ (m.erase position).nextId
      rw [erase_nextId]
  | revalidated => rw [revalidate_nextId]
  | fired => rw [scheduleNext_nextId, popped]
  | timeSet =>
      cases taken
      exact Nat.le_refl _
  | refused | elapsed | expired | missed => exact Nat.le_refl _

/-- An alarm that has left does not come back: one that is created later is another. -/
theorem listed_before {m after : AlarmManager} {action : Action} {entry : Entry}
    (taken : m.step action = some after) (old : entry.id < m.nextId) (listed : entry ∈ after.alarms) :
    entry ∈ m.alarms := by
  cases effect_of_step taken with
  | created _ alarm kept edits creates admitted keeps =>
      have inserted : entry ∈ (m.accept alarm kept).alarms := listed
      rw [accept_alarms] at inserted
      obtain rfl | stays := List.mem_cons.mp ((insertEntry_perm _ _).mem_iff.mp inserted)
      next => exact absurd old (Nat.lt_irrefl _)
      next => exact keeps.sublist.subset stays
  | deleted _ position edits =>
      have erased : entry ∈ (m.erase position).alarms := listed
      rw [erase_alarms] at erased
      exact List.mem_of_mem_eraseIdx erased
  | revalidated =>
      rw [revalidate_alarms] at listed
      exact (List.dropWhile_sublist _).subset listed
  | fired head rest pending list =>
      rw [scheduleNext_alarms] at listed
      rw [list]
      exact List.mem_cons_of_mem head listed
  | timeSet =>
      cases taken
      exact listed
  | refused | elapsed | expired | missed => exact listed

theorem At.step {m after : AlarmManager} {action : Action} {entry : Entry} {place : Option Nat}
    (tracked : m.Tracked) (taken : m.step action = some after) (old : entry.id < m.nextId)
    (found : At m.alarms entry place) : At after.alarms entry (place.bind fun place => m.moved place action) := by
  cases place with
  | none => exact fun listed => found (listed_before taken old listed)
  | some place => exact at_moved tracked taken found

end WatchFirmware.StateManager.AlarmManager
