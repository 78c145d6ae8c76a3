import WatchFirmware.StateManager.AlarmManager

set_option autoImplicit false

namespace WatchFirmware.StateManager.AlarmManager

def Due (m : AlarmManager) (entry : Entry) : Prop := entry.alarm.epoch.toNat ≤ m.epochSeconds

instance (m : AlarmManager) (entry : Entry) : Decidable (m.Due entry) :=
  inferInstanceAs (Decidable (_ ≤ _))

structure SameClock (m after : AlarmManager) : Prop where
  mono : after.mono = m.mono
  wall : after.wall = m.wall
  timeValid : after.timeValid = m.timeValid

theorem SameClock.epochSeconds {m after : AlarmManager} (same : SameClock m after) :
    after.epochSeconds = m.epochSeconds := by
  simp only [AlarmManager.epochSeconds, same.timeValid, same.wall]

theorem SameClock.getEpochTime {m after : AlarmManager} (same : SameClock m after) :
    after.getEpochTime = m.getEpochTime := by
  simp only [AlarmManager.getEpochTime, same.epochSeconds]

theorem SameClock.due {m after : AlarmManager} (same : SameClock m after) (entry : Entry) :
    after.Due entry ↔ m.Due entry := by
  simp only [Due, same.epochSeconds]

inductive Retimed (m after : AlarmManager) : Prop where
  | untouched (front : after.alarms.head? = m.alarms.head?) (timer : after.timer = m.timer)
      (behind : after.behind = m.behind)
  | rearmed (head : Entry) (front : after.alarms.head? = some head)
      (timer : after.timer = some ⟨m.mono + timeoutUs m.getEpochTime head.alarm.epoch, head.id⟩)
      (behind : after.behind = !m.timeValid)
  | emptied (empty : after.alarms = [])

structure Relisted (m after : AlarmManager) : Prop extends SameClock m after where
  timing : Retimed m after

theorem relisted_self (m : AlarmManager) : Relisted m m := ⟨⟨rfl, rfl, rfl⟩, .untouched rfl rfl rfl⟩

theorem relisted_scheduled {m changed : AlarmManager} (same : SameClock m changed) :
    Relisted m changed.scheduleNextAlarmInternal := by
  unfold scheduleNextAlarmInternal
  cases list : changed.alarms with
  | nil => exact ⟨same, .emptied list⟩
  | cons head rest =>
      refine ⟨⟨same.mono, same.wall, same.timeValid⟩, .rearmed head rfl ?_ ?_⟩
      · simp only [same.mono, same.getEpochTime]
      · simp only [same.timeValid]

section Schedule

variable (m : AlarmManager)

@[simp] theorem scheduleNext_alarms : m.scheduleNextAlarmInternal.alarms = m.alarms := by
  unfold scheduleNextAlarmInternal
  cases list : m.alarms <;> simp [list]

@[simp] theorem scheduleNext_pending : m.scheduleNextAlarmInternal.pending = m.pending := by
  unfold scheduleNextAlarmInternal
  cases m.alarms <;> rfl

@[simp] theorem scheduleNext_published : m.scheduleNextAlarmInternal.published = m.published := by
  unfold scheduleNextAlarmInternal
  cases m.alarms <;> rfl

@[simp] theorem scheduleNext_nextId : m.scheduleNextAlarmInternal.nextId = m.nextId := by
  unfold scheduleNextAlarmInternal
  cases m.alarms <;> rfl

@[simp] theorem scheduleNext_edits : m.scheduleNextAlarmInternal.edits = m.edits := by
  unfold scheduleNextAlarmInternal
  cases m.alarms <;> rfl

end Schedule

theorem insertEntry_perm (alarms : List Entry) (entry : Entry) :
    (insertEntry alarms entry).Perm (entry :: alarms) := by
  refine List.perm_middle.trans (List.Perm.cons _ ?_)
  rw [List.rdropWhile_append_rtakeWhile]

theorem insertEntry_front (alarms : List Entry) (entry : Entry) :
    ((insertEntry alarms entry).head? = some entry ∧
        ∀ other ∈ alarms, entry.alarm.epoch < other.alarm.epoch) ∨
      (alarms ≠ [] ∧ (insertEntry alarms entry).head? = alarms.head?) := by
  -- a new alarm gets to the front only past alarms that are all later
  unfold insertEntry
  dsimp only
  cases dropped : alarms.rdropWhile fun other => decide (entry.alarm.epoch < other.alarm.epoch) with
  | nil =>
      refine .inl ⟨rfl, fun other listed => ?_⟩
      simpa using List.rdropWhile_eq_nil_iff.mp dropped other listed
  | cons first rest =>
      have leading := dropped ▸ List.rdropWhile_prefix _ (l := alarms)
      obtain ⟨tail, split⟩ := leading
      refine .inr ⟨?_, ?_⟩
      · rw [← split]
        simp
      · rw [← split]
        rfl

def Admits (m : AlarmManager) (alarm : Alarm) : Prop :=
  m.getEpochTime < alarm.epoch ∧ alarmBufferSec < alarm.epoch - m.getEpochTime ∧
    alarm.epoch - m.getEpochTime ≤ 31536000

instance (m : AlarmManager) (alarm : Alarm) : Decidable (m.Admits alarm) :=
  inferInstanceAs (Decidable (_ ∧ _))

inductive Keeps (m : AlarmManager) (alarm : Alarm) : List Entry → Prop where
  | all : Keeps m alarm m.alarms
  | evicting (kept : List Entry) (last : Entry) (list : m.alarms = kept ++ [last])
      (full : m.alarms.length = maxWatchAlarms) (later : alarm.epoch < last.alarm.epoch) :
      Keeps m alarm kept

theorem Keeps.sublist {m : AlarmManager} {alarm : Alarm} {kept : List Entry}
    (keeps : Keeps m alarm kept) : kept.Sublist m.alarms := by
  cases keeps with
  | all => exact List.Sublist.refl _
  | evicting _ last list => exact list ▸ List.sublist_append_left _ _

theorem Keeps.front {m : AlarmManager} {alarm : Alarm} {kept : List Entry}
    (keeps : Keeps m alarm kept) : kept.head? = m.alarms.head? := by
  cases keeps with
  | all => rfl
  | evicting _ last list full =>
      cases kept with
      | nil =>
          rw [list] at full
          simp [maxWatchAlarms] at full
      | cons head rest => rw [list]; rfl

def accept (m : AlarmManager) (alarm : Alarm) (kept : List Entry) : AlarmManager :=
  let entry : Entry := ⟨m.nextId, alarm⟩
  let inserted := { m with alarms := insertEntry kept entry, nextId := m.nextId + 1 }
  if inserted.alarms.head? = some entry then inserted.scheduleNextAlarmInternal else inserted

theorem createAlarm_cases (m : AlarmManager) (alarm : Alarm) (acquired : Bool) :
    m.alarmManagerCreateAlarm alarm acquired = (false, m) ∨
      (acquired = true ∧ Admits m alarm ∧ ∃ kept, Keeps m alarm kept ∧
        m.alarmManagerCreateAlarm alarm acquired = (true, m.accept alarm kept)) := by
  unfold alarmManagerCreateAlarm
  cases acquired with
  | false => exact .inl rfl
  | true =>
      simp only [if_true]
      split
      next => exact .inl rfl
      next future =>
        split
        next => exact .inl rfl
        next near =>
          split
          next => exact .inl rfl
          next =>
            split
            next => exact .inl rfl
            next evictable =>
              have admitted : Admits m alarm := by
                rw [not_or] at future
                exact ⟨UInt32.not_le.mp future.1, UInt32.not_le.mp future.2, UInt32.not_lt.mp near⟩
              refine .inr ⟨trivial, admitted, _, ?_, rfl⟩
              by_cases full : m.alarms.length = maxWatchAlarms
              next =>
                have within : maxWatchAlarms - 1 < m.alarms.length := by rw [full]; decide
                have last := List.getElem?_eq_getElem within
                have list : m.alarms = m.alarms.take (maxWatchAlarms - 1) ++
                    [m.alarms[maxWatchAlarms - 1]] := by
                  rw [List.take_append_getElem within, List.take_of_length_le (by rw [full]; decide)]
                rw [if_pos full]
                refine .evicting _ _ list full ?_
                simpa [full, last] using evictable
              next =>
                rw [if_neg full]
                exact .all

section Accept

variable (m : AlarmManager) (alarm : Alarm) (kept : List Entry)

@[simp] theorem accept_alarms :
    (m.accept alarm kept).alarms = insertEntry kept ⟨m.nextId, alarm⟩ := by
  unfold accept
  dsimp only
  split <;> simp

@[simp] theorem accept_pending : (m.accept alarm kept).pending = m.pending := by
  unfold accept
  dsimp only
  split <;> simp

@[simp] theorem accept_published : (m.accept alarm kept).published = m.published := by
  unfold accept
  dsimp only
  split <;> simp

@[simp] theorem accept_nextId : (m.accept alarm kept).nextId = m.nextId + 1 := by
  unfold accept
  dsimp only
  split <;> simp

end Accept

theorem accept_relisted {m : AlarmManager} {alarm : Alarm} {kept : List Entry}
    (keeps : Keeps m alarm kept) : Relisted m (m.accept alarm kept) := by
  unfold accept
  dsimp only
  split
  next => exact relisted_scheduled ⟨rfl, rfl, rfl⟩
  next behindHead =>
    refine ⟨⟨rfl, rfl, rfl⟩, .untouched ?_ rfl rfl⟩
    rcases insertEntry_front kept ⟨m.nextId, alarm⟩ with ⟨front, _⟩ | ⟨_, front⟩
    · exact absurd front behindHead
    · exact front.trans keeps.front

def erase (m : AlarmManager) (position : Nat) : AlarmManager :=
  let deleted := { m with alarms := m.alarms.eraseIdx position }
  if position = 0 then
    if deleted.alarms = [] then { deleted with timer := none } else deleted.scheduleNextAlarmInternal
  else deleted

theorem deleteAlarm_cases (m : AlarmManager) (index : Int) (acquired : Bool) :
    m.alarmManagerDeleteAlarm index acquired = (false, m) ∨
      (acquired = true ∧ ∃ position : Nat, index = position ∧ position < m.alarms.length ∧
        m.alarmManagerDeleteAlarm index acquired = (true, m.erase position)) := by
  unfold alarmManagerDeleteAlarm
  cases acquired with
  | false => exact .inl rfl
  | true =>
      simp only [if_true]
      split
      next => exact .inl rfl
      next valid =>
        rw [not_or] at valid
        obtain ⟨position, rfl⟩ := Int.eq_ofNat_of_zero_le (Int.not_lt.mp valid.1)
        refine .inr ⟨trivial, position, rfl, by omega, ?_⟩
        simp only [erase, Int.toNat_natCast]
        by_cases first : position = 0
        · simp [first]
        · simp [first]

section Erase

variable (m : AlarmManager) (position : Nat)

@[simp] theorem erase_alarms : (m.erase position).alarms = m.alarms.eraseIdx position := by
  unfold erase
  dsimp only
  split
  · split <;> simp
  · rfl

@[simp] theorem erase_pending : (m.erase position).pending = m.pending := by
  unfold erase
  dsimp only
  split
  · split <;> simp
  · rfl

@[simp] theorem erase_published : (m.erase position).published = m.published := by
  unfold erase
  dsimp only
  split
  · split <;> simp
  · rfl

@[simp] theorem erase_nextId : (m.erase position).nextId = m.nextId := by
  unfold erase
  dsimp only
  split
  · split <;> simp
  · rfl

end Erase

theorem erase_relisted (m : AlarmManager) (position : Nat) : Relisted m (m.erase position) := by
  unfold erase
  dsimp only
  split
  next =>
    split
    next empty => exact ⟨⟨rfl, rfl, rfl⟩, .emptied empty⟩
    next => exact relisted_scheduled ⟨rfl, rfl, rfl⟩
  next behindHead =>
    refine ⟨⟨rfl, rfl, rfl⟩, .untouched ?_ rfl rfl⟩
    obtain ⟨before, rfl⟩ := Nat.exists_eq_succ_of_ne_zero behindHead
    cases m.alarms with
    | nil => rfl
    | cons head rest => rfl

theorem revalidate_relisted (m : AlarmManager) (acquired : Bool) :
    Relisted m (m.alarmManagerRevalidate acquired).2 := by
  unfold alarmManagerRevalidate
  cases acquired with
  | false => exact relisted_self m
  | true =>
      simp only [if_true]
      split
      next empty => exact ⟨⟨rfl, rfl, rfl⟩, .emptied empty⟩
      next => exact relisted_scheduled ⟨rfl, rfl, rfl⟩

theorem revalidate_alarms (m : AlarmManager) :
    (m.alarmManagerRevalidate true).2.alarms =
      m.alarms.dropWhile fun entry => entry.alarm.epoch ≤ m.getEpochTime + alarmBufferSec := by
  unfold alarmManagerRevalidate
  simp only [if_true]
  split <;> simp [discardExpiredAlarms]

theorem revalidate_pending (m : AlarmManager) :
    (m.alarmManagerRevalidate true).2.pending = m.pending := by
  unfold alarmManagerRevalidate
  simp only [if_true]
  split <;> simp [discardExpiredAlarms]

theorem revalidate_published (m : AlarmManager) :
    (m.alarmManagerRevalidate true).2.published = m.published := by
  unfold alarmManagerRevalidate
  simp only [if_true]
  split <;> simp [discardExpiredAlarms]

theorem revalidate_nextId (m : AlarmManager) :
    (m.alarmManagerRevalidate true).2.nextId = m.nextId := by
  unfold alarmManagerRevalidate
  simp only [if_true]
  split <;> simp [discardExpiredAlarms]

end WatchFirmware.StateManager.AlarmManager
