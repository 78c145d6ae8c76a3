import WatchFirmware.StateManager.AlarmBlock

set_option autoImplicit false

namespace WatchFirmware.StateManager

open Transition

def Alarm.NotLater (one other : Alarm) : Prop := one.epoch ≤ other.epoch

instance (one other : Alarm) : Decidable (one.NotLater other) := inferInstanceAs (Decidable (_ ≤ _))

instance : Std.Total Alarm.NotLater := ⟨fun one other => UInt32.le_total one.epoch other.epoch⟩

instance : IsTrans Alarm Alarm.NotLater := ⟨fun _ _ _ => UInt32.le_trans⟩

def Ascending (alarms : List Alarm) : Prop := alarms.Pairwise Alarm.NotLater

def Distinct (alarms : List Alarm) : Prop := (alarms.map Alarm.epoch).Nodup

def insertAlarm (alarms : List Alarm) (alarm : Alarm) : List Alarm :=
  let later := fun other : Alarm => decide (alarm.epoch < other.epoch)
  alarms.rdropWhile later ++ alarm :: alarms.rtakeWhile later

theorem insertAlarm_concat_later {alarms : List Alarm} {alarm last : Alarm}
    (later : alarm.epoch < last.epoch) :
    insertAlarm (alarms ++ [last]) alarm = insertAlarm alarms alarm ++ [last] := by
  simp [insertAlarm, later]

theorem insertAlarm_concat_earlier {alarms : List Alarm} {alarm last : Alarm}
    (earlier : ¬ alarm.epoch < last.epoch) :
    insertAlarm (alarms ++ [last]) alarm = alarms ++ [last, alarm] := by
  simp [insertAlarm, earlier]

theorem insertAlarm_length (alarms : List Alarm) (alarm : Alarm) :
    (insertAlarm alarms alarm).length = alarms.length + 1 := by
  rw [insertAlarm, List.length_append, List.length_cons, ← Nat.add_assoc, ← List.length_append,
    List.rdropWhile_append_rtakeWhile]

theorem orderedInsert_concat_later {alarms : List Alarm} {alarm last : Alarm}
    (later : alarm.epoch < last.epoch) :
    (alarms ++ [last]).orderedInsert Alarm.NotLater alarm =
      alarms.orderedInsert Alarm.NotLater alarm ++ [last] := by
  induction alarms with
  | nil =>
      have notLater : alarm.NotLater last := UInt32.le_of_lt later
      simp [notLater]
  | cons head rest ih =>
      by_cases first : alarm.NotLater head
      · simp [first]
      · simp [first, ih]

theorem orderedInsert_concat_last {alarms : List Alarm} {alarm : Alarm}
    (earlier : ∀ other ∈ alarms, other.epoch < alarm.epoch) :
    alarms.orderedInsert Alarm.NotLater alarm = alarms ++ [alarm] := by
  induction alarms with
  | nil => rfl
  | cons head rest ih =>
      have before : ¬ alarm.NotLater head := UInt32.not_le.mpr (earlier head List.mem_cons_self)
      have tail := ih fun other inside => earlier other (List.mem_cons_of_mem _ inside)
      simp [before, tail]

/-- In an ascending list without the alarm's time the loop finds the place of a sorted insertion. -/
theorem insertAlarm_ordered {alarms : List Alarm} {alarm : Alarm} (ascending : Ascending alarms)
    (fresh : ∀ other ∈ alarms, other.epoch ≠ alarm.epoch) :
    insertAlarm alarms alarm = alarms.orderedInsert Alarm.NotLater alarm := by
  induction alarms using List.reverseRecOn with
  | nil => rfl
  | append_singleton front last ih =>
      obtain ⟨frontAscending, _, across⟩ := List.pairwise_append.mp ascending
      by_cases later : alarm.epoch < last.epoch
      next =>
        rw [insertAlarm_concat_later later, orderedInsert_concat_later later]
        rw [ih frontAscending fun other inside => fresh other (List.mem_append_left _ inside)]
      next =>
        have before : ∀ other ∈ front ++ [last], other.epoch < alarm.epoch := by
          intro other inside
          have notAfter : other.epoch ≤ last.epoch := by
            rcases List.mem_append.mp inside with inFront | isLast
            · exact across other inFront last (List.mem_singleton_self _)
            · rw [List.mem_singleton.mp isLast]
              exact UInt32.le_refl _
          have reaches : other.epoch ≤ alarm.epoch := UInt32.le_trans notAfter (UInt32.not_lt.mp later)
          exact UInt32.lt_of_le_of_ne reaches (fresh other inside)
        rw [insertAlarm_concat_earlier later, orderedInsert_concat_last before]
        simp

namespace AlarmSync

variable {block : AlarmSync}

theorem list_length (bounded : block.nAlarms ≤ maxWatchAlarms) : block.list.length = block.nAlarms := by
  rw [list, List.length_take, block.sized]
  exact Nat.min_eq_left bounded

theorem memmove_down (block : AlarmSync) {target source count : Nat} (inside : source + count ≤ maxWatchAlarms)
    (down : target ≤ source) :
    ∃ after, block.memmove target source count = some after ∧ after.nAlarms = block.nAlarms ∧
      after.valid = block.valid ∧ after.alarms = block.alarms.take target ++
        (block.alarms.drop source).take count ++ block.alarms.drop (target + count) := by
  have moved : Memory.move block.alarms target source count = _ :=
    Memory.move_inside (by rw [block.sized]; exact inside) (by rw [block.sized]; omega)
  unfold memmove
  split
  next none => simp [none] at moved
  next cells found =>
    rw [found] at moved
    exact ⟨_, rfl, rfl, rfl, Option.some.inj moved⟩

theorem memcpy_list (block : AlarmSync) {cells : List Alarm} (inside : cells.length ≤ maxWatchAlarms) :
    ∃ after, block.memcpy cells = some after ∧ after.nAlarms = block.nAlarms ∧
      after.valid = block.valid ∧ after.alarms.take cells.length = cells := by
  have written : Memory.write block.alarms 0 cells = _ :=
    Memory.write_inside (by rw [block.sized, Nat.zero_add]; exact inside)
  unfold memcpy
  split
  next none => simp [none] at written
  next after found =>
    rw [found] at written
    have taken : after.take cells.length = cells := by simpa using Memory.write_take found
    exact ⟨_, rfl, rfl, rfl, taken⟩

theorem countExpired_spec (alarms : List Alarm) (limit : UInt32) (left start : Nat)
    (inside : start + left ≤ alarms.length) :
    countExpired alarms limit start left =
      some (start + (((alarms.drop start).take left).takeWhile fun alarm => alarm.epoch ≤ limit).length) := by
  induction left generalizing start with
  | zero => simp [countExpired]
  | succ left ih =>
      have here : start < alarms.length := by omega
      rw [List.drop_eq_getElem_cons here, List.take_succ_cons]
      by_cases expired : alarms[start].epoch ≤ limit
      · simp only [countExpired, List.getElem?_eq_getElem here, expired, if_true, Option.bind_eq_bind,
          Option.bind_some]
        rw [ih (start + 1) (by omega)]
        simp [expired]
        omega
      · simp [countExpired, List.getElem?_eq_getElem here, expired]

theorem discardExpiredAlarms_spec (bounded : block.nAlarms ≤ maxWatchAlarms) (now : UInt32) :
    ∃ after, block.discardExpiredAlarms now = some after ∧ after.nAlarms ≤ block.nAlarms ∧
      after.valid = block.valid ∧
      after.list = block.list.dropWhile fun alarm => alarm.epoch ≤ now + alarmBufferSec := by
  let expired := fun alarm : Alarm => decide (alarm.epoch ≤ now + alarmBufferSec)
  have length := list_length bounded
  have split := List.takeWhile_append_dropWhile (p := expired) (l := block.list)
  have dropped : block.list.drop (block.list.takeWhile expired).length = block.list.dropWhile expired := by
    have cut : (block.list.takeWhile expired ++ block.list.dropWhile expired).drop
        (block.list.takeWhile expired).length = block.list.dropWhile expired := List.drop_left
    rwa [split] at cut
  have counted : countExpired block.alarms (now + alarmBufferSec) 0 block.nAlarms =
      some (block.list.takeWhile expired).length := by
    rw [countExpired_spec _ _ _ _ (by rw [block.sized, Nat.zero_add]; exact bounded)]
    simp [list, expired]
  unfold discardExpiredAlarms
  split
  next empty =>
    have nothing : block.list = [] := List.eq_nil_of_length_eq_zero (by omega)
    exact ⟨block, rfl, Nat.le_refl _, rfl, by rw [nothing]; rfl⟩
  next =>
    rw [counted, Option.bind_some]
    generalize counts : (block.list.takeWhile expired).length = validIdx at dropped
    have validIdx_le : validIdx ≤ block.nAlarms := by
      rw [← counts, ← length]
      exact (List.takeWhile_sublist _).length_le
    split
    next none =>
      refine ⟨block, rfl, Nat.le_refl _, rfl, ?_⟩
      rw [none] at dropped
      exact dropped
    next =>
      by_cases left : 0 < block.nAlarms - validIdx
      next =>
        have inside : validIdx + (block.nAlarms - validIdx) ≤ maxWatchAlarms := by omega
        obtain ⟨moved, isMoved, _, valid, cells⟩ := memmove_down block inside (Nat.zero_le _)
        simp only [left, if_true, isMoved, Option.map_some]
        refine ⟨_, rfl, Nat.sub_le _ _, valid, ?_⟩
        have front : moved.alarms.take (block.nAlarms - validIdx) =
            (block.alarms.drop validIdx).take (block.nAlarms - validIdx) := by
          rw [cells, List.take_zero, List.nil_append]
          apply List.take_left'
          rw [List.length_take, List.length_drop, block.sized]
          omega
        rw [← dropped, list, list, front, List.drop_take]
      next =>
        simp only [left, if_false, Option.map_some]
        refine ⟨_, rfl, Nat.sub_le _ _, rfl, ?_⟩
        have none : block.nAlarms - validIdx = 0 := by omega
        rw [← dropped, list, none, List.take_zero]
        exact (List.drop_eq_nil_of_le (by omega)).symm

theorem store_spec (block : AlarmSync) {index : Nat} (inside : index < maxWatchAlarms) (alarm : Alarm) :
    ∃ after, block.store index alarm = some after ∧ after.nAlarms = block.nAlarms ∧
      after.valid = block.valid ∧ after.alarms = block.alarms.set index alarm := by
  unfold store
  rw [if_pos (by rw [block.sized]; exact inside)]
  exact ⟨_, rfl, rfl, rfl, rfl⟩

theorem shiftLater_spec (block : AlarmSync) (alarm : Alarm) {count : Nat} (room : count < maxWatchAlarms) :
    ∃ place shifted after, block.shiftLater alarm.epoch count = some (place, shifted) ∧
      shifted.store place alarm = some after ∧ after.nAlarms = block.nAlarms ∧
      after.valid = block.valid ∧
      after.alarms = insertAlarm (block.alarms.take count) alarm ++ block.alarms.drop (count + 1) := by
  -- the place the loop finds, filled with the new alarm: by induction on the alarms still below
  induction count generalizing block with
  | zero =>
      obtain ⟨after, stored, nAlarms, valid, cells⟩ := store_spec block room alarm
      refine ⟨0, block, after, rfl, stored, nAlarms, valid, ?_⟩
      rw [cells, List.set_eq_take_append_cons_drop, if_pos (by rw [block.sized]; exact room)]
      rfl
  | succ below ih =>
      have here : below < block.alarms.length := by
        rw [block.sized]
        omega
      have there : below + 1 < block.alarms.length := by
        rw [block.sized]
        exact room
      have front : block.alarms.take (below + 1) = block.alarms.take below ++ [block.alarms[below]] :=
        (List.take_append_getElem here).symm
      by_cases later : alarm.epoch < block.alarms[below].epoch
      next =>
        obtain ⟨moved, stored, nAlarms, valid, cells⟩ := store_spec block room block.alarms[below]
        obtain ⟨place, shifted, after, shifts, fills, sameN, sameValid, result⟩ :=
          ih moved (Nat.lt_of_succ_lt room)
        refine ⟨place, shifted, after, ?_, fills, sameN.trans nAlarms, sameValid.trans valid, ?_⟩
        · simp [shiftLater, List.getElem?_eq_getElem here, later, stored, shifts]
        · have below_eq : moved.alarms.take below = block.alarms.take below := by
            rw [cells, List.take_set_of_le (Nat.le_succ below)]
          have above : moved.alarms.drop (below + 1) =
              block.alarms[below] :: block.alarms.drop (below + 2) := by
            rw [cells, List.set_eq_take_append_cons_drop, if_pos there]
            apply List.drop_left'
            rw [List.length_take]
            omega
          rw [result, below_eq, above, front, insertAlarm_concat_later later]
          simp
      next =>
        obtain ⟨after, stored, nAlarms, valid, cells⟩ := store_spec block room alarm
        refine ⟨below + 1, block, after, ?_, stored, nAlarms, valid, ?_⟩
        · simp [shiftLater, List.getElem?_eq_getElem here, later]
        · rw [cells, List.set_eq_take_append_cons_drop, if_pos there, front,
            insertAlarm_concat_earlier later, List.append_assoc, List.append_assoc]
          rfl

theorem insert_spec (block : AlarmSync) {count : Nat} (room : count < maxWatchAlarms) (alarm : Alarm) :
    ∃ after, block.insert alarm count = some after ∧ after.valid = block.valid ∧
      after.nAlarms = (if block.nAlarms < maxWatchAlarms then block.nAlarms + 1 else block.nAlarms) ∧
      after.alarms = insertAlarm (block.alarms.take count) alarm ++ block.alarms.drop (count + 1) := by
  obtain ⟨place, shifted, after, shifts, fills, nAlarms, valid, cells⟩ := shiftLater_spec block alarm room
  rw [insert, shifts, Option.bind_some, fills, Option.map_some, nAlarms]
  exact ⟨_, rfl, valid, rfl, cells⟩

theorem remove_spec (bounded : block.nAlarms ≤ maxWatchAlarms) {index : Nat}
    (within : index < block.nAlarms) :
    ∃ after, block.remove index = some after ∧ after.nAlarms + 1 = block.nAlarms ∧
      after.valid = block.valid ∧ after.list = block.list.eraseIdx index := by
  have erased : block.list.eraseIdx index =
      block.alarms.take index ++ (block.alarms.drop (index + 1)).take (block.nAlarms - 1 - index) := by
    rw [List.eraseIdx_eq_take_drop_succ, list, List.take_take, List.drop_take]
    rw [Nat.min_eq_left (by omega), show block.nAlarms - (index + 1) = block.nAlarms - 1 - index by omega]
  unfold remove
  by_cases last : 0 < block.nAlarms - 1 - index
  next =>
    have inside : index + 1 + (block.nAlarms - 1 - index) ≤ maxWatchAlarms := by omega
    obtain ⟨moved, isMoved, _, valid, cells⟩ := memmove_down block inside (Nat.le_succ index)
    simp only [last, if_true, isMoved, Option.map_some]
    refine ⟨_, rfl, by simp only; omega, valid, ?_⟩
    have front : moved.alarms.take (block.nAlarms - 1) = block.alarms.take index ++
        (block.alarms.drop (index + 1)).take (block.nAlarms - 1 - index) := by
      rw [cells]
      apply List.take_left'
      rw [List.length_append, List.length_take, List.length_take, List.length_drop, block.sized]
      omega
    rw [erased, ← front]
    rfl
  next =>
    simp only [last, if_false, Option.map_some]
    refine ⟨_, rfl, by simp only; omega, rfl, ?_⟩
    have none : block.nAlarms - 1 - index = 0 := by omega
    have isLast : block.nAlarms - 1 = index := by omega
    rw [erased, none, List.take_zero, List.append_nil, list, isLast]

theorem hasEpoch_spec (alarms : List Alarm) (epoch : UInt32) (left start : Nat)
    (inside : start + left ≤ alarms.length) :
    hasEpoch alarms epoch start left =
      some (((alarms.drop start).take left).any fun alarm => alarm.epoch = epoch) := by
  induction left generalizing start with
  | zero => simp [hasEpoch]
  | succ left ih =>
      have here : start < alarms.length := by omega
      rw [List.drop_eq_getElem_cons here, List.take_succ_cons]
      by_cases same : alarms[start].epoch = epoch
      · simp [hasEpoch, List.getElem?_eq_getElem here, same]
      · simp only [hasEpoch, List.getElem?_eq_getElem here, same, if_false, Option.bind_eq_bind,
          Option.bind_some]
        rw [ih (start + 1) (by omega)]
        simp [same]

structure Ordered (block : AlarmSync) : Prop where
  bounded : block.nAlarms ≤ maxWatchAlarms
  valid : block.valid = 1
  ascending : Ascending block.list

theorem Ordered.of_sublist {after : AlarmSync} (ordered : block.Ordered)
    (fewer : after.nAlarms ≤ block.nAlarms) (valid : after.valid = block.valid)
    (kept : after.list.Sublist block.list) : after.Ordered where
  bounded := Nat.le_trans fewer ordered.bounded
  valid := valid.trans ordered.valid
  ascending := ordered.ascending.sublist kept

theorem Ordered.sanitised (ordered : block.Ordered) : block.sanitised = block := by
  have sound : ¬ (block.valid ≠ 1 ∨ maxWatchAlarms < block.nAlarms) := by
    rw [not_or, not_not, Nat.not_lt]
    exact ⟨ordered.valid, ordered.bounded⟩
  rw [AlarmSync.sanitised, if_neg sound]

theorem sanitised_sound (block : AlarmSync) :
    block.sanitised.valid = 1 ∧ block.sanitised.nAlarms ≤ maxWatchAlarms := by
  unfold sanitised
  split
  next => exact ⟨rfl, Nat.zero_le _⟩
  next sound =>
    rw [not_or, not_not, Nat.not_lt] at sound
    exact sound

theorem insert_list (bounded : block.nAlarms ≤ maxWatchAlarms) (alarm : Alarm) {count : Nat}
    (place : count = block.nAlarms ∧ block.nAlarms < maxWatchAlarms ∨
      count = maxWatchAlarms - 1 ∧ block.nAlarms = maxWatchAlarms ∧
        ∀ last, block.alarms[maxWatchAlarms - 1]? = some last → alarm.epoch < last.epoch) :
    ∃ after, block.insert alarm count = some after ∧ after.valid = block.valid ∧
      after.nAlarms ≤ maxWatchAlarms ∧
      after.list = (insertAlarm block.list alarm).take maxWatchAlarms := by
  -- the array with room at its end, and the full one that gives up its last alarm
  have length := list_length bounded
  have room : count < maxWatchAlarms := by
    rcases place with ⟨rfl, room⟩ | ⟨rfl, _⟩
    · exact room
    · decide
  obtain ⟨after, inserted, valid, nAlarms, cells⟩ := insert_spec block room alarm
  rcases place with ⟨rfl, spare⟩ | ⟨rfl, full, earlier⟩
  next =>
    rw [if_pos spare] at nAlarms
    refine ⟨after, inserted, valid, by omega, ?_⟩
    have inserted_length : (insertAlarm block.list alarm).length = block.nAlarms + 1 := by
      rw [insertAlarm_length, length]
    have all : (insertAlarm block.list alarm).take maxWatchAlarms = insertAlarm block.list alarm :=
      List.take_of_length_le (by omega)
    rw [all, list, nAlarms, cells]
    exact List.take_left' inserted_length
  next =>
    rw [if_neg (by omega)] at nAlarms
    refine ⟨after, inserted, valid, by omega, ?_⟩
    have within : maxWatchAlarms - 1 < block.alarms.length := by
      rw [block.sized]
      decide
    have last := List.getElem?_eq_getElem within
    have whole : block.list = block.alarms.take (maxWatchAlarms - 1) ++ [block.alarms[maxWatchAlarms - 1]] := by
      rw [list, full, List.take_append_getElem within]
      rfl
    have front : (insertAlarm (block.alarms.take (maxWatchAlarms - 1)) alarm).length = maxWatchAlarms := by
      rw [insertAlarm_length, List.length_take, block.sized]
      rfl
    rw [whole, insertAlarm_concat_later (earlier _ last), list, nAlarms, full, cells,
      List.take_left' front, List.take_left' front]

end AlarmSync

namespace AlarmStore

variable {s : AlarmStore}

theorem createAlarm_spec (attached : s.attached = true) (ordered : s.block.Ordered) (alarm : Alarm)
    (acquired : Bool) :
    s.createAlarm alarm acquired = some (false, s) ∨
      ∃ block, s.createAlarm alarm acquired = some (true, s.withBlock block) ∧
        block.valid = s.block.valid ∧ block.nAlarms ≤ maxWatchAlarms ∧
        (∀ other ∈ s.block.list, other.epoch ≠ alarm.epoch) ∧
        block.list = (s.block.list.orderedInsert Alarm.NotLater alarm).take maxWatchAlarms := by
  unfold createAlarm
  have bounded := ordered.bounded
  simp only [attached, Bool.true_eq_false, if_false, Nat.not_lt.mpr bounded]
  split
  next => exact .inl rfl
  next =>
    split
    next => exact .inl rfl
    next =>
      split
      next => exact .inl rfl
      next =>
        have searched := AlarmSync.hasEpoch_spec s.block.alarms alarm.epoch s.block.nAlarms 0
          (by rw [s.block.sized, Nat.zero_add]; exact bounded)
        rw [searched, Option.bind_some, List.drop_zero]
        split
        next => exact .inl rfl
        next unique =>
          have fresh : ∀ other ∈ s.block.list, other.epoch ≠ alarm.epoch := by
            simpa [AlarmSync.list] using unique
          have placed := insertAlarm_ordered ordered.ascending fresh
          split
          next full =>
            have within : maxWatchAlarms - 1 < s.block.alarms.length := by
              rw [s.block.sized]
              decide
            rw [List.getElem?_eq_getElem within, Option.bind_some]
            split
            next => exact .inl rfl
            next earlier =>
              have evicts : ∀ last, s.block.alarms[maxWatchAlarms - 1]? = some last →
                  alarm.epoch < last.epoch := by
                intro last isLast
                rw [List.getElem?_eq_getElem within] at isLast
                cases isLast
                exact UInt32.not_le.mp earlier
              obtain ⟨block, inserted, valid, bound, list⟩ :=
                AlarmSync.insert_list bounded alarm (.inr ⟨rfl, full, evicts⟩)
              refine .inr ⟨block, ?_, valid, bound, fresh, placed ▸ list⟩
              rw [inserted, Option.map_some]
          next notFull =>
            obtain ⟨block, inserted, valid, bound, list⟩ :=
              AlarmSync.insert_list bounded alarm (.inl ⟨rfl, Nat.lt_of_le_of_ne bounded notFull⟩)
            refine .inr ⟨block, ?_, valid, bound, fresh, placed ▸ list⟩
            rw [inserted, Option.map_some]

theorem deleteAlarm_spec (attached : s.attached = true) (ordered : s.block.Ordered) (index : Int)
    (acquired : Bool) :
    ((acquired = false ∨ index < 0 ∨ s.block.nAlarms ≤ index) ∧
        s.deleteAlarm index acquired = some (false, s)) ∨
      ∃ position block, acquired = true ∧ index = (position : Nat) ∧ position < s.block.list.length ∧
        s.deleteAlarm index acquired = some (true, s.withBlock block) ∧
        block.valid = s.block.valid ∧ block.nAlarms ≤ s.block.nAlarms ∧
        block.list = s.block.list.eraseIdx position := by
  have bounded := ordered.bounded
  unfold deleteAlarm
  simp only [attached, Bool.true_eq_false, false_or]
  split
  next refused => exact .inl ⟨refused, rfl⟩
  next valid =>
    simp only [not_or, Bool.not_eq_false] at valid
    obtain ⟨got, notNegative, inside⟩ := valid
    obtain ⟨position, rfl⟩ := Int.eq_ofNat_of_zero_le (Int.not_lt.mp notNegative)
    have within : position < s.block.nAlarms := by omega
    obtain ⟨block, removed, fewer, valid, list⟩ := AlarmSync.remove_spec bounded within
    refine .inr ⟨position, block, got, rfl, ?_, ?_, valid, by omega, list⟩
    · rw [AlarmSync.list_length bounded]
      exact within
    · rw [Int.toNat_natCast, removed, Option.map_some]

structure Kept (rtc : AlarmSync) (s : AlarmStore) : Prop where
  ordered : s.attached = true → s.block.Ordered
  distinct : Distinct rtc.sanitised.list → Distinct s.block.sanitised.list

variable {rtc : AlarmSync}

theorem Kept.withBlock (kept : s.Kept rtc) (attached : s.attached = true) {block : AlarmSync}
    (ordered : block.Ordered) (distinct : Distinct s.block.list → Distinct block.list) :
    (s.withBlock block).Kept rtc where
  ordered _ := ordered
  distinct apart := by
    have before := kept.distinct apart
    rw [(kept.ordered attached).sanitised] at before
    change Distinct block.sanitised.list
    rw [ordered.sanitised]
    exact distinct before

theorem distinct_sublist {alarms others : List Alarm} (kept : others.Sublist alarms)
    (distinct : Distinct alarms) : Distinct others := distinct.sublist (kept.map _)

theorem Kept.of_sublist (kept : s.Kept rtc) (attached : s.attached = true) {block : AlarmSync}
    (fewer : block.nAlarms ≤ s.block.nAlarms) (valid : block.valid = s.block.valid)
    (list : block.list.Sublist s.block.list) : (s.withBlock block).Kept rtc :=
  kept.withBlock attached ((kept.ordered attached).of_sublist fewer valid list) (distinct_sublist list)

theorem kept_createAlarm (kept : s.Kept rtc) (alarm : Alarm) (acquired : Bool) {result : Bool × AlarmStore}
    (created : s.createAlarm alarm acquired = some result) : result.2.Kept rtc := by
  cases attached : s.attached with
  | false =>
      simp only [createAlarm, attached, if_true, Option.some.injEq] at created
      exact created ▸ kept
  | true =>
      have ordered := kept.ordered attached
      rcases createAlarm_spec attached ordered alarm acquired with
        refused | ⟨block, accepted, valid, bounded, fresh, list⟩
      next =>
        rw [refused] at created
        exact (Option.some.inj created) ▸ kept
      next =>
        rw [accepted] at created
        rw [← Option.some.inj created]
        have ascending := ordered.ascending.orderedInsert alarm
        apply kept.withBlock attached
        next =>
          refine ⟨bounded, valid.trans ordered.valid, ?_⟩
          rw [list]
          exact ascending.sublist (List.take_sublist _ _)
        next =>
          intro distinct
          rw [list]
          apply distinct_sublist (List.take_sublist _ _)
          have perm := (List.perm_orderedInsert Alarm.NotLater alarm s.block.list).map Alarm.epoch
          apply perm.nodup_iff.mpr
          apply List.nodup_cons.mpr
          refine ⟨fun listed => ?_, distinct⟩
          obtain ⟨other, inside, same⟩ := List.mem_map.mp listed
          exact fresh other inside same

theorem kept_deleteAlarm (kept : s.Kept rtc) (index : Int) (acquired : Bool) {result : Bool × AlarmStore}
    (deleted : s.deleteAlarm index acquired = some result) : result.2.Kept rtc := by
  cases attached : s.attached with
  | false =>
      simp only [deleteAlarm, attached, true_or, if_true, Option.some.injEq] at deleted
      exact deleted ▸ kept
  | true =>
      rcases deleteAlarm_spec attached (kept.ordered attached) index acquired with
        ⟨_, refused⟩ | ⟨position, block, _, _, _, accepted, valid, fewer, list⟩
      next =>
        rw [refused] at deleted
        exact (Option.some.inj deleted) ▸ kept
      next =>
        rw [accepted] at deleted
        rw [← Option.some.inj deleted]
        exact kept.of_sublist attached fewer valid (list ▸ List.eraseIdx_sublist _ _)

theorem kept_editAlarm (kept : s.Kept rtc) (index : Int) (new : Alarm) (locks : EditLocks)
    {result : Bool × AlarmStore} (edited : s.editAlarm index new locks = some result) :
    result.2.Kept rtc := by
  unfold editAlarm at edited
  split at edited
  next => exact (Option.some.inj edited) ▸ kept
  next =>
    obtain ⟨old, _, edited⟩ := Option.bind_eq_some_iff.mp edited
    obtain ⟨deleted, removes, edited⟩ := Option.bind_eq_some_iff.mp edited
    have afterDelete := kept_deleteAlarm kept index locks.delete removes
    split at edited
    next => exact (Option.some.inj edited) ▸ afterDelete
    next =>
      obtain ⟨created, creates, edited⟩ := Option.bind_eq_some_iff.mp edited
      have afterCreate := kept_createAlarm afterDelete new locks.create creates
      split at edited
      next => exact (Option.some.inj edited) ▸ afterCreate
      next =>
        obtain ⟨restored, restores, rfl⟩ := Option.map_eq_some_iff.mp edited
        have afterRollback := kept_createAlarm afterCreate old locks.rollback restores
        exact afterRollback

theorem kept_revalidate (kept : s.Kept rtc) (acquired : Bool) {result : Bool × AlarmStore}
    (revalidated : s.revalidate acquired = some result) : result.2.Kept rtc := by
  unfold revalidate at revalidated
  split at revalidated
  next => exact (Option.some.inj revalidated) ▸ kept
  next ready =>
    rw [not_or, Bool.not_eq_false] at ready
    obtain ⟨block, discarded, rfl⟩ := Option.map_eq_some_iff.mp revalidated
    obtain ⟨after, found, fewer, valid, list⟩ :=
      AlarmSync.discardExpiredAlarms_spec (kept.ordered ready.1).bounded s.now
    cases found.symm.trans discarded
    exact kept.of_sublist ready.1 fewer valid (list ▸ List.dropWhile_sublist _)

theorem kept_alarmFiredCb (kept : s.Kept rtc) (acquired : Bool) {after : AlarmStore}
    (fired : s.alarmFiredCb acquired = some after) : after.Kept rtc := by
  unfold alarmFiredCb at fired
  split at fired
  next => exact (Option.some.inj fired) ▸ kept
  next ready =>
    simp only [not_or, Bool.not_eq_false] at ready
    obtain ⟨block, removed, rfl⟩ := Option.map_eq_some_iff.mp fired
    obtain ⟨next, found, fewer, valid, list⟩ :=
      AlarmSync.remove_spec (kept.ordered ready.1).bounded (Nat.pos_of_ne_zero ready.2.2)
    cases found.symm.trans removed
    exact kept.of_sublist ready.1 (by omega) valid (list ▸ List.eraseIdx_sublist _ _)

theorem kept_init (kept : s.Kept rtc) (timeValid : Bool) (sorted : List Alarm) {after : AlarmStore}
    (started : s.init timeValid sorted = some after) : after.Kept rtc := by
  unfold init at started
  have sound := (if timeValid then s.block else AlarmSync.zero).sanitised_sound
  have distinct : Distinct rtc.sanitised.list → Distinct (s.block.atInit timeValid).list := by
    intro apart
    cases timeValid with
    | true => exact kept.distinct apart
    | false => exact List.nodup_nil
  change (s.block.atInit timeValid).valid = 1 ∧ (s.block.atInit timeValid).nAlarms ≤ maxWatchAlarms at sound
  generalize s.block.atInit timeValid = block at started sound distinct
  split at started
  next sorts =>
    have length : sorted.length = block.nAlarms := by
      rw [sorts.1.length_eq, AlarmSync.list_length sound.2]
    obtain ⟨copied, copies, nAlarms, valid, front⟩ :=
      block.memcpy_list (show sorted.length ≤ maxWatchAlarms by omega)
    have list : copied.list = sorted := by rw [AlarmSync.list, nAlarms, ← length, front]
    have bounded : copied.nAlarms ≤ maxWatchAlarms := nAlarms ▸ sound.2
    obtain ⟨left, discards, fewer, sameValid, rest⟩ :=
      AlarmSync.discardExpiredAlarms_spec bounded s.now
    rw [copies, Option.bind_some, discards, Option.map_some] at started
    rw [← Option.some.inj started]
    have inList : left.list.Sublist sorted := by
      rw [rest, list]
      exact List.dropWhile_sublist _
    have ordered : left.Ordered :=
      ⟨by omega, sameValid.trans (valid.trans sound.1), sorts.2.sublist inList⟩
    refine ⟨fun _ => ordered, fun apart => ?_⟩
    rw [ordered.sanitised]
    apply distinct_sublist inList
    exact (sorts.1.map Alarm.epoch).nodup_iff.mpr (distinct apart)
  next => cases started

theorem kept_step (kept : s.Kept rtc) {action : Action} {after : AlarmStore}
    (taken : step s action = some after) : after.Kept rtc := by
  cases action with
  | init timeValid sorted => exact kept_init kept timeValid sorted taken
  | deinit =>
      cases taken
      exact ⟨fun attached => absurd attached Bool.false_ne_true, kept.distinct⟩
  | create alarm acquired =>
      obtain ⟨result, created, rfl⟩ := Option.map_eq_some_iff.mp taken
      exact kept_createAlarm kept alarm acquired created
  | delete index acquired =>
      obtain ⟨result, deleted, rfl⟩ := Option.map_eq_some_iff.mp taken
      exact kept_deleteAlarm kept index acquired deleted
  | edit index new locks =>
      obtain ⟨result, edited, rfl⟩ := Option.map_eq_some_iff.mp taken
      exact kept_editAlarm kept index new locks edited
  | revalidate acquired =>
      obtain ⟨result, revalidated, rfl⟩ := Option.map_eq_some_iff.mp taken
      exact kept_revalidate kept acquired revalidated
  | fire acquired => exact kept_alarmFiredCb kept acquired taken
  | time now =>
      cases taken
      exact ⟨kept.ordered, kept.distinct⟩

theorem kept_of_reach (reached : Reach step (Initial rtc) Unguarded s) : s.Kept rtc := by
  apply reached.invariant
  next =>
    intro state initial
    refine ⟨fun attached => ?_, fun distinct => ?_⟩
    · rw [initial.2] at attached
      cases attached
    · rw [initial.1]
      exact distinct
  next =>
    intro state action after kept _ taken
    exact kept_step kept taken

theorem getAllAlarms_list (ordered : s.block.Ordered) (attached : s.attached = true) :
    s.getAllAlarms true = some s.block.list := by
  have ready : ¬ (s.attached = false ∨ true = false ∨ maxWatchAlarms < s.block.nAlarms) := by
    simp [attached, ordered.bounded]
  rw [getAllAlarms, if_neg ready, Memory.read_inside (by rw [s.block.sized, Nat.zero_add]; exact ordered.bounded)]
  rfl

/-- In every state of an initialised alarm manager: the list, and what each call does to it. -/
theorem alarm_list_kept (reached : Reach step (Initial rtc) Unguarded s) (attached : s.attached = true) :
    s.block.nAlarms ≤ maxWatchAlarms ∧ Ascending s.block.list ∧
      (Distinct rtc.sanitised.list →
        s.block.list.Pairwise fun one other => one.epoch < other.epoch) ∧
      (∀ alarm acquired, s.createAlarm alarm acquired = some (false, s) ∨
        ∃ after, s.createAlarm alarm acquired = some (true, after) ∧
          after.block.list = (s.block.list.orderedInsert Alarm.NotLater alarm).take maxWatchAlarms) ∧
      (∀ (index : Int) (acquired : Bool),
        ((acquired = false ∨ index < 0 ∨ s.block.nAlarms ≤ index) ∧
            s.deleteAlarm index acquired = some (false, s)) ∨
          ∃ position after, acquired = true ∧ index = (position : Nat) ∧
            position < s.block.list.length ∧ s.deleteAlarm index acquired = some (true, after) ∧
            after.block.list = s.block.list.eraseIdx position) ∧
      s.getAllAlarms true = some s.block.list := by
  have kept := kept_of_reach reached
  have ordered := kept.ordered attached
  refine ⟨ordered.bounded, ordered.ascending, fun distinct => ?_, fun alarm acquired => ?_,
    fun index acquired => ?_, getAllAlarms_list ordered attached⟩
  next =>
    have apart := kept.distinct distinct
    rw [ordered.sanitised] at apart
    have unequal : s.block.list.Pairwise fun one other => one.epoch ≠ other.epoch :=
      List.pairwise_map.mp apart
    exact (ordered.ascending.and unequal).imp fun both => UInt32.lt_of_le_of_ne both.1 both.2
  next =>
    rcases createAlarm_spec attached ordered alarm acquired with refused | ⟨block, accepted, _, _, _, list⟩
    · exact .inl refused
    · exact .inr ⟨_, accepted, list⟩
  next =>
    rcases deleteAlarm_spec attached ordered index acquired with
      refused | ⟨position, block, got, sameIndex, within, accepted, _, _, list⟩
    · exact .inl refused
    · exact .inr ⟨position, _, got, sameIndex, within, accepted, list⟩

def watchAlarm (epoch : UInt32) : Alarm := ⟨epoch, .watch, false⟩

def garbage : AlarmSync where
  alarms := List.replicate maxWatchAlarms (watchAlarm 7)
  nAlarms := 9
  valid := 1
  sized := List.length_replicate

def fillAndEvict : List Action :=
  [.init true [], .time 1000, .create (watchAlarm 6000) true, .create (watchAlarm 2000) true,
    .create (watchAlarm 5000) true, .create (watchAlarm 3000) true, .create (watchAlarm 4000) true,
    .create (watchAlarm 2500) true, .delete 1 true]

theorem alarm_list_kept_evicting :
    ∃ s : AlarmStore, s.block.list.map Alarm.epoch = [2000, 3000, 4000, 5000] ∧
      s.getAllAlarms true = some s.block.list := by
  have ran : ((run step ⟨garbage, false, 0⟩ fillAndEvict).map fun s =>
      (s.attached, s.block.list.map Alarm.epoch)) = some (true, [2000, 3000, 4000, 5000]) := by
    decide +kernel
  obtain ⟨s, taken, seen⟩ := Option.map_eq_some_iff.mp ran
  obtain ⟨attached, epochs⟩ := Prod.mk.inj seen
  have initial : Initial garbage ⟨garbage, false, 0⟩ := ⟨rfl, rfl⟩
  have reached := (Reach.start initial).of_run (guarded_unguarded _ _ _) taken
  obtain ⟨_, _, _, _, _, copied⟩ := alarm_list_kept reached attached
  exact ⟨s, epochs, copied⟩

end AlarmStore

end WatchFirmware.StateManager
