import WatchFirmware.Shared.BoundedQueue
import WatchFirmware.Shared.Memory

set_option autoImplicit false

namespace WatchFirmware.NotificationManager

abbrev maxNotifications : Nat := 20

/-- `notification_t`, with its number among all arrivals. -/
structure Notification (Body : Type) where
  arrival : Nat
  body : Body
  deriving DecidableEq

/-- `notifications` and `total_notifications`. -/
structure NotificationList (Body : Type) where
  cells : List (Notification Body)
  total : Nat
  sized : cells.length = maxNotifications
  total_le : total ≤ maxNotifications

namespace NotificationList

variable {Body : Type}

def contents (list : NotificationList Body) : List (Notification Body) := list.cells.take list.total

@[simp] theorem contents_length (list : NotificationList Body) : list.contents.length = list.total := by
  rw [contents, List.length_take, list.sized]
  exact Nat.min_eq_left list.total_le

-- The statements that access the array and its count, one by one; none where they would leave the array.

/-- `memmove` of `count` notifications down by one, to `target`. -/
def moveDown (list : NotificationList Body) (target count : Nat) : Option (NotificationList Body) :=
  match moved : Memory.move list.cells target (target + 1) count with
  | none => none
  | some cells => some { list with cells, sized := (Memory.move_length moved).trans list.sized }

def countDown (list : NotificationList Body) : NotificationList Body :=
  { list with total := list.total - 1, total_le := Nat.le_trans (Nat.sub_le _ _) list.total_le }

/-- The copy of the event's data to the first free place, with the fields that are set behind it. -/
def copyIn (list : NotificationList Body) (notification : Notification Body) : Option (NotificationList Body) :=
  match written : Memory.write list.cells list.total [notification] with
  | none => none
  | some cells => some { list with cells, sized := (Memory.write_length written).trans list.sized }

def countUp (list : NotificationList Body) : Option (NotificationList Body) :=
  if room : list.total < maxNotifications then some { list with total := list.total + 1, total_le := room }
  else none

def append (list : NotificationList Body) (notification : Notification Body) :
    Option (NotificationList Body) :=
  (list.copyIn notification).bind countUp

def receiveNotification (list : NotificationList Body) (notification : Notification Body) :
    Option (NotificationList Body) :=
  if list.total = maxNotifications then
    (list.moveDown 0 (maxNotifications - 1)).bind fun moved => moved.countDown.append notification
  else list.append notification

/-- `notification_manager_dismiss_notification` behind its check, up to the decrement. -/
def closeGap (list : NotificationList Body) (index : Nat) : Option (NotificationList Body) :=
  if index ≠ list.total - 1 then list.moveDown index (list.total - index - 1) else some list

def dismissNotification (list : NotificationList Body) (index : Nat) : Option (NotificationList Body) :=
  if list.total ≤ index then some list else (list.closeGap index).map countDown

theorem moveDown_contents (list : NotificationList Body) {target : Nat} (inside : target < list.total) :
    ∃ moved, list.moveDown target (list.total - target - 1) = some moved ∧ moved.total = list.total ∧
      moved.countDown.contents = list.contents.eraseIdx target := by
  have small := list.total_le
  have size := list.sized
  have moved : Memory.move list.cells target (target + 1) (list.total - target - 1) = some _ :=
    Memory.move_inside (by omega) (by omega)
  unfold moveDown
  split
  next failed =>
    rw [failed] at moved
    cases moved
  next cells found =>
    refine ⟨_, rfl, rfl, ?_⟩
    rw [found] at moved
    cases moved
    have kept : (list.cells.take target ++
        (list.cells.drop (target + 1)).take (list.total - target - 1)).length = list.total - 1 := by
      rw [List.length_append, List.length_take, List.length_take, List.length_drop, size]
      omega
    simp only [contents, countDown]
    rw [List.take_left' kept, List.eraseIdx_eq_take_drop_succ, List.take_take, List.drop_take,
      Nat.min_eq_left (by omega), Nat.sub_sub]

theorem append_contents (list : NotificationList Body) (notification : Notification Body)
    (room : list.total < maxNotifications) :
    ∃ after, list.append notification = some after ∧
      after.contents = list.contents ++ [notification] := by
  have written : Memory.write list.cells list.total [notification] = some _ :=
    Memory.write_inside (by rw [list.sized]; exact room)
  unfold append copyIn
  split
  next failed =>
    rw [failed] at written
    cases written
  next cells found =>
    refine ⟨{ list with
      cells
      total := list.total + 1
      sized := (Memory.write_length found).trans list.sized
      total_le := room }, ?_, Memory.write_take found⟩
    exact dif_pos room

theorem receiveNotification_contents (list : NotificationList Body) (notification : Notification Body) :
    ∃ after, list.receiveNotification notification = some after ∧
      after.contents = BoundedQueue.offer maxNotifications list.contents notification := by
  unfold receiveNotification BoundedQueue.offer
  rw [contents_length]
  by_cases full : list.total = maxNotifications
  · have occupied : 0 < list.total := by
      rw [full]
      decide
    obtain ⟨room, moved, total, shifted⟩ := list.moveDown_contents occupied
    rw [full, Nat.sub_zero] at moved
    rw [List.eraseIdx_zero] at shifted
    rw [if_pos full, moved, Option.bind_some, if_neg (by omega), ← shifted]
    refine room.countDown.append_contents notification ?_
    show room.total - 1 < maxNotifications
    rw [total, full]
    decide
  · have room : list.total < maxNotifications := Nat.lt_of_le_of_ne list.total_le full
    rw [if_neg full, if_pos room]
    exact list.append_contents notification room

theorem dismissNotification_contents (list : NotificationList Body) (index : Nat) :
    ∃ after, list.dismissNotification index = some after ∧
      after.contents = list.contents.eraseIdx index := by
  unfold dismissNotification closeGap
  by_cases outside : list.total ≤ index
  · rw [if_pos outside, List.eraseIdx_of_length_le (by rwa [contents_length])]
    exact ⟨list, rfl, rfl⟩
  · rw [if_neg outside]
    by_cases last : index ≠ list.total - 1
    · rw [if_pos last]
      obtain ⟨moved, found, _, contents⟩ := list.moveDown_contents (show index < list.total by omega)
      exact ⟨moved.countDown, by rw [found]; rfl, contents⟩
    · rw [if_neg last]
      refine ⟨list.countDown, rfl, ?_⟩
      rw [List.eraseIdx_eq_take_drop_succ, List.drop_of_length_le (by rw [contents_length]; omega),
        List.append_nil]
      simp only [contents, countDown, List.take_take]
      congr 1
      omega

end NotificationList

end WatchFirmware.NotificationManager
