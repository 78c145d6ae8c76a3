import Mathlib

set_option autoImplicit false

namespace BoundedQueue

variable {α β : Type}

/-- Append at the back, refused when `capacity` elements already wait. -/
def send (capacity : Nat) (queue : List α) (item : α) : Option (List α) :=
  if queue.length < capacity then some (queue ++ [item]) else none

theorem send_map (f : α → β) (capacity : Nat) (queue : List α) (item : α) :
    send capacity (queue.map f) (f item) = (send capacity queue item).map (List.map f) := by
  unfold send
  rw [List.length_map]
  split
  next => rw [Option.map_some, List.map_append, List.map_singleton]
  next => rfl

def offer (capacity : Nat) (queue : List α) (item : α) : List α :=
  if queue.length < capacity then queue ++ [item] else queue.tail ++ [item]

theorem offer_room {capacity : Nat} {queue : List α} (room : queue.length < capacity) (item : α) :
    offer capacity queue item = queue ++ [item] := by
  simp [offer, room]

theorem mem_offer {capacity : Nat} {queue : List α} {item x : α}
    (member : x ∈ offer capacity queue item) : x ∈ queue ∨ x = item := by
  unfold offer at member
  split at member <;> simp only [List.mem_append, List.mem_singleton] at member
  · exact member
  · exact member.imp_left List.mem_of_mem_tail

end BoundedQueue
