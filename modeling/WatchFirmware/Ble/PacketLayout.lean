import Mathlib

set_option autoImplicit false

namespace WatchFirmware.Ble

-- Payload bytes owed to a message whose header is out, and the sizes of the messages behind it.
structure Layout where
  owed : Nat
  sizes : List Nat
  deriving DecidableEq, Repr

/-- Some message that has a payload gets the last four free bytes of the packet for its header. -/
def headerEndsPacket : Nat → List Nat → Bool
  | _, [] => false
  | room, size :: rest =>
      if room < 4 then false
      else if size ≤ room - 4 then headerEndsPacket (room - 4 - size) rest
      else room == 4

def fillPacket : Nat → List Nat → Layout
  | _, [] => ⟨0, []⟩
  | room, size :: rest =>
      if room < 4 then ⟨0, size :: rest⟩
      else if size ≤ room - 4 then fillPacket (room - 4 - size) rest
      else ⟨size - (room - 4), rest⟩

namespace Layout

def headerEnds (room : Nat) (layout : Layout) : Bool :=
  if layout.owed ≤ room then headerEndsPacket (room - layout.owed) layout.sizes else false

def next (room : Nat) (layout : Layout) : Layout :=
  if layout.owed ≤ room then fillPacket (room - layout.owed) layout.sizes
  else ⟨layout.owed - room, layout.sizes⟩

def load (layout : Layout) : Nat := layout.owed + (layout.sizes.map (4 + ·)).sum

/-- What is left of the messages after the first `n` packets, the `k`-th of `mtus k` bytes. -/
def after (mtus : Nat → Nat) (layout : Layout) : Nat → Layout
  | 0 => layout
  | n + 1 => (layout.after mtus n).next (mtus n - 1)

end Layout

theorem headerEndsPacket_full (sizes : List Nat) : headerEndsPacket 0 sizes = false := by
  cases sizes <;> simp [headerEndsPacket]

theorem fillPacket_full (sizes : List Nat) : fillPacket 0 sizes = ⟨0, sizes⟩ := by
  cases sizes <;> simp [fillPacket]

theorem fillPacket_load_le (room : Nat) (sizes : List Nat) :
    (fillPacket room sizes).load ≤ (sizes.map (4 + ·)).sum := by
  induction sizes generalizing room with
  | nil => simp [fillPacket, Layout.load]
  | cons size rest ih =>
      rw [fillPacket]
      split_ifs
      · simp [Layout.load]
      · have := ih (room - 4 - size)
        simp only [List.map_cons, List.sum_cons]
        omega
      · simp only [Layout.load, List.map_cons, List.sum_cons]
        omega

theorem Layout.next_load_lt {room : Nat} (header : 4 ≤ room) {layout : Layout}
    (left : layout.load ≠ 0) : (layout.next room).load < layout.load := by
  rw [Layout.next]
  split
  next fits =>
    by_cases owed : layout.owed = 0
    · cases sizes : layout.sizes with
      | nil => simp [Layout.load, owed, sizes] at left
      | cons size rest =>
          rw [fillPacket, if_neg (by omega)]
          have total : layout.load = 4 + size + (rest.map (4 + ·)).sum := by
            simp [Layout.load, owed, sizes]
          rw [total]
          split_ifs
          · have := fillPacket_load_le (room - layout.owed - 4 - size) rest
            omega
          · simp only [Layout.load]
            omega
    · have := fillPacket_load_le (room - layout.owed) layout.sizes
      simp only [Layout.load] at *
      omega
  next =>
    simp only [Layout.load] at *
    omega

theorem Layout.after_load (mtus : Nat → Nat) (wide : ∀ k, 5 ≤ mtus k) (layout : Layout) (n : Nat) :
    (layout.after mtus n).load ≤ layout.load - n := by
  induction n with
  | zero => simp [Layout.after]
  | succ n ih =>
      have room := wide n
      simp only [Layout.after]
      by_cases left : (layout.after mtus n).load = 0
      · have := fillPacket_load_le (mtus n - 1) (layout.after mtus n).sizes
        simp only [Layout.load, Nat.add_eq_zero_iff] at left
        simp only [Layout.next, left.1, Nat.zero_le, if_true, Nat.sub_zero]
        omega
      · have := Layout.next_load_lt (show 4 ≤ mtus n - 1 by omega) left
        omega

theorem Layout.after_settled {mtus : Nat → Nat} {layout : Layout} {n : Nat}
    (settled : layout.after mtus n = ⟨0, []⟩) {k : Nat} (late : n ≤ k) :
    layout.after mtus k = ⟨0, []⟩ := by
  -- with nothing left to send there is no header to end a packet either
  induction late with
  | refl => exact settled
  | step _ ih => rw [Layout.after, ih, Layout.next, if_pos (Nat.zero_le _), fillPacket]

end WatchFirmware.Ble
