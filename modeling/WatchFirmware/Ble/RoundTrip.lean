import WatchFirmware.Ble.LinkSkew

set_option autoImplicit false

namespace WatchFirmware.Ble

namespace Link

variable {mtus : Nat → Nat} {link : Link} {msgs : List BleMsg}

theorem roundTrip_of_headersInside (wide : ∀ k, 20 ≤ mtus k) (small : ∀ k, mtus k < 2 ^ 16)
    (reset : link.Reset) (few : msgs.length ≤ bleFifoSize) (fits : ∀ msg ∈ msgs, msg.Fits)
    (inside : HeadersInside mtus msgs) : RoundTrip mtus (link.enqueue msgs) msgs := by
  obtain ⟨inStep, layout⟩ := InStep.start reset few fits
  refine ⟨(link.enqueue msgs).sender.layout.load, fun n late => ?_⟩
  have inner : ∀ k, k < n →
      ((link.enqueue msgs).sender.layout.after mtus k).headerEnds (mtus k - 1) = false :=
    fun k _ => layout ▸ inside k
  obtain ⟨after, sent, kept, left⟩ := inStep.run small few n inner
  have load := Layout.after_load mtus (fun k => Nat.le_trans (by decide) (wide k))
    (link.enqueue msgs).sender.layout n
  have empty := kept.finished (by rw [left]; omega)
  have whole := kept.split
  rw [empty, List.append_nil] at whole
  exact ⟨after, sent, whole.symm, kept.waiting.trans whole.symm⟩

/-- In step as long as no header ends a packet, and broken for good from the first one that does. -/
theorem inStep_or_broken (wide : ∀ k, 20 ≤ mtus k) (small : ∀ k, mtus k < 2 ^ 16)
    (few : msgs.length ≤ bleFifoSize) (unlike : ∀ msg ∈ msgs, ¬ msg.SelfRepeating)
    (inStep : link.InStep msgs) (n : Nat) {after : Link} (taken : link.transmit mtus n = some after) :
    (after.InStep msgs ∧ after.sender.layout = link.sender.layout.after mtus n ∧
        ∀ k, k < n → (link.sender.layout.after mtus k).headerEnds (mtus k - 1) = false) ∨
      Broken msgs after := by
  induction n generalizing after with
  | zero =>
      cases taken
      exact .inl ⟨inStep, rfl, fun k before => absurd before (Nat.not_lt_zero k)⟩
  | succ n ih =>
      obtain ⟨middle, earlier, moved⟩ := Option.bind_eq_some_iff.mp taken
      rcases ih earlier with ⟨kept, layout, inner⟩ | broken
      · cases ends : (link.sender.layout.after mtus n).headerEnds (mtus n - 1) with
        | false =>
            obtain ⟨next, same, still, further⟩ := kept.transfer (small n) few (layout ▸ ends)
            obtain rfl := Option.some.inj (same.symm.trans moved)
            refine .inl ⟨still, by rw [further, layout, Layout.after], fun k before => ?_⟩
            rcases Nat.lt_succ_iff_lt_or_eq.mp before with earlier | rfl
            · exact inner k earlier
            · exact ends
        | true => exact .inr (.of_headerEnds kept unlike (small n) (layout ▸ ends) moved)
      · exact .inr (broken.transfer (small n) (Nat.le_trans (by decide) (wide n)) moved)

theorem headersInside_of_roundTrip (wide : ∀ k, 20 ≤ mtus k) (small : ∀ k, mtus k < 2 ^ 16)
    (reset : link.Reset) (few : msgs.length ≤ bleFifoSize) (fits : ∀ msg ∈ msgs, msg.Fits)
    (unlike : ∀ msg ∈ msgs, ¬ msg.SelfRepeating)
    (roundTrip : RoundTrip mtus (link.enqueue msgs) msgs) : HeadersInside mtus msgs := by
  obtain ⟨inStep, layout⟩ := InStep.start reset few fits
  obtain ⟨enough, arrives⟩ := roundTrip
  intro k
  obtain ⟨after, taken, equal, _⟩ := arrives (max enough (k + 1)) (Nat.le_max_left _ _)
  rcases inStep_or_broken wide small few unlike inStep _ taken with ⟨_, _, inner⟩ | broken
  · rw [← layout]
    exact inner k (Nat.lt_of_succ_le (Nat.le_max_right _ _))
  · exact absurd equal broken.unequal

/-- The framing round trip holds when no packet ends right after a header, and otherwise fails
unless some message repeats its own header in its payload. -/
theorem roundTrip_exact (wide : ∀ k, 20 ≤ mtus k) (small : ∀ k, mtus k < 2 ^ 16)
    (reset : link.Reset) (few : msgs.length ≤ bleFifoSize) (fits : ∀ msg ∈ msgs, msg.Fits) :
    (HeadersInside mtus msgs → RoundTrip mtus (link.enqueue msgs) msgs) ∧
      ((∀ msg ∈ msgs, ¬ msg.SelfRepeating) →
        (RoundTrip mtus (link.enqueue msgs) msgs ↔ HeadersInside mtus msgs)) :=
  ⟨roundTrip_of_headersInside wide small reset few fits, fun unlike =>
    ⟨headersInside_of_roundTrip wide small reset few fits unlike,
      roundTrip_of_headersInside wide small reset few fits⟩⟩

def spanningMsgs : List BleMsg :=
  [.make 1 0 (List.replicate 30 7) (by decide), .make 2 0 [] BleMsg.nil_fits, .make 3 9 [1, 2] (by decide)]

theorem roundTrip_spanning : RoundTrip (fun _ => 20) (initial.enqueue spanningMsgs) spanningMsgs :=
  (roundTrip_exact (fun _ => by decide) (fun _ => by decide) initial_reset (by decide) (by decide)).1
    (headersInside_of_settled 3 (by decide) (by decide))

def splitMsgs : List BleMsg :=
  [.make 1 0 [1, 2, 3, 4, 5, 6, 7, 8, 9, 10, 11] (by decide), .make 2 0 [12] (by decide)]

theorem roundTrip_split_fails :
    (∀ msg ∈ splitMsgs, msg.Fits) ∧ splitMsgs.length ≤ bleFifoSize ∧ initial.Reset ∧
      ((initial.enqueue splitMsgs).transmit (fun _ => 20) 2).map (·.pushed.map BleMsg.view) =
        some [(⟨1, 0, 11⟩, [1, 2, 3, 4, 5, 6, 7, 8, 9, 10, 11]), (⟨2, 0, 1⟩, [0xA5])] ∧
      ¬ RoundTrip (fun _ => 20) (initial.enqueue splitMsgs) splitMsgs := by
  refine ⟨by decide, by decide, initial_reset, by decide +kernel, fun roundTrip => ?_⟩
  have inside := headersInside_of_roundTrip (fun _ => by decide) (fun _ => by decide)
    initial_reset (by decide) (by decide) (by decide) roundTrip
  exact absurd (inside 0) (by decide)

end Link

end WatchFirmware.Ble
