import WatchFirmware.DisplayDriver.Flush
import WatchFirmware.Shared.Refinement

set_option autoImplicit false

namespace WatchFirmware.DisplayDriver

open Transition Raster

structure LvArea.OnScreen (area : LvArea) : Prop where
  columns : 0 ≤ area.x1 ∧ area.x1 ≤ area.x2 ∧ area.x2 < displayLcdHRes
  rows : 0 ≤ area.y1 ∧ area.y1 ≤ area.y2 ∧ area.y2 < displayLcdVRes
  fits : (area.x2 - area.x1 + 1) * (area.y2 - area.y1 + 1) * 2 ≤ displayLvglBufferSize

instance (area : LvArea) : Decidable area.OnScreen :=
  decidable_of_iff (_ ∧ _ ∧ _) ⟨fun ⟨columns, rows, fits⟩ => ⟨columns, rows, fits⟩,
    fun onScreen => ⟨onScreen.columns, onScreen.rows, onScreen.fits⟩⟩

def LvArea.window (area : LvArea) : Window where
  left := (area.x1 + offsetX).toNat
  right := (area.x2 + offsetX).toNat
  top := (area.y1 + offsetY).toNat
  bottom := (area.y2 + offsetY).toNat

def colors (buf : Nat → UInt8) (index : Nat) : Color := (buf (2 * index), buf (2 * index + 1))

/-- The display with flushes that take no time. -/
structure Screen where
  bufs : Bool → Nat → UInt8
  bufAct : Bool
  cells : Cell → Color
  -- the picture before the last flush
  previous : Cell → Color
  busy : Bool
  stuck : Bool

def Screen.start (bufs : Bool → Nat → UInt8) (chip : Chip) : Screen :=
  ⟨bufs, false, chip.gram, chip.gram, false, false⟩

def Screen.step : Step Screen Action := fun s action =>
  match action with
  | .render offset byte =>
      some { s with bufs := Function.update s.bufs s.bufAct (Function.update (s.bufs s.bufAct) offset byte) }
  | .flush area failed =>
      if s.busy then none
      else
        some { s with
          bufAct := !s.bufAct
          cells := if failed.isNone then paint area.window (colors (s.bufs s.bufAct)) s.cells else s.cells
          previous := s.cells
          busy := true
          stuck := failed.isSome }
  | .dma => some s
  | .transferDone => some { s with busy := false }

section Window

variable {area : LvArea}

theorem word_bytes {x : Int} (low : 0 ≤ x) (high : x < 65536) :
    Chip.word (Pipeline.highByte x) (Pipeline.lowByte x) = x.toNat := by
  have first : (Pipeline.highByte x).toNat = (x / 256 % 256).toNat := by
    rw [Pipeline.highByte, UInt8.toNat_ofNat']
    omega
  have second : (Pipeline.lowByte x).toNat = (x % 256).toNat := by
    rw [Pipeline.lowByte, UInt8.toNat_ofNat']
    omega
  rw [Chip.word, first, second]
  omega

theorem LvArea.OnScreen.bounds (onScreen : area.OnScreen) :
    (0 ≤ area.x1 ∧ area.x1 ≤ area.x2 ∧ area.x2 < 128) ∧ 0 ≤ area.y1 ∧ area.y1 ≤ area.y2 ∧ area.y2 < 160 :=
  ⟨onScreen.columns, onScreen.rows⟩

theorem LvArea.OnScreen.window_wf (onScreen : area.OnScreen) : area.window.Wf := by
  obtain ⟨⟨_, columns, _⟩, _, rows, _⟩ := onScreen.bounds
  constructor
  case columns =>
    unfold LvArea.window
    dsimp only
    omega
  case rows =>
    unfold LvArea.window
    dsimp only
    omega

theorem LvArea.OnScreen.window_size (onScreen : area.OnScreen) :
    (area.window.size : Int) = (area.x2 - area.x1 + 1) * (area.y2 - area.y1 + 1) := by
  obtain ⟨⟨left, columns, _⟩, top, rows, _⟩ := onScreen.bounds
  have width : (area.window.width : Int) = area.x2 - area.x1 + 1 := by
    unfold LvArea.window Window.width offsetX
    dsimp only
    omega
  have height : (area.window.height : Int) = area.y2 - area.y1 + 1 := by
    unfold LvArea.window Window.height offsetY
    dsimp only
    omega
  rw [Window.size, Nat.cast_mul, width, height]

end Window

namespace Pipeline

variable {p : Pipeline} {area : LvArea}

def initPanel : St7735Panel := ⟨0, 0, 16⟩

theorem flush_sent (free : p.flushing = false) (panel : p.panelHandle = some initPanel) (onScreen : area.OnScreen) :
    p.flush area none = some
      { p with
        bufAct := !p.bufAct
        flushing := true
        transfer := some ⟨p.bufAct, 0, 2 * area.window.size⟩
        chip :=
          { caset := (area.window.left, area.window.right)
            raset := (area.window.top, area.window.bottom)
            cursor := (area.window.left, area.window.top)
            gram := p.chip.gram } } := by
  have size := onScreen.window_size
  obtain ⟨⟨left, columns, right⟩, top, rows, bottom⟩ := onScreen.bounds
  have ordered : area.x1 + 2 < area.x2 + 2 + 1 ∧ area.y1 + 1 < area.y2 + 1 + 1 := by omega
  have len : ((area.x2 + 2 + 1 - (area.x1 + 2)) * (area.y2 + 1 + 1 - (area.y1 + 1)) * 16 / 8).toNat =
      2 * area.window.size := by
    have width : area.x2 + 2 + 1 - (area.x1 + 2) = area.x2 - area.x1 + 1 := by omega
    have height : area.y2 + 1 + 1 - (area.y1 + 1) = area.y2 - area.y1 + 1 := by omega
    rw [width, height, ← size]
    omega
  have xs := @word_bytes (area.x1 + 2) (by omega) (by omega)
  have xe := @word_bytes (area.x2 + 2) (by omega) (by omega)
  have ys := @word_bytes (area.y1 + 1) (by omega) (by omega)
  have ye := @word_bytes (area.y2 + 1) (by omega) (by omega)
  have lastColumn : area.x2 + 2 + 1 - 1 = area.x2 + 2 := by omega
  have lastRow : area.y2 + 1 + 1 - 1 = area.y2 + 1 := by omega
  simp only [flush, free, lvglDisplayFlushCb, displayDrawBitmap, panel, panelSt7735DrawBitmap, initPanel, ordered,
    add_zero, espLcdPanelIoTxParam, espLcdPanelIoTxColor, Chip.receive, len, lastColumn, lastRow, xs, xe, ys, ye]
  rfl

theorem flush_failed (free : p.flushing = false) (panel : p.panelHandle = some initPanel) (onScreen : area.OnScreen)
    (failed : LcdCmd) : ∃ chip : Chip, chip.gram = p.chip.gram ∧
      p.flush area (some failed) = some { p with bufAct := !p.bufAct, flushing := true, chip } := by
  obtain ⟨⟨_, columns, _⟩, _, rows, _⟩ := onScreen.bounds
  have ordered : area.x1 + 2 < area.x2 + 2 + 1 ∧ area.y1 + 1 < area.y2 + 1 + 1 := by omega
  simp only [flush, free, lvglDisplayFlushCb, displayDrawBitmap, panel, panelSt7735DrawBitmap, initPanel, ordered,
    espLcdPanelIoTxParam, Chip.receive]
  -- The equation of the states determines the chip.
  cases failed with
  | caset | raset | ramwr =>
      refine ⟨_, ?_, rfl⟩
      rfl

/-- A transfer between its first byte and its last: what was sent is in the memory, row by row. -/
structure Transferring (p : Pipeline) (s : Screen) (transfer : Transfer) (window : Window) (count : Nat) : Prop where
  wf : window.Wf
  addressWindow : p.chip.addressWindow = window
  len : transfer.len = 2 * window.size
  inBuffer : transfer.len ≤ displayLvglBufferSize
  sent : transfer.sent = 2 * count
  bound : count ≤ window.size
  apart : transfer.buf = !p.bufAct
  cursor : count < window.size → p.chip.cursor = window.cell count
  gram : p.chip.gram = paintFirst window (colors (p.bufs transfer.buf)) count s.previous
  cells : s.cells = paint window (colors (p.bufs transfer.buf)) s.previous

structure Shows (p : Pipeline) (s : Screen) : Prop where
  panelHandle : p.panelHandle = some initPanel
  bufs : p.bufs = s.bufs
  bufAct : p.bufAct = s.bufAct
  flushing : p.flushing = s.busy
  idle : p.transfer = none → p.chip.gram = s.cells ∧ s.busy = s.stuck
  active : ∀ transfer, p.transfer = some transfer →
    s.busy = true ∧ s.stuck = false ∧ ∃ window count, p.Transferring s transfer window count

def Allowed (p : Pipeline) : Action → Prop
  | .render offset _ => offset < displayLvglBufferSize
  | .flush area _ => area.OnScreen
  | .dma => ∃ transfer ∈ p.transfer, transfer.sent < transfer.len
  | .transferDone => ∃ transfer ∈ p.transfer, transfer.len ≤ transfer.sent

instance (p : Pipeline) (action : Action) : Decidable (p.Allowed action) := by
  cases action with
  | render _ _ | flush _ _ | dma | transferDone =>
      unfold Allowed
      infer_instance

variable {s : Screen} {transfer : Transfer} {window : Window} {count : Nat}

theorem Transferring.render (moving : p.Transferring s transfer window count) (bufs : Bool → Nat → UInt8)
    (offset : Nat) (byte : UInt8) :
    Transferring
      { p with bufs := Function.update p.bufs p.bufAct (Function.update (p.bufs p.bufAct) offset byte) }
      { s with bufs } transfer window count := by
  have other : transfer.buf ≠ p.bufAct := by
    rw [moving.apart]
    exact Bool.not_ne_self _
  have kept : Function.update p.bufs p.bufAct (Function.update (p.bufs p.bufAct) offset byte) transfer.buf =
      p.bufs transfer.buf := Function.update_of_ne other _ _
  constructor
  case wf => exact moving.wf
  case addressWindow => exact moving.addressWindow
  case len => exact moving.len
  case inBuffer => exact moving.inBuffer
  case sent => exact moving.sent
  case bound => exact moving.bound
  case apart => exact moving.apart
  case cursor => exact moving.cursor
  case gram =>
    dsimp only
    rw [kept, moving.gram]
  case cells =>
    dsimp only
    rw [kept, moving.cells]

theorem Transferring.dma (moving : p.Transferring s transfer window count) (more : transfer.sent < transfer.len) :
    Transferring
      { p with
        chip := p.chip.write (p.bufs transfer.buf transfer.sent, p.bufs transfer.buf (transfer.sent + 1))
        transfer := some { transfer with sent := transfer.sent + 2 } }
      s { transfer with sent := transfer.sent + 2 } window (count + 1) := by
  have inside : count < window.size := by
    have sent := moving.sent
    have len := moving.len
    omega
  have color : (p.bufs transfer.buf transfer.sent, p.bufs transfer.buf (transfer.sent + 1)) =
      colors (p.bufs transfer.buf) count := by
    rw [moving.sent]
    rfl
  constructor
  case wf => exact moving.wf
  case addressWindow => exact moving.addressWindow
  case len => exact moving.len
  case inBuffer => exact moving.inBuffer
  case sent =>
    have sent := moving.sent
    dsimp only
    omega
  case bound => exact inside
  case apart => exact moving.apart
  case cursor =>
    intro next
    dsimp only [Chip.write]
    rw [moving.addressWindow, moving.cursor inside]
    exact Window.next_cell moving.wf next
  case gram =>
    dsimp only [Chip.write]
    rw [color, moving.cursor inside, moving.gram]
    exact paintFirst_succ moving.wf inside
  case cells => exact moving.cells

theorem Transferring.all_sent (moving : p.Transferring s transfer window count) (all : transfer.len ≤ transfer.sent) :
    p.chip.gram = s.cells := by
  have complete : count = window.size := by
    have sent := moving.sent
    have len := moving.len
    have bound := moving.bound
    omega
  rw [moving.gram, moving.cells, complete, paintFirst_size]

theorem shows_flush (shows : p.Shows s) {area : LvArea} (onScreen : area.OnScreen) (failed : Option LcdCmd) :
    Option.Rel Shows (p.flush area failed) (s.step (.flush area failed)) := by
  cases busy : s.busy with
  | true =>
      have waits : p.flush area failed = none := by simp [flush, shows.flushing, busy]
      have refused : s.step (.flush area failed) = none := by simp [Screen.step, busy]
      rw [waits, refused]
      exact .none
  | false =>
      have free : p.flushing = false := shows.flushing.trans busy
      have none_ : p.transfer = none := by
        cases transfer : p.transfer with
        | none => rfl
        | some moving =>
            have taken := (shows.active moving transfer).1
            rw [busy] at taken
            cases taken
      obtain ⟨gram, _⟩ := shows.idle none_
      cases failed with
      | none =>
          have size := onScreen.window_size
          have fits : (2 * area.window.size : Nat) ≤ displayLvglBufferSize := by
            have promised := onScreen.fits
            rw [← size] at promised
            omega
          rw [flush_sent free shows.panelHandle onScreen]
          simp only [Screen.step, busy, Bool.false_eq_true, if_false, Option.isNone_none, if_true, Option.isSome_none]
          refine .some ⟨shows.panelHandle, shows.bufs, ?_, rfl, fun idle => (by cases idle), ?_⟩
          next => exact congrArg not shows.bufAct
          next =>
            intro transfer started
            cases started
            refine ⟨rfl, rfl, area.window, 0, ?_⟩
            constructor
            case wf => exact onScreen.window_wf
            case addressWindow => rfl
            case len => rfl
            case inBuffer => exact fits
            case sent => rfl
            case bound => exact Nat.zero_le _
            case apart => exact (Bool.not_not _).symm
            case cursor => exact fun _ => Window.cell_zero.symm
            case gram => exact gram.trans paintFirst_zero.symm
            case cells => rw [shows.bufs, shows.bufAct]
      | some cmd =>
          obtain ⟨chip, same, flushed⟩ := flush_failed free shows.panelHandle onScreen cmd
          rw [flushed]
          simp only [Screen.step, busy, Bool.false_eq_true, if_false, Option.isNone_some, Option.isSome_some]
          refine .some ⟨shows.panelHandle, shows.bufs, ?_, rfl, fun _ => ⟨same.trans gram, rfl⟩, ?_⟩
          next => exact congrArg not shows.bufAct
          next =>
            intro transfer started
            rw [none_] at started
            cases started

theorem shows_refines : Refinement.Refines step Screen.step Allowed Shows := by
  intro p s action shows allowed
  cases action with
  | render offset byte =>
      refine .some ⟨shows.panelHandle, ?_, shows.bufAct, shows.flushing, shows.idle, ?_⟩
      next =>
        dsimp only
        rw [shows.bufs, shows.bufAct]
      next =>
        intro transfer moving
        obtain ⟨busy, stuck, window, count, part⟩ := shows.active transfer moving
        exact ⟨busy, stuck, window, count, part.render _ offset byte⟩
  | flush area failed => exact shows_flush shows allowed failed
  | dma =>
      obtain ⟨transfer, found, more⟩ := allowed
      have moving : p.transfer = some transfer := found
      obtain ⟨busy, stuck, window, count, part⟩ := shows.active transfer moving
      simp only [step, moving, if_pos more]
      refine .some ⟨shows.panelHandle, shows.bufs, shows.bufAct, shows.flushing, fun idle => (by cases idle), ?_⟩
      intro other same
      cases same
      exact ⟨busy, stuck, window, count + 1, part.dma more⟩
  | transferDone =>
      obtain ⟨transfer, found, all⟩ := allowed
      have moving : p.transfer = some transfer := found
      obtain ⟨_, stuck, window, count, part⟩ := shows.active transfer moving
      simp only [step, moving, if_pos all]
      refine .some ⟨shows.panelHandle, shows.bufs, shows.bufAct, rfl, fun _ => ⟨part.all_sent all, stuck.symm⟩, ?_⟩
      intro other none_
      cases none_

/-- After `init_lvgl`, with whatever the buffers and the memory of the chip contain. -/
def start (bufs : Bool → Nat → UInt8) (chip : Chip) : Pipeline := ⟨bufs, false, false, some initPanel, none, chip⟩

theorem start_shows (bufs : Bool → Nat → UInt8) (chip : Chip) :
    (start bufs chip).Shows (Screen.start bufs chip) :=
  ⟨rfl, rfl, rfl, rfl, fun _ => ⟨rfl, rfl⟩, fun transfer moving => by cases moving⟩

/-- DMA alone takes a transfer to its end, and then LVGL may flush again. -/
theorem Transferring.completes (moving : p.transfer = some transfer) (part : p.Transferring s transfer window count) :
    ∃ after, run step p (List.replicate (window.size - count) .dma ++ [.transferDone]) = some after ∧
      after.chip.gram = s.cells ∧ after.flushing = false ∧ after.transfer = none := by
  induction remaining : window.size - count generalizing p transfer count with
  | zero =>
      have all : transfer.len ≤ transfer.sent := by
        have sent := part.sent
        have len := part.len
        omega
      refine ⟨spiTransferDoneCb { p with transfer := none }, ?_, part.all_sent all, rfl, rfl⟩
      simp [run, step, moving, all]
  | succ more ih =>
      have unsent : transfer.sent < transfer.len := by
        have sent := part.sent
        have len := part.len
        omega
      obtain ⟨after, ran, ended⟩ := ih rfl (part.dma unsent) (by omega)
      refine ⟨after, ?_, ended⟩
      simp only [List.replicate_succ, List.cons_append, run, step, moving, if_pos unsent, Option.bind_some]
      exact ran

/-- However drawing, flushes and the bytes of a transfer interleave, the panel shows what flushes that take no time
show: when no transfer is going on, all of it, else each cell as before the last flush or as after it. What is being
sent is never drawn over, a transfer goes to its end without LVGL, and LVGL waits forever just where a command of the
last flush could not be sent. -/
theorem flushes_atomic {bufs : Bool → Nat → UInt8} {chip : Chip} {actions : List Action}
    (allowed : Guarded step Allowed (start bufs chip) actions) {p : Pipeline}
    (ran : run step (start bufs chip) actions = some p) :
    ∃ s, run Screen.step (Screen.start bufs chip) actions = some s ∧
      p.bufs = s.bufs ∧
      (p.transfer = none → p.chip.gram = s.cells) ∧
      (∀ transfer, p.transfer = some transfer →
        transfer.buf ≠ p.bufAct ∧ transfer.len ≤ displayLvglBufferSize ∧
        (∀ cell, p.chip.gram cell = s.previous cell ∨ p.chip.gram cell = s.cells cell) ∧
        ∃ rest after, run step p (List.replicate rest .dma ++ [.transferDone]) = some after ∧
          after.chip.gram = s.cells ∧ after.flushing = false) ∧
      (s.stuck = true ↔ p.flushing = true ∧ p.transfer = none) ∧
      (s.stuck = true → ∀ area failed, step p (.flush area failed) = none) := by
  obtain ⟨s, spec, shows⟩ := shows_refines.run_some (start_shows bufs chip) allowed ran
  have waiting : s.stuck = true ↔ p.flushing = true ∧ p.transfer = none := by
    cases moving : p.transfer with
    | none =>
        rw [shows.flushing, (shows.idle moving).2]
        exact ⟨fun stuck => ⟨stuck, rfl⟩, And.left⟩
    | some transfer =>
        rw [(shows.active transfer moving).2.1]
        exact ⟨fun stuck => (by cases stuck), fun idle => (by cases idle.2)⟩
  refine ⟨s, spec, shows.bufs, fun idle => (shows.idle idle).1, ?_, waiting, ?_⟩
  next =>
    intro transfer moving
    obtain ⟨_, _, window, count, part⟩ := shows.active transfer moving
    obtain ⟨after, complete, same, free, _⟩ := part.completes moving
    refine ⟨?_, part.inBuffer, fun cell => ?_, _, after, complete, same, free⟩
    next =>
      rw [part.apart]
      exact Bool.not_ne_self _
    next =>
      rw [part.gram, part.cells]
      exact paintFirst_old_or_new count cell
  next =>
    intro stuck area failed
    have flushing := (waiting.mp stuck).1
    simp [step, flush, flushing]

theorem flushes_atomic_stuck : ∃ p,
    run step (start (fun _ _ => 0) ⟨(0, 0), (0, 0), (0, 0), fun _ => (0, 0)⟩)
      [.render 0 248, .render 1 1, .flush ⟨5, 7, 5, 7⟩ none, .render 0 7, .dma, .transferDone,
        .flush ⟨0, 0, 127, 39⟩ (some .raset)] = some p ∧
      p.chip.gram (7, 8) = (248, 1) ∧ ∀ area failed, step p (.flush area failed) = none := by
  have ran : (run step (start (fun _ _ => 0) ⟨(0, 0), (0, 0), (0, 0), fun _ => (0, 0)⟩)
      [.render 0 248, .render 1 1, .flush ⟨5, 7, 5, 7⟩ none, .render 0 7, .dma, .transferDone,
        .flush ⟨0, 0, 127, 39⟩ (some .raset)]).isSome = true := by decide
  obtain ⟨p, ran⟩ := Option.isSome_iff_exists.mp ran
  obtain ⟨s, spec, _, _, _, _, hung⟩ := flushes_atomic (of_decide_eq_true (by decide +kernel)) ran
  cases ran
  cases spec
  exact ⟨_, rfl, rfl, hung rfl⟩

end Pipeline

end WatchFirmware.DisplayDriver
