import WatchFirmware.Shared.Raster
import WatchFirmware.Shared.Transition

set_option autoImplicit false

namespace WatchFirmware.DisplayDriver

open Transition Raster

abbrev displayLcdHRes : Nat := 128
abbrev displayLcdVRes : Nat := 160
abbrev displayLvglChunkHeight : Nat := 40
abbrev displayLvglBufferSize : Nat := displayLcdHRes * displayLvglChunkHeight * 2

-- What init_lvgl gives to lv_display_set_offset.
abbrev offsetX : Int := 2
abbrev offsetY : Int := 1

abbrev Color := UInt8 × UInt8

inductive LcdCmd where
  | caset
  | raset
  | ramwr
  deriving DecidableEq, Repr

/-- The controller of the panel: the columns and rows that are written, the next cell, and its memory. -/
structure Chip where
  caset : Nat × Nat
  raset : Nat × Nat
  cursor : Cell
  gram : Cell → Color

namespace Chip

def addressWindow (chip : Chip) : Window := ⟨chip.caset.1, chip.caset.2, chip.raset.1, chip.raset.2⟩

def word (high low : UInt8) : Nat := high.toNat * 256 + low.toNat

def receive (chip : Chip) (cmd : LcdCmd) (params : List UInt8) : Chip :=
  match cmd, params with
  | .caset, [xs1, xs0, xe1, xe0] => { chip with caset := (word xs1 xs0, word xe1 xe0) }
  | .raset, [ys1, ys0, ye1, ye0] => { chip with raset := (word ys1 ys0, word ye1 ye0) }
  | .ramwr, _ => { chip with cursor := (chip.caset.1, chip.raset.1) }
  | _, _ => chip

def write (chip : Chip) (color : Color) : Chip :=
  { chip with
    gram := Function.update chip.gram chip.cursor color
    cursor := chip.addressWindow.next chip.cursor }

end Chip

structure St7735Panel where
  xGap : Int
  yGap : Int
  fbBitsPerPixel : Int
  deriving DecidableEq, Repr

structure LvArea where
  x1 : Int
  y1 : Int
  x2 : Int
  y2 : Int
  deriving DecidableEq, Repr

/-- Colors on their way: `buf` is the buffer that they are read from. -/
structure Transfer where
  buf : Bool
  sent : Nat
  len : Nat
  deriving DecidableEq, Repr

/-- The way of a picture from the two buffers of LVGL to the panel. LVGL draws into `bufAct`. -/
structure Pipeline where
  bufs : Bool → Nat → UInt8
  bufAct : Bool
  flushing : Bool
  panelHandle : Option St7735Panel
  transfer : Option Transfer
  chip : Chip

inductive Action where
  | render (offset : Nat) (byte : UInt8)
  -- `failed` is the command that cannot be sent, if there is one
  | flush (area : LvArea) (failed : Option LcdCmd)
  | dma
  | transferDone
  deriving DecidableEq, Repr

namespace Pipeline

-- st7335_driver.c

def highByte (x : Int) : UInt8 := UInt8.ofNat (x / 256 % 256).toNat

def lowByte (x : Int) : UInt8 := UInt8.ofNat (x % 256).toNat

def espLcdPanelIoTxParam (p : Pipeline) (cmd : LcdCmd) (params : List UInt8) : Pipeline :=
  { p with chip := p.chip.receive cmd params }

def espLcdPanelIoTxColor (p : Pipeline) (cmd : LcdCmd) (colorData : Bool) (len : Nat) : Pipeline :=
  { p with chip := p.chip.receive cmd [], transfer := some ⟨colorData, 0, len⟩ }

-- none where the assertion fails; the answer of the last command is not looked at.
def panelSt7735DrawBitmap (p : Pipeline) (panel : St7735Panel) (xStart yStart xEnd yEnd : Int) (colorData : Bool)
    (failed : Option LcdCmd) : Option (Bool × Pipeline) :=
  if ¬(xStart < xEnd ∧ yStart < yEnd) then none
  else
    let xStart := xStart + panel.xGap
    let xEnd := xEnd + panel.xGap
    let yStart := yStart + panel.yGap
    let yEnd := yEnd + panel.yGap
    if failed = some .caset then some (false, p)
    else
      let p :=
        p.espLcdPanelIoTxParam .caset [highByte xStart, lowByte xStart, highByte (xEnd - 1), lowByte (xEnd - 1)]
      if failed = some .raset then some (false, p)
      else
        let p :=
          p.espLcdPanelIoTxParam .raset [highByte yStart, lowByte yStart, highByte (yEnd - 1), lowByte (yEnd - 1)]
        let len := ((xEnd - xStart) * (yEnd - yStart) * panel.fbBitsPerPixel / 8).toNat
        some (true, if failed = some .ramwr then p else p.espLcdPanelIoTxColor .ramwr colorData len)

-- display_driver.c

def displayDrawBitmap (p : Pipeline) (x1 y1 x2 y2 : Int) (pixels : Bool) (failed : Option LcdCmd) : Option Pipeline :=
  match p.panelHandle with
  | none => some p
  | some panel => (p.panelSt7735DrawBitmap panel x1 y1 x2 y2 pixels failed).map Prod.snd

-- lvgl_bridge.c

def flushDoneCb (p : Pipeline) : Pipeline := { p with flushing := false }

def spiTransferDoneCb (p : Pipeline) : Pipeline := p.flushDoneCb

def lvglDisplayFlushCb (p : Pipeline) (area : LvArea) (pxMap : Bool) (failed : Option LcdCmd) : Option Pipeline :=
  p.displayDrawBitmap area.x1 area.y1 (area.x2 + 1) (area.y2 + 1) pxMap failed

def flush (p : Pipeline) (area : LvArea) (failed : Option LcdCmd) : Option Pipeline :=
  if p.flushing then none
  else
    let moved : LvArea := ⟨area.x1 + offsetX, area.y1 + offsetY, area.x2 + offsetX, area.y2 + offsetY⟩
    (lvglDisplayFlushCb { p with flushing := true } moved p.bufAct failed).map fun flushed =>
      { flushed with bufAct := !p.bufAct }

def step : Step Pipeline Action := fun p action =>
  match action, p.transfer with
  | .render offset byte, _ =>
      some { p with bufs := Function.update p.bufs p.bufAct (Function.update (p.bufs p.bufAct) offset byte) }
  | .flush area failed, _ => p.flush area failed
  | .dma, some transfer =>
      if transfer.sent < transfer.len then
        let buf := p.bufs transfer.buf
        some { p with
          chip := p.chip.write (buf transfer.sent, buf (transfer.sent + 1))
          transfer := some { transfer with sent := transfer.sent + 2 } }
      else none
  | .transferDone, some transfer =>
      if transfer.len ≤ transfer.sent then some (spiTransferDoneCb { p with transfer := none }) else none
  | _, none => none

end Pipeline

end WatchFirmware.DisplayDriver
