import WatchFirmware.LvglBridge.LvglBridge
import WatchFirmware.Shared.ByteOrder
import WatchFirmware.WatchfaceMgr.WatchfaceMgr

set_option autoImplicit false

namespace WatchFirmware.SettingsApp

open Transition LvglBridge
open WatchfaceMgr (Home)

abbrev appPermSystem : AppPerms := 0xFFFF

def settingsAppPerms : AppPerms := appPermSystem

abbrev uint32Max : UInt32 := 0xFFFFFFFF

/-- A blob in the flash, and the saves of it that the workers have not come to yet. -/
structure Blob where
  stored : Option (List UInt8)
  saves : List (List UInt8)
  deriving DecidableEq, Repr

namespace Blob

-- `queued` is the answer of schedule_system_work.
def storageManagerSaveKey (blob : Blob) (data : List UInt8) (queued : Bool) : Bool × Blob :=
  (queued, if queued then { blob with saves := blob.saves ++ [data] } else blob)

-- A blob that is longer than the buffer is an error.
def storageManagerRetrieveKey (blob : Blob) (len : Nat) : Option (List UInt8) :=
  blob.stored.filter fun data => data.length ≤ len

-- The workers may write two saves in either order.
def executeWork (blob : Blob) (index : Nat) : Blob :=
  match blob.saves[index]? with
  | none => blob
  | some data => ⟨some data, blob.saves.eraseIdx index⟩

end Blob

inductive Row where
  | watchface
  | timeout
  | brightness
  | dfu
  deriving DecidableEq, Repr

structure PopupRegistry where
  popup : Bool
  -- the row whose select function is called
  selectCb : Option Row
  itemDataArray : Bool
  itemCount : Nat
  deriving DecidableEq, Repr

def PopupRegistry.empty : PopupRegistry := ⟨false, none, false, 0⟩

structure Settings where
  -- gpio_manager.c
  initialized : Bool
  backlightPercent : UInt8
  duty : Nat
  backlight : Blob
  -- lvgl_handler_thread.c
  inputTimeout : UInt32
  timeout : Blob
  -- wf_manager.c
  home : Home
  -- settings_ui.c
  wfCount : Nat
  wfItems : Bool
  baseContainer : Bool
  parentContainer : Bool
  wfValue : String
  valueLabel : Row → Option String
  registry : Row → PopupRegistry
  -- the events of trigger_dfu_over_uart
  dfuStarts : Nat

inductive Action where
  | openApp (allocated : Bool)
  /-- The app is closed and its screen deleted. -/
  | closeApp
  | click (row : Row) (allocated : Bool)
  | select (row : Row) (index : Nat) (queued : Bool)
  | escape (row : Row)
  | backlightWritten (index : Nat)
  | timeoutWritten (index : Nat)
  | displayOn (queued : Bool)
  | displayOff
  | wake (queued : Bool)
  | restart (home : Home) (queued : Bool)

namespace Settings

section GpioManager

def saveBacklightBrightness (s : Settings) (percent : UInt8) (queued : Bool) : Settings :=
  { s with backlight := (s.backlight.storageManagerSaveKey [percent] queued).2 }

-- none where the assertion fails.
def retrieveBacklightBrightness (s : Settings) (queued : Bool) : Option (UInt8 × Settings) :=
  match s.backlight.storageManagerRetrieveKey 1 with
  | some [percent] => if 100 < percent then some (100, s) else some (percent, s)
  | some _ => none
  | none =>
      let s := saveBacklightBrightness { s with backlightPercent := 100 } 100 queued
      some (s.backlightPercent, s)

def gpioManagerBacklightSetBrightness (s : Settings) (percent : Int) (queued : Bool) : Bool × Settings :=
  if !s.initialized || (percent < 0 || 100 < percent) then (false, s)
  else
    let pct := UInt8.ofNat percent.toNat
    let s := if pct ≠ s.backlightPercent then s.saveBacklightBrightness pct queued else s
    (true, { s with backlightPercent := pct, duty := (percent * 4095 / 100).toNat })

def gpioManagerPowerBacklight (s : Settings) (queued : Bool) : Settings :=
  if !s.initialized then s else (s.gpioManagerBacklightSetBrightness s.backlightPercent.toNat queued).2

def gpioManagerBacklightOff (s : Settings) : Settings :=
  if !s.initialized then s else { s with duty := 0 }

end GpioManager

section LvglHandlerThread

def timeoutBytes (timeout : UInt32) : List UInt8 :=
  [timeout.toUInt8, (timeout >>> 8).toUInt8, (timeout >>> 16).toUInt8, (timeout >>> 24).toUInt8]

def saveInputTimeout (s : Settings) (timeout : UInt32) (queued : Bool) : Bool × Settings :=
  let (success, blob) := s.timeout.storageManagerSaveKey (timeoutBytes timeout) queued
  (success, { s with timeout := blob })

def retrieveInputTimeout (s : Settings) (queued : Bool) : Option (UInt32 × Settings) :=
  match s.timeout.storageManagerRetrieveKey 4 with
  | some [data0, data1, data2, data3] =>
      let timeout := UInt32.ofNat
        (data3.toNat <<< 24 ||| data2.toNat <<< 16 ||| data1.toNat <<< 8 ||| data0.toNat <<< 0)
      if timeout.toNat < displayMinUserInputTimeout then
        let s := { s with inputTimeout := UInt32.ofNat displayMinUserInputTimeout }
        some (s.inputTimeout, (s.saveInputTimeout (UInt32.ofNat displayMinUserInputTimeout) queued).2)
      else some (timeout, s)
  | some _ => none
  | none =>
      let s := { s with inputTimeout := UInt32.ofNat displayMinUserInputTimeout }
      some (s.inputTimeout, (s.saveInputTimeout (UInt32.ofNat displayMinUserInputTimeout) queued).2)

def updateInputTimeout (s : Settings) (timeout : UInt32) (queued : Bool) : Option (Bool × Settings) :=
  if timeout.toNat < displayMinUserInputTimeout then none
  else some (saveInputTimeout { s with inputTimeout := timeout } timeout queued)

/-- `start_lvgl_thread`, which reads the timeout again. -/
def startLvglThread (s : Settings) (queued : Bool) : Option Settings :=
  (s.retrieveInputTimeout queued).map fun (timeout, s) => { s with inputTimeout := timeout }

def lvglBridgeUpdateInactivityTimeout (s : Settings) (timeout : UInt32) (queued : Bool) :
    Option (Bool × Settings) :=
  if timeout.toNat < displayMinUserInputTimeout then some (false, s) else s.updateInputTimeout timeout queued

end LvglHandlerThread

section CommonApis

def setSystemBrightness (perms : AppPerms) (s : Settings) (percent : Int) (queued : Bool) : Bool × Settings :=
  if !checkAppPermission perms appPermSystem then (false, s)
  else s.gpioManagerBacklightSetBrightness percent queued

def setSystemWatchface (perms : AppPerms) (s : Settings) (index : Nat) (queued : Bool) : Bool × Settings :=
  if !checkAppPermission perms appPermSystem then (false, s)
  else
    let (success, home) := s.home.watchfaceManagerSelectWf (UInt8.ofNat index) queued
    (success, { s with home })

def setUiInactivityTimeout (perms : AppPerms) (s : Settings) (timeout : UInt32) (queued : Bool) :
    Option (Bool × Settings) :=
  if !checkAppPermission perms appPermSystem then some (false, s)
  else s.lvglBridgeUpdateInactivityTimeout timeout queued

def triggerDfuOverUart (perms : AppPerms) (s : Settings) (published : Bool) : Bool × Settings :=
  if !checkAppPermission perms appPermSystem then (false, s)
  else (published, if published then { s with dfuStarts := s.dfuStarts + 1 } else s)

def getSystemSelectedWatchfaceName (s : Settings) : Option String :=
  if !s.home.initialized then none else s.home.selectedWf.map (·.name)

end CommonApis

section SettingsUi

def timeouts : List UInt32 := [5000, 7000, 10000, uint32Max]

def timeoutItems : List String := ["5s", "7s", "10s", "None"]

def brightnessPercent : List Int := [10, 25, 40, 60, 80, 100]

def brightnessItems : List String := ["10%", "25%", "40%", "60%", "80%", "100%"]

def confirmItems : List String := ["Yes", "No"]

def setLabel (s : Settings) (row : Row) (text : String) : Settings :=
  { s with
    valueLabel := Function.update s.valueLabel row (if (s.valueLabel row).isSome then some text else none) }

def selectWatchface (s : Settings) (index : Nat) (queued : Bool) : Option Settings :=
  let (success, s) := setSystemWatchface settingsAppPerms s index queued
  if !success then some s
  else
    match s.getSystemSelectedWatchfaceName with
    | some selectedWf => some (s.setLabel .watchface selectedWf)
    | none => some s

def selectTimeout (s : Settings) (index : Nat) (queued : Bool) : Option Settings :=
  match timeouts[index]?, timeoutItems[index]? with
  | some timeout, some title =>
      (setUiInactivityTimeout settingsAppPerms s timeout queued).map fun (success, s) =>
        if !success then s else s.setLabel .timeout title
  | _, _ => none

def selectBrightness (s : Settings) (index : Nat) (queued : Bool) : Option Settings :=
  match brightnessPercent[index]?, brightnessItems[index]? with
  | some percent, some title =>
      let (success, s) := setSystemBrightness settingsAppPerms s percent queued
      if !success then some s else some (s.setLabel .brightness title)
  | _, _ => none

def startDfuProcess (s : Settings) (index : Nat) (published : Bool) : Option Settings :=
  if index = 0 then some (triggerDfuOverUart settingsAppPerms s published).2 else some s

/-- The function that `select_cb` of a popup points to. -/
def selectCb (s : Settings) : Row → Nat → Bool → Option Settings
  | .watchface => s.selectWatchface
  | .timeout => s.selectTimeout
  | .brightness => s.selectBrightness
  | .dfu => s.startDfuProcess

end SettingsUi

section PopupListview

def deletePopupCb (s : Settings) (row : Row) : Settings :=
  if (s.registry row).itemDataArray then
    let emptied := { s.registry row with popup := false, itemDataArray := false, itemCount := 0 }
    { s with registry := Function.update s.registry row emptied }
  else s

def dismissPopup (s : Settings) (row : Row) : Option Settings :=
  if (s.registry row).popup then some (s.deletePopupCb row) else none

def selectItemCb (s : Settings) (row : Row) (index : Nat) (queued : Bool) : Option Settings := do
  let s ←
    match (s.registry row).selectCb with
    | some called => s.selectCb called index queued
    | none => some s
  s.dismissPopup row

def createPopupListview (s : Settings) (row : Row) (itemCount : Nat) (allocated : Bool) : Option Settings :=
  let registry := s.registry row
  if registry.popup || registry.itemDataArray || itemCount = 0 then none
  else
    let created : PopupRegistry :=
      if allocated then ⟨true, some row, true, itemCount⟩ else { registry with itemCount }
    some { s with registry := Function.update s.registry row created }

end PopupListview

/-- The open_..._popup function of a row. -/
def openPopup (s : Settings) (row : Row) (allocated : Bool) : Option Settings :=
  if !s.parentContainer then none
  else
    match row with
    | .watchface => if s.wfItems then s.createPopupListview row s.wfCount allocated else none
    | .timeout => s.createPopupListview row timeoutItems.length allocated
    | .brightness => s.createPopupListview row brightnessItems.length allocated
    | .dfu => s.createPopupListview row confirmItems.length allocated

def timeoutText (timeout : UInt32) : String :=
  let seconds := timeout / 1000
  if seconds ≠ uint32Max / 1000 then toString seconds.toNat ++ "s" else "None"

def brightnessText (percent : UInt8) : String := toString percent.toNat ++ "%"

def drawnLabel (s : Settings) (wfValue : String) : Row → Option String
  | .watchface => some wfValue
  | .timeout => some (timeoutText s.inputTimeout)
  | .brightness => some (brightnessText (if !s.initialized then 100 else s.backlightPercent))
  | .dfu => none

def drawSettingsAppUi (s : Settings) (allocated : Bool) : Settings :=
  let wfValue := s.getSystemSelectedWatchfaceName.getD s.wfValue
  let wfCount := if !s.home.initialized then 0 else s.home.allWfs.length
  if wfCount = 0 then { s with wfValue, wfCount }
  else if !allocated then { s with wfValue, wfCount, wfItems := false }
  else
    { s with
      wfValue, wfCount
      wfItems := true
      parentContainer := true
      baseContainer := true
      valueLabel := s.drawnLabel wfValue }

-- none is a deletion of NULL.
def deleteSettingsAppUi (s : Settings) : Option Settings :=
  if !s.baseContainer then none
  else some { s with wfItems := false, baseContainer := false, parentContainer := false, wfCount := 0 }

def deletePopups (s : Settings) (rows : List Row) : Settings :=
  rows.foldl (fun s row => if (s.registry row).popup then s.deletePopupCb row else s) s

/-- `close_curr_app`, and the deletion of the app's screen. -/
def closeCurrApp (s : Settings) : Option Settings :=
  s.deleteSettingsAppUi.map fun s => s.deletePopups [.watchface, .timeout, .brightness, .dfu]

/-- The static variables at a start. -/
def fresh (backlight timeout : Option (List UInt8)) (home : Home) : Settings where
  initialized := false
  backlightPercent := 100
  duty := 0
  backlight := ⟨backlight, []⟩
  inputTimeout := UInt32.ofNat displayMinUserInputTimeout
  timeout := ⟨timeout, []⟩
  home := home
  wfCount := 0
  wfItems := false
  baseContainer := false
  parentContainer := false
  wfValue := "Retro"
  valueLabel := fun _ => none
  registry := fun _ => .empty
  dfuStarts := 0

/-- `gpio_manager_init` and `init_lvgl`, as far as they are about settings. -/
def boot (backlight timeout : Option (List UInt8)) (home : Home) (queued : Bool) : Option Settings := do
  let (percent, s) ← (fresh backlight timeout home).retrieveBacklightBrightness queued
  startLvglThread { s with backlightPercent := percent, initialized := true } queued

def step : Step Settings Action := fun s action =>
  match action with
  | .openApp allocated => some (s.drawSettingsAppUi allocated)
  | .closeApp => s.closeCurrApp
  | .click row allocated => s.openPopup row allocated
  | .select row index queued => s.selectItemCb row index queued
  | .escape row => s.dismissPopup row
  | .backlightWritten index => some { s with backlight := s.backlight.executeWork index }
  | .timeoutWritten index => some { s with timeout := s.timeout.executeWork index }
  | .displayOn queued => some (s.gpioManagerPowerBacklight queued)
  | .displayOff => some s.gpioManagerBacklightOff
  | .wake queued => s.startLvglThread queued
  | .restart home queued => boot s.backlight.stored s.timeout.stored home queued

end Settings

end WatchFirmware.SettingsApp
