import WatchFirmware.AppMgr.AppPicker
import WatchFirmware.Common.DateTime
import WatchFirmware.StateManager.WatchState

set_option autoImplicit false

namespace WatchFirmware.WatchfaceMgr

open Transition CommonApis Ble
open AppMgr (UiState)
open StateManager (Watch)

structure Watchface where
  name : String
  -- whether `del_watchface` is set; the other two are asserted to be
  deletes : Bool
  deriving DecidableEq

structure WfUpdatePayload where
  time : DateTime
  weather : HourlyWeather
  steps : UInt32
  deriving DecidableEq

inductive WfCall where
  | drawWatchface (wf : Watchface)
  | updateWatchface (wf : Watchface) (payload : WfUpdatePayload)
  | delWatchface (wf : Watchface)
  deriving DecidableEq

/-- What `dispatch_wf_update` has read when it is between two statements. -/
inductive Update where
  | entered
  | dated (date : DateTime)
  | weathered (date : DateTime) (weather : HourlyWeather)
  | counted (payload : WfUpdatePayload)
  deriving DecidableEq

abbrev maxWatchfaces : Nat := 10

structure Home where
  -- the first num_wfs entries
  allWfs : List Watchface
  selectedWf : Option Watchface
  currWf : Option Watchface
  initialized : Bool
  -- "WF_IDX" in the flash, and the saves of it that the workers have not come to yet
  wfIdx : Option UInt8
  saves : List UInt8
  -- dispatch_wf_update is the only handler of EVENT_WATCHFACE_UPDATE, and is put in once at most
  subscribed : Bool
  -- the timer of TICK_WATCHFACE runs
  ticking : Bool
  updating : Option Update
  -- UISTATE_INVALID until the base screen is drawn
  currWatchState : Option UiState
  shell : Bool
  -- the alarm page with the hour and the minute on it
  background : Option (Nat × Nat)
  expiryTimer : Bool
  wakelocks : Nat
  -- between suspend_lvgl and resume_lvgl
  asleep : Bool
  watch : Watch
  calls : List WfCall

namespace Home

/-- Behind `watchface_manager_init` in `app_main`. -/
def started (wfIdx : Option UInt8) (watch : Watch) : Home where
  allWfs := []
  selectedWf := none
  currWf := none
  initialized := true
  wfIdx
  saves := []
  subscribed := false
  ticking := false
  updating := none
  currWatchState := none
  shell := false
  background := none
  expiryTimer := false
  wakelocks := 0
  asleep := false
  watch
  calls := []

section Manager

def watchfaceManagerRegisterWf (home : Home) (wf : Watchface) : Home :=
  if !home.initialized then home
  else if maxWatchfaces ≤ home.allWfs.length then home
  else { home with allWfs := home.allWfs ++ [wf] }

-- `queued` is the answer of storage_manager_save_key.
def watchfaceManagerSelectWf (home : Home) (idx : UInt8) (queued : Bool) : Bool × Home :=
  if !home.initialized then (false, home)
  else if home.allWfs.length = 0 ∨ home.allWfs.length ≤ idx.toNat then (false, home)
  else (queued, { home with
    selectedWf := home.allWfs[idx.toNat]?
    saves := if queued then home.saves ++ [idx] else home.saves })

-- none where an assertion fails.
def watchfaceManagerGetSelectedWf (home : Home) (queued : Bool) : Option (Option Watchface × Home) :=
  if !home.initialized then some (none, home)
  else
    match home.selectedWf, home.wfIdx with
    | some wf, _ => some (some wf, home)
    | none, some idx =>
        let idx := if home.allWfs.length ≤ idx.toNat then 0 else idx
        home.allWfs[idx.toNat]?.map fun wf => (some wf, { home with selectedWf := some wf })
    | none, none =>
        home.allWfs[0]?.map fun wf =>
          (some wf, (watchfaceManagerSelectWf { home with selectedWf := some wf } 0 queued).2)

def watchfaceManagerStartWf (home : Home) (queued : Bool) : Option Home :=
  if !home.initialized then some home
  else do
    let (wf?, home) ← home.watchfaceManagerGetSelectedWf queued
    let wf ← wf?
    some { home with
      currWf := some wf, calls := home.calls ++ [.drawWatchface wf], subscribed := true, ticking := true }

def watchfaceManagerStopWf (home : Home) : Home :=
  if !home.initialized then home
  else
    match home.currWf with
    | none => home
    | some wf =>
        { home with
          calls := if wf.deletes then home.calls ++ [.delWatchface wf] else home.calls
          subscribed := false, ticking := false, currWf := none }

def watchfaceManagerSuspend (home : Home) : Home :=
  if !home.initialized || home.currWf.isNone then home
  else { home with subscribed := false, ticking := false }

def watchfaceManagerResume (home : Home) : Home :=
  if !home.initialized || home.currWf.isNone then home
  else { home with subscribed := true, ticking := true }

/-- `tick_event_cb` for TICK_WATCHFACE, up to the first statement of `dispatch_wf_update`. -/
def tickEventCb (home : Home) : Home :=
  if home.subscribed && home.initialized && home.currWf.isSome then { home with updating := some .entered }
  else home

/-- The next statement of `dispatch_wf_update`; none is a read behind the 24 hours, or `assert(curr_wf)`. -/
def dispatchWfUpdate (home : Home) : Update → Option Home
  | .entered =>
      some { home with
        updating := some (.dated (getDateTimeFromEpoch home.watch.stateManagerGetEpochTime.toNat)) }
  | .dated date =>
      if inDay : date.hr < 24 then
        some { home with
          updating := some (.weathered date (home.watch.stateManagerGetWeatherToday ⟨date.hr, inDay⟩)) }
      else none
  | .weathered date weather =>
      some { home with updating := some (.counted ⟨date, weather, home.watch.stateManagerGetStepCount⟩) }
  | .counted payload =>
      home.currWf.map fun wf =>
        { home with updating := none, calls := home.calls ++ [.updateWatchface wf payload] }

end Manager

section BasePage

-- The handlers of the other two tabs have nothing to do with the watchfaces.
def onDraw (home : Home) (queued : Bool) : UiState → Option Home
  | .watchface => home.watchfaceManagerStartWf queued
  | .notify | .app => some home

def onClose (home : Home) : UiState → Home
  | .watchface => home.watchfaceManagerStopWf
  | .notify | .app => home

def onSuspend (home : Home) : UiState → Home
  | .watchface => home.watchfaceManagerSuspend
  | .notify | .app => home

def onResume (home : Home) : UiState → Home
  | .watchface => home.watchfaceManagerResume
  | .notify | .app => home

-- `locked` is the answer of the UI lock to draw_tab_page.
def showPage (home : Home) (queued locked : Bool) (page : UiState) : Option Home :=
  if home.shell then none
  else if locked then onDraw { home with shell := true } queued page
  else some home

def closeCurrPage (home : Home) : Option Home :=
  home.currWatchState.map fun page => { home.onClose page with shell := false }

/-- `handle_right_action_on_root` and `handle_left_action_on_root`; the LVGL task has the UI lock already. -/
def handleActionOnRoot (home : Home) (queued : Bool) (turn : UiState → Option UiState) : Option Home :=
  home.currWatchState.bind fun page =>
    match turn page with
    | none => some home
    | some page => do
        let home ← home.closeCurrPage
        showPage { home with currWatchState := some page } queued true page

def uiBaseDrawBaseScreen (home : Home) (queued locked shellLocked : Bool) : Option Home :=
  let home := if locked then { home with currWatchState := some .watchface } else home
  home.currWatchState.bind (home.showPage queued shellLocked)

def uiBaseCleanBaseScreen (home : Home) : Option Home := home.closeCurrPage

def uiBaseSuspendBaseScreen (home : Home) : Option Home := home.currWatchState.map home.onSuspend

def uiBaseResumeBaseScreen (home : Home) : Option Home := home.currWatchState.map home.onResume

end BasePage

section AlarmPage

def showAlarmPage (home : Home) (dt : DateTime) (locked : Bool) : Home :=
  if home.background.isSome || !locked then home
  else { home with
    wakelocks := home.wakelocks + 1, background := some (dt.hr, dt.min), expiryTimer := true }

def uiBaseHandleBaseScreenEvent (home : Home) (epoch : UInt32) (locked : Bool) : Option Home :=
  home.uiBaseSuspendBaseScreen.map fun home => home.showAlarmPage (getDateTimeFromEpoch epoch.toNat) locked

-- The LVGL task, which comes here with a key or its timer, has the UI lock already.
def alarmScreenExitCleanup (home : Home) : Option Home :=
  if home.background.isNone then some home
  else
    (uiBaseResumeBaseScreen { home with background := none, wakelocks := home.wakelocks - 1 }).map fun home =>
      { home with expiryTimer := false }

def dismissBtnClickCb (home : Home) : Option Home :=
  if home.expiryTimer then home.alarmScreenExitCleanup else some home

end AlarmPage

end Home

inductive Action where
  | registerWf (wf : Watchface)
  | selectWf (idx : UInt8) (queued : Bool)
  /-- A worker is done with one of the saves, which may have failed. -/
  | save (index : Nat) (written : Bool)
  | uiOn (queued locked shellLocked : Bool)
  | uiOff
  | right (queued : Bool)
  | left (queued : Bool)
  | uiSleep
  | uiResume
  | tick
  | update
  | alarm (epoch : UInt32) (locked : Bool)
  | dismiss
  | alarmExpiry
  | watch (action : StateManager.Action)

namespace Home

def saveDone (home : Home) (index : Nat) (written : Bool) : Home :=
  { home with
    saves := home.saves.eraseIdx index
    wfIdx := if written then home.saves[index]?.or home.wfIdx else home.wfIdx }

-- The alarm page lets neither left nor right through to the tabs below.
def rootKey (home : Home) (queued : Bool) (turn : UiState → Option UiState) : Option Home :=
  if home.background.isSome then some home else home.handleActionOnRoot queued turn

/-- A boot clears everything but the flash. -/
def watchStep (home : Home) (action : StateManager.Action) : Option Home :=
  (home.watch.step action).map fun watch =>
    match action with
    | .wake | .powerOn => started home.wfIdx watch
    | _ => { home with watch }

def step : Step Home Action := fun home action =>
  match action with
  | .registerWf wf => some (home.watchfaceManagerRegisterWf wf)
  | .selectWf idx queued => some (home.watchfaceManagerSelectWf idx queued).2
  | .save index written => some (home.saveDone index written)
  | .uiOn queued locked shellLocked => home.uiBaseDrawBaseScreen queued locked shellLocked
  | .uiOff => home.uiBaseCleanBaseScreen
  | .right queued => home.rootKey queued UiState.next
  | .left queued => home.rootKey queued UiState.previous
  | .uiSleep => home.uiBaseSuspendBaseScreen.map fun home => { home with asleep := true }
  | .uiResume => uiBaseResumeBaseScreen { home with asleep := false }
  | .tick => if home.ticking && home.updating.isNone then some home.tickEventCb else none
  | .update => home.updating.bind home.dispatchWfUpdate
  | .alarm epoch locked => home.uiBaseHandleBaseScreenEvent epoch locked
  | .dismiss => home.dismissBtnClickCb
  | .alarmExpiry => if home.expiryTimer then home.alarmScreenExitCleanup else none
  | .watch action => home.watchStep action

end Home

end WatchFirmware.WatchfaceMgr
