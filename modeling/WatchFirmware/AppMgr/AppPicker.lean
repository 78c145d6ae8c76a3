import WatchFirmware.Shared.ObjectTree
import WatchFirmware.Shared.Transition
import WatchFirmware.WeatherApp.Session

set_option autoImplicit false

namespace WatchFirmware.AppMgr

open Transition ObjectTree
open WeatherApp (getSystemAppId)

-- Before the base screen is drawn there is none of these (UISTATE_INVALID).
inductive UiState where
  | notify
  | watchface
  | app
  deriving DecidableEq

def UiState.next : UiState → Option UiState
  | notify => some watchface
  | watchface => some app
  | app => none

def UiState.previous : UiState → Option UiState
  | notify => none
  | watchface => some notify
  | app => some watchface

inductive Key where
  | up
  | down
  | right
  | left
  | esc
  | enter
  deriving DecidableEq

structure Application where
  name : String
  -- whether `handle_event` is set
  handlesEvents : Bool
  -- whether `close_app` also cleans the screen that the application was drawn on
  cleansScreen : Bool
  deriving DecidableEq

/-- The static pointers of an application: the object that everything it draws stands in, and the screen. -/
structure AppCtx where
  base : Option Object
  screen : Option Object

inductive AppCall where
  | drawApp (app : Application)
  | closeApp (app : Application)
  deriving DecidableEq

inductive Fault where
  | deletedTwice (object : Object)
  | usedDeleted (object : Object)
  | assertion
  deriving DecidableEq

/-- What `ui_base_draw_base_screen` sets: `tabs` and `curr_watch_state`. -/
structure BaseScreen where
  tabs : UiState → Object
  currWatchState : UiState

structure Ui where
  tree : Tree
  baseScreen : Option BaseScreen
  shell : Option Object
  -- the last row is LV_GRID_TEMPLATE_LAST
  rowDsc : Option (List (Option Nat))
  appRootCont : Option Object
  appScr : Option Object
  -- the objects that open_app_cb is registered at, with its user data
  openers : List (Object × Application)
  allApps : List Application
  appId : Application → Nat
  currApp : Option Application
  isAppRunning : Bool
  initialized : Bool
  ctx : Application → AppCtx
  calls : List AppCall

abbrev Outcome := Except Fault Ui

abbrev maxApps : Nat := 15
abbrev gridColumnsPerRow : Nat := 2
abbrev gridRowHeightPx : Nat := 80

-- `lv_scr_act`
abbrev lvScrAct : Object := 0

def poweredOn : Ui where
  tree := Tree.root
  baseScreen := none
  shell := none
  rowDsc := none
  appRootCont := none
  appScr := none
  openers := []
  allApps := []
  appId _ := 0
  currApp := none
  isAppRunning := false
  initialized := false
  ctx _ := ⟨none, none⟩
  calls := []

namespace Ui

def lvObjCreate (ui : Ui) (parent : Object) : Except Fault (Object × Ui) :=
  match ui.tree.create parent with
  | some (object, tree) => .ok (object, { ui with tree })
  | none => .error (.usedDeleted parent)

def lvObjDelete (ui : Ui) (object : Object) : Outcome :=
  match ui.tree.delete object with
  | some tree => .ok { ui with tree }
  | none => .error (.deletedTwice object)

def lvObjClean (ui : Ui) (object : Object) : Outcome :=
  match ui.tree.clean object with
  | some tree => .ok { ui with tree }
  | none => .error (.usedDeleted object)

-- any other function of the library that is given the object
def useObj (ui : Ui) (object : Object) : Outcome :=
  if ui.tree.Live object then .ok ui else .error (.usedDeleted object)

/-- `if(object) lv_obj_delete(object)`. -/
def deleteIfSet (ui : Ui) : Option Object → Outcome
  | none => .ok ui
  | some object => ui.lvObjDelete object

section Applications

/-- `draw_app`, which draws nothing where an allocation fails or there is nothing to show. -/
def drawApp (ui : Ui) (app : Application) (parent : Object) (drawn : Bool) : Outcome :=
  let ui := { ui with calls := ui.calls ++ [.drawApp app] }
  if drawn then do
    let (base, ui) ← ui.lvObjCreate parent
    pure { ui with ctx := Function.update ui.ctx app ⟨some base, some parent⟩ }
  else pure ui

def closeApp (ui : Ui) (app : Application) : Outcome := do
  let ui ← match (ui.ctx app).base with
    | none => pure ui
    | some base => do
        let ui ← ui.lvObjDelete base
        match app.cleansScreen, (ui.ctx app).screen with
        | true, some screen => ui.lvObjClean screen
        | _, _ => pure ui
  pure { ui with ctx := Function.update ui.ctx app ⟨none, none⟩, calls := ui.calls ++ [.closeApp app] }

/-- What an application does to its objects from a timer or in `handle_event`. -/
def appWork (ui : Ui) (app : Application) : Outcome :=
  match (ui.ctx app).base with
  | none => pure ui
  | some base => ui.useObj base

end Applications

section AppManager

def appManagerAddApp (ui : Ui) (app : Application) : Ui :=
  if maxApps ≤ ui.allApps.length then ui
  else { ui with
    appId := Function.update ui.appId app (ui.allApps.length + 1), allApps := ui.allApps ++ [app] }

def dispatchAppUpdate (ui : Ui) (reqApp : Nat) : Outcome :=
  match ui.currApp with
  | none => pure ui
  | some app =>
      if getSystemAppId (ui.appId app) ≠ reqApp then pure ui
      else if app.handlesEvents then ui.appWork app
      else pure ui

def appManagerInit (ui : Ui) : Ui :=
  if ui.initialized then ui
  else { ui with allApps := [], currApp := none, isAppRunning := false, initialized := true }

def closeCurrApp (ui : Ui) : Outcome :=
  match ui.currApp with
  | none => pure ui
  | some app =>
      if !ui.isAppRunning || !ui.initialized then pure ui
      else do
        let ui ← ui.closeApp app
        pure { ui with currApp := none, isAppRunning := false }

def openApp (ui : Ui) (app : Application) (parent : Object) (drawn : Bool) : Outcome :=
  if !ui.initialized then pure ui
  else do
    let ui ← if ui.isAppRunning then ui.closeCurrApp else pure ui
    { ui with currApp := some app, isAppRunning := true }.drawApp app parent drawn

def checkIfAppRunning (ui : Ui) : Bool := ui.initialized && ui.isAppRunning

end AppManager

section Picker

def closeCurrentAppCb (ui : Ui) (appScr : Object) (key : Key) (focused : Option Object) : Outcome :=
  if !ui.checkIfAppRunning then pure ui
  else if focused = some appScr ∧ key = .esc then do
    let ui ← ui.closeCurrApp
    let ui ← ui.lvObjDelete appScr
    pure { ui with appScr := none }
  else pure ui

def openAppCb (ui : Ui) (app : Application) (key : Key) (drawn : Bool) : Outcome :=
  match ui.appRootCont, ui.appScr with
  | some appRootCont, none =>
      if key = .enter then do
        let (appScr, ui) ← ui.lvObjCreate appRootCont
        { ui with appScr := some appScr }.openApp app appScr drawn
      else pure ui
  | _, _ => pure ui

def drawCell (cont : Object) (ui : Ui) (app : Application) : Outcome := do
  let (btn, ui) ← ui.lvObjCreate cont
  let (_, ui) ← ui.lvObjCreate btn
  let (_, ui) ← ui.lvObjCreate btn
  pure { ui with openers := ui.openers ++ [(btn, app)] }

def drawAppPickerUi (ui : Ui) (root : Object) (apps : List Application) : Outcome := do
  let totalRows := (apps.length + 1) / gridColumnsPerRow
  let rowDsc := List.replicate totalRows (some gridRowHeightPx) ++ [none]
  let (appRootCont, ui) ← ui.lvObjCreate root
  let (cont, ui) ← ui.lvObjCreate appRootCont
  apps.foldlM (drawCell cont) { ui with rowDsc := some rowDsc, appRootCont := some appRootCont }

def delAppPickerUi (ui : Ui) : Outcome := do
  let appScr := ui.appScr
  let ui ← ui.deleteIfSet ui.appRootCont
  let ui ← ui.deleteIfSet appScr
  pure { ui with rowDsc := none, appRootCont := none, appScr := none }

def appManagerShowAppPickerUi (ui : Ui) (parent : Object) : Outcome :=
  if !ui.initialized then pure ui else ui.drawAppPickerUi parent ui.allApps

def appManagerDeinit (ui : Ui) : Outcome := do
  let ui ← if ui.currApp.isSome then do
      let ui ← ui.closeCurrApp
      pure { ui with currApp := none }
    else pure ui
  let ui ← ui.delAppPickerUi
  pure { ui with isAppRunning := false, allApps := [], initialized := false }

end Picker

section BasePage

-- The other pages have their own objects in the shell and no part in the picker.
def onDraw (ui : Ui) (shell : Object) : UiState → Outcome
  | .app => ui.appManagerShowAppPickerUi shell
  | .notify | .watchface => pure ui

def onClose (ui : Ui) : UiState → Outcome
  | .app => ui.delAppPickerUi
  | .notify | .watchface => pure ui

def drawTabPage (ui : Ui) (parent : Object) (page : UiState) : Outcome :=
  if ui.shell.isSome then .error .assertion
  else do
    let (shell, ui) ← ui.lvObjCreate parent
    { ui with shell := some shell }.onDraw shell page

def cleanTabPage (ui : Ui) (page : UiState) : Outcome := do
  let ui ← ui.onClose page
  let ui ← ui.deleteIfSet ui.shell
  pure { ui with shell := none }

def closeCurrPage (ui : Ui) : Outcome :=
  match ui.baseScreen with
  | none => .error .assertion
  | some screen => do
      let ui ← ui.cleanTabPage screen.currWatchState
      ui.lvObjClean (screen.tabs screen.currWatchState)

/-- `handle_right_action_on_root` and `handle_left_action_on_root`. -/
def handleActionOnRoot (ui : Ui) (turn : UiState → Option UiState) : Outcome :=
  match ui.baseScreen with
  | none => .error .assertion
  | some screen =>
      match turn screen.currWatchState with
      | none => pure ui
      | some page => do
          let ui ← ui.closeCurrPage
          { ui with baseScreen := some { screen with currWatchState := page } }.drawTabPage
            (screen.tabs page) page

def handleRightActionOnRoot (ui : Ui) : Outcome := ui.handleActionOnRoot UiState.next

def handleLeftActionOnRoot (ui : Ui) : Outcome := ui.handleActionOnRoot UiState.previous

def uiBaseDrawBaseScreen (ui : Ui) : Outcome := do
  let (homeTab, ui) ← ui.lvObjCreate lvScrAct
  let (tabviewContent, ui) ← ui.lvObjCreate homeTab
  let (notify, ui) ← ui.lvObjCreate tabviewContent
  let (watchface, ui) ← ui.lvObjCreate tabviewContent
  let (app, ui) ← ui.lvObjCreate tabviewContent
  let tabs : UiState → Object
    | .notify => notify
    | .watchface => watchface
    | .app => app
  { ui with baseScreen := some ⟨tabs, .watchface⟩ }.drawTabPage watchface .watchface

def uiBaseCleanBaseScreen (ui : Ui) : Outcome :=
  match ui.baseScreen with
  | none => .error .assertion
  | some screen => do
      let ui ← ui.closeCurrPage
      [UiState.notify, .watchface, .app].foldlM (fun ui page => ui.lvObjClean (screen.tabs page)) ui

end BasePage

end Ui

inductive Action where
  | uiBaseDrawBaseScreen
  | uiBaseCleanBaseScreen
  | handleRightActionOnRoot
  | handleLeftActionOnRoot
  | openAppCb (btn : Object) (key : Key) (drawn : Bool)
  | closeCurrentAppCb (key : Key) (focused : Option Object)
  | appWork (app : Application)
  | dispatchAppUpdate (reqApp : Nat)
  | appManagerAddApp (app : Application)
  | appManagerInit
  | appManagerDeinit

-- An event reaches an object only while it is there.
def Ui.act (ui : Ui) : Action → Option Outcome
  | .uiBaseDrawBaseScreen => some ui.uiBaseDrawBaseScreen
  | .uiBaseCleanBaseScreen => some ui.uiBaseCleanBaseScreen
  | .handleRightActionOnRoot => some ui.handleRightActionOnRoot
  | .handleLeftActionOnRoot => some ui.handleLeftActionOnRoot
  | .openAppCb btn key drawn =>
      if ui.tree.Live btn then (ui.openers.lookup btn).map fun app => ui.openAppCb app key drawn else none
  | .closeCurrentAppCb key focused =>
      ui.appScr.bind fun appScr =>
        if ui.tree.Live appScr then some (ui.closeCurrentAppCb appScr key focused) else none
  | .appWork app => some (ui.appWork app)
  | .dispatchAppUpdate reqApp => some (ui.dispatchAppUpdate reqApp)
  | .appManagerAddApp app => some (.ok (ui.appManagerAddApp app))
  | .appManagerInit => some (.ok ui.appManagerInit)
  | .appManagerDeinit => some ui.appManagerDeinit

-- Nothing follows a fault, and a failed assertion has no next state.
def step : Step Outcome Action := fun outcome action =>
  match outcome with
  | .error _ => none
  | .ok ui =>
      match ui.act action with
      | some (.error .assertion) => none
      | after => after

end WatchFirmware.AppMgr
