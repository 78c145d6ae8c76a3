import WatchFirmware.AppMgr.Ownership

set_option autoImplicit false

namespace WatchFirmware.AppMgr

open Transition ObjectTree FaultFree

namespace Ui

namespace Sound

variable {ui : Ui}

theorem openApp (sound : Sound ui) (idle : ui.currApp = none) {scr : Object} (set : ui.appScr = some scr)
    (app : Application) (drawn : Bool) : Leads (ui.openApp app scr drawn) Sound := by
  have stopped : ui.isAppRunning = false := by rw [sound.running, idle, Option.isSome_none]
  unfold Ui.openApp
  split
  next => exact .pure sound
  next =>
    rw [if_neg (by simp [stopped])]
    exact sound.drawApp idle set app drawn

theorem openAppCb (sound : Sound ui) (app : Application) (key : Key) (drawn : Bool) :
    Leads (ui.openAppCb app key drawn) Sound := by
  unfold Ui.openAppCb
  split
  next appRootCont set unset =>
    split
    next =>
      have pointed : ui.pointer .appRootCont = some appRootCont := set
      obtain ⟨ancestors, found⟩ := (sound.held.live pointed).above
      refine (sound.create found).bind ?_
      rintro _ ⟨scr, tree, rfl, next, _, placed, newest⟩
      exact (next.setScr unset set placed newest).openApp (sound.idle unset) rfl app drawn
    next => exact .pure sound
  next => exact .pure sound

theorem closeCurrentAppCb (sound : Sound ui) {scr : Object} (set : ui.appScr = some scr) (key : Key)
    (focused : Option Object) : Leads (ui.closeCurrentAppCb scr key focused) Sound := by
  unfold Ui.closeCurrentAppCb
  split_ifs
  · exact .pure sound
  · refine sound.closeCurrApp.bind fun closed facts => ?_
    obtain ⟨next, idle, same⟩ := facts
    have shown : closed.appScr = some scr := same.trans set
    obtain ⟨tree, deleted⟩ := Tree.delete_live (next.held.live (show pointer _ .appScr = _ from shown))
    rw [lvObjDelete_eq deleted]
    exact .pure (next.deleteScr idle shown deleted)
  · exact .pure sound

theorem handleActionOnRoot (sound : Sound ui) {screen : BaseScreen} (drawn : ui.baseScreen = some screen)
    {turn : UiState → Option UiState}
    (closing : screen.currWatchState = .app → (turn .app).isSome → ui.appScr = none) :
    Leads (ui.handleActionOnRoot turn) Sound := by
  unfold Ui.handleActionOnRoot
  rw [drawn]
  dsimp only
  split
  next => exact .pure sound
  next page turned =>
    have closes : screen.currWatchState = .app → ui.appScr = none := by
      intro state
      exact closing state (by rw [← state, turned, Option.isSome_some])
    refine (sound.closeCurrPage drawn closes).bind fun closed facts => ?_
    obtain ⟨next, bare, same⟩ := facts
    exact (next.turn bare same page).drawTabPage bare rfl

theorem uiBaseCleanBaseScreen (sound : Sound ui) {screen : BaseScreen} (drawn : ui.baseScreen = some screen)
    (closing : screen.currWatchState = .app → ui.appScr = none) : Leads ui.uiBaseCleanBaseScreen Sound := by
  unfold Ui.uiBaseCleanBaseScreen
  rw [drawn]
  refine (sound.closeCurrPage drawn closing).bind fun closed facts => ?_
  have tabs := @Leads.foldlM _ _ _
    (fun after => Sound after ∧ after.shell = none ∧ after.baseScreen = some screen)
    (fun ui page => ui.lvObjClean (screen.tabs page)) [.notify, .watchface, .app] _ facts
    (fun _ page holds => holds.1.lvObjClean holds.2.1 holds.2.2 page)
  exact tabs.mono fun _ last => last.1

theorem newTabs (sound : Sound ui) :
    ∃ tree screen parent ancestors, Sound { ui with tree } ∧ screen.currWatchState = .watchface ∧
      (∀ page, tree.above (screen.tabs page) = some (parent :: ancestors)) ∧
      ui.uiBaseDrawBaseScreen =
        { ui with tree, baseScreen := some screen }.drawTabPage (screen.tabs .watchface) .watchface := by
  have pointed : ui.pointer .screen = some lvScrAct := rfl
  obtain ⟨ancestors, found⟩ := (sound.held.live pointed).above
  obtain ⟨_, homeMade, homeTab, first, rfl, next, _, home, _⟩ := sound.create found
  obtain ⟨_, contentMade, content, second, rfl, next, _, inside, _⟩ := next.create home
  obtain ⟨_, notifyMade, notify, third, rfl, next, keeps, left, _⟩ := next.create inside
  obtain ⟨_, watchfaceMade, watchface, fourth, rfl, next, further, middle, _⟩ := next.create (keeps inside)
  obtain ⟨_, appMade, app, fifth, rfl, next, last, right, _⟩ := next.create (further (keeps inside))
  refine ⟨fifth, ⟨?tabs, .watchface⟩, content, homeTab :: lvScrAct :: ancestors, next, rfl, ?placed, ?drawn⟩
  case drawn =>
    simp only [Ui.uiBaseDrawBaseScreen, homeMade, contentMade, notifyMade, watchfaceMade, appMade, bind, Except.bind]
    rfl
  case placed =>
    rintro (_ | _ | _)
    · exact last (further left)
    · exact last middle
    · exact right

theorem uiBaseDrawBaseScreen (sound : Sound ui) (passed : ui.uiBaseDrawBaseScreen ≠ .error .assertion) :
    Leads ui.uiBaseDrawBaseScreen Sound := by
  obtain ⟨tree, screen, parent, ancestors, next, page, placed, same⟩ := sound.newTabs
  rw [same] at passed ⊢
  by_cases bare : ui.shell = none
  · rw [← page]
    exact (@setBaseScreen _ next bare screen _ _ placed).drawTabPage bare rfl
  · exact absurd (if_pos (Option.isSome_iff_ne_none.mpr bare)) passed

theorem appManagerInit (sound : Sound ui) : Sound ui.appManagerInit := by
  unfold Ui.appManagerInit
  split
  next => exact sound
  next off =>
    have gone : ui.appRootCont = none := by
      cases set : ui.appRootCont with
      | none => rfl
      | some root => exact absurd (sound.picker set).1 off
    have idle := sound.idle (sound.scr_unset gone)
    refine { sound with picker := ?_, running := rfl, current := nofun, base := ?_, calls := ?_ }
    · intro root set
      simp [gone] at set
    · intro app base set
      simp [sound.base_unset idle app] at set
    · have calls := sound.calls
      rwa [idle] at calls

theorem appManagerAddApp (sound : Sound ui) (app : Application) : Sound (ui.appManagerAddApp app) := by
  unfold Ui.appManagerAddApp
  split
  next => exact sound
  next => exact { sound with }

theorem appManagerDeinit (sound : Sound ui) (unset : ui.appScr = none) : Leads ui.appManagerDeinit Sound := by
  have idle := sound.idle unset
  unfold Ui.appManagerDeinit
  rw [if_neg (by simp [idle])]
  refine (sound.delAppPickerUi unset).bind fun closed facts => ?_
  obtain ⟨next, gone, _⟩ := facts
  have stopped := next.idle (next.scr_unset gone)
  refine .pure { next with picker := ?_, running := ?_ }
  · intro root set
    simp [gone] at set
  · rw [stopped]
    rfl

theorem appManagerDeinit_faults (sound : Sound ui) {scr : Object} (set : ui.appScr = some scr) :
    ui.appManagerDeinit = .error (.deletedTwice scr) := by
  unfold Ui.appManagerDeinit
  cases current : ui.currApp with
  | none =>
      have fault := sound.delAppPickerUi_faults set
      simp [fault, bind, Except.bind, pure, Except.pure]
  | some app =>
      obtain ⟨closed, done, next, idle, same⟩ := sound.closeCurrApp
      have fault := next.delAppPickerUi_faults (same.trans set)
      have stopped : { closed with currApp := none } = closed := by rw [← idle]
      simp only [Option.isSome_some, if_true, done, bind, Except.bind, pure, Except.pure, stopped, fault]

theorem closeCurrPage_faults (sound : Sound ui) {screen : BaseScreen} (drawn : ui.baseScreen = some screen)
    (page : screen.currWatchState = .app) {scr : Object} (set : ui.appScr = some scr) :
    ui.closeCurrPage = .error (.deletedTwice scr) := by
  have fault := sound.delAppPickerUi_faults set
  unfold Ui.closeCurrPage Ui.cleanTabPage
  rw [drawn]
  simp only [page, onClose, fault, bind, Except.bind]

end Sound

def closesPicker (ui : Ui) : Action → Bool
  | .uiBaseCleanBaseScreen | .handleLeftActionOnRoot =>
      ui.baseScreen.any fun screen => screen.currWatchState = .app
  | .appManagerDeinit => true
  | _ => false

theorem closesPicker_drawn {ui : Ui} {screen : BaseScreen} (drawn : ui.baseScreen = some screen)
    (page : screen.currWatchState = .app) :
    ui.closesPicker .uiBaseCleanBaseScreen ∧ ui.closesPicker .handleLeftActionOnRoot := by
  simp [closesPicker, drawn, page]

namespace Sound

variable {ui : Ui}

theorem act (sound : Sound ui) {action : Action} (free : ui.closesPicker action → ui.appScr = none)
    {result : Outcome} (acted : ui.act action = some result) (passed : result ≠ .error .assertion) :
    Leads result Sound := by
  cases action with
  | uiBaseDrawBaseScreen =>
      cases acted
      exact sound.uiBaseDrawBaseScreen passed
  | uiBaseCleanBaseScreen =>
      cases acted
      cases drawn : ui.baseScreen with
      | none => exact absurd (by rw [Ui.uiBaseCleanBaseScreen, drawn]) passed
      | some screen => exact sound.uiBaseCleanBaseScreen drawn fun page => free (closesPicker_drawn drawn page).1
  | handleRightActionOnRoot =>
      cases acted
      cases drawn : ui.baseScreen with
      | none => exact absurd (by rw [Ui.handleRightActionOnRoot, Ui.handleActionOnRoot, drawn]) passed
      | some screen => exact sound.handleActionOnRoot drawn fun _ last => by cases last
  | handleLeftActionOnRoot =>
      cases acted
      cases drawn : ui.baseScreen with
      | none => exact absurd (by rw [Ui.handleLeftActionOnRoot, Ui.handleActionOnRoot, drawn]) passed
      | some screen => exact sound.handleActionOnRoot drawn fun page _ => free (closesPicker_drawn drawn page).2
  | openAppCb btn key drawn =>
      simp only [Ui.act] at acted
      split at acted
      next =>
        obtain ⟨app, _, rfl⟩ := Option.map_eq_some_iff.mp acted
        exact sound.openAppCb app key drawn
      next => cases acted
  | closeCurrentAppCb key focused =>
      obtain ⟨scr, set, delivered⟩ := Option.bind_eq_some_iff.mp acted
      split at delivered <;> cases delivered
      exact sound.closeCurrentAppCb set key focused
  | appWork app =>
      cases acted
      exact sound.appWork app
  | dispatchAppUpdate reqApp =>
      cases acted
      exact sound.dispatchAppUpdate reqApp
  | appManagerAddApp app =>
      cases acted
      exact .pure (sound.appManagerAddApp app)
  | appManagerInit =>
      cases acted
      exact .pure sound.appManagerInit
  | appManagerDeinit =>
      cases acted
      exact sound.appManagerDeinit (free rfl)

theorem act_faults (sound : Sound ui) {action : Action} (closes : ui.closesPicker action) {scr : Object}
    (set : ui.appScr = some scr) : ui.act action = some (.error (.deletedTwice scr)) := by
  cases action with
  | uiBaseCleanBaseScreen | handleLeftActionOnRoot =>
      obtain ⟨screen, drawn, page⟩ := (Option.any_eq_true _ _).mp closes
      have fault := sound.closeCurrPage_faults drawn (of_decide_eq_true page) set
      simp only [Ui.act, Ui.uiBaseCleanBaseScreen, Ui.handleLeftActionOnRoot, Ui.handleActionOnRoot, drawn,
        of_decide_eq_true page, UiState.previous, fault, bind, Except.bind]
  | appManagerDeinit => exact congrArg some (sound.appManagerDeinit_faults set)
  | _ => cases closes

end Sound

end Ui

def PickerFree (outcome : Outcome) (action : Action) : Prop :=
  ∀ ui, outcome = .ok ui → ui.closesPicker action → ui.appScr = none

/-- Nothing was deleted twice or used when it was gone, and every application that is gone was closed. -/
def Safe (outcome : Outcome) : Prop := ∃ ui, outcome = .ok ui ∧ ui.ClosedOnce

theorem step_sound {outcome after : Outcome} {action : Action} (sound : Leads outcome Ui.Sound)
    (free : PickerFree outcome action) (taken : step outcome action = some after) : Leads after Ui.Sound := by
  obtain ⟨ui, rfl, sound⟩ := sound
  unfold step at taken
  dsimp only at taken
  split at taken
  next => cases taken
  next passed => exact sound.act (free ui rfl) taken fun failed => passed (by rw [taken, failed])

theorem step_spoiled {outcome : Outcome} {action : Action} (sound : Leads outcome Ui.Sound)
    (occupied : ¬PickerFree outcome action) : ∃ after, step outcome action = some after ∧ ¬Safe after := by
  obtain ⟨ui, rfl, sound⟩ := sound
  simp only [PickerFree, not_forall] at occupied
  obtain ⟨_, same, closes, shown⟩ := occupied
  cases same
  obtain ⟨scr, set⟩ := Option.ne_none_iff_exists'.mp shown
  refine ⟨.error (.deletedTwice scr), by simp only [step, sound.act_faults closes set], ?_⟩
  rintro ⟨_, same, _⟩
  cases same

theorem safe_of_sound {outcome : Outcome} (sound : Leads outcome Ui.Sound) : Safe outcome := by
  obtain ⟨ui, same, sound⟩ := sound
  refine ⟨ui, same, fun gone => ?_⟩
  have calls := sound.calls
  rwa [sound.idle (sound.scr_unset gone)] at calls

/-- The picker deletes no object twice exactly in the runs that never delete it with an application on it. -/
theorem picker_safe_iff (actions : List Action) :
    Guarded step PickerFree (.ok poweredOn) actions ↔
      ∀ front, front <+: actions → ∀ after, run step (.ok poweredOn) front = some after → Safe after :=
  guarded_iff (fun _ => safe_of_sound) (fun _ _ _ => step_sound) (fun _ _ => step_spoiled)
    ⟨poweredOn, rfl, Ui.Sound.poweredOn⟩ actions

def game : Application where
  name := "Smashball"
  handlesEvents := false
  cleansScreen := false

example : ∃ ui, run step (.ok poweredOn)
    [.appManagerInit, .appManagerAddApp game, .uiBaseDrawBaseScreen, .handleRightActionOnRoot,
      .openAppCb 10 .enter true, .closeCurrentAppCb .esc (some 13), .handleLeftActionOnRoot] = some (.ok ui) ∧
    ui.appRootCont = none ∧ ui.calls = [.drawApp game, .closeApp game] := ⟨_, rfl, rfl, rfl⟩

def shutDown : List Action :=
  [.appManagerInit, .appManagerAddApp game, .uiBaseDrawBaseScreen, .handleRightActionOnRoot,
    .openAppCb 10 .enter true, .uiBaseCleanBaseScreen]

/-- The screen of the game is deleted with the picker and then once more. -/
theorem shutDown_twice : ∃ after, run step (.ok poweredOn) shutDown = some after ∧ ¬Safe after :=
  ⟨.error (.deletedTwice 13), rfl, fun ⟨_, same, _⟩ => nomatch same⟩

end WatchFirmware.AppMgr
