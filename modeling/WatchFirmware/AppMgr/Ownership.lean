import WatchFirmware.AppMgr.AppPicker
import WatchFirmware.Shared.FaultFree

set_option autoImplicit false

namespace WatchFirmware.AppMgr

open Transition ObjectTree FaultFree

def ClosedBut (running : Option Application) (calls : List AppCall) : Prop :=
  ∃ apps : List Application,
    calls = apps.flatMap (fun app => [.drawApp app, .closeApp app]) ++ running.toList.map .drawApp

theorem ClosedBut.drawn {calls : List AppCall} (closed : ClosedBut none calls) (app : Application) :
    ClosedBut (some app) (calls ++ [.drawApp app]) := by
  obtain ⟨apps, rfl⟩ := closed
  exact ⟨apps, by simp⟩

theorem ClosedBut.closed {calls : List AppCall} {app : Application} (drawn : ClosedBut (some app) calls) :
    ClosedBut none (calls ++ [.closeApp app]) := by
  obtain ⟨apps, rfl⟩ := drawn
  exact ⟨apps ++ [app], by simp⟩

inductive Part where
  | screen
  | tab (page : UiState)
  | shell
  | appRootCont
  | appScr
  | base (app : Application)

def Part.depth : Part → Nat
  | screen => 0
  | tab _ => 1
  | shell => 2
  | appRootCont => 3
  | appScr => 4
  | base _ => 5

namespace Ui

def pointer (ui : Ui) : Part → Option Object
  | .screen => some lvScrAct
  | .tab page => ui.baseScreen.map fun screen => screen.tabs page
  | .shell => ui.shell
  | .appRootCont => ui.appRootCont
  | .appScr => ui.appScr
  | .base app => (ui.ctx app).base

def ClosedOnce (ui : Ui) : Prop := ui.appRootCont = none → ClosedBut none ui.calls

structure Sound (ui : Ui) : Prop where
  held : Held Part.depth ui.tree ui.pointer
  tabs : ∀ {screen}, ui.baseScreen = some screen →
    ∃ ancestors, ∀ page, ui.tree.above (screen.tabs page) = some ancestors
  picker : ∀ {root}, ui.appRootCont = some root → ui.initialized = true ∧ ui.shell.isSome ∧
    ∃ screen, ui.baseScreen = some screen ∧ screen.currWatchState = .app
  scr : ∀ {scr}, ui.appScr = some scr →
    ∃ root ancestors, ui.appRootCont = some root ∧ ui.tree.above scr = some (root :: ancestors)
  running : ui.isAppRunning = ui.currApp.isSome
  current : ui.currApp.isSome → ui.appScr.isSome
  base : ∀ {app base}, (ui.ctx app).base = some base →
    ui.currApp = some app ∧ (ui.ctx app).screen = ui.appScr
  calls : ClosedBut ui.currApp ui.calls

namespace Sound

variable {ui : Ui} {tree : Tree}

theorem poweredOn : Sound poweredOn where
  held := {
    live := by
      intro part object set
      cases part <;> cases set
      rfl
    order := by
      intro part object deeper below set other
      cases part <;> cases set
      cases deeper <;> cases other
      exact fun deeper => absurd deeper (Nat.lt_irrefl _) }
  tabs := nofun
  picker := nofun
  scr := nofun
  running := rfl
  current := nofun
  base := nofun
  calls := ⟨[], rfl⟩

theorem replace (sound : Sound ui)
    (kept : ∀ {part object ancestors}, ui.pointer part = some object → ui.tree.above object = some ancestors →
      tree.above object = some ancestors) : Sound { ui with tree } := by
  refine { sound with held := sound.held.replace kept, tabs := ?_, scr := ?_ }
  · intro screen drawn
    obtain ⟨ancestors, found⟩ := sound.tabs drawn
    refine ⟨ancestors, fun page => ?_⟩
    have set : ui.pointer (.tab page) = some (screen.tabs page) := by rw [pointer, drawn, Option.map_some]
    exact kept set (found page)
  · intro scr set
    obtain ⟨root, ancestors, behind, found⟩ := sound.scr set
    have pointed : ui.pointer .appScr = some scr := set
    exact ⟨root, ancestors, behind, kept pointed found⟩

theorem grow (sound : Sound ui) (grows : ui.tree.Grows tree) : Sound { ui with tree } :=
  sound.replace fun _ found => grows found

section Clear

theorem base_unset (sound : Sound ui) (idle : ui.currApp = none) (app : Application) :
    (ui.ctx app).base = none := by
  cases set : (ui.ctx app).base with
  | none => rfl
  | some base =>
      have current := (sound.base set).1
      rw [idle] at current
      cases current

theorem idle (sound : Sound ui) (unset : ui.appScr = none) : ui.currApp = none := by
  have current := sound.current
  rw [unset] at current
  exact Option.not_isSome_iff_eq_none.mp fun running => absurd (current running) (by simp)

theorem scr_unset (sound : Sound ui) (gone : ui.appRootCont = none) : ui.appScr = none := by
  cases set : ui.appScr with
  | none => rfl
  | some scr =>
      obtain ⟨_, _, behind, _⟩ := sound.scr set
      rw [gone] at behind
      cases behind

theorem root_unset (sound : Sound ui) (bare : ui.shell = none) : ui.appRootCont = none := by
  cases set : ui.appRootCont with
  | none => rfl
  | some root =>
      have shown := (sound.picker set).2.1
      rw [bare] at shown
      cases shown

theorem clearBase (sound : Sound ui) {app : Application} (current : ui.currApp = some app) :
    Sound { ui with
      ctx := Function.update ui.ctx app ⟨none, none⟩, calls := ui.calls ++ [.closeApp app]
      currApp := none, isAppRunning := false } := by
  have none_left (other : Application) : (Function.update ui.ctx app ⟨none, none⟩ other).base = none := by
    by_cases same : other = app
    · simp [same]
    · rw [Function.update_of_ne same]
      cases set : (ui.ctx other).base with
      | none => rfl
      | some base => exact absurd (Option.some.inj ((sound.base set).1.symm.trans current)) same
  refine { sound with held := ?_, running := rfl, current := nofun, base := ?_, calls := ?_ }
  · refine sound.held.fewer fun {part object} set => ?_
    cases part with
    | base other => cases (none_left other).symm.trans set
    | _ => exact set
  · intro other base set
    cases (none_left other).symm.trans set
  · exact (current ▸ sound.calls).closed

theorem clearScr (sound : Sound ui) (idle : ui.currApp = none) : Sound { ui with appScr := none } := by
  refine { sound with held := ?_, scr := nofun, current := ?_, base := ?_ }
  · refine sound.held.fewer fun {part object} set => ?_
    cases part with
    | appScr => cases set
    | _ => exact set
  · intro running
    simp [idle] at running
  · intro app base set
    simp [sound.base_unset idle app] at set

theorem clearRoot (sound : Sound ui) (unset : ui.appScr = none) :
    Sound { ui with rowDsc := none, appRootCont := none } := by
  refine { sound with held := ?_, picker := nofun, scr := ?_ }
  · refine sound.held.fewer fun {part object} set => ?_
    cases part with
    | appRootCont => cases set
    | _ => exact set
  · intro scr set
    simp [unset] at set

theorem clearShell (sound : Sound ui) (gone : ui.appRootCont = none) : Sound { ui with shell := none } := by
  refine { sound with held := ?_, picker := ?_ }
  · refine sound.held.fewer fun {part object} set => ?_
    cases part with
    | shell => cases set
    | _ => exact set
  · intro root set
    simp [gone] at set

end Clear

section Set

theorem turn (sound : Sound ui) (bare : ui.shell = none) {screen : BaseScreen}
    (drawn : ui.baseScreen = some screen) (page : UiState) :
    Sound { ui with baseScreen := some { screen with currWatchState := page } } := by
  refine { sound with held := ?_, tabs := ?_, picker := ?_ }
  · refine sound.held.fewer fun {part object} set => ?_
    cases part with
    | tab page =>
        rw [pointer, drawn]
        exact set
    | _ => exact set
  · intro other same
    cases same
    obtain ⟨ancestors, found⟩ := sound.tabs drawn
    exact ⟨ancestors, found⟩
  · intro root set
    simp [sound.root_unset bare] at set

theorem setBaseScreen (sound : Sound ui) (bare : ui.shell = none) {screen : BaseScreen} {parent : Object}
    {ancestors : List Object} (found : ∀ page, ui.tree.above (screen.tabs page) = some (parent :: ancestors)) :
    Sound { ui with baseScreen := some screen } := by
  have gone := sound.root_unset bare
  have unset := sound.scr_unset gone
  have unused := sound.base_unset (sound.idle unset)
  refine { sound with held := ⟨?_, ?_⟩, tabs := ?_, picker := ?_ }
  · intro part object set
    cases part with
    | tab page =>
        cases set
        exact .of_above (found page)
    | screen => exact @Held.live _ _ _ _ sound.held .screen object set
    | shell => cases bare.symm.trans set
    | appRootCont => cases gone.symm.trans set
    | appScr => cases unset.symm.trans set
    | base app => cases (unused app).symm.trans set
  · intro part object deeper below set other shallow
    cases deeper with
    | screen => exact absurd shallow (Nat.not_lt_zero _)
    | tab page =>
        cases other
        cases part with
        | screen =>
            cases set
            exact Nat.zero_lt_of_lt (ui.tree.chained (found page)).1
        | _ => simp [Part.depth] at shallow
    | shell => cases bare.symm.trans other
    | appRootCont => cases gone.symm.trans other
    | appScr => cases unset.symm.trans other
    | base app => cases (unused app).symm.trans other
  · intro other same
    cases same
    exact ⟨parent :: ancestors, found⟩
  · intro root set
    simp [gone] at set

theorem setShell (sound : Sound ui) (bare : ui.shell = none) {shell : Object} (there : ui.tree.Live shell)
    (newest : ∀ {part other}, ui.pointer part = some other → other < shell) :
    Sound { ui with shell := some shell } := by
  have gone := sound.root_unset bare
  have unset := sound.scr_unset gone
  refine { sound with held := ?_, picker := ?_ }
  · refine @Held.more _ _ _ _ _ (.shell) _ sound.held there newest fun {part object} set => ?_
    cases part with
    | shell => exact .inl ⟨rfl, (Option.some.inj set).symm⟩
    | screen | tab => exact .inr ⟨set, by simp [Part.depth]⟩
    | appRootCont => cases gone.symm.trans set
    | appScr => cases unset.symm.trans set
    | base app => cases (sound.base_unset (sound.idle unset) app).symm.trans set
  · intro root set
    simp [gone] at set

theorem setRoot (sound : Sound ui) (gone : ui.appRootCont = none) {screen : BaseScreen} {root : Object}
    (drawn : ui.baseScreen = some screen) (page : screen.currWatchState = .app) (shown : ui.shell.isSome)
    (started : ui.initialized = true) (there : ui.tree.Live root)
    (newest : ∀ {part other}, ui.pointer part = some other → other < root)
    (rowDsc : Option (List (Option Nat))) : Sound { ui with rowDsc, appRootCont := some root } := by
  have unset := sound.scr_unset gone
  refine { sound with held := ?_, picker := ?_, scr := ?_ }
  · refine @Held.more _ _ _ _ _ (.appRootCont) _ sound.held there newest fun {part object} set => ?_
    cases part with
    | appRootCont => exact .inl ⟨rfl, (Option.some.inj set).symm⟩
    | screen | tab | shell => exact .inr ⟨set, by simp [Part.depth]⟩
    | appScr => cases unset.symm.trans set
    | base app => cases (sound.base_unset (sound.idle unset) app).symm.trans set
  · intro other same
    exact ⟨started, shown, screen, drawn, page⟩
  · intro scr set
    simp [unset] at set

theorem setScr (sound : Sound ui) (unset : ui.appScr = none) {root scr : Object} {ancestors : List Object}
    (set : ui.appRootCont = some root) (found : ui.tree.above scr = some (root :: ancestors))
    (newest : ∀ {part other}, ui.pointer part = some other → other < scr) :
    Sound { ui with appScr := some scr } := by
  have unused := sound.base_unset (sound.idle unset)
  refine { sound with held := ?_, scr := ?_, current := fun _ => rfl, base := ?_ }
  · refine @Held.more _ _ _ _ _ .appScr _ sound.held (.of_above found) newest fun {part object} set => ?_
    cases part with
    | appScr => exact .inl ⟨rfl, (Option.some.inj set).symm⟩
    | screen | tab | shell | appRootCont => exact .inr ⟨set, by simp [Part.depth]⟩
    | base app => cases (unused app).symm.trans set
  · intro other same
    cases same
    exact ⟨root, ancestors, set, found⟩
  · intro app base drawn
    simp [unused app] at drawn

theorem start (sound : Sound ui) (idle : ui.currApp = none) (shown : ui.appScr.isSome) (app : Application) :
    Sound { ui with currApp := some app, isAppRunning := true, calls := ui.calls ++ [.drawApp app] } := by
  refine { sound with running := rfl, current := fun _ => shown, base := ?_, calls := ?_ }
  · intro other base drawn
    simp [sound.base_unset idle other] at drawn
  · have calls := sound.calls
    rw [idle] at calls
    exact calls.drawn app

theorem setBase (sound : Sound ui) {app : Application} (current : ui.currApp = some app) {scr base : Object}
    (set : ui.appScr = some scr) (there : ui.tree.Live base)
    (newest : ∀ {part other}, ui.pointer part = some other → other < base) :
    Sound { ui with ctx := Function.update ui.ctx app ⟨some base, some scr⟩ } := by
  refine { sound with held := ?_, base := ?_ }
  · refine @Held.more _ _ _ _ _ (.base app) _ sound.held there newest fun {part object} set => ?_
    cases part with
    | base other =>
        by_cases same : other = app
        · subst same
          simp only [pointer, Function.update_self] at set
          exact .inl ⟨rfl, (Option.some.inj set).symm⟩
        · simp only [pointer, Function.update_of_ne same] at set
          exact .inr ⟨set, Nat.le_refl _⟩
    | _ => exact .inr ⟨set, by simp [Part.depth]⟩
  · intro other object drawn
    by_cases same : other = app
    · subst same
      simp only [Function.update_self]
      exact ⟨current, set.symm⟩
    · simp only [Function.update_of_ne same] at drawn ⊢
      exact sound.base drawn

end Set

section Deletions

theorem delete {left : Ui} (sound : Sound ui) (cleared : Sound left) (same : left.tree = ui.tree) {part : Part}
    {object : Object} (set : ui.pointer part = some object) (deleted : ui.tree.delete object = some tree)
    (shallower : ∀ {other found}, left.pointer other = some found →
      ui.pointer other = some found ∧ other.depth < part.depth) : Sound { left with tree } := by
  -- once its pointer and the deeper ones are cleared, an object may be deleted
  refine cleared.replace fun {other found ancestors} stays there => ?_
  obtain ⟨old, shallow⟩ := shallower stays
  rw [same] at there
  exact Tree.delete_older deleted (sound.held.order old set shallow) there

theorem deleteShell (sound : Sound ui) (gone : ui.appRootCont = none) {shell : Object}
    (set : ui.shell = some shell) (deleted : ui.tree.delete shell = some tree) :
    Sound { ui with tree, shell := none } := by
  have unset := sound.scr_unset gone
  refine @delete _ _ _ sound (sound.clearShell gone) rfl .shell _ set deleted fun {other found} left => ?_
  cases other with
  | screen | tab => exact ⟨left, by simp [Part.depth]⟩
  | shell => cases left
  | appRootCont => cases gone.symm.trans left
  | appScr => cases unset.symm.trans left
  | base app => cases (sound.base_unset (sound.idle unset) app).symm.trans left

theorem deleteRoot (sound : Sound ui) (unset : ui.appScr = none) {root : Object}
    (set : ui.appRootCont = some root) (deleted : ui.tree.delete root = some tree) :
    Sound { ui with tree, rowDsc := none, appRootCont := none } := by
  refine @delete _ _ _ sound (sound.clearRoot unset) rfl .appRootCont _ set deleted fun {other found} left => ?_
  cases other with
  | screen | tab | shell => exact ⟨left, by simp [Part.depth]⟩
  | appRootCont => cases left
  | appScr => cases unset.symm.trans left
  | base app => cases (sound.base_unset (sound.idle unset) app).symm.trans left

theorem deleteScr (sound : Sound ui) (idle : ui.currApp = none) {scr : Object} (set : ui.appScr = some scr)
    (deleted : ui.tree.delete scr = some tree) : Sound { ui with tree, appScr := none } := by
  refine @delete _ _ _ sound (sound.clearScr idle) rfl .appScr _ set deleted fun {other found} left => ?_
  cases other with
  | screen | tab | shell | appRootCont => exact ⟨left, by simp [Part.depth]⟩
  | appScr => cases left
  | base app => cases (sound.base_unset idle app).symm.trans left

theorem deleteBase (sound : Sound ui) {app : Application} {base : Object}
    (set : (ui.ctx app).base = some base) (deleted : ui.tree.delete base = some tree) :
    Sound { ui with
      tree, ctx := Function.update ui.ctx app ⟨none, none⟩, calls := ui.calls ++ [.closeApp app]
      currApp := none, isAppRunning := false } := by
  have cleared := sound.clearBase (sound.base set).1
  refine @delete _ _ _ sound cleared rfl (.base app) _ set deleted fun {other found} left => ?_
  cases other with
  | base app => cases (cleared.base_unset rfl app).symm.trans left
  | _ => exact ⟨left, by simp [Part.depth]⟩

theorem cleanScr (sound : Sound ui) (idle : ui.currApp = none) {scr : Object} (set : ui.appScr = some scr)
    (cleaned : ui.tree.clean scr = some tree) : Sound { ui with tree } := by
  -- with no application, cleaning its screen takes nothing that a pointer leads to
  have pointed : ui.pointer .appScr = some scr := set
  refine sound.replace fun {part object ancestors} left found => Tree.clean_older cleaned ?_ found
  cases part with
  | screen | tab | shell | appRootCont => exact Nat.le_of_lt (sound.held.order left pointed (by simp [Part.depth]))
  | appScr => exact Nat.le_of_eq (Option.some.inj (left.symm.trans pointed))
  | base app => cases (sound.base_unset idle app).symm.trans left

theorem cleanTab (sound : Sound ui) (bare : ui.shell = none) {screen : BaseScreen}
    (drawn : ui.baseScreen = some screen) (page : UiState)
    (cleaned : ui.tree.clean (screen.tabs page) = some tree) : Sound { ui with tree } := by
  -- no tab stands in another one
  have gone := sound.root_unset bare
  have unset := sound.scr_unset gone
  have pointed : ui.pointer (.tab page) = some (screen.tabs page) := by rw [pointer, drawn, Option.map_some]
  refine sound.replace fun {part object ancestors} left found => ?_
  cases part with
  | screen => exact Tree.clean_older cleaned (Nat.le_of_lt (sound.held.order left pointed (by simp [Part.depth]))) found
  | tab other =>
      rw [pointer, drawn, Option.map_some] at left
      cases left
      obtain ⟨shared, siblings⟩ := sound.tabs drawn
      cases (siblings other).symm.trans found
      refine Tree.clean_kept cleaned found fun member => ?_
      exact absurd (ui.tree.older (siblings page) member) (Nat.lt_irrefl _)
  | shell => cases bare.symm.trans left
  | appRootCont => cases gone.symm.trans left
  | appScr => cases unset.symm.trans left
  | base app => cases (sound.base_unset (sound.idle unset) app).symm.trans left

end Deletions

section Operations

theorem create (sound : Sound ui) {parent : Object} {ancestors : List Object}
    (found : ui.tree.above parent = some ancestors) :
    Leads (ui.lvObjCreate parent) fun made => ∃ object tree, made = (object, { ui with tree }) ∧
      Sound { ui with tree } ∧ ui.tree.Grows tree ∧ tree.above object = some (parent :: ancestors) ∧
      ∀ {part other}, ui.pointer part = some other → other < object := by
  obtain ⟨object, tree, created, grows, placed, newest⟩ := Tree.create_live found
  refine ⟨(object, { ui with tree }), by rw [lvObjCreate, created], object, tree, rfl, sound.grow grows, grows,
    placed, ?_⟩
  exact fun set => newest _ (sound.held.live set)

theorem lvObjDelete_eq {object : Object} (deleted : ui.tree.delete object = some tree) :
    ui.lvObjDelete object = .ok { ui with tree } := by rw [lvObjDelete, deleted]

theorem lvObjClean_eq {object : Object} (cleaned : ui.tree.clean object = some tree) :
    ui.lvObjClean object = .ok { ui with tree } := by rw [lvObjClean, cleaned]

theorem appWork (sound : Sound ui) (app : Application) : Leads (ui.appWork app) Sound := by
  unfold Ui.appWork
  split
  next => exact .pure sound
  next base set =>
    have pointed : ui.pointer (.base app) = some base := set
    exact ⟨ui, if_pos (sound.held.live pointed), sound⟩

theorem dispatchAppUpdate (sound : Sound ui) (reqApp : Nat) : Leads (ui.dispatchAppUpdate reqApp) Sound := by
  unfold Ui.dispatchAppUpdate
  split
  next => exact .pure sound
  next app _ =>
    split_ifs
    · exact .pure sound
    · exact sound.appWork app
    · exact .pure sound

theorem drawApp (sound : Sound ui) (idle : ui.currApp = none) {scr : Object} (set : ui.appScr = some scr)
    (app : Application) (drawn : Bool) :
    Leads ({ ui with currApp := some app, isAppRunning := true }.drawApp app scr drawn) Sound := by
  have started := sound.start idle (by simp [set]) app
  unfold Ui.drawApp
  cases drawn with
  | false => exact .pure started
  | true =>
      have pointed : ui.pointer .appScr = some scr := set
      obtain ⟨ancestors, found⟩ := (sound.held.live pointed).above
      refine (started.create found).bind ?_
      rintro _ ⟨base, tree, rfl, next, _, placed, newest⟩
      exact .pure (next.setBase rfl set (.of_above placed) newest)

theorem closeApp (sound : Sound ui) {app : Application} (current : ui.currApp = some app) :
    Leads (ui.closeApp app) fun after =>
      Sound { after with currApp := none, isAppRunning := false } ∧ after.appScr = ui.appScr := by
  unfold Ui.closeApp
  cases set : (ui.ctx app).base with
  | none => exact .pure ⟨sound.clearBase current, rfl⟩
  | some base =>
      have pointed : ui.pointer (.base app) = some base := set
      obtain ⟨tree, deleted⟩ := Tree.delete_live (sound.held.live pointed)
      have closed := sound.deleteBase set deleted
      simp only [lvObjDelete_eq deleted]
      refine @Leads.bind _ _ _ _ _ (· = { ui with tree }) _ ⟨_, rfl, rfl⟩ ?_
      rintro _ rfl
      obtain ⟨scr, shown⟩ := Option.isSome_iff_exists.mp (sound.current (by simp [current]))
      have screen : (ui.ctx app).screen = some scr := (sound.base set).2.trans shown
      simp only [screen]
      cases app.cleansScreen with
      | false => exact .pure ⟨closed, rfl⟩
      | true =>
          have screenPointed := closed.held.live (show pointer _ .appScr = some scr from shown)
          obtain ⟨left, cleaned⟩ := Tree.clean_live screenPointed
          have kept := closed.cleanScr rfl shown cleaned
          simp only [Ui.lvObjClean, cleaned]
          exact .pure ⟨kept, rfl⟩

theorem closeCurrApp (sound : Sound ui) : Leads ui.closeCurrApp fun after =>
    Sound after ∧ after.currApp = none ∧ after.appScr = ui.appScr := by
  unfold Ui.closeCurrApp
  split
  next idle => exact .pure ⟨sound, idle, rfl⟩
  next app current =>
    have shown := sound.current (by simp [current])
    obtain ⟨scr, set⟩ := Option.isSome_iff_exists.mp shown
    obtain ⟨root, _, behind, _⟩ := sound.scr set
    have started := (sound.picker behind).1
    have running : ui.isAppRunning = true := by rw [sound.running, current, Option.isSome_some]
    simp only [running, started, Bool.not_true, Bool.or_self, Bool.false_eq_true, if_false]
    exact (sound.closeApp current).bind fun after closed => .pure ⟨closed.1, rfl, closed.2⟩

theorem delAppPickerUi (sound : Sound ui) (unset : ui.appScr = none) : Leads ui.delAppPickerUi fun after =>
    Sound after ∧ after.appRootCont = none ∧ after.shell = ui.shell ∧ after.baseScreen = ui.baseScreen := by
  unfold Ui.delAppPickerUi
  rw [unset]
  cases set : ui.appRootCont with
  | none =>
      have cleared := (sound.clearRoot unset).clearScr (sound.idle unset)
      exact .pure ⟨cleared, rfl, rfl, rfl⟩
  | some root =>
      have pointed : ui.pointer .appRootCont = some root := set
      obtain ⟨tree, deleted⟩ := Tree.delete_live (sound.held.live pointed)
      have left := sound.deleteRoot unset set deleted
      simp only [deleteIfSet, lvObjDelete_eq deleted]
      exact .pure ⟨left.clearScr (left.idle unset), rfl, rfl, rfl⟩

theorem delAppPickerUi_faults (sound : Sound ui) {scr : Object} (set : ui.appScr = some scr) :
    ui.delAppPickerUi = .error (.deletedTwice scr) := by
  -- with the screen of an application on the picker, the screen is deleted with the picker and then
  -- again
  obtain ⟨root, ancestors, behind, found⟩ := sound.scr set
  have pointed : ui.pointer .appRootCont = some root := behind
  obtain ⟨tree, deleted⟩ := Tree.delete_live (sound.held.live pointed)
  have again := Tree.delete_again deleted found (.inr (List.mem_cons_self ..))
  have twice : { ui with tree }.lvObjDelete scr = .error (.deletedTwice scr) := by rw [Ui.lvObjDelete, again]
  unfold Ui.delAppPickerUi
  rw [set, behind]
  simp only [deleteIfSet, lvObjDelete_eq deleted, bind, Except.bind, twice]

theorem drawCell (sound : Sound ui) {cont : Object} (there : ui.tree.Live cont) (app : Application) :
    Leads (Ui.drawCell cont ui app) fun after => Sound after ∧ after.tree.Live cont ∧
      after.pointer = ui.pointer := by
  obtain ⟨ancestors, found⟩ := there.above
  refine (sound.create found).bind ?_
  rintro _ ⟨btn, first, rfl, next, grown, placed, _⟩
  refine (next.create placed).bind ?_
  rintro _ ⟨icon, second, rfl, next, further, _, _⟩
  refine (next.create (further placed)).bind ?_
  rintro _ ⟨label, third, rfl, next, last, _, _⟩
  exact .pure ⟨{ next with }, last.live (further.live (grown.live there)), rfl⟩

theorem drawAppPickerUi (sound : Sound ui) (gone : ui.appRootCont = none) {screen : BaseScreen} {shell : Object}
    (drawn : ui.baseScreen = some screen) (page : screen.currWatchState = .app) (set : ui.shell = some shell)
    (started : ui.initialized = true) (apps : List Application) :
    Leads (ui.drawAppPickerUi shell apps) Sound := by
  have pointed : ui.pointer .shell = some shell := set
  obtain ⟨ancestors, found⟩ := (sound.held.live pointed).above
  refine (sound.create found).bind ?_
  rintro _ ⟨root, first, rfl, next, _, placed, newest⟩
  refine (next.create placed).bind ?_
  rintro _ ⟨cont, second, rfl, next, grown, inside, _⟩
  have shown : ui.shell.isSome := by rw [set, Option.isSome_some]
  have picked := next.setRoot gone drawn page shown started (.of_above (grown placed)) newest
  have cells := @Leads.foldlM _ _ _ (fun after => Sound after ∧ after.tree.Live cont) (Ui.drawCell cont) apps _
    ⟨picked (some (List.replicate ((apps.length + 1) / gridColumnsPerRow) (some gridRowHeightPx) ++ [none])),
      .of_above inside⟩
    (fun after app holds => (holds.1.drawCell holds.2 app).mono fun _ last => ⟨last.1, last.2.1⟩)
  exact cells.mono fun _ last => last.1

theorem appManagerShowAppPickerUi (sound : Sound ui) (gone : ui.appRootCont = none) {screen : BaseScreen}
    {shell : Object} (drawn : ui.baseScreen = some screen) (page : screen.currWatchState = .app)
    (set : ui.shell = some shell) : Leads (ui.appManagerShowAppPickerUi shell) Sound := by
  unfold Ui.appManagerShowAppPickerUi
  by_cases started : ui.initialized = true
  · rw [if_neg (by simp [started])]
    exact sound.drawAppPickerUi gone drawn page set started ui.allApps
  · rw [if_pos (by simp [started])]
    exact .pure sound

theorem drawTabPage (sound : Sound ui) (bare : ui.shell = none) {screen : BaseScreen}
    (drawn : ui.baseScreen = some screen) :
    Leads (ui.drawTabPage (screen.tabs screen.currWatchState) screen.currWatchState) Sound := by
  obtain ⟨ancestors, found⟩ := sound.tabs drawn
  unfold Ui.drawTabPage
  rw [if_neg (by simp [bare])]
  refine (sound.create (found screen.currWatchState)).bind ?_
  rintro _ ⟨shell, tree, rfl, next, _, placed, newest⟩
  have page := next.setShell bare (.of_above placed) newest
  cases state : screen.currWatchState with
  | notify | watchface => exact .pure page
  | app =>
      have gone := sound.root_unset bare
      exact page.appManagerShowAppPickerUi gone drawn state rfl

theorem cleanTabPage (sound : Sound ui) {screen : BaseScreen} (drawn : ui.baseScreen = some screen)
    (closing : screen.currWatchState = .app → ui.appScr = none) :
    Leads (ui.cleanTabPage screen.currWatchState) fun after =>
      Sound after ∧ after.shell = none ∧ after.baseScreen = ui.baseScreen := by
  have onClose : Leads (ui.onClose screen.currWatchState) fun after =>
      Sound after ∧ after.appRootCont = none ∧ after.shell = ui.shell ∧ after.baseScreen = ui.baseScreen := by
    have elsewhere (other : screen.currWatchState ≠ .app) : ui.appRootCont = none := by
      cases set : ui.appRootCont with
      | none => rfl
      | some root =>
          obtain ⟨_, _, _, same, page⟩ := sound.picker set
          cases drawn.symm.trans same
          exact absurd page other
    cases state : screen.currWatchState with
    | app => exact sound.delAppPickerUi (closing state)
    | notify | watchface => exact .pure ⟨sound, elsewhere (by simp [state]), rfl, rfl⟩
  refine onClose.bind fun closed facts => ?_
  obtain ⟨next, gone, same, screen⟩ := facts
  cases set : closed.shell with
  | none => exact .pure ⟨next.clearShell gone, rfl, screen⟩
  | some shell =>
      have pointed : closed.pointer .shell = some shell := set
      obtain ⟨tree, deleted⟩ := Tree.delete_live (next.held.live pointed)
      simp only [deleteIfSet, lvObjDelete_eq deleted]
      exact .pure ⟨next.deleteShell gone set deleted, rfl, screen⟩

theorem lvObjClean (sound : Sound ui) (bare : ui.shell = none) {screen : BaseScreen}
    (drawn : ui.baseScreen = some screen) (page : UiState) :
    Leads (ui.lvObjClean (screen.tabs page)) fun after =>
      Sound after ∧ after.shell = none ∧ after.baseScreen = some screen := by
  obtain ⟨ancestors, found⟩ := sound.tabs drawn
  obtain ⟨tree, cleaned⟩ := Tree.clean_live (.of_above (found page))
  rw [lvObjClean_eq cleaned]
  exact .pure ⟨sound.cleanTab bare drawn page cleaned, bare, drawn⟩

theorem closeCurrPage (sound : Sound ui) {screen : BaseScreen} (drawn : ui.baseScreen = some screen)
    (closing : screen.currWatchState = .app → ui.appScr = none) :
    Leads ui.closeCurrPage fun after =>
      Sound after ∧ after.shell = none ∧ after.baseScreen = some screen := by
  unfold Ui.closeCurrPage
  rw [drawn]
  refine (sound.cleanTabPage drawn closing).bind fun cleaned facts => ?_
  obtain ⟨next, bare, same⟩ := facts
  exact next.lvObjClean bare (same.trans drawn) _

end Operations

end Sound

end Ui

end WatchFirmware.AppMgr
