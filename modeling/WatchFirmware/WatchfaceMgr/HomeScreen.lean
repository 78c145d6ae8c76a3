import WatchFirmware.Shared.Refinement
import WatchFirmware.WatchfaceMgr.WatchfaceMgr
import WatchFirmware.WeatherApp.Steady

set_option autoImplicit false

namespace WatchFirmware.WatchfaceMgr

open Transition CommonApis Ble
open AppMgr (UiState)
open StateManager (Watch Known)

structure Screen where
  faces : List Watchface
  chosen : Option Watchface
  stored : Option UInt8
  saving : List UInt8
  page : Option UiState
  shown : Option Watchface
  paused : Bool
  updating : Option Update
  alarm : Option (Nat × Nat)
  known : Known
  calls : List WfCall

namespace Screen

def started (stored : Option UInt8) (known : Known) : Screen :=
  ⟨[], none, stored, [], none, none, false, none, none, known, []⟩

/-- The face of this boot, else the one of the last boot if there is one under its number, else the first. -/
def face (screen : Screen) : Option Watchface :=
  screen.chosen.or ((screen.stored.bind fun idx => screen.faces[idx.toNat]?).or screen.faces.head?)

def enter (screen : Screen) (queued : Bool) (page : UiState) : Screen :=
  if page = .watchface then
    { screen with
      page := some page
      chosen := screen.face
      saving :=
        if screen.chosen.isNone ∧ screen.stored.isNone ∧ queued then screen.saving ++ [0] else screen.saving
      shown := screen.face
      paused := false
      calls := screen.calls ++ screen.face.toList.map .drawWatchface }
  else { screen with page := some page, paused := false }

def leave (screen : Screen) : Screen :=
  { screen with
    shown := none
    calls := screen.calls ++ (screen.shown.toList.filter Watchface.deletes).map .delWatchface }

def turn (screen : Screen) (queued : Bool) (next : UiState → Option UiState) : Screen :=
  match screen.alarm, screen.page.bind next with
  | none, some page => screen.leave.enter queued page
  | _, _ => screen

/-- An update takes the date, its hour's weather and the steps, each as the watch knows it then. -/
def update (screen : Screen) : Update → Screen
  | .entered => { screen with updating := some (.dated (getDateTimeFromEpoch screen.known.epochTime)) }
  | .dated date =>
      { screen with
        updating := some (.weathered date
          (screen.known.weather.hourlyToday ⟨date.hr % 24, Nat.mod_lt _ (by decide)⟩)) }
  | .weathered date weather =>
      { screen with updating := some (.counted ⟨date, weather, UInt32.ofNat screen.known.steps⟩) }
  | .counted payload =>
      { screen with
        updating := none
        calls := screen.calls ++ screen.shown.toList.map fun wf => .updateWatchface wf payload }

def dismiss (screen : Screen) : Screen :=
  if screen.alarm.isSome then { screen with alarm := none, paused := false } else screen

def act (screen : Screen) : Action → Screen
  | .registerWf wf => { screen with faces := (screen.faces ++ [wf]).take maxWatchfaces }
  | .selectWf idx queued =>
      match screen.faces[idx.toNat]? with
      | none => screen
      | some wf =>
          { screen with chosen := some wf, saving := if queued then screen.saving ++ [idx] else screen.saving }
  | .save index written =>
      { screen with
        saving := screen.saving.eraseIdx index
        stored := if written then screen.saving[index]?.or screen.stored else screen.stored }
  | .uiOn queued _ _ => screen.enter queued .watchface
  | .uiOff => screen.leave
  | .right queued => screen.turn queued UiState.next
  | .left queued => screen.turn queued UiState.previous
  | .uiSleep => { screen with paused := true }
  | .uiResume => { screen with paused := false }
  | .tick => { screen with updating := some .entered }
  | .update => screen.updating.elim screen screen.update
  | .alarm epoch locked =>
      let date := getDateTimeFromEpoch epoch.toNat
      { screen with
        paused := true, alarm := screen.alarm.or (if locked then some (date.hr, date.min) else none) }
  | .dismiss | .alarmExpiry => screen.dismiss
  | .watch action =>
      let known := (screen.known.step action).getD screen.known
      match action with
      | .wake | .powerOn => started screen.stored known
      | _ => { screen with known }

def step : Step Screen Action := fun screen action => some (screen.act action)

theorem run_all (screen : Screen) (actions : List Action) : ∃ after, run step screen actions = some after := by
  induction actions generalizing screen with
  | nil => exact ⟨screen, rfl⟩
  | cons action rest ih => exact ih (screen.act action)

end Screen

/-- What the calls leave on the screen; none where a face is drawn over another one, or one is updated or
deleted that is not there. -/
def onScreen : List WfCall → Option Watchface → Option (Option Watchface)
  | [], shown => some shown
  | .drawWatchface wf :: rest, shown =>
      if shown.all fun old => !old.deletes then onScreen rest (some wf) else none
  | .updateWatchface wf _ :: rest, shown => if shown = some wf then onScreen rest shown else none
  | .delWatchface wf :: rest, shown => if shown = some wf then onScreen rest none else none

namespace Home

/-- What its callers see to: the faces are registered before the base screen is drawn, once in a boot and with the
UI lock, what the screen does itself it does while it is there and awake, the clock stays inside 32 bits, and the
page is not left in the middle of an update of its face. -/
def Allowed (home : Home) : Action → Prop
  | .registerWf _ | .selectWf _ _ | .save _ _ => True
  | .uiOn _ locked shellLocked =>
      home.currWatchState = none ∧ home.allWfs ≠ [] ∧ locked = true ∧ shellLocked = true
  | .uiOff => home.shell = true ∧ home.updating = none
  | .alarm _ _ => home.shell = true
  | .uiSleep | .uiResume => home.currWatchState ≠ none
  | .right _ | .left _ =>
      home.shell = true ∧ home.asleep = false ∧ (home.updating = none ∨ home.background ≠ none)
  | .dismiss => home.shell = true ∧ home.asleep = false
  | .tick => home.ticking = true ∧ home.updating = none
  | .update => home.updating ≠ none
  | .alarmExpiry => home.expiryTimer = true ∧ home.shell = true ∧ home.asleep = false
  | .watch action => home.watch.Allowed action

instance (home : Home) (action : Action) : Decidable (home.Allowed action) := by
  unfold Allowed
  split <;> infer_instance

structure Shows (home : Home) (screen : Screen) : Prop where
  initialized : home.initialized = true
  faces : home.allWfs = screen.faces
  few : screen.faces.length ≤ maxWatchfaces
  chosen : home.selectedWf = screen.chosen
  stored : home.wfIdx = screen.stored
  saving : home.saves = screen.saving
  page : home.currWatchState = screen.page
  shown : home.currWf = screen.shown
  subscribed : home.subscribed = (screen.shown.isSome && !screen.paused)
  ticking : home.ticking = home.subscribed
  updating : home.updating = screen.updating
  alarm : home.background = screen.alarm
  expiryTimer : home.expiryTimer = screen.alarm.isSome
  wakelocks : home.wakelocks = screen.alarm.toList.length
  knows : home.watch.Keeps screen.known
  calls : home.calls = screen.calls
  -- a face without del_watchface stays where it is for the next one to be drawn over
  bracketed : ∃ last, onScreen screen.calls none = some last ∧
    last.filter Watchface.deletes = screen.shown.filter Watchface.deletes ∧ (screen.shown.isSome → last = screen.shown)
  updates : screen.updating ≠ none → screen.shown.isSome
  inDay : ∀ date, screen.updating = some (.dated date) → date.hr < 24
  faced : screen.page ≠ none → screen.faces ≠ []
  away : screen.page ≠ some .watchface → screen.shown = none
  closed : home.shell = false → screen.shown = none
  opened : home.shell = true → screen.page ≠ none ∧ (screen.page = some .watchface → screen.shown.isSome)
  asleep : home.asleep = true → screen.paused = true
  unopened : screen.page = none → home.asleep = false

variable {home : Home} {screen : Screen}

end Home

theorem onScreen_append (first second : List WfCall) (shown : Option Watchface) :
    onScreen (first ++ second) shown = (onScreen first shown).bind (onScreen second) := by
  induction first generalizing shown with
  | nil => rfl
  | cons call rest ih =>
      cases call with
      | drawWatchface wf | updateWatchface wf _ | delWatchface wf =>
          simp only [List.cons_append, onScreen]
          split
          next => exact ih _
          next => rfl

namespace Home

variable {home : Home} {screen : Screen}

theorem selected (initialized : home.initialized = true) (sameFaces : home.allWfs = screen.faces)
    (sameChosen : home.selectedWf = screen.chosen) (sameStored : home.wfIdx = screen.stored)
    (faced : screen.faces ≠ []) (queued : Bool) :
    ∃ wf, screen.face = some wf ∧
      home.watchfaceManagerGetSelectedWf queued = some (some wf, { home with
        selectedWf := some wf
        saves := if screen.chosen.isNone ∧ screen.stored.isNone ∧ queued then home.saves ++ [0] else home.saves }) := by
  obtain ⟨first, others, faces⟩ := List.exists_cons_of_ne_nil faced
  have registered := sameFaces.trans faces
  have started : (!home.initialized) = false := by rw [initialized]; rfl
  cases chosen : screen.chosen with
  | some wf =>
      have same := sameChosen.trans chosen
      refine ⟨wf, by simp [Screen.face, chosen], ?_⟩
      have unsaved : ¬((some wf).isNone = true ∧ screen.stored.isNone = true ∧ queued = true) := by simp
      have kept : ({ home with selectedWf := some wf } : Home) = home := by rw [← same]
      rw [if_neg unsaved, kept]
      simp only [watchfaceManagerGetSelectedWf, started, same, Bool.false_eq_true, if_false]
  | none =>
      have fresh := sameChosen.trans chosen
      cases stored : screen.stored with
      | none =>
          have unsaved := sameStored.trans stored
          refine ⟨first, by simp [Screen.face, chosen, stored, faces], ?_⟩
          simp [watchfaceManagerGetSelectedWf, watchfaceManagerSelectWf, registered, started, fresh, unsaved]
      | some idx =>
          have saved := sameStored.trans stored
          by_cases inside : idx.toNat < screen.faces.length
          next =>
            have late : ¬home.allWfs.length ≤ idx.toNat := by rw [sameFaces]; omega
            refine ⟨screen.faces[idx.toNat], by simp [Screen.face, chosen, stored, inside], ?_⟩
            simp [watchfaceManagerGetSelectedWf, started, fresh, saved, sameFaces, Nat.not_le.mpr inside, inside]
          next =>
            have beyond : screen.faces.length ≤ idx.toNat := Nat.not_lt.mp inside
            refine ⟨first, ?_, ?_⟩
            · rw [Screen.face, chosen, stored, Option.bind_some, List.getElem?_eq_none beyond, faces]
              rfl
            · rw [faces] at beyond
              simp only [watchfaceManagerGetSelectedWf, started, fresh, saved, registered, beyond, Bool.false_eq_true,
                if_false, if_true]
              rfl

theorem epochTime_eq {watch : Watch} {known : Known} (keeps : watch.Keeps known) :
    watch.stateManagerGetEpochTime.toNat = known.epochTime := by
  have small : known.epochTime < 2 ^ 32 := by
    have bound := keeps.small
    unfold Known.epochTime
    split
    next => exact bound
    next => exact Nat.two_pow_pos 32
  rw [keeps.epochTime, UInt32.toNat_ofNat', Nat.mod_eq_of_lt small]

theorem Shows.running (shows : home.Shows screen) (gone : screen.shown = none) :
    home.currWf = none ∧ home.subscribed = false ∧ home.ticking = false := by
  have still : home.subscribed = false := by rw [shows.subscribed, gone]; rfl
  exact ⟨shows.shown.trans gone, still, shows.ticking.trans still⟩

theorem running_eq {running : Bool} (subscribed : home.subscribed = running) (ticking : home.ticking = running) :
    { home with subscribed := running, ticking := running } = home := by
  cases home
  cases subscribed
  cases ticking
  rfl

theorem Shows.atFace (shows : home.Shows screen) {page : UiState} {wf : Watchface}
    (page_eq : screen.page = some page) (shown : screen.shown = some wf) : page = .watchface := by
  by_contra elsewhere
  have gone := shows.away (by rw [page_eq, Ne, Option.some.injEq]; exact elsewhere)
  rw [shown] at gone
  cases gone

theorem Shows.closeCurrPage_eq (shows : home.Shows screen) (there : screen.page ≠ none) :
    home.closeCurrPage = some { home with
      calls := screen.leave.calls, subscribed := false, ticking := false, currWf := none, shell := false } := by
  obtain ⟨page, page_eq⟩ := Option.ne_none_iff_exists'.mp there
  have started : (!home.initialized) = false := by rw [shows.initialized]; rfl
  have closed : home.closeCurrPage = some { home.onClose page with shell := false } := by
    rw [closeCurrPage, shows.page, page_eq]
    rfl
  rw [closed]
  cases shown : screen.shown with
  | none =>
      obtain ⟨absent, unsubscribed, still⟩ := shows.running shown
      have off : home.onClose page = home := by
        cases page with
        | watchface => simp [onClose, watchfaceManagerStopWf, absent]
        | notify | app => rfl
      have calls : home.calls = screen.leave.calls := by simp [Screen.leave, shown, shows.calls]
      rw [off, ← calls, ← absent]
      simp only [unsubscribed, still]
  | some wf =>
      have calls : (if wf.deletes then home.calls ++ [.delWatchface wf] else home.calls) = screen.leave.calls := by
        rw [Screen.leave, shown, shows.calls, Option.toList_some]
        by_cases deletes : wf.deletes = true
        next => simp [deletes]
        next => simp [deletes]
      simp only [shows.atFace page_eq shown, onClose, watchfaceManagerStopWf, started, shows.shown, shown,
        Bool.false_eq_true, if_false, calls]

theorem leave_bracketed {last : Option Watchface} (drawn : onScreen screen.calls none = some last)
    (deletes : last.filter Watchface.deletes = screen.shown.filter Watchface.deletes)
    (same : screen.shown.isSome → last = screen.shown) :
    ∃ left, onScreen screen.leave.calls none = some left ∧ left.filter Watchface.deletes = none := by
  rw [Screen.leave, onScreen_append, drawn, Option.bind_some]
  cases shown : screen.shown with
  | none =>
      rw [shown] at deletes
      exact ⟨last, rfl, deletes⟩
  | some wf =>
      rw [shown] at same
      rw [same rfl]
      by_cases deletes : wf.deletes = true
      next => exact ⟨none, by simp [deletes, onScreen], rfl⟩
      next => exact ⟨some wf, by simp [deletes, onScreen], by simp [deletes]⟩

theorem Shows.leave (shows : home.Shows screen) (idle : screen.updating = none) :
    Shows { home with
      calls := screen.leave.calls, subscribed := false, ticking := false, currWf := none, shell := false }
      screen.leave := by
  obtain ⟨last, drawn, deletes, same⟩ := shows.bracketed
  obtain ⟨left, after, nothing⟩ := leave_bracketed drawn deletes same
  exact { shows with
    shown := rfl
    subscribed := rfl
    ticking := rfl
    calls := rfl
    bracketed := ⟨left, after, nothing, fun isShown => by cases isShown⟩
    updates := fun busy => absurd idle busy
    away := fun _ => rfl
    closed := fun _ => rfl
    opened := fun isOpen => by cases isOpen }

theorem Shows.showPage (shows : home.Shows screen) (faced : screen.faces ≠ []) (gone : screen.shown = none)
    (bare : ∃ last, onScreen screen.calls none = some last ∧ last.filter Watchface.deletes = none)
    (closed : home.shell = false) (awake : home.asleep = false) (queued : Bool) (page : UiState) :
    ∃ after, Home.showPage { home with currWatchState := some page } queued true page = some after ∧
      after.Shows (screen.enter queued page) := by
  have shellFree : ¬home.shell = true := by simp [closed]
  by_cases atFace : page = .watchface
  next =>
    subst atFace
    obtain ⟨wf, face, chosen⟩ := @selected { home with currWatchState := some .watchface, shell := true } screen
      shows.initialized shows.faces shows.chosen shows.stored faced queued
    have started : (!home.initialized) = false := by rw [shows.initialized]; rfl
    obtain ⟨last, drawn, nothing⟩ := bare
    have entered : screen.enter queued .watchface = { screen with
        page := some .watchface
        chosen := some wf
        saving :=
          if screen.chosen.isNone ∧ screen.stored.isNone ∧ queued then screen.saving ++ [0] else screen.saving
        shown := some wf
        paused := false
        calls := screen.calls ++ [.drawWatchface wf] } := by
      rw [Screen.enter, if_pos rfl, face]
      rfl
    have opened : Home.showPage { home with currWatchState := some .watchface } queued true .watchface = some { home with
        selectedWf := some wf
        currWf := some wf
        saves := if screen.chosen.isNone ∧ screen.stored.isNone ∧ queued then home.saves ++ [0] else home.saves
        subscribed := true
        ticking := true
        currWatchState := some .watchface
        shell := true
        calls := home.calls ++ [.drawWatchface wf] } := by
      rw [Home.showPage, if_neg shellFree, if_pos rfl]
      simp only [onDraw, watchfaceManagerStartWf, started, Bool.false_eq_true, if_false, chosen]
      rfl
    have drawnLast : onScreen (screen.calls ++ [.drawWatchface wf]) none = some (some wf) := by
      have free : last.all (fun old => !old.deletes) = true := by
        cases last with
        | none => rfl
        | some old => simpa using nothing
      rw [onScreen_append, drawn, Option.bind_some, onScreen, if_pos free]
      rfl
    refine ⟨_, opened, ?_⟩
    rw [entered]
    exact { shows with
      chosen := rfl
      saving := by rw [shows.saving]
      page := rfl
      shown := rfl
      subscribed := rfl
      ticking := rfl
      calls := by rw [shows.calls]
      bracketed := ⟨some wf, drawnLast, rfl, fun _ => rfl⟩
      updates := fun _ => rfl
      faced := fun _ => faced
      away := fun elsewhere => absurd rfl elsewhere
      closed := fun isClosed => by cases isClosed
      opened := fun _ => ⟨by simp, fun _ => rfl⟩
      asleep := fun isAsleep => by rw [awake] at isAsleep; cases isAsleep
      unopened := fun _ => awake }
  next =>
    have entered : screen.enter queued page = { screen with page := some page, paused := false } := by
      rw [Screen.enter, if_neg atFace]
    have drawn : Home.showPage { home with currWatchState := some page } queued true page =
        some { home with currWatchState := some page, shell := true } := by
      rw [Home.showPage, if_neg shellFree, if_pos rfl]
      cases page with
      | watchface => exact absurd rfl atFace
      | notify | app => rfl
    refine ⟨_, drawn, ?_⟩
    rw [entered]
    exact { shows with
      page := rfl
      subscribed := by rw [shows.subscribed, gone]; rfl
      faced := fun _ => faced
      away := fun _ => gone
      closed := fun isClosed => by cases isClosed
      opened := fun _ => ⟨by simp, fun same => absurd (Option.some.inj same) atFace⟩
      asleep := fun isAsleep => by rw [awake] at isAsleep; cases isAsleep
      unopened := fun _ => awake }

theorem handleActionOnRoot_eq {after : Home} {page other : UiState} {next : UiState → Option UiState} {queued : Bool}
    (current : home.currWatchState = some page) (target : next page = some other)
    (left : home.closeCurrPage = some after) :
    home.handleActionOnRoot queued next =
      Home.showPage { after with currWatchState := some other } queued true other := by
  simp only [handleActionOnRoot, current, Option.bind_some, target, left, bind]

theorem Shows.turn (shows : home.Shows screen) (isOpen : home.shell = true) (awake : home.asleep = false)
    (idle : home.updating = none ∨ home.background ≠ none) (queued : Bool) (next : UiState → Option UiState) :
    ∃ after, home.rootKey queued next = some after ∧ after.Shows (screen.turn queued next) := by
  cases alarm : screen.alarm with
  | some _ =>
      have covered := shows.alarm.trans alarm
      exact ⟨home, by simp [rootKey, covered], by simpa [Screen.turn, alarm] using shows⟩
  | none =>
      have uncovered := shows.alarm.trans alarm
      have there := (shows.opened isOpen).1
      obtain ⟨page, page_eq⟩ := Option.ne_none_iff_exists'.mp there
      have current := shows.page.trans page_eq
      cases target : next page with
      | none =>
          refine ⟨home, by simp [rootKey, uncovered, handleActionOnRoot, current, target], ?_⟩
          simpa [Screen.turn, alarm, page_eq, target] using shows
      | some other =>
          obtain ⟨last, drawn, deletes, same⟩ := shows.bracketed
          have still : screen.updating = none := shows.updating.symm.trans (idle.resolve_right (· uncovered))
          obtain ⟨after, opened, shown⟩ := (shows.leave still).showPage (shows.faced there) rfl
            (leave_bracketed drawn deletes same) rfl awake queued other
          refine ⟨after, ?_, ?_⟩
          · rw [← handleActionOnRoot_eq current target (shows.closeCurrPage_eq there)] at opened
            simp only [rootKey, uncovered, Option.isSome_none, Bool.false_eq_true, if_false]
            exact opened
          · simpa only [Screen.turn, alarm, page_eq, target, Option.bind_some] using shown

theorem Shows.suspend_eq (shows : home.Shows screen) (there : screen.page ≠ none) :
    home.uiBaseSuspendBaseScreen = some { home with subscribed := false, ticking := false } := by
  obtain ⟨page, page_eq⟩ := Option.ne_none_iff_exists'.mp there
  have suspended : home.uiBaseSuspendBaseScreen = some (home.onSuspend page) := by
    rw [uiBaseSuspendBaseScreen, shows.page, page_eq]
    rfl
  rw [suspended]
  cases shown : screen.shown with
  | none =>
      obtain ⟨absent, unsubscribed, still⟩ := shows.running shown
      rw [running_eq unsubscribed still]
      cases page with
      | watchface => simp [onSuspend, watchfaceManagerSuspend, absent]
      | notify | app => rfl
  | some wf =>
      simp [shows.atFace page_eq shown, onSuspend, watchfaceManagerSuspend, shows.initialized, shows.shown, shown]

theorem Shows.resume_eq (shows : home.Shows screen) (there : screen.page ≠ none) :
    home.uiBaseResumeBaseScreen =
      some { home with subscribed := screen.shown.isSome, ticking := screen.shown.isSome } := by
  obtain ⟨page, page_eq⟩ := Option.ne_none_iff_exists'.mp there
  have resumed : home.uiBaseResumeBaseScreen = some (home.onResume page) := by
    rw [uiBaseResumeBaseScreen, shows.page, page_eq]
    rfl
  rw [resumed]
  cases shown : screen.shown with
  | none =>
      obtain ⟨absent, unsubscribed, still⟩ := shows.running shown
      rw [Option.isSome_none, running_eq unsubscribed still]
      cases page with
      | watchface => simp [onResume, watchfaceManagerResume, absent]
      | notify | app => rfl
  | some wf =>
      simp [shows.atFace page_eq shown, onResume, watchfaceManagerResume, shows.initialized, shows.shown, shown]

theorem Shows.resume (shows : home.Shows screen) (there : screen.page ≠ none) (awake : home.asleep = false) :
    ∃ after, home.uiBaseResumeBaseScreen = some after ∧ after.Shows { screen with paused := false } := by
  refine ⟨_, shows.resume_eq there, ?_⟩
  exact { shows with
    subscribed := by simp
    ticking := rfl
    asleep := fun isAsleep => by rw [awake] at isAsleep; cases isAsleep }

theorem Shows.pause (shows : home.Shows screen) :
    Shows { home with subscribed := false, ticking := false } { screen with paused := true } :=
  { shows with
    subscribed := by simp
    ticking := rfl
    asleep := fun _ => rfl }

theorem onResume_expiryTimer (home : Home) (expiryTimer : Bool) (page : UiState) :
    onResume { home with expiryTimer } page = { home.onResume page with expiryTimer } := by
  cases page with
  | notify | app => rfl
  | watchface =>
      simp only [onResume, watchfaceManagerResume]
      split
      next => rfl
      next => rfl

theorem resume_expiryTimer (home : Home) (expiryTimer : Bool) :
    uiBaseResumeBaseScreen { home with expiryTimer } =
      home.uiBaseResumeBaseScreen.map fun home => { home with expiryTimer } := by
  rw [uiBaseResumeBaseScreen, uiBaseResumeBaseScreen, Option.map_map]
  exact congrArg (Option.map · _) (funext fun page => onResume_expiryTimer home expiryTimer page)

theorem Shows.dismiss (shows : home.Shows screen) (there : screen.page ≠ none) (awake : home.asleep = false) :
    ∃ after, home.alarmScreenExitCleanup = some after ∧ after.Shows screen.dismiss := by
  cases alarm : screen.alarm with
  | none =>
      have uncovered := shows.alarm.trans alarm
      exact ⟨home, by simp [alarmScreenExitCleanup, uncovered], by simpa [Screen.dismiss, alarm] using shows⟩
  | some _ =>
      have covered := shows.alarm.trans alarm
      have dismissed : Shows { home with background := none, wakelocks := home.wakelocks - 1, expiryTimer := false }
          { screen with alarm := none } :=
        { shows with
          alarm := rfl
          expiryTimer := rfl
          wakelocks := by rw [shows.wakelocks, alarm]; rfl }
      obtain ⟨after, resumed, shown⟩ := dismissed.resume there awake
      refine ⟨after, ?_, ?_⟩
      · rw [← resumed, alarmScreenExitCleanup, covered]
        exact (resume_expiryTimer _ false).symm
      · simpa [Screen.dismiss, alarm] using shown

theorem Shows.alarmEvent (shows : home.Shows screen) (there : screen.page ≠ none) (epoch : UInt32) (locked : Bool) :
    ∃ after, home.uiBaseHandleBaseScreenEvent epoch locked = some after ∧
      after.Shows (screen.act (.alarm epoch locked)) := by
  rw [uiBaseHandleBaseScreenEvent, shows.suspend_eq there, Option.map_some]
  refine ⟨_, rfl, ?_⟩
  cases alarm : screen.alarm with
  | none =>
      have uncovered := shows.alarm.trans alarm
      cases locked with
      | false =>
          simp only [showAlarmPage, Screen.act, alarm, Bool.not_false, Bool.or_true, Option.none_or, if_true,
            Bool.false_eq_true, if_false]
          exact { shows.pause with
            alarm := uncovered
            expiryTimer := by rw [shows.expiryTimer, alarm]
            wakelocks := by rw [shows.wakelocks, alarm] }
      | true =>
          simp only [showAlarmPage, uncovered, Screen.act, alarm, Option.isSome_none, Bool.not_true, Bool.or_false,
            Bool.false_eq_true, if_false, Option.none_or, if_true]
          exact { shows.pause with
            alarm := rfl
            expiryTimer := rfl
            wakelocks := by rw [shows.wakelocks, alarm]; rfl }
  | some _ =>
      have covered := shows.alarm.trans alarm
      simp only [showAlarmPage, covered, Screen.act, alarm, Option.isSome_some, Bool.true_or, if_true, Option.some_or]
      exact { shows.pause with
        alarm := rfl
        expiryTimer := by rw [shows.expiryTimer, alarm]
        wakelocks := by rw [shows.wakelocks, alarm] }

theorem started_shows {watch : Watch} {known : Known} (knows : watch.Keeps known) (stored : Option UInt8) :
    (started stored watch).Shows (.started stored known) where
  initialized := rfl
  faces := rfl
  few := Nat.zero_le _
  chosen := rfl
  stored := rfl
  saving := rfl
  page := rfl
  shown := rfl
  subscribed := rfl
  ticking := rfl
  updating := rfl
  alarm := rfl
  expiryTimer := rfl
  wakelocks := rfl
  knows := knows
  calls := rfl
  bracketed := ⟨none, rfl, rfl, fun isShown => by cases isShown⟩
  updates := fun busy => absurd rfl busy
  inDay := fun _ busy => by cases busy
  faced := fun there => absurd rfl there
  away := fun _ => rfl
  closed := fun _ => rfl
  opened := fun isOpen => by cases isOpen
  asleep := fun isAsleep => by cases isAsleep
  unopened := fun _ => rfl

theorem Shows.watchStep (shows : home.Shows screen) {action : StateManager.Action}
    (allowed : home.watch.Allowed action) :
    ∃ after, home.watchStep action = some after ∧ after.Shows (screen.act (.watch action)) := by
  have kept := shows.knows.step allowed
  cases action with
  | wake | powerOn =>
      cases kept with
      | some kept =>
          refine ⟨_, rfl, ?_⟩
          rw [shows.stored]
          exact started_shows kept screen.stored
  | elapse _ | timeSync _ | weatherSync _ | newSteps _ | checkValidity =>
      cases kept with
      | some kept => exact ⟨_, rfl, { shows with knows := kept }⟩

theorem Shows.register (shows : home.Shows screen) (wf : Watchface) :
    (home.watchfaceManagerRegisterWf wf).Shows (screen.act (.registerWf wf)) := by
  have few := shows.few
  have started : (!home.initialized) = false := by rw [shows.initialized]; rfl
  simp only [watchfaceManagerRegisterWf, started, Screen.act, Bool.false_eq_true, if_false]
  by_cases full : maxWatchfaces ≤ home.allWfs.length
  next =>
    have same : (screen.faces ++ [wf]).take maxWatchfaces = screen.faces := by
      rw [shows.faces] at full
      exact List.take_append_of_le_length full |>.trans (List.take_of_length_le few)
    rw [if_pos full, same]
    exact shows
  next =>
    rw [shows.faces] at full
    have same : (screen.faces ++ [wf]).take maxWatchfaces = screen.faces ++ [wf] := by
      apply List.take_of_length_le
      rw [List.length_append, List.length_singleton]
      omega
    rw [shows.faces, if_neg full, same]
    exact { shows with
      faces := rfl
      few := by
        rw [List.length_append, List.length_singleton]
        omega
      faced := fun _ => by simp }

theorem Shows.select (shows : home.Shows screen) (idx : UInt8) (queued : Bool) :
    (home.watchfaceManagerSelectWf idx queued).2.Shows (screen.act (.selectWf idx queued)) := by
  have started : (!home.initialized) = false := by rw [shows.initialized]; rfl
  have saving := shows.saving
  simp only [watchfaceManagerSelectWf, started, Screen.act, Bool.false_eq_true, if_false, shows.faces]
  by_cases inside : idx.toNat < screen.faces.length
  next =>
    have valid : ¬(screen.faces.length = 0 ∨ screen.faces.length ≤ idx.toNat) := by omega
    rw [if_neg valid, List.getElem?_eq_getElem inside]
    exact { shows with
      faces := rfl
      chosen := rfl
      saving := by rw [saving] }
  next =>
    have invalid : screen.faces.length = 0 ∨ screen.faces.length ≤ idx.toNat := by omega
    rw [if_pos invalid, List.getElem?_eq_none (Nat.not_lt.mp inside)]
    exact shows

theorem Shows.saveDone (shows : home.Shows screen) (index : Nat) (written : Bool) :
    (home.saveDone index written).Shows (screen.act (.save index written)) :=
  { shows with
    saving := by rw [Home.saveDone, shows.saving]; rfl
    stored := by rw [Home.saveDone, shows.saving, shows.stored]; rfl }

theorem Shows.tick (shows : home.Shows screen) (ticking : home.ticking = true) :
    home.tickEventCb.Shows (screen.act .tick) := by
  have subscribed := shows.ticking.symm.trans ticking
  have running := subscribed
  rw [shows.subscribed, Bool.and_eq_true] at running
  have current : home.currWf.isSome = true := by rw [shows.shown]; exact running.1
  have entered : home.tickEventCb = { home with updating := some .entered } := by
    simp [tickEventCb, subscribed, shows.initialized, current]
  rw [entered]
  exact { shows with
    updating := rfl
    updates := fun _ => running.1
    inDay := fun _ busy => by cases busy }

/-- One statement of an update reads what the watch knows, and the last one finds the face still there. -/
theorem Shows.update (shows : home.Shows screen) {update : Update} (busy : screen.updating = some update) :
    ∃ after, home.dispatchWfUpdate update = some after ∧ after.Shows (screen.update update) := by
  have isShown : screen.shown.isSome := shows.updates (by simp [busy])
  cases update with
  | entered =>
      refine ⟨_, rfl, { shows with updating := ?_, updates := fun _ => isShown, inDay := ?_ }⟩
      · rw [Screen.update, epochTime_eq shows.knows]
      · intro date same
        cases same
        exact WeatherApp.getDateTimeFromEpoch_hr screen.known.epochTime
  | dated date =>
      have inDay := shows.inDay date busy
      have hour : (⟨date.hr, inDay⟩ : Fin 24) = ⟨date.hr % 24, Nat.mod_lt _ (by decide)⟩ :=
        Fin.ext (Nat.mod_eq_of_lt inDay).symm
      refine ⟨_, dif_pos inDay, { shows with
        updating := ?_, updates := fun _ => isShown, inDay := fun _ same => by cases same }⟩
      rw [Screen.update, Watch.stateManagerGetWeatherToday, shows.knows.weather, hour]
  | weathered date weather =>
      refine ⟨_, rfl, { shows with
        updating := ?_, updates := fun _ => isShown, inDay := fun _ same => by cases same }⟩
      have steps : home.watch.stateManagerGetStepCount = UInt32.ofNat screen.known.steps := shows.knows.steps
      rw [Screen.update, steps]
  | counted payload =>
      obtain ⟨wf, shown⟩ := Option.isSome_iff_exists.mp isShown
      obtain ⟨last, drawn, _, same⟩ := shows.bracketed
      have there : last = some wf := (same isShown).trans shown
      have updated : onScreen (screen.calls ++ [.updateWatchface wf payload]) none = some (some wf) := by
        rw [onScreen_append, drawn, there, Option.bind_some, onScreen, if_pos rfl]
        rfl
      have called : home.dispatchWfUpdate (.counted payload) = some { home with
          updating := none, calls := home.calls ++ [.updateWatchface wf payload] } := by
        rw [dispatchWfUpdate, shows.shown, shown, Option.map_some]
      have listed : (screen.shown.toList.map fun wf => WfCall.updateWatchface wf payload) =
          [.updateWatchface wf payload] := by
        rw [shown]
        rfl
      refine ⟨_, called, ?_⟩
      simp only [Screen.update, listed]
      exact { shows with
        updating := rfl
        updates := fun idle => absurd rfl idle
        inDay := fun _ same => by cases same
        calls := by rw [shows.calls]
        bracketed := ⟨some wf, updated, by rw [shown], fun _ => shown.symm⟩ }

theorem Shows.step (shows : home.Shows screen) {action : Action} (allowed : home.Allowed action) :
    ∃ after, Home.step home action = some after ∧ after.Shows (screen.act action) := by
  cases action with
  | registerWf wf => exact ⟨_, rfl, shows.register wf⟩
  | selectWf idx queued => exact ⟨_, rfl, shows.select idx queued⟩
  | save index written => exact ⟨_, rfl, shows.saveDone index written⟩
  | uiOn queued locked shellLocked =>
      obtain ⟨unopened, registered, rfl, rfl⟩ := allowed
      rw [shows.page] at unopened
      have gone : screen.shown = none := shows.away (by rw [unopened]; simp)
      have closed : home.shell = false := by
        by_contra isOpen
        exact (shows.opened (Bool.of_not_eq_false isOpen)).1 unopened
      obtain ⟨last, drawn, deletes, _⟩ := shows.bracketed
      rw [gone] at deletes
      exact shows.showPage (shows.faces ▸ registered) gone ⟨last, drawn, deletes⟩ closed (shows.unopened unopened)
        queued .watchface
  | uiOff =>
      have there := (shows.opened allowed.1).1
      exact ⟨_, shows.closeCurrPage_eq there, shows.leave (shows.updating.symm.trans allowed.2)⟩
  | right queued => exact shows.turn allowed.1 allowed.2.1 allowed.2.2 queued _
  | left queued => exact shows.turn allowed.1 allowed.2.1 allowed.2.2 queued _
  | uiSleep =>
      have there : screen.page ≠ none := shows.page ▸ allowed
      refine ⟨_, by rw [Home.step, shows.suspend_eq there]; rfl, ?_⟩
      exact { shows.pause with
        asleep := fun _ => rfl
        unopened := fun unopened => absurd unopened there }
  | uiResume =>
      have there : screen.page ≠ none := shows.page ▸ allowed
      have awake : Shows { home with asleep := false } screen :=
        { shows with
          asleep := fun isAsleep => by cases isAsleep
          unopened := fun _ => rfl }
      exact awake.resume there rfl
  | tick =>
      obtain ⟨ticking, idle⟩ := allowed
      exact ⟨_, if_pos (by simp [ticking, idle]), shows.tick ticking⟩
  | update =>
      obtain ⟨update, busy⟩ := Option.ne_none_iff_exists'.mp allowed
      have shownBusy := shows.updating.symm.trans busy
      obtain ⟨after, called, shown⟩ := shows.update shownBusy
      refine ⟨after, by rw [Home.step, busy]; exact called, ?_⟩
      rw [Screen.act, shownBusy]
      exact shown
  | alarm epoch locked => exact shows.alarmEvent (shows.opened allowed).1 epoch locked
  | dismiss =>
      obtain ⟨isOpen, awake⟩ := allowed
      cases armed : home.expiryTimer with
      | true =>
          obtain ⟨after, dismissed, shown⟩ := shows.dismiss (shows.opened isOpen).1 awake
          exact ⟨after, (if_pos armed).trans dismissed, shown⟩
      | false =>
          have uncovered : screen.alarm.isSome = false := shows.expiryTimer.symm.trans armed
          refine ⟨home, if_neg (by simp [armed]), ?_⟩
          simpa [Screen.act, Screen.dismiss, uncovered] using shows
  | alarmExpiry =>
      obtain ⟨armed, isOpen, awake⟩ := allowed
      obtain ⟨after, dismissed, shown⟩ := shows.dismiss (shows.opened isOpen).1 awake
      exact ⟨after, (if_pos armed).trans dismissed, shown⟩
  | watch action => exact shows.watchStep allowed

theorem step_refines : Refinement.Refines step Screen.step Allowed Shows := by
  intro home screen action shows allowed
  obtain ⟨after, taken, shown⟩ := shows.step allowed
  rw [taken]
  exact .some shown

@[irreducible] def alarmNight : List Action :=
  [.registerWf ⟨"Retro", true⟩, .registerWf ⟨"Analog", true⟩, .uiOn true true true, .tick, .update,
    .watch (.newSteps 70), .update, .update, .update, .right true, .selectWf 1 true, .save 0 true, .save 0 true,
    .left true, .tick, .update, .uiSleep, .alarm 3660 true, .update, .update, .update, .uiResume, .left true, .dismiss,
    .tick, .watch .wake, .registerWf ⟨"Retro", true⟩, .registerWf ⟨"Analog", true⟩, .uiOn true true true]

theorem alarmNight_allowed : Guarded step Allowed (started none .booted) alarmNight :=
  of_decide_eq_true (by decide +kernel)

end Home

end WatchFirmware.WatchfaceMgr
