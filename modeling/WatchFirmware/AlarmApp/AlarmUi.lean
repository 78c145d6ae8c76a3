import WatchFirmware.StateManager.AlarmPlaces

set_option autoImplicit false

namespace WatchFirmware.AlarmApp

open Transition StateManager

/-- A drawn row: `data` points to this place of the snapshot, the labels show this alarm. -/
structure Row where
  offset : Nat
  shown : Entry
  deriving DecidableEq

inductive ChangeOption where
  | edit
  | copy
  | delete

/-- Where the UI task is; the alarm functions of other tasks run between the locked sections. -/
inductive UiPc where
  | idle
  | deleting (row : Row)
  | repopulating
  deriving DecidableEq

-- snapshot holds the first n_alarms places of all_alarms_snapshot; popup and creator say which
-- page lies over the list.
structure AlarmUi where
  manager : AlarmManager
  isOpen : Bool
  snapshot : List Entry
  rows : List Row
  selectedAlarm : Option Row
  popup : Bool
  creator : Bool
  pc : UiPc
  -- kept for the statements only: where the alarm of each row has come to since the drawing
  places : List (Option Nat)

inductive Action where
  | manager (action : AlarmManager.Action)
  | drawAlarmAppUi (acquired allocated : Bool)
  | clickRow (row : Nat)
  | dismissPopup
  | popupSel (option : ChangeOption)
  | deleteAlarmByIndex (acquired : Bool)
  | repopulate (acquired allocated : Bool)
  | addAlarmClick
  | createNewAlarm (alarm : Alarm) (acquired : Bool)
  | closeAlarmCreator
  | deleteAlarmAppUi

namespace AlarmUi

def follow (ui : AlarmUi) (called : AlarmManager.Action) : List (Option Nat) :=
  ui.places.map fun place => place.bind fun place => ui.manager.moved place called

-- alarm_manager_get_all_alarms: a missed lock reads as an empty list.
def alarmManagerGetAllAlarms (m : AlarmManager) (acquired : Bool) : List Entry :=
  if acquired then m.alarms else []

def populateAlarmsList (ui : AlarmUi) (acquired allocated : Bool) : AlarmUi :=
  let alarms := alarmManagerGetAllAlarms ui.manager acquired
  { ui with
    selectedAlarm := none
    snapshot := alarms
    places := (List.range alarms.length).map some
    rows := if allocated then alarms.zipIdx.map fun (entry, i) => ⟨i, entry⟩ else [] }

def findAlarmIndex (ui : AlarmUi) (alarm : Row) : Option Nat :=
  if alarm.offset < ui.snapshot.length then some alarm.offset else none

def startDelete (ui : AlarmUi) (alarm : Row) : AlarmUi :=
  { ui with
    popup := false
    pc := match ui.findAlarmIndex alarm with
      | some _ => .deleting alarm
      | none => .repopulating }

-- A failed assertion has no next state.
def popupSelCb (ui : AlarmUi) (alarm : Row) : ChangeOption → Option AlarmUi
  | .edit => if ui.creator then none else some { ui.startDelete alarm with creator := true }
  | .copy =>
      if ui.creator then none
      else some { ui with creator := true, selectedAlarm := none, popup := false }
  | .delete => some (ui.startDelete alarm)

def idleStep (ui : AlarmUi) : Action → Option AlarmUi
  | .drawAlarmAppUi acquired allocated =>
      if ui.isOpen then none
      else some ({ ui with isOpen := true }.populateAlarmsList acquired allocated)
  | .clickRow row =>
      if ui.popup then none
      else ui.rows[row]?.map fun alarm => { ui with selectedAlarm := some alarm, popup := true }
  | .dismissPopup => if ui.popup then some { ui with popup := false } else none
  | .popupSel option =>
      if ui.popup then ui.selectedAlarm.bind fun alarm => ui.popupSelCb alarm option else none
  | .addAlarmClick => if ui.isOpen ∧ ui.creator = false then some { ui with creator := true } else none
  | .createNewAlarm alarm acquired =>
      if ui.creator then
        let created := ui.manager.alarmManagerCreateAlarm alarm acquired
        let places := ui.follow (.create alarm acquired)
        some (if created.1 then { ui with manager := created.2, places, creator := false, pc := .repopulating }
          else { ui with manager := created.2, places })
      else none
  | .closeAlarmCreator => if ui.creator then some { ui with creator := false } else none
  | .deleteAlarmAppUi =>
      some { ui with
        isOpen := false, snapshot := [], rows := [], selectedAlarm := none, popup := false, creator := false,
        places := [] }
  | _ => none

def step : Step AlarmUi Action := fun ui action =>
  match action, ui.pc with
  | .manager action, _ =>
      (ui.manager.step action).map fun manager => { ui with manager, places := ui.follow action }
  | .deleteAlarmByIndex acquired, .deleting alarm =>
      some { ui with
        manager := (ui.manager.alarmManagerDeleteAlarm alarm.offset acquired).2
        places := ui.follow (.delete alarm.offset acquired)
        pc := .repopulating }
  | .repopulate acquired allocated, .repopulating =>
      some { ui.populateAlarmsList acquired allocated with pc := .idle }
  | action, .idle => ui.idleStep action
  | _, _ => none

def Initial (ui : AlarmUi) : Prop :=
  AlarmManager.Initial ui.manager ∧ ui.isOpen = false ∧ ui.snapshot = [] ∧ ui.rows = [] ∧
    ui.selectedAlarm = none ∧ ui.popup = false ∧ ui.creator = false ∧ ui.pc = .idle ∧ ui.places = []

def Held (ui : AlarmUi) (row : Row) : Prop :=
  row ∈ ui.rows ∨ ui.selectedAlarm = some row ∨ ui.pc = .deleting row

inductive Effect (ui after : AlarmUi) : Prop where
  | called (action : AlarmManager.Action) (taken : ui.manager.step action = some after.manager)
      (places : after.places = ui.follow action) (held : ∀ row, after.Held row → ui.Held row)
  | drawn (manager : after.manager = ui.manager)
      (held : ∀ row, after.Held row →
        ui.manager.alarms[row.offset]? = some row.shown ∧ after.places[row.offset]? = some (some row.offset))
  | beside (manager : after.manager = ui.manager) (held : ∀ row, after.Held row → ui.Held row)
      (places : after.places = ui.places)

theorem mem_drawn {alarms : List Entry} {row : Row}
    (drawn : row ∈ alarms.zipIdx.map fun (entry, i) => (⟨i, entry⟩ : Row)) :
    alarms[row.offset]? = some row.shown := by
  obtain ⟨⟨entry, i⟩, listed, rfl⟩ := List.mem_map.mp drawn
  obtain ⟨there, same⟩ := List.mem_zipIdx' listed
  rw [List.getElem?_eq_getElem there]
  exact congrArg some same.symm

theorem populate_held {ui : AlarmUi} {row : Row} {acquired allocated : Bool}
    (drawn : row ∈ (ui.populateAlarmsList acquired allocated).rows) :
    ui.manager.alarms[row.offset]? = some row.shown ∧
      (ui.populateAlarmsList acquired allocated).places[row.offset]? = some (some row.offset) := by
  have listed : (alarmManagerGetAllAlarms ui.manager acquired)[row.offset]? = some row.shown := by
    simp only [populateAlarmsList] at drawn
    split at drawn
    next => exact mem_drawn drawn
    next => exact absurd drawn List.not_mem_nil
  have inside := (List.getElem?_eq_some_iff.mp listed).1
  constructor
  next =>
    cases acquired with
    | true => exact listed
    | false => exact absurd inside (Nat.not_lt_zero _)
  next => simp only [populateAlarmsList, List.getElem?_map, List.getElem?_range inside, Option.map_some]

theorem effect_popupSel {ui after : AlarmUi} {row : Row} {option : ChangeOption}
    (selected : ui.selectedAlarm = some row) (chosen : ui.popupSelCb row option = some after) :
    Effect ui after := by
  have deletes (row' : Row) (pc : (ui.startDelete row).pc = .deleting row') : ui.Held row' := by
    simp only [startDelete] at pc
    split at pc
    next =>
      cases pc
      exact .inr (.inl selected)
    next => contradiction
  cases option with
  | edit =>
      simp only [popupSelCb] at chosen
      split at chosen
      next => contradiction
      next =>
        cases chosen
        refine .beside rfl (fun row' held => ?_) rfl
        obtain drawn | still | deleting := held
        next => exact .inl drawn
        next => exact .inr (.inl still)
        next => exact deletes row' deleting
  | copy =>
      simp only [popupSelCb] at chosen
      split at chosen
      next => contradiction
      next =>
        cases chosen
        refine .beside rfl (fun row' held => ?_) rfl
        obtain drawn | still | deleting := held
        next => exact .inl drawn
        next => contradiction
        next => exact .inr (.inr deleting)
  | delete =>
      cases chosen
      refine .beside rfl (fun row' held => ?_) rfl
      obtain drawn | still | deleting := held
      next => exact .inl drawn
      next => exact .inr (.inl still)
      next => exact deletes row' deleting

theorem effect_idle {ui after : AlarmUi} {action : Action} (idle : ui.pc = .idle)
    (taken : ui.idleStep action = some after) : Effect ui after := by
  cases action with
  | manager | deleteAlarmByIndex | repopulate => simp [idleStep] at taken
  | drawAlarmAppUi acquired allocated =>
      simp only [idleStep] at taken
      split at taken
      next => contradiction
      next =>
        cases taken
        refine .drawn rfl fun row held => ?_
        obtain drawn | selected | deleting := held
        next => exact @populate_held { ui with isOpen := true } row acquired allocated drawn
        next => contradiction
        next => exact absurd (idle.symm.trans deleting) UiPc.noConfusion
  | clickRow row =>
      simp only [idleStep] at taken
      split at taken
      next => contradiction
      next =>
        obtain ⟨alarm, clicked, rfl⟩ := Option.map_eq_some_iff.mp taken
        refine .beside rfl (fun row held => ?_) rfl
        obtain drawn | selected | deleting := held
        next => exact .inl drawn
        next =>
          cases selected
          exact .inl (List.mem_of_getElem? clicked)
        next => exact .inr (.inr deleting)
  | dismissPopup | addAlarmClick | closeAlarmCreator =>
      simp only [idleStep] at taken
      split at taken
      next =>
        cases taken
        exact .beside rfl (fun _ held => held) rfl
      next => contradiction
  | popupSel option =>
      simp only [idleStep] at taken
      split at taken
      next =>
        obtain ⟨alarm, selected, chosen⟩ := Option.bind_eq_some_iff.mp taken
        exact effect_popupSel selected chosen
      next => contradiction
  | createNewAlarm alarm acquired =>
      simp only [idleStep] at taken
      split at taken
      next =>
        cases taken
        refine .called (.create alarm acquired) ?_ ?_ ?_
        next => split <;> rfl
        next => split <;> rfl
        next =>
          intro row held
          split at held
          next =>
            obtain drawn | selected | deleting := held
            next => exact .inl drawn
            next => exact .inr (.inl selected)
            next => contradiction
          next => exact held
      next => contradiction
  | deleteAlarmAppUi =>
      cases taken
      refine .drawn rfl fun row held => ?_
      obtain drawn | selected | deleting := held
      next => exact absurd drawn List.not_mem_nil
      next => contradiction
      next => exact absurd (idle.symm.trans deleting) UiPc.noConfusion

/-- The app reaches the list through the functions of the alarm manager only. -/
theorem effect_of_step {ui after : AlarmUi} {action : Action} (taken : step ui action = some after) :
    Effect ui after := by
  unfold step at taken
  split at taken
  next called =>
    obtain ⟨manager, moved, rfl⟩ := Option.map_eq_some_iff.mp taken
    exact .called called moved rfl fun _ held => held
  next acquired alarm pc =>
    cases taken
    refine .called (.delete alarm.offset acquired) rfl rfl fun row held => ?_
    obtain drawn | selected | deleting := held
    next => exact .inl drawn
    next => exact .inr (.inl selected)
    next => contradiction
  next pc =>
    cases taken
    refine .drawn rfl fun row held => ?_
    obtain drawn | selected | deleting := held
    next => exact populate_held drawn
    next => contradiction
    next => contradiction
  next idle => exact effect_idle idle taken
  next => contradiction

structure Followed (ui : AlarmUi) : Prop where
  tracked : ui.manager.Tracked
  old : ∀ row, ui.Held row → row.shown.id < ui.manager.nextId
  found : ∀ row, ui.Held row →
    ∃ place, ui.places[row.offset]? = some place ∧ AlarmManager.At ui.manager.alarms row.shown place

theorem Followed.step {ui after : AlarmUi} {action : Action} (taken : step ui action = some after)
    (followed : ui.Followed) : after.Followed := by
  cases effect_of_step taken with
  | called action moved places held =>
      refine ⟨followed.tracked.step moved, fun row now => ?_, fun row now => ?_⟩
      next => exact Nat.lt_of_lt_of_le (followed.old row (held row now)) (AlarmManager.nextId_mono moved)
      next =>
        obtain ⟨place, known, found⟩ := followed.found row (held row now)
        refine ⟨_, ?_, found.step followed.tracked moved (followed.old row (held row now))⟩
        rw [places, follow, List.getElem?_map, known, Option.map_some]
  | drawn manager held =>
      refine ⟨manager ▸ followed.tracked, fun row now => ?_, fun row now => ?_⟩
      next =>
        have listed := List.mem_of_getElem? (held row now).1
        rw [manager]
        exact followed.tracked.2 _ (List.mem_append_right _ (List.mem_map_of_mem listed))
      next =>
        refine ⟨_, (held row now).2, ?_⟩
        rw [manager]
        exact (held row now).1
  | beside manager held places =>
      refine ⟨manager ▸ followed.tracked, fun row now => ?_, fun row now => ?_⟩
      next =>
        rw [manager]
        exact followed.old row (held row now)
      next =>
        rw [manager, places]
        exact followed.found row (held row now)

theorem initial_followed {ui : AlarmUi} (initial : Initial ui) : ui.Followed := by
  obtain ⟨manager, _, _, rows, selected, _, _, pc, _⟩ := initial
  have nothing (row : Row) : ¬ui.Held row := by
    rintro (drawn | chosen | deleting)
    next =>
      rw [rows] at drawn
      exact List.not_mem_nil drawn
    next =>
      rw [selected] at chosen
      contradiction
    next =>
      rw [pc] at deleting
      contradiction
  exact ⟨AlarmManager.init_tracked manager, fun row held => absurd held (nothing row),
    fun row held => absurd held (nothing row)⟩

theorem followed_of_reach {ui : AlarmUi} (reached : Reach step Initial Unguarded ui) : ui.Followed :=
  reached.invariant (fun _ => initial_followed) fun _ _ _ before _ taken => before.step taken

/-- All that has left and come in front of the row's alarm since the drawing has moved it by nothing;
or it is gone, and no alarm is at its place. -/
def Returned (ui : AlarmUi) (row : Row) : Prop :=
  match ui.places[row.offset]? with
  | some (some place) => place = row.offset
  | _ => ui.manager.alarms.length ≤ row.offset

def Gone (ui : AlarmUi) (row : Row) : Prop := ui.places[row.offset]? = some none

theorem erase_at {alarms : List Entry} {shown : Entry} {place : Nat} (nodup : alarms.Nodup)
    (there : alarms[place]? = some shown) : alarms.erase shown = alarms.eraseIdx place := by
  obtain ⟨inside, same⟩ := List.getElem?_eq_some_iff.mp there
  exact List.erase_eq_eraseIdx_of_idxOf (same ▸ nodup.idxOf_getElem place inside)

theorem eraseIdx_eq_erase_iff {alarms : List Entry} {shown : Entry} {place : Option Nat} {k : Nat}
    (nodup : alarms.Nodup) (found : AlarmManager.At alarms shown place) :
    alarms.eraseIdx k = alarms.erase shown ↔
      match place with
      | some place => place = k
      | none => alarms.length ≤ k := by
  cases place with
  | some place =>
      constructor
      next =>
        intro same
        by_contra moved
        -- the alarm shown would have to be both gone and still there
        have kept : shown ∈ alarms.eraseIdx k := List.mem_eraseIdx_iff_getElem?.mpr ⟨place, moved, found⟩
        rw [same] at kept
        exact nodup.not_mem_erase kept
      next =>
        rintro rfl
        exact (erase_at nodup found).symm
  | none =>
      rw [List.erase_of_not_mem found]
      constructor
      next =>
        intro same
        by_contra inside
        have length := congrArg List.length same
        rw [List.length_eraseIdx_of_lt (Nat.lt_of_not_le inside)] at length
        omega
      next => exact List.eraseIdx_of_length_le

theorem eq_erase_iff {alarms : List Entry} {shown : Entry} {place : Option Nat} (nodup : alarms.Nodup)
    (found : AlarmManager.At alarms shown place) : alarms = alarms.erase shown ↔ place = none := by
  cases place with
  | some place =>
      refine ⟨fun same => ?_, fun gone => absurd gone (Option.some_ne_none place)⟩
      have listed := List.mem_of_getElem? found
      rw [same] at listed
      exact absurd listed nodup.not_mem_erase
  | none => exact ⟨fun _ => rfl, fun _ => (List.erase_of_not_mem found).symm⟩

theorem deleteAlarm_alarms (m : AlarmManager) (k : Nat) (acquired : Bool) :
    (m.alarmManagerDeleteAlarm k acquired).2.alarms = if acquired then m.alarms.eraseIdx k else m.alarms := by
  cases acquired with
  | false => rfl
  | true =>
      rcases m.deleteAlarm_cases k true with refused | ⟨_, position, at_, within, removed⟩
      · have outside : m.alarms.length ≤ k := by
          by_contra inside
          simp only [AlarmManager.alarmManagerDeleteAlarm, if_true] at refused
          split at refused
          next invalid => omega
          next => split at refused <;> cases refused
        rw [refused, if_pos rfl, List.eraseIdx_of_length_le outside]
      · obtain rfl : k = position := Int.ofNat_inj.mp at_
        rw [removed, if_pos rfl, AlarmManager.erase_alarms]

/-- In every run: with the lock, deleting the selected row takes exactly the alarm it shows off the list if and
only if what other tasks did since the drawing has brought that alarm back to its place. -/
theorem delete_removes_selected_iff {ui after : AlarmUi} {row : Row} {acquired : Bool}
    (reached : Reach step Initial Unguarded ui) (deleting : ui.pc = .deleting row)
    (taken : step ui (.deleteAlarmByIndex acquired) = some after) :
    after.manager.alarms = ui.manager.alarms.erase row.shown ↔
      if acquired then ui.Returned row else ui.Gone row := by
  have followed := followed_of_reach reached
  have apart : (ui.manager.alarms.map Entry.id).Nodup := (List.nodup_append.mp followed.tracked.1).2.1
  have nodup : ui.manager.alarms.Nodup := apart.of_map
  obtain ⟨place, known, found⟩ := followed.found row (.inr (.inr deleting))
  have moved : after.manager = (ui.manager.alarmManagerDeleteAlarm row.offset acquired).2 := by
    simp only [step, deleting] at taken
    cases taken
    rfl
  rw [moved, deleteAlarm_alarms]
  cases acquired with
  | true =>
      simp only [if_true, Returned, known]
      rw [eraseIdx_eq_erase_iff nodup found]
      cases place <;> rfl
  | false =>
      simp only [Bool.false_eq_true, if_false, Gone, known, Option.some.injEq]
      exact eq_erase_iff nodup found

def closed : AlarmUi := ⟨AlarmManager.booted, false, [], [], none, false, false, .idle, []⟩

theorem closed_initial : Initial closed :=
  ⟨AlarmManager.booted_initial, rfl, rfl, rfl, rfl, rfl, rfl, rfl, rfl⟩

def threeAlarms : List Action :=
  [.manager (.create ⟨1000020, .watch, false⟩ true), .manager (.create ⟨1000090, .watch, false⟩ true),
    .manager (.create ⟨1000120, .watch, false⟩ true), .drawAlarmAppUi true true, .clickRow 1,
    .manager (.elapse (20 * 10 ^ 6)), .manager .expire, .manager (.callback true)]

def second : Entry := ⟨1, ⟨1000090, .watch, false⟩⟩

theorem delete_removes_selected_returned :
    ∃ ui after : AlarmUi, ui.pc = .deleting ⟨1, second⟩ ∧
      step ui (.deleteAlarmByIndex true) = some after ∧
      after.manager.alarms = ui.manager.alarms.erase second := by
  let actions := threeAlarms ++ [.manager (.create ⟨1000060, .watch, false⟩ true), .popupSel .delete]
  have ran : ((run step closed actions).map fun ui => (ui.pc, ui.places)) =
      some (.deleting ⟨1, second⟩, [none, some 1, some 2]) := by decide +kernel
  obtain ⟨ui, taken, seen⟩ := Option.map_eq_some_iff.mp ran
  obtain ⟨deleting, places⟩ := Prod.mk.inj seen
  have reached := (Reach.start closed_initial).of_run (guarded_unguarded step closed actions) taken
  have stepped : ∃ after, step ui (.deleteAlarmByIndex true) = some after := by
    simp only [step, deleting]
    exact ⟨_, rfl⟩
  obtain ⟨after, stepped⟩ := stepped
  refine ⟨ui, after, deleting, stepped, (delete_removes_selected_iff reached deleting stepped).mpr ?_⟩
  rw [if_pos rfl, Returned, places]
  rfl

/-- Deleting the second row removes the third alarm. -/
theorem delete_removes_next_alarm :
    ∃ ui after : AlarmUi, Reach step Initial Unguarded ui ∧ ui.pc = .deleting ⟨1, second⟩ ∧
      step ui (.deleteAlarmByIndex true) = some after ∧ second ∈ after.manager.alarms ∧
      after.manager.alarms ≠ ui.manager.alarms.erase second := by
  let actions := threeAlarms ++ [.popupSel .delete]
  let third : Entry := ⟨2, ⟨1000120, .watch, false⟩⟩
  have ran : ((run step closed actions).map fun ui => (ui.pc, ui.manager.alarms)) =
      some (.deleting ⟨1, second⟩, [second, third]) := by decide +kernel
  obtain ⟨ui, taken, seen⟩ := Option.map_eq_some_iff.mp ran
  obtain ⟨deleting, alarms⟩ := Prod.mk.inj seen
  have reached := (Reach.start closed_initial).of_run (guarded_unguarded step closed actions) taken
  have removed : (ui.manager.alarmManagerDeleteAlarm (1 : Nat) true).2.alarms = [second] := by
    rw [deleteAlarm_alarms, alarms]
    rfl
  refine ⟨ui, _, reached, deleting, by simp only [step, deleting]; rfl, ?_, ?_⟩
  · show second ∈ (ui.manager.alarmManagerDeleteAlarm (1 : Nat) true).2.alarms
    rw [removed]
    exact List.mem_singleton_self second
  · show (ui.manager.alarmManagerDeleteAlarm (1 : Nat) true).2.alarms ≠ ui.manager.alarms.erase second
    rw [removed, alarms]
    decide

end AlarmUi

end WatchFirmware.AlarmApp
