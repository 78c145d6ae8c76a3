import WatchFirmware.WeatherApp.Steady
import WatchFirmware.Shared.Transition

set_option autoImplicit false

namespace WatchFirmware.WeatherApp

open Transition CommonApis

structure Navigation where
  ctx : WeatherAppCtx
  callback : Option Callback
  workers : List Handling
  -- an assertion has failed, or an index was out of range
  failed : Bool

/-- A key or a change of the focus starts a callback and a response a worker; from then on the
tasks go on in any order, one phase at a time. -/
inductive Event where
  | dateKey (key : Key)
  | hourKey (key : Key)
  | dateUnfocused
  | response (update : AppUpdate)
  | callback
  | worker (worker : Nat)
  | lockTimeout (worker : Nat)

namespace Navigation

def start (nav : Navigation) (callback : Callback) : Option Navigation :=
  match nav.callback with
  | none => some { nav with callback := some callback }
  | some _ => none

def callbackStep (nav : Navigation) (phase : Callback) : Navigation :=
  match phase.act nav.ctx with
  | none => { nav with failed := true }
  | some (after, next) => { nav with ctx := after, callback := next }

def moved (nav : Navigation) (worker : Nat) : Option Handling → Navigation
  | some next => { nav with workers := nav.workers.set worker next }
  | none => { nav with workers := nav.workers.eraseIdx worker }

/-- The UI task has the lock in its callbacks. -/
def workerStep (nav : Navigation) (worker : Nat) (phase : Handling) : Option Navigation :=
  if phase.underLock = true ∧ nav.callback.isSome = true then none
  else
    match phase.act nav.ctx with
    | none => some { nav with failed := true }
    | some (after, next) => some (moved { nav with ctx := after } worker next)

def lockTimeout (nav : Navigation) (worker : Nat) (phase : Handling) : Option Navigation :=
  if phase.underLock then some (nav.moved worker phase.skip) else none

def step : Step Navigation Event := fun nav event =>
  if nav.failed then none
  else
    match event with
    | .dateKey key => nav.start (.dateKey key)
    | .hourKey key => nav.start (.hourKey key)
    | .dateUnfocused => nav.start .dateUnfocused
    | .response update => some { nav with workers := nav.workers ++ [.received update] }
    | .callback => nav.callback.map nav.callbackStep
    | .worker worker => nav.workers[worker]?.bind (nav.workerStep worker)
    | .lockTimeout worker => nav.workers[worker]?.bind (nav.lockTimeout worker)

/-- `draw_app_ui` has made the context; its callback ends with `initialize_weather_ui`. -/
def opening (start : DateTime) (stored : DayWeather) : Navigation where
  ctx :=
    { weatherData := stored
      activeDateTime := start
      dateOffset := 0
      hrOffset := 0
      topCard := none
      bottomCard := none
      hourlyLbl := none
      dateLbl := none
      spinner := false
      today := stored
      dateSelected := false }
  callback := some (.drawing .initializing false)
  workers := []
  failed := false

def Initial (nav : Navigation) : Prop := ∃ start stored, start.hr < 24 ∧ nav = opening start stored

def torn (nav : Navigation) : List Field := Callback.tornNext nav.callback

/-- The bounds, but for what the UI task is about to reset after it has stored a selected date. -/
structure Safe (nav : Navigation) : Prop where
  asserts : nav.failed = false
  date : nav.ctx.DateInside
  hour : .hrOffset ∉ nav.torn → nav.ctx.HourInside
  epoch : .dateOffset ∉ nav.torn → nav.ctx.EpochInside

/-- No other task stores the date or an offset between a test of it and the store the test is for,
and no worker asserts what the UI task is about to reset or deletes a spinner that is gone. -/
def Whole (nav : Navigation) : Event → Prop
  | .callback =>
      ∀ phase ∈ nav.callback, ∀ other ∈ nav.workers, Apart phase.stores other.tested
  | .worker worker =>
      ∀ phase ∈ nav.workers[worker]?,
        (∀ other ∈ nav.workers.eraseIdx worker, Apart phase.stores other.tested) ∧
          (∀ other ∈ nav.callback, Apart phase.stores other.tested) ∧
          Apart phase.asserts nav.torn ∧ (phase.deletesSpinner = true → nav.ctx.spinner = true)
  | _ => True

instance (nav : Navigation) (event : Event) : Decidable (nav.Whole event) := by
  cases event with
  | callback => exact inferInstanceAs (Decidable (∀ phase ∈ nav.callback, _))
  | worker worker => exact inferInstanceAs (Decidable (∀ phase ∈ nav.workers[worker]?, _))
  | _ => exact instDecidableTrue

structure Sound (nav : Navigation) : Prop where
  asserts : nav.failed = false
  steady : Steady nav.torn nav.ctx
  callback : ∀ phase ∈ nav.callback, phase.Ready nav.ctx
  workers : ∀ phase ∈ nav.workers, phase.Ready nav.ctx

theorem Sound.safe {nav : Navigation} (sound : nav.Sound) : nav.Safe :=
  ⟨sound.asserts, sound.steady.date, sound.steady.hour, sound.steady.epoch⟩

variable {nav after : Navigation}

theorem Sound.start {callback : Callback} (ready : callback.Ready nav.ctx) (whole : callback.torn = [])
    (taken : nav.start callback = some after) (sound : nav.Sound) : after.Sound := by
  unfold Navigation.start at taken
  split at taken
  next idle =>
    cases taken
    have steady := sound.steady
    have same : nav.torn = callback.torn := by rw [torn, idle, whole, Callback.tornNext, Option.map_none, Option.getD_none]
    rw [same] at steady
    refine ⟨sound.asserts, steady, fun phase present => ?_, sound.workers⟩
    cases present
    exact ready
  next => contradiction

theorem Sound.callbackStep {phase : Callback} (present : nav.callback = some phase)
    (apart : ∀ other ∈ nav.workers, Apart phase.stores other.tested) (sound : nav.Sound) :
    (nav.callbackStep phase).Sound := by
  have steady := sound.steady
  rw [torn, present] at steady
  obtain ⟨ctx, next, acted, kept, ready⟩ := Callback.act_steady (sound.callback phase present) steady
  have stored := Callback.act_stores acted
  rw [Navigation.callbackStep, acted]
  refine ⟨sound.asserts, kept, ready, fun other held => ?_⟩
  exact Handling.Ready.of_stored stored (apart other held) (sound.workers other held)

theorem mem_set_cases {workers : List Handling} {worker : Nat} {next other : Handling}
    (present : other ∈ workers.set worker next) : other = next ∨ other ∈ workers.eraseIdx worker := by
  obtain ⟨j, held⟩ := List.mem_iff_getElem?.mp present
  by_cases same : worker = j
  next =>
    rw [same, List.getElem?_set_self'] at held
    obtain ⟨_, _, rfl⟩ := Option.map_eq_some_iff.mp held
    exact .inl rfl
  next =>
    rw [List.getElem?_set_ne same] at held
    exact .inr (List.mem_eraseIdx_iff_getElem?.mpr ⟨j, Ne.symm same, held⟩)

theorem Sound.moved {worker : Nat} {ctx : WeatherAppCtx} {next : Option Handling} (steady : Steady nav.torn ctx)
    (callback : ∀ phase ∈ nav.callback, phase.Ready ctx)
    (others : ∀ phase ∈ nav.workers.eraseIdx worker, phase.Ready ctx) (ready : ∀ phase ∈ next, phase.Ready ctx)
    (sound : nav.Sound) : (Navigation.moved { nav with ctx } worker next).Sound := by
  cases next with
  | none => exact ⟨sound.asserts, steady, callback, others⟩
  | some next =>
      refine ⟨sound.asserts, steady, callback, fun other present => ?_⟩
      obtain rfl | kept := mem_set_cases present
      next => exact ready other rfl
      next => exact others other kept

theorem Sound.workerStep {worker : Nat} {phase : Handling} (held : nav.workers[worker]? = some phase)
    (whole : nav.Whole (.worker worker)) (taken : nav.workerStep worker phase = some after)
    (sound : nav.Sound) : after.Sound := by
  obtain ⟨others, callback, asserts, spinner⟩ := whole phase held
  have before := sound.workers phase (List.mem_of_getElem? held)
  obtain ⟨ctx, next, acted, kept, ready⟩ := Handling.act_steady before sound.steady asserts spinner
  have stored := Handling.act_stores acted
  unfold Navigation.workerStep at taken
  split at taken
  next => contradiction
  next =>
    rw [acted] at taken
    cases taken
    refine sound.moved kept (fun other present => ?_) (fun other present => ?_) ready
    next => exact (sound.callback other present).of_stored stored (callback other present)
    next =>
      have old := sound.workers other (List.mem_of_mem_eraseIdx present)
      exact old.of_stored stored (others other present)

theorem Sound.lockTimeout {worker : Nat} {phase : Handling} (taken : nav.lockTimeout worker phase = some after)
    (sound : nav.Sound) : after.Sound := by
  unfold Navigation.lockTimeout at taken
  split at taken
  next =>
    cases taken
    refine sound.moved sound.steady sound.callback (fun other present => ?_) (fun other present => ?_)
    next => exact sound.workers other (List.mem_of_mem_eraseIdx present)
    next => cases phase <;> cases present <;> trivial
  next => contradiction

theorem Sound.step {event : Event} (whole : nav.Whole event) (taken : step nav event = some after)
    (sound : nav.Sound) : after.Sound := by
  simp only [Navigation.step, sound.asserts, Bool.false_eq_true, if_false] at taken
  cases event with
  | dateKey key => exact @Sound.start nav after (.dateKey key) trivial rfl taken sound
  | hourKey key => exact @Sound.start nav after (.hourKey key) trivial rfl taken sound
  | dateUnfocused => exact @Sound.start nav after .dateUnfocused trivial rfl taken sound
  | response update =>
      cases taken
      refine ⟨rfl, sound.steady, sound.callback, fun phase present => ?_⟩
      obtain old | new := List.mem_append.mp present
      next => exact sound.workers phase old
      next =>
        cases List.mem_singleton.mp new
        trivial
  | callback =>
      obtain ⟨phase, present, rfl⟩ := Option.map_eq_some_iff.mp taken
      exact sound.callbackStep present (whole phase present)
  | worker worker =>
      obtain ⟨phase, held, moved⟩ := Option.bind_eq_some_iff.mp taken
      exact sound.workerStep held whole moved
  | lockTimeout worker =>
      obtain ⟨phase, _, moved⟩ := Option.bind_eq_some_iff.mp taken
      exact sound.lockTimeout moved

structure Opening (nav : Navigation) : Prop where
  asserts : nav.failed = false
  hour : nav.ctx.activeDateTime.hr < 24
  hrOffset : nav.ctx.hrOffset = 0
  dateOffset : nav.ctx.dateOffset = 0
  spinner : nav.ctx.spinner = false
  callback : nav.callback = some (.drawing .initializing false) ∨ nav.callback = some (.drawing .zeroing false)
  workers : ∀ phase ∈ nav.workers, phase = .copied ∨ ∃ update, phase = .received update

theorem today_inside {ctx : WeatherAppCtx} (hour : ctx.activeDateTime.hr < 24) (hrOffset : ctx.hrOffset = 0)
    (dateOffset : ctx.dateOffset = 0) : ctx.HourInside ∧ ctx.DateInside ∧ ctx.EpochInside := by
  rw [WeatherAppCtx.HourInside, WeatherAppCtx.DateInside, WeatherAppCtx.EpochInside, hrOffset, dateOffset]
  exact ⟨by omega, by decide, proposedEpoch_today _⟩

theorem Opening.safe (opening : nav.Opening) : nav.Safe := by
  obtain ⟨hour, date, epoch⟩ := today_inside opening.hour opening.hrOffset opening.dateOffset
  exact ⟨opening.asserts, date, fun _ => hour, fun _ => epoch⟩

theorem Opening.waiting (opening : nav.Opening) : ∀ phase ∈ nav.workers, phase.Ready nav.ctx := by
  intro phase present
  obtain rfl | ⟨update, rfl⟩ := opening.workers phase present
  next => trivial
  next => trivial

theorem Opening.callbackStep {phase : Callback} (present : nav.callback = some phase) (opening : nav.Opening) :
    (nav.callbackStep phase).Opening ∨ (nav.callbackStep phase).Sound := by
  obtain initializing | zeroing := opening.callback
  next =>
    obtain rfl := Option.some.inj (present.symm.trans initializing)
    by_cases valid : validateDateTime nav.ctx.activeDateTime = true
    next =>
      have acted : Callback.act nav.ctx (.drawing .initializing false) =
          some (nav.ctx, some (.drawing .validating false)) := by
        rw [Callback.act, Handling.act, if_pos valid, Option.map_some]
      obtain ⟨hour, date, epoch⟩ := today_inside opening.hour opening.hrOffset opening.dateOffset
      rw [Navigation.callbackStep, acted]
      refine .inr ⟨opening.asserts, ⟨.inr valid, date, fun _ => hour, fun _ => epoch⟩, fun phase here => ?_, opening.waiting⟩
      cases here
      exact ⟨rfl, trivial⟩
    next =>
      have acted : Callback.act nav.ctx (.drawing .initializing false) =
          some (nav.ctx, some (.drawing .zeroing false)) := by
        rw [Callback.act, Handling.act, if_neg valid, Option.map_some]
      rw [Navigation.callbackStep, acted]
      exact .inl ⟨opening.asserts, opening.hour, opening.hrOffset, opening.dateOffset, opening.spinner, .inr rfl,
        opening.workers⟩
  next =>
    obtain rfl := Option.some.inj (present.symm.trans zeroing)
    have zero : DateTime.zero.hr < 24 := by decide
    obtain ⟨hour, date, epoch⟩ :=
      @today_inside { nav.ctx with activeDateTime := .zero } zero opening.hrOffset opening.dateOffset
    refine .inr ⟨opening.asserts, ⟨.inl rfl, date, fun _ => hour, fun _ => epoch⟩, fun phase here => ?_, ?_⟩
    next => exact absurd here (Option.not_mem_none phase)
    next =>
      intro phase here
      obtain rfl | ⟨update, rfl⟩ := opening.workers phase here
      next => trivial
      next => trivial

theorem Opening.workerStep {worker : Nat} {phase : Handling} (held : nav.workers[worker]? = some phase)
    (taken : nav.workerStep worker phase = some after) (opening : nav.Opening) : after.Opening := by
  obtain rfl | ⟨update, rfl⟩ := opening.workers phase (List.mem_of_getElem? held)
  next =>
    have acted : Handling.act nav.ctx .copied = some (nav.ctx, none) := by
      rw [Handling.act, if_neg (Bool.eq_false_iff.mp opening.spinner)]
    rw [Navigation.workerStep, if_neg (fun locked => Bool.noConfusion locked.1), acted] at taken
    cases taken
    exact ⟨opening.asserts, opening.hour, opening.hrOffset, opening.dateOffset, opening.spinner, opening.callback,
      fun other present => opening.workers other (List.mem_of_mem_eraseIdx present)⟩
  next =>
    cases taken
    refine ⟨opening.asserts, opening.hour, opening.hrOffset, opening.dateOffset, opening.spinner, opening.callback,
      fun other present => ?_⟩
    obtain rfl | kept := mem_set_cases present
    next => exact .inl rfl
    next => exact opening.workers other (List.mem_of_mem_eraseIdx kept)

theorem Opening.step {event : Event} (taken : step nav event = some after) (opening : nav.Opening) :
    after.Opening ∨ after.Sound := by
  simp only [Navigation.step, opening.asserts, Bool.false_eq_true, if_false] at taken
  have busy (callback : Callback) : nav.start callback = none := by
    obtain present | present := opening.callback
    next => rw [Navigation.start, present]
    next => rw [Navigation.start, present]
  cases event with
  | dateKey key => exact absurd ((busy (.dateKey key)).symm.trans taken) (Option.some_ne_none after).symm
  | hourKey key => exact absurd ((busy (.hourKey key)).symm.trans taken) (Option.some_ne_none after).symm
  | dateUnfocused => exact absurd ((busy .dateUnfocused).symm.trans taken) (Option.some_ne_none after).symm
  | response update =>
      cases taken
      refine .inl ⟨rfl, opening.hour, opening.hrOffset, opening.dateOffset, opening.spinner, opening.callback, ?_⟩
      intro phase present
      obtain old | new := List.mem_append.mp present
      next => exact opening.workers phase old
      next => exact .inr ⟨update, List.mem_singleton.mp new⟩
  | callback =>
      obtain ⟨phase, present, rfl⟩ := Option.map_eq_some_iff.mp taken
      exact opening.callbackStep present
  | worker worker =>
      obtain ⟨phase, held, moved⟩ := Option.bind_eq_some_iff.mp taken
      exact .inl (opening.workerStep held moved)
  | lockTimeout worker =>
      obtain ⟨phase, held, moved⟩ := Option.bind_eq_some_iff.mp taken
      obtain rfl | ⟨update, rfl⟩ := opening.workers phase (List.mem_of_getElem? held)
      next => contradiction
      next => contradiction

theorem initial_opening (initial : Initial nav) : nav.Opening := by
  obtain ⟨start, stored, early, rfl⟩ := initial
  exact ⟨rfl, early, rfl, rfl, rfl, .inl rfl, List.forall_mem_nil _⟩

theorem kept_of_reach (reached : Reach step Initial Whole nav) : nav.Opening ∨ nav.Sound := by
  induction reached with
  | start initial => exact .inl (initial_opening initial)
  | next _ whole taken kept =>
      obtain opening | sound := kept
      next => exact opening.step taken
      next => exact .inr (sound.step whole taken)

end Navigation

open Navigation

/-- From every date with an hour of the day, in whatever order the tasks go on. -/
theorem navigation_in_bounds {nav : Navigation} (reached : Reach step Initial Whole nav) : nav.Safe := by
  obtain opening | sound := kept_of_reach reached
  next => exact opening.safe
  next => exact sound.safe

def evening : DateTime := ⟨29, 2, 2024, 22, 34, 56, 4⟩

def answer : AppUpdate := ⟨17, .zero, ⟨datePayload evening, 17, []⟩⟩

def beforeIncrement : List Event :=
  List.replicate 11 .callback ++ .dateKey .right :: List.replicate 6 .callback ++
    .dateUnfocused :: List.replicate 15 .callback ++ .response answer :: List.replicate 5 (.worker 0)

def hourPressed (key : Key) : List Event := .hourKey key :: List.replicate 8 .callback

theorem reach_of_run {guard : Navigation → Event → Prop} {events : List Event} {failed : Bool}
    (ran : (run step (opening evening .zero) events).map Navigation.failed = some failed)
    (guarded : Guarded step guard (opening evening .zero) events) :
    ∃ nav, Reach step Initial guard nav ∧ nav.failed = failed := by
  obtain ⟨nav, reached, same⟩ := Option.map_eq_some_iff.mp ran
  exact ⟨nav, .of_run (.start ⟨evening, .zero, by decide, rfl⟩) guarded reached, same⟩

theorem navigation_in_bounds_evening : ∃ nav : Navigation, nav.failed = false ∧ nav.Safe := by
  have ran : (run step (opening evening .zero)
      (beforeIncrement ++ List.replicate 9 (.worker 0) ++ hourPressed .left)).map Navigation.failed = some false := by
    decide +kernel
  have guarded : Guarded step Whole (opening evening .zero)
      (beforeIncrement ++ List.replicate 9 (.worker 0) ++ hourPressed .left) := by decide +kernel
  obtain ⟨nav, reached, same⟩ := reach_of_run ran guarded
  exact ⟨nav, same, navigation_in_bounds reached⟩

/-- The hour is moved between the test of the worker and its increment. -/
theorem increment_out_of_bounds : ∃ nav, Reach step Initial Unguarded nav ∧ ¬nav.Safe := by
  have ran : (run step (opening evening .zero)
      (beforeIncrement ++ hourPressed .right ++ List.replicate 5 (.worker 0))).map Navigation.failed = some true := by
    decide +kernel
  obtain ⟨nav, reached, failed⟩ := reach_of_run ran (guarded_unguarded step _ _)
  exact ⟨nav, reached, fun safe => Bool.noConfusion (failed.symm.trans safe.asserts)⟩

end WatchFirmware.WeatherApp
