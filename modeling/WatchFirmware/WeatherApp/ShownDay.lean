import WatchFirmware.WeatherApp.Loaded

set_option autoImplicit false

namespace WatchFirmware.WeatherApp

open Transition CommonApis WeatherAppCtx
open Ble (Byte)

namespace Watch

/-- What has been asked for and is not yet shown, with the workers that handle a response. -/
def outstanding (watch : Watch) : Nat :=
  watch.requests.length + watch.responses.length + watch.userWork.length + watch.workers.length

/-- The orders in which the code keeps to the selected day. The user selects a date, and opens the
app, only when nothing is left of an earlier request; between the deletion of the spinner and the
last card no frame is drawn, and the worker gets the lock for its cards. -/
def Undisturbed (weatherApp : Nat) (watch : Watch) : Action → Prop
  | .openApp appId _ _ => appId = weatherApp → watch.outstanding = 0
  | .dateUnfocused _ =>
      match watch.appCtx with
      | some ctx => ctx.dateOffset ≠ 0 → watch.outstanding = 0
      | none => True
  | .workTimeout worker =>
      match watch.workers[worker]?, watch.appCtx with
      | some phase, some ctx => phase.redrawing = true → ctx.spinner = true
      | _, _ => True
  | .render =>
      match watch.appCtx with
      | some ctx => ctx.spinner = false → ∀ phase ∈ watch.workers, phase.redrawing = false
      | none => True
  | _ => True

instance (weatherApp : Nat) (watch : Watch) (action : Action) :
    Decidable (watch.Undisturbed weatherApp action) := by
  cases action with
  | openApp appId epoch allocated => exact inferInstanceAs (Decidable (_ → _))
  | dateUnfocused published =>
      simp only [Undisturbed]
      split <;> infer_instance
  | workTimeout worker =>
      simp only [Undisturbed]
      split <;> infer_instance
  | render =>
      simp only [Undisturbed]
      split <;> infer_instance
  | _ => exact instDecidableTrue

structure Asked (watch : Watch) (ctx : WeatherAppCtx) : Prop where
  requests : ∀ request ∈ watch.requests, request.date = datePayload ctx.activeDateTime
  responses : ∀ response ∈ watch.responses, response.date = datePayload ctx.activeDateTime
  queued : ∀ update ∈ watch.userWork, update.response.date = datePayload ctx.activeDateTime
  received : ∀ update, .received update ∈ watch.workers →
    update.response.date = datePayload ctx.activeDateTime
  loaded : Loaded watch.answers watch.workers.head? ctx
  selected : 0 < watch.outstanding → ctx.dateSelected = true

structure Consistent (watch : Watch) : Prop where
  single : watch.outstanding ≤ 1
  responses : ∀ response ∈ watch.responses, response ∈ watch.answers
  queued : ∀ update ∈ watch.userWork, Genuine watch.answers update
  received : ∀ update, .received update ∈ watch.workers → Genuine watch.answers update
  ctx : ∀ ctx, watch.appCtx = some ctx → watch.Asked ctx
  frame : ∀ frame, watch.frame = some frame → frame.ShowsSelectedDay

theorem only_worker {watch : Watch} {i : Nat} {phase : Handling} (held : watch.workers[i]? = some phase)
    (single : watch.outstanding ≤ 1) :
    i = 0 ∧ watch.workers = [phase] ∧
      watch.requests = [] ∧ watch.responses = [] ∧ watch.userWork = [] := by
  obtain ⟨inside, found⟩ := List.getElem?_eq_some_iff.mp held
  unfold outstanding at single
  have first : i = 0 := by omega
  subst first
  refine ⟨rfl, ?_, List.length_eq_zero_iff.mp (by omega), List.length_eq_zero_iff.mp (by omega),
    List.length_eq_zero_iff.mp (by omega)⟩
  obtain ⟨only, same⟩ := List.length_eq_one_iff.mp (show watch.workers.length = 1 by omega)
  simp only [same, List.getElem?_cons_zero, Option.some.injEq] at held
  rw [same, held]

theorem moved_only {watch : Watch} {phase : Handling} (only : watch.workers = [phase])
    (next : Option Handling) : watch.moved 0 next = { watch with workers := next.toList } := by
  cases next with
  | none => rw [moved, only, List.eraseIdx_cons_zero, Option.toList]
  | some next => rw [moved, only, List.set_cons_zero, Option.toList]

theorem Consistent.of_worker {watch : Watch} {next : Option Handling} {appCtx : Option WeatherAppCtx}
    (requests : watch.requests = []) (responses : watch.responses = []) (userWork : watch.userWork = [])
    (copied : next.all Handling.pastCopy = true)
    (loaded : ∀ ctx, appCtx = some ctx → Loaded watch.answers next ctx) (consistent : watch.Consistent) :
    Consistent { watch with appCtx, workers := next.toList } := by
  have late (update : AppUpdate) : .received update ∉ next.toList := by
    intro present
    cases Option.mem_toList.mp present
    contradiction
  constructor
  case single =>
    rw [outstanding, requests, responses, userWork]
    cases next with
    | none => exact Nat.zero_le 1
    | some next => exact Nat.le_refl 1
  case responses => exact consistent.responses
  case queued => exact consistent.queued
  case received => exact fun update present => (late update present).elim
  case ctx =>
    intro ctx present
    have now := loaded ctx present
    constructor
    case requests => simp [requests]
    case responses => simp [responses]
    case queued => simp [userWork]
    case received => exact fun update present => (late update present).elim
    case loaded =>
      cases next with
      | none => exact now
      | some next => exact now
    case selected =>
      intro busy
      obtain untouched | loading := now
      next =>
        -- without a worker nothing is outstanding
        rw [outstanding, requests, responses, userWork, untouched.idle] at busy
        contradiction
      next => exact loading.selected
  case frame => exact consistent.frame

theorem workerStep_keeps {watch after : Watch} {i : Nat} {phase : Handling}
    (held : watch.workers[i]? = some phase) (taken : watch.workerStep i phase = some after)
    (consistent : watch.Consistent) : after.Consistent := by
  obtain ⟨rfl, only, requests, responses, userWork⟩ := only_worker held consistent.single
  cases present : watch.appCtx with
  | none =>
      have done : after = watch.moved 0 none := by
        cases phase with
        | exiting =>
            simp only [workerStep, present] at taken
            contradiction
        | _ =>
            simp only [workerStep, present] at taken
            exact (Option.some.inj taken).symm
      rw [done, moved_only only]
      have gone := @Consistent.of_worker watch none watch.appCtx requests responses userWork rfl
      refine gone (fun ctx open_ => ?_) consistent
      rw [present] at open_
      contradiction
  | some ctx =>
      simp only [workerStep, present] at taken
      obtain ⟨⟨shown, next⟩, acted, rfl⟩ := Option.map_eq_some_iff.mp taken
      have asked := consistent.ctx ctx present
      have loaded := asked.loaded
      rw [only] at loaded
      have loading : Loading watch.answers (some phase) ctx :=
        loaded.resolve_left fun untouched => Option.some_ne_none phase untouched.idle
      have genuine (update : AppUpdate) (same : phase = .received update) :
          Genuine watch.answers update ∧ update.response.date = datePayload ctx.activeDateTime := by
        have received : .received update ∈ watch.workers := by
          rw [only, same]
          exact List.mem_singleton_self _
        exact ⟨consistent.received update received, asked.received update received⟩
      have acting : Loading watch.answers next shown := loading.act genuine acted
      have kept := @Consistent.of_worker watch next (some shown) requests responses userWork
        (Handling.act_pastCopy acted) (fun _ same => Option.some.inj same ▸ .inr acting) consistent
      have same := @moved_only { watch with appCtx := some shown } phase only next
      exact same ▸ kept

theorem workerTimeout_keeps {watch after : Watch} {i : Nat} {phase : Handling}
    (held : watch.workers[i]? = some phase) {weatherApp : Nat}
    (undisturbed : watch.Undisturbed weatherApp (.workTimeout i))
    (taken : watch.workerTimeout i phase = some after) (consistent : watch.Consistent) :
    after.Consistent := by
  obtain ⟨rfl, only, requests, responses, userWork⟩ := only_worker held consistent.single
  rw [workerTimeout] at taken
  split at taken
  next refused =>
    cases taken
    rw [moved_only only]
    have later : phase.skip.all Handling.pastCopy = true := by cases phase <;> rfl
    refine @Consistent.of_worker watch phase.skip watch.appCtx requests responses userWork later
      (fun ctx present => ?_) consistent
    have loaded := (consistent.ctx ctx present).loaded
    rw [only] at loaded
    simp only [Undisturbed, held, present] at undisturbed
    have loading : Loading watch.answers (some phase) ctx :=
      loaded.resolve_left fun untouched => Option.some_ne_none phase untouched.idle
    exact .inr (loading.skip refused undisturbed)
  next => contradiction

theorem Consistent.closed {watch : Watch} (currApp : Option Nat) (consistent : watch.Consistent) :
    Consistent { watch with currApp, appCtx := none } where
  single := consistent.single
  responses := consistent.responses
  queued := consistent.queued
  received := consistent.received
  ctx := by
    intro ctx present
    contradiction
  frame := consistent.frame

theorem callback_keeps {watch after : Watch} {handler : WeatherAppCtx → Option WeatherAppCtx}
    (keeps : ∀ ctx next, handler ctx = some next →
      next.activeDateTime = ctx.activeDateTime ∧ next.dateSelected = ctx.dateSelected)
    (loads : ∀ ctx next, handler ctx = some next → Loaded watch.answers watch.workers.head? ctx →
      Loaded watch.answers watch.workers.head? next)
    (taken : watch.callback handler = some after) (consistent : watch.Consistent) :
    after.Consistent := by
  obtain ⟨ctx, present, rest⟩ := Option.bind_eq_some_iff.mp taken
  obtain ⟨next, handled, rfl⟩ := Option.map_eq_some_iff.mp rest
  obtain ⟨active, selected⟩ := keeps ctx next handled
  have asked := consistent.ctx ctx present
  refine ⟨consistent.single, consistent.responses, consistent.queued, consistent.received, ?_, consistent.frame⟩
  intro other same
  cases same
  constructor
  case requests => simpa only [active] using asked.requests
  case responses => simpa only [active] using asked.responses
  case queued => simpa only [active] using asked.queued
  case received => simpa only [active] using asked.received
  case loaded => exact loads ctx next handled asked.loaded
  case selected =>
    intro busy
    rw [selected]
    exact asked.selected busy

theorem dateKey_keeps {watch after : Watch} {key : Key}
    (taken : watch.callback (fun ctx => ctx.handleDateKey key) = some after) (consistent : watch.Consistent) :
    after.Consistent := by
  refine callback_keeps (fun ctx next handled => ?_) (fun _ _ handled => Loaded.dateKey handled) taken consistent
  obtain ⟨dateOffset, hourlyLbl, dateLbl, rfl⟩ := handleDateKey_eq handled
  exact ⟨rfl, rfl⟩

theorem hourKey_keeps {watch after : Watch} {key : Key}
    (taken : watch.callback (fun ctx => ctx.handleHourKey key) = some after) (consistent : watch.Consistent) :
    after.Consistent := by
  refine callback_keeps (fun ctx next handled => ?_) (fun _ _ handled => Loaded.hourKey handled) taken consistent
  obtain rfl | ⟨hour, hrOffset, hourlyLbl, dateLbl, rfl⟩ := handleHourKey_eq handled
  next => exact ⟨rfl, rfl⟩
  next => exact ⟨rfl, rfl⟩

theorem nothing_outstanding {watch : Watch} (idle : watch.outstanding = 0) :
    watch.requests = [] ∧ watch.responses = [] ∧ watch.userWork = [] ∧ watch.workers = [] := by
  unfold outstanding at idle
  exact ⟨List.length_eq_zero_iff.mp (by omega), List.length_eq_zero_iff.mp (by omega),
    List.length_eq_zero_iff.mp (by omega), List.length_eq_zero_iff.mp (by omega)⟩

theorem openApp_keeps {weatherApp appId epoch : Nat} {allocated : Bool} {watch after : Watch}
    (undisturbed : watch.Undisturbed weatherApp (.openApp appId epoch allocated))
    (taken : watch.openApp weatherApp appId epoch allocated = some after)
    (consistent : watch.Consistent) : after.Consistent := by
  unfold openApp at taken
  split at taken
  next front =>
    obtain ⟨ctx, drawn, rfl⟩ := Option.map_eq_some_iff.mp taken
    have idle := undisturbed front.1
    obtain ⟨requests, responses, userWork, workers⟩ := nothing_outstanding idle
    refine ⟨consistent.single, consistent.responses, consistent.queued, consistent.received, ?_, consistent.frame⟩
    intro other same
    cases same
    constructor
    case requests => simp [requests]
    case responses => simp [responses]
    case queued => simp [userWork]
    case received => simp [workers]
    case loaded =>
      rw [workers]
      exact Loaded.opened drawn
    case selected => exact fun busy => absurd idle (Nat.pos_iff_ne_zero.mp busy)
  next =>
    cases taken
    exact consistent.closed (some appId)

theorem dateUnfocused_keeps {weatherApp : Nat} {published : Bool} {watch after : Watch}
    (undisturbed : watch.Undisturbed weatherApp (.dateUnfocused published))
    (taken : watch.dateUnfocused weatherApp published = some after) (consistent : watch.Consistent) :
    after.Consistent := by
  obtain ⟨ctx, present, rest⟩ := Option.bind_eq_some_iff.mp taken
  obtain ⟨⟨next, date⟩, handled, rfl⟩ := Option.map_eq_some_iff.mp rest
  obtain ⟨rfl, rfl⟩ | ⟨moved, spinning, selected, valid, rfl⟩ := handleDateUnfocused_cases handled
  next =>
    rw [← present]
    exact consistent
  next =>
    simp only [Undisturbed, present] at undisturbed
    obtain ⟨requests, responses, userWork, workers⟩ := nothing_outstanding (undisturbed moved)
    have loading := @Loading.of_selected watch.answers next spinning selected valid
    let after := request weatherApp { watch with appCtx := some next } published
      (some (datePayload next.activeDateTime))
    have sent : after.requests.length ≤ 1 ∧
        ∀ request ∈ after.requests, request.date = datePayload next.activeDateTime := by
      cases published <;> simp [after, request, requests]
    have same : after = { watch with appCtx := some next, requests := after.requests } := by
      cases published <;> rfl
    show after.Consistent
    rw [same]
    constructor
    case single => simpa [outstanding, responses, userWork, workers] using sent.1
    case responses => exact consistent.responses
    case queued => exact consistent.queued
    case received => exact consistent.received
    case ctx =>
      intro other same
      cases same
      constructor
      case requests => exact sent.2
      case responses => simp [responses]
      case queued => simp [userWork]
      case received => simp [workers]
      case loaded =>
        rw [workers]
        exact .inr loading
      case selected => exact fun _ => selected
    case frame => exact consistent.frame

theorem loseRequest_keeps {watch : Watch} {i : Nat} (consistent : watch.Consistent) :
    Consistent { watch with requests := watch.requests.eraseIdx i } := by
  have fewer : (watch.requests.eraseIdx i).length ≤ watch.requests.length := List.length_eraseIdx_le _ _
  have single := consistent.single
  constructor
  case single =>
    simp only [outstanding] at single ⊢
    omega
  case responses => exact consistent.responses
  case queued => exact consistent.queued
  case received => exact consistent.received
  case ctx =>
    intro ctx present
    have asked := consistent.ctx ctx present
    refine ⟨fun request kept => asked.requests request (List.mem_of_mem_eraseIdx kept), asked.responses,
      asked.queued, asked.received, asked.loaded, fun busy => asked.selected ?_⟩
    simp only [outstanding] at busy ⊢
    omega
  case frame => exact consistent.frame

theorem loseResponse_keeps {watch : Watch} (consistent : watch.Consistent) :
    Consistent { watch with responses := watch.responses.tail } := by
  have fewer : watch.responses.tail.length ≤ watch.responses.length := by
    rw [List.length_tail]
    omega
  have single := consistent.single
  constructor
  case single =>
    simp only [outstanding] at single ⊢
    omega
  case responses => exact fun response kept => consistent.responses response (List.mem_of_mem_tail kept)
  case queued => exact consistent.queued
  case received => exact consistent.received
  case ctx =>
    intro ctx present
    have asked := consistent.ctx ctx present
    refine ⟨asked.requests, fun response kept => asked.responses response (List.mem_of_mem_tail kept),
      asked.queued, asked.received, asked.loaded, fun busy => asked.selected ?_⟩
    simp only [outstanding] at busy ⊢
    omega
  case frame => exact consistent.frame

theorem answer_keeps {watch after : Watch} {i : Nat} {payload : List Byte}
    (taken : watch.answer i payload = some after) (consistent : watch.Consistent) :
    after.Consistent := by
  obtain ⟨asking, held, rfl⟩ := Option.map_eq_some_iff.mp taken
  have kept := List.subset_append_left watch.answers [⟨asking.date, asking.appId, payload⟩]
  have single := consistent.single
  have moved : (watch.requests.eraseIdx i).length + 1 = watch.requests.length := by
    obtain ⟨inside, _⟩ := List.getElem?_eq_some_iff.mp held
    rw [List.length_eraseIdx_of_lt inside]
    omega
  constructor
  case single =>
    simp only [outstanding, List.length_append, List.length_singleton] at single ⊢
    omega
  case responses =>
    intro response sent
    obtain old | new := List.mem_append.mp sent
    next => exact kept (consistent.responses response old)
    next => exact List.mem_append_right _ new
  case queued => exact fun update present => (consistent.queued update present).imp_left (@kept _)
  case received => exact fun update present => (consistent.received update present).imp_left (@kept _)
  case ctx =>
    intro ctx present
    have asked := consistent.ctx ctx present
    constructor
    case requests => exact fun request old => asked.requests request (List.mem_of_mem_eraseIdx old)
    case responses =>
      intro response sent
      obtain old | new := List.mem_append.mp sent
      next => exact asked.responses response old
      next =>
        rw [List.mem_singleton.mp new]
        exact asked.requests asking (List.mem_of_getElem? held)
    case queued => exact asked.queued
    case received => exact asked.received
    case loaded => exact asked.loaded.imp id (Loading.mono kept)
    case selected =>
      intro _
      apply asked.selected
      simp only [outstanding]
      omega
  case frame => exact consistent.frame

theorem receiveResponse_keeps {watch after : Watch} {scheduled : Bool}
    (taken : watch.receiveResponse scheduled = some after) (consistent : watch.Consistent) :
    after.Consistent := by
  unfold receiveResponse at taken
  split at taken
  next => contradiction
  next response rest waiting =>
    have waits : response ∈ watch.responses := by
      rw [waiting]
      exact List.mem_cons_self
    split at taken
    next =>
      cases taken
      have single := consistent.single
      have length : watch.responses.length = rest.length + 1 := by rw [waiting, List.length_cons]
      have later (other : Response) (present : other ∈ rest) : other ∈ watch.responses := by
        rw [waiting]
        exact List.mem_cons_of_mem response present
      constructor
      case single =>
        simp only [outstanding, List.length_append, List.length_singleton] at single ⊢
        omega
      case responses => exact fun other present => consistent.responses other (later other present)
      case queued =>
        intro update present
        obtain old | new := List.mem_append.mp present
        next => exact consistent.queued update old
        next =>
          rw [List.mem_singleton.mp new]
          exact ⟨consistent.responses response waits, rfl⟩
      case received => exact consistent.received
      case ctx =>
        intro ctx present
        have asked := consistent.ctx ctx present
        constructor
        case requests => exact asked.requests
        case responses => exact fun other present => asked.responses other (later other present)
        case queued =>
          intro update present
          obtain old | new := List.mem_append.mp present
          next => exact asked.queued update old
          next =>
            rw [List.mem_singleton.mp new]
            exact asked.responses response waits
        case received => exact asked.received
        case loaded => exact asked.loaded
        case selected =>
          intro _
          apply asked.selected
          simp only [outstanding]
          omega
      case frame => exact consistent.frame
    next =>
      cases taken
      have tail : rest = watch.responses.tail := by rw [waiting, List.tail_cons]
      rw [tail]
      exact loseResponse_keeps consistent

theorem Loaded.receive {answers : List Response} {ctx : WeatherAppCtx} (update : AppUpdate)
    (selected : ctx.dateSelected = true) (loaded : Loaded answers none ctx) :
    Loaded answers (some (.received update)) ctx := by
  obtain untouched | loading := loaded
  next => exact absurd (selected.symm.trans untouched.unselected) Bool.noConfusion
  next =>
    -- the new worker has copied nothing yet
    exact .inr ⟨selected, loading.valid, rfl, loading.data, fun _ drawn => Bool.noConfusion drawn,
      fun spinner _ => loading.cards spinner rfl⟩

theorem dispatchAppUpdate_keeps {weatherApp : Nat} {watch after : Watch}
    (taken : watch.dispatchAppUpdate weatherApp = some after) (consistent : watch.Consistent) :
    after.Consistent := by
  unfold dispatchAppUpdate at taken
  split at taken
  next => contradiction
  next update rest waiting =>
    have single := consistent.single
    simp only [outstanding, waiting, List.length_cons] at single
    obtain rfl : rest = [] := List.length_eq_zero_iff.mp (by omega)
    have requests : watch.requests = [] := List.length_eq_zero_iff.mp (by omega)
    have responses : watch.responses = [] := List.length_eq_zero_iff.mp (by omega)
    have workers : watch.workers = [] := List.length_eq_zero_iff.mp (by omega)
    have waits : update ∈ watch.userWork := by
      rw [waiting]
      exact List.mem_singleton_self _
    split at taken
    next =>
      split at taken
      next =>
        cases taken
        rw [workers, List.nil_append]
        constructor
        case single => simp [outstanding, requests, responses]
        case responses => exact consistent.responses
        case queued => exact List.forall_mem_nil _
        case received =>
          intro other present
          cases List.mem_singleton.mp present
          exact consistent.queued update waits
        case ctx =>
          intro ctx present
          have asked := consistent.ctx ctx present
          have selected : ctx.dateSelected = true := by
            apply asked.selected
            simp [outstanding, waiting]
          have loaded := asked.loaded
          rw [workers] at loaded
          constructor
          case requests => exact asked.requests
          case responses => exact asked.responses
          case queued => exact List.forall_mem_nil _
          case received =>
            intro other present
            cases List.mem_singleton.mp present
            exact asked.queued update waits
          case loaded => exact loaded.receive update selected
          case selected => exact fun _ => selected
        case frame => exact consistent.frame
      next =>
        cases taken
        constructor
        case single => simp [outstanding, requests, responses, workers]
        case responses => exact consistent.responses
        case queued => exact List.forall_mem_nil _
        case received => exact consistent.received
        case ctx =>
          intro ctx present
          have asked := consistent.ctx ctx present
          refine ⟨asked.requests, asked.responses, List.forall_mem_nil _, asked.received, asked.loaded, ?_⟩
          intro busy
          simp [outstanding, requests, responses, workers] at busy
        case frame => exact consistent.frame
    next => contradiction

theorem render_keeps {weatherApp : Nat} {watch : Watch} (undisturbed : watch.Undisturbed weatherApp .render)
    (consistent : watch.Consistent) :
    Consistent { watch with frame := watch.appCtx.map fun ctx => ⟨ctx, watch.answers⟩ } where
  single := consistent.single
  responses := consistent.responses
  queued := consistent.queued
  received := consistent.received
  ctx := fun ctx present =>
    have asked := consistent.ctx ctx present
    ⟨asked.requests, asked.responses, asked.queued, asked.received, asked.loaded, asked.selected⟩
  frame := by
    intro frame drawn spinner
    obtain ⟨ctx, present, rfl⟩ := Option.map_eq_some_iff.mp drawn
    simp only [Undisturbed, present] at undisturbed
    refine (consistent.ctx ctx present).loaded.shows (fun still => ?_) spinner
    cases only : watch.workers with
    | nil => rfl
    | cons phase others =>
        apply undisturbed still
        rw [only]
        exact List.mem_cons_self

theorem step_keeps {weatherApp : Nat} {watch after : Watch} {action : Action}
    (consistent : watch.Consistent) (undisturbed : watch.Undisturbed weatherApp action)
    (taken : step weatherApp watch action = some after) : after.Consistent := by
  cases action with
  | weatherSync hourly =>
      cases taken
      exact ⟨consistent.single, consistent.responses, consistent.queued, consistent.received,
        fun ctx present => have asked := consistent.ctx ctx present
          ⟨asked.requests, asked.responses, asked.queued, asked.received, asked.loaded, asked.selected⟩,
        consistent.frame⟩
  | openApp appId epoch allocated => exact openApp_keeps undisturbed taken consistent
  | closeApp =>
      obtain ⟨_, _, rfl⟩ := Option.map_eq_some_iff.mp taken
      exact consistent.closed none
  | dateKey key => exact dateKey_keeps taken consistent
  | hourKey key => exact hourKey_keeps taken consistent
  | dateUnfocused published => exact dateUnfocused_keeps undisturbed taken consistent
  | answer request payload => exact answer_keeps taken consistent
  | loseRequest request =>
      cases taken
      exact loseRequest_keeps consistent
  | loseResponse =>
      cases taken
      exact loseResponse_keeps consistent
  | receiveResponse scheduled => exact receiveResponse_keeps taken consistent
  | dispatchAppUpdate => exact dispatchAppUpdate_keeps taken consistent
  | work worker =>
      obtain ⟨phase, held, rest⟩ := Option.bind_eq_some_iff.mp taken
      exact workerStep_keeps held rest consistent
  | workTimeout worker =>
      obtain ⟨phase, held, rest⟩ := Option.bind_eq_some_iff.mp taken
      exact workerTimeout_keeps held undisturbed rest consistent
  | render =>
      cases taken
      exact render_keeps undisturbed consistent

theorem initial_consistent {watch : Watch} (initial : watch.Initial) : watch.Consistent where
  single := by
    rw [outstanding, initial.requests, initial.responses, initial.userWork, initial.workers]
    exact Nat.zero_le 1
  responses := by
    rw [initial.responses]
    exact List.forall_mem_nil _
  queued := by
    rw [initial.userWork]
    exact List.forall_mem_nil _
  received := by simp [initial.workers]
  ctx := by simp [initial.appCtx]
  frame := by simp [initial.frame]

/-- Whatever is drawn without the spinner shows the selected day, in every run in which a date is
selected only after the last one has been answered and shown or its answer is lost. -/
theorem frame_shows_selected_day {weatherApp : Nat} {watch : Watch} {frame : Frame}
    (reached : Reach (step weatherApp) Initial (Undisturbed weatherApp) watch)
    (drawn : watch.frame = some frame) : frame.ShowsSelectedDay := by
  have consistent : watch.Consistent :=
    reached.invariant (fun _ => initial_consistent) fun _ _ _ before allowed taken =>
      step_keeps before allowed taken
  exact consistent.frame frame drawn

def booted : Watch :=
  { hourlyToday := .zero
    currApp := none
    appCtx := none
    requests := []
    responses := []
    userWork := []
    workers := []
    frame := none
    answers := [] }

theorem booted_initial : booted.Initial := ⟨rfl, rfl, rfl, rfl, rfl, rfl, rfl, rfl⟩

def selectNextDay : List Action := [.dateKey .right, .dateUnfocused true]

def answerShown : List Action :=
  [.answer 0 (List.replicate bleMsgWeatherSize 7), .receiveResponse true, .dispatchAppUpdate] ++
    List.replicate 14 (.work 0) ++ [.render]

def answeredRun : List Action := .openApp 3 1709210096 true :: selectNextDay ++ answerShown

-- The first request is answered after a second date was selected.
def lateRun : List Action :=
  .openApp 3 1709210096 true :: selectNextDay ++ selectNextDay ++ answerShown

def frameView (frame : Frame) : Bool × Bool × Option TopCard × DatePayload × List DatePayload :=
  (frame.ctx.spinner, frame.ctx.dateSelected, frame.ctx.topCard,
    datePayload frame.ctx.activeDateTime, frame.answers.map Response.date)

theorem frame_of_run {guard : Watch → Action → Prop} {actions : List Action}
    {view : Bool × Bool × Option TopCard × DatePayload × List DatePayload}
    (shown : ((run (step 3) booted actions).bind Watch.frame).map frameView = some view)
    (guarded : Guarded (step 3) guard booted actions) :
    ∃ watch frame, Reach (step 3) Initial guard watch ∧ watch.frame = some frame ∧
      frameView frame = view := by
  obtain ⟨frame, drawn, seen⟩ := Option.map_eq_some_iff.mp shown
  obtain ⟨watch, ran, shows⟩ := Option.bind_eq_some_iff.mp drawn
  exact ⟨watch, frame, .of_run (.start booted_initial) guarded ran, shows, seen⟩

theorem frame_shows_selected_day_answered :
    ∃ frame : Frame, frame.ctx.spinner = false ∧ frame.ctx.dateSelected = true ∧
      frame.ctx.topCard = some ⟨179, 7, 7, 7, .sunny⟩ ∧ frame.ShowsSelectedDay := by
  have shown : ((run (step 3) booted answeredRun).bind Watch.frame).map frameView =
      some (false, true, some ⟨179, 7, 7, 7, .sunny⟩, ⟨1, 3, 7, 232⟩, [⟨1, 3, 7, 232⟩]) := by
    decide +kernel
  have guarded : Guarded (step 3) (Undisturbed 3) booted answeredRun := by decide +kernel
  obtain ⟨watch, frame, reached, drawn, seen⟩ := frame_of_run shown guarded
  simp only [frameView, Prod.mk.injEq] at seen
  exact ⟨frame, seen.1, seen.2.1, seen.2.2.1, frame_shows_selected_day reached drawn⟩

/-- The hours of the 1st of March stand under the 2nd. -/
theorem frame_shows_other_day :
    ∃ watch frame, Reach (step 3) Initial Unguarded watch ∧ watch.frame = some frame ∧
      ¬frame.ShowsSelectedDay := by
  have shown : ((run (step 3) booted lateRun).bind Watch.frame).map frameView =
      some (false, true, some ⟨179, 7, 7, 7, .sunny⟩, ⟨2, 3, 7, 232⟩, [⟨1, 3, 7, 232⟩]) := by
    decide +kernel
  obtain ⟨watch, frame, reached, drawn, seen⟩ :=
    frame_of_run shown (guarded_unguarded (step 3) booted lateRun)
  simp only [frameView, Prod.mk.injEq] at seen
  obtain ⟨spinner, chosen, top, active, answers⟩ := seen
  refine ⟨watch, frame, reached, drawn, ?_⟩
  intro shows
  obtain ⟨day, hour, selected, _⟩ := (shows spinner).1 _ top
  unfold Selected at selected
  rw [if_pos chosen, active] at selected
  obtain ⟨response, sent, asked, _⟩ := selected
  -- all that was answered is the request for the 1st
  have only := List.mem_map_of_mem (f := Response.date) sent
  rw [answers, asked] at only
  exact absurd (List.mem_singleton.mp only) (by decide)

end Watch

end WatchFirmware.WeatherApp
