import WatchFirmware.EventManager.EventManager
import WatchFirmware.Shared.LiveTraversal
import WatchFirmware.Shared.Transition

set_option autoImplicit false

namespace WatchFirmware.EventManager

open LiveTraversal (Delivery)

variable {Handler : Type} [DecidableEq Handler]

/-- A publish that waits for the handler it has called at index `i` to return. -/
structure Frame (Handler : Type) where
  ev : EventId
  i : Nat
  -- kept for the statements only
  delivery : Delivery Handler

def Frame.withdraw (ev : EventId) (handler : Handler) (frame : Frame Handler) : Frame Handler :=
  if frame.ev = ev then { frame with delivery := frame.delivery.withdraw handler } else frame

structure State (Handler : Type) where
  manager : Manager Handler
  -- innermost first: a handler may publish in its turn
  frames : List (Frame Handler)
  -- kept for the statements only: what the publishes that returned have done, and who has been put into
  -- each list so far
  finished : List (Delivery Handler)
  log : EventId → List Handler

-- Done by a handler that runs, or by whoever runs when none does.
inductive Action (Handler : Type) where
  | subscribe (eventId : Nat) (handler : Option Handler)
  | unsubscribe (eventId : Nat) (handler : Option Handler)
  | publish (event : Option Nat)
  | handlerReturns

omit [DecidableEq Handler] in
def EventSubscription.members (sub : EventSubscription Handler) : List Handler :=
  (sub.handlers.take sub.count).filterMap id

namespace State

def members (state : State Handler) (ev : EventId) : List Handler := (state.manager.subscriptions ev).members

def subscribe (state : State Handler) (eventId : Nat) (handler : Option Handler) : State Handler :=
  let (_, manager) := state.manager.eventSubscribe eventId handler
  match state.manager.admitted eventId handler with
  | none => { state with manager }
  | some (ev, handler) =>
      let grown := (state.manager.subscriptions ev).count < (manager.subscriptions ev).count
      { state with
        manager, log := if grown then Function.update state.log ev (state.log ev ++ [handler]) else state.log }

def unsubscribe (state : State Handler) (eventId : Nat) (handler : Option Handler) : State Handler :=
  let (success, manager) := state.manager.eventUnsubscribe eventId handler
  match state.manager.admitted eventId handler with
  | none => { state with manager }
  | some (ev, handler) =>
      { state with
        manager, frames := if success then state.frames.map (Frame.withdraw ev handler) else state.frames }

/-- The test and the body of the loop in `event_publish`; `none` is a call through NULL. -/
def goOn (state : State Handler) (frame : Frame Handler) : Option (State Handler) :=
  let sub := state.manager.subscriptions frame.ev
  if frame.i < sub.count then
    match sub.handlers[frame.i]? with
    | some (some handler) =>
        some { state with frames := { frame with delivery := frame.delivery.call handler } :: state.frames }
    | _ => none
  else some { state with finished := state.finished ++ [frame.delivery] }

def publish (state : State Handler) (event : Option Nat) : Option (State Handler) :=
  match event with
  | none => some state
  | some ev =>
      if state.manager.initialized then
        if valid : ev < eventCount then
          state.goOn ⟨⟨ev, valid⟩, 0, Delivery.fresh (state.members ⟨ev, valid⟩)⟩
        else some state
      else some state

def handlerReturns (state : State Handler) : Option (State Handler) :=
  match state.frames with
  | [] => none
  | frame :: rest => goOn { state with frames := rest } { frame with i := frame.i + 1 }

end State

def step : Transition.Step (State Handler) (Action Handler)
  | state, .subscribe eventId handler => some (state.subscribe eventId handler)
  | state, .unsubscribe eventId handler => some (state.unsubscribe eventId handler)
  | state, .publish event => state.publish event
  | state, .handlerReturns => state.handlerReturns

/-- Behind `event_manager_init`. -/
def Initial (state : State Handler) : Prop :=
  state.manager = Manager.eventManagerInit ∧ state.frames = [] ∧ state.finished = [] ∧ state.log = fun _ => []

/-- While a publish runs, nobody up to the handler that it has called is taken out of its list as long as
someone behind waits for it since its start, and nobody whom it has served is put in again behind it. -/
def Undisturbed (state : State Handler) : Action Handler → Prop
  | .subscribe eventId (some handler) => ∀ frame ∈ state.frames, frame.ev.val = eventId →
      handler ∉ state.members frame.ev → frame.i < (state.members frame.ev).length →
        handler ∉ frame.delivery.delivered
  | .unsubscribe eventId (some handler) => ∀ frame ∈ state.frames, frame.ev.val = eventId →
      handler ∈ state.members frame.ev → (state.members frame.ev).idxOf handler ≤ frame.i →
        frame.delivery.pending = []
  | .subscribe _ none | .unsubscribe _ none | .publish _ | .handlerReturns => True

instance (state : State Handler) (action : Action Handler) : Decidable (Undisturbed state action) := by
  unfold Undisturbed
  split <;> infer_instance

structure InOrder (members log : List Handler) : Prop where
  distinct : members.Nodup
  few : members.length ≤ maxEventSubscribers
  order : members = log.dedup.filter (· ∈ members)

structure Listed (state : State Handler) : Prop where
  represents : ∀ ev, Represents (state.manager.subscriptions ev) (state.members ev)
  order : ∀ ev, state.members ev = (state.log ev).dedup.filter (· ∈ state.members ev)

theorem Listed.inOrder {state : State Handler} (listed : Listed state) (ev : EventId) :
    InOrder (state.members ev) (state.log ev) where
  distinct := (listed.represents ev).distinct
  few := (listed.represents ev).few
  order := listed.order ev

def Served (state : State Handler) : Prop :=
  (∀ frame ∈ state.frames, frame.delivery.At (state.members frame.ev) (frame.i + 1)) ∧
    ∀ delivery ∈ state.finished, delivery.Complete

omit [DecidableEq Handler] in
theorem Represents.members_eq {sub : EventSubscription Handler} {members : List Handler}
    (represents : Represents sub members) : sub.members = members := by
  have front : sub.handlers.take sub.count = members.map some := by
    have few := represents.few
    apply List.ext_getElem?
    intro k
    rw [List.getElem?_take, List.getElem?_map, represents.count]
    split
    next inside =>
      rw [represents.slots k (by omega), List.getElem?_eq_getElem inside]
      rfl
    next outside =>
      rw [List.getElem?_eq_none (by omega)]
      rfl
  rw [EventSubscription.members, front, List.filterMap_map]
  exact List.filterMap_some

theorem dedup_concat (log : List Handler) (handler : Handler) :
    (log ++ [handler]).dedup = log.dedup.filter (· != handler) ++ [handler] := by
  induction log with
  | nil => simp
  | cons head rest ih =>
      rw [List.cons_append]
      by_cases again : head ∈ rest
      · rw [List.dedup_cons_of_mem (List.mem_append_left _ again), List.dedup_cons_of_mem again, ih]
      · by_cases same : head = handler
        · subst same
          rw [List.dedup_cons_of_mem (by simp), List.dedup_cons_of_notMem again, ih]
          simp
        · rw [List.dedup_cons_of_notMem (by simp [again, same]), List.dedup_cons_of_notMem again, ih]
          simp [same]

omit [DecidableEq Handler] in
theorem members_replace (state : State Handler) (ev other : EventId) {sub : EventSubscription Handler}
    {members : List Handler} (represents : Represents sub members) (frames : List (Frame Handler))
    (log : EventId → List Handler) :
    State.members { state with manager := state.manager.replace ev sub, frames, log } other =
      if other = ev then members else state.members other := by
  simp only [State.members, Manager.replace, Function.update_apply]
  split
  next => exact represents.members_eq
  next => rfl

omit [DecidableEq Handler] in
theorem Manager.admitted_some {manager : Manager Handler} {eventId : Nat} {handler : Option Handler}
    {ev : EventId} {given : Handler} (admitted : manager.admitted eventId handler = some (ev, given)) :
    ev.val = eventId ∧ handler = some given := by
  unfold Manager.admitted at admitted
  split at admitted
  next => cases admitted
  next =>
    split at admitted
    next =>
      split at admitted
      next =>
        cases admitted
        exact ⟨rfl, rfl⟩
      next => cases admitted
    next => cases admitted

inductive SubscribeCase (state : State Handler) (eventId : Nat) (handler : Option Handler) :
    State Handler → Prop where
  | unchanged : SubscribeCase state eventId handler state
  | added (ev : EventId) (given : Handler) (sub : EventSubscription Handler) (named : ev.val = eventId)
      (pointed : handler = some given) (absent : given ∉ state.members ev)
      (represents : Represents sub (state.members ev ++ [given])) :
      SubscribeCase state eventId handler
        { state with
          manager := state.manager.replace ev sub
          log := Function.update state.log ev (state.log ev ++ [given]) }

omit [DecidableEq Handler] in
theorem replace_self (manager : Manager Handler) (ev : EventId) :
    manager.replace ev (manager.subscriptions ev) = manager := by
  simp [Manager.replace]

theorem subscribe_cases {state : State Handler} (listed : Listed state) (eventId : Nat)
    (handler : Option Handler) : SubscribeCase state eventId handler (state.subscribe eventId handler) := by
  unfold State.subscribe Manager.eventSubscribe
  cases admitted : state.manager.admitted eventId handler with
  | none => exact .unchanged
  | some pair =>
      obtain ⟨ev, given⟩ := pair
      obtain ⟨named, pointed⟩ := Manager.admitted_some admitted
      have represents := listed.represents ev
      dsimp only
      by_cases present : given ∈ state.members ev
      · rw [subscribe_listed represents present, replace_self]
        simp only [lt_self_iff_false, if_false]
        exact .unchanged
      · by_cases full : maxEventSubscribers ≤ (state.members ev).length
        · rw [subscribe_full represents present full, replace_self]
          simp only [lt_self_iff_false, if_false]
          exact .unchanged
        · obtain ⟨sub, done, kept⟩ := subscribe_new represents present (not_le.mp full)
          have grown : (state.manager.subscriptions ev).count <
              ((state.manager.replace ev sub).subscriptions ev).count := by
            simp [Manager.replace, represents.count, kept.count]
          rw [done]
          simp only [if_pos grown]
          exact .added ev given sub named pointed present kept

inductive UnsubscribeCase (state : State Handler) (eventId : Nat) (handler : Option Handler) :
    State Handler → Prop where
  | unchanged : UnsubscribeCase state eventId handler state
  | removed (ev : EventId) (given : Handler) (sub : EventSubscription Handler) (named : ev.val = eventId)
      (pointed : handler = some given) (present : given ∈ state.members ev)
      (represents : Represents sub ((state.members ev).erase given)) :
      UnsubscribeCase state eventId handler
        { state with
          manager := state.manager.replace ev sub
          frames := state.frames.map (Frame.withdraw ev given) }

theorem unsubscribe_cases {state : State Handler} (listed : Listed state) (eventId : Nat)
    (handler : Option Handler) :
    UnsubscribeCase state eventId handler (state.unsubscribe eventId handler) := by
  unfold State.unsubscribe Manager.eventUnsubscribe
  cases admitted : state.manager.admitted eventId handler with
  | none => exact .unchanged
  | some pair =>
      obtain ⟨ev, given⟩ := pair
      obtain ⟨named, pointed⟩ := Manager.admitted_some admitted
      have represents := listed.represents ev
      dsimp only
      by_cases present : given ∈ state.members ev
      · obtain ⟨sub, done, kept⟩ := unsubscribe_listed represents present
        rw [done]
        exact .removed ev given sub named pointed present kept
      · rw [unsubscribe_absent represents present, replace_self]
        exact .unchanged

inductive GoOnCase (state : State Handler) (frame : Frame Handler) : State Handler → Prop where
  | calls (inside : frame.i < (state.members frame.ev).length) :
      GoOnCase state frame
        { state with
          frames := { frame with delivery := frame.delivery.call (state.members frame.ev)[frame.i] } :: state.frames }
  | ends (ended : (state.members frame.ev).length ≤ frame.i) :
      GoOnCase state frame { state with finished := state.finished ++ [frame.delivery] }

omit [DecidableEq Handler] in
theorem slot_eq {state : State Handler} {ev : EventId}
    (represents : Represents (state.manager.subscriptions ev) (state.members ev)) {i : Nat}
    (inside : i < (state.members ev).length) :
    (state.manager.subscriptions ev).handlers[i]? = some (some (state.members ev)[i]) := by
  have few := represents.few
  rw [represents.slots i (by omega), List.getElem?_eq_getElem inside]

theorem goOn_cases {state : State Handler} (listed : Listed state) (frame : Frame Handler) :
    ∃ after, state.goOn frame = some after ∧ GoOnCase state frame after := by
  -- the loop never calls through NULL
  have represents := listed.represents frame.ev
  by_cases inside : frame.i < (state.members frame.ev).length
  · refine ⟨_, ?_, .calls inside⟩
    simp only [State.goOn, represents.count, if_pos inside, slot_eq represents inside]
  · refine ⟨_, ?_, .ends (not_lt.mp inside)⟩
    simp only [State.goOn, represents.count, if_neg inside]

theorem subscribe_listed_kept {state : State Handler} (listed : Listed state) (eventId : Nat)
    (handler : Option Handler) : Listed (state.subscribe eventId handler) := by
  have outcome := subscribe_cases listed eventId handler
  generalize state.subscribe eventId handler = after at outcome ⊢
  cases outcome with
  | unchanged => exact listed
  | added ev given sub named pointed absent represents =>
      have members := fun other => members_replace state ev other represents state.frames
        (Function.update state.log ev (state.log ev ++ [given]))
      constructor
      case represents =>
        intro other
        rw [members]
        by_cases same : other = ev
        · subst same
          simpa [Manager.replace] using represents
        · simpa [Manager.replace, same] using listed.represents other
      case order =>
        intro other
        rw [members]
        by_cases same : other = ev
        · subst same
          have kept : (fun member => decide (member ∈ state.members other ++ [given]) && (member != given)) =
              fun member => decide (member ∈ state.members other) := by
            funext member
            by_cases last : member = given <;> simp [last, absent]
          rw [if_pos rfl]
          simp only [Function.update_self]
          rw [dedup_concat, List.filter_append, List.filter_filter, kept, ← listed.order other]
          simp
        · simpa [same] using listed.order other

theorem unsubscribe_listed_kept {state : State Handler} (listed : Listed state) (eventId : Nat)
    (handler : Option Handler) : Listed (state.unsubscribe eventId handler) := by
  have outcome := unsubscribe_cases listed eventId handler
  generalize state.unsubscribe eventId handler = after at outcome ⊢
  cases outcome with
  | unchanged => exact listed
  | removed ev given sub named pointed present represents =>
      have members := fun other => members_replace state ev other represents
        (state.frames.map (Frame.withdraw ev given)) state.log
      constructor
      case represents =>
        intro other
        rw [members]
        by_cases same : other = ev
        · subst same
          simpa [Manager.replace] using represents
        · simpa [Manager.replace, same] using listed.represents other
      case order =>
        intro other
        rw [members]
        by_cases same : other = ev
        · subst same
          have distinct := (listed.represents other).distinct
          have kept : (fun member => decide (member ∈ (state.members other).erase given)) =
              fun member => (member != given) && decide (member ∈ state.members other) := by
            funext member
            by_cases last : member = given <;> simp [distinct.mem_erase_iff, last]
          rw [if_pos rfl, kept, ← List.filter_filter, ← listed.order other]
          exact distinct.erase_eq_filter given
        · simpa [same] using listed.order other

theorem goOn_listed_kept {state after : State Handler} (listed : Listed state) {frame : Frame Handler}
    (gone : state.goOn frame = some after) : Listed after := by
  obtain ⟨reached, done, goes⟩ := goOn_cases listed frame
  rw [gone] at done
  cases done
  cases goes with
  | calls | ends => exact ⟨listed.represents, listed.order⟩

theorem publish_cases (state : State Handler) (event : Option Nat) :
    state.publish event = some state ∨
      ∃ ev, state.publish event = state.goOn ⟨ev, 0, Delivery.fresh (state.members ev)⟩ := by
  unfold State.publish
  split
  next => exact .inl rfl
  next ev =>
    split
    next =>
      split
      next valid => exact .inr ⟨_, rfl⟩
      next => exact .inl rfl
    next => exact .inl rfl

theorem step_listed {state after : State Handler} {action : Action Handler} (listed : Listed state)
    (taken : step state action = some after) : Listed after := by
  cases action with
  | subscribe eventId handler =>
      cases taken
      exact subscribe_listed_kept listed eventId handler
  | unsubscribe eventId handler =>
      cases taken
      exact unsubscribe_listed_kept listed eventId handler
  | publish event =>
      have published : state.publish event = some after := taken
      obtain same | ⟨ev, starts⟩ := publish_cases state event
      next =>
        rw [same] at published
        cases published
        exact listed
      next =>
        rw [starts] at published
        exact goOn_listed_kept listed published
  | handlerReturns =>
      have returned : state.handlerReturns = some after := taken
      unfold State.handlerReturns at returned
      split at returned
      next => cases returned
      next frame rest _ =>
        have popped : Listed { state with frames := rest } := ⟨listed.represents, listed.order⟩
        exact goOn_listed_kept popped returned

theorem initial_listed {state : State Handler} (initial : Initial state) : Listed state := by
  obtain ⟨manager, -, -, log⟩ := initial
  have none : ∀ ev, state.members ev = [] := by
    intro ev
    rw [State.members, manager]
    exact empty_represents.members_eq
  constructor
  case represents =>
    intro ev
    rw [none, manager]
    exact empty_represents
  case order =>
    intro ev
    rw [none, log]
    rfl

theorem goOn_served {state after : State Handler} (listed : Listed state) (served : Served state)
    {frame : Frame Handler} (here : frame.delivery.At (state.members frame.ev) frame.i)
    (gone : state.goOn frame = some after) : Served after := by
  obtain ⟨reached, done, goes⟩ := goOn_cases listed frame
  rw [gone] at done
  cases done
  cases goes with
  | calls inside =>
      refine ⟨?_, served.2⟩
      intro other member
      obtain rfl | member := List.mem_cons.mp member
      next => exact here.call inside
      next => exact served.1 other member
  | ends ended =>
      refine ⟨served.1, ?_⟩
      intro delivery member
      obtain member | last := List.mem_append.mp member
      next => exact served.2 delivery member
      next =>
        obtain rfl := List.mem_singleton.mp last
        exact here.complete ended

theorem subscribe_served {state : State Handler} (listed : Listed state) (served : Served state)
    {eventId : Nat} {handler : Option Handler} (undisturbed : Undisturbed state (.subscribe eventId handler)) :
    Served (state.subscribe eventId handler) := by
  have outcome := subscribe_cases listed eventId handler
  generalize state.subscribe eventId handler = after at outcome ⊢
  cases outcome with
  | unchanged => exact served
  | added ev given sub named pointed absent represents =>
      subst pointed
      refine ⟨?_, served.2⟩
      intro frame member
      have here := served.1 frame member
      rw [members_replace state ev _ represents]
      by_cases same : frame.ev = ev
      · subst same
        rw [if_pos rfl]
        exact here.append absent (undisturbed frame member named absent)
      · rw [if_neg same]
        exact here

theorem unsubscribe_served {state : State Handler} (listed : Listed state) (served : Served state)
    {eventId : Nat} {handler : Option Handler} (undisturbed : Undisturbed state (.unsubscribe eventId handler)) :
    Served (state.unsubscribe eventId handler) := by
  have outcome := unsubscribe_cases listed eventId handler
  generalize state.unsubscribe eventId handler = after at outcome ⊢
  cases outcome with
  | unchanged => exact served
  | removed ev given sub named pointed present represents =>
      subst pointed
      refine ⟨?_, served.2⟩
      intro withdrawn member
      obtain ⟨frame, waits, rfl⟩ := List.mem_map.mp member
      have here := served.1 frame waits
      rw [members_replace state ev _ represents]
      by_cases same : frame.ev = ev
      · subst same
        have distinct := (listed.represents frame.ev).distinct
        simp only [Frame.withdraw, if_true]
        exact here.withdraw distinct fun passed =>
          undisturbed frame waits named present (Nat.le_of_lt_succ passed)
      · simpa only [Frame.withdraw, if_neg same] using here

theorem step_served {state after : State Handler} {action : Action Handler} (listed : Listed state)
    (served : Served state) (undisturbed : Undisturbed state action) (taken : step state action = some after) :
    Served after := by
  cases action with
  | subscribe eventId handler =>
      cases taken
      exact subscribe_served listed served undisturbed
  | unsubscribe eventId handler =>
      cases taken
      exact unsubscribe_served listed served undisturbed
  | publish event =>
      have published : state.publish event = some after := taken
      obtain same | ⟨ev, starts⟩ := publish_cases state event
      next =>
        rw [same] at published
        cases published
        exact served
      next =>
        rw [starts] at published
        exact goOn_served listed served (Delivery.fresh_at (listed.represents ev).distinct) published
  | handlerReturns =>
      have returned : state.handlerReturns = some after := taken
      unfold State.handlerReturns at returned
      split at returned
      next => cases returned
      next frame rest frames =>
        have popped : Listed { state with frames := rest } := ⟨listed.represents, listed.order⟩
        have kept : Served { state with frames := rest } := by
          refine ⟨fun other member => served.1 other ?_, served.2⟩
          rw [frames]
          exact List.mem_cons_of_mem _ member
        have here := served.1 frame (by rw [frames]; exact List.mem_cons_self)
        exact goOn_served popped kept here returned

theorem step_total {state : State Handler} (listed : Listed state) (action : Action Handler)
    (called : action = .handlerReturns → state.frames ≠ []) : ∃ after, step state action = some after := by
  cases action with
  | subscribe eventId handler => exact ⟨_, rfl⟩
  | unsubscribe eventId handler => exact ⟨_, rfl⟩
  | publish event =>
      obtain same | ⟨ev, starts⟩ := publish_cases state event
      next => exact ⟨state, same⟩
      next =>
        obtain ⟨after, done, -⟩ := goOn_cases listed ⟨ev, 0, Delivery.fresh (state.members ev)⟩
        exact ⟨after, starts.trans done⟩
  | handlerReturns =>
      have running := called rfl
      cases frames : state.frames with
      | nil => contradiction
      | cons frame rest =>
          have popped : Listed { state with frames := rest } := ⟨listed.represents, listed.order⟩
          obtain ⟨after, done, -⟩ := goOn_cases popped { frame with i := frame.i + 1 }
          refine ⟨after, ?_⟩
          change state.handlerReturns = some after
          rw [State.handlerReturns, frames]
          exact done

/-- In every run whose steps leave the publishes in progress undisturbed, the lists are in order, every
publish that has returned called whom it owed a call, and none calls through NULL. -/
theorem deliveries_complete {state : State Handler}
    (reached : Transition.Reach step Initial Undisturbed state) :
    (∀ ev, InOrder (state.members ev) (state.log ev)) ∧
      (∀ delivery ∈ state.finished, delivery.Complete) ∧
      ∀ action, (action = .handlerReturns → state.frames ≠ []) → ∃ after, step state action = some after := by
  have holds : Listed state ∧ Served state := by
    refine @Transition.Reach.invariant _ _ step Initial Undisturbed
      (fun state => Listed state ∧ Served state) ?_ ?_ state reached
    · intro start initial
      refine ⟨initial_listed initial, ?_⟩
      obtain ⟨-, frames, finished, -⟩ := initial
      refine ⟨?_, ?_⟩
      · simp [frames]
      · simp [finished]
    · intro before action after held undisturbed taken
      exact ⟨step_listed held.1 taken, step_served held.1 held.2 undisturbed taken⟩
  exact ⟨holds.1.inOrder, holds.2.2, step_total holds.1⟩

def start : State Nat := ⟨Manager.eventManagerInit, [], [], fun _ => []⟩

-- The first handler takes out the third and puts in another, which takes itself out when it is called.
def calmRun : List (Action Nat) :=
  [.subscribe 2 (some 10), .subscribe 2 (some 11), .subscribe 2 (some 12), .publish (some 2),
    .unsubscribe 2 (some 12), .subscribe 2 (some 13), .handlerReturns, .handlerReturns,
    .unsubscribe 2 (some 13), .handlerReturns]

theorem deliveries_complete_sample :
    ∃ state, Transition.run step start calmRun = some state ∧
      state.finished = [⟨[10, 11, 12], [], [12], [10, 11, 13]⟩] ∧
      (∀ ev, InOrder (state.members ev) (state.log ev)) ∧
      (∀ delivery ∈ state.finished, delivery.Complete) ∧
      ∀ action, (action = .handlerReturns → state.frames ≠ []) → ∃ after, step state action = some after :=
  ⟨_, rfl, rfl, deliveries_complete (.of_run (.start ⟨rfl, rfl, rfl, rfl⟩)
    (by decide : Transition.Guarded step Undisturbed start calmRun) rfl)⟩

/-- A handler that takes itself out while it is called: the one behind it moves up to its place and is never
called. -/
theorem selfUnsubscribe_skips :
    ¬∀ state : State Nat, Transition.Reach step Initial Transition.Unguarded state →
      (∀ ev, InOrder (state.members ev) (state.log ev)) ∧ ∀ delivery ∈ state.finished, delivery.Complete := by
  intro all
  obtain ⟨state, taken, finished⟩ : ∃ state, Transition.run step start
      [.subscribe 2 (some 10), .subscribe 2 (some 11), .publish (some 2), .unsubscribe 2 (some 10),
        .handlerReturns] = some state ∧ state.finished = [⟨[10, 11], [11], [], [10]⟩] := ⟨_, rfl, rfl⟩
  have reached : Transition.Reach step Initial Transition.Unguarded state :=
    .of_run (.start ⟨rfl, rfl, rfl, rfl⟩) (Transition.guarded_unguarded step start _) taken
  have complete := (all state reached).2 ⟨[10, 11], [11], [], [10]⟩ (by rw [finished]; exact List.mem_singleton_self _)
  revert complete
  decide

end WatchFirmware.EventManager
