import WatchFirmware.NotificationManager.Dismissal

set_option autoImplicit false

namespace WatchFirmware.NotificationManager

open Transition

variable {Body : Type}

/-- What has arrived, and the numbers of what has left the list: dismissed at its index, or pushed out by an
arrival that found the list full. -/
structure History (Body : Type) where
  arrived : List (Notification Body)
  dismissed : List Nat
  pushedOut : List Nat

namespace History

variable (history : History Body)

def record (ui : NotificationUi Body) : Action Body → History Body
  | .receive (some body) =>
      { history with
        arrived := history.arrived ++ [⟨ui.arrivals, body⟩]
        pushedOut :=
          if ui.list.total = maxNotifications then
            history.pushedOut ++ (ui.list.contents.head?.map Notification.arrival).toList
          else history.pushedOut }
  | .dismissHandler =>
      match ui.pc with
      | .dismissing absIdx _ =>
          { history with
            dismissed := history.dismissed ++ ((ui.list.contents[absIdx]?).map Notification.arrival).toList }
      | _ => history
  | _ => history

def remaining : List (Notification Body) :=
  history.arrived.filter fun notification =>
    notification.arrival ∉ history.dismissed ∧ notification.arrival ∉ history.pushedOut

def undismissed (notifications : List (Notification Body)) : List (Notification Body) :=
  notifications.filter fun notification => notification.arrival ∉ history.dismissed

def lastOf (notifications : List (Notification Body)) : List (Notification Body) :=
  notifications.drop (notifications.length - maxNotifications)

theorem remaining_arrive (notification : Notification Body) (undismissed : notification.arrival ∉ history.dismissed)
    (kept : notification.arrival ∉ history.pushedOut) :
    remaining { history with arrived := history.arrived ++ [notification] } = history.remaining ++ [notification] := by
  simp [remaining, List.filter_append, undismissed, kept]

theorem remaining_pushOut (number : Nat) :
    remaining { history with pushedOut := history.pushedOut ++ [number] } =
      history.remaining.filter fun notification => notification.arrival ≠ number := by
  rw [remaining, remaining, List.filter_filter]
  refine List.filter_congr fun notification _ => ?_
  simp only [List.mem_append, List.mem_singleton, not_or, ← Bool.decide_and, decide_eq_decide]
  tauto

theorem remaining_dismiss (number : Nat) :
    remaining { history with dismissed := history.dismissed ++ [number] } =
      history.remaining.filter fun notification => notification.arrival ≠ number := by
  rw [remaining, remaining, List.filter_filter]
  refine List.filter_congr fun notification _ => ?_
  simp only [List.mem_append, List.mem_singleton, not_or, ← Bool.decide_and, decide_eq_decide]
  tauto

end History

structure Recorded (Body : Type) where
  ui : NotificationUi Body
  history : History Body

namespace Recorded

def step : Step (Recorded Body) (Action Body) := fun state action =>
  (NotificationUi.step state.ui action).map fun after => ⟨after, state.history.record state.ui action⟩

structure Initial (state : Recorded Body) : Prop where
  ui : state.ui.Initial
  history : state.history = ⟨[], [], []⟩

theorem ui_reach {state : Recorded Body} (reached : Reach step Initial Unguarded state) :
    Reach NotificationUi.step NotificationUi.Initial Unguarded state.ui := by
  induction reached with
  | start initial => exact .start initial.ui
  | next _ _ taken ih =>
      obtain ⟨ui, moved, rfl⟩ := Option.map_eq_some_iff.mp taken
      exact .next ih trivial moved

end Recorded

namespace NotificationUi

variable {list : List (Notification Body)}

theorem Ascending.filter_ne {i : Nat} {notification : Notification Body} (ascending : Ascending list)
    (found : list[i]? = some notification) :
    list.filter (fun other => other.arrival ≠ notification.arrival) = list.eraseIdx i := by
  induction list generalizing i with
  | nil => cases found
  | cons head rest ih =>
      obtain ⟨first, later⟩ := List.pairwise_cons.mp ascending
      cases i with
      | zero =>
          have same : head = notification := Option.some.inj found
          subst same
          have others : ∀ other ∈ rest, other.arrival ≠ head.arrival := fun other member =>
            (first other member).ne'
          simpa using others
      | succ i =>
          have apart : head.arrival ≠ notification.arrival := (first notification (List.mem_of_getElem? found)).ne
          rw [List.filter_cons_of_pos (by simpa using apart), ih later found, List.eraseIdx_cons_succ]

theorem Ascending.head_le {head : Notification Body} {rest : List (Notification Body)} {bound : Nat}
    (ascending : Ascending (head :: rest)) (known : ∀ notification ∈ head :: rest, notification.arrival < bound) :
    head.arrival + (head :: rest).length ≤ bound := by
  induction rest generalizing head with
  | nil =>
      have below := known head List.mem_cons_self
      exact below
  | cons second rest ih =>
      obtain ⟨first, later⟩ := List.pairwise_cons.mp ascending
      have next := first second List.mem_cons_self
      have lower := ih later fun notification member => known notification (List.mem_cons_of_mem _ member)
      simp only [List.length_cons] at lower ⊢
      omega

end NotificationUi

namespace Recorded

structure Accounted (state : Recorded Body) : Prop where
  numbered : state.history.arrived.map Notification.arrival = List.range state.ui.arrivals
  contents : state.ui.list.contents = state.history.remaining
  dismissed : ∀ number ∈ state.history.dismissed, number < state.ui.arrivals
  pushedOut : ∀ number ∈ state.history.pushedOut, number + maxNotifications < state.ui.arrivals

theorem Initial.accounted {state : Recorded Body} (initial : state.Initial) : state.Accounted := by
  have empty : state.ui.list.contents = [] := by
    rw [← List.length_eq_zero_iff, NotificationList.contents_length, initial.ui.list]
  constructor
  case numbered =>
    rw [initial.history, initial.ui.arrivals]
    rfl
  case contents =>
    rw [empty, initial.history]
    rfl
  case dismissed =>
    rw [initial.history]
    exact nofun
  case pushedOut =>
    rw [initial.history]
    exact nofun

theorem Accounted.receive {ui after : NotificationUi Body} {history : History Body} {body : Body}
    (accounted : Accounted ⟨ui, history⟩) (ordered : ui.Ordered)
    (taken : ui.receiveNotification (some body) = some after) :
    Accounted ⟨after, history.record ui (.receive (some body))⟩ := by
  obtain ⟨list, received, contents⟩ := ui.list.receiveNotification_contents ⟨ui.arrivals, body⟩
  simp only [NotificationUi.receiveNotification, received, Option.map_some, Option.some.injEq] at taken
  subst taken
  have undismissed : ui.arrivals ∉ history.dismissed := fun member =>
    Nat.lt_irrefl _ (accounted.dismissed ui.arrivals member)
  have positive : 0 < maxNotifications := by decide
  have kept : ui.arrivals ∉ history.pushedOut := fun member => by
    have early : ui.arrivals + maxNotifications < ui.arrivals := accounted.pushedOut ui.arrivals member
    omega
  have before : ui.list.contents = history.remaining := accounted.contents
  have numbered : (history.arrived ++ [(⟨ui.arrivals, body⟩ : Notification Body)]).map Notification.arrival =
      List.range (ui.arrivals + 1) := by
    have earlier : history.arrived.map Notification.arrival = List.range ui.arrivals := accounted.numbered
    rw [List.map_append, earlier, List.range_succ]
    rfl
  have older : ∀ number ∈ history.pushedOut, number + maxNotifications < ui.arrivals + 1 := fun number member =>
    Nat.lt_succ_of_lt (accounted.pushedOut number member)
  have length := ui.list.contents_length
  by_cases full : ui.list.total = maxNotifications
  next =>
    cases entries : ui.list.contents with
    | nil =>
        rw [entries, full] at length
        cases length
    | cons head rest =>
        have oldest : head.arrival + maxNotifications ≤ ui.arrivals := by
          have bound := NotificationUi.Ascending.head_le (entries ▸ ordered.ascending) (entries ▸ ordered.known)
          rw [← entries, length, full] at bound
          exact bound
        have pushed : (history.record ui (.receive (some body))).pushedOut = history.pushedOut ++ [head.arrival] := by
          simp only [History.record, full, if_true, entries, List.head?_cons, Option.map_some, Option.toList_some]
        constructor
        case numbered => exact numbered
        case contents =>
          have shifted : list.contents = ui.list.contents.eraseIdx 0 ++ [⟨ui.arrivals, body⟩] := by
            rw [contents, BoundedQueue.offer, if_neg (by omega), List.eraseIdx_zero]
          have gone := ordered.ascending.filter_ne (entries ▸ rfl : ui.list.contents[0]? = some head)
          have left : ui.arrivals ∉ history.pushedOut ++ [head.arrival] := by
            rw [List.mem_append, List.mem_singleton]
            rintro (old | same)
            next => exact kept old
            next => omega
          have arrived := History.remaining_arrive { history with pushedOut := history.pushedOut ++ [head.arrival] }
            ⟨ui.arrivals, body⟩ undismissed left
          rw [History.remaining_pushOut, ← before, gone, ← shifted, ← pushed] at arrived
          exact arrived.symm
        case dismissed => exact fun number member => Nat.lt_succ_of_lt (accounted.dismissed number member)
        case pushedOut =>
          intro number member
          have member : number ∈ history.pushedOut ++ [head.arrival] := pushed ▸ member
          rw [List.mem_append, List.mem_singleton] at member
          obtain old | rfl := member
          next => exact older number old
          next => exact Nat.lt_succ_of_le oldest
  next =>
    have pushed : (history.record ui (.receive (some body))).pushedOut = history.pushedOut := by
      simp only [History.record, full, if_false]
    constructor
    case numbered => exact numbered
    case contents =>
      have bound := ui.list.total_le
      have grown : list.contents = ui.list.contents ++ [⟨ui.arrivals, body⟩] := by
        rw [contents]
        exact BoundedQueue.offer_room (by omega) _
      have arrived := History.remaining_arrive history ⟨ui.arrivals, body⟩ undismissed kept
      rw [← before, ← grown] at arrived
      show list.contents = _
      rw [← arrived]
      simp only [History.remaining, History.record, full, if_false]
    case dismissed => exact fun number member => Nat.lt_succ_of_lt (accounted.dismissed number member)
    case pushedOut => exact fun number member => older number (pushed ▸ member)

theorem Accounted.dismiss {ui : NotificationUi Body} {history : History Body} {absIdx : Nat} {card : Card Body}
    {list : NotificationList Body} (accounted : Accounted ⟨ui, history⟩) (ordered : ui.Ordered)
    (pc : ui.pc = .dismissing absIdx card) (contents : list.contents = ui.list.contents.eraseIdx absIdx) :
    Accounted ⟨{ ui with list, pc := .invalidating }, history.record ui .dismissHandler⟩ := by
  have before : ui.list.contents = history.remaining := accounted.contents
  cases found : ui.list.contents[absIdx]? with
  | none =>
      have recorded : history.record ui .dismissHandler = history := by
        simp [History.record, pc, found]
      have same : list.contents = ui.list.contents := by
        rw [contents, List.eraseIdx_of_length_le (List.getElem?_eq_none_iff.mp found)]
      rw [recorded]
      exact ⟨accounted.numbered, same.trans before, accounted.dismissed, accounted.pushedOut⟩
  | some notification =>
      have recorded : history.record ui .dismissHandler =
          { history with dismissed := history.dismissed ++ [notification.arrival] } := by
        simp [History.record, pc, found]
      rw [recorded]
      constructor
      case numbered => exact accounted.numbered
      case contents =>
        show list.contents = _
        rw [History.remaining_dismiss, ← before, contents]
        exact (ordered.ascending.filter_ne found).symm
      case dismissed =>
        intro number member
        have member : number ∈ history.dismissed ++ [notification.arrival] := member
        rw [List.mem_append, List.mem_singleton] at member
        obtain old | rfl := member
        next => exact accounted.dismissed number old
        next => exact ordered.known notification (List.mem_of_getElem? found)
      case pushedOut => exact accounted.pushedOut

theorem Accounted.elsewhere {ui after : NotificationUi Body} {history : History Body}
    (accounted : Accounted ⟨ui, history⟩) (list : after.list = ui.list) (arrivals : after.arrivals = ui.arrivals) :
    Accounted ⟨after, history⟩ where
  numbered := accounted.numbered.trans (congrArg List.range arrivals.symm)
  contents := (congrArg NotificationList.contents list).trans accounted.contents
  dismissed := fun number member => arrivals ▸ accounted.dismissed number member
  pushedOut := fun number member => arrivals ▸ accounted.pushedOut number member

end Recorded

namespace NotificationUi

variable {ui after : NotificationUi Body}

inductive Rebased (ui : NotificationUi Body) : NotificationUi Body → Prop
  | same : Rebased ui ui
  | back (above : ui.notiCurrBaseIdx ≠ 0) :
      Rebased ui (populateCards { ui with notiCurrBaseIdx := ui.notiCurrBaseIdx - 1 })
  | forth (below : ui.notiCurrBaseIdx + visibleCards < ui.notiSnapshotLen) :
      Rebased ui (populateCards { ui with notiCurrBaseIdx := ui.notiCurrBaseIdx + 1 })

theorem cardActionCb_rebased (card : Card Body) (key : Key) : Rebased ui (ui.cardActionCb card key) := by
  have last : visibleCards - 1 ≠ 0 := by decide
  cases key with
  | right =>
      simp only [cardActionCb, rebaseAndPopulateCards]
      split
      next atEnd =>
        rw [atEnd, if_neg last]
        split
        next => exact .same
        next below => exact .forth (by simp only [visibleCards] at *; omega)
      next => exact .same
  | left =>
      simp only [cardActionCb, rebaseAndPopulateCards]
      split
      next atStart =>
        split
        next => exact .same
        next above => exact .back above
      next => exact .same

def Within (base len : Nat) : Prop := base = 0 ∨ base + visibleCards ≤ len

structure Windowed (ui : NotificationUi Body) : Prop where
  shown : ui.pc.showsCards = true → Within ui.notiCurrBaseIdx ui.notiSnapshotLen
  clicked : ∀ absIdx card, ui.pc = .dismissing absIdx card → Within ui.notiCurrBaseIdx (ui.notiSnapshotLen - 1)
  dismissed : ui.pc = .invalidating → Within ui.notiCurrBaseIdx ui.list.total
  loop : ∀ next displayCardLen, ui.pc = .drawing next displayCardLen →
    displayCardLen = min ui.notiSnapshotLen (ui.notiCurrBaseIdx + visibleCards) ∧ next ≤ displayCardLen ∧
      ui.cards.length = next - ui.notiCurrBaseIdx
  page : ui.pc = .idle → ui.isOpen = true →
    ui.cards.length = min ui.notiSnapshotLen (ui.notiCurrBaseIdx + visibleCards) - ui.notiCurrBaseIdx

theorem Initial.windowed (initial : ui.Initial) : ui.Windowed where
  shown := fun _ => Or.inl initial.notiCurrBaseIdx
  clicked := fun _ _ pc => by simp [initial.pc] at pc
  dismissed := fun pc => by simp [initial.pc] at pc
  loop := fun _ _ pc => by simp [initial.pc] at pc
  page := fun _ isOpen => by simp [initial.isOpen] at isOpen

theorem Windowed.populate (within : Within ui.notiCurrBaseIdx ui.notiSnapshotLen) : ui.populateCards.Windowed where
  shown := fun _ => within
  clicked := fun _ _ pc => by cases pc
  dismissed := fun pc => by cases pc
  loop := by
    intro next displayCardLen pc
    simp only [populateCards, UiPc.drawing.injEq] at pc
    obtain ⟨rfl, rfl⟩ := pc
    have first : (if ui.notiSnapshotLen < ui.notiCurrBaseIdx + visibleCards then ui.notiSnapshotLen
        else visibleCards + ui.notiCurrBaseIdx) = min ui.notiSnapshotLen (ui.notiCurrBaseIdx + visibleCards) := by
      split <;> omega
    refine ⟨first, ?_, (Nat.sub_self _).symm⟩
    rw [first]
    unfold Within at within
    omega
  page := fun pc => by cases pc

theorem Within.longer {base len more : Nat} (within : Within base len) (longer : len ≤ more) : Within base more :=
  within.imp_right fun full => full.trans longer

theorem Windowed.clickDismiss (windowed : ui.Windowed) (pc : ui.pc = .idle) (card : Card Body) :
    (ui.dismissHandlerCb card).Windowed where
  shown := fun shows => by cases shows
  clicked := by
    intro absIdx clicked same
    have within := windowed.shown (by rw [pc]; rfl)
    -- the base gives way where the last page loses a card
    show Within (if ui.notiSnapshotLen ≤ visibleCards then 0 else _) (ui.notiSnapshotLen - 1)
    unfold Within at within ⊢
    split
    next => exact Or.inl rfl
    next =>
      split
      next =>
        split
        next => omega
        next => omega
      next => omega
  dismissed := fun same => by cases same
  loop := fun _ _ same => by cases same
  page := fun same => by cases same

theorem Windowed.drawCard {next displayCardLen : Nat} (windowed : ui.Windowed)
    (pc : ui.pc = .drawing next displayCardLen) (drew : ui.drawCard next displayCardLen = some after)
    (base : ui.notiCurrBaseIdx ≤ next) : after.Windowed := by
  have within := windowed.shown (by rw [pc]; rfl)
  obtain ⟨whole, reached, length⟩ := windowed.loop next displayCardLen pc
  unfold NotificationUi.drawCard at drew
  split at drew
  next inside =>
    obtain ⟨data, read, rfl⟩ := Option.map_eq_some_iff.mp drew
    exact
      { shown := fun _ => within
        clicked := fun _ _ same => by cases same
        dismissed := fun same => by cases same
        loop := fun _ _ same => by
          cases same
          refine ⟨whole, inside, ?_⟩
          rw [List.length_append, length, List.length_singleton]
          exact (Nat.succ_sub base).symm
        page := fun same => by cases same }
  next =>
    cases drew
    exact
      { shown := fun _ => within
        clicked := fun _ _ same => by cases same
        dismissed := fun same => by cases same
        loop := fun _ _ same => by cases same
        page := fun _ _ => by
          show ui.cards.length = min ui.notiSnapshotLen (ui.notiCurrBaseIdx + visibleCards) - ui.notiCurrBaseIdx
          omega }

theorem receive_frame {payload : Option Body} (received : ui.receiveNotification payload = some after) :
    after.pc = ui.pc ∧ after.isOpen = ui.isOpen ∧ after.cards = ui.cards ∧
      after.notiSnapshotLen = ui.notiSnapshotLen ∧ after.notiCurrBaseIdx = ui.notiCurrBaseIdx := by
  cases payload with
  | none =>
      cases received
      exact ⟨rfl, rfl, rfl, rfl, rfl⟩
  | some body =>
      obtain ⟨list, _, rfl⟩ := Option.map_eq_some_iff.mp received
      exact ⟨rfl, rfl, rfl, rfl, rfl⟩

theorem receive_longer {payload : Option Body} (received : ui.receiveNotification payload = some after) :
    ui.list.total ≤ after.list.total := by
  cases payload with
  | none =>
      cases received
      exact Nat.le_refl _
  | some body =>
      obtain ⟨list, appended, contents⟩ := ui.list.receiveNotification_contents ⟨ui.arrivals, body⟩
      simp only [receiveNotification, appended, Option.map_some, Option.some.injEq] at received
      subst received
      show ui.list.total ≤ list.total
      have bound := ui.list.total_le
      rw [← list.contents_length, contents, BoundedQueue.offer, NotificationList.contents_length]
      split
      next => simp
      next =>
        simp
        omega

theorem Windowed.receive {payload : Option Body} (windowed : ui.Windowed)
    (received : ui.receiveNotification payload = some after) : after.Windowed := by
  obtain ⟨pc, isOpen, cards, snapshot, base⟩ := receive_frame received
  have longer := receive_longer received
  constructor
  case shown => simpa only [pc, snapshot, base] using windowed.shown
  case clicked => simpa only [pc, snapshot, base] using windowed.clicked
  case dismissed =>
    rw [pc, base]
    exact fun same => (windowed.dismissed same).longer longer
  case loop => simpa only [pc, snapshot, base, cards] using windowed.loop
  case page => simpa only [pc, snapshot, base, cards, isOpen] using windowed.page

theorem Windowed.step {action : Action Body} (windowed : ui.Windowed) (sound : ui.Sound)
    (taken : step ui action = some after) : after.Windowed := by
  cases step_moved taken with
  | receive received => exact windowed.receive received
  | drawPage pc shut =>
      have within := windowed.shown (by rw [pc]; rfl)
      have snapshot := sound.snapshot (by simp [pc])
      exact @Windowed.populate Body { ui.retrieveAll with isOpen := true } (within.longer snapshot)
  | drawCard pc drew => exact windowed.drawCard pc drew (sound.loop _ _ pc).1
  | @cardKey _ key card pc there =>
      have within := windowed.shown (by rw [pc]; rfl)
      have rebased := @cardActionCb_rebased Body ui card key
      generalize ui.cardActionCb card key = moved at rebased ⊢
      cases rebased with
      | same => exact windowed
      | back above =>
          refine Windowed.populate ?_
          unfold Within at within ⊢
          dsimp only
          omega
      | forth below =>
          refine Windowed.populate (Or.inr ?_)
          dsimp only
          omega
  | clickDismiss pc there => exact windowed.clickDismiss pc _
  | @dismissHandler absIdx card list pc contents =>
      have within := windowed.clicked absIdx card pc
      have snapshot := sound.snapshot (by simp [pc])
      obtain ⟨_, current, found, _⟩ := sound.clicked absIdx card pc
      have inside := (List.getElem?_eq_some_iff.mp found).1
      have shorter : list.total = ui.list.total - 1 := by
        rw [← list.contents_length, contents, List.length_eraseIdx_of_lt inside, NotificationList.contents_length]
      exact
        { shown := fun same => by cases same
          clicked := fun _ _ same => by cases same
          dismissed := fun _ => within.longer (show ui.notiSnapshotLen - 1 ≤ list.total by omega)
          loop := fun _ _ same => by cases same
          page := fun same => by cases same }
  | invalidate pc isOpen => exact Windowed.populate (windowed.dismissed pc)
  | invalidateShut pc shut =>
      have idle := (sound.shut shut).1
      rw [pc] at idle
      cases idle
  | deleteUi pc =>
      exact
        { shown := fun _ => windowed.shown (by rw [pc]; rfl)
          clicked := fun _ _ same => by cases same
          dismissed := fun same => by cases same
          loop := fun _ _ same => by cases same
          page := fun _ isOpen => by cases isOpen }

theorem redraw_filled {action : Action Body} {next displayCardLen : Nat} (windowed : ui.Windowed) (sound : ui.Sound)
    (taken : step ui action = some after) (resting : ∀ next displayCardLen, ui.pc ≠ .drawing next displayCardLen)
    (drawing : after.pc = .drawing next displayCardLen) :
    next = after.notiCurrBaseIdx ∧
      (displayCardLen = next + visibleCards ∨ next = 0 ∧ displayCardLen = after.list.total) := by
  have populated {drawn : NotificationUi Body} (pc : drawn.populateCards.pc = .drawing next displayCardLen)
      (within : Within drawn.notiCurrBaseIdx drawn.notiSnapshotLen)
      (fresh : drawn.notiCurrBaseIdx = 0 → drawn.notiSnapshotLen < visibleCards →
        drawn.notiSnapshotLen = drawn.list.total) :
      next = drawn.notiCurrBaseIdx ∧
        (displayCardLen = next + visibleCards ∨ next = 0 ∧ displayCardLen = drawn.list.total) := by
    simp only [populateCards, UiPc.drawing.injEq] at pc
    obtain ⟨rfl, rfl⟩ := pc
    refine ⟨rfl, ?_⟩
    unfold Within at within
    split
    next short =>
      have first : drawn.notiCurrBaseIdx = 0 := by omega
      exact Or.inr ⟨first, fresh first (by omega)⟩
    next => exact Or.inl (Nat.add_comm _ _)
  cases step_moved taken with
  | receive received =>
      rw [(receive_frame received).1] at drawing
      exact absurd drawing (resting _ _)
  | drawPage pc shut =>
      have within := windowed.shown (by rw [pc]; rfl)
      have snapshot := sound.snapshot (by simp [pc])
      exact @populated { ui.retrieveAll with isOpen := true } drawing (within.longer snapshot) fun _ _ => rfl
  | drawCard pc drew => exact absurd pc (resting _ _)
  | @cardKey _ key card pc there =>
      have within := windowed.shown (by rw [pc]; rfl)
      have rebased := @cardActionCb_rebased Body ui card key
      generalize ui.cardActionCb card key = moved at rebased drawing ⊢
      cases rebased with
      | same =>
          rw [pc] at drawing
          cases drawing
      | back above =>
          unfold Within at within
          exact @populated { ui with notiCurrBaseIdx := ui.notiCurrBaseIdx - 1 } drawing
            (Or.inr (by dsimp only; omega)) (by dsimp only; omega)
      | forth below =>
          exact @populated { ui with notiCurrBaseIdx := ui.notiCurrBaseIdx + 1 } drawing
            (Or.inr (by dsimp only; omega)) fun first => absurd first (Nat.succ_ne_zero _)
  | clickDismiss pc there => cases drawing
  | dismissHandler pc contents => cases drawing
  | invalidate pc isOpen => exact populated drawing (windowed.dismissed pc) fun _ _ => rfl
  | invalidateShut pc shut => cases drawing
  | deleteUi pc => cases drawing

end NotificationUi

namespace Recorded

open NotificationUi (Within)

theorem Accounted.step {state after : Recorded Body} {action : Action Body} (accounted : state.Accounted)
    (ordered : state.ui.Ordered) (taken : step state action = some after) : after.Accounted := by
  obtain ⟨ui, history⟩ := state
  obtain ⟨moved, took, rfl⟩ := Option.map_eq_some_iff.mp taken
  cases NotificationUi.step_moved took with
  | @receive payload _ received =>
      cases payload with
      | none =>
          cases received
          exact accounted
      | some body => exact accounted.receive ordered received
  | drawPage pc shut => exact accounted.elsewhere rfl rfl
  | drawCard pc drew =>
      unfold NotificationUi.drawCard at drew
      split at drew
      next =>
        obtain ⟨data, _, rfl⟩ := Option.map_eq_some_iff.mp drew
        exact accounted.elsewhere rfl rfl
      next =>
        cases drew
        exact accounted.elsewhere rfl rfl
  | @cardKey _ key card pc there =>
      have rebased := @NotificationUi.cardActionCb_rebased Body ui card key
      generalize ui.cardActionCb card key = moved at rebased ⊢
      cases rebased with
      | same => exact accounted
      | back | forth => exact accounted.elsewhere rfl rfl
  | clickDismiss pc there => exact accounted.elsewhere rfl rfl
  | dismissHandler pc contents => exact accounted.dismiss ordered pc contents
  | invalidate pc isOpen => exact accounted.elsewhere rfl rfl
  | invalidateShut pc shut => exact accounted.elsewhere rfl rfl
  | deleteUi pc => exact accounted.elsewhere rfl rfl

theorem Accounted.arrived_length {state : Recorded Body} (accounted : state.Accounted) :
    state.history.arrived.length = state.ui.arrivals := by
  have same := congrArg List.length accounted.numbered
  rwa [List.length_map, List.length_range] at same

theorem Accounted.number {state : Recorded Body} (accounted : state.Accounted) {i : Nat}
    {notification : Notification Body} (found : state.history.arrived[i]? = some notification) :
    notification.arrival = i := by
  have numbered := congrArg (fun numbers => numbers[i]?) accounted.numbered
  obtain ⟨inside, _⟩ := List.getElem?_eq_some_iff.mp found
  rw [accounted.arrived_length] at inside
  rw [List.getElem?_map, found, List.getElem?_range inside] at numbered
  exact Option.some.inj numbered

theorem Accounted.recent {state : Recorded Body} (accounted : state.Accounted) :
    state.history.undismissed (History.lastOf state.history.arrived) <:+ state.ui.list.contents := by
  have length := accounted.arrived_length
  have kept : ∀ notification ∈ History.lastOf state.history.arrived, notification.arrival ∉ state.history.pushedOut := by
    intro notification member out
    have old := accounted.pushedOut notification.arrival out
    obtain ⟨i, found⟩ := List.mem_iff_getElem?.mp member
    rw [History.lastOf, List.getElem?_drop] at found
    have number := accounted.number found
    omega
  have same : state.history.undismissed (History.lastOf state.history.arrived) =
      (History.lastOf state.history.arrived).filter fun notification =>
        notification.arrival ∉ state.history.dismissed ∧ notification.arrival ∉ state.history.pushedOut := by
    refine List.filter_congr fun notification member => ?_
    simp [kept notification member]
  rw [accounted.contents, History.remaining, same]
  exact (List.drop_suffix _ _).filter _

structure Valid (state : Recorded Body) : Prop where
  list : state.ui.list.contents = state.history.remaining
  recent : state.history.undismissed (History.lastOf state.history.arrived) <:+ state.ui.list.contents
  window : state.ui.pc.showsCards = true → Within state.ui.notiCurrBaseIdx state.ui.notiSnapshotLen
  page : state.ui.pc = .idle → state.ui.isOpen = true →
    state.ui.cards.length = visibleCards ∨
      state.ui.notiCurrBaseIdx = 0 ∧ state.ui.cards.length = state.ui.notiSnapshotLen
  redraw : ∀ action after next displayCardLen, NotificationUi.step state.ui action = some after →
    (∀ next displayCardLen, state.ui.pc ≠ .drawing next displayCardLen) → after.pc = .drawing next displayCardLen →
      next = after.notiCurrBaseIdx ∧
        (displayCardLen = next + visibleCards ∨ next = 0 ∧ displayCardLen = after.list.total)
  inside : state.ui.pc.showsCards = true → ∀ card ∈ state.ui.cards,
    card.idx + state.ui.notiCurrBaseIdx < state.ui.list.total

theorem valid_atomic {state : Recorded Body} (reached : Reach step Initial Unguarded state) : state.Valid := by
  have sound := NotificationUi.sound_of_reach (ui_reach reached)
  have kept : state.Accounted ∧ state.ui.Windowed := by
    induction reached with
    | start initial => exact ⟨initial.accounted, initial.ui.windowed⟩
    | next before _ taken ih =>
        have earlier := NotificationUi.sound_of_reach (ui_reach before)
        obtain ⟨accounted, windowed⟩ := ih earlier
        refine ⟨accounted.step earlier.ordered taken, ?_⟩
        obtain ⟨moved, took, rfl⟩ := Option.map_eq_some_iff.mp taken
        exact windowed.step earlier took
  obtain ⟨accounted, windowed⟩ := kept
  exact
    { list := accounted.contents
      recent := accounted.recent
      window := windowed.shown
      page := by
        intro pc isOpen
        have within := windowed.shown (by rw [pc]; rfl)
        have length := windowed.page pc isOpen
        unfold Within at within
        omega
      redraw := fun _ _ _ _ taken resting drawing => NotificationUi.redraw_filled windowed sound taken resting drawing
      inside := by
        intro shows card member
        obtain ⟨_, current, found, _⟩ := sound.drawn shows card member
        have inside := (List.getElem?_eq_some_iff.mp found).1
        rwa [NotificationList.contents_length] at inside }

end Recorded

end WatchFirmware.NotificationManager
