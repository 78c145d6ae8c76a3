import WatchFirmware.NotificationManager.SharedList
import WatchFirmware.NotificationManager.ViewWindow

set_option autoImplicit false

namespace WatchFirmware.NotificationManager

open Transition

variable {Body : Type}

namespace NotificationUi

def onList (own other : NotificationUi Body) : NotificationUi Body :=
  { own with list := other.list, arrivals := other.arrivals, shifts := other.shifts }

variable (own other : NotificationUi Body)

theorem moveDown_onList : (own.onList other).moveDown = other.moveDown.map own.onList := by
  unfold moveDown onList
  cases other.list.moveDown 0 (maxNotifications - 1) <;> rfl

theorem copyIn_onList (body : Body) : (own.onList other).copyIn body = (other.copyIn body).map own.onList := by
  unfold copyIn onList
  cases other.list.copyIn ⟨other.arrivals, body⟩ <;> rfl

theorem countUp_onList : (own.onList other).countUp = other.countUp.map own.onList := by
  unfold countUp onList
  cases other.list.countUp <;> rfl

theorem receiveNotification_onList (payload : Option Body) :
    (own.onList other).receiveNotification payload = (other.receiveNotification payload).map own.onList := by
  cases payload with
  | none => rfl
  | some body =>
      simp only [receiveNotification, Option.map_map]
      rfl

theorem append_statements (ui : NotificationUi Body) (body : Body) :
    (ui.copyIn body).bind countUp =
      (ui.list.append ⟨ui.arrivals, body⟩).map fun list => { ui with list, arrivals := ui.arrivals + 1 } := by
  unfold copyIn countUp NotificationList.append
  cases ui.list.copyIn ⟨ui.arrivals, body⟩ with
  | none => rfl
  | some list => simp

end NotificationUi

namespace ReceivePc

/-- What is left of `receive_notification`. -/
def rest : ReceivePc Body → NotificationUi Body → Option (NotificationUi Body)
  | .idle, ui => some ui
  | .test body, ui => ui.receiveNotification (some body)
  | .moveDown body, ui => ui.moveDown.bind fun moved => (moved.countDown.copyIn body).bind NotificationUi.countUp
  | .countDown body, ui => (ui.countDown.copyIn body).bind NotificationUi.countUp
  | .copyIn body, ui => (ui.copyIn body).bind NotificationUi.countUp
  | .countUp, ui => ui.countUp

def isUnderWay : ReceivePc Body → Bool
  | .moveDown _ | .countDown _ | .copyIn _ | .countUp => true
  | .idle | .test _ => false

theorem rest_test (ui : NotificationUi Body) (body : Body) :
    ui.receiveNotification (some body) =
      if ui.list.total = maxNotifications then rest (.moveDown body) ui else rest (.copyIn body) ui := by
  simp only [NotificationUi.receiveNotification, NotificationList.receiveNotification]
  by_cases full : ui.list.total = maxNotifications
  · simp only [full, if_true]
    show _ = ui.moveDown.bind _
    unfold NotificationUi.moveDown
    cases moved : ui.list.moveDown 0 (maxNotifications - 1) with
    | none => rfl
    | some list =>
        simp only [Option.bind_some, Option.map_some, NotificationUi.append_statements]
        rfl
  · simp only [full, if_false]
    exact (ui.append_statements body).symm

theorem rest_onList (own other : NotificationUi Body) (pc : ReceivePc Body) :
    pc.rest (own.onList other) = (pc.rest other).map own.onList := by
  have copied (ui : NotificationUi Body) (body : Body) :
      ((own.onList ui).copyIn body).bind NotificationUi.countUp =
        ((ui.copyIn body).bind NotificationUi.countUp).map own.onList := by
    rw [NotificationUi.copyIn_onList]
    cases ui.copyIn body with
    | none => rfl
    | some after => exact own.countUp_onList after
  cases pc with
  | idle => rfl
  | test body => exact own.receiveNotification_onList other (some body)
  | moveDown body =>
      show (own.onList other).moveDown.bind _ = (other.moveDown.bind _).map own.onList
      rw [NotificationUi.moveDown_onList]
      cases other.moveDown with
      | none => rfl
      | some after => exact copied after.countDown body
  | countDown body => exact copied other.countDown body
  | copyIn body => exact copied other body
  | countUp => exact own.countUp_onList other

end ReceivePc

namespace SharedList

variable {s after : SharedList Body}

theorem receiveNotification_rest (taken : s.receiveNotification = some after) :
    after.access = s.access ∧ s.ui.onList after.ui = after.ui ∧
      after.receive.rest after.ui = s.receive.rest s.ui ∧
        (after.receive = .idle ∨ after.receive.isUnderWay = true) := by
  obtain ⟨ui, receive, access⟩ := s
  cases receive with
  | idle => cases taken
  | test body =>
      cases taken
      refine ⟨rfl, rfl, ?_, .inr ?_⟩
      · show _ = ui.receiveNotification (some body)
        rw [ReceivePc.rest_test]
        split <;> rfl
      · dsimp only
        split <;> rfl
  | moveDown body =>
      obtain ⟨moved, found, rfl⟩ := Option.map_eq_some_iff.mp taken
      refine ⟨rfl, ?_, ?_, .inr rfl⟩
      · obtain ⟨list, _, rfl⟩ := Option.map_eq_some_iff.mp found
        rfl
      · show (moved.countDown.copyIn body).bind NotificationUi.countUp = ui.moveDown.bind _
        rw [show ui.moveDown = some moved from found]
        rfl
  | countDown body =>
      cases taken
      exact ⟨rfl, rfl, rfl, .inr rfl⟩
  | copyIn body =>
      obtain ⟨copied, found, rfl⟩ := Option.map_eq_some_iff.mp taken
      refine ⟨rfl, ?_, ?_, .inr rfl⟩
      · obtain ⟨list, _, rfl⟩ := Option.map_eq_some_iff.mp found
        rfl
      · show copied.countUp = (ui.copyIn body).bind NotificationUi.countUp
        rw [show ui.copyIn body = some copied from found]
        rfl
  | countUp =>
      obtain ⟨counted, found, rfl⟩ := Option.map_eq_some_iff.mp taken
      refine ⟨rfl, ?_, found.symm, .inl rfl⟩
      obtain ⟨list, _, rfl⟩ := Option.map_eq_some_iff.mp found
      rfl

end SharedList

namespace NotificationUi

def isOwn : Action Body → Bool
  | .cardKey _ _ | .clickDismiss _ | .deleteUi => true
  | .receive _ | .drawPage | .drawCard | .dismissHandler | .invalidate => false

theorem ite_onList {edge : Prop} [Decidable edge] {first second other : NotificationUi Body}
    {once again : NotificationUi Body} (one : once = first.onList other) (two : again = second.onList other) :
    (if edge then once else again) = (if edge then first else second).onList other := by
  split
  next => exact one
  next => exact two

theorem cardActionCb_onList (own other : NotificationUi Body) (card : Card Body) (key : Key) :
    (own.onList other).cardActionCb card key = (own.cardActionCb card key).onList other := by
  have rebased (idx : Nat) :
      (own.onList other).rebaseAndPopulateCards idx = (own.rebaseAndPopulateCards idx).onList other := by
    unfold rebaseAndPopulateCards
    exact ite_onList (ite_onList rfl rfl) (ite_onList (ite_onList rfl rfl) rfl)
  cases key with
  | left | right => exact ite_onList (rebased card.idx) rfl

theorem step_onList {own other after : NotificationUi Body} {action : Action Body} (isOwn : isOwn action = true)
    (taken : step (own.onList other) action = some after) :
    ∃ next, step own action = some next ∧ after = next.onList other ∧ next.onList own = next := by
  cases step_moved taken with
  | @cardKey position key card pc there =>
      refine ⟨own.cardActionCb card key, ?_, cardActionCb_onList own other card key, ?_⟩
      · have idle : own.pc = .idle := pc
        have found : own.cards[position]? = some card := there
        simp [step, idle, found]
      · rw [← cardActionCb_onList]
        rfl
  | @clickDismiss position card pc there =>
      refine ⟨own.dismissHandlerCb card, ?_, rfl, rfl⟩
      have idle : own.pc = .idle := pc
      have found : own.cards[position]? = some card := there
      simp [step, idle, found]
  | deleteUi pc =>
      have idle : own.pc = .idle := pc
      exact ⟨{ own with isOpen := false, cards := [] }, by simp [step, idle], by rw [← pc]; rfl, rfl⟩
  | receive | drawPage | drawCard | dismissHandler | invalidate | invalidateShut => cases isOwn

end NotificationUi

/-- A run of the two tasks with the history of its arrivals and dismissals, noted when they find the list. -/
structure Logged (Body : Type) where
  shared : SharedList Body
  history : History Body

namespace Logged

def record (s : SharedList Body) (history : History Body) : Statement Body → History Body
  | .receiving =>
      match s.receive with
      | .test body => history.record s.ui (.receive (some body))
      | _ => history
  | .dismissHandler => history.record s.ui .dismissHandler
  | _ => history

def step : Step (Logged Body) (Statement Body) := fun state statement =>
  (SharedList.step state.shared statement).map fun after => ⟨after, record state.shared state.history statement⟩

structure Initial (state : Logged Body) : Prop where
  shared : state.shared.Initial
  history : state.history = ⟨[], [], []⟩

def Alone (state : Logged Body) (statement : Statement Body) : Prop := state.shared.Alone statement

/-- The arrivals and dismissals of a run in which they do not overlap, each in one step. -/
inductive Follows : Logged Body → Recorded Body → Prop
  | resting (ui : NotificationUi Body) (history : History Body) (access : AccessPc Body)
      (reading : access = .outside ∨ access = .label) :
      Follows ⟨⟨ui, .idle, access⟩, history⟩ ⟨ui, history⟩
  | called (ui : NotificationUi Body) (history : History Body) (body : Body) :
      Follows ⟨⟨ui, .test body, .outside⟩, history⟩ ⟨ui, history⟩
  | receiving (ui abs : NotificationUi Body) (history : History Body) (body : Body) (receive : ReceivePc Body)
      (underWay : receive.isUnderWay = true) (own : abs.onList ui = ui)
      (rest : receive.rest ui = abs.receiveNotification (some body)) :
      Follows ⟨⟨ui, receive, .outside⟩, history.record abs (.receive (some body))⟩ ⟨abs, history⟩
  | closing (abs : NotificationUi Body) (history : History Body) (absIdx : Nat) (card : Card Body)
      (pc : abs.pc = .dismissing absIdx card) (inside : absIdx < abs.list.total) :
      Follows ⟨⟨abs, .idle, .closeGap abs.list.contents⟩, history.record abs .dismissHandler⟩ ⟨abs, history⟩
  | counting (abs : NotificationUi Body) (history : History Body) (list : NotificationList Body) (absIdx : Nat)
      (card : Card Body) (pc : abs.pc = .dismissing absIdx card) (inside : absIdx < abs.list.total)
      (closed : abs.list.closeGap absIdx = some list) :
      Follows ⟨⟨{ abs with list }, .idle, .countDown abs.list.contents⟩, history.record abs .dismissHandler⟩
        ⟨abs, history⟩

def Reaches (state : Recorded Body) (after : Logged Body) : Prop :=
  Follows after state ∨ ∃ action next, Recorded.step state action = some next ∧ Follows after next

section Step

variable {ui : NotificationUi Body} {history : History Body} {after : Logged Body} {statement : Statement Body}

theorem reaches_ui {action : Action Body} {access : AccessPc Body} {s : SharedList Body}
    (taken : SharedList.uiStep ⟨ui, .idle, access⟩ action = some s) (unrecorded : history.record ui action = history) :
    Reaches ⟨ui, history⟩ ⟨s, history⟩ := by
  obtain ⟨next, moved, rfl⟩ := Option.map_eq_some_iff.mp taken
  refine .inr ⟨action, ⟨next, history⟩, ?_, .resting next history .outside (.inl rfl)⟩
  rw [Recorded.step, moved, Option.map_some, unrecorded]

theorem reaches_resting {access : AccessPc Body} (reading : access = .outside ∨ access = .label)
    (alone : SharedList.Alone ⟨ui, .idle, access⟩ statement)
    (taken : step ⟨⟨ui, .idle, access⟩, history⟩ statement = some after) : Reaches ⟨ui, history⟩ after := by
  obtain ⟨s, moved, rfl⟩ := Option.map_eq_some_iff.mp taken
  cases statement with
  | receive payload =>
      cases payload with
      | none =>
          cases moved
          exact .inl (.resting ui history access reading)
      | some body =>
          cases moved
          obtain rfl : access = .outside := alone
          exact .inl (.called ui history body)
  | receiving => cases moved
  | drawCard =>
      rcases reading with rfl | rfl
      · simp only [SharedList.step] at moved
        split at moved
        next next displayCardLen pc =>
          split at moved
          next =>
            cases moved
            exact .inl (.resting ui history .label (.inr rfl))
          next => exact reaches_ui moved rfl
        next => cases moved
      · cases moved
  | labelCard =>
      rcases reading with rfl | rfl
      · cases moved
      · exact reaches_ui moved rfl
  | dismissHandler =>
      rcases reading with rfl | rfl
      · simp only [SharedList.step, SharedList.dismissNotification] at moved
        cases pc : ui.pc with
        | dismissing absIdx card =>
            simp only [pc, Option.some.injEq] at moved
            subst moved
            split
            next outside =>
              have same : ui.list.dismissNotification absIdx = some ui.list := if_pos outside
              refine .inr ⟨.dismissHandler, ⟨{ ui with pc := .invalidating }, _⟩, ?_,
                .resting _ _ .outside (.inl rfl)⟩
              simp [Recorded.step, NotificationUi.step, pc, same, record]
            next inside => exact .inl (.closing ui history absIdx card pc (Nat.not_le.mp inside))
        | idle | drawing | invalidating => simp [pc] at moved
      · cases moved
  | dismissing => rcases reading with rfl | rfl <;> cases moved
  | drawPage | cardKey | clickDismiss | invalidate | deleteUi =>
      rcases reading with rfl | rfl
      · exact reaches_ui moved rfl
      · cases moved

theorem own_statement {receive : ReceivePc Body} {s : SharedList Body} (busy : receive ≠ .idle)
    (alone : SharedList.Alone ⟨ui, receive, .outside⟩ statement)
    (moved : SharedList.step ⟨ui, receive, .outside⟩ statement = some s) :
    (statement = .receiving ∧ SharedList.receiveNotification ⟨ui, receive, .outside⟩ = some s) ∨
      ∃ action, NotificationUi.isOwn action = true ∧ record ⟨ui, receive, .outside⟩ history statement = history ∧
        SharedList.uiStep ⟨ui, receive, .outside⟩ action = some s := by
  cases statement with
  | receive payload => cases receive with
    | idle => exact absurd rfl busy
    | test | moveDown | countDown | copyIn | countUp => cases payload <;> cases moved
  | receiving => exact .inl ⟨rfl, moved⟩
  | cardKey position key => exact .inr ⟨.cardKey position key, rfl, rfl, moved⟩
  | clickDismiss position => exact .inr ⟨.clickDismiss position, rfl, rfl, moved⟩
  | deleteUi => exact .inr ⟨.deleteUi, rfl, rfl, moved⟩
  | drawPage | drawCard | dismissHandler | invalidate => exact absurd (alone rfl) busy
  | labelCard | dismissing => cases moved

theorem record_own {action : Action Body} (isOwn : NotificationUi.isOwn action = true) :
    history.record ui action = history := by
  cases action with
  | cardKey | clickDismiss | deleteUi => rfl
  | receive | drawPage | drawCard | dismissHandler | invalidate => cases isOwn

theorem reaches_called {body : Body} (alone : SharedList.Alone ⟨ui, .test body, .outside⟩ statement)
    (taken : step ⟨⟨ui, .test body, .outside⟩, history⟩ statement = some after) : Reaches ⟨ui, history⟩ after := by
  obtain ⟨s, moved, rfl⟩ := Option.map_eq_some_iff.mp taken
  rcases own_statement (by simp) alone moved with ⟨rfl, received⟩ | ⟨action, isOwn, unrecorded, own⟩
  · have rest := (SharedList.receiveNotification_rest received).2.2.1
    cases received
    refine .inl (.receiving ui ui history body _ ?_ rfl rest)
    dsimp only
    split <;> rfl
  · obtain ⟨next, went, rfl⟩ := Option.map_eq_some_iff.mp own
    rw [unrecorded]
    refine .inr ⟨action, ⟨next, history⟩, ?_, .called next history body⟩
    rw [Recorded.step, went, Option.map_some, record_own isOwn]

theorem reaches_receiving {abs : NotificationUi Body} {body : Body} {receive : ReceivePc Body}
    (underWay : receive.isUnderWay = true) (own : abs.onList ui = ui)
    (rest : receive.rest ui = abs.receiveNotification (some body))
    (alone : SharedList.Alone ⟨ui, receive, .outside⟩ statement)
    (taken : step ⟨⟨ui, receive, .outside⟩, history.record abs (.receive (some body))⟩ statement = some after) :
    Reaches ⟨abs, history⟩ after := by
  obtain ⟨s, moved, rfl⟩ := Option.map_eq_some_iff.mp taken
  have busy : receive ≠ .idle := by
    rintro rfl
    cases underWay
  rcases own_statement busy alone moved with ⟨rfl, received⟩ | ⟨action, isOwn, unrecorded, went⟩
  · have unrecorded : record ⟨ui, receive, .outside⟩ (history.record abs (.receive (some body))) .receiving =
        history.record abs (.receive (some body)) := by
      cases receive with
      | idle | test => cases underWay
      | moveDown | countDown | copyIn | countUp => rfl
    rw [unrecorded]
    obtain ⟨after, pc, access⟩ := s
    obtain ⟨outside, kept, left, ended⟩ := SharedList.receiveNotification_rest received
    dsimp only at outside kept left ended
    subst outside
    have left : pc.rest after = abs.receiveNotification (some body) := left.trans rest
    rcases ended with rfl | onWay
    · -- the last statement: the arrival is complete
      refine .inr ⟨.receive (some body), ⟨after, _⟩, ?_, .resting after _ .outside (.inl rfl)⟩
      rw [Recorded.step, NotificationUi.step, ← left]
      rfl
    · have own : abs.onList after = after := by
        rw [← own] at kept
        exact kept
      exact .inl (.receiving after abs history body pc onWay own left)
  · obtain ⟨next, stepped, rfl⟩ := Option.map_eq_some_iff.mp went
    rw [unrecorded]
    dsimp only at stepped
    rw [← own] at stepped
    obtain ⟨absNext, goes, rfl, still⟩ := NotificationUi.step_onList isOwn stepped
    have same : history.record absNext (.receive (some body)) = history.record abs (.receive (some body)) := by
      rw [← still]
      rfl
    refine .inr ⟨action, ⟨absNext, history⟩, ?_, ?_⟩
    · rw [Recorded.step, goes, Option.map_some, record_own isOwn]
    · rw [← same]
      refine .receiving _ absNext history body receive underWay rfl ?_
      rw [ReceivePc.rest_onList, rest, ← NotificationUi.receiveNotification_onList, still]

theorem reaches_closing {abs : NotificationUi Body} {absIdx : Nat} {card : Card Body}
    (pc : abs.pc = .dismissing absIdx card) (inside : absIdx < abs.list.total)
    (alone : SharedList.Alone ⟨abs, .idle, .closeGap abs.list.contents⟩ statement)
    (taken : step ⟨⟨abs, .idle, .closeGap abs.list.contents⟩, history.record abs .dismissHandler⟩ statement =
      some after) : Reaches ⟨abs, history⟩ after := by
  obtain ⟨s, moved, rfl⟩ := Option.map_eq_some_iff.mp taken
  cases statement with
  | receive payload =>
      cases payload with
      | none =>
          cases moved
          exact .inl (.closing abs history absIdx card pc inside)
      | some body => cases alone
  | dismissing =>
      simp only [SharedList.step, SharedList.dismissNotification, pc] at moved
      obtain ⟨list, closed, rfl⟩ := Option.map_eq_some_iff.mp moved
      rw [← pc]
      exact .inl (.counting abs history list absIdx card pc inside closed)
  | receiving | drawPage | drawCard | labelCard | cardKey | clickDismiss | dismissHandler | invalidate
  | deleteUi => cases moved

theorem reaches_counting {abs : NotificationUi Body} {list : NotificationList Body} {absIdx : Nat}
    {card : Card Body} (pc : abs.pc = .dismissing absIdx card) (inside : absIdx < abs.list.total)
    (closed : abs.list.closeGap absIdx = some list)
    (alone : SharedList.Alone ⟨{ abs with list }, .idle, .countDown abs.list.contents⟩ statement)
    (taken : step ⟨⟨{ abs with list }, .idle, .countDown abs.list.contents⟩, history.record abs .dismissHandler⟩
      statement = some after) : Reaches ⟨abs, history⟩ after := by
  obtain ⟨s, moved, rfl⟩ := Option.map_eq_some_iff.mp taken
  cases statement with
  | receive payload =>
      cases payload with
      | none =>
          cases moved
          exact .inl (.counting abs history list absIdx card pc inside closed)
      | some body => cases alone
  | dismissing =>
      simp only [SharedList.step, SharedList.dismissNotification, pc, Option.some.injEq] at moved
      subst moved
      have whole : abs.list.dismissNotification absIdx = some list.countDown := by
        rw [NotificationList.dismissNotification, if_neg (Nat.not_le.mpr inside), closed, Option.map_some]
      refine .inr ⟨.dismissHandler, ⟨{ abs with list := list.countDown, pc := .invalidating }, _⟩, ?_,
        .resting _ _ .outside (.inl rfl)⟩
      simp [Recorded.step, NotificationUi.step, pc, whole, record]
  | receiving | drawPage | drawCard | labelCard | cardKey | clickDismiss | dismissHandler | invalidate
  | deleteUi => cases moved

theorem Follows.step {state : Logged Body} {abs : Recorded Body} (follows : Follows state abs)
    (alone : state.Alone statement) (taken : step state statement = some after) : Reaches abs after := by
  cases follows with
  | resting ui history access reading => exact reaches_resting reading alone taken
  | called ui history body => exact reaches_called alone taken
  | receiving ui abs history body receive underWay own rest => exact reaches_receiving underWay own rest alone taken
  | closing abs history absIdx card pc inside => exact reaches_closing pc inside alone taken
  | counting abs history list absIdx card pc inside closed => exact reaches_counting pc inside closed alone taken

end Step

/-- Without an overlap the two tasks make the steps of the atomic model. -/
theorem follows_of_reach {state : Logged Body} (reached : Reach step Initial Alone state) :
    ∃ abs, Reach Recorded.step Recorded.Initial Unguarded abs ∧ Follows state abs := by
  induction reached with
  | @start state initial =>
      obtain ⟨⟨ui, receive, access⟩, history⟩ := state
      obtain ⟨⟨start, rfl, rfl⟩, rfl⟩ := initial
      exact ⟨⟨ui, ⟨[], [], []⟩⟩, .start ⟨start, rfl⟩, .resting _ _ _ (.inl rfl)⟩
  | next _ alone taken ih =>
      obtain ⟨abs, before, follows⟩ := ih
      rcases follows.step alone taken with still | ⟨action, next, moved, follows⟩
      · exact ⟨abs, before, still⟩
      · exact ⟨next, .next before trivial moved, follows⟩

theorem logged_of_reach {s : SharedList Body}
    (reached : Reach SharedList.step SharedList.Initial SharedList.Alone s) :
    ∃ history, Reach step Initial Alone ⟨s, history⟩ := by
  induction reached with
  | start initial => exact ⟨⟨[], [], []⟩, .start ⟨initial, rfl⟩⟩
  | @next s after statement _ alone taken ih =>
      obtain ⟨history, before⟩ := ih
      refine ⟨record s history statement, .next before alone ?_⟩
      rw [step, taken, Option.map_some]

structure Valid (state : Logged Body) : Prop where
  settled : state.shared.receive = .idle → state.shared.access = .outside ∨ state.shared.access = .label →
    Recorded.Valid ⟨state.shared.ui, state.history⟩
  window : state.shared.ui.pc.showsCards = true →
    NotificationUi.Within state.shared.ui.notiCurrBaseIdx state.shared.ui.notiSnapshotLen
  page : state.shared.ui.pc = .idle → state.shared.ui.isOpen = true →
    state.shared.ui.cards.length = visibleCards ∨
      state.shared.ui.notiCurrBaseIdx = 0 ∧ state.shared.ui.cards.length = state.shared.ui.notiSnapshotLen

theorem valid_of_reach {state : Logged Body} (reached : Reach step Initial Alone state) : state.Valid := by
  obtain ⟨abs, atomic, follows⟩ := follows_of_reach reached
  have valid := Recorded.valid_atomic atomic
  cases follows with
  | resting ui history access reading => exact ⟨fun _ _ => valid, valid.window, valid.page⟩
  | called ui history body => exact ⟨fun idle => absurd idle (by simp), valid.window, valid.page⟩
  | receiving ui abs history body receive underWay own rest =>
      refine ⟨?_, ?_, ?_⟩
      · rintro rfl
        cases underWay
      · rw [← own]
        exact valid.window
      · rw [← own]
        exact valid.page
  | closing abs history absIdx card pc inside =>
      exact ⟨fun _ outside => absurd outside (by simp), valid.window, valid.page⟩
  | counting abs history list absIdx card pc inside closed =>
      exact ⟨fun _ outside => absurd outside (by simp), valid.window, valid.page⟩

end Logged

namespace SharedList

variable {s after : SharedList Body}

/-- The list as `notification_manager_dismiss_notification` was called with it. -/
def found (s : SharedList Body) : List (Notification Body) :=
  match s.access with
  | .closeGap before | .countDown before => before
  | .outside | .label => s.ui.list.contents

theorem only_dismissal {statement : Statement Body} {absIdx : Nat} {card : Card Body}
    (clicked : s.ui.pc = .dismissing absIdx card) (taken : step s statement = some after) :
    statement = .dismissHandler ∨ statement = .dismissing ∨ after.ui.pc = s.ui.pc := by
  have idles {action : Action Body} (others : ∀ payload, action ≠ .receive payload)
      (other : action ≠ .dismissHandler) : s.uiStep action = none := by
    unfold uiStep
    cases action with
    | receive payload => exact absurd rfl (others payload)
    | dismissHandler => exact absurd rfl other
    | drawPage | drawCard | cardKey | clickDismiss | invalidate | deleteUi => simp [NotificationUi.step, clicked]
  cases statement with
  | dismissHandler => exact .inl rfl
  | dismissing => exact .inr (.inl rfl)
  | receive payload =>
      refine .inr (.inr ?_)
      cases pc : s.receive with
      | idle => cases payload <;> simp only [step, pc, Option.some.injEq] at taken <;> rw [← taken]
      | test | moveDown | countDown | copyIn | countUp => cases payload <;> simp [step, pc] at taken
  | receiving =>
      have kept := (receiveNotification_rest taken).2.1
      exact .inr (.inr (by rw [← kept]; rfl))
  | drawPage | drawCard | labelCard | cardKey | clickDismiss | invalidate | deleteUi =>
      cases access : s.access <;> simp [step, access, clicked, idles] at taken

/-- A call of the handler that returns removes exactly what its card shows if and only if no arrival has
found the list full since the card was drawn. -/
theorem dismiss_removes_shown_iff {statement : Statement Body} {absIdx : Nat} {card : Card Body}
    (reached : Reach step Initial Alone s) (clicked : s.ui.pc = .dismissing absIdx card)
    (alone : s.Alone statement) (taken : step s statement = some after)
    (returned : after.ui.pc = .invalidating) :
    NotificationUi.Removes s.found card.shown after.ui.list.contents ↔ card.drawnAt = s.ui.shifts := by
  obtain ⟨history, logged⟩ := Logged.logged_of_reach reached
  obtain ⟨abs, atomic, follows⟩ := Logged.follows_of_reach logged
  have atomic := Recorded.ui_reach atomic
  have unmoved (same : after.ui.pc = s.ui.pc) : False := by
    rw [same, clicked] at returned
    cases returned
  rcases only_dismissal clicked taken with rfl | rfl | same
  · have idle : s.receive = .idle := alone rfl
    cases follows with
    | resting ui _ access reading =>
        obtain rfl | rfl := reading
        · have pc : ui.pc = .dismissing absIdx card := clicked
          -- the index is never out of the list
          obtain ⟨_, current, there, _⟩ := (NotificationUi.sound_of_reach atomic).clicked absIdx card pc
          have inside := (List.getElem?_eq_some_iff.mp there).1
          rw [NotificationList.contents_length] at inside
          simp only [step, dismissNotification, pc, Option.some.injEq, if_neg (Nat.not_le.mpr inside)] at taken
          subst taken
          exact (unmoved rfl).elim
        · cases taken
    | called => cases idle
    | receiving ui abs _ body receive underWay =>
        obtain rfl : receive = .idle := idle
        cases underWay
    | closing | counting => cases taken
  · cases follows with
    | resting ui _ access reading => rcases reading with rfl | rfl <;> cases taken
    | called | receiving => cases taken
    | closing abs history index shown pc inside =>
        simp only [step, dismissNotification, pc] at taken
        obtain ⟨list, _, rfl⟩ := Option.map_eq_some_iff.mp taken
        exact (unmoved pc.symm).elim
    | counting abs history list index shown pc inside closed =>
        obtain ⟨rfl, rfl⟩ := UiPc.dismissing.inj (pc.symm.trans clicked)
        simp only [step, dismissNotification, pc, Option.some.injEq] at taken
        subst taken
        have whole : abs.list.dismissNotification index = some list.countDown := by
          rw [NotificationList.dismissNotification, if_neg (Nat.not_le.mpr inside), closed, Option.map_some]
        have stepped : NotificationUi.step abs .dismissHandler =
            some { abs with list := list.countDown, pc := .invalidating } := by
          simp [NotificationUi.step, pc, whole]
        exact NotificationUi.removes_shown_iff atomic pc stepped
  · exact (unmoved same).elim

instance [DecidableEq Body] (s : SharedList Body) (statement : Statement Body) : Decidable (s.Alone statement) := by
  unfold Alone
  split <;> infer_instance

def powered : SharedList Nat where
  ui :=
    { list := ⟨List.replicate maxNotifications ⟨0, 0⟩, 0, rfl, Nat.zero_le _⟩
      arrivals := 0
      shifts := 0
      isOpen := false
      notiSnapshotLen := 0
      notiCurrBaseIdx := 0
      cards := []
      pc := .idle }
  receive := .idle
  access := .outside

theorem powered_initial : powered.Initial := ⟨⟨rfl, rfl, rfl, rfl, rfl, rfl, rfl, rfl⟩, rfl, rfl⟩

def arrival (full : Bool) (body : Nat) : List (Statement Nat) :=
  .receive (some body) :: List.replicate (if full then 5 else 3) .receiving

/-- The list is filled with `count` notifications, 0 on. -/
def incoming (count : Nat) : List (Statement Nat) := (List.range count).flatMap (arrival false)

def drawCards (count : Nat) : List (Statement Nat) :=
  (List.replicate count [.drawCard, .labelCard]).flatten ++ [.drawCard]

def scrolled : List (Statement Nat) :=
  incoming 5 ++ [.drawPage] ++ drawCards 3 ++ [.cardKey 2 .right] ++ arrival false 5 ++ drawCards 3 ++
    [.clickDismiss 2, .dismissHandler, .dismissing]

theorem dismiss_removes_shown_scrolled :
    ∃ s after : SharedList Nat, ∃ card, s.ui.pc = .dismissing 3 card ∧ card.shown = ⟨3, 3⟩ ∧
      step s .dismissing = some after ∧ NotificationUi.Removes s.found card.shown after.ui.list.contents := by
  have ran : ((run step powered scrolled).map fun s =>
      (s.ui.pc, s.ui.shifts, s.receive, decide (s.access = .countDown s.found))) =
      some (.dismissing 3 ⟨2, ⟨3, 3⟩, 0⟩, 0, .idle, true) := by decide +kernel
  obtain ⟨s, taken, seen⟩ := Option.map_eq_some_iff.mp ran
  simp only [Prod.mk.injEq, decide_eq_true_eq] at seen
  obtain ⟨clicked, shifts, idle, access⟩ := seen
  have guarded : Guarded step Alone powered scrolled := by decide +kernel
  have reached := (Reach.start powered_initial).of_run guarded taken
  have returns : step s .dismissing =
      some { s with ui := { s.ui.countDown with pc := .invalidating }, access := .outside } := by
    unfold step dismissNotification
    rw [access, clicked]
  exact ⟨s, _, _, clicked, rfl, returns,
    (dismiss_removes_shown_iff reached clicked (show s.Alone .dismissing from fun _ => idle) returns rfl).mpr shifts.symm⟩

def shiftedPage : List (Statement Nat) :=
  incoming 20 ++ [.drawPage] ++ drawCards 3 ++ arrival true 20 ++ [.clickDismiss 0, .dismissHandler, .dismissing]

theorem dismiss_removes_other :
    ∃ s after : SharedList Nat, ∃ card, Reach step Initial Unguarded s ∧ s.ui.pc = .dismissing 0 card ∧
      card.shown = ⟨0, 0⟩ ∧ s.found[0]? = some ⟨1, 1⟩ ∧ step s .dismissing = some after ∧
      after.ui.pc = .invalidating ∧ after.ui.list.contents = s.found.tail ∧
      ¬ NotificationUi.Removes s.found card.shown after.ui.list.contents := by
  have ran : ((run step powered shiftedPage).map fun s =>
      (s.ui.pc, s.found[0]?, decide (⟨0, 0⟩ ∈ s.found), decide (s.access = .countDown s.found),
        decide (s.ui.countDown.list.contents = s.found.tail))) =
      some (.dismissing 0 ⟨0, ⟨0, 0⟩, 0⟩, some ⟨1, 1⟩, false, true, true) := by decide +kernel
  obtain ⟨s, taken, seen⟩ := Option.map_eq_some_iff.mp ran
  simp only [Prod.mk.injEq, decide_eq_true_eq, decide_eq_false_iff_not] at seen
  obtain ⟨clicked, first, gone, access, contents⟩ := seen
  have reached := (Reach.start powered_initial).of_run (guarded_unguarded step powered shiftedPage) taken
  refine ⟨s, { s with ui := { s.ui.countDown with pc := .invalidating }, access := .outside }, _, reached, clicked,
    rfl, first, ?_, rfl, contents, ?_⟩
  · unfold step dismissNotification
    rw [access, clicked]
  · rintro ⟨i, shown, _⟩
    exact gone (List.mem_of_getElem? shown)

/-- The whole dismissal falls between the copy of a new notification and its count. -/
def overlapped : List (Statement Nat) :=
  incoming 2 ++ [.drawPage] ++ drawCards 2 ++ [.receive (some 2), .receiving, .receiving, .clickDismiss 0,
    .dismissHandler, .dismissing, .dismissing, .receiving]

/-- The list holds a notification twice then, and the new one is lost. -/
theorem overlapped_loses :
    (run step powered overlapped).map (fun s => s.ui.list.contents) = some [⟨1, 1⟩, ⟨1, 1⟩] := by
  decide +kernel

end SharedList

namespace Logged

open SharedList (arrival incoming drawCards)

def powered : Logged Nat := ⟨SharedList.powered, ⟨[], [], []⟩⟩

def dismissal (position : Nat) : List (Statement Nat) :=
  [.clickDismiss position, .dismissHandler, .dismissing, .dismissing]

def crowded : List (Statement Nat) :=
  incoming 20 ++ arrival true 20 ++ [.drawPage] ++ drawCards 3 ++ dismissal 2 ++ [.invalidate] ++ drawCards 3 ++
    arrival false 21 ++ dismissal 2

instance [DecidableEq Body] (state : Logged Body) (statement : Statement Body) : Decidable (state.Alone statement) :=
  inferInstanceAs (Decidable (state.shared.Alone statement))

theorem crowded_reached {state : Logged Nat} (taken : run step powered crowded = some state) :
    Reach step Initial Alone state :=
  (Reach.start ⟨SharedList.powered_initial, rfl⟩).of_run (by decide +kernel) taken

theorem valid_of_reach_crowded :
    ∃ state : Logged Nat, run step powered crowded = some state ∧ state.history.dismissed = [3, 4] ∧ state.Valid := by
  have ran : ((run step powered crowded).map fun state => state.history.dismissed) = some [3, 4] := by decide +kernel
  obtain ⟨state, taken, dismissed⟩ := Option.map_eq_some_iff.mp ran
  exact ⟨state, taken, dismissed, valid_of_reach (crowded_reached taken)⟩

/-- Neither the last arrivals without the dismissed ones nor the last of the undismissed arrivals. -/
theorem crowded_not_last :
    ¬ ∀ state : Logged Nat, Reach step Initial Alone state →
      state.shared.ui.list.contents = state.history.undismissed (History.lastOf state.history.arrived) ∨
        state.shared.ui.list.contents = History.lastOf (state.history.undismissed state.history.arrived) := by
  intro last
  have ran : ((run step powered crowded).map fun state =>
      decide (state.shared.ui.list.contents = state.history.undismissed (History.lastOf state.history.arrived) ∨
        state.shared.ui.list.contents = History.lastOf (state.history.undismissed state.history.arrived))) =
      some false := by
    decide +kernel
  obtain ⟨state, taken, differs⟩ := Option.map_eq_some_iff.mp ran
  exact of_decide_eq_false differs (last state (crowded_reached taken))

end Logged

end WatchFirmware.NotificationManager
