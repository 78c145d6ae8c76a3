import WatchFirmware.NotificationManager.NotificationManager
import WatchFirmware.Shared.Transition

set_option autoImplicit false

namespace WatchFirmware.NotificationManager

open Transition

abbrev visibleCards : Nat := 3

structure Card (Body : Type) where
  idx : Nat
  shown : Notification Body
  -- how often a full list had been shifted when the labels were set
  drawnAt : Nat
  deriving DecidableEq

/-- Where the UI task is. It runs one callback at a time; arrivals come in between from another task. -/
inductive UiPc (Body : Type) where
  | idle
  | drawing (next displayCardLen : Nat)
  | dismissing (absIdx : Nat) (card : Card Body)
  | invalidating
  deriving DecidableEq

structure NotificationUi (Body : Type) where
  list : NotificationList Body
  -- counted for the statements only: all arrivals, and those that found the list full
  arrivals : Nat
  shifts : Nat
  -- `scroll_container` is not NULL
  isOpen : Bool
  notiSnapshotLen : Nat
  notiCurrBaseIdx : Nat
  cards : List (Card Body)
  pc : UiPc Body

inductive Key where
  | left
  | right

inductive Action (Body : Type) where
  -- `none` is an event of the wrong size or without data
  | receive (payload : Option Body)
  | drawPage
  | drawCard
  | cardKey (position : Nat) (key : Key)
  | clickDismiss (position : Nat)
  | dismissHandler
  | invalidate
  | deleteUi

namespace NotificationUi

variable {Body : Type}

/-- `populate_cards` up to its loop, the container being empty. -/
def populateCards (ui : NotificationUi Body) : NotificationUi Body :=
  { ui with
    cards := []
    pc := .drawing ui.notiCurrBaseIdx
      (if ui.notiSnapshotLen < ui.notiCurrBaseIdx + visibleCards then ui.notiSnapshotLen
        else visibleCards + ui.notiCurrBaseIdx) }

def retrieveAll (ui : NotificationUi Body) : NotificationUi Body :=
  { ui with notiSnapshotLen := ui.list.total }

def receiveNotification (ui : NotificationUi Body) (payload : Option Body) : Option (NotificationUi Body) :=
  match payload with
  | none => some ui
  | some body =>
      (ui.list.receiveNotification ⟨ui.arrivals, body⟩).map fun list =>
        { ui with
          list
          arrivals := ui.arrivals + 1
          shifts := if ui.list.total = maxNotifications then ui.shifts + 1 else ui.shifts }

/-- One round of the loop of `populate_cards`. -/
def drawCard (ui : NotificationUi Body) (next displayCardLen : Nat) : Option (NotificationUi Body) :=
  if next < displayCardLen then
    ui.list.cells[next]?.map fun data =>
      { ui with
        cards := ui.cards ++ [⟨next - ui.notiCurrBaseIdx, data, ui.shifts⟩]
        pc := .drawing (next + 1) displayCardLen }
  else some { ui with pc := .idle }

-- The snapshot is not taken again: the length is the old one, the entries are those of the list.
def rebaseAndPopulateCards (ui : NotificationUi Body) (idx : Nat) : NotificationUi Body :=
  if idx = 0 then
    if ui.notiCurrBaseIdx = 0 then ui
    else populateCards { ui with notiCurrBaseIdx := ui.notiCurrBaseIdx - 1 }
  else if idx = visibleCards - 1 then
    if ui.notiSnapshotLen ≤ idx + ui.notiCurrBaseIdx + 1 then ui
    else populateCards { ui with notiCurrBaseIdx := ui.notiCurrBaseIdx + 1 }
  else ui.populateCards

def cardActionCb (ui : NotificationUi Body) (card : Card Body) : Key → NotificationUi Body
  | .right => if card.idx = visibleCards - 1 then ui.rebaseAndPopulateCards card.idx else ui
  | .left => if card.idx = 0 then ui.rebaseAndPopulateCards card.idx else ui

/-- `dismiss_handler_cb` up to the call of the handler. -/
def dismissHandlerCb (ui : NotificationUi Body) (card : Card Body) : NotificationUi Body :=
  let base :=
    if ui.notiSnapshotLen ≤ ui.notiCurrBaseIdx + visibleCards then
      if ui.notiCurrBaseIdx ≠ 0 then ui.notiCurrBaseIdx - 1 else ui.notiCurrBaseIdx
    else ui.notiCurrBaseIdx
  { ui with
    notiCurrBaseIdx := if ui.notiSnapshotLen ≤ visibleCards then 0 else base
    pc := .dismissing (card.idx + ui.notiCurrBaseIdx) card }

def step : Step (NotificationUi Body) (Action Body) := fun ui action =>
  match action, ui.pc with
  | .receive payload, _ => ui.receiveNotification payload
  | .drawPage, .idle =>
      if ui.isOpen then none else some { ui.retrieveAll.populateCards with isOpen := true }
  | .drawCard, .drawing next displayCardLen => ui.drawCard next displayCardLen
  | .cardKey position key, .idle => ui.cards[position]?.map fun card => ui.cardActionCb card key
  | .clickDismiss position, .idle => ui.cards[position]?.map fun card => ui.dismissHandlerCb card
  | .dismissHandler, .dismissing absIdx _ =>
      (ui.list.dismissNotification absIdx).map fun list => { ui with list, pc := .invalidating }
  | .invalidate, .invalidating =>
      some (if ui.isOpen then ui.retrieveAll.populateCards else { ui with pc := .idle })
  | .deleteUi, .idle => some { ui with isOpen := false, cards := [] }
  | _, _ => none

inductive Moved (ui : NotificationUi Body) : Action Body → NotificationUi Body → Prop
  | receive {payload : Option Body} {after : NotificationUi Body}
      (taken : ui.receiveNotification payload = some after) : Moved ui (.receive payload) after
  | drawPage (pc : ui.pc = .idle) (shut : ui.isOpen = false) :
      Moved ui .drawPage { ui.retrieveAll.populateCards with isOpen := true }
  | drawCard {next displayCardLen : Nat} {after : NotificationUi Body} (pc : ui.pc = .drawing next displayCardLen)
      (taken : ui.drawCard next displayCardLen = some after) : Moved ui .drawCard after
  | cardKey {position : Nat} {key : Key} {card : Card Body} (pc : ui.pc = .idle)
      (there : ui.cards[position]? = some card) : Moved ui (.cardKey position key) (ui.cardActionCb card key)
  | clickDismiss {position : Nat} {card : Card Body} (pc : ui.pc = .idle)
      (there : ui.cards[position]? = some card) : Moved ui (.clickDismiss position) (ui.dismissHandlerCb card)
  | dismissHandler {absIdx : Nat} {card : Card Body} {list : NotificationList Body}
      (pc : ui.pc = .dismissing absIdx card) (contents : list.contents = ui.list.contents.eraseIdx absIdx) :
      Moved ui .dismissHandler { ui with list, pc := .invalidating }
  | invalidate (pc : ui.pc = .invalidating) (isOpen : ui.isOpen = true) :
      Moved ui .invalidate ui.retrieveAll.populateCards
  | invalidateShut (pc : ui.pc = .invalidating) (shut : ui.isOpen = false) :
      Moved ui .invalidate { ui with pc := .idle }
  | deleteUi (pc : ui.pc = .idle) : Moved ui .deleteUi { ui with isOpen := false, cards := [], pc := .idle }

theorem step_moved {ui after : NotificationUi Body} {action : Action Body} (taken : step ui action = some after) :
    Moved ui action after := by
  cases action with
  | receive payload => exact .receive (by simpa only [step] using taken)
  | drawPage =>
      cases pc : ui.pc with
      | idle =>
          simp only [step, pc] at taken
          split at taken
          next => cases taken
          next shut =>
            cases taken
            exact .drawPage pc (by simpa using shut)
      | drawing | dismissing | invalidating => simp [step, pc] at taken
  | drawCard =>
      cases pc : ui.pc with
      | drawing next displayCardLen =>
          simp only [step, pc] at taken
          exact .drawCard pc taken
      | idle | dismissing | invalidating => simp [step, pc] at taken
  | cardKey position key =>
      cases pc : ui.pc with
      | idle =>
          simp only [step, pc] at taken
          obtain ⟨card, there, rfl⟩ := Option.map_eq_some_iff.mp taken
          exact .cardKey pc there
      | drawing | dismissing | invalidating => simp [step, pc] at taken
  | clickDismiss position =>
      cases pc : ui.pc with
      | idle =>
          simp only [step, pc] at taken
          obtain ⟨card, there, rfl⟩ := Option.map_eq_some_iff.mp taken
          exact .clickDismiss pc there
      | drawing | dismissing | invalidating => simp [step, pc] at taken
  | dismissHandler =>
      cases pc : ui.pc with
      | dismissing absIdx card =>
          simp only [step, pc] at taken
          obtain ⟨list, dismissed, rfl⟩ := Option.map_eq_some_iff.mp taken
          obtain ⟨other, removed, contents⟩ := ui.list.dismissNotification_contents absIdx
          obtain rfl : list = other := Option.some.inj (dismissed.symm.trans removed)
          exact .dismissHandler pc contents
      | idle | drawing | invalidating => simp [step, pc] at taken
  | invalidate =>
      cases pc : ui.pc with
      | invalidating =>
          simp only [step, pc, Option.some.injEq] at taken
          subst taken
          split
          next isOpen => exact .invalidate pc isOpen
          next shut => exact .invalidateShut pc (by simpa using shut)
      | idle | drawing | dismissing => simp [step, pc] at taken
  | deleteUi =>
      cases pc : ui.pc with
      | idle =>
          simp only [step, pc, Option.some.injEq] at taken
          subst taken
          exact .deleteUi pc
      | drawing | dismissing | invalidating => simp [step, pc] at taken

/-- After `notification_manager_init`; no page has been drawn yet. -/
structure Initial (ui : NotificationUi Body) : Prop where
  list : ui.list.total = 0
  arrivals : ui.arrivals = 0
  shifts : ui.shifts = 0
  isOpen : ui.isOpen = false
  notiSnapshotLen : ui.notiSnapshotLen = 0
  notiCurrBaseIdx : ui.notiCurrBaseIdx = 0
  cards : ui.cards = []
  pc : ui.pc = .idle

end NotificationUi

end WatchFirmware.NotificationManager
