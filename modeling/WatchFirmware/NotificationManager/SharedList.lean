import WatchFirmware.NotificationManager.NotificationUi

set_option autoImplicit false

namespace WatchFirmware.NotificationManager

open Transition

variable {Body : Type}

/-- The next statement of `receive_notification`, in the task that publishes the event. -/
inductive ReceivePc (Body : Type) where
  | idle
  | test (body : Body)
  | moveDown (body : Body)
  | countDown (body : Body)
  | copyIn (body : Body)
  | countUp
  deriving DecidableEq

-- Where the UI task stands in the reads of one card, or in notification_manager_dismiss_notification;
-- the list as the handler found it is kept for the statements only.
inductive AccessPc (Body : Type) where
  | outside
  | label
  | closeGap (before : List (Notification Body))
  | countDown (before : List (Notification Body))
  deriving DecidableEq

namespace NotificationUi

def moveDown (ui : NotificationUi Body) : Option (NotificationUi Body) :=
  (ui.list.moveDown 0 (maxNotifications - 1)).map fun list => { ui with list, shifts := ui.shifts + 1 }

def countDown (ui : NotificationUi Body) : NotificationUi Body := { ui with list := ui.list.countDown }

def copyIn (ui : NotificationUi Body) (body : Body) : Option (NotificationUi Body) :=
  (ui.list.copyIn ⟨ui.arrivals, body⟩).map fun list => { ui with list }

def countUp (ui : NotificationUi Body) : Option (NotificationUi Body) :=
  ui.list.countUp.map fun list => { ui with list, arrivals := ui.arrivals + 1 }

end NotificationUi

/-- The list between two tasks: no lock is taken in `notification_manager.c`. -/
structure SharedList (Body : Type) where
  ui : NotificationUi Body
  receive : ReceivePc Body
  access : AccessPc Body

inductive Statement (Body : Type) where
  | receive (payload : Option Body)
  | receiving
  | drawPage
  | drawCard
  | labelCard
  | cardKey (position : Nat) (key : Key)
  | clickDismiss (position : Nat)
  | dismissHandler
  | dismissing
  | invalidate
  | deleteUi

def Statement.accesses : Statement Body → Bool
  | .drawPage | .drawCard | .labelCard | .dismissHandler | .dismissing | .invalidate => true
  | .receive _ | .receiving | .cardKey _ _ | .clickDismiss _ | .deleteUi => false

namespace SharedList

/-- The next statement of `receive_notification`. -/
def receiveNotification (s : SharedList Body) : Option (SharedList Body) :=
  match s.receive with
  | .idle => none
  | .test body =>
      some { s with receive := if s.ui.list.total = maxNotifications then .moveDown body else .copyIn body }
  | .moveDown body => s.ui.moveDown.map fun ui => { s with ui, receive := .countDown body }
  | .countDown body => some { s with ui := s.ui.countDown, receive := .copyIn body }
  | .copyIn body => (s.ui.copyIn body).map fun ui => { s with ui, receive := .countUp }
  | .countUp => s.ui.countUp.map fun ui => { s with ui, receive := .idle }

/-- The next statement of `notification_manager_dismiss_notification`, from the check on. -/
def dismissNotification (s : SharedList Body) : Option (SharedList Body) :=
  match s.ui.pc, s.access with
  | .dismissing absIdx _, .outside =>
      some (if s.ui.list.total ≤ absIdx then { s with ui := { s.ui with pc := .invalidating } }
        else { s with access := .closeGap s.ui.list.contents })
  | .dismissing absIdx _, .closeGap before =>
      (s.ui.list.closeGap absIdx).map fun list =>
        { s with ui := { s.ui with list }, access := .countDown before }
  | .dismissing _ _, .countDown _ =>
      some { s with ui := { s.ui.countDown with pc := .invalidating }, access := .outside }
  | _, _ => none

def uiStep (s : SharedList Body) (action : Action Body) : Option (SharedList Body) :=
  (NotificationUi.step s.ui action).map fun ui => { s with ui, access := .outside }

def step : Step (SharedList Body) (Statement Body) := fun s statement =>
  match statement, s.access with
  | .receive payload, _ =>
      match s.receive, payload with
      | .idle, some body => some { s with receive := .test body }
      | .idle, none => some s
      | _, _ => none
  | .receiving, _ => s.receiveNotification
  | .drawPage, .outside => s.uiStep .drawPage
  | .drawCard, .outside =>
      match s.ui.pc with
      | .drawing next displayCardLen =>
          if next < displayCardLen then some { s with access := .label } else s.uiStep .drawCard
      | _ => none
  | .labelCard, .label => s.uiStep .drawCard
  | .cardKey position key, .outside => s.uiStep (.cardKey position key)
  | .clickDismiss position, .outside => s.uiStep (.clickDismiss position)
  | .dismissHandler, .outside => s.dismissNotification
  | .dismissing, .closeGap _ | .dismissing, .countDown _ => s.dismissNotification
  | .invalidate, .outside => s.uiStep .invalidate
  | .deleteUi, .outside => s.uiStep .deleteUi
  | _, _ => none

/-- No statement of `receive_notification` falls into an access of the UI task, nor the other way round. -/
def Alone (s : SharedList Body) : Statement Body → Prop
  | .receiving | .receive (some _) => s.access = .outside
  | statement => Statement.accesses statement = true → s.receive = .idle

structure Initial (s : SharedList Body) : Prop where
  ui : s.ui.Initial
  receive : s.receive = .idle
  access : s.access = .outside

end SharedList

end WatchFirmware.NotificationManager
