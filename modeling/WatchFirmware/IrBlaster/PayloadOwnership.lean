import WatchFirmware.IrBlaster.IrDriver
import WatchFirmware.Shared.FaultFree

set_option autoImplicit false

namespace WatchFirmware.IrBlaster

open Transition FaultFree
open Custody (Block Accounted)

variable {Task : Type}

inductive Custodian (Task : Type) where
  | sender (task : Task)
  | queue
  | irTask
  | freed
  deriving DecidableEq

def Send.copy : Send → Option Block
  | xQueueSend _ payloadCopy | free payloadCopy => some payloadCopy
  | idle | initialized _ | irQueue _ | abortFlag _ | malloc _ => none

def IrTask.copy : IrTask → Option Block
  | sendData msg | free msg => msg.payloadData
  | abortFlag | xQueueReceive | xSemaphoreGive | ended | deleted => none

def IrTask.Gone (irTask : IrTask) : Prop := irTask = ended ∨ irTask = deleted

namespace IrDriver

def held (driver : IrDriver Task) : Custodian Task → List Block
  | .sender task => (driver.sends task).copy.toList
  | .queue => (driver.queue.getD []).filterMap Message.payloadData
  | .irTask => driver.irTask.copy.toList
  | .freed => driver.freed

/-- Nothing is freed twice, a call that returned false has freed its copy, and once the driver is down the
copies of the others are freed as well. -/
def Balanced (driver : IrDriver Task) : Prop :=
  (∀ block, driver.freed.count block ≤ 1) ∧
    (∀ block, (some block, false) ∈ driver.results → driver.freed.count block = 1) ∧
    (driver.deinit = .returned → ∀ block, (some block, true) ∈ driver.results → driver.freed.count block = 1)

/-- What the task and the shutdown may rely on at each other's statements. -/
structure Protocol (driver : IrDriver Task) : Prop where
  fresh : driver.deinit = .notCalled → driver.initialized = true
  irQueue : driver.deinit.place ≤ Deinit.clearQueue.place → driver.irQueue = true
  queue : driver.deinit.place ≤ Deinit.deleteQueue.place → driver.queue.isSome
  queueGone : Deinit.deleteQueue.place < driver.deinit.place → driver.queue = none
  exitSem : Deinit.createSem.place < driver.deinit.place → driver.deinit.place < Deinit.returned.place →
    driver.exitSem.isSome
  running : driver.deinit.place ≤ Deinit.createSem.place → driver.abortFlag = false ∧
    (∀ waiting, driver.queue = some waiting → poisonMsg ∉ waiting) ∧
    driver.irTask ≠ .xSemaphoreGive ∧ ¬driver.irTask.Gone
  given : driver.exitSem = some true → driver.irTask.Gone
  ended : Deinit.receiveLeftover.place ≤ driver.deinit.place → driver.irTask.Gone

structure Sound [DecidableEq Task] (driver : IrDriver Task) : Prop where
  protocol : driver.Protocol
  accounted : Accounted driver.held driver.allocated
  accepted : ∀ {block}, (some block, true) ∈ driver.results →
    block < driver.allocated ∧ ∀ task, (driver.sends task).copy ≠ some block
  refused : ∀ {block}, (some block, false) ∈ driver.results → block ∈ driver.freed
  queued : ∀ {block}, block ∈ driver.held .queue ∨ block ∈ driver.held .irTask →
    (some block, true) ∈ driver.results
  emptied : driver.deinit = .deleteQueue → driver.queue = some []

end IrDriver

section Steps

variable {driver : IrDriver Task} {task : Task}

inductive Sent [DecidableEq Task] (driver : IrDriver Task) (task : Task) : IrOutcome Task → Prop where
  | refused (bare : (driver.sends task).copy = none) : Sent driver task (.ok (driver.returns task none false))
  | advanced {send : Send} (bare : (driver.sends task).copy = none) (without : send.copy = none) :
      Sent driver task (.ok (driver.goesOn task send))
  | allocated (data : Message) (bare : (driver.sends task).copy = none) :
      Sent driver task (.ok ({ driver with allocated := driver.allocated + 1 }.goesOn task
        (.xQueueSend data driver.allocated)))
  | enqueued {data : Message} {payloadCopy : Block} {waiting : List Message}
      (current : driver.sends task = .xQueueSend data payloadCopy) (there : driver.queue = some waiting) :
      Sent driver task (.ok ({ driver with
        queue := some (waiting ++ [{ data with payloadData := some payloadCopy }]) }.returns task
          (some payloadCopy) true))
  | full {data : Message} {payloadCopy : Block} {waiting : List Message}
      (current : driver.sends task = .xQueueSend data payloadCopy) (there : driver.queue = some waiting)
      (packed : maxConcurrentIrMessages ≤ waiting.length) :
      Sent driver task (.ok (driver.goesOn task (.free payloadCopy)))
  | gone {data : Message} {payloadCopy : Block} (current : driver.sends task = .xQueueSend data payloadCopy)
      (missing : driver.irQueue = false ∨ driver.queue = none) : Sent driver task (.error .queueGone)
  | freed {payloadCopy : Block} (current : driver.sends task = .free payloadCopy) :
      Sent driver task (.ok ({ driver with freed := driver.freed ++ [payloadCopy] }.returns task
        (some payloadCopy) false))

variable [DecidableEq Task]

theorem call_sent (idle : driver.sends task = .idle) (data : Option Message) :
    Sent driver task (.ok (driver.irBlasterDriverSendData task data)) := by
  have bare : (driver.sends task).copy = none := by rw [idle, Send.copy]
  unfold IrDriver.irBlasterDriverSendData
  split
  next => exact .refused bare
  next =>
    split
    next => exact .refused bare
    next => exact .advanced bare rfl

theorem sendStep_sent {malloc : Bool} {after : IrOutcome Task} (taken : driver.sendStep task malloc = some after) :
    Sent driver task after := by
  have tested (condition : Bool) {send : Send} (bare : (driver.sends task).copy = none)
      (without : send.copy = none) : Sent driver task
        (.ok (if condition then driver.goesOn task send else driver.returns task none false)) := by
    cases condition with
    | false => exact .refused bare
    | true => exact .advanced bare without
  cases current : driver.sends task with
  | idle => simp [IrDriver.sendStep, current] at taken
  | initialized data =>
      simp only [IrDriver.sendStep, current, Option.some.injEq] at taken
      exact taken ▸ tested driver.initialized (by rw [current, Send.copy]) rfl
  | irQueue data =>
      simp only [IrDriver.sendStep, current, Option.some.injEq] at taken
      exact taken ▸ tested driver.irQueue (by rw [current, Send.copy]) rfl
  | abortFlag data =>
      simp only [IrDriver.sendStep, current, Option.some.injEq] at taken
      have bare : (driver.sends task).copy = none := by rw [current, Send.copy]
      cases aborted : driver.abortFlag with
      | true =>
          rw [aborted] at taken
          exact taken ▸ .refused bare
      | false =>
          rw [aborted] at taken
          exact taken ▸ .advanced bare rfl
  | malloc data =>
      simp only [IrDriver.sendStep, current, Option.some.injEq] at taken
      have bare : (driver.sends task).copy = none := by rw [current, Send.copy]
      cases malloc with
      | true => exact taken ▸ .allocated data bare
      | false => exact taken ▸ .refused bare
  | xQueueSend data payloadCopy =>
      simp only [IrDriver.sendStep, current] at taken
      split at taken
      next waiting set there =>
        split at taken
        next longer sent =>
          cases taken
          unfold BoundedQueue.send at sent
          split at sent <;> cases sent
          exact .enqueued current there
        next unsent =>
          unfold BoundedQueue.send at unsent
          split at unsent
          next => cases unsent
          next packed => exact Option.some.inj taken ▸ .full current there (Nat.le_of_not_lt packed)
      next missing =>
        cases taken
        refine .gone current ?_
        cases set : driver.irQueue with
        | false => exact .inl rfl
        | true =>
            cases there : driver.queue with
            | none => exact .inr rfl
            | some waiting => exact absurd there (missing waiting set)
  | free payloadCopy =>
      simp only [IrDriver.sendStep, current, Option.some.injEq] at taken
      exact taken ▸ .freed current

end Steps

namespace IrDriver

section Protocols

variable {driver after : IrDriver Task}

theorem started_protocol : (started : IrDriver Task).Protocol := by
  constructor <;> simp [started, Deinit.place, IrTask.Gone]

theorem Protocol.deinitStep (protocol : driver.Protocol) (taken : driver.deinitStep = some (.ok after)) :
    after.Protocol := by
  obtain ⟨fresh, irQueue, queue, queueGone, exitSem, running, given, ended⟩ := protocol
  unfold IrDriver.deinitStep at taken
  split at taken
  next => cases taken
  next current =>
    cases taken
    constructor <;> simp_all [Deinit.place]
  next current =>
    cases taken
    constructor <;> simp_all [Deinit.place]
  next current =>
    split at taken <;> cases taken
    constructor <;> simp_all [Deinit.place]
  next current =>
    split at taken <;> cases taken
    constructor <;> simp_all [Deinit.place]
  next current =>
    cases taken
    constructor <;> simp_all [Deinit.place, IrTask.Gone]
  next current =>
    split at taken <;> cases taken
    next => constructor <;> simp_all [Deinit.place]
    next => constructor <;> simp_all [Deinit.place]
  next current =>
    cases taken
    constructor <;> simp_all [Deinit.place]
  next current =>
    cases taken
    constructor <;> simp_all [Deinit.place]
  next current =>
    cases taken
    constructor <;> simp_all [Deinit.place]
  next => cases taken

theorem Protocol.irTaskStep (protocol : driver.Protocol) (taken : driver.irTaskStep = some (.ok after)) :
    after.Protocol := by
  obtain ⟨fresh, irQueue, queue, queueGone, exitSem, running, given, ended⟩ := protocol
  unfold IrDriver.irTaskStep at taken
  split at taken
  next current =>
    cases taken
    constructor <;> simp_all [IrTask.Gone]
  next current =>
    split at taken <;> cases taken
    next msg waiting set there =>
      by_cases poison : msg = poisonMsg
      · constructor <;> simp_all [IrTask.Gone]
      · constructor <;> simp_all [IrTask.Gone]
  next current =>
    cases taken
    constructor <;> simp_all [IrTask.Gone]
  next current =>
    cases taken
    constructor <;> simp_all [IrTask.Gone]
  next current =>
    split at taken <;> cases taken
    constructor <;> simp_all [IrTask.Gone]
  all_goals cases taken

theorem Protocol.enqueue (protocol : driver.Protocol) {waiting : List Message} (there : driver.queue = some waiting)
    {msg : Message} (real : msg ≠ poisonMsg) :
    { driver with queue := some (waiting ++ [msg]) }.Protocol := by
  obtain ⟨fresh, irQueue, queue, queueGone, exitSem, running, given, ended⟩ := protocol
  constructor <;> simp_all [Ne.symm real]

theorem Protocol.sent [DecidableEq Task] (protocol : driver.Protocol) {task : Task}
    (taken : Sent driver task (.ok after)) : after.Protocol := by
  cases taken with
  | refused | advanced | allocated | full | freed => exact { protocol with }
  | enqueued current there => exact { protocol.enqueue there (by simp [poisonMsg]) with }

end Protocols

section Copies

variable [DecidableEq Task] {driver : IrDriver Task}

theorem held_acting (task : Task) (send : Send) :
    { driver with sends := Function.update driver.sends task send }.held (.sender task) = send.copy.toList := by
  simp only [held, Function.update_self]

theorem held_others {task : Task} {send : Send} {place : Custodian Task} (other : place ≠ .sender task) :
    { driver with sends := Function.update driver.sends task send }.held place = driver.held place := by
  cases place with
  | sender acting =>
      have elsewhere : acting ≠ task := fun same => other (same ▸ rfl)
      simp only [held, Function.update_of_ne elsewhere]
  | queue | irTask | freed => rfl

theorem held_sends {task : Task} {send : Send} (same : send.copy = (driver.sends task).copy)
    (place : Custodian Task) :
    { driver with sends := Function.update driver.sends task send }.held place = driver.held place := by
  by_cases acting : place = .sender task
  · subst acting
    rw [held_acting, same, held]
  · exact held_others acting

theorem copy_sends {task other : Task} {send : Send} {block : Block}
    (before : ∀ task, (driver.sends task).copy ≠ some block) (now : send.copy ≠ some block) :
    (Function.update driver.sends task send other).copy ≠ some block := by
  by_cases acting : other = task
  · subst acting
    rwa [Function.update_self]
  · rw [Function.update_of_ne acting]
    exact before other

omit [DecidableEq Task] in
theorem held_queue_cons {msg : Message} {waiting : List Message} (there : driver.queue = some (msg :: waiting)) :
    driver.held .queue = msg.payloadData.toList ++ waiting.filterMap Message.payloadData := by
  rw [held, there, Option.getD_some]
  cases payload : msg.payloadData <;> simp [payload]

omit [DecidableEq Task] in
theorem mem_held_sender {task : Task} {block : Block} :
    block ∈ driver.held (.sender task) ↔ (driver.sends task).copy = some block := Option.mem_toList

end Copies

namespace Sound

variable [DecidableEq Task] {driver after : IrDriver Task}

theorem started : Sound (started : IrDriver Task) where
  protocol := started_protocol
  accounted := Accounted.empty fun place => by cases place <;> rfl
  accepted := nofun
  refused := nofun
  queued := by simp [held, IrBlaster.started, IrTask.copy]
  emptied := nofun

theorem accepted_sends (sound : driver.Sound) {block : Block} (old : (some block, true) ∈ driver.results)
    {task : Task} {send : Send} (now : send.copy ≠ some block) :
    block < driver.allocated ∧ ∀ other, (Function.update driver.sends task send other).copy ≠ some block := by
  obtain ⟨known, unsent⟩ := sound.accepted old
  exact ⟨known, fun other => copy_sends unsent now⟩

theorem sent (sound : driver.Sound) {task : Task} (taken : Sent driver task (.ok after))
    (inTime : ∀ data payloadCopy, driver.sends task = .xQueueSend data payloadCopy →
      driver.deinit.place < Deinit.deleteQueue.place) : after.Sound := by
  have protocol := sound.protocol.sent taken
  cases taken with
  | refused bare =>
      refine { sound with protocol, accounted := ?_, accepted := ?_, refused := ?_, queued := ?_ }
      · exact sound.accounted.congr (held_sends (by rw [bare, Send.copy]))
      · intro block member
        have old : (some block, true) ∈ driver.results := by simpa [returns] using member
        exact sound.accepted_sends old (by simp [Send.copy])
      · intro block member
        exact sound.refused (by simpa [returns] using member)
      · intro block waits
        exact List.mem_append_left _ (sound.queued waits)
  | advanced bare without =>
      refine { sound with protocol, accounted := ?_, accepted := ?_ }
      · exact sound.accounted.congr (held_sends (without.trans bare.symm))
      · intro block member
        exact sound.accepted_sends member (by simp [without])
  | allocated data bare =>
      refine { sound with protocol, accounted := ?_, accepted := ?_ }
      · have nothing : driver.held (.sender task) = [] := by rw [held, bare, Option.toList_none]
        refine @Accounted.allocate _ _ _ _ _ sound.accounted (.sender task) ?_ fun place other => held_others other
        exact .of_eq ((held_acting task _).trans (by rw [Send.copy, Option.toList_some, nothing]))
      · intro block member
        have known := (sound.accepted member).1
        have older : (Send.xQueueSend data driver.allocated).copy ≠ some block :=
          fun same => absurd (Option.some.inj same) (Nat.ne_of_gt known)
        exact ⟨Nat.lt_succ_of_lt known, (sound.accepted_sends member older).2⟩
  | @enqueued data payloadCopy waiting current there =>
      have mine : payloadCopy ∈ driver.held (.sender task) := by rw [mem_held_sender, current, Send.copy]
      have none_left (other : Task) : (Function.update driver.sends task .idle other).copy ≠ some payloadCopy := by
        by_cases acting : other = task
        · simp [acting, Send.copy]
        · rw [Function.update_of_ne acting]
          intro also
          have same := sound.accounted.unique mine (mem_held_sender.mpr also)
          exact acting (Custodian.sender.inj same).symm
      refine { sound with protocol, accounted := ?_, accepted := ?_, refused := ?_, queued := ?_, emptied := ?_ }
      · have apart : Custodian.sender task ≠ .queue := by simp
        refine sound.accounted.hand apart payloadCopy ?_ ?_ fun place elsewhere behind => ?_
        · simp [held, returns, current, Send.copy]
        · simp [held, returns, there]
        · rw [← @held_others _ _ driver task .idle _ elsewhere]
          cases place <;> first | rfl | contradiction
      · intro block member
        simp only [returns, List.mem_append, List.mem_singleton, Prod.mk.injEq, Option.some.injEq] at member
        rcases member with old | ⟨rfl, _⟩
        · exact sound.accepted_sends old (by simp [Send.copy])
        · exact ⟨sound.accounted.known mine, none_left⟩
      · intro block member
        exact sound.refused (by simpa [returns] using member)
      · intro block waits
        rcases waits with waits | waits
        · simp only [held, returns, Option.getD_some, List.filterMap_append, List.mem_append] at waits
          rcases waits with waits | new
          · have before : block ∈ driver.held .queue := by rwa [held, there, Option.getD_some]
            exact List.mem_append_left _ (sound.queued (.inl before))
          · obtain rfl : block = payloadCopy := by simpa using new
            exact List.mem_append_right _ (List.mem_singleton_self _)
        · exact List.mem_append_left _ (sound.queued (.inr waits))
      · intro last
        exact absurd (inTime _ _ current) (by rw [show driver.deinit = _ from last]; decide)
  | full current _ _ =>
      refine { sound with protocol, accounted := ?_, accepted := ?_ }
      · exact sound.accounted.congr (held_sends (by rw [current, Send.copy, Send.copy]))
      · intro block member
        have mine := (sound.accepted member).2 task
        rw [current] at mine
        exact sound.accepted_sends member mine
  | @freed payloadCopy current =>
      refine { sound with protocol, accounted := ?_, accepted := ?_, refused := ?_, queued := ?_ }
      · have apart : Custodian.sender task ≠ .freed := by simp
        refine sound.accounted.hand apart payloadCopy ?_ ?_ fun place elsewhere behind => ?_
        · simp [held, returns, current, Send.copy]
        · simp [held, returns]
        · rw [← @held_others _ _ driver task .idle _ elsewhere]
          cases place <;> first | rfl | contradiction
      · intro block member
        have old : (some block, true) ∈ driver.results := by simpa [returns] using member
        exact sound.accepted_sends old (by simp [Send.copy])
      · intro block member
        simp only [returns, List.mem_append, List.mem_singleton, Prod.mk.injEq, Option.some.injEq] at member
        rcases member with old | ⟨rfl, _⟩
        · exact List.mem_append_left _ (sound.refused old)
        · exact List.mem_append_right _ (List.mem_singleton_self _)
      · intro block waits
        exact List.mem_append_left _ (sound.queued waits)

theorem irTaskStep (sound : driver.Sound) (taken : driver.irTaskStep = some (.ok after)) : after.Sound := by
  have protocol := sound.protocol.irTaskStep taken
  cases current : driver.irTask with
  | abortFlag =>
      simp only [IrDriver.irTaskStep, current, Option.some.injEq, Except.ok.injEq] at taken
      subst taken
      have bare : (if driver.abortFlag then IrTask.xSemaphoreGive else .xQueueReceive).copy = none := by
        split <;> rfl
      have idle : driver.irTask.copy = none := by rw [current, IrTask.copy]
      refine { sound with protocol, accounted := ?_, queued := ?_ }
      · refine sound.accounted.congr fun place => ?_
        cases place <;> first | rfl | simp only [held, bare, idle]
      · intro block waits
        simp only [held, bare, Option.toList_none, List.not_mem_nil, or_false] at waits
        exact sound.queued (.inl waits)
  | xQueueReceive =>
      simp only [IrDriver.irTaskStep, current] at taken
      split at taken <;> cases taken
      next msg waiting set there =>
        have carried : (if msg = poisonMsg then IrTask.xSemaphoreGive else .sendData msg).copy = msg.payloadData := by
          split
          next poison => rw [poison, IrTask.copy, poisonMsg]
          next => rfl
        have front := held_queue_cons there
        have idle : driver.irTask.copy = none := by rw [current, IrTask.copy]
        refine { sound with protocol, accounted := ?_, queued := ?_, emptied := ?_ }
        · have apart : (Custodian.queue : Custodian Task) ≠ .irTask := by simp
          refine sound.accounted.pass apart msg.payloadData ?_ ?_ fun place before behind => ?_
          · rw [front, held, Option.getD_some]
          · simp only [held, carried, idle, Option.toList_none, List.nil_append]
          · cases place <;> first | rfl | contradiction
        · intro block waits
          refine sound.queued (.inl ?_)
          rw [front, List.mem_append]
          simp only [held, carried, Option.getD_some] at waits
          exact waits.symm
        · intro last
          cases there.symm.trans (sound.emptied last)
  | sendData msg =>
      simp only [IrDriver.irTaskStep, current, Option.some.injEq, Except.ok.injEq] at taken
      subst taken
      refine { sound with protocol, accounted := ?_, queued := ?_ }
      · refine sound.accounted.congr fun place => ?_
        cases place <;> first | rfl | simp only [held, current, IrTask.copy]
      · intro block waits
        refine sound.queued ?_
        simpa only [held, current, IrTask.copy] using waits
  | free msg =>
      simp only [IrDriver.irTaskStep, current, Option.some.injEq, Except.ok.injEq] at taken
      subst taken
      refine { sound with protocol, accounted := ?_, refused := ?_, queued := ?_ }
      · have apart : (Custodian.irTask : Custodian Task) ≠ .freed := by simp
        refine sound.accounted.pass apart msg.payloadData ?_ rfl fun place before behind => ?_
        · simp only [held, current, IrTask.copy, Option.toList_none, List.append_nil]
        · cases place <;> first | rfl | contradiction
      · intro block member
        exact List.mem_append_left _ (sound.refused member)
      · intro block waits
        simp only [held, IrTask.copy, Option.toList_none, List.not_mem_nil, or_false] at waits
        exact sound.queued (.inl waits)
  | xSemaphoreGive =>
      simp only [IrDriver.irTaskStep, current] at taken
      split at taken <;> cases taken
      refine { sound with protocol, accounted := ?_, queued := ?_ }
      · refine sound.accounted.congr fun place => ?_
        cases place <;> first | rfl | simp only [held, current, IrTask.copy]
      · intro block waits
        simp only [held, IrTask.copy, Option.toList_none, List.not_mem_nil, or_false] at waits
        exact sound.queued (.inl waits)
  | ended | deleted => simp [IrDriver.irTaskStep, current] at taken

theorem deinitStep (sound : driver.Sound) (taken : driver.deinitStep = some (.ok after))
    (unloaded : driver.deinit = .deleteTask → driver.irTask.copy = none) : after.Sound := by
  have protocol := sound.protocol.deinitStep taken
  cases current : driver.deinit with
  | notCalled | returned => simp [IrDriver.deinitStep, current] at taken
  | createSem | setAbort | clearQueue | deleteSem =>
      simp only [IrDriver.deinitStep, current, Option.some.injEq, Except.ok.injEq] at taken
      subst taken
      refine { sound with protocol, accounted := ?_, emptied := nofun }
      exact sound.accounted.congr fun place => by cases place <;> rfl
  | sendPoison =>
      simp only [IrDriver.deinitStep, current] at taken
      split at taken <;> cases taken
      next waiting there =>
        have same : ((BoundedQueue.send maxConcurrentIrMessages waiting poisonMsg).getD waiting).filterMap
            Message.payloadData = driver.held .queue := by
          rw [held, there, Option.getD_some]
          unfold BoundedQueue.send
          split <;> simp [poisonMsg]
        refine { sound with protocol, accounted := ?_, queued := ?_, emptied := nofun }
        · refine sound.accounted.congr fun place => ?_
          cases place with
          | queue => exact same
          | sender | irTask | freed => rfl
        · intro block waits
          simp only [held, Option.getD_some, same] at waits
          exact sound.queued waits
  | takeSem =>
      simp only [IrDriver.deinitStep, current] at taken
      split at taken <;> cases taken
      refine { sound with protocol, accounted := ?_, emptied := nofun }
      exact sound.accounted.congr fun place => by cases place <;> rfl
  | deleteTask =>
      simp only [IrDriver.deinitStep, current, Option.some.injEq, Except.ok.injEq] at taken
      subst taken
      refine { sound with protocol, accounted := ?_, queued := ?_, emptied := nofun }
      · refine sound.accounted.congr fun place => ?_
        cases place with
        | irTask =>
            simp only [held, unloaded current]
            rfl
        | sender | queue | freed => rfl
      · intro block waits
        simp only [held, IrTask.copy, Option.toList_none, List.not_mem_nil, or_false] at waits
        exact sound.queued (.inl waits)
  | receiveLeftover =>
      simp only [IrDriver.deinitStep, current] at taken
      split at taken <;> cases taken
      next empty =>
        refine { sound with protocol, accounted := ?_, emptied := fun _ => empty }
        exact sound.accounted.congr fun place => by cases place <;> rfl
      next leftover waiting there =>
        have front := held_queue_cons there
        refine { sound with protocol, accounted := ?_, refused := ?_, queued := ?_, emptied := nofun }
        · have apart : (Custodian.queue : Custodian Task) ≠ .freed := by simp
          refine sound.accounted.pass apart leftover.payloadData ?_ rfl fun place before behind => ?_
          · rw [front, held, Option.getD_some]
          · cases place <;> first | rfl | contradiction
        · intro block member
          exact List.mem_append_left _ (sound.refused member)
        · intro block waits
          refine sound.queued (waits.imp_left fun left => ?_)
          rw [front]
          exact List.mem_append_right _ left
  | deleteQueue =>
      simp only [IrDriver.deinitStep, current, Option.some.injEq, Except.ok.injEq] at taken
      subst taken
      have empty : driver.held .queue = [] := by rw [held, sound.emptied current]; rfl
      refine { sound with protocol, accounted := ?_, queued := ?_, emptied := nofun }
      · refine sound.accounted.congr fun place => ?_
        cases place with
        | queue => exact empty.symm
        | sender | irTask | freed => rfl
      · intro block waits
        exact sound.queued (waits.imp_left fun left => by cases left)

theorem deinitTimeout (sound : driver.Sound) (taken : driver.deinitTimeout = some (.ok after)) : after.Sound := by
  unfold IrDriver.deinitTimeout at taken
  split at taken <;> cases taken
  next waits =>
    have protocol : { driver with deinit := .deleteTask }.Protocol := by
      obtain ⟨fresh, irQueue, queue, queueGone, exitSem, running, given, ended⟩ := sound.protocol
      obtain ⟨current, _⟩ := waits
      constructor <;> simp_all [Deinit.place]
    refine { sound with protocol, accounted := ?_, emptied := nofun }
    exact sound.accounted.congr fun place => by cases place <;> rfl

theorem irBlasterDriverDeinit (sound : driver.Sound) (taken : driver.irBlasterDriverDeinit = some (.ok after)) :
    after.Sound := by
  unfold IrDriver.irBlasterDriverDeinit at taken
  split at taken
  next current =>
    rw [if_pos (sound.protocol.fresh current)] at taken
    cases taken
    have protocol : { driver with initialized := false, deinit := .createSem }.Protocol := by
      obtain ⟨fresh, irQueue, queue, queueGone, exitSem, running, given, ended⟩ := sound.protocol
      constructor <;> simp_all [Deinit.place]
    refine { sound with protocol, accounted := ?_, emptied := nofun }
    exact sound.accounted.congr fun place => by cases place <;> rfl
  next => cases taken

theorem balanced (sound : driver.Sound) : driver.Balanced := by
  -- once the driver is down, the queue and the task hold nothing
  refine ⟨fun block => sound.accounted.count_le_one .freed block, fun block member => ?_, ?_⟩
  · exact @Accounted.once _ _ _ _ sound.accounted .freed _ (sound.refused member)
  · intro down block member
    obtain ⟨known, unsent⟩ := sound.accepted member
    obtain ⟨place, there⟩ := sound.accounted.somewhere known
    cases place with
    | sender task => exact absurd (mem_held_sender.mp there) (unsent task)
    | queue =>
        have gone := sound.protocol.queueGone (by rw [down]; decide)
        rw [held, gone] at there
        cases there
    | irTask =>
        have ended := sound.protocol.ended (by rw [down]; decide)
        rcases ended with ended | ended <;>
          · rw [held, ended, IrTask.copy] at there
            cases there
    | freed => exact @Accounted.once _ _ _ _ sound.accounted .freed _ there

end Sound

end IrDriver

end WatchFirmware.IrBlaster
