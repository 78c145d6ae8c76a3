import WatchFirmware.IrBlaster.PayloadOwnership

set_option autoImplicit false

namespace WatchFirmware.IrBlaster

open Transition FaultFree
open Custody (Block Accounted)

variable {Task : Type}

namespace IrDriver

section Faults

variable {driver : IrDriver Task} {fault : IrFault}

theorem Protocol.irTaskStep_ok (protocol : driver.Protocol) : driver.irTaskStep ≠ some (.error fault) := by
  intro taken
  cases current : driver.irTask with
  | abortFlag | sendData | free | ended | deleted => simp [IrDriver.irTaskStep, current] at taken
  | xQueueReceive =>
      have before : driver.deinit.place < Deinit.receiveLeftover.place := by
        by_contra late
        have gone := protocol.ended (Nat.le_of_not_lt late)
        simp [current, IrTask.Gone] at gone
      have set := protocol.irQueue (Nat.le_of_lt (Nat.lt_trans before (by decide)))
      obtain ⟨waiting, there⟩ := Option.isSome_iff_exists.mp
        (protocol.queue (Nat.le_of_lt (Nat.lt_trans before (by decide))))
      cases waiting <;> simp [IrDriver.irTaskStep, current, set, there] at taken
  | xSemaphoreGive =>
      have created : Deinit.createSem.place < driver.deinit.place := by
        by_contra early
        exact (protocol.running (Nat.le_of_not_lt early)).2.2.1 current
      have before : driver.deinit.place < Deinit.returned.place := by
        by_contra late
        have gone := protocol.ended (Nat.le_trans (by decide) (Nat.le_of_not_lt late))
        simp [current, IrTask.Gone] at gone
      obtain ⟨given, there⟩ := Option.isSome_iff_exists.mp (protocol.exitSem created before)
      simp [IrDriver.irTaskStep, current, there] at taken

theorem Protocol.deinitStep_ok (protocol : driver.Protocol) : driver.deinitStep ≠ some (.error fault) := by
  intro taken
  cases current : driver.deinit with
  | sendPoison | receiveLeftover =>
      have there := protocol.queue (by rw [current]; decide)
      obtain ⟨waiting, there⟩ := Option.isSome_iff_exists.mp there
      cases waiting <;> simp [IrDriver.deinitStep, current, there] at taken
  | takeSem =>
      have there := protocol.exitSem (by rw [current]; decide) (by rw [current]; decide)
      obtain ⟨given, there⟩ := Option.isSome_iff_exists.mp there
      cases given <;> simp [IrDriver.deinitStep, current, there] at taken
  | _ => simp [IrDriver.deinitStep, current] at taken

end Faults

structure Leaked (driver : IrDriver Task) (block : Block) : Prop where
  accepted : (some block, true) ∈ driver.results
  known : block < driver.allocated
  unfreed : block ∉ driver.freed
  unsent : ∀ task, (driver.sends task).copy ≠ some block
  unhandled : driver.irTask.copy ≠ some block
  behind : block ∈ driver.held .queue →
    Deinit.deleteQueue.place ≤ driver.deinit.place ∧ driver.irTask.Gone

section Leaks

variable {driver after : IrDriver Task} {block : Block}

theorem Leaked.absent (leaked : driver.Leaked block) (early : driver.deinit.place < Deinit.deleteQueue.place) :
    block ∉ driver.held .queue :=
  fun waits => absurd (leaked.behind waits).1 (Nat.not_le_of_lt early)

theorem Leaked.irTaskStep (leaked : driver.Leaked block) (taken : driver.irTaskStep = some (.ok after)) :
    after.Leaked block := by
  cases current : driver.irTask with
  | abortFlag =>
      simp only [IrDriver.irTaskStep, current, Option.some.injEq, Except.ok.injEq] at taken
      subst taken
      refine { leaked with unhandled := ?_, behind := fun waits => ?_ }
      · split <;> simp [IrTask.copy]
      · have gone := (leaked.behind waits).2
        simp [current, IrTask.Gone] at gone
  | xQueueReceive =>
      simp only [IrDriver.irTaskStep, current] at taken
      split at taken <;> cases taken
      next msg waiting set there =>
        have absent : block ∉ driver.held .queue := by
          intro waits
          have gone := (leaked.behind waits).2
          simp [current, IrTask.Gone] at gone
        rw [held_queue_cons there] at absent
        refine { leaked with unhandled := ?_, behind := fun waits => absurd ?_ absent }
        · split
          next => simp [IrTask.copy]
          next =>
            intro same
            exact absent (List.mem_append_left _ (Option.mem_toList.mpr same))
        · rw [held, Option.getD_some] at waits
          exact List.mem_append_right _ waits
  | sendData msg =>
      simp only [IrDriver.irTaskStep, current, Option.some.injEq, Except.ok.injEq] at taken
      subst taken
      have unhandled := leaked.unhandled
      rw [current] at unhandled
      refine { leaked with unhandled, behind := fun waits => ?_ }
      have gone := (leaked.behind waits).2
      simp [current, IrTask.Gone] at gone
  | free msg =>
      simp only [IrDriver.irTaskStep, current, Option.some.injEq, Except.ok.injEq] at taken
      subst taken
      have unhandled := leaked.unhandled
      rw [current] at unhandled
      refine { leaked with unfreed := ?_, unhandled := by simp [IrTask.copy], behind := fun waits => ?_ }
      · intro freed
        rcases List.mem_append.mp freed with old | new
        · exact leaked.unfreed old
        · exact unhandled (Option.mem_toList.mp new)
      · have gone := (leaked.behind waits).2
        simp [current, IrTask.Gone] at gone
  | xSemaphoreGive =>
      simp only [IrDriver.irTaskStep, current] at taken
      split at taken <;> cases taken
      exact { leaked with
        unhandled := by simp [IrTask.copy], behind := fun waits => ⟨(leaked.behind waits).1, .inl rfl⟩ }
  | ended | deleted => simp [IrDriver.irTaskStep, current] at taken

theorem Leaked.deinitStep (leaked : driver.Leaked block) (taken : driver.deinitStep = some (.ok after)) :
    after.Leaked block := by
  cases current : driver.deinit with
  | notCalled | returned => simp [IrDriver.deinitStep, current] at taken
  | createSem | setAbort =>
      have absent := leaked.absent (by rw [current]; decide)
      simp only [IrDriver.deinitStep, current, Option.some.injEq, Except.ok.injEq] at taken
      subst taken
      exact { leaked with behind := fun waits => absurd waits absent }
  | sendPoison =>
      have absent := leaked.absent (by rw [current]; decide)
      simp only [IrDriver.deinitStep, current] at taken
      split at taken <;> cases taken
      next waiting there =>
        refine { leaked with behind := fun waits => absurd ?_ absent }
        rw [held, there, Option.getD_some]
        rw [held, Option.getD_some] at waits
        unfold BoundedQueue.send at waits
        split at waits <;> simpa [poisonMsg] using waits
  | takeSem =>
      have absent := leaked.absent (by rw [current]; decide)
      simp only [IrDriver.deinitStep, current] at taken
      split at taken <;> cases taken
      exact { leaked with behind := fun waits => absurd waits absent }
  | deleteTask =>
      have absent := leaked.absent (by rw [current]; decide)
      simp only [IrDriver.deinitStep, current, Option.some.injEq, Except.ok.injEq] at taken
      subst taken
      exact { leaked with unhandled := by simp [IrTask.copy], behind := fun waits => absurd waits absent }
  | receiveLeftover =>
      have absent := leaked.absent (by rw [current]; decide)
      simp only [IrDriver.deinitStep, current] at taken
      split at taken <;> cases taken
      next => exact { leaked with behind := fun waits => absurd waits absent }
      next leftover waiting there =>
        rw [held_queue_cons there] at absent
        refine { leaked with unfreed := ?_, behind := fun waits => absurd ?_ absent }
        · intro freed
          rcases List.mem_append.mp freed with old | new
          · exact leaked.unfreed old
          · exact absent (List.mem_append_left _ new)
        · rw [held, Option.getD_some] at waits
          exact List.mem_append_right _ waits
  | deleteQueue =>
      simp only [IrDriver.deinitStep, current, Option.some.injEq, Except.ok.injEq] at taken
      subst taken
      exact { leaked with behind := fun waits => by cases waits }
  | clearQueue | deleteSem =>
      simp only [IrDriver.deinitStep, current, Option.some.injEq, Except.ok.injEq] at taken
      subst taken
      exact { leaked with behind := fun waits => ⟨Nat.le_of_ble_eq_true rfl, (leaked.behind waits).2⟩ }

theorem Leaked.unbalanced (leaked : driver.Leaked block) (down : driver.deinit = .returned) :
    ¬driver.Balanced := by
  intro balanced
  have freed := balanced.2.2 down block leaked.accepted
  rw [List.count_eq_zero_of_not_mem leaked.unfreed] at freed
  cases freed

end Leaks

end IrDriver

variable [DecidableEq Task]

/-- The condition under which a step loses no copy: no sender sends once the queue was found empty, and the
task is not deleted with a message in hand. -/
def inTime (outcome : IrOutcome Task) (action : IrAction Task) : Bool :=
  match outcome, action with
  | .ok driver, .sendStep task _ =>
      match driver.sends task with
      | .xQueueSend _ _ => driver.deinit.place < Deinit.deleteQueue.place
      | _ => true
  | .ok driver, .deinitStep => driver.deinit ≠ .deleteTask || driver.irTask.copy.isNone
  | _, _ => true

def InTime (outcome : IrOutcome Task) (action : IrAction Task) : Prop := inTime outcome action = true

instance (outcome : IrOutcome Task) (action : IrAction Task) : Decidable (InTime outcome action) :=
  inferInstanceAs (Decidable (_ = true))

namespace IrDriver

variable {driver : IrDriver Task}

theorem Sound.step (sound : driver.Sound) {action : IrAction Task} {after : IrOutcome Task}
    (allowed : InTime (.ok driver) action) (taken : irStep (.ok driver) action = some after) :
    Leads after Sound := by
  cases action with
  | irBlasterDriverSendData task data =>
      simp only [irStep] at taken
      split at taken <;> cases taken
      next idle =>
        refine .pure (sound.sent (call_sent idle data) fun given payloadCopy current => ?_)
        cases idle.symm.trans current
  | sendStep task malloc =>
      have sent := sendStep_sent taken
      have before : ∀ data payloadCopy, driver.sends task = .xQueueSend data payloadCopy →
          driver.deinit.place < Deinit.deleteQueue.place := by
        intro data payloadCopy current
        simpa [InTime, inTime, current] using allowed
      cases after with
      | ok after => exact .pure (sound.sent sent before)
      | error fault =>
          cases sent with
          | gone current missing =>
              have early := before _ _ current
              have set := sound.protocol.irQueue (Nat.le_of_lt (Nat.lt_trans early (by decide)))
              have there := sound.protocol.queue (Nat.le_of_lt early)
              rcases missing with missing | missing
              · cases set.symm.trans missing
              · simp [missing] at there
  | irTaskStep =>
      cases after with
      | ok after => exact .pure (sound.irTaskStep taken)
      | error fault => exact absurd taken sound.protocol.irTaskStep_ok
  | irBlasterDriverDeinit =>
      cases after with
      | ok after => exact .pure (sound.irBlasterDriverDeinit taken)
      | error fault =>
          simp only [irStep, IrDriver.irBlasterDriverDeinit] at taken
          split at taken <;> cases taken
  | deinitStep =>
      cases after with
      | ok after =>
          refine .pure (sound.deinitStep taken fun current => ?_)
          simpa [InTime, inTime, current] using allowed
      | error fault => exact absurd taken sound.protocol.deinitStep_ok
  | deinitTimeout =>
      cases after with
      | ok after => exact .pure (sound.deinitTimeout taken)
      | error fault =>
          simp only [irStep, IrDriver.deinitTimeout] at taken
          split at taken <;> cases taken

theorem Sound.leaked_send (sound : driver.Sound) {task : Task} {data : Message} {payloadCopy : Block}
    {after : IrDriver Task} (current : driver.sends task = .xQueueSend data payloadCopy)
    (late : Deinit.deleteQueue.place ≤ driver.deinit.place) (taken : Sent driver task (.ok after)) :
    after.Leaked payloadCopy := by
  have mine : payloadCopy ∈ driver.held (.sender task) := by rw [mem_held_sender, current, Send.copy]
  have gone := sound.protocol.ended (Nat.le_trans (by decide) late)
  cases taken with
  | refused bare => simp [current, Send.copy] at bare
  | advanced bare => simp [current, Send.copy] at bare
  | allocated data bare => simp [current, Send.copy] at bare
  | freed same => cases current.symm.trans same
  | full same there packed =>
      rcases Nat.lt_or_eq_of_le late with later | last
      · cases there.symm.trans (sound.protocol.queueGone later)
      · have empty := sound.emptied (by
          cases stage : driver.deinit <;> rw [stage] at last <;> simp [Deinit.place] at last)
        cases there.symm.trans empty
        simp at packed
  | enqueued same there =>
      cases current.symm.trans same
      refine ⟨by simp [returns], sound.accounted.known mine, ?_, ?_, ?_, fun _ => ⟨late, gone⟩⟩
      · intro freed
        cases sound.accounted.unique mine (show payloadCopy ∈ driver.held .freed from freed)
      · intro other
        by_cases acting : other = task
        · simp [returns, acting, Send.copy]
        · simp only [returns, Function.update_of_ne acting]
          intro also
          exact acting (Custodian.sender.inj (sound.accounted.unique mine (mem_held_sender.mpr also))).symm
      · rcases gone with ended | ended <;> simp [returns, ended, IrTask.copy]

theorem Sound.leaked_deletion (sound : driver.Sound) {block : Block} (held : driver.irTask.copy = some block) :
    { driver with irTask := .deleted, deinit := .receiveLeftover }.Leaked block := by
  have mine : block ∈ driver.held .irTask := by rw [IrDriver.held, held]; simp
  have accepted := sound.queued (.inr mine)
  obtain ⟨known, unsent⟩ := sound.accepted accepted
  refine ⟨accepted, known, ?_, unsent, by simp [IrTask.copy], ?_⟩
  · intro freed
    cases sound.accounted.unique mine (show block ∈ driver.held .freed from freed)
  · intro waits
    cases sound.accounted.unique mine (show block ∈ driver.held .queue from waits)

section Persistence

variable {after : IrDriver Task} {block : Block}

theorem Leaked.sent (leaked : driver.Leaked block) {task : Task} (taken : Sent driver task (.ok after)) :
    after.Leaked block := by
  have mine := leaked.unsent task
  cases taken with
  | refused bare =>
      exact { leaked with
        accepted := List.mem_append_left _ leaked.accepted
        unsent := fun other => copy_sends leaked.unsent (by simp [Send.copy]) }
  | advanced bare without =>
      exact { leaked with unsent := fun other => copy_sends leaked.unsent (by simp [without]) }
  | allocated data bare =>
      refine { leaked with known := Nat.lt_succ_of_lt leaked.known, unsent := fun other => copy_sends leaked.unsent ?_ }
      exact fun same => absurd (Option.some.inj same) (Nat.ne_of_gt leaked.known)
  | @enqueued data payloadCopy waiting current there =>
      rw [current] at mine
      have other : payloadCopy ≠ block := fun same => mine (congrArg some same)
      refine { leaked with
        accepted := List.mem_append_left _ leaked.accepted
        unsent := fun other => copy_sends leaked.unsent (by simp [Send.copy])
        behind := fun waits => leaked.behind ?_ }
      simp only [held, returns, Option.getD_some, List.filterMap_append, List.mem_append] at waits
      rcases waits with waits | new
      · rwa [held, there, Option.getD_some]
      · exact absurd (by simpa using new) other.symm
  | full current _ _ =>
      rw [current] at mine
      exact { leaked with unsent := fun other => copy_sends leaked.unsent mine }
  | @freed payloadCopy current =>
      rw [current] at mine
      refine { leaked with
        accepted := List.mem_append_left _ leaked.accepted
        unfreed := ?_
        unsent := fun other => copy_sends leaked.unsent (by simp [Send.copy]) }
      intro freed
      rcases List.mem_append.mp freed with old | new
      · exact leaked.unfreed old
      · exact mine (congrArg some (List.mem_singleton.mp new).symm)

theorem Leaked.step (leaked : driver.Leaked block) {action : IrAction Task}
    (taken : irStep (.ok driver) action = some (.ok after)) : after.Leaked block := by
  cases action with
  | irBlasterDriverSendData task data =>
      simp only [irStep] at taken
      split at taken <;> cases taken
      next idle => exact leaked.sent (call_sent idle data)
  | sendStep task malloc => exact leaked.sent (sendStep_sent taken)
  | irTaskStep => exact leaked.irTaskStep taken
  | irBlasterDriverDeinit =>
      simp only [irStep, IrDriver.irBlasterDriverDeinit] at taken
      split at taken
      next current =>
        have absent := leaked.absent (by rw [current]; decide)
        split at taken <;> cases taken <;>
          exact { leaked with behind := fun waits => absurd waits absent }
      next => cases taken
  | deinitStep => exact leaked.deinitStep taken
  | deinitTimeout =>
      simp only [irStep, IrDriver.deinitTimeout] at taken
      split at taken <;> cases taken
      next waits =>
        have absent := leaked.absent (by rw [waits.1]; decide)
        exact { leaked with behind := fun waits => absurd waits absent }

end Persistence

end IrDriver

def Spoiled (outcome : IrOutcome Task) : Prop :=
  ∀ driver, outcome = .ok driver → ∃ block, driver.Leaked block

theorem step_spoils {outcome after : IrOutcome Task} {action : IrAction Task}
    (sound : Leads outcome IrDriver.Sound) (late : ¬InTime outcome action)
    (taken : irStep outcome action = some after) : Spoiled after := by
  obtain ⟨driver, rfl, sound⟩ := sound
  rintro after rfl
  cases action with
  | sendStep task malloc =>
      have sent := sendStep_sent taken
      cases current : driver.sends task with
      | xQueueSend data payloadCopy =>
          have behind : Deinit.deleteQueue.place ≤ driver.deinit.place := by
            simpa [InTime, inTime, current] using late
          exact ⟨payloadCopy, sound.leaked_send current behind sent⟩
      | _ => simp [InTime, inTime, current] at late
  | deinitStep =>
      have loaded : driver.deinit = .deleteTask ∧ driver.irTask.copy ≠ none := by
        simpa [InTime, inTime] using late
      obtain ⟨current, held⟩ := loaded
      obtain ⟨block, held⟩ := Option.ne_none_iff_exists'.mp held
      simp only [irStep, IrDriver.deinitStep, current, Option.some.injEq, Except.ok.injEq] at taken
      exact taken ▸ ⟨block, sound.leaked_deletion held⟩
  | irBlasterDriverSendData | irTaskStep | irBlasterDriverDeinit | deinitTimeout =>
      simp [InTime, inTime] at late

theorem step_stays {outcome after : IrOutcome Task} {action : IrAction Task} (spoiled : Spoiled outcome)
    (taken : irStep outcome action = some after) : Spoiled after := by
  rintro after rfl
  cases outcome with
  | error fault => cases taken
  | ok driver =>
      obtain ⟨block, leaked⟩ := spoiled driver rfl
      exact ⟨block, leaked.step taken⟩

theorem step_sound {outcome after : IrOutcome Task} {action : IrAction Task}
    (sound : Leads outcome IrDriver.Sound) (allowed : InTime outcome action)
    (taken : irStep outcome action = some after) : Leads after IrDriver.Sound := by
  obtain ⟨driver, rfl, sound⟩ := sound
  exact sound.step allowed taken

def Finished (outcome : IrOutcome Task) : Prop := ∀ driver, outcome = .ok driver → driver.deinit = .returned

/-- In a run whose steps are in time, no queue or semaphore that is gone is used and every copy is accounted
for; a run to the end of the shutdown of which this holds has all its steps in time. -/
theorem payloads_freed (actions : List (IrAction Task)) (after : IrOutcome Task)
    (ran : run irStep (.ok started) actions = some after) :
    (Guarded irStep InTime (.ok started) actions → Leads after IrDriver.Balanced) ∧
      (Finished after → Leads after IrDriver.Balanced → Guarded irStep InTime (.ok started) actions) := by
  have start : Leads (.ok started : IrOutcome Task) IrDriver.Sound := .pure IrDriver.Sound.started
  constructor
  · intro guarded
    have reached : Reach irStep (· = .ok started) InTime after := Reach.of_run (.start rfl) guarded ran
    have sound : Leads after IrDriver.Sound :=
      reached.invariant (fun _ same => same ▸ start) fun _ _ _ => step_sound
    exact sound.mono fun _ sound => sound.balanced
  · intro finished balanced
    rcases guarded_or_spoiled (fun _ _ _ => step_sound) (fun _ _ _ => step_spoils) (fun _ _ _ => step_stays)
      start ran with ⟨guarded, _⟩ | spoiled
    next => exact guarded
    next =>
      obtain ⟨driver, rfl, balanced⟩ := balanced
      obtain ⟨block, leaked⟩ := spoiled driver rfl
      exact absurd balanced (leaked.unbalanced (finished driver rfl))

def tidyRun : List (IrAction Nat) :=
  [.irBlasterDriverSendData 0 (some ⟨38000, 4, some 0⟩), .sendStep 0 true, .sendStep 0 true, .sendStep 0 true,
    .sendStep 0 true, .sendStep 0 true, .irTaskStep, .irTaskStep, .irTaskStep, .irTaskStep, .irTaskStep,
    .irBlasterDriverDeinit, .deinitStep, .deinitStep, .deinitStep, .irTaskStep, .irTaskStep, .deinitStep,
    .deinitStep, .deinitStep, .deinitStep, .deinitStep]

theorem payloads_freed_tidy :
    ∃ after, run irStep (.ok started) tidyRun = some after ∧ Leads after IrDriver.Balanced :=
  ⟨_, rfl, (payloads_freed tidyRun _ rfl).1 (by decide)⟩

def lateSend : List (IrAction Nat) :=
  [.irBlasterDriverSendData 0 (some ⟨38000, 4, some 0⟩), .sendStep 0 true, .sendStep 0 true, .sendStep 0 true,
    .sendStep 0 true, .irBlasterDriverDeinit, .deinitStep, .deinitStep, .deinitStep, .irTaskStep, .irTaskStep,
    .deinitStep, .deinitStep, .deinitStep, .sendStep 0 true, .deinitStep, .deinitStep, .deinitStep]

/-- The send returns true, and its copy goes with the queue. -/
theorem lateSend_leaks : ∃ driver, run irStep (.ok started) lateSend = some (.ok driver) ∧
    driver.deinit = .returned ∧ driver.results = [(some 0, true)] ∧ driver.freed = [] ∧ ¬driver.Balanced := by
  refine ⟨_, rfl, rfl, rfl, rfl, fun balanced => ?_⟩
  have freed := balanced.2.2 rfl 0 (by decide)
  cases freed

end WatchFirmware.IrBlaster
