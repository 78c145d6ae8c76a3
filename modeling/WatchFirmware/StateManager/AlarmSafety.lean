import WatchFirmware.StateManager.AlarmStep

set_option autoImplicit false

namespace WatchFirmware.StateManager.AlarmManager

open Transition

theorem getEpochTime_le_wall {m : AlarmManager} (valid : m.timeValid = true) :
    m.getEpochTime.toNat * 10 ^ 6 ≤ m.wall := by
  have seconds : m.epochSeconds = m.wall / 10 ^ 6 := by simp [epochSeconds, valid]
  have wrapped : m.getEpochTime.toNat ≤ m.epochSeconds := by
    simp only [getEpochTime, UInt32.toNat_ofNat']
    exact Nat.mod_le _ _
  omega

theorem timeoutUs_reaches (now target : UInt32) :
    target.toNat * 10 ^ 6 ≤ now.toNat * 10 ^ 6 + timeoutUs now target := by
  -- the timeout reaches the alarm's epoch, also where the 32-bit sums wrap around
  unfold timeoutUs
  have buffered : (now + alarmBufferSec).toNat ≤ now.toNat + 5 := by
    rw [UInt32.toNat_add]
    exact Nat.mod_le _ _
  split
  next =>
    have difference : target.toNat ≤ now.toNat + (target - now).toNat := by
      have bound := target.toNat_lt
      rw [UInt32.toNat_sub]
      omega
    omega
  next near =>
    have close := UInt32.le_iff_toNat_le.mp (UInt32.not_lt.mp near)
    omega

def Timely (m : AlarmManager) : Prop :=
  ∀ timer head, m.timer = some timer → m.behind = false → m.alarms.head? = some head →
    m.timeValid = true ∧ head.alarm.epoch.toNat * 10 ^ 6 + m.mono ≤ m.wall + timer.deadline

theorem timely_rearmed {m after : AlarmManager} {first : Entry} (same : SameClock m after)
    (isFirst : after.alarms.head? = some first)
    (newTimer : after.timer = some ⟨m.mono + timeoutUs m.getEpochTime first.alarm.epoch, first.id⟩)
    (newBehind : after.behind = !m.timeValid) : after.Timely := by
  intro timer head isArmed inStep front
  have valid : m.timeValid = true := by simpa [newBehind] using inStep
  have reaches := timeoutUs_reaches m.getEpochTime head.alarm.epoch
  have past := getEpochTime_le_wall valid
  obtain rfl : first = head := Option.some.inj (isFirst.symm.trans front)
  obtain rfl := Option.some.inj (newTimer.symm.trans isArmed)
  rw [same.timeValid, same.mono, same.wall]
  refine ⟨valid, ?_⟩
  calc first.alarm.epoch.toNat * 10 ^ 6 + m.mono
      ≤ m.wall + timeoutUs m.getEpochTime first.alarm.epoch + m.mono :=
        Nat.add_le_add_right (reaches.trans (Nat.add_le_add_right past _)) _
    _ = m.wall + (m.mono + timeoutUs m.getEpochTime first.alarm.epoch) := by
        rw [Nat.add_assoc, Nat.add_comm m.mono]

theorem timely_scheduled (m : AlarmManager) : m.scheduleNextAlarmInternal.Timely := by
  cases list : m.alarms with
  | nil =>
      intro timer head _ _ front
      simp [list] at front
  | cons head rest =>
      refine @timely_rearmed m _ head ?_ (by simp [list]) ?_ ?_
      · exact (relisted_scheduled ⟨rfl, rfl, rfl⟩).toSameClock
      · simp only [scheduleNextAlarmInternal, list]
      · simp only [scheduleNextAlarmInternal, list]

theorem Timely.relisted {m after : AlarmManager} (timely : m.Timely) (relisted : Relisted m after) :
    after.Timely := by
  cases relisted.timing with
  | untouched sameFront sameTimer sameBehind =>
      intro timer head isArmed inStep front
      rw [relisted.timeValid, relisted.mono, relisted.wall]
      exact timely timer head (sameTimer ▸ isArmed) (sameBehind ▸ inStep) (sameFront ▸ front)
  | rearmed first isFirst newTimer newBehind =>
      exact timely_rearmed relisted.toSameClock isFirst newTimer newBehind
  | emptied empty =>
      intro timer head _ _ front
      simp [empty] at front

structure Punctual (m : AlarmManager) : Prop where
  armed : m.Timely
  expired : m.pending = true → ∀ head, m.alarms.head? = some head → m.Due head
  published : ∀ publication ∈ m.published, publication.entry ∈ publication.listed ∧
    publication.entry.alarm.epoch.toNat ≤ publication.now

/-- A delete of the front alarm must leave one that is due as well. -/
def DeleteSafe (m : AlarmManager) (index : Int) (acquired : Bool) : Prop :=
  m.pending = true → acquired = true → index = 0 → ∀ next ∈ m.alarms[1]?, m.Due next

/-- No alarm may be accepted into a list that has become empty. -/
def CreateSafe (m : AlarmManager) (alarm : Alarm) (acquired : Bool) : Prop :=
  m.pending = true → acquired = true → m.alarms = [] → ¬ m.Admits alarm

def EditSafe (m : AlarmManager) (acquired : Bool) : Edit → Prop
  | .deleting index _ _ => m.DeleteSafe index acquired
  | .creating _ new => m.CreateSafe new acquired
  | .rollback old => m.CreateSafe old acquired

/-- Between expiry and callback nothing brings an alarm to the front that is not due. -/
def Undisturbed (m : AlarmManager) : Action → Prop
  | .create alarm acquired => m.CreateSafe alarm acquired
  | .delete index acquired => m.DeleteSafe index acquired
  | .edit _ _ _ => True
  | .editStep k acquired => ∀ edit ∈ m.edits[k]?, m.EditSafe acquired edit
  | .revalidate acquired =>
      m.pending = true → acquired = true → ∀ entry ∈ m.alarms,
        m.getEpochTime + alarmBufferSec < entry.alarm.epoch → m.Due entry
  | .setTime epoch =>
      m.pending = true → ∀ head ∈ m.alarms.head?, head.alarm.epoch ≤ epoch
  | .elapse _ => True
  | .expire => m.behind = false ∨ ∀ head ∈ m.alarms.head?, m.Due head
  | .callback _ => True

theorem Undisturbed.creates {m : AlarmManager} {action : Action} {alarm : Alarm}
    (undisturbed : m.Undisturbed action) (creates : Creates m action alarm) :
    m.CreateSafe alarm true := by
  cases creates with
  | create => exact undisturbed
  | creating k old new under => exact undisturbed _ under
  | rollback k old under => exact undisturbed _ under

theorem Undisturbed.deletes {m : AlarmManager} {action : Action} {position : Nat}
    (undisturbed : m.Undisturbed action) (deletes : Deletes m action position) :
    m.DeleteSafe position true := by
  cases deletes with
  | delete => exact undisturbed
  | deleting k position old new under => exact undisturbed _ under

theorem due_of_admitted {m : AlarmManager} {alarm : Alarm} {head : Entry} {id : Nat}
    (admitted : m.Admits alarm) (due : m.Due head) (earlier : alarm.epoch < head.alarm.epoch) :
    m.Due ⟨id, alarm⟩ := by
  -- an alarm accepted in front of one that is due is due itself: its epoch has wrapped around
  have future := UInt32.lt_iff_toNat_lt.mp admitted.1
  have before := UInt32.lt_iff_toNat_lt.mp earlier
  have bound := alarm.epoch.toNat_lt
  simp only [Due] at due ⊢
  simp only [getEpochTime, UInt32.toNat_ofNat'] at future
  omega

theorem Punctual.accept {m : AlarmManager} {action : Action} {alarm : Alarm} {kept : List Entry}
    (punctual : m.Punctual) (undisturbed : m.Undisturbed action) (creates : Creates m action alarm)
    (admitted : m.Admits alarm) (keeps : Keeps m alarm kept) : (m.accept alarm kept).Punctual where
  armed := punctual.armed.relisted (accept_relisted keeps)
  expired := by
    intro pending head front
    rw [(accept_relisted keeps).due]
    rw [accept_pending] at pending
    rw [accept_alarms] at front
    rcases insertEntry_front kept ⟨m.nextId, alarm⟩ with ⟨first, earlier⟩ | ⟨_, first⟩
    · obtain rfl : head = ⟨m.nextId, alarm⟩ := Option.some.inj (front.symm.trans first)
      cases list : m.alarms with
      | nil => exact absurd admitted (undisturbed.creates creates pending rfl list)
      | cons next rest =>
          have isNext : kept.head? = some next := by rw [keeps.front, list]; rfl
          exact due_of_admitted admitted (punctual.expired pending next (by rw [list]; rfl))
            (earlier next (List.mem_of_mem_head? isNext))
    · exact punctual.expired pending head (keeps.front ▸ first ▸ front)
  published := by
    rw [accept_published]
    exact punctual.published

theorem Punctual.erase {m : AlarmManager} {action : Action} {position : Nat}
    (punctual : m.Punctual) (undisturbed : m.Undisturbed action)
    (deletes : Deletes m action position) : (m.erase position).Punctual where
  armed := punctual.armed.relisted (erase_relisted m position)
  expired := by
    intro pending head front
    rw [(erase_relisted m position).due]
    rw [erase_pending] at pending
    rw [erase_alarms] at front
    cases position with
    | zero =>
        refine undisturbed.deletes deletes pending rfl rfl head ?_
        cases list : m.alarms with
        | nil => simp [list] at front
        | cons fired rest => cases rest <;> simp_all
    | succ before =>
        refine punctual.expired pending head ?_
        cases list : m.alarms with
        | nil => simp [list] at front
        | cons first rest => simpa [list] using front
  published := by
    rw [erase_published]
    exact punctual.published

theorem Punctual.withEdits {m : AlarmManager} (punctual : m.Punctual) (edits : List Edit) :
    (m.withEdits edits).Punctual := ⟨punctual.armed, punctual.expired, punctual.published⟩

theorem Punctual.revalidate {m : AlarmManager} (punctual : m.Punctual)
    (undisturbed : m.Undisturbed (.revalidate true)) :
    (m.alarmManagerRevalidate true).2.Punctual where
  armed := punctual.armed.relisted (revalidate_relisted m true)
  expired := by
    intro pending head front
    rw [(revalidate_relisted m true).due]
    rw [revalidate_pending] at pending
    rw [revalidate_alarms] at front
    refine undisturbed pending rfl head ?_ ?_
    · exact (List.dropWhile_sublist _).subset (List.mem_of_mem_head? front)
    · have survives := List.head?_dropWhile_not
        (fun entry : Entry => decide (entry.alarm.epoch ≤ m.getEpochTime + alarmBufferSec)) m.alarms
      rw [front] at survives
      simpa using survives
  published := by
    rw [revalidate_published]
    exact punctual.published

theorem Punctual.fired {m : AlarmManager} {head : Entry} {rest : List Entry}
    (punctual : m.Punctual) (pending : m.pending = true) (list : m.alarms = head :: rest) :
    (m.popped head rest).scheduleNextAlarmInternal.Punctual where
  armed := timely_scheduled _
  expired := by simp [popped]
  published := by
    intro publication member
    simp only [scheduleNext_published, popped, List.mem_append, List.mem_singleton] at member
    rcases member with earlier | rfl
    · exact punctual.published publication earlier
    · exact ⟨by rw [list]; exact List.mem_cons_self, punctual.expired pending head (by rw [list]; rfl)⟩

theorem Punctual.expire {m : AlarmManager} {timer : Timer} (punctual : m.Punctual)
    (undisturbed : m.Undisturbed .expire) (armed : m.timer = some timer)
    (reached : timer.deadline ≤ m.mono) :
    { m with timer := none, pending := true }.Punctual where
  armed := by simp [Timely]
  expired := by
    intro _ head front
    rcases undisturbed with inStep | due
    · obtain ⟨valid, deadline⟩ := punctual.armed timer head armed inStep front
      simp only [Due, epochSeconds, valid, if_true]
      omega
    · exact due head front
  published := punctual.published

theorem Punctual.setTime {m after : AlarmManager} {epoch : UInt32} (punctual : m.Punctual)
    (undisturbed : m.Undisturbed (.setTime epoch)) (taken : m.step (.setTime epoch) = some after) :
    after.Punctual := by
  cases taken
  refine ⟨?_, ?_, punctual.published⟩
  · intro timer head isArmed inStep front
    simp only [Bool.or_eq_false_iff, decide_eq_false_iff_not] at inStep
    obtain ⟨_, deadline⟩ := punctual.armed timer head isArmed inStep.1 front
    refine ⟨rfl, ?_⟩
    dsimp only
    omega
  · intro pending head front
    have before := UInt32.le_iff_toNat_le.mp (undisturbed pending head front)
    simp only [Due, epochSeconds, if_true]
    omega

theorem Punctual.elapse {m : AlarmManager} (punctual : m.Punctual) (us : Nat) :
    { m with mono := m.mono + us, wall := m.wall + us }.Punctual where
  armed := by
    intro timer head isArmed inStep front
    obtain ⟨valid, deadline⟩ := punctual.armed timer head isArmed inStep front
    refine ⟨valid, ?_⟩
    dsimp only at isArmed ⊢
    omega
  expired := by
    intro pending head front
    have due := punctual.expired pending head front
    simp only [Due, epochSeconds] at due ⊢
    split at due
    next valid =>
      rw [if_pos valid]
      omega
    next invalid =>
      rw [if_neg invalid]
      exact due
  published := punctual.published

theorem Punctual.step {m after : AlarmManager} {action : Action} (punctual : m.Punctual)
    (undisturbed : m.Undisturbed action) (taken : m.step action = some after) : after.Punctual := by
  cases effect_of_step taken with
  | refused _ edits => exact punctual.withEdits edits
  | created _ alarm kept edits creates admitted keeps =>
      exact (punctual.accept undisturbed creates admitted keeps).withEdits edits
  | deleted _ position edits deletes => exact (punctual.erase undisturbed deletes).withEdits edits
  | revalidated => exact punctual.revalidate undisturbed
  | timeSet => exact punctual.setTime undisturbed taken
  | elapsed us => exact punctual.elapse us
  | expired timer armed reached => exact punctual.expire undisturbed armed reached
  | fired head rest pending list => exact punctual.fired pending list
  | missed => exact ⟨punctual.armed, by simp, punctual.published⟩

theorem init_punctual {m : AlarmManager} (initial : Initial m) : m.Punctual := by
  obtain ⟨rtc, mono, wall, timeValid, -, rfl⟩ := initial
  refine ⟨timely_scheduled _, ?_, ?_⟩ <;>
    simp [alarmManagerInit, discardExpiredAlarms]

def ids (m : AlarmManager) : List Nat :=
  m.published.map (fun publication => publication.entry.id) ++ m.alarms.map Entry.id

def Tracked (m : AlarmManager) : Prop := m.ids.Nodup ∧ ∀ id ∈ m.ids, id < m.nextId

theorem Tracked.sublist {m after : AlarmManager} (tracked : m.Tracked)
    (published : after.published = m.published) (listed : after.alarms.Sublist m.alarms)
    (nextId : after.nextId = m.nextId) : after.Tracked := by
  have fewer : after.ids.Sublist m.ids := by
    unfold ids
    rw [published]
    exact (listed.map Entry.id).append_left _
  exact ⟨tracked.1.sublist fewer, fun id member => nextId ▸ tracked.2 id (fewer.subset member)⟩

theorem Tracked.accept {m : AlarmManager} {alarm : Alarm} {kept : List Entry} (tracked : m.Tracked)
    (keeps : Keeps m alarm kept) : (m.accept alarm kept).Tracked := by
  have inserted : (m.accept alarm kept).ids.Perm
      (m.nextId :: (m.published.map (fun publication => publication.entry.id) ++ kept.map Entry.id)) := by
    unfold ids
    rw [accept_published, accept_alarms]
    exact (((insertEntry_perm kept ⟨m.nextId, alarm⟩).map Entry.id).append_left _).trans
      List.perm_middle
  have fewer := (keeps.sublist.map Entry.id).append_left
    (m.published.map fun publication => publication.entry.id)
  refine ⟨inserted.nodup_iff.mpr (List.nodup_cons.mpr ⟨fun taken => ?_, tracked.1.sublist fewer⟩), ?_⟩
  · exact absurd (tracked.2 _ (fewer.subset taken)) (Nat.lt_irrefl _)
  · intro id member
    rw [accept_nextId]
    rcases List.mem_cons.mp (inserted.mem_iff.mp member) with rfl | earlier
    · exact Nat.lt_succ_self _
    · exact Nat.lt_succ_of_lt (tracked.2 id (fewer.subset earlier))

theorem Tracked.step {m after : AlarmManager} {action : Action} (tracked : m.Tracked)
    (taken : m.step action = some after) : after.Tracked := by
  cases effect_of_step taken with
  | refused => exact tracked
  | created _ alarm kept edits creates admitted keeps => exact tracked.accept keeps
  | deleted _ position edits =>
      have erased : (m.erase position).Tracked := tracked.sublist (erase_published m position)
        (erase_alarms m position ▸ List.eraseIdx_sublist _ _) (erase_nextId m position)
      exact erased
  | revalidated =>
      exact tracked.sublist (revalidate_published m)
        (revalidate_alarms m ▸ List.dropWhile_sublist _) (revalidate_nextId m)
  | timeSet =>
      cases taken
      exact tracked
  | elapsed => exact tracked
  | expired => exact tracked
  | fired head rest pending list =>
      have same : (m.popped head rest).scheduleNextAlarmInternal.ids = m.ids := by
        simp [ids, popped, list]
      rw [Tracked, same, scheduleNext_nextId]
      exact tracked
  | missed => exact tracked

theorem init_tracked {m : AlarmManager} (initial : Initial m) : m.Tracked := by
  obtain ⟨rtc, mono, wall, timeValid, -, rfl⟩ := initial
  let entries := rtc.zipIdx.map fun pair => Entry.mk pair.2 pair.1
  have sorted := List.mergeSort_perm entries fun one other => one.alarm.epoch ≤ other.alarm.epoch
  have numbered : entries.map Entry.id = List.range rtc.length := by
    simp only [entries, List.map_map]
    exact (List.zipIdx_map_snd 0 rtc).trans List.range_eq_range'.symm
  have all := (sorted.map Entry.id).trans (List.Perm.of_eq numbered)
  have start : Tracked ⟨entries.mergeSort fun one other => one.alarm.epoch ≤ other.alarm.epoch,
      none, false, [], mono, wall, timeValid, rtc.length, [], false⟩ := by
    refine ⟨all.nodup_iff.mpr List.nodup_range, fun id member => ?_⟩
    exact List.mem_range.mp (all.mem_iff.mp member)
  exact start.sublist (by simp [alarmManagerInit, discardExpiredAlarms])
    (by simpa [alarmManagerInit, discardExpiredAlarms] using List.dropWhile_sublist _)
    (by simp [alarmManagerInit, discardExpiredAlarms])

instance (m : AlarmManager) (index : Int) (acquired : Bool) : Decidable (m.DeleteSafe index acquired) :=
  inferInstanceAs (Decidable (_ → _))

instance (m : AlarmManager) (alarm : Alarm) (acquired : Bool) : Decidable (m.CreateSafe alarm acquired) :=
  inferInstanceAs (Decidable (_ → _))

instance (m : AlarmManager) (acquired : Bool) (edit : Edit) : Decidable (m.EditSafe acquired edit) :=
  match edit with
  | .deleting _ _ _ => inferInstanceAs (Decidable (m.DeleteSafe _ _))
  | .creating _ _ => inferInstanceAs (Decidable (m.CreateSafe _ _))
  | .rollback _ => inferInstanceAs (Decidable (m.CreateSafe _ _))

instance (m : AlarmManager) (action : Action) : Decidable (m.Undisturbed action) :=
  match action with
  | .create _ _ => inferInstanceAs (Decidable (m.CreateSafe _ _))
  | .delete _ _ => inferInstanceAs (Decidable (m.DeleteSafe _ _))
  | .edit _ _ _ => inferInstanceAs (Decidable True)
  | .editStep k acquired => inferInstanceAs (Decidable (∀ edit ∈ m.edits[k]?, m.EditSafe acquired edit))
  | .revalidate acquired =>
      inferInstanceAs (Decidable (m.pending = true → acquired = true → ∀ entry ∈ m.alarms,
        m.getEpochTime + alarmBufferSec < entry.alarm.epoch → m.Due entry))
  | .setTime epoch =>
      inferInstanceAs (Decidable (m.pending = true → ∀ head ∈ m.alarms.head?, head.alarm.epoch ≤ epoch))
  | .elapse _ => inferInstanceAs (Decidable True)
  | .expire => inferInstanceAs (Decidable (m.behind = false ∨ ∀ head ∈ m.alarms.head?, m.Due head))
  | .callback _ => inferInstanceAs (Decidable True)

/-- What is published is listed and due, and no alarm is published twice. -/
theorem alarm_fires_when_due {m : AlarmManager} (reached : Reach step Initial Undisturbed m) :
    (∀ publication ∈ m.published, publication.entry ∈ publication.listed ∧
        publication.entry.alarm.epoch.toNat ≤ publication.now) ∧
      (m.published.map fun publication => publication.entry.id).Nodup := by
  have punctual := reached.invariant (fun _ => init_punctual)
    fun _ _ _ punctual undisturbed taken => punctual.step undisturbed taken
  have tracked := reached.invariant (fun _ => init_tracked) fun _ _ _ tracked _ taken => tracked.step taken
  exact ⟨punctual.published, (List.nodup_append.mp tracked.1).1⟩

def ringRun : List Action :=
  [.create ⟨1000060, .global, true⟩ true, .create ⟨1000020, .watch, false⟩ true,
    .edit 1 ⟨1000090, .watch, false⟩ true, .elapse (20 * 10 ^ 6), .expire, .editStep 0 true,
    .editStep 0 true, .callback true, .setTime 1000100, .revalidate true]

theorem alarm_fires_when_due_once :
    ∃ m, Reach step Initial Undisturbed m ∧ m.published.map (fun one => one.entry.id) = [1] ∧
      (∀ publication ∈ m.published, publication.entry ∈ publication.listed ∧
        publication.entry.alarm.epoch.toNat ≤ publication.now) ∧
      (m.published.map fun publication => publication.entry.id).Nodup := by
  have ran : ((run step booted ringRun).map fun m => m.published.map fun one => one.entry.id) =
      some [1] := by decide +kernel
  obtain ⟨m, taken, published⟩ := Option.map_eq_some_iff.mp ran
  have guarded : Guarded step Undisturbed booted ringRun := by decide +kernel
  have reached := (Reach.start booted_initial).of_run guarded taken
  exact ⟨m, reached, published, alarm_fires_when_due reached⟩

def deletedInGap : List Action :=
  [.create ⟨1000020, .watch, false⟩ true, .create ⟨1003600, .watch, false⟩ true,
    .elapse (20 * 10 ^ 6), .expire, .delete 0 true, .callback true]

theorem alarm_fires_early :
    ∃ m, Reach step Initial Unguarded m ∧ ∃ publication ∈ m.published,
      publication.now < publication.entry.alarm.epoch.toNat := by
  have ran : ((run step booted deletedInGap).map fun m =>
      m.published.map fun one => (one.now, one.entry.alarm.epoch)) = some [(1000020, 1003600)] := by
    decide +kernel
  obtain ⟨m, taken, published⟩ := Option.map_eq_some_iff.mp ran
  have early : (1000020, 1003600) ∈ m.published.map fun one => (one.now, one.entry.alarm.epoch) := by
    rw [published]
    exact List.mem_singleton_self _
  obtain ⟨publication, member, seen⟩ := List.mem_map.mp early
  refine ⟨m, (Reach.start booted_initial).of_run (guarded_unguarded _ _ _) taken, publication, member, ?_⟩
  obtain ⟨now, epoch⟩ := Prod.mk.inj seen
  rw [now, epoch]
  decide

end WatchFirmware.StateManager.AlarmManager
