import WatchFirmware.StateManager.AlarmSafety
import WatchFirmware.StateManager.AlarmOrder

set_option autoImplicit false

namespace WatchFirmware.StateManager

open Transition

theorem insertAlarm_perm (alarms : List Alarm) (alarm : Alarm) :
    (insertAlarm alarms alarm).Perm (alarm :: alarms) := by
  refine List.perm_middle.trans (List.Perm.cons _ ?_)
  rw [List.rdropWhile_append_rtakeWhile]

theorem insertAlarm_ascending {alarms : List Alarm} (ascending : Ascending alarms) (alarm : Alarm) :
    Ascending (insertAlarm alarms alarm) := by
  induction alarms using List.reverseRecOn with
  | nil => exact List.pairwise_singleton _ alarm
  | append_singleton front last ih =>
      obtain ⟨frontAscending, _, across⟩ := List.pairwise_append.mp ascending
      by_cases later : alarm.epoch < last.epoch
      next =>
        rw [insertAlarm_concat_later later]
        refine List.pairwise_append.mpr ⟨ih frontAscending, List.pairwise_singleton _ last, ?_⟩
        intro other member behind isLast
        rw [List.mem_singleton.mp isLast]
        rcases List.mem_cons.mp ((insertAlarm_perm front alarm).subset member) with rfl | old
        · exact UInt32.le_of_lt later
        · exact across other old last (List.mem_singleton_self last)
      next =>
        have reaches : last.epoch ≤ alarm.epoch := UInt32.not_lt.mp later
        rw [insertAlarm_concat_earlier later, show front ++ [last, alarm] = front ++ [last] ++ [alarm] by simp]
        refine List.pairwise_append.mpr ⟨ascending, List.pairwise_singleton _ alarm, ?_⟩
        intro other member _ isAlarm
        rw [List.mem_singleton.mp isAlarm]
        rcases List.mem_append.mp member with inFront | isLast
        · exact UInt32.le_trans (across other inFront last (List.mem_singleton_self last)) reaches
        · rw [List.mem_singleton.mp isLast]
          exact reaches

namespace AlarmManager

def listed (m : AlarmManager) : List Alarm := m.alarms.map Entry.alarm

def armedAlarm (m : AlarmManager) : Option Alarm :=
  m.timer.bind fun timer => (m.alarms.find? fun entry => entry.id = timer.target).map Entry.alarm

/-- The checks of `alarm_manager_create_alarm`. -/
structure Accepts (m : AlarmManager) (alarm : Alarm) (acquired : Bool) : Prop where
  acquires : acquired = true
  admits : m.Admits alarm
  fresh : ∀ other ∈ m.alarms, other.alarm.epoch ≠ alarm.epoch
  room : m.alarms.length = maxWatchAlarms →
    ∀ last ∈ m.alarms[maxWatchAlarms - 1]?, alarm.epoch < last.alarm.epoch

def kept (m : AlarmManager) : List Entry :=
  if m.alarms.length = maxWatchAlarms then m.alarms.take (maxWatchAlarms - 1) else m.alarms

/-- Which of the four locked sections get the mutex, and what others do before the last three. -/
structure EditTurns where
  validates : Bool
  deletes : Bool
  creates : Bool
  restores : Bool
  beforeDelete : List Action
  beforeCreate : List Action
  beforeRestore : List Action

/-- How a call of `alarm_manager_edit_alarm` ends. `found` is the state in which the delete began, `room`
the one in which the last create began, `others` what other tasks did from `found` on. -/
inductive EditOutcome where
  | refused (found after : AlarmManager)
  | edited (old : Alarm) (found room after : AlarmManager)
  | rolledBack (old : Alarm) (found : AlarmManager) (others : List Action) (room after : AlarmManager)
      (acquired : Bool)
  deriving DecidableEq, Repr

def editCall (m : AlarmManager) (index : Int) (new : Alarm) (turns : EditTurns) : Option EditOutcome :=
  if turns.validates = false ∨ index < 0 then some (.refused m m)
  else
    match m.alarms[index.toNat]? with
    | none => some (.refused m m)
    | some old =>
        (run step m turns.beforeDelete).bind fun found =>
          let deleted := found.alarmManagerDeleteAlarm index turns.deletes
          if deleted.1 = false then some (.refused found deleted.2)
          else
            (run step deleted.2 turns.beforeCreate).bind fun room =>
              let created := room.alarmManagerCreateAlarm new turns.creates
              if created.1 then some (.edited old.alarm found room created.2)
              else
                (run step created.2 turns.beforeRestore).map fun last =>
                  .rolledBack old.alarm found (turns.beforeCreate ++ turns.beforeRestore) last
                    (last.alarmManagerCreateAlarm old.alarm turns.restores).2 turns.restores

def Action.isQuiet : Action → Bool
  | .create _ acquired | .delete _ acquired | .edit _ _ acquired | .editStep _ acquired
  | .revalidate acquired | .callback acquired => !acquired
  | .setTime _ | .elapse _ => true
  | .expire => false

namespace EditOutcome

def returns : EditOutcome → Bool
  | .edited _ _ _ _ => true
  | .refused _ _ | .rolledBack _ _ _ _ _ _ => false

/-- On false the list and the armed alarm are what they are without the call; on true the alarm that was
validated has made place for the new one, and no other has left. -/
def Lawful (index : Int) (new : Alarm) : EditOutcome → Prop
  | .refused found after => after.listed = found.listed ∧ after.armedAlarm = found.armedAlarm
  | .edited old found room after =>
      found.listed[index.toNat]? = some old ∧ after.listed.Perm (new :: room.listed)
  | .rolledBack _ found others _ after _ =>
      ∃ without, run step found others = some without ∧ after.listed = without.listed ∧
        after.armedAlarm = without.armedAlarm

/-- The index still holds the validated alarm when the delete begins; the create finds the list not full; and
a rollback finds the old alarm acceptable, the timer having been armed if it was the first. -/
def Holds (index : Int) : EditOutcome → Prop
  | .refused _ _ => True
  | .edited old found room _ =>
      found.listed[index.toNat]? = some old ∧ room.alarms.length ≠ maxWatchAlarms
  | .rolledBack old found _ room _ acquired =>
      found.listed[index.toNat]? = some old ∧ room.Accepts old acquired ∧ (index = 0 → found.timer ≠ none)

/-- No other locked section and no timer expiry falls between the delete and the rollback. -/
def Calm : EditOutcome → Prop
  | .refused _ _ | .edited _ _ _ _ => True
  | .rolledBack _ _ others _ _ _ => ∀ action ∈ others, action.isQuiet = true

end EditOutcome

theorem insertEntry_map (alarms : List Entry) (entry : Entry) :
    (insertEntry alarms entry).map Entry.alarm = insertAlarm (alarms.map Entry.alarm) entry.alarm := by
  unfold insertEntry insertAlarm
  simp only [List.map_append, List.map_cons, List.rdropWhile, List.rtakeWhile, ← List.map_reverse,
    List.dropWhile_map, List.takeWhile_map]
  rfl

theorem insertAlarm_split {front back : List Alarm} {alarm : Alarm}
    (earlier : ∀ other ∈ front, ¬ alarm.epoch < other.epoch)
    (later : ∀ other ∈ back, alarm.epoch < other.epoch) :
    insertAlarm (front ++ back) alarm = front ++ alarm :: back := by
  induction back using List.reverseRecOn with
  | nil =>
      rw [List.append_nil]
      induction front using List.reverseRecOn with
      | nil => rfl
      | append_singleton front last _ =>
          rw [insertAlarm_concat_earlier (earlier last (by simp))]
          simp
  | append_singleton back last ih =>
      rw [← List.append_assoc, insertAlarm_concat_later (later last (by simp)),
        ih fun other inside => later other (List.mem_append_left _ inside)]
      simp

theorem insertAlarm_restores {alarms : List Alarm} {alarm : Alarm} {k : Nat} (ascending : Ascending alarms)
    (there : alarms[k]? = some alarm) (fresh : ∀ other ∈ alarms.eraseIdx k, other.epoch ≠ alarm.epoch) :
    insertAlarm (alarms.eraseIdx k) alarm = alarms := by
  obtain ⟨inside, rfl⟩ := List.getElem?_eq_some_iff.mp there
  have split : alarms = alarms.take k ++ alarms[k] :: alarms.drop (k + 1) := by
    rw [← List.drop_eq_getElem_cons inside, List.take_append_drop]
  rw [split] at ascending
  obtain ⟨_, behind, across⟩ := List.pairwise_append.mp ascending
  rw [List.eraseIdx_eq_take_drop_succ] at fresh ⊢
  rw [insertAlarm_split]
  · exact split.symm
  · intro other member
    exact UInt32.not_lt.mpr (across other member _ List.mem_cons_self)
  · intro other member
    have notBefore : alarms[k].epoch ≤ other.epoch := (List.pairwise_cons.mp behind).1 other member
    exact UInt32.lt_of_le_of_ne notBefore (fresh other (List.mem_append_right _ member)).symm

section Invariants

variable {m after : AlarmManager} {action : Action}

theorem listed_accept (m : AlarmManager) (alarm : Alarm) (kept : List Entry) :
    (m.accept alarm kept).listed = insertAlarm (kept.map Entry.alarm) alarm := by
  rw [listed, accept_alarms, insertEntry_map]

theorem ascending_sublist {fewer alarms : List Entry} (sub : fewer.Sublist alarms)
    (ascending : Ascending (alarms.map Entry.alarm)) : Ascending (fewer.map Entry.alarm) :=
  ascending.sublist (sub.map Entry.alarm)

theorem ascending_step (ascending : Ascending m.listed) (taken : m.step action = some after) :
    Ascending after.listed := by
  cases effect_of_step taken with
  | refused => exact ascending
  | created _ alarm kept edits creates admitted keeps =>
      show Ascending (m.accept alarm kept).listed
      rw [listed_accept]
      exact insertAlarm_ascending (ascending_sublist keeps.sublist ascending) alarm
  | deleted _ position edits =>
      show Ascending (m.erase position).listed
      rw [listed, erase_alarms]
      exact ascending_sublist (List.eraseIdx_sublist _ _) ascending
  | revalidated =>
      rw [listed, revalidate_alarms]
      exact ascending_sublist (List.dropWhile_sublist _) ascending
  | timeSet =>
      cases taken
      exact ascending
  | elapsed | expired => exact ascending
  | fired head rest pending list =>
      rw [listed, list] at ascending
      rw [listed, scheduleNext_alarms]
      exact ascending_sublist (List.sublist_cons_self head rest) ascending
  | missed => exact ascending

def Targets (m : AlarmManager) : Prop :=
  ∀ timer head, m.timer = some timer → m.alarms.head? = some head → timer.target = head.id

theorem Targets.relisted (targets : m.Targets) (relisted : Relisted m after) : after.Targets := by
  intro timer head armed front
  cases relisted.timing with
  | untouched sameFront sameTimer => exact targets timer head (sameTimer ▸ armed) (sameFront ▸ front)
  | rearmed first isFirst newTimer =>
      rw [isFirst] at front
      rw [newTimer] at armed
      cases front
      cases armed
      rfl
  | emptied empty => simp [empty] at front

theorem targets_scheduled (m : AlarmManager) : m.scheduleNextAlarmInternal.Targets := by
  intro timer head armed front
  rw [scheduleNext_alarms] at front
  cases list : m.alarms with
  | nil => simp [list] at front
  | cons first rest =>
      rw [list] at front
      simp only [scheduleNextAlarmInternal, list] at armed
      cases front
      cases armed
      rfl

theorem targets_step (targets : m.Targets) (taken : m.step action = some after) : after.Targets := by
  cases effect_of_step taken with
  | refused => exact targets
  | created _ alarm kept edits creates admitted keeps =>
      have accepted := targets.relisted (accept_relisted keeps)
      exact accepted
  | deleted _ position =>
      have erased := targets.relisted (erase_relisted m position)
      exact erased
  | revalidated => exact targets.relisted (revalidate_relisted m true)
  | timeSet =>
      cases taken
      exact targets
  | elapsed => exact targets
  | expired => exact fun _ _ armed => by cases armed
  | fired => exact targets_scheduled _
  | missed => exact targets

theorem create_accepted {alarm : Alarm} {acquired : Bool} (accepts : m.Accepts alarm acquired) :
    m.alarmManagerCreateAlarm alarm acquired = (true, m.accept alarm m.kept) := by
  obtain ⟨rfl, ⟨future, buffered, near⟩, fresh, room⟩ := accepts
  unfold alarmManagerCreateAlarm
  have noDuplicate : (m.alarms.any fun other => other.alarm.epoch = alarm.epoch) = false := by
    simpa using fresh
  have evictable : ¬ (m.alarms.length = maxWatchAlarms ∧
      (m.alarms[maxWatchAlarms - 1]?).any fun last => last.alarm.epoch ≤ alarm.epoch) := by
    rintro ⟨full, notLater⟩
    obtain ⟨last, there, reaches⟩ := Option.any_eq_true _ _ |>.mp notLater
    exact UInt32.not_le.mpr (room full last there) (of_decide_eq_true reaches)
  simp only [if_true]
  rw [if_neg (by rw [not_or]; exact ⟨UInt32.not_le.mpr future, UInt32.not_le.mpr buffered⟩),
    if_neg (UInt32.not_lt.mpr near), if_neg (by rw [noDuplicate]; simp), if_neg evictable]
  rfl

theorem create_refused {alarm : Alarm} {acquired : Bool} (refuses : ¬ m.Accepts alarm acquired) :
    m.alarmManagerCreateAlarm alarm acquired = (false, m) := by
  rcases createAlarm_cases m alarm acquired with same | ⟨rfl, admitted, _, _, created⟩
  · exact same
  · refine absurd ⟨rfl, admitted, ?_, ?_⟩ refuses
    · intro other member same
      have duplicate : (m.alarms.any fun other => other.alarm.epoch = alarm.epoch) = true :=
        List.any_eq_true.mpr ⟨other, member, decide_eq_true same⟩
      unfold alarmManagerCreateAlarm at created
      simp only [if_true, duplicate] at created
      split at created
      next => cases created
      next => split at created <;> cases created
    · intro full last there
      by_contra notEarlier
      have isLast : (m.alarms[maxWatchAlarms - 1]?).any (fun last => last.alarm.epoch ≤ alarm.epoch) = true := by
        rw [there]
        exact decide_eq_true (UInt32.not_lt.mp notEarlier)
      unfold alarmManagerCreateAlarm at created
      simp only [if_true, full, isLast, and_self] at created
      split at created
      next => cases created
      next =>
        split at created
        next => cases created
        next => split at created <;> cases created

theorem kept_bounded (bounded : m.alarms.length ≤ maxWatchAlarms) : m.kept.length < maxWatchAlarms := by
  unfold kept
  split
  next =>
    rw [List.length_take]
    exact Nat.lt_of_le_of_lt (Nat.min_le_left _ _) (by decide)
  next notFull => exact Nat.lt_of_le_of_ne bounded notFull

theorem insertEntry_length (alarms : List Entry) (entry : Entry) :
    (insertEntry alarms entry).length = alarms.length + 1 :=
  (insertEntry_perm alarms entry).length_eq

theorem create_bounded (alarm : Alarm) (acquired : Bool) (bounded : m.alarms.length ≤ maxWatchAlarms) :
    (m.alarmManagerCreateAlarm alarm acquired).2.alarms.length ≤ maxWatchAlarms := by
  by_cases accepts : m.Accepts alarm acquired
  · rw [create_accepted accepts, accept_alarms, insertEntry_length]
    exact kept_bounded bounded
  · rw [create_refused accepts]
    exact bounded

theorem creates_alarms {alarm : Alarm} (creates : Creates m action alarm) (taken : m.step action = some after) :
    after.alarms = (m.alarmManagerCreateAlarm alarm true).2.alarms := by
  cases creates with
  | create =>
      cases taken
      rfl
  | creating k old new under | rollback k old under =>
      simp only [AlarmManager.step, AlarmManager.editStep, under, Option.some.injEq] at taken
      subst taken
      first | rfl | (split <;> rfl)

theorem bounded_step (bounded : m.alarms.length ≤ maxWatchAlarms) (taken : m.step action = some after) :
    after.alarms.length ≤ maxWatchAlarms := by
  have fewer {alarms : List Entry} (sub : alarms.Sublist m.alarms) : alarms.length ≤ maxWatchAlarms :=
    Nat.le_trans sub.length_le bounded
  cases effect_of_step taken with
  | created _ alarm kept edits creates =>
      rw [creates_alarms creates taken]
      exact create_bounded alarm true bounded
  | refused | elapsed | expired | missed => exact bounded
  | deleted _ position =>
      show (m.erase position).alarms.length ≤ maxWatchAlarms
      rw [erase_alarms]
      exact fewer (List.eraseIdx_sublist _ _)
  | revalidated =>
      rw [revalidate_alarms]
      exact fewer (List.dropWhile_sublist _)
  | timeSet =>
      cases taken
      exact bounded
  | fired head rest pending list =>
      rw [scheduleNext_alarms]
      exact fewer (list ▸ List.sublist_cons_self head rest)

structure Aligned (m : AlarmManager) : Prop where
  ascending : Ascending m.listed
  targets : m.Targets
  bounded : m.alarms.length ≤ maxWatchAlarms

theorem aligned_of_reach (reached : Reach step Initial Unguarded m) : m.Aligned := by
  refine ⟨?_, ?_, ?_⟩
  · refine reached.invariant ?_ fun _ _ _ ascending _ taken => ascending_step ascending taken
    rintro _ ⟨rtc, mono, wall, timeValid, -, rfl⟩
    unfold alarmManagerInit listed
    rw [scheduleNext_alarms]
    refine ascending_sublist (List.dropWhile_sublist _) ?_
    refine List.pairwise_map.mpr ((List.pairwise_mergeSort ?_ ?_ _).imp of_decide_eq_true)
    · intro one other last before behind
      simp only [decide_eq_true_eq] at before behind ⊢
      exact UInt32.le_trans before behind
    · intro one other
      simp only [Bool.or_eq_true, decide_eq_true_eq]
      exact UInt32.le_total one.alarm.epoch other.alarm.epoch
  · refine reached.invariant ?_ fun _ _ _ targets _ taken => targets_step targets taken
    rintro _ ⟨rtc, mono, wall, timeValid, -, rfl⟩
    exact targets_scheduled _
  · refine reached.invariant ?_ fun _ _ _ bounded _ taken => bounded_step bounded taken
    rintro _ ⟨rtc, mono, wall, timeValid, fits, rfl⟩
    unfold alarmManagerInit
    rw [scheduleNext_alarms]
    refine Nat.le_trans (List.dropWhile_sublist _).length_le ?_
    simpa using fits

theorem delete_cases {index : Int} {acquired : Bool}
    (deleted : (m.alarmManagerDeleteAlarm index acquired).1 = true) :
    0 ≤ index ∧ index.toNat < m.alarms.length ∧
      (m.alarmManagerDeleteAlarm index acquired).2 = m.erase index.toNat := by
  rcases deleteAlarm_cases m index acquired with refused | ⟨_, position, rfl, within, same⟩
  · rw [refused] at deleted
    cases deleted
  · exact ⟨Int.natCast_nonneg position, within, by rw [same]; rfl⟩

theorem delete_refused {index : Int} {acquired : Bool}
    (kept : (m.alarmManagerDeleteAlarm index acquired).1 = false) :
    (m.alarmManagerDeleteAlarm index acquired).2 = m := by
  rcases deleteAlarm_cases m index acquired with refused | ⟨_, position, rfl, within, same⟩
  · rw [refused]
  · rw [same] at kept
    cases kept

structure SameList (m after : AlarmManager) : Prop where
  alarms : after.alarms = m.alarms
  timer : after.timer = m.timer

theorem SameList.listed (same : SameList m after) : after.listed = m.listed := by
  unfold AlarmManager.listed
  rw [same.alarms]

theorem SameList.armedAlarm (same : SameList m after) : after.armedAlarm = m.armedAlarm := by
  unfold AlarmManager.armedAlarm
  rw [same.alarms, same.timer]

theorem quiet_step {twin : AlarmManager} (quiet : action.isQuiet = true) (taken : m.step action = some after)
    (edits : twin.edits = m.edits) (pending : twin.pending = m.pending) :
    SameList m after ∧ ∃ next, twin.step action = some next ∧ SameList twin next ∧
      next.edits = after.edits ∧ next.pending = after.pending := by
  cases action with
  | create | delete | edit | revalidate =>
      obtain rfl : _ = false := by simpa [Action.isQuiet] using quiet
      cases taken
      exact ⟨⟨rfl, rfl⟩, twin, rfl, ⟨rfl, rfl⟩, edits, pending⟩
  | editStep k acquired =>
      obtain rfl : acquired = false := by simpa [Action.isQuiet] using quiet
      simp only [AlarmManager.step, AlarmManager.editStep, edits] at taken ⊢
      cases under : m.edits[k]? with
      | none => simp [under] at taken
      | some edit =>
          simp only [under] at taken ⊢
          cases edit with
          | deleting | creating | rollback =>
              cases taken
              exact ⟨⟨rfl, rfl⟩, _, rfl, ⟨rfl, rfl⟩, by simp [edits, alarmManagerDeleteAlarm, alarmManagerCreateAlarm], pending⟩
  | setTime | elapse =>
      cases taken
      exact ⟨⟨rfl, rfl⟩, _, rfl, ⟨rfl, rfl⟩, edits, pending⟩
  | expire => cases quiet
  | callback acquired =>
      obtain rfl : acquired = false := by simpa [Action.isQuiet] using quiet
      simp only [AlarmManager.step, Option.ite_none_right_eq_some, Option.some.injEq] at taken ⊢
      obtain ⟨isPending, rfl⟩ := taken
      exact ⟨⟨rfl, rfl⟩, _, ⟨pending.trans isPending, rfl⟩, ⟨rfl, rfl⟩, edits, rfl⟩

theorem quiet_run {twin : AlarmManager} {actions : List Action}
    (quiet : ∀ action ∈ actions, action.isQuiet = true) (taken : run step m actions = some after)
    (edits : twin.edits = m.edits) (pending : twin.pending = m.pending) :
    SameList m after ∧ ∃ last, run step twin actions = some last ∧ SameList twin last := by
  induction actions generalizing m twin with
  | nil =>
      cases taken
      exact ⟨⟨rfl, rfl⟩, twin, rfl, ⟨rfl, rfl⟩⟩
  | cons action rest ih =>
      obtain ⟨middle, first, remaining⟩ := Option.bind_eq_some_iff.mp taken
      obtain ⟨same, next, stepped, sameTwin, sameEdits, samePending⟩ :=
        quiet_step (quiet action List.mem_cons_self) first edits pending
      obtain ⟨sameRest, last, ran, sameLast⟩ :=
        ih (fun other member => quiet other (List.mem_cons_of_mem _ member)) remaining sameEdits samePending
      refine ⟨⟨sameRest.alarms.trans same.alarms, sameRest.timer.trans same.timer⟩, last, ?_, ?_⟩
      · exact Option.bind_eq_some_iff.mpr ⟨next, stepped, ran⟩
      · exact ⟨sameLast.alarms.trans sameTwin.alarms, sameLast.timer.trans sameTwin.timer⟩


theorem armedAlarm_eq (targets : m.Targets) : m.armedAlarm = m.timer.bind fun _ => m.listed.head? := by
  unfold armedAlarm listed
  cases armed : m.timer with
  | none => rfl
  | some timer =>
      cases list : m.alarms with
      | nil => rfl
      | cons head rest =>
          have target := targets timer head armed (by rw [list]; rfl)
          simp [target]

theorem erase_edits (m : AlarmManager) (position : Nat) : (m.erase position).edits = m.edits := by
  unfold erase
  dsimp only
  split
  · split <;> simp
  · rfl

theorem erase_listed (m : AlarmManager) (position : Nat) :
    (m.erase position).listed = m.listed.eraseIdx position := by
  rw [listed, erase_alarms, listed, List.eraseIdx_map]

theorem erase_timer_behind (m : AlarmManager) (position : Nat) :
    (m.erase (position + 1)).timer = m.timer := rfl

section Restore

variable {found last : AlarmManager} {k : Nat} {old : Alarm} {acquired : Bool}

theorem kept_erased (aligned : found.Aligned) (inside : k < found.alarms.length)
    (same : SameList (found.erase k) last) : last.kept = last.alarms := by
  have bounded := aligned.bounded
  unfold kept
  rw [if_neg]
  rw [same.alarms, erase_alarms, List.length_eraseIdx_of_lt inside]
  omega

theorem restored_listed (aligned : found.Aligned) (inside : k < found.alarms.length)
    (same : SameList (found.erase k) last) (accepts : last.Accepts old acquired) :
    (last.alarmManagerCreateAlarm old acquired).2.listed = insertAlarm (found.listed.eraseIdx k) old := by
  rw [create_accepted accepts, listed_accept, kept_erased aligned inside same]
  exact congrArg (insertAlarm · old) (same.listed.trans (erase_listed found k))

theorem restored_iff (aligned : found.Aligned) (inside : k < found.alarms.length)
    (same : SameList (found.erase k) last) :
    (last.alarmManagerCreateAlarm old acquired).2.listed = found.listed ↔
      found.listed[k]? = some old ∧ last.Accepts old acquired := by
  have fewer : last.listed = found.listed.eraseIdx k := same.listed.trans (erase_listed found k)
  have within : k < found.listed.length := by rwa [listed, List.length_map]
  constructor
  · intro back
    by_cases accepts : last.Accepts old acquired
    next =>
      rw [restored_listed aligned inside same accepts] at back
      have swapped : (old :: found.listed.eraseIdx k).Perm (found.listed[k] :: found.listed.eraseIdx k) :=
        (insertAlarm_perm _ old).symm.trans ((List.Perm.of_eq back).trans
          (List.getElem_cons_eraseIdx_perm within).symm)
      have isOld : old = found.listed[k] := by
        have counted := swapped.count_eq old
        rw [List.count_cons_self, List.count_cons] at counted
        by_contra different
        rw [if_neg (by simpa using Ne.symm different)] at counted
        omega
      exact ⟨isOld ▸ List.getElem?_eq_getElem within, accepts⟩
    next =>
      -- A refused rollback leaves the list one alarm short.
      rw [create_refused accepts] at back
      have short := congrArg List.length (fewer.symm.trans back)
      rw [List.length_eraseIdx_of_lt within] at short
      omega
  · intro ⟨there, accepts⟩
    rw [restored_listed aligned inside same accepts]
    apply insertAlarm_restores aligned.ascending there
    intro other member
    rw [← fewer] at member
    obtain ⟨entry, isListed, rfl⟩ := List.mem_map.mp member
    exact accepts.fresh entry isListed

theorem listed_head (m : AlarmManager) : m.listed.head? = m.alarms.head?.map Entry.alarm :=
  List.head?_map

theorem accept_first {alarm : Alarm} {kept : List Entry}
    (fresh : ∀ other ∈ kept, other.alarm.epoch ≠ alarm.epoch)
    (front : (m.accept alarm kept).listed.head? = some alarm) : (m.accept alarm kept).timer ≠ none := by
  rw [listed_head, accept_alarms] at front
  rcases insertEntry_front kept ⟨m.nextId, alarm⟩ with ⟨first, _⟩ | ⟨_, behind⟩
  · unfold accept scheduleNextAlarmInternal
    dsimp only
    rw [if_pos first]
    cases list : insertEntry kept ⟨m.nextId, alarm⟩ with
    | nil => simp [list] at first
    | cons => simp
  · rw [behind] at front
    obtain ⟨other, isHead, same⟩ := Option.map_eq_some_iff.mp front
    exact absurd (congrArg Alarm.epoch same) (fresh other (List.mem_of_mem_head? isHead))

theorem accept_behind {alarm head : Alarm} {kept : List Entry} (other : head ≠ alarm)
    (front : (m.accept alarm kept).listed.head? = some head) : (m.accept alarm kept).timer = m.timer := by
  rw [listed_head, accept_alarms] at front
  unfold accept
  dsimp only
  rw [if_neg]
  intro first
  rw [first] at front
  exact other (Option.some.inj front).symm

theorem restored_armed (aligned : found.Aligned) (inside : k < found.alarms.length)
    (same : SameList (found.erase k) last) (there : found.listed[k]? = some old)
    (accepts : last.Accepts old acquired) :
    (last.alarmManagerCreateAlarm old acquired).2.armedAlarm = found.armedAlarm ↔
      (k = 0 → found.timer ≠ none) := by
  -- a rollback that restores the list restores the armed alarm too, unless the delete armed a timer anew
  have back := (restored_iff aligned inside same).mpr ⟨there, accepts⟩
  have erased := aligned.targets.relisted (erase_relisted found k)
  have targets : last.Targets := by
    intro timer head armed front
    exact erased timer head (same.timer ▸ armed) (same.alarms ▸ front)
  have keeps : Keeps last old last.alarms := .all
  have after := targets.relisted (accept_relisted keeps)
  rw [create_accepted accepts, kept_erased aligned inside same] at back ⊢
  rw [armedAlarm_eq after, armedAlarm_eq aligned.targets, back]
  cases k with
  | zero =>
      have head : found.listed.head? = some old := List.head?_eq_getElem?.trans there
      have first := accept_first accepts.fresh (back ▸ head)
      obtain ⟨timer, armed⟩ := Option.ne_none_iff_exists'.mp first
      rw [armed, head]
      cases found.timer <;> simp
  | succ k =>
      have listedHead : found.listed.head? = last.listed.head? := by
        rw [same.listed, erase_listed]
        cases found.listed <;> rfl
      obtain ⟨head, isHead⟩ : ∃ head, last.listed.head? = some head := by
        rw [← listedHead]
        cases list : found.listed with
        | nil => simp [list] at there
        | cons head _ => exact ⟨head, rfl⟩
      have unchanged : (last.accept old last.alarms).timer = last.timer := by
        refine accept_behind ?_ (back ▸ listedHead.trans isHead)
        rintro rfl
        obtain ⟨entry, isListed, sameAlarm⟩ := List.mem_map.mp (List.mem_of_mem_head? isHead)
        exact accepts.fresh entry isListed (congrArg Alarm.epoch sameAlarm)
      rw [unchanged, same.timer, erase_timer_behind]
      simp

end Restore

theorem edited_iff {room : AlarmManager} {new : Alarm} {acquired : Bool} (accepts : room.Accepts new acquired)
    (bounded : room.alarms.length ≤ maxWatchAlarms) :
    (room.alarmManagerCreateAlarm new acquired).2.listed.Perm (new :: room.listed) ↔
      room.alarms.length ≠ maxWatchAlarms := by
  rw [create_accepted accepts, listed_accept]
  have inserted := insertAlarm_perm (room.kept.map Entry.alarm) new
  constructor
  · intro permuted full
    have lengths := (inserted.symm.trans permuted).length_eq
    have shorter := kept_bounded bounded
    simp only [List.length_cons, List.length_map, listed] at lengths
    omega
  · intro notFull
    have all : room.kept = room.alarms := if_neg notFull
    rw [all] at inserted ⊢
    exact inserted

theorem created_accepts {alarm : Alarm} {acquired : Bool}
    (created : (m.alarmManagerCreateAlarm alarm acquired).1 = true) : m.Accepts alarm acquired := by
  by_contra refuses
  rw [create_refused refuses] at created
  cases created

theorem refused_unchanged {alarm : Alarm} {acquired : Bool}
    (refused : (m.alarmManagerCreateAlarm alarm acquired).1 = false) :
    (m.alarmManagerCreateAlarm alarm acquired).2 = m := by
  by_cases accepts : m.Accepts alarm acquired
  next =>
    rw [create_accepted accepts] at refused
    cases refused
  next => rw [create_refused accepts]

theorem erase_bounded (position : Nat) (bounded : m.alarms.length ≤ maxWatchAlarms) :
    (m.erase position).alarms.length ≤ maxWatchAlarms := by
  rw [erase_alarms]
  exact Nat.le_trans (List.eraseIdx_sublist _ _).length_le bounded

theorem bounded_run {actions : List Action} (bounded : m.alarms.length ≤ maxWatchAlarms)
    (ran : run step m actions = some after) : after.alarms.length ≤ maxWatchAlarms := by
  induction actions generalizing m with
  | nil =>
      cases ran
      exact bounded
  | cons action rest ih =>
      obtain ⟨next, taken, remaining⟩ := Option.bind_eq_some_iff.mp ran
      exact ih (bounded_step bounded taken) remaining

theorem rolledBack_iff {found last : AlarmManager} {index : Int} {old new : Alarm} {acquired : Bool}
    {others : List Action} (aligned : found.Aligned) (notNegative : 0 ≤ index)
    (inside : index.toNat < found.alarms.length) (quiet : ∀ action ∈ others, action.isQuiet = true)
    (ran : run step (found.erase index.toNat) others = some last) :
    let outcome : EditOutcome :=
      .rolledBack old found others last (last.alarmManagerCreateAlarm old acquired).2 acquired
    outcome.Lawful index new ↔ outcome.Holds index := by
  have edits : found.edits = (found.erase index.toNat).edits := (erase_edits _ _).symm
  obtain ⟨same, without, ranWithout, sameWithout⟩ := quiet_run quiet ran edits (erase_pending _ _).symm
  constructor
  · intro ⟨other, ranOther, sameList, sameArmed⟩
    obtain rfl : without = other := Option.some.inj (ranWithout.symm.trans ranOther)
    rw [sameWithout.listed] at sameList
    rw [sameWithout.armedAlarm] at sameArmed
    obtain ⟨there, accepts⟩ := (restored_iff aligned inside same).mp sameList
    have armed := (restored_armed aligned inside same there accepts).mp sameArmed
    exact ⟨there, accepts, fun zero => armed (by omega)⟩
  · intro ⟨there, accepts, armed⟩
    refine ⟨without, ranWithout, ?_, ?_⟩
    · rw [sameWithout.listed]
      exact (restored_iff aligned inside same).mpr ⟨there, accepts⟩
    · rw [sameWithout.armedAlarm]
      exact (restored_armed aligned inside same there accepts).mpr fun zero => armed (by omega)

theorem edit_atomic_iff (reached : Reach step Initial Unguarded m) {index : Int} {new : Alarm}
    {turns : EditTurns} {outcome : EditOutcome} (called : m.editCall index new turns = some outcome)
    (calm : outcome.Calm) : outcome.Lawful index new ↔ outcome.Holds index := by
  unfold editCall at called
  split at called
  next =>
    cases called
    exact ⟨fun _ => trivial, fun _ => ⟨rfl, rfl⟩⟩
  next valid =>
    cases there : m.alarms[index.toNat]? with
    | none =>
        rw [there] at called
        cases called
        exact ⟨fun _ => trivial, fun _ => ⟨rfl, rfl⟩⟩
    | some entry =>
        simp only [there] at called
        obtain ⟨found, ranDelete, called⟩ := Option.bind_eq_some_iff.mp called
        have reachedFound := reached.of_run (guarded_unguarded _ _ _) ranDelete
        split at called
        next kept =>
          cases called
          rw [delete_refused kept]
          exact ⟨fun _ => trivial, fun _ => ⟨rfl, rfl⟩⟩
        next deleted =>
          obtain ⟨room, ranCreate, called⟩ := Option.bind_eq_some_iff.mp called
          obtain ⟨notNegative, inside, erased⟩ := delete_cases (Bool.eq_true_of_not_eq_false deleted)
          rw [erased] at ranCreate
          have aligned := aligned_of_reach reachedFound
          split at called
          next created =>
            cases called
            have bounded := bounded_run (erase_bounded index.toNat aligned.bounded) ranCreate
            exact and_congr_right fun _ => edited_iff (created_accepts created) bounded
          next refused =>
            obtain ⟨last, ranRestore, rfl⟩ := Option.map_eq_some_iff.mp called
            rw [refused_unchanged (Bool.eq_false_of_not_eq_true refused)] at ranRestore
            have ran := (run_append step _ turns.beforeCreate turns.beforeRestore).trans
              (Option.bind_eq_some_iff.mpr ⟨room, ranCreate, ranRestore⟩)
            exact rolledBack_iff aligned notNegative inside calm ran

end Invariants

def soon : Alarm := ⟨1000020, .watch, false⟩
def late : Alarm := ⟨1000090, .watch, false⟩
def past : Alarm := ⟨999999, .watch, false⟩

def promptly : EditTurns := ⟨true, true, true, true, [], [], []⟩

def twoListed (mono : Nat) : AlarmManager :=
  ⟨[⟨0, soon⟩, ⟨1, late⟩], some ⟨20000000, 0⟩, false, [], mono, 1000000 * 10 ^ 6 + mono, true, 2, [], false⟩

def oneLeft (mono : Nat) : AlarmManager :=
  { twoListed mono with alarms := [⟨1, late⟩], timer := some ⟨90000000, 1⟩ }

def putBack : AlarmManager :=
  { twoListed 0 with alarms := [⟨2, soon⟩, ⟨1, late⟩], timer := some ⟨20000000, 2⟩, nextId := 3 }

theorem twoListed_reached {mono : Nat}
    (ran : run step booted [.create soon true, .create late true, .elapse mono] = some (twoListed mono)) :
    Reach step Initial Unguarded (twoListed mono) :=
  (Reach.start booted_initial).of_run (guarded_unguarded _ _ _) ran

theorem edit_atomic_rolled_back :
    (twoListed 0).editCall 0 past promptly =
        some (.rolledBack soon (twoListed 0) [] (oneLeft 0) putBack true) ∧
      (EditOutcome.rolledBack soon (twoListed 0) [] (oneLeft 0) putBack true).Lawful 0 past := by
  have called : (twoListed 0).editCall 0 past promptly =
      some (.rolledBack soon (twoListed 0) [] (oneLeft 0) putBack true) := by decide +kernel
  have reached : Reach step Initial Unguarded (twoListed 0) := twoListed_reached (by decide +kernel)
  refine ⟨called, (edit_atomic_iff reached called (by simp [EditOutcome.Calm])).mpr ⟨rfl, ?_, by simp [twoListed]⟩⟩
  have admits : (oneLeft 0).Admits soon := by decide +kernel
  refine ⟨rfl, admits, by decide, ?_⟩
  intro full
  simp [oneLeft, maxWatchAlarms] at full

/-- Four seconds before it is due, the old alarm is too near to be put back. -/
theorem edit_loses_alarm :
    ∃ m outcome, Reach step Initial Unguarded m ∧ m.editCall 0 past promptly = some outcome ∧
      outcome.returns = false ∧ ¬ outcome.Lawful 0 past := by
  let us := 16 * 10 ^ 6
  have reached : Reach step Initial Unguarded (twoListed us) := twoListed_reached (by decide +kernel)
  refine ⟨twoListed us, .rolledBack soon (twoListed us) [] (oneLeft us) (oneLeft us) true, reached,
    by decide +kernel, rfl, ?_⟩
  intro ⟨without, ran, sameList, _⟩
  cases ran
  exact absurd sameList (by decide)

end AlarmManager

end WatchFirmware.StateManager
