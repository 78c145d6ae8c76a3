import WatchFirmware.RuntimeManager.Deferral

set_option autoImplicit false

namespace WatchFirmware.RuntimeManager

open Transition

variable {Call : Type}

namespace Runtime

def SparesItem (s : Runtime Call) (i : WorkerId) : Prop :=
  (s.workers i).live = true → ∀ work ∈ s.held i, work ∈ s.ledger.accepted →
    (s.workers i).pc = .handle work true

def SectionConserves (s : Runtime Call) : Section Call → Prop
  | .drainPending queue => s.pendings queue ≠ [] → (s.queues queue).length < queueCapacity queue
  | .recover i .delete _ => s.SparesItem i
  | _ => True

def Request.schedules : Request Call → Bool
  | .scheduleWork _ _ => true
  | .getState | .registerHook _ | .unregisterHook _ => false

/-- No schedule call times out, no drain meets a full queue, and a recovery deletes no worker with an
accepted item outside such a handler. -/
def Conserves (s : Runtime Call) : Action Call → Prop
  | .requestTimeout request | .callTimeout _ request => Request.schedules request = false
  | .timerTask _ => ∀ i, s.timerTask = .recover i .delete → s.SparesItem i
  | .advance _ => s.SectionConserves s.running
  | _ => True

section Kept

variable {s after : Runtime Call} {action : Action Call} {next : Items Call}

theorem Flow.kept (flow : Flow s action next) (conserves : s.Conserves action)
    (known : ∀ work ∈ s.ledger.lost, work.id < s.ledger.nextId)
    (kept : ∀ work ∈ s.ledger.lost, work ∉ s.ledger.accepted) :
    ∀ work ∈ next.ledger.lost, work ∉ next.ledger.accepted := by
  intro work lost
  have older : ∀ {new : Work Call}, new.id = s.ledger.nextId → work ∈ s.ledger.lost →
      work ∉ s.ledger.accepted ++ [new] := by
    intro new isNext lost accepted
    rcases List.mem_append.mp accepted with old | isNew
    · exact kept work lost old
    · have below := known work lost
      rw [List.mem_singleton.mp isNew, isNext] at below
      exact Nat.lt_irrefl _ below
  cases flow with
  | still | take | finish | drain | purge | hook => exact kept work lost
  | send | defer => exact older rfl lost
  | refuse queue item timesOut =>
      rcases timesOut with rfl | ⟨i, rfl⟩ <;> cases conserves
  | drop queue _ _ created isTurn running list full =>
      subst isTurn
      have room : s.SectionConserves s.running := conserves
      rw [running] at room
      exact absurd (room (by simp [list])) (Nat.not_lt.mpr full)
  | abandon i live deletes =>
      have spares : s.SparesItem i := by
        cases action with
        | timerTask created => exact conserves i deletes
        | advance created =>
            obtain ⟨rest, running⟩ := deletes
            have spares : s.SectionConserves s.running := conserves
            rw [running] at spares
            exact spares
        | _ => exact deletes.elim
      obtain ⟨_, _, accepted, -⟩ := abandon_rest s.ledger (s.workers i).pc
      simp only [Ledger.unmarked, accepted]
      intro isAccepted
      unfold Ledger.abandon at lost
      split at lost
      · exact kept work lost isAccepted
      next away =>
        rcases List.mem_append.mp lost with old | new
        · exact kept work old isAccepted
        · exact away work (spares live work new isAccepted)

theorem kept_of_reach (reached : Reach Runtime.step Initial Conserves s) :
    ∀ work ∈ s.ledger.lost, work ∉ s.ledger.accepted := by
  induction reached with
  | start initial =>
      rw [Initial.ledger initial]
      exact List.forall_mem_nil _
  | next before conserves taken kept =>
      have booked := (accounted_of_reach before).booked
      refine (flow_of_step (orderly_of_reach before) taken).kept conserves (fun work lost => ?_) kept
      exact booked.known (booked.perm.subset (List.mem_append_right _ lost))

end Kept

/-- Every accepted item is in exactly one place, and the items of a queue keep their order. -/
theorem work_conserved {s : Runtime Call} (reached : Reach step Initial Conserves s) :
    (∀ work ∈ s.ledger.accepted, work ∈ s.items.places) ∧ s.items.places.Nodup ∧
      (∀ entry ∈ s.ledger.purged, entry.1.queue = .user ∧ entry.1.id < entry.2) ∧
      (s.ledger.accepted.Pairwise fun first second => first.id < second.id) ∧
      ∀ queue, (s.ledger.taken queue ++ s.queues queue ++ s.pendings queue).Pairwise
        fun first second => first.id < second.id := by
  obtain ⟨booked, _, _, graced⟩ := accounted_of_reach reached
  refine ⟨fun work accepted => ?_, booked.nodup.of_append_left, graced.purged,
    booked.increasing.sublist booked.accepted, fun queue => (booked.line queue).increasing⟩
  have entered := booked.perm.mem_iff.mpr (booked.accepted.subset accepted)
  rcases List.mem_append.mp entered with found | lost
  · exact found
  · exact absurd accepted (kept_of_reach reached work lost)

instance [DecidableEq Call] (s : Runtime Call) (i : WorkerId) : Decidable (s.SparesItem i) :=
  inferInstanceAs (Decidable ((s.workers i).live = true → ∀ work ∈ s.held i, work ∈ s.ledger.accepted →
    (s.workers i).pc = .handle work true))

instance [DecidableEq Call] (s : Runtime Call) (body : Section Call) :
    Decidable (s.SectionConserves body) :=
  match body with
  | .drainPending queue =>
      inferInstanceAs (Decidable (s.pendings queue ≠ [] →
        (s.queues queue).length < queueCapacity queue))
  | .recover i .delete _ => inferInstanceAs (Decidable (s.SparesItem i))
  | .recover _ .stop _ | .recover _ .exchange _ | .recover _ .subtract _ | .recover _ .create _
  | .recover _ .clearAbort _ | .recover _ .clearWorking _ | .recover _ .park _ | .scheduleWork _ _ | .getState
  | .registerHook _ | .unregisterHook _ | .resetSettlementTimer | .startWork | .evaluateEarlyCurfew
  | .workWindowExpiry | .gracePeriodExpiry | .curfewSettlementExpiry | .hasWork _ _ | .idle _
  | .busy _ | .submitHooks _ | .sleep _ | .forceAbort _ | .suspendAll | .done =>
      inferInstanceAs (Decidable True)

instance [DecidableEq Call] (s : Runtime Call) (action : Action Call) : Decidable (s.Conserves action) :=
  match action with
  | .requestTimeout request | .callTimeout _ request =>
      inferInstanceAs (Decidable (Request.schedules request = false))
  | .timerTask _ =>
      inferInstanceAs (Decidable (∀ i, s.timerTask = .recover i .delete → s.SparesItem i))
  | .advance _ => inferInstanceAs (Decidable (s.SectionConserves s.running))
  | .request _ | .workTick | .setActiveState _ | .elapse _ | .worker _ | .workerTimeout _
  | .call _ _ | .fire _ | .timerTimeout => inferInstanceAs (Decidable True)

def overlongHandlers : List (Action Nat) :=
  [.request (.scheduleUserWork (userItem 1))] ++ advances 2 ++
    [.request (.scheduleUserWork (userItem 2))] ++ advances 2 ++
    [.request (.scheduleUserWork (userItem 3))] ++ advances 2 ++ [.workTick] ++ advances 7 ++
    startHandler 0 ++ startHandler 1 ++ [.elapse 700000, .fire .window, .timerTask true] ++ advances 5 ++
    [.request (.scheduleSystemWork (systemItem 4))] ++ advances 2 ++
    [.elapse 200000, .fire .grace, .timerTask true] ++ advances 22

theorem work_conserved_overlong :
    ∃ s : Runtime Nat, s.queues .system = [⟨3, .system, systemItem 4⟩] ∧
      s.ledger.purged = [(⟨2, .user, userItem 3⟩, 3)] ∧
      s.ledger.aborted = [⟨0, .user, userItem 1⟩, ⟨1, .user, userItem 2⟩] ∧
      (∀ work ∈ s.ledger.accepted, work ∈ s.items.places) ∧ s.items.places.Nodup := by
  have ran : ((run step booted overlongHandlers).map fun s =>
      (s.queues .system, s.ledger.purged, s.ledger.aborted)) =
      some ([⟨3, .system, systemItem 4⟩], [(⟨2, .user, userItem 3⟩, 3)],
        [⟨0, .user, userItem 1⟩, ⟨1, .user, userItem 2⟩]) := by decide +kernel
  obtain ⟨s, taken, seen⟩ := Option.map_eq_some_iff.mp ran
  obtain ⟨moved, seen⟩ := Prod.mk.inj seen
  obtain ⟨purged, aborted⟩ := Prod.mk.inj seen
  have guarded : Guarded step Conserves booted overlongHandlers := by decide +kernel
  have reached := (Reach.start booted_initial).of_run guarded taken
  obtain ⟨found, once, _⟩ := work_conserved reached
  exact ⟨s, moved, purged, aborted, found, once⟩

def scheduleSystem (calls : List Nat) : List (Action Nat) :=
  calls.flatMap fun call => .request (.scheduleSystemWork (systemItem call)) :: advances 2

def fullSystemQueue : List (Action Nat) :=
  scheduleSystem [1, 2, 3, 4, 5, 6, 7, 8, 9, 10] ++ [.workTick] ++ advances 6 ++ startHandler 2 ++
    startHandler 3 ++ startHandler 4 ++ startHandler 5 ++ scheduleSystem [11, 12, 13, 14] ++
    [.elapse 700000, .fire .window, .timerTask true] ++ advances 5 ++ scheduleSystem [15] ++
    [.elapse 200000, .fire .grace, .timerTask true] ++ advances 4

/-- The drain receives the deferred item, finds the main queue full and skips it. -/
theorem work_lost_in_drain :
    ∃ (s : Runtime Nat) (work : Work Nat), Reach step Initial Unguarded s ∧
      work ∈ s.ledger.accepted ∧ work ∉ s.items.places := by
  let work : Work Nat := ⟨14, .system, systemItem 15⟩
  have ran : ((run step booted fullSystemQueue).map fun s =>
      (decide (work ∈ s.ledger.accepted), decide (work ∈ s.items.places))) =
      some (true, false) := by decide +kernel
  obtain ⟨s, taken, seen⟩ := Option.map_eq_some_iff.mp ran
  obtain ⟨accepted, nowhere⟩ := Prod.mk.inj seen
  exact ⟨s, work, (Reach.start booted_initial).of_run (guarded_unguarded _ _ _) taken,
    of_decide_eq_true accepted, of_decide_eq_false nowhere⟩

end Runtime

end WatchFirmware.RuntimeManager
