import WatchFirmware.RuntimeManager.ItemFlow

set_option autoImplicit false

namespace WatchFirmware.RuntimeManager

open Tally

variable {Call : Type}

namespace Items

def places (items : Items Call) : List (Work Call) :=
  items.queues .system ++ items.queues .user ++ (items.pendings .system ++ items.pendings .user) ++
    (List.finRange workerPoolSize).flatMap items.held ++ items.ledger.completed ++
      items.ledger.purged.map Prod.fst ++ items.ledger.aborted

def load (items : Items Call) (f : Work Call → Nat) : Nat :=
  ∑ queue, weigh f (items.queues queue) + ∑ queue, weigh f (items.pendings queue) +
    ∑ i, weigh f (items.held i) + weigh f items.ledger.completed +
      weigh f (items.ledger.purged.map Prod.fst) + weigh f items.ledger.aborted +
        weigh f items.ledger.lost

theorem sum_workType (f : WorkType → Nat) : ∑ queue, f queue = f .system + f .user := by
  rw [show (Finset.univ : Finset WorkType) = {.system, .user} from rfl]
  exact Finset.sum_pair (by decide)

theorem load_places (items : Items Call) (f : Work Call → Nat) :
    items.load f = weigh f (items.places ++ items.ledger.lost) := by
  unfold load places
  simp only [weigh_append, sum_workType, weigh_flatMap, ← Fin.sum_univ_def]

def line (items : Items Call) (queue : WorkType) : List (Work Call) :=
  items.ledger.taken queue ++ items.queues queue ++ items.pendings queue

end Items

structure Ascending (works : List (Work Call)) (bound : Nat) : Prop where
  increasing : works.Pairwise fun first second => first.id < second.id
  below : ∀ work ∈ works, work.id < bound

namespace Ascending

variable {works : List (Work Call)} {bound : Nat}

theorem sublist {fewer : List (Work Call)} (ascending : Ascending works bound)
    (sublist : fewer.Sublist works) : Ascending fewer bound :=
  ⟨ascending.increasing.sublist sublist, fun work member => ascending.below work (sublist.subset member)⟩

theorem mono {more : Nat} (ascending : Ascending works bound) (larger : bound ≤ more) :
    Ascending works more :=
  ⟨ascending.increasing, fun work member => Nat.lt_of_lt_of_le (ascending.below work member) larger⟩

theorem fresh {work : Work Call} (ascending : Ascending works bound) (isNext : work.id = bound) :
    Ascending (works ++ [work]) (bound + 1) := by
  refine ⟨List.pairwise_append.mpr ⟨ascending.increasing, List.pairwise_singleton _ _, ?_⟩, ?_⟩
  · intro old member new isNew
    rw [List.mem_singleton.mp isNew, isNext]
    exact ascending.below old member
  · intro other member
    rcases List.mem_append.mp member with old | isNew
    · exact Nat.lt_succ_of_lt (ascending.below other old)
    · rw [List.mem_singleton.mp isNew, isNext]
      exact Nat.lt_succ_self bound

end Ascending

def Typed (queues : WorkType → List (Work Call)) : Prop :=
  ∀ queue, ∀ work ∈ queues queue, work.queue = queue

theorem Typed.update {queues : WorkType → List (Work Call)} (typed : Typed queues) {queue : WorkType}
    {works : List (Work Call)} (new : ∀ work ∈ works, work.queue = queue) :
    Typed (Function.update queues queue works) := by
  intro other work member
  by_cases same : other = queue
  · subst same
    rw [Function.update_self] at member
    exact new work member
  · rw [Function.update_of_ne same] at member
    exact typed other work member

theorem Typed.snoc {queues : WorkType → List (Work Call)} (typed : Typed queues) {queue : WorkType}
    {work : Work Call} (new : work.queue = queue) :
    Typed (Function.update queues queue (queues queue ++ [work])) := by
  refine typed.update fun other member => ?_
  rcases List.mem_append.mp member with old | isNew
  · exact typed queue other old
  · rw [List.mem_singleton.mp isNew, new]

theorem Typed.tail {queues : WorkType → List (Work Call)} (typed : Typed queues) {queue : WorkType}
    {work : Work Call} {rest : List (Work Call)} (list : queues queue = work :: rest) :
    work.queue = queue ∧ Typed (Function.update queues queue rest) := by
  refine ⟨typed queue work (by simp [list]), typed.update fun other member => ?_⟩
  exact typed queue other (by simp [list, member])

structure Items.Booked (items : Items Call) : Prop where
  load : ∀ f, items.load f = weigh f items.ledger.entered
  numbered : items.ledger.entered.map Work.id = List.range items.ledger.nextId
  accepted : items.ledger.accepted.Sublist items.ledger.entered
  queued : Typed items.queues
  deferred : Typed items.pendings
  line : ∀ queue, Ascending (items.line queue) items.ledger.nextId

structure Items.Traced (items : Items Call) : Prop where
  entered : ∀ queue, ∀ work ∈ items.line queue, work ∈ items.ledger.entered
  received : ∀ i, ∀ work ∈ items.held i, work ∈ items.ledger.taken (workerType i)
  typed : Typed items.ledger.taken
  foreign : ∀ work ∈ items.ledger.entered, work ∈ items.ledger.accepted ∨
    ∃ hook, work.item.handler = some (.curfewHook hook)

namespace Items.Booked

variable {items : Items Call}

theorem perm (booked : items.Booked) :
    (items.places ++ items.ledger.lost).Perm items.ledger.entered :=
  perm_of_weigh fun f => (items.load_places f).symm.trans (booked.load f)

theorem known (booked : items.Booked) {work : Work Call}
    (entered : work ∈ items.ledger.entered) : work.id < items.ledger.nextId := by
  have numbered := List.mem_map_of_mem (f := Work.id) entered
  rw [booked.numbered] at numbered
  exact List.mem_range.mp numbered

theorem increasing (booked : items.Booked) :
    items.ledger.entered.Pairwise fun first second => first.id < second.id := by
  refine List.pairwise_map.mp ?_
  rw [booked.numbered]
  exact List.pairwise_lt_range

theorem nodup (booked : items.Booked) :
    (items.places ++ items.ledger.lost).Nodup := by
  refine booked.perm.nodup_iff.mpr (booked.increasing.imp fun before same => ?_)
  rw [same] at before
  exact Nat.lt_irrefl _ before

theorem unique (booked : items.Booked) {one other : Work Call} (isOne : one ∈ items.ledger.entered)
    (isOther : other ∈ items.ledger.entered) (same : one.id = other.id) : one = other := by
  have nodup : (items.ledger.entered.map Work.id).Nodup := by
    rw [booked.numbered]
    exact List.nodup_range
  exact List.inj_on_of_nodup_map nodup isOne isOther same

end Items.Booked

namespace Section

def settles (body : Section Call) (state : RuntimeState) (queue : WorkType) : Bool :=
  match body with
  | .submitHooks _ => true
  | .drainPending .user => false
  | .drainPending .system => decide (queue = .user)
  | _ => decide (state ≠ .gracePeriod)

def isOrdinary : Section Call → Bool
  | .submitHooks _ | .drainPending _ => false
  | _ => true

theorem settles_ordinary {body : Section Call} (ordinary : body.isOrdinary = true)
    (state : RuntimeState) (queue : WorkType) :
    body.settles state queue = decide (state ≠ .gracePeriod) := by
  cases body with
  | submitHooks | drainPending => cases ordinary
  | _ => rfl

end Section

namespace Runtime

def Settled (s : Runtime Call) : Prop :=
  ∀ queue, s.running.settles s.window.runtimeState queue = true → s.pendings queue = []

section Load

variable {s after : Runtime Call} {action : Action Call}

theorem load_queue (f : Work Call → Nat) (queue : WorkType) (works : List (Work Call)) :
    ∑ other, weigh f (Function.update s.queues queue works other) + weigh f (s.queues queue) =
      ∑ other, weigh f (s.queues other) + weigh f works :=
  Tally.sum_update (weigh f) s.queues queue works

theorem load_pending (f : Work Call → Nat) (queue : WorkType) (works : List (Work Call)) :
    ∑ other, weigh f (Function.update s.pendings queue works other) + weigh f (s.pendings queue) =
      ∑ other, weigh f (s.pendings other) + weigh f works :=
  Tally.sum_update (weigh f) s.pendings queue works

theorem load_held (f : Work Call → Nat) (i : WorkerId) (works : List (Work Call)) :
    ∑ j, weigh f (Function.update s.held i works j) + weigh f (s.held i) =
      ∑ j, weigh f (s.held j) + weigh f works :=
  Tally.sum_update (weigh f) s.held i works

theorem abandon_weigh (f : Work Call → Nat) (ledger : Ledger Call) (pc : WorkerPc Call) :
    weigh f (ledger.abandon pc).aborted + weigh f (ledger.abandon pc).lost =
      weigh f ledger.aborted + weigh f ledger.lost + weigh f pc.held := by
  unfold Ledger.abandon
  split
  · simp [WorkerPc.held]
    omega
  · simp
    omega

theorem abandon_rest (ledger : Ledger Call) (pc : WorkerPc Call) :
    (ledger.abandon pc).nextId = ledger.nextId ∧ (ledger.abandon pc).entered = ledger.entered ∧
      (ledger.abandon pc).accepted = ledger.accepted ∧ (ledger.abandon pc).taken = ledger.taken ∧
        (ledger.abandon pc).completed = ledger.completed ∧ (ledger.abandon pc).purged = ledger.purged := by
  unfold Ledger.abandon
  split <;> exact ⟨rfl, rfl, rfl, rfl, rfl, rfl⟩

theorem Flow.load {next : Items Call} (flow : Flow s action next)
    (load : ∀ f, s.items.load f = weigh f s.ledger.entered) (f : Work Call → Nat) :
    next.load f = weigh f next.ledger.entered := by
  -- no step makes an item appear twice or vanish
  have before := load f
  unfold Items.load at before ⊢
  simp only [items, Ledger.unmarked] at before
  cases flow with
  | still => exact before
  | send queue item =>
      have moved := s.load_queue f queue (s.queues queue ++ [s.nextWork queue item])
      simp only [items, Ledger.unmarked, Ledger.accept, Ledger.enter, weigh_append, weigh_cons,
        weigh_nil] at moved ⊢
      omega
  | defer queue item =>
      have moved := s.load_pending f queue (s.pendings queue ++ [s.nextWork queue item])
      simp only [items, Ledger.unmarked, Ledger.accept, Ledger.enter, weigh_append, weigh_cons,
        weigh_nil] at moved ⊢
      omega
  | refuse queue item =>
      simp only [items, Ledger.unmarked, Ledger.accept, Ledger.enter, weigh_append, weigh_cons,
        weigh_nil]
      omega
  | hook hook rest =>
      have moved := s.load_queue f .system (s.queues .system ++ [s.hookWork hook])
      simp only [items, Ledger.unmarked, Ledger.enter, weigh_append, weigh_cons, weigh_nil] at moved ⊢
      omega
  | take i work rest _ pc queue =>
      have left := s.load_queue f (workerType i) rest
      have held := s.load_held f i [work]
      have idle : s.held i = [] := by rw [Runtime.held, pc]; rfl
      simp only [items, Ledger.unmarked, Ledger.take, queue, idle, weigh_cons, weigh_nil] at left held ⊢
      omega
  | finish i work startedAwake _ pc =>
      have held := s.load_held f i []
      have busy : s.held i = [work] := by rw [Runtime.held, pc]; rfl
      simp only [items, Ledger.unmarked, busy, weigh_append, weigh_cons, weigh_nil] at held ⊢
      omega
  | drain queue work rest _ list =>
      have left := s.load_pending f queue rest
      have moved := s.load_queue f queue (s.queues queue ++ [work])
      simp only [items, Ledger.unmarked, list, weigh_append, weigh_cons, weigh_nil] at left moved ⊢
      omega
  | drop queue work rest created _ _ list =>
      have left := s.load_pending f queue rest
      simp only [items, Ledger.unmarked, list, weigh_append, weigh_cons, weigh_nil] at left ⊢
      omega
  | purge =>
      have left := s.load_queue f .user []
      have same : ((s.queues .user).map fun work => (work, s.ledger.graceMark)).map Prod.fst =
          s.queues .user := by simp [Function.comp_def]
      simp only [items, Ledger.unmarked, List.map_append, same, weigh_append, weigh_nil] at left ⊢
      omega
  | abandon i =>
      have left := s.load_held f i []
      have moved := abandon_weigh f s.ledger (s.workers i).pc
      obtain ⟨_, entered, _, _, completed, purged⟩ := abandon_rest s.ledger (s.workers i).pc
      simp only [items, Ledger.unmarked, entered, completed, purged, Runtime.held, weigh_nil]
        at left before ⊢
      omega

end Load

section Booked

variable {s : Runtime Call} {action : Action Call} {next : Items Call}

theorem numbered_enter {entered : List (Work Call)} {nextId : Nat} {work : Work Call}
    (numbered : entered.map Work.id = List.range nextId) (isNext : work.id = nextId) :
    (entered ++ [work]).map Work.id = List.range (nextId + 1) := by
  rw [List.map_append, numbered, List.range_succ, ← isNext]
  rfl

theorem Flow.numbered (flow : Flow s action next)
    (numbered : s.ledger.entered.map Work.id = List.range s.ledger.nextId) :
    next.ledger.entered.map Work.id = List.range next.ledger.nextId := by
  cases flow with
  | still | take | finish | drain | drop | purge => exact numbered
  | send | defer | refuse | hook => exact numbered_enter numbered rfl
  | abandon i =>
      obtain ⟨nextId, entered, -⟩ := abandon_rest s.ledger (s.workers i).pc
      simp only [Ledger.unmarked, nextId, entered]
      exact numbered

theorem Flow.accepted (flow : Flow s action next)
    (accepted : s.ledger.accepted.Sublist s.ledger.entered) :
    next.ledger.accepted.Sublist next.ledger.entered := by
  cases flow with
  | still | take | finish | drain | drop | purge => exact accepted
  | send | defer | refuse => exact accepted.append (List.Sublist.refl _)
  | hook => exact accepted.trans (List.sublist_append_left _ _)
  | abandon i =>
      obtain ⟨_, entered, accepts, -⟩ := abandon_rest s.ledger (s.workers i).pc
      simp only [Ledger.unmarked, entered, accepts]
      exact accepted

theorem Flow.typed (flow : Flow s action next) (queued : Typed s.queues) (deferred : Typed s.pendings) :
    Typed next.queues ∧ Typed next.pendings := by
  cases flow with
  | still | refuse | finish | abandon => exact ⟨queued, deferred⟩
  | send | hook => exact ⟨queued.snoc rfl, deferred⟩
  | defer => exact ⟨queued, deferred.snoc rfl⟩
  | take i work rest _ pc list => exact ⟨(queued.tail list).2, deferred⟩
  | drain queue work rest _ list =>
      obtain ⟨own, fewer⟩ := deferred.tail list
      exact ⟨queued.snoc own, fewer⟩
  | drop queue work rest created _ _ list => exact ⟨queued, (deferred.tail list).2⟩
  | purge => exact ⟨queued.update (List.forall_mem_nil _), deferred⟩

theorem line_snoc {queue : WorkType} {work : Work Call} (none : s.pendings queue = [])
    (isNext : work.id = s.ledger.nextId) (other : WorkType)
    (line : Ascending (s.items.line other) s.ledger.nextId) :
    Ascending (s.ledger.taken other ++
      Function.update s.queues queue (s.queues queue ++ [work]) other ++ s.pendings other)
      (s.ledger.nextId + 1) := by
  by_cases same : other = queue
  · subst same
    have longer := line.fresh isNext
    simpa [Items.line, items, none, Ledger.unmarked] using longer
  · rw [Function.update_of_ne same]
    exact line.mono (Nat.le_succ _)

theorem Flow.line (flow : Flow s action next) (settled : s.Settled) (queued : Typed s.queues)
    (line : ∀ queue, Ascending (s.items.line queue) s.ledger.nextId) (other : WorkType) :
    Ascending (next.line other) next.ledger.nextId := by
  -- a step adds at the end of a line or takes out of it, and never reorders it
  have before := line other
  cases flow with
  | still | finish => exact before
  | refuse => exact before.mono (Nat.le_succ _)
  | send queue item running awake =>
      have none := settled queue (by simp [running, Section.settles, awake])
      exact line_snoc none rfl other before
  | hook hook rest running =>
      have none := settled .system (by rw [running]; rfl)
      exact line_snoc none rfl other before
  | defer queue item =>
      by_cases same : other = queue
      · subst same
        have isNext : (s.nextWork other item).id = s.ledger.nextId := rfl
        have longer := before.fresh isNext
        simpa [Items.line, items, Ledger.unmarked, Ledger.accept, Ledger.enter] using longer
      · simp only [Items.line, items, Function.update_of_ne same]
        exact before.mono (Nat.le_succ _)
  | take i work rest _ pc list =>
      have own := (queued.tail list).1
      by_cases same : other = workerType i
      · subst same
        simpa [Items.line, items, Ledger.unmarked, Ledger.take, own, list] using before
      · simpa [Items.line, items, Ledger.unmarked, Ledger.take, own, Function.update_of_ne same] using before
  | drain queue work rest _ list =>
      by_cases same : other = queue
      · subst same
        simpa [Items.line, items, Ledger.unmarked, list] using before
      · simpa [Items.line, items, Ledger.unmarked, Function.update_of_ne same] using before
  | drop queue work rest created _ _ list =>
      by_cases same : other = queue
      · subst same
        refine before.sublist ?_
        simp [Items.line, items, Ledger.unmarked, list]
      · simpa [Items.line, items, Ledger.unmarked, Function.update_of_ne same] using before
  | purge =>
      by_cases same : other = .user
      · subst same
        refine before.sublist ?_
        simp [Items.line, items, Ledger.unmarked]
      · simpa [Items.line, items, Ledger.unmarked, Function.update_of_ne same] using before
  | abandon i =>
      obtain ⟨nextId, _, _, taken, -⟩ := abandon_rest s.ledger (s.workers i).pc
      simp only [Items.line, Ledger.unmarked, nextId, taken]
      exact before

theorem Flow.booked (flow : Flow s action next) (booked : s.items.Booked) (settled : s.Settled) :
    next.Booked where
  load := flow.load booked.load
  numbered := flow.numbered booked.numbered
  accepted := flow.accepted booked.accepted
  queued := (flow.typed booked.queued booked.deferred).1
  deferred := (flow.typed booked.queued booked.deferred).2
  line := flow.line settled booked.queued booked.line

end Booked

section Traced

variable {s : Runtime Call} {action : Action Call} {next : Items Call}

theorem Flow.entered (flow : Flow s action next) (queued : Typed s.queues)
    (entered : ∀ queue, ∀ work ∈ s.items.line queue, work ∈ s.ledger.entered) :
    ∀ queue, ∀ work ∈ next.line queue, work ∈ next.ledger.entered := by
  intro other work member
  have before := entered other work
  have entering : ∀ {new : Work Call}, (work ∈ s.items.line other ∨ work = new) →
      work ∈ s.ledger.entered ++ [new] := fun origin =>
    List.mem_append.mpr (origin.imp before List.mem_singleton.mpr)
  cases flow with
  | still | finish => exact before member
  | refuse => exact entering (.inl member)
  | send queue item =>
      refine entering ?_
      by_cases same : other = queue
      · subst same
        simp [Items.line, items, Ledger.unmarked, Ledger.accept, Ledger.enter] at member ⊢
        tauto
      · simp only [Items.line, Function.update_of_ne same] at member
        exact .inl member
  | hook hook =>
      refine entering ?_
      by_cases same : other = .system
      · subst same
        simp [Items.line, items, Ledger.unmarked, Ledger.enter] at member ⊢
        tauto
      · simp only [Items.line, Function.update_of_ne same] at member
        exact .inl member
  | defer queue item =>
      refine entering ?_
      by_cases same : other = queue
      · subst same
        simp [Items.line, items, Ledger.unmarked, Ledger.accept, Ledger.enter] at member ⊢
        tauto
      · simp only [Items.line, Function.update_of_ne same] at member
        exact .inl member
  | take i taken rest _ pc list =>
      have own := (queued.tail list).1
      refine before ?_
      by_cases same : other = workerType i
      · subst same
        simpa [Items.line, items, Ledger.unmarked, Ledger.take, own, list] using member
      · simpa [Items.line, items, Ledger.unmarked, Ledger.take, own, Function.update_of_ne same]
          using member
  | drain queue moved rest _ list =>
      refine before ?_
      by_cases same : other = queue
      · subst same
        simpa [Items.line, items, Ledger.unmarked, list] using member
      · simpa [Items.line, items, Ledger.unmarked, Function.update_of_ne same] using member
  | drop queue dropped rest created _ _ list =>
      refine before ?_
      by_cases same : other = queue
      · subst same
        simp [Items.line, items, Ledger.unmarked, list] at member ⊢
        tauto
      · simpa [Items.line, items, Ledger.unmarked, Function.update_of_ne same] using member
  | purge =>
      refine before ?_
      by_cases same : other = .user
      · subst same
        simp [Items.line, items, Ledger.unmarked] at member ⊢
        tauto
      · simpa [Items.line, items, Ledger.unmarked, Function.update_of_ne same] using member
  | abandon i =>
      obtain ⟨_, same, _, taken, -⟩ := abandon_rest s.ledger (s.workers i).pc
      simp only [Items.line, Ledger.unmarked, same, taken] at member ⊢
      exact before member

theorem Flow.received (flow : Flow s action next) (queued : Typed s.queues)
    (received : ∀ i, ∀ work ∈ s.held i, work ∈ s.ledger.taken (workerType i)) :
    ∀ i, ∀ work ∈ next.held i, work ∈ next.ledger.taken (workerType i) := by
  intro j work member
  have before := received j work
  cases flow with
  | still | send | defer | refuse | hook | drain | drop | purge => exact before member
  | take i taken rest _ pc list =>
      have own := (queued.tail list).1
      by_cases same : j = i
      · subst same
        simp only [Function.update_self, List.mem_singleton] at member
        subst member
        simp [Ledger.unmarked, Ledger.take, own]
      · simp only [Function.update_of_ne same] at member
        simp only [Ledger.unmarked, Ledger.take, own]
        by_cases sameType : workerType j = workerType i
        · rw [sameType] at before ⊢
          rw [Function.update_self]
          exact List.mem_append_left _ (before member)
        · rw [Function.update_of_ne sameType]
          exact before member
  | finish i =>
      by_cases same : j = i
      · subst same
        simp at member
      · exact before (by simpa [Function.update_of_ne same] using member)
  | abandon i =>
      obtain ⟨_, _, _, taken, -⟩ := abandon_rest s.ledger (s.workers i).pc
      simp only [Ledger.unmarked, taken]
      by_cases same : j = i
      · subst same
        simp at member
      · exact before (by simpa [Function.update_of_ne same] using member)

theorem Flow.takenTyped (flow : Flow s action next) (typed : Typed s.ledger.taken) :
    Typed next.ledger.taken := by
  cases flow with
  | still | send | defer | refuse | hook | finish | drain | drop | purge => exact typed
  | take => exact typed.snoc rfl
  | abandon i =>
      obtain ⟨_, _, _, taken, -⟩ := abandon_rest s.ledger (s.workers i).pc
      simp only [Ledger.unmarked, taken]
      exact typed

theorem Flow.taken_mono (flow : Flow s action next) (queue : WorkType) :
    ∀ work ∈ s.ledger.taken queue, work ∈ next.ledger.taken queue := by
  intro work member
  cases flow with
  | still | send | defer | refuse | hook | finish | drain | drop | purge => exact member
  | take i taken =>
      simp only [Ledger.unmarked, Ledger.take]
      by_cases same : queue = taken.queue
      · subst same
        rw [Function.update_self]
        exact List.mem_append_left _ member
      · rwa [Function.update_of_ne same]
  | abandon i =>
      obtain ⟨_, _, _, taken, -⟩ := abandon_rest s.ledger (s.workers i).pc
      simpa only [Ledger.unmarked, taken] using member

theorem Flow.completed_cases (flow : Flow s action next) :
    next.ledger.completed = s.ledger.completed ∨ ∃ i work startedAwake, action = .worker i ∧
      (s.workers i).pc = .handle work startedAwake ∧
        next.ledger.completed = s.ledger.completed ++ [work] := by
  cases flow with
  | finish i work startedAwake isTurn pc => exact .inr ⟨i, work, startedAwake, isTurn, pc, rfl⟩
  | still | send | defer | refuse | hook | take | drain | drop | purge => exact .inl rfl
  | abandon i =>
      obtain ⟨_, _, _, _, completed, _⟩ := abandon_rest s.ledger (s.workers i).pc
      exact .inl completed

theorem Flow.foreign (flow : Flow s action next)
    (foreign : ∀ work ∈ s.ledger.entered, work ∈ s.ledger.accepted ∨
      ∃ hook, work.item.handler = some (.curfewHook hook)) :
    ∀ work ∈ next.ledger.entered, work ∈ next.ledger.accepted ∨
      ∃ hook, work.item.handler = some (.curfewHook hook) := by
  intro work member
  cases flow with
  | still | take | finish | drain | drop | purge => exact foreign work member
  | send | defer | refuse =>
      rcases List.mem_append.mp member with old | new
      · exact (foreign work old).imp_left (List.mem_append_left _)
      · exact .inl (List.mem_append_right _ new)
  | hook hook =>
      rcases List.mem_append.mp member with old | new
      · exact foreign work old
      · rw [List.mem_singleton.mp new]
        exact .inr ⟨hook, rfl⟩
  | abandon i =>
      obtain ⟨_, entered, accepted, -⟩ := abandon_rest s.ledger (s.workers i).pc
      simp only [Ledger.unmarked, entered, accepted] at member ⊢
      exact foreign work member

theorem Flow.traced (flow : Flow s action next) (traced : s.items.Traced) (queued : Typed s.queues) :
    next.Traced where
  entered := flow.entered queued traced.entered
  received := flow.received queued traced.received
  typed := flow.takenTyped traced.typed
  foreign := flow.foreign traced.foreign

end Traced

end Runtime

end WatchFirmware.RuntimeManager
