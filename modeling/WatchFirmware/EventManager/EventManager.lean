import Mathlib

set_option autoImplicit false

namespace WatchFirmware.EventManager

abbrev maxEventSubscribers : Nat := 8
abbrev eventCount : Nat := 14

abbrev EventId := Fin eventCount

-- A handler stands for the address of a function; none is NULL.
structure EventSubscription (Handler : Type) where
  handlers : List (Option Handler)
  count : Nat
  deriving DecidableEq, Repr

variable {Handler : Type}

namespace EventSubscription

-- all bytes zero
def empty : EventSubscription Handler := ⟨List.replicate maxEventSubscribers none, 0⟩

variable [DecidableEq Handler]

def find (sub : EventSubscription Handler) (handler : Handler) : Option Nat :=
  (List.range sub.count).find? fun i => sub.handlers[i]? == some (some handler)

def subscribe (sub : EventSubscription Handler) (handler : Handler) : Bool × EventSubscription Handler :=
  match sub.find handler with
  | some _ => (true, sub)
  | none =>
      if sub.count ≥ maxEventSubscribers then (false, sub)
      else (true, ⟨sub.handlers.set sub.count (some handler), sub.count + 1⟩)

/-- `handlers[j] = handlers[j + 1]` for so many `j` from the first on. -/
def shiftDown (handlers : List (Option Handler)) (first rounds : Nat) : List (Option Handler) :=
  (List.range' first rounds).foldl (fun handlers j => handlers.set j (handlers.getD (j + 1) none)) handlers

def unsubscribe (sub : EventSubscription Handler) (handler : Handler) : Bool × EventSubscription Handler :=
  match sub.find handler with
  | some i =>
      let count := sub.count - 1
      (true, ⟨(shiftDown sub.handlers i (count - i)).set count none, count⟩)
  | none => (false, sub)

end EventSubscription

structure Manager (Handler : Type) where
  initialized : Bool
  subscriptions : EventId → EventSubscription Handler

namespace Manager

def eventManagerInit : Manager Handler := ⟨true, fun _ => .empty⟩

def admitted (manager : Manager Handler) (eventId : Nat) (handler : Option Handler) :
    Option (EventId × Handler) :=
  match handler with
  | none => none
  | some handler =>
      if manager.initialized then
        if valid : eventId < eventCount then some (⟨eventId, valid⟩, handler) else none
      else none

def replace (manager : Manager Handler) (ev : EventId) (sub : EventSubscription Handler) :
    Manager Handler :=
  { manager with subscriptions := Function.update manager.subscriptions ev sub }

variable [DecidableEq Handler]

def eventSubscribe (manager : Manager Handler) (eventId : Nat) (handler : Option Handler) :
    Bool × Manager Handler :=
  match manager.admitted eventId handler with
  | none => (false, manager)
  | some (ev, handler) =>
      let (success, sub) := (manager.subscriptions ev).subscribe handler
      (success, manager.replace ev sub)

def eventUnsubscribe (manager : Manager Handler) (eventId : Nat) (handler : Option Handler) :
    Bool × Manager Handler :=
  match manager.admitted eventId handler with
  | none => (false, manager)
  | some (ev, handler) =>
      let (success, sub) := (manager.subscriptions ev).unsubscribe handler
      (success, manager.replace ev sub)

end Manager

structure Represents (sub : EventSubscription Handler) (members : List Handler) : Prop where
  size : sub.handlers.length = maxEventSubscribers
  slots : ∀ k < maxEventSubscribers, sub.handlers[k]? = some members[k]?
  count : sub.count = members.length
  few : members.length ≤ maxEventSubscribers
  distinct : members.Nodup

theorem empty_represents : Represents (.empty : EventSubscription Handler) [] where
  size := by simp [EventSubscription.empty]
  slots := by
    intro k inside
    simp [EventSubscription.empty, inside]
  count := rfl
  few := Nat.zero_le _
  distinct := List.nodup_nil

theorem shiftDown_length (handlers : List (Option Handler)) (first rounds : Nat) :
    (EventSubscription.shiftDown handlers first rounds).length = handlers.length := by
  induction rounds generalizing handlers first with
  | zero => rfl
  | succ rounds ih =>
      rw [EventSubscription.shiftDown, List.range'_succ, List.foldl_cons]
      exact (ih _ (first + 1)).trans (List.length_set ..)

theorem shiftDown_getElem? {handlers : List (Option Handler)} {first rounds : Nat}
    (inside : first + rounds < handlers.length) (k : Nat) :
    (EventSubscription.shiftDown handlers first rounds)[k]? =
      if first ≤ k ∧ k < first + rounds then handlers[k + 1]? else handlers[k]? := by
  induction rounds generalizing handlers first with
  | zero =>
      rw [if_neg (by omega)]
      rfl
  | succ rounds ih =>
      have step : EventSubscription.shiftDown handlers first (rounds + 1) = EventSubscription.shiftDown
          (handlers.set first (handlers.getD (first + 1) none)) (first + 1) rounds := rfl
      rw [step, ih (by rw [List.length_set]; omega)]
      by_cases same : k = first
      · subst same
        have within : k ≤ k ∧ k < k + (rounds + 1) := by omega
        rw [if_neg (by omega), if_pos within, List.getElem?_set_self (by omega),
          List.getElem?_eq_getElem (by omega : k + 1 < handlers.length),
          List.getD_eq_getElem _ _ (by omega : k + 1 < handlers.length)]
      · by_cases shifted : first ≤ k ∧ k < first + (rounds + 1)
        · rw [if_pos shifted, if_pos (by omega), List.getElem?_set_ne (by omega)]
        · rw [if_neg shifted, if_neg (by omega), List.getElem?_set_ne (by omega)]

section Spec

variable [DecidableEq Handler] {sub : EventSubscription Handler} {members : List Handler}

theorem find_eq (represents : Represents sub members) (handler : Handler) :
    sub.find handler = if handler ∈ members then some (members.idxOf handler) else none := by
  have stands : ∀ i, i < sub.count →
      ((sub.handlers[i]? == some (some handler)) = true ↔ members[i]? = some handler) := by
    intro i inside
    have few := represents.few
    rw [represents.slots i (by rw [represents.count] at inside; omega)]
    simp
  have count := represents.count
  unfold EventSubscription.find
  split
  next listed =>
    have inside := List.idxOf_lt_length_of_mem listed
    rw [List.find?_range_eq_some]
    refine ⟨?_, ?_, ?_⟩
    · rw [stands _ (by omega), List.getElem?_eq_getElem inside, List.getElem_idxOf]
    · rw [List.mem_range]
      omega
    · intro j before
      have other : ¬(sub.handlers[j]? == some (some handler)) = true := by
        rw [stands j (by omega), List.getElem?_eq_getElem (by omega : j < members.length)]
        intro same
        have first := List.not_of_lt_findIdx before
        simp [Option.some.inj same] at first
      simpa using other
  next absent =>
    rw [List.find?_eq_none]
    intro i listed
    rw [stands i (List.mem_range.mp listed)]
    intro same
    exact absent (List.mem_of_getElem? same)

theorem subscribe_listed (represents : Represents sub members) {handler : Handler} (listed : handler ∈ members) :
    sub.subscribe handler = (true, sub) := by
  rw [EventSubscription.subscribe, find_eq represents, if_pos listed]

theorem subscribe_full (represents : Represents sub members) {handler : Handler} (absent : handler ∉ members)
    (full : maxEventSubscribers ≤ members.length) : sub.subscribe handler = (false, sub) := by
  rw [EventSubscription.subscribe, find_eq represents, if_neg absent]
  exact if_pos (represents.count ▸ full)

theorem subscribe_new (represents : Represents sub members) {handler : Handler} (absent : handler ∉ members)
    (room : members.length < maxEventSubscribers) :
    ∃ after, sub.subscribe handler = (true, after) ∧ Represents after (members ++ [handler]) := by
  refine ⟨⟨sub.handlers.set sub.count (some handler), sub.count + 1⟩, ?_, ?_⟩
  · rw [EventSubscription.subscribe, find_eq represents, if_neg absent]
    have space : ¬sub.count ≥ maxEventSubscribers := by
      rw [represents.count]
      omega
    exact if_neg space
  · constructor
    case size => rw [List.length_set, represents.size]
    case slots =>
      intro k inside
      rw [represents.count, List.getElem?_set, represents.size, List.getElem?_append]
      by_cases last : members.length = k
      · subst last
        simp [room]
      · rw [if_neg last, represents.slots k inside]
        by_cases before : k < members.length
        · rw [if_pos before]
        · rw [if_neg before, List.getElem?_eq_none (by omega), List.getElem?_eq_none (by simp; omega)]
    case count => rw [List.length_append, List.length_singleton, represents.count]
    case few =>
      rw [List.length_append, List.length_singleton]
      exact room
    case distinct =>
      rw [← List.concat_eq_append]
      exact represents.distinct.concat absent

theorem unsubscribe_absent (represents : Represents sub members) {handler : Handler} (absent : handler ∉ members) :
    sub.unsubscribe handler = (false, sub) := by
  rw [EventSubscription.unsubscribe, find_eq represents, if_neg absent]

theorem unsubscribe_listed (represents : Represents sub members) {handler : Handler} (listed : handler ∈ members) :
    ∃ after, sub.unsubscribe handler = (true, after) ∧ Represents after (members.erase handler) := by
  have inside := List.idxOf_lt_length_of_mem listed
  have size := represents.size
  have few := represents.few
  have erased : (members.erase handler).length = members.length - 1 := List.length_erase_of_mem listed
  refine ⟨_, by rw [EventSubscription.unsubscribe, find_eq represents, if_pos listed], ?_⟩
  constructor
  case size => rw [List.length_set, shiftDown_length, size]
  case slots =>
    intro k within
    rw [represents.count, List.getElem?_set, shiftDown_length, size,
      shiftDown_getElem? (by omega), List.erase_eq_eraseIdx_of_idxOf rfl, List.getElem?_eraseIdx]
    by_cases last : members.length - 1 = k
    · subst last
      rw [if_pos rfl, if_pos within, if_neg (by omega), List.getElem?_eq_none (by omega)]
    · rw [if_neg last]
      by_cases before : k < members.idxOf handler
      · rw [if_pos before, if_neg (by omega), represents.slots k within]
      · rw [if_neg before]
        by_cases shifted : k < members.length - 1
        · rw [if_pos (by omega), represents.slots (k + 1) (by omega)]
        · rw [if_neg (by omega), represents.slots k within, List.getElem?_eq_none (by omega),
            List.getElem?_eq_none (by omega)]
  case count => rw [erased, represents.count]
  case few => omega
  case distinct => exact represents.distinct.erase handler

end Spec

end WatchFirmware.EventManager
