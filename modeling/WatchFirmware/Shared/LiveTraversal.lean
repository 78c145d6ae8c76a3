import Mathlib

set_option autoImplicit false

namespace LiveTraversal

variable {Member : Type} [DecidableEq Member]

structure Delivery (Member : Type) where
  -- who was in the list when the traversal started
  started : List Member
  -- of these, those whose turn has not come
  pending : List Member
  -- those that were taken out before their turn
  withdrawn : List Member
  calls : List Member
  deriving DecidableEq, Repr

namespace Delivery

def fresh (members : List Member) : Delivery Member := ⟨members, members, [], []⟩

-- A call out of turn passes over those in front.
def call (delivery : Delivery Member) (member : Member) : Delivery Member :=
  { delivery with
    calls := delivery.calls ++ [member]
    pending :=
      if member ∈ delivery.pending then (delivery.pending.dropWhile (· ≠ member)).tail else delivery.pending }

def withdraw (delivery : Delivery Member) (member : Member) : Delivery Member :=
  if member ∈ delivery.pending then
    { delivery with
      pending := delivery.pending.erase member, withdrawn := delivery.withdrawn ++ [member] }
  else delivery

def delivered (delivery : Delivery Member) : List Member :=
  delivery.calls.filter fun member => member ∈ delivery.started ∧ member ∉ delivery.withdrawn

def owed (delivery : Delivery Member) : List Member :=
  delivery.started.filter fun member => member ∉ delivery.withdrawn

/-- Everyone who was there at the start and was not taken out before their turn is called exactly once, in
the order of the list. -/
def Complete (delivery : Delivery Member) : Prop := delivery.delivered = delivery.owed

instance (delivery : Delivery Member) : Decidable delivery.Complete := inferInstanceAs (Decidable (_ = _))

/-- The traversal goes on at `next`: behind it wait those whose turn has not come, then newcomers. -/
structure At (delivery : Delivery Member) (members : List Member) (next : Nat) : Prop where
  distinct : delivery.started.Nodup
  order : delivery.delivered ++ delivery.pending = delivery.owed
  behind : ∃ newcomers, members.drop next = delivery.pending ++ newcomers ∧
    ∀ member ∈ newcomers, member ∈ delivery.started → member ∈ delivery.withdrawn

theorem fresh_at {members : List Member} (distinct : members.Nodup) : (fresh members).At members 0 where
  distinct := distinct
  order := by simp [fresh, delivered, owed]
  behind := ⟨[], by simp [fresh], by simp⟩

theorem owed_withdraw {delivery : Delivery Member} {member : Member} (waits : member ∈ delivery.pending) :
    (delivery.withdraw member).owed = delivery.owed.filter (· != member) := by
  simp only [withdraw, if_pos waits, owed, List.filter_filter]
  apply List.filter_congr
  intro other _
  by_cases same : other = member <;> simp [same]

theorem delivered_withdraw {delivery : Delivery Member} {member : Member} (waits : member ∈ delivery.pending) :
    (delivery.withdraw member).delivered = delivery.delivered.filter (· != member) := by
  simp only [withdraw, if_pos waits, delivered, List.filter_filter]
  apply List.filter_congr
  intro other _
  by_cases same : other = member <;> simp [same]

namespace At

variable {delivery : Delivery Member} {members : List Member} {next : Nat}

theorem pending_owed (holds : delivery.At members next) {member : Member} (waits : member ∈ delivery.pending) :
    member ∈ delivery.started ∧ member ∉ delivery.withdrawn := by
  have listed : member ∈ delivery.owed := by
    rw [← holds.order]
    exact List.mem_append_right _ waits
  simpa [owed] using listed

theorem pending_member (holds : delivery.At members next) {member : Member} (waits : member ∈ delivery.pending) :
    member ∈ members := by
  obtain ⟨newcomers, behind, -⟩ := holds.behind
  apply List.mem_of_mem_drop
  rw [behind]
  exact List.mem_append_left _ waits

theorem pending_nodup (holds : delivery.At members next) : delivery.pending.Nodup := by
  have owed : delivery.owed.Nodup := holds.distinct.filter _
  rw [← holds.order] at owed
  exact owed.of_append_right

theorem complete (holds : delivery.At members next) (ended : members.length ≤ next) : delivery.Complete := by
  obtain ⟨newcomers, behind, -⟩ := holds.behind
  rw [List.drop_eq_nil_of_le ended] at behind
  have none := (List.append_eq_nil_iff.mp behind.symm).1
  have order := holds.order
  rwa [none, List.append_nil] at order

theorem call (holds : delivery.At members next) (inside : next < members.length) :
    (delivery.call members[next]).At members (next + 1) := by
  obtain ⟨newcomers, behind, late⟩ := holds.behind
  rw [List.drop_eq_getElem_cons inside] at behind
  cases waiting : delivery.pending with
  | nil =>
      -- Only newcomers are left, and a call of one of them is owed to nobody.
      have order := holds.order
      rw [waiting, List.nil_append] at behind
      have unowed : ¬(members[next] ∈ delivery.started ∧ members[next] ∉ delivery.withdrawn) := by
        intro owed
        apply owed.2
        apply late members[next] _ owed.1
        rw [← behind]
        exact List.mem_cons_self
      constructor
      case distinct => exact holds.distinct
      case order =>
        rw [waiting] at order
        simpa [Delivery.call, delivered, owed, waiting, List.filter_append, unowed] using order
      case behind =>
        refine ⟨newcomers.tail, ?_, fun member listed => late member (List.mem_of_mem_tail listed)⟩
        rw [← behind]
        simp [Delivery.call, waiting]
  | cons first rest =>
      rw [waiting, List.cons_append] at behind
      obtain ⟨same, after⟩ := List.cons.inj behind
      have owed := holds.pending_owed (waiting ▸ List.mem_cons_self : first ∈ delivery.pending)
      have order := holds.order
      rw [waiting] at order
      constructor
      case distinct => exact holds.distinct
      case order =>
        rw [same]
        simpa [Delivery.call, delivered, Delivery.owed, waiting, List.filter_append, owed] using order
      case behind =>
        refine ⟨newcomers, ?_, late⟩
        rw [after, same]
        simp [Delivery.call, waiting]

theorem append (holds : delivery.At members next) {member : Member} (absent : member ∉ members)
    (reach : next ≤ members.length → member ∉ delivery.delivered) :
    delivery.At (members ++ [member]) next := by
  obtain ⟨newcomers, behind, late⟩ := holds.behind
  refine ⟨holds.distinct, holds.order, ?_⟩
  by_cases ahead : next ≤ members.length
  · refine ⟨newcomers ++ [member], ?_, ?_⟩
    · rw [List.drop_append_of_le_length ahead, behind, List.append_assoc]
    · intro other listed began
      obtain listed | last := List.mem_append.mp listed
      next => exact late other listed began
      next =>
        obtain rfl := List.mem_singleton.mp last
        by_contra kept
        have owed : other ∈ delivery.owed := by simp [owed, began, kept]
        rw [← holds.order] at owed
        obtain called | waits := List.mem_append.mp owed
        next => exact reach ahead called
        next => exact absent (holds.pending_member waits)
  · have none : members.drop next = [] := List.drop_eq_nil_of_le (by omega)
    refine ⟨newcomers, ?_, late⟩
    rw [← behind, none]
    apply List.drop_eq_nil_of_le
    rw [List.length_append, List.length_singleton]
    omega

theorem drop_erase_before {member : Member} (passed : members.idxOf member < next) : (members.erase member).drop next = (members.drop next).tail := by
  rw [List.erase_eq_eraseIdx_of_idxOf rfl]
  apply List.ext_getElem?
  intro k
  rw [List.getElem?_drop, List.getElem?_eraseIdx, if_neg (by omega), List.getElem?_tail, List.getElem?_drop]
  rfl

theorem drop_erase_behind (distinct : members.Nodup) {member : Member}
    (ahead : next ≤ members.idxOf member) : (members.erase member).drop next = (members.drop next).erase member := by
  have front : member ∉ members.take next := by
    intro early
    obtain ⟨k, inside, same⟩ := List.mem_iff_getElem.mp early
    rw [List.length_take] at inside
    rw [List.getElem_take] at same
    have place := distinct.idxOf_getElem k (by omega)
    rw [same] at place
    omega
  have whole := List.erase_append_right (members.drop next) front
  rw [List.take_append_drop] at whole
  rw [whole]
  have length : (members.take next).length = min next members.length := List.length_take
  by_cases inside : next ≤ members.length
  · exact List.drop_left' (by omega)
  · rw [List.drop_eq_nil_of_le (by omega : members.length ≤ next), List.erase_nil, List.append_nil]
    exact List.drop_eq_nil_of_le (by omega)

theorem withdraw (holds : delivery.At members next) (distinct : members.Nodup) {member : Member}
    (passed : members.idxOf member < next → delivery.pending = []) :
    (delivery.withdraw member).At (members.erase member) next := by
  obtain ⟨newcomers, behind, late⟩ := holds.behind
  by_cases before : members.idxOf member < next
  · have none := passed before
    have same : delivery.withdraw member = delivery := by simp [Delivery.withdraw, none]
    rw [same]
    refine ⟨holds.distinct, holds.order, newcomers.tail, ?_, fun other later => late other (List.mem_of_mem_tail later)⟩
    rw [drop_erase_before before, behind, none, List.nil_append, List.nil_append]
  · have dropped := drop_erase_behind distinct (not_lt.mp before)
    rw [behind] at dropped
    by_cases waits : member ∈ delivery.pending
    · rw [List.erase_append_left _ waits] at dropped
      constructor
      case distinct => simpa [Delivery.withdraw, waits] using holds.distinct
      case order =>
        have order := congrArg (List.filter (· != member)) holds.order
        rw [List.filter_append, ← delivered_withdraw waits, ← owed_withdraw waits,
          ← holds.pending_nodup.erase_eq_filter member] at order
        simpa [Delivery.withdraw, waits] using order
      case behind =>
        refine ⟨newcomers, ?_, ?_⟩
        · simpa [Delivery.withdraw, waits] using dropped
        · intro other later began
          have before := late other later (by simpa [Delivery.withdraw, waits] using began)
          simp [Delivery.withdraw, waits, before]
    · have same : delivery.withdraw member = delivery := by simp [Delivery.withdraw, waits]
      rw [List.erase_append_right _ waits] at dropped
      rw [same]
      exact ⟨holds.distinct, holds.order, _, dropped, fun other later => late other (List.mem_of_mem_erase later)⟩

end At

end Delivery

end LiveTraversal
