import Mathlib

set_option autoImplicit false

namespace FaultFree

variable {Fault α β : Type}

def Leads (result : Except Fault α) (holds : α → Prop) : Prop := ∃ value, result = .ok value ∧ holds value

namespace Leads

theorem pure {holds : α → Prop} {value : α} (fact : holds value) :
    Leads (.ok value : Except Fault α) holds := ⟨value, rfl, fact⟩

theorem bind {result : Except Fault α} {further : α → Except Fault β} {holds : α → Prop}
    {last : β → Prop} (first : Leads result holds) (next : ∀ value, holds value → Leads (further value) last) :
    Leads (result >>= further) last := by
  obtain ⟨value, rfl, fact⟩ := first
  exact next value fact

theorem mono {result : Except Fault α} {holds weaker : α → Prop} (first : Leads result holds)
    (implies : ∀ value, holds value → weaker value) : Leads result weaker := by
  obtain ⟨value, same, fact⟩ := first
  exact ⟨value, same, implies value fact⟩

theorem foldlM {holds : α → Prop} {act : α → β → Except Fault α} {items : List β} {value : α}
    (start : holds value) (kept : ∀ value item, holds value → Leads (act value item) holds) :
    Leads (items.foldlM act value) holds := by
  induction items generalizing value with
  | nil => exact .pure start
  | cons item rest ih =>
      rw [List.foldlM_cons]
      exact (kept value item start).bind fun _ next => ih next

end Leads

end FaultFree
