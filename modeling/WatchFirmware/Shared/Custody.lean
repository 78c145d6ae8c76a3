import Mathlib

set_option autoImplicit false

namespace Custody

abbrev Block := Nat

variable {Place : Type} [DecidableEq Place] {held after : Place → List Block} {allocated : Nat}

def Accounted (held : Place → List Block) (allocated : Nat) : Prop :=
  ∃ book : Block → Option Place,
    (∀ place block, (held place).count block = if book block = some place then 1 else 0) ∧
      ∀ block, book block = none ↔ allocated ≤ block

namespace Accounted

theorem empty (unheld : ∀ place, held place = []) : Accounted held 0 :=
  ⟨fun _ => none, fun place block => by simp [unheld place], fun block => by simp⟩

theorem congr (accounted : Accounted held allocated) (same : ∀ place, after place = held place) :
    Accounted after allocated := by
  have equal : after = held := funext same
  rwa [equal]

theorem once (accounted : Accounted held allocated) {place : Place} {block : Block}
    (member : block ∈ held place) : (held place).count block = 1 := by
  obtain ⟨book, counts, _⟩ := accounted
  have positive := List.count_pos_iff.mpr member
  rw [counts] at positive ⊢
  split at positive
  next => simp [*]
  next => exact absurd positive (Nat.lt_irrefl 0)

theorem count_le_one (accounted : Accounted held allocated) (place : Place) (block : Block) :
    (held place).count block ≤ 1 := by
  obtain ⟨book, counts, _⟩ := accounted
  rw [counts]
  split <;> omega

theorem somewhere (accounted : Accounted held allocated) {block : Block} (known : block < allocated) :
    ∃ place, block ∈ held place := by
  obtain ⟨book, counts, fresh⟩ := accounted
  cases found : book block with
  | none => exact absurd ((fresh block).mp found) (Nat.not_le_of_lt known)
  | some place =>
      refine ⟨place, List.count_pos_iff.mp ?_⟩
      rw [counts, if_pos found]
      exact Nat.one_pos

theorem known (accounted : Accounted held allocated) {place : Place} {block : Block}
    (member : block ∈ held place) : block < allocated := by
  obtain ⟨book, counts, fresh⟩ := accounted
  have positive := List.count_pos_iff.mpr member
  rw [counts] at positive
  by_contra unknown
  rw [(fresh block).mpr (Nat.le_of_not_lt unknown)] at positive
  simp at positive

theorem unique (accounted : Accounted held allocated) {place other : Place} {block : Block}
    (member : block ∈ held place) (also : block ∈ held other) : place = other := by
  obtain ⟨book, counts, _⟩ := accounted
  have found {place : Place} (member : block ∈ held place) : book block = some place := by
    have positive := List.count_pos_iff.mpr member
    rw [counts] at positive
    by_contra elsewhere
    exact absurd positive (by simp [elsewhere])
  exact Option.some.inj ((found member).symm.trans (found also))

theorem move (accounted : Accounted held allocated) {source target : Place} (apart : source ≠ target)
    (block : Block) (taken : (held source).Perm (block :: after source))
    (put : (after target).Perm (block :: held target))
    (others : ∀ place, place ≠ source → place ≠ target → after place = held place) :
    Accounted after allocated := by
  obtain ⟨book, counts, fresh⟩ := accounted
  have there : book block = some source := by
    have count := counts source block
    rw [taken.count_eq, List.count_cons_self] at count
    by_contra elsewhere
    rw [if_neg elsewhere] at count
    omega
  have known := (fresh block).not.mp (by simp [there])
  refine ⟨Function.update book block (some target), fun place other => ?_, fun other => ?_⟩
  · by_cases same : other = block
    · subst same
      rw [Function.update_self]
      by_cases atTarget : place = target
      · subst atTarget
        rw [put.count_eq, List.count_cons_self, counts, there]
        simp [apart]
      · rw [if_neg fun equal => atTarget (Option.some.inj equal).symm]
        by_cases atSource : place = source
        · subst atSource
          have count := counts place other
          rw [taken.count_eq, List.count_cons_self, if_pos there] at count
          omega
        · rw [others place atSource atTarget, counts, there]
          simp [Ne.symm atSource]
    · rw [Function.update_of_ne same, ← counts]
      by_cases atTarget : place = target
      · subst atTarget
        rw [put.count_eq, List.count_cons_of_ne (Ne.symm same)]
      · by_cases atSource : place = source
        · subst atSource
          rw [taken.count_eq, List.count_cons_of_ne (Ne.symm same)]
        · rw [others place atSource atTarget]
  · by_cases same : other = block
    · subst same
      simpa using known
    · rw [Function.update_of_ne same]
      exact fresh other

theorem hand (accounted : Accounted held allocated) {source target : Place} (apart : source ≠ target)
    (block : Block) (taken : held source = block :: after source) (put : after target = held target ++ [block])
    (others : ∀ place, place ≠ source → place ≠ target → after place = held place) :
    Accounted after allocated :=
  accounted.move apart block (.of_eq taken) (put ▸ List.perm_append_singleton block (held target)) others

theorem pass (accounted : Accounted held allocated) {source target : Place} (apart : source ≠ target)
    (payload : Option Block) (taken : held source = payload.toList ++ after source)
    (put : after target = held target ++ payload.toList)
    (others : ∀ place, place ≠ source → place ≠ target → after place = held place) :
    Accounted after allocated := by
  cases payload with
  | some block => exact accounted.hand apart block taken put others
  | none =>
      refine accounted.congr fun place => ?_
      by_cases atSource : place = source
      · exact atSource ▸ taken.symm
      · by_cases atTarget : place = target
        · exact atTarget ▸ put.trans (List.append_nil _)
        · exact others place atSource atTarget

theorem allocate (accounted : Accounted held allocated) {target : Place}
    (put : (after target).Perm (allocated :: held target))
    (others : ∀ place, place ≠ target → after place = held place) : Accounted after (allocated + 1) := by
  obtain ⟨book, counts, fresh⟩ := accounted
  have unknown := (fresh allocated).mpr (Nat.le_refl _)
  refine ⟨Function.update book allocated (some target), fun place other => ?_, fun other => ?_⟩
  · by_cases atTarget : place = target
    · subst atTarget
      rw [put.count_eq]
      by_cases same : other = allocated
      · subst same
        rw [List.count_cons_self, counts, unknown]
        simp
      · rw [List.count_cons_of_ne (Ne.symm same), counts, Function.update_of_ne same]
    · rw [others place atTarget, counts]
      by_cases same : other = allocated
      · subst same
        simp [unknown, Ne.symm atTarget]
      · rw [Function.update_of_ne same]
  · by_cases same : other = allocated
    · subst same
      simp
    · rw [Function.update_of_ne same, fresh]
      exact ⟨fun le => Nat.lt_of_le_of_ne le (Ne.symm same), Nat.le_of_succ_le⟩

end Accounted

end Custody
