import WatchFirmware.NotificationManager.NotificationUi

set_option autoImplicit false

namespace WatchFirmware.NotificationManager

open Transition

variable {Body : Type}

namespace UiPc

def showsCards : UiPc Body → Bool
  | .idle | .drawing _ _ => true
  | .dismissing _ _ | .invalidating => false

end UiPc

namespace NotificationUi

variable {ui after : NotificationUi Body}

/-- The entry a card stands for: the one it shows, or a later one if the list was shifted since. -/
def Standing (ui : NotificationUi Body) (absIdx : Nat) (card : Card Body) : Prop :=
  card.drawnAt ≤ ui.shifts ∧ ∃ current, ui.list.contents[absIdx]? = some current ∧
    (card.drawnAt = ui.shifts → current = card.shown) ∧
      (card.drawnAt < ui.shifts → card.shown.arrival < current.arrival)

def Ascending (list : List (Notification Body)) : Prop :=
  list.Pairwise fun first second => first.arrival < second.arrival

structure Ordered (ui : NotificationUi Body) : Prop where
  ascending : Ascending ui.list.contents
  known : ∀ notification ∈ ui.list.contents, notification.arrival < ui.arrivals

structure Sound (ui : NotificationUi Body) : Prop where
  ordered : ui.Ordered
  shut : ui.isOpen = false → ui.pc = .idle ∧ ui.cards = []
  snapshot : ui.pc ≠ .invalidating → ui.notiSnapshotLen ≤ ui.list.total
  loop : ∀ next displayCardLen, ui.pc = .drawing next displayCardLen →
    ui.notiCurrBaseIdx ≤ next ∧ displayCardLen ≤ ui.notiSnapshotLen
  drawn : ui.pc.showsCards = true → ∀ card ∈ ui.cards, ui.Standing (card.idx + ui.notiCurrBaseIdx) card
  clicked : ∀ absIdx card, ui.pc = .dismissing absIdx card → ui.Standing absIdx card

theorem Ordered.receive {body : Body} (ordered : ui.Ordered)
    (taken : ui.receiveNotification (some body) = some after) : after.Ordered := by
  obtain ⟨list, received, contents⟩ := ui.list.receiveNotification_contents ⟨ui.arrivals, body⟩
  simp only [receiveNotification, received, Option.map_some, Option.some.injEq] at taken
  subst taken
  have appended {old : List (Notification Body)} (sub : old.Sublist ui.list.contents) :
      Ascending (old ++ [⟨ui.arrivals, body⟩]) := by
    refine List.pairwise_append.mpr ⟨ordered.ascending.sublist sub, List.pairwise_singleton _ _, ?_⟩
    intro first member second new
    rw [List.mem_singleton.mp new]
    exact ordered.known first (sub.subset member)
  constructor
  · show Ascending list.contents
    rw [contents]
    unfold BoundedQueue.offer
    split
    · exact appended (List.Sublist.refl _)
    · exact appended (List.tail_sublist _)
  · intro notification member
    have member : notification ∈ list.contents := member
    rw [contents] at member
    rcases BoundedQueue.mem_offer member with old | rfl
    · exact Nat.lt_succ_of_lt (ordered.known notification old)
    · exact Nat.lt_succ_self _

theorem Standing.receive {body : Body} {absIdx : Nat} {card : Card Body} (standing : ui.Standing absIdx card)
    (ordered : ui.Ordered) (taken : ui.receiveNotification (some body) = some after) :
    after.Standing absIdx card := by
  obtain ⟨before, current, found, same, later⟩ := standing
  obtain ⟨list, received, contents⟩ := ui.list.receiveNotification_contents ⟨ui.arrivals, body⟩
  simp only [receiveNotification, received, Option.map_some, Option.some.injEq] at taken
  subst taken
  obtain ⟨inside, entry⟩ := List.getElem?_eq_some_iff.mp found
  have length := ui.list.contents_length
  by_cases full : ui.list.total = maxNotifications
  · -- Everything moves up by one, so a later entry stands at the place.
    have shifted : list.contents = ui.list.contents.tail ++ [⟨ui.arrivals, body⟩] := by
      rw [contents, BoundedQueue.offer, if_neg (by omega)]
    have reached : card.shown.arrival ≤ current.arrival := by
      rcases Nat.eq_or_lt_of_le before with equal | less
      · rw [same equal]
      · exact Nat.le_of_lt (later less)
    have next : ∃ other, list.contents[absIdx]? = some other ∧ current.arrival < other.arrival := by
      rw [shifted]
      by_cases more : absIdx + 1 < ui.list.contents.length
      · refine ⟨ui.list.contents[absIdx + 1], ?_, ?_⟩
        · rw [List.getElem?_append_left (by rw [List.length_tail]; omega), List.getElem?_tail]
          exact List.getElem?_eq_getElem more
        · rw [← entry]
          exact List.pairwise_iff_getElem.mp ordered.ascending absIdx (absIdx + 1) inside more
            (Nat.lt_succ_self absIdx)
      · refine ⟨⟨ui.arrivals, body⟩, ?_, ordered.known current (List.mem_of_getElem? found)⟩
        have last : absIdx = ui.list.contents.tail.length := by
          rw [List.length_tail]
          omega
        rw [last, List.getElem?_concat_length]
    obtain ⟨other, there, greater⟩ := next
    simp only [Standing, full, if_true]
    exact ⟨Nat.le_succ_of_le before, other, there, by omega, by omega⟩
  · have grown : list.contents = ui.list.contents ++ [⟨ui.arrivals, body⟩] := by
      rw [contents]
      have bound := ui.list.total_le
      exact BoundedQueue.offer_room (by omega) _
    simp only [Standing, full, if_false, grown]
    exact ⟨before, current, by rw [List.getElem?_append_left inside, found], same, later⟩

theorem Sound.receive {payload : Option Body} (sound : ui.Sound)
    (taken : ui.receiveNotification payload = some after) : after.Sound := by
  cases payload with
  | none =>
      cases taken
      exact sound
  | some body =>
      have stands {absIdx : Nat} {card : Card Body} (standing : ui.Standing absIdx card) :
          after.Standing absIdx card := standing.receive sound.ordered taken
      have ordered := sound.ordered.receive taken
      obtain ⟨list, received, contents⟩ := ui.list.receiveNotification_contents ⟨ui.arrivals, body⟩
      simp only [receiveNotification, received, Option.map_some, Option.some.injEq] at taken
      subst taken
      have longer : ui.list.total ≤ list.total := by
        have bound := ui.list.total_le
        rw [← list.contents_length, contents, BoundedQueue.offer, NotificationList.contents_length]
        split
        · simp
        · simp
          omega
      exact
        { ordered
          shut := sound.shut
          snapshot := fun settled => Nat.le_trans (sound.snapshot settled) longer
          loop := sound.loop
          drawn := fun shows card member => stands (sound.drawn shows card member)
          clicked := fun absIdx card pc => stands (sound.clicked absIdx card pc) }

theorem Sound.populate (ordered : ui.Ordered) (isOpen : ui.isOpen = true)
    (snapshot : ui.notiSnapshotLen ≤ ui.list.total) : ui.populateCards.Sound where
  ordered := ⟨ordered.ascending, ordered.known⟩
  shut := by
    intro shut
    rw [show ui.populateCards.isOpen = ui.isOpen from rfl, isOpen] at shut
    cases shut
  snapshot := fun _ => snapshot
  loop := by
    intro next displayCardLen pc
    simp only [populateCards, UiPc.drawing.injEq] at pc
    obtain ⟨rfl, rfl⟩ := pc
    refine ⟨Nat.le_refl _, ?_⟩
    show _ ≤ ui.notiSnapshotLen
    split <;> omega
  drawn := fun _ card member => by cases member
  clicked := fun absIdx card pc => by cases pc

theorem Sound.drawCard {next displayCardLen : Nat} (sound : ui.Sound)
    (pc : ui.pc = .drawing next displayCardLen) (taken : ui.drawCard next displayCardLen = some after) :
    after.Sound := by
  obtain ⟨base, limit⟩ := sound.loop next displayCardLen pc
  have shows : ui.pc.showsCards = true := by
    rw [pc]
    rfl
  have settled : ui.pc ≠ .invalidating := by simp [pc]
  unfold NotificationUi.drawCard at taken
  split at taken
  next inside =>
    obtain ⟨data, read, rfl⟩ := Option.map_eq_some_iff.mp taken
    have snapshot := sound.snapshot settled
    have current : ui.list.contents[next]? = some data := by
      rw [NotificationList.contents, List.getElem?_take_of_lt (by omega), read]
    exact
      { ordered := ⟨sound.ordered.ascending, sound.ordered.known⟩
        shut := fun shut => by
          have idle := (sound.shut shut).1
          rw [pc] at idle
          cases idle
        snapshot := fun _ => snapshot
        loop := fun _ _ same => by
          cases same
          exact ⟨Nat.le_succ_of_le base, limit⟩
        drawn := fun _ card member => by
          rcases List.mem_append.mp member with old | new
          · exact sound.drawn shows card old
          · rw [List.mem_singleton.mp new]
            refine ⟨Nat.le_refl _, data, ?_, fun _ => rfl, fun less => absurd less (Nat.lt_irrefl _)⟩
            show ui.list.contents[next - ui.notiCurrBaseIdx + ui.notiCurrBaseIdx]? = some data
            rw [Nat.sub_add_cancel base]
            exact current
        clicked := fun _ _ same => by cases same }
  next =>
    cases taken
    exact
      { ordered := ⟨sound.ordered.ascending, sound.ordered.known⟩
        shut := fun shut => ⟨rfl, (sound.shut shut).2⟩
        snapshot := fun _ => sound.snapshot settled
        loop := fun _ _ same => by cases same
        drawn := fun _ => sound.drawn shows
        clicked := fun _ _ same => by cases same }

theorem Sound.cardKey {position : Nat} {card : Card Body} (sound : ui.Sound) (pc : ui.pc = .idle)
    (there : ui.cards[position]? = some card) (key : Key) : (ui.cardActionCb card key).Sound := by
  have isOpen : ui.isOpen = true := by
    by_contra shut
    rw [(sound.shut (by simpa using shut)).2] at there
    simp at there
  have snapshot := sound.snapshot (by simp [pc])
  have rebased (idx : Nat) : (ui.rebaseAndPopulateCards idx).Sound := by
    unfold rebaseAndPopulateCards
    split
    · split
      · exact sound
      · exact .populate ⟨sound.ordered.ascending, sound.ordered.known⟩ isOpen snapshot
    · split
      · split
        · exact sound
        · exact .populate ⟨sound.ordered.ascending, sound.ordered.known⟩ isOpen snapshot
      · exact .populate sound.ordered isOpen snapshot
  cases key with
  | left | right =>
      unfold cardActionCb
      dsimp only
      split
      · exact rebased card.idx
      · exact sound

theorem Sound.clickDismiss {position : Nat} {card : Card Body} (sound : ui.Sound) (pc : ui.pc = .idle)
    (there : ui.cards[position]? = some card) : (ui.dismissHandlerCb card).Sound where
  ordered := ⟨sound.ordered.ascending, sound.ordered.known⟩
  shut := by
    intro shut
    rw [(sound.shut shut).2] at there
    simp at there
  snapshot := fun _ => sound.snapshot (by simp [pc])
  loop := fun _ _ same => by cases same
  drawn := fun shows => by cases shows
  clicked := by
    intro absIdx clicked same
    cases same
    exact sound.drawn (by rw [pc]; rfl) card (List.mem_of_getElem? there)

theorem Sound.dismissHandler {absIdx : Nat} {card : Card Body} (sound : ui.Sound)
    (pc : ui.pc = .dismissing absIdx card) {list : NotificationList Body}
    (contents : list.contents = ui.list.contents.eraseIdx absIdx) :
    Sound { ui with list, pc := .invalidating } where
  ordered :=
    { ascending := by
        show Ascending list.contents
        rw [contents]
        exact sound.ordered.ascending.sublist (List.eraseIdx_sublist _ _)
      known := by
        intro notification member
        have member : notification ∈ list.contents := member
        rw [contents] at member
        exact sound.ordered.known notification (List.mem_of_mem_eraseIdx member) }
  shut := by
    intro shut
    have idle := (sound.shut shut).1
    rw [pc] at idle
    cases idle
  snapshot := fun settled => absurd rfl settled
  loop := fun _ _ same => by cases same
  drawn := fun shows => by cases shows
  clicked := fun _ _ same => by cases same

theorem Sound.step {action : Action Body} (sound : ui.Sound) (taken : step ui action = some after) :
    after.Sound := by
  cases step_moved taken with
  | receive received => exact sound.receive received
  | drawPage pc shut =>
      have drawn : Sound (populateCards { ui.retrieveAll with isOpen := true }) :=
        .populate ⟨sound.ordered.ascending, sound.ordered.known⟩ rfl (Nat.le_refl _)
      exact drawn
  | drawCard pc drew => exact sound.drawCard pc drew
  | cardKey pc there => exact sound.cardKey pc there _
  | clickDismiss pc there => exact sound.clickDismiss pc there
  | dismissHandler pc contents => exact sound.dismissHandler pc contents
  | invalidate pc isOpen =>
      exact .populate ⟨sound.ordered.ascending, sound.ordered.known⟩ isOpen (Nat.le_refl _)
  | invalidateShut pc shut =>
      have idle := (sound.shut shut).1
      rw [pc] at idle
      cases idle
  | deleteUi pc =>
      have snapshot := sound.snapshot (by simp [pc])
      exact
        { ordered := ⟨sound.ordered.ascending, sound.ordered.known⟩
          shut := fun _ => ⟨rfl, rfl⟩
          snapshot := fun _ => snapshot
          loop := fun _ _ same => by cases same
          drawn := fun _ card member => by cases member
          clicked := fun _ _ same => by cases same }

theorem Initial.sound (initial : ui.Initial) : ui.Sound := by
  have empty : ui.list.contents = [] := by
    rw [← List.length_eq_zero_iff, NotificationList.contents_length, initial.list]
  exact
    { ordered := ⟨by rw [empty]; exact List.Pairwise.nil, by simp [empty]⟩
      shut := fun _ => ⟨initial.pc, initial.cards⟩
      snapshot := fun _ => by rw [initial.notiSnapshotLen]; exact Nat.zero_le _
      loop := fun _ _ pc => by simp [initial.pc] at pc
      drawn := fun _ card member => by simp [initial.cards] at member
      clicked := fun _ _ pc => by simp [initial.pc] at pc }

theorem sound_of_reach (reached : Reach step Initial Unguarded ui) : ui.Sound :=
  reached.invariant (fun _ => Initial.sound) fun _ _ _ sound _ taken => sound.step taken

def Removes (before : List (Notification Body)) (shown : Notification Body)
    (after : List (Notification Body)) : Prop :=
  ∃ i, before[i]? = some shown ∧ after = before.eraseIdx i

theorem Ascending.index_unique {list : List (Notification Body)} (ascending : Ascending list) {i j : Nat}
    {first second : Notification Body} (one : list[i]? = some first) (other : list[j]? = some second)
    (same : first.arrival = second.arrival) : i = j := by
  obtain ⟨iInside, rfl⟩ := List.getElem?_eq_some_iff.mp one
  obtain ⟨jInside, rfl⟩ := List.getElem?_eq_some_iff.mp other
  have apart := List.pairwise_iff_getElem.mp ascending
  rcases Nat.lt_trichotomy i j with less | equal | greater
  · have strict := apart i j iInside jInside less
    omega
  · exact equal
  · have strict := apart j i jInside iInside greater
    omega

/-- In every run: a dismissal removes exactly what its card shows if and only if no arrival has found the
list full since the card was drawn. -/
theorem removes_shown_iff {absIdx : Nat} {card : Card Body}
    (reached : Reach step Initial Unguarded ui) (clicked : ui.pc = .dismissing absIdx card)
    (taken : step ui .dismissHandler = some after) :
    Removes ui.list.contents card.shown after.list.contents ↔ card.drawnAt = ui.shifts := by
  have sound := sound_of_reach reached
  obtain ⟨before, current, found, same, later⟩ := sound.clicked absIdx card clicked
  have contents : after.list.contents = ui.list.contents.eraseIdx absIdx := by
    simp only [NotificationUi.step, clicked] at taken
    obtain ⟨list, dismissed, rfl⟩ := Option.map_eq_some_iff.mp taken
    obtain ⟨other, removed, contents⟩ := ui.list.dismissNotification_contents absIdx
    rw [Option.some.inj (dismissed.symm.trans removed)]
    exact contents
  constructor
  · rintro ⟨i, shown, erased⟩
    by_contra shifted
    have strict := later (Nat.lt_of_le_of_ne before shifted)
    -- The shown notification is still in the list then, at another place.
    have apart : i ≠ absIdx := by
      rintro rfl
      rw [found] at shown
      cases shown
      exact Nat.lt_irrefl _ strict
    have kept : card.shown ∈ after.list.contents := by
      rw [contents, List.mem_eraseIdx_iff_getElem?]
      exact ⟨i, apart, shown⟩
    rw [erased, List.mem_eraseIdx_iff_getElem?] at kept
    obtain ⟨j, other, there⟩ := kept
    exact other (sound.ordered.ascending.index_unique there shown rfl)
  · intro unshifted
    exact ⟨absIdx, by rw [found, same unshifted], contents⟩

end NotificationUi

end WatchFirmware.NotificationManager
