import WatchFirmware.DisplayDriver.DisplayDriver

set_option autoImplicit false

namespace WatchFirmware.DisplayDriver.Display

open Transition

variable {d after : Display} {request : Call} {succeeds : Bool}

def Agrees (d : Display) : Prop :=
  match d.displayState with
  | .on => d.panel.outputOn = true ∧ d.panel.asleep = false
  | .sleep => d.panel.asleep = true
  | .off => d.panel.outputOn = false

def Lawful (d : Display) (request : Call) (succeeds : Bool) : Prop :=
  (d.call request succeeds).2.Agrees ∧
    ((d.call request succeeds).1 = false → (d.call request succeeds).2 = d)

def Operates (d : Display) (succeeds : Bool) : Prop := d.panelHandle = true ∧ succeeds = true

instance (d : Display) (succeeds : Bool) : Decidable (d.Operates succeeds) :=
  inferInstanceAs (Decidable (_ ∧ _))

/-- Switching off out of sleep succeeds, and switching on does not find a sleeping panel switched off. -/
def Sound (d : Display) (request : Call × Bool) : Prop :=
  (request.1 = .displayOff → d.displayState = .sleep → d.Operates request.2) ∧
    (request.1 = .displayOn → d.displayState = .off → d.panel.asleep = true → ¬ d.Operates request.2)

instance (d : Display) (request : Call × Bool) : Decidable (d.Sound request) :=
  inferInstanceAs (Decidable (_ ∧ _))

inductive CallStep (d : Display) (succeeds : Bool) : Call → Bool × Display → Prop where
  | refused (request : Call)
      (fails : d.Operates succeeds → request = .displayOn ∧ d.displayState = .on ∨
        request = .displayOff ∧ d.displayState = .off ∨ request = .displaySleep ∧ d.displayState ≠ .on)
      (back : request = .displayOff → d.displayState ≠ .sleep) : CallStep d succeeds request (false, d)
  | stuck (state : d.displayState = .sleep) (fails : ¬ d.Operates succeeds) :
      CallStep d succeeds .displayOff (false, { d with displayState := .off })
  | turnsOn (state : d.displayState = .off) (operates : d.Operates succeeds) :
      CallStep d succeeds .displayOn (true, { d with
        displayState := .on, panel := { d.panel with outputOn := true } })
  | wakes (state : d.displayState = .sleep) (operates : d.Operates succeeds) :
      CallStep d succeeds .displayOn (true, { d with
        displayState := .on, panel := { d.panel with asleep := false } })
  | turnsOff (state : d.displayState ≠ .off) (operates : d.Operates succeeds) :
      CallStep d succeeds .displayOff (true, { d with
        displayState := .off, panel := { d.panel with outputOn := false } })
  | sleeps (state : d.displayState = .on) (operates : d.Operates succeeds) :
      CallStep d succeeds .displaySleep (true, { d with
        displayState := .sleep, panel := { d.panel with asleep := true } })

theorem callStep (d : Display) (request : Call) (succeeds : Bool) :
    CallStep d succeeds request (d.call request succeeds) := by
  obtain ⟨displayState, panelHandle, panel⟩ := d
  by_cases operates : panelHandle = true ∧ succeeds = true
  · obtain ⟨rfl, rfl⟩ := operates
    cases request with
    | displayOn =>
        cases displayState with
        | off => exact .turnsOn rfl ⟨rfl, rfl⟩
        | on => exact .refused .displayOn (fun _ => .inl ⟨rfl, rfl⟩) (by simp)
        | sleep => exact .wakes rfl ⟨rfl, rfl⟩
    | displayOff =>
        cases displayState with
        | off => exact .refused .displayOff (fun _ => .inr (.inl ⟨rfl, rfl⟩)) (by simp)
        | on | sleep => exact .turnsOff (by simp) ⟨rfl, rfl⟩
    | displaySleep =>
        cases displayState with
        | off | sleep => exact .refused .displaySleep (fun _ => .inr (.inr ⟨rfl, by simp⟩)) (by simp)
        | on => exact .sleeps rfl ⟨rfl, rfl⟩
  · have fails : ∀ state, ¬ Operates ⟨state, panelHandle, panel⟩ succeeds := fun _ => operates
    have failed : panelHandle = false ∨ panelHandle = true ∧ succeeds = false := by
      cases panelHandle <;> cases succeeds <;> simp_all
    -- Only the way back to SLEEP is closed once the FSM is OFF.
    cases request with
    | displayOn | displaySleep =>
        rcases failed with rfl | ⟨rfl, rfl⟩ <;> cases displayState <;>
          exact .refused _ (fun operates => absurd operates (fails _)) (by simp)
    | displayOff =>
        cases displayState with
        | off | on =>
            rcases failed with rfl | ⟨rfl, rfl⟩ <;>
              exact .refused _ (fun operates => absurd operates (fails _)) (by simp)
        | sleep => rcases failed with rfl | ⟨rfl, rfl⟩ <;> exact .stuck rfl (fails _)

def Settled (d : Display) : Prop :=
  match d.displayState with
  | .on => d.panel = ⟨true, false⟩
  | .sleep => d.panel = ⟨true, true⟩
  | .off => d.panel.outputOn = false

theorem Settled.agrees (settled : d.Settled) : d.Agrees := by
  unfold Settled at settled
  unfold Agrees
  cases state : d.displayState with
  | on =>
      simp only [state] at settled
      rw [settled]
      exact ⟨rfl, rfl⟩
  | sleep =>
      simp only [state] at settled
      rw [settled]
  | off => simpa only [state] using settled

theorem Settled.step {out : Bool × Display} (settled : d.Settled)
    (step : CallStep d succeeds request out) (sound : d.Sound (request, succeeds)) :
    out.2.Settled ∧ (out.1 = false → out.2 = d) := by
  unfold Settled at settled
  cases step with
  | refused => exact ⟨settled, fun _ => rfl⟩
  | stuck state fails => exact absurd (sound.1 rfl state) fails
  | turnsOn state operates =>
      have awake : d.panel.asleep = false := by
        simpa using fun asleep => sound.2 rfl state asleep operates
      simp only [state] at settled
      exact ⟨by simp only [Settled, awake], by simp⟩
  | wakes state =>
      simp only [state] at settled
      exact ⟨by simp only [Settled, settled], by simp⟩
  | turnsOff => exact ⟨rfl, by simp⟩
  | sleeps state =>
      simp only [state] at settled
      exact ⟨by simp only [Settled, settled], by simp⟩

theorem CallStep.sound {out : Bool × Display} (step : CallStep d succeeds request out)
    (agrees : out.2.Agrees) (undone : out.1 = false → out.2 = d) : d.Sound (request, succeeds) := by
  -- each of the two excluded calls breaks the law
  constructor
  · rintro rfl state
    by_contra fails
    cases step with
    | refused _ _ back => exact back rfl state
    | stuck =>
        -- The panel is on behind an FSM that says OFF.
        have off := congrArg displayState (undone rfl)
        rw [state] at off
        cases off
    | turnsOff _ operates => exact fails operates
  · rintro rfl state asleep operates
    cases step with
    | refused _ fails =>
        rcases fails operates with ⟨_, on⟩ | ⟨other, _⟩ | ⟨other, _⟩
        · rw [state] at on
          cases on
        · cases other
        · cases other
    | turnsOn =>
        have awake : d.panel.asleep = false := agrees.2
        rw [asleep] at awake
        cases awake
    | wakes other =>
        rw [state] at other
        cases other

theorem Initial.settled (initial : d.Initial) : d.Settled := by
  obtain ⟨state, panel⟩ := initial
  simp only [Settled, state, panel]

theorem settled_of_reach (reached : Reach step Initial Sound d) : d.Settled := by
  induction reached with
  | start initial => exact initial.settled
  | next _ sound taken settled =>
      cases taken
      exact (settled.step (callStep _ _ _) sound).1

/-- In every run of sound calls the FSM agrees with the panel, and the next call keeps the law exactly when
it is sound too. -/
theorem display_lawful_iff (reached : Reach step Initial Sound d) :
    d.Agrees ∧ ∀ request succeeds, d.Lawful request succeeds ↔ d.Sound (request, succeeds) := by
  have settled := settled_of_reach reached
  refine ⟨settled.agrees, fun request succeeds => ⟨?_, ?_⟩⟩
  · intro lawful
    exact (d.callStep request succeeds).sound lawful.1 lawful.2
  · intro sound
    obtain ⟨next, undone⟩ := settled.step (d.callStep request succeeds) sound
    exact ⟨next.agrees, undone⟩

def attached : Display := ⟨.off, true, ⟨false, false⟩⟩

theorem display_lawful_iff_asleep :
    ∃ d : Display, d.displayState = .sleep ∧ d.Agrees ∧
      ∀ request succeeds, d.Lawful request succeeds ↔ d.Sound (request, succeeds) := by
  have taken : run step attached [(.displayOn, true), (.displaySleep, true)] =
      some ⟨.sleep, true, ⟨true, true⟩⟩ := rfl
  have guarded : Guarded step Sound attached [(.displayOn, true), (.displaySleep, true)] := by decide
  exact ⟨_, rfl, display_lawful_iff ((Reach.start ⟨rfl, rfl⟩).of_run guarded taken)⟩

/-- Out of SLEEP, a failed switch-off stays OFF over a panel that is on; a successful one leaves the panel
asleep, and the next switch-on does not wake it. -/
theorem display_disagrees :
    (∃ d : Display, Reach step Initial Unguarded d ∧ (d.call .displayOff false).1 = false ∧
      (d.call .displayOff false).2.displayState = .off ∧
      (d.call .displayOff false).2.panel.outputOn = true ∧ ¬ d.Lawful .displayOff false) ∧
    ∃ d : Display, Reach step Initial Unguarded d ∧ ¬ d.Lawful .displayOn true := by
  have start : Reach step Initial Unguarded attached := .start ⟨rfl, rfl⟩
  have asleep : Reach step Initial Unguarded ⟨.sleep, true, ⟨true, true⟩⟩ :=
    start.of_run (guarded_unguarded step attached [(.displayOn, true), (.displaySleep, true)]) rfl
  have left : Reach step Initial Unguarded ⟨.off, true, ⟨false, true⟩⟩ :=
    asleep.of_run (guarded_unguarded step _ [(.displayOff, true)]) rfl
  refine ⟨⟨_, asleep, rfl, rfl, rfl, ?_⟩, _, left, ?_⟩
  · intro lawful
    cases lawful.2 rfl
  · intro lawful
    cases lawful.1.2

end WatchFirmware.DisplayDriver.Display
