import WatchFirmware.WeatherApp.Callback

set_option autoImplicit false

namespace WatchFirmware.WeatherApp

open CommonApis

theorem gmtime_hour (t : Int) : 0 ≤ (gmtime t).hour ∧ (gmtime t).hour < 24 := by
  have low : 0 ≤ t % secondsPerDay := Int.emod_nonneg t (by decide)
  have high : t % secondsPerDay < 86400 := Int.emod_lt_of_pos t (by decide)
  simp only [gmtime]
  omega

theorem hr_of_valid {dt : DateTime} (valid : validateDateTime dt = true) : dt.hr < 24 := by
  have carried := gmtime_hour (timegm dt.toTm)
  simp only [validateDateTime, Bool.and_eq_true, beq_iff_eq] at valid
  have same : (dt.hr : Int) = (gmtime (timegm dt.toTm)).hour := valid.1.1.1.2
  omega

theorem getDateTimeFromEpoch_hr (epoch : Nat) : (getDateTimeFromEpoch epoch).hr < 24 := by
  have hour := gmtime_hour epoch
  simp only [getDateTimeFromEpoch]
  omega

theorem proposedEpoch_today (dt : DateTime) : 0 ≤ proposedEpoch dt 0 ∧ proposedEpoch dt 0 ≤ 4294967295 := by
  -- any date has an epoch, perhaps not its own
  have low : 0 ≤ timegm dt.toTm % 4294967296 := Int.emod_nonneg _ (by decide)
  have high : timegm dt.toTm % 4294967296 < 4294967296 := Int.emod_lt_of_pos _ (by decide)
  rw [proposedEpoch, getEpochFromDateTime]
  omega

theorem weatherIndex_total {hr : Int} (inside : 0 ≤ hr ∧ hr ≤ 23) : ∃ hour, weatherIndex hr = some hour := by
  have valid : validateHour hr = true := decide_eq_true (by omega)
  exact ⟨_, if_pos valid⟩

theorem hourLabel_total {hour : Nat} {hrOffset : Int} (inside : 0 ≤ hour + hrOffset ∧ hour + hrOffset ≤ 23) :
    ∃ label, getDateTimeHrStringFmt hour hrOffset = some label := by
  have valid : validateHour (hour + hrOffset) = true := decide_eq_true (by omega)
  exact ⟨_, if_pos valid⟩

theorem dateLabel_total {date : DateTime} {dayOffset : Int}
    (inside : 0 ≤ proposedEpoch date dayOffset ∧ proposedEpoch date dayOffset ≤ 4294967295) :
    ∃ label, getDateTimeDateStringFmt date dayOffset = some label := by
  have valid : validateEpoch (proposedEpoch date dayOffset) = true := decide_eq_true inside
  exact ⟨_, if_pos valid⟩

theorem calculateDate_total {time : DateTime} {dateOffset : Int}
    (near : -maxDateOffsetDiff ≤ dateOffset ∧ dateOffset ≤ maxDateOffsetDiff)
    (inside : 0 ≤ proposedEpoch time dateOffset ∧ proposedEpoch time dateOffset ≤ 4294967295) :
    ∃ reqDate, calculateDateWithOffset time dateOffset = some reqDate := by
  have valid : validateEpoch (proposedEpoch time dateOffset) = true := decide_eq_true inside
  rw [calculateDateWithOffset, if_pos near]
  exact ⟨_, if_pos valid⟩

namespace WeatherAppCtx

def HourInside (ctx : WeatherAppCtx) : Prop :=
  0 ≤ ctx.activeDateTime.hr + ctx.hrOffset ∧ ctx.activeDateTime.hr + ctx.hrOffset ≤ 23

def DateInside (ctx : WeatherAppCtx) : Prop :=
  -maxDateOffsetDiff ≤ ctx.dateOffset ∧ ctx.dateOffset ≤ maxDateOffsetDiff

def EpochInside (ctx : WeatherAppCtx) : Prop :=
  0 ≤ proposedEpoch ctx.activeDateTime ctx.dateOffset ∧
    proposedEpoch ctx.activeDateTime ctx.dateOffset ≤ 4294967295

end WeatherAppCtx

inductive Field where
  | activeDateTime
  | dateOffset
  | hrOffset
  deriving DecidableEq

abbrev Apart (some others : List Field) : Prop := ∀ field ∈ some, field ∉ others

structure Stored (fields : List Field) (ctx after : WeatherAppCtx) : Prop where
  activeDateTime : .activeDateTime ∉ fields → after.activeDateTime = ctx.activeDateTime
  dateOffset : .dateOffset ∉ fields → after.dateOffset = ctx.dateOffset
  hrOffset : .hrOffset ∉ fields → after.hrOffset = ctx.hrOffset

structure Steady (torn : List Field) (ctx : WeatherAppCtx) : Prop where
  known : ctx.activeDateTime = .zero ∨ validateDateTime ctx.activeDateTime = true
  date : ctx.DateInside
  hour : .hrOffset ∉ torn → ctx.HourInside
  epoch : .dateOffset ∉ torn → ctx.EpochInside

theorem Steady.hr_lt {torn : List Field} {ctx : WeatherAppCtx} (steady : Steady torn ctx) :
    ctx.activeDateTime.hr < 24 := by
  obtain zero | valid := steady.known
  next =>
    rw [zero]
    decide
  next => exact hr_of_valid valid

theorem Steady.of_same {torn : List Field} {ctx after : WeatherAppCtx} (steady : Steady torn ctx)
    (same : Stored [] ctx after) : Steady torn after := by
  have active := same.activeDateTime List.not_mem_nil
  have dateOffset := same.dateOffset List.not_mem_nil
  have hrOffset := same.hrOffset List.not_mem_nil
  obtain ⟨known, date, hour, epoch⟩ := steady
  unfold WeatherAppCtx.DateInside at date
  unfold WeatherAppCtx.HourInside at hour
  unfold WeatherAppCtx.EpochInside at epoch
  rw [← active, ← hrOffset] at hour
  rw [← active, ← dateOffset] at epoch
  rw [← active] at known
  rw [← dateOffset] at date
  exact ⟨known, date, hour, epoch⟩

namespace Handling

def stores : Handling → List Field
  | zeroing => [.activeDateTime]
  | storing _ => [.hrOffset]
  | _ => []

def tested : Handling → List Field
  | zeroing => [.activeDateTime]
  | incrementing | storing _ => [.activeDateTime, .hrOffset]
  | _ => []

def asserts : Handling → List Field
  | refreshingBottom | labelling => [.hrOffset]
  | dating _ => [.dateOffset]
  | _ => []

def deletesSpinner : Handling → Bool
  | exiting => true
  | _ => false

def redraws : Handling → Bool
  | received _ | copied | exiting => false
  | _ => true

def Ready (ctx : WeatherAppCtx) : Handling → Prop
  | zeroing => ¬validateDateTime ctx.activeDateTime = true
  | incrementing => validateHour (ctx.activeDateTime.hr + (ctx.hrOffset + 1)) = true
  | storing hrOffset => validateHour (ctx.activeDateTime.hr + hrOffset) = true
  | _ => True

variable {ctx after : WeatherAppCtx} {phase : Handling}

theorem act_stores {next : Option Handling} (acted : phase.act ctx = some (after, next)) :
    Stored phase.stores ctx after := by
  cases phase with
  | exiting =>
      rw [act] at acted
      split at acted
      next =>
        cases acted
        exact ⟨fun _ => rfl, fun _ => rfl, fun _ => rfl⟩
      next => contradiction
  | zeroing =>
      cases acted
      exact ⟨fun kept => absurd (List.mem_singleton_self _) kept, fun _ => rfl, fun _ => rfl⟩
  | storing hrOffset =>
      cases acted
      exact ⟨fun _ => rfl, fun _ => rfl, fun kept => absurd (List.mem_singleton_self _) kept⟩
  | refreshing | refreshingBottom | labelling | dating =>
      obtain ⟨_, _, same⟩ := Option.map_eq_some_iff.mp acted
      cases same
      exact ⟨fun _ => rfl, fun _ => rfl, fun _ => rfl⟩
  | _ =>
      cases acted
      exact ⟨fun _ => rfl, fun _ => rfl, fun _ => rfl⟩

theorem Ready.of_stored {fields : List Field} (stored : Stored fields ctx after)
    (apart : Apart fields phase.tested) (ready : phase.Ready ctx) : phase.Ready after := by
  have kept (field : Field) (used : field ∈ phase.tested) : field ∉ fields :=
    fun changed => apart field changed used
  cases phase with
  | zeroing =>
      rw [Ready, stored.activeDateTime (kept _ (by simp [tested]))]
      exact ready
  | incrementing =>
      rw [Ready, stored.activeDateTime (kept _ (by simp [tested])), stored.hrOffset (kept _ (by simp [tested]))]
      exact ready
  | storing hrOffset =>
      rw [Ready, stored.activeDateTime (kept _ (by simp [tested]))]
      exact ready
  | _ => trivial

theorem act_steady {torn : List Field} (ready : phase.Ready ctx) (steady : Steady torn ctx)
    (apart : Apart phase.asserts torn) (spinning : phase.deletesSpinner = true → ctx.spinner = true) :
    ∃ after next, phase.act ctx = some (after, next) ∧ Steady torn after ∧
      ∀ phase ∈ next, phase.Ready after := by
  have unchanged {after : WeatherAppCtx} {next : Handling} (acted : phase.act ctx = some (after, some next))
      (same : phase.stores = []) (ready : next.Ready after) :
      ∃ after next, phase.act ctx = some (after, next) ∧ Steady torn after ∧ ∀ phase ∈ next, phase.Ready after := by
    have stored := act_stores acted
    rw [same] at stored
    refine ⟨after, some next, acted, steady.of_same stored, fun _ present => ?_⟩
    cases present
    exact ready
  have last {after : WeatherAppCtx} (acted : phase.act ctx = some (after, none)) (same : Stored [] ctx after) :
      ∃ after next, phase.act ctx = some (after, next) ∧ Steady torn after ∧ ∀ phase ∈ next, phase.Ready after :=
    ⟨after, none, acted, steady.of_same same, fun phase present => absurd present (Option.not_mem_none phase)⟩
  cases phase with
  | received | drawingTop | drawingBottom => exact unchanged rfl rfl trivial
  | copied =>
      cases spinner : ctx.spinner with
      | true =>
          have acted : act ctx copied = some (ctx, some exiting) := by rw [act, if_pos spinner]
          exact unchanged acted rfl trivial
      | false =>
          have acted : act ctx copied = some (ctx, none) := by rw [act, if_neg (Bool.eq_false_iff.mp spinner)]
          exact last acted ⟨fun _ => rfl, fun _ => rfl, fun _ => rfl⟩
  | exiting =>
      have acted : act ctx exiting = some ({ ctx with spinner := false }, some initializing) := if_pos (spinning rfl)
      exact unchanged acted rfl trivial
  | initializing =>
      by_cases valid : validateDateTime ctx.activeDateTime = true
      next =>
        have acted : act ctx initializing = some (ctx, some validating) := by rw [act, if_pos valid]
        exact unchanged acted rfl trivial
      next =>
        have acted : act ctx initializing = some (ctx, some zeroing) := by rw [act, if_neg valid]
        exact unchanged acted rfl valid
  | zeroing =>
      -- the test for a valid date fails where the date is the zero one already
      have zero := steady.known.resolve_right ready
      exact last rfl ⟨fun _ => zero.symm, fun _ => rfl, fun _ => rfl⟩
  | validating =>
      by_cases valid : validateHrOffsetIncrement ctx.activeDateTime ctx.hrOffset = true
      next =>
        have acted : act ctx validating = some (ctx, some incrementing) := by rw [act, if_pos valid]
        refine unchanged acted rfl ?_
        rwa [Ready, ← Int.add_assoc]
      next =>
        have acted : act ctx validating = some (ctx, some refreshing) := by rw [act, if_neg valid]
        exact unchanged acted rfl trivial
  | incrementing => exact unchanged rfl rfl ready
  | storing hrOffset =>
      have inside := of_decide_eq_true ready
      refine ⟨_, _, rfl, ⟨steady.known, steady.date, fun _ => ?_, steady.epoch⟩, fun _ present => ?_⟩
      next => exact ⟨inside.1, Int.lt_add_one_iff.mp inside.2⟩
      next =>
        cases present
        trivial
  | refreshing =>
      have early := steady.hr_lt
      obtain ⟨hour, found⟩ := @weatherIndex_total ctx.activeDateTime.hr (by omega)
      have acted : act ctx refreshing = some (ctx, some (drawingTop hour)) := by rw [act, found, Option.map_some]
      exact unchanged acted rfl trivial
  | refreshingBottom =>
      obtain ⟨hour, found⟩ := weatherIndex_total (steady.hour (apart _ (List.mem_singleton_self _)))
      have acted : act ctx refreshingBottom = some (ctx, some (drawingBottom hour)) := by
        rw [act, calculateHrWithOffset, found, Option.map_some]
      exact unchanged acted rfl trivial
  | labelling =>
      obtain ⟨hour, formatted⟩ := hourLabel_total (steady.hour (apart _ (List.mem_singleton_self _)))
      have acted : act ctx labelling = some (ctx, some (dating hour)) := by rw [act, formatted, Option.map_some]
      exact unchanged acted rfl trivial
  | dating hour =>
      obtain ⟨date, formatted⟩ := dateLabel_total (steady.epoch (apart _ (List.mem_singleton_self _)))
      have acted : act ctx (dating hour) = some (ctx, some (drawingLabels hour date)) := by
        rw [act, formatted, Option.map_some]
      exact unchanged acted rfl trivial
  | drawingLabels hour date => exact last rfl ⟨fun _ => rfl, fun _ => rfl, fun _ => rfl⟩

theorem act_redraws {next : Handling} (redraws : phase.redraws = true)
    (acted : phase.act ctx = some (after, some next)) : next.redraws = true := by
  cases phase with
  | received | copied | exiting => contradiction
  | zeroing | drawingLabels => cases acted
  | initializing | validating =>
      cases acted
      split <;> rfl
  | refreshing | refreshingBottom | labelling | dating =>
      obtain ⟨_, _, same⟩ := Option.map_eq_some_iff.mp acted
      cases same
      rfl
  | _ =>
      cases acted
      rfl

end Handling

namespace Callback

def stores : Callback → List Field
  | storingDate _ | resettingDate => [.dateOffset]
  | storingHour _ | resettingHour => [.hrOffset]
  | selecting _ => [.activeDateTime]
  | drawing phase _ => phase.stores
  | _ => []

def tested : Callback → List Field
  | steppingDate _ | storingDate _ => [.activeDateTime, .dateOffset]
  | steppingHour _ | storingHour _ => [.activeDateTime, .hrOffset]
  | drawing phase _ => phase.tested
  | _ => []

/-- What still belongs to the date before the selected one. -/
def torn : Callback → List Field
  | resettingHour => [.hrOffset, .dateOffset]
  | resettingDate => [.dateOffset]
  | _ => []

def Ready (ctx : WeatherAppCtx) : Callback → Prop
  | steppingDate change =>
      WeatherAppCtx.DateInside { ctx with dateOffset := ctx.dateOffset + change } ∧
        WeatherAppCtx.EpochInside { ctx with dateOffset := ctx.dateOffset + change }
  | storingDate dateOffset =>
      WeatherAppCtx.DateInside { ctx with dateOffset } ∧ WeatherAppCtx.EpochInside { ctx with dateOffset }
  | steppingHour change => WeatherAppCtx.HourInside { ctx with hrOffset := ctx.hrOffset + change }
  | storingHour hrOffset => WeatherAppCtx.HourInside { ctx with hrOffset }
  | selecting reqDate => validateDateTime reqDate = true
  | drawing phase _ => phase.redraws = true ∧ phase.Ready ctx
  | _ => True

variable {ctx after : WeatherAppCtx} {phase : Callback}

theorem Ready.of_stored {fields : List Field} (stored : Stored fields ctx after)
    (apart : Apart fields phase.tested) (ready : phase.Ready ctx) : phase.Ready after := by
  have kept (field : Field) (used : field ∈ phase.tested) : field ∉ fields :=
    fun changed => apart field changed used
  cases phase with
  | steppingDate change =>
      have active := stored.activeDateTime (kept _ (by simp [tested]))
      have dateOffset := stored.dateOffset (kept _ (by simp [tested]))
      simpa only [Ready, WeatherAppCtx.DateInside, WeatherAppCtx.EpochInside, active, dateOffset] using ready
  | storingDate dateOffset =>
      have active := stored.activeDateTime (kept _ (by simp [tested]))
      simpa only [Ready, WeatherAppCtx.DateInside, WeatherAppCtx.EpochInside, active] using ready
  | steppingHour change =>
      have active := stored.activeDateTime (kept _ (by simp [tested]))
      have hrOffset := stored.hrOffset (kept _ (by simp [tested]))
      simpa only [Ready, WeatherAppCtx.HourInside, active, hrOffset] using ready
  | storingHour hrOffset =>
      have active := stored.activeDateTime (kept _ (by simp [tested]))
      simpa only [Ready, WeatherAppCtx.HourInside, active] using ready
  | drawing phase loading => exact ⟨ready.1, Handling.Ready.of_stored stored apart ready.2⟩
  | selecting => exact ready
  | _ => trivial

theorem act_stores {next : Option Callback} (acted : phase.act ctx = some (after, next)) :
    Stored phase.stores ctx after := by
  cases phase with
  | dateKey key | hourKey key =>
      cases key <;>
        cases acted <;>
        exact ⟨fun _ => rfl, fun _ => rfl, fun _ => rfl⟩
  | storingDate | resettingDate =>
      cases acted
      exact ⟨fun _ => rfl, fun kept => absurd (List.mem_singleton_self _) kept, fun _ => rfl⟩
  | storingHour | resettingHour =>
      cases acted
      exact ⟨fun _ => rfl, fun _ => rfl, fun kept => absurd (List.mem_singleton_self _) kept⟩
  | selecting =>
      cases acted
      exact ⟨fun kept => absurd (List.mem_singleton_self _) kept, fun _ => rfl, fun _ => rfl⟩
  | calculating =>
      obtain ⟨_, _, same⟩ := Option.map_eq_some_iff.mp acted
      cases same
      exact ⟨fun _ => rfl, fun _ => rfl, fun _ => rfl⟩
  | drawing phase loading =>
      obtain ⟨⟨drawn, _⟩, shared, same⟩ := Option.map_eq_some_iff.mp acted
      cases same
      exact Handling.act_stores shared
  | _ =>
      cases acted
      exact ⟨fun _ => rfl, fun _ => rfl, fun _ => rfl⟩

def tornNext (next : Option Callback) : List Field := (next.map torn).getD []

theorem act_steady (ready : phase.Ready ctx) (steady : Steady phase.torn ctx) :
    ∃ after next, phase.act ctx = some (after, next) ∧ Steady (tornNext next) after ∧
      ∀ phase ∈ next, phase.Ready after := by
  have last {next : Option Callback} (acted : phase.act ctx = some (ctx, next)) (whole : phase.torn = [])
      (same : tornNext next = []) (ready : ∀ phase ∈ next, phase.Ready ctx) :
      ∃ after next, phase.act ctx = some (after, next) ∧ Steady (tornNext next) after ∧
        ∀ phase ∈ next, phase.Ready after := by
    rw [whole] at steady
    refine ⟨ctx, next, acted, ?_, ready⟩
    rwa [same]
  have done (phase : Callback) (present : phase ∈ (none : Option Callback)) : phase.Ready ctx :=
    absurd present (Option.not_mem_none phase)
  have then_ {after : WeatherAppCtx} {next : Callback} (ready : next.Ready after) :
      ∀ phase ∈ some next, phase.Ready after := by
    intro phase present
    cases present
    exact ready
  cases phase with
  | dateKey key =>
      have shifted {change : Int} (near : WeatherAppCtx.DateInside { ctx with dateOffset := ctx.dateOffset + change })
          (valid : validateEpoch (proposedEpoch ctx.activeDateTime (ctx.dateOffset + change)) = true) :
          (steppingDate change).Ready ctx := by
        have inside := of_decide_eq_true valid
        exact ⟨near, inside⟩
      have date := steady.date
      simp only [WeatherAppCtx.DateInside] at date shifted
      cases key with
      | left =>
          by_cases valid : validateDateOffsetDecrement ctx.activeDateTime ctx.dateOffset = true
          next =>
            have acted : act ctx (dateKey .left) = some (ctx, some (steppingDate (-1))) := by rw [act, if_pos valid]
            rw [validateDateOffsetDecrement, Bool.and_eq_true, decide_eq_true_iff] at valid
            exact last acted rfl rfl (then_ (shifted (by omega) valid.2))
          next =>
            have acted : act ctx (dateKey .left) = some (ctx, none) := by rw [act, if_neg valid]
            exact last acted rfl rfl done
      | right =>
          by_cases valid : validateDateOffsetIncrement ctx.activeDateTime ctx.dateOffset = true
          next =>
            have acted : act ctx (dateKey .right) = some (ctx, some (steppingDate 1)) := by rw [act, if_pos valid]
            rw [validateDateOffsetIncrement, Bool.and_eq_true, decide_eq_true_iff] at valid
            exact last acted rfl rfl (then_ (shifted (by omega) valid.2))
          next =>
            have acted : act ctx (dateKey .right) = some (ctx, none) := by rw [act, if_neg valid]
            exact last acted rfl rfl done
  | steppingDate change => exact last rfl rfl rfl (then_ ready)
  | storingDate dateOffset =>
      exact ⟨_, _, rfl, ⟨steady.known, ready.1, steady.hour, fun _ => ready.2⟩, then_ ⟨rfl, trivial⟩⟩
  | hourKey key =>
      have shifted {change : Int} (valid : validateHour (ctx.activeDateTime.hr + (ctx.hrOffset + change)) = true) :
          (steppingHour change).Ready ctx := by
        have inside := of_decide_eq_true valid
        exact ⟨inside.1, Int.lt_add_one_iff.mp inside.2⟩
      cases key with
      | left =>
          by_cases valid : validateHrOffsetDecrement ctx.activeDateTime ctx.hrOffset = true
          next =>
            have acted : act ctx (hourKey .left) = some (ctx, some (steppingHour (-1))) := by rw [act, if_pos valid]
            rw [validateHrOffsetDecrement, Int.add_sub_assoc] at valid
            exact last acted rfl rfl (then_ (shifted valid))
          next =>
            have acted : act ctx (hourKey .left) = some (ctx, none) := by rw [act, if_neg valid]
            exact last acted rfl rfl done
      | right =>
          by_cases valid : validateHrOffsetIncrement ctx.activeDateTime ctx.hrOffset = true
          next =>
            have acted : act ctx (hourKey .right) = some (ctx, some (steppingHour 1)) := by rw [act, if_pos valid]
            rw [validateHrOffsetIncrement, Int.add_assoc] at valid
            exact last acted rfl rfl (then_ (shifted valid))
          next =>
            have acted : act ctx (hourKey .right) = some (ctx, none) := by rw [act, if_neg valid]
            exact last acted rfl rfl done
  | steppingHour change => exact last rfl rfl rfl (then_ ready)
  | storingHour hrOffset =>
      exact ⟨_, _, rfl, ⟨steady.known, steady.date, fun _ => ready, steady.epoch⟩, then_ ⟨rfl, trivial⟩⟩
  | dateUnfocused =>
      by_cases still : ctx.dateOffset = 0
      next =>
        have acted : act ctx dateUnfocused = some (ctx, none) := by rw [act, if_pos still]
        exact last acted rfl rfl done
      next =>
        have acted : act ctx dateUnfocused = some (ctx, some calculating) := by rw [act, if_neg still]
        exact last acted rfl rfl (then_ trivial)
  | calculating =>
      obtain ⟨reqDate, found⟩ := calculateDate_total steady.date (steady.epoch List.not_mem_nil)
      by_cases valid : validateDateTime reqDate = true
      next =>
        have acted : act ctx calculating = some (ctx, some (selecting reqDate)) := by
          rw [act, found, Option.map_some, if_pos valid]
        exact last acted rfl rfl (then_ valid)
      next =>
        have acted : act ctx calculating = some (ctx, none) := by rw [act, found, Option.map_some, if_neg valid]
        exact last acted rfl rfl done
  | selecting reqDate =>
      -- the offsets are still those of the date before
      refine ⟨_, _, rfl, ⟨.inr ready, steady.date, fun whole => ?_, fun whole => ?_⟩, then_ trivial⟩
      next => simp [tornNext, torn] at whole
      next => simp [tornNext, torn] at whole
  | resettingHour =>
      have early := steady.hr_lt
      refine ⟨_, _, rfl, ⟨steady.known, steady.date, fun _ => ?_, fun whole => ?_⟩, then_ trivial⟩
      next =>
        simp only [WeatherAppCtx.HourInside]
        omega
      next => simp [tornNext, torn] at whole
  | resettingDate =>
      refine ⟨_, _, rfl, ⟨steady.known, ?_, fun _ => steady.hour ?_, fun _ => proposedEpoch_today _⟩, then_ trivial⟩
      next =>
        have bound : -maxDateOffsetDiff ≤ 0 ∧ 0 ≤ maxDateOffsetDiff := by decide
        exact bound
      next => decide
  | clearing =>
      exact ⟨_, _, rfl, steady.of_same ⟨fun _ => rfl, fun _ => rfl, fun _ => rfl⟩, then_ trivial⟩
  | entering =>
      by_cases spinning : ctx.spinner = true
      next =>
        have acted : act ctx entering = some (ctx, none) := by rw [act, if_pos spinning]
        exact last acted rfl rfl done
      next =>
        have acted : act ctx entering = some (ctx, some (drawing .refreshing true)) := by rw [act, if_neg spinning]
        exact last acted rfl rfl (then_ ⟨rfl, trivial⟩)
  | spinning =>
      refine ⟨_, none, rfl, steady.of_same ⟨fun _ => rfl, fun _ => rfl, fun _ => rfl⟩, fun phase present => ?_⟩
      exact absurd present (Option.not_mem_none phase)
  | drawing phase loading =>
      obtain ⟨redraws, ready⟩ := ready
      have keeps : phase.deletesSpinner = true → ctx.spinner = true := by
        cases phase <;> first | contradiction | exact fun deletes => Bool.noConfusion deletes
      obtain ⟨after, next, acted, kept, later⟩ :=
        Handling.act_steady ready steady (fun _ _ => List.not_mem_nil) keeps
      cases next with
      | some next =>
          have shared : act ctx (drawing phase loading) = some (after, some (drawing next loading)) := by
            rw [act, acted, Option.map_some]
          exact ⟨after, _, shared, kept, then_ ⟨Handling.act_redraws redraws acted, later next rfl⟩⟩
      | none =>
          cases loading with
          | true =>
              have shared : act ctx (drawing phase true) = some (after, some spinning) := by
                rw [act, acted, Option.map_some, if_pos rfl]
              exact ⟨after, _, shared, kept, then_ trivial⟩
          | false =>
              have shared : act ctx (drawing phase false) = some (after, none) := by
                rw [act, acted, Option.map_some, if_neg Bool.false_ne_true]
              exact ⟨after, none, shared, kept, fun phase present => absurd present (Option.not_mem_none phase)⟩

end Callback

end WatchFirmware.WeatherApp
