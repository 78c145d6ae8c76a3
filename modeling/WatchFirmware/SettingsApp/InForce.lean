import WatchFirmware.SettingsApp.Settings
import WatchFirmware.Shared.Refinement

set_option autoImplicit false

namespace WatchFirmware.SettingsApp

open Transition LvglBridge
open WatchfaceMgr (Home maxWatchfaces)

section Flash

def Blob.Sized (blob : Blob) (size : Nat) : Prop :=
  (∀ data ∈ blob.stored, data.length = size) ∧ ∀ data ∈ blob.saves, data.length = size

def Blob.last (blob : Blob) : Option (List UInt8) := blob.saves.getLast?.or blob.stored

def brightnessOf : Option (List UInt8) → UInt8
  | some [percent] => if 100 < percent then 100 else percent
  | _ => 100

def timeoutOf : Option (List UInt8) → UInt32
  | some [data0, data1, data2, data3] =>
      let timeout := UInt32.ofNat
        (data3.toNat <<< 24 ||| data2.toNat <<< 16 ||| data1.toNat <<< 8 ||| data0.toNat <<< 0)
      if timeout.toNat < displayMinUserInputTimeout then UInt32.ofNat displayMinUserInputTimeout else timeout
  | _ => UInt32.ofNat displayMinUserInputTimeout

variable {blob : Blob} {size : Nat}

theorem Blob.Sized.save (sized : blob.Sized size) {data : List UInt8} (fits : data.length = size) (queued : Bool) :
    (blob.storageManagerSaveKey data queued).2.Sized size := by
  cases queued with
  | false => exact sized
  | true =>
      refine ⟨sized.1, fun other member => ?_⟩
      obtain earlier | same := List.mem_append.mp member
      next => exact sized.2 other earlier
      next => exact List.mem_singleton.mp same ▸ fits

theorem Blob.Sized.executeWork (sized : blob.Sized size) (index : Nat) : (blob.executeWork index).Sized size := by
  unfold Blob.executeWork
  cases taken : blob.saves[index]? with
  | none => exact sized
  | some data =>
      refine ⟨fun other same => ?_, fun other member => sized.2 other (List.mem_of_mem_eraseIdx member)⟩
      cases same
      exact sized.2 data (List.mem_of_getElem? taken)

theorem Blob.last_save (blob : Blob) (data : List UInt8) :
    (blob.storageManagerSaveKey data true).2.last = some data := by
  simp [Blob.storageManagerSaveKey, Blob.last]

/-- The newest save is written when no other one waits. -/
def Blob.InTurn (blob : Blob) (index : Nat) : Prop := index + 1 = blob.saves.length → index = 0

theorem Blob.last_executeWork {index : Nat} (turn : blob.InTurn index) :
    (blob.executeWork index).last = blob.last := by
  unfold Blob.executeWork
  cases taken : blob.saves[index]? with
  | none => rfl
  | some data =>
      obtain ⟨inside, _⟩ := List.getElem?_eq_some_iff.mp taken
      by_cases newest : index + 1 = blob.saves.length
      next =>
        have first : index = 0 := turn newest
        subst first
        obtain ⟨only, alone⟩ := List.length_eq_one_iff.mp newest.symm
        have same : only = data := by simpa [alone] using taken
        simp [Blob.last, alone, same]
      next =>
        have kept : (blob.saves.eraseIdx index).getLast? = blob.saves.getLast? := by
          rw [List.getLast?_eq_getElem?, List.getLast?_eq_getElem?, List.length_eraseIdx_of_lt inside,
            List.getElem?_eraseIdx_of_ge (by omega)]
          congr 1
          omega
        have some_ : (blob.saves.getLast?).isSome := by
          rw [List.getLast?_isSome]
          exact List.ne_nil_of_length_pos (by omega)
        obtain ⟨newer, last⟩ := Option.isSome_iff_exists.mp some_
        simp [Blob.last, kept, last]

theorem Blob.last_idle (idle : blob.saves = []) : blob.last = blob.stored := by
  rw [Blob.last, idle]
  rfl

theorem timeout_round_trip (timeout : UInt32) :
    UInt32.ofNat ((timeout >>> 24).toUInt8.toNat <<< 24 ||| (timeout >>> 16).toUInt8.toNat <<< 16 |||
      (timeout >>> 8).toUInt8.toNat <<< 8 ||| timeout.toUInt8.toNat <<< 0) = timeout := by
  have small := timeout.toNat_lt
  apply UInt32.toNat_inj.mp
  rw [UInt32.toNat_ofNat', ByteOrder.value_quad]
  simp only [ByteOrder.value, List.foldl_cons, List.foldl_nil, UInt32.toNat_toUInt8, UInt32.toNat_shiftRight]
  simp [Nat.shiftRight_eq_div_pow]
  omega

theorem timeoutOf_bytes {timeout : UInt32} (long : displayMinUserInputTimeout ≤ timeout.toNat) :
    timeoutOf (some (Settings.timeoutBytes timeout)) = timeout := by
  rw [Settings.timeoutBytes, timeoutOf, timeout_round_trip, if_neg (by omega)]

theorem timeoutOf_long (stored : Option (List UInt8)) : displayMinUserInputTimeout ≤ (timeoutOf stored).toNat := by
  unfold timeoutOf
  split
  next =>
    dsimp only
    split
    next => decide
    next long => omega
  next => decide

theorem brightnessOf_le (stored : Option (List UInt8)) : brightnessOf stored ≤ 100 := by
  unfold brightnessOf
  split
  next percent =>
    split
    next => decide
    next low => exact UInt8.not_lt.mp low
  next => decide

theorem brightnessOf_percent {percent : UInt8} (inside : percent ≤ 100) :
    brightnessOf (some [percent]) = percent := by
  rw [brightnessOf, if_neg (UInt8.not_lt.mpr inside)]

end Flash

namespace Settings

variable {s : Settings}

def isOpen (s : Settings) (row : Row) : Prop := (s.registry row).popup = true

instance (s : Settings) (row : Row) : Decidable (s.isOpen row) := inferInstanceAs (Decidable (_ = _))

def itemCount (s : Settings) : Row → Nat
  | .watchface => s.home.allWfs.length
  | .timeout => 4
  | .brightness => 6
  | .dfu => 2

structure HomeReady (home : Home) : Prop where
  initialized : home.initialized = true
  some_ : 0 < home.allWfs.length
  bound : home.allWfs.length ≤ maxWatchfaces
  selected : home.selectedWf.isSome = true

structure InRange (s : Settings) : Prop where
  initialized : s.initialized = true
  percent : s.backlightPercent ≤ 100
  duty : s.duty = 0 ∨ s.duty = s.backlightPercent.toNat * 4095 / 100
  timeout : displayMinUserInputTimeout ≤ s.inputTimeout.toNat
  backlightSized : s.backlight.Sized 1
  timeoutSized : s.timeout.Sized 4
  home : HomeReady s.home

structure PageSound (s : Settings) : Prop where
  closed : s.baseContainer = false → s.wfItems = false ∧ ∀ row, ¬s.isOpen row
  opened : s.baseContainer = true → s.wfItems = true ∧ s.parentContainer = true ∧ s.wfCount = s.home.allWfs.length
  brightness : s.baseContainer = true → s.valueLabel .brightness = some (brightnessText s.backlightPercent)
  labels : s.baseContainer = true → ∀ row, row = .timeout ∨ row = .watchface → (s.valueLabel row).isSome = true

structure PopupsSound (s : Settings) : Prop where
  allocated : ∀ row, (s.registry row).itemDataArray = (s.registry row).popup
  called : ∀ row, s.isOpen row → (s.registry row).selectCb = some row ∧ (s.registry row).itemCount = s.itemCount row
  single : ∀ row other, s.isOpen row → s.isOpen other → row = other

structure Sound (s : Settings) : Prop where
  values : s.InRange
  page : s.PageSound
  popups : s.PopupsSound

/-- What is in force is what the next start finds in the flash, and what the page shows. -/
structure Kept (s : Settings) : Prop where
  backlight : brightnessOf s.backlight.last = s.backlightPercent
  timeout : timeoutOf s.timeout.last = s.inputTimeout
  shown : s.baseContainer = true →
    s.valueLabel .timeout = some (timeoutText s.inputTimeout) ∧
      s.valueLabel .watchface = s.home.selectedWf.map (·.name)

theorem four_of_length {data : List UInt8} (length : data.length = 4) :
    ∃ data0 data1 data2 data3, data = [data0, data1, data2, data3] := by
  obtain ⟨data0, rest, rfl⟩ := List.exists_cons_of_length_eq_add_one length
  obtain ⟨data1, data2, data3, rfl⟩ := List.length_eq_three.mp (Nat.succ.inj length)
  exact ⟨data0, data1, data2, data3, rfl⟩

theorem retrieveBacklightBrightness_eq (sized : s.backlight.Sized 1) (idle : s.backlight.saves = [])
    (full : s.backlightPercent = 100) (queued : Bool) : ∃ blob : Blob,
    s.retrieveBacklightBrightness queued = some (brightnessOf s.backlight.stored, { s with backlight := blob }) ∧
      blob.Sized 1 ∧ brightnessOf blob.last = brightnessOf s.backlight.stored := by
  have kept : brightnessOf s.backlight.last = brightnessOf s.backlight.stored :=
    congrArg brightnessOf (Blob.last_idle idle)
  unfold retrieveBacklightBrightness Blob.storageManagerRetrieveKey
  cases stored : s.backlight.stored with
  | none =>
      have same : { s with backlightPercent := 100 } = s := by rw [← full]
      rw [stored] at kept
      rw [same]
      refine ⟨(s.backlight.storageManagerSaveKey [100] queued).2, congrArg some (Prod.ext full rfl),
        sized.save rfl queued, ?_⟩
      cases queued with
      | false => exact kept
      | true =>
          rw [Blob.last_save]
          rfl
  | some data =>
      obtain ⟨percent, rfl⟩ := List.length_eq_one_iff.mp (sized.1 data stored)
      rw [stored] at kept
      simp only [Option.filter_some, List.length_singleton, le_refl, decide_true, if_true]
      refine ⟨s.backlight, ?_, sized, kept⟩
      rw [brightnessOf]
      split
      next => rfl
      next => rfl

theorem startLvglThread_eq (sized : s.timeout.Sized 4) (queued : Bool) : ∃ blob : Blob,
    s.startLvglThread queued = some { s with inputTimeout := timeoutOf s.timeout.stored, timeout := blob } ∧
      blob.Sized 4 ∧ (s.timeout.saves = [] → timeoutOf blob.last = timeoutOf s.timeout.stored) := by
  have default_ : timeoutOf s.timeout.stored = UInt32.ofNat displayMinUserInputTimeout →
      s.timeout.saves = [] → timeoutOf (s.timeout.storageManagerSaveKey
        (timeoutBytes (UInt32.ofNat displayMinUserInputTimeout)) queued).2.last = timeoutOf s.timeout.stored := by
    intro short idle
    cases queued with
    | false => exact congrArg timeoutOf (Blob.last_idle idle)
    | true =>
        rw [Blob.last_save, timeoutOf_bytes (by decide)]
        exact short.symm
  have saved : (s.timeout.storageManagerSaveKey
      (timeoutBytes (UInt32.ofNat displayMinUserInputTimeout)) queued).2.Sized 4 := sized.save rfl queued
  have kept : s.timeout.saves = [] → timeoutOf s.timeout.last = timeoutOf s.timeout.stored :=
    fun idle => congrArg timeoutOf (Blob.last_idle idle)
  unfold startLvglThread retrieveInputTimeout Blob.storageManagerRetrieveKey
  cases stored : s.timeout.stored with
  | none =>
      rw [stored] at default_
      exact ⟨_, rfl, saved, default_ rfl⟩
  | some data =>
      obtain ⟨data0, data1, data2, data3, rfl⟩ := four_of_length (sized.1 data stored)
      rw [stored] at default_ kept
      simp only [Option.filter_some, List.length_cons, List.length_nil, zero_add, Nat.reduceAdd, le_refl,
        decide_true, if_true]
      by_cases short : (UInt32.ofNat
          (data3.toNat <<< 24 ||| data2.toNat <<< 16 ||| data1.toNat <<< 8 ||| data0.toNat <<< 0)).toNat <
          displayMinUserInputTimeout
      next =>
        have least : timeoutOf (some [data0, data1, data2, data3]) = UInt32.ofNat displayMinUserInputTimeout :=
          if_pos short
        rw [if_pos short, least]
        rw [least] at default_
        exact ⟨_, rfl, saved, default_ rfl⟩
      next =>
        have whole : timeoutOf (some [data0, data1, data2, data3]) = UInt32.ofNat
            (data3.toNat <<< 24 ||| data2.toNat <<< 16 ||| data1.toNat <<< 8 ||| data0.toNat <<< 0) := if_neg short
        rw [if_neg short]
        exact ⟨s.timeout, by rw [whole]; rfl, sized, kept⟩

section Popups

theorem deletePopupCb_isOpen (popups : s.PopupsSound) (row other : Row) :
    (s.deletePopupCb row).isOpen other ↔ s.isOpen other ∧ other ≠ row := by
  unfold deletePopupCb isOpen
  cases held : (s.registry row).itemDataArray with
  | false =>
      have shut : (s.registry row).popup = false := (popups.allocated row).symm.trans held
      simp only [Bool.false_eq_true, if_false]
      refine ⟨fun isOpen => ⟨isOpen, ?_⟩, And.left⟩
      rintro rfl
      rw [shut] at isOpen
      cases isOpen
  | true =>
      simp only [if_true]
      by_cases same : other = row
      next => simp [same]
      next => simp [same]

theorem PopupsSound.delete (popups : s.PopupsSound) (row : Row) : (s.deletePopupCb row).PopupsSound := by
  have isOpen := deletePopupCb_isOpen popups row
  constructor
  case allocated =>
    intro other
    unfold deletePopupCb
    split
    next =>
      by_cases same : other = row
      next => simp [same]
      next => simpa [same] using popups.allocated other
    next => exact popups.allocated other
  case called =>
    intro other otherOpen
    obtain ⟨before, apart⟩ := (isOpen other).mp otherOpen
    have kept : (s.deletePopupCb row).registry other = s.registry other := by
      unfold deletePopupCb
      split
      next => exact Function.update_of_ne apart _ _
      next => rfl
    have same : (s.deletePopupCb row).itemCount other = s.itemCount other := by
      unfold deletePopupCb
      split
      next => cases other with | watchface | timeout | brightness | dfu => rfl
      next => rfl
    rw [kept, same]
    exact popups.called other before
  case single =>
    intro first second firstOpen secondOpen
    exact popups.single first second ((isOpen first).mp firstOpen).1 ((isOpen second).mp secondOpen).1

theorem deletePopupCb_frame (s : Settings) (row : Row) : ∃ registry, s.deletePopupCb row = { s with registry } := by
  unfold deletePopupCb
  split
  next => exact ⟨_, rfl⟩
  next => exact ⟨_, rfl⟩

end Popups

section Choices

theorem setBrightness_eq (values : s.InRange) {pct : UInt8} (inside : pct ≤ 100) (queued : Bool) : ∃ blob : Blob,
    s.gpioManagerBacklightSetBrightness pct.toNat queued =
        (true, { s with backlight := blob, backlightPercent := pct, duty := pct.toNat * 4095 / 100 }) ∧
      blob.Sized 1 ∧
      (brightnessOf s.backlight.last = s.backlightPercent → queued = true ∨ pct = s.backlightPercent →
        brightnessOf blob.last = pct) := by
  have bound : pct.toNat ≤ 100 := UInt8.le_iff_toNat_le.mp inside
  have refused :
      (!s.initialized || (decide ((pct.toNat : Int) < 0) || decide (100 < (pct.toNat : Int)))) = false := by
    simp [values.initialized]
    omega
  have byte : UInt8.ofNat (pct.toNat : Int).toNat = pct := by simp
  have duty : ((pct.toNat : Int) * 4095 / 100).toNat = pct.toNat * 4095 / 100 := by omega
  unfold gpioManagerBacklightSetBrightness
  rw [refused, byte, duty]
  by_cases same : pct = s.backlightPercent
  next =>
    refine ⟨s.backlight, ?_, values.backlightSized, fun kept _ => same ▸ kept⟩
    simp [same]
  next =>
    refine ⟨(s.backlight.storageManagerSaveKey [pct] queued).2, ?_, values.backlightSized.save rfl queued, ?_⟩
    · simp only [Bool.false_eq_true, if_false, if_pos same, ne_eq, saveBacklightBrightness]
    · intro _ accepted
      obtain rfl | unchanged := accepted
      next => rw [Blob.last_save, brightnessOf_percent inside]
      next => exact absurd unchanged same

def timeoutAt (index : Nat) : UInt32 := timeouts.getD index 0

def brightnessAt (index : Nat) : UInt8 := UInt8.ofNat (brightnessPercent.getD index 0).toNat

/-- Every item of a popup is titled as the page shows its value, and is a value that is accepted. -/
theorem timeoutAt_spec : ∀ index < 4, timeouts[index]? = some (timeoutAt index) ∧
    timeoutItems[index]? = some (timeoutText (timeoutAt index)) ∧
      displayMinUserInputTimeout ≤ (timeoutAt index).toNat := by
  decide

theorem brightnessAt_spec : ∀ index < 6, brightnessPercent[index]? = some ((brightnessAt index).toNat : Int) ∧
    brightnessItems[index]? = some (brightnessText (brightnessAt index)) ∧ brightnessAt index ≤ 100 := by
  decide

theorem permitted : checkAppPermission settingsAppPerms appPermSystem = true := by decide

theorem selectTimeout_eq {index : Nat} (inside : index < 4) (queued : Bool) :
    s.selectTimeout index queued = some
      { s with
        inputTimeout := timeoutAt index
        timeout := (s.timeout.storageManagerSaveKey (timeoutBytes (timeoutAt index)) queued).2
        valueLabel :=
          if queued = true ∧ (s.valueLabel .timeout).isSome then
            Function.update s.valueLabel .timeout (some (timeoutText (timeoutAt index)))
          else s.valueLabel } := by
  obtain ⟨value, title, long⟩ := timeoutAt_spec index inside
  have short : ¬(timeoutAt index).toNat < displayMinUserInputTimeout := by omega
  simp only [selectTimeout, value, title, setUiInactivityTimeout, permitted, lvglBridgeUpdateInactivityTimeout,
    updateInputTimeout, saveInputTimeout, if_neg short]
  cases queued with
  | false => rfl
  | true =>
      cases label : s.valueLabel .timeout with
      | none =>
          have same : Function.update s.valueLabel .timeout none = s.valueLabel := by
            rw [← label]
            exact Function.update_eq_self _ _
          simp [setLabel, Blob.storageManagerSaveKey, label, same]
      | some _ => simp [setLabel, Blob.storageManagerSaveKey, label]

theorem selectBrightness_eq (values : s.InRange) {index : Nat} (inside : index < 6) (queued : Bool) : ∃ blob : Blob,
    s.selectBrightness index queued = some
        (setLabel
          { s with
            backlight := blob
            backlightPercent := brightnessAt index
            duty := (brightnessAt index).toNat * 4095 / 100 }
          .brightness (brightnessText (brightnessAt index))) ∧
      blob.Sized 1 ∧
      (brightnessOf s.backlight.last = s.backlightPercent → queued = true →
        brightnessOf blob.last = brightnessAt index) := by
  obtain ⟨value, title, bound⟩ := brightnessAt_spec index inside
  obtain ⟨blob, set, sized, kept⟩ := setBrightness_eq values bound queued
  refine ⟨blob, ?_, sized, fun before accepted => kept before (.inl accepted)⟩
  simp only [selectBrightness, value, title, setSystemBrightness, permitted, set]
  rfl

theorem selectWatchface_eq (values : s.InRange) {index : Nat} (inside : index < s.home.allWfs.length)
    (queued : Bool) : ∃ saves, s.selectWatchface index queued = some
      { s with
        home := { s.home with selectedWf := s.home.allWfs[index]?, saves }
        valueLabel :=
          if queued = true ∧ (s.valueLabel .watchface).isSome then
            Function.update s.valueLabel .watchface (s.home.allWfs[index]?.map (·.name))
          else s.valueLabel } := by
  have bound := values.home.bound
  have small : (UInt8.ofNat index).toNat = index := by
    rw [UInt8.toNat_ofNat']
    unfold maxWatchfaces at bound
    omega
  have valid : ¬(s.home.allWfs.length = 0 ∨ s.home.allWfs.length ≤ index) := by omega
  have named : s.home.allWfs[index]? = some s.home.allWfs[index] := List.getElem?_eq_getElem inside
  refine ⟨if queued then s.home.saves ++ [UInt8.ofNat index] else s.home.saves, ?_⟩
  simp only [selectWatchface, setSystemWatchface, permitted, Home.watchfaceManagerSelectWf, values.home.initialized,
    small, if_neg valid, getSystemSelectedWatchfaceName, named]
  cases queued with
  | false => rfl
  | true =>
      cases label : s.valueLabel .watchface with
      | none =>
          have same : Function.update s.valueLabel .watchface none = s.valueLabel := by
            rw [← label]
            exact Function.update_eq_self _ _
          simp [setLabel, label, same]
      | some _ => simp [setLabel, label]

end Choices

/-- A key reaches the popup that is there, else the page; the app is opened when it is closed. -/
def Allowed (s : Settings) : Action → Prop
  | .openApp _ => s.baseContainer = false
  | .closeApp => s.baseContainer = true
  | .click _ _ => s.baseContainer = true ∧ ∀ row, ¬s.isOpen row
  | .select row index _ => s.isOpen row ∧ index < (s.registry row).itemCount
  | .escape row => s.isOpen row
  | .restart home _ => HomeReady home
  | .backlightWritten _ | .timeoutWritten _ | .displayOn _ | .displayOff | .wake _ => True

/-- The saves of choices are accepted, no save is overtaken by the newest one, and the display does not wake up
while one of a timeout waits. -/
def Smooth (s : Settings) : Action → Prop
  | .select _ _ queued => queued = true
  | .backlightWritten index => s.backlight.InTurn index
  | .timeoutWritten index => s.timeout.InTurn index
  | .wake _ => s.timeout.saves = []
  | _ => True

structure Chosen (s after : Settings) (row : Row) (index : Nat) (queued : Bool) : Prop where
  timeout : after.inputTimeout = if row = .timeout then timeoutAt index else s.inputTimeout
  brightness : after.backlightPercent = if row = .brightness then brightnessAt index else s.backlightPercent
  watchface : after.home.selectedWf = if row = .watchface then s.home.allWfs[index]? else s.home.selectedWf
  dfu : after.dfuStarts = if row = .dfu ∧ index = 0 ∧ queued = true then s.dfuStarts + 1 else s.dfuStarts
  shut : ∀ other, ¬after.isOpen other

structure Selected (s after : Settings) (row : Row) (index : Nat) (queued : Bool) : Prop where
  values : after.InRange
  page : after.PageSound
  popups : after.PopupsSound
  registry : after.registry = s.registry
  kept : s.Kept → queued = true → after.Kept
  timeout : after.inputTimeout = if row = .timeout then timeoutAt index else s.inputTimeout
  brightness : after.backlightPercent = if row = .brightness then brightnessAt index else s.backlightPercent
  watchface : after.home.selectedWf = if row = .watchface then s.home.allWfs[index]? else s.home.selectedWf
  dfu : after.dfuStarts = if row = .dfu ∧ index = 0 ∧ queued = true then s.dfuStarts + 1 else s.dfuStarts

section Select

variable {index : Nat}

theorem Sound.selectTimeout (sound : s.Sound) (inside : index < 4) (queued : Bool) :
    ∃ after, s.selectTimeout index queued = some after ∧ s.Selected after .timeout index queued := by
  obtain ⟨values, page, popups⟩ := sound
  obtain ⟨_, _, long⟩ := timeoutAt_spec index inside
  refine ⟨_, selectTimeout_eq inside queued, ?_⟩
  constructor
  case values =>
    exact ⟨values.initialized, values.percent, values.duty, long, values.backlightSized,
      values.timeoutSized.save rfl queued, values.home⟩
  case page =>
    refine ⟨page.closed, page.opened, fun isOpen => ?_, fun isOpen row label => ?_⟩
    next =>
      dsimp only
      split
      next => exact (Function.update_of_ne (by decide) _ _).trans (page.brightness isOpen)
      next => exact page.brightness isOpen
    next =>
      dsimp only
      split
      next =>
        obtain rfl | rfl := label
        next => simp
        next => simpa using page.labels isOpen .watchface (.inr rfl)
      next => exact page.labels isOpen row label
  case popups => exact ⟨popups.allocated, popups.called, popups.single⟩
  case registry => rfl
  case kept =>
    intro kept accepted
    refine ⟨kept.backlight, ?_, fun isOpen => ?_⟩
    next =>
      dsimp only
      rw [accepted, Blob.last_save, timeoutOf_bytes long]
    next =>
      dsimp only
      rw [if_pos ⟨accepted, page.labels isOpen .timeout (.inl rfl)⟩]
      exact ⟨Function.update_self _ _ _, (Function.update_of_ne (by decide) _ _).trans (kept.shown isOpen).2⟩
  case timeout => rfl
  case brightness => rfl
  case watchface => rfl
  case dfu => rfl

theorem Sound.selectBrightness (sound : s.Sound) (inside : index < 6) (queued : Bool) :
    ∃ after, s.selectBrightness index queued = some after ∧ s.Selected after .brightness index queued := by
  obtain ⟨values, page, popups⟩ := sound
  obtain ⟨_, _, bound⟩ := brightnessAt_spec index inside
  obtain ⟨blob, chosen, sized, keeps⟩ := selectBrightness_eq values inside queued
  refine ⟨_, chosen, ?_⟩
  constructor
  case values =>
    exact ⟨values.initialized, bound, .inr rfl, values.timeout, sized, values.timeoutSized, values.home⟩
  case page =>
    refine ⟨page.closed, page.opened, fun isOpen => ?_, fun isOpen row label => ?_⟩
    next =>
      have shown := page.brightness isOpen
      simp [setLabel, shown]
    next =>
      have apart : row ≠ .brightness := by
        obtain rfl | rfl := label
        next => decide
        next => decide
      simpa [setLabel, apart] using page.labels isOpen row label
  case popups => exact ⟨popups.allocated, popups.called, popups.single⟩
  case registry => rfl
  case kept =>
    intro kept accepted
    refine ⟨keeps kept.backlight accepted, kept.timeout, fun isOpen => ?_⟩
    obtain ⟨timeout, watchface⟩ := kept.shown isOpen
    simp only [setLabel]
    exact ⟨(Function.update_of_ne (by decide) _ _).trans timeout,
      (Function.update_of_ne (by decide) _ _).trans watchface⟩
  case timeout => rfl
  case brightness => rfl
  case watchface => rfl
  case dfu => rfl

theorem Sound.selectWatchface (sound : s.Sound) (inside : index < s.home.allWfs.length) (queued : Bool) :
    ∃ after, s.selectWatchface index queued = some after ∧ s.Selected after .watchface index queued := by
  obtain ⟨values, page, popups⟩ := sound
  obtain ⟨saves, chosen⟩ := selectWatchface_eq values inside queued
  have named : s.home.allWfs[index]? = some s.home.allWfs[index] := List.getElem?_eq_getElem inside
  refine ⟨_, chosen, ?_⟩
  constructor
  case values =>
    have home := values.home
    refine ⟨values.initialized, values.percent, values.duty, values.timeout, values.backlightSized,
      values.timeoutSized, home.initialized, home.some_, home.bound, ?_⟩
    dsimp only
    rw [named]
    rfl
  case page =>
    refine ⟨page.closed, page.opened, fun isOpen => ?_, fun isOpen row label => ?_⟩
    next =>
      dsimp only
      split
      next => exact (Function.update_of_ne (by decide) _ _).trans (page.brightness isOpen)
      next => exact page.brightness isOpen
    next =>
      dsimp only
      split
      next =>
        obtain rfl | rfl := label
        next => simpa using page.labels isOpen .timeout (.inl rfl)
        next => simp [named]
      next => exact page.labels isOpen row label
  case popups => exact ⟨popups.allocated, popups.called, popups.single⟩
  case registry => rfl
  case kept =>
    intro kept accepted
    refine ⟨kept.backlight, kept.timeout, fun isOpen => ?_⟩
    dsimp only
    rw [if_pos ⟨accepted, page.labels isOpen .watchface (.inr rfl)⟩]
    exact ⟨(Function.update_of_ne (by decide) _ _).trans (kept.shown isOpen).1, Function.update_self _ _ _⟩
  case timeout => rfl
  case brightness => rfl
  case watchface => rfl
  case dfu => rfl

theorem Sound.startDfuProcess (sound : s.Sound) (queued : Bool) :
    ∃ after, s.startDfuProcess index queued = some after ∧ s.Selected after .dfu index queued := by
  obtain ⟨values, page, popups⟩ := sound
  have started : s.startDfuProcess index queued = some
      { s with dfuStarts := if index = 0 ∧ queued = true then s.dfuStarts + 1 else s.dfuStarts } := by
    unfold Settings.startDfuProcess triggerDfuOverUart
    rw [permitted]
    by_cases yes : index = 0
    next =>
      cases queued with
      | false | true => simp [yes]
    next => simp [yes]
  refine ⟨_, started, ?_⟩
  constructor
  case values =>
    exact ⟨values.initialized, values.percent, values.duty, values.timeout, values.backlightSized,
      values.timeoutSized, values.home⟩
  case page => exact ⟨page.closed, page.opened, page.brightness, page.labels⟩
  case popups => exact ⟨popups.allocated, popups.called, popups.single⟩
  case registry => rfl
  case kept => exact fun kept _ => ⟨kept.backlight, kept.timeout, kept.shown⟩
  case timeout => rfl
  case brightness => rfl
  case watchface => rfl
  case dfu => simp

theorem Sound.selectCb (sound : s.Sound) {row : Row} (isOpen : s.isOpen row)
    (inside : index < (s.registry row).itemCount) (queued : Bool) :
    ∃ after, s.selectCb row index queued = some after ∧ s.Selected after row index queued := by
  rw [(sound.popups.called row isOpen).2] at inside
  cases row with
  | watchface => exact sound.selectWatchface inside queued
  | timeout => exact sound.selectTimeout inside queued
  | brightness => exact sound.selectBrightness inside queued
  | dfu => exact sound.startDfuProcess queued

end Select

section Steps

theorem InRange.registry (values : s.InRange) (registry : Row → PopupRegistry) :
    InRange { s with registry } :=
  ⟨values.initialized, values.percent, values.duty, values.timeout, values.backlightSized, values.timeoutSized,
    values.home⟩

theorem Kept.registry (kept : s.Kept) (registry : Row → PopupRegistry) : Kept { s with registry } :=
  ⟨kept.backlight, kept.timeout, kept.shown⟩

theorem dismiss (values : s.InRange) (page : s.PageSound) (popups : s.PopupsSound) {row : Row} (up : s.isOpen row) :
    ∃ registry, s.dismissPopup row = some { s with registry } ∧ Sound { s with registry } ∧
      ∀ other, ¬Settings.isOpen { s with registry } other := by
  have shutRow : ∀ other, ¬(s.deletePopupCb row).isOpen other := by
    intro other otherOpen
    obtain ⟨before, apart⟩ := (deletePopupCb_isOpen popups row other).mp otherOpen
    exact apart (popups.single other row before up)
  have popupsAfter := popups.delete row
  obtain ⟨registry, deleted⟩ := deletePopupCb_frame s row
  rw [deleted] at shutRow popupsAfter
  have dismissed : s.dismissPopup row = some { s with registry } := by
    rw [dismissPopup, ← deleted]
    exact if_pos up
  refine ⟨registry, dismissed, ⟨values.registry registry, ?_, popupsAfter⟩, shutRow⟩
  exact ⟨fun closed => ⟨(page.closed closed).1, shutRow⟩, page.opened, page.brightness, page.labels⟩

theorem Sound.select (sound : s.Sound) {row : Row} {index : Nat} (isOpen : s.isOpen row)
    (inside : index < (s.registry row).itemCount) (queued : Bool) :
    ∃ after, s.step (.select row index queued) = some after ∧ after.Sound ∧ s.Chosen after row index queued ∧
      (s.Kept → queued = true → after.Kept) := by
  obtain ⟨middle, chosen, selected⟩ := sound.selectCb isOpen inside queued
  have stillOpen : middle.isOpen row := by
    unfold Settings.isOpen
    rw [selected.registry]
    exact isOpen
  obtain ⟨registry, dismissed, after, shut⟩ := dismiss selected.values selected.page selected.popups stillOpen
  refine ⟨_, ?_, after, ?_, fun kept accepted => (selected.kept kept accepted).registry registry⟩
  · have called := (sound.popups.called row isOpen).1
    simp only [step, selectItemCb, called, chosen, Option.bind_eq_bind, Option.bind_some, dismissed]
  · exact ⟨selected.timeout, selected.brightness, selected.watchface, selected.dfu, shut⟩

theorem Sound.openApp (sound : s.Sound) (closed : s.baseContainer = false) (allocated : Bool) :
    (s.drawSettingsAppUi allocated).Sound ∧ (s.Kept → (s.drawSettingsAppUi allocated).Kept) := by
  obtain ⟨values, page, popups⟩ := sound
  have home := values.home
  have faces : ¬s.home.allWfs.length = 0 := Nat.pos_iff_ne_zero.mp home.some_
  obtain ⟨wf, selected⟩ := Option.isSome_iff_exists.mp home.selected
  obtain ⟨items, none_⟩ := page.closed closed
  cases allocated with
  | false =>
      have refused : s.drawSettingsAppUi false =
          { s with wfValue := wf.name, wfCount := s.home.allWfs.length, wfItems := false } := by
        simp only [drawSettingsAppUi, getSystemSelectedWatchfaceName, home.initialized, Bool.not_true,
          Bool.false_eq_true, if_false, if_neg faces, selected, Option.map_some, Option.getD_some, Bool.not_false,
          if_true]
      have shut {what : Prop} : s.baseContainer = true → what := fun up => by
        rw [closed] at up
        cases up
      rw [refused]
      refine ⟨⟨?_, ⟨fun _ => ⟨rfl, none_⟩, shut, shut, shut⟩, ?_⟩, fun kept => ⟨kept.backlight, kept.timeout, shut⟩⟩
      next =>
        exact ⟨values.initialized, values.percent, values.duty, values.timeout, values.backlightSized,
          values.timeoutSized, home⟩
      next => exact ⟨popups.allocated, fun row up => absurd up (none_ row), fun row other up => absurd up (none_ row)⟩
  | true =>
      have drawn : s.drawSettingsAppUi true =
          { s with
            wfValue := wf.name
            wfCount := s.home.allWfs.length
            wfItems := true
            parentContainer := true
            baseContainer := true
            valueLabel := s.drawnLabel wf.name } := by
        simp only [drawSettingsAppUi, getSystemSelectedWatchfaceName, home.initialized, Bool.not_true,
          Bool.false_eq_true, if_false, if_neg faces, selected, Option.map_some, Option.getD_some]
      rw [drawn]
      refine ⟨⟨?_, ?_, ?_⟩, fun kept => ⟨kept.backlight, kept.timeout, fun _ => ⟨rfl, ?_⟩⟩⟩
      next =>
        exact ⟨values.initialized, values.percent, values.duty, values.timeout, values.backlightSized,
          values.timeoutSized, home⟩
      next =>
        refine ⟨fun shut => (by cases shut), fun _ => ⟨rfl, rfl, rfl⟩, fun _ => ?_, fun _ row label => ?_⟩
        next => simp [drawnLabel, values.initialized]
        next =>
          obtain rfl | rfl := label
          next => rfl
          next => rfl
      next =>
        exact ⟨popups.allocated, fun row up => absurd up (none_ row), fun row other up => absurd up (none_ row)⟩
      next =>
        dsimp only
        rw [selected]
        rfl

/-- The page that found no memory cannot be closed: its container is NULL. -/
theorem closeCurrApp_unallocated (faces : s.home.initialized = true ∧ s.home.allWfs ≠ [])
    (closed : s.baseContainer = false) : (s.drawSettingsAppUi false).closeCurrApp = none := by
  have some_ : ¬s.home.allWfs.length = 0 := fun empty => faces.2 (List.length_eq_zero_iff.mp empty)
  simp [drawSettingsAppUi, faces.1, some_, closeCurrApp, deleteSettingsAppUi, closed]

theorem PopupsSound.deleteOpen (popups : s.PopupsSound) (row : Row) : ∃ registry,
    (if (s.registry row).popup then s.deletePopupCb row else s) = { s with registry } ∧
      PopupsSound { s with registry } ∧
      ∀ other, Settings.isOpen { s with registry } other → s.isOpen other ∧ other ≠ row := by
  by_cases up : s.isOpen row
  next =>
    obtain ⟨registry, deleted⟩ := deletePopupCb_frame s row
    have after := popups.delete row
    have less := deletePopupCb_isOpen popups row
    rw [deleted] at after less
    exact ⟨registry, (if_pos up).trans deleted, after, fun other => (less other).mp⟩
  next =>
    refine ⟨s.registry, if_neg up, popups, fun other otherUp => ⟨otherUp, ?_⟩⟩
    rintro rfl
    exact up otherUp

theorem PopupsSound.deletePopups (popups : s.PopupsSound) (rows : List Row) : ∃ registry,
    s.deletePopups rows = { s with registry } ∧ PopupsSound { s with registry } ∧
      ∀ row, Settings.isOpen { s with registry } row → s.isOpen row ∧ row ∉ rows := by
  induction rows generalizing s with
  | nil => exact ⟨s.registry, rfl, popups, fun row up => ⟨up, List.not_mem_nil⟩⟩
  | cons first rest ih =>
      obtain ⟨middle, taken, middlePopups, middleUp⟩ := popups.deleteOpen first
      obtain ⟨registry, ran, after, lastUp⟩ := ih middlePopups
      refine ⟨registry, ?_, after, fun row up => ?_⟩
      · rw [Settings.deletePopups, List.foldl_cons, taken]
        exact ran
      · obtain ⟨before, apart⟩ := lastUp row up
        obtain ⟨start, other⟩ := middleUp row before
        exact ⟨start, fun member => (List.mem_cons.mp member).elim other apart⟩

theorem Sound.closeApp (sound : s.Sound) (opened : s.baseContainer = true) :
    ∃ after, s.closeCurrApp = some after ∧ after.Sound ∧ (s.Kept → after.Kept) := by
  obtain ⟨values, page, popups⟩ := sound
  have deleted : s.deleteSettingsAppUi = some
      { s with wfItems := false, baseContainer := false, parentContainer := false, wfCount := 0 } := by
    simp [deleteSettingsAppUi, opened]
  have popupsLeft : PopupsSound
      { s with wfItems := false, baseContainer := false, parentContainer := false, wfCount := 0 } :=
    ⟨popups.allocated, popups.called, popups.single⟩
  obtain ⟨registry, ran, lastPopups, gone⟩ := popupsLeft.deletePopups [.watchface, .timeout, .brightness, .dfu]
  have shut : ∀ row, ¬Settings.isOpen
      { s with
        wfItems := false, baseContainer := false, parentContainer := false, wfCount := 0
        registry } row := by
    intro row up
    obtain ⟨_, missing⟩ := gone row up
    cases row with
    | watchface | timeout | brightness | dfu => simp at missing
  refine ⟨_, by rw [closeCurrApp, deleted, Option.map_some, ran], ⟨?_, ?_, lastPopups⟩, fun kept => ?_⟩
  next =>
    exact ⟨values.initialized, values.percent, values.duty, values.timeout, values.backlightSized,
      values.timeoutSized, values.home⟩
  next => exact ⟨fun _ => ⟨rfl, shut⟩, fun up => (by cases up), fun up => (by cases up), fun up => (by cases up)⟩
  next => exact ⟨kept.backlight, kept.timeout, fun up => by cases up⟩

theorem Sound.click (sound : s.Sound) (opened : s.baseContainer = true) (none_ : ∀ row, ¬s.isOpen row) (row : Row)
    (allocated : Bool) :
    ∃ registry, s.openPopup row allocated = some { s with registry } ∧ Sound { s with registry } := by
  obtain ⟨values, page, popups⟩ := sound
  obtain ⟨items, parent, count⟩ := page.opened opened
  have shut : (s.registry row).popup = false := Bool.eq_false_iff.mpr (none_ row)
  have free : (s.registry row).itemDataArray = false := (popups.allocated row).trans shut
  have positive : s.itemCount row ≠ 0 := by
    cases row with
    | watchface => exact Nat.pos_iff_ne_zero.mp values.home.some_
    | timeout | brightness | dfu => exact Nat.succ_ne_zero _
  have created : s.openPopup row allocated = s.createPopupListview row (s.itemCount row) allocated := by
    cases row with
    | watchface => simp [openPopup, parent, items, count, itemCount]
    | timeout | brightness | dfu =>
        simp only [openPopup, parent]
        rfl
  have fresh : s.createPopupListview row (s.itemCount row) allocated = some
      { s with
        registry := Function.update s.registry row
          (if allocated then ⟨true, some row, true, s.itemCount row⟩
          else { s.registry row with itemCount := s.itemCount row }) } := by
    simp [createPopupListview, shut, free, positive]
  refine ⟨_, created.trans fresh, values.registry _, ?_, ?_⟩
  next =>
    refine ⟨fun closed => ?_, page.opened, page.brightness, page.labels⟩
    rw [opened] at closed
    cases closed
  have other {another : Row} (apart : another ≠ row) :
      ∀ popup, ¬(Function.update s.registry row popup another).popup := by
    intro popup
    rw [Function.update_of_ne apart]
    exact none_ another
  constructor
  case allocated =>
    intro another
    by_cases same : another = row
    next =>
      subst same
      cases allocated with
      | false => simp [popups.allocated]
      | true => simp
    next => simpa [same] using popups.allocated another
  case called =>
    intro another up
    by_cases same : another = row
    next =>
      subst same
      cases allocated with
      | false => exact absurd up (by simpa [Settings.isOpen] using shut)
      | true => cases another with | watchface | timeout | brightness | dfu => simp [itemCount]
    next => exact absurd up (other same _)
  case single =>
    intro first second firstUp secondUp
    by_cases same : first = row
    next =>
      by_cases also : second = row
      next => rw [same, also]
      next => exact absurd secondUp (other also _)
    next => exact absurd firstUp (other same _)

theorem boot_eq {backlight timeout : Option (List UInt8)} (backlightSized : ∀ data ∈ backlight, data.length = 1)
    (timeoutSized : ∀ data ∈ timeout, data.length = 4) {home : Home} (ready : HomeReady home) (queued : Bool) :
    ∃ after, boot backlight timeout home queued = some after ∧ after.Sound ∧ after.Kept ∧
      after.backlightPercent = brightnessOf backlight ∧ after.inputTimeout = timeoutOf timeout := by
  have empty (size : Nat) {stored : Option (List UInt8)} (sized : ∀ data ∈ stored, data.length = size) :
      Blob.Sized ⟨stored, []⟩ size :=
    ⟨sized, fun data member => absurd member List.not_mem_nil⟩
  have noPopup (row : Row) : ¬PopupRegistry.empty.popup = true := by decide
  obtain ⟨first, read, firstSized, firstKept⟩ := @retrieveBacklightBrightness_eq (fresh backlight timeout home)
    (empty 1 backlightSized) rfl rfl queued
  obtain ⟨second, started, secondSized, secondKept⟩ := @startLvglThread_eq
    { fresh backlight timeout home with
      initialized := true, backlightPercent := brightnessOf backlight, backlight := first }
    (empty 4 timeoutSized) queued
  have booted : boot backlight timeout home queued = some
      { fresh backlight timeout home with
        initialized := true, backlightPercent := brightnessOf backlight, backlight := first
        inputTimeout := timeoutOf timeout, timeout := second } := by
    rw [boot]
    simp only [read, Option.bind_eq_bind, Option.bind_some]
    exact started
  refine ⟨_, booted, ⟨?_, ?_, ?_⟩, ⟨firstKept, secondKept rfl, fun up => (by cases up)⟩, rfl, rfl⟩
  next =>
    exact ⟨rfl, brightnessOf_le _, .inl rfl, timeoutOf_long _, firstSized, secondSized, ready⟩
  next =>
    exact ⟨fun _ => ⟨rfl, noPopup⟩, fun up => (by cases up), fun up => (by cases up), fun up => (by cases up)⟩
  next =>
    exact ⟨fun _ => rfl, fun row up => absurd up (noPopup row), fun row _ up => absurd up (noPopup row)⟩

theorem Sound.step (sound : s.Sound) {action : Action} (allowed : s.Allowed action) :
    ∃ after, s.step action = some after ∧ after.Sound ∧ (s.Kept → s.Smooth action → after.Kept) := by
  have values := sound.values
  have page := sound.page
  have popups := sound.popups
  cases action with
  | openApp allocated =>
      obtain ⟨after, kept⟩ := sound.openApp allowed allocated
      exact ⟨_, rfl, after, fun before _ => kept before⟩
  | closeApp =>
      obtain ⟨after, closed, still, kept⟩ := sound.closeApp allowed
      exact ⟨after, closed, still, fun before _ => kept before⟩
  | click row allocated =>
      obtain ⟨registry, clicked, after⟩ := sound.click allowed.1 allowed.2 row allocated
      exact ⟨_, clicked, after, fun kept _ => kept.registry registry⟩
  | select row index queued =>
      obtain ⟨after, chosen, still, _, kept⟩ := sound.select allowed.1 allowed.2 queued
      exact ⟨after, chosen, still, kept⟩
  | escape row =>
      obtain ⟨registry, dismissed, after, _⟩ := dismiss values page popups allowed
      exact ⟨_, dismissed, after, fun kept _ => kept.registry registry⟩
  | backlightWritten index =>
      refine ⟨_, rfl, ⟨?_, ?_, ?_⟩, fun kept turn => ⟨?_, kept.timeout, kept.shown⟩⟩
      · exact ⟨values.initialized, values.percent, values.duty, values.timeout,
          values.backlightSized.executeWork index, values.timeoutSized, values.home⟩
      · exact ⟨page.closed, page.opened, page.brightness, page.labels⟩
      · exact ⟨popups.allocated, popups.called, popups.single⟩
      · exact (congrArg brightnessOf (Blob.last_executeWork turn)).trans kept.backlight
  | timeoutWritten index =>
      refine ⟨_, rfl, ⟨?_, ?_, ?_⟩, fun kept turn => ⟨kept.backlight, ?_, kept.shown⟩⟩
      · exact ⟨values.initialized, values.percent, values.duty, values.timeout, values.backlightSized,
          values.timeoutSized.executeWork index, values.home⟩
      · exact ⟨page.closed, page.opened, page.brightness, page.labels⟩
      · exact ⟨popups.allocated, popups.called, popups.single⟩
      · exact (congrArg timeoutOf (Blob.last_executeWork turn)).trans kept.timeout
  | displayOn queued =>
      obtain ⟨blob, set, sized, keeps⟩ := setBrightness_eq values values.percent queued
      have powered : s.gpioManagerPowerBacklight queued =
          { s with backlight := blob, duty := s.backlightPercent.toNat * 4095 / 100 } := by
        simp [gpioManagerPowerBacklight, values.initialized, set]
      refine ⟨_, congrArg some powered, ⟨?_, ?_, ?_⟩, fun kept _ => ⟨?_, kept.timeout, kept.shown⟩⟩
      · exact ⟨values.initialized, values.percent, .inr rfl, values.timeout, sized, values.timeoutSized, values.home⟩
      · exact ⟨page.closed, page.opened, page.brightness, page.labels⟩
      · exact ⟨popups.allocated, popups.called, popups.single⟩
      · exact keeps kept.backlight (.inr rfl)
  | displayOff =>
      have off : s.gpioManagerBacklightOff = { s with duty := 0 } := by
        simp [gpioManagerBacklightOff, values.initialized]
      refine ⟨_, congrArg some off, ⟨?_, ?_, ?_⟩, fun kept _ => ⟨kept.backlight, kept.timeout, kept.shown⟩⟩
      · exact ⟨values.initialized, values.percent, .inl rfl, values.timeout, values.backlightSized,
          values.timeoutSized, values.home⟩
      · exact ⟨page.closed, page.opened, page.brightness, page.labels⟩
      · exact ⟨popups.allocated, popups.called, popups.single⟩
  | wake queued =>
      obtain ⟨blob, started, sized, keeps⟩ := startLvglThread_eq values.timeoutSized queued
      refine ⟨_, started, ⟨?_, ?_, ?_⟩, fun kept idle => ⟨kept.backlight, keeps idle, ?_⟩⟩
      · exact ⟨values.initialized, values.percent, values.duty, timeoutOf_long _, values.backlightSized, sized,
          values.home⟩
      · exact ⟨page.closed, page.opened, page.brightness, page.labels⟩
      · exact ⟨popups.allocated, popups.called, popups.single⟩
      · have same : timeoutOf s.timeout.stored = s.inputTimeout :=
          (congrArg timeoutOf (Blob.last_idle idle)).symm.trans kept.timeout
        dsimp only
        rw [same]
        exact kept.shown
  | restart home queued =>
      obtain ⟨after, booted, still, kept, _⟩ :=
        boot_eq values.backlightSized.1 values.timeoutSized.1 allowed queued
      exact ⟨after, booted, still, fun _ _ => kept⟩

end Steps

structure InForce (s : Settings) : Prop where
  timeout : displayMinUserInputTimeout ≤ s.inputTimeout.toNat
  brightness : s.backlightPercent ≤ 100 ∧ (s.duty = 0 ∨ s.duty = s.backlightPercent.toNat * 4095 / 100)
  shown : s.baseContainer = true → s.valueLabel .brightness = some (brightnessText s.backlightPercent)
  popup : ∀ row other, s.isOpen row → s.isOpen other → row = other
  -- nothing is left behind by a page that was closed
  freed : s.baseContainer = false → s.wfItems = false ∧ ∀ row, (s.registry row).itemDataArray = false
  chosen : ∀ row index queued, s.isOpen row → index < s.itemCount row →
    ∃ after, s.step (.select row index queued) = some after ∧ s.Chosen after row index queued

/-- What holds while the run is smooth: the page tells the truth, and a restart changes nothing. -/
structure Remembered (s : Settings) : Prop where
  shown : s.baseContainer = true →
    s.valueLabel .timeout = some (timeoutText s.inputTimeout) ∧
      s.valueLabel .watchface = s.home.selectedWf.map (·.name)
  restarted : s.backlight.saves = [] → s.timeout.saves = [] → ∀ home queued, HomeReady home →
    ∃ after, s.step (.restart home queued) = some after ∧
      after.backlightPercent = s.backlightPercent ∧ after.inputTimeout = s.inputTimeout

theorem Sound.inForce (sound : s.Sound) : s.InForce := by
  have values := sound.values
  have page := sound.page
  have popups := sound.popups
  constructor
  case timeout => exact values.timeout
  case brightness => exact ⟨values.percent, values.duty⟩
  case shown => exact page.brightness
  case popup => exact popups.single
  case freed =>
    intro closed
    obtain ⟨items, shut⟩ := page.closed closed
    exact ⟨items, fun row => (popups.allocated row).trans (Bool.eq_false_iff.mpr (shut row))⟩
  case chosen =>
    intro row index queued up inside
    rw [← (popups.called row up).2] at inside
    obtain ⟨after, taken, _, chosen, _⟩ := sound.select up inside queued
    exact ⟨after, taken, chosen⟩

theorem Kept.remembered (kept : s.Kept) (sound : s.Sound) : s.Remembered := by
  refine ⟨kept.shown, fun backlightIdle timeoutIdle home queued ready => ?_⟩
  have values := sound.values
  obtain ⟨after, booted, _, _, percent, timeout⟩ :=
    boot_eq values.backlightSized.1 values.timeoutSized.1 ready queued
  refine ⟨after, booted, ?_, ?_⟩
  · rw [percent, ← Blob.last_idle backlightIdle, kept.backlight]
  · rw [timeout, ← Blob.last_idle timeoutIdle, kept.timeout]

theorem Sound.run (sound : s.Sound) {actions : List Action} (allowed : Guarded Settings.step Allowed s actions) :
    ∃ after, Transition.run Settings.step s actions = some after ∧ after.Sound ∧
      (s.Kept → Guarded Settings.step Smooth s actions → after.Kept) := by
  induction actions generalizing s with
  | nil => exact ⟨s, rfl, sound, fun kept _ => kept⟩
  | cons action rest ih =>
      obtain ⟨first, remaining⟩ := allowed
      obtain ⟨middle, taken, middleSound, middleKept⟩ := sound.step first
      rw [taken] at remaining
      obtain ⟨after, ran, last, lastKept⟩ := ih middleSound remaining
      refine ⟨after, ?_, last, fun kept smooth => ?_⟩
      · rw [Transition.run, taken]
        exact ran
      · obtain ⟨accepted, others⟩ := smooth
        rw [taken] at others
        exact lastKept (middleKept kept accepted) others

def twoFaces : Home :=
  { Home.started none .booted with
    allWfs := [⟨"Retro", true⟩, ⟨"Analog", true⟩], selectedWf := some ⟨"Retro", true⟩ }

theorem twoFaces_ready : HomeReady twoFaces := by
  constructor
  case initialized => rfl
  case some_ => decide
  case bound => decide
  case selected => rfl

end Settings

end WatchFirmware.SettingsApp
