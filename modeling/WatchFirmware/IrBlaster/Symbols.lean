import WatchFirmware.Ble.Types
import WatchFirmware.Shared.BoundedQueue
import WatchFirmware.Shared.Filling
import WatchFirmware.Shared.Memory

set_option autoImplicit false

namespace WatchFirmware.IrBlaster

open Ble (Byte)
open Filling (Block Appends)

structure IrBlasterData where
  burstPackets : Byte
  payloadLen : Byte
  headerMark : UInt16
  headerSpace : UInt16
  bit0Mark : UInt16
  bit0Space : UInt16
  bit1Mark : UInt16
  bit1Space : UInt16
  interFrameMark : UInt16
  interFrameSpace : UInt16
  gapMark : UInt16
  gapSpace : UInt16
  frequency : UInt32
  -- what the pointer leads to; none is NULL
  payloadData : Option (List Byte)
  deriving DecidableEq, Repr

-- The `val` of an `rmt_symbol_word_t`.
abbrev Symbol := UInt32

abbrev maxConcurrentIrMessages : Nat := 5

structure Driver where
  initialized : Bool
  irQueue : Option (List IrBlasterData)
  abortFlag : Bool
  deriving DecidableEq, Repr

/-- `malloc` says which sizes are served. The outer `none` is a copy that reads behind the caller's payload. -/
def irBlasterDriverSendData (malloc : Nat → Bool) (driver : Driver) (data : Option IrBlasterData) :
    Option (Bool × Driver) :=
  match data with
  | none => some (false, driver)
  | some data =>
      match data.payloadData, driver.irQueue with
      | some payload, some irQueue =>
          if !driver.initialized || driver.abortFlag then some (false, driver)
          else if malloc data.payloadLen.toNat then
            (Memory.read payload 0 data.payloadLen.toNat).map fun payloadCopy =>
              let newMsg := { data with payloadData := some payloadCopy }
              match BoundedQueue.send maxConcurrentIrMessages irQueue newMsg with
              | some irQueue => (true, { driver with irQueue := some irQueue })
              | none => (false, driver)
          else some (false, driver)
      | _, _ => some (false, driver)

def markSpaceToSymbolVal (markDuration spaceDuration : UInt16) : Symbol :=
  (markDuration.toUInt32 &&& (0x7FFF : UInt32)) ||| ((1 : UInt32) <<< 15) |||
    ((spaceDuration.toUInt32 &&& (0x7FFF : UInt32)) <<< 16) ||| ((0 : UInt32) <<< 31)

namespace IrBlasterData

def header (data : IrBlasterData) : Symbol := markSpaceToSymbolVal data.headerMark data.headerSpace
def bit0 (data : IrBlasterData) : Symbol := markSpaceToSymbolVal data.bit0Mark data.bit0Space
def bit1 (data : IrBlasterData) : Symbol := markSpaceToSymbolVal data.bit1Mark data.bit1Space
def interFrame (data : IrBlasterData) : Symbol := markSpaceToSymbolVal data.interFrameMark data.interFrameSpace
def gap (data : IrBlasterData) : Symbol := markSpaceToSymbolVal data.gapMark data.gapSpace

def symbolCount (data : IrBlasterData) : Nat :=
  let payloadBitCount := data.payloadLen.toNat * 8
  (1 + payloadBitCount) * data.burstPackets.toNat + data.burstPackets.toNat

end IrBlasterData

abbrev sizeofRmtSymbolWord : Nat := 4

def putBit (data : IrBlasterData) (byte : Byte) (symbols : Block Symbol) (bit : Nat) : Option (Block Symbol) :=
  let dataBit := byte &&& (1 <<< UInt8.ofNat bit)
  if dataBit ≠ 0 then symbols.put data.bit1 else symbols.put data.bit0

-- none where the byte lies behind the payload
def putByte (data : IrBlasterData) (symbols : Block Symbol) (i : Nat) : Option (Block Symbol) :=
  (data.payloadData.bind fun payload => payload[i]?).bind fun byte =>
    (List.range 8).foldlM (putBit data byte) symbols

def putFrame (data : IrBlasterData) (symbols : Block Symbol) (frame : Nat) : Option (Block Symbol) :=
  (symbols.put data.header).bind fun symbols =>
    ((List.range data.payloadLen.toNat).foldlM (putByte data) symbols).bind fun symbols =>
      if frame + 1 < data.burstPackets.toNat then symbols.put data.interFrame else some symbols

/-- The count that is returned and what `out_symbols` leads to; the outer `none` is a write or a read
out of bounds. -/
def generateRmtSymbol (heapCapsMalloc : Nat → Bool) (data : IrBlasterData) :
    Option (Nat × Option (Block Symbol)) :=
  let symbolCount := data.symbolCount
  if heapCapsMalloc (symbolCount * sizeofRmtSymbolWord) then
    ((List.range data.burstPackets.toNat).foldlM (putFrame data) (Block.fresh symbolCount)).bind fun symbols =>
      (symbols.put data.gap).map fun symbols => (symbolCount, some symbols)
  else some (0, none)

section Timings

theorem markSpaceToSymbolVal_toNat (markDuration spaceDuration : UInt16) :
    (markSpaceToSymbolVal markDuration spaceDuration).toNat =
      markDuration.toNat % 2 ^ 15 + 2 ^ 15 + spaceDuration.toNat % 2 ^ 15 * 2 ^ 16 := by
  have mark : (markDuration.toUInt32 &&& 0x7FFF).toNat = markDuration.toNat % 2 ^ 15 := by
    rw [UInt32.toNat_and, UInt16.toNat_toUInt32]
    exact Nat.and_two_pow_sub_one_eq_mod _ 15
  have space : (spaceDuration.toUInt32 &&& 0x7FFF).toNat = spaceDuration.toNat % 2 ^ 15 := by
    rw [UInt32.toNat_and, UInt16.toNat_toUInt32]
    exact Nat.and_two_pow_sub_one_eq_mod _ 15
  have markSmall : markDuration.toNat % 2 ^ 15 < 2 ^ 15 := Nat.mod_lt _ (by decide)
  have spaceSmall : spaceDuration.toNat % 2 ^ 15 < 2 ^ 15 := Nat.mod_lt _ (by decide)
  have low : (markDuration.toNat % 2 ^ 15 ||| 1 <<< 15) = markDuration.toNat % 2 ^ 15 + 2 ^ 15 := by
    rw [Nat.or_comm, ← Nat.shiftLeft_add_eq_or_of_lt markSmall, Nat.add_comm]
    rfl
  have high : ((spaceDuration.toUInt32 &&& 0x7FFF) <<< (16 : UInt32)).toNat =
      (spaceDuration.toNat % 2 ^ 15) <<< 16 := by
    rw [UInt32.toNat_shiftLeft, space, show (16 : UInt32).toNat % 32 = 16 from rfl, Nat.shiftLeft_eq]
    exact Nat.mod_eq_of_lt (by omega)
  have level : ((1 : UInt32) <<< 15).toNat = 1 <<< 15 := rfl
  have none : ((0 : UInt32) <<< 31) = 0 := rfl
  unfold markSpaceToSymbolVal
  rw [none, UInt32.or_zero, UInt32.toNat_or, UInt32.toNat_or, mark, high, level, low, Nat.or_comm,
    ← Nat.shiftLeft_add_eq_or_of_lt (by omega), Nat.shiftLeft_eq, Nat.add_comm]

theorem markSpaceToSymbolVal_inj {mark space otherMark otherSpace : UInt16} :
    markSpaceToSymbolVal mark space = markSpaceToSymbolVal otherMark otherSpace ↔
      mark.toNat % 2 ^ 15 = otherMark.toNat % 2 ^ 15 ∧ space.toNat % 2 ^ 15 = otherSpace.toNat % 2 ^ 15 := by
  rw [← UInt32.toNat_inj, markSpaceToSymbolVal_toNat, markSpaceToSymbolVal_toNat]
  omega

end Timings

namespace IrBlasterData

def bitSymbols (data : IrBlasterData) (byte : Byte) : List Symbol :=
  (List.range 8).map fun bit => if byte.toNat.testBit bit then data.bit1 else data.bit0

def burstSymbols (data : IrBlasterData) (payload : List Byte) (burst : Nat) : List Symbol :=
  data.header :: (payload.flatMap data.bitSymbols ++
    [if burst + 1 < data.burstPackets.toNat then data.interFrame else data.gap])

def messageSymbols (data : IrBlasterData) (payload : List Byte) : List Symbol :=
  (List.range data.burstPackets.toNat).flatMap (data.burstSymbols payload)

@[simp] theorem bitSymbols_length (data : IrBlasterData) (byte : Byte) : (data.bitSymbols byte).length = 8 := by
  simp [bitSymbols]

theorem payloadSymbols_length (data : IrBlasterData) (payload : List Byte) :
    (payload.flatMap data.bitSymbols).length = payload.length * 8 := by
  induction payload with
  | nil => rfl
  | cons byte rest ih => rw [List.flatMap_cons, List.length_append, ih, bitSymbols_length, List.length_cons]; omega

theorem burstSymbols_length (data : IrBlasterData) (payload : List Byte) (burst : Nat) :
    (data.burstSymbols payload burst).length = payload.length * 8 + 2 := by
  rw [burstSymbols, List.length_cons, List.length_append, payloadSymbols_length]
  rfl

theorem messageSymbols_length {data : IrBlasterData} {payload : List Byte}
    (whole : payload.length = data.payloadLen.toNat) : (data.messageSymbols payload).length = data.symbolCount := by
  have each : (data.messageSymbols payload).length = data.burstPackets.toNat * (payload.length * 8 + 2) := by
    rw [messageSymbols, List.length_flatMap]
    simp only [burstSymbols_length, List.map_const', List.sum_replicate, List.length_range, smul_eq_mul]
  rw [each, whole, symbolCount]
  ring

end IrBlasterData

theorem putBit_appends (data : IrBlasterData) (byte : Byte) {bit : Nat} (small : bit < 8) :
    Appends (fun symbols => putBit data byte symbols bit)
      [if byte.toNat.testBit bit then data.bit1 else data.bit0] := by
  have shifted : (1 <<< UInt8.ofNat bit : Byte).toNat = 2 ^ bit := by
    have place : (UInt8.ofNat bit).toNat = bit := UInt8.toNat_ofNat_of_lt' (Nat.lt_trans small (by decide))
    have one : (1 : Byte).toNat = 1 := rfl
    rw [UInt8.toNat_shiftLeft, place, one, Nat.mod_eq_of_lt small, Nat.one_shiftLeft]
    exact Nat.mod_eq_of_lt (Nat.pow_lt_pow_right (by decide) small)
  have masked : (byte &&& (1 <<< UInt8.ofNat bit)) ≠ 0 ↔ byte.toNat.testBit bit = true := by
    rw [Ne, ← UInt8.toNat_inj, UInt8.toNat_and, shifted, Nat.and_two_pow]
    cases byte.toNat.testBit bit <;> simp
  unfold putBit
  simp only [masked]
  split
  next => exact Appends.put _
  next => exact Appends.put _

theorem putByte_appends {data : IrBlasterData} {payload : List Byte} (given : data.payloadData = some payload)
    {i : Nat} (inside : i < payload.length) :
    Appends (fun symbols => putByte data symbols i) (data.bitSymbols payload[i]) := by
  have bits := @Appends.foldlM _ _ (putBit data payload[i]) _ (List.range 8)
    (fun bit member => putBit_appends data payload[i] (List.mem_range.mp member))
  unfold putByte
  simp only [given, Option.bind_some, List.getElem?_eq_getElem inside]
  rw [← List.map_eq_flatMap] at bits
  exact bits

theorem putFrame_appends {data : IrBlasterData} {payload : List Byte} (given : data.payloadData = some payload)
    (whole : payload.length = data.payloadLen.toNat) (frame : Nat) :
    Appends (fun symbols => putFrame data symbols frame)
      (data.header :: (payload.flatMap data.bitSymbols ++
        if frame + 1 < data.burstPackets.toNat then [data.interFrame] else [])) := by
  have bytes : Appends (fun symbols => (List.range data.payloadLen.toNat).foldlM (putByte data) symbols)
      (payload.flatMap data.bitSymbols) := by
    have each := @Appends.foldlM _ _ (putByte data) (fun i => data.bitSymbols (payload.getD i 0))
      (List.range data.payloadLen.toNat) (by
        intro i member
        have inside : i < payload.length := whole ▸ List.mem_range.mp member
        have byte := putByte_appends given inside
        rwa [← List.getD_eq_getElem payload 0 inside] at byte)
    have same : (List.range data.payloadLen.toNat).map (fun i => payload.getD i 0) = payload := by
      rw [← whole]
      apply List.ext_getElem
      next => simp
      next =>
        intro i left right
        simp [List.getElem?_eq_getElem right]
    rw [← List.flatMap_map, same] at each
    exact each
  have closing : Appends (fun symbols : Block Symbol =>
      if frame + 1 < data.burstPackets.toNat then symbols.put data.interFrame else some symbols)
      (if frame + 1 < data.burstPackets.toNat then [data.interFrame] else []) := by
    by_cases more : frame + 1 < data.burstPackets.toNat
    · simp only [if_pos more]
      exact Appends.put _
    · simp only [if_neg more]
      exact Appends.nothing
  exact (Appends.put data.header).bind (bytes.bind closing)

theorem messageSymbols_eq (data : IrBlasterData) (payload : List Byte) (some : 0 < data.burstPackets.toNat) :
    ((List.range data.burstPackets.toNat).flatMap fun frame =>
        data.header :: (payload.flatMap data.bitSymbols ++
          if frame + 1 < data.burstPackets.toNat then [data.interFrame] else [])) ++ [data.gap] =
      data.messageSymbols payload := by
  -- the symbols between the frames belong to the frame in front, as the last one does
  unfold IrBlasterData.messageSymbols
  obtain ⟨last, bursts⟩ : ∃ last, data.burstPackets.toNat = last + 1 := ⟨_, (Nat.succ_pred_eq_of_pos some).symm⟩
  have before : ∀ frame ∈ List.range last,
      data.header :: (payload.flatMap data.bitSymbols ++ if frame + 1 < last + 1 then [data.interFrame] else []) =
        data.burstSymbols payload frame := by
    intro frame member
    have more : frame + 1 < last + 1 := Nat.succ_lt_succ (List.mem_range.mp member)
    rw [IrBlasterData.burstSymbols, bursts, if_pos more, if_pos more]
  have final : data.burstSymbols payload last =
      data.header :: (payload.flatMap data.bitSymbols ++ [data.gap]) := by
    rw [IrBlasterData.burstSymbols, bursts, if_neg (Nat.lt_irrefl _)]
  rw [bursts, List.range_succ, List.flatMap_append, List.flatMap_append, List.flatMap_congr before,
    List.flatMap_singleton, List.flatMap_singleton, final, if_neg (Nat.lt_irrefl _)]
  simp

theorem generateRmtSymbol_served {heapCapsMalloc : Nat → Bool} (zero : heapCapsMalloc 0 = false)
    {data : IrBlasterData} {payload : List Byte} (given : data.payloadData = some payload)
    (whole : payload.length = data.payloadLen.toNat)
    (served : heapCapsMalloc (data.symbolCount * sizeofRmtSymbolWord) = true) :
    ∃ symbols, generateRmtSymbol heapCapsMalloc data = some (data.symbolCount, some symbols) ∧
      symbols.cells = (data.messageSymbols payload).map some ∧
      symbols.places = List.range data.symbolCount := by
  have bursts : 0 < data.burstPackets.toNat := by
    by_contra none
    have empty : data.symbolCount = 0 := by
      rw [IrBlasterData.symbolCount, Nat.eq_zero_of_not_pos none, Nat.mul_zero]
    rw [empty, Nat.zero_mul, zero] at served
    contradiction
  have frames := @Appends.foldlM _ _ (putFrame data) _ (List.range data.burstPackets.toNat)
    (fun frame _ => putFrame_appends given whole frame)
  have code := frames.bind (Appends.put data.gap)
  rw [messageSymbols_eq data payload bursts] at code
  obtain ⟨symbols, ran, cells, places⟩ := code.fills
  rw [IrBlasterData.messageSymbols_length whole] at ran places
  refine ⟨symbols, ?_, cells, places⟩
  obtain ⟨before, first, last⟩ := Option.bind_eq_some_iff.mp ran
  unfold generateRmtSymbol
  rw [if_pos served, first, Option.bind_some, last, Option.map_some]

section ReadingBack

/-- The timings of the two bits are told apart by the 15 bits a symbol has for each. -/
def IrBlasterData.BitsDiffer (data : IrBlasterData) : Prop :=
  ¬(data.bit0Mark.toNat % 2 ^ 15 = data.bit1Mark.toNat % 2 ^ 15 ∧
    data.bit0Space.toNat % 2 ^ 15 = data.bit1Space.toNat % 2 ^ 15)

instance (data : IrBlasterData) : Decidable data.BitsDiffer := inferInstanceAs (Decidable (¬_))

def readByte (data : IrBlasterData) (symbols : List Symbol) : Byte :=
  UInt8.ofNat (Nat.ofBits fun bit : Fin 8 => symbols[bit.val]? == some data.bit1)

def readBurst (data : IrBlasterData) (symbols : List Symbol) (burst : Nat) : List Byte :=
  let frame := Memory.slot symbols (data.payloadLen.toNat * 8 + 2) burst
  (Memory.slots (frame.drop 1) 8 data.payloadLen.toNat).map (readByte data)

theorem readByte_bitSymbols {data : IrBlasterData} (differ : data.BitsDiffer) (byte : Byte) :
    readByte data (data.bitSymbols byte) = byte := by
  have apart : data.bit0 ≠ data.bit1 := fun same => differ (markSpaceToSymbolVal_inj.mp same)
  have bits : (fun bit : Fin 8 => (data.bitSymbols byte)[bit.val]? == some data.bit1) =
      fun bit : Fin 8 => byte.toNat.testBit bit := by
    funext bit
    simp only [IrBlasterData.bitSymbols, List.getElem?_map, List.getElem?_range bit.isLt, Option.map_some]
    cases byte.toNat.testBit bit with
    | false => simpa using apart
    | true => simp
  rw [readByte, bits, Nat.ofBits_testBit, Nat.mod_eq_of_lt byte.toNat_lt, UInt8.ofNat_toNat]

theorem readBurst_messageSymbols {data : IrBlasterData} {payload : List Byte} (differ : data.BitsDiffer)
    (whole : payload.length = data.payloadLen.toNat) {burst : Nat} (inside : burst < data.burstPackets.toNat) :
    readBurst data (data.messageSymbols payload) burst = payload := by
  have frame : Memory.slot (data.messageSymbols payload) (data.payloadLen.toNat * 8 + 2) burst =
      data.burstSymbols payload burst := by
    have sized : ∀ other ∈ List.range data.burstPackets.toNat,
        (data.burstSymbols payload other).length = data.payloadLen.toNat * 8 + 2 := by
      intro other _
      rw [IrBlasterData.burstSymbols_length, whole]
    have found := Memory.slot_flatMap sized [] (by rwa [List.length_range])
    rw [List.append_nil, List.getElem_range] at found
    exact found
  have bytes : ∀ i, (within : i < payload.length) →
      Memory.slot ((data.burstSymbols payload burst).drop 1) 8 i = data.bitSymbols payload[i] := by
    intro i within
    exact Memory.slot_flatMap (fun byte _ => data.bitSymbols_length byte) _ within
  unfold readBurst
  rw [frame, ← whole]
  apply List.ext_getElem
  next => simp
  next =>
    intro i left right
    simp only [Memory.slots, List.getElem_map, List.getElem_range, bytes i right]
    exact readByte_bitSymbols differ payload[i]

end ReadingBack

/-- What `generate_rmt_symbol` leaves for a message: either nothing was allocated, or the block is filled
front to back with the bursts. -/
inductive Generated (heapCapsMalloc : Nat → Bool) (data : IrBlasterData) (payload : List Byte) : Prop where
  | refused (unserved : heapCapsMalloc (data.symbolCount * sizeofRmtSymbolWord) = false)
      (nothing : generateRmtSymbol heapCapsMalloc data = some (0, none))
  | written (symbols : Block Symbol)
      (served : heapCapsMalloc (data.symbolCount * sizeofRmtSymbolWord) = true)
      (done : generateRmtSymbol heapCapsMalloc data = some (data.symbolCount, some symbols))
      (allocated : symbols.cells.length = data.symbolCount)
      (once : symbols.places = List.range data.symbolCount)
      (exact : symbols.cells = (data.messageSymbols payload).map some)
      (readable : data.BitsDiffer → ∀ burst < data.burstPackets.toNat,
        readBurst data (data.messageSymbols payload) burst = payload)

theorem generated {heapCapsMalloc : Nat → Bool} (zero : heapCapsMalloc 0 = false) {data : IrBlasterData}
    {payload : List Byte} (given : data.payloadData = some payload)
    (whole : payload.length = data.payloadLen.toNat) : Generated heapCapsMalloc data payload := by
  cases served : heapCapsMalloc (data.symbolCount * sizeofRmtSymbolWord) with
  | false => exact .refused served (if_neg (Bool.eq_false_iff.mp served))
  | true =>
      obtain ⟨symbols, done, cells, places⟩ := generateRmtSymbol_served zero given whole served
      have allocated : symbols.cells.length = data.symbolCount := by
        rw [cells, List.length_map, IrBlasterData.messageSymbols_length whole]
      exact .written symbols served done allocated places cells
        fun differ _ inside => readBurst_messageSymbols differ whole inside

theorem irBlasterDriverSendData_accepted {malloc : Nat → Bool} {driver after : Driver}
    {data : Option IrBlasterData}
    (accepted : irBlasterDriverSendData malloc driver data = some (true, after)) :
    ∃ given payload payloadCopy waiting, data = some given ∧ given.payloadData = some payload ∧
      payloadCopy = payload.take given.payloadLen.toNat ∧ payloadCopy.length = given.payloadLen.toNat ∧
      driver.irQueue = some waiting ∧
      after.irQueue = some (waiting ++ [{ given with payloadData := some payloadCopy }]) := by
  unfold irBlasterDriverSendData at accepted
  split at accepted
  next => cases accepted
  next given =>
    split at accepted
    next payload waiting pointed queue =>
      split at accepted
      next => cases accepted
      next =>
        split at accepted
        next =>
          obtain ⟨payloadCopy, copied, result⟩ := Option.map_eq_some_iff.mp accepted
          obtain ⟨inside, same⟩ := Memory.read_some copied
          rw [List.drop_zero] at same
          have length : payloadCopy.length = given.payloadLen.toNat := by
            rw [same, List.length_take]
            omega
          refine ⟨given, payload, payloadCopy, waiting, rfl, pointed, same, length, queue, ?_⟩
          dsimp only at result
          split at result
          next longer sent =>
            cases result
            unfold BoundedQueue.send at sent
            split at sent
            next =>
              cases sent
              rfl
            next => cases sent
          next => cases result
        next => cases accepted
    next => cases accepted

/-- For every message that was accepted, the symbols are exact and in bounds. -/
theorem accepted_generated (malloc heapCapsMalloc : Nat → Bool) (zero : heapCapsMalloc 0 = false)
    (driver after : Driver) (data : Option IrBlasterData)
    (accepted : irBlasterDriverSendData malloc driver data = some (true, after)) :
    ∃ given payload waiting, data = some given ∧ given.payloadData = some payload ∧
      driver.irQueue = some waiting ∧
      after.irQueue = some (waiting ++
        [{ given with payloadData := some (payload.take given.payloadLen.toNat) }]) ∧
      Generated heapCapsMalloc { given with payloadData := some (payload.take given.payloadLen.toNat) }
        (payload.take given.payloadLen.toNat) := by
  obtain ⟨given, payload, payloadCopy, waiting, same, pointed, copied, length, queue, sent⟩ :=
    irBlasterDriverSendData_accepted accepted
  subst copied
  refine ⟨given, payload, waiting, same, pointed, queue, sent, ?_⟩
  exact generated zero rfl length

def sampleData : IrBlasterData where
  burstPackets := 2
  payloadLen := 2
  headerMark := 900
  headerSpace := 450
  bit0Mark := 56
  bit0Space := 56
  bit1Mark := 56
  bit1Space := 169
  interFrameMark := 56
  interFrameSpace := 4000
  gapMark := 56
  gapSpace := 10000
  frequency := 38000
  payloadData := some [0xA5, 0x0F, 0x33]

def sampleMalloc (size : Nat) : Bool := decide (0 < size)

theorem accepted_generated_sample :
    ∃ given payload waiting, some sampleData = some given ∧ given.payloadData = some payload ∧
      some ([] : List IrBlasterData) = some waiting ∧
      some [{ sampleData with payloadData := some [0xA5, 0x0F] }] = some (waiting ++
        [{ given with payloadData := some (payload.take given.payloadLen.toNat) }]) ∧
      Generated sampleMalloc { given with payloadData := some (payload.take given.payloadLen.toNat) }
        (payload.take given.payloadLen.toNat) :=
  accepted_generated sampleMalloc sampleMalloc rfl ⟨true, some [], false⟩
    ⟨true, some [{ sampleData with payloadData := some [0xA5, 0x0F] }], false⟩ (some sampleData) rfl

end WatchFirmware.IrBlaster
