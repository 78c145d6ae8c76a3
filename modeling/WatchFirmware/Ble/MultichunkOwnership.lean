import WatchFirmware.Shared.HeapLedger
import WatchFirmware.Ble.Resync

set_option autoImplicit false

namespace WatchFirmware.Ble

open Loop HeapLedger

def Effect.event : Effect → Event
  | .allocated _ => .allocate
  | .freed => .free
  | .handled _ => .hand

namespace MultichunkParser

structure Live (parser : MultichunkParser) : Prop where
  state : parser.state = .readChunks ∨ parser.state = .readCrc
  block : ∃ block, parser.outData = some block ∧ block.length = parser.hdr.totalSize
  chunks : parser.state = .readChunks →
    parser.currChunkId < parser.hdr.totalChunks ∧ parser.readSize < parser.hdr.totalSize
  crc : parser.state = .readCrc → parser.currChunkId = parser.hdr.totalChunks ∧ parser.readSize ≤ 4

structure Settled (parser : MultichunkParser) : Prop where
  owns : parser.outData.isSome ↔ parser.state = .readChunks ∨ parser.state = .readCrc
  size : ∀ block ∈ parser.outData, block.length = parser.hdr.totalSize
  reset : parser.state = .readHeader → parser = cleared
  -- The id can be counted up once more without wrapping while a chunk is missing.
  id_le : parser.currChunkId ≤ parser.hdr.totalChunks
  counting : parser.state = .readChunks → parser.currChunkId < parser.hdr.totalChunks
  read_le : parser.readSize ≤ if parser.state = .readCrc then 4 else parser.hdr.totalSize

variable {crc32 : UInt32 → List Byte → UInt32} {malloc : Malloc} {parser : MultichunkParser} {chunk : BleMsg}

theorem settled_cleared : cleared.Settled where
  owns := by simp [cleared]
  size := by simp [cleared]
  reset := fun _ => rfl
  id_le := UInt8.le_refl 0
  counting := by simp [cleared]
  read_le := Nat.le_refl 0

theorem Live.settled (live : parser.Live) : parser.Settled := by
  obtain ⟨block, owned, length⟩ := live.block
  refine ⟨by simp [owned, live.state], ?_, ?_, ?_, fun state => (live.chunks state).1, ?_⟩
  · intro other member
    rw [owned] at member
    cases member
    exact length
  · intro header
    rcases live.state with state | state <;> simp [state] at header
  · rcases live.state with state | state
    · exact UInt8.le_of_lt (live.chunks state).1
    · rw [(live.crc state).1]
      exact UInt8.le_refl _
  · rcases live.state with state | state
    · rw [if_neg (by simp [state])]
      exact Nat.le_of_lt (live.chunks state).2
    · rw [if_pos state]
      exact (live.crc state).2

theorem Live.owns (live : parser.Live) : parser.outData.isSome = true := by
  obtain ⟨block, owned, _⟩ := live.block
  rw [owned]
  rfl

theorem Live.freeing (live : parser.Live) : parser.freeing = [.freed] := if_pos live.owns

def Between (parser : MultichunkParser) : Prop := parser = cleared ∨ parser.Live

theorem Between.settled (between : parser.Between) : parser.Settled := by
  rcases between with rfl | live
  · exact settled_cleared
  · exact live.settled

structure Lawful (held : Bool) (next : MultichunkParser) (effects : List Effect) : Prop where
  between : next.Between
  moves : Moves held (effects.map Effect.event) next.outData.isSome

theorem headerStage_lawful (malloc : Malloc) (chunk : BleMsg) (between : parser.Between) :
    (∃ next effects, parser.headerStage malloc chunk = .stop next effects ∧
        Lawful parser.outData.isSome next effects) ∨
      ∃ next effects, parser.headerStage malloc chunk = .next next 0 effects ∧ next.Live ∧
        Moves parser.outData.isSome (effects.map Effect.event) true := by
  rcases between with rfl | live
  · rw [headerStage, if_pos (show cleared.state = .readHeader from rfl)]
    cases found : readMultichunkHeader chunk with
    | none => exact .inl ⟨cleared, [], rfl, .inl rfl, Moves.nothing false⟩
    | some hdr =>
        obtain ⟨_, someChunks, someBytes, _⟩ := readMultichunkHeader_some found
        cases memory : malloc hdr.totalSize with
        | none => exact .inl ⟨cleared, [], by simp [memory, drop, freeing, cleared], .inl rfl, Moves.nothing false⟩
        | some block =>
            let started : MultichunkParser := { cleared with
              hdr := hdr, reqApp := chunk.hdr.reqApp, state := .readChunks, outData := some block.1 }
            refine .inr ⟨started, [.allocated hdr.totalSize], by simp only [memory]; rfl, ?_, Moves.allocate⟩
            exact
              { state := .inl rfl
                block := ⟨block.1, rfl, block.2⟩
                chunks := fun _ => ⟨someChunks, someBytes⟩
                crc := fun state => by cases state }
  · have started : parser.state ≠ .readHeader := by rcases live.state with state | state <;> simp [state]
    rw [headerStage, if_neg started]
    exact .inr ⟨parser, [], rfl, live, live.owns ▸ Moves.nothing true⟩

theorem id_below {id total : Byte} (less : id.toNat < total.toNat) (differs : id + 1 ≠ total) : id + 1 < total := by
  have upper := total.toNat_lt
  have next : (id + 1).toNat = id.toNat + 1 := by
    rw [UInt8.toNat_add, UInt8.toNat_one]
    omega
  have notSame : (id + 1).toNat ≠ total.toNat := fun same => differs (UInt8.toNat_inj.mp same)
  rw [UInt8.lt_iff_toNat_lt]
  omega

theorem chunkStage_lawful (live : parser.Live) (fits : chunk.Fits) (effects : List Effect) :
    parser.chunkStage chunk effects = some (.stop cleared (effects ++ [.freed])) ∨
      ∃ next offset, parser.chunkStage chunk effects = some (.next next offset effects) ∧ next.Live := by
  have dropped : parser.drop effects = .stop cleared (effects ++ [.freed]) := by rw [drop, live.freeing]
  by_cases reading : parser.state = .readChunks
  next =>
    obtain ⟨block, owned, length⟩ := live.block
    obtain ⟨idLess, readLess⟩ := live.chunks reading
    have counted := UInt8.lt_iff_toNat_lt.mp idLess
    rw [chunkStage, if_pos reading]
    dsimp only
    generalize (if parser.currChunkId = 0 then 5 else 0) = start
    by_cases long : chunk.size ≤ start + 1
    next => exact .inl (by rw [if_pos long, dropped])
    next =>
      rw [if_neg long, if_neg (by omega)]
      have inside : start < chunk.payload.length := by
        rw [chunk.payload_length]
        rw [BleMsg.Fits] at fits
        omega
      rw [List.getElem?_eq_getElem inside]
      dsimp only
      by_cases differs : chunk.payload[start] ≠ parser.currChunkId
      next => exact .inl (by rw [if_pos differs, dropped])
      next =>
        rw [if_neg differs]
        generalize copying : (if parser.hdr.totalSize - parser.readSize < chunk.size - (start + 1)
          then parser.hdr.totalSize - parser.readSize else chunk.size - (start + 1)) = count
        have short : start + 1 + count ≤ chunk.size ∧ count ≤ parser.hdr.totalSize - parser.readSize := by
          split at copying <;> omega
        have readable : start + 1 + count ≤ chunk.payload.length := by
          rw [chunk.payload_length]
          exact Nat.le_trans short.1 fits
        have taken : ((chunk.payload.drop (start + 1)).take count).length = count := by
          rw [List.length_take, List.length_drop]
          omega
        rw [Memory.read_inside readable, Option.bind_some, owned, Option.bind_some]
        obtain ⟨outData, written⟩ : ∃ outData, Memory.write block parser.readSize
            ((chunk.payload.drop (start + 1)).take count) = some outData :=
          ⟨_, Memory.write_inside (by rw [taken]; omega)⟩
        have kept := (Memory.write_length written).trans length
        rw [written, Option.map_some]
        by_cases chunksDone : parser.currChunkId + 1 = parser.hdr.totalChunks
        next =>
          by_cases sizeDone : parser.readSize + count = parser.hdr.totalSize
          next =>
            rw [if_neg (fun mismatch => mismatch.2 chunksDone), if_neg (fun mismatch => mismatch.2 sizeDone),
              if_pos ⟨chunksDone, sizeDone⟩]
            refine .inr ⟨_, _, rfl, ?_⟩
            exact
              { state := .inr rfl
                block := ⟨outData, rfl, kept⟩
                chunks := fun state => by cases state
                crc := fun _ => ⟨chunksDone, Nat.zero_le 4⟩ }
          next =>
            rw [if_neg (fun mismatch => sizeDone mismatch.1), if_pos ⟨chunksDone, sizeDone⟩]
            exact .inl rfl
        next =>
          by_cases sizeDone : parser.readSize + count = parser.hdr.totalSize
          next =>
            rw [if_pos ⟨sizeDone, chunksDone⟩]
            exact .inl rfl
          next =>
            rw [if_neg (fun mismatch => sizeDone mismatch.1), if_neg (fun mismatch => chunksDone mismatch.1),
              if_neg (fun both => chunksDone both.1)]
            have enough : parser.readSize + count ≤ parser.hdr.totalSize := by omega
            refine .inr ⟨_, _, rfl, ?_⟩
            exact
              { state := .inl reading
                block := ⟨outData, rfl, kept⟩
                chunks := fun _ => ⟨id_below counted chunksDone, Nat.lt_of_le_of_ne enough sizeDone⟩
                crc := fun state => by simp [reading] at state }
  next =>
    rw [chunkStage, if_neg reading]
    exact .inr ⟨parser, 0, rfl, live⟩

theorem crcBody_decreasing (state next : CrcLoop) (round : crcBody chunk state = some (.again next)) :
    chunk.size - next.offset < chunk.size - state.offset := by
  rw [crcBody] at round
  split at round
  next running =>
    obtain ⟨byte, _, same⟩ := Option.map_eq_some_iff.mp round
    obtain rfl := Flow.again.inj same
    have inside := running.2
    simp only
    omega
  next => cases round

structure Counting (parser : MultichunkParser) (loop : CrcLoop) : Prop where
  live : loop.parser.Live
  state : loop.parser.state = .readCrc
  hdr : loop.parser.hdr = parser.hdr

theorem crcBody_counts (fits : chunk.Fits) (loop : CrcLoop) (counting : Counting parser loop) :
    (∃ next, crcBody chunk loop = some (.again next) ∧ Counting parser next) ∨
      ∃ after, crcBody chunk loop = some (.exit after) ∧ Counting parser after := by
  rw [crcBody]
  split
  next running =>
    obtain ⟨unfinished, within⟩ := running
    have inside : loop.offset < chunk.payload.length := by
      rw [chunk.payload_length]
      exact Nat.lt_of_lt_of_le within fits
    rw [List.getElem?_eq_getElem inside, Option.map_some]
    have counted := counting.live.crc counting.state
    refine .inl ⟨_, rfl, ⟨?_, counting.state, counting.hdr⟩⟩
    exact
      { state := .inr counting.state
        block := counting.live.block
        chunks := fun state => by
          have differs := state.symm.trans counting.state
          cases differs
        crc := fun _ => ⟨counted.1, Nat.lt_of_le_of_ne counted.2 unfinished⟩ }
  next => exact .inr ⟨loop, rfl, counting⟩

theorem crcStage_lawful (crc32 : UInt32 → List Byte → UInt32) (live : parser.Live) (fits : chunk.Fits)
    (offset : Nat) (effects : List Effect) :
    ∃ next more, parser.crcStage crc32 chunk offset effects = some (next, effects ++ more) ∧
      Lawful true next more := by
  by_cases checking : parser.state = .readCrc
  next =>
    obtain ⟨done, exits, counted⟩ := exists_exits crcBody_decreasing (fun loop => crcBody_counts fits loop)
      (show Counting parser ⟨parser, offset⟩ from ⟨live, checking, rfl⟩)
    have ran := loop_of_exits crcBody_decreasing exits (show chunk.size - offset < chunk.size + 1 by omega)
    obtain ⟨block, owned, length⟩ := counted.live.block
    rw [crcStage, if_pos checking, ran, Option.bind_some]
    dsimp only
    split
    next =>
      split
      next =>
        rw [counted.live.freeing]
        exact ⟨cleared, [.freed], rfl, .inl rfl, Moves.free⟩
      next =>
        rw [owned, Option.map_some]
        split
        next =>
          rw [counted.live.freeing]
          exact ⟨cleared, [.freed], rfl, .inl rfl, Moves.free⟩
        next => exact ⟨cleared, [.handled _], rfl, .inl rfl, Moves.hand⟩
    next =>
      refine ⟨done.parser, [], by rw [List.append_nil], .inr counted.live, ?_⟩
      rw [counted.live.owns]
      exact Moves.nothing true
  next =>
    refine ⟨parser, [], by rw [crcStage, if_neg checking, List.append_nil], .inr live, ?_⟩
    rw [live.owns]
    exact Moves.nothing true

theorem parseNewChunk_lawful (crc32 : UInt32 → List Byte → UInt32) (malloc : Malloc) (between : parser.Between)
    {message : Option BleMsg} (fits : ∀ chunk ∈ message, chunk.Fits) :
    ∃ next effects, parseNewChunk crc32 malloc parser message = some (next, effects) ∧
      Lawful parser.outData.isSome next effects := by
  cases message with
  | none =>
      refine ⟨cleared, parser.freeing, rfl, .inl rfl, ?_⟩
      rcases between with rfl | live
      · exact Moves.nothing false
      · rw [live.freeing, live.owns]
        exact Moves.free
  | some chunk =>
      have small := fits chunk rfl
      rw [parseNewChunk]
      rcases headerStage_lawful malloc chunk between with ⟨next, effects, stage, lawful⟩ | ⟨started, effects, stage, live, moves⟩
      · rw [stage]
        exact ⟨next, effects, rfl, lawful⟩
      · rw [stage]
        dsimp only
        rcases chunkStage_lawful live small effects with stage | ⟨further, offset, stage, live⟩
        · rw [stage]
          refine ⟨cleared, _, rfl, .inl rfl, ?_⟩
          rw [List.map_append]
          exact moves.append Moves.free
        · rw [stage]
          obtain ⟨next, more, checked, lawful⟩ := crcStage_lawful crc32 live small offset effects
          refine ⟨next, effects ++ more, checked, lawful.between, ?_⟩
          rw [List.map_append]
          exact moves.append lawful.moves

theorem parseAll_lawful (crc32 : UInt32 → List Byte → UInt32) {inputs : List Input} (between : parser.Between)
    (fits : ∀ input ∈ inputs, ∀ chunk ∈ input.chunk, chunk.Fits) :
    ∃ next effects, parseAll crc32 parser inputs = some (next, effects) ∧
      Lawful parser.outData.isSome next effects := by
  induction inputs generalizing parser with
  | nil => exact ⟨parser, [], rfl, between, Moves.nothing _⟩
  | cons input rest ih =>
      obtain ⟨middle, early, first, lawful⟩ :=
        parseNewChunk_lawful crc32 input.malloc between (fits input List.mem_cons_self)
      obtain ⟨next, late, remaining, further⟩ :=
        ih lawful.between fun other member => fits other (List.mem_cons_of_mem _ member)
      refine ⟨next, early ++ late, ?_, further.between, ?_⟩
      · simp only [parseAll, first, Option.bind_some, remaining, Option.map_some]
      · rw [List.map_append]
        exact lawful.moves.append further.moves

section Payload

variable {twin : BleMsg}

theorem readMultichunkHeader_view (same : twin.view = chunk.view) :
    readMultichunkHeader twin = readMultichunkHeader chunk := by
  have hdr : twin.hdr = chunk.hdr := congrArg Prod.fst same
  have data : twin.data = chunk.data := congrArg Prod.snd same
  have size : twin.size = chunk.size := congrArg (fun hdr => hdr.len.toNat) hdr
  rw [readMultichunkHeader, readMultichunkHeader, size]
  split
  next => rfl
  next long =>
    have byte (i : Nat) (inside : i < 5) : twin.payload[i]? = chunk.payload[i]? := by
      rw [BleMsg.data_get (by omega), BleMsg.data_get (by omega), data]
    rw [byte 0 (by decide), byte 1 (by decide), byte 2 (by decide), byte 3 (by decide), byte 4 (by decide)]

theorem chunkStage_view (fits : chunk.Fits) (same : twin.view = chunk.view) (effects : List Effect) :
    parser.chunkStage twin effects = parser.chunkStage chunk effects := by
  have hdr : twin.hdr = chunk.hdr := congrArg Prod.fst same
  have data : twin.data = chunk.data := congrArg Prod.snd same
  have size : twin.size = chunk.size := congrArg (fun hdr => hdr.len.toNat) hdr
  have upper : chunk.size ≤ bleMaxPayloadSize := fits
  rw [chunkStage, chunkStage, size]
  by_cases reading : parser.state = .readChunks
  next =>
    rw [if_pos reading, if_pos reading]
    dsimp only
    generalize (if parser.currChunkId = 0 then 5 else 0) = start
    by_cases long : chunk.size ≤ start + 1
    next => rw [if_pos long, if_pos long]
    next =>
      have id : twin.payload[start]? = chunk.payload[start]? := by
        rw [BleMsg.data_get (by omega), BleMsg.data_get (by omega), data]
      generalize copying : (if parser.hdr.totalSize - parser.readSize < chunk.size - (start + 1)
        then parser.hdr.totalSize - parser.readSize else chunk.size - (start + 1)) = count
      have short : start + 1 + count ≤ chunk.size := by split at copying <;> omega
      have bytes : Memory.read twin.payload (start + 1) count = Memory.read chunk.payload (start + 1) count := by
        rw [Memory.read_inside, Memory.read_inside, BleMsg.data_slice short, BleMsg.data_slice (size ▸ short), data]
        · rw [chunk.payload_length]
          exact Nat.le_trans short upper
        · rw [twin.payload_length]
          exact Nat.le_trans short upper
      rw [id, bytes]
  next => rw [if_neg reading, if_neg reading]

theorem crcStage_view (crc32 : UInt32 → List Byte → UInt32) (same : twin.view = chunk.view) (offset : Nat)
    (effects : List Effect) :
    parser.crcStage crc32 twin offset effects = parser.crcStage crc32 chunk offset effects := by
  have hdr : twin.hdr = chunk.hdr := congrArg Prod.fst same
  have data : twin.data = chunk.data := congrArg Prod.snd same
  have size : twin.size = chunk.size := congrArg (fun hdr => hdr.len.toNat) hdr
  have body : crcBody twin = crcBody chunk := by
    funext loop
    rw [crcBody, crcBody, size]
    split
    next running =>
      rw [BleMsg.data_get (size.symm ▸ running.2), BleMsg.data_get running.2, data]
    next => rfl
  rw [crcStage, crcStage, body, size]

theorem parseNewChunk_view (crc32 : UInt32 → List Byte → UInt32) (malloc : Malloc) (fits : chunk.Fits)
    (same : twin.view = chunk.view) :
    parseNewChunk crc32 malloc parser (some twin) = parseNewChunk crc32 malloc parser (some chunk) := by
  have hdr : twin.hdr = chunk.hdr := congrArg Prod.fst same
  have header : parser.headerStage malloc twin = parser.headerStage malloc chunk := by
    rw [headerStage, headerStage, readMultichunkHeader_view same, hdr]
  simp only [parseNewChunk, header, chunkStage_view fits same, crcStage_view crc32 same]

end Payload

/-- After any messages and whatever `malloc` answered: the parser is as described, no access has left the
payload or the block, and every block allocated has been freed, handed over or kept, one of them and once. -/
theorem parser_sound (crc32 : UInt32 → List Byte → UInt32) {inputs : List Input}
    (fits : ∀ input ∈ inputs, ∀ chunk ∈ input.chunk, chunk.size ≤ bleMaxPayloadSize) :
    ∃ parser effects, parseAll crc32 cleared inputs = some (parser, effects) ∧ parser.Settled ∧
      (∃ ledger, Ledger.empty.applyAll (effects.map Effect.event) = some ledger ∧ ledger.Accounted ∧
        ledger.held.isSome = parser.outData.isSome) ∧
      ∀ malloc chunk twin, chunk.Fits → BleMsg.view twin = chunk.view →
        parseNewChunk crc32 malloc parser (some twin) = parseNewChunk crc32 malloc parser (some chunk) := by
  obtain ⟨parser, effects, parsed, lawful⟩ := parseAll_lawful crc32 (.inl rfl) fits
  obtain ⟨ledger, applied, held⟩ := lawful.moves Ledger.empty rfl
  refine ⟨parser, effects, parsed, lawful.between.settled, ⟨ledger, applied, ?_, held⟩, ?_⟩
  · exact Ledger.applyAll_accounted Ledger.empty_accounted applied
  · intro malloc chunk twin small same
    exact parseNewChunk_view crc32 malloc small same

def wholeTransfer : BleMsg := .make 0xF0 3 [0xB9, 1, 1, 0, 2, 0, 7, 8, 0, 67, 12, 10] (by decide)

theorem parser_sound_handed :
    ∃ parser effects ledger, parseAll Crc32.checksum cleared
        [⟨fun _ => none, some wholeTransfer⟩, ⟨freshMemory, none⟩, ⟨freshMemory, some wholeTransfer⟩] = some (parser, effects) ∧
      parser.Settled ∧ Ledger.empty.applyAll (effects.map Effect.event) = some ledger ∧ ledger.Accounted := by
  obtain ⟨parser, effects, parsed, settled, ⟨ledger, applied, accounted, _⟩, _⟩ :=
    parser_sound Crc32.checksum
      (by decide : ∀ input ∈ ([⟨fun _ => none, some wholeTransfer⟩, ⟨freshMemory, none⟩,
        ⟨freshMemory, some wholeTransfer⟩] : List Input), ∀ chunk ∈ input.chunk, chunk.size ≤ bleMaxPayloadSize)
  exact ⟨parser, effects, ledger, parsed, settled, applied, accounted⟩

end MultichunkParser

end WatchFirmware.Ble
