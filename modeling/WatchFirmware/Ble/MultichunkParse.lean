import WatchFirmware.Ble.MultichunkGrammar

set_option autoImplicit false

namespace WatchFirmware.Ble

open Loop

namespace MultichunkParser

variable {parser : MultichunkParser} {hdr : MultichunkHeader} {reqApp : Byte}
  {chunks : List (List Byte)} {bytes : List Byte} {chunk : BleMsg} {effects : List Effect}

theorem Collecting.freeing (collecting : Collecting parser hdr reqApp chunks) :
    parser.freeing = [.freed] := by
  obtain ⟨block, given, _⟩ := collecting.block
  simp [MultichunkParser.freeing, given]

theorem Collecting.first (collecting : Collecting parser hdr reqApp chunks) :
    (if parser.currChunkId = 0 then 5 else 0) = if chunks.length = 0 then 5 else 0 := by
  have fewer := collecting.fewer
  have total := hdr.totalChunks.toNat_lt
  rw [collecting.id_eq]
  by_cases none : chunks.length = 0
  · simp [none]
  · rw [if_neg none, if_neg]
    intro zero
    have value := congrArg UInt8.toNat zero
    simp only [UInt8.toNat_ofNat', UInt8.toNat_zero] at value
    omega

theorem Collecting.too_short (collecting : Collecting parser hdr reqApp chunks)
    (short : chunk.size ≤ (if chunks.length = 0 then 5 else 0) + 1) :
    parser.chunkStage chunk effects = some (.stop cleared (effects ++ [.freed])) := by
  rw [chunkStage, if_pos collecting.state_eq, collecting.first]
  simp only [if_pos short, drop, collecting.freeing]

def copied (parser : MultichunkParser) (chunks : List (List Byte)) (piece block : List Byte) :
    MultichunkParser :=
  { parser with
    outData := some block
    readSize := (chunks ++ [piece]).flatten.length
    currChunkId := UInt8.ofNat (chunks.length + 1) }

theorem Collecting.copies (collecting : Collecting parser hdr reqApp chunks)
    (effects : List Effect) (fits : chunk.Fits)
    {head content : List Byte} {id : Byte} (split : chunk.data = head ++ id :: content)
    (place : head.length = if chunks.length = 0 then 5 else 0) (nonempty : content ≠ []) :
    if id = UInt8.ofNat chunks.length then
      ∃ block, block.length = hdr.totalSize ∧
        (let piece := content.take (hdr.totalSize - chunks.flatten.length)
        block.take (chunks ++ [piece]).flatten.length = (chunks ++ [piece]).flatten ∧
        parser.chunkStage chunk effects = some
          (if chunks.length + 1 = hdr.totalChunks.toNat then
            if hdr.totalSize - chunks.flatten.length ≤ content.length then
              .next { parser.copied chunks piece block with state := .readCrc, readSize := 0 }
                (head.length + 1 + piece.length) effects
            else .stop cleared (effects ++ [.freed])
          else if hdr.totalSize - chunks.flatten.length ≤ content.length then
            .stop cleared (effects ++ [.freed])
          else .next (parser.copied chunks piece block) (head.length + 1 + piece.length) effects))
    else parser.chunkStage chunk effects = some (.stop cleared (effects ++ [.freed])) := by
  obtain rfl := collecting.hdr_eq
  have size : chunk.size = head.length + 1 + content.length := by
    rw [← BleMsg.data_length fits, split, List.length_append, List.length_cons]
    omega
  have positive : 0 < content.length := List.length_pos_iff.mpr nonempty
  have less := collecting.less
  have idByte : chunk.payload[head.length]? = some id := by
    rw [BleMsg.data_get (by omega), split, List.getElem?_append_right (Nat.le_refl _), Nat.sub_self,
      List.getElem?_cons_zero]
  have long : ¬ chunk.size ≤ head.length + 1 := by omega
  have within : ¬ parser.hdr.totalSize < chunks.flatten.length := by omega
  have available : chunk.size - (head.length + 1) = content.length := by omega
  rw [chunkStage, if_pos collecting.state_eq, collecting.first, ← place]
  simp only [if_neg long, collecting.readSize_eq, if_neg within, idByte,
    collecting.id_eq, available]
  split
  next same =>
    obtain ⟨block, given, length, taken⟩ := collecting.block
    let piece := content.take (parser.hdr.totalSize - chunks.flatten.length)
    have pieceLength : piece.length = min (parser.hdr.totalSize - chunks.flatten.length) content.length :=
      List.length_take
    have chunkLength : (if parser.hdr.totalSize - chunks.flatten.length < content.length then
        parser.hdr.totalSize - chunks.flatten.length else content.length) = piece.length := by
      rw [pieceLength]
      split <;> omega
    have flat : (chunks ++ [piece]).flatten = chunks.flatten ++ piece := by simp
    have rest : chunk.data.drop (head.length + 1) = content := by
      rw [split, ← List.drop_drop, List.drop_left]
      rfl
    have read : Memory.read chunk.payload (head.length + 1) piece.length = some piece := by
      have inside : head.length + 1 + piece.length ≤ chunk.size := by omega
      rw [Memory.read_inside, BleMsg.data_slice inside, rest, pieceLength, ← List.take_eq_take_min]
      rw [chunk.payload_length]
      exact Nat.le_trans inside fits
    have write := Memory.write_inside (show chunks.flatten.length + piece.length ≤ block.length by omega)
    obtain ⟨outData, written⟩ : ∃ outData, Memory.write block chunks.flatten.length piece = some outData :=
      ⟨_, write⟩
    have stored := Memory.write_take written
    rw [taken, ← flat] at stored
    have sizeDone : chunks.flatten.length + piece.length = parser.hdr.totalSize ↔
        parser.hdr.totalSize - chunks.flatten.length ≤ content.length := by omega
    have chunksDone : UInt8.ofNat chunks.length + 1 = parser.hdr.totalChunks ↔
        chunks.length + 1 = parser.hdr.totalChunks.toNat := by
      have fewer := collecting.fewer
      have total := parser.hdr.totalChunks.toNat_lt
      rw [← UInt8.toNat_inj, UInt8.toNat_add, UInt8.toNat_ofNat', UInt8.toNat_one]
      omega
    have nextId : UInt8.ofNat chunks.length + 1 = UInt8.ofNat (chunks.length + 1) := by
      rw [UInt8.ofNat_add]
      rfl
    refine ⟨outData, (Memory.write_length written).trans length, ?_, ?_⟩
    · rw [flat, List.length_append]
      exact flat ▸ stored
    · simp only [same, ne_eq, not_true_eq_false, if_false, chunkLength, read, Option.bind_some, given,
        written, Option.map_some, sizeDone, chunksDone]
      have readSize : (chunks ++ [piece]).flatten.length = chunks.flatten.length + piece.length := by
        rw [flat, List.length_append]
      by_cases last : chunks.length + 1 = parser.hdr.totalChunks.toNat
      · by_cases whole : parser.hdr.totalSize - chunks.flatten.length ≤ content.length
        · simp only [last, whole, not_true_eq_false, and_false, and_true, if_false, if_true, nextId,
            copied, piece]
        · simp only [last, whole, not_true_eq_false, not_false_eq_true, and_false, and_true, if_false,
            if_true, drop, MultichunkParser.freeing, Option.isSome_some]
      · by_cases whole : parser.hdr.totalSize - chunks.flatten.length ≤ content.length
        · simp only [last, whole, not_false_eq_true, and_true, if_false, if_true, drop,
            MultichunkParser.freeing, Option.isSome_some]
        · simp only [last, whole, not_false_eq_true, false_and, if_false, nextId, copied, ← readSize,
            piece]
  next differs =>
    rw [drop, collecting.freeing]

theorem Collecting.extends (collecting : Collecting parser hdr reqApp chunks)
    (effects : List Effect) (fits : chunk.Fits)
    {head content : List Byte} (split : chunk.data = head ++ UInt8.ofNat chunks.length :: content)
    (place : head.length = if chunks.length = 0 then 5 else 0) (nonempty : content ≠ [])
    (more : chunks.length + 1 ≠ hdr.totalChunks.toNat)
    (short : content.length < hdr.totalSize - chunks.flatten.length) :
    ∃ next, parser.chunkStage chunk effects = some (.next next chunk.size effects) ∧
      Collecting next hdr reqApp (chunks ++ [content]) := by
  have copies := collecting.copies effects fits split place nonempty
  rw [if_pos rfl] at copies
  obtain ⟨block, length, taken, stage⟩ := copies
  have whole : content.take (hdr.totalSize - chunks.flatten.length) = content :=
    List.take_of_length_le (Nat.le_of_lt short)
  have size : chunk.size = head.length + 1 + content.length := by
    rw [← BleMsg.data_length fits, split, List.length_append, List.length_cons]
    omega
  rw [whole, if_neg more, if_neg (by omega)] at stage
  rw [whole] at taken
  have fewer := collecting.fewer
  refine ⟨_, size ▸ stage, ?_⟩
  exact
    { state_eq := collecting.state_eq
      hdr_eq := collecting.hdr_eq
      reqApp_eq := collecting.reqApp_eq
      id_eq := by rw [List.length_append]; rfl
      fewer := by rw [List.length_append, List.length_singleton]; omega
      nonempty := fun piece member => (List.mem_append.mp member).elim (collecting.nonempty piece)
        fun last => List.mem_singleton.mp last ▸ nonempty
      readSize_eq := rfl
      less := by
        rw [List.flatten_append, List.length_append, List.flatten_singleton]
        omega
      bounded := collecting.bounded
      crc_eq := collecting.crc_eq
      block := ⟨block, rfl, length, taken⟩ }

theorem Collecting.completes (collecting : Collecting parser hdr reqApp chunks)
    (effects : List Effect) (fits : chunk.Fits)
    {head piece tail : List Byte}
    (split : chunk.data = head ++ UInt8.ofNat chunks.length :: (piece ++ tail))
    (place : head.length = if chunks.length = 0 then 5 else 0)
    (last : chunks.length + 1 = hdr.totalChunks.toNat)
    (exact : piece.length = hdr.totalSize - chunks.flatten.length) :
    ∃ next, parser.chunkStage chunk effects =
        some (.next next (head.length + 1 + piece.length) effects) ∧
      Checking next hdr reqApp (chunks ++ [piece]) [] := by
  have less := collecting.less
  have nonempty : piece ≠ [] := by
    intro none
    rw [none, List.length_nil] at exact
    omega
  have copies := collecting.copies effects fits split place (by simp [nonempty])
  rw [if_pos rfl] at copies
  obtain ⟨block, length, taken, stage⟩ := copies
  have cut : (piece ++ tail).take (hdr.totalSize - chunks.flatten.length) = piece := by
    rw [← exact, List.take_left]
  have flat : (chunks ++ [piece]).flatten.length = hdr.totalSize := by
    rw [List.flatten_append, List.length_append, List.flatten_singleton]
    omega
  have enough : hdr.totalSize - chunks.flatten.length ≤ (piece ++ tail).length := by
    rw [List.length_append]
    omega
  rw [cut, if_pos last, if_pos enough] at stage
  rw [cut, flat, ← length, List.take_length] at taken
  refine ⟨_, stage, ?_⟩
  exact
    { state_eq := rfl
      hdr_eq := collecting.hdr_eq
      reqApp_eq := collecting.reqApp_eq
      count := by rw [List.length_append, List.length_singleton, last]
      nonempty := fun other member => (List.mem_append.mp member).elim (collecting.nonempty other)
        fun only => List.mem_singleton.mp only ▸ nonempty
      size := flat
      bounded := collecting.bounded
      readSize_eq := rfl
      few := by decide
      crc_eq := collecting.crc_eq
      block := by rw [copied, taken] }

theorem Collecting.stage_cases (collecting : Collecting parser hdr reqApp chunks) (fits : chunk.Fits)
    (effects : List Effect) :
    parser.chunkStage chunk effects = some (.stop cleared (effects ++ [.freed])) ∨
      ∃ head content, chunk.data = head ++ UInt8.ofNat chunks.length :: content ∧
        (head.length = if chunks.length = 0 then 5 else 0) ∧ content ≠ [] ∧
        ((chunks.length + 1 ≠ hdr.totalChunks.toNat ∧
            content.length < hdr.totalSize - chunks.flatten.length) ∨
          (chunks.length + 1 = hdr.totalChunks.toNat ∧
            hdr.totalSize - chunks.flatten.length ≤ content.length)) := by
  -- every other message ends the transfer
  by_cases short : chunk.size ≤ (if chunks.length = 0 then 5 else 0) + 1
  · exact .inl (collecting.too_short short)
  have length := BleMsg.data_length fits
  let head := chunk.data.take (if chunks.length = 0 then 5 else 0)
  have place : head.length = if chunks.length = 0 then 5 else 0 := by
    rw [List.length_take]
    omega
  obtain ⟨id, content, rest⟩ :
      ∃ id content, chunk.data.drop (if chunks.length = 0 then 5 else 0) = id :: content := by
    apply List.exists_cons_of_ne_nil
    intro none
    have empty := congrArg List.length none
    rw [List.length_drop, List.length_nil] at empty
    omega
  have split : chunk.data = head ++ id :: content := by rw [← rest, List.take_append_drop]
  have nonempty : content ≠ [] := by
    rintro rfl
    have total := congrArg List.length split
    rw [List.length_append, List.length_singleton] at total
    omega
  have copies := collecting.copies effects fits split place nonempty
  split at copies
  next same =>
    subst same
    obtain ⟨block, _, _, stage⟩ := copies
    by_cases last : chunks.length + 1 = hdr.totalChunks.toNat
    · by_cases enough : hdr.totalSize - chunks.flatten.length ≤ content.length
      · exact .inr ⟨head, content, split, place, nonempty, .inr ⟨last, enough⟩⟩
      · rw [if_pos last, if_neg enough] at stage
        exact .inl stage
    · by_cases enough : hdr.totalSize - chunks.flatten.length ≤ content.length
      · rw [if_neg last, if_pos enough] at stage
        exact .inl stage
      · exact .inr ⟨head, content, split, place, nonempty, .inl ⟨last, Nat.lt_of_not_le enough⟩⟩
  next => exact .inl copies

theorem crc_exits (fits : chunk.Fits) (rest : List Byte) (parser : MultichunkParser) (offset : Nat)
    (bytes : List Byte) (readSize : parser.readSize = bytes.length) (crc : parser.crc = crcOf bytes)
    (few : bytes.length ≤ 4) (within : offset ≤ chunk.size) (ahead : chunk.data.drop offset = rest) :
    let taken := rest.take (4 - bytes.length)
    Exits (crcBody chunk) ⟨parser, offset⟩
      ⟨{ parser with crc := crcOf (bytes ++ taken), readSize := (bytes ++ taken).length },
        offset + taken.length⟩ := by
  have length := congrArg List.length ahead
  rw [List.length_drop, BleMsg.data_length fits] at length
  induction rest generalizing parser offset bytes with
  | nil =>
      have finished : ¬ offset < chunk.size := by
        rw [List.length_nil] at length
        omega
      simp only [List.take_nil, List.append_nil, List.length_nil, Nat.add_zero, ← readSize, ← crc]
      refine .exit ?_
      rw [crcBody, if_neg (fun running => finished running.2)]
  | cons byte rest ih =>
      have inside : offset < chunk.size := by
        rw [List.length_cons] at length
        omega
      by_cases full : bytes.length = 4
      · simp only [full, Nat.sub_self, List.take_zero, List.append_nil, List.length_nil, Nat.add_zero]
        have same : { parser with crc := crcOf bytes, readSize := 4 } = parser := by
          rw [← crc, ← full, ← readSize]
        rw [same]
        refine .exit ?_
        rw [crcBody, if_neg (fun running => running.1 (readSize.trans full))]
      · let next : MultichunkParser := { parser with
          crc := crcOf (bytes ++ [byte]), readSize := (bytes ++ [byte]).length }
        have found : chunk.payload[offset]? = some byte := by
          rw [BleMsg.data_get inside, ← Nat.add_zero offset, ← List.getElem?_drop, ahead,
            List.getElem?_cons_zero]
        have round : crcBody chunk ⟨parser, offset⟩ = some (.again ⟨next, offset + 1⟩) := by
          rw [crcBody, if_pos ⟨by simp only [readSize]; exact full, inside⟩]
          simp only [found, Option.map_some, next, crcOf_append, readSize, crc, List.length_append,
            List.length_singleton]
        have further : chunk.data.drop (offset + 1) = rest := by
          rw [← List.drop_drop, ahead, List.drop_one, List.tail_cons]
        have later := ih next (offset + 1) (bytes ++ [byte]) rfl rfl
          (by rw [List.length_append, List.length_singleton]; omega) (by omega) further
          (by rw [List.length_cons] at length; omega)
        have step : 4 - bytes.length = (4 - (bytes ++ [byte]).length) + 1 := by
          rw [List.length_append, List.length_singleton]
          omega
        refine .again round ?_
        rw [step, List.take_succ_cons]
        simpa only [List.append_assoc, List.singleton_append, List.length_cons, Nat.add_assoc,
          Nat.add_comm 1, next] using later

theorem Checking.stage (checking : Checking parser hdr reqApp chunks bytes)
    (crc32 : UInt32 → List Byte → UInt32) (fits : chunk.Fits) {offset : Nat} {rest : List Byte}
    (within : offset ≤ chunk.size) (ahead : chunk.data.drop offset = rest) (effects : List Effect) :
    if (bytes ++ rest).length < 4 then
      ∃ next, parser.crcStage crc32 chunk offset effects = some (next, effects) ∧
        Checking next hdr reqApp chunks (bytes ++ rest)
    else parser.crcStage crc32 chunk offset effects = some
      (cleared, effects ++
        if bytes ++ rest = crcBytes (crc32 0 chunks.flatten) then
          [.handled ⟨hdr.opcode, reqApp, hdr.totalSize, chunks.flatten⟩]
        else [.freed]) := by
  obtain rfl := checking.hdr_eq
  have few := checking.few
  have length := congrArg List.length ahead
  rw [List.length_drop, BleMsg.data_length fits] at length
  have exits := crc_exits fits rest parser offset bytes checking.readSize_eq checking.crc_eq
    (Nat.le_of_lt few) within ahead
  have decreasing : ∀ state next, crcBody chunk state = some (.again next) →
      chunk.size - next.offset < chunk.size - state.offset := by
    intro state next round
    rw [crcBody] at round
    split at round
    next running =>
      obtain ⟨byte, _, same⟩ := Option.map_eq_some_iff.mp round
      obtain rfl := Flow.again.inj same
      have := running.2
      simp only
      omega
    next => cases round
  have ran := loop_of_exits decreasing exits (show chunk.size - offset < chunk.size + 1 by omega)
  have freed : parser.freeing = [.freed] := by simp [MultichunkParser.freeing, checking.block]
  rw [crcStage, if_pos checking.state_eq, ran, Option.bind_some]
  split
  next short =>
    have all : rest.take (4 - bytes.length) = rest := by
      rw [List.take_of_length_le]
      rw [List.length_append] at short
      omega
    simp only [all, if_neg (Nat.ne_of_lt short)]
    exact ⟨_, rfl,
      { state_eq := checking.state_eq
        hdr_eq := rfl
        reqApp_eq := checking.reqApp_eq
        count := checking.count
        nonempty := checking.nonempty
        size := checking.size
        bounded := checking.bounded
        readSize_eq := rfl
        few := short
        crc_eq := rfl
        block := checking.block }⟩
  next enough =>
    rw [List.length_append] at enough
    have taken : (rest.take (4 - bytes.length)).length = 4 - bytes.length := by
      rw [List.length_take]
      omega
    have four : (bytes ++ rest.take (4 - bytes.length)).length = 4 := by
      rw [List.length_append, taken]
      omega
    simp only [four, if_true, taken, checking.block, Option.map_some, ← checking.size, List.take_length,
      checking.reqApp_eq]
    by_cases exact : rest.length = 4 - bytes.length
    · have whole : rest.take (4 - bytes.length) = rest := by rw [← exact, List.take_length]
      rw [whole] at four ⊢
      have same : bytes ++ rest = crcBytes (crc32 0 chunks.flatten) ↔
          crc32 0 chunks.flatten = crcOf (bytes ++ rest) := by
        constructor
        · intro equal
          rw [equal, crcOf_crcBytes]
        · intro equal
          rw [equal, crcBytes_crcOf four]
      simp only [same, ne_eq]
      rw [if_neg (by omega)]
      by_cases equal : crc32 0 chunks.flatten = crcOf (bytes ++ rest)
      · simp only [equal, not_true_eq_false, if_false, if_true]
      · simp only [equal, not_false_eq_true, if_true, if_false]
        rfl
    · have differs : ¬ bytes ++ rest = crcBytes (crc32 0 chunks.flatten) := by
        intro equal
        have total := congrArg List.length equal
        simp only [crcBytes, List.length_append, List.length_cons, List.length_nil] at total
        omega
      rw [if_pos (by omega), if_neg differs]
      simp [MultichunkParser.freeing]

end MultichunkParser

end WatchFirmware.Ble
