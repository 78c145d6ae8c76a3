import WatchFirmware.Ble.MultichunkParse

set_option autoImplicit false

namespace WatchFirmware.Ble

namespace MultichunkParser

theorem readMultichunkHeader_prefix {msg : BleMsg} (fits : msg.Fits) {opcode : Byte} {count size : Nat}
    {rest : List Byte} (data : msg.data = multichunkPrefix opcode count size ++ rest)
    (long : 2 ≤ rest.length) (some_chunks : 0 < count) (few : count ≤ 255) (some_bytes : 0 < size)
    (bounded : size ≤ bleMaxMultichunkSize) :
    readMultichunkHeader msg = some ⟨opcode, UInt8.ofNat count, size⟩ := by
  have length : msg.size = 5 + rest.length := by
    rw [← BleMsg.data_length fits, data, List.length_append]
    rfl
  have byte (i : Nat) (inside : i < 5) : msg.payload[i]? = (multichunkPrefix opcode count size)[i]? := by
    rw [BleMsg.data_get (by omega), data, List.getElem?_append_left inside]
  have chunks : UInt8.ofNat count ≠ 0 := by
    rw [ne_eq, ← UInt8.toNat_inj, UInt8.toNat_ofNat', UInt8.toNat_zero]
    omega
  have total : (UInt8.ofNat (size / 2 ^ 8)).toNat * 2 ^ 8 + (UInt8.ofNat (size % 2 ^ 8)).toNat = size := by
    simp only [bleMaxMultichunkSize] at bounded
    rw [UInt8.toNat_ofNat', UInt8.toNat_ofNat']
    omega
  have long' : ¬ (msg.size ≤ 6 ∨ bleMaxPayloadSize < msg.size) := by
    have upper : msg.size ≤ bleMaxPayloadSize := fits
    omega
  rw [readMultichunkHeader, if_neg long', byte 0 (by decide), byte 1 (by decide), byte 2 (by decide),
    byte 3 (by decide), byte 4 (by decide)]
  have sized : ¬ size = 0 := by omega
  simp only [multichunkPrefix, List.getElem?_cons_zero, List.getElem?_cons_succ, total, ne_eq,
    not_true_eq_false, if_false, chunks, sized, or_self, Nat.not_lt.mpr bounded]

theorem readMultichunkHeader_some {msg : BleMsg} {hdr : MultichunkHeader}
    (found : readMultichunkHeader msg = some hdr) :
    (∃ rest, msg.data = multichunkPrefix hdr.opcode hdr.totalChunks.toNat hdr.totalSize ++ rest) ∧
      0 < hdr.totalChunks.toNat ∧ 0 < hdr.totalSize ∧ hdr.totalSize ≤ bleMaxMultichunkSize := by
  rw [readMultichunkHeader] at found
  split at found
  next => cases found
  next long =>
    have fits : msg.Fits := by
      rw [BleMsg.Fits]
      omega
    have length := BleMsg.data_length fits
    obtain ⟨magic, opcode, totalChunks, high, low, rest, data⟩ :
        ∃ magic opcode totalChunks high low rest,
          msg.data = magic :: opcode :: totalChunks :: high :: low :: rest := by
      match given : msg.data with
      | a :: b :: c :: d :: e :: rest => exact ⟨a, b, c, d, e, rest, rfl⟩
      | [] | [_] | [_, _] | [_, _, _] | [_, _, _, _] =>
          rw [given] at length
          simp only [List.length_cons, List.length_nil] at length
          omega
    have byte (i : Nat) (inside : i < 5) : msg.payload[i]? = msg.data[i]? := BleMsg.data_get (by omega)
    rw [byte 0 (by decide), byte 1 (by decide), byte 2 (by decide), byte 3 (by decide),
      byte 4 (by decide), data] at found
    simp only [List.getElem?_cons_zero, List.getElem?_cons_succ] at found
    have top := high.toNat_lt
    have bottom := low.toNat_lt
    split_ifs at found with start empty large
    obtain rfl := Option.some.inj found
    obtain ⟨chunks, bytes⟩ := not_or.mp empty
    have highByte : UInt8.ofNat ((high.toNat * 2 ^ 8 + low.toNat) / 2 ^ 8) = high := by
      rw [← UInt8.toNat_inj, UInt8.toNat_ofNat']
      omega
    have lowByte : UInt8.ofNat ((high.toNat * 2 ^ 8 + low.toNat) % 2 ^ 8) = low := by
      rw [← UInt8.toNat_inj, UInt8.toNat_ofNat']
      omega
    refine ⟨⟨rest, ?_⟩, ?_, Nat.pos_of_ne_zero bytes, Nat.le_of_not_lt large⟩
    · rw [data, multichunkPrefix, highByte, lowByte, UInt8.ofNat_toNat, not_not.mp start]
      rfl
    · apply Nat.pos_of_ne_zero
      intro zero
      exact chunks (UInt8.toNat_inj.mp zero)

def handled (effects : List Effect) : List BleMultichunkMsg :=
  effects.filterMap fun effect =>
    match effect with
    | .handled msg => some msg
    | .allocated _ => none
    | .freed => none

@[simp] theorem handled_nil : handled [] = [] := rfl

@[simp] theorem handled_append (effects more : List Effect) :
    handled (effects ++ more) = handled effects ++ handled more := List.filterMap_append

@[simp] theorem handled_freed : handled [.freed] = [] := rfl

@[simp] theorem handled_freeing (parser : MultichunkParser) : handled parser.freeing = [] := by
  rw [freeing]
  split <;> rfl

variable {crc32 : UInt32 → List Byte → UInt32} {malloc : Malloc} {parser opened : MultichunkParser}
  {chunk : BleMsg} {hdr : MultichunkHeader} {reqApp : Byte} {chunks : List (List Byte)}
  {bytes : List Byte} {effects : List Effect}

/-- After the header stage the message is to be read as the chunk behind `chunks`. -/
structure Ready (malloc : Malloc) (parser opened : MultichunkParser) (chunk : BleMsg)
    (hdr : MultichunkHeader) (reqApp : Byte) (chunks : List (List Byte)) (effects : List Effect) : Prop where
  stage : parser.headerStage malloc chunk = .next opened 0 effects
  collecting : Collecting opened hdr reqApp chunks
  quiet : handled effects = []

theorem Collecting.ready (collecting : Collecting parser hdr reqApp chunks) (malloc : Malloc)
    (chunk : BleMsg) : Ready malloc parser parser chunk hdr reqApp chunks [] where
  stage := by
    rw [headerStage, if_neg]
    rw [collecting.state_eq]
    decide
  collecting := collecting
  quiet := rfl

theorem cleared_ready (found : readMultichunkHeader chunk = some hdr)
    (memory : (malloc hdr.totalSize).isSome) :
    ∃ opened effects, Ready malloc cleared opened chunk hdr chunk.hdr.reqApp [] effects := by
  obtain ⟨_, positive, sized, bounded⟩ := readMultichunkHeader_some found
  obtain ⟨⟨block, length⟩, given⟩ := Option.isSome_iff_exists.mp memory
  let started : MultichunkParser := { cleared with
    hdr := hdr, reqApp := chunk.hdr.reqApp, state := .readChunks, outData := some block }
  refine ⟨started, [.allocated hdr.totalSize], ?_, ?_, rfl⟩
  · rw [headerStage, if_pos (show cleared.state = .readHeader from rfl)]
    simp only [found, given, Option.map_some, Option.isNone_some, Bool.false_eq_true, if_false]
    rfl
  · exact
      { state_eq := rfl
        hdr_eq := rfl
        reqApp_eq := rfl
        id_eq := rfl
        fewer := positive
        nonempty := by simp
        readSize_eq := rfl
        less := sized
        bounded := bounded
        crc_eq := rfl
        block := ⟨block, rfl, length, rfl⟩ }

theorem Ready.extends (prepared : Ready malloc parser opened chunk hdr reqApp chunks effects)
    (crc32 : UInt32 → List Byte → UInt32) (fits : chunk.Fits)
    {head content : List Byte} (split : chunk.data = head ++ UInt8.ofNat chunks.length :: content)
    (place : head.length = if chunks.length = 0 then 5 else 0) (nonempty : content ≠ [])
    (more : chunks.length + 1 ≠ hdr.totalChunks.toNat)
    (short : content.length < hdr.totalSize - chunks.flatten.length) :
    ∃ next, parseNewChunk crc32 malloc parser (some chunk) = some (next, effects) ∧
      Collecting next hdr reqApp (chunks ++ [content]) := by
  obtain ⟨next, stage, collecting⟩ :=
    prepared.collecting.extends effects fits split place nonempty more short
  refine ⟨next, ?_, collecting⟩
  have waiting : next.state ≠ .readCrc := by
    rw [collecting.state_eq]
    decide
  simp only [parseNewChunk, prepared.stage, stage, crcStage, if_neg waiting]

theorem Ready.completes (prepared : Ready malloc parser opened chunk hdr reqApp chunks effects)
    (crc32 : UInt32 → List Byte → UInt32) (fits : chunk.Fits) {head piece tail : List Byte}
    (split : chunk.data = head ++ UInt8.ofNat chunks.length :: (piece ++ tail))
    (place : head.length = if chunks.length = 0 then 5 else 0)
    (last : chunks.length + 1 = hdr.totalChunks.toNat)
    (exact : piece.length = hdr.totalSize - chunks.flatten.length) :
    if tail.length < 4 then
      ∃ next, parseNewChunk crc32 malloc parser (some chunk) = some (next, effects) ∧
        Checking next hdr reqApp (chunks ++ [piece]) tail
    else parseNewChunk crc32 malloc parser (some chunk) = some
      (cleared, effects ++
        if tail = crcBytes (crc32 0 (chunks ++ [piece]).flatten) then
          [.handled ⟨hdr.opcode, reqApp, hdr.totalSize, (chunks ++ [piece]).flatten⟩]
        else [.freed]) := by
  obtain ⟨next, stage, checking⟩ :=
    prepared.collecting.completes effects fits split place last exact
  have length := BleMsg.data_length fits
  have total := congrArg List.length split
  simp only [List.length_append, List.length_cons] at total
  have ahead : chunk.data.drop (head.length + 1 + piece.length) = tail := by
    rw [split, ← List.drop_drop, ← List.drop_drop, List.drop_left, List.drop_one, List.tail_cons,
      List.drop_left]
  have checked := checking.stage crc32 fits (by omega) ahead effects
  simp only [parseNewChunk, prepared.stage, stage]
  exact checked

theorem Checking.parse (checking : Checking parser hdr reqApp chunks bytes)
    (crc32 : UInt32 → List Byte → UInt32) (malloc : Malloc) (fits : chunk.Fits) :
    if (bytes ++ chunk.data).length < 4 then
      ∃ next, parseNewChunk crc32 malloc parser (some chunk) = some (next, []) ∧
        Checking next hdr reqApp chunks (bytes ++ chunk.data)
    else parseNewChunk crc32 malloc parser (some chunk) = some
      (cleared,
        if bytes ++ chunk.data = crcBytes (crc32 0 chunks.flatten) then
          [.handled ⟨hdr.opcode, reqApp, hdr.totalSize, chunks.flatten⟩]
        else [.freed]) := by
  have header : parser.headerStage malloc chunk = .next parser 0 [] := by
    rw [headerStage, if_neg]
    rw [checking.state_eq]
    decide
  have collected : parser.chunkStage chunk [] = some (.next parser 0 []) := by
    rw [chunkStage, if_neg]
    rw [checking.state_eq]
    decide
  have checked := checking.stage crc32 fits (Nat.zero_le _) (List.drop_zero (l := chunk.data)) []
  simp only [parseNewChunk, header, collected]
  exact checked

theorem Ready.parse_cases (prepared : Ready malloc parser opened chunk hdr reqApp chunks effects)
    (crc32 : UInt32 → List Byte → UInt32) (fits : chunk.Fits) :
    parseNewChunk crc32 malloc parser (some chunk) = some (cleared, effects ++ [.freed]) ∨
      ∃ head content, chunk.data = head ++ UInt8.ofNat chunks.length :: content ∧
        (head.length = if chunks.length = 0 then 5 else 0) ∧ content ≠ [] ∧
        ((chunks.length + 1 ≠ hdr.totalChunks.toNat ∧
            content.length < hdr.totalSize - chunks.flatten.length) ∨
          (chunks.length + 1 = hdr.totalChunks.toNat ∧
            hdr.totalSize - chunks.flatten.length ≤ content.length)) := by
  refine (prepared.collecting.stage_cases fits effects).imp_left fun stage => ?_
  simp only [parseNewChunk, prepared.stage, stage]

end MultichunkParser

end WatchFirmware.Ble
