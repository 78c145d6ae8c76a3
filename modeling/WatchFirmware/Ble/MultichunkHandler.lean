import WatchFirmware.Shared.Loop
import WatchFirmware.Shared.Memory
import WatchFirmware.Ble.Types

set_option autoImplicit false

namespace WatchFirmware.Ble

open Loop

inductive ParserState where
  | readHeader
  | readChunks
  | readCrc
  | invalid
  deriving DecidableEq, Repr

structure MultichunkHeader where
  opcode : Byte
  totalChunks : Byte
  totalSize : Nat
  deriving DecidableEq, Repr

structure MultichunkParser where
  state : ParserState
  hdr : MultichunkHeader
  currChunkId : Byte
  reqApp : Byte
  readSize : Nat
  crc : UInt32
  outData : Option (List Byte)
  deriving DecidableEq, Repr

structure BleMultichunkMsg where
  opcode : Byte
  reqApp : Byte
  len : Nat
  data : List Byte
  deriving DecidableEq, Repr

-- The heap calls and the handler call of one parse_new_chunk, in order.
inductive Effect where
  | allocated (size : Nat)
  | freed
  | handled (msg : BleMultichunkMsg)
  deriving DecidableEq, Repr

/-- What `malloc` may answer: no block, or one of the size asked for with any bytes in it. -/
abbrev Malloc := (size : Nat) → Option { block : List Byte // block.length = size }

namespace MultichunkParser

def cleared : MultichunkParser := ⟨.readHeader, ⟨0, 0, 0⟩, 0, 0, 0, 0, none⟩

def freeing (parser : MultichunkParser) : List Effect := if parser.outData.isSome then [.freed] else []

def resetMultichunkParser (parser : MultichunkParser) : MultichunkParser × List Effect :=
  (cleared, parser.freeing)

inductive Stage where
  | stop (parser : MultichunkParser) (effects : List Effect)
  | next (parser : MultichunkParser) (offset : Nat) (effects : List Effect)

def drop (parser : MultichunkParser) (effects : List Effect) : Stage :=
  .stop cleared (effects ++ parser.freeing)

-- Where the source fails with fields already written, its caller resets the parser.
def readMultichunkHeader (msg : BleMsg) : Option MultichunkHeader :=
  if msg.size ≤ 6 ∨ bleMaxPayloadSize < msg.size then none
  else
    match msg.payload[0]?, msg.payload[1]?, msg.payload[2]?, msg.payload[3]?, msg.payload[4]? with
    | some magic, some opcode, some totalChunks, some high, some low =>
        let totalSize := high.toNat * 2 ^ 8 + low.toNat
        if magic ≠ bleMultichunkMagic then none
        else if totalChunks = 0 ∨ totalSize = 0 then none
        else if bleMaxMultichunkSize < totalSize then none
        else some ⟨opcode, totalChunks, totalSize⟩
    | _, _, _, _, _ => none

def headerStage (malloc : Malloc) (chunk : BleMsg) (parser : MultichunkParser) : Stage :=
  if parser.state = .readHeader then
    match readMultichunkHeader chunk with
    | none => parser.drop []
    | some hdr =>
        let started := { parser with
          hdr := hdr
          reqApp := chunk.hdr.reqApp
          state := .readChunks
          outData := (malloc hdr.totalSize).map Subtype.val }
        if started.outData.isNone then started.drop parser.freeing
        else .next started 0 (parser.freeing ++ [.allocated hdr.totalSize])
  else .next parser 0 []

/-- `none` when a copy would leave the payload or the assembled block. -/
def chunkStage (chunk : BleMsg) (parser : MultichunkParser) (effects : List Effect) : Option Stage :=
  if parser.state = .readChunks then
    -- The first chunk stands behind the five bytes of the multichunk header.
    let chunkOffset := if parser.currChunkId = 0 then 5 else 0
    if chunk.size ≤ chunkOffset + 1 then some (parser.drop effects)
    else if parser.hdr.totalSize < parser.readSize then some (parser.drop effects)
    else
      let available := chunk.size - (chunkOffset + 1)
      let missing := parser.hdr.totalSize - parser.readSize
      let chunkLength := if missing < available then missing else available
      match chunk.payload[chunkOffset]? with
      | none => none
      | some id =>
          if id ≠ parser.currChunkId then some (parser.drop effects)
          else
            (Memory.read chunk.payload (chunkOffset + 1) chunkLength).bind fun bytes =>
              parser.outData.bind fun block =>
                (Memory.write block parser.readSize bytes).map fun outData =>
                  let copied := { parser with
                    outData := some outData
                    readSize := parser.readSize + chunkLength
                    currChunkId := parser.currChunkId + 1 }
                  let sizeDone := copied.readSize = copied.hdr.totalSize
                  let chunksDone := copied.currChunkId = copied.hdr.totalChunks
                  if sizeDone ∧ ¬ chunksDone then copied.drop effects
                  else if chunksDone ∧ ¬ sizeDone then copied.drop effects
                  else if chunksDone ∧ sizeDone then
                    .next { copied with state := .readCrc, readSize := 0 } (chunkOffset + 1 + chunkLength) effects
                  else .next copied (chunkOffset + 1 + chunkLength) effects
  else some (.next parser 0 effects)

structure CrcLoop where
  parser : MultichunkParser
  offset : Nat

def crcBody (chunk : BleMsg) (loop : CrcLoop) : Option (Flow CrcLoop) :=
  if loop.parser.readSize ≠ 4 ∧ loop.offset < chunk.size then
    (chunk.payload[loop.offset]?).map fun byte =>
      .again
        { offset := loop.offset + 1
          parser := { loop.parser with
            crc := loop.parser.crc ||| byte.toUInt32 <<< UInt32.ofNat ((3 - loop.parser.readSize) * 8)
            readSize := loop.parser.readSize + 1 } }
  else some (.exit loop)

def crcStage (crc32 : UInt32 → List Byte → UInt32) (chunk : BleMsg) (parser : MultichunkParser)
    (offset : Nat) (effects : List Effect) : Option (MultichunkParser × List Effect) :=
  if parser.state = .readCrc then
    (loop (crcBody chunk) (chunk.size + 1) ⟨parser, offset⟩).bind fun ⟨parser, offset⟩ =>
      if parser.readSize = 4 then
        if offset ≠ chunk.size then some (cleared, effects ++ parser.freeing)
        else
          parser.outData.map fun outData =>
            if crc32 0 (outData.take parser.hdr.totalSize) ≠ parser.crc then
              (cleared, effects ++ parser.freeing)
            else
              -- The handler owns the block from here, so the reset frees nothing.
              (cleared, effects ++
                [.handled ⟨parser.hdr.opcode, parser.reqApp, parser.hdr.totalSize, outData⟩])
      else some (parser, effects)
  else some (parser, effects)

/-- `esp_rom_crc32_le` is the parameter `crc32`; a null `chunk` asks for a reset. -/
def parseNewChunk (crc32 : UInt32 → List Byte → UInt32) (malloc : Malloc) (parser : MultichunkParser)
    (chunk : Option BleMsg) : Option (MultichunkParser × List Effect) :=
  match chunk with
  | none => some parser.resetMultichunkParser
  | some chunk =>
      match parser.headerStage malloc chunk with
      | .stop parser effects => some (parser, effects)
      | .next parser _ effects =>
          match parser.chunkStage chunk effects with
          | none => none
          | some (.stop parser effects) => some (parser, effects)
          | some (.next parser offset effects) => parser.crcStage crc32 chunk offset effects

end MultichunkParser

end WatchFirmware.Ble
