import WatchFirmware.Shared.Crc32
import WatchFirmware.Ble.MultichunkExact

set_option autoImplicit false

namespace WatchFirmware.Ble

open Loop

namespace MultichunkParser

variable {crc32 : UInt32 → List Byte → UInt32} {malloc : Malloc} {parser opened next : MultichunkParser}
  {chunk : BleMsg} {hdr : MultichunkHeader} {reqApp : Byte} {chunks : List (List Byte)}
  {msgs : List BleMsg} {effects : List Effect}

/-- One call of `parse_new_chunk`, with what the heap does during it. -/
structure Input where
  malloc : Malloc
  chunk : Option BleMsg

def parseAll (crc32 : UInt32 → List Byte → UInt32) :
    MultichunkParser → List Input → Option (MultichunkParser × List Effect)
  | parser, [] => some (parser, [])
  | parser, input :: rest =>
      (parseNewChunk crc32 input.malloc parser input.chunk).bind fun (next, effects) =>
        (parseAll crc32 next rest).map fun (last, more) => (last, effects ++ more)

theorem parseAll_concat {inputs : List Input} {input : Input} {last : MultichunkParser}
    (parsed : parseAll crc32 parser (inputs ++ [input]) = some (last, effects)) :
    ∃ middle early late, parseAll crc32 parser inputs = some (middle, early) ∧
      parseNewChunk crc32 input.malloc middle input.chunk = some (last, late) ∧
      effects = early ++ late := by
  induction inputs generalizing parser effects with
  | nil =>
      obtain ⟨⟨after, late⟩, first, rest⟩ := Option.bind_eq_some_iff.mp parsed
      simp only [parseAll, Option.map_some, Option.some.injEq, Prod.mk.injEq, List.append_nil] at rest
      obtain ⟨rfl, rfl⟩ := rest
      exact ⟨parser, [], late, rfl, first, rfl⟩
  | cons head tail ih =>
      obtain ⟨⟨between, first⟩, taken, rest⟩ := Option.bind_eq_some_iff.mp parsed
      obtain ⟨⟨after, more⟩, remaining, same⟩ := Option.map_eq_some_iff.mp rest
      obtain ⟨rfl, rfl⟩ := Prod.mk.inj same
      obtain ⟨middle, early, late, before, final, rfl⟩ := ih remaining
      refine ⟨middle, first ++ early, late, ?_, final, (List.append_assoc _ _ _).symm⟩
      simp only [parseAll, taken, before, Option.bind_some, Option.map_some]

inductive Progress (parser : MultichunkParser) (msgs : List BleMsg) : Prop where
  | start (reset : parser = cleared) (empty : msgs = [])
  | collecting {hdr : MultichunkHeader} {reqApp : Byte} {chunks : List (List Byte)}
      (started : chunks ≠ []) (state : Collecting parser hdr reqApp chunks)
      (bodies : msgs.map BleMsg.data =
        chunks.mapIdx (chunkBody hdr.opcode hdr.totalChunks.toNat hdr.totalSize))
      (first : (msgs.head?).map (·.hdr.reqApp) = some reqApp) (fits : ∀ msg ∈ msgs, msg.Fits)
  | checking {hdr : MultichunkHeader} {reqApp : Byte} {earlier : List (List Byte)}
      {last tail : List Byte} {parts : List (List Byte)}
      (state : Checking parser hdr reqApp (earlier ++ [last]) (tail ++ parts.flatten))
      (bodies : msgs.map BleMsg.data =
        (earlier ++ [last ++ tail]).mapIdx
          (chunkBody hdr.opcode hdr.totalChunks.toNat hdr.totalSize) ++ parts)
      (first : (msgs.head?).map (·.hdr.reqApp) = some reqApp) (fits : ∀ msg ∈ msgs, msg.Fits)

def Outcome (crc32 : UInt32 → List Byte → UInt32) (next : MultichunkParser) (msgs : List BleMsg)
    (effects : List Effect) : Prop :=
  (handled effects = [] ∧ (next = cleared ∨ Progress next msgs)) ∨
    (next = cleared ∧ ∃ transfer : Transfer, transfer.Valid crc32 ∧ transfer.CarriedBy msgs ∧
      handled effects = [transfer.delivered])

theorem fits_concat (fits : ∀ msg ∈ msgs, msg.Fits) (small : chunk.Fits) :
    ∀ msg ∈ msgs ++ [chunk], msg.Fits := by
  intro msg member
  rcases List.mem_append.mp member with early | last
  · exact fits msg early
  · rw [List.mem_singleton.mp last]
    exact small

theorem accepted {earlier : List (List Byte)} {last tail : List Byte} {parts : List (List Byte)}
    (nonempty : ∀ piece ∈ earlier ++ [last], piece ≠ [])
    (count : (earlier ++ [last]).length = hdr.totalChunks.toNat)
    (size : (earlier ++ [last]).flatten.length = hdr.totalSize)
    (bounded : hdr.totalSize ≤ bleMaxMultichunkSize)
    (crc : tail ++ parts.flatten = crcBytes (crc32 0 (earlier ++ [last]).flatten))
    (ends : parts.getLast? ≠ some [])
    (bodies : msgs.map BleMsg.data =
      (earlier ++ [last ++ tail]).mapIdx
        (chunkBody hdr.opcode hdr.totalChunks.toNat hdr.totalSize) ++ parts)
    (first : (msgs.head?).map (·.hdr.reqApp) = some reqApp) (fits : ∀ msg ∈ msgs, msg.Fits)
    (quiet : handled effects = []) :
    Outcome crc32 cleared msgs
      (effects ++ [.handled ⟨hdr.opcode, reqApp, hdr.totalSize, (earlier ++ [last]).flatten⟩]) := by
  let transfer : Transfer := ⟨hdr.opcode, reqApp, earlier, last, tail, parts⟩
  refine .inr ⟨rfl, transfer, ?_, ?_, ?_⟩
  · exact
      { nonempty := nonempty
        count := by
          have upper := hdr.totalChunks.toNat_lt
          have total : transfer.chunks.length = hdr.totalChunks.toNat := count
          omega
        size := Nat.le_trans (Nat.le_of_eq size) bounded
        crc := crc
        ends := ends }
  · refine ⟨?_, first, fits⟩
    rw [bodies, Transfer.bodies]
    simp only [Transfer.data, Transfer.chunks, transfer, count, size]
  · rw [handled_append, quiet, ← size]
    rfl

theorem Ready.outcome (prepared : Ready malloc parser opened chunk hdr reqApp chunks effects)
    (small : chunk.Fits) (fits : ∀ msg ∈ msgs, msg.Fits)
    (bodies : msgs.map BleMsg.data =
      chunks.mapIdx (chunkBody hdr.opcode hdr.totalChunks.toNat hdr.totalSize))
    (first : ((msgs ++ [chunk]).head?).map (·.hdr.reqApp) = some reqApp)
    (opens : chunks = [] →
      ∃ rest, chunk.data = multichunkPrefix hdr.opcode hdr.totalChunks.toNat hdr.totalSize ++ rest)
    {after : List Effect} (parsed : parseNewChunk crc32 malloc parser (some chunk) = some (next, after)) :
    Outcome crc32 next (msgs ++ [chunk]) after := by
  have quiet := prepared.quiet
  rcases prepared.parse_cases crc32 small with stopped | ⟨head, content, split, place, nonempty, shape⟩
  · obtain ⟨rfl, rfl⟩ := Prod.mk.inj (Option.some.inj (parsed.symm.trans stopped))
    exact .inl ⟨by simp [quiet], .inl rfl⟩
  have body : chunk.data =
      chunkBody hdr.opcode hdr.totalChunks.toNat hdr.totalSize chunks.length content := by
    rw [split, chunkBody]
    congr 1
    by_cases none : chunks.length = 0
    · obtain ⟨rest, given⟩ := opens (List.length_eq_zero_iff.mp none)
      rw [if_pos none] at place ⊢
      rw [split] at given
      exact (List.append_inj given place).1
    · rw [if_neg none] at place ⊢
      exact List.length_eq_zero_iff.mp place
  have all (piece : List Byte)
      (same : chunk.data = chunkBody hdr.opcode hdr.totalChunks.toNat hdr.totalSize chunks.length piece) :
      (msgs ++ [chunk]).map BleMsg.data =
        (chunks ++ [piece]).mapIdx (chunkBody hdr.opcode hdr.totalChunks.toNat hdr.totalSize) := by
    rw [List.mapIdx_concat, List.map_append, bodies, ← same]
    rfl
  rcases shape with ⟨more, short⟩ | ⟨last, enough⟩
  · obtain ⟨further, taken, collecting⟩ := prepared.extends crc32 small split place nonempty more short
    obtain ⟨rfl, rfl⟩ := Prod.mk.inj (Option.some.inj (parsed.symm.trans taken))
    exact .inl ⟨quiet, .inr (.collecting (by simp) collecting (all content body) first
      (fits_concat fits small))⟩
  · let piece := content.take (hdr.totalSize - chunks.flatten.length)
    let tail := content.drop (hdr.totalSize - chunks.flatten.length)
    have whole : content = piece ++ tail := (List.take_append_drop _ _).symm
    have less := prepared.collecting.less
    have exact : piece.length = hdr.totalSize - chunks.flatten.length := by
      rw [List.length_take]
      omega
    have carried := all (piece ++ tail) (by rw [← whole]; exact body)
    have completes := prepared.completes crc32 small (whole ▸ split) place last exact
    split at completes
    next =>
      obtain ⟨further, taken, checking⟩ := completes
      obtain ⟨rfl, rfl⟩ := Prod.mk.inj (Option.some.inj (parsed.symm.trans taken))
      have checked : Checking next hdr reqApp (chunks ++ [piece])
          (tail ++ ([] : List (List Byte)).flatten) := by simpa using checking
      exact .inl ⟨quiet, .inr (.checking checked (carried.trans (List.append_nil _).symm) first
        (fits_concat fits small))⟩
    next =>
      obtain ⟨rfl, rfl⟩ := Prod.mk.inj (Option.some.inj (parsed.symm.trans completes))
      by_cases equal : tail = crcBytes (crc32 0 (chunks ++ [piece]).flatten)
      · rw [if_pos equal]
        have positive : piece ≠ [] := by
          intro none
          rw [none, List.length_nil] at exact
          omega
        have size : (chunks ++ [piece]).flatten.length = hdr.totalSize := by
          rw [List.flatten_append, List.length_append, List.flatten_singleton]
          omega
        exact accepted
          (fun other member => (List.mem_append.mp member).elim (prepared.collecting.nonempty other)
            fun only => List.mem_singleton.mp only ▸ positive)
          (by rw [List.length_append, List.length_singleton, last]) size prepared.collecting.bounded
          (by simpa using equal) (by simp) (carried.trans (List.append_nil _).symm) first
          (fits_concat fits small) quiet
      · rw [if_neg equal]
        exact .inl ⟨by simp [quiet], .inl rfl⟩

theorem crc_overlong (long : ¬ chunk.Fits) {loop done : CrcLoop} (within : loop.offset ≤ bleMaxPayloadSize)
    (exits : Exits (crcBody chunk) loop done) :
    done.offset ≤ bleMaxPayloadSize ∧ done.parser.readSize = 4 ∧
      done.parser.outData = loop.parser.outData := by
  induction exits with
  | @exit state after left =>
      rw [crcBody] at left
      split at left
      next =>
        obtain ⟨_, _, same⟩ := Option.map_eq_some_iff.mp left
        cases same
      next stopped =>
        cases left
        have full : state.parser.readSize = 4 := by
          by_contra unfinished
          rw [BleMsg.Fits] at long
          exact stopped ⟨unfinished, by omega⟩
        exact ⟨within, full, rfl⟩
  | @again state middle after round _ ih =>
      rw [crcBody] at round
      split at round
      next =>
        obtain ⟨byte, found, same⟩ := Option.map_eq_some_iff.mp round
        obtain rfl := Flow.again.inj same
        have inside : state.offset < chunk.payload.length := (List.getElem?_eq_some_iff.mp found).1
        rw [chunk.payload_length] at inside
        exact ih inside
      next => cases round

theorem crcStage_overlong (long : ¬ chunk.Fits) (state : parser.state = .readCrc) {offset : Nat}
    (within : offset ≤ bleMaxPayloadSize) {after : List Effect}
    (parsed : parser.crcStage crc32 chunk offset effects = some (next, after)) :
    next = cleared ∧ handled after = handled effects := by
  rw [crcStage, if_pos state] at parsed
  obtain ⟨⟨ended, position⟩, ran, rest⟩ := Option.bind_eq_some_iff.mp parsed
  obtain ⟨bound, full, _⟩ := crc_overlong long within (exits_of_loop ran)
  have early : position ≠ chunk.size := by
    rw [BleMsg.Fits] at long
    simp only at bound
    omega
  simp only at full
  simp only [full, if_true, if_pos early, Option.some.injEq, Prod.mk.injEq] at rest
  obtain ⟨rfl, rfl⟩ := rest
  exact ⟨rfl, by simp⟩

def Stage.Quiet : Stage → Prop
  | .stop next after => next = cleared ∧ handled after = []
  | .next next offset after => next.state = .readCrc ∧ offset ≤ bleMaxPayloadSize ∧ handled after = []

theorem Collecting.overlong (collecting : Collecting parser hdr reqApp chunks) (long : ¬ chunk.Fits)
    (quiet : handled effects = []) {stage : Stage}
    (staged : parser.chunkStage chunk effects = some stage) : stage.Quiet := by
  have dropped : ∀ other : MultichunkParser, (other.drop effects).Quiet :=
    fun other => ⟨rfl, by simp [quiet]⟩
  rw [BleMsg.Fits] at long
  rw [chunkStage, if_pos collecting.state_eq] at staged
  simp only at staged
  generalize (if parser.currChunkId = 0 then 5 else 0) = offset at staged
  by_cases short : chunk.size ≤ offset + 1
  · rw [if_pos short] at staged
    exact Option.some.inj staged ▸ dropped parser
  rw [if_neg short] at staged
  by_cases past : parser.hdr.totalSize < parser.readSize
  · rw [if_pos past] at staged
    exact Option.some.inj staged ▸ dropped parser
  rw [if_neg past] at staged
  cases found : chunk.payload[offset]? with
  | none => simp [found] at staged
  | some id =>
      simp only [found] at staged
      by_cases differs : id ≠ parser.currChunkId
      · rw [if_pos differs] at staged
        exact Option.some.inj staged ▸ dropped parser
      rw [if_neg differs] at staged
      obtain ⟨bytes, read, rest⟩ := Option.bind_eq_some_iff.mp staged
      obtain ⟨block, _, copied⟩ := Option.bind_eq_some_iff.mp rest
      obtain ⟨outData, _, rfl⟩ := Option.map_eq_some_iff.mp copied
      have inside := (Memory.read_some read).1
      rw [chunk.payload_length] at inside
      -- Only the missing bytes can have been copied; the rest of the message is out of reach.
      have missing : parser.hdr.totalSize - parser.readSize < chunk.size - (offset + 1) := by
        by_contra all
        rw [if_neg all] at inside
        omega
      rw [if_pos missing] at inside ⊢
      have full : parser.readSize + (parser.hdr.totalSize - parser.readSize) = parser.hdr.totalSize := by
        omega
      by_cases last : parser.currChunkId + 1 = parser.hdr.totalChunks
      · simp only [full, last, not_true_eq_false, and_false, and_true, if_false, if_true]
        exact ⟨rfl, inside, quiet⟩
      · simp only [full, last, not_false_eq_true, and_true, if_true]
        exact dropped _

theorem Ready.overlong (prepared : Ready malloc parser opened chunk hdr reqApp chunks effects)
    (long : ¬ chunk.Fits) {after : List Effect}
    (parsed : parseNewChunk crc32 malloc parser (some chunk) = some (next, after)) :
    next = cleared ∧ handled after = [] := by
  simp only [parseNewChunk, prepared.stage] at parsed
  split at parsed
  next => cases parsed
  next stopped stage =>
    cases parsed
    exact prepared.collecting.overlong long prepared.quiet stage
  next further offset more stage =>
    obtain ⟨state, within, quiet⟩ := prepared.collecting.overlong long prepared.quiet stage
    obtain ⟨reset, same⟩ := crcStage_overlong long state within parsed
    exact ⟨reset, same.trans quiet⟩

theorem Progress.step (progress : Progress parser msgs) {after : List Effect}
    (parsed : parseNewChunk crc32 malloc parser (some chunk) = some (next, after)) :
    Outcome crc32 next (msgs ++ [chunk]) after := by
  cases progress with
  | start reset empty =>
      subst reset empty
      cases found : readMultichunkHeader chunk with
      | none =>
          simp only [parseNewChunk, headerStage, found] at parsed
          cases parsed
          exact .inl ⟨rfl, .inl rfl⟩
      | some hdr =>
          obtain ⟨opens, _⟩ := readMultichunkHeader_some found
          have small : chunk.Fits := by
            by_contra long
            rw [BleMsg.Fits] at long
            rw [readMultichunkHeader, if_pos (.inr (Nat.lt_of_not_le long))] at found
            cases found
          cases memory : malloc hdr.totalSize with
          | none =>
              simp only [parseNewChunk, headerStage, found, memory] at parsed
              cases parsed
              exact .inl ⟨rfl, .inl rfl⟩
          | some block =>
              have allocated : (malloc hdr.totalSize).isSome := by rw [memory]; rfl
              obtain ⟨opened, effects, prepared⟩ := cleared_ready found allocated
              have none_yet : ∀ msg ∈ ([] : List BleMsg), msg.Fits := List.forall_mem_nil _
              exact prepared.outcome small none_yet rfl rfl (fun _ => opens) parsed
  | collecting started state bodies first fits =>
      have prepared := state.ready malloc chunk
      by_cases small : chunk.Fits
      · refine prepared.outcome small fits bodies ?_ (fun none => absurd none started) parsed
        cases msgs with
        | nil => cases first
        | cons head rest => exact first
      · obtain ⟨rfl, quiet⟩ := prepared.overlong small parsed
        exact .inl ⟨quiet, .inl rfl⟩
  | @checking hdr reqApp earlier last tail parts state bodies first fits =>
      have head : ((msgs ++ [chunk]).head?).map (·.hdr.reqApp) = some reqApp := by
        cases msgs with
        | nil => cases first
        | cons head rest => exact first
      by_cases small : chunk.Fits
      · have sent : (msgs ++ [chunk]).map BleMsg.data =
            (earlier ++ [last ++ tail]).mapIdx
              (chunkBody hdr.opcode hdr.totalChunks.toNat hdr.totalSize) ++ (parts ++ [chunk.data]) := by
          rw [List.map_append, bodies, List.append_assoc]
          rfl
        have bytes : tail ++ parts.flatten ++ chunk.data = tail ++ (parts ++ [chunk.data]).flatten := by
          simp
        have checked := state.parse crc32 malloc small
        rw [bytes] at checked
        split at checked
        next =>
          obtain ⟨further, taken, checking⟩ := checked
          obtain ⟨rfl, rfl⟩ := Prod.mk.inj (Option.some.inj (parsed.symm.trans taken))
          exact .inl ⟨rfl, .inr (.checking checking sent head (fits_concat fits small))⟩
        next enough =>
          obtain ⟨rfl, rfl⟩ := Prod.mk.inj (Option.some.inj (parsed.symm.trans checked))
          by_cases equal : tail ++ (parts ++ [chunk.data]).flatten =
              crcBytes (crc32 0 (earlier ++ [last]).flatten)
          · rw [if_pos equal]
            have few := state.few
            have ends : (parts ++ [chunk.data]).getLast? ≠ some [] := by
              rw [List.getLast?_concat]
              intro none
              rw [← bytes, Option.some.inj none, List.append_nil] at enough
              exact enough few
            exact accepted state.nonempty state.count state.size state.bounded equal ends sent head
              (fits_concat fits small) handled_nil
          · rw [if_neg equal]
            exact .inl ⟨rfl, .inl rfl⟩
      · have header : parser.headerStage malloc chunk = .next parser 0 [] := by
          rw [headerStage, if_neg]
          rw [state.state_eq]
          decide
        have collected : parser.chunkStage chunk [] = some (.next parser 0 []) := by
          rw [chunkStage, if_neg]
          rw [state.state_eq]
          decide
        simp only [parseNewChunk, header, collected] at parsed
        obtain ⟨rfl, quiet⟩ := crcStage_overlong small state.state_eq (Nat.zero_le _) parsed
        exact .inl ⟨quiet, .inl rfl⟩

theorem parseAll_progress {inputs : List Input} (parsed : parseAll crc32 cleared inputs = some (parser, effects)) :
    ∃ dropped during msgs early, inputs = dropped ++ during ∧
      parseAll crc32 cleared dropped = some (cleared, early) ∧
      during.map Input.chunk = msgs.map some ∧ Progress parser msgs := by
  induction inputs using List.reverseRecOn generalizing parser effects with
  | nil =>
      cases parsed
      exact ⟨[], [], [], [], rfl, rfl, rfl, .start rfl rfl⟩
  | append_singleton inputs input ih =>
      have whole := parsed
      obtain ⟨middle, quiet, late, before, final, rfl⟩ := parseAll_concat parsed
      obtain ⟨dropped, during, msgs, early, rfl, reset, same, progress⟩ := ih before
      have afresh : parser = cleared → ∃ dropped' during' msgs' early',
          (dropped ++ during) ++ [input] = dropped' ++ during' ∧
            parseAll crc32 cleared dropped' = some (cleared, early') ∧
            during'.map Input.chunk = msgs'.map some ∧ Progress parser msgs' := by
        rintro rfl
        exact ⟨(dropped ++ during) ++ [input], [], [], _, (List.append_nil _).symm, whole, rfl,
          .start rfl rfl⟩
      cases given : input.chunk with
      | none =>
          rw [given] at final
          cases final
          exact afresh rfl
      | some chunk =>
          rw [given] at final
          rcases progress.step final with ⟨_, rfl | further⟩ | ⟨rfl, _⟩
          · exact afresh rfl
          · refine ⟨dropped, during ++ [input], msgs ++ [chunk], early, List.append_assoc _ _ _, reset, ?_,
              further⟩
            rw [List.map_append, List.map_append, same]
            simp [given]
          · exact afresh rfl

inductive Delivers (crc32 : UInt32 → List Byte → UInt32) :
    MultichunkParser → List Input → BleMultichunkMsg → Prop where
  | last {parser : MultichunkParser} {input : Input} {effects : List Effect} {msg : BleMultichunkMsg}
      (parsed : parseNewChunk crc32 input.malloc parser input.chunk = some (cleared, effects))
      (loud : handled effects = [msg]) : Delivers crc32 parser [input] msg
  | later {parser next : MultichunkParser} {input : Input} {rest : List Input} {effects : List Effect}
      {msg : BleMultichunkMsg}
      (parsed : parseNewChunk crc32 input.malloc parser input.chunk = some (next, effects))
      (quiet : handled effects = []) (delivers : Delivers crc32 next rest msg) :
      Delivers crc32 parser (input :: rest) msg

theorem Delivers.split {inputs : List Input} {msg : BleMultichunkMsg}
    (delivers : Delivers crc32 parser inputs msg) :
    ∃ before last middle quiet loud, inputs = before ++ [last] ∧
      parseAll crc32 parser before = some (middle, quiet) ∧ handled quiet = [] ∧
      parseNewChunk crc32 last.malloc middle last.chunk = some (cleared, loud) ∧ handled loud = [msg] := by
  induction delivers with
  | @last parser input effects msg parsed loud =>
      exact ⟨[], input, parser, [], effects, rfl, rfl, rfl, parsed, loud⟩
  | @later parser next input rest effects msg parsed silent _ ih =>
      obtain ⟨before, last, middle, quiet, loud, rfl, first, nothing, final, told⟩ := ih
      refine ⟨input :: before, last, middle, effects ++ quiet, loud, rfl, ?_, ?_, final, told⟩
      · simp only [parseAll, parsed, first, Option.bind_some, Option.map_some]
      · rw [handled_append, silent, nothing]
        rfl

theorem Checking.delivers {bytes : List Byte} (parts : List (List Byte)) (inputs : List Input)
    (msgs : List BleMsg) (checking : Checking parser hdr reqApp chunks bytes)
    (same : inputs.map Input.chunk = msgs.map some) (bodies : msgs.map BleMsg.data = parts)
    (fits : ∀ msg ∈ msgs, msg.Fits) (crc : bytes ++ parts.flatten = crcBytes (crc32 0 chunks.flatten))
    (ends : parts.getLast? ≠ some []) :
    Delivers crc32 parser inputs ⟨hdr.opcode, reqApp, hdr.totalSize, chunks.flatten⟩ := by
  have few := checking.few
  have four := congrArg List.length crc
  simp only [crcBytes, List.length_append, List.length_cons, List.length_nil] at four
  induction parts generalizing parser bytes inputs msgs with
  | nil =>
      simp only [List.flatten_nil, List.length_nil] at four
      omega
  | cons part rest ih =>
      obtain ⟨chunk, more, rfl, rfl, later⟩ := List.map_eq_cons_iff.mp bodies
      obtain ⟨input, others, rfl, given, remaining⟩ := List.map_eq_cons_iff.mp same
      have small : chunk.Fits := fits chunk List.mem_cons_self
      have parsed := checking.parse crc32 input.malloc small
      rw [← given] at parsed
      split at parsed
      next short =>
        obtain ⟨next, taken, further⟩ := parsed
        have joined : bytes ++ chunk.data ++ rest.flatten = crcBytes (crc32 0 chunks.flatten) := by
          rw [← crc, List.flatten_cons, List.append_assoc]
        refine .later taken rfl (ih others more further remaining later
          (fun msg member => fits msg (List.mem_cons_of_mem _ member)) joined ?_ short ?_)
        · cases rest with
          | nil => simp
          | cons next rest => exact ends
        · rw [← List.length_append, joined]
          rfl
      next enough =>
        -- The fourth byte is here, so nothing may follow this message.
        have none : rest = [] := by
          cases final : rest.getLast? with
          | none => exact List.getLast?_eq_none_iff.mp final
          | some last =>
              exfalso
              have member : last ∈ rest := List.mem_of_getLast? final
              have nonempty : last ≠ [] := by
                rintro rfl
                apply ends
                rw [List.getLast?_cons, final]
                rfl
              have positive := List.length_pos_iff.mpr nonempty
              have inside : last.length ≤ rest.flatten.length :=
                List.Sublist.length_le (List.sublist_flatten_of_mem member)
              simp only [List.flatten_cons, List.length_append] at four enough
              omega
        subst none
        rw [List.map_eq_nil_iff.mp later] at remaining
        rw [List.map_eq_nil_iff.mp remaining]
        rw [List.flatten_singleton] at crc
        rw [if_pos crc] at parsed
        exact .last parsed rfl

theorem Ready.delivers {last tail : List Byte} {parts : List (List Byte)} (later : List (List Byte))
    (inputs : List Input) (msgs : List BleMsg)
    (prepared : ∀ input ∈ inputs.head?, ∀ chunk, input.chunk = some chunk →
      ∃ opened effects, Ready input.malloc parser opened chunk hdr reqApp chunks effects)
    (same : inputs.map Input.chunk = msgs.map some)
    (bodies : msgs.map BleMsg.data =
      (later ++ [last ++ tail]).mapIdx
        (fun i => chunkBody hdr.opcode hdr.totalChunks.toNat hdr.totalSize (chunks.length + i)) ++ parts)
    (fits : ∀ msg ∈ msgs, msg.Fits) (nonempty : ∀ piece ∈ later ++ [last], piece ≠ [])
    (count : chunks.length + later.length + 1 = hdr.totalChunks.toNat)
    (size : (chunks ++ (later ++ [last])).flatten.length = hdr.totalSize)
    (crc : tail ++ parts.flatten = crcBytes (crc32 0 (chunks ++ (later ++ [last])).flatten))
    (ends : parts.getLast? ≠ some []) :
    Delivers crc32 parser inputs
      ⟨hdr.opcode, reqApp, hdr.totalSize, (chunks ++ (later ++ [last])).flatten⟩ := by
  induction later generalizing parser chunks inputs msgs with
  | nil =>
      simp only [List.nil_append, List.mapIdx_cons, List.mapIdx_nil, Nat.add_zero, List.length_nil,
        List.cons_append] at bodies count size crc ⊢
      obtain ⟨chunk, more, rfl, body, later⟩ := List.map_eq_cons_iff.mp bodies
      obtain ⟨input, others, rfl, given, remaining⟩ := List.map_eq_cons_iff.mp same
      obtain ⟨opened, effects, ready⟩ := prepared input rfl chunk given
      have small : chunk.Fits := fits chunk List.mem_cons_self
      have place : (if chunks.length = 0 then
          multichunkPrefix hdr.opcode hdr.totalChunks.toNat hdr.totalSize else []).length =
            if chunks.length = 0 then 5 else 0 := by
        split <;> rfl
      have exact : last.length = hdr.totalSize - chunks.flatten.length := by
        rw [List.flatten_append, List.length_append, List.flatten_singleton] at size
        omega
      have parsed := ready.completes crc32 small body place count exact
      rw [← given] at parsed
      split at parsed
      next =>
        obtain ⟨next, taken, checking⟩ := parsed
        exact .later taken ready.quiet (checking.delivers parts others more remaining later
          (fun msg member => fits msg (List.mem_cons_of_mem _ member)) crc ends)
      next enough =>
        have four := congrArg List.length crc
        simp only [crcBytes, List.length_append, List.length_cons, List.length_nil] at four
        have none : parts = [] := by
          cases final : parts.getLast? with
          | none => exact List.getLast?_eq_none_iff.mp final
          | some part =>
              exfalso
              have positive : 0 < part.length := by
                apply List.length_pos_iff.mpr
                rintro rfl
                exact ends final
              have inside : part.length ≤ parts.flatten.length :=
                List.Sublist.length_le (List.sublist_flatten_of_mem (List.mem_of_getLast? final))
              omega
        subst none
        rw [List.map_eq_nil_iff.mp later] at remaining
        rw [List.map_eq_nil_iff.mp remaining]
        rw [List.flatten_nil, List.append_nil] at crc
        rw [if_pos crc] at parsed
        exact .last parsed (by rw [handled_append, ready.quiet]; rfl)
  | cons piece rest ih =>
      simp only [List.cons_append, List.mapIdx_cons, Nat.add_zero, List.length_cons] at bodies count
      obtain ⟨chunk, more, rfl, body, later⟩ := List.map_eq_cons_iff.mp bodies
      obtain ⟨input, others, rfl, given, remaining⟩ := List.map_eq_cons_iff.mp same
      obtain ⟨opened, effects, ready⟩ := prepared input rfl chunk given
      have small : chunk.Fits := fits chunk List.mem_cons_self
      have place : (if chunks.length = 0 then
          multichunkPrefix hdr.opcode hdr.totalChunks.toNat hdr.totalSize else []).length =
            if chunks.length = 0 then 5 else 0 := by
        split <;> rfl
      have positive : 0 < last.length := List.length_pos_iff.mpr (nonempty last (by simp))
      have short : piece.length < hdr.totalSize - chunks.flatten.length := by
        simp only [List.flatten_append, List.length_append, List.cons_append, List.flatten_cons,
          List.flatten_nil, List.append_nil] at size
        omega
      obtain ⟨next, taken, collecting⟩ := ready.extends crc32 small body place
        (nonempty piece (by simp)) (by omega) short
      rw [← given] at taken
      have regroup : chunks ++ (piece :: rest ++ [last]) = (chunks ++ [piece]) ++ (rest ++ [last]) := by
        simp
      rw [regroup] at size crc ⊢
      have shifted : (fun i => chunkBody hdr.opcode hdr.totalChunks.toNat hdr.totalSize
          (chunks.length + (i + 1))) =
            fun i => chunkBody hdr.opcode hdr.totalChunks.toNat hdr.totalSize
              ((chunks ++ [piece]).length + i) := by
        funext i
        rw [List.length_append, List.length_singleton, Nat.add_assoc, Nat.add_comm 1]
      rw [shifted] at later
      refine .later taken ready.quiet (ih others more ?_ remaining later
        (fun msg member => fits msg (List.mem_cons_of_mem _ member))
        (fun other member => nonempty other (List.mem_cons_of_mem _ member)) ?_ size crc)
      · intro other _ further _
        exact ⟨next, [], collecting.ready other.malloc further⟩
      · rw [List.length_append, List.length_singleton]
        omega

theorem Transfer.header {transfer : Transfer} {others : List BleMsg} (valid : transfer.Valid crc32)
    (carried : transfer.CarriedBy (chunk :: others)) :
    readMultichunkHeader chunk =
      some ⟨transfer.opcode, UInt8.ofNat transfer.chunks.length, transfer.data.length⟩ := by
  have chunks : 0 < transfer.chunks.length := by simp [Transfer.chunks]
  have bytes : 0 < transfer.data.length := by
    have member : transfer.last ∈ transfer.chunks := by simp [Transfer.chunks]
    have positive := List.length_pos_iff.mpr (valid.nonempty _ member)
    exact Nat.lt_of_lt_of_le positive
      (List.Sublist.length_le (List.sublist_flatten_of_mem member))
  obtain ⟨piece, pieces, opening⟩ : ∃ piece pieces,
      transfer.earlier ++ [transfer.last ++ transfer.tail] = piece :: pieces :=
    List.exists_cons_of_ne_nil (by simp)
  have positive : 0 < piece.length := by
    have pieceIn := valid.nonempty
    cases earlier : transfer.earlier with
    | nil =>
        simp only [earlier, List.nil_append, List.cons.injEq] at opening
        have last := List.length_pos_iff.mpr (pieceIn transfer.last (by simp [Transfer.chunks]))
        rw [← opening.1, List.length_append]
        omega
    | cons front back =>
        simp only [earlier, List.cons_append, List.cons.injEq] at opening
        rw [← opening.1]
        exact List.length_pos_iff.mpr (pieceIn front (by simp [Transfer.chunks, earlier]))
  have body : chunk.data = multichunkPrefix transfer.opcode transfer.chunks.length
      transfer.data.length ++ UInt8.ofNat 0 :: piece := by
    have bodies := carried.bodies_eq
    rw [Transfer.bodies, opening] at bodies
    simp only [List.map_cons, List.mapIdx_cons, List.cons_append, List.cons.injEq] at bodies
    rw [bodies.1]
    rfl
  exact readMultichunkHeader_prefix (carried.fits chunk List.mem_cons_self) body
    (by simp only [List.length_cons]; omega) chunks valid.count bytes valid.size

theorem Transfer.delivers {transfer : Transfer} (valid : transfer.Valid crc32)
    (carried : transfer.CarriedBy msgs) {inputs : List Input}
    (same : inputs.map Input.chunk = msgs.map some)
    (memory : ∀ input ∈ inputs.head?, (input.malloc transfer.data.length).isSome) :
    Delivers crc32 cleared inputs transfer.delivered := by
  let hdr : MultichunkHeader :=
    ⟨transfer.opcode, UInt8.ofNat transfer.chunks.length, transfer.data.length⟩
  have few := valid.count
  have count : hdr.totalChunks.toNat = transfer.chunks.length := by
    simp only [hdr, UInt8.toNat_ofNat']
    omega
  have bodies : msgs.map BleMsg.data =
      (transfer.earlier ++ [transfer.last ++ transfer.tail]).mapIdx
        (fun i => chunkBody hdr.opcode hdr.totalChunks.toNat hdr.totalSize
          (([] : List (List Byte)).length + i)) ++ transfer.parts := by
    rw [carried.bodies_eq, Transfer.bodies]
    simp [count, hdr]
  have prepared : ∀ input ∈ inputs.head?, ∀ chunk, input.chunk = some chunk →
      ∃ opened effects, Ready input.malloc cleared opened chunk hdr transfer.reqApp [] effects := by
    intro input first chunk given
    obtain ⟨head, rest, rfl⟩ : ∃ head rest, msgs = head :: rest := by
      cases msgs with
      | nil =>
          have none := carried.reqApp_eq
          cases none
      | cons head rest => exact ⟨head, rest, rfl⟩
    obtain ⟨starting, others, rfl, found, _⟩ := List.map_eq_cons_iff.mp same
    obtain rfl := Option.some.inj first
    obtain rfl := Option.some.inj (given.symm.trans found)
    obtain ⟨opened, effects, ready⟩ := cleared_ready (Transfer.header valid carried) (memory starting rfl)
    have reqApp : chunk.hdr.reqApp = transfer.reqApp := Option.some.inj carried.reqApp_eq
    rw [reqApp] at ready
    exact ⟨opened, effects, ready⟩
  have total : ([] : List (List Byte)).length + transfer.earlier.length + 1 =
      hdr.totalChunks.toNat := by
    rw [count, Transfer.chunks, List.length_append]
    simp
  exact Ready.delivers transfer.earlier inputs msgs prepared same bodies carried.fits valid.nonempty
    total rfl valid.crc valid.ends

/-- Whatever the handler is called with was carried by the messages since the parser was cleared. -/
theorem handled_carried {inputs : List Input} {last : Input} {middle : MultichunkParser}
    {late : List Effect} {msg : BleMultichunkMsg}
    (parsed : parseAll crc32 cleared inputs = some (middle, effects))
    (final : parseNewChunk crc32 last.malloc middle last.chunk = some (next, late))
    (told : msg ∈ handled late) :
    ∃ dropped during msgs early transfer, inputs = dropped ++ during ∧
      parseAll crc32 cleared dropped = some (cleared, early) ∧
      (during ++ [last]).map Input.chunk = msgs.map some ∧ Transfer.Valid crc32 transfer ∧
      transfer.CarriedBy msgs ∧ msg = transfer.delivered ∧ next = cleared := by
  obtain ⟨dropped, during, msgs, early, rfl, reset, same, progress⟩ := parseAll_progress parsed
  cases given : last.chunk with
  | none =>
      rw [given] at final
      cases final
      rw [handled_freeing] at told
      cases told
  | some chunk =>
      rw [given] at final
      rcases progress.step final with ⟨quiet, _⟩ | ⟨rfl, transfer, valid, carried, only⟩
      · rw [quiet] at told
        cases told
      · rw [only, List.mem_singleton] at told
        refine ⟨dropped, during, msgs ++ [chunk], early, transfer, rfl, reset, ?_, valid, carried, told, rfl⟩
        rw [List.map_append, List.map_append, same]
        simp [given]

/-- The messages of a valid transfer call the handler once, with the last of them; and nothing else
calls it. -/
theorem parseNewChunk_exact (crc32 : UInt32 → List Byte → UInt32) :
    (∀ (transfer : Transfer) (msgs : List BleMsg) (inputs : List Input), transfer.Valid crc32 →
      transfer.CarriedBy msgs → inputs.map Input.chunk = msgs.map some →
      (∀ input ∈ inputs, ∀ size, (input.malloc size).isSome) →
      ∃ before last middle quiet loud, inputs = before ++ [last] ∧
        parseAll crc32 cleared before = some (middle, quiet) ∧ handled quiet = [] ∧
        parseNewChunk crc32 last.malloc middle last.chunk = some (cleared, loud) ∧
        handled loud = [transfer.delivered]) ∧
    (∀ (inputs : List Input) (last : Input) (middle next : MultichunkParser) (effects late : List Effect)
      (msg : BleMultichunkMsg), parseAll crc32 cleared inputs = some (middle, effects) →
      parseNewChunk crc32 last.malloc middle last.chunk = some (next, late) → msg ∈ handled late →
      ∃ dropped during msgs early transfer, inputs = dropped ++ during ∧
        parseAll crc32 cleared dropped = some (cleared, early) ∧
        (during ++ [last]).map Input.chunk = msgs.map some ∧ Transfer.Valid crc32 transfer ∧
        transfer.CarriedBy msgs ∧ msg = transfer.delivered ∧ next = cleared) := by
  constructor
  · intro transfer msgs inputs valid carried same memory
    exact (Transfer.delivers valid carried same
      (fun input first => memory input (List.mem_of_mem_head? first) _)).split
  · intro inputs last middle next effects late msg parsed final told
    exact handled_carried parsed final told

def splitTransfer : Transfer := ⟨2, 7, [[1, 2]], [3], [0x55], [[0xBC, 0x80], [], [0x1D]]⟩

def splitMsgs : List BleMsg :=
  [.make 0xF0 7 [bleMultichunkMagic, 2, 2, 0, 3, 0, 1, 2] (by decide),
    .make 0xF0 8 [1, 3, 0x55] (by decide), .make 0xF0 9 [0xBC, 0x80] (by decide),
    .make 0xF0 7 [] BleMsg.nil_fits, .make 0xF0 7 [0x1D] (by decide)]

theorem parseNewChunk_split :
    let malloc : Malloc := fun size => some ⟨List.replicate size 0, List.length_replicate⟩
    ∃ before last middle quiet loud, (splitMsgs.map fun msg => ⟨malloc, some msg⟩) = before ++ [last] ∧
      parseAll Crc32.checksum cleared before = some (middle, quiet) ∧ handled quiet = [] ∧
      parseNewChunk Crc32.checksum last.malloc middle last.chunk = some (cleared, loud) ∧
      handled loud = [⟨2, 7, 3, [1, 2, 3]⟩] := by
  intro malloc
  have valid : splitTransfer.Valid Crc32.checksum :=
    ⟨by decide, by decide, by decide, by decide +kernel, by decide +kernel⟩
  have carried : splitTransfer.CarriedBy splitMsgs := ⟨by decide, by decide, by decide⟩
  have delivered := (parseNewChunk_exact Crc32.checksum).1 splitTransfer splitMsgs
    (splitMsgs.map fun msg => ⟨malloc, some msg⟩) valid carried rfl (by
      intro input member size
      obtain ⟨msg, _, rfl⟩ := List.mem_map.mp member
      rfl)
  exact delivered

end MultichunkParser

end WatchFirmware.Ble
