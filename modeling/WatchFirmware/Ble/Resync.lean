import WatchFirmware.Ble.MultichunkRun

set_option autoImplicit false

namespace WatchFirmware.Ble

abbrev bleOpMultichunkSend : Byte := 0xF0

theorem chunkBody_length (opcode : Byte) (count size id : Nat) (piece : List Byte) :
    (chunkBody opcode count size id piece).length = (if id = 0 then 5 else 0) + piece.length + 1 := by
  rw [chunkBody]
  split <;> simp [multichunkPrefix]; omega

theorem chunkBodies_length (opcode : Byte) (count size first : Nat) (pieces : List (List Byte)) :
    (pieces.mapIdx fun i => chunkBody opcode count size (first + i)).flatten.length =
      (if first = 0 ∧ pieces ≠ [] then 5 else 0) + pieces.length + pieces.flatten.length := by
  induction pieces generalizing first with
  | nil => simp
  | cons piece rest ih =>
      have shifted : (fun i => chunkBody opcode count size (first + (i + 1))) =
          fun i => chunkBody opcode count size (first + 1 + i) := by
        funext i
        rw [Nat.add_assoc, Nat.add_comm 1]
      have later := ih (first + 1)
      rw [if_neg (fun zero => Nat.succ_ne_zero first zero.1)] at later
      rw [List.mapIdx_cons, List.flatten_cons, List.length_append, shifted, later, chunkBody_length,
        List.flatten_cons, List.length_append, List.length_cons]
      by_cases zero : first = 0
      · rw [if_pos (show first + 0 = 0 from zero), if_pos ⟨zero, List.cons_ne_nil _ _⟩]
        omega
      · rw [if_neg (show first + 0 ≠ 0 from zero), if_neg (fun both => zero both.1)]
        omega

namespace Transfer

variable {crc32 : UInt32 → List Byte → UInt32} {transfer outer inner : Transfer}

def chunkBodies (transfer : Transfer) : List (List Byte) :=
  (transfer.earlier ++ [transfer.last ++ transfer.tail]).mapIdx
    (chunkBody transfer.opcode transfer.chunks.length transfer.data.length)

theorem bodies_eq (transfer : Transfer) : transfer.bodies = transfer.chunkBodies ++ transfer.parts := rfl

theorem chunkBodies_count (transfer : Transfer) :
    transfer.chunkBodies.length = transfer.chunks.length := by
  simp [chunkBodies, chunks]

theorem Valid.checksum_length (valid : transfer.Valid crc32) :
    transfer.tail.length + transfer.parts.flatten.length = 4 := by
  rw [← List.length_append, valid.crc]
  rfl

theorem Valid.bodies_length (valid : transfer.Valid crc32) :
    transfer.bodies.flatten.length = transfer.chunks.length + transfer.data.length + 9 := by
  have checksum := valid.checksum_length
  have chunked := chunkBodies_length transfer.opcode transfer.chunks.length transfer.data.length 0
    (transfer.earlier ++ [transfer.last ++ transfer.tail])
  rw [if_pos ⟨rfl, List.concat_ne_nil _ _⟩] at chunked
  simp only [Nat.zero_add] at chunked
  rw [bodies_eq, List.flatten_append, List.length_append, chunkBodies, chunked]
  simp only [chunks, data, List.length_append, List.flatten_append, List.flatten_singleton,
    List.length_singleton]
  omega

theorem Valid.pieces_nonempty (valid : transfer.Valid crc32) :
    ∀ piece ∈ transfer.earlier ++ [transfer.last ++ transfer.tail], piece ≠ [] := by
  intro piece member
  rcases List.mem_append.mp member with early | final
  · exact valid.nonempty piece (List.mem_append_left _ early)
  · rw [List.mem_singleton.mp final]
    intro none
    exact valid.nonempty transfer.last (by simp [chunks]) (List.append_eq_nil_iff.mp none).1

theorem chunkBodies_get {id : Nat} {body : List Byte} (found : transfer.chunkBodies[id]? = some body) :
    ∃ piece ∈ transfer.earlier ++ [transfer.last ++ transfer.tail],
      body = chunkBody transfer.opcode transfer.chunks.length transfer.data.length id piece := by
  rw [chunkBodies, List.getElem?_mapIdx] at found
  obtain ⟨piece, given, same⟩ := Option.map_eq_some_iff.mp found
  exact ⟨piece, List.mem_of_getElem? given, same.symm⟩

theorem Valid.chunkBody_two (valid : transfer.Valid crc32) :
    ∀ body ∈ transfer.chunkBodies, 2 ≤ body.length := by
  intro body member
  obtain ⟨id, found⟩ := List.mem_iff_getElem?.mp member
  obtain ⟨piece, piece_mem, rfl⟩ := chunkBodies_get found
  have positive := List.length_pos_iff.mpr (valid.pieces_nonempty piece piece_mem)
  rw [chunkBody_length]
  omega

theorem Valid.bodies_open (valid : transfer.Valid crc32) :
    ∃ opening, transfer.bodies[0]? = some (bleMultichunkMagic :: opening) ∧ 6 ≤ opening.length := by
  -- a transfer opens with the magic byte, in a message no checksum part is as long as
  obtain ⟨body, found⟩ : ∃ body, transfer.chunkBodies[0]? = some body := by
    apply Option.isSome_iff_exists.mp
    simp [chunkBodies]
  obtain ⟨piece, member, rfl⟩ := chunkBodies_get found
  have positive := List.length_pos_iff.mpr (valid.pieces_nonempty piece member)
  have inside : 0 < transfer.chunkBodies.length := by simp [chunkBodies]
  obtain ⟨opening, same⟩ : ∃ opening, chunkBody transfer.opcode transfer.chunks.length
      transfer.data.length 0 piece = bleMultichunkMagic :: opening := ⟨_, rfl⟩
  have length := congrArg List.length same
  rw [chunkBody_length, if_pos rfl, List.length_cons] at length
  refine ⟨opening, ?_, by omega⟩
  rw [bodies_eq, List.getElem?_append_left inside, found, same]

theorem Valid.data_ne_nested (outerValid : outer.Valid crc32) (innerValid : inner.Valid crc32)
    {skipped : List (List Byte)} (nested : outer.bodies = skipped ++ inner.bodies)
    (behind : skipped ≠ []) : outer.data ≠ inner.data := by
  -- one transfer behind part of another: its first message would be the chunk with the magic byte as its
  -- id, and there are not enough ids for the bytes before it
  intro same
  obtain ⟨opening, opens, long⟩ := innerValid.bodies_open
  have total := congrArg (fun bodies => bodies.flatten.length) nested
  simp only [List.flatten_append, List.length_append, outerValid.bodies_length,
    innerValid.bodies_length, same] at total
  have few := outerValid.count
  have positive := List.length_pos_iff.mpr behind
  have place : outer.bodies[skipped.length]? = some (bleMultichunkMagic :: opening) := by
    rw [nested, List.getElem?_append_right (Nat.le_refl _), Nat.sub_self, opens]
  rw [bodies_eq] at place nested
  by_cases chunk : skipped.length < outer.chunkBodies.length
  · rw [List.getElem?_append_left chunk] at place
    obtain ⟨piece, _, body⟩ := chunkBodies_get place
    rw [chunkBody, if_neg (by omega), List.nil_append, List.cons.injEq] at body
    have id : skipped.length = 185 := by
      have value := congrArg UInt8.toNat body.1
      have magic : bleMultichunkMagic.toNat = 185 := rfl
      rw [UInt8.toNat_ofNat', magic] at value
      rw [chunkBodies_count] at chunk
      omega
    have before : skipped = outer.chunkBodies.take skipped.length := by
      have cut := congrArg (List.take skipped.length) nested
      rw [List.take_left, List.take_append_of_le_length (Nat.le_of_lt chunk)] at cut
      exact cut.symm
    have bytes : skipped.length * 2 ≤ skipped.flatten.length := by
      rw [List.length_flatten, ← List.length_map (f := List.length), ← smul_eq_mul]
      apply List.card_nsmul_le_sum
      intro length member
      obtain ⟨body, inside, rfl⟩ := List.mem_map.mp member
      rw [before] at inside
      exact outerValid.chunkBody_two body (List.mem_of_mem_take inside)
    omega
  · rw [List.getElem?_append_right (Nat.le_of_not_lt chunk)] at place
    have part := List.Sublist.length_le (List.sublist_flatten_of_mem (List.mem_of_getElem? place))
    have checksum := outerValid.checksum_length
    rw [List.length_cons] at part
    omega

end Transfer

namespace MultichunkParser

variable {crc32 : UInt32 → List Byte → UInt32} {parser middle next : MultichunkParser}
  {history inputs more : List Input} {transfer : Transfer} {msgs : List BleMsg}
  {effects : List Effect} {msg : BleMultichunkMsg}

theorem parseAll_append : parseAll crc32 parser (inputs ++ more) =
    (parseAll crc32 parser inputs).bind fun (middle, early) =>
      (parseAll crc32 middle more).map fun (last, late) => (last, early ++ late) := by
  induction inputs generalizing parser with
  | nil =>
      simp only [List.nil_append, parseAll, Option.bind_some]
      cases parseAll crc32 parser more <;> rfl
  | cons input rest ih =>
      simp only [List.cons_append, parseAll, ih]
      cases parseNewChunk crc32 input.malloc parser input.chunk with
      | none => rfl
      | some first =>
          simp only [Option.bind_some]
          cases parseAll crc32 first.1 rest with
          | none => rfl
          | some between =>
              simp only [Option.bind_some, Option.map_some]
              cases parseAll crc32 between.1 more with
              | none => rfl
              | some final => simp only [Option.map_some, List.append_assoc]

/-- The last of these calls has the handler called with `msg`. -/
def Hands (crc32 : UInt32 → List Byte → UInt32) (parser : MultichunkParser) (inputs : List Input)
    (msg : BleMultichunkMsg) : Prop :=
  ∃ before last middle next early late, inputs = before ++ [last] ∧
    parseAll crc32 parser before = some (middle, early) ∧
    parseNewChunk crc32 last.malloc middle last.chunk = some (next, late) ∧ msg ∈ handled late

theorem Hands.carried (hands : Hands crc32 parser inputs msg)
    (reached : parseAll crc32 cleared history = some (parser, effects)) :
    ∃ dropped during msgs early transfer, history ++ inputs = dropped ++ during ∧
      parseAll crc32 cleared dropped = some (cleared, early) ∧
      during.map Input.chunk = msgs.map some ∧ during ≠ [] ∧ Transfer.Valid crc32 transfer ∧
      transfer.CarriedBy msgs ∧ msg = transfer.delivered := by
  obtain ⟨before, last, middle, next, early, late, rfl, parsed, final, told⟩ := hands
  have whole : parseAll crc32 cleared (history ++ before) = some (middle, effects ++ early) := by
    rw [parseAll_append, reached, Option.bind_some]
    simp only [parsed, Option.map_some]
  obtain ⟨dropped, during, msgs, first, transfer, split, reset, same, valid, carried, equal, _⟩ :=
    handled_carried whole final told
  refine ⟨dropped, during ++ [last], msgs, first, transfer, ?_, reset, same, List.concat_ne_nil _ _, valid,
    carried, equal⟩
  rw [← List.append_assoc, split, List.append_assoc]

theorem bodies_behind {front : List Input} {others : List BleMsg} {other : Transfer}
    (carried : transfer.CarriedBy msgs) (same : inputs.map Input.chunk = msgs.map some)
    (around : other.CarriedBy others) (whole : (front ++ inputs).map Input.chunk = others.map some) :
    ∃ skipped, other.bodies = skipped ++ transfer.bodies ∧ skipped.length = front.length := by
  rw [List.map_append] at whole
  obtain ⟨early, late, rfl, fronts, backs⟩ := List.map_eq_append_iff.mp whole.symm
  obtain rfl : late = msgs :=
    (List.map_injective_iff.mpr (Option.some_injective _)) (backs.trans same)
  refine ⟨early.map BleMsg.data, ?_, ?_⟩
  · rw [← around.bodies_eq, ← carried.bodies_eq, List.map_append]
  · have lengths := congrArg List.length fronts
    simpa using lengths

theorem Hands.from_cleared (hands : Hands crc32 parser inputs transfer.delivered)
    (reached : parseAll crc32 cleared history = some (parser, effects)) (valid : transfer.Valid crc32)
    (carried : transfer.CarriedBy msgs) (same : inputs.map Input.chunk = msgs.map some) :
    parser = cleared := by
  obtain ⟨dropped, during, others, early, other, split, reset, spanned, _, otherValid, around, equal⟩ :=
    hands.carried reached
  have data : transfer.data = other.data := congrArg BleMultichunkMsg.data equal
  rcases List.append_eq_append_iff.mp split with ⟨inside, rfl, rfl⟩ | ⟨started, rfl, rfl⟩
  · obtain ⟨skipped, nested, length⟩ := bodies_behind around spanned carried same
    cases inside with
    | nil =>
        rw [List.append_nil] at reset
        rw [reached] at reset
        exact congrArg Prod.fst (Option.some.inj reset)
    | cons =>
        have behind : skipped ≠ [] := by
          rintro rfl
          cases length
        exact absurd data (valid.data_ne_nested otherValid nested behind)
  · obtain ⟨skipped, nested, length⟩ := bodies_behind carried same around spanned
    cases started with
    | nil =>
        rw [List.append_nil] at reached
        rw [reached] at reset
        exact congrArg Prod.fst (Option.some.inj reset)
    | cons =>
        have behind : skipped ≠ [] := by
          rintro rfl
          cases length
        exact absurd data.symm (otherValid.data_ne_nested valid nested behind)

theorem Hands.allocated (hands : Hands crc32 cleared inputs transfer.delivered)
    (valid : transfer.Valid crc32) (carried : transfer.CarriedBy msgs)
    (same : inputs.map Input.chunk = msgs.map some) :
    ∀ first ∈ inputs.head?, (first.malloc transfer.data.length).isSome := by
  -- without a block for its data a transfer is dropped, and its other messages carry nothing
  intro first head
  by_contra failed
  obtain ⟨rest, rfl⟩ := List.head?_eq_some_iff.mp head
  obtain ⟨chunk, others, rfl, given, remaining⟩ := List.map_eq_cons_iff.mp same.symm
  have dropped : parseNewChunk crc32 first.malloc cleared first.chunk = some (cleared, []) := by
    rw [Option.not_isSome_iff_eq_none] at failed
    simp only [← given, parseNewChunk, headerStage, Transfer.header valid carried, failed]
    rfl
  obtain ⟨before, last, middle, next, early, late, split, parsed, final, told⟩ := hands
  cases before with
  | nil =>
      obtain ⟨rfl, rfl⟩ := List.cons.inj split
      cases parsed
      obtain ⟨rfl, rfl⟩ := Prod.mk.inj (Option.some.inj (final.symm.trans dropped))
      cases told
  | cons start before =>
      obtain ⟨rfl, rfl⟩ := List.cons.inj split
      simp only [parseAll, dropped, Option.bind_some] at parsed
      obtain ⟨⟨ended, further⟩, remaining, equal⟩ := Option.map_eq_some_iff.mp parsed
      obtain ⟨rfl, rfl⟩ := Prod.mk.inj equal
      have later : Hands crc32 cleared (before ++ [last]) transfer.delivered :=
        ⟨before, last, ended, next, further, late, rfl, remaining, final, told⟩
      obtain ⟨front, during, msgs, _, other, apart, _, spanned, _, otherValid, around, equal⟩ :=
        later.carried (show parseAll crc32 cleared [] = some (cleared, []) from rfl)
      rw [List.nil_append] at apart
      have sent : ((first :: front) ++ during).map Input.chunk = (chunk :: others).map some := by
        rw [List.cons_append, ← apart]
        exact same
      obtain ⟨skipped, nested, length⟩ := bodies_behind around spanned carried sent
      have behind : skipped ≠ [] := by
        rintro rfl
        cases length
      exact valid.data_ne_nested otherValid nested behind (congrArg BleMultichunkMsg.data equal)

theorem waiting_iff_cleared (reached : parseAll crc32 cleared history = some (parser, effects)) :
    parser.state = .readHeader ↔ parser = cleared := by
  constructor
  · intro waiting
    obtain ⟨_, _, _, _, _, _, _, progress⟩ := parseAll_progress reached
    cases progress with
    | start reset => exact reset
    | collecting _ state => cases waiting.symm.trans state.state_eq
    | checking state => cases waiting.symm.trans state.state_eq
  · intro reset
    rw [reset]
    rfl

inductive Arrival where
  | message (malloc : Malloc) (msg : BleMsg)
  | disconnected

def arrive (crc32 : UInt32 → List Byte → UInt32) (parser : MultichunkParser) :
    Arrival → Option (MultichunkParser × List Effect)
  | .message malloc msg =>
      if msg.hdr.opcode = bleOpMultichunkSend then parseNewChunk crc32 malloc parser (some msg)
      else some (parser, [])
  -- The disconnect handler resets what has come in of a packet. Nothing resets this parser.
  | .disconnected => some (parser, [])

def arriveAll (crc32 : UInt32 → List Byte → UInt32) :
    MultichunkParser → List Arrival → Option (MultichunkParser × List Effect)
  | parser, [] => some (parser, [])
  | parser, arrival :: rest =>
      (arrive crc32 parser arrival).bind fun (next, effects) =>
        (arriveAll crc32 next rest).map fun (last, more) => (last, effects ++ more)

def Arrival.input : Arrival → Option Input
  | .message malloc msg => if msg.hdr.opcode = bleOpMultichunkSend then some ⟨malloc, some msg⟩ else none
  | .disconnected => none

def Arrival.chunk (arrival : Arrival) : Option BleMsg := arrival.input.bind Input.chunk

def Arrival.Allocates (arrival : Arrival) (size : Nat) : Prop :=
  ∀ input ∈ arrival.input, (input.malloc size).isSome

theorem arriveAll_eq (arrivals : List Arrival) :
    arriveAll crc32 parser arrivals = parseAll crc32 parser (arrivals.filterMap Arrival.input) := by
  induction arrivals generalizing parser with
  | nil => rfl
  | cons arrival rest ih =>
      have ignored : (some (parser, [])).bind (fun (next, effects) =>
          (arriveAll crc32 next rest).map fun (last, more) => (last, effects ++ more)) =
            parseAll crc32 parser (rest.filterMap Arrival.input) := by
        rw [← ih]
        simp
      cases arrival with
      | disconnected => exact ignored
      | message malloc msg =>
          by_cases multichunk : msg.hdr.opcode = bleOpMultichunkSend
          · simp only [arriveAll, arrive, if_pos multichunk, ih, List.filterMap_cons, Arrival.input,
              parseAll]
          · simp only [arriveAll, arrive, if_neg multichunk, List.filterMap_cons, Arrival.input]
            exact ignored

/-- The last of these arrivals has the handler called with `msg`. -/
def Handed (crc32 : UInt32 → List Byte → UInt32) (parser : MultichunkParser) (arrivals : List Arrival)
    (msg : BleMultichunkMsg) : Prop :=
  ∃ before last middle next early late, arrivals = before ++ [last] ∧
    arriveAll crc32 parser before = some (middle, early) ∧
    arrive crc32 middle last = some (next, late) ∧ msg ∈ handled late

theorem arrive_input {arrival : Arrival} {input : Input} (given : arrival.input = some input) :
    arrive crc32 parser arrival = parseNewChunk crc32 input.malloc parser input.chunk := by
  cases arrival with
  | disconnected => cases given
  | message malloc msg =>
      rw [Arrival.input] at given
      split at given
      next multichunk =>
        cases given
        rw [arrive, if_pos multichunk]
      next => cases given

theorem handed_iff {arrivals : List Arrival} (all : ∀ arrival ∈ arrivals, arrival.input.isSome) :
    Handed crc32 parser arrivals msg ↔ Hands crc32 parser (arrivals.filterMap Arrival.input) msg := by
  constructor
  · intro ⟨before, last, middle, next, early, late, split, parsed, final, told⟩
    subst split
    obtain ⟨input, given⟩ := Option.isSome_iff_exists.mp (all last (by simp))
    rw [arriveAll_eq] at parsed
    rw [arrive_input given] at final
    refine ⟨before.filterMap Arrival.input, input, middle, next, early, late, ?_, parsed, final, told⟩
    simp [given]
  · intro ⟨before, last, middle, next, early, late, split, parsed, final, told⟩
    rcases List.eq_nil_or_concat arrivals with rfl | ⟨front, arrival, rfl⟩
    · simp at split
    · obtain ⟨input, given⟩ := Option.isSome_iff_exists.mp (all arrival (by simp))
      rw [List.concat_eq_append, List.filterMap_append, List.filterMap_cons_some given,
        List.filterMap_nil] at split
      obtain ⟨rfl, only⟩ := List.append_inj' split rfl
      obtain rfl := List.singleton_inj.mp only
      refine ⟨front, arrival, middle, next, early, late, List.concat_eq_append, ?_, ?_, told⟩
      · rw [arriveAll_eq]
        exact parsed
      · rw [arrive_input given]
        exact final

end MultichunkParser

def Transfer.SentBy (transfer : Transfer) (arrivals : List MultichunkParser.Arrival) : Prop :=
  ∃ msgs, arrivals.map MultichunkParser.Arrival.chunk = msgs.map some ∧ transfer.CarriedBy msgs

namespace MultichunkParser

variable {crc32 : UInt32 → List Byte → UInt32} {transfer : Transfer} {msgs : List BleMsg}

theorem arrival_inputs {arrivals : List Arrival} (sent : arrivals.map Arrival.chunk = msgs.map some) :
    (∀ arrival ∈ arrivals, arrival.input.isSome) ∧
      (arrivals.filterMap Arrival.input).map Input.chunk = msgs.map some := by
  induction arrivals generalizing msgs with
  | nil => exact ⟨by simp, sent⟩
  | cons arrival rest ih =>
      obtain ⟨chunk, others, rfl, given, later⟩ := List.map_eq_cons_iff.mp sent.symm
      obtain ⟨all, chunks⟩ := ih later.symm
      obtain ⟨input, found, inner⟩ := Option.bind_eq_some_iff.mp given.symm
      refine ⟨?_, ?_⟩
      · intro other member
        rcases List.mem_cons.mp member with rfl | member
        · rw [found]
          rfl
        · exact all other member
      · rw [List.filterMap_cons_some found, List.map_cons, inner, chunks, List.map_cons]

/-- A transfer is handed on with its last message exactly when no other is unfinished at its first. -/
theorem resynchronised_iff (crc32 : UInt32 → List Byte → UInt32) (history arrivals : List Arrival)
    (transfer : Transfer) (parser : MultichunkParser) (effects : List Effect)
    (reached : arriveAll crc32 cleared history = some (parser, effects))
    (valid : transfer.Valid crc32) (sent : transfer.SentBy arrivals) :
    Handed crc32 parser arrivals transfer.delivered ↔
      parser.state = .readHeader ∧
        ∀ first ∈ arrivals.head?, first.Allocates transfer.data.length := by
  obtain ⟨msgs, chunks, carried⟩ := sent
  obtain ⟨all, same⟩ := arrival_inputs chunks
  rw [arriveAll_eq] at reached
  rw [handed_iff all, waiting_iff_cleared reached]
  have heads : (∀ first ∈ arrivals.head?, first.Allocates transfer.data.length) ↔
      ∀ first ∈ (arrivals.filterMap Arrival.input).head?,
        (first.malloc transfer.data.length).isSome := by
    cases arrivals with
    | nil => simp
    | cons arrival rest =>
        obtain ⟨input, given⟩ := Option.isSome_iff_exists.mp (all arrival List.mem_cons_self)
        rw [List.filterMap_cons_some given]
        simp [Arrival.Allocates, given]
  rw [heads]
  constructor
  · intro hands
    obtain rfl := hands.from_cleared reached valid carried same
    exact ⟨rfl, hands.allocated valid carried same⟩
  · intro ⟨waiting, memory⟩
    subst waiting
    obtain ⟨before, last, middle, quiet, loud, split, parsed, _, final, told⟩ :=
      (Transfer.delivers valid carried same memory).split
    refine ⟨before, last, middle, cleared, quiet, loud, split, parsed, final, ?_⟩
    rw [told]
    exact List.mem_singleton_self _

def freshMemory : Malloc := fun size => some ⟨List.replicate size 0, List.length_replicate⟩

def splitArrivals : List Arrival := splitMsgs.map (.message freshMemory)

theorem splitArrivals_sent : splitTransfer.SentBy splitArrivals := by
  refine ⟨splitMsgs, ?_, ⟨by decide, by decide, by decide⟩⟩
  rw [splitArrivals, List.map_map]
  apply List.map_congr_left
  intro msg member
  have multichunk : ∀ msg ∈ splitMsgs, msg.hdr.opcode = bleOpMultichunkSend := by decide
  simp [Arrival.chunk, Arrival.input, multichunk msg member]

theorem splitTransfer_valid : splitTransfer.Valid Crc32.checksum :=
  ⟨by decide, by decide, by decide, by decide +kernel, by decide +kernel⟩

theorem splitArrivals_allocate : ∀ arrival ∈ splitArrivals, ∀ size, arrival.Allocates size := by
  intro arrival member size input given
  obtain ⟨msg, _, rfl⟩ := List.mem_map.mp member
  rw [Arrival.input] at given
  split at given <;> cases given
  rfl

theorem resynchronised_after_split :
    Handed Crc32.checksum cleared splitArrivals splitTransfer.delivered := by
  have reached : arriveAll Crc32.checksum cleared (splitArrivals ++ [Arrival.disconnected]) =
      some (cleared, [Effect.allocated 3, Effect.handled ⟨2, 7, 3, [1, 2, 3]⟩]) := by decide +kernel
  have memory : ∀ first ∈ splitArrivals.head?, first.Allocates splitTransfer.data.length := by
    intro first head
    exact splitArrivals_allocate first (List.mem_of_mem_head? head) _
  have handed := resynchronised_iff Crc32.checksum _ splitArrivals splitTransfer cleared _ reached
    splitTransfer_valid splitArrivals_sent
  exact handed.mpr ⟨rfl, memory⟩

/-- The connection ends behind the first of the two chunks, and the transfer is sent again: the parser
still waits for the second chunk, and drops its first message and then all the others. -/
theorem abandoned_transfer_drops_next :
    ∃ parser effects, arriveAll Crc32.checksum cleared (splitArrivals.take 1 ++ [.disconnected]) =
        some (parser, effects) ∧
      splitTransfer.Valid Crc32.checksum ∧ splitTransfer.SentBy splitArrivals ∧
      (∀ arrival ∈ splitArrivals, ∀ size, arrival.Allocates size) ∧
      ∃ last after, arriveAll Crc32.checksum parser splitArrivals = some (last, after) ∧
        handled after = [] := by
  refine ⟨⟨.readChunks, ⟨2, 2, 3⟩, 1, 7, 2, 0, some [1, 2, 0]⟩, [.allocated 3], by decide +kernel,
    splitTransfer_valid, splitArrivals_sent, splitArrivals_allocate, cleared, [.freed], ?_, rfl⟩
  decide +kernel

end MultichunkParser

end WatchFirmware.Ble
