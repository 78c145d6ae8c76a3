import WatchFirmware.Shared.Loop
import WatchFirmware.UartOta.UartOta

set_option autoImplicit false

namespace WatchFirmware.UartOta

open Loop

variable (crc32 : List Byte → UInt32)

structure Sending where
  host : Host
  replies : Nat

def Sending.start (file : List Byte) : Sending := ⟨(Host.start file).nextBlock crc32, 0⟩

/-- One write of a part of the payload, or one read of a reply. -/
def sendPass (responses : Nat → Option Byte) (run : Sending) : Option (Flow Sending) :=
  match run.host.pc with
  | .sending => some (.again { run with host := run.host.written })
  | .response =>
      (run.host.hears crc32 (responses run.replies)).map fun host =>
        .again { host, replies := run.replies + 1 }
  | .negotiate | .finalResponse | .closed => some (.exit run)

def isAnswer (response : Option Byte) : Bool := response = some cmdAck || response = some cmdNack

def answers (heard : List (Option Byte)) : List (Option Byte) := heard.filter isAnswer

/-- So many ACKs, or three NACKs with no ACK between them. -/
def Decides (blocks : Nat) (heard : List (Option Byte)) : Prop :=
  blocks ≤ (answers heard).count (some cmdAck) ∨
    List.replicate maxRetries (some cmdNack) <:+: answers heard

inductive Progress where
  | sending (blocks retries : Nat)
  | delivered
  | givenUp
  deriving DecidableEq, Repr

namespace Progress

def finished : Progress → Bool
  | sending _ _ => false
  | delivered | givenUp => true

def opening (blocks : Nat) : Progress := if blocks = 0 then delivered else sending blocks 0

def hear : Progress → Option Byte → Progress
  | sending blocks retries, response =>
      if response = some cmdAck then opening (blocks - 1)
      else if response = some cmdNack then
        if maxRetries ≤ retries + 1 then givenUp else sending blocks (retries + 1)
      else sending blocks retries
  | done, _ => done

def hearAll (progress : Progress) (heard : List (Option Byte)) : Progress := heard.foldl hear progress

theorem finished_hearAll {progress : Progress} (finished : progress.finished = true)
    (heard : List (Option Byte)) : progress.hearAll heard = progress := by
  induction heard with
  | nil => rfl
  | cons response rest ih =>
      have same : progress.hear response = progress := by
        cases progress with
        | sending => contradiction
        | delivered | givenUp => rfl
      rw [hearAll, List.foldl_cons, same]
      exact ih

theorem hearAll_append (progress : Progress) (heard more : List (Option Byte)) :
    progress.hearAll (heard ++ more) = (progress.hearAll heard).hearAll more := List.foldl_append ..

theorem row_broken {retries : Nat} (few : retries < maxRetries) (later : List (Option Byte)) :
    List.replicate maxRetries (some cmdNack) <:+: List.replicate retries (some cmdNack) ++ some cmdAck :: later ↔
      List.replicate maxRetries (some cmdNack) <:+: later := by
  have differ : cmdNack ≠ cmdAck := by decide
  simp only [maxRetries] at few
  have row : List.replicate maxRetries (some cmdNack) = [some cmdNack, some cmdNack, some cmdNack] := rfl
  rw [row]
  interval_cases retries
  next => simp [List.infix_cons_iff, List.cons_prefix_cons, differ]
  next => simp [List.replicate_succ, List.infix_cons_iff, List.cons_prefix_cons, differ]
  next => simp [List.replicate_succ, List.infix_cons_iff, List.cons_prefix_cons, differ]

theorem short_row {retries : Nat} (few : retries < maxRetries) :
    ¬List.replicate maxRetries (some cmdNack) <:+: List.replicate retries (some cmdNack) := by
  intro inside
  have length := inside.length_le
  rw [List.length_replicate, List.length_replicate] at length
  omega

theorem hearAll_finished_iff (heard : List (Option Byte)) {blocks retries : Nat} (some_left : blocks ≠ 0)
    (few : retries < maxRetries) :
    ((sending blocks retries).hearAll heard).finished = true ↔
      blocks ≤ (answers heard).count (some cmdAck) ∨
        List.replicate maxRetries (some cmdNack) <:+:
          List.replicate retries (some cmdNack) ++ answers heard := by
  induction heard generalizing blocks retries with
  | nil =>
      have unfinished : ((sending blocks retries).hearAll []).finished = false := rfl
      rw [unfinished]
      apply iff_of_false Bool.noConfusion
      rintro (acknowledged | refused)
      next => exact some_left (Nat.le_zero.mp acknowledged)
      next =>
        rw [answers, List.filter_nil, List.append_nil] at refused
        exact short_row few refused
  | cons response rest ih =>
      have step : (sending blocks retries).hearAll (response :: rest) =
          ((sending blocks retries).hear response).hearAll rest := rfl
      rw [step]
      by_cases acknowledged : response = some cmdAck
      next =>
        subst acknowledged
        have heardNow : answers (some cmdAck :: rest) = some cmdAck :: answers rest := rfl
        have heard : (sending blocks retries).hear (some cmdAck) = opening (blocks - 1) := rfl
        rw [heardNow, heard, row_broken few, List.count_cons_self, opening]
        split
        next last =>
          apply iff_of_true
          next =>
            rw [finished_hearAll rfl]
            rfl
          next =>
            left
            omega
        next more =>
          rw [ih more (by decide), List.replicate_zero, List.nil_append]
          have count : blocks - 1 ≤ (answers rest).count (some cmdAck) ↔
              blocks ≤ (answers rest).count (some cmdAck) + 1 := by omega
          rw [count]
      next =>
        by_cases refused : response = some cmdNack
        next =>
          subst refused
          have heardNow : answers (some cmdNack :: rest) = some cmdNack :: answers rest := rfl
          have heard : (sending blocks retries).hear (some cmdNack) =
              if maxRetries ≤ retries + 1 then givenUp else sending blocks (retries + 1) := rfl
          have row : List.replicate retries (some cmdNack) ++ some cmdNack :: answers rest =
              List.replicate (retries + 1) (some cmdNack) ++ answers rest := by
            rw [List.replicate_succ', List.append_assoc]
            rfl
          have count : (some cmdNack :: answers rest).count (some cmdAck) = (answers rest).count (some cmdAck) :=
            List.count_cons_of_ne (by decide)
          rw [heardNow, heard, row, count]
          split
          next third =>
            apply iff_of_true
            next =>
              rw [finished_hearAll rfl]
              rfl
            next =>
              have all : retries + 1 = maxRetries := by omega
              rw [all]
              exact .inr (List.prefix_append _ _).isInfix
          next less => exact ih some_left (by omega)
        next =>
          have heardNow : answers (response :: rest) = answers rest := by
            simp [answers, isAnswer, acknowledged, refused]
          have heard : (sending blocks retries).hear response = sending blocks retries := by
            simp [hear, acknowledged, refused]
          rw [heardNow, heard]
          exact ih some_left few

theorem opening_finished_iff (blocks : Nat) (heard : List (Option Byte)) :
    ((opening blocks).hearAll heard).finished = true ↔ Decides blocks heard := by
  unfold opening Decides
  split
  next nothing =>
    apply iff_of_true
    next =>
      rw [finished_hearAll rfl]
      rfl
    next =>
      left
      omega
  next some_left =>
    rw [hearAll_finished_iff heard some_left (by decide), List.replicate_zero, List.nil_append]

end Progress

def Host.progress (host : Host) : Progress :=
  match host.pc with
  | .negotiate | .sending | .response =>
      .sending (blockCount (host.file.length - host.bytesSent)) host.retryCount
  | .finalResponse => .delivered
  | .closed => .givenUp

structure Host.InLoop (file : List Byte) (host : Host) : Prop where
  source : host.file = file
  started : host.pc ≠ .negotiate
  within : host.bytesSent ≤ file.length
  waiting : host.pc = .sending ∨ host.pc = .response →
    host.bytesSent < file.length ∧ host.retryCount < maxRetries
  delivered : host.pc = .finalResponse → host.bytesSent = file.length
  givenUp : host.pc = .closed → host.retryCount = maxRetries

section Host

variable {crc32} {file : List Byte} {host : Host}

theorem Host.chunk_length (host : Host) :
    host.chunk.length = min payloadSize (host.file.length - host.bytesSent) := by
  rw [Host.chunk, List.length_take, List.length_drop]

theorem Host.InLoop.transmit (same : host.file = file) (more : host.bytesSent < file.length)
    (patient : host.retryCount < maxRetries) : (host.transmit crc32).InLoop file := by
  constructor
  case source => exact same
  case started => exact HostPc.noConfusion
  case within => exact Nat.le_of_lt more
  case waiting => exact fun _ => ⟨more, patient⟩
  case delivered => exact HostPc.noConfusion
  case givenUp => exact HostPc.noConfusion

theorem Host.nextBlock_inLoop (same : host.file = file) (within : host.bytesSent ≤ file.length) :
    (host.nextBlock crc32).InLoop file ∧
      (host.nextBlock crc32).progress = .opening (blockCount (file.length - host.bytesSent)) := by
  have length := host.chunk_length
  rw [same] at length
  unfold Host.nextBlock
  by_cases drained : host.chunk = []
  next =>
    rw [drained, List.length_nil] at length
    have all : host.bytesSent = file.length := by
      simp only [payloadSize] at length
      omega
    have nothing : file.length - host.bytesSent = 0 := by omega
    rw [if_pos drained, nothing]
    refine ⟨?_, rfl⟩
    constructor
    case source => exact same
    case started => exact HostPc.noConfusion
    case within => exact within
    case waiting => exact fun waiting => waiting.elim HostPc.noConfusion HostPc.noConfusion
    case delivered => exact fun _ => all
    case givenUp => exact HostPc.noConfusion
  next =>
    have filled := List.length_pos_iff.mpr drained
    have more : host.bytesSent < file.length := by omega
    rw [if_neg drained]
    refine ⟨@Host.InLoop.transmit crc32 file { host with retryCount := 0 } same more (Nat.succ_pos 2), ?_⟩
    have blocks : blockCount (file.length - host.bytesSent) ≠ 0 := by
      simp only [blockCount, payloadSize]
      omega
    rw [Progress.opening, if_neg blocks, ← same]
    rfl

theorem Host.InLoop.hears (inLoop : host.InLoop file) (waiting : host.pc = .response)
    (response : Option Byte) :
    (host.blockResponse crc32 response).InLoop file ∧
      (host.blockResponse crc32 response).progress = host.progress.hear response := by
  obtain ⟨more, patient⟩ := inLoop.waiting (.inr waiting)
  have same := inLoop.source
  have length := host.chunk_length
  rw [same] at length
  have before : host.progress = .sending (blockCount (file.length - host.bytesSent)) host.retryCount := by
    unfold Host.progress
    rw [waiting, same]
  rw [before, Host.blockResponse, Progress.hear]
  by_cases acknowledged : response = some cmdAck
  next =>
    have sent : host.bytesSent + host.chunk.length ≤ file.length := by omega
    have left : blockCount (file.length - host.bytesSent) - 1 =
        blockCount (file.length - (host.bytesSent + host.chunk.length)) := by
      simp only [blockCount, payloadSize] at length ⊢
      omega
    rw [if_pos acknowledged, if_pos acknowledged, left]
    exact @Host.nextBlock_inLoop crc32 file { host with bytesSent := host.bytesSent + host.chunk.length } same
      sent
  next =>
    rw [if_neg acknowledged, if_neg acknowledged]
    by_cases refused : response = some cmdNack
    next =>
      rw [if_pos refused, if_pos refused, Host.refused]
      split
      next third =>
        refine ⟨?_, rfl⟩
        constructor
        case source => exact same
        case started => exact HostPc.noConfusion
        case within => exact inLoop.within
        case waiting => exact fun waiting => waiting.elim HostPc.noConfusion HostPc.noConfusion
        case delivered => exact HostPc.noConfusion
        case givenUp => exact fun _ => Nat.le_antisymm patient third
      next less =>
        refine ⟨@Host.InLoop.transmit crc32 file { host with retryCount := host.retryCount + 1 }
          same more (Nat.lt_of_not_le less), ?_⟩
        rw [← same]
        rfl
    next =>
      rw [if_neg refused, if_neg refused]
      refine ⟨Host.InLoop.transmit same more patient, ?_⟩
      rw [← same]
      rfl

end Host

def heard (responses : Nat → Option Byte) (count : Nat) : List (Option Byte) :=
  (List.range count).map responses

structure Sending.Follows (file : List Byte) (responses : Nat → Option Byte) (run : Sending) : Prop where
  inLoop : run.host.InLoop file
  progress : run.host.progress = (Progress.opening (blockCount file.length)).hearAll (heard responses run.replies)

def Sending.Left (run : Sending) : Prop := run.host.pc = .finalResponse ∨ run.host.pc = .closed

section Run

variable {crc32} {file : List Byte} {responses : Nat → Option Byte} {run : Sending}

theorem start_follows : (Sending.start crc32 file).Follows file responses := by
  obtain ⟨inLoop, progress⟩ := @Host.nextBlock_inLoop crc32 file (Host.start file) rfl (Nat.zero_le _)
  exact ⟨inLoop, progress⟩

theorem Sending.Follows.written (follows : run.Follows file responses) (sending : run.host.pc = .sending) :
    Sending.Follows file responses { run with host := run.host.written } := by
  obtain ⟨more, patient⟩ := follows.inLoop.waiting (.inl sending)
  have before := follows.progress
  have same := follows.inLoop.source
  have either : run.host.written.pc = .response ∨ run.host.written.pc = .sending := by
    unfold Host.written
    by_cases rest : run.host.unsent.drop Host.writeSize = [] <;> simp [rest]
  constructor
  case inLoop =>
    constructor
    case source => exact same
    case started => obtain now | now := either <;> simp [now]
    case within => exact follows.inLoop.within
    case waiting => exact fun _ => ⟨more, patient⟩
    case delivered => obtain now | now := either <;> simp [now]
    case givenUp => obtain now | now := either <;> simp [now]
  case progress =>
    have unchanged : run.host.written.progress = run.host.progress := by
      unfold Host.progress
      rw [sending]
      obtain now | now := either <;> rw [now] <;> rfl
    rw [unchanged]
    exact before

theorem Sending.Follows.heard (follows : run.Follows file responses) (waiting : run.host.pc = .response) :
    Sending.Follows file responses
      ⟨run.host.blockResponse crc32 (responses run.replies), run.replies + 1⟩ := by
  obtain ⟨inLoop, progress⟩ := @Host.InLoop.hears crc32 file run.host follows.inLoop waiting (responses run.replies)
  refine ⟨inLoop, ?_⟩
  rw [progress, follows.progress, UartOta.heard, UartOta.heard, List.range_succ, List.map_append,
    Progress.hearAll_append]
  rfl

theorem sendPass_sending (sending : run.host.pc = .sending) :
    sendPass crc32 responses run = some (.again { run with host := run.host.written }) := by
  unfold sendPass
  rw [sending]

theorem sendPass_response (waiting : run.host.pc = .response) :
    sendPass crc32 responses run =
      some (.again ⟨run.host.blockResponse crc32 (responses run.replies), run.replies + 1⟩) := by
  unfold sendPass Host.hears
  simp only [waiting, Option.map_some]

theorem sendPass_left (left : run.Left) : sendPass crc32 responses run = some (.exit run) := by
  unfold sendPass
  obtain pc | pc := left <;> rw [pc]

theorem Sending.Follows.pc_cases (follows : run.Follows file responses) :
    run.host.pc = .sending ∨ run.host.pc = .response ∨ run.Left := by
  have started := follows.inLoop.started
  unfold Sending.Left
  cases pc : run.host.pc with
  | negotiate => exact (started pc).elim
  | sending | response | finalResponse | closed => simp

theorem Sending.Follows.finished (follows : run.Follows file responses) :
    run.host.progress.finished = true ↔ run.Left := by
  obtain pc | pc | left := follows.pc_cases
  next => simp [Host.progress, Progress.finished, Sending.Left, pc]
  next => simp [Host.progress, Progress.finished, Sending.Left, pc]
  next => obtain pc | pc := left <;> simp [Host.progress, Progress.finished, Sending.Left, pc]

theorem exits_follows {after : Sending} (exits : Exits (sendPass crc32 responses) run after)
    (follows : run.Follows file responses) : after.Follows file responses ∧ after.Left := by
  induction exits with
  | exit left =>
      obtain pc | pc | done := follows.pc_cases
      next =>
        rw [sendPass_sending pc] at left
        cases left
      next =>
        rw [sendPass_response pc] at left
        cases left
      next =>
        rw [sendPass_left done] at left
        cases left
        exact ⟨follows, done⟩
  | again round _ ih =>
      obtain pc | pc | done := follows.pc_cases
      next =>
        rw [sendPass_sending pc] at round
        cases round
        exact ih (follows.written pc)
      next =>
        rw [sendPass_response pc] at round
        cases round
        exact ih (follows.heard pc)
      next =>
        rw [sendPass_left done] at round
        cases round

theorem exits_written {goal : Sending → Prop}
    (answered : ∀ run : Sending, run.Follows file responses → run.host.pc = .response → goal run)
    (further : ∀ run : Sending, run.host.pc = .sending → goal { run with host := run.host.written } → goal run)
    (follows : run.Follows file responses) (sending : run.host.pc = .sending) : goal run := by
  generalize size : run.host.unsent.length = count
  induction count using Nat.strongRecOn generalizing run with
  | _ count ih =>
      apply further run sending
      have next := follows.written sending
      by_cases rest : run.host.unsent.drop Host.writeSize = []
      next => exact answered _ next (by simp [Host.written, rest])
      next =>
        have remains := List.length_pos_iff.mpr rest
        rw [List.length_drop] at remains
        have shorter : (run.host.unsent.drop Host.writeSize).length < count := by
          simp only [Host.writeSize, List.length_drop] at remains ⊢
          omega
        exact ih _ shorter next (by simp [Host.written, rest]) rfl

theorem exits_of_finished {enough : Nat}
    (finished : ((Progress.opening (blockCount file.length)).hearAll (heard responses enough)).finished = true)
    (follows : run.Follows file responses) : ∃ after, Exits (sendPass crc32 responses) run after := by
  generalize left : enough - run.replies = count
  induction count using Nat.strongRecOn generalizing run with
  | _ count ih =>
      have answered (run : Sending) (follows : run.Follows file responses) (waiting : run.host.pc = .response)
          (fewer : enough - run.replies ≤ count) : ∃ after, Exits (sendPass crc32 responses) run after := by
        -- a host still waiting has not heard the replies that decide
        have before : run.replies < enough := by
          by_contra all
          have split : heard responses run.replies = heard responses enough ++
              (List.range (run.replies - enough)).map (fun i => responses (enough + i)) := by
            have total : run.replies = enough + (run.replies - enough) := by omega
            rw [heard, total, List.range_add, List.map_append, List.map_map, Nat.add_sub_cancel_left]
            rfl
          have progress := follows.progress
          rw [split, Progress.hearAll_append, Progress.finished_hearAll finished] at progress
          rw [← progress, follows.finished] at finished
          obtain pc | pc := finished <;> rw [waiting] at pc <;> contradiction
        have next := @Sending.Follows.heard crc32 file responses run follows waiting
        obtain ⟨after, exits⟩ := ih (enough - (run.replies + 1)) (by omega) next rfl
        exact ⟨after, .again (sendPass_response waiting) exits⟩
      obtain pc | pc | done := follows.pc_cases
      next =>
        have goal := @exits_written file responses run
          (fun run => enough - run.replies ≤ count → ∃ after, Exits (sendPass crc32 responses) run after)
          (fun run follows waiting => answered run follows waiting)
          (fun run sending rest fewer => by
            obtain ⟨after, exits⟩ := rest fewer
            exact ⟨after, .again (sendPass_sending sending) exits⟩)
          follows pc
        exact goal (Nat.le_of_eq left)
      next => exact answered run follows pc (Nat.le_of_eq left)
      next => exact ⟨run, .exit (sendPass_left done)⟩

def Sending.Settled (file : List Byte) (run : Sending) : Prop :=
  run.host.pc = .finalResponse ∧ run.host.bytesSent = file.length ∨
    run.host.pc = .closed ∧ run.host.retryCount = maxRetries

/-- The block send loop comes to its end just where the replies decide it. -/
theorem sendLoop_ends_iff (crc32 : List Byte → UInt32) (file : List Byte) (responses : Nat → Option Byte) :
    (∃ fuel after, loop (sendPass crc32 responses) fuel (Sending.start crc32 file) = some after ∧
        after.Settled file) ↔
      ∃ count, Decides (blockCount file.length) (heard responses count) := by
  constructor
  next =>
    rintro ⟨fuel, after, done, _⟩
    obtain ⟨follows, left⟩ := exits_follows (exits_of_loop done) start_follows
    have finished := follows.finished.mpr left
    rw [follows.progress, Progress.opening_finished_iff] at finished
    exact ⟨after.replies, finished⟩
  next =>
    rintro ⟨count, decides⟩
    have finished := (Progress.opening_finished_iff _ _).mpr decides
    obtain ⟨after, exits⟩ := @exits_of_finished crc32 file responses _ count finished start_follows
    obtain ⟨follows, left⟩ := exits_follows exits start_follows
    obtain ⟨fuel, done⟩ := loop_of_some_exits exits
    refine ⟨fuel, after, done, ?_⟩
    obtain pc | pc := left
    next => exact .inl ⟨pc, follows.inLoop.delivered pc⟩
    next => exact .inr ⟨pc, follows.inLoop.givenUp pc⟩

/-- A device that falls silent keeps the host in the loop for one block. -/
theorem silent_device_never_ends :
    ¬∃ fuel after, loop (sendPass crc32Le fun _ => none) fuel (Sending.start crc32Le [0xE9]) = some after := by
  rintro ⟨fuel, after, ran⟩
  obtain ⟨follows, left⟩ := exits_follows (exits_of_loop ran) start_follows
  have finished := follows.finished.mpr left
  rw [follows.progress, Progress.opening_finished_iff] at finished
  have nothing : answers (heard (fun _ => none) after.replies) = [] := by
    simp [answers, heard, isAnswer]
  rw [Decides, nothing] at finished
  obtain few | row := finished
  next => exact absurd few (by decide)
  next => exact absurd row.length_le (by decide)

end Run

end WatchFirmware.UartOta
