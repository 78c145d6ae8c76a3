import WatchFirmware.Common.RingBuffer
import WatchFirmware.Ble.Types

set_option autoImplicit false

namespace WatchFirmware.Ble

open Common

/-- One of the two message rings; `add_ble_msg_to_queue` lets only messages that fit get in. -/
structure BleFifo where
  ring : RingBuffer BleMsg
  capacity_eq : ring.capacity = bleFifoSize
  policy_eq : ring.overflowPolicy = .dropOldest
  fits : ∀ msg ∈ ring.contents, msg.Fits

namespace BleFifo

def contents (fifo : BleFifo) : List BleMsg := fifo.ring.contents

def init (storage : List BleMsg) (size : storage.length = bleFifoSize) : BleFifo where
  ring := ⟨storage, 0, 0, 0, .dropOldest, size ▸ (by decide), Nat.zero_le _, by simp⟩
  capacity_eq := size
  policy_eq := rfl
  fits := by simp [RingBuffer.contents]

theorem push_fits (fifo : BleFifo) {msg : BleMsg} (small : msg.Fits) :
    ∀ x ∈ (fifo.ring.ringbufPush msg).2.contents, x.Fits := by
  intro x member
  rw [(RingBuffer.push_dropOldest _ _ fifo.policy_eq).2.1] at member
  rcases BoundedQueue.mem_offer member with old | rfl
  · exact fifo.fits x old
  · exact small

def push (fifo : BleFifo) (msg : BleMsg) (small : msg.Fits) : BleFifo where
  ring := (fifo.ring.ringbufPush msg).2
  capacity_eq := (RingBuffer.push_dropOldest _ _ fifo.policy_eq).2.2.1.trans fifo.capacity_eq
  policy_eq := (RingBuffer.push_dropOldest _ _ fifo.policy_eq).2.2.2
  fits := fifo.push_fits small

theorem push_contents (fifo : BleFifo) (msg : BleMsg) (small : msg.Fits) :
    (fifo.push msg small).contents = BoundedQueue.offer bleFifoSize fifo.contents msg := by
  rw [← fifo.capacity_eq]
  exact (RingBuffer.push_dropOldest _ _ fifo.policy_eq).2.1

def pop (fifo : BleFifo) : Option (BleMsg × BleFifo) :=
  match popped : fifo.ring.ringbufPop with
  | none => none
  | some (msg, rest) =>
      some (msg,
        { ring := rest
          capacity_eq := (RingBuffer.pop_some popped).2.1.trans fifo.capacity_eq
          policy_eq := (RingBuffer.pop_some popped).2.2.trans fifo.policy_eq
          fits := fun x member => fifo.fits x (by
            rw [(RingBuffer.pop_some popped).1]
            exact List.mem_cons_of_mem _ member) })

theorem pop_none {fifo : BleFifo} (empty : fifo.contents = []) : fifo.pop = none := by
  have nothing := (RingBuffer.pop_none_iff _).mpr empty
  unfold pop
  split
  next => rfl
  next popped => simp [nothing] at popped

theorem pop_cons {fifo : BleFifo} {msg : BleMsg} {rest : List BleMsg}
    (waiting : fifo.contents = msg :: rest) :
    ∃ after, fifo.pop = some (msg, after) ∧ after.contents = rest := by
  unfold pop
  split
  next popped =>
    have empty := (RingBuffer.pop_none_iff _).mp popped
    rw [contents, empty] at waiting
    cases waiting
  next head after popped =>
    have front := (RingBuffer.pop_some popped).1
    rw [contents, front] at waiting
    obtain ⟨rfl, same⟩ := List.cons.inj waiting
    exact ⟨_, rfl, same⟩

end BleFifo

def emptyMsg : BleMsg := .make 0 0 [] BleMsg.nil_fits

def emptyFifo : BleFifo := .init (List.replicate bleFifoSize emptyMsg) (by decide)

structure BleFifos where
  txFifo : BleFifo
  rxFifo : BleFifo

def getFifo (fifos : BleFifos) : BleCommType → BleFifo
  | .tx => fifos.txFifo
  | .rx => fifos.rxFifo

def setFifo (fifos : BleFifos) (fifo : BleFifo) : BleCommType → BleFifos
  | .tx => { fifos with txFifo := fifo }
  | .rx => { fifos with rxFifo := fifo }

def addBleMsgToQueue (fifos : BleFifos) (msg : BleMsg) (type : BleCommType) : Bool × BleFifos :=
  if small : msg.Fits then
    (true, setFifo fifos ((getFifo fifos type).push msg small) type)
  else (false, fifos)

def getNextBleMsg (fifos : BleFifos) (type : BleCommType) : Option (BleMsg × BleFifos) :=
  ((getFifo fifos type).pop).map fun (msg, rest) => (msg, setFifo fifos rest type)

@[simp] theorem getFifo_setFifo (fifos : BleFifos) (fifo : BleFifo) (type : BleCommType) :
    getFifo (setFifo fifos fifo type) type = fifo := by
  cases type <;> rfl

theorem addBleMsgToQueue_contents (fifos : BleFifos) {msg : BleMsg} (small : msg.Fits)
    (type : BleCommType) :
    (getFifo (addBleMsgToQueue fifos msg type).2 type).contents =
      BoundedQueue.offer bleFifoSize (getFifo fifos type).contents msg := by
  simp [addBleMsgToQueue, small, BleFifo.push_contents]

end WatchFirmware.Ble
