import TunVideo.Origin

set_option autoImplicit false

namespace TunVideo.IRtest

open Program SinglePrecision

structure DataMessage where
  length : UInt32
  srcGpsX : UInt32
  srcGpsY : UInt32
  dstGpsX : UInt32
  dstGpsY : UInt32
  deriving DecidableEq, Repr

namespace DataMessage

/-- `sizeof(DataMessage)` of the packed structure. -/
abbrev size : Nat := 20

def words (message : DataMessage) : List UInt32 :=
  [message.length, message.srcGpsX, message.srcGpsY, message.dstGpsX, message.dstGpsY]

def bytes (order : ByteOrder) (message : DataMessage) : List UInt8 :=
  order.encode message.words

/-- The structure a pointer to `start` points to. -/
def ofBuffer {n : Nat} (order : ByteOrder) (buf : Buffer n) (start : Nat) : DataMessage where
  length := buf.word order start
  srcGpsX := buf.word order (start + 4)
  srcGpsY := buf.word order (start + 8)
  dstGpsX := buf.word order (start + 12)
  dstGpsY := buf.word order (start + 16)

@[simp] theorem bytes_length (order : ByteOrder) (message : DataMessage) :
    (message.bytes order).length = size := by
  rw [bytes, ByteOrder.encode_length]
  rfl

theorem ofBuffer_of_slice {n start : Nat} {order : ByteOrder} {buf : Buffer n}
    {message : DataMessage} (held : buf.slice start size = message.bytes order) :
    ofBuffer order buf start = message := by
  have held' : buf.slice start (4 * message.words.length) = order.encode message.words := held
  have field (i : Nat) (inside : i < 5) := Buffer.word_of_slice held' i inside
  obtain ⟨length, srcGpsX, srcGpsY, dstGpsX, dstGpsY⟩ := message
  simp only [ofBuffer, mk.injEq]
  exact ⟨field 0 (by decide), field 1 (by decide), field 2 (by decide), field 3 (by decide),
    field 4 (by decide)⟩

end DataMessage

inductive DataModel where
  | ilp32
  | lp64
  deriving DecidableEq, Repr

/-- `sizeof(data_message)` -/
def DataModel.pointerSize : DataModel → Nat
  | ilp32 => 4
  | lp64 => 8

theorem DataModel.pointerSize_lt (model : DataModel) : model.pointerSize < DataMessage.size := by
  cases model with
  | ilp32 => decide
  | lp64 => decide

/-- The members of `IR` that the data path uses. -/
structure IR (F : Type) where
  virIp : UInt32
  broadcastAddr : SockAddr
  beginTime : Int
  gps : GPS F
  forwardTable : ForwardTable F
  neighborTable : NeighborTable F
  tunBuffer : Buffer frameSize
  dataBuffer : Buffer frameSize
  dataRecvBuffer : Buffer frameSize

abbrev Procedure (F α : Type) := Program (IR F) (Event F) Stop α

variable {F : Type}

/-- `gps_by_ip`: the stored position and next hop of a destination. -/
def gpsByIp (ir : IR F) (dstVirIp : UInt32) : Option (UInt32 × GPS F) :=
  ir.forwardTable[dstVirIp]?.map fun entry => (entry.nextHopIp, entry.gps)

def fillDataBuffer (order : ByteOrder) (nread : Nat) (message : DataMessage) :
    Procedure F Unit := do
  modify fun ir =>
    { ir with dataBuffer := ir.dataBuffer.overwrite 0 (ir.tunBuffer.slice 0 nread) }
  let filled ← read fun ir => ir.dataBuffer.write nread (message.bytes order)
  let dataBuffer ← require .outOfBounds filled
  modify fun ir => { ir with dataBuffer := dataBuffer }

/-- `data_recv_buffer + nread - sizeof(DataMessage)` as an offset into the buffer. -/
def trailerOffset (nread : Int) : Option Nat :=
  if (DataMessage.size : Int) ≤ nread then some (nread - DataMessage.size).toNat else none

section

variable {D : Type} [SinglePrecision F D]

/-- `recv_tun`. The result of `read` is kept in a `uint16_t`. `get_gps` has no statement left,
so `gps` is whatever it returns. The unicast counts the bytes of the pointer `data_message`,
and the broadcast those of the structure `message`. -/
def recvTun (order : ByteOrder) (model : DataModel) (gps : GPS F) (received : Received)
    (sendFails : Bool) : Procedure F Unit := do
  modify fun ir => { ir with tunBuffer := received.store frameSize ir.tunBuffer }
  let nread := (UInt16.ofInt (received.count frameSize)).toNat
  modify fun ir => { ir with gps := gps }
  let opt ← read fun ir => gpsByIp ir (ir.tunBuffer.word order daddrOffset)
  let srcGpsX ← read fun ir => ir.gps.gpsXToUint32
  match opt with
  | some (dstPhyIp, dstGps) =>
      let dstGpsX ← require .floatConversion (toUInt32 dstGps.x)
      let dstGpsY ← require .floatConversion (toUInt32 dstGps.y)
      let converted ← read fun ir => toUInt32 ir.gps.y
      let srcGpsY ← require .floatConversion converted
      fillDataBuffer order nread ⟨UInt32.ofNat nread, srcGpsX, srcGpsY, dstGpsX, dstGpsY⟩
      perform fun ir =>
        (ir, [.dataUnicast ⟨dataPort, dstPhyIp⟩
          (ir.dataBuffer.slice 0 (nread + model.pointerSize))])
  | none =>
      perform fun ir =>
        ({ ir with broadcastAddr := { ir.broadcastAddr with sinPort := dataPort } },
          [.portSet dataPort])
      let converted ← read fun ir => toUInt32 ir.gps.y
      let srcGpsY ← require .floatConversion converted
      fillDataBuffer order nread ⟨UInt32.ofNat nread, srcGpsX, srcGpsY, 0, 90⟩
      if sendFails then
        stop (.exit "sendto data")
      else
        perform fun ir =>
          (ir, [.dataBroadcast ir.broadcastAddr
            (ir.dataBuffer.slice 0 (nread + DataMessage.size))])

/-- `recv_data`. Every datagram of another node has its trailer printed. What `Forwarding` does
is a parameter, and `writeFails` says whether the tun device refuses the packet. -/
def recvData (order : ByteOrder) (forwarding : UInt32 → GPS F → Int → Procedure F Unit)
    (received : Received) (writeFails : Bool) : Procedure F Unit := do
  modify fun ir => { ir with dataRecvBuffer := received.store frameSize ir.dataRecvBuffer }
  let nread := received.count frameSize
  let dstIp ← read fun ir => ir.dataRecvBuffer.word order daddrOffset
  let srcIp ← read fun ir => ir.dataRecvBuffer.word order saddrOffset
  let virIp ← read IR.virIp
  if srcIp ≠ virIp then
    let trailer ← require .outOfBounds (trailerOffset nread)
    let dataMessage ← read fun ir => DataMessage.ofBuffer order ir.dataRecvBuffer trailer
    if dstIp = virIp then
      if writeFails then
        stop (.exit "Writing tun")
      else
        perform fun ir => (ir, [.tunWritten (ir.dataRecvBuffer.slice 0 trailer)])
    else
      forwarding dstIp ⟨ofUInt32 dataMessage.dstGpsX, ofUInt32 dataMessage.dstGpsY⟩ nread

end

def storeDatagram (ir : IR F) (datagram : List UInt8) : IR F :=
  { ir with dataRecvBuffer := ir.dataRecvBuffer.overwrite 0 datagram }

def srcIpOf (order : ByteOrder) (ir : IR F) (datagram : List UInt8) : UInt32 :=
  (storeDatagram ir datagram).dataRecvBuffer.word order saddrOffset

def dstIpOf (order : ByteOrder) (ir : IR F) (datagram : List UInt8) : UInt32 :=
  (storeDatagram ir datagram).dataRecvBuffer.word order daddrOffset

/-- The packet and the trailer of a datagram, which is split from its end. -/
def parse (order : ByteOrder) (ir : IR F) (datagram : List UInt8) :
    Option (List UInt8 × DataMessage) :=
  (trailerOffset datagram.length).map fun trailer =>
    (datagram.take trailer, .ofBuffer order (storeDatagram ir datagram).dataRecvBuffer trailer)

theorem trailerOffset_some {nread : Nat} (long : DataMessage.size ≤ nread) :
    trailerOffset nread = some (nread - DataMessage.size) := by
  rw [trailerOffset, if_pos (by exact_mod_cast long)]
  congr 1
  omega

theorem trailerOffset_none {nread : Nat} (short : ¬DataMessage.size ≤ nread) :
    trailerOffset nread = none := by
  rw [trailerOffset, if_neg (by exact_mod_cast short)]

/-- All that `recv_data` does with a datagram of another node depends on what is parsed. -/
theorem recvData_run {D : Type} [SinglePrecision F D] (order : ByteOrder)
    (forwarding : UInt32 → GPS F → Int → Procedure F Unit) (ir : IR F) {datagram : List UInt8}
    (writeFails : Bool) (short : datagram.length ≤ frameSize) :
    (recvData order forwarding (.packet datagram) writeFails).run ir =
      if srcIpOf order ir datagram = ir.virIp then ⟨.ok (), storeDatagram ir datagram, []⟩
      else match parse order ir datagram with
        | none => ⟨.error .outOfBounds, storeDatagram ir datagram, []⟩
        | some (payload, message) =>
            if dstIpOf order ir datagram = ir.virIp then
              if writeFails then ⟨.error (.exit "Writing tun"), storeDatagram ir datagram, []⟩
              else ⟨.ok (), storeDatagram ir datagram, [.tunWritten payload]⟩
            else
              (forwarding (dstIpOf order ir datagram)
                ⟨ofUInt32 message.dstGpsX, ofUInt32 message.dstGpsY⟩ datagram.length).run
                (storeDatagram ir datagram) := by
  have stored := Received.store_of_fits ir.dataRecvBuffer short
  have count := Received.count_of_fits short
  unfold recvData parse srcIpOf dstIpOf storeDatagram
  simp only [run_bind, run_modify, run_read, Outcome.bind_ok, Outcome.after_nil, stored, count]
  by_cases own : (ir.dataRecvBuffer.overwrite 0 datagram).word order saddrOffset = ir.virIp
  · rw [if_neg (not_not_intro own), if_pos own, run_pure]
  · rw [if_pos own, if_neg own]
    by_cases long : DataMessage.size ≤ datagram.length
    · have packet : (ir.dataRecvBuffer.overwrite 0 datagram).slice 0
          (datagram.length - DataMessage.size) =
          datagram.take (datagram.length - DataMessage.size) :=
        Buffer.slice_overwrite_front ir.dataRecvBuffer (by omega) short
      rw [trailerOffset_some long]
      simp only [run_bind, run_require_some, run_read, Outcome.bind_ok, Outcome.after_nil,
        Option.map_some]
      by_cases here : (ir.dataRecvBuffer.overwrite 0 datagram).word order daddrOffset = ir.virIp
      · rw [if_pos here, if_pos here]
        cases writeFails with
        | true => rfl
        | false => simp only [Bool.false_eq_true, ↓reduceIte, run_perform, packet]
      · rw [if_neg here, if_neg here]
    · rw [trailerOffset_none long]
      rfl

end TunVideo.IRtest
