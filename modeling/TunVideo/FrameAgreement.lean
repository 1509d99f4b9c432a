import TunVideo.IRtest

set_option autoImplicit false

namespace TunVideo.IRtest

open Program SinglePrecision

section

variable {F D : Type} [SinglePrecision F D]

/-- What a receiver makes of a datagram: the packet and the trailer that were to be sent, and, at
the destination, a write of the packet to the tun device. -/
structure ReadBack (order : ByteOrder) (packet : List UInt8) (message : DataMessage)
    (datagram : List UInt8) (receiver : IR F) : Prop where
  parsed : parse order receiver datagram = some (packet, message)
  delivered : srcIpOf order receiver datagram ≠ receiver.virIp →
    dstIpOf order receiver datagram = receiver.virIp →
    ∀ forwarding : UInt32 → GPS F → Int → Procedure F Unit,
      ((recvData order forwarding (.packet datagram) false).run receiver).events =
        [.tunWritten packet]

variable (order : ByteOrder) (model : DataModel) (gps : GPS F) (sender : IR F)
  (packet : List UInt8)

/-- One datagram is sent for a packet, and every receiver reads it back, with the trailer that the
sender has written behind its copy of the packet. -/
def FramesAgree : Prop :=
  let outcome := (recvTun order model gps (.packet packet) false).run sender
  ∃ sent, transmissions outcome.events = [sent] ∧ ∀ receiver : IR F,
    ReadBack order packet (.ofBuffer order outcome.state.dataBuffer packet.length) sent.2 receiver

def tunDstIp : UInt32 := (sender.tunBuffer.overwrite 0 packet).word order daddrOffset

/-- A `uint32_t` can hold the coordinates that go into the trailer. -/
structure Convertible : Prop where
  own : (toUInt32 gps.y).isSome
  destination : ∀ entry, sender.forwardTable[tunDstIp order sender packet]? = some entry →
    (toUInt32 entry.gps.x).isSome ∧ (toUInt32 entry.gps.y).isSome

end

section

variable {F : Type} (order : ByteOrder) {packet : List UInt8}

def filledBuffer (packet : List UInt8) (message : DataMessage) (buf : Buffer frameSize) :
    Buffer frameSize :=
  (buf.overwrite 0 packet).overwrite packet.length (message.bytes order)

theorem fillDataBuffer_run {ir : IR F} (message : DataMessage)
    (fits : packet.length + DataMessage.size ≤ frameSize)
    (held : ir.tunBuffer.slice 0 packet.length = packet) :
    (fillDataBuffer order packet.length message).run ir =
      ⟨.ok (), { ir with dataBuffer := filledBuffer order packet message ir.dataBuffer }, []⟩ := by
  have room : packet.length + (message.bytes order).length ≤ frameSize := by
    rw [DataMessage.bytes_length]
    exact fits
  unfold fillDataBuffer filledBuffer
  simp only [run_bind, run_modify, run_read, Outcome.bind_ok, Outcome.after_nil, held,
    Buffer.write_eq _ _ _ room, run_require_some]

theorem filledBuffer_slice (message : DataMessage) (buf : Buffer frameSize) {count : Nat}
    (part : count ≤ DataMessage.size) (fits : packet.length + DataMessage.size ≤ frameSize) :
    (filledBuffer order packet message buf).slice 0 (packet.length + count) =
      packet ++ (message.bytes order).take count := by
  have width := message.bytes_length order
  exact Buffer.slice_overwrite_behind buf (by omega) (by omega)

theorem filledBuffer_whole (message : DataMessage) (buf : Buffer frameSize)
    (fits : packet.length + DataMessage.size ≤ frameSize) :
    (filledBuffer order packet message buf).slice 0 (packet.length + DataMessage.size) =
      packet ++ message.bytes order := by
  have width := message.bytes_length order
  rw [filledBuffer_slice order message buf (Nat.le_refl _) fits, ← width, List.take_length]

theorem filledBuffer_message (message : DataMessage) (buf : Buffer frameSize)
    (fits : packet.length + DataMessage.size ≤ frameSize) :
    DataMessage.ofBuffer order (filledBuffer order packet message buf) packet.length =
      message := by
  apply DataMessage.ofBuffer_of_slice
  have width := message.bytes_length order
  have written := Buffer.slice_overwrite (buf.overwrite 0 packet) packet.length
    (message.bytes order) (by omega)
  rw [width] at written
  exact written

end

section

variable {F D : Type} [SinglePrecision F D] {order : ByteOrder} (model : DataModel) {gps : GPS F}
  {sender : IR F} {packet : List UInt8}

/-- A packet for a destination that is not in the table is broadcast with its whole trailer. -/
theorem recvTun_broadcast {srcGpsY : UInt32}
    (fits : packet.length + DataMessage.size ≤ frameSize)
    (absent : sender.forwardTable[tunDstIp order sender packet]? = none)
    (converted : toUInt32 gps.y = some srcGpsY) :
    let outcome := (recvTun order model gps (.packet packet) false).run sender
    ∃ message, outcome.state.dataBuffer = filledBuffer order packet message sender.dataBuffer ∧
      transmissions outcome.events = [(none, packet ++ message.bytes order)] := by
  have size : DataMessage.size = 20 := rfl
  have stored := Received.store_of_fits sender.tunBuffer (show packet.length ≤ frameSize by omega)
  have nread := nread_of_lt (show packet.length < frameSize by omega)
  have copied := Buffer.slice_overwrite sender.tunBuffer 0 packet (by omega)
  unfold tunDstIp at absent
  unfold recvTun gpsByIp
  simp [stored, nread, absent, converted, fillDataBuffer_run order _ fits, copied,
    filledBuffer_whole order _ _ fits]
  exact ⟨_, rfl, rfl⟩

/-- A packet for a destination in the table is sent with the head of its trailer. -/
theorem recvTun_unicast (fits : packet.length + DataMessage.size ≤ frameSize)
    (convertible : Convertible order gps sender packet) {entry : ForwardTableEntry F}
    (held : sender.forwardTable[tunDstIp order sender packet]? = some entry) :
    ∃ message : DataMessage,
      transmissions ((recvTun order model gps (.packet packet) false).run sender).events =
        [(some entry.nextHopIp, packet ++ (message.bytes order).take model.pointerSize)] := by
  obtain ⟨definedX, definedY⟩ := convertible.destination entry held
  obtain ⟨dstGpsX, convertedX⟩ := Option.isSome_iff_exists.mp definedX
  obtain ⟨dstGpsY, convertedY⟩ := Option.isSome_iff_exists.mp definedY
  obtain ⟨srcGpsY, converted⟩ := Option.isSome_iff_exists.mp convertible.own
  have stored := Received.store_of_fits sender.tunBuffer (show packet.length ≤ frameSize by omega)
  have size : DataMessage.size = 20 := rfl
  have nread := nread_of_lt (show packet.length < frameSize by omega)
  have copied := Buffer.slice_overwrite sender.tunBuffer 0 packet (by omega)
  have part := Nat.le_of_lt model.pointerSize_lt
  unfold tunDstIp at held
  unfold recvTun gpsByIp
  simp [stored, nread, held, converted, convertedX, convertedY,
    fillDataBuffer_run order _ fits, copied, filledBuffer_slice order _ _ part fits]
  exact ⟨_, rfl⟩

theorem readBack_whole (message : DataMessage) (receiver : IR F)
    (fits : packet.length + DataMessage.size ≤ frameSize) :
    ReadBack order packet message (packet ++ message.bytes order) receiver := by
  have width : (message.bytes order).length = DataMessage.size := message.bytes_length order
  have length : (packet ++ message.bytes order).length = packet.length + DataMessage.size := by
    rw [List.length_append, width]
  have position : (packet ++ message.bytes order).length - DataMessage.size = packet.length := by
    omega
  have trailer : (storeDatagram receiver (packet ++ message.bytes order)).dataRecvBuffer.slice
      packet.length DataMessage.size = message.bytes order := by
    rw [← width]
    exact Buffer.slice_overwrite_back receiver.dataRecvBuffer (by omega)
  have parsed : parse order receiver (packet ++ message.bytes order) = some (packet, message) := by
    rw [parse, trailerOffset_some (by omega), position, Option.map_some, List.take_left,
      DataMessage.ofBuffer_of_slice trailer]
  refine ⟨parsed, ?_⟩
  intro foreign here forwarding
  rw [recvData_run order forwarding receiver false (by omega), if_neg foreign, parsed]
  dsimp only
  rw [if_pos here]
  rfl

/-- Nobody finds the packet in front of less than a trailer. -/
theorem not_readBack_part {message : DataMessage} {receiver : IR F} {part : List UInt8}
    (less : part.length < DataMessage.size) :
    ¬ReadBack order packet message (packet ++ part) receiver := by
  intro readBack
  have parsed := readBack.parsed
  have length : (packet ++ part).length = packet.length + part.length := List.length_append
  by_cases long : DataMessage.size ≤ (packet ++ part).length
  · rw [parse, trailerOffset_some long] at parsed
    have same := congrArg (fun found => found.1.length) (Option.some.inj parsed)
    simp only [List.length_take] at same
    omega
  · rw [parse, trailerOffset_none long] at parsed
    cases parsed

theorem unicast_disagrees (fits : packet.length + DataMessage.size ≤ frameSize)
    (convertible : Convertible order gps sender packet) {entry : ForwardTableEntry F}
    (held : sender.forwardTable[tunDstIp order sender packet]? = some entry) :
    ¬FramesAgree order model gps sender packet := by
  rintro ⟨sent, once, readBack⟩
  obtain ⟨message, part⟩ := recvTun_unicast model fits convertible held
  have less : ((message.bytes order).take model.pointerSize).length < DataMessage.size := by
    rw [List.length_take]
    exact Nat.lt_of_le_of_lt (Nat.min_le_left _ _) model.pointerSize_lt
  obtain rfl := List.singleton_inj.mp (part.symm.trans once)
  exact not_readBack_part less (readBack sender)

theorem broadcast_agrees (fits : packet.length + DataMessage.size ≤ frameSize)
    (convertible : Convertible order gps sender packet)
    (absent : sender.forwardTable[tunDstIp order sender packet]? = none) :
    FramesAgree order model gps sender packet := by
  obtain ⟨srcGpsY, converted⟩ := Option.isSome_iff_exists.mp convertible.own
  obtain ⟨message, filled, once⟩ := recvTun_broadcast model fits absent converted
  refine ⟨_, once, fun receiver => ?_⟩
  rw [filled, filledBuffer_message order message _ fits]
  exact readBack_whole message receiver fits

/-- For coordinates that have a value, every receiver reads back what has been sent, and the
destination writes the packet to its tun device, if and only if the packet is broadcast. -/
theorem recvTun_framesAgree_iff (fits : packet.length + DataMessage.size ≤ frameSize)
    (convertible : Convertible order gps sender packet) :
    FramesAgree order model gps sender packet ↔
      sender.forwardTable[tunDstIp order sender packet]? = none := by
  constructor
  · intro agree
    rw [Option.eq_none_iff_forall_ne_some]
    intro entry held
    exact unicast_disagrees model fits convertible held agree
  · exact broadcast_agrees model fits convertible

end

/-- The node 10.0.0.1, which has sent to 10.0.0.3 before. -/
def sendingNode : IR Float32 where
  virIp := 0x0100000A
  broadcastAddr := ⟨beaconPort, 0xFF00A8C0⟩
  beginTime := 0
  gps := ⟨0, 0⟩
  forwardTable := (∅ : ForwardTable Float32).insert 0x0300000A ⟨0x0300A8C0, 0, ⟨3, 4⟩⟩
  neighborTable := ∅
  tunBuffer := fun _ => 0
  dataBuffer := fun _ => 0
  dataRecvBuffer := fun _ => 0

/-- Where a pointer has eight bytes, a bare header of 20 bytes is parsed as one of 8 bytes. -/
theorem recvTun_losesPacket :
    ¬∀ (model : DataModel) (sender : IR Float32) (packet : List UInt8), 0 < packet.length →
      packet.length + DataMessage.size ≤ frameSize →
        FramesAgree .little model ⟨0, 0⟩ sender packet := by
  intro agree
  have dstIp : tunDstIp .little sendingNode headerPacket = 0x0300000A := by decide +kernel
  have held : sendingNode.forwardTable[tunDstIp .little sendingNode headerPacket]? =
      some ⟨0x0300A8C0, 0, ⟨3, 4⟩⟩ := by
    rw [dstIp]
    exact Std.ExtTreeMap.getElem?_insert_self
  have convertible : Convertible .little ⟨0, 0⟩ sendingNode headerPacket := by
    refine ⟨by decide +kernel, fun entry held' => ?_⟩
    obtain rfl := Option.some.inj (held.symm.trans held')
    exact ⟨by decide +kernel, by decide +kernel⟩
  exact unicast_disagrees .lp64 (by decide) convertible held
    (agree .lp64 sendingNode headerPacket (by decide) (by decide))

/-- A node that has nobody in its table broadcasts. -/
theorem framesAgree_headerPacket :
    FramesAgree .little .lp64 ⟨0, 0⟩ { sendingNode with forwardTable := ∅ } headerPacket := by
  have fits : headerPacket.length + DataMessage.size ≤ frameSize := by decide
  have absent (dstIp : UInt32) : (∅ : ForwardTable Float32)[dstIp]? = none :=
    Std.ExtTreeMap.getElem?_empty
  have convertible :
      Convertible .little ⟨0, 0⟩ { sendingNode with forwardTable := ∅ } headerPacket := by
    refine ⟨by decide +kernel, fun entry held => ?_⟩
    rw [absent] at held
    cases held
  exact (recvTun_framesAgree_iff .lp64 fits convertible).mpr (absent _)

end TunVideo.IRtest
