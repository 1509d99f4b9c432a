import TunVideo.Beacon
import TunVideo.Forward

set_option autoImplicit false

namespace TunVideo

open Program SinglePrecision

variable {F D : Type}

/-- `gps_by_ip`: the stored position and next hop of a destination. -/
def gpsByIp (ir : IR F D) (dstVirIp : UInt32) : Option (UInt32 × GPS F) :=
  ir.forwardTable[dstVirIp]?.map fun entry => (entry.nextHopIp, entry.gps)

/-- The two `memcpy` calls of `recv_tun`. -/
def fillDataBuffer (order : ByteOrder) (nread : Nat) (message : DataMessage) :
    Procedure F D Unit := do
  modify fun ir =>
    { ir with dataBuffer := ir.dataBuffer.overwrite 0 (ir.tunBuffer.slice 0 nread) }
  let filled ← read fun ir => ir.dataBuffer.write nread (message.bytes order)
  let dataBuffer ← require .outOfBounds filled
  modify fun ir => { ir with dataBuffer := dataBuffer }

def filledBuffer (order : ByteOrder) (nread : Nat) (message : DataMessage) (ir : IR F D) :
    Buffer frameSize :=
  (ir.dataBuffer.overwrite 0 (ir.tunBuffer.slice 0 nread)).overwrite nread (message.bytes order)

theorem fillDataBuffer_run (order : ByteOrder) {nread : Nat} (message : DataMessage) (ir : IR F D)
    (fits : nread + DataMessage.size ≤ frameSize) :
    (fillDataBuffer order nread message).run ir =
      ⟨.ok (), { ir with dataBuffer := filledBuffer order nread message ir }, []⟩ := by
  have room : nread + (message.bytes order).length ≤ frameSize := by
    rw [DataMessage.bytes_length]
    exact fits
  simp only [fillDataBuffer, run_bind, run_modify, run_read, Outcome.bind_ok, Outcome.after_mk,
    Buffer.write_eq _ _ _ room, run_require_some, List.nil_append, filledBuffer]

theorem filledBuffer_slice (order : ByteOrder) {nread : Nat} (message : DataMessage)
    (ir : IR F D) (fits : nread + DataMessage.size ≤ frameSize) :
    (filledBuffer order nread message ir).slice 0 (nread + DataMessage.size) =
      ir.tunBuffer.slice 0 nread ++ message.bytes order := by
  have packet : (ir.tunBuffer.slice 0 nread).length = nread := Buffer.slice_length _ _ _
  have trailer : (message.bytes order).length = DataMessage.size := message.bytes_length order
  have sent := Buffer.slice_overwrite_behind ir.dataBuffer (Nat.le_refl (message.bytes order).length)
    (show (ir.tunBuffer.slice 0 nread).length + (message.bytes order).length ≤ frameSize by omega)
  rw [packet, trailer, ← trailer, List.take_length, trailer] at sent
  exact sent

/-- What `recv_tun` emits for a datagram: a unicast to a known destination, or a broadcast. -/
def originEvents (ir : IR F D) (dstIp : UInt32) (payload : List UInt8) : List (Event F) :=
  match ir.forwardTable[dstIp]? with
  | some entry => [.dataUnicast ⟨dataPort, entry.nextHopIp⟩ payload]
  | none =>
      [.portSet dataPort, .dataBroadcast ⟨dataPort, ir.broadcastAddr.sinAddr⟩ payload]

theorem originEvents_transmissions (ir : IR F D) (dstIp : UInt32) (payload : List UInt8) :
    ∃ target, transmissions (originEvents ir dstIp payload) = [(target, payload)] := by
  unfold originEvents
  split
  · exact ⟨_, rfl⟩
  · exact ⟨_, rfl⟩

section

variable [SinglePrecision F D]

/-- What `recv_tun` does with the answer of `gps_by_ip`. `m_gps.y` is assigned to `src_gps_y` a
second time, by value, on both branches. -/
def tunSending (host : Host F D) (nread : Nat) (sendFails : Bool) (opt : Option (UInt32 × GPS F)) :
    Procedure F D Unit := do
  let srcGpsX ← read fun ir => ir.gps.gpsXToUint32
  match opt with
  | some (dstPhyIp, dstGps) =>
      let dstGpsX ← require .floatConversion (toUInt32 dstGps.x)
      let dstGpsY ← require .floatConversion (toUInt32 dstGps.y)
      let converted ← read fun ir => toUInt32 ir.gps.y
      let srcGpsY ← require .floatConversion converted
      fillDataBuffer host.order nread
        ⟨UInt32.ofNat nread, srcGpsX, srcGpsY, dstGpsX, dstGpsY, 16⟩
      perform fun ir =>
        (ir, [.dataUnicast ⟨dataPort, dstPhyIp⟩
          (ir.dataBuffer.slice 0 (nread + DataMessage.size))])
  | none =>
      perform fun ir =>
        ({ ir with broadcastAddr := { ir.broadcastAddr with sinPort := dataPort } },
          [.portSet dataPort])
      let converted ← read fun ir => toUInt32 ir.gps.y
      let srcGpsY ← require .floatConversion converted
      fillDataBuffer host.order nread
        ⟨UInt32.ofNat nread, srcGpsX, srcGpsY, 0, 90, 16⟩
      if sendFails then
        stop (.exit "sendto data")
      else
        perform fun ir =>
          (ir, [.dataBroadcast ir.broadcastAddr
            (ir.dataBuffer.slice 0 (nread + DataMessage.size))])

/-- `recv_tun` after its call of `get_gps`. -/
def recvTunAfterGps (host : Host F D) (received : Received) (sendFails : Bool) :
    Procedure F D Unit := do
  let nread := (UInt16.ofInt (received.count frameSize)).toNat
  let opt ← read fun ir => gpsByIp ir (ir.tunBuffer.word host.order daddrOffset)
  tunSending host nread sendFails opt

/-- `recv_tun`. The result of `read` is kept in a `uint16_t`, so its sign test never
succeeds. -/
def recvTun (host : Host F D) (received : Received) (sendFails : Bool) : Procedure F D Unit := do
  modify fun ir => { ir with tunBuffer := received.store frameSize ir.tunBuffer }
  getGps
  recvTunAfterGps host received sendFails

/-- The position fields for a destination: the stored position, or the pair (0,90). -/
def dstFields (ir : IR F D) (dstIp : UInt32) : Option (UInt32 × UInt32) :=
  match ir.forwardTable[dstIp]? with
  | some entry =>
      (toUInt32 entry.gps.x).bind fun x => (toUInt32 entry.gps.y).map fun y => (x, y)
  | none => some (0, 90)

/-- The trailer `recv_tun` writes behind a packet, if every conversion is defined. -/
def trailerOf (ir : IR F D) (dstIp : UInt32) (nread : Nat) : Option DataMessage :=
  (dstFields ir dstIp).bind fun dst => (toUInt32 ir.gGps.y).map fun srcGpsY =>
    ⟨UInt32.ofNat nread, ir.gGps.gpsXToUint32, srcGpsY, dst.1, dst.2, 16⟩

def tunDstIp (host : Host F D) (ir : IR F D) (packet : List UInt8) : UInt32 :=
  (ir.tunBuffer.overwrite 0 packet).word host.order daddrOffset

theorem nread_of_lt {packet : List UInt8} (below : packet.length < frameSize) :
    (UInt16.ofInt ((Received.packet packet).count frameSize)).toNat = packet.length := by
  have size : frameSize = 65536 := rfl
  rw [Received.count_of_fits (Nat.le_of_lt below), UInt16.ofInt, UInt16.toNat_ofNat']
  omega

theorem nread_of_fits {packet : List UInt8} (fits : packet.length + DataMessage.size ≤ frameSize) :
    (UInt16.ofInt ((Received.packet packet).count frameSize)).toNat = packet.length := by
  apply nread_of_lt
  have width : DataMessage.size = 24 := rfl
  omega

def afterOrigin (host : Host F D) (ir : IR F D) (packet : List UInt8) (message : DataMessage) :
    IR F D :=
  let sending := { ir with
    tunBuffer := ir.tunBuffer.overwrite 0 packet, speed := ir.gSpeed, gps := ir.gGps }
  { sending with
    dataBuffer := filledBuffer host.order packet.length message sending
    broadcastAddr := match ir.forwardTable[tunDstIp host ir packet]? with
      | some _ => ir.broadcastAddr
      | none => { ir.broadcastAddr with sinPort := dataPort } }

/-- A packet with room for its trailer is sent unchanged, with the trailer behind it. -/
theorem recvTun_run (host : Host F D) (ir : IR F D) {packet : List UInt8} {message : DataMessage}
    (fits : packet.length + DataMessage.size ≤ frameSize)
    (written : trailerOf ir (tunDstIp host ir packet) packet.length = some message) :
    (recvTun host (.packet packet) false).run ir =
      ⟨.ok (), afterOrigin host ir packet message,
        originEvents ir (tunDstIp host ir packet) (packet ++ message.bytes host.order)⟩ := by
  obtain ⟨dst, fields, rest⟩ := Option.bind_eq_some_iff.mp written
  obtain ⟨srcGpsY, converted, same⟩ := Option.map_eq_some_iff.mp rest
  have stored := Received.store_of_fits ir.tunBuffer (show packet.length ≤ frameSize by omega)
  have nread := nread_of_fits fits
  have copied := Buffer.slice_overwrite ir.tunBuffer 0 packet (by omega)
  unfold dstFields tunDstIp at fields
  unfold recvTun getGps recvTunAfterGps tunSending gpsByIp originEvents afterOrigin tunDstIp
  cases held : ir.forwardTable[(ir.tunBuffer.overwrite 0 packet).word host.order daddrOffset]? with
  | none =>
      simp only [held] at fields
      obtain rfl := Option.some.inj fields
      obtain rfl := same
      simp [stored, nread, held, converted, fillDataBuffer_run _ _ _ fits,
        filledBuffer_slice _ _ _ fits, copied]
      rfl
  | some entry =>
      simp only [held] at fields
      obtain ⟨x, convertedX, restY⟩ := Option.bind_eq_some_iff.mp fields
      obtain ⟨y, convertedY, rfl⟩ := Option.map_eq_some_iff.mp restY
      obtain rfl := same
      simp [stored, nread, held, converted, convertedX, convertedY, fillDataBuffer_run _ _ _ fits,
        filledBuffer_slice _ _ _ fits, copied]

theorem recvTun_undefined (host : Host F D) (ir : IR F D) {packet : List UInt8}
    (fits : packet.length + DataMessage.size ≤ frameSize)
    (undefined : trailerOf ir (tunDstIp host ir packet) packet.length = none) :
    let outcome := (recvTun host (.packet packet) false).run ir
    outcome.result = .error .floatConversion ∧ transmissions outcome.events = [] := by
  have stored := Received.store_of_fits ir.tunBuffer (show packet.length ≤ frameSize by omega)
  unfold trailerOf dstFields tunDstIp at undefined
  unfold recvTun getGps recvTunAfterGps tunSending gpsByIp
  cases held : ir.forwardTable[(ir.tunBuffer.overwrite 0 packet).word host.order daddrOffset]? with
  | none =>
      simp only [held, Option.bind_some, Option.map_eq_none_iff] at undefined
      simp [stored, held, undefined, transmissions, Event.transmission]
  | some entry =>
      simp only [held] at undefined
      cases convertedX : toUInt32 entry.gps.x with
      | none => simp [stored, held, convertedX, transmissions]
      | some x =>
          cases convertedY : toUInt32 entry.gps.y with
          | none => simp [stored, held, convertedX, convertedY, transmissions]
          | some y =>
              simp only [convertedX, convertedY, Option.bind_some, Option.map_some,
                Option.map_eq_none_iff] at undefined
              simp [stored, held, convertedX, convertedY, undefined, transmissions]

theorem recvTun_sent {host : Host F D} {ir : IR F D} {packet : List UInt8}
    {sent : Option UInt32 × List UInt8} (fits : packet.length + DataMessage.size ≤ frameSize)
    (member : sent ∈ transmissions ((recvTun host (.packet packet) false).run ir).events) :
    ∃ message, trailerOf ir (tunDstIp host ir packet) packet.length = some message ∧
      sent.2 = packet ++ message.bytes host.order := by
  cases written : trailerOf ir (tunDstIp host ir packet) packet.length with
  | none =>
      rw [(recvTun_undefined host ir fits written).2] at member
      cases member
  | some message =>
      refine ⟨message, rfl, ?_⟩
      obtain ⟨target, once⟩ := originEvents_transmissions ir (tunDstIp host ir packet)
        (packet ++ message.bytes host.order)
      rw [recvTun_run host ir fits written, once] at member
      rw [List.mem_singleton.mp member]

end

end TunVideo
