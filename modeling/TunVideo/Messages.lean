import TunVideo.ByteBuffer

set_option autoImplicit false

namespace TunVideo

/-- `FRAME_SIZE`, the size of every receive and send buffer. -/
abbrev frameSize : Nat := 65536

structure BeaconMessage where
  virIp : UInt32
  phyIp : UInt32
  srcGpsX : UInt32
  srcGpsY : UInt32
  srcSpeedX : UInt32
  srcSpeedY : UInt32
  deriving DecidableEq, Repr

/-- The trailer behind the tunnelled packet. -/
structure DataMessage where
  length : UInt32
  srcGpsX : UInt32
  srcGpsY : UInt32
  dstGpsX : UInt32
  dstGpsY : UInt32
  ttl : UInt32
  deriving DecidableEq, Repr

/-- `pkt_get_u32`: the word under the pointer, and the pointer behind it. -/
def pktGetU32 {size : Nat} (order : ByteOrder) (packet : Buffer size) (p : Nat) : UInt32 × Nat :=
  (packet.word order p, p + 4)

namespace BeaconMessage

abbrev size : Nat := 24

def words (message : BeaconMessage) : List UInt32 :=
  [message.virIp, message.phyIp, message.srcGpsX, message.srcGpsY, message.srcSpeedX,
    message.srcSpeedY]

def bytes (order : ByteOrder) (message : BeaconMessage) : List UInt8 :=
  order.encode message.words

/-- The six `pkt_get_u32` calls of `recv_beacon`. -/
def parse {size : Nat} (order : ByteOrder) (packet : Buffer size) : BeaconMessage :=
  let (virIp, curr) := pktGetU32 order packet 0
  let (phyIp, curr) := pktGetU32 order packet curr
  let (srcGpsX, curr) := pktGetU32 order packet curr
  let (srcGpsY, curr) := pktGetU32 order packet curr
  let (srcSpeedX, curr) := pktGetU32 order packet curr
  let (srcSpeedY, _) := pktGetU32 order packet curr
  ⟨virIp, phyIp, srcGpsX, srcGpsY, srcSpeedX, srcSpeedY⟩

@[simp] theorem bytes_length (order : ByteOrder) (message : BeaconMessage) :
    (message.bytes order).length = size := by
  rw [bytes, ByteOrder.encode_length]
  rfl

theorem parse_of_slice {n : Nat} {order : ByteOrder} {packet : Buffer n} {message : BeaconMessage}
    (held : packet.slice 0 size = message.bytes order) : parse order packet = message := by
  have held' : packet.slice 0 (4 * message.words.length) = order.encode message.words := held
  have field (i : Nat) (inside : i < 6) := Buffer.word_of_slice held' i inside
  simp only [Nat.zero_add] at field
  obtain ⟨virIp, phyIp, srcGpsX, srcGpsY, srcSpeedX, srcSpeedY⟩ := message
  simp only [parse, pktGetU32, Nat.zero_add, mk.injEq]
  exact ⟨field 0 (by decide), field 1 (by decide), field 2 (by decide), field 3 (by decide),
    field 4 (by decide), field 5 (by decide)⟩

end BeaconMessage

namespace DataMessage

abbrev size : Nat := 24

abbrev ttlOffset : Nat := 20

def words (message : DataMessage) : List UInt32 :=
  [message.length, message.srcGpsX, message.srcGpsY, message.dstGpsX, message.dstGpsY,
    message.ttl]

def bytes (order : ByteOrder) (message : DataMessage) : List UInt8 :=
  order.encode message.words

/-- The structure a pointer to `start` points to. -/
def ofBuffer {n : Nat} (order : ByteOrder) (buf : Buffer n) (start : Nat) : DataMessage where
  length := buf.word order start
  srcGpsX := buf.word order (start + 4)
  srcGpsY := buf.word order (start + 8)
  dstGpsX := buf.word order (start + 12)
  dstGpsY := buf.word order (start + 16)
  ttl := buf.word order (start + ttlOffset)

@[simp] theorem bytes_length (order : ByteOrder) (message : DataMessage) :
    (message.bytes order).length = size := by
  rw [bytes, ByteOrder.encode_length]
  rfl

theorem ofBuffer_of_slice {n start : Nat} {order : ByteOrder} {buf : Buffer n}
    {message : DataMessage} (held : buf.slice start size = message.bytes order) :
    ofBuffer order buf start = message := by
  have held' : buf.slice start (4 * message.words.length) = order.encode message.words := held
  have field (i : Nat) (inside : i < 6) := Buffer.word_of_slice held' i inside
  obtain ⟨length, srcGpsX, srcGpsY, dstGpsX, dstGpsY, ttl⟩ := message
  simp only [ofBuffer, mk.injEq]
  exact ⟨field 0 (by decide), field 1 (by decide), field 2 (by decide), field 3 (by decide),
    field 4 (by decide), field 5 (by decide)⟩

def front (order : ByteOrder) (message : DataMessage) : List UInt8 :=
  order.encode [message.length, message.srcGpsX, message.srcGpsY, message.dstGpsX,
    message.dstGpsY]

theorem bytes_eq_front (order : ByteOrder) (message : DataMessage) :
    message.bytes order = message.front order ++ order.bytes message.ttl := by
  simp only [bytes, front, words, ByteOrder.encode_cons, ByteOrder.encode_nil, List.append_assoc,
    List.append_nil]

end DataMessage

/-- A bare IPv4 header from 10.0.0.2 to 10.0.0.3. -/
def headerPacket : List UInt8 :=
  List.replicate 12 0 ++ ByteOrder.little.encode [0x0200000A, 0x0300000A]

def headerDatagram (trailer : DataMessage) : List UInt8 :=
  headerPacket ++ trailer.bytes .little

end TunVideo
