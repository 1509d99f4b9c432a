import TunVideo.Geometry
import TunVideo.Messages
import TunVideo.Program
import TunVideo.Tables

set_option autoImplicit false

namespace TunVideo

abbrev beaconPort : UInt16 := 5555

abbrev dataPort : UInt16 := 4000

structure SockAddr where
  sinPort : UInt16
  sinAddr : UInt32
  deriving DecidableEq, Repr

/-- The members of `IR`, and the globals `g_gps` and `g_speed`. -/
structure IR (F D : Type) where
  virIp : UInt32
  phyIp : UInt32
  broadcastAddr : SockAddr
  beginTime : Int
  gGps : GPS F
  gSpeed : D
  gps : GPS F
  speed : D
  qGps : List (GPS F)
  forwardTable : ForwardTable F
  neighborTable : NeighborTable F
  tunBuffer : Buffer frameSize
  beaconBuffer : Buffer frameSize
  dataBuffer : Buffer frameSize
  dataRecvBuffer : Buffer frameSize

/-- What an execution shows: datagrams, writes to the tun device, assignments to
`broadcast_addr.sin_port` and calls of the two routing functions. -/
inductive Event (F : Type) where
  | portSet (port : UInt16)
  | beaconSent (dst : SockAddr) (payload : List UInt8)
  | dataBroadcast (dst : SockAddr) (payload : List UInt8)
  | dataUnicast (dst : SockAddr) (payload : List UInt8)
  | tunWritten (payload : List UInt8)
  | isLegalCalled (nghbrIp : UInt32) (dstGps selfGps : GPS F)
  | routeMakeupCalled (dstGps selfGps : GPS F)
  deriving DecidableEq

/-- Why an execution has no further step: undefined behaviour, or `exit`. -/
inductive Stop where
  | endIterator
  | outOfBounds
  | floatConversion
  | exit (message : String)
  deriving DecidableEq, Repr

abbrev Procedure (F D α : Type) := Program (IR F D) (Event F) Stop α

/-- The result of `read` or `recvfrom`. -/
inductive Received where
  | failed
  | packet (payload : List UInt8)

namespace Received

/-- The return value for a buffer of `size` bytes. -/
def count (size : Nat) : Received → Int
  | failed => -1
  | packet payload => min payload.length size

def store {n : Nat} (size : Nat) (buf : Buffer n) : Received → Buffer n
  | failed => buf
  | packet payload => buf.overwrite 0 (payload.take size)

theorem count_packet (size : Nat) (payload : List UInt8) :
    (packet payload).count size = ((min payload.length size : Nat) : Int) := by
  rw [count]
  omega

theorem count_of_fits {size : Nat} {payload : List UInt8} (fits : payload.length ≤ size) :
    (packet payload).count size = payload.length := by
  rw [count_packet, Nat.min_eq_left fits]

theorem store_of_fits {n size : Nat} {payload : List UInt8} (buf : Buffer n)
    (fits : payload.length ≤ size) :
    (packet payload).store size buf = buf.overwrite 0 payload := by
  rw [store, List.take_of_length_le fits]

end Received

/-- After `init`: empty tables and the beacon port. The buffers hold anything. -/
structure IR.Initial {F D : Type} (ir : IR F D) : Prop where
  port : ir.broadcastAddr.sinPort = beaconPort
  queue : ir.qGps = []
  forward : ir.forwardTable = ∅
  neighbor : ir.neighborTable = ∅

/-- A node that has just left `init`, at a known position and with cleared buffers. -/
def IR.afterInit {F D : Type} (virIp phyIp broadcast : UInt32) (gps : GPS F) (speed : D) :
    IR F D where
  virIp := virIp
  phyIp := phyIp
  broadcastAddr := ⟨beaconPort, broadcast⟩
  beginTime := 0
  gGps := gps
  gSpeed := speed
  gps := gps
  speed := speed
  qGps := []
  forwardTable := ∅
  neighborTable := ∅
  tunBuffer := fun _ => 0
  beaconBuffer := fun _ => 0
  dataBuffer := fun _ => 0
  dataRecvBuffer := fun _ => 0

theorem IR.afterInit_initial {F D : Type} (virIp phyIp broadcast : UInt32) (gps : GPS F)
    (speed : D) : (afterInit virIp phyIp broadcast gps speed).Initial :=
  ⟨rfl, rfl, rfl, rfl⟩

/-- The node 10.0.0.1 after `init`. It has heard nobody, and its own position is (0,0). -/
def loneNode : IR Float32 Float :=
  .afterInit 0x0100000A 0x0100A8C0 0xFF00A8C0 ⟨0, 0⟩ 0

theorem loneNode_initial : loneNode.Initial :=
  IR.afterInit_initial _ _ _ _ _

/-- The receiver and the payload of a data datagram, with no receiver for a broadcast. -/
def Event.transmission {F : Type} : Event F → Option (Option UInt32 × List UInt8)
  | dataBroadcast _ payload => some (none, payload)
  | dataUnicast dst payload => some (some dst.sinAddr, payload)
  | _ => none

def transmissions {F : Type} (events : List (Event F)) : List (Option UInt32 × List UInt8) :=
  events.filterMap Event.transmission

end TunVideo
