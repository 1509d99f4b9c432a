import TunVideo.Node

set_option autoImplicit false

namespace TunVideo

open Program SinglePrecision

variable {F D : Type} [SinglePrecision F D]

/-- `get_gps`, under the mutex. -/
def getGps : Procedure F D Unit :=
  modify fun ir => { ir with speed := ir.gSpeed, gps := ir.gGps }

/-- `build_beacon` after its call of `get_gps`. -/
def buildBeaconAfterGps (host : Host F D) (message : BeaconMessage) :
    Procedure F D BeaconMessage := do
  modify fun ir => if ir.qGps.length = 2 then { ir with qGps := ir.qGps.tail } else ir
  modify fun ir => { ir with qGps := ir.qGps ++ [ir.gps] }
  let srcGpsX ← read fun ir => ir.gps.gpsXToUint32
  let srcGpsY ← read fun ir => ir.gps.gpsYToUint32
  let message := { message with srcGpsX := srcGpsX, srcGpsY := srcGpsY }
  let message ← read fun ir =>
    if ir.qGps.length = 2 then
      { message with srcSpeedX := Speed.doubleToUint32 (host.speedChange ir.qGps ir.speed).x }
    else message
  let message ← read fun ir =>
    { message with srcSpeedY := Speed.doubleToUint32 (host.speedChange ir.qGps ir.speed).y }
  return message

/-- `build_beacon` on a structure that holds whatever was on the stack. -/
def buildBeacon (host : Host F D) (stack : BeaconMessage) : Procedure F D BeaconMessage := do
  let virIp ← read IR.virIp
  let phyIp ← read IR.phyIp
  getGps
  buildBeaconAfterGps host { stack with virIp := virIp, phyIp := phyIp }

/-- `send_beacon`, the handler of `SIGALRM`. -/
def sendBeacon (host : Host F D) (stack : BeaconMessage) : Procedure F D Unit := do
  let beacon ← buildBeacon host stack
  perform fun ir => (ir, [.beaconSent ir.broadcastAddr (beacon.bytes host.order)])

/-- The state `build_beacon` leaves: a fresh position at the end of the two kept ones. -/
def afterBeacon (ir : IR F D) : IR F D :=
  { ir with
    speed := ir.gSpeed
    gps := ir.gGps
    qGps := (if ir.qGps.length = 2 then ir.qGps.tail else ir.qGps) ++ [ir.gGps] }

def beaconOf (host : Host F D) (stack : BeaconMessage) (ir : IR F D) : BeaconMessage where
  virIp := ir.virIp
  phyIp := ir.phyIp
  srcGpsX := ir.gps.gpsXToUint32
  srcGpsY := ir.gps.gpsYToUint32
  srcSpeedX :=
    if ir.qGps.length = 2 then Speed.doubleToUint32 (host.speedChange ir.qGps ir.speed).x
    else stack.srcSpeedX
  srcSpeedY := Speed.doubleToUint32 (host.speedChange ir.qGps ir.speed).y

theorem buildBeacon_run (host : Host F D) (stack : BeaconMessage) (ir : IR F D) :
    (buildBeacon host stack).run ir =
      ⟨.ok (beaconOf host stack (afterBeacon ir)), afterBeacon ir, []⟩ := by
  unfold buildBeacon getGps buildBeaconAfterGps beaconOf afterBeacon
  by_cases full : ir.qGps.length = 2
  · simp [full]
  · simp only [run_bind, run_read, run_modify, Outcome.bind_ok, Outcome.after_mk,
      List.nil_append, full, ↓reduceIte]
    split <;> rfl

theorem sendBeacon_run (host : Host F D) (stack : BeaconMessage) (ir : IR F D) :
    (sendBeacon host stack).run ir =
      ⟨.ok (), afterBeacon ir, [.beaconSent ir.broadcastAddr
        ((beaconOf host stack (afterBeacon ir)).bytes host.order)]⟩ := by
  rw [sendBeacon, run_bind, buildBeacon_run, Outcome.bind_ok, run_perform]
  rfl

def pushHistory (gpsq : List (GPS F)) (gps : GPS F) : List (GPS F) :=
  (if gpsq.length = 10 then gpsq.tail else gpsq) ++ [gps]

/-- The last part of `build_neighbor`: update the entry, or insert a new one. -/
def updateNeighbor (host : Host F D) (untilTime : Int) (message : BeaconMessage) (gps : GPS F)
    (speed : Speed F) (table : NeighborTable F) : NeighborTable F :=
  let point := host.millierConvertion (toDouble gps.x) (toDouble gps.y)
  let timestamp := UInt32.ofInt untilTime
  match table[message.virIp]? with
  | some entry =>
      table.insert message.virIp
        { entry with
          timestamp := timestamp
          speed := speed
          gps := gps
          gpsq := pushHistory entry.gpsq point }
  | none =>
      table.insert message.virIp
        { gps := gps, timestamp := timestamp, speed := speed, phyIp := message.phyIp,
          gpsq := [point] }

/-- `build_neighbor`. Both purges compare with the literal 5. -/
def buildNeighbor (host : Host F D) (now : Timeval) (message : BeaconMessage) :
    Procedure F D Unit := do
  let untilTime ← read fun ir => untilTime ir.beginTime now
  modify fun ir =>
    { ir with
      neighborTable := MapSweep.sweep (olderThan 5 untilTime ·.timestamp) ir.neighborTable }
  modify fun ir =>
    { ir with
      forwardTable := MapSweep.sweep (olderThan 5 untilTime ·.timestamp) ir.forwardTable }
  let speed : Speed F := ⟨ofUInt32 message.srcSpeedX, ofUInt32 message.srcSpeedY⟩
  let gps : GPS F := ⟨ofUInt32 message.srcGpsX, ofUInt32 message.srcGpsY⟩
  modify fun ir =>
    { ir with
      forwardTable := ir.forwardTable.insert message.virIp
        ⟨message.phyIp, UInt32.ofInt untilTime, gps⟩ }
  modify fun ir =>
    { ir with
      neighborTable := updateNeighbor host untilTime message gps speed ir.neighborTable }

/-- The forward table after a beacon. -/
def forwardAfter (untilTime : Int) (message : BeaconMessage) (table : ForwardTable F) :
    ForwardTable F :=
  (MapSweep.sweep (olderThan 5 untilTime ·.timestamp) table).insert message.virIp
    ⟨message.phyIp, UInt32.ofInt untilTime, ⟨ofUInt32 message.srcGpsX, ofUInt32 message.srcGpsY⟩⟩

def neighborAfter (host : Host F D) (untilTime : Int) (message : BeaconMessage)
    (table : NeighborTable F) : NeighborTable F :=
  updateNeighbor host untilTime message ⟨ofUInt32 message.srcGpsX, ofUInt32 message.srcGpsY⟩
    ⟨ofUInt32 message.srcSpeedX, ofUInt32 message.srcSpeedY⟩
    (MapSweep.sweep (olderThan 5 untilTime ·.timestamp) table)

theorem buildNeighbor_run (host : Host F D) (now : Timeval) (message : BeaconMessage)
    (ir : IR F D) :
    (buildNeighbor host now message).run ir =
      ⟨.ok (),
        { ir with
          forwardTable := forwardAfter (untilTime ir.beginTime now) message ir.forwardTable
          neighborTable :=
            neighborAfter host (untilTime ir.beginTime now) message ir.neighborTable }, []⟩ := by
  simp only [buildNeighbor, run_bind, run_read, run_modify, Outcome.bind_ok, Outcome.after_mk,
    List.nil_append, forwardAfter, neighborAfter]

theorem getElem?_updateNeighbor_other (host : Host F D) (untilTime : Int) (message : BeaconMessage)
    (gps : GPS F) (speed : Speed F) (table : NeighborTable F) {vip : UInt32}
    (other : vip ≠ message.virIp) :
    (updateNeighbor host untilTime message gps speed table)[vip]? = table[vip]? := by
  unfold updateNeighbor
  dsimp only
  split <;> exact MapSweep.getElem?_insert_other _ _ other

/-- Entries of other nodes only go through the purge. -/
theorem getElem?_neighborAfter_other (host : Host F D) (untilTime : Int) (message : BeaconMessage)
    (table : NeighborTable F) {vip : UInt32} (other : vip ≠ message.virIp) :
    (neighborAfter host untilTime message table)[vip]? =
      (MapSweep.sweep (olderThan 5 untilTime ·.timestamp) table)[vip]? :=
  getElem?_updateNeighbor_other host untilTime message _ _ _ other

theorem getElem?_forwardAfter_other (untilTime : Int) (message : BeaconMessage)
    (table : ForwardTable F) {vip : UInt32} (other : vip ≠ message.virIp) :
    (forwardAfter untilTime message table)[vip]? =
      (MapSweep.sweep (olderThan 5 untilTime ·.timestamp) table)[vip]? :=
  MapSweep.getElem?_insert_other _ _ other

theorem getElem?_forwardAfter_self (untilTime : Int) (message : BeaconMessage)
    (table : ForwardTable F) :
    (forwardAfter untilTime message table)[message.virIp]? = some
      ⟨message.phyIp, UInt32.ofInt untilTime,
        ⟨ofUInt32 message.srcGpsX, ofUInt32 message.srcGpsY⟩⟩ :=
  Std.ExtTreeMap.getElem?_insert_self

/-- The position in a beacon, as `build_neighbor` reads it. -/
def BeaconMessage.position (message : BeaconMessage) : GPS F :=
  ⟨ofUInt32 message.srcGpsX, ofUInt32 message.srcGpsY⟩

/-- What `build_neighbor` pushes for a position. -/
def Host.project (host : Host F D) (gps : GPS F) : GPS F :=
  host.millierConvertion (toDouble gps.x) (toDouble gps.y)

/-- The sender's own entry: its old one updated, if that survived the purge, or a new one.
An update keeps the physical address. -/
def senderEntry (host : Host F D) (untilTime : Int) (message : BeaconMessage)
    (survivor : Option (NeighborEntry F)) : NeighborEntry F :=
  let gps : GPS F := ⟨ofUInt32 message.srcGpsX, ofUInt32 message.srcGpsY⟩
  let point := host.millierConvertion (toDouble gps.x) (toDouble gps.y)
  { gps := gps
    timestamp := UInt32.ofInt untilTime
    speed := ⟨ofUInt32 message.srcSpeedX, ofUInt32 message.srcSpeedY⟩
    phyIp := (survivor.map NeighborEntry.phyIp).getD message.phyIp
    gpsq := (survivor.map fun entry => pushHistory entry.gpsq point).getD [point] }

theorem getElem?_neighborAfter_self (host : Host F D) (untilTime : Int) (message : BeaconMessage)
    (table : NeighborTable F) :
    (neighborAfter host untilTime message table)[message.virIp]? = some
      (senderEntry host untilTime message
        (MapSweep.sweep (olderThan 5 untilTime ·.timestamp) table)[message.virIp]?) := by
  unfold neighborAfter updateNeighbor senderEntry
  dsimp only
  split
  · rename_i entry held
    rw [held, Std.ExtTreeMap.getElem?_insert_self]
    rfl
  · rename_i absent
    rw [absent, Std.ExtTreeMap.getElem?_insert_self]
    rfl

/-- An entry behind a beacon is the sender's, or another that the purge has left. -/
theorem neighborAfter_cases {host : Host F D} {untilTime : Int} {message : BeaconMessage}
    {table : NeighborTable F} {vip : UInt32} {entry : NeighborEntry F}
    (held : (neighborAfter host untilTime message table)[vip]? = some entry) :
    (vip = message.virIp ∧ entry = senderEntry host untilTime message
        (MapSweep.sweep (olderThan 5 untilTime ·.timestamp) table)[message.virIp]?) ∨
      (vip ≠ message.virIp ∧ table[vip]? = some entry ∧
        olderThan 5 untilTime entry.timestamp = false) := by
  by_cases own : vip = message.virIp
  · rw [own, getElem?_neighborAfter_self] at held
    exact Or.inl ⟨own, (Option.some.inj held).symm⟩
  · rw [getElem?_neighborAfter_other _ _ _ _ own, MapSweep.getElem?_sweep_eq_some] at held
    exact Or.inr ⟨own, held⟩

theorem forwardAfter_cases {untilTime : Int} {message : BeaconMessage} {table : ForwardTable F}
    {vip : UInt32} {route : ForwardTableEntry F}
    (held : (forwardAfter untilTime message table)[vip]? = some route) :
    (vip = message.virIp ∧ route = ⟨message.phyIp, UInt32.ofInt untilTime,
        ⟨ofUInt32 message.srcGpsX, ofUInt32 message.srcGpsY⟩⟩) ∨
      (vip ≠ message.virIp ∧ table[vip]? = some route ∧
        olderThan 5 untilTime route.timestamp = false) := by
  by_cases own : vip = message.virIp
  · rw [own, getElem?_forwardAfter_self] at held
    exact Or.inl ⟨own, (Option.some.inj held).symm⟩
  · rw [getElem?_forwardAfter_other _ _ _ own, MapSweep.getElem?_sweep_eq_some] at held
    exact Or.inr ⟨own, held⟩

/-- `recv_beacon`. After a failed read the sender's address is undetermined too. -/
def recvBeacon (host : Host F D) (now : Timeval) (fromAddr : UInt32) (received : Received) :
    Procedure F D Unit := do
  modify fun ir =>
    { ir with beaconBuffer := received.store BeaconMessage.size ir.beaconBuffer }
  let message ← read fun ir => BeaconMessage.parse host.order ir.beaconBuffer
  let phyIp ← read IR.phyIp
  if fromAddr ≠ phyIp then
    buildNeighbor host now message

/-- A whole beacon is parsed as it was sent, and kept unless it is this node's own. -/
theorem recvBeacon_run (host : Host F D) (now : Timeval) (fromAddr : UInt32)
    (message : BeaconMessage) (ir : IR F D) :
    (recvBeacon host now fromAddr (.packet (message.bytes host.order))).run ir =
      let stored :=
        { ir with beaconBuffer := ir.beaconBuffer.overwrite 0 (message.bytes host.order) }
      if fromAddr ≠ ir.phyIp then
        ⟨.ok (),
          { stored with
            forwardTable := forwardAfter (untilTime ir.beginTime now) message ir.forwardTable
            neighborTable :=
              neighborAfter host (untilTime ir.beginTime now) message ir.neighborTable }, []⟩
      else ⟨.ok (), stored, []⟩ := by
  have stored : (Received.packet (message.bytes host.order)).store BeaconMessage.size
      ir.beaconBuffer = ir.beaconBuffer.overwrite 0 (message.bytes host.order) := by
    rw [Received.store, List.take_of_length_le (Nat.le_of_eq (message.bytes_length host.order))]
  have parsed : BeaconMessage.parse host.order
      (ir.beaconBuffer.overwrite 0 (message.bytes host.order)) = message := by
    apply BeaconMessage.parse_of_slice
    rw [← message.bytes_length host.order]
    exact Buffer.slice_overwrite _ _ _ (by rw [BeaconMessage.bytes_length]; decide)
  unfold recvBeacon
  simp only [run_bind, run_modify, run_read, Outcome.bind_ok, Outcome.after_nil, stored, parsed]
  by_cases foreign : fromAddr ≠ ir.phyIp
  · rw [if_pos foreign, if_pos foreign, buildNeighbor_run]
  · rw [if_neg foreign, if_neg foreign, run_pure]

end TunVideo
