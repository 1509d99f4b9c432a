import TunVideo.ObjectHeap
import TunVideo.Refinement
import TunVideo.Schedule

set_option autoImplicit false

/- The node with the tables that the source has: the maps hold pointers to objects that `new`
creates and `delete` deletes. Elsewhere they hold the objects themselves. -/
namespace TunVideo

/-- The members of `IR` and the globals, without the two tables. -/
structure Members (F D : Type) where
  virIp : UInt32
  phyIp : UInt32
  broadcastAddr : SockAddr
  beginTime : Int
  gGps : GPS F
  gSpeed : D
  gps : GPS F
  speed : D
  qGps : List (GPS F)
  tunBuffer : Buffer frameSize
  beaconBuffer : Buffer frameSize
  dataBuffer : Buffer frameSize
  dataRecvBuffer : Buffer frameSize

def IR.members {F D : Type} (ir : IR F D) : Members F D where
  virIp := ir.virIp
  phyIp := ir.phyIp
  broadcastAddr := ir.broadcastAddr
  beginTime := ir.beginTime
  gGps := ir.gGps
  gSpeed := ir.gSpeed
  gps := ir.gps
  speed := ir.speed
  qGps := ir.qGps
  tunBuffer := ir.tunBuffer
  beaconBuffer := ir.beaconBuffer
  dataBuffer := ir.dataBuffer
  dataRecvBuffer := ir.dataRecvBuffer

def Members.toIR {F D : Type} (members : Members F D) (forwardTable : ForwardTable F)
    (neighborTable : NeighborTable F) : IR F D where
  virIp := members.virIp
  phyIp := members.phyIp
  broadcastAddr := members.broadcastAddr
  beginTime := members.beginTime
  gGps := members.gGps
  gSpeed := members.gSpeed
  gps := members.gps
  speed := members.speed
  qGps := members.qGps
  forwardTable := forwardTable
  neighborTable := neighborTable
  tunBuffer := members.tunBuffer
  beaconBuffer := members.beaconBuffer
  dataBuffer := members.dataBuffer
  dataRecvBuffer := members.dataRecvBuffer

namespace Linked

open Program SinglePrecision

/-- What `new` creates. -/
inductive Object (F : Type) where
  | forward (entry : ForwardTableEntry F)
  | neighbor (entry : NeighborEntry F)

def forwardEntries (F : Type) : ObjectClass (Object F) (ForwardTableEntry F) where
  make := .forward
  cast
    | .forward entry => some entry
    | .neighbor _ => none
  cast_eq_some object value := by
    cases object with
    | forward entry => rw [Option.some.injEq, Object.forward.injEq]
    | neighbor entry => exact iff_of_false nofun nofun

def neighborEntries (F : Type) : ObjectClass (Object F) (NeighborEntry F) where
  make := .neighbor
  cast
    | .forward _ => none
    | .neighbor entry => some entry
  cast_eq_some object value := by
    cases object with
    | forward entry => exact iff_of_false nofun nofun
    | neighbor entry => rw [Option.some.injEq, Object.neighbor.injEq]

theorem entries_apart (F : Type) : (forwardEntries F).Apart (neighborEntries F) :=
  fun _ => rfl

/-- `m_forward_table` and `m_neighbor_table`, and the objects. -/
structure Tables (F : Type) where
  heap : Heap (Object F)
  forwardTable : Links UInt32
  neighborTable : Links UInt32

structure Node (F D : Type) where
  members : Members F D
  tables : Tables F

/-- Why an execution has no further step: one of the reasons of `Stop`, or a pointer to nothing
that is read, written or deleted. -/
inductive Halt where
  | stopped (reason : Stop)
  | badPointer
  deriving DecidableEq, Repr

abbrev NodeProcedure (F D α : Type) := Program (Node F D) (Event F) Halt α

section

variable {F D α β : Type}

/-- A statement that does not see the tables. -/
def aside (statement : IR F D → IR F D × List (Event F)) (node : Node F D) :
    Node F D × List (Event F) :=
  let done := statement (node.members.toIR ∅ ∅)
  ({ node with members := done.1.members }, done.2)

/-- A procedure that does not see the tables. -/
def plain : Procedure F D α → NodeProcedure F D α
  | .done value => .done value
  | .stop reason => .stop (.stopped reason)
  | .step statement next =>
      .step (aside statement) fun node => plain (next (node.members.toIR ∅ ∅))

def readTables (expression : Tables F → α) : NodeProcedure F D α :=
  read fun node => expression node.tables

def modifyTables (update : Tables F → Tables F) : NodeProcedure F D Unit :=
  modify fun node => { node with tables := update node.tables }

section

variable (cls : ObjectClass (Object F) β)

/-- `*pointer` -/
def deref (address : Nat) : NodeProcedure F D β := do
  let value ← readTables fun tables => cls.load tables.heap address
  require .badPointer value

/-- To write the members of an object. -/
def assign (address : Nat) (update : β → β) : NodeProcedure F D Unit := do
  let value ← deref cls address
  modifyTables fun tables =>
    { tables with heap := tables.heap.insert address (cls.make (update value)) }

/-- `new` -/
def create (allocator : Allocator (Object F)) (value : β) : NodeProcedure F D Nat := do
  let address ← readTables fun tables => allocator.place tables.heap
  modifyTables fun tables =>
    { tables with heap := tables.heap.insert address (cls.make value) }
  return address

/-- `delete` -/
def delete (address : Nat) : NodeProcedure F D Unit := do
  let _ ← deref cls address
  modifyTables fun tables => { tables with heap := tables.heap.erase address }

/-- The purges of `build_neighbor`. They erase pointers, and delete nothing. -/
def purge (timestamp : β → UInt32) (untilTime : Int) (heap : Heap (Object F))
    (table : Links UInt32) : Except Halt (Links UInt32) :=
  cls.walk .badPointer heap table (fun left iter =>
    .ok (if olderThan 5 untilTime (timestamp iter.2) then left.erase iter.1 else left)) table

/-- `show_neighbor` and `show_forward` read every object of a table. -/
def showTable (heap : Heap (Object F)) (table : Links UInt32) : Except Halt Unit :=
  cls.walk .badPointer heap table (fun _ _ => .ok ()) ()

end

/-- `gps_by_ip`, with what it has found in the table. -/
def gpsByIp : Option Nat → NodeProcedure F D (Option (UInt32 × GPS F))
  | some it => do
      let entry ← deref (forwardEntries F) it
      return some (entry.nextHopIp, entry.gps)
  | none => return none

/-- `m_forward_table[dstIP]->m_next_hop_ip = ..; m_forward_table[dstIP]->m_timestamp = ..`. Without
an entry, `operator[]` inserts a null pointer. -/
def refreshRoute (dstIp nextHopId : UInt32) (untilTime : Int) : NodeProcedure F D Unit := do
  let found ← readTables fun tables => tables.forwardTable[dstIp]?
  let it ← require .badPointer found
  assign (forwardEntries F) it fun entry =>
    { entry with nextHopIp := nextHopId, timestamp := UInt32.ofInt untilTime }

end

section

variable {F D : Type} [SinglePrecision F D]

def updateNeighbor (host : Host F D) (allocator : Allocator (Object F)) (untilTime : Int)
    (message : BeaconMessage) (gps : GPS F) (speed : Speed F) : NodeProcedure F D Unit := do
  let point := host.millierConvertion (toDouble gps.x) (toDouble gps.y)
  match ← readTables fun tables => tables.neighborTable[message.virIp]? with
  | some it =>
      assign (neighborEntries F) it fun entry =>
        { entry with
          timestamp := UInt32.ofInt untilTime
          speed := speed
          gps := gps
          gpsq := pushHistory entry.gpsq point }
  | none =>
      let entry ← create (neighborEntries F) allocator
        ⟨gps, UInt32.ofInt untilTime, speed, message.phyIp, []⟩
      assign (neighborEntries F) entry fun entry => { entry with gpsq := entry.gpsq ++ [point] }
      modifyTables fun tables =>
        { tables with neighborTable := tables.neighborTable.insert message.virIp entry }

def buildNeighbor (host : Host F D) (allocator : Allocator (Object F)) (now : Timeval)
    (message : BeaconMessage) : NodeProcedure F D Unit := do
  let untilTime ← plain (read fun ir => untilTime ir.beginTime now)
  let left ← readTables fun tables =>
    purge (neighborEntries F) NeighborEntry.timestamp untilTime tables.heap tables.neighborTable
  let neighborTable ← demand left
  modifyTables fun tables => { tables with neighborTable := neighborTable }
  let left ← readTables fun tables =>
    purge (forwardEntries F) ForwardTableEntry.timestamp untilTime tables.heap tables.forwardTable
  let forwardTable ← demand left
  modifyTables fun tables => { tables with forwardTable := forwardTable }
  let speed : Speed F := ⟨ofUInt32 message.srcSpeedX, ofUInt32 message.srcSpeedY⟩
  let gps : GPS F := ⟨ofUInt32 message.srcGpsX, ofUInt32 message.srcGpsY⟩
  let fentry ← create (forwardEntries F) allocator
    ⟨message.phyIp, UInt32.ofInt untilTime, gps⟩
  modifyTables fun tables =>
    { tables with forwardTable := tables.forwardTable.insert message.virIp fentry }
  updateNeighbor host allocator untilTime message gps speed
  let shown ← readTables fun tables =>
    showTable (neighborEntries F) tables.heap tables.neighborTable
  demand shown
  let shown ← readTables fun tables =>
    showTable (forwardEntries F) tables.heap tables.forwardTable
  demand shown

def recvBeacon (host : Host F D) (allocator : Allocator (Object F)) (now : Timeval)
    (fromAddr : UInt32) (received : Received) : NodeProcedure F D Unit := do
  plain (modify fun ir =>
    { ir with beaconBuffer := received.store BeaconMessage.size ir.beaconBuffer })
  let message ← plain (read fun ir => BeaconMessage.parse host.order ir.beaconBuffer)
  let phyIp ← plain (read IR.phyIp)
  if fromAddr ≠ phyIp then
    buildNeighbor host allocator now message

def recvTun (host : Host F D) (received : Received) (sendFails : Bool) :
    NodeProcedure F D Unit := do
  plain (modify fun ir => { ir with tunBuffer := received.store frameSize ir.tunBuffer })
  let nread := (UInt16.ofInt (received.count frameSize)).toNat
  plain getGps
  let it ← read fun node =>
    node.tables.forwardTable[node.members.tunBuffer.word host.order daddrOffset]?
  let opt ← gpsByIp it
  plain (tunSending host nread sendFails opt)

variable [DoublePrecision D]

/-- The entry is deleted, and then its pointer erased. -/
def isLegal (host : Host F D) (now : Timeval) (nghbrIp : UInt32) (dstGps : GPS F) :
    NodeProcedure F D Bool := do
  plain (perform fun ir => (ir, [.isLegalCalled nghbrIp dstGps ir.gps]))
  match ← readTables fun tables => tables.neighborTable[nghbrIp]? with
  | none => return false
  | some it =>
      let untilTime ← plain (read fun ir => untilTime ir.beginTime now)
      let entry ← deref (neighborEntries F) it
      if olderThan ttlNeighborTable untilTime entry.timestamp then
        delete (neighborEntries F) it
        modifyTables fun tables =>
          { tables with neighborTable := tables.neighborTable.erase nghbrIp }
        return false
      else
        let entry ← deref (neighborEntries F) it
        let angle ← plain (read fun ir => legalAngle host ir.gps entry.gps dstGps)
        return decide (angle < calNextHopAngle)

/-- The first loop of `RouteMakeup` erases pointers too, and deletes nothing. -/
def collect (host : Host F D) (gaussrand : UInt32 → Nat → D) (untilTime : Int)
    (heap : Heap (Object F)) (table : Links UInt32) :
    Except Halt (Links UInt32 × List (UInt32 × GPS F)) :=
  (neighborEntries F).walk .badPointer heap table (fun found iter =>
    if olderThan ttlNeighborTable untilTime iter.2.timestamp then
      .ok (found.1.erase iter.1, found.2)
    else
      match host.advancedPredict (gaussrand iter.1) iter.2.gpsq
        (UInt32.ofInt (age untilTime iter.2.timestamp)) iter.2.speed with
      | some gps => .ok (found.1, found.2 ++ [(iter.1, gps)])
      | none => .error (.stopped .outOfBounds)) (table, [])

def scanStep (host : Host F D) (inCone : GPS F → Bool) (heap : Heap (Object F))
    (table : Links UInt32) (dstGps : GPS F) (best : D × UInt32) (iter : UInt32 × GPS F) :
    Except Halt (D × UInt32) :=
  if inCone iter.2 then
    let dis := host.calModule iter.2 dstGps
    if dis < best.1 then
      match table[iter.1]? with
      | some it =>
          match (neighborEntries F).load heap it with
          | some entry => .ok (dis, entry.phyIp)
          | none => .error .badPointer
      | none => .error (.stopped .endIterator)
    else .ok best
  else .ok best

def scan (host : Host F D) (inCone : GPS F → Bool) (dstGps : GPS F)
    (localNeighborTable : List (UInt32 × GPS F)) (best : D × UInt32) (tables : Tables F) :
    Except Halt (D × UInt32) :=
  localNeighborTable.foldlM (scanStep host inCone tables.heap tables.neighborTable dstGps) best

def routeMakeup (host : Host F D) (now : Timeval) (gaussrand : UInt32 → Nat → D)
    (dstGps : GPS F) : NodeProcedure F D UInt32 := do
  plain (perform fun ir => (ir, [.routeMakeupCalled dstGps ir.gps]))
  let untilTime ← plain (read fun ir => untilTime ir.beginTime now)
  let selfGps ← plain (read IR.gps)
  let found ← readTables fun tables =>
    collect host gaussrand untilTime tables.heap tables.neighborTable
  let (table, localNeighborTable) ← demand found
  modifyTables fun tables => { tables with neighborTable := table }
  let first ← readTables
    (scan host (inCone host selfGps dstGps) dstGps localNeighborTable (maxDistance, 0))
  let (disMax, nextHopId) ← demand first
  if nearZero (disMax - maxDistance) then
    let second ← readTables
      (scan host (fun _ => true) dstGps localNeighborTable (disMax, nextHopId))
    let (disMax, nextHopId) ← demand second
    if nearZero (disMax - maxDistance) then
      return broadcastAddress
    else
      return nextHopId
  else
    return nextHopId

def forwarding (host : Host F D) (allocator : Allocator (Object F)) (readings : Readings D)
    (dstIp : UInt32) (dstGps : GPS F) (nread : Nat) : NodeProcedure F D Unit := do
  let it ← readTables fun tables => tables.forwardTable[dstIp]?
  let untilTime ← plain (read fun ir => untilTime ir.beginTime readings.forwarding)
  match it with
  | none =>
      if dstGps.unknown then
        plain (dataBroadcast nread)
      else
        let nextHopId ← routeMakeup host readings.routeMakeup readings.gaussrand dstGps
        let it ← require (.stopped .endIterator) it
        let found ← deref (forwardEntries F) it
        if nextHopId ≠ broadcastAddress then
          let entry ← create (forwardEntries F) allocator
            ⟨nextHopId, UInt32.ofInt untilTime, found.gps⟩
          modifyTables fun tables =>
            { tables with forwardTable := tables.forwardTable.insert dstIp entry }
        plain (sendToNextHop nextHopId nread)
  | some it =>
      let entry ← deref (forwardEntries F) it
      if olderThan ttlNeighborTable untilTime entry.timestamp then
        if dstGps.unknown then
          plain (dataBroadcast nread)
        else
          let nextHopId ← routeMakeup host readings.routeMakeup readings.gaussrand dstGps
          if nextHopId ≠ broadcastAddress then
            refreshRoute dstIp nextHopId untilTime
          plain (sendToNextHop nextHopId nread)
      else
        let entry ← deref (forwardEntries F) it
        if ← isLegal host readings.isLegal entry.nextHopIp dstGps then
          let entry ← deref (forwardEntries F) it
          plain (sendToNextHop entry.nextHopIp nread)
        else
          let nextHopId ← routeMakeup host readings.routeMakeup readings.gaussrand dstGps
          refreshRoute dstIp nextHopId untilTime
          plain (sendToNextHop nextHopId nread)

def recvData (host : Host F D) (allocator : Allocator (Object F)) (readings : Readings D)
    (received : Received) (writeFails : Bool) : NodeProcedure F D Unit := do
  plain (modify fun ir =>
    { ir with dataRecvBuffer := received.store frameSize ir.dataRecvBuffer })
  let nread := received.count frameSize
  let dstIp ← plain (read fun ir => ir.dataRecvBuffer.word host.order daddrOffset)
  let srcIp ← plain (read fun ir => ir.dataRecvBuffer.word host.order saddrOffset)
  let virIp ← plain (read IR.virIp)
  if srcIp ≠ virIp then
    let trailer ← require (.stopped .outOfBounds) (trailerOffset nread)
    if dstIp = virIp then
      if writeFails then
        stop (.stopped (.exit "Writing tun"))
      else
        plain (perform fun ir => (ir, [.tunWritten (ir.dataRecvBuffer.slice 0 trailer)]))
    else
      let dataMessage ← plain (read fun ir =>
        DataMessage.ofBuffer host.order ir.dataRecvBuffer trailer)
      let ttl := dataMessage.ttl - 1
      plain (modify fun ir =>
        { ir with
          dataRecvBuffer := ir.dataRecvBuffer.overwrite (trailer + DataMessage.ttlOffset)
            (host.order.bytes ttl) })
      if ttl > 0 then
        forwarding host allocator readings dstIp
          ⟨ofUInt32 dataMessage.dstGpsX, ofUInt32 dataMessage.dstGpsY⟩ nread.toNat

def operation (host : Host F D) : Operation D × Allocator (Object F) → NodeProcedure F D Unit
  | (.recvTun received sendFails, _) => recvTun host received sendFails
  | (.recvBeacon now fromAddr received, allocator) =>
      recvBeacon host allocator now fromAddr received
  | (.recvData readings received writeFails, allocator) =>
      recvData host allocator readings received writeFails

/-- The timer signal and a fix do not see the tables. -/
def activity (host : Host F D) (chosen : Activity F D) : NodeProcedure F D Unit :=
  plain (chosen.procedure host)

end

end Linked

end TunVideo
