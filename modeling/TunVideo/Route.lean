import TunVideo.Node

set_option autoImplicit false

namespace TunVideo

open Program

variable {F D : Type} [DoublePrecision D] [SinglePrecision F D]

/-- What the environment supplies while a datagram is relayed: the clock at each
`gettimeofday`, and the values of `gaussrand` for each neighbour's prediction. -/
structure Readings (D : Type) where
  forwarding : Timeval
  isLegal : Timeval
  routeMakeup : Timeval
  gaussrand : UInt32 → Nat → D

/-- The clock one second after the start, at every call. -/
def Readings.atOneSecond : Readings Float :=
  ⟨⟨1, 0⟩, ⟨1, 0⟩, ⟨1, 0⟩, fun _ _ => 0⟩

/-- The angle `IsLegal` computes for a neighbour. -/
def legalAngle (host : Host F D) (selfGps nghbrGps dstGps : GPS F) : D :=
  host.calTheata (GPSVec.ofGPS selfGps dstGps) (GPSVec.ofGPS selfGps nghbrGps)

def isLegal (host : Host F D) (now : Timeval) (nghbrIp : UInt32) (dstGps : GPS F) :
    Procedure F D Bool := do
  perform fun ir => (ir, [.isLegalCalled nghbrIp dstGps ir.gps])
  match ← read fun ir => ir.neighborTable[nghbrIp]? with
  | none => return false
  | some entry =>
      let untilTime ← read fun ir => untilTime ir.beginTime now
      if olderThan ttlNeighborTable untilTime entry.timestamp then
        modify fun ir => { ir with neighborTable := ir.neighborTable.erase nghbrIp }
        return false
      else
        let angle ← read fun ir => legalAngle host ir.gps entry.gps dstGps
        return decide (angle < calNextHopAngle)

/-- One round of the first loop of `RouteMakeup`: erase the entry or predict its position. -/
def collectStep (host : Host F D) (gaussrand : UInt32 → Nat → D) (untilTime : Int)
    (found : NeighborTable F × List (UInt32 × GPS F)) (iter : UInt32 × NeighborEntry F) :
    Option (NeighborTable F × List (UInt32 × GPS F)) :=
  if olderThan ttlNeighborTable untilTime iter.2.timestamp then
    some (found.1.erase iter.1, found.2)
  else
    (host.advancedPredict (gaussrand iter.1) iter.2.gpsq
      (UInt32.ofInt (age untilTime iter.2.timestamp)) iter.2.speed).map
        fun gps => (found.1, found.2 ++ [(iter.1, gps)])

def collect (host : Host F D) (gaussrand : UInt32 → Nat → D) (untilTime : Int)
    (table : NeighborTable F) : Option (NeighborTable F × List (UInt32 × GPS F)) :=
  table.toList.foldlM (collectStep host gaussrand untilTime) (table, [])

/-- One round of a scan for the position closest to the destination. -/
def scanStep (host : Host F D) (inCone : GPS F → Bool) (table : NeighborTable F) (dstGps : GPS F)
    (best : D × UInt32) (iter : UInt32 × GPS F) : Option (D × UInt32) :=
  if inCone iter.2 then
    let dis := host.calModule iter.2 dstGps
    if dis < best.1 then
      table[iter.1]?.map fun entry => (dis, entry.phyIp)
    else some best
  else some best

def scan (host : Host F D) (inCone : GPS F → Bool) (table : NeighborTable F) (dstGps : GPS F)
    (localNeighborTable : List (UInt32 × GPS F)) (best : D × UInt32) : Option (D × UInt32) :=
  localNeighborTable.foldlM (scanStep host inCone table dstGps) best

def inCone (host : Host F D) (selfGps dstGps nghbrGps : GPS F) : Bool :=
  decide (host.calTheate selfGps nghbrGps dstGps < calNextHopAngle)

def routeMakeup (host : Host F D) (now : Timeval) (gaussrand : UInt32 → Nat → D)
    (dstGps : GPS F) : Procedure F D UInt32 := do
  perform fun ir => (ir, [.routeMakeupCalled dstGps ir.gps])
  let untilTime ← read fun ir => untilTime ir.beginTime now
  let selfGps ← read IR.gps
  let found ← read fun ir => collect host gaussrand untilTime ir.neighborTable
  let (table, localNeighborTable) ← require .outOfBounds found
  modify fun ir => { ir with neighborTable := table }
  let (disMax, nextHopId) ← require .endIterator
    (scan host (inCone host selfGps dstGps) table dstGps localNeighborTable (maxDistance, 0))
  if nearZero (disMax - maxDistance) then
    let (disMax, nextHopId) ← require .endIterator
      (scan host (fun _ => true) table dstGps localNeighborTable (disMax, nextHopId))
    if nearZero (disMax - maxDistance) then
      return broadcastAddress
    else
      return nextHopId
  else
    return nextHopId

end TunVideo
