import TunVideo.Coordinates
import TunVideo.MapSweep

set_option autoImplicit false

namespace TunVideo

structure Timeval where
  tvSec : Int
  tvUsec : Int

/-- `TTLNEIGHBORTABLE`, in milliseconds. -/
abbrev ttlNeighborTable : Int := 3000

abbrev broadcastAddress : UInt32 := 0xFFFFFFFF

/-- Conversion to `int`, and `int` arithmetic, modulo 2 ^ 32. -/
def toInt32 (value : Int) : Int := value.bmod (2 ^ 32)

def untilTime (beginTime : Int) (now : Timeval) : Int :=
  toInt32 ((now.tvSec - beginTime) * 1000 + now.tvUsec.tdiv 1000)

/-- `until_time - (int)GetTimestamp()` -/
def age (untilTime : Int) (timestamp : UInt32) : Int :=
  toInt32 (untilTime - toInt32 timestamp.toNat)

/-- The test `until_time - (int)GetTimestamp() > limit`. -/
def olderThan (limit untilTime : Int) (timestamp : UInt32) : Bool :=
  decide (age untilTime timestamp > limit)

structure ForwardTableEntry (F : Type) where
  nextHopIp : UInt32
  timestamp : UInt32
  gps : GPS F

structure NeighborEntry (F : Type) where
  gps : GPS F
  timestamp : UInt32
  speed : Speed F
  phyIp : UInt32
  gpsq : List (GPS F)

/-- Keyed by the virtual address of the destination. -/
abbrev ForwardTable (F : Type) := Std.ExtTreeMap UInt32 (ForwardTableEntry F)

/-- Keyed by the virtual address of the neighbour. -/
abbrev NeighborTable (F : Type) := Std.ExtTreeMap UInt32 (NeighborEntry F)

theorem olderThan_eq_true {limit untilTime : Int} {timestamp : UInt32} :
    olderThan limit untilTime timestamp = true ↔ limit < age untilTime timestamp :=
  decide_eq_true_iff

theorem olderThan_eq_false {limit untilTime : Int} {timestamp : UInt32} :
    olderThan limit untilTime timestamp = false ↔ age untilTime timestamp ≤ limit := by
  rw [olderThan, decide_eq_false_iff_not, gt_iff_lt, Int.not_lt]

end TunVideo
