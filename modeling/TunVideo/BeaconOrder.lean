import TunVideo.TaskClock

set_option autoImplicit false

namespace TunVideo

open Program SinglePrecision

section

variable {F D : Type}

/-- What has just been stamped is not purged. -/
theorem olderThan_now (beginTime : Int) (now : Timeval) :
    olderThan 5 (untilTime beginTime now) (UInt32.ofInt (untilTime beginTime now)) = false := by
  rw [olderThan_eq_false, untilTime_eq, age_stored, Int.sub_self]
  decide

variable [SinglePrecision F D]

theorem forwardAfter_renews (untilTime : Int) (message : BeaconMessage) (table : ForwardTable F) :
    MapSweep.Renews (olderThan 5 untilTime ·.timestamp) message.virIp
      (fun _ => ⟨message.phyIp, UInt32.ofInt untilTime,
        ⟨ofUInt32 message.srcGpsX, ofUInt32 message.srcGpsY⟩⟩)
      table (forwardAfter untilTime message table) where
  own := getElem?_forwardAfter_self untilTime message table
  others _ differs := getElem?_forwardAfter_other untilTime message table differs

theorem neighborAfter_renews (host : Host F D) (untilTime : Int) (message : BeaconMessage)
    (table : NeighborTable F) :
    MapSweep.Renews (olderThan 5 untilTime ·.timestamp) message.virIp
      (senderEntry host untilTime message) table (neighborAfter host untilTime message table) where
  own := getElem?_neighborAfter_self host untilTime message table
  others _ differs := getElem?_neighborAfter_other host untilTime message table differs

/-- `build_neighbor` on one beacon and then on another, at one reading of the clock. -/
def buildBoth (host : Host F D) (now : Timeval) (first second : BeaconMessage) :
    Procedure F D Unit := do
  buildNeighbor host now first
  buildNeighbor host now second

/-- Beacons of two neighbours may be processed in either order. -/
theorem buildBoth_comm (host : Host F D) (now : Timeval) {first second : BeaconMessage}
    (differ : first.virIp ≠ second.virIp) (ir : IR F D) :
    (buildBoth host now first second).run ir = (buildBoth host now second first).run ir := by
  have fresh := olderThan_now ir.beginTime now
  have forward := (forwardAfter_renews (untilTime ir.beginTime now) first ir.forwardTable).comm
    (forwardAfter_renews _ second _) (forwardAfter_renews _ second _)
    (forwardAfter_renews _ first _) differ (fun _ => fresh) (fun _ => fresh)
  have neighbor := (neighborAfter_renews host (untilTime ir.beginTime now) first
    ir.neighborTable).comm (neighborAfter_renews host _ second _)
    (neighborAfter_renews host _ second _) (neighborAfter_renews host _ first _) differ
    (fun _ => fresh) (fun _ => fresh)
  simp only [buildBoth, run_bind, buildNeighbor_run, Outcome.bind_ok, Outcome.after_nil]
  rw [forward, neighbor]

end

/-- 10.0.0.2 and 10.0.0.3 are both heard after a second. -/
theorem buildBoth_comm_two :
    (buildBoth Host.shortHistories ⟨1, 0⟩ ⟨0x0200000A, 0x0200A8C0, 1, 0, 0, 0⟩
        ⟨0x0300000A, 0x0300A8C0, 2, 0, 0, 0⟩).run loneNode =
      (buildBoth Host.shortHistories ⟨1, 0⟩ ⟨0x0300000A, 0x0300A8C0, 2, 0, 0, 0⟩
        ⟨0x0200000A, 0x0200A8C0, 1, 0, 0, 0⟩).run loneNode :=
  buildBoth_comm .shortHistories ⟨1, 0⟩ (by decide) loneNode

end TunVideo
