import TunVideo.Retransmission

set_option autoImplicit false

namespace TunVideo

open Program

/-- The position that `recv_data` decodes from the pair (0,90). -/
def unknownPosition : GPS Float32 := ⟨UInt32.toFloat32 0, UInt32.toFloat32 90⟩

theorem unknownPosition_unknown : unknownPosition.unknown = true := by decide +kernel

/-- The position is used as a location nowhere: the packet is broadcast, or what is stored
for its destination is used instead. -/
structure SentinelRespected (table : ForwardTable Float32) (dstIp : UInt32)
    (events : List (Event Float32)) : Prop where
  isLegal : ∀ nghbrIp selfGps, .isLegalCalled nghbrIp unknownPosition selfGps ∉ events
  routeMakeup : ∀ selfGps, .routeMakeupCalled unknownPosition selfGps ∉ events
  handled : (∃ payload, transmissions events = [(none, payload)]) ∨
    ∃ entry, table[dstIp]? = some entry ∧
      ((∃ payload, transmissions events = [(some entry.nextHopIp, payload)]) ∨
        ∃ selfGps, .isLegalCalled entry.nextHopIp entry.gps selfGps ∈ events ∨
          .routeMakeupCalled entry.gps selfGps ∈ events)

section

variable {host : Host Float32 Float} {readings : Readings Float} {ir : IR Float32 Float}
  {dstIp : UInt32} {nread : Nat}

theorem dataBroadcast_respected (table : ForwardTable Float32)
    (fits : nread + DataMessage.size ≤ frameSize) :
    SentinelRespected table dstIp
      ((dataBroadcast nread : Procedure Float32 Float Unit).run ir).events := by
  rw [dataBroadcast_run ir fits]
  exact ⟨by simp, by simp, Or.inl ⟨_, rfl⟩⟩

/-- A fresh entry sends the pair to `IsLegal`, whichever way `Forwarding` goes from there. -/
theorem forwarding_respected_iff (ir : IR Float32 Float) (dstIp : UInt32)
    (fits : nread + DataMessage.size ≤ frameSize) :
    SentinelRespected ir.forwardTable dstIp
        ((forwarding host readings dstIp unknownPosition nread).run ir).events ↔
      ∀ entry, ir.forwardTable[dstIp]? = some entry →
        olderThan ttlNeighborTable (untilTime ir.beginTime readings.forwarding)
          entry.timestamp = true := by
  have path := forwarding_path host readings dstIp unknownPosition nread ir
  generalize (forwarding host readings dstIp unknownPosition nread).run ir = outcome at path ⊢
  -- a fresh entry, and a call of `IsLegal` in front of whatever follows
  have refused {entry : ForwardTableEntry Float32} (held : ir.forwardTable[dstIp]? = some entry)
      (fresh : olderThan ttlNeighborTable (untilTime ir.beginTime readings.forwarding)
        entry.timestamp = false)
      (called : .isLegalCalled entry.nextHopIp unknownPosition ir.gps ∈ outcome.events) :
      SentinelRespected ir.forwardTable dstIp outcome.events ↔
        ∀ entry, ir.forwardTable[dstIp]? = some entry →
          olderThan ttlNeighborTable (untilTime ir.beginTime readings.forwarding)
            entry.timestamp = true := by
    refine iff_of_false (fun respected => respected.isLegal _ _ called) fun expired => ?_
    have old := expired entry held
    rw [fresh] at old
    cases old
  cases path with
  | missUnknown absent =>
      refine iff_of_true (dataBroadcast_respected _ fits) ?_
      rw [absent]
      simp
  | missStopped absent known => exact absurd unknownPosition_unknown known
  | missComputed absent known => exact absurd unknownPosition_unknown known
  | expiredUnknown entry held old =>
      refine iff_of_true (dataBroadcast_respected _ fits) ?_
      intro entry' held'
      rw [held] at held'
      rw [← Option.some.inj held']
      exact old
  | expiredStopped entry held old known => exact absurd unknownPosition_unknown known
  | expiredComputed entry held old known => exact absurd unknownPosition_unknown known
  | legal entry held fresh => exact refused held fresh List.mem_cons_self
  | illegalStopped entry held fresh => exact refused held fresh List.mem_cons_self
  | illegalComputed entry held fresh => exact refused held fresh List.mem_cons_self

/-- A relayed packet for an unknown position is handled as one exactly when the relay has
no fresh entry for its destination. -/
theorem recvData_respectsSentinel_iff {datagram : List UInt8} (writeFails : Bool)
    (udp : datagram.length ≤ 65507) (relayed : Relayed host ir datagram)
    (dstGpsX : (trailerIn host ir datagram).dstGpsX = 0)
    (dstGpsY : (trailerIn host ir datagram).dstGpsY = 90) :
    SentinelRespected ir.forwardTable (dstIpOf host ir datagram)
        ((recvData host readings (.packet datagram) writeFails).run ir).events ↔
      ∀ entry, ir.forwardTable[dstIpOf host ir datagram]? = some entry →
        olderThan ttlNeighborTable (untilTime ir.beginTime readings.forwarding)
          entry.timestamp = true := by
  have fits : datagram.length + DataMessage.size ≤ frameSize :=
    Nat.le_trans (Nat.add_le_add_right udp _) (by decide)
  have position : (trailerIn host ir datagram).dstGps = unknownPosition := by
    rw [DataMessage.dstGps, dstGpsX, dstGpsY]
    rfl
  rw [recvData_run host readings ir writeFails relayed.long (by omega), if_neg relayed.foreign,
    if_neg relayed.transit, if_pos relayed.alive, position]
  exact forwarding_respected_iff (relayState host ir datagram) _ fits

end

theorem recvData_respectsSentinel_alone :
    SentinelRespected loneNode.forwardTable (dstIpOf Host.shortHistories loneNode
        (headerDatagram ⟨20, 0, 0, 0, 90, 16⟩))
      ((recvData Host.shortHistories Readings.atOneSecond
        (.packet (headerDatagram ⟨20, 0, 0, 0, 90, 16⟩)) false).run loneNode).events := by
  have relayed : Relayed Host.shortHistories loneNode (headerDatagram ⟨20, 0, 0, 0, 90, 16⟩) :=
    ⟨by decide +kernel, by decide +kernel, by decide +kernel, by decide +kernel⟩
  refine (recvData_respectsSentinel_iff false (by decide) relayed (by decide +kernel)
    (by decide +kernel)).mpr ?_
  intro entry held
  rw [loneNode, IR.afterInit, Std.ExtTreeMap.getElem?_empty] at held
  cases held

def knowsDestination : IR Float32 Float :=
  { loneNode with
    forwardTable := (∅ : ForwardTable Float32).insert 0x0300000A ⟨0x0300A8C0, 900, ⟨1, 1⟩⟩ }

/-- A relay that has heard of 10.0.0.3 asks `IsLegal` about the direction of (0,90). -/
theorem recvData_locatesSentinel :
    let datagram := headerDatagram ⟨20, 0, 0, 0, 90, 16⟩
    Relayed Host.shortHistories knowsDestination datagram ∧
      (trailerIn Host.shortHistories knowsDestination datagram).dstGpsX = 0 ∧
      (trailerIn Host.shortHistories knowsDestination datagram).dstGpsY = 90 ∧
      ¬SentinelRespected knowsDestination.forwardTable
        (dstIpOf Host.shortHistories knowsDestination datagram)
        ((recvData Host.shortHistories Readings.atOneSecond (.packet datagram) false).run
          knowsDestination).events := by
  have relayed : Relayed Host.shortHistories knowsDestination
      (headerDatagram ⟨20, 0, 0, 0, 90, 16⟩) :=
    ⟨by decide +kernel, by decide +kernel, by decide +kernel, by decide +kernel⟩
  refine ⟨relayed, by decide +kernel, by decide +kernel, fun respected => ?_⟩
  refine respected.isLegal 0x0300A8C0 ⟨0, 0⟩ ?_
  decide +kernel

end TunVideo
