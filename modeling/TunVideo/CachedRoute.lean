import TunVideo.ForwardResult
import TunVideo.Schedule

set_option autoImplicit false

/- Cached next hops. The forward table stores physical addresses and the neighbour table
is keyed by virtual ones, but `IsLegal` looks a cached next hop up as a key. -/
namespace TunVideo

open Program SinglePrecision

section

variable {F D : Type} [DoublePrecision D] [SinglePrecision F D] (host : Host F D)
  (readings : Readings D) (ir : IR F D) (dstIp : UInt32) (dstGps : GPS F)

/-- A neighbour entry that is fresh and in the direction of the destination. -/
def PassesLegality (neighbor : NeighborEntry F) : Prop :=
  olderThan ttlNeighborTable (untilTime ir.beginTime readings.isLegal) neighbor.timestamp =
      false ∧
    legalAngle host ir.gps neighbor.gps dstGps < calNextHopAngle

/-- A fresh forward entry whose next hop is the physical address of a neighbour that
passes the test of `IsLegal`. -/
structure UsableNextHop (entry : ForwardTableEntry F) : Prop where
  held : ir.forwardTable[dstIp]? = some entry
  fresh : olderThan ttlNeighborTable (untilTime ir.beginTime readings.forwarding)
    entry.timestamp = false
  neighbor : ∃ (vip : UInt32) (neighbor : NeighborEntry F),
    ir.neighborTable[vip]? = some neighbor ∧ neighbor.phyIp = entry.nextHopIp ∧
      PassesLegality host readings ir dstGps neighbor

/-- `sendto` is called with the packet for the next hop, no route is computed and the tables are
left alone. -/
def FollowsCache (packet : List UInt8) (nextHopIp : UInt32)
    (outcome : Outcome (IR F D) (Event F) Stop Unit) : Prop :=
  (∃ payload, .dataUnicast ⟨dataPort, nextHopIp⟩ payload ∈ outcome.events ∧ packet <+: payload) ∧
    (∀ position self, .routeMakeupCalled position self ∉ outcome.events) ∧
    outcome.state.forwardTable = ir.forwardTable ∧
    outcome.state.neighborTable = ir.neighborTable

/-- The neighbour table has an entry under the next hop itself, and that one is usable. -/
def KeyedByNextHop (nextHopIp : UInt32) : Prop :=
  ∃ neighbor, ir.neighborTable[nextHopIp]? = some neighbor ∧
    PassesLegality host readings ir dstGps neighbor

end

section

variable {F D : Type} [DoublePrecision D] [SinglePrecision F D] {host : Host F D}
  {readings : Readings D} {ir : IR F D} {dstIp : UInt32} {dstGps : GPS F}

theorem keyedByNextHop_iff {nextHopIp : UInt32} :
    KeyedByNextHop host readings ir dstGps nextHopIp ↔
      legalVerdict host readings.isLegal ir nextHopIp dstGps = true :=
  legalVerdict_eq_true.symm

theorem legalVerdict_relayState (now : Timeval) (datagram : List UInt8) (nextHopIp : UInt32) :
    legalVerdict host now (relayState host ir datagram) nextHopIp dstGps =
      legalVerdict host now ir nextHopIp dstGps := rfl

/-- A next hop that `IsLegal` refuses is computed anew. -/
theorem refused_notFollowed {before : IR F D} {packet : List UInt8} {nread : Nat}
    {entry : ForwardTableEntry F}
    (held : ir.forwardTable[dstIp]? = some entry)
    (fresh : olderThan ttlNeighborTable (untilTime ir.beginTime readings.forwarding)
      entry.timestamp = false)
    (refused : legalVerdict host readings.isLegal ir entry.nextHopIp dstGps = false) :
    ¬FollowsCache before packet entry.nextHopIp
        ((forwarding host readings dstIp dstGps nread).run ir) := by
  rw [forwarding_illegal host readings nread held fresh refused]
  rintro ⟨-, uncomputed, -⟩
  refine uncomputed dstGps ir.gps ?_
  split
  · simp
  · simp [Outcome.after]

/-- When a datagram is relayed in a reachable state, a usable cached next hop is followed if
and only if the neighbour table happens to have a usable entry under that physical address. -/
theorem forwarding_followsCache_iff (run : NodeRun host) {datagram : List UInt8}
    {entry : ForwardTableEntry F} (long : DataMessage.size ≤ datagram.length)
    (udp : datagram.length ≤ 65507)
    (usable : UsableNextHop host readings run.last dstIp dstGps entry) :
    FollowsCache run.last (decremented host run.last datagram) entry.nextHopIp
        ((forwarding host readings dstIp dstGps datagram.length).run
          (relayState host run.last datagram)) ↔
      entry.nextHopIp ≠ broadcastAddress ∧
        KeyedByNextHop host readings run.last dstGps entry.nextHopIp := by
  have fits : datagram.length + DataMessage.size ≤ frameSize :=
    Nat.le_trans (Nat.add_le_add_right udp _) (by decide)
  obtain ⟨held, fresh, -⟩ := usable
  have held' : (relayState host run.last datagram).forwardTable[dstIp]? = some entry := held
  rw [keyedByNextHop_iff, ← legalVerdict_relayState readings.isLegal datagram]
  by_cases legal : legalVerdict host readings.isLegal (relayState host run.last datagram)
      entry.nextHopIp dstGps = true
  · rw [forwarding_legal host readings datagram.length held' fresh legal,
      sendToNextHop_run _ fits, Outcome.after_mk, relayPayload_relayState host run.last long fits]
    constructor
    · rintro ⟨⟨payload, sent, -⟩, -⟩
      refine ⟨?_, legal⟩
      intro none
      rw [if_neg (not_not.mpr none)] at sent
      simp at sent
    · rintro ⟨real, -⟩
      rw [if_pos real]
      exact ⟨⟨_, List.mem_append_right _ List.mem_cons_self, List.prefix_append _ _⟩, by simp, rfl,
        rfl⟩
  · refine iff_of_false ?_ fun both => legal both.2
    rw [Bool.not_eq_true] at legal
    exact refused_notFollowed held' fresh legal

end

/-- The first beacon a node hears: 10.0.0.2 is at (1,0), and at the given physical address. -/
def firstBeacon (phyIp : UInt32) : BeaconMessage :=
  ⟨0x0200000A, phyIp, 1, 0, 0, 0⟩

def neighborHeard (phyIp : UInt32) : NodeRun Host.shortHistories :=
  (NodeRun.atStart .shortHistories loneNode_initial).hear ⟨0, 0⟩ phyIp (firstBeacon phyIp)

/-- One second later 10.0.0.2 is a neighbour in the direction of its own packets. -/
theorem neighborHeard_known {phyIp : UInt32} (foreign : phyIp ≠ loneNode.phyIp) :
    ∃ neighbor, (neighborHeard phyIp).last.neighborTable[(0x0200000A : UInt32)]? = some neighbor ∧
      neighbor.phyIp = phyIp ∧
      PassesLegality .shortHistories .atOneSecond (neighborHeard phyIp).last ⟨2, 0⟩ neighbor := by
  have known := getElem?_neighborAfter_self .shortHistories 0 (firstBeacon phyIp) ∅
  have fresh : olderThan ttlNeighborTable (untilTime 0 ⟨1, 0⟩) 0 = false := by decide
  have angle : legalAngle Host.shortHistories (⟨0, 0⟩ : GPS Float32)
      ⟨UInt32.toFloat32 1, UInt32.toFloat32 0⟩ ⟨2, 0⟩ < calNextHopAngle := by decide +kernel
  unfold neighborHeard
  rw [NodeRun.hear_last _ _ foreign]
  refine ⟨_, known, ?_, fresh, angle⟩
  rw [senderEntry, MapSweep.sweep_empty, Std.ExtTreeMap.getElem?_empty]
  rfl

theorem neighborHeard_usable {phyIp : UInt32} (foreign : phyIp ≠ loneNode.phyIp) :
    UsableNextHop .shortHistories .atOneSecond (neighborHeard phyIp).last 0x0200000A ⟨2, 0⟩
      ⟨phyIp, 0, ⟨UInt32.toFloat32 1, UInt32.toFloat32 0⟩⟩ := by
  obtain ⟨neighbor, known, address, passes⟩ := neighborHeard_known foreign
  refine ⟨?_, ?_, 0x0200000A, neighbor, known, address, passes⟩
  · unfold neighborHeard
    rw [NodeRun.hear_last _ _ foreign]
    exact getElem?_forwardAfter_self 0 (firstBeacon phyIp) ∅
  · unfold neighborHeard
    rw [NodeRun.hear_last _ _ foreign]
    exact (by decide : olderThan ttlNeighborTable (untilTime 0 ⟨1, 0⟩) 0 = false)

/-- The next hop 192.168.0.2 is not a key of the neighbour table, and is not followed. -/
theorem forwarding_recomputesRoute :
    let state := (neighborHeard 0x0200A8C0).last
    let datagram := headerDatagram ⟨20, 0, 0, 2, 0, 16⟩
    ∃ entry, UsableNextHop .shortHistories .atOneSecond state 0x0200000A ⟨2, 0⟩ entry ∧
      ¬FollowsCache state (decremented .shortHistories state datagram) entry.nextHopIp
        ((forwarding .shortHistories .atOneSecond 0x0200000A ⟨2, 0⟩ datagram.length).run
          (relayState .shortHistories state datagram)) := by
  have usable := neighborHeard_usable (show 0x0200A8C0 ≠ loneNode.phyIp by decide)
  have absent : (neighborHeard 0x0200A8C0).last.neighborTable[(0x0200A8C0 : UInt32)]? = none := by
    unfold neighborHeard
    rw [NodeRun.hear_last _ _ (by decide)]
    refine (getElem?_neighborAfter_other _ _ _ ∅ (by decide)).trans ?_
    rw [MapSweep.sweep_empty, Std.ExtTreeMap.getElem?_empty]
  refine ⟨_, usable, refused_notFollowed usable.held usable.fresh ?_⟩
  rw [legalVerdict_relayState, legalVerdict, absent]

/-- A neighbour whose two addresses are the same is followed. -/
theorem forwarding_followsCache_same :
    let state := (neighborHeard 0x0200000A).last
    let datagram := headerDatagram ⟨20, 0, 0, 2, 0, 16⟩
    FollowsCache state (decremented .shortHistories state datagram) 0x0200000A
      ((forwarding .shortHistories .atOneSecond 0x0200000A ⟨2, 0⟩ datagram.length).run
        (relayState .shortHistories state datagram)) := by
  have foreign : (0x0200000A : UInt32) ≠ loneNode.phyIp := by decide
  obtain ⟨neighbor, known, -, passes⟩ := neighborHeard_known foreign
  exact (forwarding_followsCache_iff (neighborHeard 0x0200000A) (by decide) (by decide)
    (neighborHeard_usable foreign)).mpr ⟨by decide, neighbor, known, passes⟩

end TunVideo
