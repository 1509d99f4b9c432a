import TunVideo.OriginFreshness
import TunVideo.RoutingState

set_option autoImplicit false

/- Where the broadcast address can get to as a next hop. `RouteMakeup` answers it when it
has found no route, and three branches of `Forwarding` have to keep it out of the table. -/
namespace TunVideo

open Program

section

variable {F D : Type}

structure SentinelFree (tables : RoutingState F) : Prop where
  neighbor : ∀ (vip : UInt32) (entry : NeighborEntry F),
    tables.neighborTable[vip]? = some entry → entry.phyIp ≠ broadcastAddress
  forward : ∀ (vip : UInt32) (route : ForwardTableEntry F),
    tables.forwardTable[vip]? = some route → route.nextHopIp ≠ broadcastAddress

variable {ir : IR F D}

theorem SentinelFree.initial (start : ir.Initial) : SentinelFree ir.routing := by
  constructor
  · intro vip entry held
    simp [IR.routing, start.neighbor] at held
  · intro vip route held
    simp [IR.routing, start.forward] at held

theorem SentinelFree.heard [SinglePrecision F D] (host : Host F D)
    (free : SentinelFree ir.routing) (now : Timeval) {message : BeaconMessage}
    (real : message.phyIp ≠ broadcastAddress) :
    SentinelFree (heardRouting host now message ir) where
  neighbor := by
    intro vip entry held
    rcases neighborAfter_cases held with ⟨rfl, rfl⟩ | ⟨-, listed, -⟩
    · cases survivor : (MapSweep.sweep (olderThan 5 (untilTime ir.beginTime now) ·.timestamp)
          ir.neighborTable)[message.virIp]? with
      | none => exact real
      | some before =>
          exact free.neighbor _ before (MapSweep.getElem?_sweep_eq_some.mp survivor).1
    · exact free.neighbor vip entry listed
  forward := by
    intro vip route held
    rcases forwardAfter_cases held with ⟨-, rfl⟩ | ⟨-, listed, -⟩
    · exact real
    · exact free.forward vip route listed

variable [DoublePrecision D] [SinglePrecision F D] {host : Host F D} {readings : Readings D}

/-- A relay stores the address of a neighbour, unless it stores that there is no route. -/
theorem SentinelFree.relayed {dstIp : UInt32} {dstGps : GPS F} {after : RoutingState F}
    (free : SentinelFree ir.routing)
    (tables : ForwardingTables host readings ir dstIp dstGps after)
    (routed : ¬StoresNoRoute host readings ir dstIp dstGps) : SentinelFree after where
  neighbor vip entry held := free.neighbor vip entry (tables.neighbor vip entry held)
  forward := by
    intro vip route held
    rcases tables.forward with same | ⟨nextHopId, same, source⟩
    · rw [same] at held
      exact free.forward vip route held
    · rw [same, getElem?_refreshed] at held
      split at held
      · obtain ⟨before, -, rfl⟩ := Option.map_eq_some_iff.mp held
        rcases source with ⟨neighbor, entry, listed, address⟩ | ⟨-, stored⟩
        · dsimp only
          rw [address]
          exact free.neighbor neighbor entry listed
        · exact absurd stored routed
      · exact free.forward vip route held

/-- The beacons that a step receives come from real addresses. -/
def HearsRealAddress (host : Host F D) (ir : IR F D) : Operation D ⊕ Activity F D → Prop
  | .inl (.recvBeacon _ _ received) => (beaconIn host ir received).phyIp ≠ broadcastAddress
  | _ => True

/-- A step that relays a datagram does not store that there is no route. -/
def StoresRoutes (host : Host F D) (ir : IR F D) : Operation D ⊕ Activity F D → Prop
  | .inl (.recvData readings received _) => Relayed host ir received.datagram →
      ¬StoresNoRoute host readings ir (dstIpOf host ir received.datagram)
        (trailerIn host ir received.datagram).dstGps
  | _ => True

theorem step_sentinelFree {chosen : Operation D ⊕ Activity F D} {after : IR F D}
    (free : SentinelFree ir.routing) (real : HearsRealAddress host ir chosen)
    (routed : StoresRoutes host ir chosen) (step : stepCompletes host ir chosen after) :
    SentinelFree after.routing := by
  have routing := stepProcedure_routing host ir chosen
  rw [step.2] at routing
  generalize after.routing = tables at routing ⊢
  cases routing with
  | kept => exact free
  | heard now fromAddr received foreign => exact free.heard host now real
  | relayed readings received writeFails relayed tables =>
      exact free.relayed tables (routed relayed)

end

section

variable {F D : Type} [SinglePrecision F D] {ir : IR F D}

/-- What the tables are kept free of the broadcast address for. -/
structure SentinelStaysOut (ir : IR F D) : Prop where
  forward : ∀ (vip : UInt32) route, ir.forwardTable[vip]? = some route →
    route.nextHopIp ≠ broadcastAddress
  unicast : ∀ (host : Host F D) received sendFails dst payload,
    .dataUnicast dst payload ∈ ((recvTun host received sendFails).run ir).events →
      dst.sinAddr ≠ broadcastAddress

theorem SentinelFree.staysOut (free : SentinelFree ir.routing) : SentinelStaysOut ir where
  forward := free.forward
  unicast := by
    intro host received sendFails dst payload sent
    obtain ⟨route, held, same⟩ := recvTun_unicast sent
    rw [same]
    exact free.forward _ route held

end

section

variable {F D : Type} [DoublePrecision D] [SinglePrecision F D] {host : Host F D}
  {readings : Readings D} {ir : IR F D}

/-- A relay that finds no route behind a refused next hop does store the address. -/
theorem forwarding_storesSentinel (ir : IR F D) {dstIp : UInt32} {dstGps : GPS F} (nread : Nat)
    (stored : StoresNoRoute host readings ir dstIp dstGps) :
    ∃ route, ((forwarding host readings dstIp dstGps nread).run ir).state.forwardTable[dstIp]? =
      some route ∧ route.nextHopIp = broadcastAddress := by
  obtain ⟨entry, held, fresh, illegal, table, chosen⟩ := stored
  rw [forwarding_illegal host readings nread held fresh illegal, chosen]
  have tables := sendToNextHop_routing broadcastAddress nread
    { ir with
      neighborTable := table
      forwardTable := refreshed ir.forwardTable dstIp broadcastAddress
        (untilTime ir.beginTime readings.forwarding) }
  have same := congrArg (·.forwardTable[dstIp]?) tables
  dsimp only [IR.routing] at same
  rw [getElem?_refreshed, if_pos rfl, held] at same
  exact ⟨_, same, rfl⟩

theorem recvData_storesSentinel {received : Received} (writeFails : Bool)
    (relayed : Relayed host ir received.datagram)
    (stored : StoresNoRoute host readings ir (dstIpOf host ir received.datagram)
      (trailerIn host ir received.datagram).dstGps) :
    ¬SentinelStaysOut ((recvData host readings received writeFails).run ir).state := by
  intro staysOut
  rw [recvData_datagram, recvData_run host readings ir writeFails relayed.long
    received.datagram_length, if_neg relayed.foreign, if_neg relayed.transit,
    if_pos relayed.alive] at staysOut
  obtain ⟨route, held, address⟩ :=
    forwarding_storesSentinel (relayState host ir received.datagram) received.datagram.length
      stored
  exact staysOut.forward _ route held address

/-- A step from tables without the broadcast address keeps it out exactly when it does not
store that there is no route. -/
theorem step_sentinelStaysOut_iff {chosen : Operation D ⊕ Activity F D} {after : IR F D}
    (free : SentinelFree ir.routing) (step : stepCompletes host ir chosen after) :
    HearsRealAddress host ir chosen ∧ SentinelStaysOut after ↔
      HearsRealAddress host ir chosen ∧ StoresRoutes host ir chosen := by
  apply and_congr_right
  intro real
  constructor
  · intro staysOut
    rw [← step.2] at staysOut
    cases chosen with
    | inr activity => trivial
    | inl operation =>
        cases operation with
        | recvTun received sendFails => trivial
        | recvBeacon now fromAddr received => trivial
        | recvData readings received writeFails =>
            intro relayed stored
            exact recvData_storesSentinel writeFails relayed stored staysOut
  · intro routed
    exact (step_sentinelFree free real routed step).staysOut

/-- The broadcast address stays out of every state of a run if and only if its relays store
only routes. -/
theorem run_sentinelStaysOut_iff (run : NodeRun host)
    (real : ∀ visited ∈ run.history, HearsRealAddress host visited.1 visited.2) :
    ((∀ visited ∈ run.history, SentinelStaysOut visited.1) ∧ SentinelStaysOut run.last) ↔
      ∀ visited ∈ run.history, StoresRoutes host visited.1 visited.2 := by
  have along := run.steps.forall_iff (SentinelFree.initial run.start)
    (fun _ free => free.staysOut)
    (fun _ _ _ free step met => step_sentinelFree free met.1 met.2 step)
    (fun _ _ _ free step => step_sentinelStaysOut_iff free step)
  constructor
  · rintro ⟨each, last⟩ visited member
    have met := along.mp ⟨fun visited member => ⟨each visited member, real visited member⟩, last⟩
    exact (met visited member).2
  · intro routed
    obtain ⟨each, last⟩ :=
      along.mpr fun visited member => ⟨real visited member, routed visited member⟩
    exact ⟨fun visited member => (each visited member).1, last⟩

end

def heardDestination : NodeRun Host.shortHistories :=
  (NodeRun.atStart .shortHistories loneNode_initial).hear ⟨0, 0⟩ 0x0300A8C0
    ⟨0x0300000A, 0x0300A8C0, 1, 0, 0, 0⟩

/-- The clock while a packet for 10.0.0.3 is relayed: the neighbour expires on the way. -/
def whileExpiring : Readings Float :=
  ⟨⟨3, 0⟩, ⟨3, 0⟩, ⟨3, 1000⟩, fun _ _ => 0⟩

theorem heardDestination_real :
    ∀ visited ∈ heardDestination.history,
      HearsRealAddress Host.shortHistories visited.1 visited.2 := by
  intro visited member
  rw [List.mem_singleton.mp member]
  change (beaconIn Host.shortHistories _ (.packet (BeaconMessage.bytes _ _))).phyIp ≠ _
  rw [beaconIn_bytes]
  decide

theorem heardDestination_staysOut :
    (∀ visited ∈ heardDestination.history, SentinelStaysOut visited.1) ∧
      SentinelStaysOut heardDestination.last := by
  apply (run_sentinelStaysOut_iff heardDestination heardDestination_real).mpr
  intro visited member
  rw [List.mem_singleton.mp member]
  trivial

def relayedLate : NodeRun Host.shortHistories :=
  heardDestination.step
    (.inl (.recvData whileExpiring (.packet (headerDatagram ⟨20, 0, 0, 1, 0, 16⟩)) false))
    (by decide +kernel)

/-- `IsLegal` refuses the fresh next hop, `RouteMakeup` finds no other, and its answer is
stored. -/
theorem relay_storesSentinel :
    ¬∀ run : NodeRun Host.shortHistories,
      (∀ visited ∈ run.history, HearsRealAddress Host.shortHistories visited.1 visited.2) →
      SentinelStaysOut run.last := by
  intro staysOut
  have hop : (relayedLate.last.forwardTable[(0x0300000A : UInt32)]?.map
      ForwardTableEntry.nextHopIp) = some broadcastAddress := by
    decide +kernel
  obtain ⟨route, held, address⟩ := Option.map_eq_some_iff.mp hop
  refine (staysOut relayedLate ?_).forward _ route held address
  intro visited member
  rcases List.mem_append.mp member with earlier | last
  · exact heardDestination_real visited earlier
  · rw [List.mem_singleton.mp last]
    trivial

end TunVideo
