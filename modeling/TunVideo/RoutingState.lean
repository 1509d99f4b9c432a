import TunVideo.ProgramFrame
import TunVideo.Retransmission
import TunVideo.Schedule

set_option autoImplicit false

namespace TunVideo

open Program SinglePrecision

section

variable {F D : Type}

/-- The addresses of a node, its start and its tables. -/
structure RoutingState (F : Type) where
  virIp : UInt32
  phyIp : UInt32
  beginTime : Int
  forwardTable : ForwardTable F
  neighborTable : NeighborTable F

def IR.routing (ir : IR F D) : RoutingState F where
  virIp := ir.virIp
  phyIp := ir.phyIp
  beginTime := ir.beginTime
  forwardTable := ir.forwardTable
  neighborTable := ir.neighborTable

theorem getGps_routing : (getGps : Procedure F D Unit).Keeps IR.routing :=
  .modify fun _ => rfl

section

variable {γ : Type} {view : IR F D → γ}

theorem outgoing_keeps (nread : Nat) : (outgoing nread : Procedure F D _).Keeps view :=
  .bind (.read _) fun _ => .require _ _

theorem sendToNextHop_keeps (nextHopId : UInt32) (nread : Nat) :
    (sendToNextHop nextHopId nread : Procedure F D Unit).Keeps view :=
  .ite (.bind (outgoing_keeps nread) fun _ => .perform fun _ => rfl) (.pure _)

theorem dataBroadcast_keeps
    (same : ∀ ir address, view { ir with broadcastAddr := address } = view ir) (nread : Nat) :
    (dataBroadcast nread : Procedure F D Unit).Keeps view :=
  .bind (.perform fun _ => same _ _) fun _ => .bind (outgoing_keeps nread) fun _ =>
    .perform fun _ => rfl

theorem fillDataBuffer_keeps
    (same : ∀ ir buffer, view { ir with dataBuffer := buffer } = view ir) (order : ByteOrder)
    (nread : Nat) (message : DataMessage) :
    (fillDataBuffer order nread message : Procedure F D Unit).Keeps view :=
  .bind (.modify fun _ => same _ _) fun _ => .bind (.read _) fun _ => .bind (.require _ _) fun _ =>
    .modify fun _ => same _ _

end

theorem dataBroadcast_routing (nread : Nat) :
    (dataBroadcast nread : Procedure F D Unit).Keeps IR.routing :=
  dataBroadcast_keeps (fun _ _ => rfl) nread

theorem sendToNextHop_routing (nextHopId : UInt32) (nread : Nat) :
    (sendToNextHop nextHopId nread : Procedure F D Unit).Keeps IR.routing :=
  sendToNextHop_keeps nextHopId nread

theorem fillDataBuffer_routing (order : ByteOrder) (nread : Nat) (message : DataMessage) :
    (fillDataBuffer order nread message : Procedure F D Unit).Keeps IR.routing :=
  fillDataBuffer_keeps (fun _ _ => rfl) order nread message

/-- The beacon that `recv_beacon` parses: what was received, before what the buffer held. -/
def beaconIn (host : Host F D) (ir : IR F D) (received : Received) : BeaconMessage :=
  .parse host.order (received.store BeaconMessage.size ir.beaconBuffer)

/-- A whole beacon is parsed as it was sent. -/
theorem beaconIn_bytes (host : Host F D) (ir : IR F D) (message : BeaconMessage) :
    beaconIn host ir (.packet (message.bytes host.order)) = message := by
  have width := message.bytes_length host.order
  apply BeaconMessage.parse_of_slice
  rw [Received.store, List.take_of_length_le (Nat.le_of_eq width), ← width]
  apply Buffer.slice_overwrite
  rw [width]
  decide

end

section

variable {F D : Type} [SinglePrecision F D] (host : Host F D)

theorem recvTun_routing (received : Received) (sendFails : Bool) :
    (recvTun host received sendFails).Keeps IR.routing := by
  refine .bind (.modify fun _ => rfl) fun _ => .bind getGps_routing fun _ =>
    .bind (.read _) fun opt => .bind (.read _) fun _ => ?_
  cases opt with
  | some found =>
      exact .bind (.require _ _) fun _ => .bind (.require _ _) fun _ => .bind (.read _) fun _ =>
        .bind (.require _ _) fun _ => .bind (fillDataBuffer_routing _ _ _) fun _ =>
          .perform fun _ => rfl
  | none =>
      exact .bind (.perform fun _ => rfl) fun _ => .bind (.read _) fun _ =>
        .bind (.require _ _) fun _ => .bind (fillDataBuffer_routing _ _ _) fun _ =>
          .ite (.stop _) (.perform fun _ => rfl)

theorem activity_routing (chosen : Activity F D) : (chosen.procedure host).Keeps IR.routing := by
  cases chosen with
  | gpsFix gps speed => exact .modify fun _ => rfl
  | sigalrm stack =>
      intro ir
      change ((sendBeacon host stack).run ir).state.routing = _
      rw [sendBeacon_run]
      rfl

def heardRouting (now : Timeval) (message : BeaconMessage) (ir : IR F D) : RoutingState F :=
  { ir.routing with
    forwardTable := forwardAfter (untilTime ir.beginTime now) message ir.forwardTable
    neighborTable := neighborAfter host (untilTime ir.beginTime now) message ir.neighborTable }

theorem recvBeacon_routing (now : Timeval) (fromAddr : UInt32) (received : Received)
    (ir : IR F D) :
    ((recvBeacon host now fromAddr received).run ir).state.routing =
      if fromAddr ≠ ir.phyIp then heardRouting host now (beaconIn host ir received) ir
      else ir.routing := by
  unfold recvBeacon
  simp only [run_bind, run_modify, run_read, Outcome.bind_ok, Outcome.after_nil]
  split
  · rw [buildNeighbor_run]
    rfl
  · rfl

theorem recvBeacon_result (now : Timeval) (fromAddr : UInt32) (received : Received)
    (ir : IR F D) :
    ((recvBeacon host now fromAddr received).run ir).result = .ok () := by
  unfold recvBeacon
  simp only [run_bind, run_modify, run_read, Outcome.bind_ok, Outcome.after_nil]
  split
  · rw [buildNeighbor_run]
  · rfl

end

/-- What reaches the receive buffer; a failed read leaves nothing there. -/
def Received.datagram : Received → List UInt8
  | failed => []
  | packet payload => payload.take frameSize

theorem Received.store_take (payload : List UInt8) (buf : Buffer frameSize) :
    (packet payload).store frameSize buf = (packet (payload.take frameSize)).store frameSize buf := by
  rw [store, store, List.take_take, Nat.min_self]

theorem Received.count_take (payload : List UInt8) :
    (packet payload).count frameSize = (packet (payload.take frameSize)).count frameSize := by
  rw [count_packet, count_packet, List.length_take]
  omega

theorem Received.datagram_length (received : Received) :
    received.datagram.length ≤ frameSize := by
  cases received with
  | failed => exact Nat.zero_le _
  | packet payload => exact List.length_take_le _ _

section

variable {F D : Type} {ir : IR F D}

theorem getElem?_refreshed (table : ForwardTable F) (dstIp nextHopId : UInt32) (untilTime : Int)
    (vip : UInt32) :
    (refreshed table dstIp nextHopId untilTime)[vip]? =
      if dstIp = vip then table[vip]?.map fun entry =>
        { entry with nextHopIp := nextHopId, timestamp := UInt32.ofInt untilTime }
      else table[vip]? := by
  simp only [refreshed, Std.ExtTreeMap.getElem?_modify, Std.compare_eq_iff_eq]
  by_cases same : dstIp = vip
  · rw [if_pos same, if_pos same, same]
  · rw [if_neg same, if_neg same]

theorem legalTable_subset {now : Timeval} {nghbrIp vip : UInt32} {entry : NeighborEntry F}
    (held : (legalTable now ir nghbrIp)[vip]? = some entry) :
    ir.neighborTable[vip]? = some entry := by
  unfold legalTable at held
  split at held
  · exact held
  · split at held
    · rw [Std.ExtTreeMap.getElem?_erase] at held
      split at held
      · cases held
      · exact held
    · exact held

/-- A route that `RouteMakeup` has chosen comes from the table it was called with. -/
theorem routeChoice_subset [DoublePrecision D] {host : Host F D} {now : Timeval}
    {gaussrand : UInt32 → Nat → D} {dstGps : GPS F} {choice : NeighborTable F × UInt32}
    (chosen : routeChoice host now gaussrand ir dstGps = some choice) :
    (∀ (vip : UInt32) (entry : NeighborEntry F),
      choice.1[vip]? = some entry → ir.neighborTable[vip]? = some entry) ∧
    (choice.2 = broadcastAddress ∨ ∃ (vip : UInt32) (entry : NeighborEntry F),
      ir.neighborTable[vip]? = some entry ∧ choice.2 = entry.phyIp) := by
  obtain ⟨purged, answer⟩ := routeChoice_spec chosen
  have kept (vip : UInt32) (entry : NeighborEntry F) (held : choice.1[vip]? = some entry) :
      ir.neighborTable[vip]? = some entry := by
    rw [purged] at held
    exact (MapSweep.getElem?_sweep_eq_some.mp held).1
  refine ⟨kept, answer.imp_right ?_⟩
  rintro ⟨vip, entry, held, address⟩
  exact ⟨vip, entry, kept vip entry held, address⟩

/-- `IsLegal` erases an entry only when it looks at it and finds it expired. -/
theorem legalTable_keeps {now : Timeval} {nghbrIp vip : UInt32} {entry : NeighborEntry F}
    (held : ir.neighborTable[vip]? = some entry)
    (fresh : nghbrIp = vip →
      olderThan ttlNeighborTable (untilTime ir.beginTime now) entry.timestamp = false) :
    (legalTable now ir nghbrIp)[vip]? = some entry := by
  unfold legalTable
  split
  · exact held
  · rename_i looked found
    split
    · rename_i old
      have other : nghbrIp ≠ vip := by
        intro same
        rw [same, held] at found
        rw [← Option.some.inj found, fresh same] at old
        cases old
      rw [Std.ExtTreeMap.getElem?_erase, if_neg fun same => other (Std.compare_eq_iff_eq.mp same)]
      exact held
    · exact held

theorem routeChoice_keeps [DoublePrecision D] {host : Host F D} {now : Timeval}
    {gaussrand : UInt32 → Nat → D} {dstGps : GPS F} {choice : NeighborTable F × UInt32}
    {vip : UInt32} {entry : NeighborEntry F}
    (chosen : routeChoice host now gaussrand ir dstGps = some choice)
    (held : ir.neighborTable[vip]? = some entry)
    (fresh : olderThan ttlNeighborTable (untilTime ir.beginTime now) entry.timestamp = false) :
    choice.1[vip]? = some entry := by
  rw [(routeChoice_spec chosen).1]
  exact MapSweep.getElem?_sweep_eq_some.mpr ⟨held, fresh⟩

end

section

variable {F D : Type} [DoublePrecision D] [SinglePrecision F D] {host : Host F D}
  {readings : Readings D} {ir : IR F D}

/-- A failed read is handled as an empty datagram, and a long datagram as its beginning. -/
theorem recvData_datagram (received : Received) (writeFails : Bool) :
    recvData host readings received writeFails =
      recvData host readings (.packet received.datagram) writeFails := by
  cases received with
  | failed => rfl
  | packet payload =>
      unfold recvData Received.datagram
      simp only [Received.store_take payload, Received.count_take payload]

theorem recvData_short_routing {datagram : List UInt8} (writeFails : Bool)
    (short : datagram.length < DataMessage.size) :
    ((recvData host readings (.packet datagram) writeFails).run ir).state.routing =
      ir.routing := by
  obtain ⟨result, buffer, run⟩ := recvData_short_run host readings ir writeFails short
  rw [run]
  rfl

/-- What `recv_data` does beyond its receive buffer: nothing, or one call of `Forwarding`. -/
inductive RelayUpdate (host : Host F D) (readings : Readings D) (ir : IR F D)
    (datagram : List UInt8) : Outcome (IR F D) (Event F) Stop Unit → Prop
  | idle (outcome : Outcome (IR F D) (Event F) Stop Unit)
      (same : outcome.state.routing = ir.routing)
      (silent : ∀ event ∈ outcome.events, ∃ payload, event = .tunWritten payload) :
      RelayUpdate host readings ir datagram outcome
  | relayed (relayed : Relayed host ir datagram) :
      RelayUpdate host readings ir datagram
        ((forwarding host readings (dstIpOf host ir datagram) (trailerIn host ir datagram).dstGps
          datagram.length).run (relayState host ir datagram))

theorem recvData_update (host : Host F D) (readings : Readings D) (ir : IR F D)
    (received : Received) (writeFails : Bool) :
    RelayUpdate host readings ir received.datagram
      ((recvData host readings received writeFails).run ir) := by
  rw [recvData_datagram]
  have fits := received.datagram_length
  by_cases long : DataMessage.size ≤ received.datagram.length
  · have path := recvData_path host readings ir writeFails fits
    generalize (recvData host readings (.packet received.datagram) writeFails).run ir = outcome
      at path ⊢
    cases path with
    | short _ short => exact absurd long (Nat.not_le.mpr short)
    | own => exact .idle _ rfl (by simp)
    | refused => exact .idle _ rfl (by simp)
    | written => exact .idle _ rfl (by simp)
    | exhausted => exact .idle _ rfl (by simp)
    | relayed relayed => exact .relayed relayed
  · have short := Nat.not_le.mp long
    refine .idle _ (recvData_short_routing writeFails short) ?_
    rw [recvData_short host readings ir writeFails short]
    simp

/-- The branch that stores the answer of `RouteMakeup` without a look at it: the cached next
hop is refused, and there is no other. -/
def StoresNoRoute (host : Host F D) (readings : Readings D) (ir : IR F D) (dstIp : UInt32)
    (dstGps : GPS F) : Prop :=
  ∃ entry, ir.forwardTable[dstIp]? = some entry ∧
    olderThan ttlNeighborTable (untilTime ir.beginTime readings.forwarding) entry.timestamp =
      false ∧
    legalVerdict host readings.isLegal ir entry.nextHopIp dstGps = false ∧
    ∃ table, routeChoice host readings.routeMakeup readings.gaussrand
      (afterRefusal readings ir entry) dstGps = some (table, broadcastAddress)

/-- What `Forwarding` leaves of the tables: it erases neighbours, and may give the route to
the destination a new next hop. -/
structure ForwardingTables (host : Host F D) (readings : Readings D) (ir : IR F D)
    (dstIp : UInt32) (dstGps : GPS F) (after : RoutingState F) : Prop where
  virIp : after.virIp = ir.virIp
  phyIp : after.phyIp = ir.phyIp
  beginTime : after.beginTime = ir.beginTime
  neighbor : ∀ (vip : UInt32) (entry : NeighborEntry F),
    after.neighborTable[vip]? = some entry → ir.neighborTable[vip]? = some entry
  forward : after.forwardTable = ir.forwardTable ∨ ∃ nextHopId : UInt32,
    after.forwardTable = refreshed ir.forwardTable dstIp nextHopId
      (untilTime ir.beginTime readings.forwarding) ∧
    ((∃ (vip : UInt32) (entry : NeighborEntry F),
        ir.neighborTable[vip]? = some entry ∧ nextHopId = entry.phyIp) ∨
      nextHopId = broadcastAddress ∧ StoresNoRoute host readings ir dstIp dstGps)

theorem ForwardingTables.kept {dstIp : UInt32} {dstGps : GPS F} :
    ForwardingTables host readings ir dstIp dstGps ir.routing :=
  ⟨rfl, rfl, rfl, fun _ _ held => held, Or.inl rfl⟩

theorem forwarding_tables (host : Host F D) (readings : Readings D) (ir : IR F D)
    (dstIp : UInt32) (dstGps : GPS F) (nread : Nat) :
    ForwardingTables host readings ir dstIp dstGps
      ((forwarding host readings dstIp dstGps nread).run ir).state.routing := by
  have path := forwarding_path host readings dstIp dstGps nread ir
  generalize (forwarding host readings dstIp dstGps nread).run ir = outcome at path ⊢
  cases path with
  | missUnknown =>
      rw [dataBroadcast_routing nread ir]
      exact .kept
  | missStopped => exact .kept
  | missComputed _ _ choice chosen =>
      exact ⟨rfl, rfl, rfl, (routeChoice_subset chosen).1, Or.inl rfl⟩
  | expiredUnknown =>
      rw [dataBroadcast_routing nread ir]
      exact .kept
  | expiredStopped => exact .kept
  | expiredComputed entry held old known choice chosen =>
      obtain ⟨kept, answer⟩ := routeChoice_subset chosen
      rw [Outcome.after_state, sendToNextHop_routing choice.2 nread _]
      refine ⟨rfl, rfl, rfl, kept, ?_⟩
      by_cases none : choice.2 = broadcastAddress
      · exact Or.inl (if_neg (not_not.mpr none))
      · exact Or.inr ⟨choice.2, if_pos none, Or.inl (answer.resolve_left none)⟩
  | legal entry held fresh legal =>
      rw [Outcome.after_state, sendToNextHop_routing entry.nextHopIp nread ir]
      exact .kept
  | illegalStopped =>
      exact ⟨rfl, rfl, rfl, fun _ _ held => legalTable_subset held, Or.inl rfl⟩
  | illegalComputed entry held fresh illegal choice chosen =>
      obtain ⟨kept, answer⟩ := routeChoice_subset chosen
      rw [Outcome.after_state, sendToNextHop_routing choice.2 nread _]
      refine ⟨rfl, rfl, rfl, fun vip neighbor found => legalTable_subset (kept vip neighbor found),
        Or.inr ⟨choice.2, rfl, ?_⟩⟩
      rcases answer with none | ⟨vip, neighbor, found, address⟩
      · have stored : choice = (choice.1, broadcastAddress) := Prod.ext rfl none
        exact Or.inr ⟨none, entry, held, fresh, illegal, choice.1, stored ▸ chosen⟩
      · exact Or.inl ⟨vip, neighbor, legalTable_subset found, address⟩

/-- A received datagram leaves the tables alone, or is relayed. -/
theorem recvData_tables (host : Host F D) (readings : Readings D) (ir : IR F D)
    (received : Received) (writeFails : Bool) :
    ((recvData host readings received writeFails).run ir).state.routing = ir.routing ∨
      Relayed host ir received.datagram ∧
        ForwardingTables host readings ir (dstIpOf host ir received.datagram)
          (trailerIn host ir received.datagram).dstGps
          ((recvData host readings received writeFails).run ir).state.routing := by
  have update := recvData_update host readings ir received writeFails
  generalize (recvData host readings received writeFails).run ir = outcome at update ⊢
  cases update with
  | idle _ same => exact Or.inl same
  | relayed relayed =>
      -- the relay has written to its receive buffer only
      have tables := forwarding_tables host readings (relayState host ir received.datagram)
        (dstIpOf host ir received.datagram)
        (trailerIn host ir received.datagram).dstGps received.datagram.length
      exact Or.inr ⟨relayed, tables.virIp, tables.phyIp, tables.beginTime, tables.neighbor,
        tables.forward⟩

/-- What a step of a node does to its tables. -/
inductive RoutingStep (host : Host F D) (ir : IR F D) :
    Operation D ⊕ Activity F D → RoutingState F → Prop
  | kept (chosen : Operation D ⊕ Activity F D) : RoutingStep host ir chosen ir.routing
  | heard (now : Timeval) (fromAddr : UInt32) (received : Received)
      (foreign : fromAddr ≠ ir.phyIp) :
      RoutingStep host ir (.inl (.recvBeacon now fromAddr received))
        (heardRouting host now (beaconIn host ir received) ir)
  | relayed (readings : Readings D) (received : Received) (writeFails : Bool)
      {after : RoutingState F} (relayed : Relayed host ir received.datagram)
      (tables : ForwardingTables host readings ir (dstIpOf host ir received.datagram)
        (trailerIn host ir received.datagram).dstGps after) :
      RoutingStep host ir (.inl (.recvData readings received writeFails)) after

theorem stepProcedure_routing (host : Host F D) (ir : IR F D)
    (chosen : Operation D ⊕ Activity F D) :
    RoutingStep host ir chosen ((stepProcedure host chosen).run ir).state.routing := by
  cases chosen with
  | inr activity =>
      rw [stepProcedure, activity_routing host activity ir]
      exact .kept _
  | inl operation =>
      cases operation with
      | recvTun received sendFails =>
          rw [stepProcedure, Operation.procedure, recvTun_routing host received sendFails ir]
          exact .kept _
      | recvBeacon now fromAddr received =>
          rw [stepProcedure, Operation.procedure, recvBeacon_routing]
          split
          · rename_i foreign
            exact .heard now fromAddr received foreign
          · exact .kept _
      | recvData readings received writeFails =>
          rw [stepProcedure, Operation.procedure]
          rcases recvData_tables host readings ir received writeFails with
            same | ⟨relayed, tables⟩
          · rw [same]
            exact .kept _
          · exact .relayed readings received writeFails relayed tables

/-- Where the entries behind a step of a node come from. -/
theorem step_neighbor {host : Host F D} {ir after : IR F D} {chosen : Operation D ⊕ Activity F D}
    (step : stepCompletes host ir chosen after) {vip : UInt32} {entry : NeighborEntry F}
    (held : after.neighborTable[vip]? = some entry) :
    ir.neighborTable[vip]? = some entry ∨
      ∃ untilTime message survivor, vip = message.virIp ∧
        entry = senderEntry host untilTime message survivor ∧
        ∀ before, survivor = some before → ir.neighborTable[vip]? = some before := by
  have routing := stepProcedure_routing host ir chosen
  have same : after.routing.neighborTable[vip]? = some entry := held
  rw [step.2] at routing
  generalize after.routing = tables at routing same
  cases routing with
  | kept => exact Or.inl same
  | heard now fromAddr received foreign =>
      rcases neighborAfter_cases same with ⟨rfl, rfl⟩ | ⟨-, listed, -⟩
      · refine Or.inr ⟨_, _, _, rfl, rfl, ?_⟩
        exact fun before survived => (MapSweep.getElem?_sweep_eq_some.mp survived).1
      · exact Or.inl listed
  | relayed readings received writeFails relayed tables =>
      exact Or.inl (tables.neighbor vip entry same)

/-- What the entry of a sender always has, if its old one had it, every entry has in every run. -/
theorem NodeRun.neighbor_invariant {host : Host F D} {holds : NeighborEntry F → Prop}
    (heard : ∀ untilTime message survivor, (∀ before, survivor = some before → holds before) →
      holds (senderEntry host untilTime message survivor))
    (run : NodeRun host) {vip : UInt32} {entry : NeighborEntry F}
    (held : run.last.neighborTable[vip]? = some entry) : holds entry := by
  have all : ∀ (vip : UInt32) (entry : NeighborEntry F),
      run.last.neighborTable[vip]? = some entry → holds entry := by
    apply @History.invariant _ _ _ _ _ _ (fun ir => ∀ (vip : UInt32) (entry : NeighborEntry F),
      ir.neighborTable[vip]? = some entry → holds entry) (fun _ _ => True) run.steps
      (fun _ _ => trivial)
    · intro vip entry held
      simp [run.start.neighbor] at held
    · intro ir chosen after before _ step vip entry held
      rcases step_neighbor step held with listed | ⟨untilTime, message, survivor, rfl, rfl, old⟩
      · exact before vip entry listed
      · exact heard untilTime message survivor fun entry survived =>
          before _ entry (old entry survived)
  exact all vip entry held

variable {vip : UInt32} {entry : NeighborEntry F}

/-- The age tests of a relay that look at the entry of `vip` find it fresh. -/
structure RelayFindsFresh (readings : Readings D) (ir : IR F D) (vip : UInt32)
    (entry : NeighborEntry F) (events : List (Event F)) : Prop where
  isLegal : ∀ dstGps selfGps, .isLegalCalled vip dstGps selfGps ∈ events →
    olderThan ttlNeighborTable (untilTime ir.beginTime readings.isLegal) entry.timestamp = false
  routeMakeup : ∀ dstGps selfGps, .routeMakeupCalled dstGps selfGps ∈ events →
    olderThan ttlNeighborTable (untilTime ir.beginTime readings.routeMakeup) entry.timestamp =
      false

theorem forwarding_keepsNeighbor (dstIp : UInt32) (dstGps : GPS F) (nread : Nat)
    (held : ir.neighborTable[vip]? = some entry)
    (fresh : RelayFindsFresh readings ir vip entry
      ((forwarding host readings dstIp dstGps nread).run ir).events) :
    ((forwarding host readings dstIp dstGps nread).run ir).state.routing.neighborTable[vip]? =
      some entry := by
  have path := forwarding_path host readings dstIp dstGps nread ir
  generalize (forwarding host readings dstIp dstGps nread).run ir = outcome at path fresh ⊢
  cases path with
  | missUnknown =>
      rw [dataBroadcast_routing nread ir]
      exact held
  | missStopped => exact held
  | missComputed _ _ choice chosen =>
      exact routeChoice_keeps chosen held (fresh.routeMakeup dstGps ir.gps (by simp))
  | expiredUnknown =>
      rw [dataBroadcast_routing nread ir]
      exact held
  | expiredStopped => exact held
  | expiredComputed _ _ _ _ choice chosen =>
      rw [Outcome.after_state, sendToNextHop_routing choice.2 nread _]
      exact routeChoice_keeps chosen held (fresh.routeMakeup dstGps ir.gps (by simp))
  | legal cached =>
      rw [Outcome.after_state, sendToNextHop_routing cached.nextHopIp nread ir]
      exact held
  | illegalStopped cached =>
      refine legalTable_keeps held ?_
      rintro rfl
      exact fresh.isLegal dstGps ir.gps (by simp)
  | illegalComputed cached _ _ _ choice chosen =>
      rw [Outcome.after_state, sendToNextHop_routing choice.2 nread _]
      have refused : (afterRefusal readings ir cached).neighborTable[vip]? = some entry := by
        refine legalTable_keeps held ?_
        rintro rfl
        exact fresh.isLegal dstGps ir.gps (by simp)
      exact routeChoice_keeps chosen refused (fresh.routeMakeup dstGps ir.gps (by simp))

/-- A relay erases a neighbour only when an age test finds it expired. -/
theorem recvData_keepsNeighbor (received : Received) (writeFails : Bool)
    (held : ir.neighborTable[vip]? = some entry)
    (fresh : RelayFindsFresh readings ir vip entry
      ((recvData host readings received writeFails).run ir).events) :
    ((recvData host readings received writeFails).run ir).state.routing.neighborTable[vip]? =
      some entry := by
  have update := recvData_update host readings ir received writeFails
  generalize (recvData host readings received writeFails).run ir = outcome at update fresh ⊢
  cases update with
  | idle _ same =>
      rw [same]
      exact held
  | relayed =>
      exact forwarding_keepsNeighbor _ _ _ held ⟨fresh.isLegal, fresh.routeMakeup⟩

end

end TunVideo
