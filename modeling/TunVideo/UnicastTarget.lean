import TunVideo.AnnouncedPosition
import TunVideo.HopBound

set_option autoImplicit false

namespace TunVideo

open Program

section

variable {F D : Type}

/-- A unicast goes to the data port, and to one of these addresses. -/
def Event.UnicastsTo (targets : UInt32 → Prop) (event : Event F) : Prop :=
  ∀ dst payload, event = .dataUnicast dst payload → dst.sinPort = dataPort ∧ targets dst.sinAddr

def IR.HasRoute (ir : IR F D) (address : UInt32) : Prop :=
  ∃ (vip : UInt32) (route : ForwardTableEntry F),
    ir.forwardTable[vip]? = some route ∧ address = route.nextHopIp

def IR.HasNeighbor (ir : IR F D) (address : UInt32) : Prop :=
  ∃ (vip : UInt32) (entry : NeighborEntry F),
    ir.neighborTable[vip]? = some entry ∧ address = entry.phyIp

theorem outgoing_unicastsTo {targets : UInt32 → Prop} (nread : Nat) :
    (outgoing nread : Procedure F D _).Emits (Event.UnicastsTo targets) :=
  .bind (.read _) fun _ => .require _ _

theorem dataBroadcast_unicastsTo {targets : UInt32 → Prop} (nread : Nat) :
    (dataBroadcast nread : Procedure F D Unit).Emits (Event.UnicastsTo targets) :=
  .bind (.single fun _ _ _ same => nomatch same) fun _ => .bind (outgoing_unicastsTo nread)
    fun _ => .single fun _ _ _ same => nomatch same

theorem sendToNextHop_unicastsTo {targets : UInt32 → Prop} {nextHopId : UInt32}
    (target : nextHopId ≠ broadcastAddress → targets nextHopId) (nread : Nat) :
    (sendToNextHop nextHopId nread : Procedure F D Unit).Emits (Event.UnicastsTo targets) := by
  unfold sendToNextHop
  split
  · rename_i usable
    refine .bind (outgoing_unicastsTo nread) fun _ => .single fun _ dst payload same => ?_
    cases same
    exact ⟨rfl, target usable⟩
  · exact .pure _

end

section

variable {F D : Type} [DoublePrecision D] [SinglePrecision F D]

/-- The next hops of `Forwarding`: a cached one, or a neighbour, but not the sentinel. -/
theorem forwarding_unicasts (host : Host F D) (readings : Readings D) (dstIp : UInt32)
    (dstGps : GPS F) (nread : Nat) (ir : IR F D) :
    ∀ event ∈ ((forwarding host readings dstIp dstGps nread).run ir).events,
      event.UnicastsTo fun address =>
        address ≠ broadcastAddress ∧ (ir.HasRoute address ∨ ir.HasNeighbor address) := by
  have quiet {events : List (Event F)} (silent : ∀ dst payload, .dataUnicast dst payload ∉ events) :
      ∀ event ∈ events, event.UnicastsTo fun address =>
        address ≠ broadcastAddress ∧ (ir.HasRoute address ∨ ir.HasNeighbor address) := by
    rintro event member dst payload rfl
    exact absurd member (silent dst payload)
  have sent (nextHopId : UInt32) (state : IR F D) {calls : List (Event F)}
      (silent : ∀ dst payload, .dataUnicast dst payload ∉ calls)
      (known : nextHopId ≠ broadcastAddress → ir.HasRoute nextHopId ∨ ir.HasNeighbor nextHopId) :
      ∀ event ∈ (((sendToNextHop nextHopId nread : Procedure F D Unit).run state).after
        calls).events, event.UnicastsTo fun address =>
          address ≠ broadcastAddress ∧ (ir.HasRoute address ∨ ir.HasNeighbor address) := by
    intro event member
    rcases List.mem_append.mp member with call | last
    · exact quiet silent event call
    · exact sendToNextHop_unicastsTo (fun usable => ⟨usable, known usable⟩) nread state event last
  have path := forwarding_path host readings dstIp dstGps nread ir
  generalize (forwarding host readings dstIp dstGps nread).run ir = outcome at path ⊢
  cases path with
  | missUnknown => exact dataBroadcast_unicastsTo nread ir
  | missStopped => exact quiet (by simp)
  | missComputed => exact quiet (by simp)
  | expiredUnknown => exact dataBroadcast_unicastsTo nread ir
  | expiredStopped => exact quiet (by simp)
  | expiredComputed entry held old known choice chosen =>
      exact sent _ _ (by simp) fun usable =>
        Or.inr ((routeChoice_subset chosen).2.resolve_left usable)
  | legal entry held => exact sent _ _ (by simp) fun _ => Or.inl ⟨_, entry, held, rfl⟩
  | illegalStopped => exact quiet (by simp)
  | illegalComputed entry held fresh illegal choice chosen =>
      refine sent _ _ (by simp) fun usable => Or.inr ?_
      obtain ⟨vip, neighbor, listed, same⟩ := (routeChoice_subset chosen).2.resolve_left usable
      exact ⟨vip, neighbor, legalTable_subset listed, same⟩

theorem recvData_unicasts (host : Host F D) (readings : Readings D) (received : Received)
    (writeFails : Bool) (ir : IR F D) :
    ∀ event ∈ ((recvData host readings received writeFails).run ir).events,
      event.UnicastsTo fun address =>
        address ≠ broadcastAddress ∧ (ir.HasRoute address ∨ ir.HasNeighbor address) := by
  have update := recvData_update host readings ir received writeFails
  generalize (recvData host readings received writeFails).run ir = outcome at update ⊢
  cases update with
  | idle _ _ silent =>
      rintro event member dst payload rfl
      obtain ⟨written, same⟩ := silent _ member
      cases same
  | relayed => exact forwarding_unicasts host readings _ _ _ _

omit [DoublePrecision D] in
/-- A local packet is sent to the next hop of its destination, whatever that is. -/
theorem recvTun_unicasts (host : Host F D) (received : Received) (sendFails : Bool) (ir : IR F D) :
    ∀ event ∈ ((recvTun host received sendFails).run ir).events,
      event.UnicastsTo ir.HasRoute := by
  have filled (nread : Nat) (message : DataMessage) :
      (fillDataBuffer host.order nread message : Procedure F D Unit).Emits
        (Event.UnicastsTo ir.HasRoute) :=
    .bind (.modify _) fun _ => .bind (.read _) fun _ => .bind (.require _ _) fun _ => .modify _
  unfold recvTun getGps recvTunAfterGps tunSending gpsByIp
  simp only [run_bind, run_modify, run_read, Outcome.bind_ok, Outcome.after_nil]
  cases held : ir.forwardTable[(received.store frameSize ir.tunBuffer).word host.order
      daddrOffset]? with
  | none =>
      refine (Emits.bind (.single ?_) fun _ => .bind (.read _) fun _ => .bind (.require _ _)
        fun _ => .bind (filled _ _) fun _ => .ite (.stop _) (.single ?_) :
          Emits (Event.UnicastsTo ir.HasRoute) _) _
      · exact fun state dst payload same => nomatch same
      · exact fun state dst payload same => nomatch same
  | some route =>
      refine (Emits.bind (.require _ _) fun _ => .bind (.require _ _) fun _ => .bind (.read _)
        fun _ => .bind (.require _ _) fun _ => .bind (filled _ _) fun _ => .single ?_ :
          Emits (Event.UnicastsTo ir.HasRoute) _) _
      intro state dst payload same
      cases same
      exact ⟨rfl, _, route, held, rfl⟩

end

section

variable {ι F D : Type} {initial : ι → IR F D} {node : ι} {ir : IR F D}

/-- Every next hop that a node stores is another node, or the sentinel for none. -/
def RoutesToOthers (initial : ι → IR F D) (node : ι) (tables : RoutingState F) : Prop :=
  ∀ (vip : UInt32) (route : ForwardTableEntry F), tables.forwardTable[vip]? = some route →
    (∃ other, other ≠ node ∧ route.nextHopIp = (initial other).phyIp) ∨
      route.nextHopIp = broadcastAddress

theorem RoutesToOthers.heard [SinglePrecision F D] (host : Host F D)
    (routes : RoutesToOthers initial node ir.routing) {sender : ι} (other : sender ≠ node)
    (now : Timeval) {message : BeaconMessage} (phyIp : message.phyIp = (initial sender).phyIp) :
    RoutesToOthers initial node (heardRouting host now message ir) := by
  intro vip route held
  rcases forwardAfter_cases held with ⟨-, rfl⟩ | ⟨-, listed, -⟩
  · exact Or.inl ⟨sender, other, phyIp⟩
  · exact routes vip route listed

variable [DoublePrecision D] [SinglePrecision F D] {host : Host F D}

/-- A relay may store a neighbour, and it may store that there is none. -/
theorem RoutesToOthers.relayed {readings : Readings D} {dstIp : UInt32} {dstGps : GPS F}
    {after : RoutingState F} (routes : RoutesToOthers initial node ir.routing)
    (names : NamesOthers initial node ir.routing)
    (tables : ForwardingTables host readings ir dstIp dstGps after) :
    RoutesToOthers initial node after := by
  intro vip route held
  rcases tables.forward with same | ⟨nextHopId, same, origin⟩
  · rw [same] at held
    exact routes vip route held
  · rw [same, getElem?_refreshed] at held
    split at held
    · obtain ⟨before, -, rfl⟩ := Option.map_eq_some_iff.mp held
      rcases origin with ⟨key, entry, listed, address⟩ | ⟨none, -⟩
      · obtain ⟨other, differs, -, physical⟩ := names.neighbor key entry listed
        exact Or.inl ⟨other, differs, address.trans physical⟩
      · exact Or.inr none
    · exact routes vip route held

variable [DecidableEq ι] {net next : BeaconNetwork ι F D}
  {action : ι × (Operation D ⊕ Activity F D)}

theorem step_routesToOthers (names : NamesNodes host initial net)
    (routes : ∀ node, RoutesToOthers initial node (net.nodes node).routing)
    (step : net.Step host action next) (node : ι) :
    RoutesToOthers initial node (next.nodes node).routing := by
  rw [← step.same]
  by_cases acting : node = action.1
  · subst acting
    rw [after_acting]
    have routing := stepProcedure_routing host (net.nodes action.1) action.2
    have before := routes action.1
    have possible := step.possible
    obtain ⟨node, chosen⟩ := action
    change RoutesToOthers initial node
      ((stepProcedure host chosen).run (net.nodes node)).state.routing
    dsimp only at before routing possible
    generalize ((stepProcedure host chosen).run (net.nodes node)).state.routing = tables
      at routing ⊢
    cases routing with
    | kept => exact before
    | heard now fromAddr received foreign =>
        obtain ⟨beacon, member, rfl, rfl⟩ := possible
        obtain ⟨sender, source, message, payload, -, phyIp⟩ := names.beacons beacon member
        have other : sender ≠ node := by
          rintro rfl
          exact foreign (source.trans (names.tables sender).phyIp.symm)
        rw [payload, beaconIn_bytes]
        exact before.heard host other now phyIp
    | relayed readings received writeFails relayed tables =>
        exact before.relayed (names.tables node) tables
  · rw [after_aside acting]
    exact routes node

theorem networkRun_routesToOthers (run : NetworkRun ι host) (node : ι) :
    RoutesToOthers run.initial node (run.last.nodes node).routing := by
  have start (node : ι) : RoutesToOthers run.initial node (run.initial node).routing := by
    intro vip route held
    simp [IR.routing, (run.start node).forward] at held
  have all := @History.along _ _ _ _ _ _ (fun history net =>
    History (BeaconNetwork.Step host) ⟨run.initial, []⟩ history net ∧
      ∀ node, RoutesToOthers run.initial node (net.nodes node).routing) run.steps
    ⟨.start _, start⟩ ?_
  · exact all.2 node
  · rintro earlier before chosen after ⟨reached, routes⟩ step
    have names := networkRun_namesNodes
      ⟨run.initial, earlier, before, run.start, run.distinct, reached⟩
    exact ⟨reached.next chosen step, step_routesToOthers names routes step⟩

/-- After every run of a network, a unicast goes to the data port of another of its nodes. Only
a local packet may go to the broadcast address instead: `recv_tun` does not know the sentinel. -/
theorem networkRun_unicastsToOthers (run : NetworkRun ι host) {dst : SockAddr}
    {payload : List UInt8}
    (shown : .dataUnicast dst payload ∈ (run.last.outcome host action).events) :
    dst.sinPort = dataPort ∧
      ((∃ other, other ≠ action.1 ∧ dst.sinAddr = (run.initial other).phyIp) ∨
        dst.sinAddr = broadcastAddress ∧
          ∃ received sendFails, action.2 = .inl (.recvTun received sendFails)) := by
  have routes := networkRun_routesToOthers run action.1
  have names := (networkRun_namesNodes run).tables action.1
  obtain ⟨node, chosen⟩ := action
  cases chosen with
  | inl operation =>
      cases operation with
      | recvTun received sendFails =>
          obtain ⟨port, vip, route, held, address⟩ :=
            recvTun_unicasts host received sendFails _ _ shown _ _ rfl
          refine ⟨port, ?_⟩
          rcases routes vip route held with ⟨other, differs, same⟩ | none
          · exact Or.inl ⟨other, differs, address.trans same⟩
          · exact Or.inr ⟨address.trans none, received, sendFails, rfl⟩
      | recvBeacon now fromAddr received =>
          have silent : (recvBeacon host now fromAddr received).Emits fun _ => False :=
            recvBeacon_emits host now fromAddr received
          exact (silent _ _ shown).elim
      | recvData readings received writeFails =>
          obtain ⟨port, real, known⟩ :=
            recvData_unicasts host readings received writeFails _ _ shown _ _ rfl
          refine ⟨port, Or.inl ?_⟩
          rcases known with ⟨vip, route, held, address⟩ | ⟨vip, entry, held, address⟩
          · obtain ⟨other, differs, same⟩ := (routes vip route held).resolve_right fun none =>
              real (address.trans none)
            exact ⟨other, differs, address.trans same⟩
          · obtain ⟨other, differs, -, same⟩ := names.neighbor vip entry held
            exact ⟨other, differs, address.trans same⟩
  | inr activity =>
      cases activity with
      | gpsFix gps speed => cases shown
      | sigalrm stack =>
          change _ ∈ ((sendBeacon host stack).run (run.last.nodes node)).events at shown
          rw [sendBeacon_run] at shown
          cases List.mem_singleton.mp shown

end

/-- In `acquaintance`, a packet for 10.0.0.3 is sent there. -/
theorem headerPacket_unicast : ∃ other : Stranger, other ≠ .second ∧
    0x0300A8C0 = (strangers other).phyIp := by
  have shown : .dataUnicast ⟨dataPort, 0x0300A8C0⟩ (headerDatagram ⟨20, 0, 0, 0, 0, 16⟩) ∈
      (acquainted.outcome .shortHistories
        (.second, .inl (.recvTun (.packet headerPacket) false))).events := by
    decide +kernel
  obtain ⟨-, reached | ⟨none, -⟩⟩ := networkRun_unicastsToOthers acquaintance shown
  · exact reached
  · exact absurd none (by decide)

end TunVideo
