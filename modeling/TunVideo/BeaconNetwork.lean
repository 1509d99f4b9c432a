import TunVideo.PortSeparation
import TunVideo.RoutingState

set_option autoImplicit false

namespace TunVideo

open Program

section

variable {ι F D : Type}

/-- A beacon on its way, and the address it was sent from. -/
structure BeaconInFlight where
  source : UInt32
  payload : List UInt8

structure BeaconNetwork (ι F D : Type) where
  nodes : ι → IR F D
  beacons : List BeaconInFlight

/-- Two nodes share neither their virtual nor their physical address. -/
structure DistinctAddresses (nodes : ι → IR F D) : Prop where
  virIp : Function.Injective fun node => (nodes node).virIp
  phyIp : Function.Injective fun node => (nodes node).phyIp

def Event.beacon : Event F → Option (List UInt8)
  | beaconSent _ payload => some payload
  | _ => none

/-- Only beacons that were sent are received, whole and with the address of their sender. -/
def BeaconNetwork.Possible (net : BeaconNetwork ι F D) : Operation D ⊕ Activity F D → Prop
  | .inl (.recvBeacon _ fromAddr received) =>
      ∃ beacon ∈ net.beacons, fromAddr = beacon.source ∧ received = .packet beacon.payload
  | _ => True

end

section

variable {ι F D : Type} [DecidableEq ι] [DoublePrecision D] [SinglePrecision F D]

namespace BeaconNetwork

def outcome (host : Host F D) (net : BeaconNetwork ι F D)
    (action : ι × (Operation D ⊕ Activity F D)) : Outcome (IR F D) (Event F) Stop Unit :=
  (stepProcedure host action.2).run (net.nodes action.1)

/-- One node takes a step, and the beacons it sends are in flight from then on. -/
def after (host : Host F D) (net : BeaconNetwork ι F D)
    (action : ι × (Operation D ⊕ Activity F D)) : BeaconNetwork ι F D where
  nodes := Function.update net.nodes action.1 (net.outcome host action).state
  beacons := net.beacons ++ ((net.outcome host action).events.filterMap Event.beacon).map
    fun payload => ⟨(net.nodes action.1).phyIp, payload⟩

structure Step (host : Host F D) (net : BeaconNetwork ι F D)
    (action : ι × (Operation D ⊕ Activity F D)) (next : BeaconNetwork ι F D) : Prop where
  possible : net.Possible action.2
  completed : (net.outcome host action).result = .ok ()
  same : net.after host action = next

end BeaconNetwork

/-- A run of a network whose nodes have different addresses and have just left `init`. -/
structure NetworkRun (ι : Type) [DecidableEq ι] (host : Host F D) where
  initial : ι → IR F D
  history : List (BeaconNetwork ι F D × (ι × (Operation D ⊕ Activity F D)))
  last : BeaconNetwork ι F D
  start : ∀ node, (initial node).Initial
  distinct : DistinctAddresses initial
  steps : History (BeaconNetwork.Step host) ⟨initial, []⟩ history last

end

section

variable {ι F D : Type}

/-- A beacon that carries the addresses of a node, and comes from it. -/
def SentBy (host : Host F D) (node : IR F D) (beacon : BeaconInFlight) : Prop :=
  beacon.source = node.phyIp ∧ ∃ message : BeaconMessage,
    beacon.payload = message.bytes host.order ∧ message.virIp = node.virIp ∧
      message.phyIp = node.phyIp

/-- The tables of one node name other nodes only. -/
structure NamesOthers (nodes : ι → IR F D) (node : ι) (tables : RoutingState F) : Prop where
  virIp : tables.virIp = (nodes node).virIp
  phyIp : tables.phyIp = (nodes node).phyIp
  neighbor : ∀ (vip : UInt32) (entry : NeighborEntry F), tables.neighborTable[vip]? = some entry →
    ∃ other, other ≠ node ∧ vip = (nodes other).virIp ∧ entry.phyIp = (nodes other).phyIp
  forward : ∀ (vip : UInt32) (route : ForwardTableEntry F),
    tables.forwardTable[vip]? = some route → vip ≠ (nodes node).virIp

variable {nodes : ι → IR F D} {node : ι} {ir : IR F D}

/-- A beacon of another node brings an entry with its addresses, or leaves the address that
its entry has. -/
theorem NamesOthers.heard [SinglePrecision F D] (host : Host F D)
    (names : NamesOthers nodes node ir.routing) (distinct : DistinctAddresses nodes)
    {sender : ι} (other : sender ≠ node) (now : Timeval) {message : BeaconMessage}
    (virIp : message.virIp = (nodes sender).virIp)
    (phyIp : message.phyIp = (nodes sender).phyIp) :
    NamesOthers nodes node (heardRouting host now message ir) where
  virIp := names.virIp
  phyIp := names.phyIp
  neighbor := by
    intro vip entry held
    rcases neighborAfter_cases held with ⟨own, rfl⟩ | ⟨-, listed, -⟩
    · cases survivor : (MapSweep.sweep (olderThan 5 (untilTime ir.beginTime now) ·.timestamp)
          ir.neighborTable)[message.virIp]? with
      | none => exact ⟨sender, other, own.trans virIp, phyIp⟩
      | some before =>
          rw [own]
          exact names.neighbor _ before (MapSweep.getElem?_sweep_eq_some.mp survivor).1
    · exact names.neighbor vip entry listed
  forward := by
    intro vip route held
    rcases forwardAfter_cases held with ⟨own, -⟩ | ⟨-, listed, -⟩
    · rw [own, virIp]
      exact fun same => other (distinct.virIp same)
    · exact names.forward vip route listed

theorem NamesOthers.relayed [DoublePrecision D] [SinglePrecision F D] {host : Host F D}
    {readings : Readings D} {dstIp : UInt32} {dstGps : GPS F} {after : RoutingState F}
    (names : NamesOthers nodes node ir.routing)
    (tables : ForwardingTables host readings ir dstIp dstGps after) :
    NamesOthers nodes node after where
  virIp := tables.virIp.trans names.virIp
  phyIp := tables.phyIp.trans names.phyIp
  neighbor vip entry held := names.neighbor vip entry (tables.neighbor vip entry held)
  forward := by
    intro vip route held
    rcases tables.forward with same | ⟨nextHopId, same, -⟩
    · rw [same] at held
      exact names.forward vip route held
    · rw [same, getElem?_refreshed] at held
      split at held
      · obtain ⟨before, listed, -⟩ := Option.map_eq_some_iff.mp held
        exact names.forward vip before listed
      · exact names.forward vip route held

end

section

variable {ι F D : Type} [DoublePrecision D] [SinglePrecision F D] {host : Host F D}
  {initial : ι → IR F D}

/-- What holds in a network: tables and beacons name its nodes, each beacon its sender. -/
structure NamesNodes (host : Host F D) (initial : ι → IR F D) (net : BeaconNetwork ι F D) :
    Prop where
  tables : ∀ node, NamesOthers initial node (net.nodes node).routing
  beacons : ∀ beacon ∈ net.beacons, ∃ node, SentBy host (initial node) beacon

theorem sentBy_of_emitted {node : IR F D} {chosen : Operation D ⊕ Activity F D}
    {payload : List UInt8}
    (emitted : payload ∈ ((stepProcedure host chosen).run node).events.filterMap Event.beacon) :
    SentBy host node ⟨node.phyIp, payload⟩ := by
  obtain ⟨event, member, same⟩ := List.mem_filterMap.mp emitted
  cases chosen with
  | inl operation =>
      have loop := operation_emits host operation node event member
      cases event with
      | beaconSent => exact loop.elim
      | _ => cases same
  | inr activity =>
      cases activity with
      | gpsFix gps speed => cases member
      | sigalrm stack =>
          change event ∈ ((sendBeacon host stack).run node).events at member
          rw [sendBeacon_run] at member
          obtain rfl := List.mem_singleton.mp member
          obtain rfl := Option.some.inj same
          exact ⟨rfl, _, rfl, rfl, rfl⟩

theorem namesOthers_of_step {net : BeaconNetwork ι F D} (names : NamesNodes host initial net)
    (distinct : DistinctAddresses initial) (node : ι) {chosen : Operation D ⊕ Activity F D}
    (possible : net.Possible chosen) :
    NamesOthers initial node ((stepProcedure host chosen).run (net.nodes node)).state.routing := by
  have before := names.tables node
  have routing := stepProcedure_routing host (net.nodes node) chosen
  generalize ((stepProcedure host chosen).run (net.nodes node)).state.routing = tables
    at routing ⊢
  cases routing with
  | kept => exact before
  | heard now fromAddr received foreign =>
      obtain ⟨beacon, member, rfl, rfl⟩ := possible
      obtain ⟨sender, source, message, payload, virIp, phyIp⟩ := names.beacons beacon member
      have other : sender ≠ node := by
        rintro rfl
        exact foreign (source.trans before.phyIp.symm)
      rw [payload, beaconIn_bytes]
      exact before.heard host distinct other now virIp phyIp
  | relayed readings received writeFails relayed tables => exact before.relayed tables

variable [DecidableEq ι]

theorem step_namesNodes {net next : BeaconNetwork ι F D}
    {action : ι × (Operation D ⊕ Activity F D)} (names : NamesNodes host initial net)
    (distinct : DistinctAddresses initial) (step : net.Step host action next) :
    NamesNodes host initial next := by
  rw [← step.same]
  constructor
  · intro node
    by_cases acting : node = action.1
    · subst acting
      change NamesOthers initial _ (Function.update net.nodes action.1 _ action.1).routing
      rw [Function.update_self]
      exact namesOthers_of_step names distinct action.1 step.possible
    · change NamesOthers initial _ (Function.update net.nodes action.1 _ node).routing
      rw [Function.update_of_ne acting]
      exact names.tables node
  · intro beacon member
    rcases List.mem_append.mp member with earlier | new
    · exact names.beacons beacon earlier
    · obtain ⟨payload, emitted, rfl⟩ := List.mem_map.mp new
      have sent := sentBy_of_emitted emitted
      have tables := names.tables action.1
      refine ⟨action.1, ?_⟩
      unfold SentBy at sent ⊢
      rw [← tables.virIp, ← tables.phyIp]
      exact sent

theorem networkRun_namesNodes (run : NetworkRun ι host) :
    NamesNodes host run.initial run.last := by
  have start : NamesNodes host run.initial ⟨run.initial, []⟩ := by
    constructor
    · intro node
      have tables := run.start node
      refine ⟨rfl, rfl, ?_, ?_⟩
      · intro vip entry held
        simp [IR.routing, tables.neighbor] at held
      · intro vip route held
        simp [IR.routing, tables.forward] at held
    · exact fun _ member => nomatch member
  apply @History.invariant _ _ _ _ _ _ (NamesNodes host run.initial) (fun _ _ => True) run.steps
    (fun _ _ => trivial) start
  intro before action after names _ step
  exact step_namesNodes names run.distinct step

/-- In every run of a network, a neighbour entry is the address pair of one other node, and
no node's own virtual address is a key of one of its tables. -/
theorem networkRun_namesOthers (run : NetworkRun ι host) (node : ι) :
    (∀ (vip : UInt32) entry, (run.last.nodes node).neighborTable[vip]? = some entry →
        ∃! other, other ≠ node ∧ vip = (run.last.nodes other).virIp ∧
          entry.phyIp = (run.last.nodes other).phyIp) ∧
      (run.last.nodes node).neighborTable[(run.last.nodes node).virIp]? = none ∧
      (run.last.nodes node).forwardTable[(run.last.nodes node).virIp]? = none := by
  have names := (networkRun_namesNodes run).tables
  have virIp (node : ι) : (run.last.nodes node).virIp = (run.initial node).virIp :=
    (names node).virIp
  have phyIp (node : ι) : (run.last.nodes node).phyIp = (run.initial node).phyIp :=
    (names node).phyIp
  refine ⟨?_, ?_, ?_⟩
  · intro vip entry held
    obtain ⟨other, differs, virtual, physical⟩ := (names node).neighbor vip entry held
    refine ⟨other, ⟨differs, virtual.trans (virIp other).symm,
      physical.trans (phyIp other).symm⟩, ?_⟩
    intro another same
    rw [virIp] at same
    exact run.distinct.virIp (same.2.1.symm.trans virtual)
  · rw [virIp, Option.eq_none_iff_forall_ne_some]
    intro entry held
    obtain ⟨other, differs, virtual, -⟩ := (names node).neighbor _ entry held
    exact differs (run.distinct.virIp virtual.symm)
  · rw [virIp, Option.eq_none_iff_forall_ne_some]
    intro route held
    exact (names node).forward _ route held rfl

end

inductive Stranger where
  | second
  | third
  deriving DecidableEq

def strangers : Stranger → IR Float32 Float
  | .second => .afterInit 0x0200000A 0x0200A8C0 0xFF00A8C0 ⟨0, 0⟩ 0
  | .third => .afterInit 0x0300000A 0x0300A8C0 0xFF00A8C0 ⟨0, 0⟩ 0

def unacquainted : BeaconNetwork Stranger Float32 Float := ⟨strangers, []⟩

def firstAlarm : Stranger × (Operation Float ⊕ Activity Float32 Float) :=
  (.third, .inr (.sigalrm ⟨0, 0, 0, 0, 0, 0⟩))

def alarmBeacon : List UInt8 :=
  (beaconOf Host.shortHistories ⟨0, 0, 0, 0, 0, 0⟩ (afterBeacon (strangers .third))).bytes .little

def hearsBeacon : Stranger × (Operation Float ⊕ Activity Float32 Float) :=
  (.second, .inl (.recvBeacon ⟨0, 0⟩ 0x0300A8C0 (.packet alarmBeacon)))

def announced : BeaconNetwork Stranger Float32 Float :=
  unacquainted.after .shortHistories firstAlarm

def acquainted : BeaconNetwork Stranger Float32 Float :=
  announced.after .shortHistories hearsBeacon

theorem firstAlarm_run : unacquainted.outcome .shortHistories firstAlarm =
    ⟨.ok (), afterBeacon (strangers .third),
      [.beaconSent (strangers .third).broadcastAddr alarmBeacon]⟩ :=
  sendBeacon_run ..

theorem announced_beacons : announced.beacons = [⟨0x0300A8C0, alarmBeacon⟩] := by
  rw [announced, BeaconNetwork.after, firstAlarm_run]
  rfl

theorem strangers_initial (node : Stranger) : (strangers node).Initial := by
  cases node with
  | second => exact IR.afterInit_initial ..
  | third => exact IR.afterInit_initial ..

theorem strangers_distinct : DistinctAddresses strangers where
  virIp node other same := by
    cases node <;> cases other <;> first | rfl | exact absurd same (by decide)
  phyIp node other same := by
    cases node <;> cases other <;> first | rfl | exact absurd same (by decide)

theorem acquainted_history : History (BeaconNetwork.Step Host.shortHistories) ⟨strangers, []⟩
    [(unacquainted, firstAlarm), (announced, hearsBeacon)] acquainted := by
  have alarm : unacquainted.Step Host.shortHistories firstAlarm announced :=
    ⟨trivial, by rw [firstAlarm_run], rfl⟩
  have heard : announced.Step Host.shortHistories hearsBeacon acquainted := by
    refine ⟨⟨⟨0x0300A8C0, alarmBeacon⟩, ?_, rfl, rfl⟩, ?_, rfl⟩
    · rw [announced_beacons]
      exact List.mem_singleton.mpr rfl
    · exact recvBeacon_result Host.shortHistories ⟨0, 0⟩ 0x0300A8C0 (.packet alarmBeacon) _
  exact ((History.start _).next _ alarm).next _ heard

def acquaintance : NetworkRun Stranger Host.shortHistories where
  initial := strangers
  history := [(unacquainted, firstAlarm), (announced, hearsBeacon)]
  last := acquainted
  start := strangers_initial
  distinct := strangers_distinct
  steps := acquainted_history

/-- The one neighbour of 10.0.0.2 is 10.0.0.3. -/
theorem acquaintance_namesOthers :
    (∀ (vip : UInt32) entry, (acquainted.nodes .second).neighborTable[vip]? = some entry →
        ∃! other, other ≠ Stranger.second ∧ vip = (acquainted.nodes other).virIp ∧
          entry.phyIp = (acquainted.nodes other).phyIp) ∧
      (acquainted.nodes .second).neighborTable[(acquainted.nodes .second).virIp]? = none ∧
      (acquainted.nodes .second).forwardTable[(acquainted.nodes .second).virIp]? = none :=
  networkRun_namesOthers acquaintance .second

end TunVideo
