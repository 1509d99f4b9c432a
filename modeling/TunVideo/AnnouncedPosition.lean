import TunVideo.BeaconNetwork
import TunVideo.OwnPosition

set_option autoImplicit false

namespace TunVideo

open Program SinglePrecision

section

variable {ι F D : Type}

abbrev NetworkHistory (ι F D : Type) :=
  List (BeaconNetwork ι F D × (ι × (Operation D ⊕ Activity F D)))

def fixOf [DecidableEq ι] (node : ι) : ι × (Operation D ⊕ Activity F D) → Option (GPS F)
  | (acting, .inr (.gpsFix gps _)) => if acting = node then some gps else none
  | _ => none

/-- The position a node starts with, and what its `gps_thread` has read since. -/
def fixes [DecidableEq ι] (initial : ι → IR F D) (history : NetworkHistory ι F D) (node : ι) :
    List (GPS F) :=
  (initial node).gGps :: history.filterMap fun visited => fixOf node visited.2

theorem fixes_later [DecidableEq ι] {initial : ι → IR F D} {history : NetworkHistory ι F D}
    {node : ι} {gps : GPS F} (member : gps ∈ fixes initial history node)
    (visited : BeaconNetwork ι F D × (ι × (Operation D ⊕ Activity F D))) :
    gps ∈ fixes initial (history ++ [visited]) node := by
  rw [fixes, List.filterMap_append, ← List.cons_append]
  exact List.mem_append_left _ member

variable [SinglePrecision F D]

def BeaconMessage.velocity (message : BeaconMessage) : Speed F :=
  ⟨ofUInt32 message.srcSpeedX, ofUInt32 message.srcSpeedY⟩

/-- The history of a sender's entry has one point more than the entry that it replaces. -/
theorem senderEntry_points {host : Host F D} {untilTime : Int} {message : BeaconMessage}
    {survivor : Option (NeighborEntry F)} {point : GPS F}
    (member : point ∈ (senderEntry host untilTime message survivor).gpsq) :
    point = host.millierConvertion (toDouble (ofUInt32 message.srcGpsX : F))
        (toDouble (ofUInt32 message.srcGpsY : F)) ∨
      ∃ before, survivor = some before ∧ point ∈ before.gpsq := by
  cases survivor with
  | none => exact Or.inl (List.mem_singleton.mp member)
  | some before =>
      rcases List.mem_append.mp member with kept | new
      · refine Or.inr ⟨before, rfl, ?_⟩
        split at kept
        · exact List.mem_of_mem_tail kept
        · exact kept
      · exact Or.inl (List.mem_singleton.mp new)

variable [DecidableEq ι]

/-- A beacon that a node has sent, about itself and from one of its own fixes. -/
structure AnnouncedBy (host : Host F D) (initial : ι → IR F D) (history : NetworkHistory ι F D)
    (sender : ι) (message : BeaconMessage) : Prop where
  virIp : message.virIp = (initial sender).virIp
  phyIp : message.phyIp = (initial sender).phyIp
  sent : ∃ net stack, (net, sender, Sum.inr (.sigalrm stack)) ∈ history ∧
    message = beaconOf host stack (afterBeacon (net.nodes sender))
  fix : ∃ gps ∈ fixes initial history sender,
    message.srcGpsX = gps.gpsXToUint32 ∧ message.srcGpsY = gps.gpsYToUint32

theorem AnnouncedBy.later {host : Host F D} {initial : ι → IR F D}
    {history : NetworkHistory ι F D} {sender : ι} {message : BeaconMessage}
    (announced : AnnouncedBy host initial history sender message)
    (visited : BeaconNetwork ι F D × (ι × (Operation D ⊕ Activity F D))) :
    AnnouncedBy host initial (history ++ [visited]) sender message := by
  obtain ⟨virIp, phyIp, ⟨net, stack, member, same⟩, ⟨gps, fix, words⟩⟩ := announced
  exact ⟨virIp, phyIp, ⟨net, stack, List.mem_append_left _ member, same⟩,
    ⟨gps, fixes_later fix visited, words⟩⟩

/-- What a node keeps about others, it has read from their beacons with that address: position and
speed from one beacon, and each position of the history from some beacon. -/
structure Informed (host : Host F D) (initial : ι → IR F D) (history : NetworkHistory ι F D)
    (node : ι) (tables : RoutingState F) : Prop where
  neighbor : ∀ (vip : UInt32) (entry : NeighborEntry F),
    tables.neighborTable[vip]? = some entry → ∃ sender message, sender ≠ node ∧
      AnnouncedBy host initial history sender message ∧ message.virIp = vip ∧
      entry.gps = message.position ∧ entry.speed = message.velocity
  points : ∀ (vip : UInt32) (entry : NeighborEntry F),
    tables.neighborTable[vip]? = some entry → ∀ point ∈ entry.gpsq,
      ∃ sender message, AnnouncedBy host initial history sender message ∧ message.virIp = vip ∧
        point = host.millierConvertion (toDouble (ofUInt32 message.srcGpsX : F))
          (toDouble (ofUInt32 message.srcGpsY : F))
  forward : ∀ (vip : UInt32) (route : ForwardTableEntry F),
    tables.forwardTable[vip]? = some route → ∃ sender message, sender ≠ node ∧
      AnnouncedBy host initial history sender message ∧ message.virIp = vip ∧
      route.gps = message.position

variable {host : Host F D} {initial : ι → IR F D} {history : NetworkHistory ι F D} {node : ι}
  {ir : IR F D}

theorem Informed.later {tables : RoutingState F}
    (informed : Informed host initial history node tables)
    (visited : BeaconNetwork ι F D × (ι × (Operation D ⊕ Activity F D))) :
    Informed host initial (history ++ [visited]) node tables where
  neighbor vip entry held := by
    obtain ⟨sender, message, other, announced, rest⟩ := informed.neighbor vip entry held
    exact ⟨sender, message, other, announced.later visited, rest⟩
  points vip entry held point member := by
    obtain ⟨sender, message, announced, rest⟩ := informed.points vip entry held point member
    exact ⟨sender, message, announced.later visited, rest⟩
  forward vip route held := by
    obtain ⟨sender, message, other, announced, rest⟩ := informed.forward vip route held
    exact ⟨sender, message, other, announced.later visited, rest⟩

/-- A beacon of another node replaces position and speed, and adds one point. -/
theorem Informed.heard (informed : Informed host initial history node ir.routing) {sender : ι}
    (other : sender ≠ node) {message : BeaconMessage}
    (announced : AnnouncedBy host initial history sender message) (now : Timeval) :
    Informed host initial history node (heardRouting host now message ir) where
  neighbor := by
    intro vip entry held
    rcases neighborAfter_cases held with ⟨rfl, rfl⟩ | ⟨-, listed, -⟩
    · exact ⟨sender, message, other, announced, rfl, rfl, rfl⟩
    · exact informed.neighbor vip entry listed
  points := by
    intro vip entry held point member
    rcases neighborAfter_cases held with ⟨rfl, rfl⟩ | ⟨-, listed, -⟩
    · rcases senderEntry_points member with new | ⟨before, survived, kept⟩
      · exact ⟨sender, message, announced, rfl, new⟩
      · have listed := (MapSweep.getElem?_sweep_eq_some.mp survived).1
        exact informed.points _ before listed point kept
    · exact informed.points vip entry listed point member
  forward := by
    intro vip route held
    rcases forwardAfter_cases held with ⟨rfl, rfl⟩ | ⟨-, listed, -⟩
    · exact ⟨sender, message, other, announced, rfl, rfl⟩
    · exact informed.forward vip route listed

theorem Informed.relayed [DoublePrecision D] {readings : Readings D} {dstIp : UInt32}
    {dstGps : GPS F} {after : RoutingState F}
    (informed : Informed host initial history node ir.routing)
    (tables : ForwardingTables host readings ir dstIp dstGps after) :
    Informed host initial history node after where
  neighbor vip entry held := informed.neighbor vip entry (tables.neighbor vip entry held)
  points vip entry held := informed.points vip entry (tables.neighbor vip entry held)
  forward := by
    intro vip route held
    rcases tables.forward with same | ⟨nextHopId, same, -⟩
    · rw [same] at held
      exact informed.forward vip route held
    · rw [same, getElem?_refreshed] at held
      split at held
      · obtain ⟨before, listed, rfl⟩ := Option.map_eq_some_iff.mp held
        exact informed.forward vip before listed
      · exact informed.forward vip route held

end

section

variable {ι F D : Type} [DecidableEq ι] [DoublePrecision D] [SinglePrecision F D] {host : Host F D}
  {initial : ι → IR F D}

/-- Every beacon in flight is one that its sender has announced, and every node keeps only what
others have announced. -/
structure NetworkInformed (host : Host F D) (initial : ι → IR F D)
    (history : NetworkHistory ι F D) (net : BeaconNetwork ι F D) : Prop where
  own : ∀ node, (net.nodes node).gGps ∈ fixes initial history node
  beacons : ∀ beacon ∈ net.beacons, ∃ sender message, beacon.source = (initial sender).phyIp ∧
    beacon.payload = message.bytes host.order ∧
    AnnouncedBy host initial history sender message
  tables : ∀ node, Informed host initial history node (net.nodes node).routing

variable {history : NetworkHistory ι F D} {net next : BeaconNetwork ι F D}
  {action : ι × (Operation D ⊕ Activity F D)}

theorem after_acting :
    (net.after host action).nodes action.1 = (net.outcome host action).state :=
  Function.update_self ..

theorem after_aside {node : ι} (aside : node ≠ action.1) :
    (net.after host action).nodes node = net.nodes node :=
  Function.update_of_ne aside ..

theorem step_fix (own : ∀ node, (net.nodes node).gGps ∈ fixes initial history node)
    (step : net.Step host action next) (node : ι) :
    (next.nodes node).gGps ∈ fixes initial (history ++ [(net, action)]) node := by
  have earlier := fixes_later (own node) (net, action)
  rw [← step.same]
  by_cases acting : node = action.1
  · subst acting
    have followed : (net.outcome host action).state.own =
        (net.nodes action.1).own.follow action.2 :=
      step_own host ⟨step.completed, rfl⟩
    have same : (net.outcome host action).state.gGps =
        ((net.nodes action.1).own.follow action.2).fix := congrArg OwnState.fix followed
    rw [after_acting, same]
    obtain ⟨acting, chosen⟩ := action
    cases chosen with
    | inl operation => cases operation <;> exact earlier
    | inr activity =>
        cases activity with
        | sigalrm stack => exact earlier
        | gpsFix gps speed =>
            have listed : (net, acting, Sum.inr (.gpsFix gps speed)) ∈
                history ++ [(net, acting, Sum.inr (.gpsFix gps speed))] :=
              List.mem_append_right _ (List.mem_singleton.mpr rfl)
            exact List.mem_cons_of_mem _ (List.mem_filterMap.mpr ⟨_, listed, if_pos rfl⟩)
  · rw [after_aside acting]
    exact earlier

omit [DecidableEq ι] in
theorem emitted_beacon {node : IR F D} {chosen : Operation D ⊕ Activity F D} {payload : List UInt8}
    (emitted : payload ∈ ((stepProcedure host chosen).run node).events.filterMap Event.beacon) :
    ∃ stack, chosen = .inr (.sigalrm stack) ∧
      payload = (beaconOf host stack (afterBeacon node)).bytes host.order := by
  obtain ⟨event, member, same⟩ := List.mem_filterMap.mp emitted
  cases chosen with
  | inl operation =>
      have loop := operation_emits host operation node event member
      cases event with
      | beaconSent => exact loop.elim
      | _ => cases same
  | inr activity =>
      cases activity with
      | gpsFix gps speed => cases member
      | sigalrm stack =>
          change event ∈ ((sendBeacon host stack).run node).events at member
          rw [sendBeacon_run] at member
          rw [List.mem_singleton.mp member] at same
          exact ⟨stack, rfl, (Option.some.inj same).symm⟩

/-- What the acting node keeps is still what others have announced. -/
theorem informed_of_step (informed : NetworkInformed host initial history net)
    (names : NamesNodes host initial net) (possible : net.Possible action.2) :
    Informed host initial history action.1 (net.outcome host action).state.routing := by
  have before := informed.tables action.1
  have routing := stepProcedure_routing host (net.nodes action.1) action.2
  obtain ⟨node, chosen⟩ := action
  change Informed host initial history node
    ((stepProcedure host chosen).run (net.nodes node)).state.routing
  dsimp only at before routing possible
  generalize ((stepProcedure host chosen).run (net.nodes node)).state.routing = tables
    at routing ⊢
  cases routing with
  | kept => exact before
  | heard now fromAddr received foreign =>
      obtain ⟨beacon, member, rfl, rfl⟩ := possible
      obtain ⟨sender, message, source, payload, announced⟩ := informed.beacons beacon member
      have other : sender ≠ node := by
        rintro rfl
        exact foreign (source.trans (names.tables sender).phyIp.symm)
      rw [payload, beaconIn_bytes]
      exact before.heard other announced now
  | relayed readings received writeFails relayed tables => exact before.relayed tables

theorem step_networkInformed (informed : NetworkInformed host initial history net)
    (names : NamesNodes host initial net) (step : net.Step host action next) :
    NetworkInformed host initial (history ++ [(net, action)]) next where
  own := step_fix informed.own step
  beacons := by
    intro beacon member
    rw [← step.same] at member
    rcases List.mem_append.mp member with earlier | new
    · obtain ⟨sender, message, source, payload, announced⟩ := informed.beacons beacon earlier
      exact ⟨sender, message, source, payload, announced.later _⟩
    · obtain ⟨payload, emitted, rfl⟩ := List.mem_map.mp new
      obtain ⟨stack, timer, bytes⟩ := emitted_beacon emitted
      have tables := names.tables action.1
      refine ⟨action.1, _, tables.phyIp, bytes, tables.virIp, tables.phyIp,
        ⟨net, stack, ?_, rfl⟩, ⟨_, fixes_later (informed.own action.1) _, rfl, rfl⟩⟩
      rw [← timer]
      exact List.mem_append_right _ (List.mem_singleton.mpr rfl)
  tables := by
    intro node
    rw [← step.same]
    by_cases acting : node = action.1
    · subst acting
      rw [after_acting]
      exact (informed_of_step informed names step.possible).later _
    · rw [after_aside acting]
      exact (informed.tables node).later _

/-- In every run of a network, whatever position and speed a node keeps of another, in either
table or as a point of the history, it has read from a beacon that the other has sent of itself,
as numbers: the words of the position in that beacon are the bits of one of the other's fixes. -/
theorem networkRun_positionsAnnounced (run : NetworkRun ι host) (node : ι) :
    Informed host run.initial run.history node (run.last.nodes node).routing := by
  have start : NetworkInformed host run.initial [] ⟨run.initial, []⟩ := by
    refine ⟨fun node => List.mem_cons_self, fun _ member => (nomatch member), fun node => ?_⟩
    have tables := run.start node
    refine ⟨?_, ?_, ?_⟩
    · intro vip entry held
      simp [IR.routing, tables.neighbor] at held
    · intro vip entry held
      simp [IR.routing, tables.neighbor] at held
    · intro vip route held
      simp [IR.routing, tables.forward] at held
  have all := @History.along _ _ _ _ _ _ (fun history net =>
    History (BeaconNetwork.Step host) ⟨run.initial, []⟩ history net ∧
      NetworkInformed host run.initial history net) run.steps ⟨.start _, start⟩ ?_
  · exact all.2.tables node
  · rintro earlier before chosen after ⟨reached, informed⟩ step
    have names := networkRun_namesNodes
      ⟨run.initial, earlier, before, run.start, run.distinct, reached⟩
    exact ⟨reached.next chosen step, step_networkInformed informed names step⟩

end

end TunVideo
