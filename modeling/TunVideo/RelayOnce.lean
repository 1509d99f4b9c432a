import TunVideo.ForwardingDefined
import TunVideo.Retransmission

set_option autoImplicit false

namespace TunVideo

open Program

/-- A data datagram is well formed when an IPv4 header and a trailer fit into it, and it
fits into one UDP datagram. -/
structure WellFormed (datagram : List UInt8) : Prop where
  header : 44 ≤ datagram.length
  udp : datagram.length ≤ 65507

section

variable {F D : Type} {ir : IR F D} {nread : Nat} {packet : List UInt8}

/-- An execution that sends one datagram, which starts with the packet, to the receiver. To send
is to call `sendto` once: a datagram that has no room for another trailer is refused there. -/
def SendsOnce (packet : List UInt8) (receiver : Option (Option UInt32))
    (outcome : Outcome (IR F D) (Event F) Stop Unit) : Prop :=
  outcome.result = .ok () ∧ ∃ target payload, receiver = some target ∧
    transmissions outcome.events = [(target, payload)] ∧ packet <+: payload

theorem dataBroadcast_sendsOnce (fits : nread + DataMessage.size ≤ frameSize)
    (stored : packet <+: relayPayload ir nread) :
    SendsOnce packet (some none) ((dataBroadcast nread : Procedure F D Unit).run ir) := by
  rw [dataBroadcast_run ir fits]
  exact ⟨rfl, none, _, rfl, rfl, stored⟩

/-- Calls of the routing functions do not send; the final send does, to a real next hop. -/
theorem transmissions_after {nextHopId : UInt32} {calls : List (Event F)}
    (fits : nread + DataMessage.size ≤ frameSize) (silent : transmissions calls = []) :
    transmissions (((sendToNextHop nextHopId nread).run ir).after calls).events =
      if nextHopId ≠ broadcastAddress then [(some nextHopId, relayPayload ir nread)] else [] := by
  rw [Outcome.after_events, transmissions, List.filterMap_append]
  exact (congrArg₂ _ silent (sendToNextHop_transmissions _ fits)).trans (List.nil_append _)

/-- A next hop is sent to unless it is the broadcast address. -/
theorem nextHop_sendsOnce_iff {nextHopId : UInt32} {calls : List (Event F)}
    {receiver : Option UInt32} (fits : nread + DataMessage.size ≤ frameSize)
    (silent : transmissions calls = []) (stored : packet <+: relayPayload ir nread)
    (same : nextHopId ≠ broadcastAddress → receiver = some nextHopId) :
    SendsOnce packet (some receiver)
        (((sendToNextHop nextHopId nread : Procedure F D Unit).run ir).after calls) ↔
      nextHopId ≠ broadcastAddress := by
  unfold SendsOnce
  rw [transmissions_after fits silent]
  constructor
  · rintro ⟨-, target, payload, -, once, -⟩ none
    rw [if_neg (not_not.mpr none)] at once
    cases once
  · intro usable
    refine ⟨?_, some nextHopId, _, congrArg some (same usable), if_pos usable, stored⟩
    rw [Outcome.after_result, sendToNextHop_run _ fits]

end

variable {F D : Type} [DoublePrecision D]

section

variable (host : Host F D) (readings : Readings D) (ir : IR F D) (dstGps : GPS F)

def RouteFound : Prop :=
  ∃ choice, routeChoice host readings.routeMakeup readings.gaussrand ir dstGps = some choice ∧
    choice.2 ≠ broadcastAddress

/-- The receiver `RouteMakeup` stands for, and `none` for all neighbours. -/
def computedRoute : Option (Option UInt32) :=
  (routeChoice host readings.routeMakeup readings.gaussrand ir dstGps).map fun choice =>
    if choice.2 = broadcastAddress then none else some choice.2

end

section

variable {host : Host F D} {readings : Readings D} {dstGps : GPS F} {before state : IR F D}
  {packet : List UInt8}

/-- A procedure that stops inside `RouteMakeup` sends nothing. -/
theorem stopped_sendsOnce_iff {outcome : Outcome (IR F D) (Event F) Stop Unit}
    (stopped : routeChoice host readings.routeMakeup readings.gaussrand before dstGps = none)
    (undefined : outcome.result = .error .outOfBounds) :
    SendsOnce packet (computedRoute host readings before dstGps) outcome ↔
      RouteFound host readings before dstGps := by
  refine iff_of_false ?_ ?_
  · rintro ⟨completed, -⟩
    rw [undefined] at completed
    cases completed
  · rintro ⟨choice, chosen, -⟩
    rw [stopped] at chosen
    cases chosen

/-- A computed route leads to a send unless `RouteMakeup` has no next hop. -/
theorem computed_sendsOnce_iff {choice : NeighborTable F × UInt32} {nread : Nat}
    {calls : List (Event F)} (fits : nread + DataMessage.size ≤ frameSize)
    (chosen : routeChoice host readings.routeMakeup readings.gaussrand before dstGps = some choice)
    (silent : transmissions calls = []) (stored : packet <+: relayPayload state nread) :
    SendsOnce packet (computedRoute host readings before dstGps)
        (((sendToNextHop choice.2 nread).run state).after calls) ↔
      RouteFound host readings before dstGps := by
  unfold computedRoute RouteFound
  rw [chosen]
  refine (nextHop_sendsOnce_iff fits silent stored fun usable => if_neg usable).trans ?_
  constructor
  · intro usable
    exact ⟨choice, rfl, usable⟩
  · rintro ⟨choice', same, usable⟩
    rw [Option.some.inj same]
    exact usable

end

variable [SinglePrecision F D]

section

variable (host : Host F D) (readings : Readings D) (ir : IR F D) (datagram : List UInt8)

/-- The receiver a packet should be relayed to: all neighbours when its position is
unknown, the cached next hop while it is fresh and legal, otherwise a computed one. -/
def chosenRoute (dstIp : UInt32) (dstGps : GPS F) : Option (Option UInt32) :=
  match ir.forwardTable[dstIp]? with
  | none => if dstGps.unknown then some none else computedRoute host readings ir dstGps
  | some entry =>
      if olderThan ttlNeighborTable (untilTime ir.beginTime readings.forwarding)
          entry.timestamp then
        if dstGps.unknown then some none else computedRoute host readings ir dstGps
      else if legalVerdict host readings.isLegal ir entry.nextHopIp dstGps then
        some (some entry.nextHopIp)
      else computedRoute host readings (afterRefusal readings ir entry) dstGps

/-- A relay retransmits the datagram, with its `ttl` decremented, exactly once. -/
def RelaysOnce (writeFails : Bool) : Prop :=
  SendsOnce (decremented host ir datagram)
    (chosenRoute host readings (relayState host ir datagram) (dstIpOf host ir datagram)
      (trailerIn host ir datagram).dstGps)
    ((recvData host readings (.packet datagram) writeFails).run ir)

/-- The cases in which a send is reached. -/
def SendReached (dstIp : UInt32) (dstGps : GPS F) : Prop :=
  match ir.forwardTable[dstIp]? with
  | none => dstGps.unknown = true
  | some entry =>
      if olderThan ttlNeighborTable (untilTime ir.beginTime readings.forwarding)
          entry.timestamp then
        dstGps.unknown = true ∨ RouteFound host readings ir dstGps
      else if legalVerdict host readings.isLegal ir entry.nextHopIp dstGps then
        entry.nextHopIp ≠ broadcastAddress
      else RouteFound host readings (afterRefusal readings ir entry) dstGps

end

section

variable {host : Host F D} {readings : Readings D} {dstIp : UInt32} {dstGps : GPS F}
  {ir : IR F D} {nread : Nat} {packet : List UInt8}

/-- `Forwarding` sends the received datagram exactly when its branch comes to a send. -/
theorem forwarding_sendsOnce_iff (fits : nread + DataMessage.size ≤ frameSize)
    (stored : packet <+: relayPayload ir nread) :
    SendsOnce packet (chosenRoute host readings ir dstIp dstGps)
        ((forwarding host readings dstIp dstGps nread).run ir) ↔
      SendReached host readings ir dstIp dstGps := by
  unfold chosenRoute SendReached
  have path := forwarding_path host readings dstIp dstGps nread ir
  generalize (forwarding host readings dstIp dstGps nread).run ir = outcome at path ⊢
  cases path with
  | missUnknown absent unknown =>
      rw [absent, if_pos unknown]
      exact iff_of_true (dataBroadcast_sendsOnce fits stored) unknown
  | missStopped absent known =>
      rw [absent]
      exact iff_of_false (fun sent => nomatch sent.1) known
  | missComputed absent known =>
      rw [absent]
      exact iff_of_false (fun sent => nomatch sent.1) known
  | expiredUnknown entry held old unknown =>
      simp only [held, if_pos old, if_pos unknown]
      exact iff_of_true (dataBroadcast_sendsOnce fits stored) (Or.inl unknown)
  | expiredStopped entry held old known stopped =>
      simp only [held, if_pos old, if_neg known, or_iff_right known]
      exact stopped_sendsOnce_iff stopped rfl
  | expiredComputed entry held old known choice chosen =>
      simp only [held, if_pos old, if_neg known, or_iff_right known]
      exact computed_sendsOnce_iff fits chosen rfl stored
  | legal entry held fresh legal =>
      simp only [held, fresh, legal, Bool.false_eq_true, ↓reduceIte]
      exact nextHop_sendsOnce_iff fits rfl stored fun _ => rfl
  | illegalStopped entry held fresh illegal stopped =>
      simp only [held, fresh, illegal, Bool.false_eq_true, ↓reduceIte]
      exact stopped_sendsOnce_iff stopped rfl
  | illegalComputed entry held fresh illegal choice chosen =>
      simp only [held, fresh, illegal, Bool.false_eq_true, ↓reduceIte]
      exact computed_sendsOnce_iff fits chosen rfl stored

/-- A well-formed datagram in transit is retransmitted exactly once if and only if a send
is reached: there is an entry or no position on record, and the next hop is a real one. -/
theorem recvData_relaysOnce_iff {datagram : List UInt8} (writeFails : Bool)
    (formed : WellFormed datagram) (foreign : srcIpOf host ir datagram ≠ ir.virIp)
    (transit : dstIpOf host ir datagram ≠ ir.virIp)
    (alive : 1 < (trailerIn host ir datagram).ttl) :
    RelaysOnce host readings ir datagram writeFails ↔
      SendReached host readings ir (dstIpOf host ir datagram)
        (trailerIn host ir datagram).dstGps := by
  have least : 44 ≤ datagram.length := formed.header
  have most : datagram.length ≤ 65507 := formed.udp
  have long : DataMessage.size ≤ datagram.length := Nat.le_trans (by decide) least
  have fits : datagram.length + DataMessage.size ≤ frameSize :=
    Nat.le_trans (Nat.add_le_add_right most _) (by decide)
  have remains := (ttl_remains_iff (positive_of_alive alive)).mpr alive
  have stored : decremented host ir datagram <+:
      relayPayload (relayState host ir datagram) datagram.length :=
    ⟨_, (relayPayload_relayState host ir long fits).symm⟩
  unfold RelaysOnce
  rw [recvData_run host readings ir writeFails long (by omega), if_neg foreign, if_neg transit,
    if_pos remains]
  exact forwarding_sendsOnce_iff fits stored

end

def withoutNeighbor : IR Float32 Float :=
  { loneNode with
    forwardTable := (∅ : ForwardTable Float32).insert 0x0300000A ⟨0x0300A8C0, 900, ⟨1, 1⟩⟩ }

/-- `RouteMakeup` answers the broadcast address there, and nothing is sent. -/
theorem recvData_drops_packet :
    let datagram := headerDatagram ⟨20, 0, 0, 1, 1, 16⟩
    WellFormed datagram ∧
      srcIpOf Host.shortHistories withoutNeighbor datagram ≠ withoutNeighbor.virIp ∧
      dstIpOf Host.shortHistories withoutNeighbor datagram ≠ withoutNeighbor.virIp ∧
      1 < (trailerIn Host.shortHistories withoutNeighbor datagram).ttl ∧
      ¬RelaysOnce .shortHistories .atOneSecond withoutNeighbor datagram false := by
  refine ⟨⟨by decide, by decide⟩, by decide +kernel, by decide +kernel, by decide +kernel, ?_⟩
  have silent : transmissions ((recvData Host.shortHistories Readings.atOneSecond
      (.packet (headerDatagram ⟨20, 0, 0, 1, 1, 16⟩)) false).run withoutNeighbor).events = [] := by
    decide +kernel
  rintro ⟨-, target, payload, -, once, -⟩
  rw [silent] at once
  cases once

/-- On a node with empty tables a packet for an unknown position is sent once. -/
theorem recvData_relaysOnce_unknown :
    RelaysOnce .shortHistories .atOneSecond loneNode (headerDatagram ⟨20, 0, 0, 0, 90, 16⟩)
      false := by
  refine (recvData_relaysOnce_iff false ⟨by decide, by decide⟩ (by decide +kernel)
    (by decide +kernel) (by decide +kernel)).mpr ?_
  unfold SendReached
  rw [loneNode, IR.afterInit, Std.ExtTreeMap.getElem?_empty]
  decide +kernel

end TunVideo
