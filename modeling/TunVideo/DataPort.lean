import TunVideo.HopBound
import TunVideo.PortSeparation

set_option autoImplicit false

namespace TunVideo

open Program

section

variable {F : Type}

def Event.toDataPort : Event F → Option (List UInt8)
  | beaconSent dst payload => if dst.sinPort = dataPort then some payload else none
  | dataBroadcast dst payload => if dst.sinPort = dataPort then some payload else none
  | dataUnicast dst payload => if dst.sinPort = dataPort then some payload else none
  | _ => none

def arrivals (events : List (Event F)) : List (List UInt8) := events.filterMap Event.toDataPort

theorem mem_arrivals {events : List (Event F)} {payload : List UInt8}
    (loop : ∀ event ∈ events, event.OfMainLoop) (member : payload ∈ arrivals events) :
    ∃ target, (target, payload) ∈ transmissions events := by
  obtain ⟨event, listed, same⟩ := List.mem_filterMap.mp member
  cases event with
  | beaconSent => exact (loop _ listed).elim
  | dataBroadcast dst sent =>
      obtain ⟨-, kept⟩ := Option.ite_none_right_eq_some.mp same
      obtain rfl := Option.some.inj kept
      exact ⟨none, List.mem_filterMap.mpr ⟨_, listed, rfl⟩⟩
  | dataUnicast dst sent =>
      obtain ⟨-, kept⟩ := Option.ite_none_right_eq_some.mp same
      obtain rfl := Option.some.inj kept
      exact ⟨some dst.sinAddr, List.mem_filterMap.mpr ⟨_, listed, rfl⟩⟩
  | _ => cases same

theorem arrivals_length {events : List (Event F)} (loop : ∀ event ∈ events, event.OfMainLoop) :
    (arrivals events).length ≤ (transmissions events).length := by
  induction events with
  | nil => exact Nat.le_refl 0
  | cons event rest ih =>
      have fewer := ih fun later member => loop later (List.mem_cons_of_mem _ member)
      rw [arrivals, transmissions, List.filterMap_cons, List.filterMap_cons]
      cases event with
      | beaconSent => exact (loop _ List.mem_cons_self).elim
      | dataBroadcast dst sent =>
          rw [Event.toDataPort, Event.transmission]
          split
          · exact Nat.le_succ_of_le fewer
          · exact Nat.succ_le_succ fewer
      | dataUnicast dst sent =>
          rw [Event.toDataPort, Event.transmission]
          split
          · exact Nat.le_succ_of_le fewer
          · exact Nat.succ_le_succ fewer
      | _ => exact fewer

end

section

variable {ι F D : Type} [DoublePrecision D] [SinglePrecision F D]

theorem action_emits (host : Host F D) (action : Action ι F D) (ir : IR F D) :
    (∀ event ∈ ((action.procedure host).run ir).events, event.OfMainLoop) ∨
      ∃ node stack, action = .activity node (.sigalrm stack) := by
  cases action with
  | originate node received sendFails =>
      exact Or.inl (operation_emits host (.recvTun received sendFails) ir)
  | deliver node datagram readings writeFails =>
      exact Or.inl (operation_emits host (.recvData readings (.packet datagram.payload) writeFails)
        ir)
  | hear node now fromAddr received =>
      exact Or.inl (operation_emits host (.recvBeacon now fromAddr received) ir)
  | activity node chosen =>
      cases chosen with
      | gpsFix gps speed => exact Or.inl fun _ member => nomatch member
      | sigalrm stack => exact Or.inr ⟨node, stack, rfl⟩

namespace Network

theorem hear_events (host : Host F D) (net : Network ι F D) (node : ι) (now : Timeval)
    (fromAddr : UInt32) (received : Received) :
    (net.outcome host (.hear node now fromAddr received)).events = [] := by
  have silent : (recvBeacon host now fromAddr received).Emits fun _ => False :=
    recvBeacon_emits host now fromAddr received
  exact List.eq_nil_iff_forall_not_mem.mpr (silent _)

def arriving (host : Host F D) (net : Network ι F D) (action : Action ι F D) : List InFlight :=
  (arrivals (net.outcome host action).events).map fun payload =>
    ⟨payload, action.trail host (net.nodes action.node)⟩

/-- A packet of the node's own, one that it relays, or its beacon when the shared address has the
port of the data. -/
inductive Arrives (host : Host F D) (net : Network ι F D) : Action ι F D → InFlight → Prop
  | originated {node : ι} {received : Received} {sendFails : Bool}
      {sent : Option UInt32 × List UInt8}
      (emitted : sent ∈ transmissions
        ((recvTun host received sendFails).run (net.nodes node)).events) :
      Arrives host net (.originate node received sendFails) ⟨sent.2, []⟩
  | relayed {node : ι} {datagram : InFlight} {readings : Readings D} {writeFails : Bool}
      {sent : Option UInt32 × List UInt8}
      (emitted : sent ∈ transmissions ((recvData host readings (.packet datagram.payload)
        writeFails).run (net.nodes node)).events) :
      Arrives host net (.deliver node datagram readings writeFails)
        ⟨sent.2, datagram.trail ++ [(trailerIn host (net.nodes node) datagram.payload).ttl]⟩
  | misdirected {node : ι} {stack : BeaconMessage}
      (port : (net.nodes node).broadcastAddr.sinPort = dataPort) :
      Arrives host net (.activity node (.sigalrm stack))
        ⟨(beaconOf host stack (afterBeacon (net.nodes node))).bytes host.order, []⟩

theorem arriving_cases {host : Host F D} {net : Network ι F D} {action : Action ι F D}
    {datagram : InFlight} (member : datagram ∈ net.arriving host action) :
    net.Arrives host action datagram := by
  obtain ⟨payload, listed, rfl⟩ := List.mem_map.mp member
  rcases action_emits host action (net.nodes action.node) with loop | ⟨node, stack, rfl⟩
  · obtain ⟨target, emitted⟩ := mem_arrivals loop listed
    cases action with
    | originate node received sendFails => exact .originated emitted
    | deliver node datagram readings writeFails => exact .relayed emitted
    | hear node now fromAddr received =>
        change _ ∈ transmissions (net.outcome host (.hear node now fromAddr received)).events
          at emitted
        rw [hear_events] at emitted
        cases emitted
    | activity node chosen =>
        change _ ∈ transmissions ((chosen.procedure host).run _).events at emitted
        rw [activity_sendsNothing] at emitted
        cases emitted
  · change payload ∈ arrivals ((sendBeacon host stack).run (net.nodes node)).events at listed
    rw [sendBeacon_run] at listed
    obtain ⟨event, only, same⟩ := List.mem_filterMap.mp listed
    rw [List.mem_singleton.mp only] at same
    obtain ⟨port, kept⟩ := Option.ite_none_right_eq_some.mp same
    obtain rfl := Option.some.inj kept
    exact .misdirected port

variable [DecidableEq ι]

/-- One node acts, and what it sends to the data port is in flight from then on. -/
def afterAll (host : Host F D) (net : Network ι F D) (action : Action ι F D) : Network ι F D where
  nodes := Function.update net.nodes action.node (net.outcome host action).state
  inFlight := net.inFlight ++ net.arriving host action

structure Evolves (host : Host F D) (net : Network ι F D) (action : Action ι F D)
    (next : Network ι F D) : Prop where
  possible : action.Possible net
  completed : (net.outcome host action).result = .ok ()
  same : net.afterAll host action = next

end Network

end

end TunVideo
