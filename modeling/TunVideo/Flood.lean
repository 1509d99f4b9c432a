import TunVideo.Cascade
import TunVideo.Delivery
import TunVideo.RelayOnce

set_option autoImplicit false

/- Broadcasts of broadcasts. No relay remembers what it has relayed, and the `ttl` does not end
a flood; that each relay makes the datagram longer does. -/
namespace TunVideo

open Program

section

variable {F D : Type} [DoublePrecision D] [SinglePrecision F D] {host : Host F D}
  {readings : Readings D} {ir : IR F D}

theorem forwarding_sendsFew {dstIp : UInt32} {dstGps : GPS F} {nread : Nat}
    (fits : nread + DataMessage.size ≤ frameSize) :
    (transmissions ((forwarding host readings dstIp dstGps nread).run ir).events).length ≤ 1 := by
  have broadcast : (transmissions ((dataBroadcast nread : Procedure F D Unit).run ir).events).length
      ≤ 1 := by
    rw [dataBroadcast_run ir fits]
    exact Nat.le_refl 1
  have hop (nextHopId : UInt32) (state : IR F D) {calls : List (Event F)}
      (silent : transmissions calls = []) :
      (transmissions (((sendToNextHop nextHopId nread : Procedure F D Unit).run state).after
        calls).events).length ≤ 1 := by
    rw [transmissions_after fits silent]
    split
    · exact Nat.le_refl 1
    · exact Nat.zero_le 1
  have path := forwarding_path host readings dstIp dstGps nread ir
  generalize (forwarding host readings dstIp dstGps nread).run ir = outcome at path ⊢
  cases path with
  | missUnknown => exact broadcast
  | missStopped => exact Nat.zero_le 1
  | missComputed => exact Nat.zero_le 1
  | expiredUnknown => exact broadcast
  | expiredStopped => exact Nat.zero_le 1
  | expiredComputed => exact hop _ _ rfl
  | legal => exact hop _ _ rfl
  | illegalStopped => exact Nat.zero_le 1
  | illegalComputed => exact hop _ _ rfl

theorem recvData_sendsFew {datagram : List UInt8} {writeFails : Bool}
    (fits : datagram.length + DataMessage.size ≤ frameSize) :
    (transmissions ((recvData host readings (.packet datagram) writeFails).run ir).events).length
      ≤ 1 := by
  have path := recvData_path host readings ir writeFails (show datagram.length ≤ frameSize by omega)
  generalize (recvData host readings (.packet datagram) writeFails).run ir = outcome at path ⊢
  cases path with
  | short _ _ silent =>
      rw [silent]
      exact Nat.zero_le 1
  | own => exact Nat.zero_le 1
  | refused => exact Nat.zero_le 1
  | written => exact Nat.zero_le 1
  | exhausted => exact Nat.zero_le 1
  | relayed => exact forwarding_sendsFew fits

theorem recvData_grows {datagram : List UInt8} {writeFails : Bool}
    {sent : Option UInt32 × List UInt8} (fits : datagram.length + DataMessage.size ≤ frameSize)
    (member : sent ∈ transmissions
      ((recvData host readings (.packet datagram) writeFails).run ir).events) :
    sent.2.length = datagram.length + DataMessage.size := by
  obtain ⟨relayed, same⟩ := recvData_payload fits member
  have least : 24 ≤ datagram.length := relayed.long
  have kept : (decremented host ir datagram).length = datagram.length := by
    rw [decremented, List.length_append, List.length_take, ByteOrder.bytes_length]
    omega
  rw [same, List.length_append, kept, Buffer.slice_length]

omit [DoublePrecision D] in
theorem recvTun_sendsFew (received : Received) (sendFails : Bool) :
    (transmissions ((recvTun host received sendFails).run ir).events).length ≤ 1 := by
  have path := recvTun_path host ir received sendFails
  generalize (recvTun host received sendFails).run ir = outcome at path ⊢
  cases path with
  | undefined _ _ silent => simp [silent]
  | overrun _ _ _ _ silent => simp [silent]
  | unsent _ _ _ _ _ silent => simp [silent]
  | sent _ _ _ _ once => simp [once]

end

/-- How often a datagram of this length can still be delivered, one relay after another. -/
def deliveriesLeft (datagram : InFlight) : Nat :=
  (65507 + DataMessage.size - datagram.payload.length) / DataMessage.size

theorem deliveriesLeft_pos {datagram : InFlight} (udp : datagram.payload.length ≤ 65507) :
    0 < deliveriesLeft datagram := by
  have width : DataMessage.size = 24 := rfl
  rw [deliveriesLeft, width]
  omega

/-- A trailer alone is already 24 bytes long. -/
theorem deliveriesLeft_le {datagram : InFlight}
    (long : DataMessage.size ≤ datagram.payload.length) : deliveriesLeft datagram ≤ 2729 := by
  have width : DataMessage.size = 24 := rfl
  rw [deliveriesLeft, width]
  omega

theorem deliveriesLeft_lt {before after : InFlight} (udp : before.payload.length ≤ 65507)
    (grown : after.payload.length = before.payload.length + DataMessage.size) :
    deliveriesLeft after < deliveriesLeft before := by
  have width : DataMessage.size = 24 := rfl
  rw [deliveriesLeft, deliveriesLeft, grown, width]
  omega

section

variable {ι F D : Type}

structure Copy (ι : Type) where
  receiver : ι
  datagram : InFlight
  deriving DecidableEq

/-- A network, and what its nodes are still to receive. -/
structure Mesh (ι F D : Type) where
  net : Network ι F D
  copies : List (Copy ι)

/-- The copy that a step takes out of the air. -/
def Action.received : Action ι F D → Option (Copy ι)
  | deliver node datagram _ _ => some ⟨node, datagram⟩
  | _ => none

/-- Whether a step can bring a datagram that is not one that was received. -/
def Action.brings : Action ι F D → Bool
  | originate _ _ _ => true
  | activity _ (.sigalrm _) => true
  | _ => false

/-- A copy of each datagram for each node within reach. -/
def spread (reach : List ι) (sent : List InFlight) : List (Copy ι) :=
  reach.flatMap fun node => sent.map fun datagram => ⟨node, datagram⟩

theorem spread_nil (reach : List ι) : spread reach [] = [] :=
  List.flatMap_eq_nil_iff.mpr fun _ _ => rfl

theorem spread_length (reach : List ι) (sent : List InFlight) :
    (spread reach sent).length = reach.length * sent.length := by
  rw [spread, List.length_flatMap]
  simp only [List.length_map, List.map_const', List.sum_replicate, smul_eq_mul]

theorem spread_mem {reach : List ι} {sent : List InFlight} {copy : Copy ι}
    (member : copy ∈ spread reach sent) : copy.datagram ∈ sent := by
  obtain ⟨node, -, listed⟩ := List.mem_flatMap.mp member
  obtain ⟨datagram, given, rfl⟩ := List.mem_map.mp listed
  exact given

variable [DoublePrecision D] [SinglePrecision F D]

theorem hear_sendsNothing (host : Host F D) (net : Network ι F D) (node : ι) (now : Timeval)
    (fromAddr : UInt32) (received : Received) :
    net.arriving host (.hear node now fromAddr received) = [] := by
  rw [Network.arriving, Network.hear_events]
  rfl

theorem sendBeacon_sendsFew (host : Host F D) (net : Network ι F D) (node : ι)
    (stack : BeaconMessage) :
    (net.arriving host (.activity node (.sigalrm stack))).length ≤ 1 := by
  have events : (net.outcome host (.activity node (.sigalrm stack))).events.length = 1 := by
    change ((sendBeacon host stack).run (net.nodes node)).events.length = 1
    rw [sendBeacon_run]
    rfl
  rw [Network.arriving, List.length_map]
  exact Nat.le_trans (List.length_filterMap_le _ _) (Nat.le_of_eq events)

theorem network_sendsFew (host : Host F D) {net : Network ι F D} {action : Action ι F D}
    (possible : action.Possible net) : (net.arriving host action).length ≤ 1 := by
  rcases action_emits host action (net.nodes action.node) with loop | ⟨node, stack, rfl⟩
  · rw [Network.arriving, List.length_map]
    refine Nat.le_trans (arrivals_length loop) ?_
    cases action with
    | originate node received sendFails => exact recvTun_sendsFew received sendFails
    | deliver node datagram readings writeFails =>
        exact recvData_sendsFew (Nat.le_trans (Nat.add_le_add_right possible.2 _) (by decide))
    | hear node now fromAddr received =>
        rw [Network.hear_events]
        exact Nat.zero_le 1
    | activity node chosen =>
        have none : transmissions (net.outcome host (.activity node chosen)).events = [] :=
          activity_sendsNothing host chosen (net.nodes node)
        rw [none]
        exact Nat.zero_le 1
  · exact sendBeacon_sendsFew host net node stack

variable [DecidableEq ι]

def Mesh.left (mesh : Mesh ι F D) (action : Action ι F D) : List (Copy ι) :=
  match action.received with
  | some copy => mesh.copies.erase copy
  | none => mesh.copies

namespace Mesh

/-- A node acts, and what it sends is on its way to every node within reach. -/
def after (host : Host F D) (mesh : Mesh ι F D) (chosen : Action ι F D × List ι) : Mesh ι F D where
  net := mesh.net.afterAll host chosen.1
  copies := mesh.left chosen.1 ++ spread chosen.2 (mesh.net.arriving host chosen.1)

/-- A copy is received once at most. Who is within reach may change from step to step. -/
structure Step (host : Host F D) (mesh : Mesh ι F D) (chosen : Action ι F D × List ι)
    (next : Mesh ι F D) : Prop where
  network : mesh.net.Evolves host chosen.1 (mesh.net.afterAll host chosen.1)
  onWay : ∀ copy, chosen.1.received = some copy → copy ∈ mesh.copies
  reach : chosen.2.Nodup
  same : mesh.after host chosen = next

end Mesh

/-- Whatever happens in a mesh can happen in the network. -/
theorem mesh_network {host : Host F D} {first last : Mesh ι F D}
    {history : List (Mesh ι F D × (Action ι F D × List ι))}
    (run : History (Mesh.Step host) first history last) :
    History (Network.Evolves host) first.net
      (history.map fun visited => (visited.1.net, visited.2.1)) last.net := by
  induction run with
  | start => exact .start _
  | next _ chosen taken ih =>
      rw [List.map_append]
      refine ih.next chosen.1 ?_
      rw [← taken.same]
      exact taken.network

variable [Fintype ι]

omit [DecidableEq ι] in
theorem copies_few {host : Host F D} {net : Network ι F D} {action : Action ι F D}
    {reach : List ι} (possible : action.Possible net) (once : reach.Nodup) :
    (spread reach (net.arriving host action)).length ≤ Fintype.card ι := by
  have few := network_sendsFew host possible
  rw [spread_length]
  calc reach.length * (net.arriving host action).length ≤ reach.length * 1 :=
        Nat.mul_le_mul_left _ few
    _ = reach.length := Nat.mul_one _
    _ ≤ Fintype.card ι := once.length_le_card

/-- How many copies a flood can make out of one packet. -/
def floodSize (nodes : Nat) : Nat := nodes * Cascade.worth nodes 2729

/-- A delivery takes a copy and leaves longer ones, and only what is read from a tun device, and a
beacon that goes to the data port, brings new ones. -/
theorem step_cascades {host : Host F D} {mesh next : Mesh ι F D} {chosen : Action ι F D × List ι}
    (step : mesh.Step host chosen next) :
    Cascade.Step (fun copy : Copy ι => deliveriesLeft copy.datagram) (Fintype.card ι) 2729
      mesh.copies chosen.1.received.isSome chosen.1.brings next.copies := by
  have possible := step.network.possible
  have few : (spread chosen.2 (mesh.net.arriving host chosen.1)).length ≤ Fintype.card ι :=
    copies_few possible step.reach
  rw [← step.same]
  obtain ⟨action, reach⟩ := chosen
  cases action with
  | originate node received sendFails =>
      refine .brought few ?_
      rintro ⟨receiver, datagram⟩ member
      cases Network.arriving_cases (spread_mem member) with
      | originated emitted =>
          obtain ⟨message, payload⟩ := recvTun_originates emitted
          refine deliveriesLeft_le ?_
          dsimp only
          rw [payload, List.length_append, DataMessage.bytes_length]
          exact Nat.le_add_left _ _
  | deliver node received readings writeFails =>
      have udp : received.payload.length ≤ 65507 := possible.2
      have fits : received.payload.length + DataMessage.size ≤ frameSize :=
        Nat.le_trans (Nat.add_le_add_right udp _) (by decide)
      change Cascade.Step _ _ _ mesh.copies true false (mesh.copies.erase ⟨node, received⟩ ++
        spread reach (mesh.net.arriving host (.deliver node received readings writeFails)))
      refine Cascade.Step.taken (step.onWay _ rfl) ?_ few ?_
      · exact deliveriesLeft_pos udp
      rintro ⟨receiver, datagram⟩ member
      cases Network.arriving_cases (spread_mem member) with
      | relayed emitted => exact deliveriesLeft_lt udp (recvData_grows fits emitted)
  | hear node now fromAddr received =>
      have same : (mesh.after host (.hear node now fromAddr received, reach)).copies =
          mesh.copies := by
        rw [Mesh.after, hear_sendsNothing, spread_nil, List.append_nil]
        rfl
      rw [same]
      exact .idle _
  | activity node chosen =>
      cases chosen with
      | gpsFix gps speed =>
          have same : (mesh.after host (.activity node (.gpsFix gps speed), reach)).copies =
              mesh.copies := by
            change mesh.copies ++ spread reach [] = mesh.copies
            rw [spread_nil, List.append_nil]
          rw [same]
          exact .idle _
      | sigalrm stack =>
          refine .brought few ?_
          rintro ⟨receiver, datagram⟩ member
          have long : DataMessage.size ≤ datagram.payload.length := by
            cases Network.arriving_cases (spread_mem member) with
            | misdirected port =>
                exact Nat.le_of_eq (BeaconMessage.bytes_length host.order _).symm
          exact deliveriesLeft_le long

/-- However the nodes act, and whomever their datagrams reach: there are no more deliveries than
a bound for each packet read from a tun device, and for each timer signal, allows. A flood ends. -/
theorem mesh_floodEnds {host : Host F D} {nodes : ι → IR F D} {last : Mesh ι F D}
    {history : List (Mesh ι F D × (Action ι F D × List ι))}
    (run : History (Mesh.Step host) ⟨⟨nodes, []⟩, []⟩ history last) :
    history.countP (fun visited => visited.2.1.received.isSome) ≤
      floodSize (Fintype.card ι) * history.countP fun visited => visited.2.1.brings := by
  have taken := @Cascade.taken_le _ _ (Fintype.card ι) 2729 _ _ _ _ Mesh.copies
    (fun visited => visited.2.1.received.isSome) (fun visited => visited.2.1.brings) _ _ _ run
    fun _ _ _ step => step_cascades step
  have none : Cascade.total (fun copy : Copy ι => deliveriesLeft copy.datagram) (Fintype.card ι)
      (Mesh.mk ⟨nodes, []⟩ [] : Mesh ι F D).copies = 0 := rfl
  rw [none, Nat.zero_add] at taken
  exact Nat.le_trans (Nat.le_add_left _ _) taken

end

/-- 10.0.0.2 sends a packet that only 10.0.0.3 can hear. -/
def sendInReach : Action (Fin 2) Float32 Float × List (Fin 2) := (sendDirect, [Fin.last 1])

def sentInReach : Mesh (Fin 2) Float32 Float :=
  Mesh.after .shortHistories ⟨⟨twoNodes, []⟩, []⟩ sendInReach

def receivedInReach : Mesh (Fin 2) Float32 Float :=
  sentInReach.after .shortHistories (receiveDirect, [])

/-- One packet, and one delivery. -/
theorem headerPacket_floodEnds :
    let history := [(⟨⟨twoNodes, []⟩, []⟩, sendInReach), (sentInReach, (receiveDirect, []))]
    History (Mesh.Step Host.shortHistories) ⟨⟨twoNodes, []⟩, []⟩ history receivedInReach ∧
      history.countP (fun visited => visited.2.1.received.isSome) ≤
        floodSize (Fintype.card (Fin 2)) *
          history.countP fun visited => visited.2.1.brings := by
  have sent : Mesh.Step Host.shortHistories ⟨⟨twoNodes, []⟩, []⟩ sendInReach sentInReach :=
    ⟨⟨trivial, by decide +kernel, rfl⟩, (fun _ none => nomatch none), by decide, rfl⟩
  have received : sentInReach.Step Host.shortHistories (receiveDirect, []) receivedInReach := by
    refine ⟨⟨⟨by decide +kernel, by decide⟩, by decide +kernel, rfl⟩, ?_, List.nodup_nil, rfl⟩
    intro copy same
    rw [← Option.some.inj same]
    decide +kernel
  have run := ((History.start _).next _ sent).next _ received
  exact ⟨run, mesh_floodEnds run⟩

end TunVideo
