import TunVideo.DataPort
import TunVideo.DatagramAccess
import TunVideo.RelayPayload
import TunVideo.RoutingState
import TunVideo.TunLength

set_option autoImplicit false

namespace TunVideo

open Program

/-- What `recv_tun` keeps of a read: a packet that fills the buffer has length zero to it. -/
def Received.originated (received : Received) : List UInt8 :=
  received.datagram.take (nreadOf received)

def headerWord (order : ByteOrder) (packet : List UInt8) (offset : Nat) : UInt32 :=
  order.word ((packet.drop offset).take 4)

theorem nreadOf_le {received : Received} (fits : nreadOf received + DataMessage.size ≤ frameSize) :
    nreadOf received ≤ received.datagram.length := by
  have width : DataMessage.size = 24 := rfl
  have size : frameSize = 65536 := rfl
  cases received with
  | failed =>
      have kept : nreadOf .failed = 65535 := by decide
      omega
  | packet payload =>
      have count := Received.count_packet frameSize payload
      have narrowed : nreadOf (.packet payload) = min payload.length frameSize % 65536 := by
        rw [nreadOf, count, UInt16.ofInt, UInt16.toNat_ofNat']
        omega
      have length : (Received.packet payload).datagram.length = min payload.length frameSize := by
        rw [Received.datagram, List.length_take, Nat.min_comm]
      omega

theorem originated_slice {received : Received} (buf : Buffer frameSize)
    (fits : nreadOf received + DataMessage.size ≤ frameSize) :
    (received.store frameSize buf).slice 0 (nreadOf received) = received.originated := by
  have within := nreadOf_le fits
  have most := received.datagram_length
  cases received with
  | failed =>
      have none : nreadOf .failed = 0 := Nat.le_zero.mp within
      rw [Received.originated, none]
      rfl
  | packet payload => exact Buffer.slice_overwrite_front buf within most

section

variable {F D : Type} [SinglePrecision F D]

/-- What a node originates: the bytes it has kept, and one trailer. -/
theorem recvTun_originates {host : Host F D} {ir : IR F D} {received : Received}
    {sendFails : Bool} {sent : Option UInt32 × List UInt8}
    (member : sent ∈ transmissions ((recvTun host received sendFails).run ir).events) :
    ∃ message : DataMessage, sent.2 = received.originated ++ message.bytes host.order := by
  have path := recvTun_path host ir received sendFails
  generalize (recvTun host received sendFails).run ir = outcome at path member
  cases path with
  | undefined _ _ silent => simp [silent] at member
  | overrun _ _ _ _ silent => simp [silent] at member
  | unsent _ _ _ _ _ silent => simp [silent] at member
  | sent message written fits completed once =>
      rw [once] at member
      rw [List.mem_singleton.mp member]
      exact ⟨message, congrArg (· ++ message.bytes host.order) (originated_slice _ fits)⟩

end

section

variable {F D : Type}

def Event.SparesTun (event : Event F) : Prop := ∀ payload, event ≠ .tunWritten payload

theorem outgoing_sparesTun (nread : Nat) :
    (outgoing nread : Procedure F D _).Emits Event.SparesTun :=
  .bind (.read _) fun _ => .require _ _

theorem dataBroadcast_sparesTun (nread : Nat) :
    (dataBroadcast nread : Procedure F D Unit).Emits Event.SparesTun :=
  .bind (.single fun _ _ => by simp) fun _ => .bind (outgoing_sparesTun nread) fun _ =>
    .single fun _ _ => by simp

theorem sendToNextHop_sparesTun (nextHopId : UInt32) (nread : Nat) :
    (sendToNextHop nextHopId nread : Procedure F D Unit).Emits Event.SparesTun :=
  .ite (.bind (outgoing_sparesTun nread) fun _ => .single fun _ _ => by simp) (.pure _)

theorem recvTun_sparesTun [SinglePrecision F D] (host : Host F D) (received : Received)
    (sendFails : Bool) : (recvTun host received sendFails).Emits Event.SparesTun := by
  have filled (nread : Nat) (message : DataMessage) :
      (fillDataBuffer host.order nread message : Procedure F D Unit).Emits Event.SparesTun :=
    .bind (.modify _) fun _ => .bind (.read _) fun _ => .bind (.require _ _) fun _ => .modify _
  unfold recvTun getGps recvTunAfterGps tunSending
  refine .bind (.modify _) fun _ => .bind (.modify _) fun _ => .bind (.read _) fun opt =>
    .bind (.read _) fun _ => ?_
  cases opt with
  | none =>
      exact .bind (.single fun _ _ => by simp) fun _ => .bind (.read _) fun _ =>
        .bind (.require _ _) fun _ => .bind (filled _ _) fun _ =>
        .ite (.stop _) (.single fun _ _ => by simp)
  | some found =>
      exact .bind (.require _ _) fun _ => .bind (.require _ _) fun _ => .bind (.read _) fun _ =>
        .bind (.require _ _) fun _ => .bind (filled _ _) fun _ => .single fun _ _ => by simp

variable [DoublePrecision D]

theorem routeMakeup_sparesTun (host : Host F D) (now : Timeval) (gaussrand : UInt32 → Nat → D)
    (dstGps : GPS F) : (routeMakeup host now gaussrand dstGps).Emits Event.SparesTun := by
  unfold routeMakeup
  refine .bind (.single fun _ _ => by simp) fun _ => .bind (.read _) fun _ => .bind (.read _)
    fun _ => .bind (.read _) fun _ => .bind (.require _ _) fun _ => .bind (.modify _) fun _ =>
    .bind (.require _ _) fun _ => .ite ?_ (.pure _)
  exact .bind (.require _ _) fun _ => .ite (.pure _) (.pure _)

variable [SinglePrecision F D]

theorem isLegal_sparesTun (host : Host F D) (now : Timeval) (nghbrIp : UInt32) (dstGps : GPS F) :
    (isLegal host now nghbrIp dstGps).Emits Event.SparesTun := by
  unfold isLegal
  refine .bind (.single fun _ _ => by simp) fun _ => .bind (.read _) fun found => ?_
  cases found with
  | none => exact .pure false
  | some entry =>
      exact .bind (.read _) fun _ => .ite (.bind (.modify _) fun _ => .pure false)
        (.bind (.read _) fun _ => .pure _)

theorem forwarding_sparesTun (host : Host F D) (readings : Readings D) (dstIp : UInt32)
    (dstGps : GPS F) (nread : Nat) :
    (forwarding host readings dstIp dstGps nread).Emits Event.SparesTun := by
  have send (nextHopId : UInt32) := sendToNextHop_sparesTun (F := F) (D := D) nextHopId nread
  have makeup := routeMakeup_sparesTun host readings.routeMakeup readings.gaussrand dstGps
  unfold forwarding
  refine .bind (.read _) fun it => .bind (.read _) fun untilTime => ?_
  cases it with
  | none =>
      refine .ite (dataBroadcast_sparesTun nread) (.bind makeup fun _ => ?_)
      exact .bind (.require _ _) fun _ => .ite (.bind (.modify _) fun _ => send _) (send _)
  | some entry =>
      refine .ite (.ite (dataBroadcast_sparesTun nread) (.bind makeup fun _ => ?_)) ?_
      · exact .ite (.bind (.modify _) fun _ => send _) (send _)
      · refine .bind (isLegal_sparesTun host _ _ _) fun _ => .ite (send _) ?_
        exact .bind makeup fun _ => .bind (.modify _) fun _ => send _

end

section

variable {ι F D : Type}

/-- What a datagram carries: a packet that some node has read from its own tun device, or, when
it is a beacon that has gone to the data port, nothing. -/
inductive Brought (history : List (Network ι F D × Action ι F D)) : List UInt8 → Prop
  | packet {net : Network ι F D} {node : ι} {received : Received} {sendFails : Bool}
      (member : (net, Action.originate node received sendFails) ∈ history) :
      Brought history received.originated
  | beacon {net : Network ι F D} {node : ι} {stack : BeaconMessage}
      (member : (net, Action.activity node (.sigalrm stack)) ∈ history)
      (port : (net.nodes node).broadcastAddr.sinPort = dataPort) : Brought history []

theorem Brought.later {history : List (Network ι F D × Action ι F D)} {packet : List UInt8}
    (brought : Brought history packet) (visited : Network ι F D × Action ι F D) :
    Brought (history ++ [visited]) packet := by
  cases brought with
  | packet member => exact .packet (List.mem_append_left _ member)
  | beacon member port => exact .beacon (List.mem_append_left _ member) port

/-- A datagram in flight carries a packet, and 24 bytes of its sender and of each relay since. -/
structure Travels (history : List (Network ι F D × Action ι F D)) (datagram : InFlight)
    (packet : List UInt8) : Prop where
  origin : Brought history packet
  added : ∃ tail, datagram.payload = packet ++ tail ∧
    tail.length = DataMessage.size * (datagram.trail.length + 1)
  relayed : datagram.trail = [] ∨ datagram.payload.length ≤ 65507 + DataMessage.size

theorem Travels.later {history : List (Network ι F D × Action ι F D)} {datagram : InFlight}
    {packet : List UInt8} (travels : Travels history datagram packet)
    (visited : Network ι F D × Action ι F D) : Travels (history ++ [visited]) datagram packet :=
  ⟨travels.origin.later visited, travels.added, travels.relayed⟩

variable [DoublePrecision D] [SinglePrecision F D]

theorem Travels.forwarded {host : Host F D} {ir : IR F D} {readings : Readings D}
    {writeFails : Bool} {history : List (Network ι F D × Action ι F D)} {datagram : InFlight}
    {packet : List UInt8} {sent : Option UInt32 × List UInt8}
    (travels : Travels history datagram packet) (udp : datagram.payload.length ≤ 65507)
    (member : sent ∈ transmissions
      ((recvData host readings (.packet datagram.payload) writeFails).run ir).events)
    (ttl : UInt32) :
    Travels history ⟨sent.2, datagram.trail ++ [ttl]⟩ packet := by
  have width : DataMessage.size = 24 := rfl
  obtain ⟨origin, ⟨tail, held, length⟩, -⟩ := travels
  have long : DataMessage.size ≤ tail.length := by
    rw [length]
    exact Nat.le_mul_of_pos_right _ (Nat.succ_pos _)
  rw [held] at udp member
  have relayed : (sent.1, sent.2) ∈ transmissions
      (Hop.outcome ⟨host, ir, readings, writeFails⟩ (packet ++ tail)).events := member
  obtain ⟨more, same, grown⟩ := retransmission_grows udp long relayed
  refine ⟨origin, ⟨more, same, ?_⟩, Or.inr ?_⟩
  · rw [grown, length, List.length_append, List.length_singleton]
    exact (Nat.mul_succ _ _).symm
  · have total : sent.2.length = packet.length + more.length := by rw [same, List.length_append]
    rw [List.length_append] at udp
    dsimp only
    omega

variable [DecidableEq ι]

theorem step_travels {host : Host F D} {history : List (Network ι F D × Action ι F D)}
    {net next : Network ι F D} {action : Action ι F D}
    (before : ∀ datagram ∈ net.inFlight, ∃ packet, Travels history datagram packet)
    (step : net.Evolves host action next) :
    ∀ datagram ∈ next.inFlight, ∃ packet, Travels (history ++ [(net, action)]) datagram packet := by
  intro datagram member
  have listed : (net, action) ∈ history ++ [(net, action)] :=
    List.mem_append_right _ (List.mem_singleton.mpr rfl)
  rw [← step.same] at member
  rcases List.mem_append.mp member with earlier | new
  · obtain ⟨packet, travels⟩ := before datagram earlier
    exact ⟨packet, travels.later _⟩
  · cases Network.arriving_cases new with
    | @originated node received _ _ emitted =>
        obtain ⟨message, same⟩ := recvTun_originates emitted
        exact ⟨received.originated, .packet listed, ⟨_, same, message.bytes_length host.order⟩,
          Or.inl rfl⟩
    | @relayed _ received _ _ _ emitted =>
        obtain ⟨packet, travels⟩ := before received step.possible.1
        exact ⟨packet, (travels.later _).forwarded step.possible.2 emitted _⟩
    | misdirected port =>
        exact ⟨[], .beacon listed port, ⟨_, rfl, BeaconMessage.bytes_length _ _⟩, Or.inl rfl⟩

theorem network_travels {host : Host F D} {nodes : ι → IR F D}
    {history : List (Network ι F D × Action ι F D)} {last : Network ι F D}
    (run : History (Network.Evolves host) ⟨nodes, []⟩ history last) :
    ∀ datagram ∈ last.inFlight, ∃ packet, Travels history datagram packet := by
  refine @History.along _ _ _ _ _ _ (fun history net => ∀ datagram ∈ net.inFlight,
    ∃ packet, Travels history datagram packet) run (fun _ member => nomatch member) ?_
  intro earlier before chosen after held step
  exact step_travels held step

/-- What is written to a tun device: what the datagram has carried, and 24 bytes for each relay on
its way. With an IPv4 header, it is for this node and not from it. -/
structure Delivers (order : ByteOrder) (history : List (Network ι F D × Action ι F D))
    (virIp : UInt32) (relays : Nat) (written packet : List UInt8) : Prop where
  origin : Brought history packet
  added : ∃ extra, written = packet ++ extra ∧ extra.length = DataMessage.size * relays
  addressed : ipHeaderSize ≤ packet.length → headerWord order packet daddrOffset = virIp
  foreign : ipHeaderSize ≤ packet.length → headerWord order packet saddrOffset ≠ virIp

omit [DecidableEq ι] [DoublePrecision D] [SinglePrecision F D] in
theorem headerWord_stored (order : ByteOrder) (ir : IR F D) {packet tail : List UInt8}
    {offset : Nat} (inside : offset + 4 ≤ packet.length)
    (fits : (packet ++ tail).length ≤ frameSize) :
    (storeDatagram ir (packet ++ tail)).dataRecvBuffer.word order offset =
      headerWord order packet offset := by
  have total : (packet ++ tail).length = packet.length + tail.length := List.length_append
  have read := Buffer.slice_overwrite_inside ir.dataRecvBuffer 0 offset 4 (packet ++ tail)
    (by omega) (by omega)
  rw [Nat.zero_add, List.drop_append_of_le_length (by omega),
    List.take_append_of_le_length (by rw [List.length_drop]; omega)] at read
  exact congrArg order.word read

omit [DecidableEq ι] in
theorem recvData_writes {host : Host F D} {ir : IR F D} {readings : Readings D} {writeFails : Bool}
    {history : List (Network ι F D × Action ι F D)} {datagram : InFlight}
    {packet written : List UInt8}
    (travels : Travels history datagram packet) (udp : datagram.payload.length ≤ 65507)
    (shown : .tunWritten written ∈
      ((recvData host readings (.packet datagram.payload) writeFails).run ir).events) :
    Delivers host.order history ir.virIp datagram.trail.length written packet := by
  have size : frameSize = 65536 := rfl
  have width : DataMessage.size = 24 := rfl
  have offsets : saddrOffset + 4 ≤ ipHeaderSize ∧ daddrOffset + 4 ≤ ipHeaderSize := by decide
  obtain ⟨origin, ⟨tail, held, length⟩, -⟩ := travels
  have grown : tail.length = DataMessage.size * datagram.trail.length + DataMessage.size :=
    length.trans (Nat.mul_succ _ _)
  have total : datagram.payload.length = packet.length + tail.length := by
    rw [held, List.length_append]
  have long : DataMessage.size ≤ datagram.payload.length := by omega
  have fits : datagram.payload.length ≤ frameSize := by omega
  rw [recvData_run host readings ir writeFails long fits] at shown
  by_cases own : srcIpOf host ir datagram.payload = ir.virIp
  · rw [if_pos own] at shown
    cases shown
  rw [if_neg own] at shown
  by_cases here : dstIpOf host ir datagram.payload = ir.virIp
  · rw [if_pos here] at shown
    have same : written = datagram.payload.take (datagram.payload.length - DataMessage.size) := by
      cases writeFails with
      | true => cases shown
      | false => exact Event.tunWritten.inj (List.mem_singleton.mp shown)
    refine ⟨origin, ⟨tail.take (tail.length - DataMessage.size), ?_, ?_⟩, ?_, ?_⟩
    · have inside : datagram.payload.length - DataMessage.size =
          packet.length + (tail.length - DataMessage.size) := by omega
      rw [same, inside, held, List.take_length_add_append]
    · rw [List.length_take]
      omega
    · intro header
      rw [← here, dstIpOf, held]
      exact (headerWord_stored _ _ (by omega) (held ▸ fits)).symm
    · intro header foreign
      apply own
      rw [srcIpOf, held]
      exact (headerWord_stored _ _ (by omega) (held ▸ fits)).trans foreign
  · rw [if_neg here] at shown
    split at shown
    · exact absurd rfl (forwarding_sparesTun host readings _ _ _ _ _ shown written)
    · cases shown

/-- However the nodes act, and however often and late datagrams arrive: whatever a node writes
to its tun device is what some node has read from its own, or nothing when it comes from a
beacon, up to 24 bytes more for each relay; and it is written by the node that its header names. -/
theorem network_deliversOriginated {host : Host F D} {nodes : ι → IR F D}
    {history : List (Network ι F D × Action ι F D)} {last : Network ι F D}
    (run : History (Network.Evolves host) ⟨nodes, []⟩ history last) {action : Action ι F D}
    (possible : action.Possible last) {written : List UInt8}
    (shown : .tunWritten written ∈ (last.outcome host action).events) :
    ∃ node datagram readings writeFails, action = .deliver node datagram readings writeFails ∧
      ∃ packet, Delivers host.order history (last.nodes node).virIp datagram.trail.length
        written packet := by
  cases action with
  | deliver node datagram readings writeFails =>
      obtain ⟨packet, travels⟩ := network_travels run datagram possible.1
      exact ⟨node, datagram, readings, writeFails, rfl, packet,
        recvData_writes travels possible.2 shown⟩
  | originate node received sendFails =>
      exact absurd rfl (recvTun_sparesTun host received sendFails _ _ shown written)
  | hear node now fromAddr received =>
      rw [Network.hear_events] at shown
      cases shown
  | activity node chosen =>
      cases chosen with
      | gpsFix gps speed => cases shown
      | sigalrm stack =>
          change _ ∈ ((sendBeacon host stack).run (last.nodes node)).events at shown
          rw [sendBeacon_run] at shown
          cases List.mem_singleton.mp shown

end

def twoNodes : Fin 2 → IR Float32 Float
  | 0 => { loneNode with virIp := 0x0200000A }
  | 1 => { loneNode with virIp := 0x0300000A }

def sendDirect : Action (Fin 2) Float32 Float :=
  .originate 0 (.packet headerPacket) false

def receiveDirect : Action (Fin 2) Float32 Float :=
  .deliver 1 ⟨headerDatagram ⟨20, 0, 0, 0, 90, 16⟩, []⟩ .atOneSecond false

def directlySent : Network (Fin 2) Float32 Float :=
  Network.afterAll .shortHistories ⟨twoNodes, []⟩ sendDirect

theorem directlySent_history : History (Network.Evolves Host.shortHistories) ⟨twoNodes, []⟩
    [(⟨twoNodes, []⟩, sendDirect)] directlySent :=
  (History.start _).next sendDirect ⟨trivial, by decide +kernel, rfl⟩

/-- Without a relay, the packet arrives as it was read. -/
theorem headerPacket_delivered :
    ∃ packet, Delivers .little [(⟨twoNodes, []⟩, sendDirect)] 0x0300000A 0 headerPacket packet := by
  have possible : receiveDirect.Possible directlySent := ⟨by decide +kernel, by decide⟩
  have written : .tunWritten headerPacket ∈
      (directlySent.outcome .shortHistories receiveDirect).events := by
    decide +kernel
  obtain ⟨node, datagram, readings, writeFails, same, packet, delivers⟩ :=
    network_deliversOriginated directlySent_history possible written
  obtain ⟨rfl, rfl, -, -⟩ := Action.deliver.inj same
  exact ⟨packet, delivers⟩

section

variable {ι F D : Type} [DoublePrecision D] [SinglePrecision F D] [DecidableEq ι]

/-- However the nodes act, every datagram in flight carries 24 bytes for each of its relays, and
none has been relayed more than 2729 times: longer ones do not fit into UDP. -/
theorem network_trailBounded {host : Host F D} {nodes : ι → IR F D}
    {history : List (Network ι F D × Action ι F D)} {last : Network ι F D}
    (run : History (Network.Evolves host) ⟨nodes, []⟩ history last) :
    ∀ datagram ∈ last.inFlight,
      DataMessage.size * (datagram.trail.length + 1) ≤ datagram.payload.length ∧
        datagram.trail.length ≤ 2729 := by
  intro datagram member
  have width : DataMessage.size = 24 := rfl
  obtain ⟨packet, -, ⟨tail, held, length⟩, relayed⟩ := network_travels run datagram member
  have total : datagram.payload.length = packet.length + tail.length := by
    rw [held, List.length_append]
  rw [width] at length relayed ⊢
  refine ⟨by omega, ?_⟩
  rcases relayed with none | short
  · rw [none]
    exact Nat.zero_le _
  · omega

end

/-- 10.0.0.2 sends a packet, 10.0.0.1 relays it, and the next beacon of 10.0.0.2 follows it. -/
def relayedAll : Network (Fin 3) Float32 Float :=
  (Network.afterAll .shortHistories ⟨staleNodes, []⟩ sendPacket).afterAll .shortHistories relayFresh

def beaconAstray : Action (Fin 3) Float32 Float :=
  .activity sendPacket.node (.sigalrm ⟨0, 0, 0, 0, 0, 0⟩)

theorem relayedAll_history : History (Network.Evolves Host.shortHistories) ⟨staleNodes, []⟩
    [(⟨staleNodes, []⟩, sendPacket),
      (Network.afterAll .shortHistories ⟨staleNodes, []⟩ sendPacket, relayFresh),
      (relayedAll, beaconAstray)] (relayedAll.afterAll .shortHistories beaconAstray) := by
  have completed : (relayedAll.outcome Host.shortHistories beaconAstray).result = .ok () := by
    change ((sendBeacon Host.shortHistories _).run (relayedAll.nodes 0)).result = _
    rw [sendBeacon_run]
  exact (((History.start _).next sendPacket ⟨trivial, by decide +kernel, rfl⟩).next relayFresh
    ⟨⟨by decide +kernel, by decide⟩, by decide +kernel, rfl⟩).next beaconAstray
    ⟨trivial, completed, rfl⟩

/-- One relay, one `ttl` in the trail, and none in that of the beacon. -/
theorem relayedOnce_trailBounded :
    (relayedAll.afterAll .shortHistories beaconAstray).inFlight.map (·.trail.length) = [0, 1, 0] ∧
      ∀ datagram ∈ (relayedAll.afterAll .shortHistories beaconAstray).inFlight,
        DataMessage.size * (datagram.trail.length + 1) ≤ datagram.payload.length ∧
          datagram.trail.length ≤ 2729 :=
  ⟨by decide +kernel, network_trailBounded relayedAll_history⟩

end TunVideo
