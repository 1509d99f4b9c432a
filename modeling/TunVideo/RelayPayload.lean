import TunVideo.Origin
import TunVideo.Retransmission

set_option autoImplicit false

namespace TunVideo

variable {F D : Type}

/-- A node on the way: the state in which the datagram finds it, and what its
environment supplies meanwhile. -/
structure Hop (F D : Type) where
  host : Host F D
  ir : IR F D
  readings : Readings D
  writeFails : Bool

def DataMessage.relayed (message : DataMessage) : DataMessage :=
  { message with ttl := message.ttl - 1 }

/-- Every relay sends the packet and the trailer it received, with `ttl` decremented. -/
def RelaysFaithful (order : ByteOrder) (packet : List UInt8) :
    DataMessage → List (List UInt8) → Prop
  | _, [] => True
  | message, payload :: rest =>
      payload = packet ++ message.relayed.bytes order ∧
        RelaysFaithful order packet message.relayed rest

variable [DoublePrecision D] [SinglePrecision F D]

/-- `recv_data` on a datagram that arrives at the hop. -/
def Hop.outcome (hop : Hop F D) (datagram : List UInt8) :
    Outcome (IR F D) (Event F) Stop Unit :=
  (recvData hop.host hop.readings (.packet datagram) hop.writeFails).run hop.ir

/-- A chain of relays, each with the datagram it sends, from the first datagram to the last. -/
inductive Chain : List UInt8 → List (Hop F D × List UInt8) → List UInt8 → Prop
  | direct (datagram : List UInt8) : Chain datagram [] datagram
  | relay {hop : Hop F D} {target : Option UInt32} {datagram payload last : List UInt8}
      {rest : List (Hop F D × List UInt8)} (udp : datagram.length ≤ 65507)
      (sent : (target, payload) ∈ transmissions (hop.outcome datagram).events)
      (further : Chain payload rest last) : Chain datagram ((hop, payload) :: rest) last

structure Hop.Addressed (hop : Hop F D) (datagram : List UInt8) : Prop where
  udp : datagram.length ≤ 65507
  foreign : srcIpOf hop.host hop.ir datagram ≠ hop.ir.virIp
  here : dstIpOf hop.host hop.ir datagram = hop.ir.virIp
  writes : hop.writeFails = false

/-- The packet and its trailer pass all relays, and the packet is all that is delivered. -/
def DeliversIntact (order : ByteOrder) (packet datagram : List UInt8)
    (relays : List (Hop F D × List UInt8)) (last : List UInt8) (destination : Hop F D) : Prop :=
  (∃ message : DataMessage, datagram = packet ++ message.bytes order ∧
      RelaysFaithful order packet message (relays.map Prod.snd)) ∧
    (destination.outcome last).events = [.tunWritten packet]

/-- Each relay leaves what precedes the trailer alone and adds 24 bytes at the end. -/
theorem retransmission_grows {hop : Hop F D} {target : Option UInt32} {packet rest : List UInt8}
    {payload : List UInt8} (udp : (packet ++ rest).length ≤ 65507)
    (trailer : DataMessage.size ≤ rest.length)
    (sent : (target, payload) ∈ transmissions (hop.outcome (packet ++ rest)).events) :
    ∃ tail, payload = packet ++ tail ∧ tail.length = rest.length + DataMessage.size := by
  have fits : (packet ++ rest).length + DataMessage.size ≤ frameSize :=
    Nat.le_trans (Nat.add_le_add_right udp _) (by decide)
  have least : 24 ≤ rest.length := trailer
  have total : (packet ++ rest).length = packet.length + rest.length := List.length_append
  obtain ⟨-, same⟩ := recvData_payload fits sent
  have kept : (packet ++ rest).take ((packet ++ rest).length - 4) =
      packet ++ rest.take (rest.length - 4) := by
    have inside : (packet ++ rest).length - 4 = packet.length + (rest.length - 4) := by omega
    rw [inside, List.take_length_add_append]
  rw [decremented, kept, List.append_assoc, List.append_assoc] at same
  refine ⟨_, same, ?_⟩
  simp only [List.length_append, List.length_take, ByteOrder.bytes_length, Buffer.slice_length]
  omega

theorem chain_grows {datagram last packet rest : List UInt8}
    {relays : List (Hop F D × List UInt8)} (chain : Chain datagram relays last)
    (held : datagram = packet ++ rest) (trailer : DataMessage.size ≤ rest.length) :
    ∃ tail, last = packet ++ tail ∧
      tail.length = rest.length + DataMessage.size * relays.length := by
  induction chain generalizing rest with
  | direct => exact ⟨rest, held, rfl⟩
  | relay udp sent _ ih =>
      subst held
      obtain ⟨middle, same, longer⟩ := retransmission_grows udp trailer sent
      obtain ⟨tail, delivered, grown⟩ := ih same (by omega)
      refine ⟨tail, delivered, ?_⟩
      rw [grown, longer, List.length_cons, Nat.mul_succ]
      omega

/-- The destination writes all but the last 24 bytes to its tun device. -/
theorem destination_writes {destination : Hop F D} {packet tail : List UInt8}
    (arrives : destination.Addressed (packet ++ tail)) (trailer : DataMessage.size ≤ tail.length) :
    (destination.outcome (packet ++ tail)).events =
      [.tunWritten (packet ++ tail.take (tail.length - DataMessage.size))] := by
  obtain ⟨udp, foreign, here, writes⟩ := arrives
  have least : 24 ≤ tail.length := trailer
  have total : (packet ++ tail).length = packet.length + tail.length := List.length_append
  have long : DataMessage.size ≤ (packet ++ tail).length := by omega
  have short : (packet ++ tail).length ≤ frameSize := Nat.le_trans udp (by decide)
  have inside : (packet ++ tail).length - DataMessage.size =
      packet.length + (tail.length - DataMessage.size) := by omega
  rw [Hop.outcome, writes, recvData_run _ _ _ _ long short, if_neg foreign, if_pos here, inside,
    List.take_length_add_append]
  rfl

section

variable {host : Host F D} {origin : IR F D} {packet datagram last : List UInt8}
  {target : Option UInt32} {relays : List (Hop F D × List UInt8)} {destination : Hop F D}

/-- Over `k` relays the destination writes the packet and 24 `k` bytes more. -/
theorem chain_delivers (fits : packet.length + DataMessage.size ≤ frameSize)
    (sent : (target, datagram) ∈
      transmissions ((recvTun host (.packet packet) false).run origin).events)
    (chain : Chain datagram relays last) (arrives : destination.Addressed last) :
    ∃ extra, (destination.outcome last).events = [.tunWritten (packet ++ extra)] ∧
      extra.length = DataMessage.size * relays.length := by
  obtain ⟨message, -, same⟩ := recvTun_sent fits sent
  have width : (message.bytes host.order).length = DataMessage.size := message.bytes_length _
  obtain ⟨tail, rfl, grown⟩ := chain_grows chain same (Nat.le_of_eq width.symm)
  refine ⟨_, destination_writes arrives (by omega), ?_⟩
  rw [List.length_take]
  omega

/-- A packet arrives intact over a chain of relays if and only if the chain has none. -/
theorem chain_deliversIntact_iff (fits : packet.length + DataMessage.size ≤ frameSize)
    (sent : (target, datagram) ∈
      transmissions ((recvTun host (.packet packet) false).run origin).events)
    (chain : Chain datagram relays last) (arrives : destination.Addressed last) :
    DeliversIntact host.order packet datagram relays last destination ↔ relays = [] := by
  obtain ⟨extra, written, grown⟩ := chain_delivers fits sent chain arrives
  constructor
  · rintro ⟨-, delivered⟩
    rw [written] at delivered
    have same : packet ++ extra = packet := by simpa using delivered
    rw [List.append_right_eq_self.mp same, List.length_nil] at grown
    have none : relays.length = 0 :=
      (Nat.mul_eq_zero.mp grown.symm).resolve_left (by decide)
    exact List.eq_nil_of_length_eq_zero none
  · rintro rfl
    obtain ⟨message, -, same⟩ := recvTun_sent fits sent
    rw [List.eq_nil_of_length_eq_zero grown, List.append_nil] at written
    exact ⟨⟨message, same, trivial⟩, written⟩

end

def loneHop (virIp : UInt32) : Hop Float32 Float :=
  ⟨.shortHistories, { loneNode with virIp := virIp }, .atOneSecond, false⟩

theorem headerPacket_sent : (none, headerDatagram ⟨20, 0, 0, 0, 90, 16⟩) ∈ transmissions
    ((recvTun Host.shortHistories (.packet headerPacket) false).run
      (loneHop 0x0200000A).ir).events := by
  decide +kernel

/-- One relay is enough: it broadcasts the datagram and 24 bytes that it has cleared. -/
theorem relay_breaksPacket :
    let datagram := headerDatagram ⟨20, 0, 0, 0, 90, 16⟩
    let payload := headerDatagram ⟨20, 0, 0, 0, 90, 15⟩ ++ List.replicate 24 0
    (none, datagram) ∈ transmissions ((recvTun Host.shortHistories (.packet headerPacket)
        false).run (loneHop 0x0200000A).ir).events ∧
      Chain datagram [(loneHop 0x0100000A, payload)] payload ∧
      (loneHop 0x0300000A).Addressed payload ∧
      ¬DeliversIntact .little headerPacket datagram [(loneHop 0x0100000A, payload)] payload
        (loneHop 0x0300000A) := by
  intro datagram payload
  have relayed : (none, payload) ∈
      transmissions ((loneHop 0x0100000A).outcome datagram).events := by
    decide +kernel
  refine ⟨headerPacket_sent, .relay (by decide) relayed (.direct payload),
    ⟨by decide, by decide +kernel, by decide +kernel, rfl⟩, ?_⟩
  rintro ⟨⟨message, -, same, -⟩, -⟩
  have lengths := congrArg List.length same
  have expected : (headerPacket ++ message.relayed.bytes .little).length = 44 := by
    rw [List.length_append, DataMessage.bytes_length]
    decide
  rw [expected] at lengths
  exact absurd lengths (by decide)

/-- Without a relay the same packet arrives. -/
theorem neighbor_deliversIntact :
    let datagram := headerDatagram ⟨20, 0, 0, 0, 90, 16⟩
    DeliversIntact .little headerPacket datagram [] datagram (loneHop 0x0300000A) :=
  (chain_deliversIntact_iff (by decide) headerPacket_sent (.direct _)
    ⟨by decide, by decide +kernel, by decide +kernel, rfl⟩).mpr rfl

end TunVideo
