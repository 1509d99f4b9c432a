import TunVideo.Network
import TunVideo.ProgramEvents

set_option autoImplicit false

/- How often a datagram is relayed. The `ttl` a relay sends on is not the one it has
decremented: the next relay finds the trailer in the bytes behind it. -/
namespace TunVideo

open Program

/-- At most 15 relays have read ever smaller values, all of them above one. -/
structure HopBounded (datagram : InFlight) : Prop where
  count : datagram.trail.length ≤ 15
  decreasing : datagram.trail.Pairwise fun earlier later => later < earlier
  alive : ∀ ttl ∈ datagram.trail, 1 < ttl

def ttlIn (order : ByteOrder) (payload : List UInt8) : UInt32 :=
  order.word (payload.drop (payload.length - 4))

theorem ttlIn_append (order : ByteOrder) (front : List UInt8) (message : DataMessage) :
    ttlIn order (front ++ message.bytes order) = message.ttl := by
  have split : front ++ message.bytes order =
      front ++ message.front order ++ order.bytes message.ttl := by
    rw [DataMessage.bytes_eq_front, List.append_assoc]
  rw [ttlIn, split, List.length_append, ByteOrder.bytes_length, Nat.add_sub_cancel,
    List.drop_left, ByteOrder.word_bytes]

/-- A payload that ends with a trailer whose `ttl` is 16. -/
def EndsFresh (order : ByteOrder) (payload : List UInt8) : Prop :=
  ∃ front message, payload = front ++ DataMessage.bytes order message ∧ message.ttl = 16

/-- What the datagram still carries leaves no room for more than 15 relays in all. -/
structure Carries (order : ByteOrder) (datagram : InFlight) : Prop where
  bounded : HopBounded datagram
  smaller : ∀ ttl ∈ datagram.trail, ttlIn order datagram.payload < ttl
  remaining : datagram.trail.length + (ttlIn order datagram.payload).toNat ≤ 16

theorem EndsFresh.carries {order : ByteOrder} {payload : List UInt8}
    (fresh : EndsFresh order payload) : Carries order ⟨payload, []⟩ := by
  obtain ⟨front, message, rfl, start⟩ := fresh
  have unread (ttl : UInt32) (member : ttl ∈ ([] : List UInt32)) : False := nomatch member
  refine ⟨⟨Nat.zero_le _, .nil, fun ttl member => (unread ttl member).elim⟩,
    fun ttl member => (unread ttl member).elim, ?_⟩
  change 0 + (ttlIn order (front ++ message.bytes order)).toNat ≤ 16
  rw [ttlIn_append, start]
  decide

section

variable {F D : Type}

def Event.SendsFresh (order : ByteOrder) (event : Event F) : Prop :=
  ∀ sent, event.transmission = some sent → EndsFresh order sent.2

/-- Once the buffer is filled, what is sent from it ends with the trailer. -/
theorem fillDataBuffer_sends (order : ByteOrder) (nread : Nat) {message : DataMessage}
    (fresh : message.ttl = 16) {next : Unit → Procedure F D Unit}
    (tail : ∀ ir : IR F D, EndsFresh order (ir.dataBuffer.slice 0 (nread + DataMessage.size)) →
      ∀ event ∈ ((next ()).run ir).events, event.SendsFresh order) :
    (fillDataBuffer order nread message >>= next).Emits (Event.SendsFresh order) := by
  intro ir event member
  by_cases fits : nread + DataMessage.size ≤ frameSize
  · rw [run_bind, fillDataBuffer_run _ _ _ fits, Outcome.bind_ok, Outcome.after_nil] at member
    refine tail _ ⟨ir.tunBuffer.slice 0 nread, message, ?_, fresh⟩ event member
    exact filledBuffer_slice order message ir fits
  · unfold fillDataBuffer at member
    simp [Buffer.write, fits] at member

theorem trailerIn_ttl (host : Host F D) (ir : IR F D) {datagram : List UInt8}
    (long : DataMessage.size ≤ datagram.length) (short : datagram.length ≤ frameSize) :
    (trailerIn host ir datagram).ttl = ttlIn host.order datagram := by
  have least : 24 ≤ datagram.length := long
  have position : datagram.length - DataMessage.size + DataMessage.ttlOffset =
      datagram.length - 4 := by
    change datagram.length - 24 + 20 = _
    omega
  have held := Buffer.slice_overwrite_inside ir.dataRecvBuffer 0 (datagram.length - 4) 4 datagram
    (by omega) (by omega)
  rw [Nat.zero_add, List.take_of_length_le (by rw [List.length_drop]; omega)] at held
  rw [trailerIn, DataMessage.ofBuffer]
  dsimp only
  rw [position, storeDatagram, Buffer.word, held, ttlIn]

theorem ttlIn_retransmitted (host : Host F D) (ir : IR F D) (datagram : List UInt8) :
    ttlIn host.order (decremented host ir datagram ++
        ir.dataRecvBuffer.slice datagram.length DataMessage.size) =
      ir.dataRecvBuffer.word host.order (datagram.length + DataMessage.ttlOffset) := by
  have halves : ir.dataRecvBuffer.slice datagram.length DataMessage.size =
      ir.dataRecvBuffer.slice datagram.length DataMessage.ttlOffset ++
        ir.dataRecvBuffer.slice (datagram.length + DataMessage.ttlOffset) 4 :=
    Buffer.slice_append ir.dataRecvBuffer datagram.length DataMessage.ttlOffset 4
  rw [halves, ← List.append_assoc, ttlIn, List.length_append, Buffer.slice_length,
    Nat.add_sub_cancel, List.drop_left, Buffer.word]

/-- A relay that reads a `ttl` above zero and sends on a smaller one. -/
def SendsSmaller (host : Host F D) (ir : IR F D) (datagram : List UInt8) : Prop :=
  Relayed host ir datagram → (trailerIn host ir datagram).ttl ≠ 0 ∧
    ir.dataRecvBuffer.word host.order (datagram.length + DataMessage.ttlOffset) <
      (trailerIn host ir datagram).ttl

variable [SinglePrecision F D]

theorem recvTun_sendsFresh (host : Host F D) (received : Received) (sendFails : Bool) :
    (recvTun host received sendFails).Emits (Event.SendsFresh host.order) := by
  unfold recvTun getGps recvTunAfterGps tunSending
  refine .bind (.modify _) fun _ => .bind (.modify _) fun _ => .bind (.read _) fun opt =>
    .bind (.read _) fun _ => ?_
  cases opt with
  | none =>
      refine .bind (.single ?_) fun _ => .bind (.read _) fun _ => .bind (.require _ _) fun _ =>
        fillDataBuffer_sends _ _ rfl ?_
      · intro ir sent none
        cases none
      · intro ir filled event member
        split at member
        · cases member
        · rw [run_perform] at member
          rw [List.mem_singleton.mp member]
          intro sent same
          cases same
          exact filled
  | some found =>
      refine .bind (.require _ _) fun _ => .bind (.require _ _) fun _ => .bind (.read _) fun _ =>
        .bind (.require _ _) fun _ => fillDataBuffer_sends _ _ rfl ?_
      intro ir filled event member
      rw [run_perform] at member
      rw [List.mem_singleton.mp member]
      intro sent same
      cases same
      exact filled

theorem recvBeacon_emits {allowed : Event F → Prop} (host : Host F D) (now : Timeval)
    (fromAddr : UInt32) (received : Received) :
    (recvBeacon host now fromAddr received).Emits allowed := by
  unfold recvBeacon buildNeighbor
  exact .bind (.modify _) fun _ => .bind (.read _) fun _ => .bind (.read _) fun _ =>
    .ite (.bind (.read _) fun _ => .bind (.modify _) fun _ => .bind (.modify _) fun _ =>
      .bind (.modify _) fun _ => .modify _) (.pure ())

theorem activity_sendsNothing (host : Host F D) (chosen : Activity F D) (ir : IR F D) :
    transmissions ((chosen.procedure host).run ir).events = [] := by
  cases chosen with
  | sigalrm stack => rw [Activity.procedure, sendBeacon_run]; rfl
  | gpsFix gps speed => rfl

variable [DoublePrecision D]

theorem originated_carries {ι : Type} {host : Host F D} {ir : IR F D} {action : Action ι F D}
    (direct : action.trail host ir = []) {sent : Option UInt32 × List UInt8}
    (member : sent ∈ transmissions ((action.procedure host).run ir).events) :
    Carries host.order ⟨sent.2, []⟩ := by
  obtain ⟨event, emitted, same⟩ := List.mem_filterMap.mp member
  cases action with
  | originate node received sendFails =>
      exact (recvTun_sendsFresh host received sendFails ir event emitted sent same).carries
  | deliver node datagram readings writeFails =>
      exact absurd direct (List.append_ne_nil_of_right_ne_nil _ (List.cons_ne_nil _ _))
  | hear node now fromAddr received =>
      have silent : (recvBeacon host now fromAddr received).Emits fun _ => False :=
        recvBeacon_emits host now fromAddr received
      exact (silent ir event emitted).elim
  | activity node chosen =>
      change sent ∈ transmissions ((chosen.procedure host).run ir).events at member
      rw [activity_sendsNothing] at member
      cases member

theorem Carries.relayed {host : Host F D} {ir : IR F D} {readings : Readings D} {writeFails : Bool}
    {datagram : InFlight} {sent : Option UInt32 × List UInt8}
    (carries : Carries host.order datagram) (udp : datagram.payload.length ≤ 65507)
    (met : SendsSmaller host ir datagram.payload)
    (member : sent ∈ transmissions
      ((recvData host readings (.packet datagram.payload) writeFails).run ir).events) :
    Carries host.order
      ⟨sent.2, datagram.trail ++ [(trailerIn host ir datagram.payload).ttl]⟩ := by
  have fits : datagram.payload.length + DataMessage.size ≤ frameSize :=
    Nat.le_trans (Nat.add_le_add_right udp _) (by decide)
  obtain ⟨relayed, same⟩ := recvData_payload fits member
  obtain ⟨positive, below⟩ := met relayed
  have read := trailerIn_ttl host ir relayed.long (by omega)
  have carried : ttlIn host.order sent.2 < (trailerIn host ir datagram.payload).ttl := by
    rw [same, ttlIn_retransmitted]
    exact below
  have above := (ttl_remains_iff positive).mp relayed.alive
  rw [read] at above carried ⊢
  obtain ⟨⟨-, decreasing, alive⟩, smaller, remaining⟩ := carries
  have positive' : 1 < (ttlIn host.order datagram.payload).toNat := UInt32.lt_iff_toNat_lt.mp above
  have drop : (ttlIn host.order sent.2).toNat < (ttlIn host.order datagram.payload).toNat :=
    UInt32.lt_iff_toNat_lt.mp carried
  refine ⟨⟨?_, ?_, ?_⟩, ?_, ?_⟩
  · rw [List.length_append, List.length_singleton]
    omega
  · refine List.pairwise_append.mpr ⟨decreasing, List.pairwise_singleton _ _, ?_⟩
    intro earlier member later last
    rw [List.mem_singleton.mp last]
    exact smaller earlier member
  · intro ttl member
    rcases List.mem_append.mp member with earlier | last
    · exact alive ttl earlier
    · rw [List.mem_singleton.mp last]
      exact above
  · intro ttl member
    rcases List.mem_append.mp member with earlier | last
    · exact UInt32.lt_trans carried (smaller ttl earlier)
    · rw [List.mem_singleton.mp last]
      exact carried
  · rw [List.length_append, List.length_singleton]
    dsimp only
    omega

variable {ι : Type} [DecidableEq ι]

/-- Whenever a datagram is relayed, the relay sends a smaller `ttl` on. -/
def RelaysSmaller (host : Host F D) (net : Network ι F D) : Action ι F D → Prop
  | .deliver node datagram _ _ => SendsSmaller host (net.nodes node) datagram.payload
  | _ => True

theorem step_carries {host : Host F D} {net next : Network ι F D} {action : Action ι F D}
    (carries : ∀ datagram ∈ net.inFlight, Carries host.order datagram)
    (met : RelaysSmaller host net action) (step : net.Step host action next) :
    ∀ datagram ∈ next.inFlight, Carries host.order datagram := by
  intro datagram member
  rw [← step.same] at member
  rcases List.mem_append.mp member with earlier | new
  · exact carries datagram earlier
  · obtain ⟨sent, emitted, rfl⟩ := List.mem_map.mp new
    cases action with
    | deliver node received readings writeFails =>
        exact (carries received step.possible.1).relayed step.possible.2 met emitted
    | originate node received sendFails => exact originated_carries rfl emitted
    | hear node now fromAddr received => exact originated_carries rfl emitted
    | activity node chosen => exact originated_carries rfl emitted

/-- In every run in which each relay reads a positive `ttl` and sends a smaller one on, no
datagram is relayed more than 15 times. -/
theorem network_hopBounded {host : Host F D} {nodes : ι → IR F D}
    {history : List (Network ι F D × Action ι F D)} {last : Network ι F D}
    (run : History (Network.Step host) ⟨nodes, []⟩ history last)
    (met : ∀ visited ∈ history, RelaysSmaller host visited.1 visited.2) :
    ∀ datagram ∈ last.inFlight, HopBounded datagram := by
  have none : ∀ datagram ∈ (⟨nodes, []⟩ : Network ι F D).inFlight, Carries host.order datagram :=
    fun _ member => nomatch member
  have all := run.invariant met none fun _ _ _ carries here step => step_carries carries here step
  exact fun datagram member => (all datagram member).bounded

end

/-- 10.0.0.2, which sends a packet, and two relays. In the buffer of the first one an old
trailer with a `ttl` of zero lies where the datagram ends. -/
def staleNodes : Fin 3 → IR Float32 Float
  | 0 => { loneNode with virIp := 0x0200000A }
  | 1 => { loneNode with
      dataRecvBuffer := loneNode.dataRecvBuffer.overwrite 44
        (DataMessage.bytes .little ⟨0, 0, 0, 0, 90, 0⟩) }
  | 2 => { loneNode with virIp := 0x0400000A }

def sendPacket : Action (Fin 3) Float32 Float :=
  .originate 0 (.packet headerPacket) false

def relayFresh : Action (Fin 3) Float32 Float :=
  .deliver 1 ⟨headerDatagram ⟨20, 0, 0, 0, 90, 16⟩, []⟩ .atOneSecond false

/-- What the first relay sends: the old trailer is behind the new one. -/
def relayedOnce : InFlight where
  payload := headerDatagram ⟨20, 0, 0, 0, 90, 15⟩ ++ DataMessage.bytes .little ⟨0, 0, 0, 0, 90, 0⟩
  trail := [16]

def relayStale : Action (Fin 3) Float32 Float :=
  .deliver 2 relayedOnce .atOneSecond false

def afterSend : Network (Fin 3) Float32 Float :=
  Network.after .shortHistories ⟨staleNodes, []⟩ sendPacket

def afterRelay : Network (Fin 3) Float32 Float :=
  afterSend.after .shortHistories relayFresh

theorem relayFresh_history : History (Network.Step Host.shortHistories) ⟨staleNodes, []⟩
    [(⟨staleNodes, []⟩, sendPacket), (afterSend, relayFresh)] afterRelay :=
  ((History.start _).next sendPacket ⟨trivial, by decide +kernel, rfl⟩).next relayFresh
    ⟨⟨by decide +kernel, by decide⟩, by decide +kernel, rfl⟩

/-- The second relay reads the old zero, decrements it to 2 ^ 32 - 1 and sends it on. -/
theorem relay_wrapsTtl :
    ∃ history last, History (Network.Step Host.shortHistories) ⟨staleNodes, []⟩ history last ∧
      ¬∀ datagram ∈ last.inFlight, HopBounded datagram := by
  refine ⟨_, _, relayFresh_history.next relayStale
    ⟨⟨by decide +kernel, by decide⟩, by decide +kernel, rfl⟩, ?_⟩
  intro bounded
  have trails : (afterRelay.after .shortHistories relayStale).inFlight.map InFlight.trail =
      [[], [16], [16, 0]] := by
    decide +kernel
  have zero : [16, 0] ∈ (afterRelay.after .shortHistories relayStale).inFlight.map
      InFlight.trail := by
    rw [trails]
    decide
  obtain ⟨datagram, member, trail⟩ := List.mem_map.mp zero
  have above := (bounded datagram member).alive 0 (by rw [trail]; decide)
  exact absurd above (by decide)

/-- The first relay has sent a smaller `ttl` on. -/
theorem relayedOnce_hopBounded : HopBounded relayedOnce := by
  refine network_hopBounded relayFresh_history ?_ relayedOnce (by decide +kernel)
  intro visited member
  rcases List.mem_cons.mp member with rfl | last
  · trivial
  · rw [List.mem_singleton.mp last]
    exact fun _ => ⟨by decide +kernel, by decide +kernel⟩

end TunVideo
