import TunVideo.BeaconOrder

set_option autoImplicit false

namespace TunVideo

open Program SinglePrecision

def BeaconMessage.ofBytes (order : ByteOrder) (bytes : List UInt8) : BeaconMessage where
  virIp := order.word (bytes.take 4)
  phyIp := order.word ((bytes.drop 4).take 4)
  srcGpsX := order.word ((bytes.drop 8).take 4)
  srcGpsY := order.word ((bytes.drop 12).take 4)
  srcSpeedX := order.word ((bytes.drop 16).take 4)
  srcSpeedY := order.word ((bytes.drop 20).take 4)

/-- What a buffer begins with after a read: the received bytes, then those it held before. -/
def Received.readBytes {n : Nat} (size : Nat) (older : Buffer n) : Received → List UInt8
  | failed => older.slice 0 size
  | packet payload =>
      payload.take size ++ older.slice payload.length (size - payload.length)

theorem Received.store_slice {n size : Nat} (received : Received) (older : Buffer n)
    (room : size ≤ n) :
    (received.store size older).slice 0 size = received.readBytes size older := by
  cases received with
  | failed => rfl
  | packet payload =>
      rw [store, readBytes]
      by_cases short : payload.length ≤ size
      · have past := Buffer.slice_overwrite_past older 0 (size - payload.length) payload (by omega)
        rw [Nat.zero_add, Nat.add_sub_cancel' short] at past
        rw [List.take_of_length_le short]
        exact past
      · have width : (payload.take size).length = size := by
          rw [List.length_take]
          omega
        have whole := Buffer.slice_overwrite older 0 (payload.take size) (by omega)
        have nothing : size - payload.length = 0 := by omega
        rw [width] at whole
        rw [whole, nothing]
        exact (List.append_nil _).symm

/-- The words that are parsed are those of the first 24 bytes. -/
theorem BeaconMessage.parse_eq_ofBytes {n : Nat} (order : ByteOrder) (packet : Buffer n) :
    parse order packet = ofBytes order (packet.slice 0 size) := by
  have word (start : Nat) (inside : start + 4 ≤ size) :
      packet.word order start = order.word (((packet.slice 0 size).drop start).take 4) := by
    have split : size = start + (4 + (size - start - 4)) := by omega
    have front : (packet.slice 0 start).length = start := Buffer.slice_length _ _ _
    have here : (packet.slice start 4).length = 4 := Buffer.slice_length _ _ _
    rw [split, Buffer.slice_append, Nat.zero_add, List.drop_left' front, Buffer.slice_append,
      List.take_left' here]
    rfl
  simp only [parse, pktGetU32, ofBytes, Nat.zero_add]
  rw [word 0 (by decide), word 4 (by decide), word 8 (by decide), word 12 (by decide),
    word 16 (by decide), word 20 (by decide), List.drop_zero]

theorem eq_replicate_of_shift {α : Type} {first last : α} {rest : List α}
    (same : rest ++ [last] = first :: rest) :
    first :: rest = List.replicate (rest.length + 1) last := by
  induction rest generalizing first with
  | nil =>
      rw [← (List.cons.inj same).1]
      rfl
  | cons second rest ih =>
      obtain ⟨rfl, behind⟩ := List.cons.inj same
      have tail := ih behind
      have head : second = last := (List.cons.inj tail).1
      rw [List.length_cons, tail, head]
      rfl

/-- A push keeps a history as it is only if that is full and repeats one position. -/
theorem pushHistory_eq_self_iff {F : Type} {gpsq : List (GPS F)} {gps : GPS F} :
    pushHistory gpsq gps = gpsq ↔ gpsq = List.replicate 10 gps := by
  unfold pushHistory
  constructor
  · intro same
    by_cases full : gpsq.length = 10
    · rw [if_pos full] at same
      cases gpsq with
      | nil => cases full
      | cons first rest =>
          have repeated := eq_replicate_of_shift same
          have size : rest.length + 1 = 10 := full
          rwa [List.tail_cons, size] at repeated
    · rw [if_neg full] at same
      have longer := congrArg List.length same
      rw [List.length_append, List.length_singleton] at longer
      omega
  · rintro rfl
    rfl

section

variable {F D : Type}

theorem beaconIn_eq (host : Host F D) (ir : IR F D) (received : Received) :
    beaconIn host ir received =
      .ofBytes host.order (received.readBytes BeaconMessage.size ir.beaconBuffer) := by
  rw [beaconIn, BeaconMessage.parse_eq_ofBytes, Received.store_slice received _ (by decide)]

variable [SinglePrecision F D]

/-- The tables already are what the beacon would make them: nothing in them is due for the
purge, and its sender has been heard with the same contents in the same millisecond, for the
tenth time at the same position. -/
structure AlreadyHeld (host : Host F D) (untilTime : Int) (message : BeaconMessage)
    (ir : IR F D) : Prop where
  routesFresh : ∀ (vip : UInt32) (route : ForwardTableEntry F),
    ir.forwardTable[vip]? = some route → olderThan 5 untilTime route.timestamp = false
  neighborsFresh : ∀ (vip : UInt32) (entry : NeighborEntry F),
    ir.neighborTable[vip]? = some entry → olderThan 5 untilTime entry.timestamp = false
  route : ir.forwardTable[message.virIp]? = some
    ⟨message.phyIp, UInt32.ofInt untilTime,
      ⟨ofUInt32 message.srcGpsX, ofUInt32 message.srcGpsY⟩⟩
  neighbor : ∃ phyIp, ir.neighborTable[message.virIp]? = some
    { gps := ⟨ofUInt32 message.srcGpsX, ofUInt32 message.srcGpsY⟩
      timestamp := UInt32.ofInt untilTime
      speed := ⟨ofUInt32 message.srcSpeedX, ofUInt32 message.srcSpeedY⟩
      phyIp := phyIp
      gpsq := List.replicate 10
        (host.millierConvertion (toDouble (ofUInt32 message.srcGpsX : F))
          (toDouble (ofUInt32 message.srcGpsY : F))) }

/-- The entry that a beacon updates is what it was. -/
theorem senderEntry_eq_self_iff {host : Host F D} {untilTime : Int} {message : BeaconMessage}
    {held : Option (NeighborEntry F)} :
    held = some (senderEntry host untilTime message held) ↔
      ∃ phyIp, held = some
        { gps := ⟨ofUInt32 message.srcGpsX, ofUInt32 message.srcGpsY⟩
          timestamp := UInt32.ofInt untilTime
          speed := ⟨ofUInt32 message.srcSpeedX, ofUInt32 message.srcSpeedY⟩
          phyIp := phyIp
          gpsq := List.replicate 10
            (host.millierConvertion (toDouble (ofUInt32 message.srcGpsX : F))
              (toDouble (ofUInt32 message.srcGpsY : F))) } := by
  cases held with
  | none => simp
  | some entry =>
      obtain ⟨gps, timestamp, speed, phyIp, gpsq⟩ := entry
      have pushed := @pushHistory_eq_self_iff F gpsq
        (host.millierConvertion (toDouble (ofUInt32 message.srcGpsX : F))
          (toDouble (ofUInt32 message.srcGpsY : F)))
      simp only [senderEntry, Option.map_some, Option.getD_some, Option.some.injEq,
        NeighborEntry.mk.injEq, true_and, exists_and_left, ← pushed, eq_comm (a := gpsq)]
      simp

theorem heardRouting_same_iff {host : Host F D} {now : Timeval} {message : BeaconMessage}
    {ir : IR F D} :
    heardRouting host now message ir = ir.routing ↔
      AlreadyHeld host (untilTime ir.beginTime now) message ir := by
  have fresh := olderThan_now ir.beginTime now
  have forward := (forwardAfter_renews (untilTime ir.beginTime now) message
    ir.forwardTable).same_iff fun _ => fresh
  have neighbor := (neighborAfter_renews host (untilTime ir.beginTime now) message
    ir.neighborTable).same_iff fun _ => fresh
  simp only [heardRouting, IR.routing, RoutingState.mk.injEq, true_and, forward, neighbor,
    senderEntry_eq_self_iff]
  constructor
  · rintro ⟨⟨routesFresh, route⟩, neighborsFresh, held⟩
    exact ⟨routesFresh, neighborsFresh, route, held⟩
  · intro already
    exact ⟨⟨already.routesFresh, already.route⟩, already.neighborsFresh, already.neighbor⟩

/-- A read that is not a whole beacon leaves the tables as they are, and a whole beacon has the
same effect whatever the buffer held. -/
structure ChangedByWholeBeacon (host : Host F D) (now : Timeval) (fromAddr : UInt32)
    (received : Received) (ir : IR F D) : Prop where
  badRead : received.count BeaconMessage.size ≠ BeaconMessage.size →
    ((recvBeacon host now fromAddr received).run ir).state.routing = ir.routing
  ownBytes : received.count BeaconMessage.size = BeaconMessage.size →
    ∀ older, ((recvBeacon host now fromAddr received).run
      { ir with beaconBuffer := older }).state.routing =
        ((recvBeacon host now fromAddr received).run ir).state.routing

theorem Received.readBytes_whole {n size : Nat} {received : Received}
    (whole : received.count size = size) (positive : 0 < size) (older other : Buffer n) :
    received.readBytes size older = received.readBytes size other := by
  cases received with
  | failed =>
      rw [count] at whole
      omega
  | packet payload =>
      rw [count_packet] at whole
      have nothing : size - payload.length = 0 := by omega
      rw [readBytes, readBytes, nothing]
      rfl

/-- What a bad read leaves in the tables is what they held, if the sender's address is the
node's own, or if the beacon made of the received and the older bytes is already there. -/
theorem recvBeacon_changedByWholeBeacon_iff (host : Host F D) (now : Timeval) (fromAddr : UInt32)
    (received : Received) (ir : IR F D) :
    ChangedByWholeBeacon host now fromAddr received ir ↔
      received.count BeaconMessage.size = BeaconMessage.size ∨ fromAddr = ir.phyIp ∨
        AlreadyHeld host (untilTime ir.beginTime now)
          (.ofBytes host.order (received.readBytes BeaconMessage.size ir.beaconBuffer)) ir := by
  rw [← heardRouting_same_iff, ← beaconIn_eq]
  constructor
  · intro changed
    by_cases whole : received.count BeaconMessage.size = BeaconMessage.size
    · exact Or.inl whole
    · have same := changed.badRead whole
      rw [recvBeacon_routing] at same
      by_cases own : fromAddr = ir.phyIp
      · exact Or.inr (Or.inl own)
      · rw [if_pos own] at same
        exact Or.inr (Or.inr same)
  · intro holds
    constructor
    · intro bad
      rw [recvBeacon_routing]
      rcases holds with whole | own | already
      · exact absurd whole bad
      · rw [if_neg (not_not_intro own)]
      · rw [already, ite_self]
    · intro whole older
      have bytes := Received.readBytes_whole whole (by decide) older ir.beaconBuffer
      have parsed : beaconIn host { ir with beaconBuffer := older } received =
          beaconIn host ir received := by
        rw [beaconIn_eq, beaconIn_eq, bytes]
      rw [recvBeacon_routing, recvBeacon_routing, parsed]
      rfl

end

def heardItself : IR Float32 Float :=
  ((recvBeacon .shortHistories ⟨1, 0⟩ loneNode.phyIp
    (.packet ((BeaconMessage.mk loneNode.virIp loneNode.phyIp 0 0 0 0).bytes .little))).run
      loneNode).state

/-- An empty datagram from 192.168.0.2 then makes the node a neighbour of itself. -/
theorem emptyDatagram_changesTables :
    ¬ChangedByWholeBeacon .shortHistories ⟨2, 0⟩ 0x0200A8C0 (.packet []) heardItself := by
  intro changed
  have same := changed.badRead (by decide)
  have ignored : heardItself.routing = loneNode.routing := by
    unfold heardItself
    rw [recvBeacon_routing, if_neg (not_not_intro rfl)]
  have foreign : (0x0200A8C0 : UInt32) ≠ heardItself.phyIp := by
    rw [show heardItself.phyIp = loneNode.phyIp from congrArg RoutingState.phyIp ignored]
    decide
  rw [recvBeacon_routing, if_pos foreign, heardRouting_same_iff] at same
  obtain ⟨phyIp, held⟩ := same.neighbor
  rw [show heardItself.neighborTable = ∅ from congrArg RoutingState.neighborTable ignored] at held
  simp at held

end TunVideo
