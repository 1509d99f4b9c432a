import TunVideo.Forward
import TunVideo.RouteResult

set_option autoImplicit false

namespace TunVideo

open Program SinglePrecision

section

variable {F D : Type}

/-- What is sent for a datagram of `nread` bytes: the head of the receive buffer. -/
def relayPayload (ir : IR F D) (nread : Nat) : List UInt8 :=
  ir.dataRecvBuffer.slice 0 (nread + DataMessage.size)

theorem outgoing_run (ir : IR F D) {nread : Nat} (fits : nread + DataMessage.size ≤ frameSize) :
    (outgoing nread : Procedure F D _).run ir = ⟨.ok (relayPayload ir nread), ir, []⟩ := by
  have inside : 0 + (nread + DataMessage.size) ≤ frameSize := by omega
  simp only [outgoing, run_bind, run_read, Outcome.bind_ok, Buffer.read_eq _ _ _ inside,
    run_require_some, Outcome.after_mk, List.nil_append, relayPayload]

theorem dataBroadcast_run (ir : IR F D) {nread : Nat}
    (fits : nread + DataMessage.size ≤ frameSize) :
    (dataBroadcast nread : Procedure F D Unit).run ir =
      ⟨.ok (), { ir with broadcastAddr := ⟨dataPort, ir.broadcastAddr.sinAddr⟩ },
        [.portSet dataPort,
          .dataBroadcast ⟨dataPort, ir.broadcastAddr.sinAddr⟩ (relayPayload ir nread)]⟩ := by
  simp only [dataBroadcast, run_bind, run_perform, Outcome.bind_ok, Outcome.after_mk,
    outgoing_run _ fits, List.nil_append, List.singleton_append, relayPayload]

theorem sendToNextHop_run (ir : IR F D) {nextHopId : UInt32} {nread : Nat}
    (fits : nread + DataMessage.size ≤ frameSize) :
    (sendToNextHop nextHopId nread : Procedure F D Unit).run ir =
      ⟨.ok (), ir, if nextHopId ≠ broadcastAddress then
        [.dataUnicast ⟨dataPort, nextHopId⟩ (relayPayload ir nread)] else []⟩ := by
  unfold sendToNextHop mySend
  by_cases usable : nextHopId ≠ broadcastAddress
  · simp only [if_pos usable, run_bind, outgoing_run _ fits, Outcome.bind_ok, run_perform,
      Outcome.after_mk, List.nil_append]
  · simp only [if_neg usable, run_pure]

theorem sendToNextHop_transmissions (ir : IR F D) {nextHopId : UInt32} {nread : Nat}
    (fits : nread + DataMessage.size ≤ frameSize) :
    transmissions ((sendToNextHop nextHopId nread : Procedure F D Unit).run ir).events =
      if nextHopId ≠ broadcastAddress then [(some nextHopId, relayPayload ir nread)] else [] := by
  rw [sendToNextHop_run ir fits]
  dsimp only
  split <;> rfl

/-- A datagram too long for the buffer to hold a second trailer is read out of bounds. -/
theorem outgoing_run_long (ir : IR F D) {nread : Nat}
    (long : ¬nread + DataMessage.size ≤ frameSize) :
    (outgoing nread : Procedure F D _).run ir = ⟨.error .outOfBounds, ir, []⟩ := by
  have outside : ¬0 + (nread + DataMessage.size) ≤ frameSize := by omega
  simp only [outgoing, run_bind, run_read, Outcome.bind_ok, Buffer.read, if_neg outside,
    run_require_none, Outcome.after_nil]

theorem dataBroadcast_result (ir : IR F D) (nread : Nat) :
    ((dataBroadcast nread : Procedure F D Unit).run ir).result =
      if nread + DataMessage.size ≤ frameSize then .ok () else .error .outOfBounds := by
  by_cases fits : nread + DataMessage.size ≤ frameSize
  · rw [dataBroadcast_run ir fits, if_pos fits]
  · simp only [dataBroadcast, run_bind, run_perform, Outcome.bind_ok, outgoing_run_long _ fits,
      Outcome.bind_error, Outcome.after_result, if_neg fits]

theorem sendToNextHop_result (ir : IR F D) (nextHopId : UInt32) (nread : Nat) :
    ((sendToNextHop nextHopId nread : Procedure F D Unit).run ir).result =
      if nextHopId ≠ broadcastAddress ∧ ¬nread + DataMessage.size ≤ frameSize then
        .error .outOfBounds else .ok () := by
  by_cases fits : nread + DataMessage.size ≤ frameSize
  · have whole : ¬(nextHopId ≠ broadcastAddress ∧ ¬nread + DataMessage.size ≤ frameSize) :=
      fun both => both.2 fits
    rw [sendToNextHop_run ir fits, if_neg whole]
  · unfold sendToNextHop mySend
    by_cases usable : nextHopId ≠ broadcastAddress
    · rw [if_pos usable, if_pos ⟨usable, fits⟩, run_bind, outgoing_run_long _ fits,
        Outcome.bind_error]
    · rw [if_neg usable, if_neg (fun both => usable both.1), run_pure]

end

section

variable {F D : Type} [DoublePrecision D] [SinglePrecision F D] (host : Host F D)
  (readings : Readings D) {dstIp : UInt32} {dstGps : GPS F} (nread : Nat) {ir : IR F D}

def refreshed (table : ForwardTable F) (dstIp nextHopId : UInt32) (untilTime : Int) :
    ForwardTable F :=
  table.modify dstIp fun entry =>
    { entry with nextHopIp := nextHopId, timestamp := UInt32.ofInt untilTime }

/-- The state in which `RouteMakeup` is called after `IsLegal` has refused a next hop. -/
def afterRefusal (ir : IR F D) (entry : ForwardTableEntry F) : IR F D :=
  { ir with neighborTable := legalTable readings.isLegal ir entry.nextHopIp }

theorem forwarding_miss_unknown (absent : ir.forwardTable[dstIp]? = none)
    (unknown : dstGps.unknown = true) :
    (forwarding host readings dstIp dstGps nread).run ir =
      (dataBroadcast nread : Procedure F D Unit).run ir := by
  simp only [forwarding, run_bind, run_read, Outcome.bind_ok, absent, if_pos unknown,
    Outcome.after_nil]

/-- On a miss with a known position the end iterator is dereferenced, if not worse. -/
theorem forwarding_miss_known (absent : ir.forwardTable[dstIp]? = none)
    (known : ¬dstGps.unknown = true) :
    (forwarding host readings dstIp dstGps nread).run ir =
      match routeChoice host readings.routeMakeup readings.gaussrand ir dstGps with
      | none => ⟨.error .outOfBounds, ir, [.routeMakeupCalled dstGps ir.gps]⟩
      | some choice => ⟨.error .endIterator, { ir with neighborTable := choice.1 },
          [.routeMakeupCalled dstGps ir.gps]⟩ := by
  simp only [forwarding, run_bind, run_read, Outcome.bind_ok, absent, if_neg known,
    Outcome.after_nil, routeMakeup_run]
  cases routeChoice host readings.routeMakeup readings.gaussrand ir dstGps with
  | none => rfl
  | some choice => rfl

theorem forwarding_expired_unknown {entry : ForwardTableEntry F}
    (held : ir.forwardTable[dstIp]? = some entry)
    (old : olderThan ttlNeighborTable (untilTime ir.beginTime readings.forwarding)
      entry.timestamp = true)
    (unknown : dstGps.unknown = true) :
    (forwarding host readings dstIp dstGps nread).run ir =
      (dataBroadcast nread : Procedure F D Unit).run ir := by
  simp only [forwarding, run_bind, run_read, Outcome.bind_ok, held, if_pos old, if_pos unknown,
    Outcome.after_nil]

theorem forwarding_expired_known {entry : ForwardTableEntry F}
    (held : ir.forwardTable[dstIp]? = some entry)
    (old : olderThan ttlNeighborTable (untilTime ir.beginTime readings.forwarding)
      entry.timestamp = true)
    (known : ¬dstGps.unknown = true) :
    (forwarding host readings dstIp dstGps nread).run ir =
      match routeChoice host readings.routeMakeup readings.gaussrand ir dstGps with
      | none => ⟨.error .outOfBounds, ir, [.routeMakeupCalled dstGps ir.gps]⟩
      | some choice =>
          ((sendToNextHop choice.2 nread).run
            { ir with
              neighborTable := choice.1
              forwardTable := if choice.2 ≠ broadcastAddress then
                refreshed ir.forwardTable dstIp choice.2
                  (untilTime ir.beginTime readings.forwarding) else ir.forwardTable }).after
            [.routeMakeupCalled dstGps ir.gps] := by
  simp only [forwarding, run_bind, run_read, Outcome.bind_ok, held, if_pos old, if_neg known,
    Outcome.after_nil, routeMakeup_run]
  cases routeChoice host readings.routeMakeup readings.gaussrand ir dstGps with
  | none => rfl
  | some choice =>
      by_cases none : choice.2 = broadcastAddress
      · simp [none]
      · simp [none, refreshRoute, refreshed]

theorem forwarding_legal {entry : ForwardTableEntry F}
    (held : ir.forwardTable[dstIp]? = some entry)
    (fresh : olderThan ttlNeighborTable (untilTime ir.beginTime readings.forwarding)
      entry.timestamp = false)
    (legal : legalVerdict host readings.isLegal ir entry.nextHopIp dstGps = true) :
    (forwarding host readings dstIp dstGps nread).run ir =
      ((sendToNextHop entry.nextHopIp nread).run ir).after
        [.isLegalCalled entry.nextHopIp dstGps ir.gps] := by
  simp [forwarding, held, fresh, isLegal_run, legal, legalTable_of_legal legal]

theorem forwarding_illegal {entry : ForwardTableEntry F}
    (held : ir.forwardTable[dstIp]? = some entry)
    (fresh : olderThan ttlNeighborTable (untilTime ir.beginTime readings.forwarding)
      entry.timestamp = false)
    (illegal : legalVerdict host readings.isLegal ir entry.nextHopIp dstGps = false) :
    (forwarding host readings dstIp dstGps nread).run ir =
      match routeChoice host readings.routeMakeup readings.gaussrand
          (afterRefusal readings ir entry) dstGps with
      | none => ⟨.error .outOfBounds, afterRefusal readings ir entry,
          [.isLegalCalled entry.nextHopIp dstGps ir.gps, .routeMakeupCalled dstGps ir.gps]⟩
      | some choice =>
          ((sendToNextHop choice.2 nread).run
            { ir with
              neighborTable := choice.1
              forwardTable := refreshed ir.forwardTable dstIp choice.2
                (untilTime ir.beginTime readings.forwarding) }).after
            [.isLegalCalled entry.nextHopIp dstGps ir.gps, .routeMakeupCalled dstGps ir.gps] := by
  simp only [forwarding, run_bind, run_read, Outcome.bind_ok, held, fresh, isLegal_run, illegal,
    Outcome.after_nil, routeMakeup_run, Bool.false_eq_true, ↓reduceIte]
  unfold afterRefusal
  cases routeChoice host readings.routeMakeup readings.gaussrand
      { ir with neighborTable := legalTable readings.isLegal ir entry.nextHopIp } dstGps with
  | none => rfl
  | some choice => simp [refreshRoute, refreshed, Outcome.after]

end

section

variable {F D : Type} [DoublePrecision D] [SinglePrecision F D]

/-- The ways through `Forwarding`. -/
inductive ForwardingPath (host : Host F D) (readings : Readings D) (dstIp : UInt32)
    (dstGps : GPS F) (nread : Nat) (ir : IR F D) : Outcome (IR F D) (Event F) Stop Unit → Prop
  | missUnknown (absent : ir.forwardTable[dstIp]? = none) (unknown : dstGps.unknown = true) :
      ForwardingPath host readings dstIp dstGps nread ir ((dataBroadcast nread).run ir)
  | missStopped (absent : ir.forwardTable[dstIp]? = none) (known : ¬dstGps.unknown = true)
      (stopped : routeChoice host readings.routeMakeup readings.gaussrand ir dstGps = none) :
      ForwardingPath host readings dstIp dstGps nread ir
        ⟨.error .outOfBounds, ir, [.routeMakeupCalled dstGps ir.gps]⟩
  | missComputed (absent : ir.forwardTable[dstIp]? = none) (known : ¬dstGps.unknown = true)
      (choice : NeighborTable F × UInt32)
      (chosen : routeChoice host readings.routeMakeup readings.gaussrand ir dstGps = some choice) :
      ForwardingPath host readings dstIp dstGps nread ir
        ⟨.error .endIterator, { ir with neighborTable := choice.1 },
          [.routeMakeupCalled dstGps ir.gps]⟩
  | expiredUnknown (entry : ForwardTableEntry F) (held : ir.forwardTable[dstIp]? = some entry)
      (old : olderThan ttlNeighborTable (untilTime ir.beginTime readings.forwarding)
        entry.timestamp = true)
      (unknown : dstGps.unknown = true) :
      ForwardingPath host readings dstIp dstGps nread ir ((dataBroadcast nread).run ir)
  | expiredStopped (entry : ForwardTableEntry F) (held : ir.forwardTable[dstIp]? = some entry)
      (old : olderThan ttlNeighborTable (untilTime ir.beginTime readings.forwarding)
        entry.timestamp = true)
      (known : ¬dstGps.unknown = true)
      (stopped : routeChoice host readings.routeMakeup readings.gaussrand ir dstGps = none) :
      ForwardingPath host readings dstIp dstGps nread ir
        ⟨.error .outOfBounds, ir, [.routeMakeupCalled dstGps ir.gps]⟩
  | expiredComputed (entry : ForwardTableEntry F) (held : ir.forwardTable[dstIp]? = some entry)
      (old : olderThan ttlNeighborTable (untilTime ir.beginTime readings.forwarding)
        entry.timestamp = true)
      (known : ¬dstGps.unknown = true) (choice : NeighborTable F × UInt32)
      (chosen : routeChoice host readings.routeMakeup readings.gaussrand ir dstGps = some choice) :
      ForwardingPath host readings dstIp dstGps nread ir
        (((sendToNextHop choice.2 nread).run
          { ir with
            neighborTable := choice.1
            forwardTable := if choice.2 ≠ broadcastAddress then
              refreshed ir.forwardTable dstIp choice.2
                (untilTime ir.beginTime readings.forwarding) else ir.forwardTable }).after
          [.routeMakeupCalled dstGps ir.gps])
  | legal (entry : ForwardTableEntry F) (held : ir.forwardTable[dstIp]? = some entry)
      (fresh : olderThan ttlNeighborTable (untilTime ir.beginTime readings.forwarding)
        entry.timestamp = false)
      (legal : legalVerdict host readings.isLegal ir entry.nextHopIp dstGps = true) :
      ForwardingPath host readings dstIp dstGps nread ir
        (((sendToNextHop entry.nextHopIp nread).run ir).after
          [.isLegalCalled entry.nextHopIp dstGps ir.gps])
  | illegalStopped (entry : ForwardTableEntry F) (held : ir.forwardTable[dstIp]? = some entry)
      (fresh : olderThan ttlNeighborTable (untilTime ir.beginTime readings.forwarding)
        entry.timestamp = false)
      (illegal : legalVerdict host readings.isLegal ir entry.nextHopIp dstGps = false)
      (stopped : routeChoice host readings.routeMakeup readings.gaussrand
        (afterRefusal readings ir entry) dstGps = none) :
      ForwardingPath host readings dstIp dstGps nread ir
        ⟨.error .outOfBounds, afterRefusal readings ir entry,
          [.isLegalCalled entry.nextHopIp dstGps ir.gps, .routeMakeupCalled dstGps ir.gps]⟩
  | illegalComputed (entry : ForwardTableEntry F) (held : ir.forwardTable[dstIp]? = some entry)
      (fresh : olderThan ttlNeighborTable (untilTime ir.beginTime readings.forwarding)
        entry.timestamp = false)
      (illegal : legalVerdict host readings.isLegal ir entry.nextHopIp dstGps = false)
      (choice : NeighborTable F × UInt32)
      (chosen : routeChoice host readings.routeMakeup readings.gaussrand
        (afterRefusal readings ir entry) dstGps = some choice) :
      ForwardingPath host readings dstIp dstGps nread ir
        (((sendToNextHop choice.2 nread).run
          { ir with
            neighborTable := choice.1
            forwardTable := refreshed ir.forwardTable dstIp choice.2
              (untilTime ir.beginTime readings.forwarding) }).after
          [.isLegalCalled entry.nextHopIp dstGps ir.gps, .routeMakeupCalled dstGps ir.gps])

theorem forwarding_path (host : Host F D) (readings : Readings D) (dstIp : UInt32)
    (dstGps : GPS F) (nread : Nat) (ir : IR F D) :
    ForwardingPath host readings dstIp dstGps nread ir
      ((forwarding host readings dstIp dstGps nread).run ir) := by
  cases held : ir.forwardTable[dstIp]? with
  | none =>
      by_cases unknown : dstGps.unknown = true
      · rw [forwarding_miss_unknown host readings nread held unknown]
        exact .missUnknown held unknown
      · rw [forwarding_miss_known host readings nread held unknown]
        cases chosen : routeChoice host readings.routeMakeup readings.gaussrand ir dstGps with
        | none => exact .missStopped held unknown chosen
        | some choice => exact .missComputed held unknown choice chosen
  | some entry =>
      cases old : olderThan ttlNeighborTable (untilTime ir.beginTime readings.forwarding)
          entry.timestamp with
      | true =>
          by_cases unknown : dstGps.unknown = true
          · rw [forwarding_expired_unknown host readings nread held old unknown]
            exact .expiredUnknown entry held old unknown
          · rw [forwarding_expired_known host readings nread held old unknown]
            cases chosen : routeChoice host readings.routeMakeup readings.gaussrand ir dstGps with
            | none => exact .expiredStopped entry held old unknown chosen
            | some choice => exact .expiredComputed entry held old unknown choice chosen
      | false =>
          cases legal : legalVerdict host readings.isLegal ir entry.nextHopIp dstGps with
          | true =>
              rw [forwarding_legal host readings nread held old legal]
              exact .legal entry held old legal
          | false =>
              rw [forwarding_illegal host readings nread held old legal]
              cases chosen : routeChoice host readings.routeMakeup readings.gaussrand
                  (afterRefusal readings ir entry) dstGps with
              | none => exact .illegalStopped entry held old legal chosen
              | some choice => exact .illegalComputed entry held old legal choice chosen

end

section

variable {F D : Type}

/-- The node once `recvfrom` has stored a datagram. -/
def storeDatagram (ir : IR F D) (datagram : List UInt8) : IR F D :=
  { ir with dataRecvBuffer := ir.dataRecvBuffer.overwrite 0 datagram }

def srcIpOf (host : Host F D) (ir : IR F D) (datagram : List UInt8) : UInt32 :=
  (storeDatagram ir datagram).dataRecvBuffer.word host.order saddrOffset

def dstIpOf (host : Host F D) (ir : IR F D) (datagram : List UInt8) : UInt32 :=
  (storeDatagram ir datagram).dataRecvBuffer.word host.order daddrOffset

/-- The trailer, found from the end of the datagram. -/
def trailerIn (host : Host F D) (ir : IR F D) (datagram : List UInt8) : DataMessage :=
  .ofBuffer host.order (storeDatagram ir datagram).dataRecvBuffer
    (datagram.length - DataMessage.size)

/-- The node once it has also written the decremented `ttl` back. -/
def relayState (host : Host F D) (ir : IR F D) (datagram : List UInt8) : IR F D :=
  { ir with
    dataRecvBuffer := (storeDatagram ir datagram).dataRecvBuffer.overwrite
      (datagram.length - DataMessage.size + DataMessage.ttlOffset)
      (host.order.bytes ((trailerIn host ir datagram).ttl - 1)) }

def decremented (host : Host F D) (ir : IR F D) (datagram : List UInt8) : List UInt8 :=
  datagram.take (datagram.length - 4) ++ host.order.bytes ((trailerIn host ir datagram).ttl - 1)

/-- A relay sends the datagram with its `ttl` decremented, and then 24 older bytes of its
receive buffer: `nread` already counts the trailer. -/
theorem relayPayload_relayState (host : Host F D) (ir : IR F D) {datagram : List UInt8}
    (long : DataMessage.size ≤ datagram.length)
    (short : datagram.length + DataMessage.size ≤ frameSize) :
    relayPayload (relayState host ir datagram) datagram.length =
      decremented host ir datagram ++ ir.dataRecvBuffer.slice datagram.length DataMessage.size := by
  have least : 24 ≤ datagram.length := long
  have most : datagram.length + 24 ≤ 65536 := short
  let stored := ir.dataRecvBuffer.overwrite 0 datagram
  let ttl := host.order.bytes ((trailerIn host ir datagram).ttl - 1)
  have width : ttl.length = 4 := ByteOrder.bytes_length _ _
  have position : datagram.length - DataMessage.size + DataMessage.ttlOffset =
      datagram.length - 4 := by
    change datagram.length - 24 + 20 = _
    omega
  have whole : datagram.length + DataMessage.size =
      datagram.length - 4 + (ttl.length + DataMessage.size) := by omega
  have ending : datagram.length - 4 + ttl.length = datagram.length := by omega
  have head : stored.slice 0 (datagram.length - 4) = datagram.take (datagram.length - 4) :=
    Buffer.slice_overwrite_front ir.dataRecvBuffer (by omega) (by omega)
  have stale : stored.slice datagram.length DataMessage.size =
      ir.dataRecvBuffer.slice datagram.length DataMessage.size :=
    Buffer.slice_overwrite_outside _ _ _ _ _ (Or.inr (by omega))
  change (stored.overwrite (datagram.length - DataMessage.size + DataMessage.ttlOffset) ttl).slice 0
    (datagram.length + DataMessage.size) = _
  rw [position, whole, Buffer.slice_append, Nat.zero_add,
    Buffer.slice_overwrite_outside _ _ _ _ _ (Or.inl (by omega)),
    Buffer.slice_overwrite_past _ _ _ _ (by omega), head, ending, stale, ← List.append_assoc]
  rfl

variable [DoublePrecision D] [SinglePrecision F D]

def DataMessage.dstGps (message : DataMessage) : GPS F :=
  ⟨ofUInt32 message.dstGpsX, ofUInt32 message.dstGpsY⟩

theorem recvData_run (host : Host F D) (readings : Readings D) (ir : IR F D)
    {datagram : List UInt8} (writeFails : Bool) (long : DataMessage.size ≤ datagram.length)
    (short : datagram.length ≤ frameSize) :
    (recvData host readings (.packet datagram) writeFails).run ir =
      if srcIpOf host ir datagram = ir.virIp then ⟨.ok (), storeDatagram ir datagram, []⟩
      else if dstIpOf host ir datagram = ir.virIp then
        if writeFails then ⟨.error (.exit "Writing tun"), storeDatagram ir datagram, []⟩
        else ⟨.ok (), storeDatagram ir datagram,
          [.tunWritten (datagram.take (datagram.length - DataMessage.size))]⟩
      else if (trailerIn host ir datagram).ttl - 1 > 0 then
        (forwarding host readings (dstIpOf host ir datagram) (trailerIn host ir datagram).dstGps
          datagram.length).run (relayState host ir datagram)
      else ⟨.ok (), relayState host ir datagram, []⟩ := by
  have stored := Received.store_of_fits ir.dataRecvBuffer short
  have count := Received.count_of_fits short
  have offset := trailerOffset_some long
  have packet : (ir.dataRecvBuffer.overwrite 0 datagram).slice 0
      (datagram.length - DataMessage.size) = datagram.take (datagram.length - DataMessage.size) :=
    Buffer.slice_overwrite_front ir.dataRecvBuffer (by omega) short
  unfold recvData srcIpOf dstIpOf trailerIn relayState storeDatagram
  simp only [run_bind, run_modify, run_read, Outcome.bind_ok, Outcome.after_nil, stored, count,
    offset]
  by_cases own : (ir.dataRecvBuffer.overwrite 0 datagram).word host.order saddrOffset = ir.virIp
  · simp [own]
  · by_cases here : (ir.dataRecvBuffer.overwrite 0 datagram).word host.order daddrOffset = ir.virIp
    · cases writeFails with
      | true => simp [own, here]
      | false => simp [own, here, packet]
    · by_cases alive : (DataMessage.ofBuffer host.order (ir.dataRecvBuffer.overwrite 0 datagram)
          (datagram.length - DataMessage.size)).ttl - 1 > 0
      · simp [own, here, alive]
        rfl
      · simp [own, here, alive]
        rfl

/-- A datagram shorter than a trailer is stored, and that is all. -/
theorem recvData_short_run (host : Host F D) (readings : Readings D) (ir : IR F D)
    {datagram : List UInt8} (writeFails : Bool) (short : datagram.length < DataMessage.size) :
    ∃ result buffer, (recvData host readings (.packet datagram) writeFails).run ir =
      ⟨result, { ir with dataRecvBuffer := buffer }, []⟩ := by
  have most : DataMessage.size ≤ frameSize := by decide
  have count := Received.count_of_fits (show datagram.length ≤ frameSize by omega)
  have offset := trailerOffset_none short
  unfold recvData
  simp only [run_bind, run_modify, run_read, Outcome.bind_ok, Outcome.after_nil, count, offset]
  split
  · exact ⟨_, _, rfl⟩
  · exact ⟨_, _, rfl⟩

theorem recvData_short (host : Host F D) (readings : Readings D) (ir : IR F D)
    {datagram : List UInt8} (writeFails : Bool) (short : datagram.length < DataMessage.size) :
    ((recvData host readings (.packet datagram) writeFails).run ir).events = [] := by
  obtain ⟨result, buffer, run⟩ := recvData_short_run host readings ir writeFails short
  rw [run]

end

end TunVideo
