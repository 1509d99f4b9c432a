import TunVideo.Origin

set_option autoImplicit false

namespace TunVideo

open Program SinglePrecision

/-- A step that C++ gives no meaning to. What is built of it goes on all the same. -/
def Stop.Undefined : Stop → Prop
  | .exit _ => False
  | _ => True

def nreadOf (received : Received) : Nat :=
  (UInt16.ofInt (received.count frameSize)).toNat

/-- The narrowed length is the length, unless that is negative or fills the buffer. -/
theorem nreadOf_eq_iff {received : Received} :
    (nreadOf received : Int) = received.count frameSize ↔
      0 ≤ received.count frameSize ∧ received.count frameSize < frameSize := by
  have size : frameSize = 65536 := rfl
  have narrowed : (nreadOf received : Int) = received.count frameSize % 65536 := by
    rw [nreadOf, UInt16.ofInt, UInt16.toNat_ofNat']
    omega
  rw [narrowed]
  omega

section

variable {F D : Type}

theorem fillDataBuffer_overrun (order : ByteOrder) {nread : Nat} (message : DataMessage)
    (ir : IR F D) (past : frameSize < nread + DataMessage.size) :
    (fillDataBuffer order nread message).run ir =
      ⟨.error .outOfBounds,
        { ir with dataBuffer := ir.dataBuffer.overwrite 0 (ir.tunBuffer.slice 0 nread) }, []⟩ := by
  have refused : (ir.dataBuffer.overwrite 0 (ir.tunBuffer.slice 0 nread)).write nread
      (message.bytes order) = none := by
    rw [Buffer.write, DataMessage.bytes_length]
    exact if_neg (Nat.not_le.mpr past)
  simp only [fillDataBuffer, run_bind, run_modify, run_read, Outcome.bind_ok, Outcome.after_mk,
    refused, run_require_none, Outcome.bind_error, List.nil_append]

variable [SinglePrecision F D] (host : Host F D) (ir : IR F D) (received : Received)

/-- The destination of what `tun_buffer` holds after a read. -/
def readDstIp : UInt32 :=
  (received.store frameSize ir.tunBuffer).word host.order daddrOffset

/-- What `recv_tun` does with the length it keeps, whatever `read` returned. -/
inductive OriginPath : Outcome (IR F D) (Event F) Stop Unit → Prop
  | undefined (outcome : Outcome (IR F D) (Event F) Stop Unit)
      (undefined : trailerOf ir (readDstIp host ir received) (nreadOf received) = none)
      (stopped : outcome.result = .error .floatConversion)
      (silent : transmissions outcome.events = []) : OriginPath outcome
  | overrun (outcome : Outcome (IR F D) (Event F) Stop Unit) (message : DataMessage)
      (written : trailerOf ir (readDstIp host ir received) (nreadOf received) = some message)
      (past : frameSize < nreadOf received + DataMessage.size)
      (stopped : outcome.result = .error .outOfBounds)
      (silent : transmissions outcome.events = []) : OriginPath outcome
  | unsent (outcome : Outcome (IR F D) (Event F) Stop Unit) (message : DataMessage)
      (written : trailerOf ir (readDstIp host ir received) (nreadOf received) = some message)
      (fits : nreadOf received + DataMessage.size ≤ frameSize)
      (absent : ir.forwardTable[readDstIp host ir received]? = none)
      (stopped : outcome.result = .error (.exit "sendto data"))
      (silent : transmissions outcome.events = []) : OriginPath outcome
  | sent (outcome : Outcome (IR F D) (Event F) Stop Unit) (message : DataMessage)
      (written : trailerOf ir (readDstIp host ir received) (nreadOf received) = some message)
      (fits : nreadOf received + DataMessage.size ≤ frameSize)
      (completed : outcome.result = .ok ())
      (once : transmissions outcome.events =
        [((ir.forwardTable[readDstIp host ir received]?).map (·.nextHopIp),
          (received.store frameSize ir.tunBuffer).slice 0 (nreadOf received) ++
            message.bytes host.order)]) : OriginPath outcome

/-- `recv_tun` looks the destination of what it has read up, and then sends or fails to. -/
theorem recvTun_eq (sendFails : Bool) :
    (recvTun host received sendFails).run ir =
      (tunSending host (nreadOf received) sendFails
        (gpsByIp ir (readDstIp host ir received))).run
        { ir with
          tunBuffer := received.store frameSize ir.tunBuffer
          speed := ir.gSpeed
          gps := ir.gGps } := by
  unfold recvTun getGps recvTunAfterGps
  simp only [run_bind, run_modify, run_read, Outcome.bind_ok, Outcome.after_nil]
  rfl

variable {host ir received}

theorem recvTun_broadcastPath (sendFails : Bool)
    (absent : ir.forwardTable[readDstIp host ir received]? = none) :
    OriginPath host ir received ((recvTun host received sendFails).run ir) := by
  have target : (ir.forwardTable[readDstIp host ir received]?).map (·.nextHopIp) = none := by
    rw [absent, Option.map_none]
  rw [recvTun_eq, gpsByIp, absent, Option.map_none]
  unfold tunSending
  cases converted : toUInt32 ir.gGps.y with
  | none =>
      refine .undefined _ ?_ ?_ ?_
      · simp [trailerOf, dstFields, absent, converted]
      · simp [converted]
      · simp [converted, transmissions, Event.transmission]
  | some srcGpsY =>
      have written : trailerOf ir (readDstIp host ir received) (nreadOf received) = some
          ⟨UInt32.ofNat (nreadOf received), ir.gGps.gpsXToUint32, srcGpsY, 0, 90, 16⟩ := by
        simp [trailerOf, dstFields, absent, converted]
      by_cases fits : nreadOf received + DataMessage.size ≤ frameSize
      · cases sendFails with
        | false =>
            refine .sent _ _ written fits ?_ ?_
            · simp [converted, fillDataBuffer_run _ _ _ fits]
            · rw [target]
              simp [converted, fillDataBuffer_run _ _ _ fits, transmissions,
                filledBuffer_slice _ _ _ fits]
              rfl
        | true =>
            refine .unsent _ _ written fits absent ?_ ?_
            · simp [converted, fillDataBuffer_run _ _ _ fits]
            · simp [converted, fillDataBuffer_run _ _ _ fits, transmissions, Event.transmission]
      · have past := Nat.not_le.mp fits
        refine .overrun _ _ written past ?_ ?_
        · simp [converted, fillDataBuffer_overrun _ _ _ past]
        · simp [converted, fillDataBuffer_overrun _ _ _ past, transmissions, Event.transmission]

theorem recvTun_unicastPath (sendFails : Bool) {entry : ForwardTableEntry F}
    (held : ir.forwardTable[readDstIp host ir received]? = some entry) :
    OriginPath host ir received ((recvTun host received sendFails).run ir) := by
  have target : (ir.forwardTable[readDstIp host ir received]?).map (·.nextHopIp) =
      some entry.nextHopIp := by
    rw [held, Option.map_some]
  rw [recvTun_eq, gpsByIp, held, Option.map_some]
  unfold tunSending
  cases written : trailerOf ir (readDstIp host ir received) (nreadOf received) with
  | none =>
      have lost := written
      simp only [trailerOf, dstFields, held, Option.bind_eq_none_iff,
        Option.map_eq_none_iff] at lost
      refine .undefined _ written ?_ ?_
      all_goals
        cases convertedX : toUInt32 entry.gps.x with
        | none => simp [convertedX, transmissions]
        | some x =>
            cases convertedY : toUInt32 entry.gps.y with
            | none => simp [convertedX, convertedY, transmissions]
            | some y =>
                have own : toUInt32 ir.gGps.y = none := lost ⟨x, y⟩ (by
                  simp [convertedX, convertedY])
                simp [convertedX, convertedY, own, transmissions]
  | some message =>
      have fields := written
      simp only [trailerOf, dstFields, held, Option.bind_eq_some_iff,
        Option.map_eq_some_iff] at fields
      obtain ⟨_, ⟨x, convertedX, y, convertedY, rfl⟩, srcGpsY, converted, rfl⟩ := fields
      by_cases fits : nreadOf received + DataMessage.size ≤ frameSize
      · refine .sent _ _ written fits ?_ ?_
        · simp [convertedX, convertedY, converted, fillDataBuffer_run _ _ _ fits]
        · rw [target]
          simp [convertedX, convertedY, converted, fillDataBuffer_run _ _ _ fits, transmissions,
            Event.transmission, filledBuffer_slice _ _ _ fits]
      · have past := Nat.not_le.mp fits
        refine .overrun _ _ written past ?_ ?_
        · simp [convertedX, convertedY, converted, fillDataBuffer_overrun _ _ _ past]
        · simp [convertedX, convertedY, converted, fillDataBuffer_overrun _ _ _ past,
            transmissions]

variable (host ir received)

theorem recvTun_path (sendFails : Bool) :
    OriginPath host ir received ((recvTun host received sendFails).run ir) := by
  cases held : ir.forwardTable[readDstIp host ir received]? with
  | none => exact recvTun_broadcastPath sendFails held
  | some entry => exact recvTun_unicastPath sendFails held

/-- `read` has failed exactly when `recv_tun` gives up, and any other result is the length of the
packet that it copies and sends. -/
structure HandlesLength (sendFails : Bool) : Prop where
  errorExit : ((recvTun host received sendFails).run ir).result = .error (.exit "reading tun") ↔
    received.count frameSize < 0
  length : 0 ≤ received.count frameSize → (nreadOf received : Int) = received.count frameSize
  inside : 0 ≤ received.count frameSize →
    ∀ stop, ((recvTun host received sendFails).run ir).result = .error stop → ¬stop.Undefined
  sent : 0 ≤ received.count frameSize →
    ∀ sent ∈ transmissions ((recvTun host received sendFails).run ir).events, ∃ trailer,
      trailerOf ir (readDstIp host ir received) (received.count frameSize).toNat = some trailer ∧
        sent.2 = (received.store frameSize ir.tunBuffer).slice 0
          (received.count frameSize).toNat ++ trailer.bytes host.order

/-- A coordinate that goes into the trailer has no `uint32_t` value. -/
def NoTrailer : Prop :=
  dstFields ir (readDstIp host ir received) = none ∨ toUInt32 ir.gGps.y = none

variable {host ir received}

theorem trailerOf_eq_none_iff {nread : Nat} :
    trailerOf ir (readDstIp host ir received) nread = none ↔ NoTrailer host ir received := by
  unfold trailerOf NoTrailer
  cases dstFields ir (readDstIp host ir received) with
  | none => simp
  | some fields => simp

/-- The test of the sign has no effect. -/
theorem recvTun_readError (sendFails : Bool) :
    ((recvTun host received sendFails).run ir).result ≠ .error (.exit "reading tun") := by
  intro exited
  cases recvTun_path host ir received sendFails with
  | undefined _ stopped => simp [stopped] at exited
  | overrun _ _ _ stopped => simp [stopped] at exited
  | unsent _ _ _ _ stopped => simp [stopped] at exited
  | sent _ _ _ completed => simp [completed] at exited

/-- For coordinates that have a value, the length is handled exactly when `read` has brought a
packet that leaves room for the trailer. -/
theorem recvTun_handlesLength_iff (host : Host F D) (ir : IR F D) (received : Received)
    (sendFails : Bool) (defined : ¬NoTrailer host ir received) :
    HandlesLength host ir received sendFails ↔
      0 ≤ received.count frameSize ∧ received.count frameSize + DataMessage.size ≤ frameSize := by
  have width : (DataMessage.size : Int) = 24 := rfl
  have path := recvTun_path host ir received sendFails
  constructor
  · intro handled
    have read : 0 ≤ received.count frameSize := by
      by_contra failed
      exact recvTun_readError sendFails (handled.errorExit.mpr (Int.not_le.mp failed))
    have same := handled.length read
    refine ⟨read, ?_⟩
    cases path with
    | undefined undefined => exact absurd (trailerOf_eq_none_iff.mp undefined) defined
    | overrun _ _ _ stopped => exact absurd trivial (handled.inside read _ stopped)
    | unsent _ _ fits => omega
    | sent _ _ fits => omega
  · rintro ⟨read, room⟩
    have same : (nreadOf received : Int) = received.count frameSize :=
      nreadOf_eq_iff.mpr ⟨read, by omega⟩
    have count : (received.count frameSize).toNat = nreadOf received := by omega
    refine ⟨?_, fun _ => same, fun _ => ?_, fun _ sent member => ?_⟩
    · exact iff_of_false (recvTun_readError sendFails) (Int.not_lt.mpr read)
    · intro stop stopped
      cases path with
      | undefined undefined => exact absurd (trailerOf_eq_none_iff.mp undefined) defined
      | overrun _ _ past => omega
      | unsent _ _ _ _ exited =>
          rw [exited] at stopped
          cases stopped
          exact id
      | sent _ _ _ completed =>
          rw [completed] at stopped
          cases stopped
    · rw [count]
      cases path with
      | undefined _ _ silent => simp [silent] at member
      | overrun _ _ _ _ silent => simp [silent] at member
      | unsent _ _ _ _ _ silent => simp [silent] at member
      | sent message written _ _ once =>
          rw [once, List.mem_singleton] at member
          exact ⟨message, written, by rw [member]⟩

end

/-- An empty packet, for a node that has just left `init`. -/
theorem emptyPacket_handled : HandlesLength .shortHistories loneNode (.packet []) false := by
  have defined : ¬NoTrailer .shortHistories loneNode (.packet []) := by
    rintro (lost | lost)
    · have absent : loneNode.forwardTable[readDstIp Host.shortHistories loneNode (.packet [])]? =
          none := Std.ExtTreeMap.getElem?_empty
      rw [dstFields, absent] at lost
      cases lost
    · exact absurd lost (by decide +kernel)
  exact (recvTun_handlesLength_iff .shortHistories loneNode (.packet []) false defined).mpr
    (by decide)

/-- After a failed `read`, `recv_tun` goes on with a packet of 65535 bytes. -/
theorem failedRead_unhandled :
    ¬HandlesLength .shortHistories loneNode .failed false := by
  intro handled
  exact recvTun_readError false (handled.errorExit.mpr (by decide))

end TunVideo
