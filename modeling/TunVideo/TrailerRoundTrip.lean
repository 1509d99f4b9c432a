import TunVideo.Origin
import TunVideo.Retransmission

set_option autoImplicit false

namespace TunVideo

open Program Binary32 SinglePrecision

section

variable {F D : Type}

theorem trailerIn_append (host : Host F D) (ir : IR F D) {packet : List UInt8}
    (message : DataMessage) (fits : packet.length + DataMessage.size ≤ frameSize) :
    trailerIn host ir (packet ++ message.bytes host.order) = message := by
  have width : (message.bytes host.order).length = DataMessage.size := message.bytes_length _
  have start : (packet ++ message.bytes host.order).length - DataMessage.size = packet.length := by
    rw [List.length_append, width, Nat.add_sub_cancel]
  rw [trailerIn, start]
  apply DataMessage.ofBuffer_of_slice
  rw [← width]
  exact Buffer.slice_overwrite_back ir.dataRecvBuffer (by omega)

end

section

variable (sending receiving : Host Float32 Float) (origin receiver : IR Float32 Float)
  (packet : List UInt8)

def recordedGps : Option (GPS Float32) :=
  origin.forwardTable[tunDstIp sending origin packet]?.map ForwardTableEntry.gps

/-- The trailer is sent, the receiver reads the two positions the origin has, and it reads
the unknown position for a recorded destination only if the destination is there. -/
def PositionsRoundTrip : Prop :=
  ∃ target datagram,
    transmissions ((recvTun sending (.packet packet) false).run origin).events =
        [(target, datagram)] ∧
      let trailer := trailerIn receiving receiver datagram
      SamePosition ⟨trailer.srcGpsX.toFloat32, trailer.srcGpsY.toFloat32⟩ origin.gGps ∧
        ∀ gps, recordedGps sending origin packet = some gps →
          SamePosition trailer.dstGps gps ∧
            (SamePosition trailer.dstGps ⟨0, 90⟩ → SamePosition gps ⟨0, 90⟩)

/-- The own `x` has one of the two bit patterns that convert to themselves, and the other
coordinates are numbers that a word can hold. -/
structure SentAsNumbers : Prop where
  sourceX : FixedWord origin.gGps.x.toBits
  sourceY : WordNumber origin.gGps.y
  destination : ∀ gps, recordedGps sending origin packet = some gps →
    WordNumber gps.x ∧ WordNumber gps.y

end

section

variable {sending receiving : Host Float32 Float} {origin receiver : IR Float32 Float}
  {packet : List UInt8}

theorem trailerOf_fields {dstIp : UInt32} {nread : Nat} {message : DataMessage}
    (written : trailerOf origin dstIp nread = some message) :
    message.srcGpsX = origin.gGps.x.toBits ∧ truncate origin.gGps.y = some message.srcGpsY ∧
      dstFields origin dstIp = some (message.dstGpsX, message.dstGpsY) := by
  obtain ⟨dst, fields, rest⟩ := Option.bind_eq_some_iff.mp written
  obtain ⟨srcGpsY, converted, rfl⟩ := Option.map_eq_some_iff.mp rest
  exact ⟨rfl, converted, fields⟩

theorem dstFields_recorded {gps : GPS Float32}
    (recorded : recordedGps sending origin packet = some gps) :
    dstFields origin (tunDstIp sending origin packet) =
      (truncate gps.x).bind fun x => (truncate gps.y).map fun y => (x, y) := by
  obtain ⟨entry, held, rfl⟩ := Option.map_eq_some_iff.mp recorded
  rw [dstFields, held]
  rfl

theorem dstFields_unrecorded (unrecorded : recordedGps sending origin packet = none) :
    dstFields origin (tunDstIp sending origin packet) = some (0, 90) := by
  rw [dstFields, Option.map_eq_none_iff.mp unrecorded]

theorem trailerOf_of_numbers {nread : Nat} (numbers : SentAsNumbers sending origin packet)
    (finiteY : origin.gGps.y.isFinite = true)
    (finite : ∀ gps, recordedGps sending origin packet = some gps →
      gps.x.isFinite = true ∧ gps.y.isFinite = true) :
    ∃ message, trailerOf origin (tunDstIp sending origin packet) nread = some message := by
  obtain ⟨srcGpsY, converted⟩ := truncate_of_wordNumber finiteY numbers.sourceY
  have fields : ∃ dst, dstFields origin (tunDstIp sending origin packet) = some dst := by
    cases recorded : recordedGps sending origin packet with
    | none => exact ⟨_, dstFields_unrecorded recorded⟩
    | some gps =>
        obtain ⟨numberX, numberY⟩ := numbers.destination gps recorded
        obtain ⟨finiteX, finiteY⟩ := finite gps recorded
        obtain ⟨x, convertedX⟩ := truncate_of_wordNumber finiteX numberX
        obtain ⟨y, convertedY⟩ := truncate_of_wordNumber finiteY numberY
        refine ⟨(x, y), ?_⟩
        rw [dstFields_recorded recorded, convertedX, convertedY]
        rfl
  obtain ⟨dst, written⟩ := fields
  rw [trailerOf, written, Option.bind_some]
  change ∃ message, (truncate origin.gGps.y).map _ = some message
  rw [converted]
  exact ⟨_, rfl⟩

/-- A recorded position is read as it is if its coordinates are numbers a word can hold. -/
theorem destination_iff {gps : GPS Float32} {message : DataMessage}
    (recorded : recordedGps sending origin packet = some gps)
    (finiteX : gps.x.isFinite = true) (finiteY : gps.y.isFinite = true)
    (fields : dstFields origin (tunDstIp sending origin packet) =
      some (message.dstGpsX, message.dstGpsY)) :
    SamePosition message.dstGps gps ↔ WordNumber gps.x ∧ WordNumber gps.y := by
  rw [dstFields_recorded recorded] at fields
  obtain ⟨x, convertedX, rest⟩ := Option.bind_eq_some_iff.mp fields
  obtain ⟨y, convertedY, same⟩ := Option.map_eq_some_iff.mp rest
  obtain ⟨sameX, sameY⟩ := Prod.mk.inj same
  rw [sameX] at convertedX
  rw [sameY] at convertedY
  exact and_congr (wordNumber_iff finiteX convertedX) (wordNumber_iff finiteY convertedY)

/-- What is read of a trailer that could be written. -/
theorem positionsRoundTrip_of_written {message : DataMessage}
    (order : sending.order = receiving.order)
    (fits : packet.length + DataMessage.size ≤ frameSize)
    (written : trailerOf origin (tunDstIp sending origin packet) packet.length = some message) :
    PositionsRoundTrip sending receiving origin receiver packet ↔
      SamePosition ⟨message.srcGpsX.toFloat32, message.srcGpsY.toFloat32⟩ origin.gGps ∧
        ∀ gps, recordedGps sending origin packet = some gps →
          SamePosition message.dstGps gps := by
  have read : trailerIn receiving receiver (packet ++ message.bytes sending.order) = message := by
    rw [order]
    exact trailerIn_append receiving receiver message fits
  obtain ⟨receiverIp, once⟩ := originEvents_transmissions origin
    (tunDstIp sending origin packet) (packet ++ message.bytes sending.order)
  unfold PositionsRoundTrip
  rw [recvTun_run sending origin fits written, once]
  constructor
  · rintro ⟨target, datagram, sent, source, destination⟩
    cases sent
    rw [read] at source destination
    exact ⟨source, fun gps recorded => (destination gps recorded).1⟩
  · rintro ⟨source, destination⟩
    refine ⟨receiverIp, _, rfl, ?_⟩
    rw [read]
    refine ⟨source, ?_⟩
    intro gps recorded
    have same := destination gps recorded
    refine ⟨same, ?_⟩
    rintro ⟨x, y⟩
    exact ⟨same.1.symm.trans x, same.2.symm.trans y⟩

/-- The positions arrive if and only if the own `x` is one of two special numbers and the
other coordinates are numbers that a word can hold. -/
theorem positions_roundTrip_iff (order : sending.order = receiving.order)
    (fits : packet.length + DataMessage.size ≤ frameSize)
    (finiteX : origin.gGps.x.isFinite = true) (finiteY : origin.gGps.y.isFinite = true)
    (finite : ∀ gps, recordedGps sending origin packet = some gps →
      gps.x.isFinite = true ∧ gps.y.isFinite = true) :
    PositionsRoundTrip sending receiving origin receiver packet ↔
      SentAsNumbers sending origin packet := by
  cases written : trailerOf origin (tunDstIp sending origin packet) packet.length with
  | none =>
      constructor
      · rintro ⟨target, datagram, sent, -⟩
        rw [(recvTun_undefined sending origin fits written).2] at sent
        cases sent
      · intro numbers
        obtain ⟨message, filled⟩ := trailerOf_of_numbers numbers finiteY finite
        rw [written] at filled
        cases filled
  | some message =>
      obtain ⟨sourceX, sourceY, fields⟩ := trailerOf_fields written
      rw [positionsRoundTrip_of_written order fits written, SamePosition, sourceX,
        reinterpreted_iff finiteX, wordNumber_iff finiteY sourceY]
      constructor
      · rintro ⟨⟨fixed, number⟩, destination⟩
        refine ⟨fixed, number, fun gps recorded => ?_⟩
        obtain ⟨finiteX, finiteY⟩ := finite gps recorded
        exact (destination_iff recorded finiteX finiteY fields).mp (destination gps recorded)
      · rintro ⟨fixed, number, destination⟩
        refine ⟨⟨fixed, number⟩, fun gps recorded => ?_⟩
        obtain ⟨finiteX, finiteY⟩ := finite gps recorded
        exact (destination_iff recorded finiteX finiteY fields).mpr (destination gps recorded)

end

/-- The position (120.5,30.25) is read as (1123090432,30). -/
theorem trailer_changesPosition :
    ¬PositionsRoundTrip .shortHistories .shortHistories { loneNode with gGps := ⟨120.5, 30.25⟩ }
      loneNode headerPacket := by
  have written : trailerOf { loneNode with gGps := ⟨120.5, 30.25⟩ }
      (tunDstIp Host.shortHistories { loneNode with gGps := ⟨120.5, 30.25⟩ } headerPacket)
      headerPacket.length = some ⟨20, 0x42F10000, 30, 0, 90, 16⟩ := by
    decide +kernel
  have differs : value (0x42F10000 : UInt32).toFloat32 ≠ value (120.5 : Float32) := by
    decide +kernel
  rw [positionsRoundTrip_of_written rfl (by decide) written]
  rintro ⟨⟨same, -⟩, -⟩
  exact differs same

/-- A packet for an unknown destination, from (0,0). -/
theorem trailer_roundTrips_zero :
    PositionsRoundTrip .shortHistories .shortHistories loneNode loneNode headerPacket := by
  have unrecorded : recordedGps .shortHistories loneNode headerPacket = none := by
    rw [recordedGps, loneNode, IR.afterInit, Std.ExtTreeMap.getElem?_empty]
    rfl
  have zero : value loneNode.gGps.y = (0 : Nat) := by decide +kernel
  refine (positions_roundTrip_iff rfl (by decide) (by decide +kernel) (by decide +kernel) ?_).mpr
    ⟨by decide +kernel, ⟨0, by decide, zero⟩, ?_⟩
  · intro gps recorded
    rw [unrecorded] at recorded
    cases recorded
  · intro gps recorded
    rw [unrecorded] at recorded
    cases recorded

end TunVideo
