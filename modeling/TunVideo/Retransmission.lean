import TunVideo.ForwardResult

set_option autoImplicit false

namespace TunVideo

open Program

theorem positive_of_alive {ttl : UInt32} (alive : 1 < ttl) : ttl ≠ 0 := by
  rintro rfl
  exact absurd alive (by decide)

theorem ttl_remains_iff {ttl : UInt32} (positive : ttl ≠ 0) : ttl - 1 > 0 ↔ 1 < ttl := by
  have nonzero : ttl.toNat ≠ 0 := fun none => positive (UInt32.toNat_inj.mp none)
  have one : (1 : UInt32) ≤ ttl := by
    rw [UInt32.le_iff_toNat_le]
    change 1 ≤ ttl.toNat
    omega
  rw [gt_iff_lt, UInt32.lt_iff_toNat_lt, UInt32.lt_iff_toNat_lt, UInt32.toNat_sub_of_le _ _ one]
  change 0 < ttl.toNat - 1 ↔ 1 < ttl.toNat
  omega

section

variable {F D : Type} {ir : IR F D} {nread : Nat} {sent : Option UInt32 × List UInt8}

theorem dataBroadcast_payload (fits : nread + DataMessage.size ≤ frameSize)
    (member : sent ∈ transmissions ((dataBroadcast nread : Procedure F D Unit).run ir).events) :
    sent.2 = relayPayload ir nread := by
  rw [dataBroadcast_run ir fits] at member
  have only : sent = (none, relayPayload ir nread) := List.mem_singleton.mp member
  rw [only]

theorem sendToNextHop_payload {nextHopId : UInt32} {calls : List (Event F)}
    (fits : nread + DataMessage.size ≤ frameSize) (silent : transmissions calls = [])
    (member : sent ∈ transmissions
      (((sendToNextHop nextHopId nread : Procedure F D Unit).run ir).after calls).events) :
    sent.2 = relayPayload ir nread := by
  rw [Outcome.after_events, transmissions, List.filterMap_append] at member
  rcases List.mem_append.mp member with call | last
  · change sent ∈ transmissions calls at call
    rw [silent] at call
    cases call
  · change sent ∈ transmissions _ at last
    rw [sendToNextHop_transmissions ir fits] at last
    split at last
    · rw [List.mem_singleton.mp last]
    · cases last

end

section

variable {F D : Type} [DoublePrecision D] [SinglePrecision F D]

/-- A datagram that `recv_data` hands to `Forwarding`. -/
structure Relayed (host : Host F D) (ir : IR F D) (datagram : List UInt8) : Prop where
  long : DataMessage.size ≤ datagram.length
  foreign : srcIpOf host ir datagram ≠ ir.virIp
  transit : dstIpOf host ir datagram ≠ ir.virIp
  alive : (trailerIn host ir datagram).ttl - 1 > 0

inductive RecvDataPath (host : Host F D) (readings : Readings D) (ir : IR F D)
    (datagram : List UInt8) : Outcome (IR F D) (Event F) Stop Unit → Prop
  | short (outcome : Outcome (IR F D) (Event F) Stop Unit)
      (short : datagram.length < DataMessage.size) (silent : outcome.events = []) :
      RecvDataPath host readings ir datagram outcome
  | own (own : srcIpOf host ir datagram = ir.virIp) :
      RecvDataPath host readings ir datagram ⟨.ok (), storeDatagram ir datagram, []⟩
  | refused (here : dstIpOf host ir datagram = ir.virIp) :
      RecvDataPath host readings ir datagram
        ⟨.error (.exit "Writing tun"), storeDatagram ir datagram, []⟩
  | written (here : dstIpOf host ir datagram = ir.virIp) :
      RecvDataPath host readings ir datagram
        ⟨.ok (), storeDatagram ir datagram,
          [.tunWritten (datagram.take (datagram.length - DataMessage.size))]⟩
  | exhausted (dead : ¬(trailerIn host ir datagram).ttl - 1 > 0) :
      RecvDataPath host readings ir datagram ⟨.ok (), relayState host ir datagram, []⟩
  | relayed (relayed : Relayed host ir datagram) :
      RecvDataPath host readings ir datagram
        ((forwarding host readings (dstIpOf host ir datagram) (trailerIn host ir datagram).dstGps
          datagram.length).run (relayState host ir datagram))

theorem recvData_path (host : Host F D) (readings : Readings D) (ir : IR F D)
    {datagram : List UInt8} (writeFails : Bool) (fits : datagram.length ≤ frameSize) :
    RecvDataPath host readings ir datagram
      ((recvData host readings (.packet datagram) writeFails).run ir) := by
  by_cases long : DataMessage.size ≤ datagram.length
  · rw [recvData_run host readings ir writeFails long fits]
    by_cases own : srcIpOf host ir datagram = ir.virIp
    · rw [if_pos own]
      exact .own own
    · rw [if_neg own]
      by_cases here : dstIpOf host ir datagram = ir.virIp
      · rw [if_pos here]
        cases writeFails with
        | true => exact .refused here
        | false => exact .written here
      · rw [if_neg here]
        by_cases alive : (trailerIn host ir datagram).ttl - 1 > 0
        · rw [if_pos alive]
          exact .relayed ⟨long, own, here, alive⟩
        · rw [if_neg alive]
          exact .exhausted alive
  · have silent := recvData_short host readings ir writeFails (Nat.not_le.mp long)
    exact .short _ (Nat.not_le.mp long) silent

variable {host : Host F D} {readings : Readings D} {ir : IR F D}
  {sent : Option UInt32 × List UInt8}

/-- Every way through `Forwarding` that sends something sends the same bytes. -/
theorem forwarding_payload {dstIp : UInt32} {dstGps : GPS F} {nread : Nat}
    (fits : nread + DataMessage.size ≤ frameSize)
    (member : sent ∈ transmissions ((forwarding host readings dstIp dstGps nread).run ir).events) :
    sent.2 = relayPayload ir nread := by
  have path := forwarding_path host readings dstIp dstGps nread ir
  generalize (forwarding host readings dstIp dstGps nread).run ir = outcome at path member
  cases path with
  | missUnknown => exact dataBroadcast_payload fits member
  | missStopped => cases member
  | missComputed => cases member
  | expiredUnknown => exact dataBroadcast_payload fits member
  | expiredStopped => cases member
  | expiredComputed =>
      have same := sendToNextHop_payload fits rfl member
      exact same
  | legal => exact sendToNextHop_payload fits rfl member
  | illegalStopped => cases member
  | illegalComputed =>
      have same := sendToNextHop_payload fits rfl member
      exact same

/-- Only a relayed datagram is sent on, and 24 older bytes of the receive buffer behind it. -/
theorem recvData_payload {datagram : List UInt8} {writeFails : Bool}
    (fits : datagram.length + DataMessage.size ≤ frameSize)
    (member : sent ∈ transmissions
      ((recvData host readings (.packet datagram) writeFails).run ir).events) :
    Relayed host ir datagram ∧
      sent.2 = decremented host ir datagram ++
        ir.dataRecvBuffer.slice datagram.length DataMessage.size := by
  have path := recvData_path host readings ir writeFails (show datagram.length ≤ frameSize by omega)
  generalize (recvData host readings (.packet datagram) writeFails).run ir = outcome
    at path member
  cases path with
  | short _ _ silent =>
      rw [silent] at member
      cases member
  | own => cases member
  | refused => cases member
  | written => cases member
  | exhausted => cases member
  | relayed relayed =>
      refine ⟨relayed, ?_⟩
      rw [forwarding_payload fits member, relayPayload_relayState host ir relayed.long fits]

end

end TunVideo
