import TunVideo.TunLength

set_option autoImplicit false

namespace TunVideo

open Program SinglePrecision

section

variable {F D : Type} [SinglePrecision F D] (host : Host F D) (ir : IR F D) (received : Received)
  (sendFails : Bool)

/-- A unicast to `dst` is sent, or `recv_tun` is on the way to it when a step is undefined:
`gps_by_ip` has found `dst`, and nothing behind it leaves that branch. -/
def GoesByUnicast (dst : UInt32) : Prop :=
  let outcome := (recvTun host received sendFails).run ir
  (∃ port payload, .dataUnicast ⟨port, dst⟩ payload ∈ outcome.events) ∨
    (∃ stop, outcome.result = .error stop ∧ stop.Undefined) ∧
      ∃ gps, gpsByIp ir (readDstIp host ir received) = some (dst, gps)

/-- A unicast goes to a next hop that `Forwarding` would not call expired. -/
def OriginatesFresh (now : Timeval) : Prop :=
  ∀ dst, GoesByUnicast host ir received sendFails dst →
    ∃ entry, ir.forwardTable[readDstIp host ir received]? = some entry ∧
      dst = entry.nextHopIp ∧
      olderThan ttlNeighborTable (untilTime ir.beginTime now) entry.timestamp = false

end

section

variable {F D : Type} [SinglePrecision F D] {host : Host F D} {ir : IR F D} {received : Received}
  {sendFails : Bool}

theorem recvTun_target {sent : Option UInt32 × List UInt8}
    (member : sent ∈ transmissions ((recvTun host received sendFails).run ir).events) :
    sent.1 = (ir.forwardTable[readDstIp host ir received]?).map (·.nextHopIp) := by
  have path := recvTun_path host ir received sendFails
  generalize (recvTun host received sendFails).run ir = outcome at path member
  cases path with
  | undefined _ _ silent => simp [silent] at member
  | overrun _ _ _ _ silent => simp [silent] at member
  | unsent _ _ _ _ _ silent => simp [silent] at member
  | sent message written fits completed once =>
      rw [once] at member
      rw [List.mem_singleton.mp member]

/-- A unicast goes to the next hop that the table has for the destination. -/
theorem recvTun_unicast {dst : SockAddr} {payload : List UInt8}
    (sent : .dataUnicast dst payload ∈ ((recvTun host received sendFails).run ir).events) :
    ∃ entry, ir.forwardTable[readDstIp host ir received]? = some entry ∧
      dst.sinAddr = entry.nextHopIp := by
  have member : (some dst.sinAddr, payload) ∈
      transmissions ((recvTun host received sendFails).run ir).events :=
    List.mem_filterMap.mpr ⟨_, sent, rfl⟩
  obtain ⟨entry, held, same⟩ := Option.map_eq_some_iff.mp (recvTun_target member).symm
  exact ⟨entry, held, same.symm⟩

theorem recvTun_held (sendFails : Bool) {entry : ForwardTableEntry F}
    (held : ir.forwardTable[readDstIp host ir received]? = some entry) :
    let outcome := (recvTun host received sendFails).run ir
    (∃ payload, (some entry.nextHopIp, payload) ∈ transmissions outcome.events) ∨
      ∃ stop, outcome.result = .error stop ∧ stop.Undefined := by
  have path := recvTun_path host ir received sendFails
  generalize (recvTun host received sendFails).run ir = outcome at path ⊢
  cases path with
  | undefined _ stopped => exact Or.inr ⟨_, stopped, trivial⟩
  | overrun _ _ _ stopped => exact Or.inr ⟨_, stopped, trivial⟩
  | unsent _ _ _ absent =>
      rw [held] at absent
      cases absent
  | sent message written fits completed once =>
      rw [held, Option.map_some] at once
      exact Or.inl ⟨_, once ▸ List.mem_singleton_self _⟩

theorem goesByUnicast_iff {dst : UInt32} :
    GoesByUnicast host ir received sendFails dst ↔
      ∃ entry, ir.forwardTable[readDstIp host ir received]? = some entry ∧
        dst = entry.nextHopIp := by
  constructor
  · rintro (⟨port, payload, sent⟩ | ⟨-, gps, found⟩)
    · exact recvTun_unicast sent
    · obtain ⟨entry, held, same⟩ := Option.map_eq_some_iff.mp found
      exact ⟨entry, held, (congrArg Prod.fst same).symm⟩
  · rintro ⟨entry, held, rfl⟩
    rcases recvTun_held sendFails held with ⟨payload, member⟩ | undefined
    · obtain ⟨event, shown, same⟩ := List.mem_filterMap.mp member
      cases event with
      | dataUnicast dst payload' =>
          obtain ⟨target, -⟩ := Prod.mk.inj (Option.some.inj same)
          rw [← Option.some.inj target]
          exact Or.inl ⟨dst.sinPort, payload', shown⟩
      | _ => cases same
    · refine Or.inr ⟨undefined, entry.gps, ?_⟩
      rw [gpsByIp, held]
      rfl

/-- `recv_tun` keeps to the rule exactly when no expired entry is there for it to use. -/
theorem recvTun_originatesFresh_iff (host : Host F D) (ir : IR F D) (received : Received)
    (sendFails : Bool) (now : Timeval) :
    OriginatesFresh host ir received sendFails now ↔
      ∀ entry, ir.forwardTable[readDstIp host ir received]? = some entry →
        olderThan ttlNeighborTable (untilTime ir.beginTime now) entry.timestamp = false := by
  constructor
  · intro fresh entry held
    obtain ⟨entry', held', -, live⟩ :=
      fresh entry.nextHopIp (goesByUnicast_iff.mpr ⟨entry, held, rfl⟩)
    rw [held] at held'
    rw [Option.some.inj held']
    exact live
  · intro fresh dst goes
    obtain ⟨entry, held, same⟩ := goesByUnicast_iff.mp goes
    exact ⟨entry, held, same, fresh entry held⟩

end

def neverRefreshed : IR Float32 Float :=
  { loneNode with
    forwardTable := (∅ : ForwardTable Float32).insert 0x0300000A ⟨0x0300A8C0, 0, ⟨1, 1⟩⟩ }

/-- Five seconds later a packet for 10.0.0.3 is still sent to the cached next hop. -/
theorem recvTun_usesExpired :
    ¬OriginatesFresh .shortHistories neverRefreshed (.packet headerPacket) false ⟨5, 0⟩ := by
  intro fresh
  have address : readDstIp Host.shortHistories neverRefreshed (.packet headerPacket) =
      0x0300000A := by
    decide +kernel
  have held : neverRefreshed.forwardTable[readDstIp Host.shortHistories neverRefreshed
      (.packet headerPacket)]? = some ⟨0x0300A8C0, 0, ⟨1, 1⟩⟩ := by
    rw [address]
    exact Std.ExtTreeMap.getElem?_insert_self
  obtain ⟨entry, held', -, live⟩ := fresh _ (goesByUnicast_iff.mpr ⟨_, held, rfl⟩)
  rw [held] at held'
  obtain rfl := Option.some.inj held'
  exact absurd live (by decide)

end TunVideo
