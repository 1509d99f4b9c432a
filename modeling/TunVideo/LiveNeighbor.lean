import TunVideo.Retransmission
import TunVideo.Schedule

set_option autoImplicit false

namespace TunVideo

open Program

section

variable {F D : Type}

/-- The physical address of a neighbour entry that is not expired. -/
def LiveAddress (table : NeighborTable F) (untilTime : Int) (address : UInt32) : Prop :=
  ∃ (vip : UInt32) (neighbor : NeighborEntry F), table[vip]? = some neighbor ∧
    neighbor.phyIp = address ∧ age untilTime neighbor.timestamp ≤ ttlNeighborTable

/-- Every unicast among the events goes to a live address. -/
def UnicastsAreLive (untilTime : Int) (outcome : Outcome (IR F D) (Event F) Stop Unit) : Prop :=
  ∀ dst payload, .dataUnicast dst payload ∈ outcome.events →
    LiveAddress outcome.state.neighborTable untilTime dst.sinAddr

theorem unicastsAreLive_of_none {now : Int} {outcome : Outcome (IR F D) (Event F) Stop Unit}
    (none : ∀ dst payload, .dataUnicast dst payload ∉ outcome.events) :
    UnicastsAreLive now outcome :=
  fun dst payload sent => absurd sent (none dst payload)

theorem dataBroadcast_unicastsAreLive {now : Int} {ir : IR F D} {nread : Nat}
    (fits : nread + DataMessage.size ≤ frameSize) :
    UnicastsAreLive now ((dataBroadcast nread : Procedure F D Unit).run ir) := by
  rw [dataBroadcast_run ir fits]
  exact unicastsAreLive_of_none (by simp)

end

section

variable {F D : Type} [DoublePrecision D] {host : Host F D} {readings : Readings D}
  {dstGps : GPS F}

/-- A unicast to a computed next hop goes to an entry that `RouteMakeup` did not purge. -/
theorem computed_unicastsAreLive {before state : IR F D} {choice : NeighborTable F × UInt32}
    {calls : List (Event F)} {nread : Nat} {now : Int}
    (fits : nread + DataMessage.size ≤ frameSize)
    (chosen : routeChoice host readings.routeMakeup readings.gaussrand before dstGps = some choice)
    (clock : untilTime before.beginTime readings.routeMakeup = now)
    (silent : ∀ dst payload, .dataUnicast dst payload ∉ calls)
    (table : state.neighborTable = choice.1) :
    UnicastsAreLive now (((sendToNextHop choice.2 nread).run state).after calls) := by
  obtain ⟨purged, answer⟩ := routeChoice_spec chosen
  intro dst payload sent
  rw [sendToNextHop_run _ fits] at sent ⊢
  rcases List.mem_append.mp sent with call | last
  · exact absurd call (silent dst payload)
  · by_cases real : choice.2 ≠ broadcastAddress
    · rw [if_pos real] at last
      obtain ⟨vip, neighbor, held, address⟩ := answer.resolve_left real
      have hop : dst.sinAddr = choice.2 := by
        cases List.mem_singleton.mp last
        rfl
      refine ⟨vip, neighbor, table.symm ▸ held, (hop.trans address).symm, ?_⟩
      rw [purged] at held
      rw [← clock]
      exact olderThan_eq_false.mp (MapSweep.getElem?_sweep_eq_some.mp held).2
    · rw [if_neg real] at last
      cases last

end

section

variable {F D : Type} [DoublePrecision D] [SinglePrecision F D] {host : Host F D}
  {readings : Readings D} {ir : IR F D} {dstIp : UInt32} {dstGps : GPS F}

/-- Whether `Forwarding` sends to a cached next hop without computing a route. -/
def servedFromCache (host : Host F D) (readings : Readings D) (ir : IR F D) (dstIp : UInt32)
    (dstGps : GPS F) : Option (ForwardTableEntry F) :=
  ir.forwardTable[dstIp]?.filter fun entry =>
    !olderThan ttlNeighborTable (untilTime ir.beginTime readings.forwarding) entry.timestamp &&
      legalVerdict host readings.isLegal ir entry.nextHopIp dstGps

/-- The clock reading that precedes a send. -/
def lastReading (host : Host F D) (readings : Readings D) (ir : IR F D) (dstIp : UInt32)
    (dstGps : GPS F) : Timeval :=
  if (servedFromCache host readings ir dstIp dstGps).isSome then readings.isLegal
  else readings.routeMakeup

/-- A next hop that is served from the cache is a live address. -/
def CacheIsLive (host : Host F D) (readings : Readings D) (ir : IR F D) (dstIp : UInt32)
    (dstGps : GPS F) : Prop :=
  ∀ entry, servedFromCache host readings ir dstIp dstGps = some entry →
    entry.nextHopIp ≠ broadcastAddress →
    LiveAddress ir.neighborTable (untilTime ir.beginTime readings.isLegal) entry.nextHopIp

theorem servedFromCache_miss (absent : ir.forwardTable[dstIp]? = none) :
    servedFromCache host readings ir dstIp dstGps = none := by
  rw [servedFromCache, absent]
  rfl

theorem servedFromCache_held {entry : ForwardTableEntry F}
    (held : ir.forwardTable[dstIp]? = some entry) :
    servedFromCache host readings ir dstIp dstGps =
      if !olderThan ttlNeighborTable (untilTime ir.beginTime readings.forwarding) entry.timestamp &&
          legalVerdict host readings.isLegal ir entry.nextHopIp dstGps then some entry else none := by
  rw [servedFromCache, held, Option.filter_some]

theorem notServed_iff {outcome : Outcome (IR F D) (Event F) Stop Unit}
    (computed : servedFromCache host readings ir dstIp dstGps = none)
    (live : UnicastsAreLive (untilTime ir.beginTime readings.routeMakeup) outcome) :
    UnicastsAreLive (untilTime ir.beginTime (lastReading host readings ir dstIp dstGps)) outcome ↔
      CacheIsLive host readings ir dstIp dstGps := by
  have vacuous : CacheIsLive host readings ir dstIp dstGps := by
    intro entry served
    rw [computed] at served
    cases served
  rw [lastReading, computed]
  exact iff_of_true live vacuous

theorem served_iff {entry : ForwardTableEntry F} {nread : Nat}
    (fits : nread + DataMessage.size ≤ frameSize)
    (served : servedFromCache host readings ir dstIp dstGps = some entry) :
    UnicastsAreLive (untilTime ir.beginTime (lastReading host readings ir dstIp dstGps))
        (((sendToNextHop entry.nextHopIp nread).run ir).after
          [.isLegalCalled entry.nextHopIp dstGps ir.gps]) ↔
      CacheIsLive host readings ir dstIp dstGps := by
  rw [sendToNextHop_run ir fits, lastReading, served]
  constructor
  · intro live entry' served' real
    rw [served] at served'
    obtain rfl := Option.some.inj served'
    refine live ⟨dataPort, entry.nextHopIp⟩ (relayPayload ir nread) ?_
    simp [real]
  · intro live dst payload sent
    have real : entry.nextHopIp ≠ broadcastAddress := by
      intro none
      simp [none] at sent
    have hop : dst = ⟨dataPort, entry.nextHopIp⟩ := by
      simp only [Outcome.after_mk, if_pos real, List.mem_append, List.mem_singleton,
        reduceCtorEq, false_or, Event.dataUnicast.injEq] at sent
      exact sent.1
    rw [hop]
    exact live entry served real

/-- One call of `Forwarding` sends unicasts to live neighbours only if and only if the
next hop it takes from the cache, if it does, is one. -/
theorem forwarding_unicastsAreLive_iff {nread : Nat}
    (fits : nread + DataMessage.size ≤ frameSize) :
    UnicastsAreLive (untilTime ir.beginTime (lastReading host readings ir dstIp dstGps))
        ((forwarding host readings dstIp dstGps nread).run ir) ↔
      CacheIsLive host readings ir dstIp dstGps := by
  have path := forwarding_path host readings dstIp dstGps nread ir
  generalize (forwarding host readings dstIp dstGps nread).run ir = outcome at path ⊢
  cases path with
  | missUnknown absent =>
      exact notServed_iff (servedFromCache_miss absent) (dataBroadcast_unicastsAreLive fits)
  | missStopped absent =>
      exact notServed_iff (servedFromCache_miss absent) (unicastsAreLive_of_none (by simp))
  | missComputed absent =>
      exact notServed_iff (servedFromCache_miss absent) (unicastsAreLive_of_none (by simp))
  | expiredUnknown entry held old =>
      refine notServed_iff ?_ (dataBroadcast_unicastsAreLive fits)
      simp [servedFromCache_held held, old]
  | expiredStopped entry held old =>
      refine notServed_iff ?_ (unicastsAreLive_of_none (by simp))
      simp [servedFromCache_held held, old]
  | expiredComputed entry held old known choice chosen =>
      refine notServed_iff ?_ (computed_unicastsAreLive fits chosen rfl (by simp) rfl)
      simp [servedFromCache_held held, old]
  | legal entry held fresh legal =>
      refine served_iff fits ?_
      simp [servedFromCache_held held, fresh, legal]
  | illegalStopped entry held fresh illegal =>
      refine notServed_iff ?_ (unicastsAreLive_of_none (by simp))
      simp [servedFromCache_held held, illegal]
  | illegalComputed entry held fresh illegal choice chosen =>
      refine notServed_iff ?_ (computed_unicastsAreLive fits chosen rfl (by simp) rfl)
      simp [servedFromCache_held held, illegal]

def RelayIsLive (host : Host F D) (readings : Readings D) (ir : IR F D) (datagram : List UInt8)
    (writeFails : Bool) : Prop :=
  UnicastsAreLive
    (untilTime ir.beginTime (lastReading host readings ir (dstIpOf host ir datagram)
      (trailerIn host ir datagram).dstGps))
    ((recvData host readings (.packet datagram) writeFails).run ir)

theorem recvData_relayIsLive_iff {datagram : List UInt8} (writeFails : Bool)
    (udp : datagram.length ≤ 65507) :
    RelayIsLive host readings ir datagram writeFails ↔
      (Relayed host ir datagram → CacheIsLive host readings ir (dstIpOf host ir datagram)
        (trailerIn host ir datagram).dstGps) := by
  have fits : datagram.length + DataMessage.size ≤ frameSize :=
    Nat.le_trans (Nat.add_le_add_right udp _) (by decide)
  unfold RelayIsLive
  have path := recvData_path host readings ir writeFails (show datagram.length ≤ frameSize by omega)
  generalize (recvData host readings (.packet datagram) writeFails).run ir = outcome at path ⊢
  cases path with
  | short _ short silent =>
      refine iff_of_true (unicastsAreLive_of_none ?_) fun relayed =>
        absurd relayed.long (Nat.not_le.mpr short)
      simp [silent]
  | own own =>
      exact iff_of_true (unicastsAreLive_of_none (by simp)) fun relayed =>
        absurd own relayed.foreign
  | refused here =>
      exact iff_of_true (unicastsAreLive_of_none (by simp)) fun relayed =>
        absurd here relayed.transit
  | written here =>
      exact iff_of_true (unicastsAreLive_of_none (by simp)) fun relayed =>
        absurd here relayed.transit
  | exhausted dead =>
      exact iff_of_true (unicastsAreLive_of_none (by simp)) fun relayed => absurd relayed.alive dead
  | relayed relayed =>
      refine Iff.trans (forwarding_unicastsAreLive_iff fits) ?_
      exact ⟨fun live _ => live, fun live => live relayed⟩

/-- In every run, all relayed unicasts go to live neighbours if and only if every next hop
that a relaying step takes from the cache is the address of one. -/
theorem run_relaysAreLive_iff (run : NodeRun host) :
    (∀ state readings datagram writeFails,
        (state, .inl (.recvData readings (.packet datagram) writeFails)) ∈ run.history →
        datagram.length ≤ 65507 → RelayIsLive host readings state datagram writeFails) ↔
      ∀ state readings datagram writeFails,
        (state, .inl (.recvData readings (.packet datagram) writeFails)) ∈ run.history →
        datagram.length ≤ 65507 → Relayed host state datagram →
        CacheIsLive host readings state (dstIpOf host state datagram)
          (trailerIn host state datagram).dstGps := by
  constructor
  · intro live state readings datagram writeFails member udp
    exact (recvData_relayIsLive_iff writeFails udp).mp
      (live state readings datagram writeFails member udp)
  · intro cached state readings datagram writeFails member udp
    exact (recvData_relayIsLive_iff writeFails udp).mpr
      (cached state readings datagram writeFails member udp)

end

/-- A node that has heard 10.0.0.3 at 192.168.0.2 and again at 192.168.0.3, and a third node
that uses the latter as its virtual address. -/
def addressReused : NodeRun Host.shortHistories :=
  (((NodeRun.atStart .shortHistories loneNode_initial).hear ⟨0, 0⟩ 0x0200A8C0
    ⟨0x0300000A, 0x0200A8C0, 1, 0, 0, 0⟩).hear ⟨0, 0⟩ 0x0300A8C0
    ⟨0x0300000A, 0x0300A8C0, 1, 0, 0, 0⟩).hear ⟨0, 0⟩ 0x0400A8C0
    ⟨0x0300A8C0, 0x0400A8C0, 1, 0, 0, 0⟩

def packetRelayed : NodeRun Host.shortHistories :=
  addressReused.step
    (.inl (.recvData .atOneSecond (.packet (headerDatagram ⟨20, 0, 0, 2, 0, 16⟩)) false))
    (by decide +kernel)

/-- `IsLegal` accepts the cached 192.168.0.3 as a key, but it is no neighbour's address. -/
theorem relay_unicastsToStranger :
    ¬∀ state readings datagram writeFails,
      (state, .inl (.recvData readings (.packet datagram) writeFails)) ∈ packetRelayed.history →
      datagram.length ≤ 65507 →
      RelayIsLive .shortHistories readings state datagram writeFails := by
  intro live
  let datagram := headerDatagram ⟨20, 0, 0, 2, 0, 16⟩
  have relayed : Relayed Host.shortHistories addressReused.last datagram :=
    ⟨by decide +kernel, by decide +kernel, by decide +kernel, by decide +kernel⟩
  have cached := (recvData_relayIsLive_iff false (by decide)).mp
    (live addressReused.last .atOneSecond datagram false
      (List.mem_append_right _ (List.mem_singleton.mpr rfl)) (by decide)) relayed
  have served : ((servedFromCache Host.shortHistories .atOneSecond addressReused.last
      (dstIpOf Host.shortHistories addressReused.last datagram)
      (trailerIn Host.shortHistories addressReused.last datagram).dstGps).map
        ForwardTableEntry.nextHopIp) = some 0x0300A8C0 := by
    decide +kernel
  have addresses : ∀ iter ∈ addressReused.last.neighborTable.toList,
      iter.2.phyIp ≠ 0x0300A8C0 := by
    decide +kernel
  obtain ⟨entry, found, nextHop⟩ := Option.map_eq_some_iff.mp served
  obtain ⟨vip, neighbor, held, address, -⟩ := cached entry found (by rw [nextHop]; decide)
  exact addresses (vip, neighbor) (Std.ExtTreeMap.mem_toList_iff_getElem?_eq_some.mpr held)
    (address.trans nextHop)

end TunVideo
