import TunVideo.CachedRoute
import TunVideo.RoutingState

set_option autoImplicit false

namespace TunVideo

open Program

section

variable {F D : Type}

theorem sendToNextHop_state (nextHopId : UInt32) (nread : Nat) (ir : IR F D) :
    ((sendToNextHop nextHopId nread : Procedure F D Unit).run ir).state = ir := by
  have kept : (sendToNextHop nextHopId nread : Procedure F D Unit).Keeps fun ir => ir :=
    sendToNextHop_keeps nextHopId nread
  exact kept ir

theorem dataBroadcast_tables (nread : Nat) (ir : IR F D) :
    let after := ((dataBroadcast nread : Procedure F D Unit).run ir).state
    after.beginTime = ir.beginTime ∧ after.forwardTable = ir.forwardTable ∧
      after.neighborTable = ir.neighborTable := by
  have same := dataBroadcast_routing nread ir
  exact ⟨congrArg RoutingState.beginTime same, congrArg RoutingState.forwardTable same,
    congrArg RoutingState.neighborTable same⟩

def Readings.same (now : Timeval) (gaussrand : UInt32 → Nat → D) : Readings D :=
  ⟨now, now, now, gaussrand⟩

/-- The frame of `Forwarding` at one clock reading. -/
structure ForwardingFrame (now : Timeval) (dstIp : UInt32) (ir after : IR F D) : Prop where
  otherRoutes : ∀ vip : UInt32, vip ≠ dstIp → after.forwardTable[vip]? = ir.forwardTable[vip]?
  routesKept : ∀ vip : UInt32, (ir.forwardTable[vip]?).isSome → (after.forwardTable[vip]?).isSome
  neighborsOld : ∀ (vip : UInt32) (entry : NeighborEntry F),
    after.neighborTable[vip]? = some entry → ir.neighborTable[vip]? = some entry
  removedExpired : ∀ (vip : UInt32) (entry : NeighborEntry F),
    ir.neighborTable[vip]? = some entry → after.neighborTable[vip]? = none →
      ttlNeighborTable < age (untilTime ir.beginTime now) entry.timestamp

end

section

variable {F D : Type} [DoublePrecision D] [SinglePrecision F D] {host : Host F D}
  {dstIp : UInt32} {dstGps : GPS F} {nread : Nat} {ir : IR F D}

theorem forwarding_frame_of_run (now : Timeval) (gaussrand : UInt32 → Nat → D) :
    ForwardingFrame now dstIp ir
      ((forwarding host (.same now gaussrand) dstIp dstGps nread).run ir).state := by
  have tables := forwarding_tables host (.same now gaussrand) ir dstIp dstGps nread
  constructor
  · intro vip other
    rcases tables.forward with same | ⟨nextHopId, same, -⟩
    · exact congrArg (·[vip]?) same
    · refine (congrArg (·[vip]?) same).trans ?_
      exact (getElem?_refreshed _ _ _ _ vip).trans (if_neg other.symm)
  · intro vip held
    rcases tables.forward with same | ⟨nextHopId, same, -⟩
    · exact (congrArg (fun table => (table[vip]?).isSome) same).trans held
    · refine (congrArg (fun table => (table[vip]?).isSome) same).trans ?_
      rw [getElem?_refreshed]
      split
      · rw [Option.isSome_map]
        exact held
      · exact held
  · exact tables.neighbor
  · intro vip entry held removed
    by_contra young
    have fresh : olderThan ttlNeighborTable (untilTime ir.beginTime now) entry.timestamp = false :=
      olderThan_eq_false.mpr (Int.not_lt.mp young)
    have kept := @forwarding_keepsNeighbor _ _ _ _ host (.same now gaussrand) ir vip entry dstIp
      dstGps nread held ⟨fun _ _ _ => fresh, fun _ _ _ => fresh⟩
    have clash : some entry = none := kept.symm.trans removed
    cases clash

/-- Nothing is removed from a table without expired entries. -/
theorem forwarding_keepsAll {now : Timeval} (gaussrand : UInt32 → Nat → D)
    (fresh : ∀ (vip : UInt32) (entry : NeighborEntry F), ir.neighborTable[vip]? = some entry →
      olderThan ttlNeighborTable (untilTime ir.beginTime now) entry.timestamp = false) :
    ((forwarding host (.same now gaussrand) dstIp dstGps nread).run ir).state.neighborTable =
      ir.neighborTable := by
  have tables := forwarding_tables host (.same now gaussrand) ir dstIp dstGps nread
  apply Std.ExtTreeMap.ext_getElem?
  intro vip
  apply Option.ext
  intro entry
  constructor
  · exact tables.neighbor vip entry
  · intro held
    have young := fresh vip entry held
    exact forwarding_keepsNeighbor dstIp dstGps nread held
      ⟨fun _ _ _ => young, fun _ _ _ => young⟩

omit [SinglePrecision F D] in
/-- What `RouteMakeup` leaves is not expired. -/
theorem routeChoice_fresh {now : Timeval} {gaussrand : UInt32 → Nat → D}
    {choice : NeighborTable F × UInt32}
    (chosen : routeChoice host now gaussrand ir dstGps = some choice) {vip : UInt32}
    {entry : NeighborEntry F} (held : choice.1[vip]? = some entry) :
    olderThan ttlNeighborTable (untilTime ir.beginTime now) entry.timestamp = false := by
  rw [(routeChoice_spec chosen).1] at held
  exact (MapSweep.getElem?_sweep_eq_some.mp held).2

/-- A second call finds no neighbour to remove: the first one has removed all expired ones, or
takes the same way again. -/
theorem forwarding_repeated {now : Timeval} {gaussrand : UInt32 → Nat → D}
    (defined : ((forwarding host (.same now gaussrand) dstIp dstGps nread).run ir).result = .ok ())
    (gaussrand' : UInt32 → Nat → D) :
    let first := ((forwarding host (.same now gaussrand) dstIp dstGps nread).run ir).state
    ((forwarding host (.same now gaussrand') dstIp dstGps nread).run first).state.neighborTable =
      first.neighborTable := by
  have path := forwarding_path host (.same now gaussrand) dstIp dstGps nread ir
  generalize (forwarding host (.same now gaussrand) dstIp dstGps nread).run ir = outcome
    at path defined ⊢
  dsimp only
  cases path with
  | missUnknown absent unknown =>
      have kept := (dataBroadcast_tables nread ir).2.1
      have absent' := (congrArg (·[dstIp]?) kept).trans absent
      rw [forwarding_miss_unknown host (.same now gaussrand') nread absent' unknown]
      exact (dataBroadcast_tables nread _).2.2
  | missStopped => cases defined
  | missComputed => cases defined
  | expiredUnknown entry held old unknown =>
      obtain ⟨start, kept, -⟩ := dataBroadcast_tables nread ir
      have held' := (congrArg (·[dstIp]?) kept).trans held
      rw [← start] at old
      rw [forwarding_expired_unknown host (.same now gaussrand') nread held' old unknown]
      exact (dataBroadcast_tables nread _).2.2
  | expiredStopped => cases defined
  | expiredComputed entry held old known choice chosen =>
      rw [Outcome.after_state, sendToNextHop_state]
      exact forwarding_keepsAll gaussrand' fun vip entry held => routeChoice_fresh chosen held
  | legal entry held fresh legal =>
      rw [Outcome.after_state, sendToNextHop_state,
        forwarding_legal host (.same now gaussrand') nread held fresh legal, Outcome.after_state,
        sendToNextHop_state]
  | illegalStopped => cases defined
  | illegalComputed entry held fresh illegal choice chosen =>
      rw [Outcome.after_state, sendToNextHop_state]
      exact forwarding_keepsAll gaussrand' fun vip entry held => routeChoice_fresh chosen held

/-- At every clock reading at which it is defined, `Forwarding` changes no route but that to the
destination, removes none, and only removes neighbours that have expired. At the same reading a
second call, whatever noise it predicts with, removes no more of them. -/
theorem forwarding_frame (host : Host F D) (now : Timeval) (gaussrand : UInt32 → Nat → D)
    (dstIp : UInt32) (dstGps : GPS F) (nread : Nat) (ir : IR F D)
    (defined : ((forwarding host (.same now gaussrand) dstIp dstGps nread).run ir).result =
      .ok ()) :
    let first := ((forwarding host (.same now gaussrand) dstIp dstGps nread).run ir).state
    ForwardingFrame now dstIp ir first ∧
      ∀ gaussrand', ((forwarding host (.same now gaussrand') dstIp dstGps nread).run
        first).state.neighborTable = first.neighborTable :=
  ⟨forwarding_frame_of_run now gaussrand, forwarding_repeated defined⟩

end

/-- Ten seconds later the route to 10.0.0.2 and the entry of that neighbour have both expired. -/
theorem forwarding_frame_expired :
    let readings := Readings.same ⟨10, 0⟩ fun _ _ => 0
    let ir := (neighborHeard 0x0200A8C0).last
    let first := ((forwarding Host.shortHistories readings 0x0200000A ⟨2, 0⟩ 44).run ir).state
    ForwardingFrame ⟨10, 0⟩ 0x0200000A ir first ∧
      ∀ gaussrand, ((forwarding Host.shortHistories (.same ⟨10, 0⟩ gaussrand) 0x0200000A ⟨2, 0⟩
        44).run first).state.neighborTable = first.neighborTable :=
  forwarding_frame Host.shortHistories ⟨10, 0⟩ (fun _ _ => 0) 0x0200000A ⟨2, 0⟩ 44
    (neighborHeard 0x0200A8C0).last (by decide +kernel)

end TunVideo
