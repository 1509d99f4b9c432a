import TunVideo.ProgramEvents
import TunVideo.SentinelInvariant

set_option autoImplicit false

namespace TunVideo

open Program SinglePrecision

section

variable {F D : Type}

/-- The position of the node that a routing call uses. -/
def Event.selfGps : Event F → Option (GPS F)
  | isLegalCalled _ _ selfGps => some selfGps
  | routeMakeupCalled _ selfGps => some selfGps
  | _ => none

/-- The positions that the calls of `IsLegal` and `RouteMakeup` use, in order. -/
def selfPositions (events : List (Event F)) : List (GPS F) :=
  events.filterMap Event.selfGps

/-- What a node knows of its own position: the copy it has taken, the latest fix, and the fixes
of its last two beacons. -/
structure OwnState (F : Type) where
  gps : GPS F
  fix : GPS F
  qGps : List (GPS F)

def IR.own (ir : IR F D) : OwnState F := ⟨ir.gps, ir.gGps, ir.qGps⟩

/-- A local packet or a timer beacon copies the fix, and a new fix leaves the copy behind. -/
def OwnState.follow (own : OwnState F) : Operation D ⊕ Activity F D → OwnState F
  | .inl (.recvTun _ _) => { own with gps := own.fix }
  | .inl _ => own
  | .inr (.sigalrm _) =>
      { own with
        gps := own.fix
        qGps := (if own.qGps.length = 2 then own.qGps.tail else own.qGps) ++ [own.fix] }
  | .inr (.gpsFix gps _) => { own with fix := gps }

theorem outgoing_silent (nread : Nat) :
    (outgoing nread : Procedure F D _).Emits fun event => event.selfGps = none :=
  .bind (.read _) fun _ => .require _ _

theorem dataBroadcast_silent (nread : Nat) :
    (dataBroadcast nread : Procedure F D Unit).Emits fun event => event.selfGps = none :=
  .bind (.single fun _ => rfl) fun _ => .bind (outgoing_silent nread) fun _ =>
    .single fun _ => rfl

theorem sendToNextHop_silent (nextHopId : UInt32) (nread : Nat) :
    (sendToNextHop nextHopId nread : Procedure F D Unit).Emits fun event =>
      event.selfGps = none :=
  .ite (.bind (outgoing_silent nread) fun _ => .single fun _ => rfl) (.pure _)

theorem selfPositions_silent {events : List (Event F)}
    (silent : ∀ event ∈ events, event.selfGps = none) : selfPositions events = [] :=
  List.filterMap_eq_nil_iff.mpr silent

theorem selfPositions_append (earlier later : List (Event F)) :
    selfPositions (earlier ++ later) = selfPositions earlier ++ selfPositions later :=
  List.filterMap_append

/-- What is sent after the calls does not count. -/
theorem selfPositions_sent (calls : List (Event F)) (nextHopId : UInt32) (nread : Nat)
    (ir : IR F D) :
    selfPositions (((sendToNextHop nextHopId nread : Procedure F D Unit).run ir).after
      calls).events = selfPositions calls := by
  have sent := selfPositions_silent (sendToNextHop_silent nextHopId nread ir)
  rw [Outcome.after_events, selfPositions_append, sent, List.append_nil]

end

section

variable {F D : Type} [SinglePrecision F D] (host : Host F D)

theorem recvTun_own (received : Received) (sendFails : Bool) (ir : IR F D) :
    ((recvTun host received sendFails).run ir).state.own = { ir.own with gps := ir.gGps } := by
  unfold recvTun getGps recvTunAfterGps tunSending
  rw [run_bind, run_modify, Outcome.bind_ok, Outcome.after_nil, run_bind, run_modify,
    Outcome.bind_ok, Outcome.after_nil]
  -- behind `get_gps` neither is written again
  refine Eq.trans (Keeps.bind (.read _) (fun opt => .bind (.read _) fun _ => ?_) _) rfl
  cases opt with
  | some found =>
      exact .bind (.require _ _) fun _ => .bind (.require _ _) fun _ => .bind (.read _) fun _ =>
        .bind (.require _ _) fun _ => .bind (fillDataBuffer_keeps (fun _ _ => rfl) _ _ _) fun _ =>
          .perform fun _ => rfl
  | none =>
      exact .bind (.perform fun _ => rfl) fun _ => .bind (.read _) fun _ =>
        .bind (.require _ _) fun _ => .bind (fillDataBuffer_keeps (fun _ _ => rfl) _ _ _) fun _ =>
          .ite (.stop _) (.perform fun _ => rfl)

theorem recvBeacon_own (now : Timeval) (fromAddr : UInt32) (received : Received) :
    (recvBeacon host now fromAddr received).Keeps IR.own := by
  refine .bind (.modify fun _ => rfl) fun _ => .bind (.read _) fun message => .bind (.read _)
    fun phyIp => .ite ?_ (.pure _)
  intro ir
  rw [buildNeighbor_run]
  rfl

end

section

variable {F D : Type} [DoublePrecision D] [SinglePrecision F D] (host : Host F D)
  (readings : Readings D)

theorem forwarding_own (dstIp : UInt32) (dstGps : GPS F) (nread : Nat) :
    (forwarding host readings dstIp dstGps nread).Keeps IR.own := by
  intro ir
  have path := forwarding_path host readings dstIp dstGps nread ir
  generalize (forwarding host readings dstIp dstGps nread).run ir = outcome at path ⊢
  cases path with
  | missUnknown => exact dataBroadcast_keeps (fun _ _ => rfl) nread ir
  | missStopped => rfl
  | missComputed => rfl
  | expiredUnknown => exact dataBroadcast_keeps (fun _ _ => rfl) nread ir
  | expiredStopped => rfl
  | expiredComputed _ _ _ _ choice => exact sendToNextHop_keeps choice.2 nread _
  | legal entry => exact sendToNextHop_keeps entry.nextHopIp nread ir
  | illegalStopped => rfl
  | illegalComputed _ _ _ _ choice => exact sendToNextHop_keeps choice.2 nread _

theorem recvData_own (received : Received) (writeFails : Bool) :
    (recvData host readings received writeFails).Keeps IR.own := by
  refine .bind (.modify fun _ => rfl) fun _ => .bind (.read _) fun dstIp => .bind (.read _)
    fun srcIp => .bind (.read _) fun virIp => .ite (.bind (.require _ _) fun trailer => ?_) (.pure _)
  apply Keeps.ite
  · exact .ite (.stop _) (.perform fun _ => rfl)
  · exact .bind (.read _) fun _ => .bind (.modify fun _ => rfl) fun _ =>
      .ite (forwarding_own host readings dstIp _ _) (.pure _)

theorem step_own {ir after : IR F D} {chosen : Operation D ⊕ Activity F D}
    (step : stepCompletes host ir chosen after) :
    after.own = ir.own.follow chosen := by
  obtain ⟨-, rfl⟩ := step
  cases chosen with
  | inr activity =>
      cases activity with
      | gpsFix gps speed => rfl
      | sigalrm stack =>
          change ((sendBeacon host stack).run ir).state.own = _
          rw [sendBeacon_run]
          rfl
  | inl operation =>
      cases operation with
      | recvTun received sendFails => exact recvTun_own host received sendFails ir
      | recvBeacon now fromAddr received =>
          exact recvBeacon_own host now fromAddr received ir
      | recvData readings received writeFails =>
          exact recvData_own host readings received writeFails ir

/-- `Forwarding` looks for a next hop: the position of the destination is known, or the forward
table has a fresh entry for it. -/
def NeedsRoute (readings : Readings D) (ir : IR F D) (dstIp : UInt32) (dstGps : GPS F) : Prop :=
  ¬dstGps.unknown = true ∨ ∃ entry, ir.forwardTable[dstIp]? = some entry ∧
    olderThan ttlNeighborTable (untilTime ir.beginTime readings.forwarding) entry.timestamp = false

/-- A datagram with a trailer is relayed along a route. -/
structure CallsRouting (host : Host F D) (readings : Readings D) (ir : IR F D)
    (datagram : List UInt8) : Prop where
  foreign : srcIpOf host ir datagram ≠ ir.virIp
  transit : dstIpOf host ir datagram ≠ ir.virIp
  alive : (trailerIn host ir datagram).ttl - 1 > 0
  needed : NeedsRoute readings ir (dstIpOf host ir datagram) (trailerIn host ir datagram).dstGps

variable {host readings} {ir : IR F D}

/-- `Forwarding` calls `IsLegal` or `RouteMakeup` or both, with the copy that the node has, or
broadcasts the packet. -/
theorem forwarding_selfPositions (dstIp : UInt32) (dstGps : GPS F) (nread : Nat) :
    let positions := selfPositions ((forwarding host readings dstIp dstGps nread).run ir).events
    NeedsRoute readings ir dstIp dstGps ∧ (positions = [ir.gps] ∨ positions = [ir.gps, ir.gps]) ∨
      ¬NeedsRoute readings ir dstIp dstGps ∧ positions = [] := by
  dsimp only
  have path := forwarding_path host readings dstIp dstGps nread ir
  generalize (forwarding host readings dstIp dstGps nread).run ir = outcome at path ⊢
  cases path with
  | missUnknown absent unknown =>
      apply Or.inr
      rw [selfPositions_silent (dataBroadcast_silent nread ir)]
      simp [NeedsRoute, absent, unknown]
  | missStopped absent known => exact Or.inl ⟨Or.inl known, Or.inl rfl⟩
  | missComputed absent known => exact Or.inl ⟨Or.inl known, Or.inl rfl⟩
  | expiredUnknown entry held old unknown =>
      apply Or.inr
      rw [selfPositions_silent (dataBroadcast_silent nread ir)]
      simp [NeedsRoute, held, old, unknown]
  | expiredStopped entry held old known => exact Or.inl ⟨Or.inl known, Or.inl rfl⟩
  | expiredComputed entry held old known choice =>
      rw [selfPositions_sent]
      exact Or.inl ⟨Or.inl known, Or.inl rfl⟩
  | legal entry held fresh =>
      rw [selfPositions_sent]
      exact Or.inl ⟨Or.inr ⟨entry, held, fresh⟩, Or.inl rfl⟩
  | illegalStopped entry held fresh =>
      exact Or.inl ⟨Or.inr ⟨entry, held, fresh⟩, Or.inr rfl⟩
  | illegalComputed entry held fresh _ choice =>
      rw [selfPositions_sent]
      exact Or.inl ⟨Or.inr ⟨entry, held, fresh⟩, Or.inr rfl⟩

theorem forwarding_usesFix_iff (dstIp : UInt32) (dstGps : GPS F) (nread : Nat) (fix : GPS F) :
    (∀ self ∈ selfPositions ((forwarding host readings dstIp dstGps nread).run ir).events,
        self = fix) ↔
      (NeedsRoute readings ir dstIp dstGps → ir.gps = fix) := by
  have calls := @forwarding_selfPositions F D _ _ host readings ir dstIp dstGps nread
  dsimp only at calls
  rcases calls with ⟨needed, same | same⟩ | ⟨direct, same⟩
  · simp [same, needed]
  · simp [same, needed]
  · simp [same, direct]

/-- Every routing call for a received datagram uses the fix of the time. -/
def UsesFix (host : Host F D) (readings : Readings D) (ir : IR F D) (received : Received)
    (writeFails : Bool) : Prop :=
  ∀ self ∈ selfPositions ((recvData host readings received writeFails).run ir).events,
    self = ir.gGps

theorem recvData_usesFix_iff (received : Received) (writeFails : Bool)
    (long : DataMessage.size ≤ received.datagram.length) :
    UsesFix host readings ir received writeFails ↔
      (CallsRouting host readings ir received.datagram → ir.gps = ir.gGps) := by
  unfold UsesFix
  rw [recvData_datagram]
  have path := recvData_path host readings ir writeFails received.datagram_length
  generalize (recvData host readings (.packet received.datagram) writeFails).run ir = outcome
    at path ⊢
  cases path with
  | short outcome short => exact absurd long (Nat.not_le.mpr short)
  | own own => exact iff_of_true (by simp [selfPositions]) fun calls => absurd own calls.foreign
  | refused here =>
      exact iff_of_true (by simp [selfPositions]) fun calls => absurd here calls.transit
  | written here =>
      refine iff_of_true ?_ fun calls => absurd here calls.transit
      simp [selfPositions, Event.selfGps]
  | exhausted dead =>
      exact iff_of_true (by simp [selfPositions]) fun calls => absurd calls.alive dead
  | relayed relayed =>
      rw [forwarding_usesFix_iff]
      constructor
      · exact fun current calls => current calls.needed
      · exact fun current needed =>
          current ⟨relayed.foreign, relayed.transit, relayed.alive, needed⟩

/-- What a node knows of its own position after a run, from what its steps were alone. -/
def NodeRun.own (run : NodeRun host) : OwnState F :=
  run.history.foldl (fun own visited => own.follow visited.2) run.initial.own

theorem history_own {first last : IR F D}
    {history : List (IR F D × (Operation D ⊕ Activity F D))}
    (steps : History (stepCompletes host) first history last) :
    history.foldl (fun own visited => own.follow visited.2) first.own =
      last.own := by
  induction steps with
  | start => rfl
  | next run chosen taken ih =>
      rw [List.foldl_append, ih, step_own host taken]
      rfl

theorem NodeRun.own_last (run : NodeRun host) : run.own = run.last.own :=
  history_own run.steps

/-- After every run, the routing calls for the next datagram with a trailer use the latest fix if
and only if the node has copied that fix, for a local packet or a timer beacon, or makes no such
call. -/
theorem run_usesFix_iff (run : NodeRun host) (readings : Readings D) (received : Received)
    (writeFails : Bool) (long : DataMessage.size ≤ received.datagram.length) :
    UsesFix host readings run.last received writeFails ↔
      (CallsRouting host readings run.last received.datagram →
        run.own.gps = run.own.fix) := by
  rw [run.own_last]
  exact recvData_usesFix_iff received writeFails long

end

def packetInTransit : Received :=
  .packet (headerDatagram ⟨20, 0, 0, 1, 0, 16⟩)

/-- Before the first fix the copy is as good as the fix. -/
theorem heardDestination_usesFix :
    UsesFix .shortHistories .atOneSecond heardDestination.last packetInTransit false := by
  have same : heardDestination.own.gps = heardDestination.own.fix := by
    rw [heardDestination.own_last]
    decide +kernel
  have long : DataMessage.size ≤ packetInTransit.datagram.length := by decide +kernel
  exact (run_usesFix_iff heardDestination .atOneSecond packetInTransit false long).mpr
    fun _ => same

def fixedOnce : NodeRun Host.shortHistories :=
  heardDestination.step (.inr (.gpsFix ⟨1, 0⟩ 0)) rfl

/-- The next packet for 10.0.0.3 is routed from (0,0), where the node has never been. -/
theorem relay_usesOldPosition :
    ¬∀ (run : NodeRun Host.shortHistories) (readings : Readings Float) (received : Received)
      (writeFails : Bool), UsesFix .shortHistories readings run.last received writeFails := by
  intro uses
  let datagram := headerDatagram ⟨20, 0, 0, 1, 0, 16⟩
  have relayed : Relayed Host.shortHistories fixedOnce.last datagram :=
    ⟨by decide +kernel, by decide +kernel, by decide +kernel, by decide +kernel⟩
  have known : ¬((trailerIn Host.shortHistories fixedOnce.last datagram).dstGps :
      GPS Float32).unknown = true := by
    decide +kernel
  have copied := (recvData_usesFix_iff packetInTransit false relayed.long).mp
    (uses fixedOnce .atOneSecond packetInTransit false)
    ⟨relayed.foreign, relayed.transit, relayed.alive, Or.inl known⟩
  have apart : fixedOnce.last.gps ≠ fixedOnce.last.gGps := by decide +kernel
  exact apart copied

end TunVideo
