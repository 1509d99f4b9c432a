import TunVideo.Atomicity
import TunVideo.PortSeparation

set_option autoImplicit false

/- Which operations of the main loop may be taken as indivisible, although signals and fixes
arrive between their statements. -/
namespace TunVideo

open Program

section

variable {F D : Type} [SinglePrecision F D]

/-- The timer signal and a fix use none of what an update of the tables or of a receive buffer
changes. -/
structure AsideOfActivities (update : IR F D → IR F D) : Prop where
  afterBeacon : ∀ ir, afterBeacon (update ir) = update (afterBeacon ir)
  beacon : ∀ host stack ir, beaconOf host stack (update ir) = beaconOf host stack ir
  broadcastAddr : ∀ ir, (update ir).broadcastAddr = ir.broadcastAddr
  fix : ∀ ir gps speed, { update ir with gGps := gps, gSpeed := speed } =
    update { ir with gGps := gps, gSpeed := speed }

theorem AsideOfActivities.ignores {update : IR F D → IR F D} (aside : AsideOfActivities update)
    (host : Host F D) :
    (modify update : Procedure F D Unit).Ignores (Activity.procedure host) := by
  refine .modify fun chosen ir => ?_
  cases chosen with
  | sigalrm stack =>
      rw [sigalrm_run, sigalrm_run, aside.afterBeacon, aside.beacon, aside.broadcastAddr]
  | gpsFix gps speed =>
      exact congrArg (fun state => (⟨.ok (), state, []⟩ : Outcome (IR F D) (Event F) Stop Unit))
        (aside.fix ir gps speed)

/-- What is read of the addresses, the start and the beacon buffer is not changed by an
activity. -/
theorem read_ignores {α : Type} {host : Host F D} {expression : IR F D → α}
    (beacon : ∀ ir, expression (afterBeacon ir) = expression ir)
    (fix : ∀ ir gps speed,
      expression { ir with gGps := gps, gSpeed := speed } = expression ir) :
    (Program.read expression : Procedure F D α).Ignores (Activity.procedure host) := by
  refine .read fun chosen ir => ?_
  cases chosen with
  | sigalrm stack =>
      rw [sigalrm_run]
      exact beacon ir
  | gpsFix gps speed => exact fix ir gps speed

theorem recvBeacon_ignores (host : Host F D) (now : Timeval) (fromAddr : UInt32)
    (received : Received) :
    (recvBeacon host now fromAddr received).Ignores (Activity.procedure host) := by
  have aside {update : IR F D → IR F D} (aside : AsideOfActivities update) := aside.ignores host
  unfold recvBeacon buildNeighbor
  refine .bind (aside ⟨fun _ => rfl, fun _ _ _ => rfl, fun _ => rfl, fun _ _ _ => rfl⟩) fun _ =>
    .bind (read_ignores (fun _ => rfl) fun _ _ _ => rfl) fun message =>
    .bind (read_ignores (fun _ => rfl) fun _ _ _ => rfl) fun _ => .ite ?_ (.pure ())
  refine .bind (read_ignores (fun _ => rfl) fun _ _ _ => rfl) fun _ =>
    .bind (aside ⟨fun _ => rfl, fun _ _ _ => rfl, fun _ => rfl, fun _ _ _ => rfl⟩) fun _ =>
    .bind (aside ⟨fun _ => rfl, fun _ _ _ => rfl, fun _ => rfl, fun _ _ _ => rfl⟩) fun _ =>
    .bind (aside ⟨fun _ => rfl, fun _ _ _ => rfl, fun _ => rfl, fun _ _ _ => rfl⟩) fun _ =>
    aside ⟨fun _ => rfl, fun _ _ _ => rfl, fun _ => rfl, fun _ _ _ => rfl⟩

variable [DoublePrecision D]

def Operation.IsRecvBeacon : Operation D → Prop
  | .recvBeacon _ _ _ => True
  | _ => False

/-- Timer signals and fixes arrive between any two statements of the main loop. Between two
operations, what the node has shown and reached is what it can show and reach when every
`recv_beacon` is one indivisible step. -/
theorem nodeTrace_recvBeaconAtomic {host : Host F D} {first : Loop (IR F D) (Event F) Stop}
    {events : List (Event F)} {ir : IR F D} :
    NodeTrace host first events ⟨.done (), ir⟩ ↔
      Loop.CoarseTrace Operation.IsRecvBeacon (Operation.procedure host) (Activity.procedure host)
        first events ⟨.done (), ir⟩ := by
  refine Loop.trace_iff_coarse fun chosen indivisible => ?_
  cases chosen with
  | recvBeacon now fromAddr received => exact recvBeacon_ignores host now fromAddr received
  | recvTun received sendFails => exact indivisible.elim
  | recvData readings received writeFails => exact indivisible.elim

end

def fixProcedure {F D : Type} [SinglePrecision F D] (host : Host F D) (fix : GPS F × D) :
    Procedure F D Unit :=
  (Activity.gpsFix fix.1 fix.2).procedure host

section

variable {F D : Type} [SinglePrecision F D] (host host' : Host F D)

theorem outgoing_ignores (nread : Nat) :
    (outgoing nread : Procedure F D _).Ignores (fixProcedure host) :=
  .bind (.read fun _ _ => rfl) fun _ => .require _ _

theorem sendToNextHop_ignores (nextHopId : UInt32) (nread : Nat) :
    (sendToNextHop nextHopId nread : Procedure F D Unit).Ignores (fixProcedure host) :=
  .ite (.bind (outgoing_ignores host nread) fun _ => .perform fun _ _ => ⟨rfl, rfl, rfl⟩) (.pure _)

theorem dataBroadcast_ignores (nread : Nat) :
    (dataBroadcast nread : Procedure F D Unit).Ignores (fixProcedure host) :=
  .bind (.perform fun _ _ => ⟨rfl, rfl, rfl⟩) fun _ =>
    .bind (outgoing_ignores host nread) fun _ => .perform fun _ _ => ⟨rfl, rfl, rfl⟩

theorem refreshRoute_ignores (dstIp nextHopId : UInt32) (untilTime : Int) :
    (refreshRoute dstIp nextHopId untilTime : Procedure F D Unit).Ignores (fixProcedure host) :=
  .modify fun _ _ => rfl

theorem recvBeacon_ignoresFixes (now : Timeval) (fromAddr : UInt32) (received : Received) :
    (recvBeacon host now fromAddr received).Ignores (fixProcedure host') := by
  unfold recvBeacon buildNeighbor
  refine .bind (.modify fun _ _ => rfl) fun _ => .bind (.read fun _ _ => rfl) fun _ =>
    .bind (.read fun _ _ => rfl) fun _ => .ite ?_ (.pure ())
  exact .bind (.read fun _ _ => rfl) fun _ => .bind (.modify fun _ _ => rfl) fun _ =>
    .bind (.modify fun _ _ => rfl) fun _ => .bind (.modify fun _ _ => rfl) fun _ =>
    .modify fun _ _ => rfl

variable [DoublePrecision D]

theorem routeMakeup_ignores (now : Timeval) (gaussrand : UInt32 → Nat → D) (dstGps : GPS F) :
    (routeMakeup host now gaussrand dstGps).Ignores (fixProcedure host') := by
  unfold routeMakeup
  refine .bind (.perform fun _ _ => ⟨rfl, rfl, rfl⟩) fun _ => .bind (.read fun _ _ => rfl) fun _ =>
    .bind (.read fun _ _ => rfl) fun _ => .bind (.read fun _ _ => rfl) fun _ =>
    .bind (.require _ _) fun _ => .bind (.modify fun _ _ => rfl) fun _ =>
    .bind (.require _ _) fun _ => .ite ?_ (.pure _)
  exact .bind (.require _ _) fun _ => .ite (.pure _) (.pure _)

theorem isLegal_ignores (now : Timeval) (nghbrIp : UInt32) (dstGps : GPS F) :
    (isLegal host now nghbrIp dstGps).Ignores (fixProcedure host') := by
  unfold isLegal
  refine .bind (.perform fun _ _ => ⟨rfl, rfl, rfl⟩) fun _ =>
    .bind (.read fun _ _ => rfl) fun found => ?_
  cases found with
  | none => exact .pure false
  | some entry =>
      refine .bind (.read fun _ _ => rfl) fun _ =>
        .ite ?_ (.bind (.read fun _ _ => rfl) fun _ => .pure _)
      exact .bind (.modify fun _ _ => rfl) fun _ => .pure false

theorem forwarding_ignores (readings : Readings D) (dstIp : UInt32) (dstGps : GPS F)
    (nread : Nat) :
    (forwarding host readings dstIp dstGps nread).Ignores (fixProcedure host') := by
  have send (nextHopId : UInt32) := sendToNextHop_ignores host' nextHopId nread
  have makeup := routeMakeup_ignores host host' readings.routeMakeup readings.gaussrand dstGps
  unfold forwarding
  refine .bind (.read fun _ _ => rfl) fun it => .bind (.read fun _ _ => rfl) fun untilTime => ?_
  cases it with
  | none =>
      refine .ite (dataBroadcast_ignores host' nread) ?_
      refine .bind makeup fun _ => .bind (.require _ _) fun _ => ?_
      exact .ite (.bind (.modify fun _ _ => rfl) fun _ => send _) (send _)
  | some entry =>
      refine .ite (.ite (dataBroadcast_ignores host' nread) ?_) ?_
      · refine .bind makeup fun _ => ?_
        exact .ite (.bind (refreshRoute_ignores host' _ _ _) fun _ => send _) (send _)
      · refine .bind (isLegal_ignores host host' _ _ _) fun _ => .ite (send _) ?_
        exact .bind makeup fun _ => .bind (refreshRoute_ignores host' _ _ _) fun _ => send _

theorem recvData_ignores (readings : Readings D) (received : Received) (writeFails : Bool) :
    (recvData host readings received writeFails).Ignores (fixProcedure host') := by
  unfold recvData
  refine .bind (.modify fun _ _ => rfl) fun _ => .bind (.read fun _ _ => rfl) fun _ =>
    .bind (.read fun _ _ => rfl) fun _ => .bind (.read fun _ _ => rfl) fun _ =>
    .ite (.bind (.require _ _) fun _ => .ite ?_ ?_) (.pure ())
  · exact .ite (.stop _) (.perform fun _ _ => ⟨rfl, rfl, rfl⟩)
  · exact .bind (.read fun _ _ => rfl) fun _ => .bind (.modify fun _ _ => rfl) fun _ =>
      .ite (forwarding_ignores host host' _ _ _ _) (.pure ())

/-- Everything but `recv_tun`, which copies the latest fix. -/
def Operation.TakesNoFix : Operation D → Prop
  | .recvTun _ _ => False
  | _ => True

variable {host}

/-- Between two timer signals, fixes arrive anywhere, and `recv_beacon` and `recv_data` might as
well be one indivisible step each: a fix never shows in an operation that is under way, except
in `recv_tun`. -/
theorem fixTrace_receivesAtomic {first : Loop (IR F D) (Event F) Stop}
    {events : List (Event F)} {ir : IR F D} :
    Loop.Trace (Operation.procedure host) (fixProcedure host) first events ⟨.done (), ir⟩ ↔
      Loop.CoarseTrace Operation.TakesNoFix (Operation.procedure host) (fixProcedure host)
        first events ⟨.done (), ir⟩ := by
  refine Loop.trace_iff_coarse fun chosen indivisible => ?_
  cases chosen with
  | recvTun received sendFails => exact indivisible.elim
  | recvBeacon now fromAddr received =>
      exact recvBeacon_ignoresFixes host host now fromAddr received
  | recvData readings received writeFails =>
      exact recvData_ignores host host readings received writeFails

end

end TunVideo
