import TunVideo.LockSafety
import TunVideo.ResourceInvariant

set_option autoImplicit false

namespace TunVideo

open Program LockedProgram SinglePrecision

section

variable {F D : Type}

abbrev statusFix : Int := 1

abbrev mode2D : Int := 2

abbrev mode3D : Int := 3

/-- What `gps_thread` reads of `gps_data`. -/
structure GpsData (D : Type) where
  status : Int
  mode : Int
  latitude : D
  longitude : D
  speed : D

/-- `isnan`: every number but a NaN is at most itself. -/
def isNan [DoublePrecision D] (x : D) : Bool := !decide (x ≤ x)

/-- The test in front of `pthread_mutex_lock`. -/
def GpsData.isFix [DoublePrecision D] (data : GpsData D) : Bool :=
  data.status == statusFix && (data.mode == mode2D || data.mode == mode3D) &&
    !isNan data.latitude && !isNan data.longitude

def GpsData.gps [SinglePrecision F D] (data : GpsData D) : GPS F :=
  ⟨ofDouble data.latitude, ofDouble data.longitude⟩

/-- What `gps_waiting` and `gps_read` bring. -/
inductive GpsRead (D : Type) where
  | timeout
  | failed
  | read (data : GpsData D)

def gpsThreadRound [DoublePrecision D] [SinglePrecision F D] : GpsRead D → LockedProcedure F D Unit
  | .timeout => pure ()
  | .failed => pure ()
  | .read data => if data.isFix then storeFix data.gps data.speed else pure ()

/-- What is shared under the mutex, and what `get_gps` copies of it. -/
structure SharedFix (F D : Type) where
  global : GPS F × D
  own : GPS F × D

def IR.sharedFix (ir : IR F D) : SharedFix F D := ⟨(ir.gGps, ir.gSpeed), (ir.gps, ir.speed)⟩

theorem lockedGetGps_respects {whole : GPS F × D → Prop} :
    (lockedGetGps : LockedProcedure F D Unit).Respects IR.sharedFix
      (fun shared => whole shared.global ∧ whole shared.own) none := by
  rintro seen met first rfl second same
  have speed : second.speed = first.gSpeed := congrArg (fun shared => shared.own.2) same
  have global : (second.gGps, second.gSpeed) = (first.gGps, first.gSpeed) :=
    congrArg SharedFix.global same
  refine ⟨⟨?_, ?_⟩, trivial⟩
  · change whole (second.gGps, second.gSpeed)
    rw [global]
    exact met.1
  · change whole (second.gGps, second.speed)
    rw [speed, (Prod.mk.inj global).1]
    exact met.1

theorem storeFix_respects {whole : GPS F × D → Prop} {gps : GPS F} {speed : D}
    (fix : whole (gps, speed)) :
    (storeFix gps speed : LockedProcedure F D Unit).Respects IR.sharedFix
      (fun shared => whole shared.global ∧ whole shared.own) none := by
  rintro seen met first rfl second same
  have stored : second.gSpeed = speed := congrArg (fun shared => shared.global.2) same
  have own : (second.gps, second.speed) = (first.gps, first.speed) := congrArg SharedFix.own same
  refine ⟨⟨?_, ?_⟩, trivial⟩
  · change whole (gps, second.gSpeed)
    rw [stored]
    exact fix
  · change whole (second.gps, second.speed)
    rw [own]
    exact met.2

theorem outgoing_spares (nread : Nat) :
    Spares IR.sharedFix (outgoing nread : Procedure F D _) :=
  .bind (.read _) fun _ => .require _ _

theorem sendToNextHop_spares (nextHopId : UInt32) (nread : Nat) :
    Spares IR.sharedFix (sendToNextHop nextHopId nread : Procedure F D Unit) :=
  .ite (.bind (outgoing_spares nread) fun _ => .perform fun _ => rfl) (.pure _)

theorem dataBroadcast_spares (nread : Nat) :
    Spares IR.sharedFix (dataBroadcast nread : Procedure F D Unit) :=
  .bind (.perform fun _ => rfl) fun _ => .bind (outgoing_spares nread) fun _ =>
    .perform fun _ => rfl

theorem refreshRoute_spares (dstIp nextHopId : UInt32) (untilTime : Int) :
    Spares IR.sharedFix (refreshRoute dstIp nextHopId untilTime : Procedure F D Unit) :=
  .modify fun _ => rfl

theorem fillDataBuffer_spares (order : ByteOrder) (nread : Nat) (message : DataMessage) :
    Spares IR.sharedFix (fillDataBuffer order nread message : Procedure F D Unit) :=
  .bind (.modify fun _ => rfl) fun _ => .bind (.read _) fun _ => .bind (.require _ _) fun _ =>
    .modify fun _ => rfl

end

section

variable {F D : Type} [SinglePrecision F D]

theorem recvBeacon_spares (host : Host F D) (now : Timeval) (fromAddr : UInt32)
    (received : Received) : Spares IR.sharedFix (recvBeacon host now fromAddr received) := by
  unfold recvBeacon buildNeighbor
  exact .bind (.modify fun _ => rfl) fun _ => .bind (.read _) fun _ => .bind (.read _) fun _ =>
    .ite (.bind (.read _) fun _ => .bind (.modify fun _ => rfl) fun _ =>
      .bind (.modify fun _ => rfl) fun _ => .bind (.modify fun _ => rfl) fun _ =>
        .modify fun _ => rfl) (.pure ())

theorem recvTunAfterGps_spares (host : Host F D) (received : Received) (sendFails : Bool) :
    Spares IR.sharedFix (recvTunAfterGps host received sendFails) := by
  unfold recvTunAfterGps tunSending
  refine .bind (.read _) fun opt => .bind (.read _) fun _ => ?_
  cases opt with
  | some found =>
      exact .bind (.require _ _) fun _ => .bind (.require _ _) fun _ => .bind (.read _) fun _ =>
        .bind (.require _ _) fun _ => .bind (fillDataBuffer_spares _ _ _) fun _ =>
          .perform fun _ => rfl
  | none =>
      exact .bind (.perform fun _ => rfl) fun _ => .bind (.read _) fun _ =>
        .bind (.require _ _) fun _ => .bind (fillDataBuffer_spares _ _ _) fun _ =>
          .ite (.stop _) (.perform fun _ => rfl)

theorem buildBeaconAfterGps_spares (host : Host F D) (message : BeaconMessage) :
    Spares IR.sharedFix (buildBeaconAfterGps host message) := by
  unfold buildBeaconAfterGps
  refine .bind (.modify fun ir => ?_) fun _ => .bind (.modify fun _ => rfl) fun _ =>
    .bind (.read _) fun _ => .bind (.read _) fun _ => .bind (.read _) fun _ =>
    .bind (.read _) fun _ => .pure _
  split <;> rfl

theorem lockedRecvTun_respects {whole : GPS F × D → Prop} (host : Host F D) (received : Received)
    (sendFails : Bool) :
    (lockedRecvTun host received sendFails).Respects IR.sharedFix
      (fun shared => whole shared.global ∧ whole shared.own) none :=
  (Spares.modify fun _ => rfl).respects.bind fun _ =>
    lockedGetGps_respects.bind fun _ => (recvTunAfterGps_spares host received sendFails).respects

theorem lockedSendBeacon_respects {whole : GPS F × D → Prop} (host : Host F D)
    (stack : BeaconMessage) :
    (lockedSendBeacon host stack).Respects IR.sharedFix
      (fun shared => whole shared.global ∧ whole shared.own) none := by
  refine Respects.bind ?_ fun beacon => (Spares.perform fun _ => rfl).respects
  exact (Spares.read _).respects.bind fun _ => (Spares.read _).respects.bind fun _ =>
    lockedGetGps_respects.bind fun _ => (buildBeaconAfterGps_spares host _).respects

end

section

variable {F D : Type} [DoublePrecision D]

theorem routeMakeup_spares (host : Host F D) (now : Timeval) (gaussrand : UInt32 → Nat → D)
    (dstGps : GPS F) : Spares IR.sharedFix (routeMakeup host now gaussrand dstGps) := by
  unfold routeMakeup
  refine .bind (.perform fun _ => rfl) fun _ => .bind (.read _) fun _ => .bind (.read _) fun _ =>
    .bind (.read _) fun _ => .bind (.require _ _) fun _ => .bind (.modify fun _ => rfl) fun _ =>
    .bind (.require _ _) fun _ => .ite ?_ (.pure _)
  exact .bind (.require _ _) fun _ => .ite (.pure _) (.pure _)

variable [SinglePrecision F D]

theorem isLegal_spares (host : Host F D) (now : Timeval) (nghbrIp : UInt32) (dstGps : GPS F) :
    Spares IR.sharedFix (isLegal host now nghbrIp dstGps) := by
  unfold isLegal
  refine .bind (.perform fun _ => rfl) fun _ => .bind (.read _) fun found => ?_
  cases found with
  | none => exact .pure false
  | some entry =>
      refine .bind (.read _) fun _ => .ite ?_ (.bind (.read _) fun _ => .pure _)
      exact .bind (.modify fun _ => rfl) fun _ => .pure false

theorem forwarding_spares (host : Host F D) (readings : Readings D) (dstIp : UInt32)
    (dstGps : GPS F) (nread : Nat) :
    Spares IR.sharedFix (forwarding host readings dstIp dstGps nread) := by
  unfold forwarding
  refine .bind (.read _) fun it => .bind (.read _) fun untilTime => ?_
  cases it with
  | none =>
      refine .ite (dataBroadcast_spares nread) ?_
      refine .bind (routeMakeup_spares _ _ _ _) fun _ => .bind (.require _ _) fun _ => ?_
      exact .ite (.bind (.modify fun _ => rfl) fun _ => sendToNextHop_spares _ _)
        (sendToNextHop_spares _ _)
  | some entry =>
      refine .ite (.ite (dataBroadcast_spares nread) ?_) ?_
      · refine .bind (routeMakeup_spares _ _ _ _) fun _ => ?_
        exact .ite (.bind (refreshRoute_spares _ _ _) fun _ => sendToNextHop_spares _ _)
          (sendToNextHop_spares _ _)
      · refine .bind (isLegal_spares _ _ _ _) fun _ => .ite (sendToNextHop_spares _ _) ?_
        exact .bind (routeMakeup_spares _ _ _ _) fun _ => .bind (refreshRoute_spares _ _ _)
          fun _ => sendToNextHop_spares _ _

theorem recvData_spares (host : Host F D) (readings : Readings D) (received : Received)
    (writeFails : Bool) : Spares IR.sharedFix (recvData host readings received writeFails) := by
  unfold recvData
  refine .bind (.modify fun _ => rfl) fun _ => .bind (.read _) fun _ => .bind (.read _) fun _ =>
    .bind (.read _) fun _ => .ite (.bind (.require _ _) fun _ => .ite ?_ ?_) (.pure ())
  · exact .ite (.stop _) (.perform fun _ => rfl)
  · exact .bind (.read _) fun _ => .bind (.modify fun _ => rfl) fun _ =>
      .ite (forwarding_spares _ _ _ _ _) (.pure ())

/-- The main loop, and `gps_thread` with what the receiver brings it. -/
inductive NodeWork (host : Host F D) (reads : Set (GpsRead D)) :
    NodeThread → LockedProcedure F D Unit → Prop
  | operation (operation : Operation D) :
      NodeWork host reads .main (lockedOperation host operation)
  | round (read : GpsRead D) (brought : read ∈ reads) :
      NodeWork host reads .gps (gpsThreadRound read)

abbrev GpsStep (host : Host F D) (reads : Set (GpsRead D)) :=
  Threads.Step (NodeWork host reads) (HandlesAlarm host)

/-- A position and a speed of one fix that passed the test, or of the start. -/
def OfOneFix (reads : Set (GpsRead D)) (start : SharedFix F D) (fix : GPS F × D) : Prop :=
  fix = start.global ∨ fix = start.own ∨
    ∃ data, .read data ∈ reads ∧ data.isFix = true ∧ fix = (data.gps, data.speed)

theorem nodeWork_respects {host : Host F D} {reads : Set (GpsRead D)} {start : SharedFix F D}
    (thread : NodeThread) (program : LockedProcedure F D Unit)
    (chosen : NodeWork host reads thread program) :
    program.Respects IR.sharedFix
      (fun shared => OfOneFix reads start shared.global ∧ OfOneFix reads start shared.own)
      none := by
  cases chosen with
  | operation operation =>
      cases operation with
      | recvTun received sendFails => exact lockedRecvTun_respects host received sendFails
      | recvBeacon now fromAddr received =>
          exact (recvBeacon_spares host now fromAddr received).respects
      | recvData readings received writeFails =>
          exact (recvData_spares host readings received writeFails).respects
  | round read brought =>
      cases read with
      | timeout => trivial
      | failed => trivial
      | read data =>
          change (if data.isFix then storeFix data.gps data.speed else pure ()).Respects _ _ none
          by_cases fix : data.isFix
          · rw [if_pos fix]
            exact storeFix_respects (Or.inr (Or.inr ⟨data, brought, fix, rfl⟩))
          · rw [if_neg fix]
            trivial

/-- However the two threads and the signals interleave, whenever the mutex is free the shared
position and speed are those of one fix that passed the test, and so are the copies that
`get_gps` has taken. -/
theorem run_fixesWhole {host : Host F D} {reads : Set (GpsRead D)} {ir : IR F D}
    {history : List (Threads NodeThread (IR F D) (Event F) Stop × Threads.Move NodeThread)}
    {last : Threads NodeThread (IR F D) (Event F) Stop}
    (run : History (GpsStep host reads) (.idle ir) history last)
    (free : last.owner = none) :
    OfOneFix reads ir.sharedFix (last.state.gGps, last.state.gSpeed) ∧
      OfOneFix reads ir.sharedFix (last.state.gps, last.state.speed) := by
  refine Threads.run_whole nodeWork_respects ?_
    ⟨Or.inl rfl, Or.inr (Or.inl rfl)⟩ run free
  rintro program ⟨stack⟩
  exact lockedSendBeacon_respects host stack

end

def berlin : GpsData Float := ⟨statusFix, mode3D, 52.5, 13.4, 2⟩

/-- `gps_thread` stores the fix and gives the mutex back. -/
theorem berlin_fixesWhole :
    ∃ last : Threads NodeThread (IR Float32 Float) (Event Float32) Stop,
      last.owner = none ∧ last.state.gGps = berlin.gps ∧
        OfOneFix {.read berlin} loneNode.sharedFix (last.state.gGps, last.state.gSpeed) ∧
        OfOneFix {.read berlin} loneNode.sharedFix (last.state.gps, last.state.speed) := by
  have fix : berlin.isFix = true := by decide +kernel
  have work : NodeWork Host.shortHistories {.read berlin} .gps (gpsThreadRound (.read berlin)) :=
    .round _ rfl
  change NodeWork _ _ _ (if berlin.isFix then storeFix berlin.gps berlin.speed else pure ()) at work
  rw [if_pos fix] at work
  have started : History (GpsStep Host.shortHistories {.read berlin}) (.idle loneNode) _ _ :=
    (History.start _).next (.start .gps) (.start _ NodeThread.gps _ rfl work)
  have locked := started.next (.code .gps) (.code _ NodeThread.gps _ _ _ _ rfl (.lock _ _))
  have speed := locked.next (.code .gps)
    (.code _ NodeThread.gps _ _ _ _ rfl (.statement _ _ _ _))
  have position := speed.next (.code .gps)
    (.code _ NodeThread.gps _ _ _ _ rfl (.statement _ _ _ _))
  have unlocked := position.next (.code .gps)
    (.code _ NodeThread.gps _ _ _ _ rfl (.unlock _ _ _))
  exact ⟨_, rfl, rfl, run_fixesWhole unlocked rfl⟩

end TunVideo
