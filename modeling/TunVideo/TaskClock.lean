import TunVideo.NextHop
import TunVideo.RoutingState

set_option autoImplicit false

namespace TunVideo

open Program

/-- Milliseconds since `begin_time`, before they are stored in an `int`. -/
def millis (beginTime : Int) (now : Timeval) : Int :=
  (now.tvSec - beginTime) * 1000 + now.tvUsec.tdiv 1000

theorem untilTime_eq (beginTime : Int) (now : Timeval) :
    untilTime beginTime now = toInt32 (millis beginTime now) := rfl

theorem toInt32_of_range {value : Int} (least : 0 ≤ value) (most : value < 2 ^ 31) :
    toInt32 value = value := by
  rw [toInt32]
  exact Int.bmod_eq_of_le (by omega) (by omega)

/-- A reading that fits in an `int` is stored in a timestamp as it is. -/
theorem timestamp_toNat {value : Int} (least : 0 ≤ value) (most : value < 2 ^ 31) :
    ((UInt32.ofInt (toInt32 value)).toNat : Int) = value := by
  rw [toInt32_of_range least most, UInt32.ofInt, UInt32.toNat_ofNat']
  omega

/-- As long as the clock fits in an `int`, the age of an entry is what it seems. -/
theorem age_of_range {value : Int} {timestamp : UInt32} (past : (timestamp.toNat : Int) ≤ value)
    (most : value < 2 ^ 31) : age (toInt32 value) timestamp = value - timestamp.toNat := by
  have stored : toInt32 timestamp.toNat = timestamp.toNat :=
    toInt32_of_range (by omega) (by omega)
  rw [age, toInt32_of_range (by omega) most, stored, toInt32_of_range (by omega) (by omega)]

theorem ofInt_toNat (value : Int) :
    ((UInt32.ofInt value).toNat : Int) = value % (2 ^ 32 : Nat) := by
  rw [UInt32.ofInt, UInt32.toNat_ofNat']
  omega

/-- However often the clock has wrapped, an age is the time since the reading was stored. -/
theorem age_stored (now last : Int) :
    age (toInt32 now) (UInt32.ofInt (toInt32 last)) = toInt32 (now - last) := by
  simp only [age, toInt32, ofInt_toNat, Int.emod_bmod, Int.sub_bmod_bmod, Int.bmod_sub_bmod]

section

variable {F D : Type}

/-- What a node can do: the steps of its loop, what happens beside it, and the routing
functions on their own. -/
inductive Task (F D : Type) where
  | node (chosen : Operation D ⊕ Activity F D)
  | routeMakeup (now : Timeval) (gaussrand : UInt32 → Nat → D) (dstGps : GPS F)
  | calNexHop (now : Timeval) (dstGps : GPS F)
  | isLegal (now : Timeval) (nghbrIp : UInt32) (dstGps : GPS F)

def Task.readings : Task F D → List Timeval
  | node (.inl (.recvBeacon now _ _)) => [now]
  | node (.inl (.recvData readings _ _)) =>
      [readings.forwarding, readings.isLegal, readings.routeMakeup]
  | node _ => []
  | routeMakeup now _ _ => [now]
  | calNexHop now _ => [now]
  | isLegal now _ _ => [now]

variable [DoublePrecision D] [SinglePrecision F D]

def Task.procedure (host : Host F D) : Task F D → Procedure F D Unit
  | node chosen => stepProcedure host chosen
  | routeMakeup now gaussrand dstGps => do
      let _ ← TunVideo.routeMakeup host now gaussrand dstGps
  | calNexHop now dstGps => do
      let _ ← TunVideo.calNexHop host now dstGps
  | isLegal now nghbrIp dstGps => do
      let _ ← TunVideo.isLegal host now nghbrIp dstGps

/-- Each of the two selections erases the expired neighbours. -/
def purgedRouting (now : Timeval) (ir : IR F D) : RoutingState F :=
  { ir.routing with
    neighborTable := MapSweep.sweep
      (olderThan ttlNeighborTable (untilTime ir.beginTime now) ·.timestamp) ir.neighborTable }

variable {host : Host F D} {now : Timeval} {dstGps : GPS F} {ir : IR F D}

theorem routeMakeup_routing {gaussrand : UInt32 → Nat → D}
    (completed : ((Task.procedure host (.routeMakeup now gaussrand dstGps)).run ir).result =
      .ok ()) :
    ((Task.procedure host (.routeMakeup now gaussrand dstGps)).run ir).state.routing =
      purgedRouting now ir := by
  unfold Task.procedure at completed ⊢
  rw [run_bind, routeMakeup_run] at completed ⊢
  cases chosen : routeChoice host now gaussrand ir dstGps with
  | none =>
      rw [chosen] at completed
      cases completed
  | some choice =>
      simp only [Outcome.bind_ok, Outcome.after_state, run_pure, IR.routing, purgedRouting,
        (routeChoice_spec chosen).1]

theorem calNexHop_routing :
    ((Task.procedure host (.calNexHop now dstGps)).run ir).state.routing =
      purgedRouting now ir := by
  unfold Task.procedure
  rw [run_bind, calNexHop_run]
  rfl

theorem isLegal_routing {nghbrIp : UInt32} :
    ((Task.procedure host (.isLegal now nghbrIp dstGps)).run ir).state.routing =
      { ir.routing with neighborTable := legalTable now ir nghbrIp } := by
  unfold Task.procedure
  rw [run_bind, isLegal_run]
  rfl

/-- A task that completes, at readings that do not go back. -/
structure ClockedStep (host : Host F D) (before : IR F D × Int) (task : Task F D)
    (after : IR F D × Int) : Prop where
  ascending : (before.2 :: task.readings.map (millis before.1.beginTime)).Pairwise (· ≤ ·)
  clock : after.2 = (task.readings.map (millis before.1.beginTime)).getLastD before.2
  completed : ((task.procedure host).run before.1).result = .ok ()
  same : ((task.procedure host).run before.1).state = after.1

theorem ClockedStep.reading {before after : IR F D × Int} {task : Task F D}
    (step : ClockedStep host before task after) {now : Timeval} (member : now ∈ task.readings) :
    before.2 ≤ millis before.1.beginTime now ∧ millis before.1.beginTime now ≤ after.2 := by
  obtain ⟨first, rest⟩ := List.pairwise_cons.mp step.ascending
  have listed : millis before.1.beginTime now ∈ task.readings.map (millis before.1.beginTime) :=
    List.mem_map.mpr ⟨now, member, rfl⟩
  refine ⟨first _ listed, ?_⟩
  rw [step.clock]
  generalize task.readings.map (millis before.1.beginTime) = readings at rest listed ⊢
  cases readings using List.reverseRecOn with
  | nil => cases listed
  | append_singleton earlier last =>
      rw [List.getLastD_concat]
      rcases List.mem_append.mp listed with before | here
      · exact (List.pairwise_append.mp rest).2.2 _ before last List.mem_cons_self
      · exact (List.mem_singleton.mp here).le

theorem ClockedStep.later {before after : IR F D × Int} {task : Task F D}
    (step : ClockedStep host before task after) : before.2 ≤ after.2 := by
  cases readings : task.readings with
  | nil =>
      rw [step.clock, readings]
      exact le_refl _
  | cons now rest =>
      have member : now ∈ task.readings := readings ▸ List.mem_cons_self
      have bounds := step.reading member
      exact bounds.1.trans bounds.2

/-- A run of a node from a state that `init` has left, and the last reading of its clock. -/
structure ClockedRun (host : Host F D) where
  initial : IR F D
  history : List ((IR F D × Int) × Task F D)
  last : IR F D
  clock : Int
  start : initial.Initial
  steps : History (ClockedStep host) (initial, 0) history (last, clock)

def ClockedRun.atStart (host : Host F D) {initial : IR F D} (start : initial.Initial) :
    ClockedRun host where
  initial := initial
  history := []
  last := initial
  clock := 0
  start := start
  steps := .start _

def ClockedRun.step {host : Host F D} (run : ClockedRun host) (task : Task F D)
    (ascending :
      (run.clock :: task.readings.map (millis run.last.beginTime)).Pairwise (· ≤ ·))
    (completed : ((task.procedure host).run run.last).result = .ok ()) : ClockedRun host where
  initial := run.initial
  history := run.history ++ [((run.last, run.clock), task)]
  last := ((task.procedure host).run run.last).state
  clock := (task.readings.map (millis run.last.beginTime)).getLastD run.clock
  start := run.start
  steps := run.steps.next task ⟨ascending, rfl, completed, rfl⟩

end

end TunVideo
