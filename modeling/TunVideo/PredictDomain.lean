import TunVideo.ElapsedSeconds
import TunVideo.RoutingState
import TunVideo.TaskClock

set_option autoImplicit false

namespace TunVideo

open Float.Model FloatFormat Program SinglePrecision

namespace Binary32

theorem unpack_abs (x : Float32) : x.abs.toModel.unpack = x.toModel.unpack.abs := by
  apply unpack_packed
  have known := canonical x
  cases number : x.toModel.unpack with
  | finite => rwa [number] at known
  | _ => trivial

theorem lt_iff (x y : Float) :
    x < y ↔ UnpackedFloat.lt x.toModel.unpack y.toModel.unpack = true :=
  decide_eq_true_iff

theorem unpack_epsinon : ∃ positive, (epsinon : Float).toModel.unpack =
    .finite .positive 6044629098073146 (-79) positive :=
  ⟨_, rfl⟩

theorem canonical64 (x : Float) : Canonical Format.binary64 x.toModel.unpack :=
  unpack_canonical (by decide) _

theorem add_epsinon_not_isZero {x : Float32}
    (near : SinglePrecision.toDouble x.abs < (epsinon : Float)) :
    ¬IsZero (SinglePrecision.toDouble x + epsinon : Float).toModel.unpack := by
  obtain ⟨positive, literal⟩ := unpack_epsinon
  have known := canonical64 epsinon
  have wide := widen_canonical (canonical x)
  have less := (lt_iff _ _).mp near
  change UnpackedFloat.lt (toDouble x.abs).toModel.unpack _ = true at less
  change ¬IsZero (Float.Model.pack (UnpackedFloat.add Format.binary64
    (toDouble x).toModel.unpack (epsinon : Float).toModel.unpack)).unpack
  rw [unpack_toDouble, unpack_abs, literal] at less
  rw [literal] at known
  rw [unpack_toDouble, literal]
  cases number : x.toModel.unpack with
  | notANumber =>
      rw [number] at less
      cases (less : false = true)
  | infinity sign =>
      rw [number] at less
      cases (less : false = true)
  | zero sign =>
      have sum : UnpackedFloat.add Format.binary64 (widen (.zero sign))
          (.finite .positive 6044629098073146 (-79) positive) =
            .finite .positive 6044629098073146 (-79) positive := rfl
      rw [sum, unpack_packed64 known]
      rintro ⟨_, zero⟩
      cases zero
  | finite sign mantissa exponent some =>
      rw [number] at less wide
      have most : ((6044629098073146 : Nat) : ℚ) * 2 ^ (-79 : Int) < 2 ^ (0 : Int) := by norm_num
      have sum := @add_between_of_lt Format.binary64 sign _ _ _ _ 0 _ _ wide known less most
        (by decide)
      exact (between_packed64 sum).not_isZero

end Binary32

/-- The divisor of the slope between two positions is a zero. -/
def DividesByZero (p1 p2 : GPS Float32) : Prop :=
  if toDouble (fabs (p1.x - p2.x)) < (epsinon : Float) then
    IsZero (toDouble (p1.x - p2.x) + epsinon : Float).toModel.unpack
  else IsZero (p1.x - p2.x).toModel.unpack

theorem slope_divides (p1 p2 : GPS Float32) : ¬DividesByZero p1 p2 := by
  unfold DividesByZero
  split
  · rename_i near
    exact Binary32.add_epsinon_not_isZero near
  · rename_i far
    rintro ⟨sign, zero⟩
    obtain ⟨positive, literal⟩ := Binary32.unpack_epsinon
    apply far
    apply (Binary32.lt_iff _ _).mpr
    change UnpackedFloat.lt (Binary32.toDouble (p1.x - p2.x).abs).toModel.unpack _ = true
    rw [Binary32.unpack_toDouble, Binary32.unpack_abs, zero, literal]
    rfl

theorem age_bounds (untilTime : Int) (timestamp : UInt32) :
    -2 ^ 31 ≤ age untilTime timestamp ∧ age untilTime timestamp < 2 ^ 31 := by
  rw [age, toInt32]
  have lower := Int.le_bmod (m := 2 ^ 32) (x := untilTime - toInt32 timestamp.toNat) (by decide)
  have upper := Int.bmod_lt (m := 2 ^ 32) (x := untilTime - toInt32 timestamp.toNat) (by decide)
  omega

/-- The slopes of so many seconds fit in `k` unless the time is negative. -/
theorem caseNum_elapsed {elapsed : Int} (least : -2 ^ 31 ≤ elapsed)
    (live : elapsed ≤ ttlNeighborTable) :
    ∃ count, caseNum Float32 (UInt32.ofInt elapsed) = some count ∧
      (count.toNat ≤ 13 ↔ 0 ≤ elapsed) := by
  have live : elapsed ≤ 3000 := live
  have word := ofInt_toNat elapsed
  by_cases forward : 0 ≤ elapsed
  · obtain ⟨count, counted, few⟩ := caseNum_recent
      (show (UInt32.ofInt elapsed).toNat ≤ 3000 by omega)
    exact ⟨count, counted, iff_of_true (by omega) forward⟩
  · obtain ⟨count, counted, many⟩ := caseNum_negative
      (show 2 ^ 31 ≤ (UInt32.ofInt elapsed).toNat by omega)
    exact ⟨count, counted, iff_of_false (by omega) forward⟩

/-- `AdvancedPredict` stays in its array unless it has to predict the past from a long history. -/
theorem advancedPredict_isSome_iff (gaussrand : Nat → Float) {q : List (GPS Float32)}
    (nonempty : 1 ≤ q.length) (v : Speed Float32) {elapsed : Int} (least : -2 ^ 31 ≤ elapsed)
    (live : elapsed ≤ ttlNeighborTable) :
    (advancedPredict gaussrand q (UInt32.ofInt elapsed) v).isSome ↔
      (8 ≤ q.length → 0 ≤ elapsed) := by
  obtain ⟨count, counted, fits⟩ := caseNum_elapsed least live
  by_cases long : 8 ≤ q.length
  · obtain ⟨xInc, start, begins, starts⟩ := predictionStart_long long v
    rw [advancedPredict_long gaussrand long, counted, Option.bind_some, begins,
      Option.bind_some, Option.isSome_map, seconds_isSome_iff, starts.room long, starts.ptr, ← fits]
    constructor
    · intro inside _
      by_contra many
      have last := inside 13 (by omega)
      omega
    · intro few second bound
      have few := few long
      omega
  · obtain ⟨last, latest⟩ : ∃ last, q.getLast? = some last :=
      ⟨_, List.getLast?_eq_some_getLast (List.ne_nil_of_length_pos nonempty)⟩
    have counted : toUInt32 (ofDouble (wordToDouble Float32 (UInt32.ofInt elapsed) / 1000.0) :
        Float32) = some count := counted
    rw [advancedPredict_short gaussrand (by omega), counted, Option.bind_some, shortPredict, latest]
    simp [long]

section

variable {host : Host Float32 Float}

/-- Every entry has at least the position that it was inserted with. -/
theorem run_historyNonempty (run : NodeRun host) {vip : UInt32} {entry : NeighborEntry Float32}
    (held : run.last.neighborTable[vip]? = some entry) : 1 ≤ entry.gpsq.length := by
  apply run.neighbor_invariant _ held
  intro untilTime message survivor before
  cases survivor with
  | none => exact Nat.le_refl 1
  | some entry =>
      change 1 ≤ (pushHistory entry.gpsq _).length
      rw [pushHistory, List.length_append, List.length_singleton]
      exact Nat.le_add_left 1 _

/-- In a call of `RouteMakeup` every prediction accesses `k` inside its bounds, and no slope
divides by zero. -/
structure StaysInDomain (host : Host Float32 Float) (now : Timeval)
    (gaussrand : UInt32 → Nat → Float) (ir : IR Float32 Float) (dstGps : GPS Float32) : Prop where
  accesses : ((routeMakeup host.predicting now gaussrand dstGps).run ir).result ≠
    .error .outOfBounds
  divisors : ∀ (vip : UInt32) (entry : NeighborEntry Float32),
    ir.neighborTable[vip]? = some entry →
    olderThan ttlNeighborTable (untilTime ir.beginTime now) entry.timestamp = false →
    ∀ pair ∈ (entry.gpsq.take 7).zip (entry.gpsq.tail.take 7), ¬DividesByZero pair.1 pair.2

/-- For no entry with a long history does the clock read earlier than at its last beacon. -/
def NotSteppedBack (now : Timeval) (ir : IR Float32 Float) : Prop :=
  ∀ (vip : UInt32) (entry : NeighborEntry Float32), ir.neighborTable[vip]? = some entry →
    olderThan ttlNeighborTable (untilTime ir.beginTime now) entry.timestamp = false →
    8 ≤ entry.gpsq.length → 0 ≤ age (untilTime ir.beginTime now) entry.timestamp

theorem routeMakeup_staysInDomain_iff {now : Timeval} {gaussrand : UInt32 → Nat → Float}
    {ir : IR Float32 Float} {dstGps : GPS Float32}
    (nonempty : ∀ (vip : UInt32) (entry : NeighborEntry Float32),
      ir.neighborTable[vip]? = some entry → 1 ≤ entry.gpsq.length) :
    StaysInDomain host now gaussrand ir dstGps ↔ NotSteppedBack now ir := by
  have predicted (vip : UInt32) (entry : NeighborEntry Float32)
      (held : ir.neighborTable[vip]? = some entry)
      (live : olderThan ttlNeighborTable (untilTime ir.beginTime now) entry.timestamp = false) :=
    advancedPredict_isSome_iff (gaussrand vip) (nonempty vip entry held) entry.speed
      (age_bounds _ entry.timestamp).1 (olderThan_eq_false.mp live)
  constructor
  · intro stays vip entry held live
    have all := collect_isSome_iff.mp (routeMakeup_inBounds_iff.mp stays.accesses)
    exact (predicted vip entry held live).mp (all vip entry held live)
  · intro forward
    constructor
    · apply routeMakeup_inBounds_iff.mpr
      apply collect_isSome_iff.mpr
      intro vip entry held live
      exact (predicted vip entry held live).mpr (forward vip entry held live)
    · intro vip entry held live pair _
      exact slope_divides pair.1 pair.2

/-- Whatever a node has heard, `RouteMakeup` leaves the array of the predictor if and only if
the clock has been stepped back behind the last beacon of a neighbour with a long history. It is
called with the table of the run, or with what `IsLegal` has left of it. -/
theorem run_staysInDomain_iff (run : NodeRun host.predicting) {ir : IR Float32 Float}
    (table : ∀ (vip : UInt32) (entry : NeighborEntry Float32),
      ir.neighborTable[vip]? = some entry → run.last.neighborTable[vip]? = some entry)
    (now : Timeval) (gaussrand : UInt32 → Nat → Float) (dstGps : GPS Float32) :
    StaysInDomain host now gaussrand ir dstGps ↔ NotSteppedBack now ir :=
  routeMakeup_staysInDomain_iff fun vip entry held =>
    run_historyNonempty run (table vip entry held)

end

def steadyBeacon : BeaconMessage := ⟨0x0200000A, 0x0200A8C0, 1, 0, 0, 0⟩

/-- A node that has heard it so many times within a millisecond, one second after the start. -/
def heardTimes : Nat → NodeRun Host.shortHistories.predicting
  | 0 => .atStart _ loneNode_initial
  | count + 1 => (heardTimes count).hear ⟨1, 0⟩ 0x0200A8C0 steadyBeacon

structure Heard (count : Nat) (ir : IR Float32 Float) : Prop where
  phyIp : ir.phyIp = loneNode.phyIp
  beginTime : ir.beginTime = 0
  history : ((ir.neighborTable[(0x0200000A : UInt32)]?).map fun entry =>
    entry.gpsq.length).getD 0 = count
  stamped : ∀ (vip : UInt32) (entry : NeighborEntry Float32),
    ir.neighborTable[vip]? = some entry → entry.timestamp = 1000

/-- One more beacon finds every entry fresh, and makes the history longer by one. -/
theorem Heard.next {count : Nat} {ir : IR Float32 Float} (heard : Heard count ir)
    (few : count < 10) (buffer : Buffer frameSize) (forward : ForwardTable Float32) :
    Heard (count + 1)
      { ir with
        beaconBuffer := buffer
        forwardTable := forward
        neighborTable :=
          neighborAfter Host.shortHistories.predicting 1000 steadyBeacon ir.neighborTable } where
  phyIp := heard.phyIp
  beginTime := heard.beginTime
  history := by
    have fresh : MapSweep.sweep (olderThan 5 1000 ·.timestamp) ir.neighborTable =
        ir.neighborTable := by
      apply MapSweep.sweep_of_fresh
      intro vip entry held
      rw [heard.stamped vip entry held]
      decide
    have length := heard.history
    change (((ir.neighborTable[steadyBeacon.virIp]?).map _).getD 0) = _ at length
    change (((neighborAfter _ 1000 steadyBeacon _)[steadyBeacon.virIp]?).map _).getD 0 = _
    rw [getElem?_neighborAfter_self, fresh]
    cases old : ir.neighborTable[steadyBeacon.virIp]? with
    | none =>
        rw [old] at length
        rw [← length]
        rfl
    | some entry =>
        rw [old] at length
        have length : entry.gpsq.length = count := length
        change (pushHistory entry.gpsq _).length = count + 1
        rw [pushHistory, if_neg (by omega), List.length_append, length, List.length_singleton]
  stamped := by
    intro vip entry held
    rcases neighborAfter_cases held with ⟨-, rfl⟩ | ⟨-, listed, -⟩
    · rfl
    · exact heard.stamped vip entry listed

theorem heardTimes_heard {count : Nat} (few : count ≤ 10) :
    Heard count (heardTimes count).last := by
  induction count with
  | zero =>
      refine ⟨rfl, rfl, ?_, ?_⟩
      · simp [heardTimes, NodeRun.atStart, loneNode, IR.afterInit]
      · simp [heardTimes, NodeRun.atStart, loneNode, IR.afterInit]
  | succ count ih =>
      have before := ih (Nat.le_of_succ_le few)
      have foreign : (0x0200A8C0 : UInt32) ≠ (heardTimes count).last.phyIp := by
        rw [before.phyIp]
        decide
      have reading : untilTime 0 ⟨1, 0⟩ = 1000 := by decide
      rw [heardTimes, NodeRun.hear_last _ _ foreign, before.beginTime, reading]
      exact before.next few _ _

theorem heardTimes_notSteppedBack : NotSteppedBack ⟨1, 0⟩ (heardTimes 8).last := by
  have heard := heardTimes_heard (show 8 ≤ 10 by decide)
  intro vip entry held _ _
  rw [heard.beginTime, heard.stamped vip entry held]
  decide

theorem heardTimes_staysInDomain :
    StaysInDomain .shortHistories ⟨1, 0⟩ (fun _ _ => 0) (heardTimes 8).last ⟨1, 0⟩ :=
  (run_staysInDomain_iff (heardTimes 8) (fun _ _ held => held) ⟨1, 0⟩ (fun _ _ => 0) ⟨1, 0⟩).mpr
    heardTimes_notSteppedBack

/-- One millisecond back is more than four million seconds forward. -/
theorem steppedBack_leavesArray :
    ¬∀ (run : NodeRun Host.shortHistories.predicting) (now : Timeval)
      (gaussrand : UInt32 → Nat → Float) (dstGps : GPS Float32),
      StaysInDomain .shortHistories now gaussrand run.last dstGps := by
  intro stays
  have heard := heardTimes_heard (show 8 ≤ 10 by decide)
  obtain ⟨entry, held, length⟩ : ∃ entry,
      (heardTimes 8).last.neighborTable[(0x0200000A : UInt32)]? = some entry ∧
        entry.gpsq.length = 8 := by
    have history := heard.history
    cases listed : (heardTimes 8).last.neighborTable[(0x0200000A : UInt32)]? with
    | none =>
        rw [listed] at history
        cases history
    | some entry =>
        rw [listed] at history
        exact ⟨entry, rfl, history⟩
  have forward := (routeMakeup_staysInDomain_iff fun vip entry held =>
    run_historyNonempty (heardTimes 8) held).mp
      (stays (heardTimes 8) ⟨0, 999000⟩ (fun _ _ => 0) ⟨1, 0⟩)
  have later := forward _ entry held
  rw [heard.beginTime, heard.stamped _ entry held, length] at later
  exact absurd (later (by decide) (by decide)) (by decide)

end TunVideo
