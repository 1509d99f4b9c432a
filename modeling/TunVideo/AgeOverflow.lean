import TunVideo.TaskClock

set_option autoImplicit false

namespace TunVideo

def FitsInt (value : Int) : Prop := -2 ^ 31 ≤ value ∧ value < 2 ^ 31

instance (value : Int) : Decidable (FitsInt value) := inferInstanceAs (Decidable (_ ∧ _))

/-- `until_time - (int)GetTimestamp()` before it has to fit in an `int`. -/
def ageDifference (untilTime : Int) (timestamp : UInt32) : Int :=
  untilTime - toInt32 timestamp.toNat

/-- What `build_neighbor` and `Forwarding` store at a clock reading. -/
def stamp (beginTime : Int) (last : Timeval) : UInt32 :=
  UInt32.ofInt (untilTime beginTime last)

/-- The milliseconds between the insertion of an entry and its test. -/
def trueAge (beginTime : Int) (last now : Timeval) : Int :=
  millis beginTime now - millis beginTime last

/-- How often the `int` clock has wrapped around. -/
def wraps (beginTime : Int) (now : Timeval) : Int :=
  (millis beginTime now + 2 ^ 31) / 2 ^ 32

/-- The age test is defined, and tells whether the entry is older than its time to live. -/
structure AgeTestExact (beginTime : Int) (last now : Timeval) : Prop where
  noOverflow : FitsInt (ageDifference (untilTime beginTime now) (stamp beginTime last))
  exact : olderThan ttlNeighborTable (untilTime beginTime now) (stamp beginTime last) = true ↔
    ttlNeighborTable < trueAge beginTime last now

theorem toInt32_eq (value : Int) :
    toInt32 value = value - 2 ^ 32 * ((value + 2 ^ 31) / 2 ^ 32) := by
  rw [toInt32, Int.bmod_eq_emod]
  split <;> omega

theorem untilTime_wraps (beginTime : Int) (now : Timeval) :
    untilTime beginTime now = millis beginTime now - 2 ^ 32 * wraps beginTime now := by
  rw [untilTime_eq, toInt32_eq]
  rfl

theorem stamp_cast (beginTime : Int) (last : Timeval) :
    toInt32 (stamp beginTime last).toNat = untilTime beginTime last := by
  simp only [stamp, untilTime_eq, toInt32, ofInt_toNat, Int.emod_bmod, Int.bmod_bmod]

theorem ageDifference_eq (beginTime : Int) (last now : Timeval) :
    ageDifference (untilTime beginTime now) (stamp beginTime last) =
      trueAge beginTime last now - 2 ^ 32 * (wraps beginTime now - wraps beginTime last) := by
  rw [ageDifference, stamp_cast, untilTime_wraps, untilTime_wraps, trueAge]
  omega

/-- With wrap-around subtraction the test would be right for every age that an `int` can hold. -/
theorem olderThan_stamp_iff {beginTime : Int} {last now : Timeval}
    (least : 0 ≤ trueAge beginTime last now) (most : trueAge beginTime last now ≤ 2 ^ 31 - 1) :
    olderThan ttlNeighborTable (untilTime beginTime now) (stamp beginTime last) = true ↔
      ttlNeighborTable < trueAge beginTime last now := by
  have stored := age_stored (millis beginTime now) (millis beginTime last)
  have exact : age (untilTime beginTime now) (stamp beginTime last) =
      trueAge beginTime last now := by
    rw [untilTime_eq, stamp, untilTime_eq, stored]
    exact toInt32_of_range least (Int.lt_of_le_sub_one most)
  rw [olderThan_eq_true, exact]

/-- The test is exact if and only if the `int` clock has not wrapped around since the insertion:
otherwise the subtraction overflows, however young the entry is. -/
theorem ageTest_exact_iff (beginTime : Int) (last now : Timeval)
    (least : 0 ≤ trueAge beginTime last now) (most : trueAge beginTime last now ≤ 2 ^ 31 - 1) :
    AgeTestExact beginTime last now ↔ wraps beginTime now = wraps beginTime last := by
  have difference := ageDifference_eq beginTime last now
  have test := olderThan_stamp_iff least most
  constructor
  · intro exact
    obtain ⟨lower, upper⟩ := exact.noOverflow
    omega
  · intro same
    constructor
    · constructor
      · omega
      · omega
    · exact test

/-- An entry of three seconds is kept, and one of three seconds and a millisecond is not. -/
theorem ageTest_exact_young :
    AgeTestExact 0 ⟨0, 0⟩ ⟨3, 1000⟩ ↔ wraps 0 ⟨3, 1000⟩ = wraps 0 ⟨0, 0⟩ :=
  ageTest_exact_iff 0 ⟨0, 0⟩ ⟨3, 1000⟩ (by decide) (by decide)

/-- After 24 days, 20 hours and 31 minutes the age of one millisecond overflows. -/
theorem ageTest_overflows : ¬AgeTestExact 0 ⟨2147483, 647000⟩ ⟨2147483, 648000⟩ := by
  intro exact
  have lower := exact.noOverflow.1
  rw [ageDifference_eq] at lower
  revert lower
  decide

end TunVideo
