import TunVideo.DeadReckoning
import TunVideo.PredictLoop
import TunVideo.Tables

set_option autoImplicit false

namespace TunVideo

open SinglePrecision DoublePrecision

section

variable {F D : Type} [DoublePrecision D] [SinglePrecision F D]

/-- `AdvancedPredict` on a long history, second by second. -/
structure PredictRun (gaussrand : Nat → D) (q : List (GPS F)) (time : UInt32) (v : Speed F) where
  count : UInt32
  counted : caseNum F time = some count
  xInc : Bool
  start : Prediction F D
  begins : predictionStart q v = some (xInc, start)
  reached : Nat → Prediction F D
  passes : ∀ i ≤ count.toNat, seconds gaussrand xInc i start = some (reached i)

variable {gaussrand : Nat → D} {q : List (GPS F)} {time : UInt32} {v : Speed F}

namespace PredictRun

def last (run : PredictRun gaussrand q time v) : Travel F D :=
  lastTravel gaussrand (dtime time run.count) (run.reached run.count.toNat)

def distance (run : PredictRun gaussrand q time v) : D :=
  ((List.range run.count.toNat).map fun i =>
    (secondTravel gaussrand (run.reached i)).dis).foldl (· + ·) 0.0 + run.last.dis

theorem predicts (run : PredictRun gaussrand q time v) (long : 8 ≤ q.length) :
    advancedPredict gaussrand q time v = some (advance run.xInc
      (run.reached run.count.toNat).predictK run.last.dis
      (run.reached run.count.toNat).lastPoint) := by
  rw [advancedPredict_long gaussrand long, run.counted, Option.bind_some, run.begins,
    Option.bind_some, run.passes _ (Nat.le_refl _), Option.map_some]
  rfl

theorem startsFrom (run : PredictRun gaussrand q time v) (long : 8 ≤ q.length) :
    StartsFrom q v run.start := by
  obtain ⟨xInc, start, begins, starts⟩ := predictionStart_long long v
  rw [run.begins] at begins
  obtain ⟨-, rfl⟩ := Prod.mk.inj (Option.some.inj begins)
  exact starts

theorem reached_zero (run : PredictRun gaussrand q time v) : run.reached 0 = run.start :=
  (Option.some.inj (run.passes 0 (Nat.zero_le _))).symm

/-- Each second begins with the speed at which the one before it has ended. -/
theorem reached_succ (run : PredictRun gaussrand q time v) {i : Nat}
    (inside : i < run.count.toNat) :
    (run.reached (i + 1)).vel = (secondTravel gaussrand (run.reached i)).vel := by
  have next := run.passes (i + 1) inside
  rw [seconds_add, run.passes i (Nat.le_of_lt inside), Option.bind_some] at next
  obtain ⟨after, step, rest⟩ := Option.bind_eq_some_iff.mp next
  obtain ⟨unset, -, rfl⟩ := Option.map_eq_some_iff.mp step
  rw [← Option.some.inj rest]
  rfl

/-- A run whose slopes fit in the array. -/
theorem nonempty (long : 8 ≤ q.length) {count : UInt32} (counted : caseNum F time = some count)
    (few : count.toNat ≤ 13) : Nonempty (PredictRun gaussrand q time v) := by
  obtain ⟨xInc, start, begins, starts⟩ := predictionStart_long (D := D) long v
  have defined (i : Nat) (inside : i ≤ count.toNat) :
      ∃ reached, seconds gaussrand xInc i start = some reached := by
    rw [← Option.isSome_iff_exists, seconds_isSome_iff, starts.room long, starts.ptr]
    omega
  refine ⟨count, counted, xInc, start, begins,
    fun i => (seconds gaussrand xInc i start).getD start, ?_⟩
  intro i inside
  obtain ⟨reached, run⟩ := defined i inside
  rw [run]
  rfl

end PredictRun

end

noncomputable def Speed.exact (v : Speed ℝ) : Speed Exact := ⟨.value v.x, .value v.y⟩

noncomputable def speedOf (v : Speed ℝ) : ℝ := √(v.x * v.x + v.y * v.y)

noncomputable def elapsed (time : UInt32) : ℝ := time.toNat / 1000

section

variable [ExactBits]

theorem travelStep_exact (a dt dis vel : ℝ) (draws : Nat) :
    travelStep (fun _ => Exact.value a) (.value dt)
        (⟨.value dis, .value vel, draws⟩ : Travel Exact Exact) =
      ⟨.value (dis + (vel * dt + a * dt * dt / 2)), .value (vel + a), draws + 1⟩ := by
  have half : (.value (a * dt * dt) : Exact) / 2.0 = .value (a * dt * dt / 2) := by
    rw [Exact.two_literal, Exact.value_div _ two_ne_zero]
  change (⟨.value dis + (.value (vel * dt) + .value (a * dt * dt) / 2.0), .value (vel + a),
    draws + 1⟩ : Travel Exact Exact) = _
  rw [half, Exact.value_add, Exact.value_add]

/-- Steps at constant acceleration: the speed grows by it in every step. -/
theorem travel_exact (a dt dis vel : ℝ) (steps draws : Nat) :
    (travelStep (fun _ => Exact.value a) (.value dt))^[steps]
        (⟨.value dis, .value vel, draws⟩ : Travel Exact Exact) =
      ⟨.value (dis + (steps * vel + a * (steps * (steps - 1) / 2)) * dt +
          steps * (a * dt * dt / 2)), .value (vel + steps * a), draws + steps⟩ := by
  induction steps with
  | zero => simp
  | succ steps ih =>
      rw [Function.iterate_succ_apply', ih, travelStep_exact]
      simp only [Travel.mk.injEq, Exact.value.injEq]
      push_cast
      refine ⟨?_, ?_, ?_⟩
      · ring
      · ring
      · omega

theorem initialVel_exact (v : Speed ℝ) : initialVel v.exact = Exact.value (speedOf v) :=
  Exact.within_value (add_nonneg (mul_self_nonneg _) (mul_self_nonneg _))

theorem wordToDouble_exact (word : UInt32) :
    (wordToDouble Exact word : Exact) = .value word.toNat := by
  have parts : (wordToDouble Exact word : Exact) =
      .value ((word / 65536).toNat * 65536.0 + (word % 65536).toNat) := rfl
  have whole : (word / 65536).toNat * 65536 + (word % 65536).toNat = word.toNat := by
    rw [UInt32.toNat_div, UInt32.toNat_mod]
    exact Nat.div_add_mod' word.toNat 65536
  rw [parts, ← whole]
  congr 1
  push_cast
  norm_num

theorem caseNum_exact (time : UInt32) :
    caseNum Exact time = some (UInt32.ofNat (time.toNat / 1000)) := by
  have thousand : (1000.0 : Exact) = .value 1000 := congrArg Exact.value (by norm_num)
  have bound := time.toNat_lt
  have inside : -1 < (time.toNat : ℝ) / 1000 ∧ (time.toNat : ℝ) / 1000 < 2 ^ 32 := by
    have cast : (time.toNat : ℝ) < 2 ^ 32 := by exact_mod_cast bound
    have least : (0 : ℝ) ≤ (time.toNat : ℝ) / 1000 := by positivity
    constructor
    · linarith
    · linarith
  have floor : ⌊(time.toNat : ℝ) / 1000⌋₊ = time.toNat / 1000 := by
    exact_mod_cast Nat.floor_div_eq_div (K := ℝ) time.toNat 1000
  rw [caseNum, wordToDouble_exact, thousand, Exact.value_div _ (by norm_num)]
  change (if -1 < (time.toNat : ℝ) / 1000 ∧ (time.toNat : ℝ) / 1000 < 2 ^ 32 then
    some (UInt32.ofNat ⌊(time.toNat : ℝ) / 1000⌋₊) else none) = _
  rw [if_pos inside, floor]

end

theorem toNat_wholeSeconds (time : UInt32) :
    (UInt32.ofNat (time.toNat / 1000)).toNat = time.toNat / 1000 := by
  have bound := time.toNat_lt
  rw [UInt32.toNat_ofNat']
  omega

theorem dtime_eq (time : UInt32) :
    dtime time (UInt32.ofNat (time.toNat / 1000)) = time.toNat % 1000 := by
  have bound := time.toNat_lt
  have rest : (time - UInt32.ofNat (time.toNat / 1000) * 1000).toNat = time.toNat % 1000 := by
    rw [UInt32.toNat_sub, UInt32.toNat_mul, toNat_wholeSeconds]
    change (2 ^ 32 - time.toNat / 1000 * 1000 % 2 ^ 32 + time.toNat) % 2 ^ 32 = _
    omega
  have small : 2 * (time - UInt32.ofNat (time.toNat / 1000) * 1000).toBitVec.toNat < 2 ^ 32 := by
    change 2 * (time - UInt32.ofNat (time.toNat / 1000) * 1000).toNat < 2 ^ 32
    omega
  change (time - UInt32.ofNat (time.toNat / 1000) * 1000).toBitVec.toInt.toNat = _
  rw [BitVec.toInt_eq_toNat_of_lt small, Int.toNat_natCast]
  exact rest

section

variable [ExactBits] {a : ℝ} {prediction : Prediction Exact Exact} {vel : ℝ}

theorem secondTravel_exact (running : prediction.vel = .value vel) :
    secondTravel (fun _ => Exact.value a) prediction =
      ⟨.value (vel + 4.55 * a), .value (vel + 10 * a), prediction.draws + 10⟩ := by
  rw [secondTravel, running, Exact.zero_literal]
  refine (travel_exact a 0.1 0 vel 10 prediction.draws).trans ?_
  simp only [Travel.mk.injEq, Exact.value.injEq, and_true]
  push_cast
  constructor
  · ring
  · ring

theorem lastTravel_exact (running : prediction.vel = .value vel) (steps : Nat) :
    lastTravel (fun _ => Exact.value a) steps prediction =
      ⟨.value ((steps * vel + a * (steps * (steps - 1) / 2)) * 0.001 + steps * (a * 0.0000005)),
        .value (vel + steps * a), prediction.draws + steps⟩ := by
  rw [lastTravel, running, Exact.zero_literal]
  refine (travel_exact a 0.001 0 vel steps prediction.draws).trans ?_
  simp only [Travel.mk.injEq, Exact.value.injEq, and_true]
  ring

omit [ExactBits] in
theorem foldl_exact {dis : Nat → Exact} {value : Nat → ℝ} {count : Nat}
    (known : ∀ i < count, dis i = .value (value i)) :
    ((List.range count).map dis).foldl (· + ·) 0.0 =
      Exact.value (∑ i ∈ Finset.range count, value i) := by
  induction count with
  | zero => exact Exact.zero_literal
  | succ count ih =>
      rw [List.range_succ, List.map_append, List.foldl_append,
        ih fun i inside => known i (Nat.lt_succ_of_lt inside), Finset.sum_range_succ]
      change Exact.value _ + dis count = _
      rw [known count (Nat.lt_succ_self count), Exact.value_add]

variable {q : List (GPS ℝ)} {time : UInt32} {v : Speed ℝ}

namespace PredictRun

variable (run : PredictRun (fun _ => Exact.value a) (q.map GPS.exact) time v.exact)

theorem count_exact : run.count = UInt32.ofNat (time.toNat / 1000) := by
  have counted := run.counted
  rw [caseNum_exact] at counted
  exact (Option.some.inj counted).symm

/-- In every second the speed grows by ten times the acceleration. -/
theorem vel_exact (long : 8 ≤ q.length) {i : Nat} (inside : i ≤ run.count.toNat) :
    (run.reached i).vel = .value (speedOf v + 10 * i * a) := by
  induction i with
  | zero =>
      rw [run.reached_zero, (run.startsFrom (by rwa [List.length_map])).vel, initialVel_exact,
        Nat.cast_zero, mul_zero, zero_mul, add_zero]
  | succ i ih =>
      have grown : speedOf v + 10 * i * a + 10 * a = speedOf v + 10 * (i + 1 : Nat) * a := by
        push_cast
        ring
      rw [run.reached_succ inside, secondTravel_exact (ih (Nat.le_of_succ_le inside)), grown]

theorem distance_exact (long : 8 ≤ q.length) :
    run.distance = .value (∑ i ∈ Finset.range (time.toNat / 1000),
        (speedOf v + 10 * i * a + 4.55 * a) +
      (((time.toNat % 1000 : Nat) * (speedOf v + 10 * (time.toNat / 1000 : Nat) * a) +
        a * ((time.toNat % 1000 : Nat) * ((time.toNat % 1000 : Nat) - 1) / 2)) * 0.001 +
          (time.toNat % 1000 : Nat) * (a * 0.0000005))) := by
  have count := run.count_exact
  have whole : run.count.toNat = time.toNat / 1000 := by rw [count, toNat_wholeSeconds]
  have steps : dtime time run.count = time.toNat % 1000 := by rw [count, dtime_eq]
  have each (i : Nat) (inside : i < run.count.toNat) :=
    secondTravel_exact (a := a) (run.vel_exact long (Nat.le_of_lt inside))
  have sum := foldl_exact fun i inside => congrArg Travel.dis (each i inside)
  have rest := lastTravel_exact (a := a) (run.vel_exact long (Nat.le_refl _)) (time.toNat % 1000)
  rw [distance, sum, last, steps, rest, whole]
  exact Exact.value_add _ _

theorem lastVel_exact (long : 8 ≤ q.length) :
    run.last.vel = .value (speedOf v + 10 * (time.toNat / 1000 : Nat) * a +
      (time.toNat % 1000 : Nat) * a) := by
  have count := run.count_exact
  have whole : run.count.toNat = time.toNat / 1000 := by rw [count, toNat_wholeSeconds]
  have steps : dtime time run.count = time.toNat % 1000 := by rw [count, dtime_eq]
  rw [last, steps, lastTravel_exact (run.vel_exact long (Nat.le_refl _)), whole]

end PredictRun

/-- The distances and the final speed are those of a uniformly accelerated motion. -/
structure UniformMotion
    (run : PredictRun (fun _ => Exact.value a) (q.map GPS.exact) time v.exact) : Prop where
  distance : run.distance = .value (speedOf v * elapsed time + a * elapsed time ^ 2 / 2)
  speed : run.last.vel = .value (speedOf v + a * elapsed time)

/-- `AdvancedPredict` moves the neighbour uniformly. -/
def MovesUniformly (q : List (GPS ℝ)) (v : Speed ℝ) (time : UInt32) (a : ℝ) : Prop :=
  ∃ run : PredictRun (fun _ => Exact.value a) (q.map GPS.exact) time v.exact, UniformMotion run

omit [ExactBits] in
theorem elapsed_eq (time : UInt32) :
    elapsed time = (time.toNat / 1000 : Nat) + (time.toNat % 1000 : Nat) / 1000 := by
  have split : ((1000 * (time.toNat / 1000) + time.toNat % 1000 : Nat) : ℝ) = time.toNat := by
    rw [Nat.div_add_mod]
  push_cast at split
  rw [elapsed, ← split]
  ring

/-- The speed grows by the acceleration in every step, whether the step lasts a tenth of a second
or a millisecond. -/
theorem UniformMotion.still {run : PredictRun (fun _ => Exact.value a) (q.map GPS.exact) time
    v.exact} (long : 8 ≤ q.length) (uniform : UniformMotion run) : a = 0 ∨ time = 0 := by
  have speed := uniform.speed
  rw [run.lastVel_exact long, elapsed_eq, Exact.value.injEq] at speed
  have excess : a * (9 * (time.toNat / 1000 : Nat) + 0.999 * (time.toNat % 1000 : Nat)) = 0 := by
    linear_combination speed
  rcases mul_eq_zero.mp excess with constant | none
  · exact Or.inl constant
  · have whole : (0 : ℝ) ≤ (time.toNat / 1000 : Nat) := Nat.cast_nonneg _
    have rest : (0 : ℝ) ≤ (time.toNat % 1000 : Nat) := Nat.cast_nonneg _
    have noSecond : time.toNat / 1000 = 0 := by
      have zero : ((time.toNat / 1000 : Nat) : ℝ) = 0 := by linarith
      exact_mod_cast zero
    have noMilli : time.toNat % 1000 = 0 := by
      have zero : ((time.toNat % 1000 : Nat) : ℝ) = 0 := by linarith
      exact_mod_cast zero
    right
    apply UInt32.toNat_inj.mp
    change time.toNat = 0
    omega

/-- Without acceleration, both loops add up the same speed. -/
theorem uniformMotion_constant (long : 8 ≤ q.length)
    (run : PredictRun (fun _ => Exact.value 0) (q.map GPS.exact) time v.exact) :
    UniformMotion run := by
  constructor
  · rw [run.distance_exact long, elapsed_eq]
    simp only [mul_zero, add_zero, zero_mul, Finset.sum_const, Finset.card_range, nsmul_eq_mul,
      zero_div]
    congr 1
    ring
  · rw [run.lastVel_exact long]
    simp only [mul_zero, zero_mul, add_zero]

theorem uniformMotion_start (long : 8 ≤ q.length)
    (run : PredictRun (fun _ => Exact.value a) (q.map GPS.exact) 0 v.exact) :
    UniformMotion run := by
  have nothing : elapsed 0 = 0 := by
    rw [elapsed, UInt32.toNat_zero, Nat.cast_zero, zero_div]
  constructor
  · rw [run.distance_exact long, nothing]
    simp
  · rw [run.lastVel_exact long, nothing]
    simp

/-- At the longest elapsed time the loop over the seconds makes three passes. -/
theorem predictRun_live (long : 8 ≤ q.length) (live : (time.toNat : Int) ≤ ttlNeighborTable) :
    Nonempty (PredictRun (fun _ => Exact.value a) (q.map GPS.exact) time v.exact) := by
  have few : (UInt32.ofNat (time.toNat / 1000)).toNat ≤ 13 := by
    rw [toNat_wholeSeconds]
    change (time.toNat : Int) ≤ 3000 at live
    omega
  exact PredictRun.nonempty (by rwa [List.length_map]) (caseNum_exact time) few

/-- The distances and the final speed are those of a uniform acceleration if and only if there is
no acceleration, or no time for it. -/
theorem movesUniformly_iff (q : List (GPS ℝ)) (long : 8 ≤ q.length) (v : Speed ℝ) (time : UInt32)
    (live : (time.toNat : Int) ≤ ttlNeighborTable) (a : ℝ) :
    MovesUniformly q v time a ↔ a = 0 ∨ time = 0 := by
  constructor
  · rintro ⟨run, uniform⟩
    exact uniform.still long
  · obtain ⟨run⟩ := predictRun_live (a := a) (v := v) long live
    rintro (rfl | rfl)
    · exact ⟨run, uniformMotion_constant long run⟩
    · exact ⟨run, uniformMotion_start long run⟩

end

/-- At rest a second and a half long. -/
theorem movesUniformly_atRest :
    @MovesUniformly ⟨fun _ => 0⟩ (List.replicate 8 ⟨0, 0⟩) ⟨0, 0⟩ 1500 0 := by
  have long : 8 ≤ (List.replicate 8 (⟨0, 0⟩ : GPS ℝ)).length := List.length_replicate.ge
  apply (@movesUniformly_iff ⟨fun _ => 0⟩ (List.replicate 8 ⟨0, 0⟩) long ⟨0, 0⟩ 1500 (by decide)
    0).mpr
  exact Or.inl rfl

/-- After one second at the acceleration one, the speed has grown by ten. -/
theorem acceleration_perStep :
    ¬∀ [ExactBits] (q : List (GPS ℝ)), 8 ≤ q.length → ∀ (v : Speed ℝ) (time : UInt32),
      (time.toNat : Int) ≤ ttlNeighborTable → ∀ a : ℝ, MovesUniformly q v time a := by
  intro moves
  have long : 8 ≤ (List.replicate 8 (⟨0, 0⟩ : GPS ℝ)).length := List.length_replicate.ge
  obtain ⟨run, uniform⟩ := @moves ⟨fun _ => 0⟩ (List.replicate 8 ⟨0, 0⟩) long ⟨0, 0⟩ 1000
    (by decide) 1
  rcases @UniformMotion.still ⟨fun _ => 0⟩ 1 _ 1000 _ run long uniform with none | none
  · exact one_ne_zero none
  · exact absurd none (by decide)

end TunVideo
