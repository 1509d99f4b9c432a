import TunVideo.ConeAngle
import TunVideo.GaussNoise
import TunVideo.SlopeRegression

set_option autoImplicit false

/- Where `AdvancedPredict` puts a node with a long history, whatever the noise is, in exact
arithmetic. -/
namespace TunVideo

open SinglePrecision DoublePrecision

/-- The speed when so many values of the noise have been added. -/
noncomputable def speedAfter (speed : ℝ) (acc : Nat → ℝ) (draws : Nat) : ℝ :=
  speed + ∑ n ∈ Finset.range draws, acc n

/-- The distance of the step that uses this value of the noise. -/
noncomputable def stepLength (speed : ℝ) (acc : Nat → ℝ) (dt : ℝ) (n : Nat) : ℝ :=
  speedAfter speed acc n * dt + acc n * dt * dt / 2.0

def eastward (forward : Bool) : ℝ := if forward then 1 else -1

theorem eastward_mul_self (forward : Bool) : eastward forward * eastward forward = 1 := by
  cases forward with
  | true => exact mul_one 1
  | false => exact (neg_mul_neg 1 1).trans (mul_one 1)

noncomputable def along (forward : Bool) (k dis : ℝ) (start : GPS ℝ) : GPS ℝ :=
  ⟨start.x + eastward forward * dis / √(1 + k * k),
    start.y + eastward forward * (k * dis) / √(1 + k * k)⟩

theorem along_along (forward : Bool) (k first second : ℝ) (start : GPS ℝ) :
    along forward k second (along forward k first start) =
      along forward k (first + second) start := by
  rw [along, along, along, GPS.mk.injEq]
  constructor
  · ring
  · ring

theorem along_zero (forward : Bool) (k : ℝ) (start : GPS ℝ) : along forward k 0 start = start := by
  rw [along, mul_zero, mul_zero, mul_zero, zero_div, add_zero, add_zero]

theorem slopeRoot_pos (k : ℝ) : 0 < √(1 + k * k) :=
  Real.sqrt_pos.mpr (by linarith [mul_self_nonneg k])

theorem planeDistance_along (forward : Bool) (k dis : ℝ) (start : GPS ℝ) :
    planeDistance start (along forward k dis start) = |dis| := by
  have root : √(1 + k * k) * √(1 + k * k) = 1 + k * k :=
    Real.mul_self_sqrt (by linarith [mul_self_nonneg k])
  have nonzero := (slopeRoot_pos k).ne'
  have sign := eastward_mul_self forward
  have moved : eastward forward * dis / √(1 + k * k) * (eastward forward * dis / √(1 + k * k)) +
      eastward forward * (k * dis) / √(1 + k * k) *
        (eastward forward * (k * dis) / √(1 + k * k)) = dis * dis := by
    calc _ = eastward forward * eastward forward * (dis * dis) * (1 + k * k) /
          (√(1 + k * k) * √(1 + k * k)) := by
          field_simp
      _ = dis * dis := by
          rw [sign, root]
          field_simp
  rw [planeDistance, along, add_sub_cancel_left, add_sub_cancel_left, moved,
    Real.sqrt_mul_self_eq_abs]

section

variable [ExactBits]

theorem advance_exact (forward : Bool) (k dis : ℝ) (start : GPS ℝ) :
    advance forward (.value k) (.value dis) start.exact = (along forward k dis start).exact := by
  have one : (1.0 : Exact) = .value 1 := congrArg Exact.value (by norm_num)
  have root : sqrt (Exact.value (1 + k * k)) = .value √(1 + k * k) :=
    Exact.within_value (by linarith [mul_self_nonneg k])
  have nonzero := (slopeRoot_pos k).ne'
  rw [advance, one, Exact.value_mul, Exact.value_add, root, Exact.value_mul,
    Exact.value_div _ nonzero, Exact.value_div _ nonzero]
  have same (x y : ℝ) {x' y' : ℝ} (east : x = x') (north : y = y') :
      (⟨.value x, .value y⟩ : GPS Exact) = (⟨x', y'⟩ : GPS ℝ).exact := by
    rw [east, north]
    rfl
  cases forward with
  | true =>
      apply same
      · rw [eastward, if_pos rfl, one_mul]
      · rw [eastward, if_pos rfl, one_mul]
  | false =>
      apply same
      · rw [eastward, if_neg Bool.false_ne_true, neg_one_mul, neg_div]
        rfl
      · rw [eastward, if_neg Bool.false_ne_true, neg_one_mul, neg_div]
        rfl

variable {speed : ℝ} {acc : Nat → ℝ} {gaussrand : Nat → Exact}

theorem travel_along {dt dis : ℝ} {draws steps : Nat}
    (known : ∀ n < draws + steps, gaussrand n = .value (acc n)) :
    (travelStep gaussrand (.value dt))^[steps]
        (⟨.value dis, .value (speedAfter speed acc draws), draws⟩ : Travel Exact Exact) =
      ⟨.value (dis + ∑ n ∈ Finset.range steps, stepLength speed acc dt (draws + n)),
        .value (speedAfter speed acc (draws + steps)), draws + steps⟩ := by
  induction steps with
  | zero => simp
  | succ steps ih =>
      have drawn : gaussrand (draws + steps) = .value (acc (draws + steps)) :=
        known _ (by omega)
      have half : (.value (acc (draws + steps) * dt * dt) : Exact) / 2.0 =
          .value (acc (draws + steps) * dt * dt / 2.0) :=
        Exact.value_div _ (by norm_num)
      rw [Function.iterate_succ_apply', ih fun n inside => known n (by omega)]
      unfold travelStep
      dsimp only
      rw [drawn, Exact.value_mul, Exact.value_mul, half]
      change (⟨.value (dis + ∑ n ∈ Finset.range steps, stepLength speed acc dt (draws + n) +
          stepLength speed acc dt (draws + steps)),
        .value (speedAfter speed acc (draws + steps) + acc (draws + steps)),
        draws + steps + 1⟩ : Travel Exact Exact) = _
      rw [Finset.sum_range_succ, ← add_assoc, ← Nat.add_assoc, speedAfter, speedAfter,
        Finset.sum_range_succ, ← add_assoc]

/-- The variables of the loop over the seconds, so many values of the noise after its start. -/
structure Underway (speed : ℝ) (acc : Nat → ℝ) (known : List Exact) (room draws : Nat)
    (place : GPS ℝ) (prediction : Prediction Exact Exact) : Prop where
  k : prediction.k = known ++ List.replicate room 0.0
  ptr : prediction.ptr = known.length
  lastPoint : prediction.lastPoint = place.exact
  vel : prediction.vel = .value (speedAfter speed acc draws)
  draws : prediction.draws = draws

variable {known : List Exact} {room draws : Nat} {place : GPS ℝ}
  {prediction : Prediction Exact Exact} {forward : Bool}

theorem secondTravel_along (underway : Underway speed acc known room draws place prediction)
    (drawn : ∀ n < draws + 10, gaussrand n = .value (acc n)) :
    secondTravel gaussrand prediction =
      ⟨.value (∑ n ∈ Finset.range 10, stepLength speed acc 0.1 (draws + n)),
        .value (speedAfter speed acc (draws + 10)), draws + 10⟩ := by
  rw [secondTravel, underway.vel, underway.draws, Exact.zero_literal]
  refine (travel_along drawn).trans ?_
  rw [zero_add]

/-- Every second goes on with the same slope. -/
theorem Underway.second (underway : Underway speed acc known (room + 1) draws place prediction)
    (drawn : ∀ n < draws + 10, gaussrand n = .value (acc n)) :
    ∃ next, secondStep gaussrand forward prediction = some next ∧
      next.predictK = .value intercept ∧
      Underway speed acc (known ++ [.value intercept]) room (draws + 10)
        (along forward intercept (∑ n ∈ Finset.range 10, stepLength speed acc 0.1 (draws + n))
          place) next := by
  have unset : prediction.k[prediction.ptr]? = some 0.0 := by
    rw [underway.k, underway.ptr, List.getElem?_append_right (Nat.le_refl _), Nat.sub_self,
      List.replicate_succ, List.getElem?_cons_zero]
  have stored : prediction.k.set prediction.ptr (.value intercept) =
      known ++ [.value intercept] ++ List.replicate room 0.0 := by
    rw [underway.k, underway.ptr, List.set_append_right _ _ (Nat.le_refl _), Nat.sub_self,
      List.replicate_succ, List.set_cons_zero, List.append_assoc, List.singleton_append]
  have slope : coeff.foldl (fun sum factor => sum + factor * 0.0) constTerm =
      Exact.value intercept := unsetSlope_exact
  have travel := secondTravel_along underway drawn
  rw [secondTravel] at travel
  rw [secondStep, unset, Option.map_some]
  dsimp only
  rw [slope, travel, underway.lastPoint, advance_exact]
  refine ⟨_, rfl, rfl, stored, ?_, rfl, rfl, rfl⟩
  rw [List.length_append, List.length_singleton, underway.ptr]

theorem Underway.seconds {count : Nat} (fits : count ≤ room)
    (underway : Underway speed acc known room draws place prediction)
    (drawn : ∀ n < draws + 10 * count, gaussrand n = .value (acc n)) :
    ∃ last known', TunVideo.seconds gaussrand forward count prediction = some last ∧
      (last.predictK = if count = 0 then prediction.predictK else .value intercept) ∧
      Underway speed acc known' (room - count) (draws + 10 * count)
        (along forward intercept
          (∑ n ∈ Finset.range (10 * count), stepLength speed acc 0.1 (draws + n)) place) last := by
  induction count generalizing known room draws place prediction with
  | zero =>
      refine ⟨prediction, known, rfl, rfl, ?_⟩
      rw [Nat.mul_zero, Finset.sum_range_zero, along_zero]
      exact underway
  | succ count ih =>
      obtain ⟨room, rfl⟩ : ∃ rest, room = rest + 1 := ⟨room - 1, by omega⟩
      obtain ⟨next, step, slope, further⟩ :=
        @Underway.second _ _ _ _ _ _ _ _ _ forward underway
          fun n inside => drawn n (by omega)
      obtain ⟨last, known', run, lastSlope, reached⟩ :=
        ih (Nat.le_of_succ_le_succ fits) further fun n inside => drawn n (by omega)
      refine ⟨last, known', ?_, ?_, ?_⟩
      · rw [TunVideo.seconds, step]
        exact run
      · rw [lastSlope, slope, if_neg (Nat.succ_ne_zero count), ite_self]
      · rw [along_along] at reached
        have total : ∑ n ∈ Finset.range (10 * (count + 1)), stepLength speed acc 0.1 (draws + n) =
            ∑ n ∈ Finset.range 10, stepLength speed acc 0.1 (draws + n) +
              ∑ n ∈ Finset.range (10 * count), stepLength speed acc 0.1 (draws + 10 + n) := by
          rw [Nat.mul_succ, Nat.add_comm, Finset.sum_range_add]
          simp only [Nat.add_assoc]
        have drawsLeft : draws + 10 + 10 * count = draws + 10 * (count + 1) := by omega
        rw [total, Nat.add_sub_add_right, ← drawsLeft]
        exact reached

end

/-- How often `gaussrand` is called. -/
def drawCount (time : UInt32) : Nat := 10 * (time.toNat / 1000) + time.toNat % 1000

/-- The signed distance of the prediction: ten steps for every whole second, and one for every
millisecond behind them. -/
noncomputable def pathLength (speed : ℝ) (acc : Nat → ℝ) (time : UInt32) : ℝ :=
  ∑ n ∈ Finset.range (10 * (time.toNat / 1000)), stepLength speed acc 0.1 n +
    ∑ n ∈ Finset.range (time.toNat % 1000),
      stepLength speed acc 0.001 (10 * (time.toNat / 1000) + n)

/-- The slope of the prediction. The slopes of the history have no part in it. -/
noncomputable def raySlope (time : UInt32) : ℝ := if time.toNat / 1000 = 0 then 0 else intercept

section

variable {speed most : ℝ} {acc : Nat → ℝ} {time : UInt32}

/-- One step differs from a step at the initial speed by the noise so far. -/
theorem stepLength_near {dt : ℝ} {n total : Nat} (short : 0 ≤ dt ∧ dt ≤ 1) (inside : n < total)
    (small : ∀ i < total, |acc i| ≤ most) :
    |stepLength speed acc dt n - speed * dt| ≤ most * total * dt := by
  obtain ⟨nonneg, one⟩ := short
  have here := small n inside
  have positive : 0 ≤ most := le_trans (abs_nonneg _) here
  have sum : |∑ i ∈ Finset.range n, acc i| ≤ n * most := by
    have each : ∀ i ∈ Finset.range n, |acc i| ≤ most := fun i member =>
      small i (lt_trans (Finset.mem_range.mp member) inside)
    have bound := Finset.sum_le_card_nsmul (Finset.range n) (fun i => |acc i|) most each
    rw [Finset.card_range, nsmul_eq_mul] at bound
    exact le_trans (Finset.abs_sum_le_sum_abs _ _) bound
  have next : (n : ℝ) + 1 ≤ total := by exact_mod_cast inside
  have excess : stepLength speed acc dt n - speed * dt =
      (∑ i ∈ Finset.range n, acc i) * dt + acc n * (dt / 2) * dt := by
    rw [stepLength, speedAfter]
    norm_num only
    ring
  have half : |acc n * (dt / 2)| ≤ most := by
    rw [abs_mul, abs_of_nonneg (by linarith : 0 ≤ dt / 2)]
    calc |acc n| * (dt / 2) ≤ |acc n| * 1 :=
          mul_le_mul_of_nonneg_left (by linarith) (abs_nonneg _)
      _ ≤ most := by rwa [mul_one]
  calc |stepLength speed acc dt n - speed * dt|
      = |∑ i ∈ Finset.range n, acc i + acc n * (dt / 2)| * dt := by
        rw [excess, ← add_mul, abs_mul, abs_of_nonneg nonneg]
    _ ≤ (n * most + most) * dt :=
        mul_le_mul_of_nonneg_right (le_trans (abs_add_le _ _) (add_le_add sum half)) nonneg
    _ = (n + 1) * most * dt := by ring
    _ ≤ total * most * dt :=
        mul_le_mul_of_nonneg_right (mul_le_mul_of_nonneg_right next positive) nonneg
    _ = most * total * dt := by ring

theorem sum_stepLength_near {dt : ℝ} {earlier steps total : Nat} (short : 0 ≤ dt ∧ dt ≤ 1)
    (fits : earlier + steps ≤ total) (small : ∀ i < total, |acc i| ≤ most) :
    |∑ n ∈ Finset.range steps, stepLength speed acc dt (earlier + n) - speed * (steps * dt)| ≤
      most * total * (steps * dt) := by
  have apart : ∑ n ∈ Finset.range steps, stepLength speed acc dt (earlier + n) -
      speed * (steps * dt) =
      ∑ n ∈ Finset.range steps, (stepLength speed acc dt (earlier + n) - speed * dt) := by
    rw [Finset.sum_sub_distrib, Finset.sum_const, Finset.card_range, nsmul_eq_mul]
    ring
  have each : ∀ n ∈ Finset.range steps,
      |stepLength speed acc dt (earlier + n) - speed * dt| ≤ most * total * dt := fun n member =>
    stepLength_near short (by have inside := Finset.mem_range.mp member; omega) small
  have bound := Finset.sum_le_card_nsmul _ _ _ each
  rw [Finset.card_range, nsmul_eq_mul] at bound
  rw [apart]
  calc |∑ n ∈ Finset.range steps, (stepLength speed acc dt (earlier + n) - speed * dt)|
      ≤ ∑ n ∈ Finset.range steps, |stepLength speed acc dt (earlier + n) - speed * dt| :=
        Finset.abs_sum_le_sum_abs _ _
    _ ≤ steps * (most * total * dt) := bound
    _ = most * total * (steps * dt) := by ring

/-- The distance is that of a uniform motion, up to the noise. -/
theorem pathLength_near (small : ∀ n < drawCount time, |acc n| ≤ most) :
    |pathLength speed acc time - speed * elapsed time| ≤ most * drawCount time * elapsed time := by
  have whole := @sum_stepLength_near speed most acc 0.1 0 (10 * (time.toNat / 1000))
    (drawCount time) (by norm_num) (by rw [drawCount]; omega) small
  have rest := @sum_stepLength_near speed most acc 0.001 (10 * (time.toNat / 1000))
    (time.toNat % 1000) (drawCount time) (by norm_num) (Nat.le_refl _) small
  have split : elapsed time = ((10 * (time.toNat / 1000) : Nat) : ℝ) * 0.1 +
      ((time.toNat % 1000 : Nat) : ℝ) * 0.001 := by
    rw [elapsed_eq]
    push_cast
    ring
  simp only [Nat.zero_add] at whole
  have both := le_trans (abs_add_le _ _) (add_le_add whole rest)
  rw [split, pathLength, mul_add, mul_add]
  refine le_trans (le_of_eq ?_) both
  congr 1
  ring

end

theorem nonneg_of_near {distance speed bound : ℝ} {time : UInt32} (fast : bound ≤ speed)
    (near : |distance - speed * elapsed time| ≤ bound * elapsed time) : 0 ≤ distance := by
  have passed : 0 ≤ elapsed time := by
    rw [elapsed]
    positivity
  have least := (abs_le.mp near).1
  have ahead := mul_le_mul_of_nonneg_right fast passed
  linarith

theorem along_seconds (forward : Bool) (speed : ℝ) (acc : Nat → ℝ) (time : UInt32)
    (start : GPS ℝ) :
    along forward (raySlope time) (∑ n ∈ Finset.range (time.toNat % 1000),
        stepLength speed acc 0.001 (10 * (time.toNat / 1000) + n))
      (along forward intercept (∑ n ∈ Finset.range (10 * (time.toNat / 1000)),
        stepLength speed acc 0.1 (0 + n)) start) =
      along forward (raySlope time) (pathLength speed acc time) start := by
  simp only [Nat.zero_add]
  by_cases first : time.toNat / 1000 = 0
  · rw [pathLength, first, Nat.mul_zero, Finset.sum_range_zero, along_zero, zero_add]
  · rw [raySlope, if_neg first, along_along, pathLength]

/-- Where a node is after a time: on a line through the eighth position of its history, as far as
it goes at its speed, give or take the noise. The distance is counted to the side to which it came
there, east or west. A node that is faster than the noise does not go back. -/
def OnRay (q : List (GPS ℝ)) (time : UInt32) (v : Speed ℝ) (position : GPS ℝ) : Prop :=
  ∃ seventh eighth forward distance, q[6]? = some seventh ∧ q[7]? = some eighth ∧
    (forward = true ↔ seventh.x ≤ eighth.x) ∧
    position = along forward (raySlope time) distance eighth ∧
    planeDistance eighth position = |distance| ∧
    |distance - speedOf v * elapsed time| ≤ noiseBound * drawCount time * elapsed time ∧
    (noiseBound * drawCount time ≤ speedOf v → 0 ≤ distance)

section

variable [ExactBits] {gaussrand : Nat → Exact} {q : List (GPS ℝ)} {time : UInt32}

theorem advancedPredict_along {acc : Nat → ℝ} (long : 8 ≤ q.length) (few : time.toNat < 14000)
    (v : Speed ℝ) (drawn : ∀ n < drawCount time, gaussrand n = .value (acc n)) :
    ∃ seventh eighth forward, q[6]? = some seventh ∧ q[7]? = some eighth ∧
      (forward = true ↔ seventh.x ≤ eighth.x) ∧
      advancedPredict gaussrand (q.map GPS.exact) time v.exact =
        some (along forward (raySlope time) (pathLength (speedOf v) acc time) eighth).exact := by
  have seventh : q[6]? = some q[6] := List.getElem?_eq_getElem (by omega)
  have eighth : q[7]? = some q[7] := List.getElem?_eq_getElem (by omega)
  refine ⟨q[6], q[7], !decide (q[7].exact.x < q[6].exact.x), seventh, eighth, ?_, ?_⟩
  · rw [Bool.not_eq_true', decide_eq_false_iff_not]
    exact @not_lt ℝ _ _ _
  · have begins : predictionStart (q.map GPS.exact) v.exact =
        some (!decide (q[7].exact.x < q[6].exact.x), (⟨q[7].exact, 0.0,
          (slopesOf q).map .value ++ List.replicate 13 0.0, 7, .value (speedOf v), 0⟩ :
            Prediction Exact Exact)) := by
      rw [predictionStart, List.getElem?_map, List.getElem?_map, seventh, eighth,
        historySlopes_exact, initialVel_exact]
      rfl
    have start : Underway (speedOf v) acc ((slopesOf q).map .value) 13 0 q[7]
        ⟨q[7].exact, 0.0, (slopesOf q).map .value ++ List.replicate 13 0.0, 7,
          .value (speedOf v), 0⟩ := by
      refine ⟨rfl, ?_, rfl, ?_, rfl⟩
      · rw [List.length_map, slopesOf_length long]
      · rw [speedAfter, Finset.sum_range_zero, add_zero]
    have wide : 8 ≤ (q.map GPS.exact).length := by rwa [List.length_map]
    have count : (UInt32.ofNat (time.toNat / 1000)).toNat = time.toNat / 1000 :=
      toNat_wholeSeconds time
    obtain ⟨last, known, run, slope, reached⟩ :=
      @Underway.seconds _ _ _ gaussrand _ _ _ _ _ (!decide (q[7].exact.x < q[6].exact.x))
        (time.toNat / 1000) (by omega) start
        fun n inside => drawn n (by rw [drawCount]; omega)
    have steps : lastTravel gaussrand (time.toNat % 1000) last =
        ⟨.value (∑ n ∈ Finset.range (time.toNat % 1000), stepLength (speedOf v) acc 0.001
            (10 * (time.toNat / 1000) + n)),
          .value (speedAfter (speedOf v) acc (10 * (time.toNat / 1000) + time.toNat % 1000)),
          10 * (time.toNat / 1000) + time.toNat % 1000⟩ := by
      rw [Nat.zero_add] at reached
      rw [lastTravel, reached.vel, reached.draws, Exact.zero_literal]
      refine (travel_along fun n inside => drawn n inside).trans ?_
      rw [zero_add]
    have direction : last.predictK = .value (raySlope time) := by
      rw [slope, raySlope]
      split
      · exact Exact.zero_literal
      · rfl
    rw [advancedPredict_long gaussrand wide, caseNum_exact, Option.bind_some, begins,
      Option.bind_some]
    dsimp only
    rw [count, run, Option.map_some, dtime_eq, steps, direction, reached.lastPoint, advance_exact,
      along_seconds]

theorem travel_draws (dt : Exact) (steps : Nat) (travel : Travel Exact Exact) :
    ((travelStep gaussrand dt)^[steps] travel).draws = travel.draws + steps := by
  induction steps with
  | zero => rfl
  | succ steps ih =>
      rw [Function.iterate_succ_apply']
      exact congrArg (· + 1) ih

/-- One value that is missing leaves the distance without a value. -/
theorem travel_undefined {dt : Exact} {steps : Nat} {travel : Travel Exact Exact} {n : Nat}
    (inside : n < steps) (missing : gaussrand (travel.draws + n) = .undefined) :
    ((travelStep gaussrand dt)^[steps] travel).dis = .undefined := by
  induction steps with
  | zero => exact absurd inside (Nat.not_lt_zero n)
  | succ steps ih =>
      rw [Function.iterate_succ_apply', travelStep]
      dsimp only
      rcases Nat.lt_succ_iff_lt_or_eq.mp inside with earlier | rfl
      · rw [ih earlier, Exact.undefined_add]
      · rw [travel_draws, missing, Exact.undefined_mul, Exact.undefined_mul, Exact.undefined_div,
          Exact.add_undefined, Exact.add_undefined]

theorem advance_undefined {forward : Bool} {k dis : Exact} {start : GPS Exact}
    (nowhere : start.x = .undefined ∨ dis = .undefined) :
    (advance forward k dis start).x = .undefined := by
  cases forward with
  | true =>
      change start.x + dis / sqrt (1.0 + k * k) = .undefined
      rcases nowhere with none | none
      · rw [none, Exact.undefined_add]
      · rw [none, Exact.undefined_div, Exact.add_undefined]
  | false =>
      change start.x - dis / sqrt (1.0 + k * k) = .undefined
      rcases nowhere with none | none
      · rw [none, Exact.undefined_sub]
      · rw [none, Exact.undefined_div, Exact.sub_undefined]

theorem seconds_undefined {forward : Bool} {count : Nat} {start last : Prediction Exact Exact}
    (run : seconds gaussrand forward count start = some last) :
    last.draws = start.draws + 10 * count ∧
      (start.lastPoint.x = .undefined ∨
        (∃ n < 10 * count, gaussrand (start.draws + n) = .undefined) →
      last.lastPoint.x = .undefined) := by
  induction count generalizing start with
  | zero =>
      rw [seconds, Option.some.injEq] at run
      subst run
      refine ⟨rfl, ?_⟩
      rintro (nowhere | ⟨n, inside, -⟩)
      · exact nowhere
      · exact absurd inside (Nat.not_lt_zero n)
  | succ count ih =>
      obtain ⟨next, step, rest⟩ := Option.bind_eq_some_iff.mp run
      obtain ⟨drawn, later⟩ := ih rest
      obtain ⟨unset, -, same⟩ := Option.map_eq_some_iff.mp step
      have drawn' : next.draws = start.draws + 10 := by
        rw [← same]
        exact travel_draws 0.1 10 _
      refine ⟨by omega, fun missing => later ?_⟩
      by_cases here : start.lastPoint.x = .undefined ∨
          ∃ n < 10, gaussrand (start.draws + n) = .undefined
      · left
        rw [← same]
        refine advance_undefined (here.imp_right ?_)
        rintro ⟨n, inside, none⟩
        exact travel_undefined inside none
      · right
        rcases missing with nowhere | ⟨n, inside, none⟩
        · exact absurd (Or.inl nowhere) here
        · have late : 10 ≤ n := Nat.not_lt.mp fun early => here (Or.inr ⟨n, early, none⟩)
          refine ⟨n - 10, by omega, ?_⟩
          rw [drawn', show start.draws + 10 + (n - 10) = start.draws + n by omega]
          exact none

theorem advancedPredict_nowhere {v : Speed ℝ} {position : GPS Exact} {n : Nat}
    (long : 8 ≤ q.length) (inside : n < drawCount time) (missing : gaussrand n = .undefined)
    (predicted : advancedPredict gaussrand (q.map GPS.exact) time v.exact = some position) :
    position.x = .undefined := by
  have wide : 8 ≤ (q.map GPS.exact).length := by rwa [List.length_map]
  obtain ⟨forward, start, begins, starts⟩ := predictionStart_long wide v.exact
  rw [advancedPredict_long gaussrand wide, caseNum_exact, Option.bind_some, begins,
    Option.bind_some, toNat_wholeSeconds, dtime_eq] at predicted
  obtain ⟨last, run, same⟩ := Option.map_eq_some_iff.mp predicted
  obtain ⟨drawn, nowhere⟩ := seconds_undefined run
  simp only [starts.draws, Nat.zero_add] at drawn nowhere
  rw [drawCount] at inside
  rw [← same]
  by_cases early : n < 10 * (time.toNat / 1000)
  · exact advance_undefined (Or.inl (nowhere (Or.inr ⟨n, early, missing⟩)))
  · refine advance_undefined (Or.inr ?_)
    refine @travel_undefined _ _ _ _ _ (n - 10 * (time.toNat / 1000)) (by omega) ?_
    change gaussrand (last.draws + (n - 10 * (time.toNat / 1000))) = .undefined
    rw [drawn, Nat.add_sub_cancel' (Nat.not_lt.mp early)]
    exact missing

end

section

variable [ExactBits]

/-- `AdvancedPredict` with the noise of these numbers puts a node on the ray, if it puts it
anywhere; and it does if and only if no logarithm of zero is taken. -/
structure PredictsOnRay (q : List (GPS ℝ)) (time : UInt32) (v : Speed ℝ)
    (rand : Nat → UInt32) : Prop where
  somewhere : (∃ position : GPS ℝ, advancedPredict (noise Exact rand) (q.map GPS.exact) time
    v.exact = some position.exact) ↔ ∀ n < drawCount time, rand (2 * n) ≠ 0
  onRay : ∀ position : GPS ℝ, advancedPredict (noise Exact rand) (q.map GPS.exact) time
    v.exact = some position.exact → OnRay q time v position

/-- For every history of at least eight positions, and every time for which there is room in the
array of slopes. -/
theorem advancedPredict_onRay (q : List (GPS ℝ)) (long : 8 ≤ q.length) (time : UInt32)
    (few : time.toNat < 14000) (v : Speed ℝ) (rand : Nat → UInt32)
    (range : ∀ n, (rand n).toNat ≤ 2147483647) : PredictsOnRay q time v rand := by
  have below (n : Nat) : (rand n).toNat < 2 ^ 31 := by
    have most := range n
    omega
  have numbers : (∀ n < drawCount time, rand (2 * n) ≠ 0) →
      ∃ acc : Nat → ℝ, ∀ n < drawCount time,
        noise Exact rand n = Exact.value (acc n) ∧ |acc n| ≤ noiseBound := by
    intro nonzero
    have each (n : Nat) : ∃ value : ℝ, n < drawCount time →
        noise Exact rand n = Exact.value value ∧ |value| ≤ noiseBound := by
      by_cases inside : n < drawCount time
      · have some : 0 < (rand (2 * n)).toNat :=
          Nat.pos_of_ne_zero fun zero => nonzero n inside (UInt32.toNat_inj.mp zero)
        obtain ⟨value, drawn, near⟩ := noise_exact some (below (2 * n))
        exact ⟨value, fun _ => ⟨drawn, near⟩⟩
      · exact ⟨0, fun early => absurd early inside⟩
    exact Classical.skolem.mp each
  have somewhere : (∃ position : GPS ℝ, advancedPredict (noise Exact rand) (q.map GPS.exact) time
      v.exact = some position.exact) → ∀ n < drawCount time, rand (2 * n) ≠ 0 := by
    rintro ⟨position, predicted⟩ n inside zero
    have missing : noise Exact rand n = Exact.undefined := by
      rw [noise, zero, gaussrand_undefined]
    have nowhere := advancedPredict_nowhere long inside missing predicted
    cases nowhere
  constructor
  · refine ⟨somewhere, fun nonzero => ?_⟩
    obtain ⟨acc, drawn⟩ := numbers nonzero
    obtain ⟨_, _, _, -, -, -, predicted⟩ :=
      advancedPredict_along long few v fun n inside => (drawn n inside).1
    exact ⟨_, predicted⟩
  · intro position predicted
    obtain ⟨acc, drawn⟩ := numbers (somewhere ⟨position, predicted⟩)
    obtain ⟨seventh, eighth, forward, before, start, direction, found⟩ :=
      advancedPredict_along long few v fun n inside => (drawn n inside).1
    rw [found, Option.some.injEq, GPS.exact, GPS.exact, GPS.mk.injEq, Exact.value.injEq,
      Exact.value.injEq] at predicted
    obtain rfl : along forward (raySlope time) (pathLength (speedOf v) acc time) eighth =
        position := congrArg₂ GPS.mk predicted.1 predicted.2
    have near : |pathLength (speedOf v) acc time - speedOf v * elapsed time| ≤
        noiseBound * drawCount time * elapsed time :=
      pathLength_near fun n inside => (drawn n inside).2
    exact ⟨seventh, eighth, forward, _, before, start, direction, rfl,
      planeDistance_along _ _ _ _, near, fun fast => nonneg_of_near fast near⟩

end

/-- A second and a half at the slope 1, on numbers that are all one. -/
theorem straightLine_onRay :
    @PredictsOnRay ⟨fun _ => 0⟩ (straightLine 1) 1500 ⟨1, 1⟩ fun _ => 1 :=
  @advancedPredict_onRay ⟨fun _ => 0⟩ (straightLine 1) (straightLine_length 1).ge 1500 (by decide)
    ⟨1, 1⟩ (fun _ => 1) fun _ => by decide

end TunVideo
