import TunVideo.DeadReckoning
import TunVideo.PredictLoop

set_option autoImplicit false

namespace TunVideo

open SinglePrecision

/-- `coeff[i]` -/
noncomputable def weight (i : Nat) : ℝ :=
  [0.0454, -0.0020, 0.0431, 0.0581, 0.1194, 0.1186, 0.3778].getD i 0

/-- `const_term` -/
noncomputable def intercept : ℝ := -0.0984

noncomputable def slopeOf (p1 p2 : GPS ℝ) : ℝ :=
  if |p1.x - p2.x| < 0.00000001 then (p1.y - p2.y) / (p1.x - p2.x + 0.00000001)
  else (p1.y - p2.y) / (p1.x - p2.x)

noncomputable def slopesOf (q : List (GPS ℝ)) : List ℝ := (q.take 7).zipWith slopeOf (q.tail.take 7)

/-- Every slope of the loop is the linear regression over the seven before it. -/
def FollowsRegression (q : List (GPS ℝ)) (seconds : Nat) (k : List Exact) : Prop :=
  ∃ slopes : Nat → ℝ, (∀ n < 7 + seconds, k[n]? = some (.value (slopes n))) ∧
    (∀ n < 7, ∀ p1 p2, q[n]? = some p1 → q[n + 1]? = some p2 → slopes n = slopeOf p1 p2) ∧
    ∀ j < seconds, slopes (7 + j) =
      intercept + ∑ i ∈ Finset.range 7, weight i * slopes (j + i)

theorem slope_exact [ExactBits] (p1 p2 : GPS ℝ) :
    (slope p1.exact p2.exact : Exact) = .value (slopeOf p1 p2) := by
  have close : (toDouble (fabs (p1.exact.x - p2.exact.x)) : Exact) < epsinon ↔
      |p1.x - p2.x| < 0.00000001 := Iff.rfl
  unfold slope slopeOf
  by_cases near : |p1.x - p2.x| < 0.00000001
  · have apart : p1.x - p2.x + 0.00000001 ≠ 0 := by
      have least := (abs_lt.mp near).1
      linarith
    rw [if_pos (close.mpr near), if_pos near]
    exact Exact.value_div _ apart
  · have apart : p1.x - p2.x ≠ 0 := by
      intro same
      rw [same, abs_zero] at near
      exact near (by norm_num)
    rw [if_neg fun less => near (close.mp less), if_neg near]
    exact Exact.value_div _ apart

theorem historySlopes_exact [ExactBits] (q : List (GPS ℝ)) :
    (historySlopes (q.map GPS.exact) : List Exact) = (slopesOf q).map .value := by
  rw [historySlopes, slopesOf, ← List.map_take, ← List.map_tail, ← List.map_take,
    List.zipWith_map, List.map_zipWith]
  congr 1
  funext p1 p2
  exact slope_exact p1 p2

theorem unsetSlope_exact : (unsetSlope : Exact) = .value intercept := by
  have unread (weights : List ℝ) (sum : ℝ) :
      (weights.map Exact.value).foldl (fun sum factor => sum + factor * 0.0) (.value sum) =
        .value sum := by
    induction weights generalizing sum with
    | nil => rfl
    | cons weight rest ih =>
        rw [List.map_cons, List.foldl_cons, Exact.zero_literal, Exact.value_mul, Exact.value_add,
          mul_zero, add_zero, ← Exact.zero_literal]
        exact ih sum
  exact unread [0.0454, -0.0020, 0.0431, 0.0581, 0.1194, 0.1186, 0.3778] intercept

theorem slopesOf_length {q : List (GPS ℝ)} (long : 8 ≤ q.length) : (slopesOf q).length = 7 := by
  rw [slopesOf, List.length_zipWith, List.length_take, List.length_take, List.length_tail]
  omega

theorem getElem?_slopesOf {q : List (GPS ℝ)} {n : Nat} {p1 p2 : GPS ℝ} (few : n < 7)
    (first : q[n]? = some p1) (second : q[n + 1]? = some p2) :
    (slopesOf q)[n]? = some (slopeOf p1 p2) := by
  rw [slopesOf, List.getElem?_zipWith, List.getElem?_take_of_lt few, List.getElem?_take_of_lt few,
    List.getElem?_tail, first, second]

/-- The known slope number `n`, or the one that the loop stores in its place. -/
noncomputable def slopeAt (q : List (GPS ℝ)) (n : Nat) : ℝ := (slopesOf q).getD n intercept

/-- In what the loop leaves, the regression holds if its sums vanish. -/
theorem followsRegression_iff {q : List (GPS ℝ)} (long : 8 ≤ q.length) {seconds : Nat}
    {k : List Exact} (stored : ∀ n < 7 + seconds, k[n]? = some (.value (slopeAt q n))) :
    FollowsRegression q seconds k ↔
      ∀ j < seconds, ∑ i ∈ Finset.range 7, weight i * slopeAt q (j + i) = 0 := by
  have predicted (j : Nat) : slopeAt q (7 + j) = intercept := by
    apply List.getD_eq_default
    rw [slopesOf_length long]
    omega
  constructor
  · rintro ⟨slopes, read, -, regression⟩ j bound
    have same (n : Nat) (inside : n < 7 + seconds) : slopes n = slopeAt q n := by
      have value := (read n inside).symm.trans (stored n inside)
      exact Exact.value.inj (Option.some.inj value)
    have sums : ∑ i ∈ Finset.range 7, weight i * slopes (j + i) =
        ∑ i ∈ Finset.range 7, weight i * slopeAt q (j + i) := by
      apply Finset.sum_congr rfl
      intro i member
      have few := Finset.mem_range.mp member
      rw [same (j + i) (by omega)]
    have line := regression j bound
    rw [same (7 + j) (by omega), predicted, sums] at line
    linarith
  · intro vanish
    refine ⟨slopeAt q, stored, ?_, ?_⟩
    · intro n few p1 p2 first second
      rw [slopeAt, List.getD_eq_getElem?_getD, getElem?_slopesOf few first second, Option.getD_some]
    · intro j bound
      rw [predicted, vanish j bound, add_zero]

section

variable [ExactBits]

/-- What the loop over the seconds leaves in `k`. -/
theorem seconds_slopes {q : List (GPS ℝ)} (long : 8 ≤ q.length) {v : Speed Exact}
    {start : Prediction Exact Exact} (starts : StartsFrom (q.map GPS.exact) v start) {count : Nat}
    (few : count ≤ 13) (gaussrand : Nat → Exact) (xInc : Bool) :
    ∃ last, seconds gaussrand xInc count start = some last ∧
      ∀ n < 7 + count, last.k[n]? = some (.value (slopeAt q n)) := by
  have width : ((slopesOf q).map Exact.value).length = 7 := by
    rw [List.length_map, slopesOf_length long]
  have known : start.k = (slopesOf q).map Exact.value ++ List.replicate 13 0.0 := by
    rw [starts.k, historySlopes_exact]
  obtain ⟨last, run, slopes⟩ := @seconds_unsetSlope Exact Exact _ _ gaussrand xInc _ 13 count _
    known (starts.ptr.trans width.symm) few
  refine ⟨last, run, ?_⟩
  intro n inside
  rw [slopes, unsetSlope_exact, List.getElem?_append_left
    (by rw [List.length_append, List.length_replicate, width]; exact inside)]
  by_cases known : n < 7
  · rw [List.getElem?_append_left (by rw [width]; exact known), List.getElem?_map,
      List.getElem?_eq_getElem (by rw [slopesOf_length long]; exact known), Option.map_some,
      slopeAt, List.getD_eq_getElem]
  · rw [List.getElem?_append_right (by rw [width]; omega), width,
      List.getElem?_replicate_of_lt (by omega), slopeAt, List.getD_eq_default]
    rw [slopesOf_length long]
    omega

def PredictsByRegression (q : List (GPS ℝ)) (v : Speed Exact) (gaussrand : Nat → Exact)
    (count : Nat) : Prop :=
  ∃ xInc start last, predictionStart (q.map GPS.exact) v = some (xInc, start) ∧
    seconds gaussrand xInc count start = some last ∧ FollowsRegression q count last.k

theorem PredictsByRegression.vanish {q : List (GPS ℝ)} (long : 8 ≤ q.length) {v : Speed Exact}
    {gaussrand : Nat → Exact} {count : Nat} (few : count ≤ 13)
    (predicts : PredictsByRegression q v gaussrand count) :
    ∀ j < count, ∑ i ∈ Finset.range 7, weight i * slopeAt q (j + i) = 0 := by
  obtain ⟨xInc, start, last, begins, run, follows⟩ := predicts
  obtain ⟨xInc', start', begins', starts⟩ := predictionStart_long
    (by rwa [List.length_map] : 8 ≤ (q.map GPS.exact).length) v
  rw [begins] at begins'
  obtain ⟨rfl, rfl⟩ := Prod.mk.inj (Option.some.inj begins')
  obtain ⟨last', run', stored⟩ := seconds_slopes long starts few gaussrand xInc
  rw [run] at run'
  obtain rfl := Option.some.inj run'
  exact (followsRegression_iff long stored).mp follows

/-- The slopes follow the regression if and only if it makes no difference: for every second the
weighted sum over the seven slopes before it, of which those the loop has stored are the
intercept, is zero. -/
theorem predictsByRegression_iff (q : List (GPS ℝ)) (long : 8 ≤ q.length) (v : Speed Exact)
    (gaussrand : Nat → Exact) (count : Nat) (few : count ≤ 13) :
    PredictsByRegression q v gaussrand count ↔
      ∀ j < count, ∑ i ∈ Finset.range 7, weight i * slopeAt q (j + i) = 0 := by
  refine ⟨fun predicts => predicts.vanish long few, ?_⟩
  intro vanish
  obtain ⟨xInc, start, begins, starts⟩ := predictionStart_long
    (by rwa [List.length_map] : 8 ≤ (q.map GPS.exact).length) v
  obtain ⟨last, run, stored⟩ := seconds_slopes long starts few gaussrand xInc
  exact ⟨xInc, start, last, begins, run, (followsRegression_iff long stored).mpr vanish⟩

end

/-- Eight positions on a line from the origin, one unit of `x` apart. -/
noncomputable def straightLine (rise : ℝ) : List (GPS ℝ) :=
  (List.range 8).map fun n : Nat => ⟨n, rise * n⟩

theorem straightLine_length (rise : ℝ) : (straightLine rise).length = 8 := by
  rw [straightLine, List.length_map, List.length_range]

theorem slopeAt_straightLine (rise : ℝ) {n : Nat} (few : n < 7) :
    slopeAt (straightLine rise) n = rise := by
  have position (m : Nat) (inside : m < 8) :
      (straightLine rise)[m]? = some ⟨m, rise * m⟩ := by
    rw [straightLine, List.getElem?_map, List.getElem?_range inside, Option.map_some]
  have far : ¬|(n : ℝ) - (n + 1 : Nat)| < 0.00000001 := by
    push_cast
    norm_num
  rw [slopeAt, List.getD_eq_getElem?_getD,
    getElem?_slopesOf few (position n (by omega)) (position (n + 1) (by omega)),
    Option.getD_some, slopeOf, if_neg far]
  push_cast
  rw [show (n : ℝ) - (n + 1) = -1 by ring]
  ring

theorem sum_straightLine (rise : ℝ) :
    ∑ i ∈ Finset.range 7, weight i * slopeAt (straightLine rise) (0 + i) = 0.7604 * rise := by
  have slopes : ∑ i ∈ Finset.range 7, weight i * slopeAt (straightLine rise) (0 + i) =
      ∑ i ∈ Finset.range 7, weight i * rise := by
    apply Finset.sum_congr rfl
    intro i member
    rw [Nat.zero_add, slopeAt_straightLine rise (Finset.mem_range.mp member)]
  rw [slopes, ← Finset.sum_mul]
  congr 1
  simp only [Finset.sum_range_succ, Finset.sum_range_zero, weight]
  norm_num

/-- A node that moves along a parallel is predicted by the regression for a second. -/
theorem predictsByRegression_level :
    @PredictsByRegression ⟨fun _ => 0⟩ (straightLine 0) ⟨.value 1, .value 0⟩ (fun _ => .value 0)
      1 := by
  apply (@predictsByRegression_iff ⟨fun _ => 0⟩ (straightLine 0)
    (straightLine_length 0).ge ⟨.value 1, .value 0⟩ (fun _ => .value 0) 1 (by decide)).mpr
  intro j bound
  obtain rfl : j = 0 := by omega
  rw [sum_straightLine, mul_zero]

/-- A node that moves on a diagonal has the slope 1 in every second, and is not predicted by the
regression. -/
theorem diagonal_ignoresSlopes :
    ¬∀ [ExactBits] (q : List (GPS ℝ)), 8 ≤ q.length → ∀ (v : Speed Exact)
      (gaussrand : Nat → Exact) (count : Nat), count ≤ 13 →
        PredictsByRegression q v gaussrand count := by
  intro predicts
  have diagonal := @predicts ⟨fun _ => 0⟩ (straightLine 1) (straightLine_length 1).ge
    ⟨.value 1, .value 1⟩ (fun _ => .value 0) 1 (by decide)
  have sum := @PredictsByRegression.vanish ⟨fun _ => 0⟩ _ (straightLine_length 1).ge _ _ _
    (by decide) diagonal 0 (by decide)
  rw [sum_straightLine] at sum
  norm_num at sum

end TunVideo
