import TunVideo.Kinematics

set_option autoImplicit false

namespace TunVideo

open SinglePrecision DoublePrecision

section

variable {D : Type} [DoublePrecision D] (F : Type) [SinglePrecision F D]

/-- `rand() / (RAND_MAX + 1.0)` -/
def uniform (drawn : UInt32) : D := wordToDouble F drawn / (2147483647.0 + 1.0)

/-- `gaussrand`, on the two numbers that it draws. -/
def gaussrand (mu sigma : D) (first second : UInt32) : D :=
  let pi : D := 3.141592654
  let u : D := uniform F first
  let v : D := uniform F second
  let z := sqrt (-2.0 * log u) * sin (2.0 * pi * v)
  z * sigma + mu

/-- The values of `gaussrand` in `AdvancedPredict`, from those of `rand`. -/
def noise (rand : Nat → UInt32) (n : Nat) : D :=
  gaussrand F (-5.8937984e-06) 0.4476733 (rand (2 * n)) (rand (2 * n + 1))

end

namespace Exact

theorem undefined_add (number : Exact) : undefined + number = undefined := by
  cases number <;> rfl

theorem undefined_sub (number : Exact) : undefined - number = undefined := by
  cases number <;> rfl

theorem sub_undefined (number : Exact) : number - undefined = undefined := by
  cases number <;> rfl

theorem undefined_mul (number : Exact) : undefined * number = undefined := by
  cases number <;> rfl

end Exact

/-- How far a value of `gaussrand` can be from its mean when the deviation is one. -/
noncomputable def reach : ℝ := √(62.0 * Real.log 2.0)

noncomputable def noiseBound : ℝ := 5.8937984e-06 + 0.4476733 * reach

section

variable [ExactBits]

theorem uniform_exact (drawn : UInt32) :
    uniform Exact drawn = Exact.value (drawn.toNat / 2 ^ 31) := by
  have range : (2147483647.0 + 1.0 : Exact) = .value (2 ^ 31) :=
    congrArg Exact.value (by norm_num)
  rw [uniform, wordToDouble_exact, range, Exact.value_div _ (by norm_num)]

omit [ExactBits] in
theorem minusTwoLog_bounds {drawn : Nat} (some : 0 < drawn) (few : drawn < 2 ^ 31) :
    0 ≤ -2 * Real.log (drawn / 2 ^ 31) ∧ -2 * Real.log (drawn / 2 ^ 31) ≤ 62 * Real.log 2 := by
  have one : (1 : ℝ) ≤ drawn := by exact_mod_cast some
  have below : (drawn : ℝ) ≤ 2 ^ 31 := by exact_mod_cast few.le
  have split : Real.log (drawn / 2 ^ 31) = Real.log drawn - 31 * Real.log 2 := by
    rw [Real.log_div (by linarith) (by norm_num), Real.log_pow]
    norm_num
  have least := Real.log_nonneg one
  have most := Real.log_le_log (by linarith) below
  rw [Real.log_pow] at most
  push_cast at most
  rw [split]
  constructor
  · linarith
  · linarith

theorem gaussrand_exact (mu sigma : ℝ) {first : UInt32} (second : UInt32)
    (some : 0 < first.toNat) (few : first.toNat < 2 ^ 31) :
    ∃ value, gaussrand Exact (.value mu) (.value sigma) first second = Exact.value value ∧
      |value - mu| ≤ |sigma| * reach := by
  obtain ⟨nonneg, most⟩ := minusTwoLog_bounds some few
  have positive : 0 < (first.toNat : ℝ) / 2 ^ 31 := by
    have one : (0 : ℝ) < first.toNat := by exact_mod_cast some
    positivity
  have logarithm : log (Exact.value (first.toNat / 2 ^ 31)) =
      .value (Real.log (first.toNat / 2 ^ 31)) := Exact.within_value positive
  have root : sqrt (Exact.value (-2 * Real.log (first.toNat / 2 ^ 31))) =
      .value √(-2 * Real.log (first.toNat / 2 ^ 31)) := Exact.within_value nonneg
  have minusTwo : (-2.0 : Exact) = .value (-2) := congrArg Exact.value (by norm_num)
  have angle : sin ((2.0 : Exact) * 3.141592654 * .value (second.toNat / 2 ^ 31)) =
      .value (Real.sin (2.0 * 3.141592654 * (second.toNat / 2 ^ 31))) := rfl
  rw [gaussrand, uniform_exact, uniform_exact, logarithm, minusTwo, Exact.value_mul, root, angle]
  refine ⟨_, rfl, ?_⟩
  have sine := Real.abs_sin_le_one (2.0 * 3.141592654 * (second.toNat / 2 ^ 31))
  have radius : √(-2 * Real.log (first.toNat / 2 ^ 31)) ≤ reach := by
    have same : 62.0 * Real.log 2.0 = 62 * Real.log 2 := by norm_num
    rw [reach, same]
    exact Real.sqrt_le_sqrt most
  rw [add_sub_cancel_right, abs_mul, abs_mul, abs_of_nonneg (Real.sqrt_nonneg _), mul_comm]
  apply mul_le_mul_of_nonneg_left _ (abs_nonneg sigma)
  calc √(-2 * Real.log (first.toNat / 2 ^ 31)) *
        |Real.sin (2.0 * 3.141592654 * (second.toNat / 2 ^ 31))|
      ≤ √(-2 * Real.log (first.toNat / 2 ^ 31)) * 1 :=
        mul_le_mul_of_nonneg_left sine (Real.sqrt_nonneg _)
    _ = √(-2 * Real.log (first.toNat / 2 ^ 31)) := mul_one _
    _ ≤ reach := radius

theorem gaussrand_undefined (mu sigma : Exact) (second : UInt32) :
    gaussrand Exact mu sigma 0 second = Exact.undefined := by
  have none : log (Exact.value (((0 : UInt32).toNat : ℝ) / 2 ^ 31)) = .undefined := by
    apply if_neg
    simp
  have root : sqrt Exact.undefined = .undefined := rfl
  rw [gaussrand, uniform_exact, none, Exact.mul_undefined, root, Exact.undefined_mul,
    Exact.undefined_mul, Exact.undefined_add]

theorem noise_exact {rand : Nat → UInt32} {n : Nat} (some : 0 < (rand (2 * n)).toNat)
    (few : (rand (2 * n)).toNat < 2 ^ 31) :
    ∃ value, noise Exact rand n = Exact.value value ∧ |value| ≤ noiseBound := by
  obtain ⟨value, drawn, near⟩ :=
    gaussrand_exact (-5.8937984e-06) 0.4476733 (rand (2 * n + 1)) some few
  refine ⟨value, drawn, ?_⟩
  have mean : |(-5.8937984e-06 : ℝ)| = 5.8937984e-06 := by norm_num
  have deviation : |(0.4476733 : ℝ)| = 0.4476733 := by norm_num
  have sum := abs_add_le (value - -5.8937984e-06) (-5.8937984e-06)
  rw [sub_add_cancel, mean] at sum
  rw [deviation] at near
  rw [noiseBound]
  linarith

end

end TunVideo
