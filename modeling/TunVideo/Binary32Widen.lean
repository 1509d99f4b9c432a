import TunVideo.Coordinates
import TunVideo.FloatFormat

set_option autoImplicit false

namespace TunVideo.Binary32

open Float.Model Float.Model.UnpackedFloat FloatFormat

variable {spec : Format} {sign : Sign}

theorem totalExponent_mul_two_pow {n : Nat} (positive : 0 < n) (shift : Nat) (exponent : Int) :
    totalExponent (n * 2 ^ shift) exponent = totalExponent n (exponent + shift) := by
  simp only [totalExponent, log2_mul_two_pow positive shift]
  omega

/-- Nothing is lost when the digits that have to go are zeros. -/
theorem roundWithAccuracy_exact {mantissa shift : Nat} {exponent : Int} (positive : 0 < mantissa)
    (target : spec.targetExponent (totalExponent mantissa (exponent + shift)) =
      exponent + shift) :
    roundWithAccuracy spec sign (mantissa * 2 ^ shift) exponent .exact =
      .finite sign mantissa (exponent + shift) positive := by
  have unit := Nat.two_pow_pos shift
  have amount : (exponent + shift - exponent).toNat = shift := by omega
  have rest : (exponent + shift - (exponent + shift)).toNat = 0 := by omega
  have rounded : roundShift (mantissa * 2 ^ shift) shift = mantissa := by
    rw [roundShift, Nat.mul_mod_left, Nat.mul_div_cancel _ unit, if_neg (by omega),
      Nat.add_zero]
  have same : mantissa / 2 ^ 0 = mantissa := by rw [pow_zero, Nat.div_one]
  have kept := Represents.shiftRight mantissa 0
  simp only [roundWithAccuracy, shiftToTargetExponent, shiftToExponent,
    totalExponent_mul_two_pow positive, target, amount,
    (Represents.shiftRight (mantissa * 2 ^ shift) shift).roundedMantissa, rounded, rest,
    kept.mantissa, same, dif_neg positive.ne']
  simp

/-- More digits below the point lose nothing. -/
theorem round_widened {mantissa shift : Nat} {exponent : Int} (positive : 0 < mantissa)
    (target : spec.targetExponent (totalExponent mantissa exponent) = exponent - shift) :
    UnpackedFloat.round spec sign mantissa exponent =
      .finite sign (mantissa * 2 ^ shift) (exponent - shift)
        (Nat.mul_pos positive (Nat.two_pow_pos shift)) := by
  have amount : (exponent - (exponent - shift)).toNat = shift := by omega
  have scaled : 0 < mantissa * 2 ^ shift := Nat.mul_pos positive (Nat.two_pow_pos shift)
  have kept := @roundWithAccuracy_exact spec sign (mantissa * 2 ^ shift) 0 (exponent - shift) scaled
  simp only [pow_zero, Nat.mul_one, Nat.cast_zero, add_zero,
    totalExponent_mul_two_pow positive, Int.sub_add_cancel] at kept
  simp only [UnpackedFloat.round, decreaseExponent, target, amount, Nat.shiftLeft_eq]
  exact kept target

theorem round_narrowed {mantissa shift : Nat} {exponent : Int} (positive : 0 < mantissa)
    (target : spec.targetExponent (totalExponent mantissa (exponent + shift)) =
      exponent + shift) :
    UnpackedFloat.round spec sign (mantissa * 2 ^ shift) exponent =
      .finite sign mantissa (exponent + shift) positive := by
  have amount : (exponent - (exponent + shift)).toNat = 0 := by omega
  simp only [UnpackedFloat.round, decreaseExponent, totalExponent_mul_two_pow positive, target,
    amount, Nat.shiftLeft_zero, Nat.cast_zero, Int.sub_zero]
  exact roundWithAccuracy_exact positive target

theorem canonical (x : Float32) : Canonical Format.binary32 x.toModel.unpack :=
  unpack_canonical (by decide) _

theorem unpack_packed {number : UnpackedFloat} (canonical : Canonical Format.binary32 number) :
    (Float32.Model.pack number).unpack = number :=
  unpack_pack canonical

theorem unpack_packed64 {number : UnpackedFloat} (canonical : Canonical Format.binary64 number) :
    (Float.Model.pack number).unpack = number :=
  unpack_pack canonical

theorem unpack_add (x y : Float32)
    (canonical : Canonical Format.binary32
      (UnpackedFloat.add Format.binary32 x.toModel.unpack y.toModel.unpack)) :
    (x + y).toModel.unpack =
      UnpackedFloat.add Format.binary32 x.toModel.unpack y.toModel.unpack :=
  unpack_packed canonical

theorem unpack_mul (x y : Float32)
    (canonical : Canonical Format.binary32
      (UnpackedFloat.mul Format.binary32 x.toModel.unpack y.toModel.unpack)) :
    (x * y).toModel.unpack =
      UnpackedFloat.mul Format.binary32 x.toModel.unpack y.toModel.unpack :=
  unpack_packed canonical

theorem unpack_div (x y : Float32)
    (canonical : Canonical Format.binary32
      (UnpackedFloat.div Format.binary32 x.toModel.unpack y.toModel.unpack)) :
    (x / y).toModel.unpack =
      UnpackedFloat.div Format.binary32 x.toModel.unpack y.toModel.unpack :=
  unpack_packed canonical

/-- The number a `float` has as a `double`, with a significand of 53 digits. -/
def widen : UnpackedFloat → UnpackedFloat
  | .finite sign mantissa exponent positive =>
      .finite sign (mantissa * 2 ^ (52 - mantissa.log2)) (exponent - (52 - mantissa.log2 : Nat))
        (Nat.mul_pos positive (Nat.two_pow_pos _))
  | special => special

theorem canonical_bounds {sign : Sign} {mantissa : Nat} {exponent : Int} {positive : 0 < mantissa}
    (canonical : Canonical Format.binary32 (.finite sign mantissa exponent positive)) :
    mantissa.log2 < 24 ∧ (mantissa.log2 < 23 → exponent = -149) ∧ -149 ≤ exponent ∧
      exponent ≤ 104 := by
  obtain ⟨short, lowest, least, most⟩ := canonical
  have digits : Format.binary32.mantissaBits = 24 := rfl
  have low : Format.binary32.minExponent = -149 := rfl
  rw [digits] at short lowest
  rw [low] at lowest least most
  norm_num at most
  omega

theorem widen_canonical {number : UnpackedFloat} (canonical : Canonical Format.binary32 number) :
    Canonical Format.binary64 (widen number) := by
  cases number with
  | finite sign mantissa exponent positive =>
      obtain ⟨short, lowest, least, most⟩ := canonical_bounds canonical
      have digits : Format.binary64.mantissaBits = 53 := rfl
      have low : Format.binary64.minExponent = -1074 := rfl
      have log := log2_mul_two_pow positive (52 - mantissa.log2)
      unfold widen Canonical
      rw [digits, low]
      norm_num
      omega
  | _ => trivial

theorem unpack_toDouble (x : Float32) : (toDouble x).toModel.unpack = widen x.toModel.unpack := by
  have canonical := canonical x
  unfold toDouble
  dsimp only
  cases number : x.toModel.unpack with
  | finite sign mantissa exponent positive =>
      rw [number] at canonical
      obtain ⟨short, lowest, least, most⟩ := canonical_bounds canonical
      have target : Format.binary64.targetExponent (totalExponent mantissa exponent) =
          exponent - (52 - mantissa.log2 : Nat) := by
        simp only [Format.targetExponent, totalExponent, Format.mantissaBits, Format.minExponent]
        omega
      dsimp only
      rw [round_widened positive target]
      exact unpack_packed64 (widen_canonical canonical)
  | _ => exact unpack_packed64 trivial

theorem unpack_ofDouble {y : Float} {number : UnpackedFloat}
    (canonical : Canonical Format.binary32 number) (wide : y.toModel.unpack = widen number) :
    (ofDouble y).toModel.unpack = number := by
  unfold ofDouble
  dsimp only
  rw [wide]
  cases number with
  | finite sign mantissa exponent positive =>
      obtain ⟨short, lowest, least, most⟩ := canonical_bounds canonical
      have whole : exponent - (52 - mantissa.log2 : Nat) + (52 - mantissa.log2 : Nat) = exponent :=
        Int.sub_add_cancel _ _
      have target : Format.binary32.targetExponent (totalExponent mantissa exponent) =
          exponent := by
        simp only [Format.targetExponent, totalExponent, Format.mantissaBits, Format.minExponent]
        omega
      have narrowed := @round_narrowed Format.binary32 sign mantissa (52 - mantissa.log2)
        (exponent - (52 - mantissa.log2 : Nat)) positive
      rw [whole] at narrowed
      dsimp only [widen]
      rw [narrowed target]
      exact unpack_packed canonical
  | _ => exact unpack_packed trivial

/-- A `double` that a comparison takes for the widened `float` is stored as that `float`. -/
theorem sameNumber_stored {combined : UnpackedFloat} {x : Float32}
    (same : SameNumber combined (widen x.toModel.unpack)) :
    SameNumber (ofDouble (.ofModel (.pack combined))).toModel.unpack x.toModel.unpack := by
  have read : (Float.Model.pack combined).unpack = combined :=
    unpack_packed64 (same.canonical (widen_canonical (canonical x)))
  generalize widened : widen x.toModel.unpack = wide at same
  cases same with
  | refl =>
      have back : (ofDouble (.ofModel (.pack combined))).toModel.unpack = x.toModel.unpack :=
        unpack_ofDouble (canonical x) (read.trans widened.symm)
      rw [back]
      exact .refl _
  | zeros first second =>
      have zero : x.toModel.unpack = .zero second := by
        generalize x.toModel.unpack = number at widened ⊢
        cases number with
        | zero sign => exact widened
        | _ => cases widened
      have back : (ofDouble (.ofModel (.pack (.zero first)))).toModel.unpack = .zero first :=
        @unpack_ofDouble _ (.zero first) trivial read
      rw [zero, back]
      exact .zeros first second

theorem sameNumber_add (x : Float32) {z : Float32} (zero : IsZero z.toModel.unpack) :
    SameNumber (x + z).toModel.unpack x.toModel.unpack := by
  obtain ⟨sign, zero⟩ := zero
  have sum := @SameNumber.add_zero Format.binary32 x.toModel.unpack sign
  rw [← zero] at sum
  rw [unpack_add x z (sum.canonical (canonical x))]
  exact sum

def positiveZero : Float := .ofModel (.pack (.zero .positive))

theorem unpack_positiveZero : positiveZero.toModel.unpack = .zero .positive :=
  unpack_packed64 trivial

theorem sameNumber_addDouble (x : Float32) :
    SameNumber (ofDouble (toDouble x + positiveZero)).toModel.unpack x.toModel.unpack := by
  apply sameNumber_stored
  rw [unpack_positiveZero, unpack_toDouble]
  exact .add_zero _ .positive

theorem sameNumber_subDouble (x : Float32) :
    SameNumber (ofDouble (toDouble x - positiveZero)).toModel.unpack x.toModel.unpack := by
  apply sameNumber_stored
  rw [unpack_positiveZero, unpack_toDouble]
  exact .sub_zero _ .positive

theorem unpack_thousand : ∃ sign mantissa exponent positive,
    (1000 : UInt32).toFloat32.toModel.unpack = .finite sign mantissa exponent positive :=
  ⟨_, _, _, _, rfl⟩

theorem unpack_none : (0 : UInt32).toFloat32.toModel.unpack = .zero .positive :=
  unpack_packed trivial

theorem isZero_scaled {x : Float32} (finite : x.isFinite = true) :
    IsZero ((0 : UInt32).toFloat32 * x / (1000 : UInt32).toFloat32).toModel.unpack := by
  obtain ⟨other, mantissa, exponent, positive, thousand⟩ := unpack_thousand
  obtain ⟨sign, product⟩ := @IsZero.mul_finite Format.binary32 _ finite .positive
  rw [← unpack_none] at product
  have scaled := unpack_mul (0 : UInt32).toFloat32 x (by rw [product]; trivial)
  rw [product] at scaled
  refine ⟨sign / other, ?_⟩
  rw [unpack_div _ _ (by rw [scaled, thousand]; trivial), scaled, thousand]
  rfl

theorem isNaN_scaled {x : Float32} (infinite : x.isFinite ≠ true) :
    ((0 : UInt32).toFloat32 * x / (1000 : UInt32).toFloat32).toModel.unpack = .notANumber := by
  have product : UnpackedFloat.mul Format.binary32 (0 : UInt32).toFloat32.toModel.unpack
      x.toModel.unpack = .notANumber := by
    have infinite : x.toModel.unpack.isFinite ≠ true := infinite
    rw [unpack_none]
    generalize x.toModel.unpack = number at infinite ⊢
    cases number with
    | zero => exact absurd rfl infinite
    | finite => exact absurd rfl infinite
    | _ => rfl
  have scaled := unpack_mul (0 : UInt32).toFloat32 x (by rw [product]; trivial)
  rw [product] at scaled
  rw [unpack_div _ _ (by rw [scaled]; trivial), scaled]
  rfl

/-- In no time a coordinate does not move if and only if its speed is finite, or there is
nothing to move. -/
theorem sameNumber_scaled_iff (x v : Float32) :
    SameNumber
        (x + (0 : UInt32).toFloat32 * v / (1000 : UInt32).toFloat32).toModel.unpack
        x.toModel.unpack ↔
      v.isFinite = true ∨ x.isNaN = true := by
  by_cases finite : v.isFinite = true
  · exact iff_of_true (sameNumber_add x (isZero_scaled finite)) (Or.inl finite)
  · have sum : UnpackedFloat.add Format.binary32 x.toModel.unpack
        ((0 : UInt32).toFloat32 * v / (1000 : UInt32).toFloat32).toModel.unpack =
          .notANumber := by
      rw [isNaN_scaled finite]
      cases x.toModel.unpack with
      | infinity sign => cases sign <;> rfl
      | _ => rfl
    rw [unpack_add _ _ (by rw [sum]; trivial), sum, or_iff_right finite]
    change _ ↔ x.toModel.unpack.isNaN = true
    generalize x.toModel.unpack = number
    constructor
    · intro same
      cases same with
      | refl => rfl
    · intro none
      cases number with
      | notANumber => exact .refl _
      | _ => cases none

end TunVideo.Binary32
