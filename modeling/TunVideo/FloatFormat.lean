import Mathlib

set_option autoImplicit false

namespace TunVideo.FloatFormat

open Float.Model Float.Model.UnpackedFloat

theorem log2_bounds {n : Nat} (positive : 0 < n) : 2 ^ n.log2 ≤ n ∧ n < 2 ^ (n.log2 + 1) :=
  (Nat.log2_eq_iff (by omega)).mp rfl

theorem log2_mul_two_pow {n : Nat} (positive : 0 < n) (shift : Nat) :
    (n * 2 ^ shift).log2 = n.log2 + shift := by
  have unit := Nat.two_pow_pos shift
  obtain ⟨low, high⟩ := log2_bounds positive
  apply (Nat.log2_eq_iff (Nat.mul_pos positive unit).ne').mpr
  constructor
  · rw [pow_add]
    exact Nat.mul_le_mul_right _ low
  · rw [show n.log2 + shift + 1 = n.log2 + 1 + shift by omega, pow_add]
    exact Nat.mul_lt_mul_of_pos_right high unit

variable {spec : Format} {sign : Sign}

@[simp]
theorem unpackSign_packComponents {exponent : BitVec spec.exponentBits}
    {mantissa : BitVec spec.mantissaBitsWithoutImplicit} :
    unpackSign (packComponents spec sign exponent mantissa) = sign.toBitVec := by
  ext i hi
  have first : i = 0 := by omega
  subst first
  simp [unpackSign, packComponents, BitVec.getLsbD_append, BitVec.getElem_append]

@[simp]
theorem ofBitVec_toBitVec (sign : Sign) : Sign.ofBitVec sign.toBitVec = sign := by
  cases sign <;> rfl

/-- A number that the format has: a full significand, or the least exponent. -/
def Canonical (spec : Format) : UnpackedFloat → Prop
  | .finite _ mantissa exponent _ =>
      mantissa.log2 < spec.mantissaBits ∧
      (mantissa.log2 + 1 < spec.mantissaBits → exponent = spec.minExponent) ∧
      spec.minExponent ≤ exponent ∧
      exponent + 3 ≤ spec.minExponent + (2 ^ spec.exponentBits : Nat)
  | _ => True

theorem minExponent_eq (spec : Format) :
    spec.minExponent = 1 - (spec.exponentBias + spec.mantissaBitsWithoutImplicit) := by
  have unit := Nat.two_pow_pos (spec.exponentBits - 1)
  have cast : ((2 ^ (spec.exponentBits - 1) : Nat) : Int) = 2 ^ (spec.exponentBits - 1) := by
    push_cast
    rfl
  rw [Format.minExponent, Format.mantissaBits, Format.exponentBias]
  omega

theorem toNat_neg_one (width : Nat) : (-1#_ : BitVec width).toNat = 2 ^ width - 1 := by
  rw [BitVec.neg_one_eq_allOnes, BitVec.toNat_allOnes]

theorem biased_eq {exponent : Int} (least : spec.minExponent ≤ exponent) :
    (exponent + spec.exponentBias + spec.mantissaBitsWithoutImplicit).toNat =
      (exponent - spec.minExponent).toNat + 1 := by
  rw [minExponent_eq] at least ⊢
  omega

/-- The significand of a full number, with its leading digit split off. -/
theorem leading_append {mantissa : Nat} (positive : 0 < mantissa)
    (full : mantissa.log2 + 1 = spec.mantissaBits) :
    (1#1 ++ BitVec.ofNat spec.mantissaBitsWithoutImplicit mantissa).toNat = mantissa := by
  obtain ⟨low, high⟩ := log2_bounds positive
  have digits : mantissa.log2 = spec.mantissaBitsWithoutImplicit := by
    rw [Format.mantissaBits] at full
    omega
  rw [digits, pow_succ] at high
  rw [digits] at low
  have rest : mantissa % 2 ^ spec.mantissaBitsWithoutImplicit =
      mantissa - 2 ^ spec.mantissaBitsWithoutImplicit := by
    rw [Nat.mod_eq_sub_mod low, Nat.mod_eq_of_lt (by omega)]
  have short : mantissa - 2 ^ spec.mantissaBitsWithoutImplicit <
      2 ^ spec.mantissaBitsWithoutImplicit := by omega
  have joined := Nat.two_pow_add_eq_or_of_lt short 1
  have one : 1 % 2 ^ 1 = 1 := rfl
  rw [BitVec.toNat_append, BitVec.toNat_ofNat, BitVec.toNat_ofNat, rest, one, Nat.shiftLeft_eq,
    Nat.mul_comm, ← joined]
  omega

theorem pack_normal {mantissa : Nat} {exponent : Int} (positive : 0 < mantissa)
    (canonical : Canonical spec (.finite sign mantissa exponent positive))
    (full : mantissa.log2 + 1 = spec.mantissaBits) :
    UnpackedFloat.unpack spec (UnpackedFloat.pack spec (.finite sign mantissa exponent positive)) =
      .finite sign mantissa exponent positive := by
  obtain ⟨-, -, least, most⟩ := canonical
  have biased := biased_eq least
  have field : (exponent - spec.minExponent).toNat + 1 + 1 < 2 ^ spec.exponentBits := by omega
  have written : (BitVec.ofNat spec.exponentBits
      ((exponent - spec.minExponent).toNat + 1)).toNat =
        (exponent - spec.minExponent).toNat + 1 := by
    rw [BitVec.toNat_ofNat, Nat.mod_eq_of_lt (by omega)]
  have finite : BitVec.ofNat spec.exponentBits ((exponent - spec.minExponent).toNat + 1) ≠
      -1#_ := by
    intro same
    rw [← BitVec.toNat_inj, written, toNat_neg_one] at same
    omega
  have normal : BitVec.ofNat spec.exponentBits ((exponent - spec.minExponent).toNat + 1) ≠
      0#_ := by
    intro same
    rw [← BitVec.toNat_inj, written, BitVec.toNat_zero] at same
    omega
  unfold UnpackedFloat.pack
  simp only [biased]
  rw [if_neg (by omega), if_pos full]
  unfold UnpackedFloat.unpack
  simp only [unpackExponent_packComponents, unpackMantissa_packComponents,
    unpackSign_packComponents, ofBitVec_toBitVec, if_neg finite, if_neg normal, written,
    leading_append positive full]
  congr 1
  rw [minExponent_eq] at least ⊢
  omega

theorem zero_ne_neg_one : (0#_ : BitVec spec.exponentBits) ≠ -1#_ := by
  have width := spec.he
  have unit : 1 < 2 ^ spec.exponentBits := Nat.one_lt_two_pow (by omega)
  intro same
  rw [← BitVec.toNat_inj, toNat_neg_one, BitVec.toNat_zero] at same
  omega

theorem pack_subnormal {mantissa : Nat} {exponent : Int} (positive : 0 < mantissa)
    (canonical : Canonical spec (.finite sign mantissa exponent positive))
    (partly : mantissa.log2 + 1 ≠ spec.mantissaBits) :
    UnpackedFloat.unpack spec (UnpackedFloat.pack spec (.finite sign mantissa exponent positive)) =
      .finite sign mantissa exponent positive := by
  obtain ⟨short, lowest, least, most⟩ := canonical
  obtain rfl := lowest (by omega)
  have biased := biased_eq least
  have small : mantissa < 2 ^ spec.mantissaBitsWithoutImplicit := by
    apply (Nat.log2_lt (by omega)).mp
    rw [Format.mantissaBits] at short partly
    omega
  have written : (BitVec.ofNat spec.mantissaBitsWithoutImplicit mantissa).toNat = mantissa := by
    rw [BitVec.toNat_ofNat, Nat.mod_eq_of_lt small]
  have nonzero : BitVec.ofNat spec.mantissaBitsWithoutImplicit mantissa ≠ 0#_ := by
    intro same
    rw [← BitVec.toNat_inj, written, BitVec.toNat_zero] at same
    omega
  unfold UnpackedFloat.pack
  simp only [biased]
  rw [if_neg (by omega), if_neg partly]
  unfold UnpackedFloat.unpack
  simp only [unpackExponent_packComponents, unpackMantissa_packComponents,
    unpackSign_packComponents, ofBitVec_toBitVec, if_neg zero_ne_neg_one, ↓reduceIte,
    dif_neg nonzero, written, BitVec.toNat_zero]
  congr 1
  rw [minExponent_eq]
  omega

theorem quiet_ne_zero :
    (1#_ : BitVec spec.mantissaBitsWithoutImplicit) <<<
      (spec.mantissaBitsWithoutImplicit - 1) ≠ 0#_ := by
  have bits := spec.hm
  have short : 2 ^ (spec.mantissaBitsWithoutImplicit - 1) <
      2 ^ spec.mantissaBitsWithoutImplicit := Nat.pow_lt_pow_right (by decide) (by omega)
  have unit := Nat.two_pow_pos (spec.mantissaBitsWithoutImplicit - 1)
  intro same
  rw [← BitVec.toNat_inj, BitVec.toNat_shiftLeft, BitVec.toNat_zero, BitVec.toNat_ofNat,
    Nat.shiftLeft_eq, Nat.mod_eq_of_lt (Nat.one_lt_two_pow (by omega)), Nat.one_mul,
    Nat.mod_eq_of_lt short] at same
  omega

theorem unpack_pack {number : UnpackedFloat} (canonical : Canonical spec number) :
    UnpackedFloat.unpack spec (UnpackedFloat.pack spec number) = number := by
  cases number with
  | notANumber =>
      simp [UnpackedFloat.pack, packedNaN, UnpackedFloat.unpack, quiet_ne_zero]
  | infinity sign => simp [UnpackedFloat.pack, packedInfinity, UnpackedFloat.unpack]
  | zero sign =>
      have width := spec.he.ne'
      simp [UnpackedFloat.pack, packedZero, UnpackedFloat.unpack, width]
  | finite sign mantissa exponent positive =>
      by_cases full : mantissa.log2 + 1 = spec.mantissaBits
      · exact pack_normal positive canonical full
      · exact pack_subnormal positive canonical full

theorem unpack_canonical (wide : 1 < spec.exponentBits) (bits : BitVec spec.numBits) :
    Canonical spec (UnpackedFloat.unpack spec bits) := by
  have positive := spec.hm
  have least := minExponent_eq spec
  have room : 2 ^ 2 ≤ 2 ^ spec.exponentBits := Nat.pow_le_pow_right (by decide) wide
  have exponent := (unpackExponent bits).isLt
  have fraction := (unpackMantissa bits).isLt
  unfold UnpackedFloat.unpack
  simp only
  split
  · split <;> trivial
  · rename_i finite
    have below : (unpackExponent bits).toNat ≠ 2 ^ spec.exponentBits - 1 := by
      rw [← toNat_neg_one]
      exact fun same => finite (BitVec.toNat_inj.mp same)
    split
    · rename_i lowest
      split
      · trivial
      · rename_i nonzero
        have short : (unpackMantissa bits).toNat.log2 < spec.mantissaBitsWithoutImplicit := by
          apply (Nat.log2_lt _).mpr fraction
          exact fun same => nonzero (BitVec.eq_of_toNat_eq same)
        have zero : (unpackExponent bits).toNat = 0 := by
          rw [lowest, BitVec.toNat_zero]
        have digits : spec.mantissaBits = 1 + spec.mantissaBitsWithoutImplicit := rfl
        refine ⟨by omega, fun _ => ?_, ?_, ?_⟩
        all_goals rw [zero]; omega
    · rename_i normal
      have above : (unpackExponent bits).toNat ≠ 0 := by
        exact fun same => normal (BitVec.eq_of_toNat_eq same)
      have digits : spec.mantissaBits = 1 + spec.mantissaBitsWithoutImplicit := rfl
      have leading : (1#1 ++ unpackMantissa bits).toNat.log2 =
          spec.mantissaBitsWithoutImplicit := by
        have joined := Nat.two_pow_add_eq_or_of_lt fraction 1
        have one : 1 % 2 ^ 1 = 1 := rfl
        rw [BitVec.toNat_append, BitVec.toNat_ofNat, one, Nat.shiftLeft_eq, Nat.mul_comm,
          ← joined]
        apply (Nat.log2_eq_iff (by omega)).mpr
        rw [pow_succ]
        omega
      refine ⟨by omega, fun _ => by omega, by omega, by omega⟩

/-- Two numbers that no comparison tells apart: the zeros are one number. -/
inductive SameNumber : UnpackedFloat → UnpackedFloat → Prop
  | refl (number : UnpackedFloat) : SameNumber number number
  | zeros (first second : Sign) : SameNumber (.zero first) (.zero second)

theorem SameNumber.beq {first second : UnpackedFloat} (same : SameNumber first second)
    (other : UnpackedFloat) : first.beq other = second.beq other := by
  cases same with
  | refl => rfl
  | zeros first second =>
      cases other with
      | infinity sign => cases sign <;> rfl
      | finite sign => cases sign <;> rfl
      | _ => rfl

theorem SameNumber.symm {first second : UnpackedFloat} (same : SameNumber first second) :
    SameNumber second first := by
  cases same with
  | refl => exact .refl _
  | zeros first second => exact .zeros second first

theorem SameNumber.trans {first second third : UnpackedFloat} (same : SameNumber first second)
    (next : SameNumber second third) : SameNumber first third := by
  cases same with
  | refl => exact next
  | zeros first second =>
      cases next with
      | refl => exact .zeros first second
      | zeros second third => exact .zeros first third

theorem SameNumber.add_zero (number : UnpackedFloat) (sign : Sign) :
    SameNumber (UnpackedFloat.add spec number (.zero sign)) number := by
  cases number with
  | zero first =>
      unfold UnpackedFloat.add
      dsimp only
      split
      · exact .refl _
      · exact .zeros _ _
  | _ => exact .refl _

theorem SameNumber.sub_zero (number : UnpackedFloat) (sign : Sign) :
    SameNumber (UnpackedFloat.sub spec number (.zero sign)) number := by
  cases number with
  | zero first =>
      unfold UnpackedFloat.sub
      dsimp only
      split
      · exact .refl _
      · exact .zeros _ _
  | _ => exact .refl _

def IsZero (number : UnpackedFloat) : Prop := ∃ sign, number = .zero sign

theorem IsZero.mul_finite {number : UnpackedFloat} (finite : number.isFinite = true)
    (sign : Sign) : IsZero (UnpackedFloat.mul spec (.zero sign) number) := by
  cases number with
  | zero => exact ⟨_, rfl⟩
  | finite => exact ⟨_, rfl⟩
  | _ => cases finite

theorem SameNumber.canonical {first second : UnpackedFloat} (same : SameNumber first second)
    (canonical : Canonical spec second) : Canonical spec first := by
  cases same with
  | refl => exact canonical
  | zeros => trivial

end TunVideo.FloatFormat
