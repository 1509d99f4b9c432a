import TunVideo.Binary32
import TunVideo.FloatFormat

set_option autoImplicit false

namespace TunVideo.Binary32

open Float.Model Float.Model.UnpackedFloat FloatFormat

/-- Quotient by a power of two, rounded to nearest with ties to even. -/
def roundShift (n shift : Nat) : Nat :=
  n / 2 ^ shift +
    if 2 ^ shift < 2 * (n % 2 ^ shift) ∨
        2 * (n % 2 ^ shift) = 2 ^ shift ∧ n / 2 ^ shift % 2 = 1 then 1 else 0

/-- The binary32 number nearest to a natural number, as a natural number. -/
def nearest (n : Nat) : Nat :=
  roundShift n (n.log2 - 23) * 2 ^ (n.log2 - 23)

/-- What a round bit and a sticky bit say of the digits shifted out, of unit `unit`. -/
def ShiftedOut (rest unit : Nat) : (roundBit stickyBit : Bool) → Prop
  | false, false => rest = 0
  | false, true => 0 < rest ∧ 2 * rest < unit
  | true, false => 2 * rest = unit
  | true, true => unit < 2 * rest ∧ rest < unit

/-- An extended mantissa that stands for `n` shifted right. -/
def Represents (em : ExtendedMantissa) (n shift : Nat) : Prop :=
  ∃ rest, n = em.mantissa * 2 ^ shift + rest ∧
    ShiftedOut rest (2 ^ shift) em.roundBit em.stickyBit

theorem ShiftedOut.lt {rest unit : Nat} {roundBit stickyBit : Bool} (positive : 0 < unit)
    (out : ShiftedOut rest unit roundBit stickyBit) : rest < unit := by
  cases roundBit <;> cases stickyBit <;> simp only [ShiftedOut] at out <;> omega

theorem ShiftedOut.next {rest unit digit : Nat} {roundBit stickyBit : Bool} (positive : 0 < unit)
    (out : ShiftedOut rest unit roundBit stickyBit) (binary : digit = 0 ∨ digit = 1) :
    ShiftedOut (digit * unit + rest) (2 * unit) (digit != 0) (roundBit || stickyBit) := by
  rcases binary with rfl | rfl
  · cases roundBit <;> cases stickyBit <;>
      simp only [ShiftedOut, Nat.zero_mul, Nat.zero_add, bne_self_eq_false, Bool.or_self,
        Bool.or_false, Bool.or_true] at out ⊢ <;>
      omega
  · have set : (1 != 0) = true := rfl
    cases roundBit <;> cases stickyBit <;>
      simp only [ShiftedOut, Nat.one_mul, set, Bool.or_self, Bool.or_false,
        Bool.or_true] at out ⊢ <;>
      omega

theorem Represents.start (n : Nat) : Represents (.ofMantissaAndAccuracy n .exact) n 0 :=
  ⟨0, by simp only [ExtendedMantissa.ofMantissaAndAccuracy, pow_zero, Nat.mul_one, Nat.add_zero],
    rfl⟩

theorem Represents.shiftRightOne {em : ExtendedMantissa} {n shift : Nat}
    (held : Represents em n shift) : Represents em.shiftRightOne n (shift + 1) := by
  obtain ⟨rest, split, out⟩ := held
  have halves := Nat.div_add_mod em.mantissa 2
  have twice : 2 ^ (shift + 1) = 2 * 2 ^ shift := by ring
  refine ⟨em.mantissa % 2 * 2 ^ shift + rest, ?_, ?_⟩
  · calc
      n = (2 * (em.mantissa / 2) + em.mantissa % 2) * 2 ^ shift + rest := by rw [halves, split]
      _ = em.mantissa / 2 * 2 ^ (shift + 1) + (em.mantissa % 2 * 2 ^ shift + rest) := by ring
  · rw [twice]
    exact out.next (Nat.two_pow_pos shift) (Nat.mod_two_eq_zero_or_one em.mantissa)

theorem Represents.shiftRight (n shift : Nat) :
    Represents (ExtendedMantissa.ofMantissaAndAccuracy n .exact >>> shift) n shift := by
  change Represents (shift.repeat ExtendedMantissa.shiftRightOne _) n shift
  induction shift with
  | zero => exact .start n
  | succ shift ih => exact ih.shiftRightOne

theorem Represents.mantissa {em : ExtendedMantissa} {n shift : Nat}
    (held : Represents em n shift) : em.mantissa = n / 2 ^ shift := by
  obtain ⟨rest, split, out⟩ := held
  have unit := Nat.two_pow_pos shift
  rw [split, Nat.mul_comm, Nat.mul_add_div unit, Nat.div_eq_of_lt (out.lt unit), Nat.add_zero]

theorem Represents.roundedMantissa {em : ExtendedMantissa} {n shift : Nat}
    (held : Represents em n shift) : em.roundedMantissa = roundShift n shift := by
  have quotient := held.mantissa
  obtain ⟨rest, split, out⟩ := held
  have unit := Nat.two_pow_pos shift
  have remainder : n % 2 ^ shift = rest := by
    have whole := Nat.div_add_mod n (2 ^ shift)
    rw [← quotient, Nat.mul_comm] at whole
    omega
  obtain ⟨mantissa, roundBit, stickyBit⟩ := em
  simp only at quotient out
  unfold roundShift ExtendedMantissa.roundedMantissa
  rw [remainder, ← quotient]
  clear split quotient remainder
  cases roundBit <;> cases stickyBit <;>
    simp only [ShiftedOut, ExtendedMantissa.accuracy, Accuracy.roundToNearestEven] at out ⊢ <;>
    split <;> omega

def Normal (low high : Int) : UnpackedFloat → Prop
  | .finite .positive mantissa exponent _ => mantissa.log2 = 23 ∧ low ≤ exponent ∧ exponent ≤ high
  | _ => False

theorem Normal.mono {low high low' high' : Int} {number : UnpackedFloat}
    (normal : Normal low high number) (lower : low' ≤ low) (higher : high ≤ high') :
    Normal low' high' number := by
  cases number with
  | finite sign mantissa exponent positive =>
      cases sign with
      | positive => exact ⟨normal.1, by have := normal.2.1; omega, by have := normal.2.2; omega⟩
      | negative => exact normal
  | _ => exact normal

theorem roundShift_zero (n : Nat) : roundShift n 0 = n := by
  unfold roundShift
  rw [if_neg (by omega), pow_zero, Nat.div_one, Nat.add_zero]

theorem roundShift_bounds {n shift : Nat} (low : 2 ^ 23 * 2 ^ shift ≤ n)
    (high : n < 2 ^ 24 * 2 ^ shift) : 2 ^ 23 ≤ roundShift n shift ∧ roundShift n shift ≤ 2 ^ 24 := by
  have unit := Nat.two_pow_pos shift
  have least : 2 ^ 23 ≤ n / 2 ^ shift := (Nat.le_div_iff_mul_le unit).mpr low
  have most : n / 2 ^ shift < 2 ^ 24 := (Nat.div_lt_iff_lt_mul unit).mpr high
  unfold roundShift
  split <;> omega

theorem targetExponent_eq {n shift : Nat} {exponent : Int} (digits : n.log2 = 23 + shift)
    (above : -149 ≤ exponent) :
    Format.binary32.targetExponent (totalExponent n exponent) = exponent + shift := by
  simp only [Format.targetExponent, totalExponent, digits, Format.mantissaBits, Format.minExponent]
  omega

theorem shiftToTargetExponent_eq {n shift : Nat} {exponent : Int} (digits : n.log2 = 23 + shift)
    (above : -149 ≤ exponent) :
    shiftToTargetExponent Format.binary32 n exponent .exact =
      (ExtendedMantissa.ofMantissaAndAccuracy n .exact >>> shift, exponent + shift) := by
  have amount : (exponent + shift - exponent).toNat = shift := by omega
  simp only [shiftToTargetExponent, shiftToExponent, targetExponent_eq digits above, amount]

/-- A positive number from its significand, which may be zero. -/
private def assemble (mantissa : Nat) (exponent : Int) : UnpackedFloat :=
  if zero : mantissa = 0 then .zero .positive
  else .finite .positive mantissa exponent (Nat.pos_of_ne_zero zero)

private theorem assemble_normal {mantissa : Nat} {low high exponent : Int}
    (full : mantissa.log2 = 23) (above : low ≤ exponent) (below : exponent ≤ high) :
    Normal low high (assemble mantissa exponent) ∧
      unpackedValue (assemble mantissa exponent) = mantissa * 2 ^ exponent := by
  have positive : mantissa ≠ 0 := by
    intro zero
    rw [zero, Nat.log2_zero] at full
    omega
  rw [assemble, dif_neg positive]
  exact ⟨⟨full, above, below⟩, rfl⟩

private theorem carry_normal {rounded : Nat} {exponent : Int} (least : 2 ^ 23 ≤ rounded)
    (most : rounded ≤ 2 ^ 24) (above : -149 ≤ exponent) :
    let shifted := shiftToTargetExponent Format.binary32 rounded exponent .exact
    Normal exponent (exponent + 1) (assemble shifted.1.mantissa shifted.2) ∧
      unpackedValue (assemble shifted.1.mantissa shifted.2) = rounded * 2 ^ exponent := by
  by_cases carry : rounded = 2 ^ 24
  · subst carry
    have half : (2 ^ 24 : Nat) / 2 ^ 1 = 2 ^ 23 := by norm_num
    have log : (2 ^ 24).log2 = 23 + 1 := Nat.log2_two_pow
    simp only [shiftToTargetExponent_eq log above, (Represents.shiftRight (2 ^ 24) 1).mantissa,
      half]
    have log' : (2 ^ 23).log2 = 23 := Nat.log2_two_pow
    have above' : exponent ≤ exponent + (1 : Nat) := by omega
    obtain ⟨normal, exact'⟩ := assemble_normal log' above' (Int.le_refl (exponent + (1 : Nat)))
    refine ⟨normal, exact'.trans ?_⟩
    rw [zpow_add₀ (by norm_num) exponent]
    push_cast
    ring
  · have log : rounded.log2 = 23 + 0 := (Nat.log2_eq_iff (by omega)).mpr ⟨least, by omega⟩
    simp only [shiftToTargetExponent_eq log above, (Represents.shiftRight rounded 0).mantissa,
      pow_zero, Nat.div_one, Nat.cast_zero, add_zero]
    exact assemble_normal log (by omega) (by omega)

theorem roundWithAccuracy_normal {n shift : Nat} {exponent : Int} (low : 2 ^ 23 * 2 ^ shift ≤ n)
    (high : n < 2 ^ 24 * 2 ^ shift) (above : -149 ≤ exponent) :
    Normal (exponent + shift) (exponent + shift + 1)
        (roundWithAccuracy Format.binary32 .positive n exponent .exact) ∧
      unpackedValue (roundWithAccuracy Format.binary32 .positive n exponent .exact) =
        roundShift n shift * 2 ^ (exponent + shift) := by
  obtain ⟨least, most⟩ := roundShift_bounds low high
  have digits : n.log2 = 23 + shift := by
    refine (Nat.log2_eq_iff (by have := Nat.two_pow_pos shift; omega)).mpr ⟨?_, ?_⟩
    · rw [pow_add]; exact low
    · rw [show 23 + shift + 1 = 24 + shift by omega, pow_add]; exact high
  have stages : roundWithAccuracy Format.binary32 .positive n exponent .exact =
      let shifted := shiftToTargetExponent Format.binary32 (roundShift n shift)
        (exponent + shift) .exact
      assemble shifted.1.mantissa shifted.2 := by
    unfold roundWithAccuracy
    simp only [shiftToTargetExponent_eq digits above,
      (Represents.shiftRight n shift).roundedMantissa]
    rfl
  rw [stages]
  exact carry_normal least most (by omega)

/-- A positive number is converted to a normal one, the nearest. -/
theorem ofNat_normal {n : Nat} (positive : 0 < n) :
    Normal (-23) (n.log2 - 22) (UnpackedFloat.ofNat Format.binary32 n) ∧
      unpackedValue (UnpackedFloat.ofNat Format.binary32 n) = nearest n := by
  obtain ⟨low, high⟩ := log2_bounds positive
  have target : Format.binary32.targetExponent (totalExponent n 0) = n.log2 - 23 := by
    simp only [Format.targetExponent, totalExponent, Format.mantissaBits, Format.minExponent]
    omega
  have entry : UnpackedFloat.ofNat Format.binary32 n =
      roundWithAccuracy Format.binary32 .positive (n * 2 ^ (23 - n.log2))
        (-((23 - n.log2 : Nat) : Int)) .exact := by
    have sign : compare (n : Int) 0 = .gt := by
      rw [Int.compare_eq_gt]
      omega
    have amount : (-((n.log2 : Int) - 23)).toNat = 23 - n.log2 := by omega
    change normalize Format.binary32 n 0 .positive = _
    simp only [UnpackedFloat.normalize, sign, UnpackedFloat.round, target, decreaseExponent,
      Int.toNat_natCast, Nat.shiftLeft_eq, Int.zero_sub, amount]
  have scale (k : Nat) : 2 ^ (n.log2 + k) * 2 ^ (23 - n.log2) =
      2 ^ (23 + k) * 2 ^ (n.log2 - 23) := by
    rw [← pow_add, ← pow_add]
    congr 1
    omega
  have lower : 2 ^ 23 * 2 ^ (n.log2 - 23) ≤ n * 2 ^ (23 - n.log2) := by
    rw [← scale 0]
    exact Nat.mul_le_mul_right _ low
  have upper : n * 2 ^ (23 - n.log2) < 2 ^ 24 * 2 ^ (n.log2 - 23) := by
    rw [← scale 1]
    exact Nat.mul_lt_mul_of_pos_right high (Nat.two_pow_pos _)
  have least : (-149 : Int) ≤ -((23 - n.log2 : Nat) : Int) := by omega
  obtain ⟨normal, exact'⟩ := roundWithAccuracy_normal lower upper least
  rw [entry]
  refine ⟨normal.mono (by omega) (by omega), exact'.trans ?_⟩
  unfold nearest
  by_cases small : n.log2 ≤ 23
  · rw [Nat.sub_eq_zero_of_le small, roundShift_zero, roundShift_zero]
    simp
  · rw [Nat.sub_eq_zero_of_le (by omega : 23 ≤ n.log2)]
    simp

theorem Normal.canonical {number : UnpackedFloat} (normal : Normal (-149) 104 number) :
    Canonical Format.binary32 number := by
  cases number with
  | finite sign mantissa exponent positive =>
      cases sign with
      | negative => exact normal.elim
      | positive =>
          obtain ⟨full, above, below⟩ := normal
          have digits : Format.binary32.mantissaBits = 24 := rfl
          have least : Format.binary32.minExponent = -149 := rfl
          unfold Canonical
          rw [digits, least]
          norm_num
          omega
  | _ => trivial

theorem value_pack {x : Float32} {number : UnpackedFloat} (normal : Normal (-149) 104 number)
    (packed : x.toBits.toBitVec = UnpackedFloat.pack Format.binary32 number) :
    x.isFinite = true ∧ value x = unpackedValue number := by
  have read : x.toModel.unpack = number := by
    change UnpackedFloat.unpack Format.binary32 x.toBits.toBitVec = number
    rw [packed]
    exact unpack_pack normal.canonical
  constructor
  · change x.toModel.unpack.isFinite = true
    rw [read]
    cases number with
    | finite => rfl
    | _ => exact normal.elim
  · rw [value, read]

theorem value_toFloat32 (word : UInt32) :
    word.toFloat32.isFinite = true ∧ value word.toFloat32 = nearest word.toNat := by
  by_cases zero : word = 0
  · subst zero
    decide +kernel
  · have positive : 0 < word.toNat := by
      have : word.toNat ≠ 0 := fun none => zero (UInt32.toNat_inj.mp none)
      omega
    have small : word.toNat.log2 < 32 := (Nat.log2_lt (by omega)).mpr word.toNat_lt
    obtain ⟨normal, exact'⟩ := ofNat_normal positive
    obtain ⟨finite, same⟩ := value_pack (normal.mono (by omega) (by omega))
      (show word.toFloat32.toBits.toBitVec = _ from rfl)
    exact ⟨finite, same.trans exact'⟩

end TunVideo.Binary32
