import TunVideo.FloatFormat

set_option autoImplicit false

namespace TunVideo.FloatFormat

open Float.Model Float.Model.UnpackedFloat

theorem shiftRight_mantissa (em : ExtendedMantissa) (shift : Nat) :
    (em >>> shift).mantissa = em.mantissa / 2 ^ shift := by
  change (shift.repeat ExtendedMantissa.shiftRightOne em).mantissa = _
  induction shift with
  | zero => rw [pow_zero, Nat.div_one]; rfl
  | succ shift ih =>
      change (shift.repeat ExtendedMantissa.shiftRightOne em).mantissa / 2 = _
      rw [ih, Nat.div_div_eq_div_mul, pow_succ]

theorem ofMantissaAndAccuracy_mantissa (mantissa : Nat) (accuracy : Accuracy) :
    (ExtendedMantissa.ofMantissaAndAccuracy mantissa accuracy).mantissa = mantissa := by
  cases accuracy with
  | exact => rfl
  | inexact order => cases order <;> rfl

theorem roundedMantissa_bounds (em : ExtendedMantissa) :
    em.mantissa ≤ em.roundedMantissa ∧ em.roundedMantissa ≤ em.mantissa + 1 := by
  obtain ⟨mantissa, roundBit, stickyBit⟩ := em
  cases roundBit <;> cases stickyBit <;>
    simp only [ExtendedMantissa.roundedMantissa, ExtendedMantissa.accuracy,
      Accuracy.roundToNearestEven] <;>
    omega

variable {spec : Format} {sign : Sign}

theorem roundWithAccuracy_shifts {mantissa shift rounded carry : Nat} {exponent : Int}
    {accuracy : Accuracy}
    (first : spec.targetExponent (totalExponent mantissa exponent) = exponent + shift)
    (middle : (ExtendedMantissa.ofMantissaAndAccuracy mantissa accuracy >>> shift).roundedMantissa =
      rounded)
    (second : spec.targetExponent (totalExponent rounded (exponent + shift)) =
      exponent + shift + carry) (positive : 0 < rounded / 2 ^ carry) :
    roundWithAccuracy spec sign mantissa exponent accuracy =
      .finite sign (rounded / 2 ^ carry) (exponent + shift + carry) positive := by
  have before : (exponent + shift - exponent).toNat = shift := by omega
  have after : (exponent + shift + carry - (exponent + shift)).toNat = carry := by omega
  simp only [roundWithAccuracy, shiftToTargetExponent, shiftToExponent, first, before, middle,
    second, after, shiftRight_mantissa, ofMantissaAndAccuracy_mantissa, dif_neg positive.ne']

def Between (spec : Format) (low high : ℚ) (number : UnpackedFloat) : Prop :=
  ∃ mantissa exponent positive, number = .finite .positive mantissa exponent positive ∧
    Canonical spec number ∧ low ≤ mantissa * 2 ^ exponent ∧ mantissa * 2 ^ exponent ≤ high

theorem Between.mono {low high low' high' : ℚ} {number : UnpackedFloat}
    (between : Between spec low high number) (lower : low' ≤ low) (higher : high ≤ high') :
    Between spec low' high' number := by
  obtain ⟨mantissa, exponent, positive, same, canonical, least, most⟩ := between
  exact ⟨mantissa, exponent, positive, same, canonical, lower.trans least, most.trans higher⟩

theorem Between.zero_add {low high : ℚ} {number : UnpackedFloat}
    (between : Between spec low high number) (sign : Sign) :
    UnpackedFloat.add spec (.zero sign) number = number := by
  obtain ⟨mantissa, exponent, positive, rfl, -⟩ := between
  rfl

theorem Between.add_zero {low high : ℚ} {number : UnpackedFloat}
    (between : Between spec low high number) (sign : Sign) :
    UnpackedFloat.add spec number (.zero sign) = number := by
  obtain ⟨mantissa, exponent, positive, rfl, -⟩ := between
  rfl

/-- A number lies between the powers of two around its leading digit. -/
theorem two_zpow_le {mantissa : Nat} (positive : 0 < mantissa) (exponent : Int) :
    (2 : ℚ) ^ (totalExponent mantissa exponent - 1) ≤ mantissa * 2 ^ exponent := by
  have leading : (2 : ℚ) ^ mantissa.log2 ≤ mantissa := by
    exact_mod_cast (log2_bounds positive).1
  have split : (2 : ℚ) ^ (totalExponent mantissa exponent - 1) =
      2 ^ mantissa.log2 * 2 ^ exponent := by
    rw [← zpow_natCast, ← zpow_add₀ two_ne_zero, totalExponent]
    congr 1
    omega
  rw [split]
  exact mul_le_mul_of_nonneg_right leading (zpow_nonneg zero_le_two _)

theorem succ_mul_le_two_zpow {mantissa : Nat} (positive : 0 < mantissa) (exponent : Int) :
    ((mantissa : ℚ) + 1) * 2 ^ exponent ≤ 2 ^ totalExponent mantissa exponent := by
  have leading : (mantissa : ℚ) + 1 ≤ 2 ^ (mantissa.log2 + 1) := by
    exact_mod_cast (log2_bounds positive).2
  have split : (2 : ℚ) ^ totalExponent mantissa exponent =
      2 ^ (mantissa.log2 + 1) * 2 ^ exponent := by
    rw [← zpow_natCast, ← zpow_add₀ two_ne_zero, totalExponent]
    congr 1
  rw [split]
  exact mul_le_mul_of_nonneg_right leading (zpow_nonneg zero_le_two _)

theorem le_two_zpow {mantissa : Nat} (positive : 0 < mantissa) (exponent : Int) :
    (mantissa : ℚ) * 2 ^ exponent ≤ 2 ^ totalExponent mantissa exponent :=
  le_trans (mul_le_mul_of_nonneg_right (le_add_of_nonneg_right zero_le_one)
    (zpow_nonneg zero_le_two _)) (succ_mul_le_two_zpow positive exponent)

theorem two_zpow_lt_iff {first second : Int} : (2 : ℚ) ^ first < 2 ^ second ↔ first < second :=
  zpow_lt_zpow_iff_right₀ one_lt_two

theorem two_zpow_le_iff {first second : Int} : (2 : ℚ) ^ first ≤ 2 ^ second ↔ first ≤ second :=
  zpow_le_zpow_iff_right₀ one_lt_two

/-- The digits that are kept are rounded up to one more digit at most. -/
theorem rounded_bounds {mantissa digits shift : Nat} (positive : 0 < mantissa)
    (split : mantissa.log2 = digits + shift) (accuracy : Accuracy) :
    let rounded :=
      (ExtendedMantissa.ofMantissaAndAccuracy mantissa accuracy >>> shift).roundedMantissa
    2 ^ digits ≤ rounded ∧ rounded ≤ 2 ^ (digits + 1) := by
  intro rounded
  obtain ⟨low, high⟩ := log2_bounds positive
  have unit := Nat.two_pow_pos shift
  obtain ⟨floor, ceiling⟩ :=
    roundedMantissa_bounds (ExtendedMantissa.ofMantissaAndAccuracy mantissa accuracy >>> shift)
  rw [shiftRight_mantissa, ofMantissaAndAccuracy_mantissa] at floor ceiling
  have least : 2 ^ digits ≤ mantissa / 2 ^ shift := by
    rw [Nat.le_div_iff_mul_le unit, ← pow_add, ← split]
    exact low
  have most : mantissa / 2 ^ shift < 2 ^ (digits + 1) := by
    rw [Nat.div_lt_iff_lt_mul unit, ← pow_add, Nat.add_right_comm, ← split]
    exact high
  exact ⟨least.trans floor, ceiling.trans most⟩

theorem targetExponent_eq_max (spec : Format) (top : Int) :
    spec.targetExponent top = max (top - spec.mantissaBits) spec.minExponent := rfl

theorem between_leading {mantissa : Nat} {exponent : Int} (positive : 0 < mantissa)
    (canonical : Canonical spec (.finite .positive mantissa exponent positive)) :
    Between spec (2 ^ (totalExponent mantissa exponent - 1))
      (2 ^ totalExponent mantissa exponent) (.finite .positive mantissa exponent positive) :=
  ⟨_, _, _, rfl, canonical, two_zpow_le positive exponent, le_two_zpow positive exponent⟩

theorem between_two_pow {digits : Nat} {exponent : Int} (positive : 0 < 2 ^ digits)
    (canonical : Canonical spec (.finite .positive (2 ^ digits) exponent positive)) :
    Between spec (2 ^ (digits + exponent)) (2 ^ (digits + exponent))
      (.finite .positive (2 ^ digits) exponent positive) := by
  have value : ((2 ^ digits : Nat) : ℚ) * 2 ^ exponent = 2 ^ (digits + exponent) := by
    rw [Nat.cast_pow, Nat.cast_ofNat, zpow_add₀ two_ne_zero, zpow_natCast]
  exact ⟨_, _, _, rfl, canonical, value.ge, value.le⟩

/-- A rounded number stays between the powers of two around its leading digit. -/
theorem roundWithAccuracy_binade {mantissa : Nat} {exponent : Int} (accuracy : Accuracy)
    (positive : 0 < mantissa)
    (fine : exponent ≤ spec.targetExponent (totalExponent mantissa exponent))
    (normal : spec.minExponent < totalExponent mantissa exponent)
    (room : totalExponent mantissa exponent + 3 ≤
      spec.minExponent + (2 ^ spec.exponentBits : Nat)) :
    Between spec (2 ^ (totalExponent mantissa exponent - 1))
      (2 ^ totalExponent mantissa exponent)
      (roundWithAccuracy spec .positive mantissa exponent accuracy) := by
  have bits : 0 < spec.mantissaBitsWithoutImplicit := spec.hm
  have width : spec.mantissaBits = 1 + spec.mantissaBitsWithoutImplicit := rfl
  generalize leading : totalExponent mantissa exponent = top at fine normal room ⊢
  have target := targetExponent_eq_max spec top
  have top_eq : (mantissa.log2 : Int) + 1 + exponent = top := leading
  obtain ⟨shift, first⟩ : ∃ shift : Nat, spec.targetExponent top = exponent + shift :=
    ⟨(spec.targetExponent top - exponent).toNat, by omega⟩
  obtain ⟨digits, split⟩ : ∃ digits, mantissa.log2 = digits + shift :=
    ⟨mantissa.log2 - shift, by omega⟩
  obtain ⟨low, high⟩ := rounded_bounds positive split accuracy
  generalize middle :
    (ExtendedMantissa.ofMantissaAndAccuracy mantissa accuracy >>> shift).roundedMantissa =
      rounded at low high
  have unit := Nat.two_pow_pos digits
  have stored : 0 < rounded := by omega
  have first' : spec.targetExponent (totalExponent mantissa exponent) = exponent + shift := by
    rw [leading, first]
  by_cases full : rounded = 2 ^ (digits + 1)
  · -- the carry takes one more digit, of which a full significand has no room
    subst full
    have next : totalExponent (2 ^ (digits + 1)) (exponent + shift) = top + 1 := by
      rw [totalExponent, Nat.log2_two_pow]
      omega
    have further := targetExponent_eq_max spec (top + 1)
    obtain ⟨carry, second, binary⟩ : ∃ carry : Nat,
        spec.targetExponent (top + 1) = exponent + shift + carry ∧ carry ≤ 1 :=
      ⟨(spec.targetExponent (top + 1) - (exponent + shift)).toNat, by omega, by omega⟩
    have halved : 2 ^ (digits + 1) / 2 ^ carry = 2 ^ (digits + 1 - carry) :=
      Nat.pow_div (by omega) two_pos
    have kept : 0 < 2 ^ (digits + 1) / 2 ^ carry := halved ▸ Nat.two_pow_pos _
    rw [roundWithAccuracy_shifts first' middle (by rw [next, second]) kept]
    simp only [halved]
    have power : ((digits + 1 - carry : Nat) : Int) + (exponent + shift + carry) = top := by omega
    rw [← power]
    refine (between_two_pow (Nat.two_pow_pos _) ?_).mono (two_zpow_le_iff.mpr (by omega)) le_rfl
    refine ⟨?_, fun short => ?_, by omega, by omega⟩
    · rw [Nat.log2_two_pow]
      omega
    · rw [Nat.log2_two_pow] at short
      omega
  · have log : rounded.log2 = digits := (Nat.log2_eq_iff stored.ne').mpr ⟨low, by omega⟩
    have same : totalExponent rounded (exponent + shift) = top := by
      rw [totalExponent, log]
      omega
    have kept : 0 < rounded / 2 ^ 0 := by rwa [pow_zero, Nat.div_one]
    have second : spec.targetExponent (totalExponent rounded (exponent + shift)) =
        exponent + shift + (0 : Nat) := by
      rw [same, first, Nat.cast_zero, add_zero]
    rw [roundWithAccuracy_shifts first' middle second kept]
    simp only [pow_zero, Nat.div_one, Nat.cast_zero, add_zero]
    rw [← same]
    exact between_leading stored ⟨by omega, fun short => by omega, by omega, by omega⟩

/-- What a significand stands for, exactly or cut off, is rounded between the same powers of
two. -/
theorem roundWithAccuracy_between {mantissa : Nat} {exponent low high : Int} {exact : ℚ}
    (accuracy : Accuracy) (positive : 0 < mantissa) (above : mantissa * 2 ^ exponent ≤ exact)
    (below : exact < (mantissa + 1) * 2 ^ exponent)
    (fine : exponent ≤ spec.targetExponent (totalExponent mantissa exponent))
    (least : 2 ^ low ≤ exact) (most : exact < 2 ^ high) (normal : spec.minExponent ≤ low)
    (room : high + 3 ≤ spec.minExponent + (2 ^ spec.exponentBits : Nat)) :
    Between spec (2 ^ low) (2 ^ high)
      (roundWithAccuracy spec .positive mantissa exponent accuracy) := by
  have lower : low < totalExponent mantissa exponent :=
    two_zpow_lt_iff.mp ((least.trans_lt below).trans_le (succ_mul_le_two_zpow positive exponent))
  have upper : totalExponent mantissa exponent - 1 < high :=
    two_zpow_lt_iff.mp (((two_zpow_le positive exponent).trans above).trans_lt most)
  have binade : Between spec _ _
      (roundWithAccuracy spec .positive mantissa exponent accuracy) :=
    roundWithAccuracy_binade accuracy positive fine (by omega) (by omega)
  exact binade.mono (two_zpow_le_iff.mpr (by omega)) (two_zpow_le_iff.mpr (by omega))

theorem shiftLeft_value (mantissa shift : Nat) (exponent : Int) :
    ((mantissa <<< shift : Nat) : ℚ) * 2 ^ (exponent - shift) = mantissa * 2 ^ exponent := by
  have whole : (shift : Int) + (exponent - shift) = exponent := by omega
  rw [Nat.shiftLeft_eq, Nat.cast_mul, Nat.cast_pow, Nat.cast_ofNat, mul_assoc, ← zpow_natCast,
    ← zpow_add₀ two_ne_zero, whole]

theorem totalExponent_shiftLeft {mantissa : Nat} (positive : 0 < mantissa) (shift : Nat)
    (exponent : Int) :
    totalExponent (mantissa <<< shift) (exponent - shift) = totalExponent mantissa exponent := by
  rw [totalExponent, totalExponent, Nat.shiftLeft_eq, log2_mul_two_pow positive shift]
  omega

theorem shiftLeft_pos {mantissa : Nat} (positive : 0 < mantissa) (shift : Nat) :
    0 < mantissa <<< shift := by
  rw [Nat.shiftLeft_eq]
  exact Nat.mul_pos positive (Nat.two_pow_pos shift)

/-- A number is rounded to one between the same powers of two. -/
theorem round_between {mantissa : Nat} {exponent low high : Int} (positive : 0 < mantissa)
    (least : 2 ^ low ≤ (mantissa : ℚ) * 2 ^ exponent)
    (most : (mantissa : ℚ) * 2 ^ exponent < 2 ^ high) (normal : spec.minExponent ≤ low)
    (room : high + 3 ≤ spec.minExponent + (2 ^ spec.exponentBits : Nat)) :
    Between spec (2 ^ low) (2 ^ high)
      (UnpackedFloat.round spec .positive mantissa exponent) := by
  simp only [UnpackedFloat.round, decreaseExponent]
  generalize amount : (exponent -
    spec.targetExponent (totalExponent mantissa exponent)).toNat = shift
  have value := shiftLeft_value mantissa shift exponent
  have unit : (0 : ℚ) < 2 ^ (exponent - shift) := zpow_pos two_pos _
  apply roundWithAccuracy_between .exact (shiftLeft_pos positive shift) value.le ?_ ?_ least most
    normal room
  · rw [← value]
    exact mul_lt_mul_of_pos_right (lt_add_one _) unit
  · rw [totalExponent_shiftLeft positive]
    omega

section

variable {number : UnpackedFloat} {lowest highest : ℚ} {mantissa : Nat} {exponent low high : Int}
  {positive : 0 < mantissa}

theorem mul_between (between : Between spec lowest highest number)
    (full : mantissa.log2 + 1 = spec.mantissaBits)
    (least : 2 ^ low ≤ lowest * (mantissa * 2 ^ exponent))
    (most : highest * (mantissa * 2 ^ exponent) < 2 ^ high) (normal : spec.minExponent ≤ low)
    (room : high + 3 ≤ spec.minExponent + (2 ^ spec.exponentBits : Nat)) :
    Between spec (2 ^ low) (2 ^ high)
      (UnpackedFloat.mul spec number (.finite .positive mantissa exponent positive)) := by
  obtain ⟨first, scale, some, rfl, -, lower, upper⟩ := between
  have factor : (0 : ℚ) ≤ mantissa * 2 ^ exponent :=
    mul_nonneg (Nat.cast_nonneg _) (zpow_nonneg zero_le_two _)
  have value : ((first * mantissa : Nat) : ℚ) * 2 ^ (scale + exponent) =
      first * 2 ^ scale * (mantissa * 2 ^ exponent) := by
    rw [zpow_add₀ two_ne_zero, Nat.cast_mul]
    ring
  have nonzero := Nat.mul_pos some positive
  have digits : mantissa.log2 ≤ (first * mantissa).log2 := by
    rw [Nat.le_log2 nonzero.ne']
    exact (log2_bounds positive).1.trans (Nat.le_mul_of_pos_left _ some)
  change Between spec _ _
    (roundWithAccuracy spec .positive (first * mantissa) (scale + exponent) .exact)
  apply roundWithAccuracy_between .exact nonzero value.le ?_ ?_
    (least.trans (mul_le_mul_of_nonneg_right lower factor))
    ((mul_le_mul_of_nonneg_right upper factor).trans_lt most) normal room
  · rw [← value]
    exact mul_lt_mul_of_pos_right (lt_add_one _) (zpow_pos two_pos _)
  · rw [targetExponent_eq_max, totalExponent]
    omega

/-- A quotient lies above the power of two that the leading digits give. -/
theorem two_zpow_le_div {first second : Nat} (some : 0 < first) (positive : 0 < second)
    (scale exponent : Int) :
    (2 : ℚ) ^ (totalExponent first scale - totalExponent second exponent - 1) ≤
      first * 2 ^ scale / (second * 2 ^ exponent) := by
  have divisor : (0 : ℚ) < second * 2 ^ exponent :=
    mul_pos (Nat.cast_pos.mpr positive) (zpow_pos two_pos _)
  have upper := le_two_zpow positive exponent
  rw [le_div_iff₀ divisor]
  calc
    (2 : ℚ) ^ (totalExponent first scale - totalExponent second exponent - 1) *
        (second * 2 ^ exponent) ≤
        2 ^ (totalExponent first scale - totalExponent second exponent - 1) *
          2 ^ totalExponent second exponent :=
      mul_le_mul_of_nonneg_left upper (zpow_nonneg zero_le_two _)
    _ = 2 ^ (totalExponent first scale - 1) := by
      rw [← zpow_add₀ two_ne_zero]
      congr 1
      omega
    _ ≤ first * 2 ^ scale := two_zpow_le some scale

theorem div_floor (first shift mantissa : Nat) (scale exponent : Int) :
    ((first <<< shift / mantissa : Nat) : ℚ) * 2 ^ (scale - exponent - shift) ≤
        first * 2 ^ scale / (mantissa * 2 ^ exponent) ∧
      first * 2 ^ scale / (mantissa * 2 ^ exponent) <
        (((first <<< shift / mantissa : Nat) : ℚ) + 1) * 2 ^ (scale - exponent - shift) := by
  have unit : (0 : ℚ) < 2 ^ (scale - exponent - shift) := zpow_pos two_pos _
  have exact : (first : ℚ) * 2 ^ scale / (mantissa * 2 ^ exponent) =
      (first <<< shift : Nat) / mantissa * 2 ^ (scale - exponent - shift) := by
    rw [← shiftLeft_value first shift scale, mul_div_mul_comm, ← zpow_sub₀ two_ne_zero,
      sub_right_comm]
  rw [exact]
  constructor
  · exact mul_le_mul_of_nonneg_right Nat.cast_div_le unit.le
  · apply mul_lt_mul_of_pos_right _ unit
    rw [← Nat.floor_div_eq_div (K := ℚ)]
    exact Nat.lt_floor_add_one _

theorem div_between (between : Between spec lowest highest number)
    (least : 2 ^ low ≤ lowest / (mantissa * 2 ^ exponent))
    (most : highest / (mantissa * 2 ^ exponent) < 2 ^ high) (normal : spec.minExponent ≤ low)
    (room : high + 3 ≤ spec.minExponent + (2 ^ spec.exponentBits : Nat)) :
    Between spec (2 ^ low) (2 ^ high)
      (UnpackedFloat.div spec number (.finite .positive mantissa exponent positive)) := by
  obtain ⟨first, scale, some, rfl, -, lower, upper⟩ := between
  have divisor : (0 : ℚ) < mantissa * 2 ^ exponent :=
    mul_pos (Nat.cast_pos.mpr positive) (zpow_pos two_pos _)
  have least := least.trans (div_le_div_of_nonneg_right lower divisor.le)
  have most := (div_le_div_of_nonneg_right upper divisor.le).trans_lt most
  have leading := two_zpow_le_div some positive scale exponent
  have bits : 0 < spec.mantissaBits := by
    rw [Format.mantissaBits]
    omega
  have minimum := targetExponent_eq_max spec
    (totalExponent first scale - totalExponent mantissa exponent)
  simp only [UnpackedFloat.div, divCore]
  generalize target : min (scale - exponent) (spec.targetExponent
    (totalExponent first scale - totalExponent mantissa exponent)) = unitExponent
  obtain ⟨shift, rfl⟩ : ∃ shift : Nat, unitExponent = scale - exponent - shift :=
    ⟨(scale - exponent - unitExponent).toNat, by omega⟩
  have amount : (scale - exponent - (scale - exponent - shift)).toNat = shift := by omega
  obtain ⟨floor, ceiling⟩ := div_floor first shift mantissa scale exponent
  rw [amount]
  generalize first <<< shift / mantissa = quotient at floor ceiling ⊢
  -- the quotient has a digit, since its unit is no larger than what it stands for
  have digit : (2 : ℚ) ^ (scale - exponent - shift) ≤
      first * 2 ^ scale / (mantissa * 2 ^ exponent) := by
    by_cases small : scale - exponent - shift ≤ low
    · exact (two_zpow_le_iff.mpr small).trans least
    · exact (two_zpow_le_iff.mpr (by omega)).trans leading
  have nonzero : 0 < quotient := by
    by_contra none
    have zero : quotient = 0 := by omega
    rw [zero, Nat.cast_zero, zero_add, one_mul] at ceiling
    exact absurd digit ceiling.not_ge
  have top := two_zpow_lt_iff.mp
    ((leading.trans_lt ceiling).trans_le (succ_mul_le_two_zpow nonzero _))
  have fine := targetExponent_eq_max spec
    (totalExponent quotient (scale - exponent - shift))
  exact roundWithAccuracy_between _ nonzero floor ceiling (by omega) least most normal room

end

/-- Aligned to a smaller exponent, a number stands for what it did. -/
theorem decreaseExponent_value (sign : Sign) (mantissa : Nat) {exponent target : Int}
    (smaller : target ≤ exponent) :
    ((sign.apply (decreaseExponent mantissa exponent target).1 : Int) : ℚ) * 2 ^ target =
      (sign.apply mantissa : Int) * 2 ^ exponent := by
  have shifted := shiftLeft_value mantissa (exponent - target).toNat exponent
  have aligned : exponent - (exponent - target).toNat = target := by omega
  rw [aligned] at shifted
  change ((sign.apply (mantissa <<< (exponent - target).toNat : Nat) : Int) : ℚ) * 2 ^ target = _
  cases sign with
  | positive => exact shifted
  | negative =>
      change ((-(mantissa <<< (exponent - target).toNat : Nat) : Int) : ℚ) * 2 ^ target =
        ((-(mantissa : Int) : Int) : ℚ) * 2 ^ exponent
      rw [Int.cast_neg, Int.cast_neg, neg_mul, neg_mul]
      exact congrArg Neg.neg shifted

/-- The sum of two numbers of either sign, where it is positive. -/
theorem add_between {first second : Sign} {mantissa mantissa' : Nat}
    {exponent exponent' low high : Int} {positive : 0 < mantissa} {positive' : 0 < mantissa'}
    (least : 2 ^ low ≤ ((first.apply mantissa : Int) : ℚ) * 2 ^ exponent +
      (second.apply mantissa' : Int) * 2 ^ exponent')
    (most : ((first.apply mantissa : Int) : ℚ) * 2 ^ exponent +
      (second.apply mantissa' : Int) * 2 ^ exponent' < 2 ^ high)
    (normal : spec.minExponent ≤ low)
    (room : high + 3 ≤ spec.minExponent + (2 ^ spec.exponentBits : Nat)) :
    Between spec (2 ^ low) (2 ^ high)
      (UnpackedFloat.add spec (.finite first mantissa exponent positive)
        (.finite second mantissa' exponent' positive')) := by
  change Between spec _ _ (UnpackedFloat.normalize spec
    (first.apply (decreaseExponent mantissa exponent (min exponent exponent')).1 +
      second.apply (decreaseExponent mantissa' exponent' (min exponent exponent')).1)
    (min exponent exponent') .positive)
  have value := congrArg₂ (· + ·)
    (decreaseExponent_value first mantissa (min_le_left exponent exponent'))
    (decreaseExponent_value second mantissa' (min_le_right exponent exponent'))
  rw [← add_mul, ← Int.cast_add] at value
  rw [← value] at least most
  generalize first.apply (decreaseExponent mantissa exponent (min exponent exponent')).1 +
    second.apply (decreaseExponent mantissa' exponent' (min exponent exponent')).1 =
      sum at least most ⊢
  have scale : (0 : ℚ) < 2 ^ min exponent exponent' := zpow_pos two_pos _
  have above : 0 < sum := by
    have product := (zpow_pos two_pos low).trans_le least
    exact_mod_cast (mul_pos_iff_of_pos_right scale).mp product
  obtain ⟨count, rfl⟩ := Int.eq_ofNat_of_zero_le above.le
  have greater : compare (count : Int) 0 = .gt := Int.compare_eq_gt.mpr above
  rw [Int.cast_natCast] at least most
  simp only [UnpackedFloat.normalize, greater, Int.toNat_natCast]
  exact round_between (by omega) least most normal room

/-- Canonical numbers are compared by what they stand for. -/
theorem lt_of_compare {mantissa mantissa' : Nat} {exponent exponent' : Int}
    {positive : 0 < mantissa} {positive' : 0 < mantissa'}
    (first : Canonical spec (.finite .positive mantissa exponent positive))
    (second : Canonical spec (.finite .positive mantissa' exponent' positive'))
    (less : UnpackedFloat.lt (.finite .positive mantissa exponent positive)
      (.finite .positive mantissa' exponent' positive') = true) :
    (mantissa : ℚ) * 2 ^ exponent < mantissa' * 2 ^ exponent' := by
  have order : ((compare exponent exponent').then (compare mantissa mantissa') == .lt) = true :=
    less
  have width : spec.mantissaBits = 1 + spec.mantissaBitsWithoutImplicit := rfl
  rcases lt_trichotomy exponent exponent' with before | rfl | after
  · -- the larger exponent belongs to a full significand
    have short := first.1
    have full : mantissa'.log2 + 1 = spec.mantissaBits := by
      have digits := second.1
      have least := first.2.2.1
      by_contra partly
      have lowest := second.2.1 (by omega)
      omega
    calc
      (mantissa : ℚ) * 2 ^ exponent < (mantissa + 1) * 2 ^ exponent :=
        mul_lt_mul_of_pos_right (lt_add_one _) (zpow_pos two_pos _)
      _ ≤ 2 ^ totalExponent mantissa exponent := succ_mul_le_two_zpow positive exponent
      _ ≤ 2 ^ (totalExponent mantissa' exponent' - 1) := by
        rw [two_zpow_le_iff, totalExponent, totalExponent]
        omega
      _ ≤ mantissa' * 2 ^ exponent' := two_zpow_le positive' exponent'
  · have smaller : mantissa < mantissa' := by
      rw [Int.compare_eq_eq.mpr rfl, Ordering.eq_then, beq_iff_eq] at order
      exact Nat.compare_eq_lt.mp order
    exact mul_lt_mul_of_pos_right (Nat.cast_lt.mpr smaller) (zpow_pos two_pos _)
  · rw [Int.compare_eq_gt.mpr after] at order
    cases order

/-- A sum that is positive is not below the unit of its digits. -/
theorem two_zpow_le_sum {first second : Sign} {mantissa mantissa' : Nat}
    {exponent exponent' low : Int} (unit : low ≤ exponent) (unit' : low ≤ exponent')
    (above : 0 < ((first.apply mantissa : Int) : ℚ) * 2 ^ exponent +
      (second.apply mantissa' : Int) * 2 ^ exponent') :
    (2 : ℚ) ^ low ≤ ((first.apply mantissa : Int) : ℚ) * 2 ^ exponent +
      (second.apply mantissa' : Int) * 2 ^ exponent' := by
  have scale : (0 : ℚ) < 2 ^ low := zpow_pos two_pos _
  rw [← decreaseExponent_value first mantissa unit, ← decreaseExponent_value second mantissa' unit',
    ← add_mul, ← Int.cast_add] at above ⊢
  have count : (0 : ℚ) < (first.apply (decreaseExponent mantissa exponent low).1 +
      second.apply (decreaseExponent mantissa' exponent' low).1 : Int) :=
    (mul_pos_iff_of_pos_right scale).mp above
  have one : (1 : ℚ) ≤ (first.apply (decreaseExponent mantissa exponent low).1 +
      second.apply (decreaseExponent mantissa' exponent' low).1 : Int) := by
    exact_mod_cast Int.add_one_le_iff.mpr (Int.cast_pos.mp count)
  exact le_mul_of_one_le_left scale.le one

/-- A number added to a larger one of either sign does not cancel it. -/
theorem add_between_of_lt {sign : Sign} {mantissa mantissa' : Nat} {exponent exponent' high : Int}
    {positive : 0 < mantissa} {positive' : 0 < mantissa'}
    (first : Canonical spec (.finite .positive mantissa exponent positive))
    (second : Canonical spec (.finite .positive mantissa' exponent' positive'))
    (less : UnpackedFloat.lt (.finite .positive mantissa exponent positive)
      (.finite .positive mantissa' exponent' positive') = true)
    (most : (mantissa' : ℚ) * 2 ^ exponent' < 2 ^ high)
    (room : high + 4 ≤ spec.minExponent + (2 ^ spec.exponentBits : Nat)) :
    Between spec (2 ^ spec.minExponent) (2 ^ (high + 1))
      (UnpackedFloat.add spec (.finite sign mantissa exponent positive)
        (.finite .positive mantissa' exponent' positive')) := by
  have smaller := lt_of_compare first second less
  have some : (0 : ℚ) < mantissa * 2 ^ exponent :=
    mul_pos (Nat.cast_pos.mpr positive) (zpow_pos two_pos _)
  have double : (2 : ℚ) ^ (high + 1) = 2 ^ high * 2 := zpow_add_one₀ two_ne_zero high
  have magnitude : ((sign.apply mantissa : Int) : ℚ) * 2 ^ exponent = mantissa * 2 ^ exponent ∨
      ((sign.apply mantissa : Int) : ℚ) * 2 ^ exponent = -(mantissa * 2 ^ exponent) := by
    cases sign with
    | positive => exact Or.inl (by rw [Sign.apply, Int.cast_natCast])
    | negative => exact Or.inr (by rw [Sign.apply, Int.cast_neg, Int.cast_natCast, neg_mul])
  have larger : ((Sign.positive.apply mantissa' : Int) : ℚ) * 2 ^ exponent' =
      mantissa' * 2 ^ exponent' := by
    rw [Sign.apply, Int.cast_natCast]
  apply add_between (two_zpow_le_sum first.2.2.1 second.2.2.1 ?_) ?_ le_rfl (by omega)
  · rw [larger]
    rcases magnitude with same | opposite <;> linarith
  · rw [larger]
    rcases magnitude with same | opposite <;> linarith

theorem Between.not_isZero {low high : ℚ} {number : UnpackedFloat}
    (between : Between spec low high number) : ¬IsZero number := by
  obtain ⟨mantissa, exponent, positive, rfl, -⟩ := between
  rintro ⟨sign, zero⟩
  cases zero

end TunVideo.FloatFormat
