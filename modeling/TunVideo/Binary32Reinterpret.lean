import TunVideo.Binary32Convert

set_option autoImplicit false

namespace TunVideo.Binary32

open FloatFormat

theorem nearest_small {n : Nat} (small : n < 2 ^ 24) : nearest n = n := by
  have digits : n.log2 ≤ 23 := by
    by_cases zero : n = 0
    · rw [zero, Nat.log2_zero]
      omega
    · have := (Nat.log2_lt zero).mpr small
      omega
  rw [nearest, Nat.sub_eq_zero_of_le digits, roundShift_zero, pow_zero, Nat.mul_one]

theorem nearest_lower {n : Nat} (large : 2 ^ 23 ≤ n) : 2 ^ 23 ≤ nearest n := by
  obtain ⟨low, high⟩ := log2_bounds (show 0 < n by omega)
  have digits : 23 ≤ n.log2 := (Nat.le_log2 (by omega)).mpr large
  have unit := Nat.two_pow_pos (n.log2 - 23)
  have whole : 2 ^ n.log2 = 2 ^ 23 * 2 ^ (n.log2 - 23) := by
    rw [← pow_add]
    congr 1
    omega
  have quotient : 2 ^ 23 ≤ n / 2 ^ (n.log2 - 23) :=
    (Nat.le_div_iff_mul_le unit).mpr (whole ▸ low)
  calc
    2 ^ 23 ≤ roundShift n (n.log2 - 23) := by unfold roundShift; omega
    _ ≤ nearest n := Nat.le_mul_of_pos_right _ unit

/-- Words of 31 digits lose their last seven. -/
theorem nearest_of_log2 {n : Nat} (low : 2 ^ 30 ≤ n) (high : n < 2 ^ 31) :
    nearest n = roundShift n 7 * 2 ^ 7 := by
  have digits : n.log2 = 30 := (Nat.log2_eq_iff (by omega)).mpr ⟨low, high⟩
  rw [nearest, digits]

/-- A multiple of the unit digit is converted exactly. -/
theorem nearest_mul_two_pow {significand : Nat} (shift : Nat) (short : significand < 2 ^ 24) :
    nearest (significand * 2 ^ shift) = significand * 2 ^ shift := by
  by_cases zero : significand = 0
  · rw [zero, Nat.zero_mul]
    decide
  · have unit := Nat.two_pow_pos shift
    have digits := log2_mul_two_pow (show 0 < significand by omega) shift
    have log : significand.log2 < 24 := (Nat.log2_lt zero).mpr short
    have divides : 2 ^ (significand.log2 + shift - 23) ∣ significand * 2 ^ shift :=
      (pow_dvd_pow 2 (by omega)).trans (Nat.dvd_mul_left _ _)
    rw [nearest, digits, roundShift, Nat.mod_eq_zero_of_dvd divides]
    have positive := Nat.two_pow_pos (significand.log2 + shift - 23)
    rw [if_neg (by omega), Nat.add_zero, Nat.div_mul_cancel divides]

theorem magnitude_nonneg (bits : UInt32) : 0 ≤ magnitude bits := by
  unfold magnitude
  positivity

theorem significand_lt (bits : UInt32) : significand bits < 2 ^ 24 := by
  have := fractionField_lt bits
  unfold significand
  split <;> omega

/-- A large magnitude is a natural number. -/
theorem magnitude_of_large {bits : UInt32} (large : 150 ≤ exponentField bits) :
    magnitude bits = (significand bits * 2 ^ (exponentField bits - 150) : Nat) := by
  have scale : ((max (exponentField bits) 1 : Nat) : Int) - 150 =
      (exponentField bits - 150 : Nat) := by omega
  rw [magnitude, scale, zpow_natCast]
  push_cast
  rfl

/-- A magnitude with digits after the point is below its significand. -/
theorem magnitude_le_significand {bits : UInt32} (small : exponentField bits ≤ 150) :
    magnitude bits ≤ significand bits := by
  have scale : ((max (exponentField bits) 1 : Nat) : Int) - 150 ≤ 0 := by omega
  have unit : (2 : ℚ) ^ (((max (exponentField bits) 1 : Nat) : Int) - 150) ≤ 1 :=
    zpow_le_one_of_nonpos₀ (by norm_num) scale
  exact mul_le_of_le_one_right (Nat.cast_nonneg _) unit

/-- Below 2 ^ 23 every finite number with exponent field under 150 stays under its own pattern. -/
private theorem nearest_ne_of_small {bits : UInt32} (positive : 0 < exponentField bits)
    (small : exponentField bits ≤ 149) : (nearest bits.toNat : ℚ) ≠ magnitude bits := by
  have parts := fields bits
  have lower : 2 ^ 23 ≤ nearest bits.toNat := nearest_lower (by omega)
  have short := significand_lt bits
  have scale : ((max (exponentField bits) 1 : Nat) : Int) - 150 ≤ -1 := by omega
  have unit : (2 : ℚ) ^ (((max (exponentField bits) 1 : Nat) : Int) - 150) ≤ 2 ^ (-1 : Int) :=
    zpow_le_zpow_right₀ (by norm_num) scale
  have upper : magnitude bits < 2 ^ 23 := by
    calc
      magnitude bits ≤ significand bits * 2 ^ (-1 : Int) :=
        mul_le_mul_of_nonneg_left unit (Nat.cast_nonneg _)
      _ < 2 ^ 24 * 2 ^ (-1 : Int) := by
        refine mul_lt_mul_of_pos_right ?_ (by norm_num)
        exact_mod_cast short
      _ = 2 ^ 23 := by norm_num
  have lower' : (2 ^ 23 : ℚ) ≤ nearest bits.toNat := by exact_mod_cast lower
  exact (upper.trans_le lower').ne'

/-- The only positive pattern that names its own value lies in the binade of 2 ^ 30. -/
private theorem nearest_eq_of_large {bits : UInt32} (sign : signField bits = 0)
    (large : 150 ≤ exponentField bits) (finite : exponentField bits ≠ 255) :
    (nearest bits.toNat : ℚ) = magnitude bits ↔ bits = 0x4E9D3A75 := by
  have parts := fields bits
  have fraction := fractionField_lt bits
  have exponent : exponentField bits < 255 :=
    Nat.lt_of_le_of_ne (Nat.lt_succ_iff.mp (exponentField_lt bits)) finite
  rw [magnitude_of_large large, Nat.cast_inj,
    nearest_of_log2 (by omega) (by omega), ← UInt32.toNat_inj]
  have full : significand bits = 2 ^ 23 + fractionField bits := by
    rw [significand, if_neg (by omega)]
  have pattern : (0x4E9D3A75 : UInt32).toNat = 157 * 2 ^ 23 + 1915509 := by decide
  rw [full, pattern]
  rcases lt_trichotomy (exponentField bits) 157 with below | same | above
  · have unit : 2 ^ (exponentField bits - 150) ≤ 2 ^ 6 :=
      Nat.pow_le_pow_right (by decide) (by omega)
    have upper : (2 ^ 23 + fractionField bits) * 2 ^ (exponentField bits - 150) ≤
        (2 ^ 23 + fractionField bits) * 2 ^ 6 := Nat.mul_le_mul_left _ unit
    unfold roundShift
    omega
  · have shift : exponentField bits - 150 = 7 := by omega
    rw [shift]
    unfold roundShift
    split <;> omega
  · have unit : 2 ^ 8 ≤ 2 ^ (exponentField bits - 150) :=
      Nat.pow_le_pow_right (by decide) (by omega)
    have lower : (2 ^ 23 + fractionField bits) * 2 ^ 8 ≤
        (2 ^ 23 + fractionField bits) * 2 ^ (exponentField bits - 150) :=
      Nat.mul_le_mul_left _ unit
    unfold roundShift
    split <;> omega

/-- A subnormal is far below its own pattern, unless it is zero. -/
private theorem nearest_eq_of_subnormal {bits : UInt32} (sign : signField bits = 0)
    (subnormal : exponentField bits = 0) :
    (nearest bits.toNat : ℚ) = magnitude bits ↔ bits.toNat = 0 := by
  have parts := fields bits
  have fraction := fractionField_lt bits
  have same : fractionField bits = bits.toNat := by omega
  rw [nearest_small (by omega), magnitude, significand, if_pos subnormal, subnormal, same]
  have unit : (2 : ℚ) ^ (((max 0 1 : Nat) : Int) - 150) < 1 := by norm_num
  constructor
  · intro fixed
    by_contra nonzero
    have positive : (0 : ℚ) < bits.toNat := by
      exact_mod_cast Nat.pos_of_ne_zero nonzero
    have := mul_lt_of_lt_one_right positive unit
    exact absurd fixed this.ne'
  · intro zero
    rw [zero, Nat.cast_zero, zero_mul]

private theorem nearest_eq_magnitude_iff {bits : UInt32} (sign : signField bits = 0)
    (finite : exponentField bits ≠ 255) :
    (nearest bits.toNat : ℚ) = magnitude bits ↔ bits.toNat = 0 ∨ bits = 0x4E9D3A75 := by
  have parts := fields bits
  have fraction := fractionField_lt bits
  have pattern : bits = 0x4E9D3A75 ↔ bits.toNat = 157 * 2 ^ 23 + 1915509 := UInt32.toNat_inj.symm
  by_cases subnormal : exponentField bits = 0
  · rw [nearest_eq_of_subnormal sign subnormal, pattern]
    omega
  · by_cases small : exponentField bits ≤ 149
    · have differs := nearest_ne_of_small (by omega) small
      rw [pattern]
      constructor
      · exact fun same => absurd same differs
      · omega
    · rw [nearest_eq_of_large sign (by omega) finite, pattern]
      omega

/-- A word that is the bit pattern of its own value. -/
def FixedWord (word : UInt32) : Prop := word = 0 ∨ word = 0x4E9D3A75

instance (word : UInt32) : Decidable (FixedWord word) :=
  inferInstanceAs (Decidable (word = 0 ∨ word = 0x4E9D3A75))

/-- Exactly two finite numbers are the numeric value of their own bit pattern. -/
theorem reinterpreted_iff {x : Float32} (finite : x.isFinite = true) :
    value x.toBits.toFloat32 = value x ↔ FixedWord x.toBits := by
  rw [FixedWord, (value_toFloat32 x.toBits).2, value_of_bits x finite]
  rw [isFinite_iff] at finite
  generalize x.toBits = bits at finite ⊢
  have zero : bits = 0 ↔ bits.toNat = 0 := UInt32.toNat_inj.symm
  rw [zero]
  by_cases sign : signField bits = 0
  · rw [if_pos sign]
    exact nearest_eq_magnitude_iff sign finite
  · rw [if_neg sign]
    have parts := fields bits
    have lower : (2 ^ 23 : ℚ) ≤ nearest bits.toNat := by
      exact_mod_cast nearest_lower (by omega)
    have nonneg := magnitude_nonneg bits
    have differs : (nearest bits.toNat : ℚ) ≠ -magnitude bits := by
      intro same
      linarith
    constructor
    · exact fun same => absurd same differs
    · rintro (none | rfl)
      · omega
      · exact absurd (by decide) sign

/-- Every natural number that has a binary32 representation is converted to itself. -/
theorem nearest_of_value {x : Float32} (finite : x.isFinite = true) {n : Nat}
    (same : value x = n) : nearest n = n := by
  rw [value_of_bits x finite] at same
  by_cases sign : signField x.toBits = 0
  · rw [if_pos sign] at same
    have short := significand_lt x.toBits
    by_cases large : 150 ≤ exponentField x.toBits
    · rw [magnitude_of_large large, Nat.cast_inj] at same
      rw [← same]
      exact nearest_mul_two_pow _ short
    · have below : (n : ℚ) ≤ significand x.toBits :=
        same ▸ magnitude_le_significand (by omega)
      have below' : n ≤ significand x.toBits := by exact_mod_cast below
      exact nearest_small (by omega)
  · rw [if_neg sign] at same
    have nonneg := magnitude_nonneg x.toBits
    have zero : (n : ℚ) ≤ 0 := by linarith
    have zero' : n = 0 := by exact_mod_cast le_antisymm zero (Nat.cast_nonneg n)
    rw [zero']
    decide

/-- Conversion to a word: the fraction is discarded. There is no result when what
is left does not fit. -/
def truncate (x : Float32) : Option UInt32 :=
  if x.isFinite = true ∧ -1 < value x ∧ value x < 2 ^ 32 then
    some (UInt32.ofNat ⌊value x⌋.toNat)
  else none

def WordNumber (x : Float32) : Prop := ∃ n : Nat, n < 2 ^ 32 ∧ value x = n

theorem truncate_of_value {x : Float32} (finite : x.isFinite = true) {n : Nat}
    (small : n < 2 ^ 32) (same : value x = n) : truncate x = some (UInt32.ofNat n) := by
  have above : -1 < (n : ℚ) := by
    have : (0 : ℚ) ≤ n := Nat.cast_nonneg n
    linarith
  have below : (n : ℚ) < 2 ^ 32 := by exact_mod_cast small
  rw [truncate, same, if_pos ⟨finite, above, below⟩, Int.floor_natCast, Int.toNat_natCast]

/-- Numbers that survive being written to a word and read back are the words themselves. -/
theorem truncated_iff {x : Float32} (finite : x.isFinite = true) :
    (∃ word, truncate x = some word ∧ value word.toFloat32 = value x) ↔ WordNumber x := by
  constructor
  · rintro ⟨word, written, same⟩
    rw [(value_toFloat32 word).2] at same
    unfold truncate at written
    split at written
    · rename_i fits
      refine ⟨nearest word.toNat, ?_, same.symm⟩
      have below := fits.2.2
      rw [← same] at below
      exact_mod_cast below
    · cases written
  · rintro ⟨n, small, same⟩
    refine ⟨UInt32.ofNat n, truncate_of_value finite small same, ?_⟩
    rw [(value_toFloat32 _).2, UInt32.toNat_ofNat_of_lt' small, nearest_of_value finite same, same]

theorem wordNumber_iff {x : Float32} (finite : x.isFinite = true) {word : UInt32}
    (written : truncate x = some word) : value word.toFloat32 = value x ↔ WordNumber x := by
  constructor
  · exact fun same => (truncated_iff finite).mp ⟨word, written, same⟩
  · intro number
    obtain ⟨word', written', same⟩ := (truncated_iff finite).mpr number
    rw [written] at written'
    rw [Option.some.inj written']
    exact same

theorem truncate_of_wordNumber {x : Float32} (finite : x.isFinite = true)
    (number : WordNumber x) : ∃ word, truncate x = some word := by
  obtain ⟨word, written, -⟩ := (truncated_iff finite).mpr number
  exact ⟨word, written⟩

end TunVideo.Binary32
