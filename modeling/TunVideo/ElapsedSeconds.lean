import TunVideo.PredictLoop
import TunVideo.Rounding

set_option autoImplicit false

namespace TunVideo

open Float.Model FloatFormat

namespace Binary32

/-- A word below 2 ^ 24 is the number it is converted to. -/
theorem between_word {word : UInt32} (positive : 0 < word.toNat) (small : word.toNat < 2 ^ 24) :
    Between Format.binary32 word.toNat word.toNat word.toFloat32.toModel.unpack := by
  have digits : word.toNat.log2 < 24 := (Nat.log2_lt (by omega)).mpr small
  obtain ⟨normal, value⟩ := ofNat_normal positive
  have canonical := (normal.mono (by omega) (by omega) : Normal (-149) 104 _).canonical
  have read : word.toFloat32.toModel.unpack = UnpackedFloat.ofNat Format.binary32 word.toNat :=
    unpack_packed canonical
  rw [read]
  rw [nearest_small small] at value
  generalize UnpackedFloat.ofNat Format.binary32 word.toNat = number at normal value canonical ⊢
  cases number with
  | finite sign mantissa exponent some =>
      cases sign with
      | positive => exact ⟨mantissa, exponent, some, rfl, canonical, value.ge, value.le⟩
      | negative => exact normal.elim
  | _ => exact normal.elim

theorem between_toDouble {x : Float32} {low high : ℚ}
    (between : Between Format.binary32 low high x.toModel.unpack) :
    Between Format.binary64 low high (toDouble x).toModel.unpack := by
  obtain ⟨mantissa, exponent, positive, same, canonical, least, most⟩ := between
  have value := shiftLeft_value mantissa (52 - mantissa.log2) exponent
  rw [Nat.shiftLeft_eq] at value
  have wide := widen_canonical canonical
  rw [unpack_toDouble]
  rw [same] at wide ⊢
  exact ⟨_, _, _, rfl, wide, by rwa [value], by rwa [value]⟩

theorem between_packed64 {number : UnpackedFloat} {low high : ℚ}
    (between : Between Format.binary64 low high number) :
    Between Format.binary64 low high (Float.Model.pack number).unpack := by
  obtain ⟨_, _, _, _, canonical, _⟩ := id between
  rwa [unpack_packed64 canonical]

theorem between_ofDouble {y : Float} {lowest highest : ℚ} {low high : Int}
    (between : Between Format.binary64 lowest highest y.toModel.unpack)
    (least : 2 ^ low ≤ lowest) (most : highest < 2 ^ high) (normal : -149 ≤ low)
    (room : high ≤ 104) :
    Between Format.binary32 (2 ^ low) (2 ^ high) (ofDouble y).toModel.unpack := by
  obtain ⟨mantissa, exponent, positive, same, -, lower, upper⟩ := between
  have stored : (ofDouble y).toModel.unpack = (Float32.Model.pack
      (UnpackedFloat.round Format.binary32 .positive mantissa exponent)).unpack := by
    unfold ofDouble
    rw [same]
  have rounded : Between Format.binary32 (2 ^ low) (2 ^ high)
      (UnpackedFloat.round Format.binary32 .positive mantissa exponent) := by
    have subnormal : Format.binary32.minExponent = -149 := rfl
    have width : Format.binary32.exponentBits = 8 := rfl
    apply round_between positive (least.trans lower) (upper.trans_lt most)
    · omega
    · rw [subnormal, width]
      omega
  obtain ⟨_, _, _, _, canonical, _⟩ := id rounded
  rwa [stored, unpack_packed canonical]

theorem truncate_between {x : Float32} {low high : Nat}
    (between : Between Format.binary32 low high x.toModel.unpack) (fits : high < 2 ^ 32) :
    ∃ word, truncate x = some word ∧ low ≤ word.toNat ∧ word.toNat ≤ high := by
  obtain ⟨mantissa, exponent, positive, same, -, least, most⟩ := between
  have finite : x.isFinite = true := by
    change x.toModel.unpack.isFinite = true
    rw [same]
    rfl
  have known : value x = mantissa * 2 ^ exponent := by
    rw [value, same]
    rfl
  rw [← known] at least most
  have lower : (low : Int) ≤ ⌊value x⌋ := Int.le_floor.mpr (by exact_mod_cast least)
  have upper : ⌊value x⌋ ≤ high := by
    have floor := (Int.floor_le (value x)).trans most
    exact_mod_cast floor
  have above : -1 < value x := by
    have some : (0 : ℚ) ≤ low := Nat.cast_nonneg low
    linarith
  have below : value x < 2 ^ 32 := most.trans_lt (by exact_mod_cast fits)
  refine ⟨UInt32.ofNat ⌊value x⌋.toNat, ?_, ?_, ?_⟩
  · rw [truncate, if_pos ⟨finite, above, below⟩]
  · rw [UInt32.toNat_ofNat_of_lt' (show ⌊value x⌋.toNat < 2 ^ 32 by omega)]
    omega
  · rw [UInt32.toNat_ofNat_of_lt' (show ⌊value x⌋.toNat < 2 ^ 32 by omega)]
    omega

theorem unpack_65536 : ∃ positive,
    (65536.0 : Float).toModel.unpack = .finite .positive (2 ^ 52) (-36) positive :=
  ⟨_, rfl⟩

theorem unpack_1000 : ∃ positive,
    (1000.0 : Float).toModel.unpack = .finite .positive (1000 * 2 ^ 43) (-43) positive :=
  ⟨_, rfl⟩

theorem room64 {high : Int} (room : high ≤ 971) :
    high + 3 ≤ Format.binary64.minExponent + (2 ^ Format.binary64.exponentBits : Nat) := by
  have subnormal : Format.binary64.minExponent = -1074 := rfl
  have width : Format.binary64.exponentBits = 11 := rfl
  rw [subnormal, width]
  omega

theorem between_mul {x y : Float} {lowest highest : ℚ} {low high : Int} {mantissa : Nat}
    {exponent : Int} {positive : 0 < mantissa}
    (between : Between Format.binary64 lowest highest x.toModel.unpack)
    (literal : y.toModel.unpack = .finite .positive mantissa exponent positive)
    (full : mantissa.log2 = 52) (least : 2 ^ low ≤ lowest * (mantissa * 2 ^ exponent))
    (most : highest * (mantissa * 2 ^ exponent) < 2 ^ high) (normal : -1074 ≤ low)
    (room : high ≤ 971) :
    Between Format.binary64 (2 ^ low) (2 ^ high) (x * y).toModel.unpack := by
  apply between_packed64
  rw [literal]
  have digits : Format.binary64.mantissaBits = 53 := rfl
  exact mul_between between (by rw [digits, full]) least most normal (room64 room)

theorem between_div {x y : Float} {lowest highest : ℚ} {low high : Int} {mantissa : Nat}
    {exponent : Int} {positive : 0 < mantissa}
    (between : Between Format.binary64 lowest highest x.toModel.unpack)
    (literal : y.toModel.unpack = .finite .positive mantissa exponent positive)
    (least : 2 ^ low ≤ lowest / (mantissa * 2 ^ exponent))
    (most : highest / (mantissa * 2 ^ exponent) < 2 ^ high) (normal : -1074 ≤ low)
    (room : high ≤ 971) :
    Between Format.binary64 (2 ^ low) (2 ^ high) (x / y).toModel.unpack := by
  apply between_packed64
  rw [literal]
  exact div_between between least most normal (room64 room)

theorem between_add {x y : Float} {lowest lowest' highest highest' : ℚ} {low high : Int}
    (first : Between Format.binary64 lowest highest x.toModel.unpack)
    (second : Between Format.binary64 lowest' highest' y.toModel.unpack)
    (least : 2 ^ low ≤ lowest + lowest') (most : highest + highest' < 2 ^ high)
    (normal : -1074 ≤ low) (room : high ≤ 971) :
    Between Format.binary64 (2 ^ low) (2 ^ high) (x + y).toModel.unpack := by
  obtain ⟨mantissa, exponent, positive, same, -, lower, upper⟩ := first
  obtain ⟨mantissa', exponent', positive', same', -, lower', upper'⟩ := second
  apply between_packed64
  rw [same, same']
  have cast (count : Nat) : ((UnpackedFloat.Sign.positive.apply count : Int) : ℚ) = count :=
    Int.cast_natCast count
  refine add_between ?_ ?_ normal (room64 room)
  · rw [cast, cast]
    exact least.trans (add_le_add lower lower')
  · rw [cast, cast]
    exact (add_le_add upper upper').trans_lt most

end Binary32

open SinglePrecision

theorem between_half {word : UInt32} (positive : 0 < word.toNat) (half : word.toNat < 2 ^ 16) :
    Between Format.binary64 word.toNat word.toNat
      (toDouble (ofUInt32 word : Float32) : Float).toModel.unpack :=
  Binary32.between_toDouble (Binary32.between_word positive (by omega))

theorem unpack_half_zero :
    (toDouble (ofUInt32 0 : Float32) : Float).toModel.unpack = .zero .positive := rfl

theorem wordToDouble_low {time : UInt32} (positive : 0 < time.toNat)
    (low : time.toNat < 2 ^ 16) :
    Between Format.binary64 time.toNat time.toNat
      (wordToDouble Float32 time : Float).toModel.unpack := by
  have high : time / 65536 = 0 := by
    apply UInt32.toNat_inj.mp
    rw [UInt32.toNat_div]
    exact Nat.div_eq_of_lt low
  have rest : time % 65536 = time := by
    apply UInt32.toNat_inj.mp
    rw [UInt32.toNat_mod]
    exact Nat.mod_eq_of_lt low
  have product : (toDouble (ofUInt32 0 : Float32) * 65536.0 : Float).toModel.unpack =
      .zero .positive := rfl
  have same := between_half positive low
  unfold wordToDouble
  rw [high, rest]
  apply Binary32.between_packed64
  rwa [product, same.zero_add]

theorem wordToDouble_high {time : UInt32} (high : 2 ^ 31 ≤ time.toNat) :
    Between Format.binary64 (2 ^ (31 : Int)) (2 ^ (33 : Int))
      (wordToDouble Float32 time : Float).toModel.unpack := by
  have bound := time.toNat_lt
  have upper : (time / 65536).toNat = time.toNat / 65536 := UInt32.toNat_div _ _
  have lower : (time % 65536).toNat = time.toNat % 65536 := UInt32.toNat_mod _ _
  have least : ((2 ^ 15 : Nat) : ℚ) ≤ (time / 65536).toNat := Nat.cast_le.mpr (by omega)
  have most : ((time / 65536).toNat : ℚ) ≤ (2 ^ 16 - 1 : Nat) := Nat.cast_le.mpr (by omega)
  obtain ⟨positive, literal⟩ := Binary32.unpack_65536
  have half : Between Format.binary64 (2 ^ 15 : Nat) (2 ^ 16 - 1 : Nat)
      (toDouble (ofUInt32 (time / 65536) : Float32) : Float).toModel.unpack :=
    (between_half (by omega) (by omega)).mono least most
  have product : Between Format.binary64 (2 ^ (31 : Int)) (2 ^ (32 : Int))
      (toDouble (ofUInt32 (time / 65536) : Float32) * 65536.0 : Float).toModel.unpack := by
    apply Binary32.between_mul half literal Nat.log2_two_pow
    · norm_num
    · norm_num
    · decide
    · decide
  unfold wordToDouble
  by_cases none : time % 65536 = 0
  · rw [none]
    apply Binary32.between_packed64
    rw [unpack_half_zero, product.add_zero]
    exact product.mono le_rfl (by norm_num)
  · have positive : 0 < (time % 65536).toNat := by
      have nonzero : (time % 65536).toNat ≠ 0 := fun zero => none (UInt32.toNat_inj.mp zero)
      omega
    have rest : ((time % 65536).toNat : ℚ) < (2 ^ 16 : Nat) := Nat.cast_lt.mpr (by omega)
    have some : (0 : ℚ) ≤ (time % 65536).toNat := Nat.cast_nonneg _
    have sum : (2 : ℚ) ^ (32 : Int) + (2 ^ 16 : Nat) < 2 ^ (33 : Int) := by norm_num
    apply Binary32.between_add product (between_half positive (by omega))
    · linarith
    · linarith
    · decide
    · decide

/-- `time_s` lies between the same powers of two as the quotient by a thousand, or reaches the
next one. -/
theorem between_seconds {time : UInt32} {lowest highest : ℚ} {low high : Int}
    (word : Between Format.binary64 lowest highest
      (wordToDouble Float32 time : Float).toModel.unpack)
    (least : 2 ^ low ≤ lowest / 1000) (most : highest / 1000 < 2 ^ high) (normal : -149 ≤ low)
    (room : high < 104) :
    Between Format.binary32 (2 ^ low) (2 ^ (high + 1))
      (ofDouble (wordToDouble Float32 time / 1000.0 : Float) : Float32).toModel.unpack := by
  obtain ⟨_, literal⟩ := Binary32.unpack_1000
  have thousand : ((1000 * 2 ^ 43 : Nat) : ℚ) * 2 ^ (-43 : Int) = 1000 := by norm_num
  rw [← thousand] at least most
  have quotient := Binary32.between_div word literal least most (by omega) (by omega)
  exact Binary32.between_ofDouble quotient le_rfl (two_zpow_lt_iff.mpr (by omega)) normal
    (by omega)

theorem caseNum_recent {time : UInt32} (recent : time.toNat ≤ 3000) :
    ∃ count, caseNum Float32 time = some count ∧ count.toNat ≤ 8 := by
  by_cases none : time = 0
  · subst none
    exact ⟨0, caseNum_current, by decide⟩
  · have positive : 0 < time.toNat := by
      have nonzero : time.toNat ≠ 0 := fun zero => none (UInt32.toNat_inj.mp zero)
      omega
    have least : (1 : ℚ) ≤ time.toNat := Nat.one_le_cast.mpr positive
    have most : (time.toNat : ℚ) ≤ (3000 : Nat) := Nat.cast_le.mpr recent
    have word := (wordToDouble_low positive (by omega)).mono least most
    have stored : Between Format.binary32 (2 ^ (-10 : Int)) (2 ^ ((2 : Int) + 1)) _ :=
      between_seconds word (by norm_num) (by norm_num) (by decide) (by decide)
    have bounds : Between Format.binary32 (0 : Nat) (8 : Nat) _ :=
      stored.mono (by norm_num) (by norm_num)
    obtain ⟨count, counted, -, few⟩ := Binary32.truncate_between bounds (by decide)
    exact ⟨count, counted, few⟩

theorem caseNum_negative {time : UInt32} (negative : 2 ^ 31 ≤ time.toNat) :
    ∃ count, caseNum Float32 time = some count ∧ 2 ^ 21 ≤ count.toNat := by
  have stored : Between Format.binary32 (2 ^ (21 : Int)) (2 ^ ((24 : Int) + 1)) _ :=
    between_seconds (wordToDouble_high negative) (by norm_num) (by norm_num) (by decide)
      (by decide)
  have bounds : Between Format.binary32 (2 ^ 21 : Nat) (2 ^ 25 : Nat) _ :=
    stored.mono (by norm_num) (by norm_num)
  obtain ⟨count, counted, many, -⟩ := Binary32.truncate_between bounds (by decide)
  exact ⟨count, counted, many⟩

end TunVideo
