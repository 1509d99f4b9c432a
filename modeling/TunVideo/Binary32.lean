import Mathlib

set_option autoImplicit false

/- Values of the core library's binary32 numbers. Everything here is about
`Float32` through its logical model; no operation of the format is redefined. -/
namespace TunVideo.Binary32

open Float.Model

/-- The rational a finite number denotes. Infinities and NaN get zero. -/
def unpackedValue : UnpackedFloat → ℚ
  | .finite sign mantissa exponent _ => sign.apply mantissa * 2 ^ exponent
  | _ => 0

def value (x : Float32) : ℚ := unpackedValue x.toModel.unpack

def signField (bits : UInt32) : Nat := bits.toNat / 2 ^ 31 % 2

def exponentField (bits : UInt32) : Nat := bits.toNat / 2 ^ 23 % 2 ^ 8

def fractionField (bits : UInt32) : Nat := bits.toNat % 2 ^ 23

/-- The integer significand, with the hidden bit of a normal number. -/
def significand (bits : UInt32) : Nat :=
  if exponentField bits = 0 then fractionField bits else 2 ^ 23 + fractionField bits

def magnitude (bits : UInt32) : ℚ :=
  significand bits * 2 ^ ((max (exponentField bits) 1 : Nat) - 150 : ℤ)

theorem unpackSign_toNat (bits : UInt32) :
    (@UnpackedFloat.unpackSign Format.binary32 bits.toBitVec).toNat = signField bits := by
  simp [UnpackedFloat.unpackSign, Nat.shiftRight_eq_div_pow, signField]

theorem unpackExponent_toNat (bits : UInt32) :
    (@UnpackedFloat.unpackExponent Format.binary32 bits.toBitVec).toNat =
      exponentField bits := by
  simp [UnpackedFloat.unpackExponent, Nat.shiftRight_eq_div_pow, exponentField]

theorem unpackMantissa_toNat (bits : UInt32) :
    (@UnpackedFloat.unpackMantissa Format.binary32 bits.toBitVec).toNat =
      fractionField bits := by
  simp [UnpackedFloat.unpackMantissa, fractionField]

theorem exponentField_lt (bits : UInt32) : exponentField bits < 256 :=
  Nat.mod_lt _ (by decide)

theorem fractionField_lt (bits : UInt32) : fractionField bits < 2 ^ 23 :=
  Nat.mod_lt _ (by decide)

theorem fields (bits : UInt32) :
    bits.toNat = 2 ^ 31 * signField bits + 2 ^ 23 * exponentField bits + fractionField bits := by
  have bound := bits.toNat_lt
  unfold signField exponentField fractionField
  omega

private theorem bitVec_eq_iff {n : Nat} (a b : BitVec n) : a = b ↔ a.toNat = b.toNat :=
  ⟨congrArg BitVec.toNat, BitVec.eq_of_toNat_eq⟩

theorem isFinite_iff (x : Float32) : x.isFinite = true ↔ exponentField x.toBits ≠ 255 := by
  change (UnpackedFloat.unpack Format.binary32 x.toBits.toBitVec).isFinite = true ↔ _
  unfold UnpackedFloat.unpack
  simp only [bitVec_eq_iff, unpackExponent_toNat]
  rw [show (-1#8).toNat = 255 by decide]
  split
  · split <;> simp_all [UnpackedFloat.isFinite]
  · split
    · split <;> simp_all [UnpackedFloat.isFinite]
    · simp_all [UnpackedFloat.isFinite]

theorem value_of_bits (x : Float32) (finite : x.isFinite = true) :
    value x = if signField x.toBits = 0 then magnitude x.toBits else -magnitude x.toBits := by
  rw [isFinite_iff] at finite
  change unpackedValue (UnpackedFloat.unpack Format.binary32 x.toBits.toBitVec) = _
  unfold UnpackedFloat.unpack UnpackedFloat.Sign.ofBitVec
  simp only [bitVec_eq_iff, unpackExponent_toNat, unpackMantissa_toNat, unpackSign_toNat,
    BitVec.toNat_append, show (-1#8).toNat = 255 by decide, show (0#8).toNat = 0 by decide,
    show (0#23).toNat = 0 by decide, show (0#1).toNat = 0 by decide,
    show (1#1).toNat = 1 by decide, if_neg finite]
  have small := fractionField_lt x.toBits
  have hidden : 1 <<< 23 ||| fractionField x.toBits = 2 ^ 23 + fractionField x.toBits := by
    simpa only [Nat.shiftLeft_eq, Nat.mul_one, Nat.one_mul] using
      (Nat.two_pow_add_eq_or_of_lt small 1).symm
  unfold magnitude significand
  split
  · rename_i zero
    split
    · rename_i none
      simp [unpackedValue, zero, none]
    · simp only [unpackedValue, zero]
      split <;> simp [UnpackedFloat.Sign.apply, Format.exponentBias]
  · rename_i normal
    have least : max (exponentField x.toBits) 1 = exponentField x.toBits := by omega
    simp only [unpackedValue, hidden, least, Format.exponentBias]
    split
    · simp [UnpackedFloat.Sign.apply]
    · simp [UnpackedFloat.Sign.apply]
      ring

end TunVideo.Binary32
