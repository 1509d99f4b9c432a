import TunVideo.Binary32Reinterpret

set_option autoImplicit false

namespace TunVideo

/-- What the code uses of `double`. The one law says that `MAXDISTANCE` is not
told apart from itself by the `EPSINON` tests. -/
class DoublePrecision (D : Type) extends Add D, Sub D, Mul D, Div D, Neg D, LT D, LE D,
    OfScientific D where
  decidableLT : DecidableLT D
  decidableLE : DecidableLE D
  sqrt : D → D
  acos : D → D
  asin : D → D
  sin : D → D
  cos : D → D
  tan : D → D
  log : D → D
  pow : D → D → D
  distance_self : -(0.00000001 : D) ≤ 200.0 - 200.0 ∧ (200.0 - 200.0 : D) ≤ 0.00000001

attribute [reducible, instance] DoublePrecision.decidableLT DoublePrecision.decidableLE

/-- What the code uses of `float`. A conversion to `uint32_t` is undefined when
the truncated value does not fit. -/
class SinglePrecision (F : Type) (D : outParam Type) extends Add F, Sub F, Mul F, Div F where
  toBits : F → UInt32
  ofUInt32 : UInt32 → F
  toUInt32 : F → Option UInt32
  toDouble : F → D
  ofDouble : D → F
  fabs : F → F

open SinglePrecision

structure GPS (F : Type) where
  x : F
  y : F
  deriving DecidableEq

structure Speed (F : Type) where
  x : F
  y : F
  deriving DecidableEq

structure GPSVec (D : Type) where
  x : D
  y : D

section

variable {F D : Type} [DoublePrecision D] [SinglePrecision F D]

/-- `GPSXToUint32`: the bit pattern of the coordinate. -/
def GPS.gpsXToUint32 (gps : GPS F) : UInt32 := toBits gps.x

def GPS.gpsYToUint32 (gps : GPS F) : UInt32 := toBits gps.y

/-- `DoubleToUint32` on a widened `float`, which it narrows back: the bit pattern. -/
def Speed.doubleToUint32 (speed : F) : UInt32 := toBits speed

def GPSVec.ofGPS (src dst : GPS F) : GPSVec D :=
  ⟨toDouble (dst.x - src.x), toDouble (dst.y - src.y)⟩

def maxDistance : D := 200.0

def calNextHopAngle : D := 3.14159 / 3.0

def epsinon : D := 0.00000001

/-- The test `(x >= - EPSINON)&&(x <= EPSINON)`. -/
def nearZero (x : D) : Bool := decide (x ≥ -epsinon) && decide (x ≤ epsinon)

/-- The test for the pair (0,90), which stands for an unknown position. -/
def GPS.unknown (dstGps : GPS F) : Bool :=
  let x : D := toDouble (dstGps.x - ofUInt32 0)
  let y : D := toDouble (dstGps.y - ofUInt32 90)
  nearZero x && nearZero y

theorem nearZero_maxDistance : nearZero (maxDistance - maxDistance : D) = true := by
  obtain ⟨above, below⟩ := DoublePrecision.distance_self (D := D)
  rw [nearZero, Bool.and_eq_true, decide_eq_true_eq, decide_eq_true_eq]
  exact ⟨above, below⟩

end

namespace Binary32

open Float.Model

/-- Widening keeps every value, so rounding to the wider format is exact. -/
def toDouble (x : Float32) : Float :=
  .ofModel <| .pack <|
    match x.toModel.unpack with
    | .finite sign mantissa exponent _ =>
        UnpackedFloat.round Format.binary64 sign mantissa exponent
    | special => special

def ofDouble (x : Float) : Float32 :=
  .ofModel <| .pack <|
    match x.toModel.unpack with
    | .finite sign mantissa exponent _ =>
        UnpackedFloat.round Format.binary32 sign mantissa exponent
    | special => special

end Binary32

instance : DoublePrecision Float where
  decidableLT := inferInstance
  decidableLE := inferInstance
  sqrt := Float.sqrt
  acos := Float.acos
  asin := Float.asin
  sin := Float.sin
  cos := Float.cos
  tan := Float.tan
  log := Float.log
  pow := Float.pow
  distance_self := by decide +kernel

instance : SinglePrecision Float32 Float where
  toBits := Float32.toBits
  ofUInt32 := UInt32.toFloat32
  toUInt32 := Binary32.truncate
  toDouble := Binary32.toDouble
  ofDouble := Binary32.ofDouble
  fabs := Float32.abs

def SamePosition (stored sent : GPS Float32) : Prop :=
  Binary32.value stored.x = Binary32.value sent.x ∧ Binary32.value stored.y = Binary32.value sent.y

end TunVideo
