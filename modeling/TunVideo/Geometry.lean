import TunVideo.ByteWord
import TunVideo.Coordinates

set_option autoImplicit false

namespace TunVideo

open SinglePrecision DoublePrecision

namespace GPSVec

variable {F D : Type} [DoublePrecision D] [SinglePrecision F D]

def mPi : D := 3.14159265358979323846

def earthRadius : D := 6371.004

def calDotMul (vec1 vec2 : GPSVec D) : D :=
  vec1.x * vec2.x + vec1.y * vec2.y

def calModule (vec : GPSVec D) : D :=
  sqrt (vec.x * vec.x + vec.y * vec.y)

def rad (d : D) : D := d * mPi / 180.0

/-- `CalModule(GPS, GPS)`: the haversine distance. -/
def calDistance (gps1 gps2 : GPS F) : D :=
  let lat1 : D := toDouble gps1.x
  let lng1 : D := toDouble gps1.y
  let lat2 : D := toDouble gps2.x
  let lng2 : D := toDouble gps2.y
  let radLat1 := rad lat1
  let radLat2 := rad lat2
  let a := radLat1 - radLat2
  let b := rad lng1 - rad lng2
  let s := 2.0 * asin (sqrt (pow (sin (a / 2.0)) 2.0 +
    cos radLat1 * cos radLat2 * pow (sin (b / 2.0)) 2.0))
  s * earthRadius

/-- The common tail of `CalTheata` and `CalTheate`. -/
def angleOf (tmp : D) : D :=
  if nearZero (tmp - 1.0) then 0.0
  else if nearZero (tmp + 1.0) then 3.14159
  else acos tmp

def calTheata (vec1 vec2 : GPSVec D) : D :=
  angleOf (calDotMul vec1 vec2 / (calModule vec1 * calModule vec2))

def calTheate (selfGps nghbrGps dstGps : GPS F) : D :=
  let a := calDistance selfGps nghbrGps
  let b := calDistance selfGps dstGps
  let c := calDistance nghbrGps dstGps
  angleOf ((a * a + b * b - c * c) / 2.0 * a * b)

def millierConvertion (lat lon : D) : GPS F :=
  let l : D := 6381372.0 * mPi * 2.0
  let w := l
  let h := l / 2.0
  let mill : D := 2.3
  let x := lon * mPi / 180.0
  let y := lat * mPi / 180.0
  let y := 1.25 * log (tan (0.25 * mPi + 0.4 * y))
  let x := w / 2.0 + w / (2.0 * mPi) * x
  let y := h / 2.0 - h / (2.0 * mill) * y
  ⟨ofDouble x, ofDouble y⟩

/-- `p.front()` after the loop of `SpeedChange`, whose bound shrinks with `p`. -/
def frontAfterPops : Nat → GPS F → List (GPS F) → GPS F
  | _, front, [] => front
  | i, front, next :: rest =>
      if i < rest.length then frontAfterPops (i + 1) next rest else front

def speedChange (q : List (GPS F)) (v : D) : Speed F :=
  match q with
  | first :: second :: rest =>
      let g1 := frontAfterPops 0 first (second :: rest)
      let g2 := frontAfterPops 0 first (second :: rest)
      let a : D := toDouble (fabs (g2.x - g1.x))
      let b : D := toDouble (fabs (g2.y - g1.y))
      let c : D := sqrt (toDouble
        ((g2.x - g1.x) * (g2.x - g1.x) + (g2.y - g1.y) * (g2.y - g1.y)))
      ⟨ofDouble (v * a / c), ofDouble (v * b / c)⟩
  | _ => ⟨ofDouble (v * sqrt 2.0 / 2.0), ofDouble (v * sqrt 2.0 / 2.0)⟩

end GPSVec

/-- `AdvancedPredict` on a history of fewer than eight positions. -/
def shortPredict {F D : Type} [SinglePrecision F D] (q : List (GPS F)) (time : UInt32)
    (v : Speed F) : Option (GPS F) :=
  q.getLast?.map fun lastPoint =>
    ⟨lastPoint.x + ofUInt32 time * v.x / ofUInt32 1000,
      lastPoint.y + ofUInt32 time * v.y / ofUInt32 1000⟩

/-- The numeric functions of the code and the byte order of its host. `advancedPredict`
also reads the values `gaussrand` returns, and has no result where it leaves its arrays. -/
structure Host (F D : Type) where
  order : ByteOrder
  calTheata : GPSVec D → GPSVec D → D
  calTheate : GPS F → GPS F → GPS F → D
  calModule : GPS F → GPS F → D
  millierConvertion : D → D → GPS F
  speedChange : List (GPS F) → D → Speed F
  advancedPredict : (Nat → D) → List (GPS F) → UInt32 → Speed F → Option (GPS F)

def Host.ofGeometry {F D : Type} [DoublePrecision D] [SinglePrecision F D] (order : ByteOrder)
    (advancedPredict : (Nat → D) → List (GPS F) → UInt32 → Speed F → Option (GPS F)) :
    Host F D where
  order := order
  calTheata := GPSVec.calTheata
  calTheate := GPSVec.calTheate
  calModule := GPSVec.calDistance
  millierConvertion := GPSVec.millierConvertion
  speedChange := GPSVec.speedChange
  advancedPredict := advancedPredict

/-- A little-endian host whose neighbours have short histories. -/
def Host.shortHistories : Host Float32 Float :=
  .ofGeometry .little fun _ q time v => shortPredict q time v

end TunVideo
