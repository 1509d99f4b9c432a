import TunVideo.Binary32Widen
import TunVideo.Geometry

set_option autoImplicit false

namespace TunVideo

open SinglePrecision DoublePrecision

section

variable {F D : Type} [DoublePrecision D] [SinglePrecision F D]

/-- A word as a `double`, which holds it exactly; a `float` holds each half. -/
def wordToDouble (F : Type) [SinglePrecision F D] (word : UInt32) : D :=
  toDouble (ofUInt32 (word / 65536) : F) * 65536.0 + toDouble (ofUInt32 (word % 65536) : F)

def constTerm : D := -0.0984

def coeff : List D := [0.0454, -0.0020, 0.0431, 0.0581, 0.1194, 0.1186, 0.3778]

def slope (p1 p2 : GPS F) : D :=
  if toDouble (fabs (p1.x - p2.x)) < epsinon then
    toDouble (p1.y - p2.y) / (toDouble (p1.x - p2.x) + epsinon)
  else toDouble ((p1.y - p2.y) / (p1.x - p2.x))

/-- The variables of the loops over `gaussrand`, and the number of its values used so far. -/
structure Travel (F D : Type) where
  dis : D
  vel : F
  draws : Nat

/-- One round of these loops, which differ in the time `dt` that it takes. -/
def travelStep (gaussrand : Nat → D) (dt : D) (travel : Travel F D) : Travel F D :=
  let acc := gaussrand travel.draws
  { dis := travel.dis + (toDouble travel.vel * dt + acc * dt * dt / 2.0)
    vel := ofDouble (toDouble travel.vel + acc)
    draws := travel.draws + 1 }

/-- The predicted position at a distance along the slope. -/
def advance (xInc : Bool) (predictK dis : D) (lastPoint : GPS F) : GPS F :=
  let x := dis / sqrt (1.0 + predictK * predictK)
  let y := predictK * dis / sqrt (1.0 + predictK * predictK)
  if xInc then ⟨ofDouble (toDouble lastPoint.x + x), ofDouble (toDouble lastPoint.y + y)⟩
  else ⟨ofDouble (toDouble lastPoint.x - x), ofDouble (toDouble lastPoint.y - y)⟩

/-- The variables of the loop over the whole seconds. -/
structure Prediction (F D : Type) where
  lastPoint : GPS F
  predictK : D
  k : List D
  ptr : Nat
  vel : F
  draws : Nat

/-- One second. The sum of seven slopes reads `k[ptr]`, which has not been computed yet, for
each of them; there is no such element from the fourteenth second on. -/
def secondStep (gaussrand : Nat → D) (xInc : Bool) (prediction : Prediction F D) :
    Option (Prediction F D) :=
  prediction.k[prediction.ptr]?.map fun unset =>
    let predictK := coeff.foldl (fun sum factor => sum + factor * unset) constTerm
    let travel := (travelStep gaussrand 0.1)^[10] ⟨0.0, prediction.vel, prediction.draws⟩
    { lastPoint := advance xInc predictK travel.dis prediction.lastPoint
      predictK := predictK
      k := prediction.k.set prediction.ptr predictK
      ptr := prediction.ptr + 1
      vel := travel.vel
      draws := travel.draws }

def seconds (gaussrand : Nat → D) (xInc : Bool) :
    Nat → Prediction F D → Option (Prediction F D)
  | 0, prediction => some prediction
  | n + 1, prediction => do
      let prediction ← secondStep gaussrand xInc prediction
      seconds gaussrand xInc n prediction

/-- `AdvancedPredict`, on the values that `gaussrand` returns. It has no result where it leaves
the array `k`, and on an empty history. -/
def advancedPredict (gaussrand : Nat → D) (q : List (GPS F)) (time : UInt32) (v : Speed F) :
    Option (GPS F) := do
  let vel : F := ofDouble (sqrt (toDouble (v.x * v.x + v.y * v.y)))
  let timeS : F := ofDouble (wordToDouble F time / 1000.0)
  let caseNum ← toUInt32 timeS
  if q.length < 8 then
    shortPredict q time v
  else
    let p1 ← q[6]?
    let lastPoint ← q[7]?
    let slopes : List D := (q.take 7).zipWith slope (q.tail.take 7)
    let xInc := !decide (toDouble lastPoint.x < toDouble p1.x)
    let prediction ← seconds gaussrand xInc caseNum.toNat
      ⟨lastPoint, 0.0, slopes ++ List.replicate 13 0.0, 7, vel, 0⟩
    let dtime := (time - caseNum * 1000).toInt32
    let travel := (travelStep gaussrand 0.001)^[dtime.toInt.toNat]
      ⟨0.0, prediction.vel, prediction.draws⟩
    some (advance xInc prediction.predictK travel.dis prediction.lastPoint)

/-- A short history is predicted from its last point and the speed. -/
theorem advancedPredict_short (gaussrand : Nat → D) {q : List (GPS F)} (short : q.length < 8)
    (time : UInt32) (v : Speed F) :
    advancedPredict gaussrand q time v =
      (toUInt32 (ofDouble (wordToDouble F time / 1000.0) : F)).bind fun _ =>
        shortPredict q time v := by
  unfold advancedPredict
  dsimp only
  simp only [if_pos short, Option.bind_eq_bind]

def Host.predicting (host : Host F D) : Host F D :=
  { host with advancedPredict := TunVideo.advancedPredict }

end

namespace GPS

/-- The coordinates are equal by `==`. -/
def sameAs (first second : GPS Float32) : Bool := first.x == second.x && first.y == second.y

structure Unmoved (after before : GPS Float32) : Prop where
  x : FloatFormat.SameNumber after.x.toModel.unpack before.x.toModel.unpack
  y : FloatFormat.SameNumber after.y.toModel.unpack before.y.toModel.unpack

theorem Unmoved.sameAs {after before : GPS Float32} (unmoved : Unmoved after before)
    (other : GPS Float32) : after.sameAs other = before.sameAs other := by
  have x := unmoved.x.beq other.x.toModel.unpack
  have y := unmoved.y.beq other.y.toModel.unpack
  exact congrArg₂ and x y

end GPS

section

variable {v : Speed Float32}

def Speed.OfWords (v : Speed Float32) : Prop := ∃ x y : UInt32, v = ⟨ofUInt32 x, ofUInt32 y⟩

theorem shortPredict_current {q : List (GPS Float32)} {start : GPS Float32}
    (last : q.getLast? = some start) (words : v.OfWords) :
    ∃ position, shortPredict q 0 v = some position ∧ position.Unmoved start := by
  obtain ⟨x, y, rfl⟩ := words
  rw [shortPredict, last]
  exact ⟨_, rfl, Binary32.sameNumber_add _ (Binary32.isZero_scaled (Binary32.value_toFloat32 x).1),
    Binary32.sameNumber_add _ (Binary32.isZero_scaled (Binary32.value_toFloat32 y).1)⟩

theorem advance_current (xInc : Bool) (start : GPS Float32) :
    (advance xInc 0.0 0.0 start).Unmoved start := by
  have x : (0.0 / sqrt (1.0 + 0.0 * 0.0) : Float) = Binary32.positiveZero := by decide +kernel
  have y : (0.0 * 0.0 / sqrt (1.0 + 0.0 * 0.0) : Float) = Binary32.positiveZero := by
    decide +kernel
  unfold advance
  rw [x, y]
  cases xInc with
  | true => exact ⟨Binary32.sameNumber_addDouble _, Binary32.sameNumber_addDouble _⟩
  | false => exact ⟨Binary32.sameNumber_subDouble _, Binary32.sameNumber_subDouble _⟩

theorem caseNum_current :
    toUInt32 (ofDouble (wordToDouble Float32 0 / 1000.0) : Float32) = some 0 := by
  decide +kernel

theorem advancedPredict_eighth (gaussrand : Nat → Float) {q : List (GPS Float32)}
    {start : GPS Float32} (eighth : q[7]? = some start) (v : Speed Float32) :
    ∃ position, advancedPredict gaussrand q 0 v = some position ∧ position.Unmoved start := by
  obtain ⟨long, -⟩ := List.getElem?_eq_some_iff.mp eighth
  have p1 : q[6]? = some q[6] := List.getElem?_eq_getElem (by omega)
  unfold advancedPredict
  dsimp only
  rw [caseNum_current]
  dsimp only [Option.bind_eq_bind, Option.bind_some]
  rw [if_neg (by omega), p1, eighth]
  exact ⟨_, rfl, advance_current _ start⟩

/-- When no time has passed the prediction is the eighth position of the history, or the last
of a shorter one. -/
theorem advancedPredict_current (gaussrand : Nat → Float) {q : List (GPS Float32)}
    {start : GPS Float32} (begins : q[min 7 (q.length - 1)]? = some start) (words : v.OfWords) :
    ∃ position, advancedPredict gaussrand q 0 v = some position ∧ position.Unmoved start := by
  by_cases short : q.length < 8
  · have latest : min 7 (q.length - 1) = q.length - 1 := by omega
    rw [latest, ← List.getLast?_eq_getElem?] at begins
    rw [advancedPredict_short gaussrand short, caseNum_current, Option.bind_some]
    exact shortPredict_current begins words
  · have eighth : min 7 (q.length - 1) = 7 := by omega
    rw [eighth] at begins
    exact advancedPredict_eighth gaussrand begins v

end

end TunVideo
