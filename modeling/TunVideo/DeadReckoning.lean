import TunVideo.ExactNumber
import TunVideo.Predict

set_option autoImplicit false

namespace TunVideo

open SinglePrecision DoublePrecision

noncomputable instance : DoublePrecision Exact where
  decidableLT _ _ := Classical.propDecidable _
  decidableLE _ _ := Classical.propDecidable _
  sqrt := .within (0 ≤ ·) Real.sqrt
  acos := .within (fun x => |x| ≤ 1) Real.arccos
  asin := .within (fun x => |x| ≤ 1) Real.arcsin
  sin := .map Real.sin
  cos := .map Real.cos
  tan := .within (fun x => Real.cos x ≠ 0) Real.tan
  log := .within (0 < ·) Real.log
  pow := .map₂ fun x y => x ^ y
  distance_self := by
    constructor
    · change (-0.00000001 : ℝ) ≤ 200.0 - 200.0
      norm_num
    · change (200.0 - 200.0 : ℝ) ≤ 0.00000001
      norm_num

/-- Exact numbers have no format. Beacons may carry them in any way. -/
class ExactBits where
  toBits : Exact → UInt32

noncomputable instance [ExactBits] : SinglePrecision Exact Exact where
  toBits := ExactBits.toBits
  ofUInt32 word := .value word.toNat
  toUInt32
    | .value x => open Classical in
        if -1 < x ∧ x < 2 ^ 32 then some (UInt32.ofNat ⌊x⌋₊) else none
    | .undefined => none
  toDouble := id
  ofDouble := id
  fabs := .map abs

def GPS.exact (gps : GPS ℝ) : GPS Exact := ⟨.value gps.x, .value gps.y⟩

/-- What is assumed of `MillierConvertion`, a function of latitude and longitude. -/
structure Projection (project : ℝ → ℝ → GPS ℝ) : Prop where
  east : ∀ lat lon lon', lon < lon' → (project lat lon).x < (project lat lon').x
  parallel : ∀ lat lat' lon, (project lat lon).x = (project lat' lon).x
  north : ∀ lat lat' lon, lat < lat' → (project lat' lon).y < (project lat lon).y
  meridian : ∀ lat lon lon', (project lat lon).y = (project lat lon').y

def SameSign (first second : Exact) : Prop :=
  ∃ sign, first.sign = some sign ∧ second.sign = some sign

section

variable [ExactBits]

/-- The displacement that `AdvancedPredict` adds to the last point of a history points where the
node has moved from `p1` to `p2`, in each coordinate. -/
def KeepsHeading (project : ℝ → ℝ → GPS ℝ) (p1 p2 : GPS ℝ) (v : ℝ) (q : List (GPS ℝ))
    (time : UInt32) (gaussrand : Nat → Exact) : Prop :=
  let start := (project p2.x p2.y).exact
  let before := (project p1.x p1.y).exact
  ∃ position, advancedPredict gaussrand (q.map GPS.exact) time
      (GPSVec.speedChange [p1.exact, p2.exact] (.value v)) = some position ∧
    SameSign (position.x - start.x) (start.x - before.x) ∧
    SameSign (position.y - start.y) (start.y - before.y)

omit [ExactBits] in
theorem frontAfterPops_exact (i : Nat) (front : GPS ℝ) (rest : List (GPS ℝ)) :
    ∃ reached : GPS ℝ,
      GPSVec.frontAfterPops i front.exact (rest.map GPS.exact) = reached.exact := by
  induction rest generalizing i front with
  | nil => exact ⟨front, rfl⟩
  | cons next rest ih =>
      rw [List.map_cons, GPSVec.frontAfterPops, List.length_map]
      split
      · exact ih (i + 1) next
      · exact ⟨front, rfl⟩

/-- Both corners of the triangle that `SpeedChange` measures are the position at the front of
the queue, so its ratios are zero over zero. -/
theorem speedChange_undefined (first second : GPS ℝ) (rest : List (GPS ℝ)) (v : ℝ) :
    (GPSVec.speedChange ((first :: second :: rest).map GPS.exact) (.value v) : Speed Exact) =
      ⟨.undefined, .undefined⟩ := by
  obtain ⟨reached, front⟩ := frontAfterPops_exact 0 first (second :: rest)
  have side (x : ℝ) : fabs (Exact.value x - Exact.value x) = Exact.value 0 := by
    change Exact.value |x - x| = _
    rw [sub_self, abs_zero]
  have diagonal : sqrt (toDouble ((reached.exact.x - reached.exact.x) *
        (reached.exact.x - reached.exact.x) + (reached.exact.y - reached.exact.y) *
        (reached.exact.y - reached.exact.y))) = Exact.value 0 := by
    change Exact.within (0 ≤ ·) Real.sqrt (Exact.value ((reached.x - reached.x) *
      (reached.x - reached.x) + (reached.y - reached.y) * (reached.y - reached.y))) = _
    rw [sub_self, sub_self, mul_zero, add_zero, Exact.within_value (le_refl 0), Real.sqrt_zero]
  have ratio : (.value v : Exact) * Exact.value 0 / Exact.value 0 = .undefined :=
    Exact.value_div_zero (v * 0)
  rw [List.map_cons] at front
  rw [List.map_cons, List.map_cons, GPSVec.speedChange, front, diagonal]
  change (⟨.value v * fabs (Exact.value reached.x - Exact.value reached.x) / Exact.value 0,
    .value v * fabs (Exact.value reached.y - Exact.value reached.y) / Exact.value 0⟩ :
      Speed Exact) = _
  rw [side, side, ratio]

theorem speedChange_pair (p1 p2 : GPS ℝ) (v : ℝ) :
    (GPSVec.speedChange [p1.exact, p2.exact] (.value v) : Speed Exact) =
      ⟨.undefined, .undefined⟩ :=
  speedChange_undefined p1 p2 [] v

theorem predicted_undefined {p1 p2 : GPS ℝ} {v : ℝ} {q : List (GPS Exact)} {time : UInt32}
    {gaussrand : Nat → Exact} {position : GPS Exact} (short : q.length < 8)
    (predicted : advancedPredict gaussrand q time
      (GPSVec.speedChange [p1.exact, p2.exact] (.value v)) = some position) :
    position = ⟨.undefined, .undefined⟩ := by
  rw [speedChange_pair, advancedPredict_short gaussrand short] at predicted
  obtain ⟨_, -, predicted⟩ := Option.bind_eq_some_iff.mp predicted
  obtain ⟨lastPoint, -, rfl⟩ := Option.map_eq_some_iff.mp predicted
  have nowhere (start : Exact) :
      start + ofUInt32 time * Exact.undefined / ofUInt32 1000 = Exact.undefined := by
    rw [Exact.mul_undefined, Exact.undefined_div, Exact.add_undefined]
  dsimp only
  rw [nowhere, nowhere]

/-- Whatever the two positions are, the heading is not kept: there is no displacement. -/
theorem advancedPredict_losesHeading (project : ℝ → ℝ → GPS ℝ) (p1 p2 : GPS ℝ) (v : ℝ)
    {q : List (GPS ℝ)} (short : q.length < 8) (time : UInt32) (gaussrand : Nat → Exact) :
    ¬KeepsHeading project p1 p2 v q time gaussrand := by
  rintro ⟨position, predicted, ⟨direction, moved, -⟩, -⟩
  rw [predicted_undefined (by rwa [List.length_map]) predicted] at moved
  cases moved

end

/-- Latitude and longitude as they are, with the orientation of the projection. -/
def plane (lat lon : ℝ) : GPS ℝ := ⟨lon, -lat⟩

theorem plane_projection : Projection plane where
  east _ _ _ less := less
  parallel _ _ _ := rfl
  north _ _ _ less := neg_lt_neg less
  meridian _ _ _ := rfl

/-- A node that has moved one degree to the east is predicted nowhere after a second. -/
theorem losesHeading_east :
    ¬@KeepsHeading ⟨fun _ => 0⟩ plane ⟨0, 0⟩ ⟨0, 1⟩ 1 [plane 0 1] 1000 fun _ => .value 0 :=
  @advancedPredict_losesHeading ⟨fun _ => 0⟩ plane ⟨0, 0⟩ ⟨0, 1⟩ 1 [plane 0 1] (by decide) 1000
    fun _ => .value 0

theorem deadReckoning_losesHeading :
    ¬∀ [ExactBits] (project : ℝ → ℝ → GPS ℝ), Projection project → ∀ (p1 p2 : GPS ℝ), p1 ≠ p2 →
      ∀ v : ℝ, 0 < v → ∀ q : List (GPS ℝ), q.length < 8 →
      q.getLast? = some (project p2.x p2.y) → ∀ (time : UInt32), 0 < time →
      ∀ gaussrand, KeepsHeading project p1 p2 v q time gaussrand := by
  intro keeps
  have apart : (⟨0, 0⟩ : GPS ℝ) ≠ ⟨0, 1⟩ := by
    intro same
    exact zero_ne_one (congrArg GPS.y same)
  obtain ⟨position, predicted, ⟨direction, moved, -⟩, -⟩ :=
    @keeps ⟨fun _ => 0⟩ plane plane_projection ⟨0, 0⟩ ⟨0, 1⟩ apart 1 one_pos [plane 0 1]
      (by decide) rfl 1000 (by decide) fun _ => .value 0
  rw [@predicted_undefined ⟨fun _ => 0⟩ _ _ _ _ _ _ _ (by decide) predicted] at moved
  cases moved

end TunVideo
