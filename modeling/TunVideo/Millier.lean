import TunVideo.GreatCircle

set_option autoImplicit false

namespace TunVideo

open Real

noncomputable def libraryPi : ℝ := 3.14159265358979323846

theorem libraryPi_pos : 0 < libraryPi := by
  rw [libraryPi]
  norm_num

theorem libraryPi_lt : libraryPi < π := pi_gt_d20

theorem radians_eq (degrees : ℝ) : radians degrees = degrees * libraryPi / 180 := rfl

theorem radians_strictMono : StrictMono radians := by
  intro degrees degrees' less
  rw [radians_eq, radians_eq]
  have scaled := mul_lt_mul_of_pos_right less libraryPi_pos
  linarith

noncomputable def mapWidth : ℝ := 6381372.0 * libraryPi * 2.0

theorem mapWidth_pos : 0 < mapWidth := by
  have positive := libraryPi_pos
  rw [mapWidth]
  positivity

noncomputable def mapX (lon : ℝ) : ℝ := mapWidth / 2.0 + mapWidth / (2.0 * libraryPi) * radians lon

theorem mapX_eq (lon : ℝ) : mapX lon = mapWidth * ((180 + lon) / 360) := by
  have nonzero := libraryPi_pos.ne'
  rw [mapX, radians_eq]
  field_simp
  norm_num
  ring

/-- The angle whose tangent `MillierConvertion` takes. -/
noncomputable def millierAngle (lat : ℝ) : ℝ := 0.25 * libraryPi + 0.4 * radians lat

noncomputable def mapY (lat : ℝ) : ℝ :=
  mapWidth / 2.0 / 2.0 - mapWidth / 2.0 / (2.0 * 2.3) * (1.25 * log (tan (millierAngle lat)))

theorem millierAngle_strictMono : StrictMono millierAngle := by
  intro lat lat' less
  have turned := radians_strictMono less
  rw [millierAngle, millierAngle]
  linarith

/-- The angle stays away from both ends of the quadrant. -/
theorem millierAngle_quadrant {lat : ℝ} (valid : |lat| ≤ 90) :
    0 < millierAngle lat ∧ millierAngle lat < π / 2 := by
  obtain ⟨south, north⟩ := abs_le.mp valid
  have positive := libraryPi_pos
  have below := libraryPi_lt
  have least := mul_le_mul_of_nonneg_right south positive.le
  have most := mul_le_mul_of_nonneg_right north positive.le
  rw [millierAngle, radians_eq]
  constructor
  · linarith
  · linarith

theorem millierTan_pos {lat : ℝ} (valid : |lat| ≤ 90) : 0 < tan (millierAngle lat) :=
  tan_pos_of_pos_of_lt_pi_div_two (millierAngle_quadrant valid).1 (millierAngle_quadrant valid).2

theorem mapY_lt {lat lat' : ℝ} (valid : |lat| ≤ 90) (valid' : |lat'| ≤ 90) (less : lat < lat') :
    mapY lat' < mapY lat := by
  have quadrant := millierAngle_quadrant valid
  have quadrant' := millierAngle_quadrant valid'
  have tangents : tan (millierAngle lat) < tan (millierAngle lat') := by
    apply tan_lt_tan_of_lt_of_lt_pi_div_two
    · linarith
    · exact quadrant'.2
    · exact millierAngle_strictMono less
  have logs := log_lt_log (millierTan_pos valid) tangents
  have positive : 0 < mapWidth / 2.0 / (2.0 * 2.3) := by
    have width := mapWidth_pos
    positivity
  have scaled := mul_lt_mul_of_pos_left logs positive
  rw [mapY, mapY]
  linarith

theorem mapX_strictMono : StrictMono mapX := by
  intro lon lon' less
  have scaled := mul_lt_mul_of_pos_left less mapWidth_pos
  rw [mapX_eq, mapX_eq]
  linarith

noncomputable def nearestLatitude (lat : ℝ) : ℝ := max (-90) (min 90 lat)

theorem nearestLatitude_valid (lat : ℝ) : |nearestLatitude lat| ≤ 90 := by
  apply abs_le.mpr
  constructor
  · exact le_max_left _ _
  · exact max_le (by norm_num) (min_le_left _ _)

theorem nearestLatitude_self {lat : ℝ} (valid : |lat| ≤ 90) : nearestLatitude lat = lat := by
  obtain ⟨south, north⟩ := abs_le.mp valid
  rw [nearestLatitude, min_eq_right north, max_eq_right south]

theorem nearestLatitude_mono {lat lat' : ℝ} (less : lat < lat') :
    nearestLatitude lat ≤ nearestLatitude lat' :=
  max_le_max_left _ (min_le_min_left _ less.le)

/-- The nearest latitude moves no further than the latitude itself. -/
theorem nearestLatitude_short {lat lat' : ℝ} (less : lat < lat') :
    nearestLatitude lat' - nearestLatitude lat ≤ lat' - lat := by
  rw [nearestLatitude, nearestLatitude]
  grind

/-- The map, continued beyond the poles. -/
noncomputable def mapped (lat lon : ℝ) : GPS ℝ :=
  ⟨mapX lon, mapY (nearestLatitude lat) - (lat - nearestLatitude lat)⟩

/-- What is assumed of `MillierConvertion` elsewhere. -/
theorem mapped_projection : Projection mapped where
  east _ _ _ less := mapX_strictMono less
  parallel _ _ _ := rfl
  meridian _ _ _ := rfl
  north lat lat' _ less := by
    change mapY (nearestLatitude lat') - (lat' - nearestLatitude lat') <
      mapY (nearestLatitude lat) - (lat - nearestLatitude lat)
    have short := nearestLatitude_short less
    rcases (nearestLatitude_mono less).eq_or_lt with same | further
    · rw [same]
      linarith
    · have lower := mapY_lt (nearestLatitude_valid lat) (nearestLatitude_valid lat') further
      linarith

theorem millierX_exact (lon : ℝ) :
    (.value mapWidth / 2.0 + .value mapWidth / (2.0 * GPSVec.mPi) * GPSVec.rad (.value lon) :
      Exact) = .value (mapX lon) := by
  have two : (2.0 : Exact) = .value 2.0 := rfl
  have pi : (GPSVec.mPi : Exact) = .value libraryPi := rfl
  have nonzero : 2.0 * libraryPi ≠ 0 := mul_ne_zero (by norm_num) libraryPi_pos.ne'
  rw [rad_exact, pi, two, Exact.value_mul, Exact.value_div _ (by norm_num),
    Exact.value_div _ nonzero, Exact.value_mul, Exact.value_add, mapX]

theorem millierY_exact {lat : ℝ} (valid : |lat| ≤ 90) :
    (.value mapWidth / 2.0 / 2.0 - .value mapWidth / 2.0 / (2.0 * 2.3) *
      (1.25 * DoublePrecision.log (DoublePrecision.tan
        (0.25 * GPSVec.mPi + 0.4 * GPSVec.rad (.value lat)))) : Exact) = .value (mapY lat) := by
  obtain ⟨above, below⟩ := millierAngle_quadrant valid
  have angle : 0.25 * GPSVec.mPi + 0.4 * GPSVec.rad (.value lat) =
      Exact.value (millierAngle lat) := by
    rw [rad_exact]
    rfl
  have tangent : DoublePrecision.tan (Exact.value (millierAngle lat)) =
      .value (tan (millierAngle lat)) :=
    Exact.within_value (cos_pos_of_mem_Ioo ⟨by linarith, below⟩).ne'
  have logarithm : DoublePrecision.log (Exact.value (tan (millierAngle lat))) =
      .value (log (tan (millierAngle lat))) :=
    Exact.within_value (millierTan_pos valid)
  have two : (2.0 : Exact) = .value 2.0 := rfl
  have mill : (2.3 : Exact) = .value 2.3 := rfl
  have factor : (1.25 : Exact) = .value 1.25 := rfl
  rw [angle, tangent, logarithm, mill, factor, two, Exact.value_mul, Exact.value_mul,
    Exact.value_div _ (by norm_num), Exact.value_div _ (by norm_num),
    Exact.value_div _ (by norm_num), Exact.value_mul, Exact.value_sub, mapY]

section

variable [ExactBits]

theorem millierConvertion_exact {lat : ℝ} (valid : |lat| ≤ 90) (lon : ℝ) :
    (GPSVec.millierConvertion (.value lat) (.value lon) : GPS Exact) =
      (mapped lat lon).exact := by
  rw [mapped, nearestLatitude_self valid, sub_self, sub_zero]
  exact congrArg₂ GPS.mk (millierX_exact lon) (millierY_exact valid)

/-- A map of the earth: it has a place for every position, it is a projection, its parallels
are divided evenly into its width, and no two positions have the same place. -/
structure MapsEarth (convert : Exact → Exact → GPS Exact) : Prop where
  projects : ∃ project, Projection project ∧
    ∀ lat lon, |lat| ≤ 90 → convert (.value lat) (.value lon) = (project lat lon).exact
  even : ∀ lat lon place, |lat| ≤ 90 → convert (.value lat) (.value lon) = place →
    place.x = .value (mapWidth * ((180 + lon) / 360))
  apart : ∀ lat lon lat' lon', |lat| ≤ 90 → |lat'| ≤ 90 →
    convert (.value lat) (.value lon) = convert (.value lat') (.value lon') →
    lat = lat' ∧ lon = lon'

/-- `MillierConvertion` maps the earth. -/
theorem millierConvertion_mapsEarth : MapsEarth GPSVec.millierConvertion where
  projects := ⟨mapped, mapped_projection, fun _ lon valid => millierConvertion_exact valid lon⟩
  even lat lon place valid same := by
    rw [← same, millierConvertion_exact valid, ← mapX_eq]
    rfl
  apart lat lon lat' lon' valid valid' same := by
    rw [millierConvertion_exact valid, millierConvertion_exact valid'] at same
    have x : mapX lon = mapX lon' := Exact.value.inj (congrArg GPS.x same)
    have y : mapY (nearestLatitude lat) - (lat - nearestLatitude lat) =
        mapY (nearestLatitude lat') - (lat' - nearestLatitude lat') :=
      Exact.value.inj (congrArg GPS.y same)
    rw [nearestLatitude_self valid, nearestLatitude_self valid', sub_self, sub_self, sub_zero,
      sub_zero] at y
    refine ⟨?_, mapX_strictMono.injective x⟩
    rcases lt_trichotomy lat lat' with less | same | greater
    · exact absurd y (mapY_lt valid valid' less).ne'
    · exact same
    · exact absurd y (mapY_lt valid' valid greater).ne

end

end TunVideo
