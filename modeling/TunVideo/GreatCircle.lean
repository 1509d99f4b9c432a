import TunVideo.DeadReckoning

set_option autoImplicit false

namespace TunVideo

open Real InnerProductGeometry

/-- `EARTH_RADIUS`, in kilometres. -/
noncomputable def earthRadius : ℝ := 6371.004

/-- `rad`, with the value that the C library has for pi. -/
noncomputable def radians (degrees : ℝ) : ℝ := degrees * 3.14159265358979323846 / 180

/-- Where a position is on the unit sphere. -/
noncomputable def direction (gps : GPS ℝ) : EuclideanSpace ℝ (Fin 3) :=
  .toLp _ ![cos (radians gps.x) * cos (radians gps.y), cos (radians gps.x) * sin (radians gps.y),
    sin (radians gps.x)]

theorem direction_inner (p q : GPS ℝ) :
    inner ℝ (direction p) (direction q) =
      cos (radians p.x) * cos (radians q.x) * cos (radians p.y - radians q.y) +
        sin (radians p.x) * sin (radians q.x) := by
  rw [cos_sub]
  simp [direction, PiLp.inner_apply, Fin.sum_univ_three]
  ring

theorem direction_norm (p : GPS ℝ) : ‖direction p‖ = 1 := by
  have square : ‖direction p‖ ^ 2 = 1 := by
    rw [← real_inner_self_eq_norm_sq, direction_inner, sub_self, cos_zero]
    linear_combination cos_sq_add_sin_sq (radians p.x)
  exact (pow_eq_one_iff_of_nonneg (norm_nonneg _) two_ne_zero).mp square

theorem direction_bounds (p q : GPS ℝ) :
    -1 ≤ inner ℝ (direction p) (direction q) ∧ inner ℝ (direction p) (direction q) ≤ 1 := by
  have bounded := abs_real_inner_le_norm (direction p) (direction q)
  rw [direction_norm, direction_norm, mul_one] at bounded
  exact abs_le.mp bounded

theorem haversine_eq (p q : GPS ℝ) :
    sin ((radians p.x - radians q.x) / 2) ^ 2 +
        cos (radians p.x) * cos (radians q.x) * sin ((radians p.y - radians q.y) / 2) ^ 2 =
      (1 - inner ℝ (direction p) (direction q)) / 2 := by
  have half (x : ℝ) : sin (x / 2) ^ 2 = (1 - cos x) / 2 := by
    have double := cos_sq' (x / 2)
    rw [cos_sq, mul_div_cancel₀ x two_ne_zero] at double
    linarith
  rw [half, half, direction_inner, cos_sub (radians p.x)]
  ring

theorem two_arcsin_eq_arccos {x : ℝ} (least : -1 ≤ x) (most : x ≤ 1) :
    2 * arcsin √((1 - x) / 2) = arccos x := by
  have nonneg := arccos_nonneg x
  have below := arccos_le_pi x
  have half := sin_half_eq_sqrt nonneg (by linarith [pi_pos])
  rw [cos_arccos least most] at half
  rw [← half, arcsin_sin (by linarith [pi_pos]) (by linarith)]
  ring

theorem angle_direction (p q : GPS ℝ) :
    angle (direction p) (direction q) = arccos (inner ℝ (direction p) (direction q)) := by
  rw [angle, direction_norm, direction_norm, mul_one, div_one]

/-- The degrees of a map. -/
structure OnMap (gps : GPS ℝ) : Prop where
  latitude : |gps.x| ≤ 90
  longitude : |gps.y| ≤ 180

/-- The value of pi is too small: no latitude of the map is that of a pole, and no longitude goes
half round the earth. -/
theorem OnMap.radians_lt {gps : GPS ℝ} (inside : OnMap gps) :
    |radians gps.x| < π / 2 ∧ |radians gps.y| < π := by
  have short := pi_gt_d20
  have scaled (degrees : ℝ) :
      |radians degrees| = |degrees| * (3.14159265358979323846 / 180) := by
    rw [radians, mul_div_assoc, abs_mul, abs_of_pos (by norm_num : (0 : ℝ) < _ / 180)]
  rw [scaled, scaled]
  constructor
  · linarith [inside.latitude]
  · linarith [inside.longitude]

/-- Inside the map every point has one name. -/
theorem OnMap.direction_injective {p q : GPS ℝ} (here : OnMap p) (there : OnMap q)
    (same : direction p = direction q) : p = q := by
  obtain ⟨northP, eastP⟩ := here.radians_lt
  obtain ⟨northQ, eastQ⟩ := there.radians_lt
  rw [abs_lt] at northP northQ eastP eastQ
  have coordinate (i : Fin 3) := congrArg (fun point : EuclideanSpace ℝ (Fin 3) => point i) same
  have first : cos (radians p.x) * cos (radians p.y) = cos (radians q.x) * cos (radians q.y) :=
    coordinate 0
  have second : cos (radians p.x) * sin (radians p.y) = cos (radians q.x) * sin (radians q.y) :=
    coordinate 1
  have third : sin (radians p.x) = sin (radians q.x) := coordinate 2
  have latitude : radians p.x = radians q.x :=
    injOn_sin ⟨by linarith, by linarith⟩ ⟨by linarith, by linarith⟩ third
  have positive : cos (radians q.x) ≠ 0 :=
    (cos_pos_of_mem_Ioo ⟨by linarith, by linarith⟩).ne'
  rw [latitude] at first second
  have cosines := mul_left_cancel₀ positive first
  have sines := mul_left_cancel₀ positive second
  have none : cos (radians p.y - radians q.y) = 1 := by
    rw [cos_sub, cosines, sines]
    linear_combination cos_sq_add_sin_sq (radians q.y)
  have longitude : radians p.y - radians q.y = 0 :=
    (cos_eq_one_iff_of_lt_of_lt (by linarith) (by linarith)).mp none
  have degrees {a b : ℝ} (same : radians a = radians b) : a = b := by
    rw [radians, radians] at same
    linarith
  obtain ⟨px, py⟩ := p
  obtain ⟨qx, qy⟩ := q
  rw [GPS.mk.injEq]
  exact ⟨degrees latitude, degrees (sub_eq_zero.mp longitude)⟩

theorem rad_exact (degrees : ℝ) :
    GPSVec.rad (Exact.value degrees) = .value (radians degrees) := by
  have halfTurn : (180.0 : Exact) = .value 180 := congrArg Exact.value (by norm_num)
  rw [GPSVec.rad, halfTurn]
  exact Exact.value_div _ (by norm_num)

/-- `pow(x, 2)` -/
theorem pow_exact (x : ℝ) : DoublePrecision.pow (Exact.value x) 2.0 = .value (x ^ 2) := by
  rw [Exact.two_literal]
  exact congrArg Exact.value (rpow_two x)

section

variable [ExactBits]

theorem calDistance_exact (p q : GPS ℝ) :
    GPSVec.calDistance p.exact q.exact =
      Exact.value (earthRadius * angle (direction p) (direction q)) := by
  obtain ⟨least, most⟩ := direction_bounds p q
  have root : √((1 - inner ℝ (direction p) (direction q)) / 2) ≤ 1 := by
    rw [sqrt_le_one]
    linarith
  have half (x : ℝ) : DoublePrecision.sin (Exact.value x / 2.0) = .value (sin (x / 2)) := by
    rw [Exact.two_literal, Exact.value_div _ two_ne_zero]
    rfl
  have square : DoublePrecision.pow (DoublePrecision.sin
        ((Exact.value (radians p.x) - .value (radians q.x)) / 2.0)) 2.0 +
      DoublePrecision.cos (Exact.value (radians p.x)) *
        DoublePrecision.cos (Exact.value (radians q.x)) * DoublePrecision.pow
          (DoublePrecision.sin ((Exact.value (radians p.y) - .value (radians q.y)) / 2.0)) 2.0 =
      .value ((1 - inner ℝ (direction p) (direction q)) / 2) := by
    rw [Exact.value_sub, Exact.value_sub, half, half, pow_exact, pow_exact, ← haversine_eq]
    rfl
  unfold GPSVec.calDistance
  change 2.0 * DoublePrecision.asin (DoublePrecision.sqrt (DoublePrecision.pow
      (DoublePrecision.sin ((GPSVec.rad (Exact.value p.x) - GPSVec.rad (.value q.x)) / 2.0)) 2.0 +
      DoublePrecision.cos (GPSVec.rad (Exact.value p.x)) *
        DoublePrecision.cos (GPSVec.rad (Exact.value q.x)) * DoublePrecision.pow
          (DoublePrecision.sin ((GPSVec.rad (Exact.value p.y) - GPSVec.rad (.value q.y)) / 2.0))
          2.0)) * GPSVec.earthRadius = _
  rw [rad_exact, rad_exact, rad_exact, rad_exact, square]
  have rooted : DoublePrecision.sqrt (Exact.value ((1 - inner ℝ (direction p) (direction q)) / 2)) =
      .value √((1 - inner ℝ (direction p) (direction q)) / 2) :=
    Exact.within_value (by linarith)
  have nonneg := sqrt_nonneg ((1 - inner ℝ (direction p) (direction q)) / 2)
  have inverse : DoublePrecision.asin
        (Exact.value √((1 - inner ℝ (direction p) (direction q)) / 2)) =
      .value (arcsin √((1 - inner ℝ (direction p) (direction q)) / 2)) :=
    Exact.within_value (abs_le.mpr ⟨by linarith, root⟩)
  have radius : (GPSVec.earthRadius : Exact) = .value earthRadius := rfl
  rw [rooted, inverse, radius, Exact.two_literal, Exact.value_mul, Exact.value_mul,
    two_arcsin_eq_arccos least most, angle_direction, mul_comm]

/-- A distance on the earth: it has a value for every two positions, it is the way along the
great circle, and it is a metric of the directions that the positions are given. On the map even
the two names of a pole, or of a point on its edge, have directions of their own. -/
structure MeasuresEarth (distance : GPS ℝ → GPS ℝ → Exact) : Prop where
  along : ∀ p q, distance p q = .value (earthRadius * angle (direction p) (direction q))
  bounded : ∀ p q, ∃ length, distance p q = .value length ∧ 0 ≤ length ∧ length ≤ earthRadius * π
  symmetric : ∀ p q, distance p q = distance q p
  triangle : ∀ p q r first second direct, distance p q = .value first →
    distance q r = .value second → distance p r = .value direct → direct ≤ first + second
  apart : ∀ p q, distance p q = .value 0 ↔ direction p = direction q
  separate : ∀ p q, OnMap p → OnMap q → (distance p q = .value 0 ↔ p = q)

theorem calDistance_eq_zero_iff (p q : GPS ℝ) :
    GPSVec.calDistance p.exact q.exact = .value 0 ↔ direction p = direction q := by
  have most := (direction_bounds p q).2
  have unit : inner ℝ (direction p) (direction q) = 1 ↔ direction p = direction q :=
    inner_eq_one_iff_of_norm_eq_one (direction_norm p) (direction_norm q)
  rw [calDistance_exact, Exact.value.injEq, mul_eq_zero,
    or_iff_right (by norm_num [earthRadius]), angle_direction, arccos_eq_zero, ← unit]
  exact ⟨fun least => le_antisymm most least, fun same => same.ge⟩

/-- `CalModule` measures the earth. -/
theorem calDistance_measuresEarth :
    MeasuresEarth fun p q => GPSVec.calDistance p.exact q.exact where
  along := calDistance_exact
  bounded p q := by
    refine ⟨_, calDistance_exact p q, ?_, ?_⟩
    · exact mul_nonneg (by norm_num [earthRadius]) (angle_nonneg _ _)
    · exact mul_le_mul_of_nonneg_left (angle_le_pi _ _) (by norm_num [earthRadius])
  symmetric p q := by
    rw [calDistance_exact, calDistance_exact, angle_comm]
  triangle p q r first second direct hfirst hsecond hdirect := by
    rw [calDistance_exact, Exact.value.injEq] at hfirst hsecond hdirect
    rw [← hfirst, ← hsecond, ← hdirect, ← mul_add]
    exact mul_le_mul_of_nonneg_left (angle_le_angle_add_angle _ _ _) (by norm_num [earthRadius])
  apart := calDistance_eq_zero_iff
  separate p q here there := by
    rw [calDistance_eq_zero_iff]
    exact ⟨here.direction_injective there, congrArg direction⟩

end

end TunVideo
