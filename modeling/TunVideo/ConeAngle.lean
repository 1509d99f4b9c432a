import TunVideo.DeadReckoning

set_option autoImplicit false

namespace TunVideo

section

variable {F D : Type} [DoublePrecision D]

/-- What `CalTheate` compares and passes to `acos`, of the three distances. -/
def coneRatio (a b c : D) : D := (a * a + b * b - c * c) / 2.0 * a * b

/-- What `CalTheata` compares and passes to `acos`. -/
def headingRatio (vec1 vec2 : GPSVec D) : D :=
  GPSVec.calDotMul vec1 vec2 / (GPSVec.calModule vec1 * GPSVec.calModule vec2)

theorem calTheate_eq [SinglePrecision F D] (selfGps nghbrGps dstGps : GPS F) :
    GPSVec.calTheate selfGps nghbrGps dstGps = GPSVec.angleOf
      (coneRatio (GPSVec.calDistance selfGps nghbrGps) (GPSVec.calDistance selfGps dstGps)
        (GPSVec.calDistance nghbrGps dstGps)) := rfl

theorem calTheata_eq (vec1 vec2 : GPSVec D) :
    GPSVec.calTheata vec1 vec2 = GPSVec.angleOf (headingRatio vec1 vec2) := rfl

end

theorem coneRatio_value (a b c : ℝ) :
    coneRatio (.value a) (.value b) (.value c) =
      Exact.value ((a ^ 2 + b ^ 2 - c ^ 2) * (a * b) / 2) := by
  unfold coneRatio
  rw [Exact.two_literal]
  simp only [Exact.value_mul, Exact.value_add, Exact.value_sub]
  rw [Exact.value_div _ two_ne_zero]
  simp only [Exact.value_mul]
  congr 1
  ring

/-- The Euclidean distance of two positions of the plane. -/
noncomputable def planeDistance (src dst : GPS ℝ) : ℝ :=
  √((dst.x - src.x) * (dst.x - src.x) + (dst.y - src.y) * (dst.y - src.y))

section

variable [ExactBits]

noncomputable def planeVec (src dst : GPS ℝ) : GPSVec Exact := .ofGPS src.exact dst.exact

theorem planeVec_eq (src dst : GPS ℝ) :
    planeVec src dst = ⟨.value (dst.x - src.x), .value (dst.y - src.y)⟩ := rfl

theorem calModule_planeVec (src dst : GPS ℝ) :
    GPSVec.calModule (planeVec src dst) = .value (planeDistance src dst) :=
  Exact.within_value (add_nonneg (mul_self_nonneg _) (mul_self_nonneg _))

/-- The ratio of three distances is the cosine of the angle at the first position, in triangles
of any size. -/
structure IsCosine (a b c : ℝ) : Prop where
  ratio : coneRatio (.value a) (.value b) (.value c) =
    Exact.value ((a ^ 2 + b ^ 2 - c ^ 2) / (2 * a * b))
  range : ∃ x, coneRatio (.value a) (.value b) (.value c) = Exact.value x ∧ -1 ≤ x ∧ x ≤ 1
  scale : ∀ factor : ℝ, 0 < factor →
    coneRatio (.value (factor * a)) (.value (factor * b)) (.value (factor * c)) =
      coneRatio (Exact.value a) (.value b) (.value c)
  planar : ∀ selfGps nghbrGps dstGps : GPS ℝ, planeDistance selfGps nghbrGps = a →
    planeDistance selfGps dstGps = b → planeDistance nghbrGps dstGps = c →
      coneRatio (.value a) (.value b) (.value c) =
        headingRatio (planeVec selfGps dstGps) (planeVec selfGps nghbrGps)

end

/-- The quotient is multiplied where it should be divided. -/
theorem coneRatio_cosine_iff {a b c : ℝ} (neighbor : 0 < a) (destination : 0 < b) :
    coneRatio (.value a) (.value b) (.value c) =
        Exact.value ((a ^ 2 + b ^ 2 - c ^ 2) / (2 * a * b)) ↔
      a * b = 1 ∨ a ^ 2 + b ^ 2 = c ^ 2 := by
  have area : 0 < a * b := mul_pos neighbor destination
  have double : 2 * a * b ≠ 0 := by
    rw [mul_assoc]
    exact mul_ne_zero two_ne_zero area.ne'
  rw [coneRatio_value, Exact.value.injEq, eq_div_iff double]
  constructor
  · intro same
    have factored : (a ^ 2 + b ^ 2 - c ^ 2) * ((a * b - 1) * (a * b + 1)) = 0 := by
      linear_combination same
    rcases mul_eq_zero.mp factored with right | unit
    · exact Or.inr (sub_eq_zero.mp right)
    · rcases mul_eq_zero.mp unit with one | negative
      · exact Or.inl (sub_eq_zero.mp one)
      · linarith
  · rintro (unit | right)
    · linear_combination (a ^ 2 + b ^ 2 - c ^ 2) * (a * b + 1) * unit
    · linear_combination ((a * b) ^ 2 - 1) * right

theorem coneRatio_double (a b c : ℝ) :
    coneRatio (.value (2 * a)) (.value (2 * b)) (.value (2 * c)) =
      Exact.value (16 * ((a ^ 2 + b ^ 2 - c ^ 2) * (a * b) / 2)) := by
  rw [coneRatio_value]
  congr 1
  ring

theorem planeDistance_law (selfGps nghbrGps dstGps : GPS ℝ) :
    planeDistance selfGps nghbrGps ^ 2 + planeDistance selfGps dstGps ^ 2 -
        planeDistance nghbrGps dstGps ^ 2 =
      2 * ((dstGps.x - selfGps.x) * (nghbrGps.x - selfGps.x) +
        (dstGps.y - selfGps.y) * (nghbrGps.y - selfGps.y)) := by
  have square (src dst : GPS ℝ) : planeDistance src dst ^ 2 =
      (dst.x - src.x) * (dst.x - src.x) + (dst.y - src.y) * (dst.y - src.y) :=
    Real.sq_sqrt (add_nonneg (mul_self_nonneg _) (mul_self_nonneg _))
  rw [square, square, square]
  ring

section

variable [ExactBits]

theorem isCosine_of_right {a b c : ℝ} (neighbor : 0 < a) (destination : 0 < b)
    (right : a ^ 2 + b ^ 2 = c ^ 2) : IsCosine a b c := by
  have nothing : a ^ 2 + b ^ 2 - c ^ 2 = 0 := sub_eq_zero.mpr right
  have zero : coneRatio (.value a) (.value b) (.value c) = Exact.value 0 := by
    rw [coneRatio_value, nothing, zero_mul, zero_div]
  constructor
  · rw [zero, nothing, zero_div]
  · exact ⟨0, zero, by norm_num, by norm_num⟩
  · intro factor positive
    rw [zero, coneRatio_value]
    congr 1
    linear_combination factor ^ 4 * (a * b) / 2 * right
  · rintro selfGps nghbrGps dstGps rfl rfl rfl
    have law := planeDistance_law selfGps nghbrGps dstGps
    have product : GPSVec.calDotMul (planeVec selfGps dstGps) (planeVec selfGps nghbrGps) =
        .value 0 := by
      rw [planeVec_eq, planeVec_eq, GPSVec.calDotMul]
      simp only [Exact.value_mul, Exact.value_add]
      congr 1
      linarith
    rw [zero, headingRatio, product, calModule_planeVec, calModule_planeVec, Exact.value_mul,
      Exact.value_div _ (mul_pos destination neighbor).ne', zero_div]

/-- `CalTheate` has the cosine of the angle when that is a right angle, and on no other triangle
of any size. On a single triangle its quotient is right also when `a * b` is one. -/
theorem coneRatio_isCosine_iff (a b c : ℝ) (neighbor : 0 < a) (destination : 0 < b) :
    (IsCosine a b c ↔ a ^ 2 + b ^ 2 = c ^ 2) ∧
      (coneRatio (.value a) (.value b) (.value c) =
          Exact.value ((a ^ 2 + b ^ 2 - c ^ 2) / (2 * a * b)) ↔
        a * b = 1 ∨ a ^ 2 + b ^ 2 = c ^ 2) := by
  refine ⟨⟨?_, isCosine_of_right neighbor destination⟩,
    coneRatio_cosine_iff neighbor destination⟩
  intro cosine
  have doubled := cosine.scale 2 two_pos
  rw [coneRatio_double, coneRatio_value, Exact.value.injEq] at doubled
  have product : (a ^ 2 + b ^ 2 - c ^ 2) * (a * b) = 0 := by linarith
  rcases mul_eq_zero.mp product with right | flat
  · exact sub_eq_zero.mp right
  · exact absurd flat (mul_pos neighbor destination).ne'

end

/-- The sides 3, 4 and 5. -/
theorem coneRatio_isCosine_right :
    (@IsCosine ⟨fun _ => 0⟩ 3 4 5 ↔ (3 : ℝ) ^ 2 + 4 ^ 2 = 5 ^ 2) ∧
      (coneRatio (.value 3) (.value 4) (.value 5) =
          Exact.value ((3 ^ 2 + 4 ^ 2 - 5 ^ 2) / (2 * 3 * 4)) ↔
        (3 : ℝ) * 4 = 1 ∨ (3 : ℝ) ^ 2 + 4 ^ 2 = 5 ^ 2) :=
  @coneRatio_isCosine_iff ⟨fun _ => 0⟩ 3 4 5 (by norm_num) (by norm_num)

/-- With three sides of length 2 the ratio is 8, and the cosine is one half. -/
theorem coneRatio_equilateral : ¬@IsCosine ⟨fun _ => 0⟩ 2 2 2 := by
  intro cosine
  have ratio := @IsCosine.ratio ⟨fun _ => 0⟩ _ _ _ cosine
  rw [coneRatio_value, Exact.value.injEq] at ratio
  norm_num at ratio

end TunVideo
