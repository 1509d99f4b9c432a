import TunVideo.DeadReckoning

set_option autoImplicit false

namespace TunVideo

noncomputable def displacement (before last : GPS ℝ) : ℝ :=
  √((last.x - before.x) ^ 2 + (last.y - before.y) ^ 2)

/-- A speed is the given one along the displacement between the last two positions, in absolute
values. Where they coincide its components are still numbers. -/
structure AlongDisplacement (before last : GPS ℝ) (v : ℝ) (s : Speed Exact) : Prop where
  moved : 0 < displacement before last → ∃ x y : ℝ, s = ⟨.value x, .value y⟩ ∧
    x * displacement before last = v * |last.x - before.x| ∧
    y * displacement before last = v * |last.y - before.y| ∧ x ^ 2 + y ^ 2 = v ^ 2
  unmoved : before = last → s.x ≠ .undefined ∧ s.y ≠ .undefined

theorem displacement_pos {before last : GPS ℝ} (apart : before ≠ last) :
    0 < displacement before last := by
  apply Real.sqrt_pos.mpr
  by_contra none
  have squares : (last.x - before.x) ^ 2 + (last.y - before.y) ^ 2 = 0 :=
    le_antisymm (not_lt.mp none) (add_nonneg (sq_nonneg _) (sq_nonneg _))
  have flat := (add_eq_zero_iff_of_nonneg (sq_nonneg _) (sq_nonneg _)).mp squares
  have x : before.x = last.x := (sub_eq_zero.mp (pow_eq_zero_iff two_ne_zero |>.mp flat.1)).symm
  have y : before.y = last.y := (sub_eq_zero.mp (pow_eq_zero_iff two_ne_zero |>.mp flat.2)).symm
  apply apart
  cases before
  cases last
  cases x
  cases y
  rfl

/-- A speed without components is along no displacement. -/
theorem undefined_notAlong (before last : GPS ℝ) (v : ℝ) :
    ¬AlongDisplacement before last v ⟨.undefined, .undefined⟩ := by
  intro along
  by_cases apart : before = last
  · exact (along.unmoved apart).1 rfl
  · obtain ⟨x, y, same, -⟩ := along.moved (displacement_pos apart)
    cases same

/-- A queue that ends with two positions has two to begin with. -/
theorem speedChange_last [ExactBits] (older : List (GPS ℝ)) (before last : GPS ℝ) (v : ℝ) :
    (GPSVec.speedChange ((older ++ [before, last]).map GPS.exact) (.value v) : Speed Exact) =
      ⟨.undefined, .undefined⟩ := by
  match older with
  | [] => exact speedChange_undefined before last [] v
  | [first] => exact speedChange_undefined first before [last] v
  | first :: second :: rest => exact speedChange_undefined first second _ v

/-- Whatever queue it is given, `SpeedChange` does not decompose the speed. -/
theorem speedChange_notAlong [ExactBits] (older : List (GPS ℝ)) (before last : GPS ℝ) (v : ℝ) :
    ¬AlongDisplacement before last v
      (GPSVec.speedChange ((older ++ [before, last]).map GPS.exact) (.value v)) := by
  rw [speedChange_last]
  exact undefined_notAlong before last v

/-- A move by (3,4) at speed 5 is not the speed (3,4). -/
theorem speedChange_loses_move :
    ¬∀ [ExactBits] (older : List (GPS ℝ)) (before last : GPS ℝ) (v : ℝ),
      AlongDisplacement before last v
        (GPSVec.speedChange ((older ++ [before, last]).map GPS.exact) (.value v)) := by
  intro along
  have moved := @along ⟨fun _ => 0⟩ [] ⟨0, 0⟩ ⟨3, 4⟩ 5
  rw [@speedChange_last ⟨fun _ => 0⟩ [] ⟨0, 0⟩ ⟨3, 4⟩ 5] at moved
  exact undefined_notAlong _ _ _ moved

end TunVideo
