import TunVideo.Predict

set_option autoImplicit false

namespace TunVideo

open SinglePrecision

theorem GPS.Unmoved.symm {after before : GPS Float32} (unmoved : after.Unmoved before) :
    before.Unmoved after :=
  ⟨unmoved.x.symm, unmoved.y.symm⟩

theorem GPS.Unmoved.trans {first second third : GPS Float32} (unmoved : first.Unmoved second)
    (next : second.Unmoved third) : first.Unmoved third :=
  ⟨unmoved.x.trans next.x, unmoved.y.trans next.y⟩

/-- When no time has passed the prediction is the last position of the history. -/
def StartsAtLast (gaussrand : Nat → Float) (q : List (GPS Float32)) (v : Speed Float32) : Prop :=
  ∃ position last, advancedPredict gaussrand q 0 v = some position ∧ q.getLast? = some last ∧
    position.Unmoved last

/-- Each component of the speed is finite, or has no number to be added to. -/
structure Movable (v : Speed Float32) (gps : GPS Float32) : Prop where
  x : v.x.isFinite = true ∨ gps.x.isNaN = true
  y : v.y.isFinite = true ∨ gps.y.isNaN = true

/-- The last position is the one from which the prediction starts: the eighth, in a history that
is as long, and otherwise itself. -/
def LastIsStart (q : List (GPS Float32)) (v : Speed Float32) : Prop :=
  ∃ last, q.getLast? = some last ∧
    if q.length < 8 then Movable v last
    else ∃ eighth, q[7]? = some eighth ∧ eighth.Unmoved last

theorem shortPredict_unmoved_iff {q : List (GPS Float32)} {v : Speed Float32}
    {last : GPS Float32} (latest : q.getLast? = some last) :
    (∃ position, shortPredict q 0 v = some position ∧ position.Unmoved last) ↔
      Movable v last := by
  rw [shortPredict, latest, Option.map_some]
  constructor
  · rintro ⟨position, ⟨⟩, unmoved⟩
    exact ⟨(Binary32.sameNumber_scaled_iff last.x v.x).mp unmoved.x,
      (Binary32.sameNumber_scaled_iff last.y v.y).mp unmoved.y⟩
  · intro movable
    exact ⟨_, rfl, (Binary32.sameNumber_scaled_iff last.x v.x).mpr movable.x,
      (Binary32.sameNumber_scaled_iff last.y v.y).mpr movable.y⟩

theorem startsAtLast_short_iff (gaussrand : Nat → Float) {q : List (GPS Float32)}
    {v : Speed Float32} {last : GPS Float32} (latest : q.getLast? = some last)
    (short : q.length < 8) : StartsAtLast gaussrand q v ↔ Movable v last := by
  rw [← shortPredict_unmoved_iff latest, StartsAtLast, advancedPredict_short gaussrand short,
    caseNum_current, Option.bind_some, latest]
  constructor
  · rintro ⟨position, _, predicted, ⟨⟩, unmoved⟩
    exact ⟨position, predicted, unmoved⟩
  · rintro ⟨position, predicted, unmoved⟩
    exact ⟨position, last, predicted, rfl, unmoved⟩

theorem startsAtLast_long_iff (gaussrand : Nat → Float) {q : List (GPS Float32)}
    (v : Speed Float32) {last eighth : GPS Float32} (latest : q.getLast? = some last)
    (begins : q[7]? = some eighth) : StartsAtLast gaussrand q v ↔ eighth.Unmoved last := by
  obtain ⟨position, predicted, start⟩ := advancedPredict_eighth gaussrand begins v
  rw [StartsAtLast, predicted, latest]
  constructor
  · rintro ⟨_, _, ⟨⟩, ⟨⟩, unmoved⟩
    exact start.symm.trans unmoved
  · intro same
    exact ⟨position, last, rfl, rfl, start.trans same⟩

/-- The prediction starts from the most recent position if and only if that is the eighth, or
the history is shorter. -/
theorem startsAtLast_iff (gaussrand : Nat → Float) (q : List (GPS Float32)) (v : Speed Float32) :
    StartsAtLast gaussrand q v ↔ LastIsStart q v := by
  cases latest : q.getLast? with
  | none =>
      refine iff_of_false ?_ ?_
      · rintro ⟨position, last, -, found, -⟩
        rw [latest] at found
        cases found
      · rintro ⟨last, found, -⟩
        rw [latest] at found
        cases found
  | some last =>
      have only : LastIsStart q v ↔ if q.length < 8 then Movable v last
          else ∃ eighth, q[7]? = some eighth ∧ eighth.Unmoved last := by
        rw [LastIsStart, latest]
        constructor
        · rintro ⟨_, ⟨⟩, start⟩
          exact start
        · intro start
          exact ⟨last, rfl, start⟩
      rw [only]
      split
      · rename_i short
        exact startsAtLast_short_iff gaussrand latest short
      · rename_i long
        have begins : q[7]? = some q[7] := List.getElem?_eq_getElem (by omega)
        rw [startsAtLast_long_iff gaussrand v latest begins, begins]
        constructor
        · intro same
          exact ⟨_, rfl, same⟩
        · rintro ⟨_, ⟨⟩, same⟩
          exact same

/-- A node that has stayed at (0,0) for eight beacons and has moved to (1,0) since. -/
def movedAway : List (GPS Float32) :=
  List.replicate 8 ⟨ofUInt32 0, ofUInt32 0⟩ ++ [⟨ofUInt32 1, ofUInt32 0⟩]

/-- The prediction still starts from (0,0). -/
theorem movedAway_startsEarlier :
    ¬∀ (gaussrand : Nat → Float) (q : List (GPS Float32)) (v : Speed Float32),
      1 ≤ q.length → q.length ≤ 10 → StartsAtLast gaussrand q v := by
  intro starts
  have begins : movedAway[7]? = some ⟨ofUInt32 0, ofUInt32 0⟩ := rfl
  have latest : movedAway.getLast? = some ⟨ofUInt32 1, ofUInt32 0⟩ := rfl
  have same := (startsAtLast_long_iff (fun _ => 0) ⟨ofUInt32 0, ofUInt32 0⟩ latest begins).mp
    (starts _ movedAway _ (by decide) (by decide))
  have compared := same.sameAs ⟨ofUInt32 0, ofUInt32 0⟩
  revert compared
  decide +kernel

end TunVideo
