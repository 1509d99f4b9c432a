import TunVideo.Predict

set_option autoImplicit false

namespace TunVideo

open SinglePrecision DoublePrecision

variable {F D : Type} [DoublePrecision D] [SinglePrecision F D]

def caseNum (F : Type) [SinglePrecision F D] (time : UInt32) : Option UInt32 :=
  toUInt32 (ofDouble (wordToDouble F time / 1000.0) : F)

/-- `vel` before the first second. -/
def initialVel (v : Speed F) : F := ofDouble (sqrt (toDouble (v.x * v.x + v.y * v.y)))

def historySlopes (q : List (GPS F)) : List D := (q.take 7).zipWith slope (q.tail.take 7)

/-- The direction of the last move that is looked at, and the variables before the first
second. -/
def predictionStart (q : List (GPS F)) (v : Speed F) : Option (Bool × Prediction F D) := do
  let p1 ← q[6]?
  let lastPoint ← q[7]?
  some (!decide (toDouble lastPoint.x < toDouble p1.x),
    ⟨lastPoint, 0.0, historySlopes q ++ List.replicate 13 0.0, 7, initialVel v, 0⟩)

def secondTravel (gaussrand : Nat → D) (prediction : Prediction F D) : Travel F D :=
  (travelStep gaussrand 0.1)^[10] ⟨0.0, prediction.vel, prediction.draws⟩

def dtime (time caseNum : UInt32) : Nat := (time - caseNum * 1000).toInt32.toInt.toNat

def lastTravel (gaussrand : Nat → D) (steps : Nat) (prediction : Prediction F D) : Travel F D :=
  (travelStep gaussrand 0.001)^[steps] ⟨0.0, prediction.vel, prediction.draws⟩

theorem advancedPredict_long (gaussrand : Nat → D) {q : List (GPS F)} (long : 8 ≤ q.length)
    (time : UInt32) (v : Speed F) :
    advancedPredict gaussrand q time v =
      (caseNum F time).bind fun caseNum => (predictionStart q v).bind fun start =>
        (seconds gaussrand start.1 caseNum.toNat start.2).map fun prediction =>
          advance start.1 prediction.predictK
            (lastTravel gaussrand (dtime time caseNum) prediction).dis prediction.lastPoint := by
  have p1 : q[6]? = some q[6] := List.getElem?_eq_getElem (by omega)
  have lastPoint : q[7]? = some q[7] := List.getElem?_eq_getElem (by omega)
  unfold advancedPredict predictionStart
  rw [p1, lastPoint]
  cases counted : caseNum F time with
  | none =>
      unfold caseNum at counted
      simp [counted]
  | some count =>
      unfold caseNum at counted
      simp only [counted, Option.bind_eq_bind, Option.bind_some, if_neg (Nat.not_lt.mpr long)]
      rw [Option.map_eq_bind]
      rfl

/-- The variables before the first second, as they come from the history and the speed. -/
structure StartsFrom (q : List (GPS F)) (v : Speed F) (start : Prediction F D) : Prop where
  lastPoint : q[7]? = some start.lastPoint
  predictK : start.predictK = 0.0
  k : start.k = historySlopes q ++ List.replicate 13 0.0
  ptr : start.ptr = 7
  vel : start.vel = initialVel v
  draws : start.draws = 0

theorem predictionStart_long {q : List (GPS F)} (long : 8 ≤ q.length) (v : Speed F) :
    ∃ xInc start, predictionStart q v = some (xInc, start) ∧ StartsFrom q v start := by
  have p1 : q[6]? = some q[6] := List.getElem?_eq_getElem (by omega)
  have lastPoint : q[7]? = some q[7] := List.getElem?_eq_getElem (by omega)
  rw [predictionStart, p1, lastPoint]
  exact ⟨_, _, rfl, lastPoint, rfl, rfl, rfl, rfl, rfl⟩

theorem historySlopes_length {q : List (GPS F)} (long : 8 ≤ q.length) :
    (historySlopes q : List D).length = 7 := by
  rw [historySlopes, List.length_zipWith, List.length_take, List.length_take, List.length_tail]
  omega

theorem StartsFrom.room {q : List (GPS F)} {v : Speed F} {start : Prediction F D}
    (starts : StartsFrom q v start) (long : 8 ≤ q.length) : start.k.length = 20 := by
  rw [starts.k, List.length_append, historySlopes_length long, List.length_replicate]

variable {gaussrand : Nat → D} {xInc : Bool}

theorem seconds_add (earlier later : Nat) (prediction : Prediction F D) :
    seconds gaussrand xInc (earlier + later) prediction =
      (seconds gaussrand xInc earlier prediction).bind (seconds gaussrand xInc later) := by
  induction earlier generalizing prediction with
  | zero => rw [Nat.zero_add, seconds, Option.bind_some]
  | succ earlier ih =>
      rw [Nat.add_right_comm, seconds, seconds, Option.bind_eq_bind, Option.bind_assoc]
      congr 1
      funext next
      exact ih next

theorem secondStep_stores {prediction next : Prediction F D}
    (step : secondStep gaussrand xInc prediction = some next) :
    prediction.ptr < prediction.k.length ∧ next.ptr = prediction.ptr + 1 ∧
      next.k.length = prediction.k.length := by
  obtain ⟨unset, read, rfl⟩ := Option.map_eq_some_iff.mp step
  obtain ⟨inside, -⟩ := List.getElem?_eq_some_iff.mp read
  exact ⟨inside, rfl, List.length_set⟩

theorem secondStep_isSome {prediction : Prediction F D} :
    (secondStep gaussrand xInc prediction).isSome ↔ prediction.ptr < prediction.k.length := by
  rw [secondStep, Option.isSome_map, Option.isSome_iff_ne_none, ne_eq,
    List.getElem?_eq_none_iff, Nat.not_le]

/-- The loop over the seconds stays in the array as long as there is room for its slopes. -/
theorem seconds_isSome_iff (count : Nat) (prediction : Prediction F D) :
    (seconds gaussrand xInc count prediction).isSome ↔
      ∀ second < count, prediction.ptr + second < prediction.k.length := by
  induction count generalizing prediction with
  | zero => simp [seconds]
  | succ count ih =>
      rw [seconds, Option.bind_eq_bind]
      cases step : secondStep gaussrand xInc prediction with
      | none =>
          have past : ¬prediction.ptr < prediction.k.length := by
            rw [← @secondStep_isSome F D _ _ gaussrand xInc, step]
            exact Bool.false_ne_true
          refine iff_of_false Bool.false_ne_true fun inside => past ?_
          exact inside 0 (Nat.succ_pos count)
      | some next =>
          obtain ⟨inside, ptr, length⟩ := secondStep_stores step
          rw [Option.bind_some, ih, ptr, length]
          constructor
          · intro later second bound
            cases second with
            | zero => exact inside
            | succ second =>
                have shifted := later second (by omega)
                omega
          · intro all second bound
            have shifted := all (second + 1) (by omega)
            omega

/-- The slope of every second: the sum reads an element that is still zero. -/
def unsetSlope : D := coeff.foldl (fun sum factor => sum + factor * 0.0) constTerm

theorem secondStep_unset {prediction : Prediction F D}
    (unset : prediction.k[prediction.ptr]? = some 0.0) :
    ∃ next, secondStep gaussrand xInc prediction = some next ∧
      next.k = prediction.k.set prediction.ptr unsetSlope ∧ next.ptr = prediction.ptr + 1 := by
  rw [secondStep, unset, Option.map_some]
  exact ⟨_, rfl, rfl, rfl⟩

/-- Whatever slopes are known, the loop stores the same one for every second. -/
theorem seconds_unsetSlope {known : List D} {room count : Nat} {prediction : Prediction F D}
    (start : prediction.k = known ++ List.replicate room 0.0)
    (ptr : prediction.ptr = known.length) (fits : count ≤ room) :
    ∃ last, seconds gaussrand xInc count prediction = some last ∧
      last.k = known ++ List.replicate count unsetSlope ++ List.replicate (room - count) 0.0 := by
  induction count generalizing known room prediction with
  | zero => exact ⟨prediction, rfl, by rw [start, List.replicate_zero, List.append_nil]; rfl⟩
  | succ count ih =>
      obtain ⟨room, rfl⟩ : ∃ rest, room = rest + 1 := ⟨room - 1, by omega⟩
      have unset : prediction.k[prediction.ptr]? = some 0.0 := by
        rw [start, ptr, List.getElem?_append_right (Nat.le_refl _), Nat.sub_self,
          List.replicate_succ, List.getElem?_cons_zero]
      have stored : prediction.k.set prediction.ptr unsetSlope =
          known ++ [unsetSlope] ++ List.replicate room 0.0 := by
        rw [start, ptr, List.set_append_right _ _ (Nat.le_refl _), Nat.sub_self,
          List.replicate_succ, List.set_cons_zero, List.append_assoc, List.singleton_append]
      obtain ⟨next, step, written, behind⟩ :=
        @secondStep_unset F D _ _ gaussrand xInc prediction unset
      obtain ⟨last, run, slopes⟩ := ih (written.trans stored)
        (by rw [behind, ptr, List.length_append, List.length_singleton])
        (Nat.le_of_succ_le_succ fits)
      refine ⟨last, ?_, ?_⟩
      · rw [seconds, step]
        exact run
      · rw [slopes, Nat.add_sub_add_right, List.replicate_succ, List.append_assoc known,
          List.singleton_append]

end TunVideo
