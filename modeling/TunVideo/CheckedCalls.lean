import TunVideo.Program

set_option autoImplicit false

namespace TunVideo.CheckedCalls

open Program

variable {κ σ ω ε : Type} (succeeds : κ → Bool)

/-- The reason that belongs to the first call that fails. -/
def firstFailed : List (κ × ε) → Except ε Unit
  | [] => .ok ()
  | (call, reason) :: rest => if succeeds call then firstFailed rest else .error reason

theorem firstFailed_append (first second : List (κ × ε)) :
    firstFailed succeeds (first ++ second) =
      (firstFailed succeeds first).bind fun _ => firstFailed succeeds second := by
  induction first with
  | nil => rfl
  | cons check rest ih =>
      obtain ⟨call, reason⟩ := check
      rw [List.cons_append, firstFailed, firstFailed, ih]
      split
      · rfl
      · rfl

theorem firstFailed_ok_iff (checks : List (κ × ε)) :
    firstFailed succeeds checks = .ok () ↔ ∀ check ∈ checks, succeeds check.1 = true := by
  induction checks with
  | nil => exact iff_of_true rfl fun _ member => absurd member List.not_mem_nil
  | cons check rest ih =>
      obtain ⟨call, reason⟩ := check
      rw [firstFailed, List.forall_mem_cons, ← ih]
      split
      · rename_i passed
        exact (and_iff_right passed).symm
      · rename_i failed
        exact iff_of_false (fun ok => nomatch ok) fun both => failed both.1

theorem firstFailed_pair (first second : κ) (reason : ε) :
    firstFailed succeeds [(first, reason), (second, reason)] =
      if succeeds first = true ∧ succeeds second = true then .ok () else .error reason := by
  rw [firstFailed, firstFailed, firstFailed]
  by_cases made : succeeds first = true
  · simp only [made, if_true, true_and]
  · rw [if_neg made, if_neg fun both => made both.1]

/-- A program that makes these calls in this order, and then has this effect. -/
structure Stage (program : Program σ ω ε Unit) (checks : List (κ × ε)) (effect : σ → σ) :
    Prop where
  result : ∀ state, (program.run state).result = firstFailed succeeds checks
  state : firstFailed succeeds checks = .ok () → ∀ state, (program.run state).state = effect state

variable {succeeds}

namespace Stage

theorem update (effect : σ → σ) :
    Stage succeeds (modify effect : Program σ ω ε Unit) ([] : List (κ × ε)) effect :=
  ⟨fun _ => rfl, fun _ _ => rfl⟩

theorem together {program : Program σ ω ε Unit} {checks : List (κ × ε)} {passed : Prop}
    [Decidable passed] {reason : ε} {effect : σ → σ}
    (same : firstFailed succeeds checks = if passed then .ok () else .error reason)
    (passes : passed → ∀ state, program.run state = ⟨.ok (), effect state, []⟩)
    (fails : ¬passed → ∀ state, (program.run state).result = .error reason) :
    Stage succeeds program checks effect := by
  by_cases made : passed
  · rw [if_pos made] at same
    constructor
    · intro state
      rw [same, passes made]
    · intro _ state
      rw [passes made]
  · rw [if_neg made] at same
    constructor
    · intro state
      rw [same, fails made]
    · intro ok
      rw [same] at ok
      cases ok

theorem test (call : κ) (reason : ε) :
    Stage succeeds (if !succeeds call then stop reason else pure () : Program σ ω ε Unit)
      [(call, reason)] id := by
  refine together rfl ?_ ?_
  · intro made state
    rw [made]
    rfl
  · intro failed state
    rw [Bool.eq_false_iff.mpr failed]
    rfl

theorem seq {first second : Program σ ω ε Unit} {checks checks' : List (κ × ε)}
    {effect effect' : σ → σ} (front : Stage succeeds first checks effect)
    (back : Stage succeeds second checks' effect') :
    Stage succeeds (first >>= fun _ => second) (checks ++ checks') (effect' ∘ effect) := by
  have split (state : σ) : ((first >>= fun _ => second).run state).result =
        (firstFailed succeeds checks).bind (fun _ => firstFailed succeeds checks') ∧
      (firstFailed succeeds checks = .ok () → firstFailed succeeds checks' = .ok () →
        ((first >>= fun _ => second).run state).state = effect' (effect state)) := by
    have result := front.result state
    have reached := fun ok => front.state ok state
    rw [run_bind]
    generalize first.run state = outcome at result reached ⊢
    obtain ⟨shown, after, events⟩ := outcome
    obtain rfl : shown = firstFailed succeeds checks := result
    cases checked : firstFailed succeeds checks with
    | error reason => exact ⟨rfl, fun ok => nomatch ok⟩
    | ok =>
        obtain rfl : after = effect state := reached checked
        exact ⟨back.result _, fun _ ok => back.state ok _⟩
  constructor
  · intro state
    rw [firstFailed_append]
    exact (split state).1
  · intro ok state
    rw [firstFailed_append] at ok
    cases checked : firstFailed succeeds checks with
    | error reason =>
        rw [checked] at ok
        cases ok
    | ok =>
        rw [checked] at ok
        exact (split state).2 checked ok

end Stage

end TunVideo.CheckedCalls
