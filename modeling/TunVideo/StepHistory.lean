import Mathlib

set_option autoImplicit false

namespace TunVideo

variable {σ ι : Type}

/-- Steps taken one after another. A history keeps each step together with the state it
started in. -/
inductive History (step : σ → ι → σ → Prop) : σ → List (σ × ι) → σ → Prop
  | start (state : σ) : History step state [] state
  | next {first middle last : σ} {history : List (σ × ι)}
      (run : History step first history middle) (chosen : ι) (taken : step middle chosen last) :
      History step first (history ++ [(middle, chosen)]) last

namespace History

variable {step : σ → ι → σ → Prop} {first last : σ} {history : List (σ × ι)}

theorem append {middle : σ} {earlier later : List (σ × ι)}
    (front : History step first earlier middle) (back : History step middle later last) :
    History step first (earlier ++ later) last := by
  induction back with
  | start => simpa only [List.append_nil] using front
  | next _ chosen taken ih => simpa only [List.append_assoc] using ih.next chosen taken

/-- What one step preserves when it meets a condition, a history of such steps preserves. -/
theorem invariant {holds : σ → Prop} {meets : σ → ι → Prop}
    (run : History step first history last)
    (met : ∀ visited ∈ history, meets visited.1 visited.2) (start : holds first)
    (kept : ∀ before chosen after, holds before → meets before chosen →
      step before chosen after → holds after) : holds last := by
  induction run with
  | start => exact start
  | next _ chosen taken ih =>
      have here := met _ (List.mem_append_right _ (List.mem_singleton.mpr rfl))
      have earlier := ih fun visited member => met visited (List.mem_append_left _ member)
      exact kept _ chosen _ earlier here taken

/-- What each step keeps of the history so far and of the state, every history has. -/
theorem along {holds : List (σ × ι) → σ → Prop} (run : History step first history last)
    (start : holds [] first)
    (kept : ∀ earlier before chosen after, holds earlier before → step before chosen after →
      holds (earlier ++ [(before, chosen)]) after) : holds history last := by
  induction run with
  | start => exact start
  | next _ chosen taken ih => exact kept _ _ chosen _ ih taken

/-- A property of the states and steps of a history, and a condition on its steps that each
step meets exactly when it has the property, are the same along the whole history. -/
theorem forall_iff {holds shown : σ → Prop} {good meets : σ → ι → Prop}
    (run : History step first history last) (start : holds first)
    (visible : ∀ state, holds state → shown state)
    (kept : ∀ before chosen after, holds before → step before chosen after →
      meets before chosen → holds after)
    (exactly : ∀ before chosen after, holds before → step before chosen after →
      (good before chosen ∧ shown after ↔ meets before chosen)) :
    (∀ visited ∈ history, shown visited.1 ∧ good visited.1 visited.2) ∧ shown last ↔
      ∀ visited ∈ history, meets visited.1 visited.2 := by
  induction run with
  | start =>
      have none (visited : σ × ι) : visited ∉ ([] : List (σ × ι)) := List.not_mem_nil
      exact iff_of_true ⟨fun visited member => absurd member (none visited), visible _ start⟩
        fun visited member => absurd member (none visited)
  | @next middle last history run chosen taken ih =>
      have reached (met : ∀ visited ∈ history, meets visited.1 visited.2) : holds middle :=
        run.invariant met start fun before chosen after held here step =>
          kept before chosen after held step here
      constructor
      · rintro ⟨each, final⟩
        have here := each _ (List.mem_append_right _ List.mem_cons_self)
        have met := ih.mp ⟨fun visited member => each visited (List.mem_append_left _ member),
          here.1⟩
        intro visited member
        rcases List.mem_append.mp member with earlier | latest
        · exact met visited earlier
        · rw [List.mem_singleton.mp latest]
          exact (exactly middle chosen last (reached met) taken).mp ⟨here.2, final⟩
      · intro met
        have before (visited : σ × ι) (member : visited ∈ history) :=
          met visited (List.mem_append_left _ member)
        have held := reached before
        have step := (exactly middle chosen last held taken).mpr
          (met _ (List.mem_append_right _ List.mem_cons_self))
        refine ⟨?_, step.2⟩
        intro visited member
        rcases List.mem_append.mp member with earlier | latest
        · exact (ih.mpr before).1 visited earlier
        · rw [List.mem_singleton.mp latest]
          exact ⟨visible middle held, step.1⟩

/-- Every recorded step started in a state that a shorter history reaches. -/
theorem recorded (run : History step first history last) {state : σ} {chosen : ι}
    (member : (state, chosen) ∈ history) :
    ∃ earlier later, history = earlier ++ (state, chosen) :: later ∧
      History step first earlier state := by
  induction run with
  | start => cases member
  | @next middle last history run chosen' _ ih =>
      rcases List.mem_append.mp member with before | here
      · obtain ⟨earlier, later, rfl, reached⟩ := ih before
        exact ⟨earlier, later ++ [(middle, chosen')], by simp, reached⟩
      · obtain ⟨rfl, rfl⟩ := Prod.mk.inj (List.mem_singleton.mp here)
        exact ⟨history, [], rfl, run⟩

end History

end TunVideo
