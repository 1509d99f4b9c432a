import TunVideo.Program

set_option autoImplicit false

namespace TunVideo.Program

variable {σ ω ε α β γ : Type} {view : σ → γ}

/-- Every execution of the program keeps what `view` shows of the state. -/
def Keeps (view : σ → γ) (program : Program σ ω ε α) : Prop :=
  ∀ state, view (program.run state).state = view state

theorem Keeps.pure (value : α) : Keeps view (Pure.pure value : Program σ ω ε α) :=
  fun _ => rfl

theorem Keeps.stop (reason : ε) : Keeps view (Program.stop reason : Program σ ω ε α) :=
  fun _ => rfl

theorem Keeps.read (expression : σ → α) :
    Keeps view (Program.read expression : Program σ ω ε α) :=
  fun _ => rfl

theorem Keeps.require (reason : ε) (value : Option α) :
    Keeps view (Program.require reason value : Program σ ω ε α) := by
  cases value with
  | none => exact .stop reason
  | some present => exact .pure present

theorem Keeps.modify {update : σ → σ} (same : ∀ state, view (update state) = view state) :
    Keeps view (Program.modify update : Program σ ω ε Unit) :=
  same

theorem Keeps.perform {statement : σ → σ × List ω}
    (same : ∀ state, view (statement state).1 = view state) :
    Keeps view (Program.perform statement : Program σ ω ε Unit) := by
  intro state
  rw [run_perform]
  exact same state

theorem Keeps.bind {first : Program σ ω ε α} {next : α → Program σ ω ε β}
    (head : first.Keeps view) (tail : ∀ value, (next value).Keeps view) :
    (first >>= next).Keeps view := by
  intro state
  have front := head state
  rw [run_bind]
  generalize first.run state = outcome at front ⊢
  obtain ⟨result, middle, events⟩ := outcome
  cases result with
  | error reason => exact front
  | ok value => exact (tail value middle).trans front

theorem Keeps.ite {condition : Prop} [Decidable condition] {first second : Program σ ω ε α}
    (yes : first.Keeps view) (no : second.Keeps view) :
    (if condition then first else second).Keeps view := by
  split
  · exact yes
  · exact no

end TunVideo.Program
