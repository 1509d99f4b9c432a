import TunVideo.Program

set_option autoImplicit false

namespace TunVideo.Program

variable {σ ω ε α β : Type} {allowed : ω → Prop}

def Emits (allowed : ω → Prop) (program : Program σ ω ε α) : Prop :=
  ∀ state, ∀ event ∈ (program.run state).events, allowed event

theorem Emits.pure (value : α) : Emits allowed (Pure.pure value : Program σ ω ε α) :=
  fun _ _ member => nomatch member

theorem Emits.stop (reason : ε) : Emits allowed (Program.stop reason : Program σ ω ε α) :=
  fun _ _ member => nomatch member

theorem Emits.read (expression : σ → α) :
    Emits allowed (Program.read expression : Program σ ω ε α) :=
  fun _ _ member => nomatch member

theorem Emits.modify (update : σ → σ) :
    Emits allowed (Program.modify update : Program σ ω ε Unit) :=
  fun _ _ member => nomatch member

theorem Emits.require (reason : ε) (value : Option α) :
    Emits allowed (Program.require reason value : Program σ ω ε α) := by
  cases value with
  | none => exact .stop reason
  | some present => exact .pure present

theorem Emits.perform {statement : σ → σ × List ω}
    (held : ∀ state, ∀ event ∈ (statement state).2, allowed event) :
    Emits allowed (Program.perform statement : Program σ ω ε Unit) := by
  intro state event member
  rw [run_perform] at member
  exact held state event member

theorem Emits.single {update : σ → σ} {shown : σ → ω} (held : ∀ state, allowed (shown state)) :
    Emits allowed (Program.perform fun state => (update state, [shown state]) :
      Program σ ω ε Unit) := by
  apply Emits.perform
  intro state event member
  rw [List.mem_singleton.mp member]
  exact held state

theorem Emits.bind {first : Program σ ω ε α} {next : α → Program σ ω ε β}
    (head : first.Emits allowed) (tail : ∀ value, (next value).Emits allowed) :
    (first >>= next).Emits allowed := by
  intro state event member
  have front := head state
  rw [run_bind] at member
  generalize first.run state = outcome at front member
  obtain ⟨result, middle, events⟩ := outcome
  cases result with
  | error reason => exact front event member
  | ok value =>
      rcases List.mem_append.mp member with earlier | later
      · exact front event earlier
      · exact tail value middle event later

theorem Emits.ite {condition : Prop} [Decidable condition] {first second : Program σ ω ε α}
    (yes : first.Emits allowed) (no : second.Emits allowed) :
    (if condition then first else second).Emits allowed := by
  split
  · exact yes
  · exact no

end TunVideo.Program
