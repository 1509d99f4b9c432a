import TunVideo.Refinement

set_option autoImplicit false

namespace TunVideo.Program

variable {σ ω ε α β : Type} {measure : σ → Nat}

/-- Every execution that completes adds `n`. -/
def Adds (measure : σ → Nat) (n : Nat) (program : Program σ ω ε α) : Prop :=
  ∀ state value, (program.run state).result = .ok value →
    measure (program.run state).state = measure state + n

theorem Adds.pure (value : α) : Adds measure 0 (Pure.pure value : Program σ ω ε α) :=
  fun _ _ _ => rfl

theorem Adds.stop (n : Nat) (reason : ε) :
    Adds measure n (Program.stop reason : Program σ ω ε α) := by
  intro state value ok
  cases ok

theorem Adds.read (expression : σ → α) :
    Adds measure 0 (Program.read expression : Program σ ω ε α) :=
  fun _ _ _ => rfl

theorem Adds.require (reason : ε) (value : Option α) :
    Adds measure 0 (Program.require reason value : Program σ ω ε α) := by
  cases value with
  | none => exact .stop 0 reason
  | some present => exact .pure present

theorem Adds.demand (answer : Except ε α) :
    Adds measure 0 (Program.demand answer : Program σ ω ε α) := by
  cases answer with
  | error reason => exact .stop 0 reason
  | ok value => exact .pure value

theorem Adds.modify {n : Nat} {update : σ → σ}
    (grows : ∀ state, measure (update state) = measure state + n) :
    Adds measure n (Program.modify update : Program σ ω ε Unit) :=
  fun state _ _ => grows state

theorem Adds.bind {n m total : Nat} {first : Program σ ω ε α} {next : α → Program σ ω ε β}
    (head : first.Adds measure n) (tail : ∀ value, (next value).Adds measure m)
    (sum : n + m = total) : (first >>= next).Adds measure total := by
  intro state value ok
  have front := head state
  rw [run_bind] at ok ⊢
  generalize first.run state = outcome at front ok ⊢
  obtain ⟨result, middle, events⟩ := outcome
  cases result with
  | error reason => cases ok
  | ok found =>
      have behind := tail found middle value ok
      have before := front found rfl
      change measure ((next found).run middle).state = _
      rw [behind, before, Nat.add_assoc, sum]

theorem Adds.then {n : Nat} {first : Program σ ω ε α} {next : α → Program σ ω ε β}
    (head : first.Adds measure 0) (tail : ∀ value, (next value).Adds measure n) :
    (first >>= next).Adds measure n :=
  head.bind tail (Nat.zero_add n)

theorem Adds.ite {n : Nat} {condition : Prop} [Decidable condition]
    {first second : Program σ ω ε α} (yes : first.Adds measure n) (no : second.Adds measure n) :
    (if condition then first else second).Adds measure n := by
  split
  · exact yes
  · exact no

end TunVideo.Program
