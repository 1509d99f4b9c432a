import TunVideo.MutexProgram

set_option autoImplicit false

/- What a mutex protects: a part of the state that only critical sections change, and an
invariant of it that each section finds and leaves. -/
namespace TunVideo

namespace LockedProgram

variable {σ ω ε α β γ : Type}

/-- The program changes the protected part between a lock and its unlock only, and leaves it
as `whole` describes it. `seen` is the protected part as the owner of the mutex knows it. -/
def Respects (view : σ → γ) (whole : γ → Prop) : Option γ → LockedProgram σ ω ε α → Prop
  | none, .done _ => True
  | none, .stop _ => True
  | none, .step statement next => ∀ state,
      view (statement state).1 = view state ∧ Respects view whole none (next state)
  | none, .lock next => ∀ seen, whole seen → Respects view whole (some seen) next
  | none, .unlock _ => False
  | some _, .done _ => False
  | some _, .stop _ => True
  | some seen, .step statement next => ∀ state, view state = seen →
      Respects view whole (some (view (statement state).1)) (next state)
  | some _, .lock _ => False
  | some seen, .unlock next => whole seen ∧ Respects view whole none next

variable {view : σ → γ} {whole : γ → Prop}

theorem Respects.bind {first : LockedProgram σ ω ε α} {next : α → LockedProgram σ ω ε β}
    {seen : Option γ} (head : first.Respects view whole seen)
    (tail : ∀ value, (next value).Respects view whole none) :
    (first >>= next).Respects view whole seen := by
  change (first.bind next).Respects view whole seen
  induction first generalizing seen with
  | done value =>
      cases seen with
      | none => exact tail value
      | some seen => exact head.elim
  | stop reason => cases seen <;> trivial
  | step statement rest ih =>
      cases seen with
      | none => exact fun state => ⟨(head state).1, ih state (head state).2⟩
      | some seen => exact fun state same => ih state (head state same)
  | lock rest ih =>
      cases seen with
      | none => exact fun seen met => ih (head seen met)
      | some seen => exact head.elim
  | unlock rest ih =>
      cases seen with
      | none => exact head.elim
      | some seen => exact ⟨head.1, ih head.2⟩

/-- Every statement of the program leaves the protected part alone. -/
def Spares (view : σ → γ) : Program σ ω ε α → Prop
  | .done _ => True
  | .stop _ => True
  | .step statement next =>
      ∀ state, view (statement state).1 = view state ∧ Spares view (next state)

theorem Spares.respects {program : Program σ ω ε α} (spares : Spares view program) :
    (ofProgram program).Respects view whole none := by
  induction program with
  | done value => trivial
  | stop reason => trivial
  | step statement next ih => exact fun state => ⟨(spares state).1, ih state (spares state).2⟩

end LockedProgram

namespace LockedProgram.Spares

variable {σ ω ε α β γ : Type} {view : σ → γ}

theorem pure (value : α) : Spares view (Pure.pure value : Program σ ω ε α) := trivial

theorem stop (reason : ε) : Spares view (Program.stop reason : Program σ ω ε α) := trivial

theorem read (expression : σ → α) : Spares view (Program.read expression : Program σ ω ε α) :=
  fun _ => ⟨rfl, trivial⟩

theorem require (reason : ε) (value : Option α) :
    Spares view (Program.require reason value : Program σ ω ε α) := by
  cases value <;> trivial

theorem modify {update : σ → σ} (same : ∀ state, view (update state) = view state) :
    Spares view (Program.modify update : Program σ ω ε Unit) :=
  fun state => ⟨same state, trivial⟩

theorem perform {statement : σ → σ × List ω}
    (same : ∀ state, view (statement state).1 = view state) :
    Spares view (Program.perform statement : Program σ ω ε Unit) :=
  fun state => ⟨same state, trivial⟩

theorem bind {first : Program σ ω ε α} {next : α → Program σ ω ε β} (head : Spares view first)
    (tail : ∀ value, Spares view (next value)) : Spares view (first >>= next) := by
  change Spares view (first.bind next)
  induction first with
  | done value => exact tail value
  | stop reason => trivial
  | step statement rest ih => exact fun state => ⟨(head state).1, ih state (head state).2⟩

theorem ite {condition : Prop} [Decidable condition] {first second : Program σ ω ε α}
    (yes : Spares view first) (no : Spares view second) :
    Spares view (if condition then first else second) := by
  split
  · exact yes
  · exact no

end LockedProgram.Spares

namespace Threads

open LockedProgram

variable {τ σ ω ε γ : Type} {view : σ → γ} {whole : γ → Prop}

/-- One statement outside the critical sections: it leaves the protected part alone, or takes
the free mutex. -/
theorem executes_outside {thread : τ} {state state' : σ} {owner owner' : Option τ}
    {code next : LockedProgram σ ω ε Unit} (respects : code.Respects view whole none)
    (executed : Executes thread state owner code state' owner' next) :
    (owner' = owner ∧ view state' = view state ∧ next.Respects view whole none) ∨
      (owner = none ∧ owner' = some thread ∧ view state' = view state ∧
        ∀ seen, whole seen → next.Respects view whole (some seen)) := by
  cases executed with
  | statement => exact Or.inl ⟨rfl, (respects state).1, (respects state).2⟩
  | lock => exact Or.inr ⟨rfl, rfl, rfl, respects⟩
  | unlock => exact respects.elim

/-- One statement of a critical section: it keeps the mutex, or gives it back with the
protected part whole. -/
theorem executes_inside {thread : τ} {state state' : σ} {owner owner' : Option τ}
    {code next : LockedProgram σ ω ε Unit} (respects : code.Respects view whole (some (view state)))
    (executed : Executes thread state owner code state' owner' next) :
    (owner' = owner ∧ next.Respects view whole (some (view state'))) ∨
      (owner' = none ∧ whole (view state') ∧ next.Respects view whole none) := by
  cases executed with
  | statement => exact Or.inl ⟨rfl, respects state rfl⟩
  | lock => exact respects.elim
  | unlock => exact Or.inr ⟨rfl, respects⟩

/-- What a thread that does not own the mutex has to do. -/
def Outside (view : σ → γ) (whole : γ → Prop) : Thread σ ω ε → Prop
  | ⟨code, none⟩ => code.Respects view whole none
  | ⟨code, some handler⟩ => code.Respects view whole none ∧ handler.Respects view whole none

/-- What the owner of the mutex has to do. The section it is in is its own, or that of the
handler which interrupts it. -/
def Inside (view : σ → γ) (whole : γ → Prop) (seen : γ) : Thread σ ω ε → Prop
  | ⟨code, none⟩ => code.Respects view whole (some seen)
  | ⟨code, some handler⟩ =>
      code.Respects view whole (some seen) ∧ handler.Respects view whole none ∨
        code.Respects view whole none ∧ handler.Respects view whole (some seen)

/-- The protected part is whole while the mutex is free, and every thread is where the owner
of the mutex says. -/
structure Guarded (view : σ → γ) (whole : γ → Prop) (all : Threads τ σ ω ε) : Prop where
  free : all.owner = none → whole (view all.state)
  outside : ∀ thread, all.owner ≠ some thread → Outside view whole (all.threads thread)
  inside : ∀ thread, all.owner = some thread →
    Inside view whole (view all.state) (all.threads thread)

section

variable [DecidableEq τ] {all next : Threads τ σ ω ε} {move : Move τ}
  {work : τ → LockedProgram σ ω ε Unit → Prop} {handles : LockedProgram σ ω ε Unit → Prop}

/-- A change of one thread that leaves the mutex and what it protects as they are. -/
theorem Guarded.kept (guarded : Guarded view whole all) {thread : τ} {state : σ}
    {changed : Thread σ ω ε} (same : view state = view all.state)
    (free : all.owner ≠ some thread → Outside view whole changed)
    (mine : all.owner = some thread → Inside view whole (view all.state) changed) :
    Guarded view whole ⟨state, all.owner, Function.update all.threads thread changed⟩ := by
  refine ⟨fun none => same ▸ guarded.free none, ?_, ?_⟩
  · intro other differs
    change Outside view whole (Function.update all.threads thread changed other)
    by_cases here : other = thread
    · subst here
      rw [Function.update_self]
      exact free differs
    · rw [Function.update_of_ne here]
      exact guarded.outside other differs
  · intro other owns
    change Inside view whole (view state) (Function.update all.threads thread changed other)
    rw [same]
    by_cases here : other = thread
    · subst here
      rw [Function.update_self]
      exact mine owns
    · rw [Function.update_of_ne here]
      exact guarded.inside other owns

/-- A change of the thread that has the mutex, takes it or gives it back. -/
theorem Guarded.moved (guarded : Guarded view whole all) {thread : τ} {state : σ}
    {owner : Option τ} {changed : Thread σ ω ε}
    (before : ∀ other, other ≠ thread → all.owner ≠ some other)
    (after : ∀ other, owner = some other → other = thread)
    (free : owner = none → whole (view state) ∧ Outside view whole changed)
    (mine : owner = some thread → Inside view whole (view state) changed) :
    Guarded view whole ⟨state, owner, Function.update all.threads thread changed⟩ := by
  refine ⟨fun none => (free none).1, ?_, ?_⟩
  · intro other differs
    change Outside view whole (Function.update all.threads thread changed other)
    by_cases here : other = thread
    · subst here
      rw [Function.update_self]
      refine (free (Option.eq_none_iff_forall_ne_some.mpr fun another owns => ?_)).2
      rw [after another owns] at owns
      exact differs owns
    · rw [Function.update_of_ne here]
      exact guarded.outside other (before other here)
  · intro other owns
    change Inside view whole (view state) (Function.update all.threads thread changed other)
    obtain rfl := after other owns
    rw [Function.update_self]
    exact mine owns

/-- A statement of the thread outside its critical sections. -/
theorem Guarded.outside_executed (guarded : Guarded view whole all) {thread : τ} {state : σ}
    {owner : Option τ} {code next : LockedProgram σ ω ε Unit}
    {changed : Thread σ ω ε} (free : all.owner ≠ some thread)
    (respects : code.Respects view whole none)
    (executed : Executes thread all.state all.owner code state owner next)
    (outside : next.Respects view whole none → Outside view whole changed)
    (inside : ∀ seen, next.Respects view whole (some seen) →
      Inside view whole seen changed) :
    Guarded view whole ⟨state, owner, Function.update all.threads thread changed⟩ := by
  rcases executes_outside respects executed with ⟨rfl, same, here⟩ | ⟨available, rfl, same, here⟩
  · exact guarded.kept same (fun _ => outside here) fun owns => absurd owns free
  · refine guarded.moved (by simp [available]) (fun other owns => (Option.some.inj owns).symm)
      (fun none => nomatch none) fun _ => ?_
    rw [same]
    exact inside _ (here _ (guarded.free available))

/-- A statement of the thread inside its critical section. -/
theorem Guarded.inside_executed (guarded : Guarded view whole all) {thread : τ} {state : σ}
    {owner : Option τ} {code next : LockedProgram σ ω ε Unit}
    {changed : Thread σ ω ε} (owns : all.owner = some thread)
    (respects : code.Respects view whole (some (view all.state)))
    (executed : Executes thread all.state all.owner code state owner next)
    (outside : next.Respects view whole none → Outside view whole changed)
    (inside : ∀ seen, next.Respects view whole (some seen) →
      Inside view whole seen changed) :
    Guarded view whole ⟨state, owner, Function.update all.threads thread changed⟩ := by
  have others (other : τ) (differs : other ≠ thread) : all.owner ≠ some other := by
    rw [owns]
    exact fun equal => differs (Option.some.inj equal).symm
  rcases executes_inside respects executed with ⟨rfl, here⟩ | ⟨rfl, kept, here⟩
  · refine guarded.moved others (fun other owned => ?_) (fun none => ?_) fun _ => inside _ here
    · exact (Option.some.inj (owns.symm.trans owned)).symm
    · exact absurd (owns.symm.trans none) (Option.some_ne_none _)
  · exact guarded.moved others (fun other owned => nomatch owned) (fun _ => ⟨kept, outside here⟩)
      fun owned => nomatch owned

/-- One move of the threads, a signal or a statement of a handler included. -/
theorem step_guarded (works : ∀ thread program, work thread program →
      program.Respects view whole none)
    (handlers : ∀ program, handles program → program.Respects view whole none)
    (guarded : Guarded view whole all) (step : Step work handles all move next) :
    Guarded view whole next := by
  cases step with
  | start thread program free chosen =>
      refine guarded.kept rfl (fun _ => works thread program chosen) fun owns => ?_
      have here := guarded.inside thread owns
      rw [free] at here
      exact here.elim
  | signal thread code program running chosen =>
      refine guarded.kept rfl (fun differs => ?_) fun owns => ?_
      · have here := guarded.outside thread differs
        rw [running] at here
        exact ⟨here, handlers program chosen⟩
      · have here := guarded.inside thread owns
        rw [running] at here
        exact Or.inl ⟨here, handlers program chosen⟩
  | resume thread code running =>
      refine guarded.kept rfl (fun differs => ?_) fun owns => ?_
      · have here := guarded.outside thread differs
        rw [running] at here
        exact here.1
      · have here := guarded.inside thread owns
        rw [running] at here
        rcases here with ⟨below, -⟩ | ⟨-, finished⟩
        · exact below
        · exact finished.elim
  | code thread code rest state owner running executed =>
      by_cases owns : all.owner = some thread
      · have here := guarded.inside thread owns
        rw [running] at here
        exact guarded.inside_executed owns here executed
          (fun outside => outside) fun _ inside => inside
      · have here := guarded.outside thread owns
        rw [running] at here
        exact guarded.outside_executed owns here executed
          (fun outside => outside) fun _ inside => inside
  | handler thread code handler rest state owner running executed =>
      by_cases owns : all.owner = some thread
      · have here := guarded.inside thread owns
        rw [running] at here
        rcases here with ⟨below, above⟩ | ⟨below, above⟩
        · -- what the handler interrupts has the mutex, and the handler cannot take it
          rcases executes_outside above executed with ⟨rfl, same, here⟩ | ⟨available, -⟩
          · exact guarded.kept same (fun differs => absurd owns differs)
              fun _ => Or.inl ⟨below, here⟩
          · exact absurd (owns.symm.trans available) (Option.some_ne_none _)
        · exact guarded.inside_executed owns above
            executed (fun outside => ⟨below, outside⟩) fun _ inside => Or.inr ⟨below, inside⟩
      · have here := guarded.outside thread owns
        rw [running] at here
        exact guarded.outside_executed owns here.2
          executed (fun outside => ⟨here.1, outside⟩) fun _ inside => Or.inr ⟨here.1, inside⟩

/-- Whatever the threads and the signals do, the protected part is whole whenever the mutex
is free. -/
theorem run_whole {state : σ} {history : List (Threads τ σ ω ε × Move τ)}
    (works : ∀ thread program, work thread program → program.Respects view whole none)
    (handlers : ∀ program, handles program → program.Respects view whole none)
    (start : whole (view state)) (run : History (Step work handles) (idle state) history all)
    (free : all.owner = none) : whole (view all.state) := by
  have idle : Guarded view whole (Threads.idle state : Threads τ σ ω ε) :=
    ⟨fun _ => start, fun _ _ => trivial, fun _ owned => nomatch owned⟩
  have guarded := @History.invariant _ _ _ _ _ _ (Guarded view whole) (fun _ _ => True) run
    (fun _ _ => trivial) idle
    fun _ _ _ guarded _ step => step_guarded works handlers guarded step
  exact guarded.free free

end

end Threads

end TunVideo
