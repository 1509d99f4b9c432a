import TunVideo.Program
import TunVideo.StepHistory

set_option autoImplicit false

/- Threads that share one mutex which is not recursive, and signal handlers that the kernel
may start on top of any of them. -/
namespace TunVideo

/-- A program as its sequence of atomic statements, locks and unlocks. -/
inductive LockedProgram (σ ω ε α : Type) where
  | done (value : α)
  | stop (reason : ε)
  | step (statement : σ → σ × List ω) (next : σ → LockedProgram σ ω ε α)
  | lock (next : LockedProgram σ ω ε α)
  | unlock (next : LockedProgram σ ω ε α)

namespace LockedProgram

variable {σ ω ε α β : Type}

def bind : LockedProgram σ ω ε α → (α → LockedProgram σ ω ε β) → LockedProgram σ ω ε β
  | .done value, next => next value
  | .stop reason, _ => .stop reason
  | .step statement rest, next => .step statement fun state => (rest state).bind next
  | .lock rest, next => .lock (rest.bind next)
  | .unlock rest, next => .unlock (rest.bind next)

instance : Monad (LockedProgram σ ω ε) where
  pure := .done
  bind := bind

/-- A program that leaves the mutex alone. -/
def ofProgram : Program σ ω ε α → LockedProgram σ ω ε α
  | .done value => .done value
  | .stop reason => .stop reason
  | .step statement next => .step statement fun state => ofProgram (next state)

def critical (body : LockedProgram σ ω ε α) : LockedProgram σ ω ε α :=
  .lock (body.bind fun value => .unlock (.done value))

/-- One execution from start to end, with the mutex free at every lock. -/
def run : LockedProgram σ ω ε α → σ → Outcome σ ω ε α
  | .done value, state => ⟨.ok value, state, []⟩
  | .stop reason, state => ⟨.error reason, state, []⟩
  | .step statement next, state =>
      ((next state).run (statement state).1).after (statement state).2
  | .lock next, state => next.run state
  | .unlock next, state => next.run state

@[simp] theorem run_bind (first : LockedProgram σ ω ε α) (next : α → LockedProgram σ ω ε β) :
    (first >>= next).run = fun state => (first.run state).bind fun value => (next value).run := by
  funext state
  change (first.bind next).run state = _
  induction first generalizing state with
  | done value => rfl
  | stop reason => rfl
  | step statement rest ih => simp only [bind, run, ih, Outcome.after_bind]
  | lock rest ih => exact ih state
  | unlock rest ih => exact ih state

@[simp] theorem run_ofProgram (program : Program σ ω ε α) :
    (ofProgram program).run = program.run := by
  funext state
  induction program generalizing state with
  | done value => rfl
  | stop reason => rfl
  | step statement next ih => simp only [ofProgram, run, Program.run, ih]

/-- Locks and unlocks alternate, and the mutex is free in the end. `held` says whether it
is taken at the beginning. -/
def Balanced : Bool → LockedProgram σ ω ε α → Prop
  | held, .done _ => held = false
  | _, .stop _ => True
  | held, .step _ next => ∀ state, Balanced held (next state)
  | held, .lock next => held = false ∧ Balanced true next
  | held, .unlock next => held = true ∧ Balanced false next

theorem Balanced.bind {first : LockedProgram σ ω ε α} {next : α → LockedProgram σ ω ε β}
    {held : Bool} (head : first.Balanced held) (tail : ∀ value, (next value).Balanced false) :
    (first >>= next).Balanced held := by
  change (first.bind next).Balanced held
  induction first generalizing held with
  | done value =>
      have free : held = false := head
      rw [free]
      exact tail value
  | stop reason => trivial
  | step statement rest ih => exact fun state => ih state (head state)
  | lock rest ih => exact ⟨head.1, ih head.2⟩
  | unlock rest ih => exact ⟨head.1, ih head.2⟩

theorem balanced_ofProgram (program : Program σ ω ε α) : (ofProgram program).Balanced false := by
  induction program with
  | done value => rfl
  | stop reason => trivial
  | step statement next ih => exact ih

theorem balanced_critical (body : Program σ ω ε α) :
    (critical (ofProgram body)).Balanced false := by
  refine ⟨rfl, ?_⟩
  induction body with
  | done value => exact ⟨rfl, rfl⟩
  | stop reason => trivial
  | step statement next ih => exact ih

end LockedProgram

/-- What a thread has left to do, and what the handler that interrupts it has left to do. -/
structure Thread (σ ω ε : Type) where
  code : LockedProgram σ ω ε Unit
  handler : Option (LockedProgram σ ω ε Unit)

structure Threads (τ σ ω ε : Type) where
  state : σ
  owner : Option τ
  threads : τ → Thread σ ω ε

namespace Threads

variable {τ σ ω ε : Type}

def idle (state : σ) : Threads τ σ ω ε where
  state := state
  owner := none
  threads _ := ⟨.done (), none⟩

/-- One statement of a thread, on the shared state and the mutex. A lock waits until the
mutex is free, whoever has it. -/
inductive Executes (thread : τ) : σ → Option τ → LockedProgram σ ω ε Unit → σ → Option τ →
    LockedProgram σ ω ε Unit → Prop
  | statement (state : σ) (owner : Option τ) (statement : σ → σ × List ω)
      (next : σ → LockedProgram σ ω ε Unit) :
      Executes thread state owner (.step statement next) (statement state).1 owner (next state)
  | lock (state : σ) (next : LockedProgram σ ω ε Unit) :
      Executes thread state none (.lock next) state (some thread) next
  | unlock (state : σ) (owner : Option τ) (next : LockedProgram σ ω ε Unit) :
      Executes thread state owner (.unlock next) state none next

/-- What can happen to a thread: it starts a piece of work, executes a statement, is
interrupted by a signal, or goes on after the handler. -/
inductive Move (τ : Type) where
  | start (thread : τ)
  | code (thread : τ)
  | signal (thread : τ)
  | handler (thread : τ)
  | resume (thread : τ)

/-- Handlers run to completion before the thread goes on, and are not interrupted. -/
inductive Step [DecidableEq τ] (work : τ → LockedProgram σ ω ε Unit → Prop)
    (handles : LockedProgram σ ω ε Unit → Prop) :
    Threads τ σ ω ε → Move τ → Threads τ σ ω ε → Prop
  | start (all : Threads τ σ ω ε) (thread : τ) (program : LockedProgram σ ω ε Unit)
      (free : all.threads thread = ⟨.done (), none⟩) (chosen : work thread program) :
      Step work handles all (.start thread)
        { all with threads := Function.update all.threads thread ⟨program, none⟩ }
  | code (all : Threads τ σ ω ε) (thread : τ) (code next : LockedProgram σ ω ε Unit) (state : σ)
      (owner : Option τ) (running : all.threads thread = ⟨code, none⟩)
      (executed : Executes thread all.state all.owner code state owner next) :
      Step work handles all (.code thread)
        ⟨state, owner, Function.update all.threads thread ⟨next, none⟩⟩
  | signal (all : Threads τ σ ω ε) (thread : τ) (code program : LockedProgram σ ω ε Unit)
      (running : all.threads thread = ⟨code, none⟩) (chosen : handles program) :
      Step work handles all (.signal thread)
        { all with threads := Function.update all.threads thread ⟨code, some program⟩ }
  | handler (all : Threads τ σ ω ε) (thread : τ) (code handler next : LockedProgram σ ω ε Unit)
      (state : σ) (owner : Option τ) (running : all.threads thread = ⟨code, some handler⟩)
      (executed : Executes thread all.state all.owner handler state owner next) :
      Step work handles all (.handler thread)
        ⟨state, owner, Function.update all.threads thread ⟨code, some next⟩⟩
  | resume (all : Threads τ σ ω ε) (thread : τ) (code : LockedProgram σ ω ε Unit)
      (running : all.threads thread = ⟨code, some (.done ())⟩) :
      Step work handles all (.resume thread)
        { all with threads := Function.update all.threads thread ⟨code, none⟩ }

/-- A handler waits for the mutex that the thread it interrupts has. -/
def SelfDeadlock (all : Threads τ σ ω ε) : Prop :=
  ∃ thread code next, all.threads thread = ⟨code, some (.lock next)⟩ ∧ all.owner = some thread

section

variable {thread : τ} {owner : Option τ}

/-- The code of a thread, up to its next lock or unlock, agrees with the mutex. -/
def Agrees (thread : τ) (owner : Option τ) (code : LockedProgram σ ω ε Unit) : Prop :=
  ∃ held, code.Balanced held ∧ (owner = some thread ↔ held = true)

/-- What runs in a thread agrees with the mutex. What a handler has interrupted does not have
the mutex. -/
def Accounted (thread : τ) (owner : Option τ) : Thread σ ω ε → Prop
  | ⟨code, none⟩ => Agrees thread owner code
  | ⟨code, some handler⟩ => code.Balanced false ∧ Agrees thread owner handler

theorem Agrees.free {code : LockedProgram σ ω ε Unit} (agrees : Agrees thread owner code)
    (free : owner ≠ some thread) : code.Balanced false := by
  obtain ⟨held, balanced, same⟩ := agrees
  cases held with
  | false => exact balanced
  | true => exact absurd (same.mpr rfl) free

theorem agrees_of_free {code : LockedProgram σ ω ε Unit} (balanced : code.Balanced false)
    (free : owner ≠ some thread) : Agrees thread owner code :=
  ⟨false, balanced, iff_of_false free Bool.false_ne_true⟩

theorem Agrees.done (agrees : Agrees thread owner (.done () : LockedProgram σ ω ε Unit)) :
    owner ≠ some thread := by
  obtain ⟨held, free, same⟩ := agrees
  intro mine
  exact absurd (same.mp mine) (by rw [show held = false from free]; decide)

theorem Accounted.congr {owner' : Option τ} {code : Thread σ ω ε}
    (accounted : Accounted thread owner code)
    (same : owner' = some thread ↔ owner = some thread) : Accounted thread owner' code := by
  obtain ⟨code, _ | handler⟩ := code
  · obtain ⟨held, balanced, mine⟩ := accounted
    exact ⟨held, balanced, same.trans mine⟩
  · obtain ⟨free, held, balanced, mine⟩ := accounted
    exact ⟨free, held, balanced, same.trans mine⟩

theorem Agrees.executed {state state' : σ} {owner' : Option τ}
    {code next : LockedProgram σ ω ε Unit} (agrees : Agrees thread owner code)
    (executed : Executes thread state owner code state' owner' next) :
    Agrees thread owner' next ∧
      ∀ other, other ≠ thread → (owner' = some other ↔ owner = some other) := by
  obtain ⟨held, balanced, mine⟩ := agrees
  cases executed with
  | statement =>
      exact ⟨⟨held, balanced state, mine⟩, fun _ _ => Iff.rfl⟩
  | lock =>
      refine ⟨⟨true, balanced.2, by simp⟩, ?_⟩
      intro other differs
      simp [differs.symm]
  | unlock =>
      have had : owner = some thread := mine.mpr balanced.1
      refine ⟨⟨false, balanced.2, by simp⟩, ?_⟩
      intro other differs
      simp [had, differs.symm]

theorem not_selfDeadlock {all : Threads τ σ ω ε}
    (accounted : ∀ thread, Accounted thread all.owner (all.threads thread)) :
    ¬SelfDeadlock all := by
  rintro ⟨thread, code, rest, waiting, mine⟩
  have here := accounted thread
  rw [waiting] at here
  obtain ⟨-, held, balanced, same⟩ := here
  exact absurd (same.mp mine) (by rw [balanced.1]; decide)

end

section

variable [DecidableEq τ] {work : τ → LockedProgram σ ω ε Unit → Prop}
  {handles : LockedProgram σ ω ε Unit → Prop} {all next : Threads τ σ ω ε} {move : Move τ}

/-- A signal does not interrupt a thread that has the mutex. -/
def SparesOwner (all : Threads τ σ ω ε) (move : Move τ) : Prop :=
  ∀ thread, move = .signal thread → all.owner ≠ some thread

/-- A change of one thread that leaves the mutex to the others as it was. -/
theorem accounted_update {owner : Option τ} {thread : τ} {changed : Thread σ ω ε}
    (accounted : ∀ thread, Accounted thread all.owner (all.threads thread))
    (here : Accounted thread owner changed)
    (others : ∀ other, other ≠ thread → (owner = some other ↔ all.owner = some other))
    (other : τ) : Accounted other owner (Function.update all.threads thread changed other) := by
  by_cases same : other = thread
  · rw [same, Function.update_self]
    exact here
  · rw [Function.update_of_ne same]
    exact (accounted other).congr (others other same)

theorem step_accounted (balanced : ∀ thread program, work thread program → program.Balanced false)
    (handler : ∀ program, handles program → program.Balanced false)
    (accounted : ∀ thread, Accounted thread all.owner (all.threads thread))
    (spares : SparesOwner all move) (step : Step work handles all move next) :
    ∀ thread, Accounted thread next.owner (next.threads thread) := by
  cases step with
  | start thread program free chosen =>
      have before := accounted thread
      rw [free] at before
      exact accounted_update accounted (agrees_of_free (balanced thread program chosen) before.done)
        fun _ _ => Iff.rfl
  | code thread code rest state owner running executed =>
      have before := accounted thread
      rw [running] at before
      obtain ⟨here, others⟩ := before.executed executed
      exact accounted_update accounted here others
  | signal thread code program running chosen =>
      have before := accounted thread
      have free := spares thread rfl
      rw [running] at before
      exact accounted_update accounted
        ⟨before.free free, agrees_of_free (handler program chosen) free⟩ fun _ _ => Iff.rfl
  | handler thread code running rest state owner interrupted executed =>
      have before := accounted thread
      rw [interrupted] at before
      obtain ⟨here, others⟩ := before.2.executed executed
      exact accounted_update accounted ⟨before.1, here⟩ others
  | resume thread code running =>
      have before := accounted thread
      rw [running] at before
      exact accounted_update accounted (agrees_of_free before.1 before.2.done) fun _ _ => Iff.rfl

/-- No handler waits for its own thread in a run whose signals never interrupt the owner of
the mutex. -/
theorem run_not_selfDeadlock {state : σ} {history : List (Threads τ σ ω ε × Move τ)}
    (balanced : ∀ thread program, work thread program → program.Balanced false)
    (handler : ∀ program, handles program → program.Balanced false)
    (run : History (Step work handles) (idle state) history all)
    (spares : ∀ visited ∈ history, SparesOwner visited.1 visited.2) : ¬SelfDeadlock all := by
  have start (thread : τ) : Accounted thread (idle state : Threads τ σ ω ε).owner
      ((idle state : Threads τ σ ω ε).threads thread) :=
    agrees_of_free rfl (by simp [idle])
  have accounted := run.invariant spares start fun _ _ _ accounted here step =>
    step_accounted balanced handler accounted here step
  exact not_selfDeadlock accounted

end

end Threads

end TunVideo
