import Mathlib

set_option autoImplicit false

namespace TunVideo

/-- A program as its sequence of atomic statements. A statement updates the
state and emits events; the program goes on with what the statement read. -/
inductive Program (σ ω ε α : Type) where
  | done (value : α)
  | stop (reason : ε)
  | step (statement : σ → σ × List ω) (next : σ → Program σ ω ε α)

/-- What an uninterrupted execution leaves behind. -/
structure Outcome (σ ω ε α : Type) where
  result : Except ε α
  state : σ
  events : List ω

namespace Outcome

variable {σ ω ε α β : Type}

/-- Events emitted before the outcome's own. -/
def after (earlier : List ω) (outcome : Outcome σ ω ε α) : Outcome σ ω ε α :=
  ⟨outcome.result, outcome.state, earlier ++ outcome.events⟩

/-- Continue a finished execution; a stopped one stays stopped. -/
def bind (outcome : Outcome σ ω ε α) (next : α → σ → Outcome σ ω ε β) : Outcome σ ω ε β :=
  match outcome with
  | ⟨.ok value, state, events⟩ => (next value state).after events
  | ⟨.error reason, state, events⟩ => ⟨.error reason, state, events⟩

@[simp] theorem after_nil (outcome : Outcome σ ω ε α) : outcome.after [] = outcome := rfl

@[simp] theorem after_mk (earlier events : List ω) (result : Except ε α) (state : σ) :
    Outcome.after earlier ⟨result, state, events⟩ = ⟨result, state, earlier ++ events⟩ := rfl

@[simp] theorem after_result (earlier : List ω) (outcome : Outcome σ ω ε α) :
    (outcome.after earlier).result = outcome.result := rfl

@[simp] theorem after_state (earlier : List ω) (outcome : Outcome σ ω ε α) :
    (outcome.after earlier).state = outcome.state := rfl

@[simp] theorem after_events (earlier : List ω) (outcome : Outcome σ ω ε α) :
    (outcome.after earlier).events = earlier ++ outcome.events := rfl

@[simp] theorem bind_ok (value : α) (state : σ) (events : List ω)
    (next : α → σ → Outcome σ ω ε β) :
    Outcome.bind ⟨.ok value, state, events⟩ next = (next value state).after events := rfl

@[simp] theorem bind_error (reason : ε) (state : σ) (events : List ω)
    (next : α → σ → Outcome σ ω ε β) :
    Outcome.bind ⟨.error reason, state, events⟩ next = ⟨.error reason, state, events⟩ := rfl

theorem after_bind (earlier : List ω) (outcome : Outcome σ ω ε α)
    (next : α → σ → Outcome σ ω ε β) :
    (outcome.after earlier).bind next = (outcome.bind next).after earlier := by
  obtain ⟨result, state, events⟩ := outcome
  cases result with
  | ok value => simp only [bind_ok, after, List.append_assoc]
  | error reason => rfl

end Outcome

namespace Program

variable {σ ω ε α β : Type}

def bind : Program σ ω ε α → (α → Program σ ω ε β) → Program σ ω ε β
  | .done value, next => next value
  | .stop reason, _ => .stop reason
  | .step statement rest, next => .step statement fun state => (rest state).bind next

instance : Monad (Program σ ω ε) where
  pure := .done
  bind := bind

/-- One execution from start to end, with nothing run in between. -/
def run : Program σ ω ε α → σ → Outcome σ ω ε α
  | .done value, state => ⟨.ok value, state, []⟩
  | .stop reason, state => ⟨.error reason, state, []⟩
  | .step statement next, state =>
      ((next state).run (statement state).1).after (statement state).2

def read (expression : σ → α) : Program σ ω ε α :=
  .step (fun state => (state, [])) fun state => .done (expression state)

def modify (update : σ → σ) : Program σ ω ε Unit :=
  .step (fun state => (update state, [])) fun _ => .done ()

def perform (statement : σ → σ × List ω) : Program σ ω ε Unit :=
  .step statement fun _ => .done ()

/-- Go on with a value that must be there. -/
def require (reason : ε) : Option α → Program σ ω ε α
  | some value => .done value
  | none => .stop reason

@[simp] theorem run_pure (value : α) (state : σ) :
    (pure value : Program σ ω ε α).run state = ⟨.ok value, state, []⟩ := rfl

@[simp] theorem run_done (value : α) (state : σ) :
    (Program.done value : Program σ ω ε α).run state = ⟨.ok value, state, []⟩ := rfl

@[simp] theorem run_stop (reason : ε) (state : σ) :
    (Program.stop reason : Program σ ω ε α).run state = ⟨.error reason, state, []⟩ := rfl

@[simp] theorem run_read (expression : σ → α) (state : σ) :
    (read expression : Program σ ω ε α).run state = ⟨.ok (expression state), state, []⟩ := rfl

@[simp] theorem run_modify (update : σ → σ) (state : σ) :
    (modify update : Program σ ω ε Unit).run state = ⟨.ok (), update state, []⟩ := rfl

@[simp] theorem run_perform (statement : σ → σ × List ω) (state : σ) :
    (perform statement : Program σ ω ε Unit).run state =
      ⟨.ok (), (statement state).1, (statement state).2⟩ := by
  simp only [perform, run, Outcome.after_mk, List.append_nil]

@[simp] theorem run_require_some (reason : ε) (value : α) (state : σ) :
    (require reason (some value) : Program σ ω ε α).run state = ⟨.ok value, state, []⟩ := rfl

@[simp] theorem run_require_none (reason : ε) (state : σ) :
    (require reason none : Program σ ω ε α).run state = ⟨.error reason, state, []⟩ := rfl

@[simp] theorem run_bind (first : Program σ ω ε α) (next : α → Program σ ω ε β) (state : σ) :
    (first >>= next).run state = (first.run state).bind fun value => (next value).run := by
  change (first.bind next).run state = _
  induction first generalizing state with
  | done value => rfl
  | stop reason => rfl
  | step statement rest ih =>
      simp only [bind, run, ih, Outcome.after_bind]

theorem bind_assoc {γ : Type} (first : Program σ ω ε α) (next : α → Program σ ω ε β)
    (last : β → Program σ ω ε γ) :
    (first >>= next) >>= last = first >>= fun value => next value >>= last := by
  change (first.bind next).bind last = first.bind fun value => (next value).bind last
  induction first with
  | done value => rfl
  | stop reason => rfl
  | step statement rest ih =>
      simp only [bind]
      congr 1
      funext state
      exact ih state

end Program

end TunVideo
