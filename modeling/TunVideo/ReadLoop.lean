import TunVideo.Program

set_option autoImplicit false

namespace TunVideo.ReadLoop

open Program

variable {σ ι κ ω ε : Type}

def loop (body : ι → Program σ ω ε Unit) : List ι → Program σ ω ε Unit
  | [] => pure ()
  | input :: rest => do
      body input
      loop body rest

/-- The events of each input, which meets the state that the earlier ones have left. -/
def trace (body : ι → Program σ ω ε Unit) : σ → List ι → List (ι × List ω)
  | _, [] => []
  | state, input :: rest =>
      (input, ((body input).run state).events) :: trace body ((body input).run state).state rest

/-- Every input meets a condition in the state that the earlier ones have left. -/
def Along (body : ι → Program σ ω ε Unit) (meets : σ → ι → Prop) : σ → List ι → Prop
  | _, [] => True
  | state, input :: rest =>
      meets state input ∧ Along body meets ((body input).run state).state rest

variable {body : ι → Program σ ω ε Unit}

/-- A loop shows what its trace says. -/
theorem loop_events (completes : ∀ input state, ((body input).run state).result = .ok ())
    (inputs : List ι) (state : σ) :
    ((loop body inputs).run state).result = .ok () ∧
      ((loop body inputs).run state).events = (trace body state inputs).flatMap Prod.snd := by
  induction inputs generalizing state with
  | nil => exact ⟨rfl, rfl⟩
  | cons input rest ih =>
      have finished := completes input state
      rw [loop, trace, run_bind, List.flatMap_cons]
      generalize (body input).run state = outcome at finished ⊢
      obtain ⟨result, after, events⟩ := outcome
      obtain rfl : result = .ok () := finished
      obtain ⟨ok, shown⟩ := ih after
      rw [Outcome.bind_ok, Outcome.after_result, Outcome.after_events, shown]
      exact ⟨ok, rfl⟩

theorem bind_pure {α : Type} (program : Program σ ω ε α) : program >>= pure = program := by
  change program.bind pure = program
  induction program with
  | done value => rfl
  | stop reason => rfl
  | step statement rest ih =>
      simp only [Program.bind]
      congr 1
      funext state
      exact ih state

theorem loop_single (input : ι) : loop body [input] = body input :=
  bind_pure (body input)

theorem loop_append (first second : List ι) :
    loop body (first ++ second) = loop body first >>= fun _ => loop body second := by
  induction first with
  | nil => rfl
  | cons input rest ih => rw [List.cons_append, loop, loop, ih, bind_assoc]

/-- A loop whose rounds are loops themselves is one loop over all inputs. -/
theorem loop_flatMap {rounds : κ → Program σ ω ε Unit} {inputs : κ → List ι}
    (same : ∀ round, rounds round = loop body (inputs round)) (taken : List κ) :
    loop rounds taken = loop body (taken.flatMap inputs) := by
  induction taken with
  | nil => rfl
  | cons round rest ih => rw [List.flatMap_cons, loop_append, loop, same, ih]

/-- A condition that no input changes is met along a run if it is met at the start. -/
theorem along_iff_forall {meets : σ → ι → Prop}
    (kept : ∀ input state later, meets ((body input).run state).state later ↔ meets state later)
    (inputs : List ι) (state : σ) :
    Along body meets state inputs ↔ ∀ input ∈ inputs, meets state input := by
  induction inputs generalizing state with
  | nil => exact iff_of_true trivial fun _ member => absurd member List.not_mem_nil
  | cons input rest ih =>
      rw [Along, ih, List.forall_mem_cons]
      simp only [kept]

/-- When the body shows what is expected of an input exactly in the states that meet a
condition, the loop does so for all its inputs exactly when each of them meets it. -/
theorem trace_eq_iff {expected : ι → List ω} {meets : σ → ι → Prop}
    (exact : ∀ state input, ((body input).run state).events = expected input ↔ meets state input)
    (inputs : List ι) (state : σ) :
    trace body state inputs = inputs.map (fun input => (input, expected input)) ↔
      Along body meets state inputs := by
  induction inputs generalizing state with
  | nil => exact iff_of_true rfl trivial
  | cons input rest ih =>
      rw [trace, List.map_cons, List.cons.injEq, Prod.mk.injEq, exact, ih, Along]
      exact and_congr_left fun _ => and_iff_right rfl

section

variable {α : Type}

/-- The two descriptors of a tunnel: its device and its socket. -/
inductive Side where
  | tun
  | socket
  deriving DecidableEq

def Side.other : Side → Side
  | tun => socket
  | socket => tun

structure Written where
  side : Side
  payload : List UInt8
  deriving DecidableEq

/-- The descriptors that `select` finds readable, with what is read from each. -/
structure Ready (α : Type) where
  tun : Option α
  socket : Option α

def Ready.reads (ready : Ready α) : List (Side × α) :=
  (ready.tun.map fun received => (Side.tun, received)).toList ++
    (ready.socket.map fun received => (Side.socket, received)).toList

def round (body : Side × α → Program σ ω ε Unit) (ready : Ready α) : Program σ ω ε Unit := do
  match ready.tun with
  | some received => body (.tun, received)
  | none => pure ()
  match ready.socket with
  | some received => body (.socket, received)
  | none => pure ()

def mainLoop (body : Side × α → Program σ ω ε Unit) (rounds : List (Ready α)) :
    Program σ ω ε Unit :=
  loop (round body) rounds

variable {body : Side × α → Program σ ω ε Unit}

theorem round_reads (ready : Ready α) : round body ready = loop body ready.reads := by
  obtain ⟨tun, socket⟩ := ready
  cases tun with
  | none =>
      cases socket with
      | none => rfl
      | some received => exact (loop_single _).symm
  | some first =>
      cases socket with
      | none => rfl
      | some second =>
          change (body (.tun, first) >>= fun _ => body (.socket, second)) =
            loop body ([(.tun, first)] ++ [(.socket, second)])
          rw [loop_append, loop_single, loop_single]

/-- A write that depends on a test shows in the events only. -/
theorem run_writeIf {ε : Type} (test : Prop) [Decidable test] (written : σ → Written) (state : σ) :
    (if test then perform fun state => (state, [written state]) else pure () :
      Program σ Written ε Unit).run state =
      ⟨.ok (), state, if test then [written state] else []⟩ := by
  by_cases passed : test
  · rw [if_pos passed, if_pos passed, run_perform]
  · rw [if_neg passed, if_neg passed, run_pure]

/-- The main loop shows what its trace says, read by read. -/
theorem mainLoop_events (completes : ∀ input state, ((body input).run state).result = .ok ())
    (rounds : List (Ready α)) (state : σ) :
    ((mainLoop body rounds).run state).result = .ok () ∧
      ((mainLoop body rounds).run state).events =
        (trace body state (rounds.flatMap Ready.reads)).flatMap Prod.snd := by
  rw [mainLoop, loop_flatMap round_reads]
  exact loop_events completes _ state

/-- Every read of the main loop is answered as expected. -/
def Answers (body : Side × α → Program σ ω ε Unit) (expected : Side × α → List ω) (state : σ)
    (rounds : List (Ready α)) : Prop :=
  trace body state (rounds.flatMap Ready.reads) =
    (rounds.flatMap Ready.reads).map fun input => (input, expected input)

end

end TunVideo.ReadLoop
