import TunVideo.Program

set_option autoImplicit false

namespace TunVideo

/-- A loop between two statements: what is left of the operation it is running,
and the state it shares with asynchronous activities. -/
structure Loop (σ ω ε : Type) where
  pending : Program σ ω ε Unit
  state : σ

namespace Loop

variable {σ ω ε ι η : Type}

/-- The loop starts any operation when it is idle and executes one statement at
a time. Activities run to completion between any two statements. -/
inductive Step (operation : ι → Program σ ω ε Unit) (activity : η → Program σ ω ε Unit) :
    Loop σ ω ε → List ω → Loop σ ω ε → Prop
  | dispatch (chosen : ι) (state : σ) :
      Step operation activity ⟨.done (), state⟩ [] ⟨operation chosen, state⟩
  | statement (statement : σ → σ × List ω) (next : σ → Program σ ω ε Unit) (state : σ) :
      Step operation activity ⟨.step statement next, state⟩ (statement state).2
        ⟨next state, (statement state).1⟩
  | interrupt (chosen : η) (pending : Program σ ω ε Unit) (state : σ)
      (completed : ((activity chosen).run state).result = .ok ()) :
      Step operation activity ⟨pending, state⟩ ((activity chosen).run state).events
        ⟨pending, ((activity chosen).run state).state⟩

/-- A finite run and the events it emits, in order. -/
inductive Trace (operation : ι → Program σ ω ε Unit) (activity : η → Program σ ω ε Unit) :
    Loop σ ω ε → List ω → Loop σ ω ε → Prop
  | start (loop : Loop σ ω ε) : Trace operation activity loop [] loop
  | next {first middle last : Loop σ ω ε} {earlier later : List ω}
      (run : Trace operation activity first earlier middle)
      (step : Step operation activity middle later last) :
      Trace operation activity first (earlier ++ later) last

theorem Trace.single {operation : ι → Program σ ω ε Unit} {activity : η → Program σ ω ε Unit}
    {first last : Loop σ ω ε} {events : List ω} (step : Step operation activity first events last) :
    Trace operation activity first events last := by
  simpa only [List.nil_append] using Trace.next (.start first) step

theorem Trace.append {operation : ι → Program σ ω ε Unit} {activity : η → Program σ ω ε Unit}
    {first middle last : Loop σ ω ε} {earlier later : List ω}
    (front : Trace operation activity first earlier middle)
    (back : Trace operation activity middle later last) :
    Trace operation activity first (earlier ++ later) last := by
  induction back with
  | start => simpa only [List.append_nil] using front
  | next _ step ih => simpa only [List.append_assoc] using Trace.next ih step

/-- An operation that is never interrupted is one of the runs of the loop. -/
theorem Trace.of_run {operation : ι → Program σ ω ε Unit} {activity : η → Program σ ω ε Unit}
    (pending : Program σ ω ε Unit) (state : σ) (completed : (pending.run state).result = .ok ()) :
    Trace operation activity ⟨pending, state⟩ (pending.run state).events
      ⟨.done (), (pending.run state).state⟩ := by
  induction pending generalizing state with
  | done value => exact .start _
  | stop reason => cases completed
  | step statement next ih =>
      exact (Trace.single (.statement statement next state)).append
        (ih state (statement state).1 completed)

theorem Trace.operation {operation : ι → Program σ ω ε Unit} (activity : η → Program σ ω ε Unit)
    {chosen : ι} {state after : σ} {events : List ω}
    (ran : (operation chosen).run state = ⟨.ok (), after, events⟩) :
    Trace operation activity ⟨.done (), state⟩ events ⟨.done (), after⟩ := by
  have completed : ((operation chosen).run state).result = .ok () := by rw [ran]
  have whole : Trace operation activity ⟨operation chosen, state⟩ _ _ :=
    .of_run (operation chosen) state completed
  rw [ran] at whole
  exact (Trace.single (.dispatch chosen state)).append whole

theorem Trace.activity (operation : ι → Program σ ω ε Unit) {activity : η → Program σ ω ε Unit}
    {chosen : η} {pending : Program σ ω ε Unit} {state after : σ} {events : List ω}
    (ran : (activity chosen).run state = ⟨.ok (), after, events⟩) :
    Trace operation activity ⟨pending, state⟩ events ⟨pending, after⟩ := by
  have completed : ((activity chosen).run state).result = .ok () := by rw [ran]
  have whole : Trace operation activity ⟨pending, state⟩ _ _ :=
    .single (.interrupt chosen pending state completed)
  rwa [ran] at whole

end Loop

namespace Program

variable {σ ω ε α β ι η : Type}

/-- Every statement of the program, started in any state the environment may
have left, satisfies `guar`; a finished program satisfies `post`. -/
def Guarantees (rely : σ → σ → Prop) (guar : σ → List ω → σ → Prop) (post : α → σ → Prop) :
    Program σ ω ε α → σ → Prop
  | .done value, state => ∀ seen, rely state seen → post value seen
  | .stop _, _ => True
  | .step statement next, state => ∀ seen, rely state seen →
      guar seen (statement seen).2 (statement seen).1 ∧
        Guarantees rely guar post (next seen) (statement seen).1

section

variable {rely : σ → σ → Prop} {guar : σ → List ω → σ → Prop}

theorem Guarantees.stable {post : α → σ → Prop} (trans : ∀ a b c, rely a b → rely b c → rely a c)
    {program : Program σ ω ε α} {state seen : σ} (held : program.Guarantees rely guar post state)
    (moved : rely state seen) : program.Guarantees rely guar post seen := by
  cases program with
  | done value => exact fun later after => held later (trans _ _ _ moved after)
  | stop reason => trivial
  | step statement next => exact fun later after => held later (trans _ _ _ moved after)

theorem Guarantees.mono {post post' : α → σ → Prop} {program : Program σ ω ε α} {state : σ}
    (held : program.Guarantees rely guar post state)
    (weaker : ∀ value seen, post value seen → post' value seen) :
    program.Guarantees rely guar post' state := by
  induction program generalizing state with
  | done value => exact fun seen moved => weaker value seen (held seen moved)
  | stop reason => trivial
  | step statement next ih =>
      intro seen moved
      obtain ⟨kept, later⟩ := held seen moved
      exact ⟨kept, ih seen later⟩

theorem Guarantees.pure {post : α → σ → Prop} {value : α} {state : σ}
    (held : ∀ seen, rely state seen → post value seen) :
    (Pure.pure value : Program σ ω ε α).Guarantees rely guar post state := held

theorem Guarantees.stop {post : α → σ → Prop} (reason : ε) (state : σ) :
    (Program.stop reason : Program σ ω ε α).Guarantees rely guar post state := trivial

theorem Guarantees.perform {post : Unit → σ → Prop} {statement : σ → σ × List ω} {state : σ}
    (held : ∀ seen, rely state seen → guar seen (statement seen).2 (statement seen).1 ∧
      ∀ later, rely (statement seen).1 later → post () later) :
    (perform statement : Program σ ω ε Unit).Guarantees rely guar post state := held

theorem Guarantees.modify {post : Unit → σ → Prop} {update : σ → σ} {state : σ}
    (held : ∀ seen, rely state seen → guar seen [] (update seen) ∧
      ∀ later, rely (update seen) later → post () later) :
    (modify update : Program σ ω ε Unit).Guarantees rely guar post state := held

theorem Guarantees.read {post : α → σ → Prop} {expression : σ → α} {state : σ}
    (held : ∀ seen, rely state seen → guar seen [] seen ∧
      ∀ later, rely seen later → post (expression seen) later) :
    (read expression : Program σ ω ε α).Guarantees rely guar post state := held

theorem Guarantees.require {post : α → σ → Prop} {reason : ε} {value : Option α} {state : σ}
    (held : ∀ present, value = some present → ∀ seen, rely state seen → post present seen) :
    (require reason value : Program σ ω ε α).Guarantees rely guar post state := by
  cases value with
  | none => trivial
  | some present => exact held present rfl

theorem Guarantees.bind {mid : α → σ → Prop} {post : β → σ → Prop} (refl : ∀ a, rely a a)
    {first : Program σ ω ε α} {next : α → Program σ ω ε β} {state : σ}
    (head : first.Guarantees rely guar mid state)
    (tail : ∀ value seen, mid value seen → (next value).Guarantees rely guar post seen) :
    (first >>= next).Guarantees rely guar post state := by
  change (first.bind next).Guarantees rely guar post state
  induction first generalizing state with
  | done value => exact tail value state (head state (refl state))
  | stop reason => trivial
  | step statement rest ih =>
      intro seen moved
      obtain ⟨kept, later⟩ := head seen moved
      exact ⟨kept, ih seen later⟩

/-- An uninterrupted execution is one of those that the guarantee is about. -/
theorem Guarantees.emitted {post : α → σ → Prop} {allowed : ω → Prop} (refl : ∀ a, rely a a)
    (each : ∀ before events after, guar before events after → ∀ event ∈ events, allowed event)
    {program : Program σ ω ε α} {state : σ} (held : program.Guarantees rely guar post state) :
    ∀ event ∈ (program.run state).events, allowed event := by
  induction program generalizing state with
  | done value => exact fun _ member => nomatch member
  | stop reason => exact fun _ member => nomatch member
  | step statement next ih =>
      obtain ⟨kept, later⟩ := held state (refl state)
      intro event member
      rcases List.mem_append.mp member with first | rest
      · exact each _ _ _ kept event first
      · exact ih state later event rest

end

end Program

/-- Rely-guarantee for one interruptible loop: a predicate on the trace and the
state that every statement and every activity extends holds of every run. -/
theorem Loop.Trace.invariant {σ ω ε ι η : Type} {operation : ι → Program σ ω ε Unit}
    {activity : η → Program σ ω ε Unit} {rely : σ → σ → Prop} {guar : σ → List ω → σ → Prop}
    (trans : ∀ a b c, rely a b → rely b c → rely a c) (refl : ∀ a, rely a a)
    (steady : ∀ chosen state, rely state ((activity chosen).run state).state)
    (guaranteed : ∀ chosen state,
      (operation chosen).Guarantees rely guar (fun _ _ => True) state)
    (holds : List ω → σ → Prop)
    (statement : ∀ trace before events after, holds trace before → guar before events after →
      holds (trace ++ events) after)
    (interrupt : ∀ trace state chosen, holds trace state →
      holds (trace ++ ((activity chosen).run state).events) ((activity chosen).run state).state)
    {initial : σ} (start : holds [] initial) {events : List ω} {last : Loop σ ω ε}
    (run : Loop.Trace operation activity ⟨.done (), initial⟩ events last) :
    holds events last.state := by
  suffices both : holds events last.state ∧
      last.pending.Guarantees rely guar (fun _ _ => True) last.state from both.1
  induction run with
  | start => exact ⟨start, fun _ _ => trivial⟩
  | next _ step ih =>
      obtain ⟨held, pending⟩ := ih
      cases step with
      | dispatch chosen state =>
          exact ⟨by simpa only [List.append_nil] using held, guaranteed chosen state⟩
      | statement body next state =>
          obtain ⟨kept, later⟩ := pending state (refl state)
          exact ⟨statement _ _ _ _ held kept, later⟩
      | interrupt chosen pending' state completed =>
          exact ⟨interrupt _ _ chosen held, pending.stable trans (steady chosen state)⟩

end TunVideo
