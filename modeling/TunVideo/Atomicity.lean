import TunVideo.ProgramInterleave

set_option autoImplicit false

/- When an operation is indivisible: an activity that interrupts it might as well have come
before it. -/
namespace TunVideo

variable {σ ω ε α β ι η : Type}

/-- A statement and an activity in either order: the same events and the same state. -/
structure Swaps (activity : η → Program σ ω ε Unit) (statement : σ → σ × List ω) (before : σ)
    (chosen : η) : Prop where
  result : ((activity chosen).run (statement before).1).result =
    ((activity chosen).run before).result
  state : ((activity chosen).run (statement before).1).state =
    (statement ((activity chosen).run before).state).1
  events : (statement before).2 ++ ((activity chosen).run (statement before).1).events =
    ((activity chosen).run before).events ++ (statement ((activity chosen).run before).state).2

namespace Program

/-- No activity makes a difference to a statement of the program, nor a statement to it. -/
def Ignores (activity : η → Program σ ω ε Unit) : Program σ ω ε α → Prop
  | .done _ => True
  | .stop _ => True
  | .step statement next => ∀ state,
      (∀ chosen, Swaps activity statement state chosen ∧
        next ((activity chosen).run state).state = next state) ∧
      Ignores activity (next state)

variable {activity : η → Program σ ω ε Unit}

theorem Ignores.pure (value : α) :
    (Pure.pure value : Program σ ω ε α).Ignores activity := trivial

theorem Ignores.stop (reason : ε) :
    (Program.stop reason : Program σ ω ε α).Ignores activity := trivial

theorem Ignores.require (reason : ε) (value : Option α) :
    (Program.require reason value : Program σ ω ε α).Ignores activity := by
  cases value <;> trivial

theorem Ignores.read {expression : σ → α}
    (same : ∀ chosen state, expression ((activity chosen).run state).state = expression state) :
    (Program.read expression : Program σ ω ε α).Ignores activity := by
  intro state
  refine ⟨fun chosen => ⟨⟨rfl, rfl, (List.append_nil _).symm⟩, ?_⟩, trivial⟩
  exact congrArg Program.done (same chosen state)

theorem Ignores.perform {statement : σ → σ × List ω}
    (swaps : ∀ chosen state, Swaps activity statement state chosen) :
    (Program.perform statement : Program σ ω ε Unit).Ignores activity :=
  fun state => ⟨fun chosen => ⟨swaps chosen state, rfl⟩, trivial⟩

theorem Ignores.modify {update : σ → σ}
    (same : ∀ chosen state, (activity chosen).run (update state) =
      { (activity chosen).run state with state := update ((activity chosen).run state).state }) :
    (Program.modify update : Program σ ω ε Unit).Ignores activity := by
  refine Ignores.perform fun chosen state => ?_
  have swapped := same chosen state
  refine ⟨?_, ?_, ?_⟩
  · change ((activity chosen).run (update state)).result = _
    rw [swapped]
  · change ((activity chosen).run (update state)).state = _
    rw [swapped]
  · rw [List.nil_append, List.append_nil]
    change ((activity chosen).run (update state)).events = _
    rw [swapped]

theorem Ignores.bind {first : Program σ ω ε α} {next : α → Program σ ω ε β}
    (head : first.Ignores activity) (tail : ∀ value, (next value).Ignores activity) :
    (first >>= next).Ignores activity := by
  change (first.bind next).Ignores activity
  induction first with
  | done value => exact tail value
  | stop reason => trivial
  | step statement rest ih =>
      intro state
      obtain ⟨each, later⟩ := head state
      refine ⟨fun chosen => ⟨(each chosen).1, ?_⟩, ih state later⟩
      exact congrArg (Program.bind · next) (each chosen).2

theorem Ignores.ite {condition : Prop} [Decidable condition] {first second : Program σ ω ε α}
    (yes : first.Ignores activity) (no : second.Ignores activity) :
    (if condition then first else second).Ignores activity := by
  split
  · exact yes
  · exact no

/-- Some statements of a program one after another, with what they show and what is left. -/
inductive Executed (program : Program σ ω ε α) (start : σ) :
    List ω → Program σ ω ε α → σ → Prop
  | start : Executed program start [] program start
  | next {events : List ω} {state : σ} {statement : σ → σ × List ω}
      {rest : σ → Program σ ω ε α}
      (front : Executed program start events (.step statement rest) state) :
      Executed program start (events ++ (statement state).2) (rest state) (statement state).1

variable {program rest : Program σ ω ε α} {start state : σ} {events : List ω}

theorem Executed.run (executed : Executed program start events rest state) :
    program.run start = (rest.run state).after events := by
  induction executed with
  | start => rfl
  | next front ih =>
      rw [ih, Program.run]
      simp only [Outcome.after, List.append_assoc]

theorem Executed.ignores (executed : Executed program start events rest state)
    (ignores : program.Ignores activity) : rest.Ignores activity := by
  induction executed with
  | start => exact ignores
  | next front ih => exact (ih _).2

/-- An activity behind the statements could have come in front of them. -/
theorem Executed.swaps (executed : Executed program start events rest state)
    (ignores : program.Ignores activity) (chosen : η) :
    ((activity chosen).run state).result = ((activity chosen).run start).result ∧
      ∃ events', events ++ ((activity chosen).run state).events =
          ((activity chosen).run start).events ++ events' ∧
        Executed program ((activity chosen).run start).state events' rest
          ((activity chosen).run state).state := by
  induction executed with
  | start => exact ⟨rfl, [], (List.append_nil _).symm, .start⟩
  | @next events state statement rest front ih =>
      obtain ⟨completed, earlier, shown, moved⟩ := ih
      obtain ⟨swaps, same⟩ := (front.ignores ignores state).1 chosen
      refine ⟨swaps.result.trans completed, _, ?_, swaps.state ▸ same ▸ moved.next⟩
      rw [List.append_assoc, swaps.events, ← List.append_assoc, shown, List.append_assoc]

end Program

namespace Loop

/-- The loop with some operations executed in one step each. -/
inductive CoarseStep (atomic : ι → Prop) (operation : ι → Program σ ω ε Unit)
    (activity : η → Program σ ω ε Unit) : Loop σ ω ε → List ω → Loop σ ω ε → Prop
  | dispatch (chosen : ι) (divisible : ¬atomic chosen) (state : σ) :
      CoarseStep atomic operation activity ⟨.done (), state⟩ [] ⟨operation chosen, state⟩
  | whole (chosen : ι) (indivisible : atomic chosen) (state : σ)
      (completed : ((operation chosen).run state).result = .ok ()) :
      CoarseStep atomic operation activity ⟨.done (), state⟩ ((operation chosen).run state).events
        ⟨.done (), ((operation chosen).run state).state⟩
  | statement (statement : σ → σ × List ω) (next : σ → Program σ ω ε Unit) (state : σ) :
      CoarseStep atomic operation activity ⟨.step statement next, state⟩ (statement state).2
        ⟨next state, (statement state).1⟩
  | interrupt (chosen : η) (pending : Program σ ω ε Unit) (state : σ)
      (completed : ((activity chosen).run state).result = .ok ()) :
      CoarseStep atomic operation activity ⟨pending, state⟩ ((activity chosen).run state).events
        ⟨pending, ((activity chosen).run state).state⟩

inductive CoarseTrace (atomic : ι → Prop) (operation : ι → Program σ ω ε Unit)
    (activity : η → Program σ ω ε Unit) : Loop σ ω ε → List ω → Loop σ ω ε → Prop
  | start (loop : Loop σ ω ε) : CoarseTrace atomic operation activity loop [] loop
  | next {first middle last : Loop σ ω ε} {earlier later : List ω}
      (run : CoarseTrace atomic operation activity first earlier middle)
      (step : CoarseStep atomic operation activity middle later last) :
      CoarseTrace atomic operation activity first (earlier ++ later) last

variable {atomic : ι → Prop} {operation : ι → Program σ ω ε Unit}
  {activity : η → Program σ ω ε Unit} {first last : Loop σ ω ε} {events : List ω}

/-- What the loop in coarse steps can do, the loop can do. -/
theorem CoarseTrace.trace (run : CoarseTrace atomic operation activity first events last) :
    Trace operation activity first events last := by
  induction run with
  | start => exact .start _
  | next _ step ih =>
      refine ih.append ?_
      cases step with
      | dispatch chosen _ state => exact .single (.dispatch chosen state)
      | whole chosen _ state completed =>
          exact (Trace.single (.dispatch chosen state)).append
            (.of_run (operation chosen) state completed)
      | statement statement next state => exact .single (.statement statement next state)
      | interrupt chosen pending state completed =>
          exact .single (.interrupt chosen pending state completed)

/-- Where the loop in coarse steps is: at the same point, or in front of an indivisible
operation of which the loop has executed some statements. -/
inductive Follows (atomic : ι → Prop) (operation : ι → Program σ ω ε Unit)
    (activity : η → Program σ ω ε Unit) (first : Loop σ ω ε) (events : List ω)
    (reached : Loop σ ω ε) : Prop
  | same (run : CoarseTrace atomic operation activity first events reached)
  | behind {chosen : ι} (indivisible : atomic chosen) {state : σ} {earlier shown : List ω}
      (run : CoarseTrace atomic operation activity first earlier ⟨.done (), state⟩)
      (executed : (operation chosen).Executed state shown reached.pending reached.state)
      (split : events = earlier ++ shown)

/-- Between two operations the coarse loop can catch up. -/
theorem Follows.idle {state : σ}
    (follows : Follows atomic operation activity first events ⟨.done (), state⟩) :
    CoarseTrace atomic operation activity first events ⟨.done (), state⟩ := by
  cases follows with
  | same run => exact run
  | @behind chosen indivisible before earlier shown run executed split =>
      have whole : (operation chosen).run before = ⟨.ok (), state, shown⟩ := by
        rw [executed.run]
        exact congrArg (Outcome.mk _ _) (List.append_nil _)
      have step : CoarseStep atomic operation activity _ _ _ :=
        .whole chosen indivisible before (by rw [whole])
      rw [whole] at step
      exact split ▸ run.next step

theorem follows_of_trace (ignores : ∀ chosen, atomic chosen →
      (operation chosen).Ignores activity)
    (run : Trace operation activity first events last) :
    Follows atomic operation activity first events last := by
  induction run with
  | start => exact .same (.start _)
  | @next middle last earlier later run step ih =>
      cases step with
      | dispatch chosen state =>
          by_cases indivisible : atomic chosen
          · exact .behind indivisible ih.idle .start rfl
          · exact .same (ih.idle.next (.dispatch chosen indivisible state))
      | statement statement next state =>
          cases ih with
          | same run => exact .same (run.next (.statement statement next state))
          | behind indivisible run executed split =>
              refine .behind indivisible run executed.next ?_
              rw [split, List.append_assoc]
      | interrupt chosen pending state completed =>
          cases ih with
          | same run => exact .same (run.next (.interrupt chosen pending state completed))
          | behind indivisible run executed split =>
              obtain ⟨result, shown, swapped, moved⟩ :=
                executed.swaps (ignores _ indivisible) chosen
              refine .behind indivisible
                (run.next (.interrupt chosen _ _ (result.symm.trans completed))) moved ?_
              rw [split, List.append_assoc, swapped, List.append_assoc]

/-- Reduction: between two operations, the loop has shown and reached what it can show and
reach when the operations that ignore its activities are indivisible. -/
theorem trace_iff_coarse (ignores : ∀ chosen, atomic chosen →
      (operation chosen).Ignores activity) {state : σ} :
    Trace operation activity first events ⟨.done (), state⟩ ↔
      CoarseTrace atomic operation activity first events ⟨.done (), state⟩ :=
  ⟨fun run => (follows_of_trace ignores run).idle, CoarseTrace.trace⟩

end Loop

end TunVideo
