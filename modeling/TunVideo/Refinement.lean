import TunVideo.ProgramInterleave

set_option autoImplicit false

/- Refinement of programs: the concrete one has a part of the state to itself, and takes
statements in between that the abstract one does not have. -/
namespace TunVideo

variable {σ τ μ ω ε δ α β : Type}

/-- What a concrete state shows of the abstract one, the part of it that no other program
changes, and the reasons for which both stop. -/
structure Levels (τ σ μ ε δ : Type) where
  view : τ → σ
  own : τ → μ
  reason : ε → δ

/-- Two answers: values that are related, or none for the same reason. -/
inductive SameAnswer (reason : δ) (related : α → β → Prop) : Except δ α → Option β → Prop
  | ok {value' : α} {value : β} (held : related value' value) :
      SameAnswer reason related (.ok value') (some value)
  | error : SameAnswer reason related (.error reason) none

/-- Loops over one list, with bodies that answer alike. -/
theorem SameAnswer.foldlM {ι : Type} {reason : δ} {related : α → β → Prop}
    {body' : α → ι → Except δ α} {body : β → ι → Option β} {items : List ι}
    (step : ∀ found' found item, item ∈ items → related found' found →
      SameAnswer reason related (body' found' item) (body found item)) {found' : α} {found : β}
    (start : related found' found) :
    SameAnswer reason related (items.foldlM body' found') (items.foldlM body found) := by
  induction items generalizing found' found with
  | nil => exact .ok start
  | cons item rest ih =>
      rw [List.foldlM_cons, List.foldlM_cons]
      have first := step found' found item List.mem_cons_self start
      generalize body' found' item = answer' at first ⊢
      generalize body found item = answer at first ⊢
      cases first with
      | ok held =>
          exact ih (fun found' found item member => step found' found item
            (List.mem_cons_of_mem _ member)) held
      | error => exact .error

namespace Program

variable {levels : Levels τ σ μ ε δ}

/-- Go on with an answer, or stop for the reason that there is none. -/
def demand : Except δ α → Program τ ω δ α
  | .ok value => .done value
  | .error reason => .stop reason

/-- Whatever happens beside them to the rest of the state, both programs take statements that
do the same, and the concrete one takes others that the view does not show. -/
inductive Refines (levels : Levels τ σ μ ε δ) (post : α → β → μ → Prop) :
    μ → Program τ ω δ α → Program σ ω ε β → Prop
  | done {own : μ} {value' : α} {value : β} (held : post value' value own) :
      Refines levels post own (.done value') (.done value)
  | stop (own : μ) (reason : ε) :
      Refines levels post own (.stop (levels.reason reason)) (.stop reason)
  | silent {own : μ} {statement' : τ → τ × List ω} {next' : τ → Program τ ω δ α}
      {program : Program σ ω ε β}
      (unseen : ∀ state, levels.own state = own →
        levels.view (statement' state).1 = levels.view state ∧ (statement' state).2 = [])
      (later : ∀ state, levels.own state = own →
        Refines levels post (levels.own (statement' state).1) (next' state) program) :
      Refines levels post own (.step statement' next') program
  | both {own : μ} {statement' : τ → τ × List ω} {next' : τ → Program τ ω δ α}
      {statement : σ → σ × List ω} {next : σ → Program σ ω ε β}
      (same : ∀ state, levels.own state = own →
        levels.view (statement' state).1 = (statement (levels.view state)).1 ∧
          (statement' state).2 = (statement (levels.view state)).2)
      (later : ∀ state, levels.own state = own →
        Refines levels post (levels.own (statement' state).1) (next' state)
          (next (levels.view state))) :
      Refines levels post own (.step statement' next') (.step statement next)

namespace Refines

variable {α' β' : Type} {own : μ} {post : α' → β' → μ → Prop}

theorem mono {weaker : α' → β' → μ → Prop} {program' : Program τ ω δ α'}
    {program : Program σ ω ε β'} (refines : Refines levels post own program' program)
    (implied : ∀ value' value seen, post value' value seen → weaker value' value seen) :
    Refines levels weaker own program' program := by
  induction refines with
  | done held => exact .done (implied _ _ _ held)
  | stop own reason => exact .stop own reason
  | silent unseen _ ih => exact .silent unseen ih
  | both same _ ih => exact .both same ih

theorem bind {mid : α → β → μ → Prop} {first' : Program τ ω δ α} {first : Program σ ω ε β}
    {next' : α → Program τ ω δ α'} {next : β → Program σ ω ε β'}
    (head : Refines levels mid own first' first)
    (tail : ∀ value' value seen, mid value' value seen →
      Refines levels post seen (next' value') (next value)) :
    Refines levels post own (first' >>= next') (first >>= next) := by
  change Refines levels post own (first'.bind next') (first.bind next)
  induction head with
  | done held => exact tail _ _ _ held
  | stop own reason => exact .stop own reason
  | silent unseen _ ih => exact .silent unseen ih
  | both same _ ih => exact .both same ih

theorem before {mid : α → Unit → μ → Prop} {first' : Program τ ω δ α}
    {next' : α → Program τ ω δ α'} {program : Program σ ω ε β'}
    (head : Refines levels mid own first' (pure () : Program σ ω ε Unit))
    (tail : ∀ value' seen, mid value' () seen → Refines levels post seen (next' value') program) :
    Refines levels post own (first' >>= next') program :=
  @bind _ _ _ _ _ _ _ _ _ _ _ _ _ _ _ (pure ()) _ (fun _ => program) head
    fun value' _ seen => tail value' seen

theorem behind {mid : α → Unit → μ → Prop} {post : α' → Unit → μ → Prop}
    {first' : Program τ ω δ α} {first : Program σ ω ε Unit} {next' : α → Program τ ω δ α'}
    (head : Refines levels mid own first' first)
    (tail : ∀ value' seen, mid value' () seen →
      Refines levels post seen (next' value') (pure () : Program σ ω ε Unit)) :
    Refines levels post own (first' >>= next') first := by
  change Refines levels post own (first'.bind next') first
  induction head with
  | done held => exact tail _ _ held
  | stop own reason => exact .stop own reason
  | silent unseen _ ih => exact .silent unseen ih
  | both same _ ih => exact .both same ih

theorem read_silent {expression : τ → α} {next' : α → Program τ ω δ α'}
    {program : Program σ ω ε β'}
    (later : ∀ state, levels.own state = own →
      Refines levels post own (next' (expression state)) program) :
    Refines levels post own (Program.read expression >>= next') program := by
  refine .silent (fun _ _ => ⟨rfl, rfl⟩) fun state held => ?_
  rw [held]
  exact later state held

theorem modify_silent {update : τ → τ} {next' : Unit → Program τ ω δ α'}
    {program : Program σ ω ε β'}
    (unseen : ∀ state, levels.own state = own → levels.view (update state) = levels.view state)
    (later : ∀ state, levels.own state = own →
      Refines levels post (levels.own (update state)) (next' ()) program) :
    Refines levels post own (Program.modify update >>= next') program :=
  .silent (fun state held => ⟨unseen state held, rfl⟩) later

theorem read {expression' : τ → α} {expression : σ → β} {next' : α → Program τ ω δ α'}
    {next : β → Program σ ω ε β'}
    (later : ∀ state, levels.own state = own → Refines levels post own
      (next' (expression' state)) (next (expression (levels.view state)))) :
    Refines levels post own (Program.read expression' >>= next')
      (Program.read expression >>= next) := by
  refine .both (fun _ _ => ⟨rfl, rfl⟩) fun state held => ?_
  rw [held]
  exact later state held

theorem modify {update' : τ → τ} {update : σ → σ} {next' : Unit → Program τ ω δ α'}
    {next : Unit → Program σ ω ε β'}
    (same : ∀ state, levels.own state = own →
      levels.view (update' state) = update (levels.view state))
    (later : ∀ state, levels.own state = own →
      Refines levels post (levels.own (update' state)) (next' ()) (next ())) :
    Refines levels post own (Program.modify update' >>= next')
      (Program.modify update >>= next) :=
  .both (fun state held => ⟨same state held, rfl⟩) later

theorem demand {related : α → β → Prop} {reason : ε} {answer' : Except δ α} {answer : Option β}
    {next' : α → Program τ ω δ α'} {next : β → Program σ ω ε β'}
    (answers : SameAnswer (levels.reason reason) related answer' answer)
    (later : ∀ value' value, related value' value →
      Refines levels post own (next' value') (next value)) :
    Refines levels post own (Program.demand answer' >>= next')
      (Program.require reason answer >>= next) := by
  cases answers with
  | ok held => exact later _ _ held
  | error => exact .stop own reason

theorem demand_ok {answer : Except δ α} {value : α} {next' : α → Program τ ω δ α'}
    {program : Program σ ω ε β'} (found : answer = .ok value)
    (later : Refines levels post own (next' value) program) :
    Refines levels post own (Program.demand answer >>= next') program := by
  rw [found]
  exact later

theorem ite {condition : Prop} [Decidable condition] {first' second' : Program τ ω δ α'}
    {first second : Program σ ω ε β'} (yes : condition → Refines levels post own first' first)
    (no : ¬condition → Refines levels post own second' second) :
    Refines levels post own (if condition then first' else second')
      (if condition then first else second) := by
  by_cases holds : condition
  · rw [if_pos holds, if_pos holds]
    exact yes holds
  · rw [if_neg holds, if_neg holds]
    exact no holds

/-- What both programs leave when nothing happens beside them. -/
structure Agree (levels : Levels τ σ μ ε δ) (post : α → β → μ → Prop)
    (outcome' : Outcome τ ω δ α) (outcome : Outcome σ ω ε β) : Prop where
  events : outcome'.events = outcome.events
  state : levels.view outcome'.state = outcome.state
  result : (∃ value' value, outcome'.result = .ok value' ∧ outcome.result = .ok value ∧
      post value' value (levels.own outcome'.state)) ∨
    ∃ reason, outcome'.result = .error (levels.reason reason) ∧ outcome.result = .error reason

theorem run {program' : Program τ ω δ α'} {program : Program σ ω ε β'}
    (refines : Refines levels post own program' program) {state : τ}
    (held : levels.own state = own) :
    Agree levels post (program'.run state) (program.run (levels.view state)) := by
  induction refines generalizing state with
  | done meets => exact ⟨rfl, rfl, .inl ⟨_, _, rfl, rfl, held ▸ meets⟩⟩
  | stop own reason => exact ⟨rfl, rfl, .inr ⟨reason, rfl, rfl⟩⟩
  | silent unseen _ ih =>
      obtain ⟨view, events⟩ := unseen state held
      have rest := ih state held rfl
      rw [view] at rest
      refine ⟨?_, rest.state, rest.result⟩
      rw [Program.run, Outcome.after_events, events, List.nil_append]
      exact rest.events
  | both same _ ih =>
      obtain ⟨view, events⟩ := same state held
      have rest := ih state held rfl
      rw [view] at rest
      refine ⟨?_, rest.state, rest.result⟩
      rw [Program.run, Program.run, Outcome.after_events, Outcome.after_events, events]
      exact congrArg _ rest.events

/-- An execution that completes is one whose refinement does. -/
theorem Agree.completed_iff {post : Unit → Unit → μ → Prop} {outcome' : Outcome τ ω δ Unit}
    {outcome : Outcome σ ω ε Unit} (agree : Agree levels post outcome' outcome) :
    outcome'.result = .ok () ↔ outcome.result = .ok () := by
  rcases agree.result with ⟨_, _, ok', ok, -⟩ | ⟨reason, error', error⟩
  · exact iff_of_true ok' ok
  · rw [error', error]
    exact iff_of_false nofun nofun

end Refines

end Program

namespace Loop

open Program

variable {ι κ η : Type} {levels : Levels τ σ μ ε δ} {holds : μ → Prop}
  {operation' : κ → Program τ ω δ Unit} {operation : ι → Program σ ω ε Unit}
  {activity' : η → Program τ ω δ Unit} {activity : η → Program σ ω ε Unit} {shown : κ → ι}

/-- A program that refines one without a statement has none left after some silent statements. -/
theorem trace_to_end {own : μ} {post : Unit → Unit → μ → Prop} {program' : Program τ ω δ Unit}
    {program : Program σ ω ε Unit} {state : τ} (refines : Refines levels post own program' program)
    (held : levels.own state = own) (ended : ∀ statement next, program ≠ .step statement next) :
    ∃ last, Trace operation' activity' ⟨program', state⟩ [] last ∧
      levels.view last.state = levels.view state ∧
      Refines levels post (levels.own last.state) last.pending program ∧
      ∀ statement next, last.pending ≠ .step statement next := by
  induction refines generalizing state with
  | done meets => exact ⟨_, .start _, rfl, .done (held ▸ meets), nofun⟩
  | stop own reason => exact ⟨_, .start _, rfl, .stop _ reason, nofun⟩
  | both => exact absurd rfl (ended _ _)
  | @silent _ statement' next' _ unseen _ ih =>
      obtain ⟨view, events⟩ := unseen state held
      obtain ⟨last, rest, same, refines, finished⟩ := ih state held rfl ended
      refine ⟨last, ?_, same.trans view, refines, finished⟩
      have first : Trace operation' activity' _ _ _ := .single (.statement statement' next' state)
      rw [events] at first
      exact first.append rest

theorem trace_to_done {own : μ} {post : Unit → Unit → μ → Prop} {program' : Program τ ω δ Unit}
    {state : τ} (refines : Refines levels post own program' (.done () : Program σ ω ε Unit))
    (held : levels.own state = own) :
    ∃ after, Trace operation' activity' ⟨program', state⟩ [] ⟨.done (), after⟩ ∧
      levels.view after = levels.view state ∧ post () () (levels.own after) := by
  obtain ⟨⟨pending, after⟩, run, view, refines, finished⟩ :=
    @trace_to_end _ _ _ _ _ _ _ _ _ operation' activity' _ _ _ _ _ refines held nofun
  cases refines with
  | done meets => exact ⟨after, run, view, meets⟩
  | silent => exact absurd rfl (finished _ _)

theorem trace_to_stop {own : μ} {post : Unit → Unit → μ → Prop} {program' : Program τ ω δ Unit}
    {state : τ} {reason : ε}
    (refines : Refines levels post own program' (.stop reason : Program σ ω ε Unit))
    (held : levels.own state = own) :
    ∃ after, Trace operation' activity' ⟨program', state⟩ []
        ⟨.stop (levels.reason reason), after⟩ ∧ levels.view after = levels.view state := by
  obtain ⟨⟨pending, after⟩, run, view, refines, finished⟩ :=
    @trace_to_end _ _ _ _ _ _ _ _ _ operation' activity' _ _ _ _ _ refines held nofun
  cases refines with
  | stop => exact ⟨after, run, view⟩
  | silent => exact absurd rfl (finished _ _)

/-- Some silent statements lead to the one that does the same as an abstract statement. -/
theorem trace_to_both {own : μ} {post : Unit → Unit → μ → Prop} {program' : Program τ ω δ Unit}
    {statement : σ → σ × List ω} {next : σ → Program σ ω ε Unit} {state : τ}
    (refines : Refines levels post own program' (.step statement next))
    (held : levels.own state = own) :
    ∃ after, Trace operation' activity' ⟨program', state⟩ (statement (levels.view state)).2
        after ∧ levels.view after.state = (statement (levels.view state)).1 ∧
      Refines levels post (levels.own after.state) after.pending (next (levels.view state)) := by
  generalize whole : Program.step statement next = program at refines
  induction refines generalizing state with
  | done => cases whole
  | stop => cases whole
  | @silent _ statement' next' _ unseen _ ih =>
      obtain ⟨view, events⟩ := unseen state held
      obtain ⟨after, rest, same, later⟩ := ih state held rfl whole
      rw [view] at rest same later
      refine ⟨after, ?_, same, later⟩
      have first : Trace operation' activity' _ _ _ := .single (.statement statement' next' state)
      rw [events] at first
      exact first.append rest
  | @both _ statement' next' _ _ same later =>
      cases whole
      obtain ⟨view, events⟩ := same state held
      refine ⟨⟨next' state, (statement' state).1⟩, ?_, view, later state held⟩
      rw [← events]
      exact .single (.statement statement' next' state)

section

variable
  (operations : ∀ chosen own, holds own →
    Refines levels (fun _ _ => holds) own (operation' chosen) (operation (shown chosen)))
  (activities : ∀ chosen own,
    Refines levels (fun _ _ seen => seen = own) own (activity' chosen) (activity chosen))

include operations activities

/-- Wherever the concrete loop is, the abstract loop can be too, having shown the same. -/
theorem Trace.refines {first last : Loop τ ω δ} {events : List ω}
    {program : Program σ ω ε Unit} (run : Trace operation' activity' first events last)
    (start : Refines levels (fun _ _ => holds) (levels.own first.state) first.pending program) :
    ∃ current, Trace operation activity ⟨program, levels.view first.state⟩ events
        ⟨current, levels.view last.state⟩ ∧
      Refines levels (fun _ _ => holds) (levels.own last.state) last.pending current := by
  induction run with
  | start => exact ⟨program, .start _, start⟩
  | next _ step ih =>
      obtain ⟨current, front, refines⟩ := ih
      cases step with
      | dispatch chosen state =>
          cases refines with
          | done held =>
              exact ⟨_, front.next (.dispatch (shown chosen) _), operations chosen _ held⟩
      | statement statement' next' state =>
          cases refines with
          | silent unseen later =>
              obtain ⟨view, events⟩ := unseen state rfl
              rw [events, List.append_nil, view]
              exact ⟨current, front, later state rfl⟩
          | @both _ _ _ statement next same later =>
              obtain ⟨view, events⟩ := same state rfl
              rw [events, view]
              exact ⟨_, front.next (.statement statement next _), later state rfl⟩
      | interrupt chosen pending state completed =>
          have agree := (activities chosen _).run (rfl : levels.own state = _)
          refine ⟨current, ?_, ?_⟩
          · dsimp only
            rw [agree.events, agree.state]
            exact front.next (.interrupt chosen _ _ (agree.completed_iff.mp completed))
          · rcases agree.result with ⟨_, _, -, -, kept⟩ | ⟨reason, error, -⟩
            · dsimp only
              rw [kept]
              exact refines
            · rw [completed] at error
              cases error

/-- Wherever the abstract loop is, the concrete loop can be too, having shown the same. -/
theorem Trace.refined (every : ∀ chosen, ∃ chosen', shown chosen' = chosen) {state : τ}
    {events : List ω} {program' : Program τ ω δ Unit} {program : Program σ ω ε Unit}
    {last : Loop σ ω ε}
    (run : Trace operation activity ⟨program, levels.view state⟩ events last)
    (start : Refines levels (fun _ _ => holds) (levels.own state) program' program) :
    ∃ last', Trace operation' activity' ⟨program', state⟩ events last' ∧
      levels.view last'.state = last.state ∧
      Refines levels (fun _ _ => holds) (levels.own last'.state) last'.pending last.pending := by
  induction run with
  | start => exact ⟨_, .start _, rfl, start⟩
  | next _ step ih =>
      obtain ⟨last', front, view, refines⟩ := ih
      cases step with
      | dispatch chosen abstract =>
          obtain ⟨chosen', rfl⟩ := every chosen
          obtain ⟨after, silent, unseen, held⟩ :=
            @trace_to_done _ _ _ _ _ _ _ _ _ operation' activity' _ _ _ _ refines rfl
          refine ⟨⟨operation' chosen', after⟩, ?_, unseen.trans view, operations chosen' _ held⟩
          simpa only [List.append_nil] using (front.append silent).next (.dispatch chosen' after)
      | statement statement next abstract =>
          obtain ⟨after, reached, same, later⟩ :=
            @trace_to_both _ _ _ _ _ _ _ _ _ operation' activity' _ _ _ _ _ _ refines rfl
          change levels.view last'.state = abstract at view
          rw [view] at reached same later
          exact ⟨after, front.append reached, same, later⟩
      | interrupt chosen pending abstract completed =>
          change levels.view last'.state = abstract at view
          have agree := (activities chosen _).run (rfl : levels.own last'.state = _)
          rw [view] at agree
          have completed' := agree.completed_iff.mpr completed
          refine ⟨⟨last'.pending, ((activity' chosen).run last'.state).state⟩, ?_, agree.state, ?_⟩
          · rw [← agree.events]
            exact front.next (.interrupt chosen _ _ completed')
          · rcases agree.result with ⟨_, _, -, -, kept⟩ | ⟨reason, error, -⟩
            · dsimp only
              rw [kept]
              exact refines
            · rw [completed'] at error
              cases error

/-- Between two operations, both loops have shown the same, and the concrete state is what the
abstract one is the view of. -/
theorem trace_refines_iff (every : ∀ chosen, ∃ chosen', shown chosen' = chosen) {state : τ}
    {events : List ω} {program' : Program τ ω δ Unit} {program : Program σ ω ε Unit} {after : σ}
    (start : Refines levels (fun _ _ => holds) (levels.own state) program' program) :
    (∃ after', Trace operation' activity' ⟨program', state⟩ events ⟨.done (), after'⟩ ∧
        levels.view after' = after) ↔
      Trace operation activity ⟨program, levels.view state⟩ events ⟨.done (), after⟩ := by
  constructor
  · rintro ⟨after', run, rfl⟩
    obtain ⟨current, reached, refines⟩ := Trace.refines operations activities run start
    cases refines with
    | done => exact reached
  · intro run
    obtain ⟨last', reached, view, refines⟩ := Trace.refined operations activities every run start
    obtain ⟨after', silent, unseen, -⟩ :=
      @trace_to_done _ _ _ _ _ _ _ _ _ operation' activity' _ _ _ _ refines rfl
    refine ⟨after', ?_, unseen.trans view⟩
    simpa only [List.append_nil] using reached.append silent

/-- Both loops stop for the same reasons. -/
theorem trace_stops_iff (every : ∀ chosen, ∃ chosen', shown chosen' = chosen)
    (apart : Function.Injective levels.reason) {state : τ} {events : List ω}
    {program' : Program τ ω δ Unit} {program : Program σ ω ε Unit} {reason : ε} {after : σ}
    (start : Refines levels (fun _ _ => holds) (levels.own state) program' program) :
    (∃ after', Trace operation' activity' ⟨program', state⟩ events
        ⟨.stop (levels.reason reason), after'⟩ ∧ levels.view after' = after) ↔
      Trace operation activity ⟨program, levels.view state⟩ events ⟨.stop reason, after⟩ := by
  constructor
  · rintro ⟨after', run, rfl⟩
    obtain ⟨current, reached, refines⟩ := Trace.refines operations activities run start
    generalize fault : (.stop (levels.reason reason) : Program τ ω δ Unit) = pending at refines
    cases refines with
    | stop own reason' =>
        rw [Program.stop.injEq] at fault
        rw [apart fault]
        exact reached
    | done => cases fault
    | silent => cases fault
    | both => cases fault
  · intro run
    obtain ⟨last', reached, view, refines⟩ := Trace.refined operations activities every run start
    obtain ⟨after', silent, unseen⟩ :=
      @trace_to_stop _ _ _ _ _ _ _ _ _ operation' activity' _ _ _ _ _ refines rfl
    refine ⟨after', ?_, unseen.trans view⟩
    simpa only [List.append_nil] using reached.append silent

end

end Loop

end TunVideo
