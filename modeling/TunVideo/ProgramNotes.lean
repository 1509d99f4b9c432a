import TunVideo.Program

set_option autoImplicit false

/- Programs that take notes on the side. Without the notes an annotated program does what the
program that it annotates does. -/
namespace TunVideo

namespace Outcome

variable {σ κ ω ε α β : Type}

def visible (outcome : Outcome σ (κ ⊕ ω) ε α) : Outcome σ ω ε α :=
  ⟨outcome.result, outcome.state, outcome.events.filterMap Sum.getRight?⟩

def notes (outcome : Outcome σ (κ ⊕ ω) ε α) : List κ :=
  outcome.events.filterMap Sum.getLeft?

theorem visible_after (earlier : List (κ ⊕ ω)) (outcome : Outcome σ (κ ⊕ ω) ε α) :
    (outcome.after earlier).visible =
      outcome.visible.after (earlier.filterMap Sum.getRight?) := by
  simp only [visible, after, List.filterMap_append]

theorem notes_after (earlier : List (κ ⊕ ω)) (outcome : Outcome σ (κ ⊕ ω) ε α) :
    (outcome.after earlier).notes = earlier.filterMap Sum.getLeft? ++ outcome.notes := by
  simp only [notes, after, List.filterMap_append]

theorem visible_bind (outcome : Outcome σ (κ ⊕ ω) ε α)
    (next : α → σ → Outcome σ (κ ⊕ ω) ε β) :
    (outcome.bind next).visible =
      outcome.visible.bind fun value state => (next value state).visible := by
  obtain ⟨result, state, events⟩ := outcome
  cases result with
  | ok value => exact visible_after events (next value state)
  | error reason => rfl

end Outcome

namespace Program

variable {σ κ ω ε α β : Type}

def note (remark : κ) : Program σ (κ ⊕ ω) ε Unit :=
  perform fun state => (state, [.inl remark])

/-- The same program, with notes about each event before it. -/
def noting (about : ω → List κ) : Program σ ω ε α → Program σ (κ ⊕ ω) ε α
  | .done value => .done value
  | .stop reason => .stop reason
  | .step statement next =>
      .step
        (fun state => ((statement state).1,
          (statement state).2.flatMap fun event => (about event).map .inl ++ [.inr event]))
        fun state => (next state).noting about

def unnoted (program : Program σ ω ε α) : Program σ (κ ⊕ ω) ε α :=
  program.noting fun _ => []

@[simp] theorem run_note (remark : κ) (state : σ) :
    (note remark : Program σ (κ ⊕ ω) ε Unit).run state = ⟨.ok (), state, [.inl remark]⟩ :=
  run_perform _ _

theorem run_noting (about : ω → List κ) (program : Program σ ω ε α) (state : σ) :
    (program.noting about).run state =
      ⟨(program.run state).result, (program.run state).state,
        (program.run state).events.flatMap fun event =>
          (about event).map .inl ++ [.inr event]⟩ := by
  induction program generalizing state with
  | done value => rfl
  | stop reason => rfl
  | step statement next ih =>
      simp only [noting, run, ih, Outcome.after, List.flatMap_append]

@[simp] theorem run_unnoted (program : Program σ ω ε α) (state : σ) :
    (unnoted program : Program σ (κ ⊕ ω) ε α).run state =
      ⟨(program.run state).result, (program.run state).state,
        (program.run state).events.map .inr⟩ := by
  rw [unnoted, run_noting]
  congr 1
  exact List.map_eq_flatMap.symm

theorem visible_noting (about : ω → List κ) (program : Program σ ω ε α) (state : σ) :
    ((program.noting about).run state).visible = program.run state := by
  rw [run_noting, Outcome.visible]
  congr 1
  induction (program.run state).events with
  | nil => rfl
  | cons event rest ih => simp [ih]

theorem notes_noting (about : ω → List κ) (program : Program σ ω ε α) (state : σ) :
    ((program.noting about).run state).notes = (program.run state).events.flatMap about := by
  rw [run_noting, Outcome.notes]
  dsimp only
  induction (program.run state).events with
  | nil => rfl
  | cons event rest ih =>
      have told : ((about event).map (Sum.inl : κ → κ ⊕ ω)).filterMap Sum.getLeft? =
          about event := by
        rw [List.filterMap_map]
        exact List.filterMap_some
      rw [List.flatMap_cons, List.flatMap_cons, List.filterMap_append, List.filterMap_append,
        told, ih]
      simp

/-- Up to its notes, the first program does what the second does. -/
def Annotates (noted : Program σ (κ ⊕ ω) ε α) (program : Program σ ω ε α) : Prop :=
  ∀ state, (noted.run state).visible = program.run state

theorem Annotates.noting (about : ω → List κ) (program : Program σ ω ε α) :
    (program.noting about).Annotates program :=
  visible_noting about program

theorem Annotates.unnoted (program : Program σ ω ε α) :
    (Program.unnoted program : Program σ (κ ⊕ ω) ε α).Annotates program :=
  visible_noting _ program

theorem Annotates.pure (value : α) :
    (Pure.pure value : Program σ (κ ⊕ ω) ε α).Annotates (Pure.pure value) :=
  fun _ => rfl

theorem Annotates.bind {noted : Program σ (κ ⊕ ω) ε α} {program : Program σ ω ε α}
    {notedNext : α → Program σ (κ ⊕ ω) ε β} {next : α → Program σ ω ε β}
    (head : noted.Annotates program) (tail : ∀ value, (notedNext value).Annotates (next value)) :
    (noted >>= notedNext).Annotates (program >>= next) := by
  intro state
  rw [run_bind, run_bind, Outcome.visible_bind, head state]
  congr 1
  funext value middle
  exact tail value middle

theorem Annotates.note {remark : κ} {next : Unit → Program σ (κ ⊕ ω) ε α}
    {program : Program σ ω ε α} (tail : (next ()).Annotates program) :
    (Program.note remark >>= next).Annotates program := by
  intro state
  rw [run_bind, run_note, Outcome.bind_ok, Outcome.visible_after]
  exact tail state

theorem Annotates.ite {condition : Prop} [Decidable condition]
    {first second : Program σ (κ ⊕ ω) ε α} {yes no : Program σ ω ε α}
    (head : first.Annotates yes) (tail : second.Annotates no) :
    (if condition then first else second).Annotates (if condition then yes else no) := by
  split
  · exact head
  · exact tail

end Program

end TunVideo
