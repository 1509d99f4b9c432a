import TunVideo.PortSeparation
import TunVideo.ReadLoop

set_option autoImplicit false

/- `schedule`: the order in which the main loop polls its three descriptors, and the loop that
starts its operations in any order. -/
namespace TunVideo

open Program

namespace Loop

variable {σ ω ε ι η : Type} {operation : ι → Program σ ω ε Unit}
  {activity : η → Program σ ω ε Unit}

/-- A program whose operations are fixed is never idle. -/
abbrev Fixed (activity : η → Program σ ω ε Unit) :=
  Trace (Empty.elim : Empty → Program σ ω ε Unit) activity

/-- What is left of a list of operations: one that is under way, and those behind it. -/
def UnderWay (operation : ι → Program σ ω ε Unit) (whole current : Program σ ω ε Unit) : Prop :=
  ∃ behind, whole = current >>= fun _ => ReadLoop.loop operation behind

/-- To reach the next statement of a list of operations, the idle loop starts them until one
has a statement. -/
theorem trace_to_step {first : Loop σ ω ε} {events : List ω} {state : σ}
    {statement : σ → σ × List ω} {next : σ → Program σ ω ε Unit} {behind : List ι}
    {current : Program σ ω ε Unit}
    (same : current >>= (fun _ => ReadLoop.loop operation behind) = .step statement next)
    (run : Trace operation activity first events ⟨current, state⟩) :
    ∃ rest, Trace operation activity first events ⟨.step statement rest, state⟩ ∧
      ∀ seen, UnderWay operation (next seen) (rest seen) := by
  induction behind generalizing current with
  | nil =>
      cases current with
      | done value => cases same
      | stop reason => cases same
      | step statement' rest =>
          cases same
          exact ⟨rest, run, fun seen => ⟨[], rfl⟩⟩
  | cons chosen behind ih =>
      cases current with
      | done value => exact ih same (by
          simpa only [List.append_nil] using run.next (.dispatch chosen state))
      | stop reason => cases same
      | step statement' rest =>
          cases same
          exact ⟨rest, run, fun seen => ⟨chosen :: behind, rfl⟩⟩

/-- A list of operations is simulated by a loop that may start any of them. -/
theorem Trace.of_fixed {start : Program σ ω ε Unit} {initial : σ} {events : List ω}
    {last : Loop σ ω ε} {operations : List ι}
    (run : Fixed activity ⟨start >>= fun _ => ReadLoop.loop operation operations, initial⟩
      events last) :
    ∃ current, UnderWay operation last.pending current ∧
      Trace operation activity ⟨start, initial⟩ events ⟨current, last.state⟩ := by
  generalize held : (⟨start >>= fun _ => ReadLoop.loop operation operations, initial⟩ :
    Loop σ ω ε) = first at run
  induction run with
  | start =>
      subst held
      exact ⟨start, ⟨operations, rfl⟩, .start _⟩
  | next _ step ih =>
      obtain ⟨current, ⟨behind, same⟩, front⟩ := ih
      cases step with
      | dispatch chosen => exact chosen.elim
      | statement statement next state =>
          obtain ⟨rest, reached, under⟩ := trace_to_step same.symm front
          exact ⟨rest state, under state, reached.next (.statement statement rest state)⟩
      | interrupt chosen pending state completed =>
          exact ⟨current, ⟨behind, same⟩, front.next (.interrupt chosen current state completed)⟩

/-- What a loop that may start any operation has done, the list of those it has started does. -/
theorem Trace.to_fixed {start : Program σ ω ε Unit} {initial : σ} {events : List ω}
    {last : Loop σ ω ε} (run : Trace operation activity ⟨start, initial⟩ events last) :
    ∃ operations, ∀ behind,
      Fixed activity ⟨start >>= fun _ => ReadLoop.loop operation (operations ++ behind), initial⟩
        events ⟨last.pending >>= fun _ => ReadLoop.loop operation behind, last.state⟩ := by
  generalize held : (⟨start, initial⟩ : Loop σ ω ε) = first at run
  induction run with
  | start =>
      subst held
      exact ⟨[], fun behind => .start _⟩
  | next _ step ih =>
      obtain ⟨operations, front⟩ := ih
      cases step with
      | dispatch chosen state =>
          refine ⟨operations ++ [chosen], fun behind => ?_⟩
          have begun := front (chosen :: behind)
          rw [List.append_assoc, List.append_nil]
          exact begun
      | statement statement next state =>
          exact ⟨operations, fun behind => (front behind).next (.statement statement _ state)⟩
      | interrupt chosen pending state completed =>
          exact ⟨operations, fun behind =>
            (front behind).next (.interrupt chosen _ state completed)⟩

end Loop

section

variable {F D : Type}

/-- What the three descriptors bring when `select` finds them readable. -/
structure Readable (D : Type) where
  tun : Option (Received × Bool)
  beacon : Option (Timeval × UInt32 × Received)
  data : Option (Readings D × Received × Bool)

/-- What `select` returns at once, with its time limit of zero. -/
inductive Selected (D : Type) where
  | failed
  | found (readable : Readable D)

variable [DoublePrecision D] [SinglePrecision F D]

def scheduleRound (host : Host F D) : Selected D → Procedure F D Unit
  | .failed => pure ()
  | .found readable => do
      match readable.tun with
      | some (received, sendFails) => recvTun host received sendFails
      | none => pure ()
      match readable.beacon with
      | some (now, fromAddr, received) => recvBeacon host now fromAddr received
      | none => pure ()
      match readable.data with
      | some (readings, received, writeFails) => recvData host readings received writeFails
      | none => pure ()

/-- `begin_time = tv.tv_sec` -/
def setBeginTime (tv : Timeval) : Procedure F D Unit :=
  modify fun ir => { ir with beginTime := tv.tvSec }

/-- `schedule`, for as many rounds as it is watched. -/
def schedule (host : Host F D) (tv : Timeval) (rounds : List (Selected D)) : Procedure F D Unit :=
  setBeginTime tv >>= fun _ => ReadLoop.loop (scheduleRound host) rounds

/-- The operations of a round, in the order in which the descriptors are tested. -/
def Selected.operations : Selected D → List (Operation D)
  | .failed => []
  | .found readable =>
      (readable.tun.map fun read => Operation.recvTun read.1 read.2).toList ++
        (readable.beacon.map fun read => Operation.recvBeacon read.1 read.2.1 read.2.2).toList ++
        (readable.data.map fun read => Operation.recvData read.1 read.2.1 read.2.2).toList

def Selected.only : Operation D → Selected D
  | .recvTun received sendFails => .found ⟨some (received, sendFails), none, none⟩
  | .recvBeacon now fromAddr received => .found ⟨none, some (now, fromAddr, received), none⟩
  | .recvData readings received writeFails =>
      .found ⟨none, none, some (readings, received, writeFails)⟩

omit [DoublePrecision D] in
theorem Selected.operations_only (operations : List (Operation D)) :
    (operations.map Selected.only).flatMap Selected.operations = operations := by
  induction operations with
  | nil => rfl
  | cons operation rest ih =>
      rw [List.map_cons, List.flatMap_cons, ih]
      cases operation <;> rfl

/-- What is done for one descriptor. -/
theorem loop_optional {α : Type} (host : Host F D) (found : Option α) (chosen : α → Operation D) :
    ReadLoop.loop (Operation.procedure host) (found.map chosen).toList =
      match found with
      | some input => (chosen input).procedure host
      | none => pure () := by
  cases found with
  | none => rfl
  | some input => exact ReadLoop.loop_single (chosen input)

/-- A round is the list of its operations. -/
theorem scheduleRound_operations (host : Host F D) (selected : Selected D) :
    scheduleRound host selected = ReadLoop.loop (Operation.procedure host) selected.operations := by
  cases selected with
  | failed => rfl
  | found readable =>
      obtain ⟨tun, beacon, data⟩ := readable
      unfold Selected.operations
      rw [ReadLoop.loop_append, ReadLoop.loop_append, bind_assoc, loop_optional, loop_optional,
        loop_optional]
      cases tun <;> cases beacon <;> cases data <;> rfl

theorem schedule_operations (host : Host F D) (tv : Timeval) (rounds : List (Selected D)) :
    schedule host tv rounds = setBeginTime tv >>= fun _ =>
      ReadLoop.loop (Operation.procedure host) (rounds.flatMap Selected.operations) := by
  rw [schedule, ReadLoop.loop_flatMap (scheduleRound_operations host)]

abbrev ScheduleTrace (host : Host F D) :=
  Loop.Fixed (Activity.procedure (F := F) (D := D) host)

/-- `schedule` polls in a fixed order, and for every order of operations there are rounds that
poll them so: with signals and fixes between any two statements, the events and the states of
its runs are exactly those of a loop that may start any operation next. -/
theorem schedule_refines_iff {host : Host F D} {tv : Timeval} {ir after : IR F D}
    {events : List (Event F)} :
    (∃ rounds, ScheduleTrace host ⟨schedule host tv rounds, ir⟩ events ⟨.done (), after⟩) ↔
      NodeTrace host ⟨setBeginTime tv, ir⟩ events ⟨.done (), after⟩ := by
  constructor
  · rintro ⟨rounds, run⟩
    rw [schedule_operations] at run
    obtain ⟨current, ⟨behind, same⟩, reached⟩ := Loop.Trace.of_fixed run
    cases current with
    | done value => exact reached
    | stop reason => cases same
    | step statement next => cases same
  · intro run
    obtain ⟨operations, fixed⟩ := Loop.Trace.to_fixed run
    refine ⟨operations.map Selected.only, ?_⟩
    have whole := fixed []
    rw [List.append_nil] at whole
    rw [schedule_operations, Selected.operations_only]
    exact whole

end

end TunVideo
