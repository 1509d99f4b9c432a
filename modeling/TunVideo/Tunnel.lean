import TunVideo.Node
import TunVideo.ReadLoop
import TunVideo.StepHistory

set_option autoImplicit false

namespace TunVideo.Tunnel

open Program ReadLoop

inductive End where
  | near
  | far
  deriving DecidableEq

def End.other : End → End
  | near => far
  | far => near

/-- The memories of the two programs, and what is on its way to the socket of each. -/
structure Pair (σ : Type) where
  memory : End → σ
  flight : End → List (List UInt8)

/-- A read of one of the two programs, or what the network does. A datagram that the socket
refuses to send is lost at once. -/
inductive Action where
  | enter (place : End) (received : Received)
  | leave (place : End) (datagram : List UInt8)
  | fail (place : End)
  | lose (place : End) (datagram : List UInt8)
  | duplicate (place : End) (datagram : List UInt8)

namespace Action

def input : Action → Option (End × Side × Received)
  | enter place received => some (place, .tun, received)
  | leave place datagram => some (place, .socket, .packet datagram)
  | fail place => some (place, .socket, .failed)
  | lose _ _ => none
  | duplicate _ _ => none

/-- The datagrams that the network must hold for this. -/
def held : Action → End → List (List UInt8)
  | leave place datagram, receiver => if place = receiver then [datagram] else []
  | lose place datagram, receiver => if place = receiver then [datagram] else []
  | duplicate place datagram, receiver => if place = receiver then [datagram] else []
  | enter _ _, _ => []
  | fail _, _ => []

def lost : Action → End → List (List UInt8)
  | lose place datagram, receiver => if place = receiver then [datagram] else []
  | _, _ => []

def copied : Action → End → List (List UInt8)
  | duplicate place datagram, receiver => if place = receiver then [datagram] else []
  | _, _ => []

def entered : Action → End → List Received
  | enter place received, reader => if place = reader then [received] else []
  | _, _ => []

end Action

variable {σ ε : Type} (body : Side × Received → Program σ Written ε Unit)

def Pair.shown (pair : Pair σ) (action : Action) (place : End) : List Written :=
  match action.input with
  | none => []
  | some (reader, input) =>
      if reader = place then ((body input).run (pair.memory place)).events else []

def Pair.writes (pair : Pair σ) (action : Action) (place : End) (side : Side) :
    List (List UInt8) :=
  ((pair.shown body action place).filter (·.side = side)).map Written.payload

def Pair.after (pair : Pair σ) (action : Action) : Pair σ where
  memory := match action.input with
    | none => pair.memory
    | some (reader, input) =>
        Function.update pair.memory reader ((body input).run (pair.memory reader)).state
  flight receiver :=
    (pair.flight receiver).diff (action.held receiver) ++
      (action.copied receiver ++ action.copied receiver) ++
      pair.writes body action receiver.other .socket

/-- What is written for a packet from the device that meets a condition: what is forwarded, to the
socket. A datagram that has been forwarded is written to the device as it is. -/
structure Forwards (good : Received → Prop) (forwarded : Received → List (List UInt8)) : Prop where
  enters : ∀ state received, good received →
    ((body (.tun, received)).run state).events =
      (forwarded received).map fun payload => ⟨.socket, payload⟩
  leaves : ∀ state payload, forwarded (.packet payload) = [payload] →
    ((body (.socket, .packet payload)).run state).events = [⟨.tun, payload⟩]
  fails : ∀ state, ((body (.socket, .failed)).run state).events = []
  stable : ∀ received, ∀ payload ∈ forwarded received, forwarded (.packet payload) = [payload]

/-- The network delivers, loses and duplicates only what is on its way, in any order. -/
structure Step (good : Received → Prop) (pair : Pair σ) (action : Action) (next : Pair σ) :
    Prop where
  held : ∀ receiver, ∀ datagram ∈ action.held receiver, datagram ∈ pair.flight receiver
  met : ∀ reader, ∀ received ∈ action.entered reader, good received
  same : pair.after body action = next

section

variable (history : List (Pair σ × Action))

def delivered (place : End) : List (List UInt8) :=
  history.flatMap fun visited => visited.1.writes body visited.2 place .tun

def sent (forwarded : Received → List (List UInt8)) (place : End) : List (List UInt8) :=
  (history.flatMap fun visited => visited.2.entered place).flatMap forwarded

def lost (place : End) : List (List UInt8) := history.flatMap fun visited => visited.2.lost place

def copied (place : End) : List (List UInt8) :=
  history.flatMap fun visited => visited.2.copied place

/-- The books of a tunnel: each packet has been delivered, is on its way or was lost as often as
it was sent at the other end or duplicated. No other packet is delivered, or on its way. -/
structure Accounts (forwarded : Received → List (List UInt8)) (last : Pair σ) : Prop where
  balance : ∀ place packet, (delivered body history place).count packet +
      (last.flight place).count packet + (lost history place).count packet =
    (sent history forwarded place.other).count packet + (copied history place).count packet
  genuine : ∀ place, ∀ packet ∈ delivered body history place ++ last.flight place,
    packet ∈ sent history forwarded place.other

end

variable {body} {good : Received → Prop} {forwarded : Received → List (List UInt8)}
  {pair : Pair σ}

/-- A program writes for its own reads only. -/
theorem writes_eq {action : Action} {reader : End} {input : Side × Received} {target : Side}
    {payloads : List (List UInt8)} (reads : action.input = some (reader, input))
    (events : ((body input).run (pair.memory reader)).events =
      payloads.map fun payload => ⟨target, payload⟩) (place : End) (side : Side) :
    pair.writes body action place side =
      if reader = place ∧ target = side then payloads else [] := by
  rw [Pair.writes, Pair.shown, reads]
  dsimp only
  by_cases own : reader = place
  · subst own
    rw [if_pos rfl, events, List.filter_map, List.map_map]
    by_cases same : target = side
    · have all : payloads.filter ((fun written : Written => decide (written.side = side)) ∘
          fun payload => ⟨target, payload⟩) = payloads :=
        List.filter_eq_self.mpr fun _ _ => decide_eq_true same
      rw [if_pos ⟨rfl, same⟩, all]
      exact List.map_id _
    · have none : payloads.filter ((fun written : Written => decide (written.side = side)) ∘
          fun payload => ⟨target, payload⟩) = [] :=
        List.filter_eq_nil_iff.mpr fun _ _ shown => same (of_decide_eq_true shown)
      rw [if_neg fun both => same both.2, none]
      rfl
  · rw [if_neg own, if_neg fun both => own both.1]
    rfl

theorem silent_writes {action : Action} (idle : action.input = none) (place : End) (side : Side) :
    pair.writes body action place side = [] := by
  rw [Pair.writes, Pair.shown, idle]
  rfl

/-- What one step adds to the books. -/
structure Entries (body : Side × Received → Program σ Written ε Unit)
    (forwarded : Received → List (List UInt8)) (pair : Pair σ) (action : Action) (next : Pair σ)
    (place : End) : Prop where
  balance : ∀ packet, (pair.writes body action place .tun).count packet +
      (next.flight place).count packet + (action.lost place).count packet =
    (pair.flight place).count packet +
      ((action.entered place.other).flatMap forwarded).count packet +
      (action.copied place).count packet
  genuine : ∀ packet ∈ pair.writes body action place .tun ++ next.flight place,
    packet ∈ pair.flight place ∨ packet ∈ (action.entered place.other).flatMap forwarded

theorem held_nodup (action : Action) (place : End) : (action.held place).Nodup := by
  have single (test : Prop) [Decidable test] (datagram : List UInt8) :
      (if test then [datagram] else []).Nodup := by
    split
    · exact List.nodup_singleton datagram
    · exact List.nodup_nil
  cases action with
  | enter => exact List.nodup_nil
  | leave reader datagram => exact single _ datagram
  | fail => exact List.nodup_nil
  | lose receiver datagram => exact single _ datagram
  | duplicate receiver datagram => exact single _ datagram

/-- What the network gives away is delivered, lost or duplicated, and what it gets is what a
program has read from its device. -/
theorem step_moves (forwards : Forwards body good forwarded) {action : Action} {next : Pair σ}
    (step : Step body good pair action next)
    (steady : ∀ place, ∀ datagram ∈ pair.flight place, forwarded (.packet datagram) = [datagram])
    (place : End) :
    pair.writes body action place .tun ++ action.lost place ++ action.copied place =
        action.held place ∧
      pair.writes body action place.other .socket =
        (action.entered place.other).flatMap forwarded := by
  cases action with
  | enter reader received =>
      have given : received ∈ (Action.enter reader received).entered reader := by
        rw [Action.entered, if_pos rfl]
        exact List.mem_singleton_self received
      have writes := @writes_eq _ _ body pair (.enter reader received) _ _ _ _ rfl
        (forwards.enters (pair.memory reader) received (step.met reader received given))
      constructor
      · rw [writes, if_neg fun both => nomatch both.2]
        rfl
      · rw [writes]
        change _ = (if reader = place.other then [received] else []).flatMap forwarded
        by_cases own : reader = place.other
        · rw [if_pos ⟨own, rfl⟩, if_pos own, List.flatMap_singleton]
        · rw [if_neg fun both => own both.1, if_neg own, List.flatMap_nil]
  | leave reader datagram =>
      have given : datagram ∈ (Action.leave reader datagram).held reader := by
        rw [Action.held, if_pos rfl]
        exact List.mem_singleton_self datagram
      have whole := steady reader datagram (step.held reader datagram given)
      have writes := @writes_eq _ _ body pair (.leave reader datagram) _ _ .tun [datagram] rfl
        (forwards.leaves (pair.memory reader) datagram whole)
      constructor
      · change pair.writes body (.leave reader datagram) place .tun ++ [] ++ [] =
          if reader = place then [datagram] else []
        rw [writes, List.append_nil, List.append_nil]
        simp only [and_true]
      · rw [writes, if_neg fun both => nomatch both.2]
        rfl
  | fail reader =>
      have writes := @writes_eq _ _ body pair (.fail reader) _ _ .tun [] rfl
        (forwards.fails (pair.memory reader))
      rw [writes, writes, ite_self, ite_self]
      exact ⟨rfl, rfl⟩
  | lose receiver datagram =>
      rw [silent_writes rfl, silent_writes rfl]
      exact ⟨List.append_nil _, rfl⟩
  | duplicate receiver datagram =>
      rw [silent_writes rfl, silent_writes rfl]
      exact ⟨rfl, rfl⟩

theorem step_entries (forwards : Forwards body good forwarded) {action : Action}
    {next : Pair σ} (step : Step body good pair action next)
    (steady : ∀ place, ∀ datagram ∈ pair.flight place, forwarded (.packet datagram) = [datagram])
    (place : End) : Entries body forwarded pair action next place := by
  obtain ⟨given, gained⟩ := step_moves forwards step steady place
  have flight : next.flight place = (pair.flight place).diff (action.held place) ++
      (action.copied place ++ action.copied place) ++
        (action.entered place.other).flatMap forwarded := by
    rw [← gained, ← step.same]
    rfl
  have within : action.held place ⊆ pair.flight place := step.held place
  constructor
  · intro packet
    have few := (List.subperm_of_subset (held_nodup action place) within).count_le packet
    have parts := congrArg (List.count packet) given
    rw [List.count_append, List.count_append] at parts
    rw [flight, List.count_append, List.count_append, List.count_append, List.count_diff]
    omega
  · intro packet member
    have taken (part : packet ∈ pair.writes body action place .tun ∨ packet ∈ action.copied place) :
        packet ∈ pair.flight place := by
      apply within
      rw [← given, List.append_assoc]
      rcases part with written | doubled
      · exact List.mem_append_left _ written
      · exact List.mem_append_right _ (List.mem_append_right _ doubled)
    rw [flight] at member
    rcases List.mem_append.mp member with written | rest
    · exact Or.inl (taken (Or.inl written))
    · rcases List.mem_append.mp rest with old | new
      · rcases List.mem_append.mp old with left | doubled
        · exact Or.inl (List.diff_subset _ _ left)
        · exact Or.inl (taken (Or.inr ((List.mem_append.mp doubled).elim id id)))
      · exact Or.inr new

/-- A step keeps the books right. -/
theorem Accounts.next (forwards : Forwards body good forwarded) {before after : Pair σ}
    {action : Action} {earlier : List (Pair σ × Action)}
    (books : Accounts body earlier forwarded before)
    (step : Step body good before action after) :
    Accounts body (earlier ++ [(before, action)]) forwarded after := by
  have steady (place : End) : ∀ datagram ∈ before.flight place,
      forwarded (.packet datagram) = [datagram] := by
    intro datagram member
    obtain ⟨received, -, passed⟩ :=
      List.mem_flatMap.mp (books.genuine place datagram (List.mem_append_right _ member))
    exact forwards.stable received datagram passed
  have entries := step_entries forwards step steady
  have sentSo (place : End) : sent (earlier ++ [(before, action)]) forwarded place =
      sent earlier forwarded place ++ (action.entered place).flatMap forwarded := by
    rw [sent, List.flatMap_append, List.flatMap_append, List.flatMap_singleton]
    rfl
  have deliveredSo (place : End) : delivered body (earlier ++ [(before, action)]) place =
      delivered body earlier place ++ before.writes body action place .tun := by
    rw [delivered, List.flatMap_append, List.flatMap_singleton]
    rfl
  constructor
  · intro place packet
    have earlierBalance := books.balance place packet
    have balance := (entries place).balance packet
    rw [sentSo, deliveredSo, lost, copied, List.flatMap_append, List.flatMap_append,
      List.flatMap_singleton, List.flatMap_singleton]
    simp only [List.count_append]
    rw [lost, copied] at earlierBalance
    omega
  · intro place packet member
    have known (old : packet ∈ delivered body earlier place ++ before.flight place) :
        packet ∈ sent earlier forwarded place.other := books.genuine place packet old
    rw [deliveredSo, List.append_assoc] at member
    rw [sentSo]
    rcases List.mem_append.mp member with old | new
    · exact List.mem_append_left _ (known (List.mem_append_left _ old))
    · rcases (entries place).genuine packet new with held | fresh
      · exact List.mem_append_left _ (known (List.mem_append_right _ held))
      · exact List.mem_append_right _ fresh

/-- However the two programs and the network take turns, the books are right. -/
theorem accounts (forwards : Forwards body good forwarded) {memory : End → σ} {last : Pair σ}
    {history : List (Pair σ × Action)}
    (run : History (Step body good) ⟨memory, fun _ => []⟩ history last) :
    Accounts body history forwarded last := by
  have opened : Accounts body [] forwarded ⟨memory, fun _ => []⟩ := by
    constructor
    · intro place packet
      rfl
    · intro place packet member
      cases member
  exact @History.along _ _ _ _ _ _ (fun past state => Accounts body past forwarded state) run
    opened fun _ _ _ _ books step => books.next forwards step

def Action.reads (action : Action) (place : End) : List (Side × Received) :=
  match action.input with
  | none => []
  | some (reader, input) => if reader = place then [input] else []

theorem step_loop (completes : ∀ input state, ((body input).run state).result = .ok ())
    {action : Action} {next : Pair σ} (step : Step body good pair action next) (place : End) :
    (loop body (action.reads place)).run (pair.memory place) =
      ⟨.ok (), next.memory place, pair.shown body action place⟩ := by
  rw [← step.same, Action.reads, Pair.shown, Pair.after]
  cases reads : action.input with
  | none => rfl
  | some read =>
      obtain ⟨reader, input⟩ := read
      dsimp only
      by_cases own : reader = place
      · subst own
        rw [if_pos rfl, if_pos rfl, Function.update_self, loop_single, ← completes input]
      · rw [if_neg own, if_neg own, Function.update_of_ne (Ne.symm own)]
        rfl

/-- Each end runs the loop over its own reads. -/
theorem run_loop (completes : ∀ input state, ((body input).run state).result = .ok ())
    {first last : Pair σ} {history : List (Pair σ × Action)}
    (run : History (Step body good) first history last) (place : End) :
    (loop body (history.flatMap fun visited => visited.2.reads place)).run (first.memory place) =
      ⟨.ok (), last.memory place,
        history.flatMap fun visited => visited.1.shown body visited.2 place⟩ := by
  induction run with
  | start => rfl
  | next run action step ih =>
      rw [List.flatMap_append, List.flatMap_singleton, loop_append, run_bind, ih,
        Outcome.bind_ok, step_loop completes step, Outcome.after_mk, List.flatMap_append,
        List.flatMap_singleton]

def single (read : Side × Received) : Ready Received :=
  match read with
  | (.tun, received) => ⟨some received, none⟩
  | (.socket, received) => ⟨none, some received⟩

theorem single_reads (inputs : List (Side × Received)) :
    (inputs.map single).flatMap Ready.reads = inputs := by
  induction inputs with
  | nil => rfl
  | cons input rest ih =>
      have alone : (single input).reads = [input] := by
        obtain ⟨side, received⟩ := input
        cases side <;> rfl
      rw [List.map_cons, List.flatMap_cons, alone, ih]
      rfl

/-- Each end runs the main loop, in some rounds. -/
theorem run_mainLoop (completes : ∀ input state, ((body input).run state).result = .ok ())
    {first last : Pair σ} {history : List (Pair σ × Action)}
    (run : History (Step body good) first history last) (place : End) :
    ∃ rounds, ((mainLoop body rounds).run (first.memory place)).events =
      history.flatMap fun visited => visited.1.shown body visited.2 place := by
  refine ⟨(history.flatMap fun visited => visited.2.reads place).map single, ?_⟩
  rw [mainLoop, loop_flatMap round_reads, single_reads, run_loop completes run]

end TunVideo.Tunnel
