import TunVideo.TaskClock

set_option autoImplicit false

namespace TunVideo

open Program

section

variable {F : Type}

/-- Every neighbour has a forward entry that is not older, and nothing is later than now. -/
structure TablesAgree (forward : ForwardTable F) (neighbor : NeighborTable F) (clock : Int) :
    Prop where
  included : ∀ (vip : UInt32) (entry : NeighborEntry F), neighbor[vip]? = some entry →
    ∃ route, forward[vip]? = some route ∧ entry.timestamp ≤ route.timestamp
  neighborPast : ∀ (vip : UInt32) (entry : NeighborEntry F), neighbor[vip]? = some entry →
    (entry.timestamp.toNat : Int) ≤ clock
  forwardPast : ∀ (vip : UInt32) (route : ForwardTableEntry F), forward[vip]? = some route →
    (route.timestamp.toNat : Int) ≤ clock

theorem TablesAgree.empty (clock : Int) :
    TablesAgree (∅ : ForwardTable F) (∅ : NeighborTable F) clock := by
  constructor <;> simp

variable {forward : ForwardTable F} {neighbor : NeighborTable F} {clock now : Int}

theorem TablesAgree.shrink {fewer : NeighborTable F} (agree : TablesAgree forward neighbor clock)
    (subset : ∀ (vip : UInt32) (entry : NeighborEntry F), fewer[vip]? = some entry →
      neighbor[vip]? = some entry) (later : clock ≤ now) : TablesAgree forward fewer now where
  included vip entry held := agree.included vip entry (subset vip entry held)
  neighborPast vip entry held :=
    (agree.neighborPast vip entry (subset vip entry held)).trans later
  forwardPast vip route held := (agree.forwardPast vip route held).trans later

theorem TablesAgree.refresh (agree : TablesAgree forward neighbor clock) (start : 0 ≤ clock)
    (later : clock ≤ now) (fits : now < 2 ^ 31) (dstIp nextHopId : UInt32) :
    TablesAgree (refreshed forward dstIp nextHopId (toInt32 now)) neighbor now := by
  have stamp := timestamp_toNat (start.trans later) fits
  have moved := agree.shrink (fun _ _ held => held) later
  constructor
  · intro vip entry held
    obtain ⟨route, listed, newer⟩ := moved.included vip entry held
    rw [getElem?_refreshed, listed]
    split
    · refine ⟨_, rfl, ?_⟩
      have past := moved.neighborPast vip entry held
      rw [UInt32.le_iff_toNat_le]
      dsimp only
      omega
    · exact ⟨route, rfl, newer⟩
  · exact moved.neighborPast
  · intro vip route held
    rw [getElem?_refreshed] at held
    split at held
    · obtain ⟨_, -, rfl⟩ := Option.map_eq_some_iff.mp held
      exact stamp.le
    · exact moved.forwardPast vip route held

variable {D : Type} [SinglePrecision F D]

/-- An entry that a beacon leaves was heard in the last five milliseconds, and so is the
forward entry beside it. -/
theorem TablesAgree.beacon (host : Host F D) (message : BeaconMessage)
    (agree : TablesAgree forward neighbor clock) (start : 0 ≤ clock) (later : clock ≤ now)
    (fits : now < 2 ^ 31) :
    TablesAgree (forwardAfter (toInt32 now) message forward)
      (neighborAfter host (toInt32 now) message neighbor) now := by
  have stamp := timestamp_toNat (start.trans later) fits
  have moved := agree.shrink (fun _ _ held => held) later
  constructor
  · intro vip entry held
    rcases neighborAfter_cases held with ⟨sender, rfl⟩ | ⟨other, before, fresh⟩
    · rw [sender, getElem?_forwardAfter_self]
      exact ⟨_, rfl, UInt32.le_refl _⟩
    · obtain ⟨route, listed, newer⟩ := moved.included vip entry before
      have past := moved.forwardPast vip route listed
      rw [olderThan_eq_false, age_of_range (moved.neighborPast vip entry before) fits] at fresh
      rw [UInt32.le_iff_toNat_le] at newer
      have kept : olderThan 5 (toInt32 now) route.timestamp = false := by
        rw [olderThan_eq_false, age_of_range past fits]
        omega
      refine ⟨route, ?_, UInt32.le_iff_toNat_le.mpr newer⟩
      rw [getElem?_forwardAfter_other _ _ _ other]
      exact MapSweep.getElem?_sweep_eq_some.mpr ⟨listed, kept⟩
  · intro vip entry held
    rcases neighborAfter_cases held with ⟨-, rfl⟩ | ⟨-, before, -⟩
    · exact stamp.le
    · exact moved.neighborPast vip entry before
  · intro vip route held
    rcases forwardAfter_cases held with ⟨-, rfl⟩ | ⟨-, before, -⟩
    · exact stamp.le
    · exact moved.forwardPast vip route before

end

section

variable {F D : Type}

/-- The tables of a state agree at its clock. -/
structure Agrees (visited : IR F D × Int) : Prop where
  start : 0 ≤ visited.2
  tables : TablesAgree visited.1.forwardTable visited.1.neighborTable visited.2

/-- Only what `routing` shows of a state counts. -/
theorem Agrees.of_routing {ir after : IR F D} {clock : Int} (start : 0 ≤ clock)
    {forward : ForwardTable F} {neighbor : NeighborTable F}
    (agree : TablesAgree forward neighbor clock)
    (same : after.routing =
      { ir.routing with forwardTable := forward, neighborTable := neighbor }) :
    Agrees (after, clock) := by
  have forwardSame : after.forwardTable = forward := congrArg RoutingState.forwardTable same
  have neighborSame : after.neighborTable = neighbor := congrArg RoutingState.neighborTable same
  refine ⟨start, ?_⟩
  rw [forwardSame, neighborSame]
  exact agree

theorem purgedRouting_agrees {ir after : IR F D} {clock : Int} (agrees : Agrees (ir, clock))
    {now : Timeval} (later : clock ≤ millis ir.beginTime now)
    (same : after.routing = purgedRouting now ir) : Agrees (after, millis ir.beginTime now) := by
  apply Agrees.of_routing (agrees.start.trans later) (agrees.tables.shrink _ later) same
  intro vip entry held
  exact (MapSweep.getElem?_sweep_eq_some.mp held).1

end

section

variable {F D : Type} [DoublePrecision D] [SinglePrecision F D] {host : Host F D}

theorem relay_agrees {ir after : IR F D} {clock now : Int} (agrees : Agrees (ir, clock))
    {readings : Readings D} {dstIp : UInt32} {dstGps : GPS F}
    (tables : ForwardingTables host readings ir dstIp dstGps after.routing)
    (later : clock ≤ millis ir.beginTime readings.forwarding)
    (last : millis ir.beginTime readings.forwarding ≤ now) (fits : now < 2 ^ 31) :
    Agrees (after, now) := by
  refine ⟨(agrees.start.trans later).trans last, ?_⟩
  rcases tables.forward with same | ⟨nextHopId, same, -⟩
  · have same : after.forwardTable = ir.forwardTable := same
    rw [same]
    exact agrees.tables.shrink tables.neighbor (later.trans last)
  · have same : after.forwardTable = refreshed ir.forwardTable dstIp nextHopId _ := same
    rw [same]
    have refreshed := agrees.tables.refresh agrees.start later (last.trans_lt fits) dstIp nextHopId
    exact refreshed.shrink tables.neighbor last

theorem nodeStep_agrees {ir after : IR F D} {clock now : Int}
    {chosen : Operation D ⊕ Activity F D} (agrees : Agrees (ir, clock))
    (step : ClockedStep host (ir, clock) (.node chosen) (after, now)) (fits : now < 2 ^ 31) :
    Agrees (after, now) := by
  have later := step.later
  have reading {taken : Timeval} (member : taken ∈ (Task.node chosen : Task F D).readings) :=
    step.reading member
  have reached := step.clock
  have routing := stepProcedure_routing host ir chosen
  have same : ((stepProcedure host chosen).run ir).state = after := step.same
  rw [same] at routing
  dsimp only at later reading reached
  generalize tables : after.routing = routed at routing
  cases routing with
  | kept =>
      exact .of_routing (agrees.start.trans later)
        (agrees.tables.shrink (fun _ _ held => held) later) tables
  | heard taken fromAddr received foreign =>
      subst reached
      exact .of_routing (agrees.start.trans later)
        (agrees.tables.beacon host (beaconIn host ir received) agrees.start later fits) tables
  | relayed readings received writeFails relayed forwarded =>
      have bounds := reading List.mem_cons_self
      rw [← tables] at forwarded
      exact relay_agrees agrees forwarded bounds.1 bounds.2 fits

theorem clockedStep_agrees {before after : IR F D × Int} {task : Task F D}
    (step : ClockedStep host before task after) (fits : after.2 < 2 ^ 31)
    (agrees : Agrees before) : Agrees after := by
  obtain ⟨ir, clock⟩ := before
  obtain ⟨last, now⟩ := after
  have later := step.later
  have reached := step.clock
  have same := step.same
  dsimp only at later reached same fits
  cases task with
  | node chosen => exact nodeStep_agrees agrees step fits
  | routeMakeup reading gaussrand dstGps =>
      subst reached same
      exact purgedRouting_agrees agrees later (routeMakeup_routing step.completed)
  | calNexHop reading dstGps =>
      subst reached same
      exact purgedRouting_agrees agrees later calNexHop_routing
  | isLegal reading nghbrIp dstGps =>
      subst reached same
      apply Agrees.of_routing (agrees.start.trans later) (agrees.tables.shrink _ later)
        isLegal_routing
      intro vip entry held
      exact legalTable_subset held

/-- The tables of a node agree in every run whose clock stays in the range of an `int`. A
beacon that comes next leaves the forward entries of all neighbours that it leaves. -/
theorem run_tablesAgree (run : ClockedRun host) (fits : run.clock < 2 ^ 31) :
    TablesAgree run.last.forwardTable run.last.neighborTable run.clock ∧
      ∀ now message (vip : UInt32) entry, run.clock ≤ millis run.last.beginTime now →
        millis run.last.beginTime now < 2 ^ 31 →
        ((buildNeighbor host now message).run run.last).state.neighborTable[vip]? = some entry →
        ((buildNeighbor host now message).run run.last).state.forwardTable[vip]? ≠ none := by
  have agrees : run.clock < 2 ^ 31 → Agrees (run.last, run.clock) := by
    have start : Agrees (run.initial, 0) := by
      refine ⟨le_refl _, ?_⟩
      dsimp only
      rw [run.start.forward, run.start.neighbor]
      exact .empty 0
    apply @History.invariant _ _ _ _ _ _ (fun visited => visited.2 < 2 ^ 31 → Agrees visited)
      (fun _ _ => True) run.steps (fun _ _ => trivial) fun _ => start
    intro before task after held _ step bounded
    exact clockedStep_agrees step bounded (held (step.later.trans_lt bounded))
  refine ⟨(agrees fits).tables, ?_⟩
  intro now message vip entry later bounded kept
  rw [buildNeighbor_run] at kept ⊢
  have tables := (agrees fits).tables.beacon host message (agrees fits).start later bounded
  obtain ⟨route, listed, -⟩ := tables.included vip entry kept
  rw [untilTime_eq, listed]
  exact Option.some_ne_none route

end

def hasHeard : ClockedRun Host.shortHistories :=
  (ClockedRun.atStart .shortHistories loneNode_initial).step
    (.node (.inl (.recvBeacon ⟨1, 0⟩ 0x0200A8C0
      (.packet (BeaconMessage.bytes .little ⟨0x0200000A, 0x0200A8C0, 1, 0, 0, 0⟩)))))
    (by decide) (recvBeacon_result _ _ _ _ _)

theorem hasHeard_tablesAgree :
    TablesAgree hasHeard.last.forwardTable hasHeard.last.neighborTable 1000 ∧
      ∀ now message (vip : UInt32) entry, 1000 ≤ millis hasHeard.last.beginTime now →
        millis hasHeard.last.beginTime now < 2 ^ 31 →
        ((buildNeighbor Host.shortHistories now message).run
          hasHeard.last).state.neighborTable[vip]? = some entry →
        ((buildNeighbor Host.shortHistories now message).run
          hasHeard.last).state.forwardTable[vip]? ≠ none :=
  run_tablesAgree hasHeard (by decide)

end TunVideo
