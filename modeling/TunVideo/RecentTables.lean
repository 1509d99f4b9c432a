import TunVideo.KeepAlive
import TunVideo.TableInvariant

set_option autoImplicit false

/- How recent the tables are. `build_neighbor` purges both with the literal 5, so each beacon
forgets whoever was heard more than five milliseconds before. -/
namespace TunVideo

open Program

section

variable {F D : Type}

/-- The beacons that a node has processed: their senders, and its readings for them. -/
def hearings (host : Host F D) (history : List ((IR F D × Int) × Task F D)) :
    List (UInt32 × Int) :=
  history.filterMap fun visited => beaconAt host visited.1.1 visited.2

/-- A neighbour was heard at its timestamp, and nobody has been heard more than five
milliseconds later. Forward entries may be refreshed besides. -/
structure Recent (heard : List (UInt32 × Int)) (visited : IR F D × Int) : Prop where
  past : ∀ hearing ∈ heard, hearing.2 ≤ visited.2
  heardAt : ∀ (vip : UInt32) (entry : NeighborEntry F),
    visited.1.neighborTable[vip]? = some entry → (vip, (entry.timestamp.toNat : Int)) ∈ heard
  neighbor : ∀ (vip : UInt32) (entry : NeighborEntry F),
    visited.1.neighborTable[vip]? = some entry →
    ∀ hearing ∈ heard, hearing.2 ≤ entry.timestamp.toNat + 5
  forward : ∀ (vip : UInt32) (route : ForwardTableEntry F),
    visited.1.forwardTable[vip]? = some route →
    ∀ hearing ∈ heard, hearing.2 ≤ route.timestamp.toNat + 5

/-- What a task without a beacon leaves of the tables: some of the neighbours, and the routes,
which it may have refreshed with a reading of its own. -/
structure Unstamped (readings : List Timeval) (ir : IR F D) (after : RoutingState F) : Prop where
  neighbor : ∀ (vip : UInt32) (entry : NeighborEntry F),
    after.neighborTable[vip]? = some entry → ir.neighborTable[vip]? = some entry
  forward : ∀ (vip : UInt32) (route : ForwardTableEntry F),
    after.forwardTable[vip]? = some route → ir.forwardTable[vip]? = some route ∨
      ∃ now ∈ readings, route.timestamp = UInt32.ofInt (untilTime ir.beginTime now)

/-- When beacons are processed more than five milliseconds apart, no two neighbours are known. -/
theorem Recent.oneNeighbor {heard : List (UInt32 × Int)} {visited : IR F D × Int}
    (recent : Recent heard visited)
    (apart : heard.Pairwise fun earlier later => earlier.2 + 5 < later.2)
    {vip other : UInt32} {entry another : NeighborEntry F}
    (held : visited.1.neighborTable[vip]? = some entry)
    (besides : visited.1.neighborTable[other]? = some another) : vip = other := by
  have first := recent.heardAt vip entry held
  have second := recent.heardAt other another besides
  by_contra differ
  have symmetric : Std.Symm fun a b : UInt32 × Int => a.2 + 5 < b.2 ∨ b.2 + 5 < a.2 :=
    ⟨fun _ _ => Or.symm⟩
  have gaps : heard.Pairwise fun a b => a.2 + 5 < b.2 ∨ b.2 + 5 < a.2 := apart.imp Or.inl
  have spaced := gaps.forall first second fun same => differ (congrArg Prod.fst same)
  have ahead := recent.neighbor vip entry held _ second
  have behind := recent.neighbor other another besides _ first
  dsimp only at spaced ahead behind
  omega

end

section

variable {F D : Type} [DoublePrecision D] [SinglePrecision F D] {host : Host F D}
  {before after : IR F D × Int} {task : Task F D} {heard : List (UInt32 × Int)}

theorem quietTask_tables (step : ClockedStep host before task after)
    (quiet : beaconAt host before.1 task = none) :
    Unstamped task.readings before.1 after.1.routing := by
  have completed := step.completed
  rw [← step.same]
  cases task with
  | node chosen =>
      have routing := stepProcedure_routing host before.1 chosen
      change Unstamped _ _ ((stepProcedure host chosen).run before.1).state.routing
      generalize ((stepProcedure host chosen).run before.1).state.routing = tables at routing ⊢
      cases routing with
      | kept => exact ⟨fun _ _ held => held, fun _ _ held => Or.inl held⟩
      | heard now fromAddr received foreign => simp [beaconAt, foreign] at quiet
      | relayed readings received writeFails relayed tables =>
          refine ⟨tables.neighbor, ?_⟩
          intro vip route held
          rcases tables.forward with same | ⟨nextHopId, same, -⟩
          · rw [same] at held
            exact Or.inl held
          · rw [same, getElem?_refreshed] at held
            split at held
            · obtain ⟨earlier, -, rfl⟩ := Option.map_eq_some_iff.mp held
              exact Or.inr ⟨readings.forwarding, List.mem_cons_self, rfl⟩
            · exact Or.inl held
  | routeMakeup now gaussrand dstGps =>
      rw [routeMakeup_routing completed]
      exact ⟨fun _ _ held => (MapSweep.getElem?_sweep_eq_some.mp held).1,
        fun _ _ held => Or.inl held⟩
  | calNexHop now dstGps =>
      rw [calNexHop_routing]
      exact ⟨fun _ _ held => (MapSweep.getElem?_sweep_eq_some.mp held).1,
        fun _ _ held => Or.inl held⟩
  | isLegal now nghbrIp dstGps =>
      rw [isLegal_routing]
      exact ⟨fun _ _ held => legalTable_subset held, fun _ _ held => Or.inl held⟩

theorem Recent.quiet (recent : Recent heard before) (start : 0 ≤ before.2)
    (step : ClockedStep host before task after) (fits : after.2 < 2 ^ 31)
    (quiet : beaconAt host before.1 task = none) : Recent heard after := by
  obtain ⟨neighbors, routes⟩ := quietTask_tables step quiet
  refine ⟨fun hearing member => (recent.past hearing member).trans step.later,
    fun vip entry held => recent.heardAt vip entry (neighbors vip entry held),
    fun vip entry held => recent.neighbor vip entry (neighbors vip entry held), ?_⟩
  intro vip route held hearing member
  rcases routes vip route held with listed | ⟨now, taken, stamped⟩
  · exact recent.forward vip route listed hearing member
  · have bounds := step.reading taken
    have stamp := timestamp_toNat (start.trans bounds.1) (bounds.2.trans_lt fits)
    have past := recent.past hearing member
    rw [stamped, untilTime_eq, stamp]
    omega

omit [DoublePrecision D] in
theorem Recent.beacon (recent : Recent heard before) (agrees : Agrees before) {now : Int}
    (later : before.2 ≤ now) (fits : now < 2 ^ 31) {message : BeaconMessage}
    (neighbors : after.1.neighborTable =
      neighborAfter host (toInt32 now) message before.1.neighborTable)
    (routes : after.1.forwardTable = forwardAfter (toInt32 now) message before.1.forwardTable)
    (clock : after.2 = now) : Recent (heard ++ [(message.virIp, now)]) after := by
  have stamp := timestamp_toNat (agrees.start.trans later) fits
  have past (hearing : UInt32 × Int) (member : hearing ∈ heard ++ [(message.virIp, now)]) :
      hearing.2 ≤ now := by
    rcases List.mem_append.mp member with earlier | new
    · exact (recent.past hearing earlier).trans later
    · rw [List.mem_singleton.mp new]
  -- an entry that the purge has left
  have young {timestamp : UInt32} (stored : (timestamp.toNat : Int) ≤ before.2)
      (fresh : olderThan 5 (toInt32 now) timestamp = false) : now ≤ timestamp.toNat + 5 := by
    rw [olderThan_eq_false, age_of_range (stored.trans later) fits] at fresh
    omega
  refine ⟨fun hearing member => clock ▸ past hearing member, ?_, ?_, ?_⟩
  · intro vip entry held
    rw [neighbors] at held
    rcases neighborAfter_cases held with ⟨rfl, rfl⟩ | ⟨-, listed, -⟩
    · refine List.mem_append_right _ (List.mem_singleton.mpr ?_)
      exact Prod.ext rfl stamp
    · exact List.mem_append_left _ (recent.heardAt vip entry listed)
  · intro vip entry held hearing member
    have soon := past hearing member
    rw [neighbors] at held
    rcases neighborAfter_cases held with ⟨-, rfl⟩ | ⟨-, listed, fresh⟩
    · change hearing.2 ≤ ((UInt32.ofInt (toInt32 now)).toNat : Int) + 5
      omega
    · exact soon.trans (young (agrees.tables.neighborPast vip entry listed) fresh)
  · intro vip route held hearing member
    have soon := past hearing member
    rw [routes] at held
    rcases forwardAfter_cases held with ⟨-, rfl⟩ | ⟨-, listed, fresh⟩
    · dsimp only
      omega
    · exact soon.trans (young (agrees.tables.forwardPast vip route listed) fresh)

theorem beaconTask_tables (step : ClockedStep host before task after) {sender : UInt32} {now : Int}
    (heard : beaconAt host before.1 task = some (sender, now)) :
    ∃ message : BeaconMessage, message.virIp = sender ∧ before.2 ≤ now ∧ after.2 = now ∧
      after.1.neighborTable =
        neighborAfter host (toInt32 now) message before.1.neighborTable ∧
      after.1.forwardTable = forwardAfter (toInt32 now) message before.1.forwardTable := by
  have same := step.same
  unfold beaconAt at heard
  split at heard
  · rename_i reading fromAddr received
    split at heard
    · rename_i foreign
      obtain ⟨rfl, rfl⟩ := Prod.mk.inj (Option.some.inj heard)
      have routing := recvBeacon_routing host reading fromAddr received before.1
      rw [if_pos foreign] at routing
      change ((recvBeacon host reading fromAddr received).run before.1).state = after.1 at same
      rw [same] at routing
      exact ⟨_, rfl, (step.reading List.mem_cons_self).1, step.clock,
        congrArg RoutingState.neighborTable routing, congrArg RoutingState.forwardTable routing⟩
    · cases heard
  · cases heard

theorem step_recent {history : List ((IR F D × Int) × Task F D)}
    (recent : Recent (hearings host history) before) (agrees : Agrees before)
    (step : ClockedStep host before task after) (fits : after.2 < 2 ^ 31) :
    Recent (hearings host (history ++ [(before, task)])) after := by
  have split : hearings host (history ++ [(before, task)]) =
      hearings host history ++ (beaconAt host before.1 task).toList := by
    rw [hearings, List.filterMap_append, hearings]
    cases found : beaconAt host before.1 task <;> simp [found]
  rw [split]
  cases found : beaconAt host before.1 task with
  | none =>
      rw [Option.toList_none, List.append_nil]
      exact recent.quiet agrees.start step fits found
  | some hearing =>
      obtain ⟨sender, now⟩ := hearing
      obtain ⟨message, rfl, later, clock, neighbors, routes⟩ := beaconTask_tables step found
      exact recent.beacon agrees later (clock ▸ fits) neighbors routes clock

/-- In every run whose clock stays in the range of an `int`, each neighbour of a node was heard at
most five milliseconds before the latest beacon, and the timestamp of each route, which `Forwarding`
may have renewed, lies no further before it. If the node processes its beacons further apart, it
never knows two neighbours. -/
theorem run_tablesRecent (run : ClockedRun host) (fits : run.clock < 2 ^ 31) :
    Recent (hearings host run.history) (run.last, run.clock) ∧
      ((hearings host run.history).Pairwise (fun earlier later => earlier.2 + 5 < later.2) →
        ∀ (vip other : UInt32) entry another, run.last.neighborTable[vip]? = some entry →
          run.last.neighborTable[other]? = some another → vip = other) := by
  have start : Agrees (run.initial, 0) ∧ Recent (hearings host []) (run.initial, 0) := by
    have forward : run.initial.forwardTable = ∅ := run.start.forward
    have neighbor : run.initial.neighborTable = ∅ := run.start.neighbor
    refine ⟨⟨le_refl _, ?_⟩, ?_⟩
    · dsimp only
      rw [forward, neighbor]
      exact .empty 0
    · constructor <;> simp [hearings, forward, neighbor]
  have all := @History.along _ _ _ _ _ _ (fun history visited => visited.2 < 2 ^ 31 →
    Agrees visited ∧ Recent (hearings host history) visited) run.steps (fun _ => start) ?_
  · have recent := (all fits).2
    exact ⟨recent, fun apart _ _ _ _ held besides => recent.oneNeighbor apart held besides⟩
  · intro earlier before task after held step bounded
    obtain ⟨agrees, recent⟩ := held (step.later.trans_lt bounded)
    exact ⟨clockedStep_agrees step bounded agrees, step_recent recent agrees step bounded⟩

end

theorem hasHeard_hearings :
    hearings Host.shortHistories hasHeard.history = [(0x0200000A, 1000)] := by
  decide +kernel

/-- Heard after a second, and the only one. -/
theorem hasHeard_tablesRecent :
    Recent [(0x0200000A, 1000)] (hasHeard.last, 1000) ∧
      ∀ (vip other : UInt32) entry another, hasHeard.last.neighborTable[vip]? = some entry →
        hasHeard.last.neighborTable[other]? = some another → vip = other := by
  obtain ⟨recent, one⟩ := run_tablesRecent hasHeard (by decide)
  rw [hasHeard_hearings] at recent one
  exact ⟨recent, one (List.pairwise_singleton _ _)⟩

end TunVideo
