import TunVideo.TaskClock

set_option autoImplicit false

namespace TunVideo

open Program

/-- `it_interval` of `init_timer`, in milliseconds. -/
abbrev beaconInterval : Int := 10000

section

variable {F D : Type}

/-- A node, its clock, and the reading at which the watched neighbour was last heard. -/
structure Watched (F D : Type) where
  ir : IR F D
  clock : Int
  lastBeacon : Option Int

/-- The sender of a beacon that a task processes, and the reading it takes for it. -/
def beaconAt (host : Host F D) (ir : IR F D) : Task F D → Option (UInt32 × Int)
  | .node (.inl (.recvBeacon now fromAddr received)) =>
      if fromAddr ≠ ir.phyIp then
        some ((beaconIn host ir received).virIp, millis ir.beginTime now)
      else none
  | _ => none

/-- After the first beacon the neighbour has an entry. -/
def Watched.Present (vip : UInt32) (watched : Watched F D) : Prop :=
  ∀ last, watched.lastBeacon = some last →
    ∃ entry, watched.ir.neighborTable[vip]? = some entry

/-- The entry carries the reading of the latest beacon. -/
def Stamped (vip : UInt32) (watched : Watched F D) : Prop :=
  ∀ last, watched.lastBeacon = some last → last ≤ watched.clock ∧
    ∃ entry, watched.ir.neighborTable[vip]? = some entry ∧
      entry.timestamp = UInt32.ofInt (toInt32 last)

theorem Stamped.present {vip : UInt32} {watched : Watched F D} (stamped : Stamped vip watched) :
    watched.Present vip := by
  intro last heard
  obtain ⟨-, entry, held, -⟩ := stamped last heard
  exact ⟨entry, held⟩

variable [DoublePrecision D] [SinglePrecision F D]

/-- A step in which the timer of the neighbour is not ahead of its beacons: none of them is
late, and nothing happens after one that is due. -/
structure TimelyStep (host : Host F D) (vip : UInt32) (before : Watched F D) (task : Task F D)
    (after : Watched F D) : Prop where
  clocked : ClockedStep host (before.ir, before.clock) task (after.ir, after.clock)
  heard : ∀ now, beaconAt host before.ir task = some (vip, now) → after.lastBeacon = some now
  notHeard : (∀ now, beaconAt host before.ir task ≠ some (vip, now)) →
    after.lastBeacon = before.lastBeacon
  onTime : ∀ last now, before.lastBeacon = some last →
    beaconAt host before.ir task = some (vip, now) → now = last + beaconInterval
  awaited : ∀ last, before.lastBeacon = some last →
    (∀ now, beaconAt host before.ir task ≠ some (vip, now)) →
    after.clock ≤ last + beaconInterval

/-- A run of a node to which every beacon of the neighbour `vip` is delivered at once. -/
structure TimelyRun (host : Host F D) (vip : UInt32) where
  initial : IR F D
  history : List (Watched F D × Task F D)
  last : Watched F D
  start : initial.Initial
  steps : History (TimelyStep host vip) ⟨initial, 0, none⟩ history last

/-- The readings at which a task compares the age of the neighbour's entry with
`TTLNEIGHBORTABLE`. -/
inductive Consults (host : Host F D) (vip : UInt32) (ir : IR F D) : Task F D → Timeval → Prop
  | routeMakeup (now : Timeval) (gaussrand : UInt32 → Nat → D) (dstGps : GPS F) :
      Consults host vip ir (.routeMakeup now gaussrand dstGps) now
  | calNexHop (now : Timeval) (dstGps : GPS F) : Consults host vip ir (.calNexHop now dstGps) now
  | isLegal (now : Timeval) (dstGps : GPS F) : Consults host vip ir (.isLegal now vip dstGps) now
  | relayMakeup (readings : Readings D) (received : Received) (writeFails : Bool)
      (dstGps selfGps : GPS F)
      (called : .routeMakeupCalled dstGps selfGps ∈
        ((recvData host readings received writeFails).run ir).events) :
      Consults host vip ir (.node (.inl (.recvData readings received writeFails)))
        readings.routeMakeup
  | relayLegal (readings : Readings D) (received : Received) (writeFails : Bool)
      (dstGps selfGps : GPS F)
      (called : .isLegalCalled vip dstGps selfGps ∈
        ((recvData host readings received writeFails).run ir).events) :
      Consults host vip ir (.node (.inl (.recvData readings received writeFails)))
        readings.isLegal

def PassesTests (host : Host F D) (vip : UInt32) (watched : Watched F D) (task : Task F D) :
    Prop :=
  ∀ last now, watched.lastBeacon = some last → Consults host vip watched.ir task now →
    ∃ entry, watched.ir.neighborTable[vip]? = some entry ∧
      olderThan ttlNeighborTable (untilTime watched.ir.beginTime now) entry.timestamp = false

structure KeptAlive {host : Host F D} {vip : UInt32} (run : TimelyRun host vip) : Prop where
  present : ∀ visited ∈ run.history, visited.1.Present vip
  passes : ∀ visited ∈ run.history, PassesTests host vip visited.1 visited.2
  last : run.last.Present vip

/-- After the neighbour's latest beacon another node is heard within 5 milliseconds only, and
the entry is looked at within `TTLNEIGHBORTABLE` only. -/
structure WithinLimits (host : Host F D) (vip : UInt32) (watched : Watched F D)
    (task : Task F D) : Prop where
  others : ∀ last sender now, watched.lastBeacon = some last → sender ≠ vip →
    beaconAt host watched.ir task = some (sender, now) → now ≤ last + 5
  tests : ∀ last now, watched.lastBeacon = some last → Consults host vip watched.ir task now →
    millis watched.ir.beginTime now ≤ last + ttlNeighborTable

end

/-- The age test at a reading in the interval that follows a beacon. -/
theorem olderThan_stamped {limit last now : Int} {timestamp : UInt32}
    (stamped : timestamp = UInt32.ofInt (toInt32 last)) (later : last ≤ now)
    (due : now ≤ last + beaconInterval) :
    olderThan limit (toInt32 now) timestamp = false ↔ now ≤ last + limit := by
  rw [olderThan_eq_false, stamped, age_stored, toInt32_of_range (by omega)]
  · omega
  · unfold beaconInterval at due
    omega

section

variable {F D : Type} [DoublePrecision D] [SinglePrecision F D] {host : Host F D} {vip : UInt32}
  {before after : Watched F D} {task : Task F D}

theorem Consults.reading {ir : IR F D} {now : Timeval} (consults : Consults host vip ir task now) :
    now ∈ task.readings ∧ beaconAt host ir task = none := by
  cases consults <;> simp [Task.readings, beaconAt]

/-- A look at the entry comes between two beacons. -/
theorem TimelyStep.between (step : TimelyStep host vip before task after)
    (stamped : Stamped vip before) {last : Int} (heard : before.lastBeacon = some last)
    {now : Timeval} (consults : Consults host vip before.ir task now) :
    last ≤ millis before.ir.beginTime now ∧
      millis before.ir.beginTime now ≤ last + beaconInterval := by
  obtain ⟨member, none⟩ := consults.reading
  have bounds := step.clocked.reading member
  have due := step.awaited last heard (by simp [none])
  have past := (stamped last heard).1
  dsimp only at bounds
  omega

theorem passesTests_iff (step : TimelyStep host vip before task after)
    (stamped : Stamped vip before) :
    PassesTests host vip before task ↔
      ∀ last now, before.lastBeacon = some last → Consults host vip before.ir task now →
        millis before.ir.beginTime now ≤ last + ttlNeighborTable := by
  constructor
  · intro passes last now heard consults
    obtain ⟨later, due⟩ := step.between stamped heard consults
    obtain ⟨-, entry, held, stamp⟩ := stamped last heard
    obtain ⟨entry', held', fresh⟩ := passes last now heard consults
    rw [held] at held'
    rw [← Option.some.inj held'] at fresh
    exact (olderThan_stamped stamp later due).mp fresh
  · intro early last now heard consults
    obtain ⟨later, due⟩ := step.between stamped heard consults
    obtain ⟨-, entry, held, stamp⟩ := stamped last heard
    exact ⟨entry, held, (olderThan_stamped stamp later due).mpr (early last now heard consults)⟩

theorem beaconAt_clock (step : ClockedStep host (before.ir, before.clock) task
      (after.ir, after.clock)) {sender : UInt32} {now : Int}
    (heard : beaconAt host before.ir task = some (sender, now)) :
    before.clock ≤ now ∧ after.clock = now := by
  unfold beaconAt at heard
  split at heard
  · rename_i reading fromAddr received
    split at heard
    · obtain ⟨-, rfl⟩ := Prod.mk.inj (Option.some.inj heard)
      exact ⟨(step.reading List.mem_cons_self).1, step.clock⟩
    · cases heard
  · cases heard

theorem beaconAt_table (step : ClockedStep host (before.ir, before.clock) task
      (after.ir, after.clock)) {sender : UInt32} {now : Int}
    (heard : beaconAt host before.ir task = some (sender, now)) :
    ∃ message : BeaconMessage, message.virIp = sender ∧
      after.ir.neighborTable =
        neighborAfter host (toInt32 now) message before.ir.neighborTable := by
  have same := step.same
  unfold beaconAt at heard
  split at heard
  · rename_i reading fromAddr received
    split at heard
    · rename_i foreign
      obtain ⟨rfl, rfl⟩ := Prod.mk.inj (Option.some.inj heard)
      have routing := recvBeacon_routing host reading fromAddr received before.ir
      rw [if_pos foreign] at routing
      change ((recvBeacon host reading fromAddr received).run before.ir).state = after.ir at same
      rw [same] at routing
      exact ⟨_, rfl, congrArg RoutingState.neighborTable routing⟩
    · cases heard
  · cases heard

/-- A beacon of another node leaves the entry only if it comes soon enough. -/
theorem otherBeacon_table (step : TimelyStep host vip before task after)
    (stamped : Stamped vip before) {last now : Int} (known : before.lastBeacon = some last)
    {sender : UInt32} (other : sender ≠ vip)
    (heard : beaconAt host before.ir task = some (sender, now)) {entry : NeighborEntry F} :
    after.ir.neighborTable[vip]? = some entry ↔
      before.ir.neighborTable[vip]? = some entry ∧ now ≤ last + 5 := by
  obtain ⟨message, rfl, table⟩ := beaconAt_table step.clocked heard
  obtain ⟨later, clock⟩ := beaconAt_clock step.clocked heard
  have due := step.awaited last known (by simp [heard, other])
  obtain ⟨past, entry', held, stamp⟩ := stamped last known
  rw [table, getElem?_neighborAfter_other _ _ _ _ other.symm, MapSweep.getElem?_sweep_eq_some]
  apply and_congr_right
  intro held'
  rw [held] at held'
  obtain rfl := Option.some.inj held'
  exact olderThan_stamped stamp (by omega) (by omega)

/-- Without a beacon only an age test takes the entry away. -/
theorem quietNode_keeps {ir : IR F D} {chosen : Operation D ⊕ Activity F D}
    (quiet : beaconAt host ir (.node chosen) = none) {entry : NeighborEntry F}
    (fresh : ∀ now, Consults host vip ir (.node chosen) now →
      olderThan ttlNeighborTable (untilTime ir.beginTime now) entry.timestamp = false)
    (held : ir.neighborTable[vip]? = some entry) :
    ((stepProcedure host chosen).run ir).state.routing.neighborTable[vip]? = some entry := by
  cases chosen with
  | inr activity =>
      rw [stepProcedure, activity_routing host activity ir]
      exact held
  | inl operation =>
      cases operation with
      | recvTun received sendFails =>
          rw [stepProcedure, Operation.procedure, recvTun_routing host received sendFails ir]
          exact held
      | recvBeacon now fromAddr received =>
          have own : ¬fromAddr ≠ ir.phyIp := by
            intro foreign
            simp [beaconAt, foreign] at quiet
          rw [stepProcedure, Operation.procedure, recvBeacon_routing, if_neg own]
          exact held
      | recvData readings received writeFails =>
          apply recvData_keepsNeighbor received writeFails held
          constructor
          · intro dstGps selfGps called
            exact fresh _ (.relayLegal readings received writeFails dstGps selfGps called)
          · intro dstGps selfGps called
            exact fresh _ (.relayMakeup readings received writeFails dstGps selfGps called)

theorem quietTask_keeps (step : TimelyStep host vip before task after)
    (quiet : beaconAt host before.ir task = none) (passes : PassesTests host vip before task)
    {last : Int} (known : before.lastBeacon = some last) {entry : NeighborEntry F}
    (held : before.ir.neighborTable[vip]? = some entry) :
    after.ir.neighborTable[vip]? = some entry := by
  have fresh (now : Timeval) (consults : Consults host vip before.ir task now) :
      olderThan ttlNeighborTable (untilTime before.ir.beginTime now) entry.timestamp = false := by
    obtain ⟨entry', held', fresh⟩ := passes last now known consults
    rw [held] at held'
    rw [Option.some.inj held']
    exact fresh
  have same := step.clocked.same
  have completed := step.clocked.completed
  dsimp only at same completed
  change after.ir.routing.neighborTable[vip]? = some entry
  rw [← same]
  cases task with
  | node chosen => exact quietNode_keeps quiet fresh held
  | routeMakeup now gaussrand dstGps =>
      rw [routeMakeup_routing completed]
      apply MapSweep.getElem?_sweep_eq_some.mpr
      exact ⟨held, fresh now (.routeMakeup now gaussrand dstGps)⟩
  | calNexHop now dstGps =>
      rw [calNexHop_routing]
      exact MapSweep.getElem?_sweep_eq_some.mpr ⟨held, fresh now (.calNexHop now dstGps)⟩
  | isLegal now nghbrIp dstGps =>
      rw [isLegal_routing]
      apply legalTable_keeps held
      rintro rfl
      exact fresh now (.isLegal now dstGps)

/-- One step within the limits. -/
theorem timelyStep_stamped (step : TimelyStep host vip before task after)
    (stamped : Stamped vip before) (limits : WithinLimits host vip before task) :
    Stamped vip after := by
  intro last heard
  cases beacon : beaconAt host before.ir task with
  | none =>
      rw [step.notHeard (by simp [beacon])] at heard
      obtain ⟨past, entry, held, stamp⟩ := stamped last heard
      have passes := (passesTests_iff step stamped).mpr limits.tests
      exact ⟨past.trans step.clocked.later, entry,
        quietTask_keeps step beacon passes heard held, stamp⟩
  | some found =>
      obtain ⟨sender, now⟩ := found
      obtain ⟨later, clock⟩ := beaconAt_clock step.clocked beacon
      by_cases own : sender = vip
      · subst own
        obtain rfl := Option.some.inj ((step.heard now beacon).symm.trans heard)
        obtain ⟨message, rfl, table⟩ := beaconAt_table step.clocked beacon
        have updated := getElem?_neighborAfter_self host (toInt32 now) message
          before.ir.neighborTable
        rw [← table] at updated
        exact ⟨clock.ge, _, updated, rfl⟩
      · rw [step.notHeard (by simp [beacon, own])] at heard
        obtain ⟨past, entry, held, stamp⟩ := stamped last heard
        have soon := limits.others last sender now heard own beacon
        exact ⟨past.trans step.clocked.later, entry,
          (otherBeacon_table step stamped heard own beacon).mpr ⟨held, soon⟩, stamp⟩

/-- A step that leaves the entry and passes its tests is within the limits. -/
theorem timelyStep_withinLimits (step : TimelyStep host vip before task after)
    (stamped : Stamped vip before) (passes : PassesTests host vip before task)
    (present : after.Present vip) : WithinLimits host vip before task where
  tests := (passesTests_iff step stamped).mp passes
  others := by
    intro last sender now known other beacon
    have still := step.notHeard (by simp [beacon, other])
    obtain ⟨entry, held⟩ := present last (still.trans known)
    exact ((otherBeacon_table step stamped known other beacon).mp held).2

theorem timelyStep_iff (stamped : Stamped vip before)
    (step : TimelyStep host vip before task after) :
    PassesTests host vip before task ∧ after.Present vip ↔ WithinLimits host vip before task := by
  constructor
  · rintro ⟨passes, present⟩
    exact timelyStep_withinLimits step stamped passes present
  · intro limits
    have kept := timelyStep_stamped step stamped limits
    exact ⟨(passesTests_iff step stamped).mpr limits.tests, kept.present⟩

/-- The neighbour stays usable in a run exactly when every step is within the limits. -/
theorem run_keptAlive_iff (run : TimelyRun host vip) :
    KeptAlive run ↔ ∀ visited ∈ run.history, WithinLimits host vip visited.1 visited.2 := by
  have start : Stamped vip (⟨run.initial, 0, none⟩ : Watched F D) := fun _ none => nomatch none
  have along := run.steps.forall_iff start (fun _ stamped => stamped.present)
    (fun _ _ _ stamped step limits => timelyStep_stamped step stamped limits)
    (fun _ _ _ stamped step => timelyStep_iff stamped step)
  rw [← along]
  constructor
  · intro alive
    exact ⟨fun visited member => ⟨alive.present visited member, alive.passes visited member⟩,
      alive.last⟩
  · rintro ⟨each, last⟩
    exact ⟨fun visited member => (each visited member).1,
      fun visited member => (each visited member).2, last⟩

end

def timerBeacon : Task Float32 Float :=
  .node (.inl (.recvBeacon ⟨0, 0⟩ 0x0200A8C0
    (.packet (BeaconMessage.bytes .little ⟨0x0200000A, 0x0200A8C0, 1, 0, 0, 0⟩))))

def afterTimerBeacon : Watched Float32 Float :=
  ⟨((timerBeacon.procedure Host.shortHistories).run loneNode).state, 0, some 0⟩

def routeHalfway : Task Float32 Float :=
  .routeMakeup ⟨5, 0⟩ (fun _ _ => 0) ⟨1, 1⟩

def afterRouteHalfway : Watched Float32 Float :=
  ⟨((routeHalfway.procedure Host.shortHistories).run afterTimerBeacon.ir).state, 5000, some 0⟩

theorem timerBeacon_heard :
    beaconAt Host.shortHistories loneNode timerBeacon = some (0x0200000A, 0) := by
  unfold beaconAt timerBeacon
  dsimp only
  rw [if_pos (by decide)]
  exact congrArg (fun message => some (BeaconMessage.virIp message, _))
    (beaconIn_bytes Host.shortHistories loneNode _)

theorem timerBeacon_step : TimelyStep Host.shortHistories 0x0200000A ⟨loneNode, 0, none⟩
    timerBeacon afterTimerBeacon where
  clocked := ⟨by decide, rfl, recvBeacon_result _ _ _ _ _, rfl⟩
  heard now heard := by
    rw [timerBeacon_heard] at heard
    exact congrArg (Option.map Prod.snd) heard
  notHeard quiet := absurd timerBeacon_heard (quiet 0)
  onTime last now known := nomatch known
  awaited last known := nomatch known

theorem routeHalfway_step : TimelyStep Host.shortHistories 0x0200000A afterTimerBeacon
    routeHalfway afterRouteHalfway where
  clocked := ⟨by decide, by decide, by decide +kernel, rfl⟩
  heard now heard := nomatch heard
  notHeard _ := rfl
  onTime last now _ heard := nomatch heard
  awaited last known _ := by
    obtain rfl := Option.some.inj known
    decide

def routedHalfway : TimelyRun Host.shortHistories 0x0200000A where
  initial := loneNode
  history := [(⟨loneNode, 0, none⟩, timerBeacon), (afterTimerBeacon, routeHalfway)]
  last := afterRouteHalfway
  start := loneNode_initial
  steps := ((History.start _).next timerBeacon timerBeacon_step).next routeHalfway
    routeHalfway_step

/-- Five seconds after its beacon the neighbour is expired, and erased. -/
theorem routeMakeup_erasesNeighbor :
    ¬∀ run : TimelyRun Host.shortHistories 0x0200000A, KeptAlive run := by
  intro alive
  obtain ⟨entry, held⟩ := (alive routedHalfway).last 0 rfl
  have gone : routedHalfway.last.ir.neighborTable.contains 0x0200000A = false := by
    decide +kernel
  rw [Std.ExtTreeMap.contains_eq_isSome_getElem?, held] at gone
  cases gone

end TunVideo
