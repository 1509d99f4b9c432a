import TunVideo.Predict
import TunVideo.TaskClock

set_option autoImplicit false

namespace TunVideo

open Program SinglePrecision

section

variable {α : Type}

theorem length_rtake (values : List α) (count : Nat) :
    (values.rtake count).length = min values.length count := by
  rw [List.rtake, List.length_drop]
  omega

theorem map_rtake {β : Type} (f : α → β) (values : List α) (count : Nat) :
    (values.rtake count).map f = (values.map f).rtake count := by
  rw [List.rtake, List.rtake, List.map_drop, List.length_map]

theorem getLast?_rtake {values : List α} {value : α} (last : values.getLast? = some value)
    {count : Nat} (positive : 0 < count) : (values.rtake count).getLast? = some value := by
  obtain ⟨earlier, rfl⟩ := List.getLast?_eq_some_iff.mp last
  obtain ⟨rest, rfl⟩ := Nat.exists_eq_add_of_lt positive
  rw [Nat.zero_add, List.rtake_concat_succ, List.getLast?_concat]

end

section

variable {F : Type}

/-- A full history loses its oldest position, so it stays a window on the reports. -/
theorem pushHistory_rtake (points : List (GPS F)) (point : GPS F) :
    pushHistory (points.rtake 10) point = (points ++ [point]).rtake 10 := by
  have last : (points ++ [point]).rtake 10 = points.rtake 9 ++ [point] :=
    List.rtake_concat_succ points 9 point
  rw [last, pushHistory]
  congr 1
  unfold List.rtake
  rw [List.length_drop]
  by_cases full : 10 ≤ points.length
  · have tail : points.length - 9 = points.length - 10 + 1 := by omega
    rw [if_pos (by omega), List.tail_drop, tail]
  · rw [if_neg (by omega)]
    congr 1
    omega

/-- The positions that `q.front()` returns in `count` rounds of the first loop of
`AdvancedPredict`, before and after the `q.pop()` of each round. An empty queue has none. -/
def frontPairs : Nat → List (GPS F) → Option (List (GPS F × GPS F))
  | 0, _ => some []
  | count + 1, q => do
      let p1 ← q.head?
      let p2 ← q.tail.head?
      let rest ← frontPairs count q.tail
      some ((p1, p2) :: rest)

/-- Every `q.front()` and `q.back()` that `AdvancedPredict` calls finds an element. -/
def QueueDefined (q : List (GPS F)) : Prop :=
  if q.length < 8 then q.getLast?.isSome = true else (frontPairs 7 q).isSome = true

theorem frontPairs_eq {count : Nat} {q : List (GPS F)} (long : count < q.length) :
    frontPairs count q = some ((q.take count).zip (q.tail.take count)) := by
  induction count generalizing q with
  | zero => rfl
  | succ count ih =>
      obtain ⟨p1, p2, rest, rfl⟩ : ∃ p1 p2 rest, q = p1 :: p2 :: rest := by
        match q, long with
        | p1 :: p2 :: rest, _ => exact ⟨p1, p2, rest, rfl⟩
      have shorter := ih (q := p2 :: rest) (by simpa using long)
      simp [frontPairs, shorter]

theorem queueDefined_of_nonempty {q : List (GPS F)} (nonempty : 1 ≤ q.length) :
    QueueDefined q := by
  unfold QueueDefined
  split
  · rw [List.getLast?_eq_getElem?, List.getElem?_eq_getElem (by omega)]
    rfl
  · rw [frontPairs_eq (by omega)]
    rfl

variable {D : Type} [DoublePrecision D] [SinglePrecision F D]

/-- The slopes of `AdvancedPredict` are those of the pairs that the queue returns. -/
theorem slopes_frontPairs {q : List (GPS F)} {pairs : List (GPS F × GPS F)}
    (long : ¬q.length < 8) (returned : frontPairs 7 q = some pairs) :
    (q.take 7).zipWith slope (q.tail.take 7) = (pairs.map fun pair => slope pair.1 pair.2 : List D) ∧
      pairs.getLast? = q[6]?.bind fun p1 => q[7]?.map fun p2 => (p1, p2) := by
  rw [frontPairs_eq (by omega)] at returned
  obtain rfl := Option.some.inj returned
  constructor
  · rw [List.zip, List.map_zipWith]
  · have size : ((q.take 7).zip (q.tail.take 7)).length = 7 := by
      rw [List.length_zip, List.length_take, List.length_take, List.length_tail]
      omega
    rw [List.getLast?_eq_getElem?, size, List.getElem?_eq_getElem (by omega),
      List.getElem?_eq_getElem (by omega), List.getElem?_eq_getElem (by omega)]
    simp

end

section

variable {F D : Type} [SinglePrecision F D]

/-- The beacon that a task hands to `build_neighbor`, and the reading it is processed at. -/
def Task.beacon (host : Host F D) (ir : IR F D) : Task F D → Option (Int × BeaconMessage)
  | .node (.inl (.recvBeacon now fromAddr received)) =>
      if fromAddr ≠ ir.phyIp then
        some (untilTime ir.beginTime now, beaconIn host ir received)
      else none
  | _ => none

/-- The entry of the sender that `build_neighbor` finds behind its purge. -/
def survivor (ir : IR F D) (untilTime : Int) (vip : UInt32) : Option (NeighborEntry F) :=
  (MapSweep.sweep (olderThan 5 untilTime ·.timestamp) ir.neighborTable)[vip]?

/-- The positions that the beacons of `vip` have reported since its entry was last inserted. A
beacon that finds no entry inserts one. -/
def recordReport (host : Host F D) (vip : UInt32) (reports : List (GPS F))
    (visited : IR F D × Task F D) : List (GPS F) :=
  match visited.2.beacon host visited.1 with
  | some (untilTime, message) =>
      if message.virIp = vip then
        (if (survivor visited.1 untilTime vip).isSome then reports else []) ++ [message.position]
      else reports
  | none => reports

def reportsSinceInsertion (host : Host F D) (vip : UInt32)
    (history : List (IR F D × Task F D)) : List (GPS F) :=
  history.foldl (recordReport host vip) []

/-- The history of an entry is the projection of the last ten of the reports, or of all of
them when there are fewer, and the entry shows the latest one. -/
structure HistoryWindow (host : Host F D) (reports : List (GPS F)) (entry : NeighborEntry F) :
    Prop where
  gpsq : entry.gpsq = (reports.rtake 10).map host.project
  latest : reports.getLast? = some entry.gps

variable {host : Host F D} {reports : List (GPS F)} {entry : NeighborEntry F}

theorem HistoryWindow.nonempty (window : HistoryWindow host reports entry) :
    1 ≤ reports.length := by
  have latest := window.latest
  cases reports with
  | nil => cases latest
  | cons first rest => exact Nat.succ_le_succ (Nat.zero_le _)

theorem HistoryWindow.length (window : HistoryWindow host reports entry) :
    entry.gpsq.length = min reports.length 10 := by
  rw [window.gpsq, List.length_map, length_rtake]

theorem HistoryWindow.last (window : HistoryWindow host reports entry) :
    entry.gpsq.getLast? = some (host.project entry.gps) := by
  rw [window.gpsq, List.getLast?_map, getLast?_rtake window.latest (by decide), Option.map_some]

/-- A beacon adds its report to the window, or starts a new one. -/
theorem senderEntry_window (untilTime : Int) (message : BeaconMessage)
    {old : Option (NeighborEntry F)}
    (before : ∀ entry, old = some entry → HistoryWindow host reports entry) :
    HistoryWindow host ((if old.isSome then reports else []) ++ [message.position])
      (senderEntry host untilTime message old) where
  gpsq := by
    cases old with
    | none => rfl
    | some entry =>
        have window := (before entry rfl).gpsq
        have pushed := pushHistory_rtake (reports.map host.project) (host.project message.position)
        change pushHistory entry.gpsq (host.project message.position) =
          ((reports ++ [message.position]).rtake 10).map host.project
        rw [window, map_rtake, pushed, map_rtake, List.map_append, List.map_singleton]
  latest := List.getLast?_concat

end

section

variable {F D : Type} [DoublePrecision D] [SinglePrecision F D]

def taskCompletes (host : Host F D) (ir : IR F D) (task : Task F D) (after : IR F D) : Prop :=
  ((task.procedure host).run ir).result = .ok () ∧ ((task.procedure host).run ir).state = after

structure TaskRun (host : Host F D) where
  initial : IR F D
  history : List (IR F D × Task F D)
  last : IR F D
  start : initial.Initial
  steps : History (taskCompletes host) initial history last

variable {host : Host F D} {ir after : IR F D} {task : Task F D}

/-- A task without a beacon leaves entries as they are, or erases them. -/
theorem quietTask_neighborTable (completed : taskCompletes host ir task after)
    (quiet : task.beacon host ir = none) {vip : UInt32} {entry : NeighborEntry F}
    (held : after.neighborTable[vip]? = some entry) : ir.neighborTable[vip]? = some entry := by
  obtain ⟨finished, rfl⟩ := completed
  change ((task.procedure host).run ir).state.routing.neighborTable[vip]? = some entry at held
  cases task with
  | node chosen =>
      have routing := stepProcedure_routing host ir chosen
      change ((stepProcedure host chosen).run ir).state.routing.neighborTable[vip]? = _ at held
      generalize ((stepProcedure host chosen).run ir).state.routing = tables at routing held
      cases routing with
      | kept => exact held
      | heard now fromAddr received foreign => simp [Task.beacon, foreign] at quiet
      | relayed readings received writeFails relayed tables => exact tables.neighbor vip entry held
  | routeMakeup now gaussrand dstGps =>
      rw [routeMakeup_routing finished] at held
      exact (MapSweep.getElem?_sweep_eq_some.mp held).1
  | calNexHop now dstGps =>
      rw [calNexHop_routing] at held
      exact (MapSweep.getElem?_sweep_eq_some.mp held).1
  | isLegal now nghbrIp dstGps =>
      rw [isLegal_routing] at held
      exact legalTable_subset held

theorem beaconTask_neighborTable (completed : taskCompletes host ir task after)
    {untilTime : Int} {message : BeaconMessage}
    (heard : task.beacon host ir = some (untilTime, message)) :
    after.neighborTable = neighborAfter host untilTime message ir.neighborTable := by
  obtain ⟨-, rfl⟩ := completed
  unfold Task.beacon at heard
  split at heard
  · rename_i now fromAddr received
    split at heard
    · rename_i foreign
      obtain ⟨rfl, rfl⟩ := Prod.mk.inj (Option.some.inj heard)
      have routing := recvBeacon_routing host now fromAddr received ir
      rw [if_pos foreign] at routing
      exact congrArg RoutingState.neighborTable routing
    · cases heard
  · cases heard

/-- Every entry of a state shows a window on the reports since it was inserted. -/
def ShowsReports (host : Host F D) (reports : UInt32 → List (GPS F)) (ir : IR F D) : Prop :=
  ∀ (vip : UInt32) (entry : NeighborEntry F), ir.neighborTable[vip]? = some entry →
    HistoryWindow host (reports vip) entry

/-- One task keeps the windows. -/
theorem task_showsReports (completed : taskCompletes host ir task after)
    {reports : UInt32 → List (GPS F)} (shows : ShowsReports host reports ir) :
    ShowsReports host (fun vip => recordReport host vip (reports vip) (ir, task)) after := by
  intro vip entry held
  dsimp only
  unfold recordReport
  cases heard : task.beacon host ir with
  | none => exact shows vip entry (quietTask_neighborTable completed heard held)
  | some beacon =>
      obtain ⟨untilTime, message⟩ := beacon
      rw [beaconTask_neighborTable completed heard] at held
      dsimp only
      rcases neighborAfter_cases held with ⟨rfl, rfl⟩ | ⟨other, before, -⟩
      · rw [if_pos rfl, survivor]
        apply senderEntry_window untilTime message
        intro entry survived
        exact shows message.virIp entry (MapSweep.getElem?_sweep_eq_some.mp survived).1
      · rw [if_neg (Ne.symm other)]
        exact shows vip entry before

/-- A history of tasks keeps the windows. -/
theorem history_showsReports {first last : IR F D} {history : List (IR F D × Task F D)}
    (steps : History (taskCompletes host) first history last)
    (empty : first.neighborTable = ∅) :
    ShowsReports host (fun vip => reportsSinceInsertion host vip history) last := by
  induction steps with
  | start =>
      intro vip entry held
      simp [empty] at held
  | next run task completed ih =>
      have next := task_showsReports completed ih
      simpa only [reportsSinceInsertion, List.foldl_append, List.foldl_cons,
        List.foldl_nil] using next

/-- What an entry's history has to be, when the entry has had these reports. -/
structure HistoryInvariant (host : Host F D) (reports : List (GPS F)) (entry : NeighborEntry F) :
    Prop where
  inserted : 1 ≤ reports.length
  gpsq : entry.gpsq = (reports.rtake 10).map host.project
  length : entry.gpsq.length = min reports.length 10
  nonempty : 1 ≤ entry.gpsq.length
  bounded : entry.gpsq.length ≤ 10
  last : entry.gpsq.getLast? = some (host.project entry.gps)
  queueDefined : QueueDefined entry.gpsq

/-- In every run the history of a neighbour entry is a window on the reports since the entry
was inserted. It is never empty, so `AdvancedPredict` finds an element wherever it looks. -/
theorem run_historyInvariant (run : TaskRun host) {vip : UInt32} {entry : NeighborEntry F}
    (held : run.last.neighborTable[vip]? = some entry) :
    HistoryInvariant host (reportsSinceInsertion host vip run.history) entry := by
  have window : HistoryWindow host (reportsSinceInsertion host vip run.history) entry :=
    history_showsReports run.steps run.start.neighbor vip entry held
  have inserted := window.nonempty
  have length := window.length
  have nonempty : 1 ≤ entry.gpsq.length := by omega
  have bounded : entry.gpsq.length ≤ 10 := by omega
  exact ⟨inserted, window.gpsq, length, nonempty, bounded, window.last,
    queueDefined_of_nonempty nonempty⟩

end

/-- What 10.0.0.2 reports: it moves by one from each beacon to the next. -/
def report (number : Nat) : BeaconMessage :=
  ⟨0x0200000A, 0x0200A8C0, UInt32.ofNat number, 0, 0, 0⟩

def hearReport (number : Nat) : Task Float32 Float :=
  .node (.inl (.recvBeacon ⟨1, 0⟩ 0x0200A8C0 (.packet ((report number).bytes .little))))

/-- So many beacons in one and the same millisecond. -/
def reportedTimes : Nat → TaskRun Host.shortHistories
  | 0 => ⟨loneNode, [], loneNode, loneNode_initial, .start _⟩
  | number + 1 =>
      let before := reportedTimes number
      { initial := before.initial
        history := before.history ++ [(before.last, hearReport number)]
        last := (((hearReport number).procedure Host.shortHistories).run before.last).state
        start := before.start
        steps := before.steps.next _ ⟨recvBeacon_result _ _ _ _ _, rfl⟩ }

/-- The first two of twelve reports have left the history. -/
theorem reportedTwelve_historyInvariant :
    ∃ entry, (reportedTimes 12).last.neighborTable[(0x0200000A : UInt32)]? = some entry ∧
      entry.gpsq.length = 10 ∧
      HistoryInvariant .shortHistories
        (reportsSinceInsertion .shortHistories 0x0200000A (reportedTimes 12).history) entry := by
  have known : ((reportedTimes 12).last.neighborTable[(0x0200000A : UInt32)]?).isSome = true := by
    decide +kernel
  have reports : (reportsSinceInsertion .shortHistories 0x0200000A
      (reportedTimes 12).history).length = 12 := by
    decide +kernel
  obtain ⟨entry, held⟩ := Option.isSome_iff_exists.mp known
  have invariant := run_historyInvariant (reportedTimes 12) held
  have length := invariant.length
  rw [reports] at length
  exact ⟨entry, held, length, invariant⟩

end TunVideo
