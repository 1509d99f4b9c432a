import TunVideo.RouteResult
import TunVideo.RunningMinimum

set_option autoImplicit false

/- The two functions that select a next hop. `RouteMakeup` purges the table, keeps a copy
of what is left and scans that; `CalNexHop` selects while it purges. -/
namespace TunVideo

open Program

section

variable {F D : Type} [DoublePrecision D]

/-- One round of the first loop of `CalNexHop`: erase the entry or look at its position. -/
def purgeStep (host : Host F D) (selfGps dstGps : GPS F) (untilTime : Int)
    (found : NeighborTable F × D × UInt32) (iter : UInt32 × NeighborEntry F) :
    NeighborTable F × D × UInt32 :=
  if olderThan ttlNeighborTable untilTime iter.2.timestamp then
    (found.1.erase iter.1, found.2)
  else if inCone host selfGps dstGps iter.2.gps then
    let dis := host.calModule iter.2.gps dstGps
    if dis < found.2.1 then (found.1, dis, iter.2.phyIp) else found
  else found

/-- One round of its second loop. -/
def closestStep (host : Host F D) (dstGps : GPS F) (best : D × UInt32)
    (iter : UInt32 × NeighborEntry F) : D × UInt32 :=
  let dis := host.calModule iter.2.gps dstGps
  if dis < best.1 then (dis, iter.2.phyIp) else best

def calNexHop (host : Host F D) (now : Timeval) (dstGps : GPS F) : Procedure F D UInt32 := do
  let selfGps ← read IR.gps
  let untilTime ← read fun ir => untilTime ir.beginTime now
  let (table, disMax, nextHopId) ← read fun ir =>
    ir.neighborTable.toList.foldl (purgeStep host selfGps dstGps untilTime)
      (ir.neighborTable, maxDistance, 0)
  modify fun ir => { ir with neighborTable := table }
  if nearZero (disMax - maxDistance) then
    let (disMax, nextHopId) ← read fun ir =>
      ir.neighborTable.toList.foldl (closestStep host dstGps) (disMax, nextHopId)
    if nearZero (disMax - maxDistance) then
      return broadcastAddress
    else
      return nextHopId
  else
    return nextHopId

end

section

variable {F D : Type}

def liveEntries (untilTime : Int) (table : NeighborTable F) : List (UInt32 × NeighborEntry F) :=
  table.toList.filter fun iter => !olderThan ttlNeighborTable untilTime iter.2.timestamp

theorem mem_liveEntries {untilTime : Int} {table : NeighborTable F} {vip : UInt32}
    {entry : NeighborEntry F} :
    (vip, entry) ∈ liveEntries untilTime table ↔
      table[vip]? = some entry ∧ age untilTime entry.timestamp ≤ ttlNeighborTable := by
  rw [liveEntries, List.mem_filter, Std.ExtTreeMap.mem_toList_iff_getElem?_eq_some,
    Bool.not_eq_true', olderThan_eq_false]

theorem liveEntries_ordered (untilTime : Int) (table : NeighborTable F) :
    (liveEntries untilTime table).Pairwise fun first second => first.1 < second.1 := by
  have ordered := Std.ExtTreeMap.ordered_keys_toList (t := table)
  refine (ordered.filter _).imp fun {first second} below => ?_
  exact Std.compare_eq_lt.mp below

/-- The weights a scan compares, for the entries it does not skip. -/
def candidates (host : Host F D) (usable : GPS F → Bool) (dstGps : GPS F)
    (position : UInt32 × NeighborEntry F → GPS F) (entries : List (UInt32 × NeighborEntry F)) :
    List (D × UInt32) :=
  (entries.filter fun iter => usable (position iter)).map fun iter =>
    (host.calModule (position iter) dstGps, iter.2.phyIp)

variable [DoublePrecision D]

/-- The selection that both functions come down to: the closest candidate in the cone, or
else the closest of all. -/
def selectNextHop (cone all : List (D × UInt32)) : UInt32 :=
  let first := runningMinimum (maxDistance, 0) cone
  if nearZero (first.1 - maxDistance) then
    let second := runningMinimum first all
    if nearZero (second.1 - maxDistance) then broadcastAddress else second.2
  else first.2

/-- The next hop for given positions of the live entries. -/
def closestHop (host : Host F D) (selfGps dstGps : GPS F)
    (position : UInt32 × NeighborEntry F → GPS F) (entries : List (UInt32 × NeighborEntry F)) :
    UInt32 :=
  selectNextHop (candidates host (inCone host selfGps dstGps) dstGps position entries)
    (candidates host (fun _ => true) dstGps position entries)

end

section

variable {F D : Type}

def Predicts (host : Host F D) (gaussrand : UInt32 → Nat → D) (untilTime : Int)
    (position : UInt32 × NeighborEntry F → GPS F) (entries : List (UInt32 × NeighborEntry F)) :
    Prop :=
  ∀ iter ∈ entries, age untilTime iter.2.timestamp ≤ ttlNeighborTable →
    host.advancedPredict (gaussrand iter.1) iter.2.gpsq
      (UInt32.ofInt (age untilTime iter.2.timestamp)) iter.2.speed = some (position iter)

variable {host : Host F D} {gaussrand : UInt32 → Nat → D} {untilTime : Int}
  {position : UInt32 × NeighborEntry F → GPS F}

theorem collect_foldl_predicted {entries : List (UInt32 × NeighborEntry F)}
    (predicts : Predicts host gaussrand untilTime position entries)
    (found : NeighborTable F × List (UInt32 × GPS F)) :
    entries.foldlM (collectStep host gaussrand untilTime) found = some
      (entries.foldl (MapSweep.step (olderThan ttlNeighborTable untilTime ·.timestamp)) found.1,
        found.2 ++ (entries.filter fun iter =>
          !olderThan ttlNeighborTable untilTime iter.2.timestamp).map
            fun iter => (iter.1, position iter)) := by
  induction entries generalizing found with
  | nil => simp
  | cons iter rest ih =>
      have later := ih fun other member => predicts other (List.mem_cons_of_mem _ member)
      rw [List.foldlM_cons, List.foldl_cons, MapSweep.step, collectStep]
      cases old : olderThan ttlNeighborTable untilTime iter.2.timestamp with
      | true => simp [old, later]
      | false =>
          have here := predicts iter List.mem_cons_self (olderThan_eq_false.mp old)
          simp [old, later, here]

theorem collect_predicted {table : NeighborTable F}
    (predicts : Predicts host gaussrand untilTime position table.toList) :
    collect host gaussrand untilTime table = some
      (MapSweep.sweep (olderThan ttlNeighborTable untilTime ·.timestamp) table,
        (liveEntries untilTime table).map fun iter => (iter.1, position iter)) :=
  collect_foldl_predicted predicts (table, [])

end

section

variable {F D : Type} [DoublePrecision D] {host : Host F D}
  {position : UInt32 × NeighborEntry F → GPS F}

/-- A scan of the copy is a running minimum over the entries it was made from. -/
theorem scan_eq_runningMinimum (usable : GPS F → Bool) (dstGps : GPS F) {table : NeighborTable F}
    {entries : List (UInt32 × NeighborEntry F)}
    (present : ∀ iter ∈ entries, table[iter.1]? = some iter.2) (best : D × UInt32) :
    scan host usable table dstGps (entries.map fun iter => (iter.1, position iter)) best =
      some (runningMinimum best (candidates host usable dstGps position entries)) := by
  induction entries generalizing best with
  | nil => rfl
  | cons iter rest ih =>
      have later := ih fun other member => present other (List.mem_cons_of_mem _ member)
      have here := present iter List.mem_cons_self
      unfold scan candidates at later ⊢
      rw [List.map_cons, List.foldlM_cons, scanStep]
      cases tried : usable (position iter) with
      | false => simpa [tried] using later best
      | true =>
          by_cases closer : host.calModule (position iter) dstGps < best.1
          · simpa [tried, closer, here, lighter] using later _
          · simpa [tried, closer, lighter] using later best

theorem makeupAnswer_eq_closestHop (selfGps dstGps : GPS F) {table : NeighborTable F}
    {entries : List (UInt32 × NeighborEntry F)}
    (present : ∀ iter ∈ entries, table[iter.1]? = some iter.2) :
    makeupAnswer host selfGps dstGps (table, entries.map fun iter => (iter.1, position iter)) =
      some (closestHop host selfGps dstGps position entries) := by
  unfold makeupAnswer closestHop selectNextHop
  rw [scan_eq_runningMinimum _ _ present, Option.bind_some]
  dsimp only
  rw [scan_eq_runningMinimum _ _ present, Option.map_some]
  split <;> rfl

variable {gaussrand : UInt32 → Nat → D} {now : Timeval}

theorem routeMakeup_predicted (dstGps : GPS F) (ir : IR F D)
    (predicts : Predicts host gaussrand (untilTime ir.beginTime now) position
      ir.neighborTable.toList) :
    (routeMakeup host now gaussrand dstGps).run ir =
      ⟨.ok (closestHop host ir.gps dstGps position
          (liveEntries (untilTime ir.beginTime now) ir.neighborTable)),
        { ir with
          neighborTable := MapSweep.sweep
            (olderThan ttlNeighborTable (untilTime ir.beginTime now) ·.timestamp)
            ir.neighborTable },
        [.routeMakeupCalled dstGps ir.gps]⟩ := by
  have present : ∀ iter ∈ liveEntries (untilTime ir.beginTime now) ir.neighborTable,
      (MapSweep.sweep (olderThan ttlNeighborTable (untilTime ir.beginTime now) ·.timestamp)
        ir.neighborTable)[iter.1]? = some iter.2 := by
    intro iter member
    obtain ⟨held, live⟩ := mem_liveEntries.mp member
    exact MapSweep.getElem?_sweep_eq_some.mpr ⟨held, olderThan_eq_false.mpr live⟩
  rw [routeMakeup_run, routeChoice, collect_predicted predicts, Option.bind_some,
    makeupAnswer_eq_closestHop _ _ present, Option.map_some]

/-- The selection of `CalNexHop` is not disturbed by the purge that goes on beside it. -/
theorem purge_foldl (host : Host F D) (selfGps dstGps : GPS F) (untilTime : Int)
    (entries : List (UInt32 × NeighborEntry F)) (found : NeighborTable F × D × UInt32) :
    entries.foldl (purgeStep host selfGps dstGps untilTime) found =
      (entries.foldl (MapSweep.step (olderThan ttlNeighborTable untilTime ·.timestamp)) found.1,
        runningMinimum found.2 (candidates host (inCone host selfGps dstGps) dstGps
          (fun iter => iter.2.gps) (entries.filter fun iter =>
            !olderThan ttlNeighborTable untilTime iter.2.timestamp))) := by
  induction entries generalizing found with
  | nil => rfl
  | cons iter rest ih =>
      rw [List.foldl_cons, ih, List.foldl_cons, MapSweep.step, purgeStep]
      cases old : olderThan ttlNeighborTable untilTime iter.2.timestamp with
      | true => simp [old]
      | false =>
          cases tried : inCone host selfGps dstGps iter.2.gps with
          | false => simp [old, candidates, tried]
          | true =>
              by_cases closer : host.calModule iter.2.gps dstGps < found.2.1
              · simp [old, candidates, tried, closer, lighter]
              · simp [old, candidates, tried, closer, lighter]

theorem closest_foldl (host : Host F D) (dstGps : GPS F)
    (entries : List (UInt32 × NeighborEntry F)) (best : D × UInt32) :
    entries.foldl (closestStep host dstGps) best =
      runningMinimum best
        (candidates host (fun _ => true) dstGps (fun iter => iter.2.gps) entries) := by
  unfold candidates runningMinimum
  rw [List.filter_true, List.foldl_map]
  rfl

theorem calNexHop_run (host : Host F D) (now : Timeval) (dstGps : GPS F) (ir : IR F D) :
    (calNexHop host now dstGps).run ir =
      ⟨.ok (closestHop host ir.gps dstGps (fun iter => iter.2.gps)
          (liveEntries (untilTime ir.beginTime now) ir.neighborTable)),
        { ir with
          neighborTable := MapSweep.sweep
            (olderThan ttlNeighborTable (untilTime ir.beginTime now) ·.timestamp)
            ir.neighborTable }, []⟩ := by
  have purged : ir.neighborTable.toList.foldl
      (MapSweep.step (olderThan ttlNeighborTable (untilTime ir.beginTime now) ·.timestamp))
      ir.neighborTable = MapSweep.sweep
        (olderThan ttlNeighborTable (untilTime ir.beginTime now) ·.timestamp) ir.neighborTable :=
    rfl
  unfold calNexHop closestHop selectNextHop liveEntries
  simp only [run_bind, run_read, run_modify, Outcome.bind_ok, Outcome.after_nil, purge_foldl,
    closest_foldl, purged]
  split
  · rename_i untouched
    simp only [run_bind, run_read, Outcome.bind_ok, Outcome.after_nil, MapSweep.toList_sweep]
    split <;> rfl
  · rfl

/-- With a predictor that returns the reported positions, both functions give the same
next hop and leave the same table. -/
theorem routeMakeup_refines_calNexHop (host : Host F D) (now : Timeval)
    (gaussrand : UInt32 → Nat → D) (dstGps : GPS F) (ir : IR F D)
    (reported : Predicts host gaussrand (untilTime ir.beginTime now) (fun iter => iter.2.gps)
      ir.neighborTable.toList) :
    ((routeMakeup host now gaussrand dstGps).run ir).result =
        ((calNexHop host now dstGps).run ir).result ∧
      ((routeMakeup host now gaussrand dstGps).run ir).state =
        ((calNexHop host now dstGps).run ir).state := by
  rw [routeMakeup_predicted dstGps ir reported, calNexHop_run]
  exact ⟨rfl, rfl⟩

end

/-- Three neighbours at rest: the first has not been heard for four seconds, the second is on the
way to (2,0), and the third is beside it. -/
def besideResting : IR Float32 Float :=
  { loneNode with
    neighborTable := (((∅ : NeighborTable Float32).insert 0x0200000A
      ⟨⟨2, 0⟩, 0, ⟨0, 0⟩, 0x0200A8C0, [⟨2, 0⟩]⟩).insert 0x0300000A
      ⟨⟨1, 0⟩, 4000, ⟨0, 0⟩, 0x0300A8C0, [⟨1, 0⟩]⟩).insert 0x0400000A
      ⟨⟨0, 1⟩, 4000, ⟨0, 0⟩, 0x0400A8C0, [⟨0, 1⟩]⟩ }

theorem routeMakeup_refines_resting :
    ((routeMakeup Host.shortHistories ⟨4, 0⟩ (fun _ _ => 0) ⟨2, 0⟩).run besideResting).result =
        ((calNexHop Host.shortHistories ⟨4, 0⟩ ⟨2, 0⟩).run besideResting).result ∧
      ((routeMakeup Host.shortHistories ⟨4, 0⟩ (fun _ _ => 0) ⟨2, 0⟩).run besideResting).state =
        ((calNexHop Host.shortHistories ⟨4, 0⟩ ⟨2, 0⟩).run besideResting).state := by
  refine routeMakeup_refines_calNexHop _ _ _ _ _ ?_
  unfold Predicts
  decide +kernel

end TunVideo
