import TunVideo.Route

set_option autoImplicit false

namespace TunVideo

open Program

section

variable {F D : Type}

def collectedPosition (host : Host F D) (gaussrand : UInt32 → Nat → D) (untilTime : Int)
    (iter : UInt32 × NeighborEntry F) : Option (GPS F) :=
  if olderThan ttlNeighborTable untilTime iter.2.timestamp then none
  else
    host.advancedPredict (gaussrand iter.1) iter.2.gpsq
      (UInt32.ofInt (age untilTime iter.2.timestamp)) iter.2.speed

variable {host : Host F D} {gaussrand : UInt32 → Nat → D} {untilTime : Int}

theorem collectStep_positions {found next : NeighborTable F × List (UInt32 × GPS F)}
    {iter : UInt32 × NeighborEntry F}
    (step : collectStep host gaussrand untilTime found iter = some next) {vip : UInt32}
    {gps : GPS F} :
    (vip, gps) ∈ next.2 ↔ (vip, gps) ∈ found.2 ∨
      vip = iter.1 ∧ collectedPosition host gaussrand untilTime iter = some gps := by
  unfold collectStep at step
  unfold collectedPosition
  by_cases old : olderThan ttlNeighborTable untilTime iter.2.timestamp = true
  · rw [if_pos old] at step ⊢
    obtain rfl := Option.some.inj step
    simp
  · rw [if_neg old] at step ⊢
    obtain ⟨position, predicted, rfl⟩ := Option.map_eq_some_iff.mp step
    rw [predicted]
    simp [eq_comm]

theorem collect_foldlM {entries : List (UInt32 × NeighborEntry F)}
    {found last : NeighborTable F × List (UInt32 × GPS F)}
    (loop : entries.foldlM (collectStep host gaussrand untilTime) found = some last)
    {vip : UInt32} {gps : GPS F} :
    (vip, gps) ∈ last.2 ↔ (vip, gps) ∈ found.2 ∨ ∃ entry, (vip, entry) ∈ entries ∧
      collectedPosition host gaussrand untilTime (vip, entry) = some gps := by
  induction entries generalizing found with
  | nil =>
      obtain rfl := Option.some.inj loop
      simp
  | cons iter rest ih =>
      rw [List.foldlM_cons] at loop
      obtain ⟨middle, step, later⟩ := Option.bind_eq_some_iff.mp loop
      rw [ih later, collectStep_positions step, or_assoc]
      apply or_congr_right
      constructor
      · rintro (⟨rfl, here⟩ | ⟨entry, listed, there⟩)
        · exact ⟨iter.2, List.mem_cons_self, here⟩
        · exact ⟨entry, List.mem_cons_of_mem _ listed, there⟩
      · rintro ⟨entry, listed, position⟩
        rcases List.mem_cons.mp listed with rfl | later
        · exact Or.inl ⟨rfl, position⟩
        · exact Or.inr ⟨entry, later, position⟩

/-- What the first loop of `RouteMakeup` has collected at its end. -/
theorem collect_positions {table : NeighborTable F}
    {found : NeighborTable F × List (UInt32 × GPS F)}
    (run : collect host gaussrand untilTime table = some found) {vip : UInt32} {gps : GPS F} :
    (vip, gps) ∈ found.2 ↔ ∃ entry, table[vip]? = some entry ∧
      collectedPosition host gaussrand untilTime (vip, entry) = some gps := by
  have collected := @collect_foldlM _ _ _ _ _ _ _ _ run vip gps
  simpa only [List.not_mem_nil, false_or, Std.ExtTreeMap.mem_toList_iff_getElem?_eq_some]
    using collected

theorem collect_foldlM_isSome {entries : List (UInt32 × NeighborEntry F)}
    (found : NeighborTable F × List (UInt32 × GPS F)) :
    (entries.foldlM (collectStep host gaussrand untilTime) found).isSome ↔
      ∀ iter ∈ entries, olderThan ttlNeighborTable untilTime iter.2.timestamp = false →
        (host.advancedPredict (gaussrand iter.1) iter.2.gpsq
          (UInt32.ofInt (age untilTime iter.2.timestamp)) iter.2.speed).isSome := by
  induction entries generalizing found with
  | nil => simp
  | cons iter rest ih =>
      rw [List.foldlM_cons, List.forall_mem_cons, collectStep]
      cases old : olderThan ttlNeighborTable untilTime iter.2.timestamp with
      | true => simp [ih]
      | false =>
          cases predicted : host.advancedPredict (gaussrand iter.1) iter.2.gpsq
            (UInt32.ofInt (age untilTime iter.2.timestamp)) iter.2.speed with
          | none => simp
          | some gps => simp [ih]

theorem collect_isSome_iff {table : NeighborTable F} :
    (collect host gaussrand untilTime table).isSome ↔
      ∀ (vip : UInt32) (entry : NeighborEntry F), table[vip]? = some entry →
        olderThan ttlNeighborTable untilTime entry.timestamp = false →
          (host.advancedPredict (gaussrand vip) entry.gpsq
            (UInt32.ofInt (age untilTime entry.timestamp)) entry.speed).isSome := by
  rw [collect, collect_foldlM_isSome, Prod.forall]
  simp only [Std.ExtTreeMap.mem_toList_iff_getElem?_eq_some]

theorem collect_table {entries : List (UInt32 × NeighborEntry F)}
    {found last : NeighborTable F × List (UInt32 × GPS F)}
    (loop : entries.foldlM (collectStep host gaussrand untilTime) found = some last) :
    last.1 = entries.foldl
      (MapSweep.step (olderThan ttlNeighborTable untilTime ·.timestamp)) found.1 := by
  induction entries generalizing found with
  | nil =>
      obtain rfl := Option.some.inj loop
      rfl
  | cons iter rest ih =>
      rw [List.foldlM_cons] at loop
      obtain ⟨middle, step, later⟩ := Option.bind_eq_some_iff.mp loop
      rw [ih later, List.foldl_cons, MapSweep.step]
      unfold collectStep at step
      by_cases old : olderThan ttlNeighborTable untilTime iter.2.timestamp = true
      · rw [if_pos old] at step ⊢
        rw [← Option.some.inj step]
      · rw [if_neg old] at step ⊢
        obtain ⟨gps, -, rfl⟩ := Option.map_eq_some_iff.mp step
        rfl

/-- The first loop of `RouteMakeup` purges the table, and collects only what stays in it. -/
theorem collect_spec {table : NeighborTable F}
    {found : NeighborTable F × List (UInt32 × GPS F)}
    (run : collect host gaussrand untilTime table = some found) :
    found.1 = MapSweep.sweep (olderThan ttlNeighborTable untilTime ·.timestamp) table ∧
      ∀ position ∈ found.2, ∃ entry, found.1[position.1]? = some entry := by
  have purged : found.1 = MapSweep.sweep _ table := collect_table run
  refine ⟨purged, ?_⟩
  rintro ⟨vip, gps⟩ member
  obtain ⟨entry, held, collected⟩ := (collect_positions run).mp member
  refine ⟨entry, ?_⟩
  rw [purged]
  apply MapSweep.getElem?_sweep_eq_some.mpr
  refine ⟨held, ?_⟩
  unfold collectedPosition at collected
  split at collected
  · cases collected
  · rename_i fresh
    exact Bool.not_eq_true _ ▸ fresh

end

section

variable {F D : Type} [DoublePrecision D]

/-- A scan over positions of entries that are in the table finds the table's addresses. -/
theorem scan_spec (host : Host F D) (usable : GPS F → Bool) (dstGps : GPS F)
    {table : NeighborTable F} {positions : List (UInt32 × GPS F)}
    (present : ∀ position ∈ positions, ∃ entry, table[position.1]? = some entry)
    (best : D × UInt32) :
    ∃ last, scan host usable table dstGps positions best = some last ∧
      (last = best ∨ ∃ (vip : UInt32) (entry : NeighborEntry F),
        table[vip]? = some entry ∧ last.2 = entry.phyIp) := by
  induction positions generalizing best with
  | nil => exact ⟨best, rfl, Or.inl rfl⟩
  | cons position rest ih =>
      obtain ⟨entry, held⟩ := present position List.mem_cons_self
      have later := ih fun other member => present other (List.mem_cons_of_mem _ member)
      have skipped : scanStep host usable table dstGps best position = some best →
          ∃ last, scan host usable table dstGps (position :: rest) best = some last ∧
            (last = best ∨ ∃ (vip : UInt32) (entry : NeighborEntry F),
              table[vip]? = some entry ∧ last.2 = entry.phyIp) := by
        intro same
        rw [scan, List.foldlM_cons, same]
        exact later best
      unfold scanStep at skipped
      by_cases tried : usable position.2 = true
      · by_cases closer : host.calModule position.2 dstGps < best.1
        · rw [scan, List.foldlM_cons, scanStep, if_pos tried, if_pos closer, held]
          obtain ⟨last, run, result⟩ := later (host.calModule position.2 dstGps, entry.phyIp)
          refine ⟨last, run, Or.inr ?_⟩
          rcases result with rfl | found
          · exact ⟨position.1, entry, held, rfl⟩
          · exact found
        · exact skipped (by rw [if_pos tried, if_neg closer])
      · exact skipped (by rw [if_neg tried])

def makeupAnswer (host : Host F D) (selfGps dstGps : GPS F)
    (found : NeighborTable F × List (UInt32 × GPS F)) : Option UInt32 :=
  (scan host (inCone host selfGps dstGps) found.1 dstGps found.2 (maxDistance, 0)).bind
    fun first =>
      if nearZero (first.1 - maxDistance) then
        (scan host (fun _ => true) found.1 dstGps found.2 first).map fun second =>
          if nearZero (second.1 - maxDistance) then broadcastAddress else second.2
      else some first.2

/-- The answer is the broadcast address or the physical address of an entry of the table. -/
theorem makeupAnswer_spec (host : Host F D) (selfGps dstGps : GPS F)
    {found : NeighborTable F × List (UInt32 × GPS F)}
    (present : ∀ position ∈ found.2, ∃ entry, found.1[position.1]? = some entry) :
    ∃ nextHopId, makeupAnswer host selfGps dstGps found = some nextHopId ∧
      (nextHopId = broadcastAddress ∨ ∃ (vip : UInt32) (entry : NeighborEntry F),
        found.1[vip]? = some entry ∧ nextHopId = entry.phyIp) := by
  obtain ⟨first, run, result⟩ := scan_spec host (inCone host selfGps dstGps) dstGps present
    (maxDistance, 0)
  rw [makeupAnswer, run, Option.bind_some]
  by_cases untouched : nearZero (first.1 - maxDistance) = true
  · obtain ⟨second, rerun, result'⟩ := scan_spec host (fun _ => true) dstGps present first
    rw [if_pos untouched, rerun, Option.map_some]
    by_cases still : nearZero (second.1 - maxDistance) = true
    · exact ⟨_, rfl, Or.inl (if_pos still)⟩
    · refine ⟨_, rfl, Or.inr ?_⟩
      rw [if_neg still]
      rcases result' with rfl | found
      · exact absurd untouched still
      · exact found
  · rw [if_neg untouched]
    refine ⟨_, rfl, Or.inr ?_⟩
    rcases result with rfl | found
    · exact absurd nearZero_maxDistance untouched
    · exact found

/-- The table `RouteMakeup` leaves and its answer, unless a prediction is undefined. -/
def routeChoice (host : Host F D) (now : Timeval) (gaussrand : UInt32 → Nat → D) (ir : IR F D)
    (dstGps : GPS F) : Option (NeighborTable F × UInt32) :=
  (collect host gaussrand (untilTime ir.beginTime now) ir.neighborTable).bind fun found =>
    (makeupAnswer host ir.gps dstGps found).map fun nextHopId => (found.1, nextHopId)

theorem routeMakeup_run (host : Host F D) (now : Timeval) (gaussrand : UInt32 → Nat → D)
    (dstGps : GPS F) (ir : IR F D) :
    (routeMakeup host now gaussrand dstGps).run ir =
      match routeChoice host now gaussrand ir dstGps with
      | none => ⟨.error .outOfBounds, ir, [.routeMakeupCalled dstGps ir.gps]⟩
      | some choice =>
          ⟨.ok choice.2, { ir with neighborTable := choice.1 },
            [.routeMakeupCalled dstGps ir.gps]⟩ := by
  unfold routeMakeup routeChoice
  cases run : collect host gaussrand (untilTime ir.beginTime now) ir.neighborTable with
  | none => simp [run]
  | some found =>
      obtain ⟨nextHopId, answer, -⟩ := makeupAnswer_spec host ir.gps dstGps (collect_spec run).2
      rw [Option.bind_some, answer, Option.map_some]
      obtain ⟨first, scanned, rest⟩ := Option.bind_eq_some_iff.mp answer
      by_cases untouched : nearZero (first.1 - maxDistance) = true
      · rw [if_pos untouched] at rest
        obtain ⟨second, rescanned, last⟩ := Option.map_eq_some_iff.mp rest
        by_cases still : nearZero (second.1 - maxDistance) = true
        · rw [if_pos still] at last
          simp [run, scanned, untouched, rescanned, still, last]
        · rw [if_neg still] at last
          simp [run, scanned, untouched, rescanned, still, last]
      · rw [if_neg untouched] at rest
        obtain rfl := Option.some.inj rest
        simp [run, scanned, untouched]

theorem routeMakeup_inBounds_iff {host : Host F D} {now : Timeval}
    {gaussrand : UInt32 → Nat → D} {dstGps : GPS F} {ir : IR F D} :
    ((routeMakeup host now gaussrand dstGps).run ir).result ≠ .error .outOfBounds ↔
      (collect host gaussrand (untilTime ir.beginTime now) ir.neighborTable).isSome := by
  rw [routeMakeup_run, routeChoice]
  cases run : collect host gaussrand (untilTime ir.beginTime now) ir.neighborTable with
  | none => simp
  | some found =>
      obtain ⟨nextHopId, answer, -⟩ := makeupAnswer_spec host ir.gps dstGps (collect_spec run).2
      simp [answer]

/-- What `RouteMakeup` leaves and answers comes from the entries it did not purge. -/
theorem routeChoice_spec {host : Host F D} {now : Timeval} {gaussrand : UInt32 → Nat → D}
    {ir : IR F D} {dstGps : GPS F} {choice : NeighborTable F × UInt32}
    (chosen : routeChoice host now gaussrand ir dstGps = some choice) :
    choice.1 = MapSweep.sweep
        (olderThan ttlNeighborTable (untilTime ir.beginTime now) ·.timestamp) ir.neighborTable ∧
      (choice.2 = broadcastAddress ∨ ∃ (vip : UInt32) (entry : NeighborEntry F),
        choice.1[vip]? = some entry ∧ choice.2 = entry.phyIp) := by
  obtain ⟨found, run, rest⟩ := Option.bind_eq_some_iff.mp chosen
  obtain ⟨nextHopId, answer, rfl⟩ := Option.map_eq_some_iff.mp rest
  obtain ⟨purged, present⟩ := collect_spec run
  obtain ⟨same, answer', result⟩ := makeupAnswer_spec host ir.gps dstGps present
  rw [answer] at answer'
  obtain rfl := Option.some.inj answer'
  exact ⟨purged, result⟩

end

section

variable {F D : Type} [DoublePrecision D] [SinglePrecision F D]

def legalVerdict (host : Host F D) (now : Timeval) (ir : IR F D) (nghbrIp : UInt32)
    (dstGps : GPS F) : Bool :=
  match ir.neighborTable[nghbrIp]? with
  | none => false
  | some entry =>
      !olderThan ttlNeighborTable (untilTime ir.beginTime now) entry.timestamp &&
        decide (legalAngle host ir.gps entry.gps dstGps < calNextHopAngle)

def legalTable (now : Timeval) (ir : IR F D) (nghbrIp : UInt32) : NeighborTable F :=
  match ir.neighborTable[nghbrIp]? with
  | none => ir.neighborTable
  | some entry =>
      if olderThan ttlNeighborTable (untilTime ir.beginTime now) entry.timestamp then
        ir.neighborTable.erase nghbrIp
      else ir.neighborTable

theorem isLegal_run (host : Host F D) (now : Timeval) (nghbrIp : UInt32) (dstGps : GPS F)
    (ir : IR F D) :
    (isLegal host now nghbrIp dstGps).run ir =
      ⟨.ok (legalVerdict host now ir nghbrIp dstGps),
        { ir with neighborTable := legalTable now ir nghbrIp },
        [.isLegalCalled nghbrIp dstGps ir.gps]⟩ := by
  unfold isLegal legalVerdict legalTable
  cases held : ir.neighborTable[nghbrIp]? with
  | none => simp [held]
  | some entry =>
      by_cases old : olderThan ttlNeighborTable (untilTime ir.beginTime now) entry.timestamp = true
      · simp [held, old]
      · rw [Bool.not_eq_true] at old
        simp [held, old]

/-- The neighbour entry that `IsLegal` accepted. -/
theorem legalVerdict_eq_true {host : Host F D} {now : Timeval} {ir : IR F D} {nghbrIp : UInt32}
    {dstGps : GPS F} :
    legalVerdict host now ir nghbrIp dstGps = true ↔
      ∃ entry, ir.neighborTable[nghbrIp]? = some entry ∧
        olderThan ttlNeighborTable (untilTime ir.beginTime now) entry.timestamp = false ∧
        legalAngle host ir.gps entry.gps dstGps < calNextHopAngle := by
  unfold legalVerdict
  cases ir.neighborTable[nghbrIp]? with
  | none => simp
  | some entry => simp

theorem legalTable_of_legal {host : Host F D} {now : Timeval} {ir : IR F D} {nghbrIp : UInt32}
    {dstGps : GPS F} (legal : legalVerdict host now ir nghbrIp dstGps = true) :
    legalTable now ir nghbrIp = ir.neighborTable := by
  obtain ⟨entry, held, fresh, -⟩ := legalVerdict_eq_true.mp legal
  rw [legalTable, held]
  exact if_neg (Bool.not_eq_true _ ▸ fresh)

end

end TunVideo
