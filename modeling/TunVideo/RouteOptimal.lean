import TunVideo.NextHop

set_option autoImplicit false

namespace TunVideo

noncomputable instance : DoublePrecision ℝ where
  decidableLT := inferInstance
  decidableLE := inferInstance
  sqrt := Real.sqrt
  acos := Real.arccos
  asin := Real.arcsin
  sin := Real.sin
  cos := Real.cos
  tan := Real.tan
  log := Real.log
  pow := fun x y => x ^ y
  distance_self := by norm_num

theorem nearZero_iff {distance : ℝ} (below : distance ≤ maxDistance) :
    nearZero (distance - maxDistance) = true ↔ (maxDistance : ℝ) - epsinon ≤ distance := by
  have limit : (maxDistance : ℝ) = 200.0 := rfl
  have tolerance : (epsinon : ℝ) = 0.00000001 := rfl
  rw [nearZero, Bool.and_eq_true, decide_eq_true_eq, decide_eq_true_eq]
  rw [limit] at below ⊢
  rw [tolerance]
  constructor
  · rintro ⟨above, -⟩
    linarith
  · intro near
    constructor <;> linarith

section

variable {F : Type} (host : Host F ℝ) (selfGps dstGps : GPS F) (untilTime : Int)
  (table : NeighborTable F) (position : UInt32 × NeighborEntry F → GPS F)

/-- A live neighbour that a scan does not skip and that is near enough to the destination. -/
structure Usable (eligible : GPS F → Bool) (vip : UInt32) (entry : NeighborEntry F) : Prop where
  held : table[vip]? = some entry
  live : age untilTime entry.timestamp ≤ ttlNeighborTable
  eligible : eligible (position (vip, entry)) = true
  near : host.calModule (position (vip, entry)) dstGps < maxDistance - epsinon

/-- The usable neighbour of least distance, with the smallest virtual address among equals. -/
structure IsClosest (eligible : GPS F → Bool) (vip : UInt32) (entry : NeighborEntry F) :
    Prop where
  usable : Usable host dstGps untilTime table position eligible vip entry
  least : ∀ other entry', Usable host dstGps untilTime table position eligible other entry' →
    host.calModule (position (vip, entry)) dstGps <
        host.calModule (position (other, entry')) dstGps ∨
      host.calModule (position (vip, entry)) dstGps =
        host.calModule (position (other, entry')) dstGps ∧ vip ≤ other

/-- The next hop for a destination: the closest neighbour in the cone, else the closest
neighbour, else the broadcast address. -/
inductive RightHop : UInt32 → Prop
  | inCone (vip : UInt32) (entry : NeighborEntry F)
      (closest : IsClosest host dstGps untilTime table position (inCone host selfGps dstGps)
        vip entry) : RightHop entry.phyIp
  | anywhere (vip : UInt32) (entry : NeighborEntry F)
      (none : ∀ other entry', ¬Usable host dstGps untilTime table position
        (TunVideo.inCone host selfGps dstGps) other entry')
      (closest : IsClosest host dstGps untilTime table position (fun _ => true) vip entry) :
      RightHop entry.phyIp
  | nobody
      (none : ∀ other entry', ¬Usable host dstGps untilTime table position (fun _ => true)
        other entry') : RightHop broadcastAddress

end

section

variable {F : Type} {host : Host F ℝ} {dstGps : GPS F} {untilTime : Int}
  {table : NeighborTable F} {position : UInt32 × NeighborEntry F → GPS F}

/-- A usable neighbour is among the candidates of the scan. -/
theorem Usable.candidate {eligible : GPS F → Bool} {vip : UInt32} {entry : NeighborEntry F}
    (usable : Usable host dstGps untilTime table position eligible vip entry) :
    (vip, entry) ∈ (liveEntries untilTime table).filter fun iter => eligible (position iter) :=
  List.mem_filter.mpr ⟨mem_liveEntries.mpr ⟨usable.held, usable.live⟩, usable.eligible⟩

/-- The first of the nearest candidates of a scan is the closest neighbour: the table lists its
entries by virtual address. -/
theorem first_least {eligible : GPS F → Bool} {vip : UInt32} {entry : NeighborEntry F}
    {front back : List (UInt32 × NeighborEntry F)}
    (split : ((liveEntries untilTime table).filter fun iter => eligible (position iter)) =
      front ++ (vip, entry) :: back)
    (before : ∀ iter ∈ front, host.calModule (position (vip, entry)) dstGps <
      host.calModule (position iter) dstGps)
    (behind : ∀ iter ∈ back, host.calModule (position (vip, entry)) dstGps ≤
      host.calModule (position iter) dstGps)
    (other : UInt32) (entry' : NeighborEntry F)
    (usable : Usable host dstGps untilTime table position eligible other entry') :
    host.calModule (position (vip, entry)) dstGps <
        host.calModule (position (other, entry')) dstGps ∨
      host.calModule (position (vip, entry)) dstGps =
        host.calModule (position (other, entry')) dstGps ∧ vip ≤ other := by
  have ordered := (liveEntries_ordered untilTime table).filter fun iter =>
    eligible (position iter)
  have member := usable.candidate
  rw [split] at ordered member
  have first := @lightest_first _ _ _ _ (fun iter => host.calModule (position iter) dstGps)
    _ _ _ ordered before behind _ member
  apply first.imp_right
  rintro ⟨equal, same | larger⟩
  · exact ⟨equal, UInt32.le_of_eq (congrArg Prod.fst same).symm⟩
  · exact ⟨equal, UInt32.le_of_lt larger⟩

/-- A scan that starts within the tolerance of `MAXDISTANCE` leaves it exactly when there is
a usable neighbour, and then with the closest one. -/
theorem runningMinimum_closest (host : Host F ℝ) (dstGps : GPS F) (untilTime : Int)
    (table : NeighborTable F) (position : UInt32 × NeighborEntry F → GPS F)
    (eligible : GPS F → Bool) {best : ℝ × UInt32}
    (below : best.1 ≤ maxDistance) (above : (maxDistance : ℝ) - epsinon ≤ best.1) :
    let last := runningMinimum best
      (candidates host eligible dstGps position (liveEntries untilTime table))
    (nearZero (last.1 - maxDistance) = true ∧ last.1 ≤ maxDistance ∧
        (maxDistance : ℝ) - epsinon ≤ last.1 ∧
        ∀ vip entry, ¬Usable host dstGps untilTime table position eligible vip entry) ∨
      (¬nearZero (last.1 - maxDistance) = true ∧ ∃ vip entry,
        IsClosest host dstGps untilTime table position eligible vip entry ∧
          last.2 = entry.phyIp) := by
  intro last
  rcases runningMinimum_spec best
      (candidates host eligible dstGps position (liveEntries untilTime table)) with
    unbeaten | ⟨front, found, back, lightest⟩
  · have same : last = best := unbeaten.kept
    refine Or.inl ⟨?_, same ▸ below, same ▸ above, ?_⟩
    · rw [same, nearZero_iff below]
      exact above
    · intro vip entry usable
      have nearer := unbeaten.least _ (List.mem_map_of_mem usable.candidate)
      have near := usable.near
      dsimp only at nearer
      linarith
  · obtain ⟨earlier, rest, split, rfl, later⟩ := List.map_eq_append_iff.mp lightest.split
    obtain ⟨⟨vip, entry⟩, behind, rfl, rfl, rfl⟩ := List.map_eq_cons_iff.mp later
    have result : last = (host.calModule (position (vip, entry)) dstGps, entry.phyIp) :=
      lightest.result
    have closer : host.calModule (position (vip, entry)) dstGps < best.1 := lightest.lighter
    have within : last.1 ≤ maxDistance := by
      rw [result]
      exact closer.le.trans below
    have least := first_least split
      (fun iter before => lightest.before _ (List.mem_map_of_mem before))
      (fun iter behind => lightest.behind _ (List.mem_map_of_mem behind))
    by_cases near : nearZero (last.1 - maxDistance) = true
    · have limit := (nearZero_iff within).mp near
      refine Or.inl ⟨near, within, limit, ?_⟩
      intro other entry' usable
      have nearer := usable.near
      rw [result] at limit
      dsimp only at limit
      rcases least other entry' usable with less | ⟨equal, -⟩
      · linarith
      · linarith
    · refine Or.inr ⟨near, vip, entry, ⟨?_, least⟩, by rw [result]⟩
      have chosen : (vip, entry) ∈ (liveEntries untilTime table).filter fun iter =>
          eligible (position iter) := by
        rw [split]
        exact List.mem_append_right _ List.mem_cons_self
      obtain ⟨listed, tried⟩ := List.mem_filter.mp chosen
      obtain ⟨held, live⟩ := mem_liveEntries.mp listed
      rw [nearZero_iff within, not_le, result] at near
      exact ⟨held, live, tried, near⟩

theorem closestHop_rightHop (selfGps : GPS F) :
    RightHop host selfGps dstGps untilTime table position
      (closestHop host selfGps dstGps position (liveEntries untilTime table)) := by
  have tolerance : (maxDistance : ℝ) - epsinon ≤ maxDistance :=
    (nearZero_iff le_rfl).mp nearZero_maxDistance
  have start : ((maxDistance, 0) : ℝ × UInt32).1 ≤ maxDistance := le_rfl
  unfold closestHop selectNextHop
  rcases runningMinimum_closest host dstGps untilTime table position (inCone host selfGps dstGps)
      start tolerance with
    ⟨untouched, below, above, none⟩ | ⟨found, vip, entry, closest, answer⟩
  · rw [if_pos untouched]
    dsimp only
    rcases runningMinimum_closest host dstGps untilTime table position (fun _ => true) below
        above with
      ⟨still, -, -, nobody⟩ | ⟨found, vip, entry, closest, answer⟩
    · rw [if_pos still]
      exact .nobody nobody
    · rw [if_neg found, answer]
      exact .anywhere vip entry none closest
  · rw [if_neg found, answer]
    exact .inCone vip entry closest

end

/-- `RouteMakeup` answers the right next hop, and leaves the live entries of the neighbour
table and everything else as it was. -/
theorem routeMakeup_rightHop {F : Type} (host : Host F ℝ)
    (predict : (Nat → ℝ) → List (GPS F) → UInt32 → Speed F → GPS F) (now : Timeval)
    (gaussrand : UInt32 → Nat → ℝ) (dstGps : GPS F) (ir : IR F ℝ) :
    let total := { host with advancedPredict := fun values q time v => some (predict values q time v) }
    let now' := untilTime ir.beginTime now
    let position := fun iter : UInt32 × NeighborEntry F =>
      predict (gaussrand iter.1) iter.2.gpsq (UInt32.ofInt (age now' iter.2.timestamp)) iter.2.speed
    let outcome := (routeMakeup total now gaussrand dstGps).run ir
    (∃ nextHopId, outcome.result = .ok nextHopId ∧
        RightHop total ir.gps dstGps now' ir.neighborTable position nextHopId) ∧
      (∀ (vip : UInt32) (entry : NeighborEntry F), outcome.state.neighborTable[vip]? = some entry ↔
        ir.neighborTable[vip]? = some entry ∧ age now' entry.timestamp ≤ ttlNeighborTable) ∧
      outcome.state = { ir with neighborTable := outcome.state.neighborTable } := by
  intro total now' position outcome
  have predicts : Predicts total gaussrand now' position ir.neighborTable.toList :=
    fun _ _ _ => rfl
  have run : outcome = _ := routeMakeup_predicted dstGps ir predicts
  rw [run]
  refine ⟨⟨_, rfl, closestHop_rightHop ir.gps⟩, ?_, rfl⟩
  intro vip entry
  rw [MapSweep.getElem?_sweep_eq_some, olderThan_eq_false]

end TunVideo
