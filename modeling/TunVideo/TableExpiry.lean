import TunVideo.Beacon

set_option autoImplicit false

namespace TunVideo

variable {F D : Type} [SinglePrecision F D]

/-- Entries of nodes other than `vip` that are gone from the second table were expired. -/
def EvictsOnlyExpired {ν : Type} (timestamp : ν → UInt32) (untilTime : Int) (vip : UInt32)
    (before after : Std.ExtTreeMap UInt32 ν) : Prop :=
  ∀ other entry, other ≠ vip → before[other]? = some entry → after[other]? = none →
    olderThan ttlNeighborTable untilTime (timestamp entry) = true

/-- A beacon removes entries of other nodes from either table only when they are expired. -/
def ExpiryAgrees (host : Host F D) (now : Timeval) (message : BeaconMessage) (ir : IR F D) :
    Prop :=
  let after := ((buildNeighbor host now message).run ir).state
  EvictsOnlyExpired NeighborEntry.timestamp (untilTime ir.beginTime now) message.virIp
      ir.neighborTable after.neighborTable ∧
    EvictsOnlyExpired ForwardTableEntry.timestamp (untilTime ir.beginTime now) message.virIp
      ir.forwardTable after.forwardTable

/-- No entry of a node other than `vip` has an age between the two limits. -/
def NoneBetween {ν : Type} (timestamp : ν → UInt32) (untilTime : Int) (vip : UInt32)
    (table : Std.ExtTreeMap UInt32 ν) : Prop :=
  ∀ other entry, other ≠ vip → table[other]? = some entry →
    ¬(5 < age untilTime (timestamp entry) ∧
      age untilTime (timestamp entry) ≤ ttlNeighborTable)

/-- A table that is purged at the limit of 5, apart from the entry of `vip`. -/
theorem evictsOnlyExpired_iff {ν : Type} {timestamp : ν → UInt32} {untilTime : Int}
    {vip : UInt32} {before after : Std.ExtTreeMap UInt32 ν}
    (purged : ∀ other, other ≠ vip →
      after[other]? = (MapSweep.sweep (olderThan 5 untilTime <| timestamp ·) before)[other]?) :
    EvictsOnlyExpired timestamp untilTime vip before after ↔
      NoneBetween timestamp untilTime vip before := by
  constructor
  · intro agrees other entry differs held between
    have gone : after[other]? = none := by
      rw [purged other differs, MapSweep.getElem?_sweep_eq_none]
      intro entry' held'
      rw [held] at held'
      rw [← Option.some.inj held', olderThan_eq_true]
      exact between.1
    have expired := agrees other entry differs held gone
    rw [olderThan_eq_true] at expired
    omega
  · intro none other entry differs held gone
    rw [purged other differs, MapSweep.getElem?_sweep_eq_none] at gone
    have old := gone entry held
    have outside := none other entry differs held
    rw [olderThan_eq_true] at old ⊢
    omega

/-- The two expiry criteria give the same result exactly when no entry is aged between them. -/
theorem buildNeighbor_expiryAgrees_iff (host : Host F D) (now : Timeval)
    (message : BeaconMessage) (ir : IR F D) :
    ExpiryAgrees host now message ir ↔
      NoneBetween NeighborEntry.timestamp (untilTime ir.beginTime now) message.virIp
          ir.neighborTable ∧
        NoneBetween ForwardTableEntry.timestamp (untilTime ir.beginTime now) message.virIp
          ir.forwardTable := by
  unfold ExpiryAgrees
  rw [buildNeighbor_run]
  refine and_congr (evictsOnlyExpired_iff ?_) (evictsOnlyExpired_iff ?_)
  · intro other differs
    exact getElem?_neighborAfter_other host _ message _ differs
  · intro other differs
    exact getElem?_forwardAfter_other _ message _ differs

def heardAtStart : NeighborEntry Float32 where
  gps := ⟨0, 0⟩
  timestamp := 0
  speed := ⟨0, 0⟩
  phyIp := 0x0200A8C0
  gpsq := [⟨0, 0⟩]

/-- One second later a beacon of another node evicts it. -/
theorem buildNeighbor_evicts_live :
    ¬ExpiryAgrees .shortHistories ⟨1, 0⟩ ⟨0x0300000A, 0x0300A8C0, 0, 0, 0, 0⟩
      { loneNode with
        neighborTable := (∅ : NeighborTable Float32).insert 0x0200000A heardAtStart } := by
  intro agrees
  have gone := agrees.1 0x0200000A heardAtStart (by decide)
    Std.ExtTreeMap.getElem?_insert_self
  rw [buildNeighbor_run, getElem?_neighborAfter_other _ _ _ _ (by decide),
    MapSweep.getElem?_sweep_eq_none] at gone
  have old := gone fun entry held => by
    rw [Std.ExtTreeMap.getElem?_insert_self] at held
    rw [← Option.some.inj held]
    decide
  exact absurd old (by decide)

end TunVideo
