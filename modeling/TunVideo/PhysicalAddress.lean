import TunVideo.RouteResult
import TunVideo.Schedule

set_option autoImplicit false

/- The physical address of a neighbour. Both tables store it, and an update of a neighbour
entry leaves it as it was. -/
namespace TunVideo

open Program SinglePrecision

section

variable {F D : Type}

/-- A node, and the physical address in the latest beacon of each virtual address. -/
structure Announced (F D : Type) where
  ir : IR F D
  latest : UInt32 → Option UInt32

/-- The tables hold no physical address that its owner has replaced. -/
structure Announced.Current (state : Announced F D) : Prop where
  forward : ∀ (vip : UInt32) (route : ForwardTableEntry F),
    state.ir.forwardTable[vip]? = some route → state.latest vip = some route.nextHopIp
  neighbor : ∀ (vip : UInt32) (entry : NeighborEntry F),
    state.ir.neighborTable[vip]? = some entry → state.latest vip = some entry.phyIp

/-- `gps_by_ip` returns the address that was announced last. -/
theorem Announced.Current.gpsByIp {state : Announced F D} (current : state.Current)
    {vip address : UInt32} {gps : GPS F} (found : gpsByIp state.ir vip = some (address, gps)) :
    state.latest vip = some address := by
  obtain ⟨route, held, same⟩ := Option.map_eq_some_iff.mp found
  rw [current.forward vip route held]
  exact congrArg some (Prod.mk.inj same).1

/-- `RouteMakeup` returns an address that a neighbour has announced last, or none. -/
theorem Announced.Current.routeMakeup [DoublePrecision D] {state : Announced F D}
    (current : state.Current) {host : Host F D} {now : Timeval} {gaussrand : UInt32 → Nat → D}
    {dstGps : GPS F} {choice : NeighborTable F × UInt32}
    (chosen : routeChoice host now gaussrand state.ir dstGps = some choice) :
    choice.2 = broadcastAddress ∨ ∃ vip, state.latest vip = some choice.2 := by
  obtain ⟨purged, answer⟩ := routeChoice_spec chosen
  apply answer.imp_right
  rintro ⟨vip, entry, held, address⟩
  rw [purged] at held
  rw [address]
  exact ⟨vip, current.neighbor vip entry (MapSweep.getElem?_sweep_eq_some.mp held).1⟩

variable [SinglePrecision F D]

structure BeaconStep (host : Host F D) (before : Announced F D)
    (beacon : Timeval × BeaconMessage) (after : Announced F D) : Prop where
  ir : after.ir = ((buildNeighbor host beacon.1 beacon.2).run before.ir).state
  latest : after.latest =
    Function.update before.latest beacon.2.virIp (some beacon.2.phyIp)

/-- A run of beacons, from a state that `init` has left. -/
structure BeaconRun (host : Host F D) where
  initial : IR F D
  history : List (Announced F D × (Timeval × BeaconMessage))
  last : Announced F D
  start : initial.Initial
  steps : History (BeaconStep host) ⟨initial, fun _ => none⟩ history last

/-- Both tables show the physical address of a beacon that has just been processed. -/
structure LeavesAddress (host : Host F D) (before : Announced F D)
    (beacon : Timeval × BeaconMessage) : Prop where
  forward : (((buildNeighbor host beacon.1 beacon.2).run
    before.ir).state.forwardTable[beacon.2.virIp]?).map ForwardTableEntry.nextHopIp =
      some beacon.2.phyIp
  neighbor : (((buildNeighbor host beacon.1 beacon.2).run
    before.ir).state.neighborTable[beacon.2.virIp]?).map NeighborEntry.phyIp =
      some beacon.2.phyIp

/-- The neighbour table has no entry of the sender that is at most five milliseconds old and
shows another physical address. -/
def KeepsAddress (before : Announced F D) (beacon : Timeval × BeaconMessage) : Prop :=
  ∀ entry, before.ir.neighborTable[beacon.2.virIp]? = some entry →
    age (untilTime before.ir.beginTime beacon.1) entry.timestamp ≤ 5 →
    entry.phyIp = beacon.2.phyIp

end

section

variable {F D : Type} [SinglePrecision F D] {host : Host F D} {before after : Announced F D}
  {beacon : Timeval × BeaconMessage}

theorem survived_iff {untilTime : Int} {table : NeighborTable F} {vip : UInt32}
    {entry : NeighborEntry F} :
    (MapSweep.sweep (olderThan 5 untilTime ·.timestamp) table)[vip]? = some entry ↔
      table[vip]? = some entry ∧ age untilTime entry.timestamp ≤ 5 := by
  rw [MapSweep.getElem?_sweep_eq_some, olderThan_eq_false]

/-- A beacon leaves its physical address in both tables if and only if it does not update an
entry with another one. -/
theorem leavesAddress_iff : LeavesAddress host before beacon ↔ KeepsAddress before beacon := by
  constructor
  · intro leaves entry held recent
    have shown := leaves.neighbor
    rw [buildNeighbor_run, getElem?_neighborAfter_self, survived_iff.mpr ⟨held, recent⟩] at shown
    exact Option.some.inj shown
  · intro keeps
    constructor
    · rw [buildNeighbor_run, getElem?_forwardAfter_self, Option.map_some]
    · rw [buildNeighbor_run, getElem?_neighborAfter_self, Option.map_some]
      cases survived : (MapSweep.sweep
          (olderThan 5 (untilTime before.ir.beginTime beacon.1) ·.timestamp)
          before.ir.neighborTable)[beacon.2.virIp]? with
      | none => rfl
      | some entry =>
          obtain ⟨held, recent⟩ := survived_iff.mp survived
          exact congrArg some (keeps entry held recent)

/-- A beacon that leaves its address in both tables leaves no replaced address behind. -/
theorem beaconStep_current (current : before.Current) (step : BeaconStep host before beacon after)
    (leaves : LeavesAddress host before beacon) : after.Current := by
  have forwardOwn := leaves.forward
  have neighborOwn := leaves.neighbor
  constructor
  · intro vip route held
    rw [step.ir] at held
    rw [step.latest]
    by_cases own : vip = beacon.2.virIp
    · rw [← own, held] at forwardOwn
      rw [own, Function.update_self]
      exact forwardOwn.symm
    · rw [Function.update_of_ne own]
      rw [buildNeighbor_run] at held
      rcases forwardAfter_cases held with ⟨sender, -⟩ | ⟨-, listed, -⟩
      · exact absurd sender own
      · exact current.forward vip route listed
  · intro vip entry held
    rw [step.ir] at held
    rw [step.latest]
    by_cases own : vip = beacon.2.virIp
    · rw [← own, held] at neighborOwn
      rw [own, Function.update_self]
      exact neighborOwn.symm
    · rw [Function.update_of_ne own]
      rw [buildNeighbor_run] at held
      rcases neighborAfter_cases held with ⟨sender, -⟩ | ⟨-, listed, -⟩
      · exact absurd sender own
      · exact current.neighbor vip entry listed

/-- In every run of beacons, each beacon leaves its physical address in both tables and these
never hold a replaced one, if and only if no beacon updates an entry that is at most five
milliseconds old and shows another address. -/
theorem run_addressesAgree_iff (run : BeaconRun host) :
    (∀ visited ∈ run.history, visited.1.Current ∧ LeavesAddress host visited.1 visited.2) ∧
        run.last.Current ↔
      ∀ visited ∈ run.history, KeepsAddress visited.1 visited.2 := by
  have start : Announced.Current (F := F) ⟨run.initial, fun _ => none⟩ := by
    constructor
    · intro vip route held
      simp [run.start.forward] at held
    · intro vip entry held
      simp [run.start.neighbor] at held
  apply run.steps.forall_iff start
  · exact fun _ current => current
  · intro before beacon after current step keeps
    exact beaconStep_current current step (leavesAddress_iff.mpr keeps)
  · intro before beacon after current step
    rw [leavesAddress_iff]
    constructor
    · exact And.left
    · intro keeps
      exact ⟨keeps, beaconStep_current current step (leavesAddress_iff.mpr keeps)⟩

end

def announcing (phyIp : UInt32) : BeaconMessage := ⟨0x0200000A, phyIp, 1, 0, 0, 0⟩

def announcedOnce : Announced Float32 Float where
  ir := ((buildNeighbor Host.shortHistories ⟨0, 0⟩ (announcing 0x0200A8C0)).run loneNode).state
  latest := Function.update (fun _ => none) 0x0200000A (some 0x0200A8C0)

/-- Three milliseconds later 10.0.0.2 announces another address. -/
def announcedTwice : BeaconRun Host.shortHistories where
  initial := loneNode
  history := [(⟨loneNode, fun _ => none⟩, (⟨0, 0⟩, announcing 0x0200A8C0)),
    (announcedOnce, (⟨0, 3000⟩, announcing 0x0300A8C0))]
  last :=
    { ir := ((buildNeighbor Host.shortHistories ⟨0, 3000⟩ (announcing 0x0300A8C0)).run
        announcedOnce.ir).state
      latest := Function.update announcedOnce.latest 0x0200000A (some 0x0300A8C0) }
  start := loneNode_initial
  steps := ((History.start _).next _ ⟨rfl, rfl⟩).next _ ⟨rfl, rfl⟩

/-- The neighbour entry keeps the address that 10.0.0.2 has replaced. -/
theorem buildNeighbor_keepsReplacedAddress :
    ¬∀ (run : BeaconRun Host.shortHistories), ∀ visited ∈ run.history,
      LeavesAddress .shortHistories visited.1 visited.2 := by
  intro leaves
  have second := leaves announcedTwice (announcedOnce, (⟨0, 3000⟩, announcing 0x0300A8C0))
    (List.mem_cons_of_mem _ List.mem_cons_self)
  have held : announcedOnce.ir.neighborTable[(0x0200000A : UInt32)]? = some
      (senderEntry .shortHistories 0 (announcing 0x0200A8C0) none) := by
    unfold announcedOnce
    rw [buildNeighbor_run]
    exact getElem?_neighborAfter_self .shortHistories 0 (announcing 0x0200A8C0) ∅
  have kept := leavesAddress_iff.mp second _ held (by decide)
  exact absurd kept (by decide)

end TunVideo
