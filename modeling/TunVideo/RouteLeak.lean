import TunVideo.LinkedRefinement
import TunVideo.ProgramTally
import TunVideo.RoutingState

set_option autoImplicit false

namespace TunVideo.Linked

open Program

section

variable {F D α β : Type}

def routeCount (node : Node F D) : Nat := ((forwardEntries F).objects node.tables.heap).size

theorem plain_adds (procedure : Procedure F D α) : (plain procedure).Adds routeCount 0 := by
  induction procedure with
  | done value => exact .pure value
  | stop reason => exact .stop 0 _
  | step statement rest ih => exact fun node => ih (node.members.toIR ∅ ∅) (aside statement node).1

theorem readTables_adds (expression : Tables F → α) :
    (readTables expression : NodeProcedure F D α).Adds routeCount 0 :=
  .read _

theorem modifyTables_adds {n : Nat} {update : Tables F → Tables F}
    (grows : ∀ tables, ((forwardEntries F).objects (update tables).heap).size =
      ((forwardEntries F).objects tables.heap).size + n) :
    (modifyTables update : NodeProcedure F D Unit).Adds routeCount n :=
  .modify fun node => grows node.tables

theorem deref_adds (cls : ObjectClass (Object F) β) (address : Nat) :
    (deref cls address : NodeProcedure F D β).Adds routeCount 0 :=
  (readTables_adds _).then fun _ => .require _ _

/-- What is done to an object that has been read before is done to one of its class. -/
theorem deref_modify_adds {cls : ObjectClass (Object F) β} {address : Nat}
    {change : β → Heap (Object F) → Heap (Object F)}
    (same : ∀ heap value, cls.load heap address = some value →
      ((forwardEntries F).objects (change value heap)).size =
        ((forwardEntries F).objects heap).size) :
    (deref cls address >>= fun value => modifyTables fun tables =>
      { tables with heap := change value tables.heap } : NodeProcedure F D Unit).Adds
        routeCount 0 := by
  intro node value ok
  unfold deref readTables at ok ⊢
  rw [bind_assoc, run_bind, run_read, Outcome.bind_ok, Outcome.after_nil] at ok ⊢
  dsimp only at ok ⊢
  cases held : cls.load node.tables.heap address with
  | none =>
      rw [held] at ok
      cases ok
  | some found =>
      exact same node.tables.heap found held

theorem assignForward_adds (address : Nat) (update : ForwardTableEntry F → ForwardTableEntry F) :
    (assign (forwardEntries F) address update : NodeProcedure F D Unit).Adds routeCount 0 :=
  deref_modify_adds fun _ value held => ObjectClass.size_objects_update held (update value)

theorem assignNeighbor_adds (address : Nat) (update : NeighborEntry F → NeighborEntry F) :
    (assign (neighborEntries F) address update : NodeProcedure F D Unit).Adds routeCount 0 := by
  have same (heap : Heap (Object F)) (value : NeighborEntry F)
      (held : (neighborEntries F).load heap address = some value) :
      ((forwardEntries F).objects (heap.insert address (.neighbor (update value)))).size =
        ((forwardEntries F).objects heap).size :=
    ObjectClass.size_objects_foreign ((entries_apart F).symm.load_none held) rfl
  exact deref_modify_adds same

theorem deleteNeighbor_adds (address : Nat) :
    (delete (neighborEntries F) address : NodeProcedure F D Unit).Adds routeCount 0 :=
  deref_modify_adds fun _ _ held =>
    ObjectClass.size_objects_delete ((entries_apart F).symm.load_none held)

theorem createForward_adds (allocator : Allocator (Object F)) (entry : ForwardTableEntry F) :
    (create (forwardEntries F) allocator entry : NodeProcedure F D Nat).Adds routeCount 1 := by
  intro node address ok
  have vacant := (forwardEntries F).load_of_vacant (allocator.vacant node.tables.heap)
  exact ObjectClass.size_objects_create vacant entry

theorem createNeighbor_adds (allocator : Allocator (Object F)) (entry : NeighborEntry F) :
    (create (neighborEntries F) allocator entry : NodeProcedure F D Nat).Adds routeCount 0 := by
  intro node address ok
  have vacant := (forwardEntries F).load_of_vacant (allocator.vacant node.tables.heap)
  have foreign : (forwardEntries F).cast (.neighbor entry) = none := rfl
  exact ObjectClass.size_objects_foreign vacant foreign

theorem refreshRoute_adds (dstIp nextHopId : UInt32) (untilTime : Int) :
    (refreshRoute dstIp nextHopId untilTime : NodeProcedure F D Unit).Adds routeCount 0 :=
  (readTables_adds _).then fun _ => (Adds.require _ _).then fun _ => assignForward_adds _ _

end

section

variable {F D : Type} [SinglePrecision F D] (host : Host F D)

theorem updateNeighbor_adds (allocator : Allocator (Object F)) (untilTime : Int)
    (message : BeaconMessage) (gps : GPS F) (speed : Speed F) :
    (updateNeighbor host allocator untilTime message gps speed).Adds routeCount 0 := by
  refine (readTables_adds _).then fun found => ?_
  cases found with
  | some it => exact assignNeighbor_adds it _
  | none =>
      exact (createNeighbor_adds allocator _).then fun _ => (assignNeighbor_adds _ _).then fun _ =>
        modifyTables_adds fun _ => rfl

theorem buildNeighbor_adds (allocator : Allocator (Object F)) (now : Timeval)
    (message : BeaconMessage) :
    (buildNeighbor host allocator now message).Adds routeCount 1 := by
  refine (plain_adds _).then fun untilTime => ?_
  refine (readTables_adds _).then fun _ => (Adds.demand _).then fun _ =>
    (modifyTables_adds fun _ => rfl).then fun _ => ?_
  refine (readTables_adds _).then fun _ => (Adds.demand _).then fun _ =>
    (modifyTables_adds fun _ => rfl).then fun _ => ?_
  refine (createForward_adds allocator _).bind (fun _ => ?_) (Nat.add_zero 1)
  refine (modifyTables_adds fun _ => rfl).then fun _ =>
    (updateNeighbor_adds host allocator untilTime message _ _).then fun _ => ?_
  exact (readTables_adds _).then fun _ => (Adds.demand _).then fun _ =>
    (readTables_adds _).then fun _ => Adds.demand _

theorem recvTun_adds (received : Received) (sendFails : Bool) :
    (recvTun host received sendFails).Adds routeCount 0 := by
  refine (plain_adds _).then fun _ => (plain_adds _).then fun _ => (Adds.read _).then fun it => ?_
  refine Adds.then ?_ fun _ => plain_adds _
  cases it with
  | some it => exact (deref_adds _ it).then fun _ => .pure _
  | none => exact .pure none

variable [DoublePrecision D]

theorem isLegal_adds (now : Timeval) (nghbrIp : UInt32) (dstGps : GPS F) :
    (isLegal host now nghbrIp dstGps).Adds routeCount 0 := by
  refine (plain_adds _).then fun _ => (readTables_adds _).then fun found => ?_
  cases found with
  | none => exact .pure false
  | some it =>
      refine (plain_adds _).then fun _ => (deref_adds _ it).then fun _ => .ite ?_ ?_
      · exact (deleteNeighbor_adds it).then fun _ => (modifyTables_adds fun _ => rfl).then
          fun _ => .pure false
      · exact (deref_adds _ it).then fun _ => (plain_adds _).then fun _ => .pure _

omit [SinglePrecision F D] in
theorem routeMakeup_adds (now : Timeval) (gaussrand : UInt32 → Nat → D) (dstGps : GPS F) :
    (routeMakeup host now gaussrand dstGps).Adds routeCount 0 := by
  refine (plain_adds _).then fun _ => (plain_adds _).then fun _ => (plain_adds _).then fun _ => ?_
  refine (readTables_adds _).then fun _ => (Adds.demand _).then fun _ =>
    (modifyTables_adds fun _ => rfl).then fun _ => ?_
  refine (readTables_adds _).then fun _ => (Adds.demand _).then fun _ => .ite ?_ (.pure _)
  exact (readTables_adds _).then fun _ => (Adds.demand _).then fun _ => .ite (.pure _) (.pure _)

theorem forwarding_adds (allocator : Allocator (Object F)) (readings : Readings D)
    (dstIp : UInt32) (dstGps : GPS F) (nread : Nat) :
    (forwarding host allocator readings dstIp dstGps nread).Adds routeCount 0 := by
  have makeup := routeMakeup_adds host readings.routeMakeup readings.gaussrand dstGps
  refine (readTables_adds _).then fun it => (plain_adds _).then fun untilTime => ?_
  cases it with
  | none =>
      exact .ite (plain_adds _) (makeup.then fun _ => Adds.stop 0 _)
  | some it =>
      refine (deref_adds _ it).then fun _ => .ite (.ite (plain_adds _) ?_) ?_
      · refine makeup.then fun _ => .ite ?_ (plain_adds _)
        exact (refreshRoute_adds _ _ _).then fun _ => plain_adds _
      · refine (deref_adds _ it).then fun entry =>
          (isLegal_adds host readings.isLegal entry.nextHopIp dstGps).then fun _ => .ite ?_ ?_
        · exact (deref_adds _ it).then fun _ => plain_adds _
        · exact makeup.then fun _ => (refreshRoute_adds _ _ _).then fun _ => plain_adds _

theorem recvData_adds (allocator : Allocator (Object F)) (readings : Readings D)
    (received : Received) (writeFails : Bool) :
    (recvData host allocator readings received writeFails).Adds routeCount 0 := by
  refine (plain_adds _).then fun _ => (plain_adds _).then fun _ => (plain_adds _).then fun _ =>
    (plain_adds _).then fun _ => .ite ?_ (.pure ())
  refine (Adds.require _ _).then fun _ => .ite (.ite (.stop 0 _) (plain_adds _)) ?_
  exact (plain_adds _).then fun _ => (plain_adds _).then fun _ =>
    .ite (forwarding_adds host allocator readings _ _ _) (.pure ())

def hearsOther (visited : Node F D × ((Operation D × Allocator (Object F)) ⊕ Activity F D)) : Bool :=
  match visited.2 with
  | .inl (.recvBeacon _ fromAddr _, _) => fromAddr != visited.1.members.phyIp
  | _ => false

/-- A whole step of the node with pointers, if it completes. -/
def linkedCompletes (host : Host F D) (node : Node F D)
    (chosen : (Operation D × Allocator (Object F)) ⊕ Activity F D) (after : Node F D) : Prop :=
  let procedure := chosen.elim (operation host) (activity host)
  (procedure.run node).result = .ok () ∧ (procedure.run node).state = after

omit [DoublePrecision D] in
theorem recvBeacon_adds (allocator : Allocator (Object F)) (now : Timeval) (fromAddr : UInt32)
    (received : Received) (node : Node F D)
    (ok : ((recvBeacon host allocator now fromAddr received).run node).result = .ok ()) :
    routeCount ((recvBeacon host allocator now fromAddr received).run node).state =
      routeCount node + if (fromAddr != node.members.phyIp) = true then 1 else 0 := by
  let buffer := received.store BeaconMessage.size node.members.beaconBuffer
  let stored : Node F D :=
    { node with members := { node.members with beaconBuffer := buffer } }
  have whole : (recvBeacon host allocator now fromAddr received).run node =
      (if fromAddr ≠ node.members.phyIp then
        buildNeighbor host allocator now (BeaconMessage.parse host.order buffer)
      else pure ()).run stored := rfl
  rw [whole] at ok ⊢
  by_cases own : fromAddr = node.members.phyIp
  · rw [if_neg (not_not.mpr own), own, bne_self_eq_false]
    rfl
  · rw [if_pos own] at ok ⊢
    rw [if_pos (bne_iff_ne.mpr own)]
    exact buildNeighbor_adds host allocator now _ stored () ok

variable {host} {node after : Node F D}
  {chosen : (Operation D × Allocator (Object F)) ⊕ Activity F D}

theorem step_adds (step : linkedCompletes host node chosen after) :
    routeCount after = routeCount node + if hearsOther (node, chosen) = true then 1 else 0 := by
  obtain ⟨ok, rfl⟩ := step
  cases chosen with
  | inr activity => exact plain_adds _ node () ok
  | inl chosen =>
      obtain ⟨operation, allocator⟩ := chosen
      cases operation with
      | recvTun received sendFails => exact recvTun_adds host received sendFails node () ok
      | recvData readings received writeFails =>
          exact recvData_adds host allocator readings received writeFails node () ok
      | recvBeacon now fromAddr received =>
          exact recvBeacon_adds host allocator now fromAddr received node ok

theorem step_sound (step : linkedCompletes host node chosen after) (sound : node.tables.Sound) :
    after.tables.Sound := by
  obtain ⟨ok, rfl⟩ := step
  have refines : ∃ abstract : Procedure F D Unit,
      Refines (levels F D) (fun _ _ seen => seen.Sound) node.tables
        (chosen.elim (operation host) (activity host)) abstract := by
    cases chosen with
    | inl chosen => exact ⟨_, operation_refines host chosen sound⟩
    | inr chosen =>
        exact ⟨_, (activity_refines host chosen node.tables).mono fun _ _ _ kept => kept ▸ sound⟩
  obtain ⟨abstract, refines⟩ := refines
  have agree := refines.run (rfl : (levels F D).own node = _)
  rcases agree.result with ⟨_, _, -, -, kept⟩ | ⟨reason, error, -⟩
  · exact kept
  · rw [ok] at error
    cases error

/-- The objects of type `ForwardTableEntry` that no pointer of the table is to. -/
def strayRoutes (node : Node F D) : List Nat :=
  (forwardEntries F).stray node.tables.heap node.tables.forwardTable

/-- In every run, each beacon of another node leaves one more object of type `ForwardTableEntry`
than there was. None ever goes away, and all but those in the table are out of reach. -/
theorem linkedRun_leaksRoutes {members : Members F D} {heap : Heap (Object F)} {last : Node F D}
    {history : List (Node F D × ((Operation D × Allocator (Object F)) ⊕ Activity F D))}
    (run : History (linkedCompletes host) (Node.constructed members heap) history last) :
    (strayRoutes last).length + last.tables.forwardTable.size =
      ((forwardEntries F).objects heap).size + history.countP hearsOther := by
  have all := @History.along _ _ _ _ _ _ (fun history node => node.tables.Sound ∧
    routeCount node = ((forwardEntries F).objects heap).size + history.countP hearsOther) run
    ⟨constructed_sound members heap, rfl⟩ ?_
  · exact all.1.forward.stray_length.trans all.2
  · rintro earlier before chosen after ⟨sound, count⟩ step
    refine ⟨step_sound step sound, ?_⟩
    rw [step_adds step, count, List.countP_append, List.countP_singleton, Nat.add_assoc]

end

def hearing : (Operation Float × Allocator (Object Float32)) ⊕ Activity Float32 Float :=
  .inl (.recvBeacon ⟨0, 0⟩ 0x0200A8C0 (.packet []), .atEnd (Object Float32))

def heardOnce : Node Float32 Float :=
  ((hearing.elim (operation .shortHistories) (activity .shortHistories)).run
    (.constructed loneNode.members ∅)).state

def heardTwice : Node Float32 Float :=
  ((hearing.elim (operation .shortHistories) (activity .shortHistories)).run heardOnce).state

/-- The second route takes the place of the first, which nothing deletes. -/
theorem heardTwice_leaksRoute :
    heardTwice.tables.forwardTable.size = 1 ∧ (strayRoutes heardTwice).length = 1 := by
  have hears {node : Node Float32 Float} (sound : node.tables.Sound) :
      linkedCompletes .shortHistories node hearing
        ((hearing.elim (operation .shortHistories) (activity .shortHistories)).run node).state := by
    have refines := recvBeacon_refines .shortHistories (.atEnd (Object Float32)) ⟨0, 0⟩ 0x0200A8C0
      (.packet []) sound
    have agree := refines.run (rfl : (levels Float32 Float).own node = _)
    exact ⟨agree.completed_iff.mpr (recvBeacon_result .shortHistories ⟨0, 0⟩ _ _ _), rfl⟩
  have start := constructed_sound (F := Float32) loneNode.members ∅
  have first := hears start
  have second := hears (step_sound first start)
  have leaked := linkedRun_leaksRoutes (((History.start _).next hearing first).next hearing second)
  have size : heardTwice.tables.forwardTable.size = 1 := by decide +kernel
  have created : ((forwardEntries Float32).objects ∅).size + List.countP hearsOther
      [(Node.constructed loneNode.members ∅, hearing), (heardOnce, hearing)] = 2 := by
    decide +kernel
  refine ⟨size, Nat.succ.inj ?_⟩
  calc (strayRoutes heardTwice).length + 1
    _ = (strayRoutes heardTwice).length + heardTwice.tables.forwardTable.size := by rw [size]
    _ = 2 := leaked.trans created

end TunVideo.Linked
