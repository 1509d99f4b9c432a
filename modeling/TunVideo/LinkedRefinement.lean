import TunVideo.LinkedNode
import TunVideo.PortSeparation

set_option autoImplicit false

namespace TunVideo.Linked

open Program SinglePrecision

section

variable {F D : Type}

/-- The table of routes that the pointers stand for. -/
def Tables.forward (tables : Tables F) : ForwardTable F :=
  (forwardEntries F).pointees tables.heap tables.forwardTable

def Tables.neighbors (tables : Tables F) : NeighborTable F :=
  (neighborEntries F).pointees tables.heap tables.neighborTable

def levels (F D : Type) : Levels (Node F D) (IR F D) (Tables F) Stop Halt where
  view node := node.members.toIR node.tables.forward node.tables.neighbors
  own := Node.tables
  reason := .stopped

/-- No pointer of a table is to a deleted object, or to one that has another pointer. -/
structure Tables.Sound (tables : Tables F) : Prop where
  forward : (forwardEntries F).Owned tables.heap tables.forwardTable
  neighbor : (neighborEntries F).Owned tables.heap tables.neighborTable

/-- Sound tables, and what they stand for. -/
structure Tables.Shows (tables : Tables F) (forward : ForwardTable F)
    (neighbors : NeighborTable F) : Prop where
  sound : tables.Sound
  forward : tables.forward = forward
  neighbors : tables.neighbors = neighbors

/-- What does not see the tables does the same with any tables. -/
def WithoutTables {α : Type} : Procedure F D α → Prop
  | .done _ => True
  | .stop _ => True
  | .step statement next =>
      (∀ (members : Members F D) forward neighbors, statement (members.toIR forward neighbors) =
          ((statement (members.toIR ∅ ∅)).1.members.toIR forward neighbors,
            (statement (members.toIR ∅ ∅)).2)) ∧
        (∀ (members : Members F D) forward neighbors,
          next (members.toIR forward neighbors) = next (members.toIR ∅ ∅)) ∧
        ∀ members : Members F D, WithoutTables (next (members.toIR ∅ ∅))

namespace WithoutTables

variable {α β : Type}

theorem pure (value : α) : WithoutTables (Pure.pure value : Procedure F D α) := trivial

theorem stop (reason : Stop) : WithoutTables (Program.stop reason : Procedure F D α) := trivial

theorem require (reason : Stop) (value : Option α) :
    WithoutTables (Program.require reason value : Procedure F D α) := by
  cases value <;> trivial

theorem read {expression : IR F D → α} (same : ∀ (members : Members F D) forward neighbors,
    expression (members.toIR forward neighbors) = expression (members.toIR ∅ ∅)) :
    WithoutTables (Program.read expression : Procedure F D α) :=
  ⟨fun _ _ _ => rfl, fun members forward neighbors =>
    congrArg Program.done (same members forward neighbors), fun _ => trivial⟩

theorem perform {statement : IR F D → IR F D × List (Event F)}
    (same : ∀ (members : Members F D) forward neighbors, statement (members.toIR forward neighbors) =
      ((statement (members.toIR ∅ ∅)).1.members.toIR forward neighbors,
        (statement (members.toIR ∅ ∅)).2)) :
    WithoutTables (Program.perform statement : Procedure F D Unit) :=
  ⟨same, fun _ _ _ => rfl, fun _ => trivial⟩

theorem modify {update : IR F D → IR F D}
    (same : ∀ (members : Members F D) forward neighbors, update (members.toIR forward neighbors) =
      (update (members.toIR ∅ ∅)).members.toIR forward neighbors) :
    WithoutTables (Program.modify update : Procedure F D Unit) :=
  .perform fun members forward neighbors =>
    congrArg (fun ir => (ir, ([] : List (Event F)))) (same members forward neighbors)

theorem bind {first : Procedure F D α} {next : α → Procedure F D β} (head : WithoutTables first)
    (tail : ∀ value, WithoutTables (next value)) : WithoutTables (first >>= next) := by
  change WithoutTables (first.bind next)
  induction first with
  | done value => exact tail value
  | stop reason => trivial
  | step statement rest ih =>
      obtain ⟨same, alike, later⟩ := head
      exact ⟨same, fun members forward neighbors =>
        congrArg (Program.bind · next) (alike members forward neighbors),
        fun members => ih _ (later members)⟩

theorem ite {condition : Prop} [Decidable condition] {first second : Procedure F D α}
    (yes : WithoutTables first) (no : WithoutTables second) :
    WithoutTables (if condition then first else second) := by
  split
  · exact yes
  · exact no

theorem refines {procedure : Procedure F D α} (without : WithoutTables procedure)
    (own : Tables F) :
    Refines (levels F D) (fun value' value seen => value' = value ∧ seen = own) own
      (plain procedure) procedure := by
  induction procedure with
  | done value => exact .done ⟨rfl, rfl⟩
  | stop reason => exact .stop own reason
  | step statement rest ih =>
      obtain ⟨same, alike, later⟩ := without
      refine .both (fun node held => ?_) fun node held => ?_
      · change _ = (statement (node.members.toIR _ _)).1 ∧ _ = (statement (node.members.toIR _ _)).2
        rw [same]
        exact ⟨rfl, rfl⟩
      · change node.tables = own at held
        change Refines (levels F D) _ node.tables (plain (rest (node.members.toIR ∅ ∅)))
          (rest (node.members.toIR _ _))
        rw [alike node.members node.tables.forward node.tables.neighbors, held]
        exact ih _ (later node.members)

end WithoutTables

namespace Tables

variable {tables : Tables F} {key : UInt32} {address : Nat}

theorem Sound.shows (sound : tables.Sound) : tables.Shows tables.forward tables.neighbors :=
  ⟨sound, rfl, rfl⟩

theorem getElem?_forward (tables : Tables F) (key : UInt32) :
    tables.forward[key]? =
      tables.forwardTable[key]?.bind ((forwardEntries F).load tables.heap) :=
  ObjectClass.getElem?_pointees _ _ _ key

theorem getElem?_neighbors (tables : Tables F) (key : UInt32) :
    tables.neighbors[key]? =
      tables.neighborTable[key]?.bind ((neighborEntries F).load tables.heap) :=
  ObjectClass.getElem?_pointees _ _ _ key

variable {forward : ForwardTable F} {neighbors : NeighborTable F}

/-- A new object, which no table has yet. -/
theorem Shows.create (shows : tables.Shows forward neighbors) (vacant : tables.heap[address]? = none)
    (object : Object F) :
    Shows { tables with heap := tables.heap.insert address object } forward neighbors := by
  have routes := shows.sound.forward.insert_foreign (ObjectClass.load_of_vacant _ vacant) object
  have others := shows.sound.neighbor.insert_foreign (ObjectClass.load_of_vacant _ vacant) object
  exact ⟨⟨routes.1, others.1⟩, routes.2.trans shows.forward, others.2.trans shows.neighbors⟩

theorem Shows.assignForward (shows : tables.Shows forward neighbors)
    (linked : tables.forwardTable[key]? = some address) (entry : ForwardTableEntry F) :
    Shows { tables with heap := tables.heap.insert address (.forward entry) }
      (forward.insert key entry) neighbors := by
  obtain ⟨old, held⟩ := shows.sound.forward.live key address linked
  have routes := shows.sound.forward.update linked entry
  have others := shows.sound.neighbor.insert_foreign ((entries_apart F).load_none held)
    (.forward entry)
  refine ⟨⟨routes.1, others.1⟩, ?_, others.2.trans shows.neighbors⟩
  rw [← shows.forward]
  exact routes.2

theorem Shows.assignNeighbor (shows : tables.Shows forward neighbors)
    (linked : tables.neighborTable[key]? = some address) (entry : NeighborEntry F) :
    Shows { tables with heap := tables.heap.insert address (.neighbor entry) } forward
      (neighbors.insert key entry) := by
  obtain ⟨old, held⟩ := shows.sound.neighbor.live key address linked
  have others := shows.sound.neighbor.update linked entry
  have routes := shows.sound.forward.insert_foreign ((entries_apart F).symm.load_none held)
    (.neighbor entry)
  refine ⟨⟨routes.1, others.1⟩, routes.2.trans shows.forward, ?_⟩
  rw [← shows.neighbors]
  exact others.2

/-- The entry is gone as soon as it is deleted, and to erase its pointer changes nothing more. -/
theorem Shows.deleteNeighbor (shows : tables.Shows forward neighbors)
    (linked : tables.neighborTable[key]? = some address) :
    Tables.forward { tables with heap := tables.heap.erase address } = forward ∧
      Tables.neighbors { tables with heap := tables.heap.erase address } = neighbors.erase key ∧
      Shows { tables with
          heap := tables.heap.erase address
          neighborTable := tables.neighborTable.erase key }
        forward (neighbors.erase key) := by
  obtain ⟨old, held⟩ := shows.sound.neighbor.live key address linked
  have others := shows.sound.neighbor.delete linked
  have routes := shows.sound.forward.erase_foreign ((entries_apart F).symm.load_none held)
  have deleted : Tables.neighbors { tables with heap := tables.heap.erase address } =
      neighbors.erase key := by
    rw [← shows.neighbors]
    exact others.2
  refine ⟨routes.2.trans shows.forward, deleted, ⟨routes.1, others.1⟩,
    routes.2.trans shows.forward, ?_⟩
  refine (ObjectClass.pointees_unlink _ _ _ key).trans ?_
  change (Tables.neighbors { tables with heap := tables.heap.erase address }).erase key = _
  rw [deleted]
  apply Std.ExtTreeMap.ext_getElem?
  intro other
  rw [Std.ExtTreeMap.getElem?_erase]
  split
  · rename_i same
    rw [Std.ExtTreeMap.getElem?_erase, if_pos same]
  · rfl

theorem Shows.linkForward (shows : tables.Shows forward neighbors) {entry : ForwardTableEntry F}
    (present : (forwardEntries F).load tables.heap address = some entry)
    (unlinked : ∀ key : UInt32, tables.forwardTable[key]? ≠ some address) (key : UInt32) :
    Shows { tables with forwardTable := tables.forwardTable.insert key address }
      (forward.insert key entry) neighbors := by
  have routes := shows.sound.forward.link present unlinked key
  refine ⟨⟨routes.1, shows.sound.neighbor⟩, ?_, shows.neighbors⟩
  rw [← shows.forward]
  exact routes.2

theorem Shows.linkNeighbor (shows : tables.Shows forward neighbors) {entry : NeighborEntry F}
    (present : (neighborEntries F).load tables.heap address = some entry)
    (unlinked : ∀ key : UInt32, tables.neighborTable[key]? ≠ some address) (key : UInt32) :
    Shows { tables with neighborTable := tables.neighborTable.insert key address }
      forward (neighbors.insert key entry) := by
  have others := shows.sound.neighbor.link present unlinked key
  refine ⟨⟨shows.sound.forward, others.1⟩, shows.forward, ?_⟩
  rw [← shows.neighbors]
  exact others.2

end Tables

end

section

variable {F D α β γ : Type} {own : Tables F} {post : α → β → Tables F → Prop}

theorem readTables_silent {expression : Tables F → γ} {next' : γ → NodeProcedure F D α}
    {program : Procedure F D β}
    (later : Refines (levels F D) post own (next' (expression own)) program) :
    Refines (levels F D) post own (readTables expression >>= next') program := by
  refine Refines.read_silent fun node held => ?_
  change node.tables = own at held
  rw [held]
  exact later

theorem readTables_both {γ' : Type} {expression' : Tables F → γ} {expression : IR F D → γ'}
    {next' : γ → NodeProcedure F D α} {next : γ' → Procedure F D β} (value : γ')
    (same : ∀ members : Members F D,
      expression (members.toIR own.forward own.neighbors) = value)
    (later : Refines (levels F D) post own (next' (expression' own)) (next value)) :
    Refines (levels F D) post own (readTables expression' >>= next')
      (read expression >>= next) := by
  refine Refines.read fun node held => ?_
  change node.tables = own at held
  have shown : expression ((levels F D).view node) = value := by
    rw [← same node.members, ← held]
    rfl
  rw [held, shown]
  exact later

theorem modifyTables_silent {update : Tables F → Tables F} {next' : Unit → NodeProcedure F D α}
    {program : Procedure F D β} (shows : (update own).Shows own.forward own.neighbors)
    (later : Refines (levels F D) post (update own) (next' ()) program) :
    Refines (levels F D) post own (modifyTables update >>= next') program := by
  refine Refines.modify_silent (fun node held => ?_) fun node held => ?_
  · change node.tables = own at held
    change node.members.toIR (update node.tables).forward (update node.tables).neighbors =
      node.members.toIR node.tables.forward node.tables.neighbors
    rw [held, shows.forward, shows.neighbors]
  · change node.tables = own at held
    change Refines _ _ (update node.tables) _ _
    rw [held]
    exact later

theorem modifyTables_both {update : Tables F → Tables F} {effect : IR F D → IR F D}
    {next' : Unit → NodeProcedure F D α} {next : Unit → Procedure F D β}
    (same : ∀ members : Members F D,
      members.toIR (update own).forward (update own).neighbors =
        effect (members.toIR own.forward own.neighbors))
    (later : Refines (levels F D) post (update own) (next' ()) (next ())) :
    Refines (levels F D) post own (modifyTables update >>= next') (modify effect >>= next) := by
  refine Refines.modify (fun node held => ?_) fun node held => ?_
  · change node.tables = own at held
    change node.members.toIR (update node.tables).forward (update node.tables).neighbors =
      effect (node.members.toIR node.tables.forward node.tables.neighbors)
    rw [held]
    exact same node.members
  · change node.tables = own at held
    change Refines _ _ (update node.tables) _ _
    rw [held]
    exact later

theorem modifyTables_last {post : Unit → Unit → Tables F → Prop} {update : Tables F → Tables F}
    {effect : IR F D → IR F D}
    (same : ∀ members : Members F D,
      members.toIR (update own).forward (update own).neighbors =
        effect (members.toIR own.forward own.neighbors))
    (held : post () () (update own)) :
    Refines (levels F D) post own (modifyTables update) (modify effect) := by
  have whole : Refines (levels F D) post own (modifyTables update >>= pure)
      (modify effect >>= pure) := modifyTables_both same (.done held)
  exact whole

theorem modifyTables_unseen {post : Unit → Unit → Tables F → Prop} {update : Tables F → Tables F}
    (shows : (update own).Shows own.forward own.neighbors) (held : post () () (update own)) :
    Refines (levels F D) post own (modifyTables update) (pure ()) := by
  have whole : Refines (levels F D) post own (modifyTables update >>= pure) (pure ()) :=
    modifyTables_silent shows (.done held)
  exact whole

theorem plainRead_both {expression : IR F D → γ} {next' : γ → NodeProcedure F D α}
    {next : γ → Procedure F D β}
    (same : ∀ (members : Members F D) forward neighbors,
      expression (members.toIR forward neighbors) = expression (members.toIR ∅ ∅))
    (later : ∀ value, Refines (levels F D) post own (next' value) (next value)) :
    Refines (levels F D) post own (plain (read expression) >>= next')
      (read expression >>= next) := by
  refine (WithoutTables.refines (.read same) own).bind ?_
  rintro value _ seen ⟨rfl, rfl⟩
  exact later value

theorem deref_silent {cls : ObjectClass (Object F) γ} {address : Nat} {value : γ}
    {next' : γ → NodeProcedure F D α} {program : Procedure F D β}
    (held : cls.load own.heap address = some value)
    (later : Refines (levels F D) post own (next' value) program) :
    Refines (levels F D) post own (deref cls address >>= next') program := by
  rw [deref, bind_assoc]
  refine readTables_silent ?_
  rw [held]
  exact later

/-- What is left after `new`: the object, at an address that is in no table. -/
structure Created (cls : ObjectClass (Object F) γ) (own : Tables F) (value : γ) (address : Nat)
    (seen : Tables F) : Prop where
  vacant : own.heap[address]? = none
  tables : seen = { own with heap := own.heap.insert address (cls.make value) }

theorem create_refines (cls : ObjectClass (Object F) γ) (allocator : Allocator (Object F))
    (value : γ) (sound : own.Sound) :
    Refines (levels F D) (fun address _ => Created cls own value address) own
      (create cls allocator value) (pure () : Procedure F D Unit) := by
  refine readTables_silent (modifyTables_silent ?_ (.done ⟨allocator.vacant own.heap, rfl⟩))
  exact sound.shows.create (allocator.vacant own.heap) _

end

section

variable {F D : Type} {own : Tables F} {key : UInt32}

/-- An object behind a pointer is written, and the abstract table is written with it. -/
theorem assign_refines {γ : Type} {cls : ObjectClass (Object F) γ} {it : Nat} {value : γ}
    {update : γ → γ} {effect : IR F D → IR F D} {forward : ForwardTable F}
    {neighbors : NeighborTable F} (held : cls.load own.heap it = some value)
    (written : Tables.Shows { own with heap := own.heap.insert it (cls.make (update value)) }
      forward neighbors)
    (same : ∀ members : Members F D, effect (members.toIR own.forward own.neighbors) =
      members.toIR forward neighbors) :
    Refines (levels F D) (fun _ _ seen => seen.Sound) own (assign cls it update)
      (modify effect) := by
  refine deref_silent held ?_
  refine modifyTables_last (fun members => ?_) written.sound
  rw [same members]
  exact congrArg₂ members.toIR written.forward written.neighbors

theorem refreshRoute_refines {it : Nat} (sound : own.Sound)
    (linked : own.forwardTable[key]? = some it) (nextHopId : UInt32) (untilTime : Int) :
    Refines (levels F D) (fun _ _ seen => seen.Sound) own
      (refreshRoute key nextHopId untilTime) (TunVideo.refreshRoute key nextHopId untilTime) := by
  obtain ⟨entry, held⟩ := sound.forward.live key it linked
  refine readTables_silent ?_
  rw [linked]
  refine assign_refines held (sound.shows.assignForward linked _) fun members => ?_
  refine congrArg (members.toIR · own.neighbors) ?_
  apply Std.ExtTreeMap.ext_getElem?
  intro other
  change (own.forward.modify key _)[other]? = _
  rw [Std.ExtTreeMap.getElem?_modify, Std.ExtTreeMap.getElem?_insert]
  split
  · rw [Tables.getElem?_forward, linked, Option.bind_some, held]
    rfl
  · rfl

structure Tables.KeepsRoutes (before after : Tables F) : Prop where
  sound : after.Sound
  links : after.forwardTable = before.forwardTable
  forward : after.forward = before.forward

theorem Tables.KeepsRoutes.load {before after : Tables F} {it : Nat} {entry : ForwardTableEntry F}
    (kept : before.KeepsRoutes after) (linked : before.forwardTable[key]? = some it)
    (held : (forwardEntries F).load before.heap it = some entry) :
    (forwardEntries F).load after.heap it = some entry := by
  have routed := congrArg (fun table => table[key]?) kept.forward
  rw [getElem?_forward, getElem?_forward, kept.links, linked] at routed
  exact routed.trans held

section

variable [DoublePrecision D] [SinglePrecision F D] (host : Host F D)

theorem isLegal_refines (now : Timeval) (nghbrIp : UInt32) (dstGps : GPS F) (sound : own.Sound) :
    Refines (levels F D) (fun value' value seen => value' = value ∧ own.KeepsRoutes seen) own
      (isLegal host now nghbrIp dstGps) (TunVideo.isLegal host now nghbrIp dstGps) := by
  have kept : own.KeepsRoutes own := ⟨sound, rfl, rfl⟩
  unfold isLegal TunVideo.isLegal
  refine (WithoutTables.refines (.perform fun _ _ _ => rfl) own).bind ?_
  rintro _ _ own ⟨-, rfl⟩
  refine readTables_both _ (fun members => own.getElem?_neighbors nghbrIp) ?_
  cases linked : own.neighborTable[nghbrIp]? with
  | none => exact .done ⟨rfl, kept⟩
  | some it =>
      obtain ⟨entry, held⟩ := sound.neighbor.live nghbrIp it linked
      rw [Option.bind_some, held]
      refine plainRead_both (fun _ _ _ => rfl) fun untilTime => ?_
      refine deref_silent held ?_
      refine .ite (fun old => ?_) fun _ => ?_
      · obtain ⟨routes, others, shows⟩ := sound.shows.deleteNeighbor linked
        rw [delete, bind_assoc]
        refine deref_silent held ?_
        refine modifyTables_both (fun members => ?_) (modifyTables_silent ?_ ?_)
        · exact congrArg₂ members.toIR routes others
        · rw [routes, others]
          exact shows
        · exact .done ⟨rfl, shows.sound, rfl, shows.forward⟩
      · refine deref_silent held ?_
        refine plainRead_both (fun _ _ _ => rfl) fun angle => ?_
        exact .done ⟨rfl, kept⟩

omit [DoublePrecision D] [SinglePrecision F D] in
theorem collect_answers (gaussrand : UInt32 → Nat → D) (untilTime : Int) (sound : own.Sound) :
    SameAnswer (Halt.stopped .outOfBounds)
      (fun found' found => (neighborEntries F).Owned own.heap found'.1 ∧
        (neighborEntries F).pointees own.heap found'.1 = found.1 ∧ found'.2 = found.2)
      (collect host gaussrand untilTime own.heap own.neighborTable)
      (TunVideo.collect host gaussrand untilTime own.neighbors) := by
  rw [collect, sound.neighbor.walk_eq]
  refine .foldlM (fun found' found iter _ related => ?_) ⟨sound.neighbor, rfl, rfl⟩
  obtain ⟨owned, shown, same⟩ := related
  rw [collectStep]
  by_cases old : olderThan ttlNeighborTable untilTime iter.2.timestamp = true
  · rw [if_pos old, if_pos old]
    refine .ok ⟨owned.unlink iter.1, ?_, same⟩
    rw [ObjectClass.pointees_unlink, shown]
  · rw [if_neg old, if_neg old]
    cases host.advancedPredict (gaussrand iter.1) iter.2.gpsq
      (UInt32.ofInt (age untilTime iter.2.timestamp)) iter.2.speed with
    | none => exact .error
    | some gps => exact .ok ⟨owned, shown, congrArg (· ++ [(iter.1, gps)]) same⟩

omit [SinglePrecision F D] in
theorem scan_answers (inCone : GPS F → Bool) (dstGps : GPS F)
    (localNeighborTable : List (UInt32 × GPS F)) (best : D × UInt32) (sound : own.Sound) :
    SameAnswer (Halt.stopped .endIterator) Eq
      (scan host inCone dstGps localNeighborTable best own)
      (TunVideo.scan host inCone own.neighbors dstGps localNeighborTable best) := by
  refine .foldlM (fun best' best iter _ same => ?_) rfl
  subst same
  rw [scanStep, TunVideo.scanStep]
  by_cases inside : inCone iter.2 = true
  · rw [if_pos inside, if_pos inside]
    by_cases closer : host.calModule iter.2 dstGps < best'.1
    · dsimp only
      rw [if_pos closer, if_pos closer, Tables.getElem?_neighbors]
      cases linked : own.neighborTable[iter.1]? with
      | none => exact .error
      | some it =>
          obtain ⟨entry, held⟩ := sound.neighbor.live iter.1 it linked
          dsimp only
          rw [Option.bind_some, held]
          exact .ok rfl
    · dsimp only
      rw [if_neg closer, if_neg closer]
      exact .ok rfl
  · rw [if_neg inside, if_neg inside]
    exact .ok rfl

omit [SinglePrecision F D] in
theorem routeMakeup_refines (now : Timeval) (gaussrand : UInt32 → Nat → D) (dstGps : GPS F)
    (sound : own.Sound) :
    Refines (levels F D) (fun value' value seen => value' = value ∧ own.KeepsRoutes seen) own
      (routeMakeup host now gaussrand dstGps)
      (TunVideo.routeMakeup host now gaussrand dstGps) := by
  unfold routeMakeup TunVideo.routeMakeup
  refine (WithoutTables.refines (.perform fun _ _ _ => rfl) own).bind ?_
  rintro _ _ own ⟨-, rfl⟩
  refine plainRead_both (fun _ _ _ => rfl) fun untilTime => ?_
  refine plainRead_both (fun _ _ _ => rfl) fun selfGps => ?_
  refine readTables_both (TunVideo.collect host gaussrand untilTime own.neighbors)
    (fun members => rfl) ?_
  refine .demand (collect_answers host gaussrand untilTime sound) ?_
  rintro ⟨table', localNeighborTable⟩ ⟨table, _⟩ ⟨owned, rfl, rfl⟩
  have left : Tables.KeepsRoutes own { own with neighborTable := table' } :=
    ⟨⟨sound.forward, owned⟩, rfl, rfl⟩
  refine modifyTables_both (fun members => rfl) (readTables_silent ?_)
  have first := scan_answers host (inCone host selfGps dstGps) dstGps localNeighborTable
    (maxDistance, 0) left.sound
  refine .demand first ?_
  rintro ⟨disMax, nextHopId⟩ _ rfl
  refine .ite (fun _ => readTables_silent ?_) fun _ => .done ⟨rfl, left⟩
  have second := scan_answers host (fun _ => true) dstGps localNeighborTable
    (disMax, nextHopId) left.sound
  refine .demand second ?_
  rintro ⟨disMax, nextHopId⟩ _ rfl
  exact .ite (fun _ => .done ⟨rfl, left⟩) fun _ => .done ⟨rfl, left⟩

omit [DoublePrecision D] [SinglePrecision F D] in
theorem outgoing_without (nread : Nat) : WithoutTables (outgoing nread : Procedure F D _) :=
  .bind (.read fun _ _ _ => rfl) fun _ => .require _ _

omit [DoublePrecision D] [SinglePrecision F D] in
theorem sendToNextHop_without (nextHopId : UInt32) (nread : Nat) :
    WithoutTables (sendToNextHop nextHopId nread : Procedure F D Unit) :=
  .ite (.bind (outgoing_without nread) fun _ => .perform fun _ _ _ => rfl) (.pure ())

omit [DoublePrecision D] [SinglePrecision F D] in
theorem dataBroadcast_without (nread : Nat) :
    WithoutTables (dataBroadcast nread : Procedure F D Unit) :=
  .bind (.perform fun _ _ _ => rfl) fun _ => .bind (outgoing_without nread) fun _ =>
    .perform fun _ _ _ => rfl

omit [DoublePrecision D] [SinglePrecision F D] in
/-- What does not see the tables leaves them sound. -/
theorem plain_refines {procedure : Procedure F D Unit} (without : WithoutTables procedure)
    (sound : own.Sound) :
    Refines (levels F D) (fun _ _ seen => seen.Sound) own (plain procedure) procedure :=
  (without.refines own).mono fun _ _ _ kept => kept.2 ▸ sound

theorem forwarding_refines (allocator : Allocator (Object F)) (readings : Readings D)
    (dstIp : UInt32) (dstGps : GPS F) (nread : Nat) (sound : own.Sound) :
    Refines (levels F D) (fun _ _ seen => seen.Sound) own
      (forwarding host allocator readings dstIp dstGps nread)
      (TunVideo.forwarding host readings dstIp dstGps nread) := by
  have send {own : Tables F} (sound : own.Sound) (nextHopId : UInt32) :
      Refines (levels F D) (fun _ _ seen => seen.Sound) own
        (plain (sendToNextHop nextHopId nread)) (sendToNextHop nextHopId nread) :=
    plain_refines (sendToNextHop_without nextHopId nread) sound
  have makeup {own : Tables F} (sound : own.Sound) :=
    routeMakeup_refines host readings.routeMakeup readings.gaussrand dstGps sound
  unfold forwarding TunVideo.forwarding
  refine readTables_both _ (fun members => own.getElem?_forward dstIp) ?_
  refine plainRead_both (fun _ _ _ => rfl) fun untilTime => ?_
  cases linked : own.forwardTable[dstIp]? with
  | none =>
      refine .ite (fun _ => plain_refines (dataBroadcast_without nread) sound) fun _ => ?_
      refine (makeup sound).bind ?_
      rintro nextHopId _ seen ⟨rfl, -⟩
      exact .stop seen Stop.endIterator
  | some it =>
      obtain ⟨entry, held⟩ := sound.forward.live dstIp it linked
      rw [Option.bind_some, held]
      refine deref_silent held ?_
      refine .ite (fun _ => .ite ?_ ?_) fun _ => ?_
      · exact fun _ => plain_refines (dataBroadcast_without nread) sound
      · intro _
        refine (makeup sound).bind ?_
        rintro nextHopId _ seen ⟨rfl, kept⟩
        have linked' : seen.forwardTable[dstIp]? = some it := kept.links ▸ linked
        refine .ite (fun _ => ?_) fun _ => send kept.sound nextHopId
        exact (refreshRoute_refines kept.sound linked' nextHopId untilTime).bind
          fun _ _ _ written => send written nextHopId
      · refine deref_silent held ?_
        refine (isLegal_refines host readings.isLegal entry.nextHopIp dstGps sound).bind ?_
        rintro legal _ seen ⟨rfl, kept⟩
        refine .ite (fun _ => ?_) fun _ => ?_
        · refine deref_silent (kept.load linked held) ?_
          exact send kept.sound entry.nextHopIp
        · refine (makeup kept.sound).bind ?_
          rintro nextHopId _ later ⟨rfl, kept'⟩
          have linked' : later.forwardTable[dstIp]? = some it :=
            kept'.links ▸ kept.links ▸ linked
          exact (refreshRoute_refines kept'.sound linked' nextHopId untilTime).bind
            fun _ _ _ written => send written nextHopId

theorem recvData_refines (allocator : Allocator (Object F)) (readings : Readings D)
    (received : Received) (writeFails : Bool) (sound : own.Sound) :
    Refines (levels F D) (fun _ _ seen => seen.Sound) own
      (recvData host allocator readings received writeFails)
      (TunVideo.recvData host readings received writeFails) := by
  unfold recvData TunVideo.recvData
  refine (plain_refines (.modify fun _ _ _ => rfl) sound).bind ?_
  intro _ _ own sound
  refine plainRead_both (fun _ _ _ => rfl) fun dstIp => ?_
  refine plainRead_both (fun _ _ _ => rfl) fun srcIp => ?_
  refine plainRead_both (fun _ _ _ => rfl) fun virIp => ?_
  refine .ite (fun _ => ?_) fun _ => .done sound
  cases trailerOffset (received.count frameSize) with
  | none => exact .stop own Stop.outOfBounds
  | some trailer =>
      refine .ite (fun _ => .ite (fun _ => ?_) fun _ => ?_) fun _ => ?_
      · exact .stop own (Stop.exit "Writing tun")
      · exact plain_refines (.perform fun _ _ _ => rfl) sound
      · refine plainRead_both (fun _ _ _ => rfl) fun dataMessage => ?_
        refine (plain_refines (.modify fun _ _ _ => rfl) sound).bind ?_
        intro _ _ own sound
        refine .ite (fun _ => ?_) fun _ => .done sound
        exact forwarding_refines host allocator readings dstIp _ _ sound

end

section

variable {γ : Type} {cls : ObjectClass (Object F) γ} {address : Nat} {seen : Tables F}

/-- The first write to a new object. -/
theorem Created.assign_refines {value : γ} (created : Created cls own value address seen)
    (sound : own.Sound) (update : γ → γ) :
    Refines (levels F D) (fun _ _ later => Created cls own (update value) address later) seen
      (assign cls address update) (pure () : Procedure F D Unit) := by
  obtain ⟨vacant, rfl⟩ := created
  have held : cls.load (own.heap.insert address (cls.make value)) address = some value :=
    (cls.load_insert_self own.heap address _).trans (cls.cast_make value)
  have twice : (own.heap.insert address (cls.make value)).insert address
      (cls.make (update value)) = own.heap.insert address (cls.make (update value)) := by
    apply Std.ExtTreeMap.ext_getElem?
    intro other
    rw [Std.ExtTreeMap.getElem?_insert, Std.ExtTreeMap.getElem?_insert,
      Std.ExtTreeMap.getElem?_insert]
    split <;> rfl
  have before := sound.shows.create vacant (cls.make value)
  have after := sound.shows.create vacant (cls.make (update value))
  refine deref_silent held ?_
  have same : Tables.mk ((own.heap.insert address (cls.make value)).insert address
      (cls.make (update value))) own.forwardTable own.neighborTable =
        { own with heap := own.heap.insert address (cls.make (update value)) } := by
    rw [twice]
  refine modifyTables_unseen ?_ ⟨vacant, same⟩
  refine same ▸ ⟨after.sound, ?_, ?_⟩
  · exact after.forward.trans before.forward.symm
  · exact after.neighbors.trans before.neighbors.symm

theorem Created.shows {value : γ} (created : Created cls own value address seen)
    (sound : own.Sound) : seen.Shows own.forward own.neighbors := by
  obtain ⟨vacant, rfl⟩ := created
  exact sound.shows.create vacant _

theorem Created.present {value : γ} (created : Created cls own value address seen) :
    cls.load seen.heap address = some value := by
  obtain ⟨vacant, rfl⟩ := created
  exact (cls.load_insert_self own.heap address _).trans (cls.cast_make value)

theorem Created.linkForward {value : ForwardTableEntry F}
    (created : Created (forwardEntries F) own value address seen) (sound : own.Sound)
    (key : UInt32) :
    Tables.Shows { seen with forwardTable := seen.forwardTable.insert key address }
      (own.forward.insert key value) own.neighbors := by
  refine (created.shows sound).linkForward created.present (fun other linked => ?_) key
  rw [created.tables] at linked
  exact sound.forward.load_ne ((forwardEntries F).load_of_vacant created.vacant) linked rfl

theorem Created.linkNeighbor {value : NeighborEntry F}
    (created : Created (neighborEntries F) own value address seen) (sound : own.Sound)
    (key : UInt32) :
    Tables.Shows { seen with neighborTable := seen.neighborTable.insert key address }
      own.forward (own.neighbors.insert key value) := by
  refine (created.shows sound).linkNeighbor created.present (fun other linked => ?_) key
  rw [created.tables] at linked
  exact sound.neighbor.load_ne ((neighborEntries F).load_of_vacant created.vacant) linked rfl

/-- A purge reads no pointer in vain, and leaves what the abstract purge leaves. -/
theorem purge_eq (timestamp : γ → UInt32) (untilTime : Int) {heap : Heap (Object F)}
    {table : Links UInt32} (owned : cls.Owned heap table) :
    ∃ left, purge cls timestamp untilTime heap table = .ok left ∧ cls.Owned heap left ∧
      cls.pointees heap left =
        MapSweep.sweep (olderThan 5 untilTime <| timestamp ·) (cls.pointees heap table) := by
  rw [purge, owned.walk_eq, MapSweep.sweep]
  generalize (cls.pointees heap table).toList = entries
  induction entries generalizing table with
  | nil => exact ⟨table, rfl, owned, rfl⟩
  | cons iter rest ih =>
      rw [List.foldlM_cons, List.foldl_cons, MapSweep.step]
      by_cases old : olderThan 5 untilTime (timestamp iter.2) = true
      · rw [if_pos old, if_pos old, ← ObjectClass.pointees_unlink]
        exact ih (owned.unlink iter.1)
      · rw [if_neg old, if_neg old]
        exact ih owned

theorem showTable_eq {heap : Heap (Object F)} {table : Links UInt32}
    (owned : cls.Owned heap table) : showTable cls heap table = .ok () := by
  rw [showTable, owned.walk_eq]
  induction (cls.pointees heap table).toList with
  | nil => rfl
  | cons iter rest ih => exact ih

end

section

variable [SinglePrecision F D] (host : Host F D)

theorem updateNeighbor_refines (allocator : Allocator (Object F)) (untilTime : Int)
    (message : BeaconMessage) (gps : GPS F) (speed : Speed F) (sound : own.Sound) :
    Refines (levels F D) (fun _ _ seen => seen.Sound) own
      (updateNeighbor host allocator untilTime message gps speed)
      (modify fun ir =>
        { ir with
          neighborTable :=
            TunVideo.updateNeighbor host untilTime message gps speed ir.neighborTable }) := by
  refine readTables_silent ?_
  cases linked : own.neighborTable[message.virIp]? with
  | some it =>
      obtain ⟨entry, held⟩ := sound.neighbor.live message.virIp it linked
      refine assign_refines held (sound.shows.assignNeighbor linked _) fun members => ?_
      refine congrArg (members.toIR own.forward) ?_
      change TunVideo.updateNeighbor host untilTime message gps speed own.neighbors = _
      rw [TunVideo.updateNeighbor, Tables.getElem?_neighbors, linked, Option.bind_some, held]
  | none =>
      refine (create_refines (neighborEntries F) allocator _ sound).before ?_
      intro address seen created
      refine (created.assign_refines sound _).before ?_
      intro _ seen created
      have shows := created.shows sound
      have linked' := created.linkNeighbor sound message.virIp
      refine modifyTables_last (fun members => ?_) linked'.sound
      rw [shows.forward, shows.neighbors]
      refine congrArg₂ members.toIR linked'.forward (linked'.neighbors.trans ?_)
      change _ = TunVideo.updateNeighbor host untilTime message gps speed own.neighbors
      rw [TunVideo.updateNeighbor, Tables.getElem?_neighbors, linked, Option.bind_none]
      rfl

theorem buildNeighbor_refines (allocator : Allocator (Object F)) (now : Timeval)
    (message : BeaconMessage) (sound : own.Sound) :
    Refines (levels F D) (fun _ _ seen => seen.Sound) own
      (buildNeighbor host allocator now message) (TunVideo.buildNeighbor host now message) := by
  unfold buildNeighbor TunVideo.buildNeighbor
  refine plainRead_both (fun _ _ _ => rfl) fun untilTime => ?_
  obtain ⟨neighborTable, purged, owned, left⟩ :=
    purge_eq NeighborEntry.timestamp untilTime sound.neighbor
  refine readTables_silent (.demand_ok purged (modifyTables_both (fun members => ?_) ?_))
  · exact congrArg (members.toIR own.forward) left
  have sound : Tables.Sound { own with neighborTable := neighborTable } := ⟨sound.forward, owned⟩
  generalize Tables.mk own.heap own.forwardTable neighborTable = own at sound
  obtain ⟨forwardTable, purged, owned, left⟩ :=
    purge_eq ForwardTableEntry.timestamp untilTime sound.forward
  refine readTables_silent (.demand_ok purged (modifyTables_both (fun members => ?_) ?_))
  · exact congrArg (members.toIR · own.neighbors) left
  have sound : Tables.Sound { own with forwardTable := forwardTable } := ⟨owned, sound.neighbor⟩
  generalize Tables.mk own.heap forwardTable own.neighborTable = own at sound
  refine (create_refines (forwardEntries F) allocator _ sound).before ?_
  intro address seen created
  have shows := created.shows sound
  have linked := created.linkForward sound message.virIp
  refine modifyTables_both (fun members => ?_) ?_
  · rw [shows.forward, shows.neighbors]
    exact congrArg₂ members.toIR linked.forward linked.neighbors
  refine (updateNeighbor_refines host allocator untilTime message _ _ linked.sound).behind ?_
  intro _ last sound
  refine readTables_silent (.demand_ok (showTable_eq sound.neighbor) (readTables_silent ?_))
  rw [showTable_eq sound.forward]
  exact .done sound

theorem recvBeacon_refines (allocator : Allocator (Object F)) (now : Timeval) (fromAddr : UInt32)
    (received : Received) (sound : own.Sound) :
    Refines (levels F D) (fun _ _ seen => seen.Sound) own
      (recvBeacon host allocator now fromAddr received)
      (TunVideo.recvBeacon host now fromAddr received) := by
  unfold recvBeacon TunVideo.recvBeacon
  refine (plain_refines (.modify fun _ _ _ => rfl) sound).bind ?_
  intro _ _ own sound
  refine plainRead_both (fun _ _ _ => rfl) fun message => ?_
  refine plainRead_both (fun _ _ _ => rfl) fun phyIp => ?_
  exact .ite (fun _ => buildNeighbor_refines host allocator now message sound)
    fun _ => .done sound

omit [SinglePrecision F D] in
theorem fillDataBuffer_without (order : ByteOrder) (nread : Nat) (message : DataMessage) :
    WithoutTables (fillDataBuffer order nread message : Procedure F D Unit) :=
  .bind (.modify fun _ _ _ => rfl) fun _ => .bind (.read fun _ _ _ => rfl) fun _ =>
    .bind (.require _ _) fun _ => .modify fun _ _ _ => rfl

theorem tunSending_without (nread : Nat) (sendFails : Bool) (opt : Option (UInt32 × GPS F)) :
    WithoutTables (tunSending host nread sendFails opt) := by
  refine .bind (.read fun _ _ _ => rfl) fun srcGpsX => ?_
  cases opt with
  | some found =>
      exact .bind (.require _ _) fun _ => .bind (.require _ _) fun _ =>
        .bind (.read fun _ _ _ => rfl) fun _ => .bind (.require _ _) fun _ =>
          .bind (fillDataBuffer_without _ _ _) fun _ => .perform fun _ _ _ => rfl
  | none =>
      exact .bind (.perform fun _ _ _ => rfl) fun _ => .bind (.read fun _ _ _ => rfl) fun _ =>
        .bind (.require _ _) fun _ => .bind (fillDataBuffer_without _ _ _) fun _ =>
          .ite (.stop _) (.perform fun _ _ _ => rfl)

theorem recvTun_refines (received : Received) (sendFails : Bool) (sound : own.Sound) :
    Refines (levels F D) (fun _ _ seen => seen.Sound) own
      (recvTun host received sendFails) (TunVideo.recvTun host received sendFails) := by
  unfold recvTun TunVideo.recvTun
  refine (plain_refines (.modify fun _ _ _ => rfl) sound).bind ?_
  intro _ _ own sound
  refine (plain_refines (.modify fun _ _ _ => rfl) sound).bind ?_
  intro _ _ own sound
  refine Refines.read fun node held => ?_
  change node.tables = own at held
  subst held
  let dstIp := node.members.tunBuffer.word host.order daddrOffset
  let nread := (UInt16.ofInt (received.count frameSize)).toNat
  have send (opt : Option (UInt32 × GPS F)) :
      Refines (levels F D) (fun _ _ seen => seen.Sound) node.tables
        (plain (tunSending host nread sendFails opt)) (tunSending host nread sendFails opt) :=
    plain_refines (tunSending_without host nread sendFails opt) sound
  change Refines (levels F D) (fun _ _ seen => seen.Sound) node.tables
    (gpsByIp node.tables.forwardTable[dstIp]? >>= fun opt =>
      plain (tunSending host nread sendFails opt))
    (tunSending host nread sendFails
      (node.tables.forward[dstIp]?.map fun entry => (entry.nextHopIp, entry.gps)))
  rw [Tables.getElem?_forward]
  cases linked : node.tables.forwardTable[dstIp]? with
  | none => exact send none
  | some it =>
      obtain ⟨entry, held⟩ := sound.forward.live dstIp it linked
      rw [Option.bind_some, held, gpsByIp, bind_assoc]
      refine deref_silent held ?_
      exact send (some (entry.nextHopIp, entry.gps))

variable [DoublePrecision D]

theorem operation_refines (chosen : Operation D × Allocator (Object F)) (sound : own.Sound) :
    Refines (levels F D) (fun _ _ seen => seen.Sound) own (operation host chosen)
      (chosen.1.procedure host) := by
  obtain ⟨chosen, allocator⟩ := chosen
  cases chosen with
  | recvTun received sendFails => exact recvTun_refines host received sendFails sound
  | recvBeacon now fromAddr received =>
      exact recvBeacon_refines host allocator now fromAddr received sound
  | recvData readings received writeFails =>
      exact recvData_refines host allocator readings received writeFails sound

end

section

variable [SinglePrecision F D] (host : Host F D)

theorem activity_refines (chosen : Activity F D) (own : Tables F) :
    Refines (levels F D) (fun _ _ seen => seen = own) own (activity host chosen)
      (chosen.procedure host) := by
  have without : WithoutTables (chosen.procedure host) := by
    cases chosen with
    | gpsFix gps speed => exact .modify fun _ _ _ => rfl
    | sigalrm stack =>
        refine .bind ?_ fun _ => .perform fun _ _ _ => rfl
        refine .bind (.read fun _ _ _ => rfl) fun _ => .bind (.read fun _ _ _ => rfl) fun _ =>
          .bind (.modify fun _ _ _ => rfl) fun _ => .bind (.modify fun members _ _ => ?_) fun _ =>
          .bind (.modify fun _ _ _ => rfl) fun _ => .bind (.read fun _ _ _ => rfl) fun _ =>
          .bind (.read fun _ _ _ => rfl) fun _ => .bind (.read fun _ _ _ => rfl) fun _ =>
          .bind (.read fun _ _ _ => rfl) fun _ => .pure _
        dsimp only [Members.toIR]
        by_cases full : members.qGps.length = 2
        · rw [if_pos full, if_pos full]
          rfl
        · rw [if_neg full, if_neg full]
          rfl
  exact (without.refines own).mono fun _ _ _ => And.right

end

end

section

variable {F D : Type} [DoublePrecision D] [SinglePrecision F D]

/-- The constructor of `IR` leaves both tables empty, and other objects where they are. -/
def Node.constructed (members : Members F D) (heap : Heap (Object F)) : Node F D :=
  ⟨members, heap, ∅, ∅⟩

omit [DoublePrecision D] [SinglePrecision F D] in
theorem constructed_sound (members : Members F D) (heap : Heap (Object F)) :
    (Node.constructed members heap).tables.Sound :=
  ⟨ObjectClass.owned_empty _ heap, ObjectClass.owned_empty _ heap⟩

omit [DoublePrecision D] [SinglePrecision F D] in
theorem constructed_view (members : Members F D) (heap : Heap (Object F)) :
    (levels F D).view (Node.constructed members heap) = members.toIR ∅ ∅ :=
  congrArg₂ members.toIR (ObjectClass.pointees_empty _ heap) (ObjectClass.pointees_empty _ heap)

abbrev LinkedTrace (host : Host F D) :=
  Loop.Trace (operation host) (activity host)

/-- The tables of pointers are as good as tables of objects. What is left of bad reads is that
of `Forwarding` behind the end iterator, where both stop: it follows no pointer of a table. -/
structure PointersRefine (host : Host F D) (members : Members F D) (heap : Heap (Object F)) :
    Prop where
  safe : ∀ events last, LinkedTrace host ⟨.done (), Node.constructed members heap⟩ events last →
    last.pending ≠ .stop .badPointer
  sound : ∀ events node,
    LinkedTrace host ⟨.done (), Node.constructed members heap⟩ events ⟨.done (), node⟩ →
      node.tables.Sound
  same : ∀ events ir,
    (∃ node, LinkedTrace host ⟨.done (), Node.constructed members heap⟩ events ⟨.done (), node⟩ ∧
        (levels F D).view node = ir) ↔
      NodeTrace host ⟨.done (), members.toIR ∅ ∅⟩ events ⟨.done (), ir⟩
  stops : ∀ events reason ir,
    (∃ node, LinkedTrace host ⟨.done (), Node.constructed members heap⟩ events
        ⟨.stop (.stopped reason), node⟩ ∧ (levels F D).view node = ir) ↔
      NodeTrace host ⟨.done (), members.toIR ∅ ∅⟩ events ⟨.stop reason, ir⟩

/-- Signals and fixes arrive between any two statements, and `new` puts its objects anywhere: no
pointer of a table is ever followed to a deleted object, or to none, and the node shows, reaches
and stops for exactly what it does with the objects themselves in its tables. -/
theorem linkedTrace_refines (host : Host F D) (members : Members F D) (heap : Heap (Object F)) :
    PointersRefine host members heap := by
  have operations (chosen : Operation D × Allocator (Object F)) (own : Tables F)
      (sound : own.Sound) := operation_refines host chosen sound
  have idle : Refines (levels F D) (fun _ _ seen => seen.Sound)
      (Node.constructed members heap).tables (.done () : NodeProcedure F D Unit) (.done ()) :=
    .done (constructed_sound members heap)
  have every (chosen : Operation D) : ∃ chosen' : Operation D × Allocator (Object F),
      chosen'.1 = chosen := ⟨(chosen, .atEnd (Object F)), rfl⟩
  have apart : Function.Injective (levels F D).reason := fun _ _ same => Halt.stopped.inj same
  constructor
  · intro events last run bad
    obtain ⟨current, -, refines⟩ := Loop.Trace.refines operations (activity_refines host) run idle
    rw [bad] at refines
    generalize fault : (Program.stop .badPointer : NodeProcedure F D Unit) = pending at refines
    cases refines with
    | stop own reason => cases fault
    | done => cases fault
    | silent => cases fault
    | both => cases fault
  · intro events node run
    obtain ⟨current, -, refines⟩ := Loop.Trace.refines operations (activity_refines host) run idle
    cases refines with
    | done sound => exact sound
  · intro events ir
    rw [← constructed_view members heap]
    exact Loop.trace_refines_iff operations (activity_refines host) every idle
  · intro events reason ir
    rw [← constructed_view members heap]
    exact Loop.trace_stops_iff operations (activity_refines host) every apart idle

end

end TunVideo.Linked
