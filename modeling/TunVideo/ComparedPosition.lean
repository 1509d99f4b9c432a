import TunVideo.Predict
import TunVideo.RoutingState

set_option autoImplicit false

namespace TunVideo

open Program SinglePrecision

section

variable {host : Host Float32 Float}

/-- The history of an entry is the projection of reported positions, and the last of them is
the position of the entry. -/
structure ProjectedHistory (host : Host Float32 Float) (entry : NeighborEntry Float32) :
    Prop where
  reports : ∃ reports : List (GPS Float32), entry.gpsq = reports.map host.project ∧
    reports.getLast? = some entry.gps
  speed : entry.speed.OfWords

theorem pushHistory_projected (reports : List (GPS Float32)) (gps : GPS Float32) :
    pushHistory (reports.map host.project) (host.project gps) =
      (pushHistory reports gps).map host.project := by
  unfold pushHistory
  rw [List.length_map, List.map_append, List.map_singleton]
  split
  · rw [List.map_tail]
  · rfl

theorem senderEntry_projected (untilTime : Int) (message : BeaconMessage)
    {survivor : Option (NeighborEntry Float32)}
    (before : ∀ entry, survivor = some entry → ProjectedHistory host entry) :
    ProjectedHistory host (senderEntry host untilTime message survivor) where
  reports := by
    cases survivor with
    | none => exact ⟨[_], rfl, rfl⟩
    | some entry =>
        obtain ⟨reports, projected, -⟩ := (before entry rfl).reports
        refine ⟨pushHistory reports _, ?_, List.getLast?_concat⟩
        change pushHistory entry.gpsq (host.project _) = _
        rw [projected]
        exact pushHistory_projected reports _
  speed := ⟨message.srcSpeedX, message.srcSpeedY, rfl⟩

theorem run_projected (run : NodeRun host) {vip : UInt32} {entry : NeighborEntry Float32}
    (held : run.last.neighborTable[vip]? = some entry) : ProjectedHistory host entry :=
  run.neighbor_invariant (fun untilTime message _ before =>
    senderEntry_projected untilTime message before) held

theorem run_collectedPosition (run : NodeRun host.predicting) (gaussrand : UInt32 → Nat → Float)
    {untilTime : Int} {vip : UInt32} {entry : NeighborEntry Float32}
    (held : run.last.neighborTable[vip]? = some entry)
    (live : age untilTime entry.timestamp ≤ ttlNeighborTable) :
    ∃ reports : List (GPS Float32), reports.getLast? = some entry.gps ∧
      collectedPosition host.predicting gaussrand untilTime (vip, entry) =
        advancedPredict (gaussrand vip) (reports.map host.project)
          (UInt32.ofInt (age untilTime entry.timestamp)) entry.speed := by
  obtain ⟨reports, projected, latest⟩ := (run_projected run held).reports
  refine ⟨reports, latest, ?_⟩
  unfold collectedPosition
  dsimp only
  rw [olderThan_eq_false.mpr live, projected]
  rfl

/-- `RouteMakeup` compares the position that the entry reports. -/
def ComparesReported (host : Host Float32 Float) (gaussrand : UInt32 → Nat → Float)
    (untilTime : Int) (vip : UInt32) (entry : NeighborEntry Float32) : Prop :=
  ∃ gps, collectedPosition host gaussrand untilTime (vip, entry) = some gps ∧
    gps.sameAs entry.gps = true

/-- The prediction starts from the reported position: the projection leaves it where it is.
In a history of more than eight positions it is an earlier one that has to be there. -/
def StartsAtReport (host : Host Float32 Float) (entry : NeighborEntry Float32) : Prop :=
  if entry.gpsq.length ≤ 8 then (host.project entry.gps).sameAs entry.gps = true
  else ∃ start, entry.gpsq[7]? = some start ∧ start.sameAs entry.gps = true

theorem ProjectedHistory.start {entry : NeighborEntry Float32}
    (projected : ProjectedHistory host entry) :
    ∃ start, entry.gpsq[min 7 (entry.gpsq.length - 1)]? = some start ∧
      (StartsAtReport host entry ↔ start.sameAs entry.gps = true) := by
  have latest : entry.gpsq.getLast? = some (host.project entry.gps) := by
    obtain ⟨reports, history, last⟩ := projected.reports
    rw [history, List.getLast?_map, last, Option.map_some]
  unfold StartsAtReport
  by_cases short : entry.gpsq.length ≤ 8
  · have last : min 7 (entry.gpsq.length - 1) = entry.gpsq.length - 1 := by omega
    rw [last, ← List.getLast?_eq_getElem?, latest, if_pos short]
    exact ⟨_, rfl, Iff.rfl⟩
  · have eighth : min 7 (entry.gpsq.length - 1) = 7 := by omega
    rw [eighth, if_neg short, List.getElem?_eq_getElem (by omega)]
    refine ⟨_, rfl, ?_⟩
    constructor
    · rintro ⟨start, same, reported⟩
      rw [Option.some.inj same]
      exact reported
    · intro reported
      exact ⟨_, rfl, reported⟩

/-- What `RouteMakeup` compares for an entry that has just been heard. -/
theorem ProjectedHistory.comparesReported_iff {host : Host Float32 Float}
    {entry : NeighborEntry Float32} (projected : ProjectedHistory host.predicting entry)
    (gaussrand : UInt32 → Nat → Float) {untilTime : Int} (vip : UInt32)
    (current : age untilTime entry.timestamp = 0) :
    ComparesReported host.predicting gaussrand untilTime vip entry ↔
      StartsAtReport host.predicting entry := by
  obtain ⟨start, begins, reported⟩ := projected.start
  obtain ⟨position, predicted, unmoved⟩ :=
    advancedPredict_current (gaussrand vip) begins projected.speed
  have fresh : olderThan ttlNeighborTable untilTime entry.timestamp = false := by
    rw [olderThan_eq_false, current]
    decide
  have collected : collectedPosition host.predicting gaussrand untilTime (vip, entry) =
      some position := by
    unfold collectedPosition
    dsimp only
    rw [fresh, current]
    exact predicted
  rw [ComparesReported, collected, reported, ← unmoved.sameAs entry.gps]
  constructor
  · rintro ⟨gps, same, compared⟩
    rw [Option.some.inj same]
    exact compared
  · intro compared
    exact ⟨_, rfl, compared⟩

/-- For a neighbour that has just been heard `RouteMakeup` compares the position it reports if
and only if the projection has left the start of its prediction there. -/
theorem run_comparesReported_iff {host : Host Float32 Float} (run : NodeRun host.predicting)
    (gaussrand : UInt32 → Nat → Float) (now : Timeval) {vip : UInt32}
    {entry : NeighborEntry Float32} (held : run.last.neighborTable[vip]? = some entry)
    (current : age (untilTime run.last.beginTime now) entry.timestamp = 0) :
    ComparesReported host.predicting gaussrand (untilTime run.last.beginTime now) vip entry ↔
      StartsAtReport host.predicting entry :=
  (run_projected run held).comparesReported_iff gaussrand vip current

end

/-- A projection with W = 2 and H = 6. It leaves the position (2,1) where it is. -/
def Host.linearProjection : Host Float32 Float :=
  { Host.shortHistories with
    millierConvertion := fun lat lon => ⟨ofDouble (1.0 + lon), ofDouble (3.0 - lat)⟩ }

def reporting (x y : UInt32) : BeaconMessage := ⟨0x0200000A, 0x0200A8C0, x, y, 0, 0⟩

def heardAt (x y : UInt32) : NodeRun Host.linearProjection.predicting :=
  (NodeRun.atStart _ loneNode_initial).hear ⟨1, 0⟩ 0x0200A8C0 (reporting x y)

def heardEntry (x y : UInt32) : NeighborEntry Float32 :=
  senderEntry Host.linearProjection.predicting 1000 (reporting x y) none

theorem heardAt_held (x y : UInt32) :
    (heardAt x y).last.neighborTable[(0x0200000A : UInt32)]? = some (heardEntry x y) := by
  have foreign : (0x0200A8C0 : UInt32) ≠ loneNode.phyIp := by decide
  rw [heardAt, NodeRun.hear_last _ _ foreign]
  exact getElem?_neighborAfter_self _ _ (reporting x y) ∅

theorem heardAt_comparesReported :
    ComparesReported Host.linearProjection.predicting (fun _ _ => 0) 1000 0x0200000A
      (heardEntry 2 1) := by
  apply (run_comparesReported_iff (heardAt 2 1) (fun _ _ => 0) ⟨1, 0⟩ (heardAt_held 2 1)
    (by decide)).mpr
  change GPS.sameAs _ _ = true
  decide +kernel

/-- The position (0,0) is projected to (W/2,H/2), and compared as it is projected. -/
theorem routeMakeup_comparesProjected :
    ¬∀ (run : NodeRun Host.linearProjection.predicting) (gaussrand : UInt32 → Nat → Float)
      (now : Timeval) (vip : UInt32) (entry : NeighborEntry Float32),
      run.last.neighborTable[vip]? = some entry →
      age (untilTime run.last.beginTime now) entry.timestamp = 0 →
      ComparesReported Host.linearProjection.predicting gaussrand
        (untilTime run.last.beginTime now) vip entry := by
  intro compares
  have held := heardAt_held 0 0
  have compared := compares (heardAt 0 0) (fun _ _ => 0) ⟨1, 0⟩ _ _ held (by decide)
  have starts := ((run_projected (heardAt 0 0) held).comparesReported_iff _ _ (by decide)).mp
    compared
  change GPS.sameAs _ _ = true at starts
  revert starts
  decide +kernel

end TunVideo
