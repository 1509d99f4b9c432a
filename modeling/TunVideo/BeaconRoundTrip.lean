import TunVideo.Beacon

set_option autoImplicit false

namespace TunVideo

open Program Binary32 SinglePrecision

def SameSpeed (stored sent : Speed Float32) : Prop :=
  value stored.x = value sent.x ∧ value stored.y = value sent.y

section

variable (host : Host Float32 Float) (now : Timeval) (stack : BeaconMessage)
  (sender receiver : IR Float32 Float)

def senderSpeed : Speed Float32 :=
  host.speedChange (afterBeacon sender).qGps sender.gSpeed

/-- Both tables have the sender's addresses and position, and the neighbour table its speed. -/
def StoresSender (speed : Speed Float32) (after : IR Float32 Float) : Prop :=
  (∃ neighbor, after.neighborTable[sender.virIp]? = some neighbor ∧
      SamePosition neighbor.gps sender.gGps ∧ SameSpeed neighbor.speed speed ∧
      neighbor.phyIp = sender.phyIp) ∧
    ∃ entry, after.forwardTable[sender.virIp]? = some entry ∧
      SamePosition entry.gps sender.gGps ∧ entry.nextHopIp = sender.phyIp

/-- Receiving what `send_beacon` sends stores the sender as it is. -/
def RoundTrips (sending receiving : Host Float32 Float) (fromAddr : UInt32) : Prop :=
  ∀ dst payload, .beaconSent dst payload ∈ ((sendBeacon sending stack).run sender).events →
    StoresSender sender (senderSpeed sending sender)
      ((recvBeacon receiving now fromAddr (.packet payload)).run receiver).state

/-- With one or two positions in its queue a node sends its own speed. -/
def HasHistory : Prop := sender.qGps.length = 1 ∨ sender.qGps.length = 2

/-- The entry that the receiver updates, if there is one, has the sender's address. -/
def KnownAddress : Prop :=
  ∀ neighbor, receiver.neighborTable[sender.virIp]? = some neighbor →
    olderThan 5 (untilTime receiver.beginTime now) neighbor.timestamp = false →
    neighbor.phyIp = sender.phyIp

/-- All words sent are among the two that keep their value. The first beacon of a node
sends a word from the stack for the `x` of its speed. -/
structure SentAsFixedWords : Prop where
  positionX : FixedWord sender.gGps.x.toBits
  positionY : FixedWord sender.gGps.y.toBits
  speedX : HasHistory sender → FixedWord (senderSpeed host sender).x.toBits
  stackX : ¬HasHistory sender →
    value stack.srcSpeedX.toFloat32 = value (senderSpeed host sender).x
  speedY : FixedWord (senderSpeed host sender).y.toBits

end

section

variable {host : Host Float32 Float} {now : Timeval} {stack : BeaconMessage}
  {sender receiver : IR Float32 Float}

theorem hasHistory_iff : (afterBeacon sender).qGps.length = 2 ↔ HasHistory sender := by
  unfold afterBeacon HasHistory
  dsimp only
  rw [List.length_append, List.length_singleton]
  split
  · rw [List.length_tail]
    omega
  · omega

theorem speed_roundTrips_iff (finite : (senderSpeed host sender).x.isFinite = true)
    (finiteY : (senderSpeed host sender).y.isFinite = true) :
    SameSpeed
        ⟨(beaconOf host stack (afterBeacon sender)).srcSpeedX.toFloat32,
          (beaconOf host stack (afterBeacon sender)).srcSpeedY.toFloat32⟩
        (senderSpeed host sender) ↔
      ((HasHistory sender → FixedWord (senderSpeed host sender).x.toBits) ∧
        (¬HasHistory sender →
          value stack.srcSpeedX.toFloat32 = value (senderSpeed host sender).x)) ∧
        FixedWord (senderSpeed host sender).y.toBits := by
  have own : (beaconOf host stack (afterBeacon sender)).srcSpeedY =
      (senderSpeed host sender).y.toBits := rfl
  unfold SameSpeed
  rw [own, reinterpreted_iff finiteY]
  refine and_congr_left fun _ => ?_
  by_cases history : HasHistory sender
  · have sent : (beaconOf host stack (afterBeacon sender)).srcSpeedX =
        (senderSpeed host sender).x.toBits := if_pos (hasHistory_iff.mpr history)
    rw [sent, reinterpreted_iff finite]
    exact ⟨fun fixed => ⟨fun _ => fixed, fun none => absurd history none⟩,
      fun both => both.1 history⟩
  · have sent : (beaconOf host stack (afterBeacon sender)).srcSpeedX = stack.srcSpeedX :=
      if_neg (mt hasHistory_iff.mp history)
    rw [sent]
    exact ⟨fun same => ⟨fun some => absurd some history, fun _ => same⟩,
      fun both => both.2 history⟩

theorem storedAddress_iff :
    (((MapSweep.sweep (olderThan 5 (untilTime receiver.beginTime now) ·.timestamp)
          receiver.neighborTable)[sender.virIp]?).map NeighborEntry.phyIp).getD sender.phyIp =
        sender.phyIp ↔
      KnownAddress now sender receiver := by
  unfold KnownAddress
  cases survivor : (MapSweep.sweep (olderThan 5 (untilTime receiver.beginTime now) ·.timestamp)
      receiver.neighborTable)[sender.virIp]? with
  | none =>
      refine iff_of_true rfl ?_
      intro neighbor held fresh
      have old := MapSweep.getElem?_sweep_eq_none.mp survivor neighbor held
      rw [fresh] at old
      cases old
  | some neighbor =>
      obtain ⟨held, fresh⟩ := MapSweep.getElem?_sweep_eq_some.mp survivor
      constructor
      · intro same other held' _
        rw [held] at held'
        rw [← Option.some.inj held']
        exact same
      · exact fun known => known neighbor held fresh

theorem storesSender_iff {sending receiving : Host Float32 Float} {fromAddr : UInt32}
    (order : sending.order = receiving.order) (foreign : fromAddr ≠ receiver.phyIp) :
    RoundTrips now stack sender receiver sending receiving fromAddr ↔
      SamePosition ⟨sender.gGps.x.toBits.toFloat32, sender.gGps.y.toBits.toFloat32⟩ sender.gGps ∧
        SameSpeed
          ⟨(beaconOf sending stack (afterBeacon sender)).srcSpeedX.toFloat32,
            (beaconOf sending stack (afterBeacon sender)).srcSpeedY.toFloat32⟩
          (senderSpeed sending sender) ∧
        KnownAddress now sender receiver := by
  have known := getElem?_neighborAfter_self receiving (untilTime receiver.beginTime now)
    (beaconOf sending stack (afterBeacon sender)) receiver.neighborTable
  have forwarded := getElem?_forwardAfter_self (untilTime receiver.beginTime now)
    (beaconOf sending stack (afterBeacon sender)) receiver.forwardTable
  have received := recvBeacon_run receiving now fromAddr
    (beaconOf sending stack (afterBeacon sender)) receiver
  dsimp only at received
  rw [if_pos foreign, ← order] at received
  unfold RoundTrips
  rw [sendBeacon_run]
  constructor
  · intro stored
    have stored := stored sender.broadcastAddr _ (List.mem_singleton.mpr rfl)
    rw [received] at stored
    obtain ⟨⟨neighbor, held, position, speed, address⟩, -⟩ := stored
    have same := Option.some.inj (known.symm.trans held)
    subst same
    exact ⟨position, speed, storedAddress_iff.mp address⟩
  · rintro ⟨position, speed, address⟩ dst payload sent
    cases List.mem_singleton.mp sent
    rw [received]
    exact ⟨⟨_, known, position, speed, storedAddress_iff.mpr address⟩, _, forwarded, position, rfl⟩

/-- A beacon stores the sender as it is if and only if every word in it keeps its value and
the receiver knows the sender under no other address. -/
theorem beacon_roundTrips_iff {sending receiving : Host Float32 Float} {fromAddr : UInt32}
    (order : sending.order = receiving.order) (foreign : fromAddr ≠ receiver.phyIp)
    (finiteX : sender.gGps.x.isFinite = true) (finiteY : sender.gGps.y.isFinite = true)
    (finiteSpeedX : (senderSpeed sending sender).x.isFinite = true)
    (finiteSpeedY : (senderSpeed sending sender).y.isFinite = true) :
    RoundTrips now stack sender receiver sending receiving fromAddr ↔
      SentAsFixedWords sending stack sender ∧ KnownAddress now sender receiver := by
  rw [storesSender_iff order foreign, speed_roundTrips_iff finiteSpeedX finiteSpeedY,
    SamePosition, reinterpreted_iff finiteX, reinterpreted_iff finiteY, ← and_assoc]
  refine and_congr_left fun _ => ?_
  constructor
  · rintro ⟨⟨positionX, positionY⟩, ⟨speedX, stackX⟩, speedY⟩
    exact ⟨positionX, positionY, speedX, stackX, speedY⟩
  · rintro ⟨positionX, positionY, speedX, stackX, speedY⟩
    exact ⟨⟨positionX, positionY⟩, ⟨speedX, stackX⟩, speedY⟩

end

def neighborAt (gps : GPS Float32) : IR Float32 Float :=
  { loneNode with virIp := 0x0200000A, phyIp := 0x0200A8C0, gGps := gps }

/-- The position (1,0) is stored as (1065353216,0). -/
theorem beacon_changesPosition :
    ¬RoundTrips ⟨0, 0⟩ ⟨0, 0, 0, 0, 0, 0⟩ (neighborAt ⟨1, 0⟩) loneNode .shortHistories
      .shortHistories 0x0200A8C0 := by
  rw [storesSender_iff rfl (by decide)]
  rintro ⟨⟨same, -⟩, -⟩
  rw [reinterpreted_iff (by decide +kernel)] at same
  exact absurd same (by decide +kernel)

/-- The position (0,0) and the speed (0,0) are stored as they are. -/
theorem beacon_roundTrips_zero :
    RoundTrips ⟨0, 0⟩ ⟨0, 0, 0, 0, 0, 0⟩ (neighborAt ⟨0, 0⟩) loneNode .shortHistories
      .shortHistories 0x0200A8C0 := by
  refine (beacon_roundTrips_iff rfl (by decide) (by decide +kernel) (by decide +kernel)
    (by decide +kernel) (by decide +kernel)).mpr ⟨⟨by decide +kernel, by decide +kernel, ?_, ?_,
      by decide +kernel⟩, ?_⟩
  · exact fun _ => by decide +kernel
  · intro _
    have still : (senderSpeed .shortHistories (neighborAt ⟨0, 0⟩)).x = (0 : UInt32).toFloat32 := by
      decide +kernel
    rw [still]
  · intro neighbor held
    rw [loneNode, IR.afterInit, Std.ExtTreeMap.getElem?_empty] at held
    cases held

end TunVideo
