import TunVideo.OwnPosition

set_option autoImplicit false

namespace TunVideo

open Program

section

variable {F D : Type}

structure SameSource (first second : IR F D) : Prop where
  virIp : first.virIp = second.virIp
  phyIp : first.phyIp = second.phyIp
  gGps : first.gGps = second.gGps
  gSpeed : first.gSpeed = second.gSpeed
  qGps : first.qGps = second.qGps

/-- Different beacons are sent as different bytes. -/
theorem BeaconMessage.bytes_injective {order : ByteOrder} {first second : BeaconMessage}
    (same : first.bytes order = second.bytes order) : first = second := by
  let empty : Buffer size := fun _ => 0
  have stored (message : BeaconMessage) :
      parse order (empty.overwrite 0 (message.bytes order)) = message := by
    have width := message.bytes_length order
    apply parse_of_slice
    have written := Buffer.slice_overwrite empty 0 (message.bytes order) (by rw [width]; decide)
    rwa [width] at written
  rw [← stored first, ← stored second, same]

variable [SinglePrecision F D]

/-- The bytes of the beacon that `build_beacon` makes of a structure on the stack. -/
def builtBytes (host : Host F D) (stack : BeaconMessage) (ir : IR F D) :
    Except Stop (List UInt8) :=
  ((buildBeacon host stack).run ir).result.map fun message => message.bytes host.order

/-- What was on the stack before does not show in the beacon. -/
def BeaconDetermined (host : Host F D) (ir : IR F D) : Prop :=
  ∀ other, SameSource ir other → ∀ stack stack',
    builtBytes host stack ir = builtBytes host stack' other

variable {host : Host F D} {ir : IR F D}

theorem builtBytes_eq (stack : BeaconMessage) :
    builtBytes host stack ir =
      .ok ((beaconOf host stack (afterBeacon ir)).bytes host.order) := by
  rw [builtBytes, buildBeacon_run]
  rfl

theorem beaconOf_full {other : IR F D} (same : SameSource ir other) (stack stack' : BeaconMessage)
    (full : (afterBeacon ir).qGps.length = 2) :
    beaconOf host stack (afterBeacon ir) = beaconOf host stack' (afterBeacon other) := by
  have queue : (afterBeacon ir).qGps = (afterBeacon other).qGps := by
    unfold afterBeacon
    dsimp only
    rw [same.qGps, same.gGps]
  have fullOther : (afterBeacon other).qGps.length = 2 := queue ▸ full
  unfold beaconOf
  rw [if_pos full, if_pos fullOther, queue]
  unfold afterBeacon
  dsimp only
  rw [same.virIp, same.phyIp, same.gGps, same.gSpeed]

theorem beaconOf_short (stack : BeaconMessage) (short : (afterBeacon ir).qGps.length ≠ 2) :
    (beaconOf host stack (afterBeacon ir)).srcSpeedX = stack.srcSpeedX :=
  if_neg short

/-- A beacon is determined if and only if the queue has two fixes when it is built. -/
theorem beaconDetermined_iff :
    BeaconDetermined host ir ↔ (afterBeacon ir).qGps.length = 2 := by
  constructor
  · intro determined
    by_contra short
    have same : SameSource ir ir := ⟨rfl, rfl, rfl, rfl, rfl⟩
    have bytes := determined ir same ⟨0, 0, 0, 0, 0, 0⟩ ⟨0, 0, 0, 0, 1, 0⟩
    rw [builtBytes_eq, builtBytes_eq] at bytes
    have messages := BeaconMessage.bytes_injective (Except.ok.inj bytes)
    have field := congrArg BeaconMessage.srcSpeedX messages
    rw [beaconOf_short _ short, beaconOf_short _ short] at field
    exact absurd field (by decide)
  · intro full other same stack stack'
    rw [builtBytes_eq, builtBytes_eq, beaconOf_full same stack stack' full]

end

section

variable {F D : Type}

def IsBeacon (chosen : Operation D ⊕ Activity F D) : Prop :=
  ∃ stack, chosen = .inr (.sigalrm stack)

/-- Without a beacon the queue is as it was, and with one it is not empty. -/
theorem OwnState.follow_qGps (own : OwnState F) (chosen : Operation D ⊕ Activity F D) :
    (own.follow chosen).qGps = own.qGps ∧ ¬IsBeacon chosen ∨
      (own.follow chosen).qGps =
        (if own.qGps.length = 2 then own.qGps.tail else own.qGps) ++ [own.fix] ∧
        IsBeacon chosen := by
  cases chosen with
  | inl operation =>
      apply Or.inl
      cases operation <;> exact ⟨rfl, nofun⟩
  | inr activity =>
      cases activity with
      | sigalrm stack => exact Or.inr ⟨rfl, stack, rfl⟩
      | gpsFix gps speed => exact Or.inl ⟨rfl, nofun⟩

/-- The queue has two fixes after a beacon if and only if it had at least one before. -/
theorem afterBeacon_full {ir : IR F D} (few : ir.qGps.length ≤ 2) :
    (afterBeacon ir).qGps.length = 2 ↔ ir.qGps ≠ [] := by
  have length : (afterBeacon ir).qGps.length =
      (if ir.qGps.length = 2 then ir.qGps.tail else ir.qGps).length + 1 := by
    rw [afterBeacon, List.length_append, List.length_singleton]
  rw [length, ne_eq, ← List.length_eq_zero_iff]
  split
  · rw [List.length_tail]
    omega
  · omega

variable [DoublePrecision D] [SinglePrecision F D] {host : Host F D}

/-- The queue never holds more than two fixes, and holds one as soon as there was a beacon. -/
theorem history_qGps {first last : IR F D}
    {history : List (IR F D × (Operation D ⊕ Activity F D))}
    (steps : History (stepCompletes host) first history last) (empty : first.qGps = []) :
    last.qGps.length ≤ 2 ∧ (last.qGps ≠ [] ↔ ∃ visited ∈ history, IsBeacon visited.2) := by
  induction steps with
  | start => simp [empty]
  | @next middle last history run chosen taken ih =>
      obtain ⟨few, before⟩ := ih
      have followed : last.qGps = (middle.own.follow chosen).qGps :=
        congrArg OwnState.qGps (step_own host taken)
      have either : (∃ visited ∈ history ++ [(middle, chosen)], IsBeacon visited.2) ↔
          (∃ visited ∈ history, IsBeacon visited.2) ∨ IsBeacon chosen := by
        simp only [List.mem_append, List.mem_singleton, or_and_right, exists_or, exists_eq_left]
      rw [followed, either]
      rcases middle.own.follow_qGps chosen with ⟨same, silent⟩ | ⟨pushed, beacon⟩
      · rw [same]
        refine ⟨few, ?_⟩
        rw [or_iff_left silent]
        exact before
      · rw [pushed]
        constructor
        · have few : middle.own.qGps.length ≤ 2 := few
          rw [List.length_append, List.length_singleton]
          split
          · rw [List.length_tail]
            omega
          · omega
        · apply iff_of_true
          · simp
          · exact Or.inr beacon

/-- After every run, the next beacon is determined by the state of the node if and only if it
is not the first of the run. -/
theorem run_beaconDetermined_iff (run : NodeRun host) :
    BeaconDetermined host run.last ↔ ∃ visited ∈ run.history, IsBeacon visited.2 := by
  obtain ⟨few, sent⟩ := history_qGps run.steps run.start.queue
  rw [beaconDetermined_iff, afterBeacon_full few, sent]

end

/-- The first beacon of a node shows what was on the stack. -/
theorem firstBeacon_showsStack :
    ¬∀ run : NodeRun Host.shortHistories, BeaconDetermined .shortHistories run.last := by
  intro determined
  have full := beaconDetermined_iff.mp
    (determined (NodeRun.atStart .shortHistories loneNode_initial))
  exact absurd full (by decide)

end TunVideo
