import TunVideo.ForwardResult

set_option autoImplicit false

namespace TunVideo

open Program

variable {F D : Type}

theorem dataBroadcast_defined (ir : IR F D) (nread : Nat) :
    ((dataBroadcast nread : Procedure F D Unit).run ir).result ≠ .error .endIterator := by
  rw [dataBroadcast_result]
  split <;> simp

theorem sendToNextHop_defined (ir : IR F D) (nextHopId : UInt32) (nread : Nat) :
    ((sendToNextHop nextHopId nread : Procedure F D Unit).run ir).result ≠
      .error .endIterator := by
  rw [sendToNextHop_result]
  split <;> simp

theorem not_miss {ir : IR F D} {dstIp : UInt32} {entry : ForwardTableEntry F} {rest : Prop}
    (held : ir.forwardTable[dstIp]? = some entry) :
    ¬(ir.forwardTable[dstIp]? = none ∧ rest) := by
  rw [held]
  exact fun miss => nomatch miss.1

variable [DoublePrecision D] [SinglePrecision F D]

section

variable (host : Host F D) (readings : Readings D) (dstIp : UInt32) (dstGps : GPS F) (ir : IR F D)

/-- `Forwarding` completes without dereferencing an end iterator on its way; and where it
asks `RouteMakeup` for an unknown destination, the answer is cached. -/
def ForwardingDefined (nread : Nat) : Prop :=
  let outcome := (forwarding host readings dstIp dstGps nread).run ir
  outcome.result ≠ .error .endIterator ∧
    ∀ choice, ir.forwardTable[dstIp]? = none → dstGps.unknown = false →
      routeChoice host readings.routeMakeup readings.gaussrand ir dstGps = some choice →
      choice.2 ≠ broadcastAddress →
      outcome.result = .ok () ∧ outcome.state.forwardTable[dstIp]? = some
        ⟨choice.2, UInt32.ofInt (untilTime ir.beginTime readings.forwarding), dstGps⟩

end

section

variable {host : Host F D} {readings : Readings D} {dstIp : UInt32} {dstGps : GPS F}
  {ir : IR F D} {nread : Nat}

/-- The end iterator is dereferenced on one way through `Forwarding` only. -/
theorem forwarding_endIterator_iff :
    ((forwarding host readings dstIp dstGps nread).run ir).result = .error .endIterator ↔
      ir.forwardTable[dstIp]? = none ∧ ¬dstGps.unknown = true ∧
        (routeChoice host readings.routeMakeup readings.gaussrand ir dstGps).isSome := by
  have path := forwarding_path host readings dstIp dstGps nread ir
  generalize (forwarding host readings dstIp dstGps nread).run ir = outcome at path ⊢
  cases path with
  | missUnknown absent unknown =>
      exact iff_of_false (dataBroadcast_defined ir nread) fun miss => miss.2.1 unknown
  | missStopped absent known stopped =>
      refine iff_of_false (by simp) fun miss => ?_
      rw [stopped] at miss
      cases miss.2.2
  | missComputed absent known choice chosen =>
      exact iff_of_true rfl ⟨absent, known, by rw [chosen]; rfl⟩
  | expiredUnknown entry held =>
      exact iff_of_false (dataBroadcast_defined ir nread) (not_miss held)
  | expiredStopped entry held => exact iff_of_false (by simp) (not_miss held)
  | expiredComputed entry held => exact iff_of_false (sendToNextHop_defined _ _ nread) (not_miss held)
  | legal entry held => exact iff_of_false (sendToNextHop_defined _ _ nread) (not_miss held)
  | illegalStopped entry held => exact iff_of_false (by simp) (not_miss held)
  | illegalComputed entry held => exact iff_of_false (sendToNextHop_defined _ _ nread) (not_miss held)

/-- `Forwarding` dereferences the end iterator exactly on a miss for a known position that
`RouteMakeup` gets through. -/
theorem forwarding_defined_iff :
    ForwardingDefined host readings dstIp dstGps ir nread ↔
      (ir.forwardTable[dstIp]?).isSome ∨ dstGps.unknown = true ∨
        routeChoice host readings.routeMakeup readings.gaussrand ir dstGps = none := by
  unfold ForwardingDefined
  dsimp only
  rw [ne_eq, forwarding_endIterator_iff]
  constructor
  · rintro ⟨defined, -⟩
    by_contra otherwise
    rw [not_or, not_or, Option.not_isSome_iff_eq_none] at otherwise
    obtain ⟨absent, known, found⟩ := otherwise
    exact defined ⟨absent, known, Option.isSome_iff_ne_none.mpr found⟩
  · intro reached
    constructor
    · rintro ⟨absent, known, found⟩
      rw [absent] at reached
      simp [known, Option.isSome_iff_ne_none.mp found] at reached
    · intro choice absent known chosen
      rw [absent, known, chosen] at reached
      simp at reached

end

/-- The first relayed packet with a position is enough: no table has an entry yet. -/
theorem forwarding_undefined_on_miss :
    ¬ForwardingDefined .shortHistories .atOneSecond 0x0300000A ⟨1, 1⟩ loneNode 44 := by
  have absent : loneNode.forwardTable[(0x0300000A : UInt32)]? = none :=
    Std.ExtTreeMap.getElem?_empty
  have known : ¬(⟨1, 1⟩ : GPS Float32).unknown = true := by decide +kernel
  rintro ⟨defined, -⟩
  exact defined (forwarding_endIterator_iff.mpr ⟨absent, known, by decide +kernel⟩)

end TunVideo
