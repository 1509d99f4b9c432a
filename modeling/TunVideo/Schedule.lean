import TunVideo.Origin
import TunVideo.StepHistory

set_option autoImplicit false

namespace TunVideo

open Program

variable {F D : Type}

/-- What `schedule` starts when a descriptor is readable. -/
inductive Operation (D : Type) where
  | recvTun (received : Received) (sendFails : Bool)
  | recvBeacon (now : Timeval) (fromAddr : UInt32) (received : Received)
  | recvData (readings : Readings D) (received : Received) (writeFails : Bool)

/-- What happens beside the main loop: the timer signal, and a fix read by `gps_thread`. -/
inductive Activity (F D : Type) where
  | sigalrm (stack : BeaconMessage)
  | gpsFix (gps : GPS F) (speed : D)

section

variable [SinglePrecision F D]

def Activity.procedure (host : Host F D) : Activity F D → Procedure F D Unit
  | sigalrm stack => sendBeacon host stack
  | gpsFix gps speed => modify fun ir => { ir with gGps := gps, gSpeed := speed }

variable [DoublePrecision D]

def Operation.procedure (host : Host F D) : Operation D → Procedure F D Unit
  | recvTun received sendFails => TunVideo.recvTun host received sendFails
  | recvBeacon now fromAddr received => TunVideo.recvBeacon host now fromAddr received
  | recvData readings received writeFails => TunVideo.recvData host readings received writeFails

def stepProcedure (host : Host F D) : Operation D ⊕ Activity F D → Procedure F D Unit
  | .inl operation => operation.procedure host
  | .inr activity => activity.procedure host

def stepCompletes (host : Host F D) (ir : IR F D) (chosen : Operation D ⊕ Activity F D)
    (after : IR F D) : Prop :=
  ((stepProcedure host chosen).run ir).result = .ok () ∧
    ((stepProcedure host chosen).run ir).state = after

/-- A run of a node in whole steps, from a state that `init` has left. -/
structure NodeRun (host : Host F D) where
  initial : IR F D
  history : List (IR F D × (Operation D ⊕ Activity F D))
  last : IR F D
  start : initial.Initial
  steps : History (stepCompletes host) initial history last

def NodeRun.step {host : Host F D} (run : NodeRun host) (chosen : Operation D ⊕ Activity F D)
    (completed : ((stepProcedure host chosen).run run.last).result = .ok ()) : NodeRun host where
  initial := run.initial
  history := run.history ++ [(run.last, chosen)]
  last := ((stepProcedure host chosen).run run.last).state
  start := run.start
  steps := run.steps.next chosen ⟨completed, rfl⟩

def NodeRun.atStart (host : Host F D) {initial : IR F D} (start : initial.Initial) :
    NodeRun host where
  initial := initial
  history := []
  last := initial
  start := start
  steps := .start initial

def NodeRun.hear {host : Host F D} (run : NodeRun host) (now : Timeval) (fromAddr : UInt32)
    (message : BeaconMessage) : NodeRun host :=
  run.step (.inl (.recvBeacon now fromAddr (.packet (message.bytes host.order)))) (by
    change ((recvBeacon host now fromAddr _).run run.last).result = .ok ()
    rw [recvBeacon_run]
    dsimp only
    split <;> rfl)

theorem NodeRun.hear_last {host : Host F D} (run : NodeRun host) (now : Timeval)
    {fromAddr : UInt32} (foreign : fromAddr ≠ run.last.phyIp) (message : BeaconMessage) :
    (run.hear now fromAddr message).last =
      { run.last with
        beaconBuffer := run.last.beaconBuffer.overwrite 0 (message.bytes host.order)
        forwardTable :=
          forwardAfter (untilTime run.last.beginTime now) message run.last.forwardTable
        neighborTable :=
          neighborAfter host (untilTime run.last.beginTime now) message
            run.last.neighborTable } := by
  change ((recvBeacon host now fromAddr _).run run.last).state = _
  rw [recvBeacon_run]
  dsimp only
  rw [if_pos foreign]

end

end TunVideo
