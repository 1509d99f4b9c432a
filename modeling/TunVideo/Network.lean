import TunVideo.Retransmission
import TunVideo.Schedule
import TunVideo.StepHistory

set_option autoImplicit false

/- Any number of nodes and the datagrams between them. A datagram that was sent may reach
any node, at any later time, and more than once. -/
namespace TunVideo

variable {ι F D : Type}

/-- A data datagram, with the `ttl` that each relay on its way has read. -/
structure InFlight where
  payload : List UInt8
  trail : List UInt32
  deriving DecidableEq

structure Network (ι F D : Type) where
  nodes : ι → IR F D
  inFlight : List InFlight

inductive Action (ι F D : Type) where
  | originate (node : ι) (received : Received) (sendFails : Bool)
  | deliver (node : ι) (datagram : InFlight) (readings : Readings D) (writeFails : Bool)
  | hear (node : ι) (now : Timeval) (fromAddr : UInt32) (received : Received)
  | activity (node : ι) (chosen : Activity F D)

namespace Action

def node : Action ι F D → ι
  | originate node _ _ => node
  | deliver node _ _ _ => node
  | hear node _ _ _ => node
  | activity node _ => node

section

variable [DoublePrecision D] [SinglePrecision F D]

def procedure (host : Host F D) : Action ι F D → Procedure F D Unit
  | originate _ received sendFails => recvTun host received sendFails
  | deliver _ datagram readings writeFails =>
      recvData host readings (.packet datagram.payload) writeFails
  | hear _ now fromAddr received => recvBeacon host now fromAddr received
  | activity _ chosen => chosen.procedure host

end

/-- The trail of the datagrams that are sent: a relay appends the `ttl` it reads. -/
def trail (host : Host F D) (ir : IR F D) : Action ι F D → List UInt32
  | deliver _ datagram _ _ => datagram.trail ++ [(trailerIn host ir datagram.payload).ttl]
  | _ => []

/-- Only datagrams that were sent are delivered, and none is longer than UDP allows. -/
def Possible (net : Network ι F D) : Action ι F D → Prop
  | deliver _ datagram _ _ => datagram ∈ net.inFlight ∧ datagram.payload.length ≤ 65507
  | _ => True

end Action

namespace Network

variable [DecidableEq ι] [DoublePrecision D] [SinglePrecision F D]

def outcome (host : Host F D) (net : Network ι F D) (action : Action ι F D) :
    Outcome (IR F D) (Event F) Stop Unit :=
  (action.procedure host).run (net.nodes action.node)

def after (host : Host F D) (net : Network ι F D) (action : Action ι F D) : Network ι F D where
  nodes := Function.update net.nodes action.node (net.outcome host action).state
  inFlight := net.inFlight ++ (transmissions (net.outcome host action).events).map fun sent =>
    ⟨sent.2, action.trail host (net.nodes action.node)⟩

structure Step (host : Host F D) (net : Network ι F D) (action : Action ι F D)
    (next : Network ι F D) : Prop where
  possible : action.Possible net
  completed : (net.outcome host action).result = .ok ()
  same : net.after host action = next

end Network

end TunVideo
