import TunVideo.Delivery
import TunVideo.TrailerRoundTrip

set_option autoImplicit false

/- What becomes of the beacons of a node that has made a data broadcast: they go to the data port,
where `recv_data` takes them for a packet with a trailer. -/
namespace TunVideo

open Program SinglePrecision

section

variable {F D : Type}

/-- The beacon is as long as a trailer. -/
def BeaconMessage.asTrailer (message : BeaconMessage) : DataMessage where
  length := message.virIp
  srcGpsX := message.phyIp
  srcGpsY := message.srcGpsX
  dstGpsX := message.srcGpsY
  dstGpsY := message.srcSpeedX
  ttl := message.srcSpeedY

theorem trailerIn_beacon (host : Host F D) (ir : IR F D) (message : BeaconMessage) :
    trailerIn host ir (message.bytes host.order) = message.asTrailer := by
  have same : message.bytes host.order = [] ++ message.asTrailer.bytes host.order := rfl
  rw [same]
  exact trailerIn_append host ir message.asTrailer (by decide)

theorem word_beacon (host : Host F D) (ir : IR F D) (message : BeaconMessage) {i : Nat}
    (inside : i < message.words.length) :
    (storeDatagram ir (message.bytes host.order)).dataRecvBuffer.word host.order (4 * i) =
      message.words[i] := by
  have length : 4 * message.words.length = (message.bytes host.order).length := by
    rw [BeaconMessage.bytes_length]
    rfl
  have held : (ir.dataRecvBuffer.overwrite 0 (message.bytes host.order)).slice 0
      (4 * message.words.length) = host.order.encode message.words := by
    rw [length]
    refine Buffer.slice_overwrite _ _ _ ?_
    rw [BeaconMessage.bytes_length]
    decide
  have word := Buffer.word_of_slice held i inside
  rw [Nat.zero_add] at word
  exact word

theorem srcIpOf_beacon (host : Host F D) (ir : IR F D) (message : BeaconMessage) :
    srcIpOf host ir (message.bytes host.order) = message.srcGpsY :=
  word_beacon host ir message (show 3 < 6 by decide)

theorem dstIpOf_beacon (host : Host F D) (ir : IR F D) (message : BeaconMessage) :
    dstIpOf host ir (message.bytes host.order) = message.srcSpeedX :=
  word_beacon host ir message (show 4 < 6 by decide)

variable [DoublePrecision D] [SinglePrecision F D]

/-- What a node makes of a beacon at its data port. The latitude is the source, the words of the
speed are the destination and the `ttl`, and the packet is empty. -/
def misread (host : Host F D) (readings : Readings D) (message : BeaconMessage)
    (writeFails : Bool) (ir : IR F D) : Outcome (IR F D) (Event F) Stop Unit :=
  let stored := storeDatagram ir (message.bytes host.order)
  let relaying := relayState host ir (message.bytes host.order)
  if message.srcGpsY = ir.virIp then ⟨.ok (), stored, []⟩
  else if message.srcSpeedX = ir.virIp then
    if writeFails then ⟨.error (.exit "Writing tun"), stored, []⟩
    else ⟨.ok (), stored, [.tunWritten []]⟩
  else if message.srcSpeedY - 1 > 0 then
    (forwarding host readings message.srcSpeedX
      ⟨ofUInt32 message.srcGpsY, ofUInt32 message.srcSpeedX⟩ BeaconMessage.size).run relaying
  else ⟨.ok (), relaying, []⟩

theorem recvData_beacon (host : Host F D) (readings : Readings D) (ir : IR F D)
    (message : BeaconMessage) (writeFails : Bool) :
    (recvData host readings (.packet (message.bytes host.order)) writeFails).run ir =
      misread host readings message writeFails ir := by
  have length : (message.bytes host.order).length = DataMessage.size := message.bytes_length _
  have long : DataMessage.size ≤ (message.bytes host.order).length := Nat.le_of_eq length.symm
  have fits : (message.bytes host.order).length ≤ frameSize := by
    rw [length]
    decide
  have nothing : (message.bytes host.order).take
      ((message.bytes host.order).length - DataMessage.size) = [] := by
    rw [length]
    rfl
  rw [recvData_run host readings ir writeFails long fits, srcIpOf_beacon, dstIpOf_beacon,
    trailerIn_beacon, nothing, length]
  rfl

end

section

variable {ι F D : Type} [DecidableEq ι] [DoublePrecision D] [SinglePrecision F D]

def eventsAt (host : Host F D) (history : List (Network ι F D × Action ι F D)) (node : ι) :
    List (Event F) :=
  history.flatMap fun visited =>
    if visited.2.node = node then (visited.1.outcome host visited.2).events else []

omit [DecidableEq ι] in
/-- A step of the network is a run of the node that acts. -/
theorem action_trace {host : Host F D} {net : Network ι F D} {action : Action ι F D}
    (completed : (net.outcome host action).result = .ok ()) :
    NodeTrace host ⟨.done (), net.nodes action.node⟩ (net.outcome host action).events
      ⟨.done (), (net.outcome host action).state⟩ := by
  have ran : (action.procedure host).run (net.nodes action.node) =
      ⟨.ok (), (net.outcome host action).state, (net.outcome host action).events⟩ := by
    rw [← completed]
    rfl
  cases action with
  | originate node received sendFails =>
      have whole : ((Operation.recvTun received sendFails).procedure host).run (net.nodes node) =
        ⟨.ok (), _, _⟩ := ran
      exact .operation _ whole
  | deliver node datagram readings writeFails =>
      have whole : ((Operation.recvData readings (.packet datagram.payload) writeFails).procedure
        host).run (net.nodes node) = ⟨.ok (), _, _⟩ := ran
      exact .operation _ whole
  | hear node now fromAddr received =>
      have whole : ((Operation.recvBeacon now fromAddr received).procedure host).run
        (net.nodes node) = ⟨.ok (), _, _⟩ := ran
      exact .operation _ whole
  | activity node chosen => exact .activity _ ran

/-- A run of the network is a run of each of its nodes. -/
theorem network_trace {host : Host F D} {nodes : ι → IR F D}
    {history : List (Network ι F D × Action ι F D)} {last : Network ι F D}
    (run : History (Network.Evolves host) ⟨nodes, []⟩ history last) (node : ι) :
    NodeTrace host ⟨.done (), nodes node⟩ (eventsAt host history node)
      ⟨.done (), last.nodes node⟩ := by
  have all := @History.along _ _ _ _ _ _ (fun history net => NodeTrace host
    ⟨.done (), nodes node⟩ (eventsAt host history node) ⟨.done (), net.nodes node⟩) run
    (.start _) ?_
  · exact all
  · intro earlier before action after held step
    rw [eventsAt, List.flatMap_append, List.flatMap_singleton, ← step.same]
    change NodeTrace host _ _ ⟨.done (), Function.update before.nodes action.node _ node⟩
    by_cases acting : action.node = node
    · subst acting
      rw [if_pos rfl, Function.update_self]
      exact held.append (action_trace step.completed)
    · rw [if_neg acting, List.append_nil, Function.update_of_ne (Ne.symm acting)]
      exact held

/-- A node has the port of the data in its shared address once it has set it for a broadcast. -/
theorem network_port {host : Host F D} {nodes : ι → IR F D}
    {history : List (Network ι F D × Action ι F D)} {last : Network ι F D}
    (run : History (Network.Evolves host) ⟨nodes, []⟩ history last) {node : ι}
    (start : (nodes node).Initial) :
    (last.nodes node).broadcastAddr.sinPort = dataPort ↔
      .portSet dataPort ∈ eventsAt host history node := by
  have ports := portHistory_of_trace start (network_trace run node)
  have current : (last.nodes node).broadcastAddr.sinPort =
    portAfter beaconPort (eventsAt host history node) := ports.current
  rw [current]
  constructor
  · intro moved
    by_contra unset
    have kept : portAfter beaconPort (eventsAt host history node) = beaconPort := by
      refine portAfter_of_unset fun assigned member => unset ?_
      rwa [← ports.assigned assigned member]
    rw [kept] at moved
    exact absurd moved (by decide)
  · intro member
    exact portAfter_of_set ports.assigned (Or.inr ⟨dataPort, member⟩)

/-- However the nodes act: a beacon goes to the data port exactly when its sender has set that port
for a broadcast before, and whoever receives it there takes it for data. -/
theorem network_beaconsMisread {host : Host F D} {nodes : ι → IR F D}
    {history : List (Network ι F D × Action ι F D)} {last : Network ι F D}
    (run : History (Network.Evolves host) ⟨nodes, []⟩ history last) {sender : ι}
    (start : (nodes sender).Initial) (stack : BeaconMessage) :
    let message := beaconOf host stack (afterBeacon (last.nodes sender))
    (⟨message.bytes host.order, []⟩ ∈ last.arriving host (.activity sender (.sigalrm stack)) ↔
        .portSet dataPort ∈ eventsAt host history sender) ∧
      ∀ receiver readings writeFails,
        (recvData host readings (.packet (message.bytes host.order)) writeFails).run receiver =
          misread host readings message writeFails receiver := by
  intro message
  have port := network_port run start
  refine ⟨?_, fun receiver readings writeFails =>
    recvData_beacon host readings receiver message writeFails⟩
  rw [← port]
  constructor
  · intro member
    obtain ⟨payload, listed, -⟩ := List.mem_map.mp member
    change payload ∈ arrivals ((sendBeacon host stack).run (last.nodes sender)).events at listed
    rw [sendBeacon_run] at listed
    obtain ⟨event, only, same⟩ := List.mem_filterMap.mp listed
    rw [List.mem_singleton.mp only] at same
    exact (Option.ite_none_right_eq_some.mp same).1
  · intro moved
    refine List.mem_map.mpr ⟨message.bytes host.order, ?_, rfl⟩
    change _ ∈ arrivals ((sendBeacon host stack).run (last.nodes sender)).events
    rw [sendBeacon_run]
    exact List.mem_filterMap.mpr ⟨_, List.mem_singleton.mpr rfl, if_pos moved⟩

end

/-- After its first packet, the next beacon of 10.0.0.2 goes to the data port. -/
theorem sendDirect_beaconsMisread :
    ⟨(beaconOf Host.shortHistories ⟨0, 0, 0, 0, 0, 0⟩
        (afterBeacon (directlySent.nodes 0))).bytes .little, []⟩ ∈
      directlySent.arriving .shortHistories (.activity 0 (.sigalrm ⟨0, 0, 0, 0, 0, 0⟩)) := by
  have start : (twoNodes 0).Initial := ⟨rfl, rfl, rfl, rfl⟩
  exact (network_beaconsMisread directlySent_history start _).1.mpr (by decide +kernel)

end TunVideo
