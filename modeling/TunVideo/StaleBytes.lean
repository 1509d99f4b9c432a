import TunVideo.Delivery
import TunVideo.Overlay

set_option autoImplicit false

/- What a relay lets out: the 24 bytes it sends behind a datagram are what other datagrams have
left in its receive buffer. -/
namespace TunVideo

open Program

/-- A trailer depends on its own 24 bytes. -/
theorem DataMessage.ofBuffer_of_sameSlice {size other start start' : Nat} {buf : Buffer size}
    {buf' : Buffer other} (order : ByteOrder)
    (same : buf.slice start DataMessage.size = buf'.slice start' DataMessage.size) :
    DataMessage.ofBuffer order buf start = DataMessage.ofBuffer order buf' start' := by
  have word (offset : Nat) (inside : offset + 4 ≤ DataMessage.size) :
      buf.word order (start + offset) = buf'.word order (start' + offset) :=
    Buffer.word_of_sameSlice same order inside
  rw [DataMessage.ofBuffer, DataMessage.ofBuffer]
  congr 1
  · exact word 0 (by decide)
  · exact word 4 (by decide)
  · exact word 8 (by decide)
  · exact word 12 (by decide)
  · exact word 16 (by decide)
  · exact word 20 (by decide)

section

variable {F D : Type}

/-- What a datagram leaves in the receive buffer: itself, but for the `ttl` when it is not from
this node and not for it. -/
def leftBy (host : Host F D) (ir : IR F D) (datagram : List UInt8) : List UInt8 :=
  if DataMessage.size ≤ datagram.length ∧ srcIpOf host ir datagram ≠ ir.virIp ∧
      dstIpOf host ir datagram ≠ ir.virIp then decremented host ir datagram
  else datagram

theorem relayState_buffer (host : Host F D) (ir : IR F D) {datagram : List UInt8}
    (long : DataMessage.size ≤ datagram.length) :
    (relayState host ir datagram).dataRecvBuffer =
      ir.dataRecvBuffer.overwrite 0 (decremented host ir datagram) := by
  have least : 24 ≤ datagram.length := long
  have head : (datagram.take (datagram.length - 4)).length = datagram.length - 4 := by
    rw [List.length_take]
    omega
  have position : datagram.length - DataMessage.size + DataMessage.ttlOffset =
      (datagram.take (datagram.length - 4)).length := by
    rw [head]
    change datagram.length - 24 + 20 = _
    omega
  have whole : datagram.take (datagram.length - 4) ++ datagram.drop (datagram.length - 4) =
      datagram := List.take_append_drop _ _
  have width : (datagram.drop (datagram.length - 4)).length =
      (host.order.bytes ((trailerIn host ir datagram).ttl - 1)).length := by
    rw [List.length_drop, ByteOrder.bytes_length]
    omega
  have tail := Buffer.overwrite_tail ir.dataRecvBuffer
    (datagram.take (datagram.length - 4)) width
  rw [whole] at tail
  rw [relayState, storeDatagram, decremented, position]
  exact tail

variable [DoublePrecision D] [SinglePrecision F D]

theorem forwarding_keepsBuffer (host : Host F D) (readings : Readings D) (dstIp : UInt32)
    (dstGps : GPS F) (nread : Nat) :
    (forwarding host readings dstIp dstGps nread).Keeps IR.dataRecvBuffer := by
  intro ir
  have broadcast : (dataBroadcast nread : Procedure F D Unit).Keeps IR.dataRecvBuffer :=
    dataBroadcast_keeps (fun _ _ => rfl) nread
  have send (nextHopId : UInt32) (state : IR F D) :
      ((sendToNextHop nextHopId nread : Procedure F D Unit).run state).state.dataRecvBuffer =
        state.dataRecvBuffer := sendToNextHop_keeps nextHopId nread state
  have path := forwarding_path host readings dstIp dstGps nread ir
  generalize (forwarding host readings dstIp dstGps nread).run ir = outcome at path ⊢
  cases path with
  | missUnknown => exact broadcast ir
  | missStopped => rfl
  | missComputed => rfl
  | expiredUnknown => exact broadcast ir
  | expiredStopped => rfl
  | expiredComputed => exact send _ _
  | legal => exact send _ _
  | illegalStopped => rfl
  | illegalComputed => exact send _ _

/-- However `recv_data` ends, the datagram lies over the older bytes. -/
theorem recvData_buffer (host : Host F D) (readings : Readings D) (ir : IR F D)
    {datagram : List UInt8} (writeFails : Bool) (fits : datagram.length ≤ frameSize) :
    ((recvData host readings (.packet datagram) writeFails).run ir).state.dataRecvBuffer =
      ir.dataRecvBuffer.overwrite 0 (leftBy host ir datagram) := by
  by_cases long : DataMessage.size ≤ datagram.length
  · rw [recvData_run host readings ir writeFails long fits]
    by_cases own : srcIpOf host ir datagram = ir.virIp
    · have left : leftBy host ir datagram = datagram := if_neg fun all => all.2.1 own
      rw [if_pos own, left]
      rfl
    · rw [if_neg own]
      by_cases here : dstIpOf host ir datagram = ir.virIp
      · have left : leftBy host ir datagram = datagram := if_neg fun all => all.2.2 here
        rw [if_pos here, left]
        cases writeFails with
        | true => rfl
        | false => rfl
      · have left : leftBy host ir datagram = decremented host ir datagram :=
          if_pos ⟨long, own, here⟩
        rw [if_neg here, left, ← relayState_buffer host ir long]
        split
        · exact forwarding_keepsBuffer host readings _ _ _ _
        · rfl
  · have left : leftBy host ir datagram = datagram := if_neg fun all => long all.1
    have offset := trailerOffset_none (Nat.not_le.mp long)
    have count := Received.count_of_fits fits
    have stored := Received.store_of_fits ir.dataRecvBuffer fits
    rw [left]
    unfold recvData
    simp only [run_bind, run_modify, run_read, Outcome.bind_ok, Outcome.after_nil, count, offset,
      stored]
    split
    · rfl
    · rfl

omit [DoublePrecision D] in
theorem recvTun_keepsBuffer (host : Host F D) (received : Received) (sendFails : Bool) :
    (recvTun host received sendFails).Keeps IR.dataRecvBuffer := by
  have filled (nread : Nat) (message : DataMessage) :
      (fillDataBuffer host.order nread message : Procedure F D Unit).Keeps IR.dataRecvBuffer :=
    fillDataBuffer_keeps (fun _ _ => rfl) host.order nread message
  refine .bind (.modify fun _ => rfl) fun _ => .bind (.modify fun _ => rfl) fun _ =>
    .bind (.read _) fun opt => .bind (.read _) fun _ => ?_
  cases opt with
  | some found =>
      exact .bind (.require _ _) fun _ => .bind (.require _ _) fun _ => .bind (.read _) fun _ =>
        .bind (.require _ _) fun _ => .bind (filled _ _) fun _ => .perform fun _ => rfl
  | none =>
      exact .bind (.perform fun _ => rfl) fun _ => .bind (.read _) fun _ =>
        .bind (.require _ _) fun _ => .bind (filled _ _) fun _ =>
          .ite (.stop _) (.perform fun _ => rfl)

omit [DoublePrecision D] in
theorem recvBeacon_keepsBuffer (host : Host F D) (now : Timeval) (fromAddr : UInt32)
    (received : Received) : (recvBeacon host now fromAddr received).Keeps IR.dataRecvBuffer := by
  refine .bind (.modify fun _ => rfl) fun _ => .bind (.read _) fun _ => .bind (.read _) fun _ =>
    .ite ?_ (.pure _)
  intro ir
  rw [buildNeighbor_run]

end

section

variable {ι F D : Type} [DecidableEq ι] [DoublePrecision D] [SinglePrecision F D]

omit [DoublePrecision D] [SinglePrecision F D] in
/-- What a step leaves in the receive buffer of a node. -/
def leftAt (host : Host F D) (node : ι) (visited : Network ι F D × Action ι F D) :
    Option (List UInt8) :=
  match visited.2 with
  | .deliver receiver datagram _ _ =>
      if receiver = node then some (leftBy host (visited.1.nodes node) datagram.payload) else none
  | _ => none

omit [DoublePrecision D] [SinglePrecision F D] in
theorem leftAt_other {host : Host F D} {node : ι} {net : Network ι F D} {action : Action ι F D}
    (other : action.node ≠ node) : leftAt host node (net, action) = none := by
  cases action with
  | deliver receiver datagram readings writeFails => exact if_neg other
  | originate => rfl
  | hear => rfl
  | activity => rfl

theorem outcome_buffer {host : Host F D} {net : Network ι F D} {action : Action ι F D}
    (possible : action.Possible net) :
    (net.outcome host action).state.dataRecvBuffer =
      (leftAt host action.node (net, action)).elim (net.nodes action.node).dataRecvBuffer
        fun payload => (net.nodes action.node).dataRecvBuffer.overwrite 0 payload := by
  cases action with
  | deliver receiver datagram readings writeFails =>
      have fits : datagram.payload.length ≤ frameSize := Nat.le_trans possible.2 (by decide)
      have left : leftAt host receiver (net, Action.deliver receiver datagram readings writeFails) =
          some (leftBy host (net.nodes receiver) datagram.payload) := if_pos rfl
      change _ = (leftAt host receiver (net, _)).elim _ _
      rw [left]
      exact recvData_buffer host readings (net.nodes receiver) writeFails fits
  | originate node received sendFails =>
      exact recvTun_keepsBuffer host received sendFails (net.nodes node)
  | hear node now fromAddr received =>
      exact recvBeacon_keepsBuffer host now fromAddr received (net.nodes node)
  | activity node chosen =>
      cases chosen with
      | gpsFix gps speed => rfl
      | sigalrm stack =>
          change ((sendBeacon host stack).run (net.nodes node)).state.dataRecvBuffer = _
          rw [sendBeacon_run]
          rfl

/-- The receive buffer of a node after a history: the datagrams it has received, one over
another. -/
def layers (host : Host F D) (nodes : ι → IR F D)
    (history : List (Network ι F D × Action ι F D)) (node : ι) : Buffer frameSize :=
  Buffer.overlaid (history.filterMap (leftAt host node)) (nodes node).dataRecvBuffer

theorem step_layers {host : Host F D} {nodes : ι → IR F D}
    {history : List (Network ι F D × Action ι F D)} {net next : Network ι F D}
    {action : Action ι F D}
    (before : ∀ node, (net.nodes node).dataRecvBuffer = layers host nodes history node)
    (step : net.Evolves host action next) (node : ι) :
    (next.nodes node).dataRecvBuffer = layers host nodes (history ++ [(net, action)]) node := by
  rw [layers, List.filterMap_append, ← step.same]
  change (Function.update net.nodes action.node _ node).dataRecvBuffer = _
  by_cases here : action.node = node
  · subst here
    have buffer := @outcome_buffer _ _ _ _ _ _ host _ _ step.possible
    rw [before] at buffer
    rw [Function.update_self, buffer]
    cases left : leftAt host action.node (net, action) with
    | none =>
        rw [List.filterMap_cons_none left, List.filterMap_nil, List.append_nil]
        rfl
    | some payload =>
        rw [List.filterMap_cons_some left, List.filterMap_nil, Buffer.overlaid_append]
        rfl
  · have silent : leftAt host node (net, action) = none := leftAt_other here
    rw [Function.update_of_ne (Ne.symm here), List.filterMap_cons_none silent, List.filterMap_nil,
      List.append_nil]
    exact before node

theorem network_layers {host : Host F D} {nodes : ι → IR F D}
    {history : List (Network ι F D × Action ι F D)} {last : Network ι F D}
    (run : History (Network.Evolves host) ⟨nodes, []⟩ history last) (node : ι) :
    (last.nodes node).dataRecvBuffer = layers host nodes history node := by
  have all := @History.along _ _ _ _ _ _ (fun history net => ∀ node,
    (net.nodes node).dataRecvBuffer = layers host nodes history node) run
    (fun node => (Buffer.overlaid_nil (nodes node).dataRecvBuffer).symm) ?_
  · exact all node
  · intro earlier before chosen after held step
    exact step_layers held step

omit [DoublePrecision D] [SinglePrecision F D] in
/-- What a relay sends for a datagram. Behind it are 24 bytes of its receive buffer, and it is
there that the next node looks for the trailer. -/
structure LetsOut (host : Host F D) (nodes : ι → IR F D)
    (history : List (Network ι F D × Action ι F D)) (node : ι) (ir : IR F D)
    (datagram sent : List UInt8) : Prop where
  payload : sent = decremented host ir datagram ++
    (layers host nodes history node).slice datagram.length DataMessage.size
  trailer : ∀ receiver : IR F D, trailerIn host receiver sent =
    .ofBuffer host.order (layers host nodes history node) datagram.length
  source : ∀ index < frameSize, Buffer.FromPayload (history.filterMap (leftAt host node))
    ((nodes node).dataRecvBuffer.byte index) index ((layers host nodes history node).byte index)

/-- However the nodes act: behind each datagram that a node relays, it sends 24 bytes, each as the
last datagram that was long enough has left it, which is with its `ttl` decremented if it was
relayed, and otherwise from its memory before the run. The next node takes them for the trailer. -/
theorem network_letsOut {host : Host F D} {nodes : ι → IR F D}
    {history : List (Network ι F D × Action ι F D)} {last : Network ι F D}
    (run : History (Network.Evolves host) ⟨nodes, []⟩ history last) {node : ι} {datagram : InFlight}
    {readings : Readings D} {writeFails : Bool} {sent : Option UInt32 × List UInt8}
    (possible : (Action.deliver node datagram readings writeFails).Possible last)
    (member : sent ∈ transmissions
      (last.outcome host (.deliver node datagram readings writeFails)).events) :
    LetsOut host nodes history node (last.nodes node) datagram.payload sent.2 := by
  have fits : datagram.payload.length + DataMessage.size ≤ frameSize :=
    Nat.le_trans (Nat.add_le_add_right possible.2 _) (by decide)
  obtain ⟨relayed, same⟩ : Relayed host (last.nodes node) datagram.payload ∧
      sent.2 = decremented host (last.nodes node) datagram.payload ++
        (last.nodes node).dataRecvBuffer.slice datagram.payload.length DataMessage.size :=
    recvData_payload fits member
  rw [network_layers run] at same
  have kept : (decremented host (last.nodes node) datagram.payload).length =
      datagram.payload.length := by
    have least : 24 ≤ datagram.payload.length := relayed.long
    rw [decremented, List.length_append, List.length_take, ByteOrder.bytes_length]
    omega
  refine ⟨same, ?_, fun index inside => Buffer.overlaid_fromPayload _ _ inside⟩
  intro receiver
  have behind := Buffer.slice_overwrite_back receiver.dataRecvBuffer
    (show (decremented host (last.nodes node) datagram.payload).length +
      ((layers host nodes history node).slice datagram.payload.length DataMessage.size).length ≤
        frameSize by rw [kept, Buffer.slice_length]; exact fits)
  have total : sent.2.length - DataMessage.size = datagram.payload.length := by
    rw [same, List.length_append, kept, Buffer.slice_length, Nat.add_sub_cancel]
  rw [kept, Buffer.slice_length, ← same] at behind
  rw [trailerIn, total]
  exact DataMessage.ofBuffer_of_sameSlice host.order behind

end

def privatePacket : List UInt8 := headerPacket ++ List.replicate 48 7

def otherPacket : List UInt8 :=
  List.replicate 12 0 ++ ByteOrder.little.encode [0x0200000A, 0x0400000A]

def privateDatagram : InFlight where
  payload := privatePacket ++ DataMessage.bytes .little ⟨68, 0, 0, 0, 90, 16⟩
  trail := []

def otherDatagram : InFlight where
  payload := otherPacket ++ DataMessage.bytes .little ⟨20, 0, 0, 0, 90, 16⟩
  trail := []

/-- 10.0.0.3 receives a packet of its own, and 10.0.0.2 sends one for 10.0.0.4. -/
def privateRun : List (Action (Fin 2) Float32 Float) :=
  [.originate sendDirect.node (.packet privatePacket) false,
    .deliver (Fin.last 1) privateDatagram .atOneSecond false,
    .originate sendDirect.node (.packet otherPacket) false]

def afterPrivate (steps : Nat) : Network (Fin 2) Float32 Float :=
  (privateRun.take steps).foldl (Network.afterAll .shortHistories) ⟨twoNodes, []⟩

def relayOther : Action (Fin 2) Float32 Float :=
  .deliver (Fin.last 1) otherDatagram .atOneSecond false

theorem privateRun_history : History (Network.Evolves Host.shortHistories) ⟨twoNodes, []⟩
    (privateRun.mapIdx fun step action => (afterPrivate step, action)) (afterPrivate 3) :=
  (((History.start _).next _ ⟨trivial, by decide +kernel, rfl⟩).next _
    ⟨⟨by decide +kernel, by decide⟩, by decide +kernel, rfl⟩).next _
    ⟨trivial, by decide +kernel, rfl⟩

/-- 10.0.0.3 broadcasts part of its own packet behind the other one. -/
theorem privatePacket_letsOut :
    LetsOut Host.shortHistories twoNodes
      (privateRun.mapIdx fun step action => (afterPrivate step, action)) (Fin.last 1)
      ((afterPrivate 3).nodes (Fin.last 1)) otherDatagram.payload
      (otherPacket ++ DataMessage.bytes .little ⟨20, 0, 0, 0, 90, 15⟩ ++ List.replicate 24 7) := by
  have possible : relayOther.Possible (afterPrivate 3) := ⟨by decide +kernel, by decide⟩
  have relayed : (none, otherPacket ++ DataMessage.bytes .little ⟨20, 0, 0, 0, 90, 15⟩ ++
      List.replicate 24 7) ∈
      transmissions ((afterPrivate 3).outcome .shortHistories relayOther).events := by
    decide +kernel
  exact network_letsOut privateRun_history possible relayed

end TunVideo
