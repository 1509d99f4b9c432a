import TunVideo.Route

set_option autoImplicit false

namespace TunVideo

open Program SinglePrecision

variable {F D : Type} [DoublePrecision D] [SinglePrecision F D]

/-- The bytes `sendto` is given: `nread` of them and the size of a trailer. -/
def outgoing (nread : Nat) : Procedure F D (List UInt8) := do
  let payload ← read fun ir => ir.dataRecvBuffer.read 0 (nread + DataMessage.size)
  require .outOfBounds payload

def dataBroadcast (nread : Nat) : Procedure F D Unit := do
  perform fun ir =>
    ({ ir with broadcastAddr := { ir.broadcastAddr with sinPort := dataPort } },
      [.portSet dataPort])
  let payload ← outgoing nread
  perform fun ir => (ir, [.dataBroadcast ir.broadcastAddr payload])

def mySend (dstPhyIp : UInt32) (nread : Nat) : Procedure F D Unit := do
  let payload ← outgoing nread
  perform fun ir => (ir, [.dataUnicast ⟨dataPort, dstPhyIp⟩ payload])

/-- The end of `Forwarding`: send to the next hop, unless there is none. -/
def sendToNextHop (nextHopId : UInt32) (nread : Nat) : Procedure F D Unit :=
  if nextHopId ≠ broadcastAddress then mySend nextHopId nread else pure ()

/-- `m_forward_table[dstIP]->m_next_hop_ip = ..; m_forward_table[dstIP]->m_timestamp = ..` -/
def refreshRoute (dstIp nextHopId : UInt32) (untilTime : Int) : Procedure F D Unit :=
  modify fun ir =>
    { ir with
      forwardTable := ir.forwardTable.modify dstIp fun entry =>
        { entry with nextHopIp := nextHopId, timestamp := UInt32.ofInt untilTime } }

/-- `Forwarding`. On a miss `it` stays the end iterator, and is still dereferenced. -/
def forwarding (host : Host F D) (readings : Readings D) (dstIp : UInt32) (dstGps : GPS F)
    (nread : Nat) : Procedure F D Unit := do
  let it ← read fun ir => ir.forwardTable[dstIp]?
  let untilTime ← read fun ir => untilTime ir.beginTime readings.forwarding
  match it with
  | none =>
      if dstGps.unknown then
        dataBroadcast nread
      else
        let nextHopId ← routeMakeup host readings.routeMakeup readings.gaussrand dstGps
        let nextHopGps ← require .endIterator (it.map ForwardTableEntry.gps)
        if nextHopId ≠ broadcastAddress then
          modify fun ir =>
            { ir with
              forwardTable := ir.forwardTable.insert dstIp
                ⟨nextHopId, UInt32.ofInt untilTime, nextHopGps⟩ }
        sendToNextHop nextHopId nread
  | some entry =>
      if olderThan ttlNeighborTable untilTime entry.timestamp then
        if dstGps.unknown then
          dataBroadcast nread
        else
          let nextHopId ← routeMakeup host readings.routeMakeup readings.gaussrand dstGps
          if nextHopId ≠ broadcastAddress then
            refreshRoute dstIp nextHopId untilTime
          sendToNextHop nextHopId nread
      else
        if ← isLegal host readings.isLegal entry.nextHopIp dstGps then
          sendToNextHop entry.nextHopIp nread
        else
          let nextHopId ← routeMakeup host readings.routeMakeup readings.gaussrand dstGps
          refreshRoute dstIp nextHopId untilTime
          sendToNextHop nextHopId nread

abbrev saddrOffset : Nat := 12

abbrev daddrOffset : Nat := 16

/-- `data_recv_buffer + nread - sizeof(DataMessage)` as an offset into the buffer. -/
def trailerOffset (nread : Int) : Option Nat :=
  if (DataMessage.size : Int) ≤ nread then some (nread - DataMessage.size).toNat else none

theorem trailerOffset_some {nread : Nat} (long : DataMessage.size ≤ nread) :
    trailerOffset nread = some (nread - DataMessage.size) := by
  rw [trailerOffset, if_pos (by exact_mod_cast long)]
  congr 1
  omega

theorem trailerOffset_none {nread : Nat} (short : nread < DataMessage.size) :
    trailerOffset nread = none := by
  rw [trailerOffset, if_neg (by exact_mod_cast Nat.not_le.mpr short)]

/-- `recv_data`. `writeFails` says whether the tun device refuses the packet. -/
def recvData (host : Host F D) (readings : Readings D) (received : Received)
    (writeFails : Bool) : Procedure F D Unit := do
  modify fun ir => { ir with dataRecvBuffer := received.store frameSize ir.dataRecvBuffer }
  let nread := received.count frameSize
  let dstIp ← read fun ir => ir.dataRecvBuffer.word host.order daddrOffset
  let srcIp ← read fun ir => ir.dataRecvBuffer.word host.order saddrOffset
  let virIp ← read IR.virIp
  if srcIp ≠ virIp then
    let trailer ← require .outOfBounds (trailerOffset nread)
    if dstIp = virIp then
      if writeFails then
        stop (.exit "Writing tun")
      else
        perform fun ir => (ir, [.tunWritten (ir.dataRecvBuffer.slice 0 trailer)])
    else
      let dataMessage ← read fun ir => DataMessage.ofBuffer host.order ir.dataRecvBuffer trailer
      let ttl := dataMessage.ttl - 1
      modify fun ir =>
        { ir with
          dataRecvBuffer := ir.dataRecvBuffer.overwrite (trailer + DataMessage.ttlOffset)
            (host.order.bytes ttl) }
      if ttl > 0 then
        forwarding host readings dstIp
          ⟨ofUInt32 dataMessage.dstGpsX, ofUInt32 dataMessage.dstGpsY⟩ nread.toNat

end TunVideo
