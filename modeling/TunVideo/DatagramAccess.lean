import TunVideo.ProgramNotes
import TunVideo.RoutingState

set_option autoImplicit false

namespace TunVideo

open Program SinglePrecision

/-- An access to `data_recv_buffer`: the address of the trailer, a load or a store at an
offset, or the length passed to `write`. -/
inductive Access where
  | address (offset : Int)
  | load (start : Int) (count : Nat)
  | store (start : Int) (count : Nat)
  | writeLength (length : Nat)
  deriving DecidableEq, Repr

/-- The access stays within the `nread` bytes that were received. -/
def Access.Within (nread : Int) : Access → Prop
  | address offset => 0 ≤ offset
  | load start count => 0 ≤ start ∧ start + count ≤ nread
  | store start count => 0 ≤ start ∧ start + count ≤ nread
  | writeLength length => (length : Int) ≤ nread

/-- `sizeof(struct iphdr)` -/
abbrev ipHeaderSize : Nat := 20

abbrev dstGpsOffset : Nat := 12

/-- The conversion to `size_t`. -/
def sizeT (value : Int) : Nat := (UInt64.ofInt value).toNat

section

variable {F D : Type}

/-- `sendto` loads what it sends from the beginning of the buffer. -/
def sendtoAccess (event : Event F) : List Access :=
  match event.transmission with
  | some (_, payload) => [.load 0 payload.length]
  | none => []

variable [DoublePrecision D] [SinglePrecision F D]

/-- `recv_data` with its accesses to `data_recv_buffer` noted. -/
def recvDataNoted (host : Host F D) (readings : Readings D) (received : Received)
    (writeFails : Bool) : Program (IR F D) (Access ⊕ Event F) Stop Unit := do
  unnoted (modify fun ir =>
    { ir with dataRecvBuffer := received.store frameSize ir.dataRecvBuffer })
  let nread := received.count frameSize
  note (.address (nread - DataMessage.size))
  note (.load daddrOffset 4)
  let dstIp ← unnoted (read fun ir => ir.dataRecvBuffer.word host.order daddrOffset)
  note (.load saddrOffset 4)
  let srcIp ← unnoted (read fun ir => ir.dataRecvBuffer.word host.order saddrOffset)
  let virIp ← unnoted (read IR.virIp)
  if srcIp ≠ virIp then
    -- the five fields before `ttl` are printed
    note (.load (nread - DataMessage.size) DataMessage.ttlOffset)
    let trailer ← unnoted (require .outOfBounds (trailerOffset nread))
    if dstIp = virIp then
      note (.writeLength (sizeT (nread - DataMessage.size)))
      note (.load 0 trailer)
      if writeFails then
        unnoted (stop (.exit "Writing tun"))
      else
        unnoted (perform fun ir => (ir, [.tunWritten (ir.dataRecvBuffer.slice 0 trailer)]))
    else
      note (.load (trailer + DataMessage.ttlOffset) 4)
      let dataMessage ←
        unnoted (read fun ir => DataMessage.ofBuffer host.order ir.dataRecvBuffer trailer)
      let ttl := dataMessage.ttl - 1
      note (.store (trailer + DataMessage.ttlOffset) 4)
      unnoted (modify fun ir =>
        { ir with
          dataRecvBuffer := ir.dataRecvBuffer.overwrite (trailer + DataMessage.ttlOffset)
            (host.order.bytes ttl) })
      note (.load (trailer + DataMessage.ttlOffset) 4)
      if ttl > 0 then
        note (.load (trailer + dstGpsOffset) 8)
        noting sendtoAccess (forwarding host readings dstIp
          ⟨ofUInt32 dataMessage.dstGpsX, ofUInt32 dataMessage.dstGpsY⟩ nread.toNat)

theorem recvDataNoted_annotates (host : Host F D) (readings : Readings D) (received : Received)
    (writeFails : Bool) :
    (recvDataNoted host readings received writeFails).Annotates
      (recvData host readings received writeFails) := by
  refine .bind (.unnoted _) fun _ => .note (.note (.bind (.unnoted _) fun dstIp => .note
    (.bind (.unnoted _) fun srcIp => .bind (.unnoted _) fun virIp => .ite ?_ (.pure _))))
  refine .note (.bind (.unnoted _) fun trailer => .ite ?_ ?_)
  · exact .note (.note (.ite (.unnoted _) (.unnoted _)))
  · refine .note (.bind (.unnoted _) fun message => .note (.bind (.unnoted _) fun _ => .note
      (.ite ?_ (.pure _))))
    exact .note (.noting _ _)

/-- What is noted before the packet's source is compared with the node's own address. -/
def headerAccess (nread : Int) : List Access :=
  [.address (nread - DataMessage.size), .load daddrOffset 4, .load saddrOffset 4]

def ttlAccess (trailer : Nat) : List Access :=
  [.load (trailer + DataMessage.ttlOffset) 4, .store (trailer + DataMessage.ttlOffset) 4,
    .load (trailer + DataMessage.ttlOffset) 4]

def trailerAccess (host : Host F D) (readings : Readings D) (ir : IR F D) (datagram : List UInt8)
    (trailer : Nat) : List Access :=
  .load trailer DataMessage.ttlOffset ::
    if dstIpOf host ir datagram = ir.virIp then [.writeLength trailer, .load 0 trailer]
    else
      ttlAccess trailer ++
        if (trailerIn host ir datagram).ttl - 1 > 0 then
          .load (trailer + dstGpsOffset) 8 ::
            ((forwarding host readings (dstIpOf host ir datagram)
              (trailerIn host ir datagram).dstGps datagram.length).run
              (relayState host ir datagram)).events.flatMap sendtoAccess
        else []

theorem sizeT_of_le {length : Nat} (bound : length ≤ frameSize) : sizeT length = length := by
  have size : frameSize = 65536 := rfl
  rw [sizeT, UInt64.ofInt, UInt64.toNat_ofNat']
  omega

theorem recvDataNoted_notes (host : Host F D) (readings : Readings D) (ir : IR F D)
    {datagram : List UInt8} (writeFails : Bool) (long : DataMessage.size ≤ datagram.length)
    (short : datagram.length ≤ frameSize) :
    ((recvDataNoted host readings (.packet datagram) writeFails).run ir).notes =
      headerAccess datagram.length ++
        if srcIpOf host ir datagram = ir.virIp then []
        else trailerAccess host readings ir datagram (datagram.length - DataMessage.size) := by
  have stored := Received.store_of_fits ir.dataRecvBuffer short
  have count := Received.count_of_fits short
  have offset := trailerOffset_some long
  have position : (datagram.length : Int) - 24 = (datagram.length - DataMessage.size : Nat) := by
    have width : DataMessage.size = 24 := rfl
    omega
  have converted : sizeT (datagram.length - DataMessage.size : Nat) =
      datagram.length - DataMessage.size := sizeT_of_le (by omega)
  unfold recvDataNoted headerAccess trailerAccess ttlAccess trailerIn relayState srcIpOf dstIpOf
    storeDatagram
  simp only [run_bind, run_unnoted, run_note, run_modify, run_read, Outcome.bind_ok,
    Outcome.notes_after, stored, count, offset]
  by_cases own : (ir.dataRecvBuffer.overwrite 0 datagram).word host.order saddrOffset = ir.virIp
  · simp [own, Outcome.notes]
  · by_cases here : (ir.dataRecvBuffer.overwrite 0 datagram).word host.order daddrOffset = ir.virIp
    · cases writeFails with
      | true => simp [own, here, position, converted, Outcome.notes]
      | false => simp [own, here, position, converted, Outcome.notes]
    · by_cases alive : (DataMessage.ofBuffer host.order (ir.dataRecvBuffer.overwrite 0 datagram)
          (datagram.length - DataMessage.size)).ttl - 1 > 0
      · simp [own, here, alive, position, Outcome.notes]
        exact notes_noting _ _ _
      · simp [own, here, alive, position, Outcome.notes]

theorem recvDataNoted_address (host : Host F D) (readings : Readings D) (ir : IR F D)
    (received : Received) (writeFails : Bool) :
    .address (received.count frameSize - DataMessage.size) ∈
      ((recvDataNoted host readings received writeFails).run ir).notes := by
  unfold recvDataNoted
  simp only [run_bind, run_unnoted, run_note, run_modify, Outcome.bind_ok, Outcome.notes_after]
  simp

end

section

variable {F D : Type}

def TablesKept (before after : IR F D) : Prop :=
  after.forwardTable = before.forwardTable ∧ after.neighborTable = before.neighborTable

/-- The execution has no undefined step: it completes, or the process exits. -/
def Defined (result : Except Stop Unit) : Prop :=
  result = .ok () ∨ ∃ message, result = .error (.exit message)

/-- What `sendto` is given in an execution lies within the bytes that were received, and every
step is defined. -/
structure SendsWithin (nread : Nat) (outcome : Outcome (IR F D) (Event F) Stop Unit) : Prop where
  accesses : ∀ access ∈ outcome.events.flatMap sendtoAccess, access.Within nread
  defined : Defined outcome.result

theorem not_defined_outOfBounds : ¬Defined (.error .outOfBounds) := by
  rintro (completed | ⟨message, exited⟩)
  · cases completed
  · cases exited

theorem not_defined_endIterator : ¬Defined (.error .endIterator) := by
  rintro (completed | ⟨message, exited⟩)
  · cases completed
  · cases exited

variable {ir : IR F D} {nread : Nat} {kept : Prop}

theorem relayPayload_length : (relayPayload ir nread).length = nread + DataMessage.size :=
  Buffer.slice_length _ _ _

theorem not_within_relayPayload :
    ¬(Access.load 0 (relayPayload ir nread).length).Within nread := by
  rw [relayPayload_length]
  have size : DataMessage.size = 24 := rfl
  rintro ⟨-, within⟩
  omega

theorem dataBroadcast_overruns :
    ¬SendsWithin nread ((dataBroadcast nread : Procedure F D Unit).run ir) := by
  rintro ⟨accesses, defined⟩
  by_cases fits : nread + DataMessage.size ≤ frameSize
  · rw [dataBroadcast_run ir fits] at accesses
    exact not_within_relayPayload (accesses (.load 0 (relayPayload ir nread).length) (by
      simp [sendtoAccess, Event.transmission]))
  · rw [dataBroadcast_result, if_neg fits] at defined
    exact not_defined_outOfBounds defined

theorem sendToNextHop_broadcast :
    (sendToNextHop broadcastAddress nread : Procedure F D Unit).run ir = ⟨.ok (), ir, []⟩ := by
  rw [sendToNextHop, if_neg (not_not_intro rfl), run_pure]

theorem sendToNextHop_within_iff {nextHopId : UInt32} {calls : List (Event F)}
    (silent : calls.flatMap sendtoAccess = []) :
    SendsWithin nread (((sendToNextHop nextHopId nread).run ir).after calls) ↔
      nextHopId = broadcastAddress := by
  constructor
  · rintro ⟨accesses, defined⟩
    by_contra usable
    by_cases fits : nread + DataMessage.size ≤ frameSize
    · rw [sendToNextHop_run ir fits, if_pos usable] at accesses
      exact not_within_relayPayload (accesses (.load 0 (relayPayload ir nread).length) (by
        simp [sendtoAccess, Event.transmission]))
    · rw [Outcome.after_result, sendToNextHop_result, if_pos ⟨usable, fits⟩] at defined
      exact not_defined_outOfBounds defined
  · rintro rfl
    rw [sendToNextHop_broadcast, Outcome.after_mk, List.append_nil]
    refine ⟨?_, Or.inl rfl⟩
    intro access member
    rw [silent] at member
    cases member

theorem stopped_not_within {after : IR F D} {calls : List (Event F)} {reason : Stop}
    {rest : Prop} (undefined : ¬Defined (.error reason)) :
    ¬(SendsWithin nread (⟨.error reason, after, calls⟩ : Outcome _ _ _ _) ∧ rest) :=
  fun both => undefined both.1.defined

theorem computed_within_iff {choice : NeighborTable F × UInt32} {state : IR F D}
    {calls : List (Event F)} {unchanged : NeighborTable F → Prop}
    (silent : calls.flatMap sendtoAccess = [])
    (same : choice.2 = broadcastAddress → (TablesKept ir state ↔ unchanged choice.1)) :
    (SendsWithin nread (((sendToNextHop choice.2 nread).run state).after calls) ∧
        (kept → TablesKept ir (((sendToNextHop choice.2 nread).run state).after calls).state)) ↔
      ∃ table, choice = (table, broadcastAddress) ∧ (kept → unchanged table) := by
  rw [sendToNextHop_within_iff silent]
  obtain ⟨table, nextHopId⟩ := choice
  constructor
  · rintro ⟨none, tables⟩
    have none : nextHopId = broadcastAddress := none
    subst none
    dsimp only at tables
    rw [sendToNextHop_broadcast] at tables
    exact ⟨table, rfl, fun demanded => (same rfl).mp (tables demanded)⟩
  · rintro ⟨_, found, tables⟩
    cases found
    dsimp only
    rw [sendToNextHop_broadcast]
    exact ⟨rfl, fun demanded => (same rfl).mpr (tables demanded)⟩

end

section

variable {F D : Type} [DoublePrecision D] [SinglePrecision F D] (host : Host F D)
  (readings : Readings D) (ir : IR F D) (kept : Prop) (dstIp : UInt32) (dstGps : GPS F)

/-- `Forwarding` has an entry, and ends up with the broadcast address in place of a next hop.
If the tables have to be `kept`, nobody is erased on the way and the entry stays as it is. -/
def EndsWithoutHop : Prop :=
  ∃ entry, ir.forwardTable[dstIp]? = some entry ∧
    if olderThan ttlNeighborTable (untilTime ir.beginTime readings.forwarding) entry.timestamp then
      ¬dstGps.unknown = true ∧ ∃ table,
        routeChoice host readings.routeMakeup readings.gaussrand ir dstGps =
          some (table, broadcastAddress) ∧
        (kept → table = ir.neighborTable)
    else if legalVerdict host readings.isLegal ir entry.nextHopIp dstGps then
      entry.nextHopIp = broadcastAddress
    else ∃ table,
      routeChoice host readings.routeMakeup readings.gaussrand (afterRefusal readings ir entry)
        dstGps = some (table, broadcastAddress) ∧
      (kept → table = ir.neighborTable ∧
        refreshed ir.forwardTable dstIp broadcastAddress
          (untilTime ir.beginTime readings.forwarding) = ir.forwardTable)

variable {host readings ir kept dstIp dstGps} {nread : Nat}

/-- `Forwarding` stays within what was received, and keeps the tables if it has to, if and only
if it has an entry and ends without a next hop. -/
theorem forwarding_within_iff :
    (SendsWithin nread ((forwarding host readings dstIp dstGps nread).run ir) ∧
        (kept → TablesKept ir ((forwarding host readings dstIp dstGps nread).run ir).state)) ↔
      EndsWithoutHop host readings ir kept dstIp dstGps := by
  unfold EndsWithoutHop
  have path := forwarding_path host readings dstIp dstGps nread ir
  generalize (forwarding host readings dstIp dstGps nread).run ir = outcome at path ⊢
  cases path with
  | missUnknown absent =>
      rw [absent]
      exact iff_of_false (fun both => dataBroadcast_overruns both.1) (by simp)
  | missStopped absent =>
      rw [absent]
      exact iff_of_false (stopped_not_within not_defined_outOfBounds) (by simp)
  | missComputed absent =>
      rw [absent]
      exact iff_of_false (stopped_not_within not_defined_endIterator) (by simp)
  | expiredUnknown entry held old unknown =>
      simp only [held, Option.some.injEq, exists_eq_left', if_pos old]
      exact iff_of_false (fun both => dataBroadcast_overruns both.1) fun ends => ends.1 unknown
  | expiredStopped entry held old known stopped =>
      simp only [held, Option.some.injEq, exists_eq_left', if_pos old, stopped]
      exact iff_of_false (stopped_not_within not_defined_outOfBounds) (by simp)
  | expiredComputed entry held old known choice chosen =>
      simp only [held, Option.some.injEq, exists_eq_left', if_pos old, chosen]
      refine Iff.trans ?_ (and_iff_right known).symm
      apply computed_within_iff rfl
      intro none
      rw [if_neg (not_not_intro none)]
      exact and_iff_right rfl
  | legal entry held fresh legal =>
      simp only [held, Option.some.injEq, exists_eq_left', fresh, legal, Bool.false_eq_true,
        ↓reduceIte]
      rw [sendToNextHop_within_iff rfl]
      apply and_iff_left_of_imp
      intro none _
      rw [none, sendToNextHop_broadcast]
      exact ⟨rfl, rfl⟩
  | illegalStopped entry held fresh illegal stopped =>
      simp only [held, Option.some.injEq, exists_eq_left', fresh, illegal, stopped,
        Bool.false_eq_true, ↓reduceIte]
      exact iff_of_false (stopped_not_within not_defined_outOfBounds) (by simp)
  | illegalComputed entry held fresh illegal choice chosen =>
      simp only [held, Option.some.injEq, exists_eq_left', fresh, illegal, chosen,
        Bool.false_eq_true, ↓reduceIte]
      apply computed_within_iff rfl
      intro none
      unfold TablesKept
      dsimp only
      rw [none]
      exact and_comm

end

section

variable {F D : Type}

/-- What `recv_data` should do with `nread` bytes: touch nothing else, and on too few of them for
an IP header and a trailer neither change a table nor send nor exit. -/
structure Harmless (nread : Int) (ir : IR F D) (notes : List Access)
    (outcome : Outcome (IR F D) (Event F) Stop Unit) : Prop where
  within : ∀ access ∈ notes, access.Within nread
  defined : Defined outcome.result
  short : nread < ipHeaderSize + DataMessage.size →
    TablesKept ir outcome.state ∧ transmissions outcome.events = [] ∧
      ∀ message, outcome.result ≠ .error (.exit message)

theorem idle_harmless {nread : Int} {ir state : IR F D} {notes : List Access}
    {events : List (Event F)} (within : ∀ access ∈ notes, access.Within nread)
    (kept : TablesKept ir state) (silent : transmissions events = []) :
    Harmless nread ir notes ⟨.ok (), state, events⟩ :=
  ⟨within, Or.inl rfl, fun _ => ⟨kept, silent, fun _ exited => nomatch exited⟩⟩

/-- A datagram for this node is harmless unless it is short and its write fails. -/
theorem delivered_harmless_iff {nread : Nat} {writeFails : Bool} {ir state : IR F D}
    {notes : List Access} {payload : List UInt8}
    (within : ∀ access ∈ notes, access.Within nread) (kept : TablesKept ir state) :
    Harmless nread ir notes
        (if writeFails then ⟨.error (.exit "Writing tun"), state, []⟩
          else ⟨.ok (), state, [.tunWritten payload]⟩) ↔
      (nread < ipHeaderSize + DataMessage.size → writeFails = false) := by
  cases writeFails with
  | false =>
      rw [if_neg Bool.false_ne_true]
      exact iff_of_true (idle_harmless within kept rfl) fun _ => rfl
  | true =>
      rw [if_pos rfl]
      constructor
      · intro harmless short
        have stays := (harmless.short (by exact_mod_cast short)).2.2 "Writing tun"
        exact absurd rfl stays
      · intro whole
        refine ⟨within, Or.inr ⟨_, rfl⟩, fun short => ?_⟩
        have refused : true = false := whole (by exact_mod_cast short)
        cases refused

variable [DoublePrecision D] [SinglePrecision F D] (host : Host F D) (readings : Readings D)
  (ir : IR F D)

def RecvDataHarmless (received : Received) (writeFails : Bool) : Prop :=
  let outcome := (recvDataNoted host readings received writeFails).run ir
  Harmless (received.count frameSize) ir outcome.notes outcome.visible

/-- The datagram has room for a trailer, and it is not sent on. If it has no room for an IP header
besides, the tun device accepts it, or no table changes on the way. -/
def Contained (datagram : List UInt8) (writeFails : Bool) : Prop :=
  let short := datagram.length < ipHeaderSize + DataMessage.size
  DataMessage.size ≤ datagram.length ∧
    (srcIpOf host ir datagram ≠ ir.virIp →
      if dstIpOf host ir datagram = ir.virIp then short → writeFails = false
      else (trailerIn host ir datagram).ttl - 1 > 0 →
        EndsWithoutHop host readings (relayState host ir datagram) short
          (dstIpOf host ir datagram) (trailerIn host ir datagram).dstGps)

variable {host readings ir} {datagram : List UInt8} {writeFails : Bool}

theorem headerAccess_within (long : DataMessage.size ≤ datagram.length) :
    ∀ access ∈ headerAccess datagram.length, access.Within datagram.length := by
  have size : DataMessage.size = 24 := rfl
  have source : saddrOffset = 12 := rfl
  have destination : daddrOffset = 16 := rfl
  have address : (Access.address (datagram.length - DataMessage.size)).Within datagram.length := by
    change (0 : Int) ≤ _
    omega
  intro access member
  simp only [headerAccess, List.mem_cons, List.not_mem_nil, or_false] at member
  rcases member with rfl | rfl | rfl
  · exact address
  · exact ⟨by omega, by omega⟩
  · exact ⟨by omega, by omega⟩

theorem ttlAccess_within {trailer : Nat} (ends : trailer + DataMessage.size = datagram.length) :
    ∀ access ∈ ttlAccess trailer, access.Within datagram.length := by
  have size : DataMessage.size = 24 := rfl
  have position : DataMessage.ttlOffset = 20 := rfl
  intro access member
  simp only [ttlAccess, List.mem_cons, List.not_mem_nil, or_false] at member
  rcases member with rfl | rfl | rfl
  · exact ⟨by omega, by omega⟩
  · exact ⟨by omega, by omega⟩
  · exact ⟨by omega, by omega⟩

/-- Up to a call of `Forwarding` all accesses stay within a datagram that has a trailer. -/
theorem trailer_within {trailer : Nat} (ends : trailer + DataMessage.size = datagram.length) :
    ∀ access ∈ headerAccess datagram.length ++ [.load trailer DataMessage.ttlOffset],
      access.Within datagram.length := by
  have size : DataMessage.size = 24 := rfl
  have position : DataMessage.ttlOffset = 20 := rfl
  have fields : (Access.load trailer DataMessage.ttlOffset).Within datagram.length :=
    ⟨by omega, by omega⟩
  intro access member
  rcases List.mem_append.mp member with earlier | last
  · exact headerAccess_within (by omega) access earlier
  · rw [List.mem_singleton.mp last]
    exact fields

theorem write_within {trailer : Nat} (ends : trailer + DataMessage.size = datagram.length) :
    ∀ access ∈ [Access.writeLength trailer, .load 0 trailer], access.Within datagram.length := by
  have length : (Access.writeLength trailer).Within datagram.length := by
    change (trailer : Int) ≤ _
    omega
  intro access member
  simp only [List.mem_cons, List.not_mem_nil, or_false] at member
  rcases member with rfl | rfl
  · exact length
  · exact ⟨by omega, by omega⟩

theorem dstGps_within {trailer : Nat} (ends : trailer + DataMessage.size = datagram.length) :
    ∀ access ∈ [Access.load (trailer + dstGpsOffset) 8], access.Within datagram.length := by
  have size : DataMessage.size = 24 := rfl
  have position : dstGpsOffset = 12 := rfl
  intro access member
  rw [List.mem_singleton.mp member]
  exact ⟨by omega, by omega⟩

/-- A datagram without room for a trailer has the address of its trailer before the buffer. -/
theorem not_harmless_short {received : Received}
    (short : received.count frameSize < DataMessage.size) :
    ¬RecvDataHarmless host readings ir received writeFails := by
  intro harmless
  have address := harmless.within _ (recvDataNoted_address host readings ir received writeFails)
  change (0 : Int) ≤ _ at address
  omega

/-- Whatever is sent on takes more of the buffer along than was received. -/
theorem forwarding_silent {dstIp : UInt32} {dstGps : GPS F} {nread : Nat}
    (fits : nread + DataMessage.size ≤ frameSize)
    (within : SendsWithin nread ((forwarding host readings dstIp dstGps nread).run ir)) :
    transmissions ((forwarding host readings dstIp dstGps nread).run ir).events = [] := by
  apply List.eq_nil_iff_forall_not_mem.mpr
  intro sent member
  have payload := forwarding_payload fits member
  obtain ⟨event, emitted, shown⟩ := List.mem_filterMap.mp member
  have noted : Access.load 0 sent.2.length ∈ sendtoAccess event := by
    rw [sendtoAccess, shown]
    exact List.mem_singleton_self _
  have load := within.accesses _ (List.mem_flatMap.mpr ⟨event, emitted, noted⟩)
  rw [payload] at load
  exact not_within_relayPayload load

/-- `Forwarding` does not look at what `sendto` returns. -/
theorem forwarding_neverExits {dstIp : UInt32} {dstGps : GPS F} {nread : Nat} (message : String) :
    ((forwarding host readings dstIp dstGps nread).run ir).result ≠ .error (.exit message) := by
  have broadcast (state : IR F D) :
      ((dataBroadcast nread : Procedure F D Unit).run state).result ≠ .error (.exit message) := by
    rw [dataBroadcast_result]
    split <;> simp
  have unicast (state : IR F D) (nextHopId : UInt32) :
      ((sendToNextHop nextHopId nread : Procedure F D Unit).run state).result ≠
        .error (.exit message) := by
    rw [sendToNextHop_result]
    split <;> simp
  have path := forwarding_path host readings dstIp dstGps nread ir
  generalize (forwarding host readings dstIp dstGps nread).run ir = outcome at path ⊢
  cases path with
  | missUnknown => exact broadcast _
  | missStopped => simp
  | missComputed => simp
  | expiredUnknown => exact broadcast _
  | expiredStopped => simp
  | expiredComputed => exact unicast _ _
  | legal => exact unicast _ _
  | illegalStopped => simp
  | illegalComputed => exact unicast _ _

theorem relayed_harmless_iff {dstIp : UInt32} {dstGps : GPS F} {notes : List Access}
    {origin : IR F D} (before : ∀ access ∈ notes, access.Within datagram.length)
    (same : ∀ after, TablesKept origin after ↔ TablesKept ir after) :
    Harmless datagram.length origin
        (notes ++ ((forwarding host readings dstIp dstGps datagram.length).run ir).events.flatMap
          sendtoAccess)
        ((forwarding host readings dstIp dstGps datagram.length).run ir) ↔
      EndsWithoutHop host readings ir (datagram.length < ipHeaderSize + DataMessage.size) dstIp
        dstGps := by
  rw [← @forwarding_within_iff _ _ _ _ host readings ir _ dstIp dstGps datagram.length, ← same]
  constructor
  · intro harmless
    have sends : SendsWithin datagram.length
        ((forwarding host readings dstIp dstGps datagram.length).run ir) :=
      ⟨fun access member => harmless.within access (List.mem_append_right _ member),
        harmless.defined⟩
    refine ⟨sends, fun short => ?_⟩
    exact (harmless.short (by exact_mod_cast short)).1
  · rintro ⟨sends, kept⟩
    have most : ipHeaderSize + DataMessage.size + DataMessage.size ≤ frameSize := by decide
    refine ⟨?_, sends.defined, fun few => ?_⟩
    · intro access member
      rcases List.mem_append.mp member with earlier | later
      · exact before access earlier
      · exact sends.accesses access later
    · have short : datagram.length < ipHeaderSize + DataMessage.size := by exact_mod_cast few
      exact ⟨kept short, forwarding_silent (by omega) sends, forwarding_neverExits⟩

/-- A datagram that fits is harmless if and only if it is contained. -/
theorem recvDatagram_harmless_iff (fits : datagram.length ≤ frameSize) :
    RecvDataHarmless host readings ir (.packet datagram) writeFails ↔
      Contained host readings ir datagram writeFails := by
  have count := Received.count_of_fits fits
  by_cases long : DataMessage.size ≤ datagram.length
  · have ends : datagram.length - DataMessage.size + DataMessage.size = datagram.length := by
      omega
    have before := trailer_within ends
    have ttl := ttlAccess_within ends
    unfold RecvDataHarmless Contained
    dsimp only
    rw [recvDataNoted_annotates host readings (.packet datagram) writeFails ir, count,
      recvDataNoted_notes host readings ir writeFails long fits,
      recvData_run host readings ir writeFails long fits, and_iff_right long]
    by_cases own : srcIpOf host ir datagram = ir.virIp
    · rw [if_pos own, if_pos own, List.append_nil]
      exact iff_of_true (idle_harmless (headerAccess_within long) ⟨rfl, rfl⟩ rfl)
        fun foreign => absurd own foreign
    · rw [if_neg own, if_neg own, forall_prop_of_true own]
      unfold trailerAccess
      by_cases here : dstIpOf host ir datagram = ir.virIp
      · have kept : TablesKept ir (storeDatagram ir datagram) := ⟨rfl, rfl⟩
        rw [if_pos here, if_pos here, if_pos here, List.append_cons]
        exact delivered_harmless_iff (List.forall_mem_append.mpr ⟨before, write_within ends⟩) kept
      · rw [if_neg here, if_neg here, if_neg here, List.append_cons, ← List.append_assoc]
        by_cases alive : (trailerIn host ir datagram).ttl - 1 > 0
        · rw [if_pos alive, if_pos alive, forall_prop_of_true alive, List.append_cons]
          exact relayed_harmless_iff (List.forall_mem_append.mpr
            ⟨List.forall_mem_append.mpr ⟨before, ttl⟩, dstGps_within ends⟩) fun _ => Iff.rfl
        · rw [if_neg alive, if_neg alive, List.append_nil]
          exact iff_of_true (idle_harmless (List.forall_mem_append.mpr ⟨before, ttl⟩) ⟨rfl, rfl⟩ rfl)
            fun again => absurd again alive
  · refine iff_of_false (not_harmless_short ?_) fun contained => long contained.1
    rw [count]
    exact_mod_cast Nat.not_le.mp long

/-- Whatever `recvfrom` returns and the buffer held before, `recv_data` touches nothing but the
received bytes, and leaves the node alone if they are too few, if and only if the datagram is
contained. -/
theorem recvData_harmless_iff (received : Received) :
    RecvDataHarmless host readings ir received writeFails ↔
      Contained host readings ir received.datagram writeFails := by
  cases received with
  | failed =>
      have few : Received.failed.count frameSize < DataMessage.size := by decide
      refine iff_of_false (not_harmless_short few) fun contained => ?_
      exact absurd contained.1 (by decide)
  | packet payload =>
      have fits : (payload.take frameSize).length ≤ frameSize := List.length_take_le _ _
      have same := @recvDatagram_harmless_iff _ _ _ _ host readings ir _ writeFails fits
      unfold RecvDataHarmless recvDataNoted at same ⊢
      simp only [Received.store_take payload, Received.count_take payload]
      exact same

end

/-- The trailer of an empty datagram is looked for before the buffer. -/
theorem recvData_looksBefore :
    ¬∀ (ir : IR Float32 Float) (received : Received) (writeFails : Bool),
      RecvDataHarmless .shortHistories .atOneSecond ir received writeFails := by
  intro harmless
  exact not_harmless_short (by decide) (harmless loneNode (.packet []) false)

end TunVideo
