import TunVideo.Node
import TunVideo.ReadLoop
import TunVideo.Tunnel

set_option autoImplicit false

namespace TunVideo.TapUdp

open Program ReadLoop

abbrev frameSize : Nat := 2000

abbrev ethHlen : Nat := 14

abbrev TapProgram (α : Type) := Program (Buffer frameSize) Written Stop α

/-- `ntohs(p_ether->h_proto)` -/
def etherType {size : Nat} (buffer : Buffer size) : Nat :=
  (buffer.byte 12).toNat * 256 + (buffer.byte 13).toNat

def isTunnelled (ethertype : Nat) : Bool := ethertype == 0x0800 || ethertype == 0x0806

/-- What is done for one readable descriptor. -/
def relay (input : Side × Received) : TapProgram Unit := do
  modify fun buffer => input.2.store frameSize buffer
  let nread := input.2.count frameSize
  if nread > 0 then
    let ethertype ← read etherType
    if isTunnelled ethertype then
      perform fun buffer => (buffer, [⟨input.1.other, buffer.slice 0 nread.toNat⟩])

/-- `main`, once the device and the socket are open. -/
def main (rounds : List (Ready Received)) : TapProgram Unit := mainLoop relay rounds

def ownEtherType (frame : List UInt8) : Nat :=
  (frame.getD 12 0).toNat * 256 + (frame.getD 13 0).toNat

/-- What should be written for a read: the whole frame, if it fits in the buffer and its own
header says IPv4 or ARP. -/
def expected : Side × Received → List Written
  | (_, .failed) => []
  | (side, .packet frame) =>
      if ethHlen ≤ frame.length ∧ frame.length ≤ frameSize ∧
          isTunnelled (ownEtherType frame) = true then [⟨side.other, frame⟩] else []

/-- When the buffer shows IPv4 or ARP behind a read that is not empty, what was read is a whole
frame with a header. -/
def Qualified (buffer : Buffer frameSize) : Side × Received → Prop
  | (_, .failed) => True
  | (_, .packet frame) =>
      frame ≠ [] →
        isTunnelled (etherType ((Received.packet frame).store frameSize buffer)) = true →
        ethHlen ≤ frame.length ∧ frame.length ≤ frameSize

theorem relay_run (side : Side) (received : Received) (buffer : Buffer frameSize) :
    (relay (side, received)).run buffer =
      let stored := received.store frameSize buffer
      ⟨.ok (), stored,
        if received.count frameSize > 0 ∧ isTunnelled (etherType stored) = true then
          [⟨side.other, stored.slice 0 (received.count frameSize).toNat⟩] else []⟩ := by
  unfold relay
  simp only [run_bind, run_modify, Outcome.bind_ok, Outcome.after_nil]
  by_cases some : received.count frameSize > 0
  · rw [if_pos some, run_bind, run_read, Outcome.bind_ok, Outcome.after_nil, run_writeIf]
    simp only [some, true_and]
  · rw [if_neg some, if_neg fun both => some both.1, run_pure]

/-- A read that is long enough for a header leaves its own header in the buffer. -/
theorem etherType_own {frame : List UInt8} (header : ethHlen ≤ frame.length)
    (buffer : Buffer frameSize) :
    etherType ((Received.packet frame).store frameSize buffer) = ownEtherType frame := by
  have long : 14 ≤ frame.length := header
  have size : frameSize = 2000 := rfl
  have stored (index : Nat) (inside : index < 14) :
      ((Received.packet frame).store frameSize buffer).byte index = frame.getD index 0 := by
    have kept : index < (frame.take frameSize).length := by
      rw [List.length_take]
      omega
    have written := Buffer.byte_overwrite_inside buffer 0 index (frame.take frameSize) kept
      (by omega)
    rw [Nat.zero_add] at written
    rw [Received.store, written, List.getElem_take, List.getD_eq_getElem]
  rw [etherType, stored 12 (by decide), stored 13 (by decide), ownEtherType]

/-- One read is treated as expected if and only if it is qualified. -/
theorem relay_expected_iff (buffer : Buffer frameSize) (input : Side × Received) :
    ((relay input).run buffer).events = expected input ↔ Qualified buffer input := by
  obtain ⟨side, received⟩ := input
  rw [relay_run]
  cases received with
  | failed => exact iff_of_true rfl trivial
  | packet frame =>
      have size : frameSize = 2000 := rfl
      have header : ethHlen = 14 := rfl
      have count := Received.count_packet frameSize frame
      have nonempty : frame ≠ [] ↔ 0 < frame.length := List.length_pos_iff.symm
      unfold expected Qualified
      dsimp only
      by_cases shown : isTunnelled
          (etherType ((Received.packet frame).store frameSize buffer)) = true
      · by_cases whole : ethHlen ≤ frame.length ∧ frame.length ≤ frameSize
        · -- the frame is sent as it is
          have own : isTunnelled (ownEtherType frame) = true := by
            rwa [etherType_own whole.1] at shown
          have sent : ((Received.packet frame).store frameSize buffer).slice 0
              (min frame.length frameSize) = frame := by
            rw [Received.store, Nat.min_eq_left whole.2, List.take_of_length_le whole.2]
            exact Buffer.slice_overwrite buffer 0 frame (by omega)
          rw [if_pos ⟨by omega, shown⟩, if_pos ⟨whole.1, whole.2, own⟩, count, Int.toNat_natCast,
            sent]
          exact iff_of_true rfl fun _ _ => whole
        · have refused : ¬(ethHlen ≤ frame.length ∧ frame.length ≤ frameSize ∧
              isTunnelled (ownEtherType frame) = true) :=
            fun all => whole ⟨all.1, all.2.1⟩
          rw [if_neg refused]
          by_cases empty : frame = []
          · have none : frame.length = 0 := List.length_eq_zero_iff.mpr empty
            rw [if_neg fun sent => absurd sent.1 (by omega)]
            exact iff_of_true rfl fun some => absurd empty some
          · have some := nonempty.mp empty
            rw [if_pos ⟨by omega, shown⟩]
            exact iff_of_false (List.cons_ne_nil _ _) fun qualified => whole (qualified empty shown)
      · have silent : ¬(ethHlen ≤ frame.length ∧ frame.length ≤ frameSize ∧
            isTunnelled (ownEtherType frame) = true) := by
          intro all
          rw [← etherType_own all.1 buffer] at all
          exact shown all.2.2
        rw [if_neg fun both => shown both.2, if_neg silent]
        exact iff_of_true rfl fun _ tunnelled => absurd tunnelled shown

theorem main_events (buffer : Buffer frameSize) (rounds : List (Ready Received)) :
    ((main rounds).run buffer).result = .ok () ∧
      ((main rounds).run buffer).events =
        (trace relay buffer (rounds.flatMap Ready.reads)).flatMap Prod.snd := by
  apply mainLoop_events
  intro input state
  rw [relay_run]

/-- In every run, from any buffer, each read is answered with the whole frame on the other side
if its own header qualifies it, and with nothing else, if and only if every read is qualified
when it comes. -/
theorem main_relaysOwnFrames_iff (buffer : Buffer frameSize) (rounds : List (Ready Received)) :
    Answers relay expected buffer rounds ↔
      Along relay Qualified buffer (rounds.flatMap Ready.reads) :=
  trace_eq_iff relay_expected_iff _ buffer

def ipFrame : List UInt8 := List.replicate 12 0 ++ [8, 0]

/-- A frame, and then a datagram of one byte from the other side. -/
def frameThenByte : List (Ready Received) :=
  [⟨some (.packet ipFrame), none⟩, ⟨none, some (.packet [7])⟩]

/-- The byte is written to the TAP device, behind the header of the frame. -/
theorem main_relaysByte :
    ¬∀ (buffer : Buffer frameSize) (rounds : List (Ready Received)),
      Answers relay expected buffer rounds := by
  intro relays
  have along := (trace_eq_iff relay_expected_iff _ _).mp (relays (fun _ => 0) frameThenByte)
  have short := along.2.1 (by decide) (by decide +kernel)
  exact absurd short.1 (by decide)

def forwarded : Received → List (List UInt8)
  | .failed => []
  | .packet frame =>
      if ethHlen ≤ frame.length ∧ frame.length ≤ frameSize ∧
          isTunnelled (ownEtherType frame) = true then [frame] else []

theorem expected_eq (side : Side) (received : Received) :
    expected (side, received) = (forwarded received).map fun payload => ⟨side.other, payload⟩ := by
  cases received with
  | failed => rfl
  | packet frame =>
      unfold expected forwarded
      dsimp only
      split
      · rfl
      · rfl

theorem forwarded_stable (received : Received) :
    ∀ payload ∈ forwarded received, forwarded (.packet payload) = [payload] := by
  intro payload member
  cases received with
  | failed => cases member
  | packet frame =>
      rw [forwarded] at member
      by_cases passes : ethHlen ≤ frame.length ∧ frame.length ≤ frameSize ∧
          isTunnelled (ownEtherType frame) = true
      · rw [if_pos passes] at member
        obtain rfl := List.mem_singleton.mp member
        rw [forwarded, if_pos passes]
      · rw [if_neg passes] at member
        cases member

/-- A frame as it comes from a TAP device, with a header, of a length that the buffer can hold. -/
def WholeFrame : Received → Prop
  | .failed => True
  | .packet frame => frame ≠ [] → ethHlen ≤ frame.length ∧ frame.length ≤ frameSize

theorem WholeFrame.qualified {received : Received} (whole : WholeFrame received)
    (buffer : Buffer frameSize) (side : Side) : Qualified buffer (side, received) := by
  cases received with
  | failed => trivial
  | packet frame => exact fun some _ => whole some

theorem relay_forwards : Tunnel.Forwards relay WholeFrame forwarded where
  enters buffer received whole := by
    rw [(relay_expected_iff buffer (.tun, received)).mpr (whole.qualified buffer .tun),
      expected_eq]
    rfl
  leaves buffer frame passed := by
    have whole : WholeFrame (.packet frame) := by
      intro some
      by_contra short
      rw [forwarded, if_neg fun passes => short ⟨passes.1, passes.2.1⟩] at passed
      cases passed
    rw [(relay_expected_iff buffer (.socket, .packet frame)).mpr (whole.qualified buffer .socket),
      expected_eq, passed]
    rfl
  fails buffer := (relay_expected_iff buffer (.socket, .failed)).mpr trivial
  stable := forwarded_stable

/-- Where each TAP device gives whole frames only, so do the sockets, and the books of the tunnel
are right. -/
theorem tapUdp_accounts {buffers : Tunnel.End → Buffer frameSize}
    {last : Tunnel.Pair (Buffer frameSize)}
    {history : List (Tunnel.Pair (Buffer frameSize) × Tunnel.Action)}
    (run : History (Tunnel.Step relay WholeFrame) ⟨buffers, fun _ => []⟩ history last) :
    Tunnel.Accounts relay history forwarded last ∧
      ∀ place, ∃ rounds, ((main rounds).run (buffers place)).events =
        history.flatMap fun visited => visited.1.shown relay visited.2 place := by
  constructor
  · exact Tunnel.accounts relay_forwards run
  · apply Tunnel.run_mainLoop _ run
    intro input buffer
    rw [relay_run]

def atRest : Tunnel.Pair (Buffer frameSize) := ⟨fun _ _ => 0, fun _ => []⟩

def oneFrame : Tunnel.Pair (Buffer frameSize) :=
  atRest.after relay (.enter .near (.packet ipFrame))

/-- The IPv4 frame is read at the other end. -/
theorem oneFrame_accounts :
    let history := [(atRest, .enter .near (.packet ipFrame)), (oneFrame, .leave .far ipFrame)]
    Tunnel.Accounts relay history forwarded (oneFrame.after relay (.leave .far ipFrame)) ∧
      ∀ place, ∃ rounds, ((main rounds).run fun _ => 0).events =
        history.flatMap fun visited => visited.1.shown relay visited.2 place := by
  have entered : Tunnel.Step relay WholeFrame atRest (.enter .near (.packet ipFrame))
      oneFrame := by
    refine ⟨?_, ?_, rfl⟩
    · intro receiver datagram none
      cases none
    · intro reader received given
      cases reader with
      | near =>
          obtain rfl := List.mem_singleton.mp given
          exact fun _ => by decide
      | far => cases given
  have left : Tunnel.Step relay WholeFrame oneFrame (.leave .far ipFrame)
      (oneFrame.after relay (.leave .far ipFrame)) := by
    refine ⟨?_, ?_, rfl⟩
    · intro receiver datagram given
      cases receiver with
      | near => cases given
      | far =>
          obtain rfl := List.mem_singleton.mp given
          decide +kernel
    · intro reader received none
      cases none
  exact tapUdp_accounts (((History.start atRest).next _ entered).next _ left)

end TunVideo.TapUdp
