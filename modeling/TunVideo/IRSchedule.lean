import TunVideo.Node
import TunVideo.ReadLoop

set_option autoImplicit false

namespace TunVideo.IRSchedule

open Program ReadLoop

/-- The buffers that `schedule` uses. `init` allocates `tun_buffer` and clears its first bytes;
both hold anything otherwise. -/
structure Buffers where
  buf : Buffer frameSize
  tunBuffer : Buffer frameSize

abbrev Procedure (α : Type) := Program Buffers Written Stop α

/-- `if (FD_ISSET(tun_fd, &rset))` -/
def fromTun (received : Received) : Procedure Unit := do
  modify fun buffers => { buffers with buf := received.store frameSize buffers.buf }
  let nread := received.count frameSize
  if nread > 0 then
    perform fun buffers => (buffers, [⟨.socket, buffers.tunBuffer.slice 0 nread.toNat⟩])

/-- `if (FD_ISSET(data_fd, &rset))` -/
def fromData (received : Received) : Procedure Unit := do
  modify fun buffers => { buffers with buf := received.store frameSize buffers.buf }
  let nread := received.count frameSize
  if nread > 0 then
    perform fun buffers => (buffers, [⟨.tun, buffers.buf.slice 0 nread.toNat⟩])

def receive : Side × Received → Procedure Unit
  | (.tun, received) => fromTun received
  | (.socket, received) => fromData received

def schedule (rounds : List (Ready Received)) : Procedure Unit := mainLoop receive rounds

/-- What should be written for a read: what has been read, if anything, to the other side. -/
def expected : Side × Received → List Written
  | (_, .failed) => []
  | (side, .packet packet) =>
      if packet = [] then [] else [⟨side.other, packet.take frameSize⟩]

/-- A packet from the tun device is what `tun_buffer` begins with. -/
def AlreadyThere (buffers : Buffers) : Side × Received → Prop
  | (.tun, .packet packet) =>
      packet.take frameSize = buffers.tunBuffer.slice 0 (min packet.length frameSize)
  | _ => True

theorem fromTun_run (received : Received) (buffers : Buffers) :
    (fromTun received).run buffers =
      ⟨.ok (), { buffers with buf := received.store frameSize buffers.buf },
        if received.count frameSize > 0 then
          [⟨.socket, buffers.tunBuffer.slice 0 (received.count frameSize).toNat⟩] else []⟩ := by
  unfold fromTun
  simp only [run_bind, run_modify, Outcome.bind_ok, Outcome.after_nil]
  exact run_writeIf _ _ _

theorem fromData_run (received : Received) (buffers : Buffers) :
    (fromData received).run buffers =
      ⟨.ok (), { buffers with buf := received.store frameSize buffers.buf },
        if received.count frameSize > 0 then
          [⟨.tun, (received.store frameSize buffers.buf).slice 0
            (received.count frameSize).toNat⟩] else []⟩ := by
  unfold fromData
  simp only [run_bind, run_modify, Outcome.bind_ok, Outcome.after_nil]
  exact run_writeIf _ _ _

theorem count_packet_pos (packet : List UInt8) :
    (Received.packet packet).count frameSize > 0 ↔ packet ≠ [] := by
  have size : frameSize = 65536 := rfl
  rw [Received.count_packet, ← List.length_pos_iff]
  omega

theorem fromData_expected (received : Received) (buffers : Buffers) :
    ((fromData received).run buffers).events = expected (.socket, received) := by
  rw [fromData_run]
  cases received with
  | failed => rfl
  | packet packet =>
      unfold expected
      dsimp only
      by_cases empty : packet = []
      · rw [if_neg fun some => count_packet_pos packet |>.mp some empty, if_pos empty]
      · have length : (packet.take frameSize).length = min packet.length frameSize := by
          rw [List.length_take, Nat.min_comm]
        have sent := Buffer.slice_overwrite buffers.buf 0 (packet.take frameSize)
          (by rw [length]; omega)
        rw [length] at sent
        rw [if_pos ((count_packet_pos packet).mpr empty), if_neg empty, Received.count_packet,
          Int.toNat_natCast, Received.store, sent]
        rfl

theorem fromTun_expected_iff (received : Received) (buffers : Buffers) :
    ((fromTun received).run buffers).events = expected (.tun, received) ↔
      AlreadyThere buffers (.tun, received) := by
  rw [fromTun_run]
  cases received with
  | failed => exact iff_of_true rfl trivial
  | packet packet =>
      unfold expected AlreadyThere
      dsimp only
      by_cases empty : packet = []
      · rw [if_neg fun some => count_packet_pos packet |>.mp some empty, if_pos empty, empty]
        exact iff_of_true rfl rfl
      · rw [if_pos ((count_packet_pos packet).mpr empty), if_neg empty, Received.count_packet,
          Int.toNat_natCast]
        constructor
        · intro same
          exact (congrArg Written.payload (List.cons.inj same).1).symm
        · intro there
          rw [there]
          rfl

theorem receive_expected_iff (buffers : Buffers) (input : Side × Received) :
    ((receive input).run buffers).events = expected input ↔ AlreadyThere buffers input := by
  obtain ⟨side, received⟩ := input
  cases side with
  | tun => exact fromTun_expected_iff received buffers
  | socket => exact iff_of_true (fromData_expected received buffers) trivial

/-- No read reaches `tun_buffer`. -/
theorem receive_tunBuffer (input : Side × Received) (buffers : Buffers) :
    ((receive input).run buffers).state.tunBuffer = buffers.tunBuffer := by
  obtain ⟨side, received⟩ := input
  cases side with
  | tun => rw [receive, fromTun_run]
  | socket => rw [receive, fromData_run]

/-- `schedule` never ends by itself, and it writes what its reads are answered with. -/
theorem schedule_events (buffers : Buffers) (rounds : List (Ready Received)) :
    ((schedule rounds).run buffers).result = .ok () ∧
      ((schedule rounds).run buffers).events =
        (trace receive buffers (rounds.flatMap Ready.reads)).flatMap Prod.snd := by
  apply mainLoop_events
  intro input state
  obtain ⟨side, received⟩ := input
  cases side with
  | tun => rw [receive, fromTun_run]
  | socket => rw [receive, fromData_run]

/-- In every run, from any buffers, each side receives what was read from the other if and only
if each packet from the tun device is what `tun_buffer` began with from the start. -/
theorem schedule_transparent_iff (buffers : Buffers) (rounds : List (Ready Received)) :
    Answers receive expected buffers rounds ↔
      ∀ input ∈ rounds.flatMap Ready.reads, AlreadyThere buffers input := by
  refine (trace_eq_iff receive_expected_iff _ buffers).trans ?_
  apply along_iff_forall
  intro input state later
  unfold AlreadyThere
  rw [receive_tunBuffer]

def oneByte : List (Ready Received) := [⟨some (.packet [7]), none⟩]

/-- With a cleared `tun_buffer` a zero is sent in its place. -/
theorem schedule_sendsStale :
    ¬∀ (buffers : Buffers) (rounds : List (Ready Received)),
      Answers receive expected buffers rounds := by
  intro answers
  have along := (trace_eq_iff receive_expected_iff _ _).mp
    (answers ⟨fun _ => 0, fun _ => 0⟩ oneByte)
  have there : [(7 : UInt8)] = [0] := along.1
  exact absurd there (by decide)

end TunVideo.IRSchedule
