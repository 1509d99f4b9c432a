import TunVideo.Tunnel

set_option autoImplicit false

namespace TunVideo.TunUdp

open Program ReadLoop

abbrev frameSize : Nat := 65536

abbrev TunProgram (α : Type) := Program (Buffer frameSize) Written Stop α

def relay (input : Side × Received) : TunProgram Unit := do
  modify fun buffer => input.2.store frameSize buffer
  let nread := input.2.count frameSize
  if nread > 0 then
    perform fun buffer => (buffer, [⟨input.1.other, buffer.slice 0 nread.toNat⟩])

/-- `main`, once the device and the socket are open. -/
def main (rounds : List (Ready Received)) : TunProgram Unit := mainLoop relay rounds

/-- What of a read is written: all that fits in the buffer, if it is not empty. -/
def forwarded : Received → List (List UInt8)
  | .failed => []
  | .packet payload => if payload = [] then [] else [payload.take frameSize]

theorem relay_run (side : Side) (received : Received) (buffer : Buffer frameSize) :
    (relay (side, received)).run buffer =
      ⟨.ok (), received.store frameSize buffer,
        (forwarded received).map fun payload => ⟨side.other, payload⟩⟩ := by
  unfold relay
  simp only [run_bind, run_modify, Outcome.bind_ok, Outcome.after_nil]
  cases received with
  | failed => rfl
  | packet payload =>
      have count := Received.count_packet frameSize payload
      have fits : 0 + (payload.take frameSize).length ≤ frameSize := by
        rw [Nat.zero_add]
        exact List.length_take_le _ _
      have shown := Buffer.slice_overwrite buffer 0 (payload.take frameSize) fits
      rw [List.length_take, Nat.min_comm] at shown
      have size : frameSize = 65536 := rfl
      rw [count]
      by_cases empty : payload = []
      · have none : ¬((min payload.length frameSize : Nat) : Int) > 0 := by
          rw [empty, List.length_nil]
          omega
        rw [if_neg none, forwarded, if_pos empty, run_pure]
        rfl
      · have some := List.length_pos_iff.mpr empty
        have positive : ((min payload.length frameSize : Nat) : Int) > 0 := by omega
        rw [if_pos positive, forwarded, if_neg empty, run_perform, Received.store,
          Int.toNat_natCast, shown]
        rfl

/-- What has been read from one device can be read whole from a socket. -/
theorem forwarded_stable (received : Received) :
    ∀ payload ∈ forwarded received, forwarded (.packet payload) = [payload] := by
  intro payload member
  cases received with
  | failed => cases member
  | packet whole =>
      rw [forwarded] at member
      by_cases empty : whole = []
      · rw [if_pos empty] at member
        cases member
      · rw [if_neg empty] at member
        obtain rfl := List.mem_singleton.mp member
        have nonempty : whole.take frameSize ≠ [] := by
          intro none
          rcases List.take_eq_nil_iff.mp none with zero | empty'
          · cases zero
          · exact empty empty'
        rw [forwarded, if_neg nonempty, List.take_take, Nat.min_self]

theorem relay_forwards : Tunnel.Forwards relay (fun _ => True) forwarded where
  enters buffer received _ := by
    rw [relay_run]
    rfl
  leaves buffer payload whole := by
    rw [relay_run, whole]
    rfl
  fails buffer := by
    rw [relay_run]
    rfl
  stable := forwarded_stable

/-- The two programs run their main loops, and the books of the tunnel are right. -/
theorem tunUdp_accounts {buffers : Tunnel.End → Buffer frameSize}
    {last : Tunnel.Pair (Buffer frameSize)}
    {history : List (Tunnel.Pair (Buffer frameSize) × Tunnel.Action)}
    (run : History (Tunnel.Step relay fun _ => True) ⟨buffers, fun _ => []⟩ history last) :
    Tunnel.Accounts relay history forwarded last ∧
      ∀ place, ∃ rounds, ((main rounds).run (buffers place)).events =
        history.flatMap fun visited => visited.1.shown relay visited.2 place := by
  constructor
  · exact Tunnel.accounts relay_forwards run
  · apply Tunnel.run_mainLoop _ run
    intro input buffer
    rw [relay_run]

def atRest : Tunnel.Pair (Buffer frameSize) := ⟨fun _ _ => 0, fun _ => []⟩

def onePacket : Tunnel.Pair (Buffer frameSize) := atRest.after relay (.enter .near (.packet [7]))

/-- The datagram with the packet is read at the other end. -/
theorem onePacket_accounts :
    let history := [(atRest, .enter .near (.packet [7])), (onePacket, .leave .far [7])]
    Tunnel.Accounts relay history forwarded (onePacket.after relay (.leave .far [7])) ∧
      ∀ place, ∃ rounds, ((main rounds).run fun _ => 0).events =
        history.flatMap fun visited => visited.1.shown relay visited.2 place := by
  have entered : Tunnel.Step relay (fun _ => True) atRest (.enter .near (.packet [7]))
      onePacket := by
    refine ⟨?_, fun _ _ _ => trivial, rfl⟩
    intro receiver datagram none
    cases none
  have left : Tunnel.Step relay (fun _ => True) onePacket (.leave .far [7])
      (onePacket.after relay (.leave .far [7])) := by
    refine ⟨?_, fun _ _ _ => trivial, rfl⟩
    intro receiver datagram given
    cases receiver with
    | near => cases given
    | far =>
        obtain rfl := List.mem_singleton.mp given
        decide +kernel
  exact tunUdp_accounts (((History.start atRest).next _ entered).next _ left)

end TunVideo.TunUdp
