import TunVideo.CheckedCalls
import TunVideo.Node

set_option autoImplicit false

namespace TunVideo.Startup

open Program CheckedCalls

inductive Call where
  | physicalSocket
  | physicalAddress
  | virtualSocket
  | virtualAddress
  | cloneDevice
  | attach
  | noChecksum
  | beaconSocket
  | broadcastAddress
  | beaconOption
  | beaconBind
  | dataSocket
  | dataOption
  | dataBind
  | timer
  deriving DecidableEq, Repr

/-- Which calls succeed, and the addresses that the interfaces have. -/
structure Kernel where
  succeeds : Call → Bool
  physicalAddress : UInt32
  virtualAddress : UInt32
  broadcastAddress : UInt32

/-- The process: its descriptors, what they are good for, and its node. -/
structure Machine (F D : Type) where
  ir : IR F D
  descriptors : List Nat
  device : Option Nat
  port : Nat → Option UInt16
  broadcasts : Nat → Bool
  tunFd : Int
  beaconFd : Int
  dataFd : Int
  armed : Bool

abbrev Setup (F D α : Type) := Program (Machine F D) Unit Stop α

def lowest (descriptors : List Nat) : Nat :=
  ((List.range (descriptors.length + 1)).find? (· ∉ descriptors)).getD 0

theorem lowest_new (descriptors : List Nat) : lowest descriptors ∉ descriptors := by
  unfold lowest
  cases found : (List.range (descriptors.length + 1)).find? (· ∉ descriptors) with
  | some descriptor =>
      have new := List.find?_some found
      rw [Option.getD_some]
      exact of_decide_eq_true new
  | none =>
      have all : List.range (descriptors.length + 1) ⊆ descriptors := by
        intro descriptor member
        have taken := List.find?_eq_none.mp found descriptor member
        simpa using taken
      have few := (List.subperm_of_subset List.nodup_range all).length_le
      rw [List.length_range] at few
      omega

section

variable {F D : Type}

def dieIf (failed : Prop) [Decidable failed] (msg : String) : Setup F D Unit :=
  if failed then stop (.exit msg) else pure ()

def openDescriptor (kernel : Kernel) (call : Call) : Setup F D Int :=
  if kernel.succeeds call then do
    let descriptor ← read fun machine => lowest machine.descriptors
    modify fun machine => { machine with descriptors := descriptor :: machine.descriptors }
    return descriptor
  else return -1

def close (descriptor : Int) : Setup F D Unit :=
  modify fun machine =>
    { machine with descriptors := machine.descriptors.erase descriptor.toNat }

/-- `get_ip`. The socket stays open when the interface has no address. -/
def getIp (kernel : Kernel) (opened asked : Call) (keep : IR F D → IR F D) : Setup F D Int := do
  let inetSock ← openDescriptor kernel opened
  if inetSock < 0 || !kernel.succeeds asked then
    return -1
  modify fun machine => { machine with ir := keep machine.ir }
  close inetSock
  return 0

def tunAlloc (kernel : Kernel) : Setup F D Int := do
  let fd ← openDescriptor kernel .cloneDevice
  if fd < 0 then
    return fd
  if !kernel.succeeds .attach then
    close fd
    return -1
  modify fun machine => { machine with device := some fd.toNat }
  return fd

def soReuseaddr : Nat := 2

def soBroadcast : Nat := 6

/-- What `setsockopt` does for an option that is switched on. -/
def switchOn (kernel : Kernel) (call : Call) (descriptor : Int) (option : Nat)
    (machine : Machine F D) : Machine F D :=
  { machine with broadcasts :=
      if kernel.succeeds call = true ∧ 0 ≤ descriptor ∧ option = soBroadcast then
        Function.update machine.broadcasts descriptor.toNat true
      else machine.broadcasts }

/-- `setsockopt`, whose result is not looked at. -/
def setsockopt (kernel : Kernel) (call : Call) (fd : Machine F D → Int) (option : Nat) :
    Setup F D Unit :=
  modify fun machine => switchOn kernel call (fd machine) option machine

/-- What `bind` does when it succeeds, for any address of the host. -/
def bindTo (fd : Machine F D → Int) (port : UInt16) (machine : Machine F D) : Machine F D :=
  { machine with port := Function.update machine.port (fd machine).toNat (some port) }

/-- `get_ip` for one of the two interfaces. -/
def address (kernel : Kernel) (opened asked : Call) (keep : IR F D → IR F D) (msg : String) :
    Setup F D Unit := do
  let ret ← getIp kernel opened asked keep
  dieIf (ret < 0) msg

def createTun (kernel : Kernel) : Setup F D Unit := do
  let tunFd ← tunAlloc kernel
  modify fun machine => { machine with tunFd := tunFd }
  dieIf (tunFd < 0) "Allocating interface"

def createBeaconSocket (kernel : Kernel) : Setup F D Unit := do
  let beaconFd ← openDescriptor kernel .beaconSocket
  modify fun machine => { machine with beaconFd := beaconFd }
  dieIf (beaconFd < 0) "creating UDP socket for beacon"

def createDataSocket (kernel : Kernel) : Setup F D Unit := do
  let dataFd ← openDescriptor kernel .dataSocket
  modify fun machine => { machine with dataFd := dataFd }
  setsockopt kernel .dataOption Machine.dataFd (soReuseaddr ||| soBroadcast)
  dieIf (dataFd < 0) "creating UDP socket for data"

def bindSocket (kernel : Kernel) (call : Call) (fd : Machine F D → Int) (port : UInt16)
    (msg : String) : Setup F D Unit := do
  dieIf (!kernel.succeeds call) msg
  modify (bindTo fd port)

/-- `init_timer`, which goes on without a timer when there is none. -/
def initTimer (kernel : Kernel) : Setup F D Unit :=
  modify fun machine => { machine with armed := kernel.succeeds .timer }

def setBroadcastAddr (addr : SockAddr) (machine : Machine F D) : Machine F D :=
  { machine with ir := { machine.ir with broadcastAddr := addr } }

/-- `init`, before it asks for the broadcast address. -/
def initBefore (kernel : Kernel) : Setup F D Unit := do
  address kernel .physicalSocket .physicalAddress
    (fun ir => { ir with phyIp := kernel.physicalAddress }) "get physical ip error"
  address kernel .virtualSocket .virtualAddress
    (fun ir => { ir with virIp := kernel.virtualAddress }) "get virtual ip error"
  createTun kernel
  dieIf (!kernel.succeeds .noChecksum) "ioctl TUNSETNOCSUM error"
  createBeaconSocket kernel
  modify (setBroadcastAddr ⟨0, 0⟩)

/-- `init`, when it has the broadcast address. -/
def initAfter (kernel : Kernel) : Setup F D Unit := do
  modify (setBroadcastAddr ⟨beaconPort, kernel.broadcastAddress⟩)
  setsockopt kernel .beaconOption Machine.beaconFd soBroadcast
  bindSocket kernel .beaconBind Machine.beaconFd beaconPort "beacon bind()"
  createDataSocket kernel
  bindSocket kernel .dataBind Machine.dataFd dataPort "data bind()"
  initTimer kernel

/-- `init`. Its result is not looked at. -/
def init (kernel : Kernel) (argc : Nat) : Setup F D Int := do
  dieIf (argc ≠ 2) "usage: tunudp dev"
  initBefore kernel
  if !kernel.succeeds .broadcastAddress then
    return -1
  initAfter kernel
  return 0

theorem openDescriptor_run {kernel : Kernel} {call : Call} (made : kernel.succeeds call = true)
    (machine : Machine F D) :
    (openDescriptor kernel call).run machine =
      ⟨.ok (lowest machine.descriptors : Int), { machine with
        descriptors := lowest machine.descriptors :: machine.descriptors }, []⟩ := by
  rw [openDescriptor, if_pos made]
  rfl

theorem openDescriptor_fails {kernel : Kernel} {call : Call}
    (failed : kernel.succeeds call = false) (machine : Machine F D) :
    (openDescriptor kernel call).run machine = ⟨.ok (-1), machine, []⟩ := by
  rw [openDescriptor, if_neg (by rw [failed]; exact Bool.false_ne_true)]
  rfl

theorem getIp_run {kernel : Kernel} {opened asked : Call} (keep : IR F D → IR F D)
    (made : kernel.succeeds opened = true) (known : kernel.succeeds asked = true)
    (machine : Machine F D) :
    (getIp kernel opened asked keep).run machine =
      ⟨.ok 0, { machine with ir := keep machine.ir }, []⟩ := by
  have valid : ¬((lowest machine.descriptors : Int) < 0) := by omega
  have closed : (lowest machine.descriptors :: machine.descriptors).erase
      (lowest machine.descriptors : Int).toNat = machine.descriptors := by
    rw [Int.toNat_natCast, List.erase_cons_head]
  rw [getIp, run_bind, openDescriptor_run made, Outcome.bind_ok, Outcome.after_nil, known,
    decide_eq_false valid, Bool.not_true, Bool.or_false, if_neg Bool.false_ne_true]
  simp only [run_bind, run_modify, run_pure, Outcome.bind_ok, Outcome.after_nil, close, closed]

theorem getIp_fails {kernel : Kernel} {opened asked : Call} (keep : IR F D → IR F D)
    (failed : ¬(kernel.succeeds opened = true ∧ kernel.succeeds asked = true))
    (machine : Machine F D) :
    ∃ after, (getIp kernel opened asked keep).run machine = ⟨.ok (-1), after, []⟩ := by
  rw [getIp, run_bind]
  cases made : kernel.succeeds opened with
  | false =>
      rw [openDescriptor_fails made]
      exact ⟨machine, rfl⟩
  | true =>
      have unknown : kernel.succeeds asked = false :=
        Bool.eq_false_iff.mpr fun known => failed ⟨made, known⟩
      rw [openDescriptor_run made, Outcome.bind_ok, Outcome.after_nil, unknown, Bool.not_false,
        Bool.or_true, if_pos rfl]
      exact ⟨_, rfl⟩

theorem tunAlloc_run {kernel : Kernel} (made : kernel.succeeds .cloneDevice = true)
    (attached : kernel.succeeds .attach = true) (machine : Machine F D) :
    (tunAlloc kernel).run machine =
      ⟨.ok (lowest machine.descriptors : Int), { machine with
        descriptors := lowest machine.descriptors :: machine.descriptors
        device := some (lowest machine.descriptors) }, []⟩ := by
  have valid : ¬((lowest machine.descriptors : Int) < 0) := by omega
  rw [tunAlloc, run_bind, openDescriptor_run made, Outcome.bind_ok, Outcome.after_nil,
    if_neg valid, attached, Bool.not_true, if_neg Bool.false_ne_true]
  simp only [run_bind, run_modify, run_pure, Outcome.bind_ok, Outcome.after_nil,
    Int.toNat_natCast]

theorem tunAlloc_fails {kernel : Kernel}
    (failed : ¬(kernel.succeeds .cloneDevice = true ∧ kernel.succeeds .attach = true))
    (machine : Machine F D) :
    ∃ after, (tunAlloc kernel).run machine = ⟨.ok (-1), after, []⟩ := by
  rw [tunAlloc, run_bind]
  cases made : kernel.succeeds .cloneDevice with
  | false =>
      rw [openDescriptor_fails made]
      exact ⟨machine, rfl⟩
  | true =>
      have refused : kernel.succeeds .attach = false :=
        Bool.eq_false_iff.mpr fun attached => failed ⟨made, attached⟩
      have valid : ¬((lowest machine.descriptors : Int) < 0) := by omega
      rw [openDescriptor_run made, Outcome.bind_ok, Outcome.after_nil, if_neg valid, refused,
        Bool.not_false, if_pos rfl]
      exact ⟨_, rfl⟩

def opening (keep : Int → Machine F D → Machine F D) (machine : Machine F D) : Machine F D :=
  keep (lowest machine.descriptors)
    { machine with descriptors := lowest machine.descriptors :: machine.descriptors }

section

variable {kernel : Kernel}

theorem address_stage (opened asked : Call) (keep : IR F D → IR F D) (msg : String) :
    Stage kernel.succeeds (address kernel opened asked keep msg)
      [(opened, Stop.exit msg), (asked, .exit msg)]
      fun machine => { machine with ir := keep machine.ir } := by
  refine .together (firstFailed_pair _ opened asked _) ?_ ?_
  · intro both machine
    rw [address, run_bind, getIp_run keep both.1 both.2]
    rfl
  · intro failed machine
    obtain ⟨after, run⟩ := getIp_fails keep failed machine
    rw [address, run_bind, run]
    rfl

theorem createTun_stage :
    Stage kernel.succeeds (createTun kernel : Setup F D Unit)
      [(.cloneDevice, .exit "Allocating interface"), (.attach, .exit "Allocating interface")]
      (opening fun fd machine => { machine with device := some fd.toNat, tunFd := fd }) := by
  refine .together (firstFailed_pair _ Call.cloneDevice Call.attach _) ?_ ?_
  · intro both machine
    have valid : ¬((lowest machine.descriptors : Int) < 0) := by omega
    rw [createTun, run_bind, tunAlloc_run both.1 both.2, Outcome.bind_ok, Outcome.after_nil, dieIf,
      if_neg valid]
    rfl
  · intro failed machine
    obtain ⟨after, run⟩ := tunAlloc_fails failed machine
    rw [createTun, run_bind, run]
    rfl

theorem createBeaconSocket_stage :
    Stage kernel.succeeds (createBeaconSocket kernel : Setup F D Unit)
      [(.beaconSocket, .exit "creating UDP socket for beacon")]
      (opening fun fd machine => { machine with beaconFd := fd }) := by
  refine .together rfl ?_ ?_
  · intro made machine
    have valid : ¬((lowest machine.descriptors : Int) < 0) := by omega
    rw [createBeaconSocket, run_bind, openDescriptor_run made, Outcome.bind_ok,
      Outcome.after_nil, dieIf, if_neg valid]
    rfl
  · intro failed machine
    rw [createBeaconSocket, run_bind, openDescriptor_fails (Bool.eq_false_iff.mpr failed)]
    rfl

theorem reuse_or_broadcast : soReuseaddr ||| soBroadcast = soBroadcast := by decide

theorem createDataSocket_stage :
    Stage kernel.succeeds (createDataSocket kernel : Setup F D Unit)
      [(.dataSocket, .exit "creating UDP socket for data")]
      (opening fun fd machine =>
        switchOn kernel .dataOption fd soBroadcast { machine with dataFd := fd }) := by
  refine .together rfl ?_ ?_
  · intro made machine
    have valid : ¬((lowest machine.descriptors : Int) < 0) := by omega
    rw [createDataSocket, run_bind, openDescriptor_run made, Outcome.bind_ok,
      Outcome.after_nil, dieIf, if_neg valid, reuse_or_broadcast]
    rfl
  · intro failed machine
    rw [createDataSocket, run_bind, openDescriptor_fails (Bool.eq_false_iff.mpr failed)]
    rfl

theorem bindSocket_stage (call : Call) (fd : Machine F D → Int) (port : UInt16) (msg : String) :
    Stage kernel.succeeds (bindSocket kernel call fd port msg) [(call, .exit msg)]
      (bindTo fd port) := by
  have tested : Stage kernel.succeeds
      (dieIf (!kernel.succeeds call) msg : Setup F D Unit)
      [(call, Stop.exit msg)] id := Stage.test call _
  exact tested.seq (Stage.update (bindTo fd port))

/-- The calls that `init` checks before it asks for the broadcast address, and what it says when
one of them fails. -/
def checksBefore : List (Call × Stop) :=
  [(.physicalSocket, .exit "get physical ip error"),
    (.physicalAddress, .exit "get physical ip error"),
    (.virtualSocket, .exit "get virtual ip error"),
    (.virtualAddress, .exit "get virtual ip error"),
    (.cloneDevice, .exit "Allocating interface"),
    (.attach, .exit "Allocating interface"),
    (.noChecksum, .exit "ioctl TUNSETNOCSUM error"),
    (.beaconSocket, .exit "creating UDP socket for beacon")]

def checksAfter : List (Call × Stop) :=
  [(.beaconBind, .exit "beacon bind()"),
    (.dataSocket, .exit "creating UDP socket for data"),
    (.dataBind, .exit "data bind()")]

/-- What a machine becomes up to the beacon socket. -/
def readyBefore (kernel : Kernel) (machine : Machine F D) : Machine F D :=
  setBroadcastAddr ⟨0, 0⟩ <|
    opening (fun fd machine => { machine with beaconFd := fd }) <|
    opening (fun fd machine => { machine with device := some fd.toNat, tunFd := fd })
    { machine with
      ir := { machine.ir with phyIp := kernel.physicalAddress, virIp := kernel.virtualAddress } }

theorem initBefore_stage :
    Stage kernel.succeeds (initBefore kernel : Setup F D Unit) checksBefore
      (readyBefore kernel) := by
  have physical := @address_stage F D kernel .physicalSocket .physicalAddress
    (fun ir => { ir with phyIp := kernel.physicalAddress }) "get physical ip error"
  have virtual := @address_stage F D kernel .virtualSocket .virtualAddress
    (fun ir => { ir with virIp := kernel.virtualAddress }) "get virtual ip error"
  have checksum : Stage kernel.succeeds
      (dieIf (!kernel.succeeds .noChecksum) "ioctl TUNSETNOCSUM error" : Setup F D Unit)
      [(.noChecksum, .exit "ioctl TUNSETNOCSUM error")] id :=
    Stage.test _ _
  exact physical.seq (virtual.seq (createTun_stage.seq (checksum.seq
    (createBeaconSocket_stage.seq (Stage.update (setBroadcastAddr ⟨0, 0⟩))))))

def readyAfter (kernel : Kernel) (machine : Machine F D) : Machine F D :=
  { bindTo Machine.dataFd dataPort <|
    opening (fun fd machine =>
      switchOn kernel .dataOption fd soBroadcast { machine with dataFd := fd }) <|
    bindTo Machine.beaconFd beaconPort <|
    switchOn kernel .beaconOption machine.beaconFd soBroadcast <|
    setBroadcastAddr ⟨beaconPort, kernel.broadcastAddress⟩ machine with
    armed := kernel.succeeds .timer }

theorem initAfter_stage :
    Stage kernel.succeeds (initAfter kernel : Setup F D Unit) checksAfter (readyAfter kernel) := by
  have option : Stage kernel.succeeds
      (setsockopt kernel .beaconOption Machine.beaconFd soBroadcast : Setup F D Unit)
      ([] : List (Call × Stop)) fun machine =>
        switchOn kernel .beaconOption machine.beaconFd soBroadcast machine :=
    Stage.update _
  have addressed : Stage kernel.succeeds
      (modify (setBroadcastAddr ⟨beaconPort, kernel.broadcastAddress⟩) : Setup F D Unit)
      ([] : List (Call × Stop)) (setBroadcastAddr ⟨beaconPort, kernel.broadcastAddress⟩) :=
    Stage.update _
  have timer : Stage kernel.succeeds (initTimer kernel : Setup F D Unit)
      ([] : List (Call × Stop)) fun machine =>
        { machine with armed := kernel.succeeds .timer } :=
    Stage.update _
  have beaconBound := @bindSocket_stage F D kernel .beaconBind Machine.beaconFd beaconPort
    "beacon bind()"
  have dataBound := @bindSocket_stage F D kernel .dataBind Machine.dataFd dataPort "data bind()"
  exact addressed.seq (option.seq (beaconBound.seq (createDataSocket_stage.seq
    (dataBound.seq timer))))

/-- What `init` makes of the answers of the kernel. Only the broadcast address may be missing
without the end of the process. -/
def verdict (kernel : Kernel) : Except Stop Int :=
  (firstFailed kernel.succeeds checksBefore).bind fun _ =>
    if kernel.succeeds .broadcastAddress then
      (firstFailed kernel.succeeds checksAfter).map fun _ => 0
    else .ok (-1)

theorem initAfter_run (machine : Machine F D) :
    ((initAfter kernel >>= fun _ => pure 0 : Setup F D Int).run machine).result =
        (firstFailed kernel.succeeds checksAfter).map (fun _ => 0) ∧
      (firstFailed kernel.succeeds checksAfter = .ok () →
        ((initAfter kernel >>= fun _ => pure 0 : Setup F D Int).run machine).state =
          readyAfter kernel machine) := by
  obtain ⟨shown, reached⟩ : Stage kernel.succeeds (initAfter kernel) checksAfter
    (readyAfter kernel : Machine F D → Machine F D) := initAfter_stage
  replace shown := shown machine
  replace reached := fun ok => reached ok machine
  rw [run_bind]
  generalize (initAfter kernel).run machine = outcome at shown reached ⊢
  obtain ⟨result, after, events⟩ := outcome
  obtain rfl : result = firstFailed kernel.succeeds checksAfter := shown
  cases checked : firstFailed kernel.succeeds checksAfter with
  | error reason => exact ⟨rfl, fun ok => nomatch ok⟩
  | ok => exact ⟨rfl, fun _ => reached checked⟩

theorem init_run (machine : Machine F D) :
    ((init kernel 2).run machine).result = verdict kernel ∧
      ∀ result, verdict kernel = .ok result → ((init kernel 2).run machine).state =
        if kernel.succeeds .broadcastAddress then readyAfter kernel (readyBefore kernel machine)
        else readyBefore kernel machine := by
  obtain ⟨shown, reached⟩ : Stage kernel.succeeds (initBefore kernel) checksBefore
    (readyBefore kernel : Machine F D → Machine F D) := initBefore_stage
  replace shown := shown machine
  replace reached := fun ok => reached ok machine
  have start : (init kernel 2).run machine = ((initBefore kernel).run machine).bind fun _ =>
      (if !kernel.succeeds .broadcastAddress then pure (-1)
        else initAfter kernel >>= fun _ => pure 0 : Setup F D Int).run := by
    rw [init, run_bind, dieIf, if_neg (not_not_intro rfl), run_pure, Outcome.bind_ok,
      Outcome.after_nil, run_bind]
  rw [start, verdict]
  generalize (initBefore kernel).run machine = outcome at shown reached ⊢
  obtain ⟨result, middle, events⟩ := outcome
  obtain rfl : result = firstFailed kernel.succeeds checksBefore := shown
  cases checked : firstFailed kernel.succeeds checksBefore with
  | error reason => exact ⟨rfl, fun _ ok => nomatch ok⟩
  | ok =>
      obtain rfl : middle = readyBefore kernel machine := reached checked
      cases known : kernel.succeeds .broadcastAddress with
      | false => exact ⟨rfl, fun _ _ => rfl⟩
      | true =>
          obtain ⟨last, done⟩ := @initAfter_run F D kernel (readyBefore kernel machine)
          refine ⟨last, fun result ok => done ?_⟩
          cases checked' : firstFailed kernel.succeeds checksAfter with
          | error reason =>
              rw [Except.bind, if_pos rfl, checked'] at ok
              cases ok
          | ok => rfl

structure Constructed (ir : IR F D) : Prop where
  queue : ir.qGps = []
  forward : ir.forwardTable = ∅
  neighbor : ir.neighborTable = ∅

/-- A machine that can run the main loop: two sockets and the device, all new and different, and
nothing else left open. -/
structure Ready (kernel : Kernel) (before after : Machine F D) : Prop where
  node : after.ir = { before.ir with
    virIp := kernel.virtualAddress
    phyIp := kernel.physicalAddress
    broadcastAddr := ⟨beaconPort, kernel.broadcastAddress⟩ }
  armed : after.armed = kernel.succeeds .timer
  opened : ∃ tun beacon data : Nat, after.tunFd = tun ∧ after.beaconFd = beacon ∧
    after.dataFd = data ∧ after.descriptors = data :: beacon :: tun :: before.descriptors ∧
    (before.descriptors.Nodup → after.descriptors.Nodup) ∧ after.device = some tun ∧
    after.port beacon = some beaconPort ∧ after.port data = some dataPort ∧
    (kernel.succeeds .beaconOption = true → after.broadcasts beacon = true) ∧
    (kernel.succeeds .dataOption = true → after.broadcasts data = true)

/-- The loop runs all the same without a broadcast address: there is no data socket, no port and
no timer, and no address to send beacons to. -/
structure HalfReady (kernel : Kernel) (before after : Machine F D) : Prop where
  node : after.ir = { before.ir with
    virIp := kernel.virtualAddress
    phyIp := kernel.physicalAddress
    broadcastAddr := ⟨0, 0⟩ }
  armed : after.armed = before.armed
  data : after.dataFd = before.dataFd
  port : after.port = before.port

/-- The constructor of `IR` leaves the tables empty, and so does `init`. -/
theorem Ready.initial {before after : Machine F D} (ready : Ready kernel before after)
    (constructed : Constructed before.ir) : after.ir.Initial := by
  rw [ready.node]
  exact ⟨rfl, constructed.queue, constructed.forward, constructed.neighbor⟩

theorem switchOn_self {call : Call} (made : kernel.succeeds call = true) (descriptor : Nat)
    (machine : Machine F D) :
    (switchOn kernel call descriptor soBroadcast machine).broadcasts descriptor = true :=
  (congrFun (if_pos ⟨made, Int.natCast_nonneg _, rfl⟩) _).trans (Function.update_self _ _ _)

theorem switchOn_other {call : Call} {descriptor other option : Nat} (apart : other ≠ descriptor)
    (machine : Machine F D) :
    (switchOn kernel call descriptor option machine).broadcasts other =
      machine.broadcasts other := by
  unfold switchOn
  dsimp only
  split
  · exact Function.update_of_ne apart _ _
  · rfl

theorem ready_after (machine : Machine F D) :
    Ready kernel machine (readyAfter kernel (readyBefore kernel machine)) := by
  obtain ⟨tun, firstNew⟩ : ∃ tun, lowest machine.descriptors = tun := ⟨_, rfl⟩
  obtain ⟨beacon, secondNew⟩ : ∃ beacon, lowest (tun :: machine.descriptors) = beacon := ⟨_, rfl⟩
  obtain ⟨data, thirdNew⟩ : ∃ data, lowest (beacon :: tun :: machine.descriptors) = data :=
    ⟨_, rfl⟩
  have tunNew := lowest_new machine.descriptors
  have beaconNew := lowest_new (tun :: machine.descriptors)
  have dataNew := lowest_new (beacon :: tun :: machine.descriptors)
  rw [firstNew] at tunNew
  rw [secondNew] at beaconNew
  rw [thirdNew] at dataNew
  have apart : beacon ≠ data := fun same => dataNew (same ▸ List.mem_cons_self)
  subst firstNew secondNew thirdNew
  refine ⟨rfl, rfl, _, _, _, rfl, rfl, rfl, rfl, ?_, rfl, ?_, Function.update_self _ _ _, ?_, ?_⟩
  · intro distinct
    exact List.nodup_cons.mpr ⟨dataNew, List.nodup_cons.mpr ⟨beaconNew, List.nodup_cons.mpr
      ⟨tunNew, distinct⟩⟩⟩
  · exact (Function.update_of_ne apart _ _).trans (Function.update_self _ _ _)
  · intro made
    exact (switchOn_other apart _).trans (switchOn_self made _ _)
  · intro made
    exact switchOn_self made _ _

/-- The calls whose results decide nothing. -/
def unchecked : List Call := [.beaconOption, .dataOption, .timer]

theorem unchecked_iff :
    (∀ call ∉ unchecked, kernel.succeeds call = true) ↔
      firstFailed kernel.succeeds checksBefore = .ok () ∧
        kernel.succeeds .broadcastAddress = true ∧
        firstFailed kernel.succeeds checksAfter = .ok () := by
  have before : ∀ check ∈ checksBefore, check.1 ∉ unchecked := by decide
  have after : ∀ check ∈ checksAfter, check.1 ∉ unchecked := by decide
  have listed (call : Call) (other : call ∉ unchecked) : call ∈ checksBefore.map Prod.fst ∨
      call = .broadcastAddress ∨ call ∈ checksAfter.map Prod.fst := by
    revert other
    cases call <;> decide
  rw [firstFailed_ok_iff, firstFailed_ok_iff]
  constructor
  · intro every
    exact ⟨fun check member => every _ (before check member), every _ (by decide),
      fun check member => every _ (after check member)⟩
  · rintro ⟨first, found, last⟩ call other
    rcases listed call other with early | rfl | late
    · obtain ⟨check, member, rfl⟩ := List.mem_map.mp early
      exact first check member
    · exact found
    · obtain ⟨check, member, rfl⟩ := List.mem_map.mp late
      exact last check member

/-- `init` ends well if and only if every call succeeds whose result it looks at. -/
theorem verdict_zero_iff :
    verdict kernel = .ok 0 ↔ ∀ call ∉ unchecked, kernel.succeeds call = true := by
  rw [unchecked_iff, verdict]
  cases firstFailed kernel.succeeds checksBefore with
  | error reason => exact iff_of_false (fun ok => nomatch ok) fun all => nomatch all.1
  | ok =>
      rw [Except.bind]
      split
      · rename_i found
        cases firstFailed kernel.succeeds checksAfter with
        | error reason => exact iff_of_false (fun ok => nomatch ok) fun all => nomatch all.2.2
        | ok => exact iff_of_true rfl ⟨rfl, found, rfl⟩
      · rename_i missing
        exact iff_of_false (fun ok => nomatch ok) fun all => missing all.2.1

theorem verdict_ok {result : Int} (ok : verdict kernel = .ok result) :
    result = if kernel.succeeds .broadcastAddress then 0 else -1 := by
  rw [verdict] at ok
  cases before : firstFailed kernel.succeeds checksBefore with
  | error reason =>
      rw [before] at ok
      cases ok
  | ok =>
      rw [before] at ok
      change (if kernel.succeeds .broadcastAddress = true then _ else _) = _ at ok
      split at ok
      · rename_i found
        cases after : firstFailed kernel.succeeds checksAfter with
        | error reason =>
            rw [after] at ok
            cases ok
        | ok =>
            rw [after] at ok
            rw [if_pos found]
            exact (Except.ok.inj ok).symm
      · rename_i missing
        rw [if_neg missing]
        exact (Except.ok.inj ok).symm

/-- How the process starts, whatever the kernel answers: the first of the checked calls that
fails decides, and otherwise the machine is ready, or half ready. -/
structure Starts (kernel : Kernel) (before : Machine F D) : Prop where
  usage : ∀ argc ≠ 2, (init kernel argc).run before =
    ⟨.error (.exit "usage: tunudp dev"), before, []⟩
  result : ((init kernel 2).run before).result = verdict kernel
  complete : verdict kernel = .ok 0 ↔ ∀ call ∉ unchecked, kernel.succeeds call = true
  ready : verdict kernel = .ok 0 → Ready kernel before ((init kernel 2).run before).state
  initial : Constructed before.ir → verdict kernel = .ok 0 →
    ((init kernel 2).run before).state.ir.Initial
  half : verdict kernel = .ok (-1) → HalfReady kernel before ((init kernel 2).run before).state

theorem init_starts (kernel : Kernel) (before : Machine F D) : Starts kernel before := by
  obtain ⟨result, state⟩ := @init_run F D kernel before
  have ready (ok : verdict kernel = .ok 0) :
      Ready kernel before ((init kernel 2).run before).state := by
    have known := verdict_ok ok
    rw [state 0 ok]
    split at known
    · rename_i found
      rw [if_pos found]
      exact ready_after before
    · cases known
  constructor
  · intro argc other
    rw [init, run_bind, dieIf, if_pos other]
    rfl
  · exact result
  · exact verdict_zero_iff
  · exact ready
  · intro constructed ok
    exact (ready ok).initial constructed
  · intro ok
    have unknown := verdict_ok ok
    rw [state (-1) ok]
    split at unknown
    · cases unknown
    · rename_i missing
      rw [if_neg missing]
      exact ⟨rfl, rfl, rfl, rfl⟩

end

end

end TunVideo.Startup
