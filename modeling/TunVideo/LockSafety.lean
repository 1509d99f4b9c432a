import TunVideo.MutexProgram
import TunVideo.Schedule

set_option autoImplicit false

namespace TunVideo

open Program LockedProgram

variable {F D : Type}

abbrev LockedProcedure (F D α : Type) := LockedProgram (IR F D) (Event F) Stop α

/-- The two assignments of `get_gps`. -/
def assignGps : Procedure F D Unit := do
  modify fun ir => { ir with speed := ir.gSpeed }
  modify fun ir => { ir with gps := ir.gGps }

def lockedGetGps : LockedProcedure F D Unit :=
  critical (ofProgram assignGps)

/-- What `gps_thread` does with a fix. -/
def storeFix (gps : GPS F) (speed : D) : LockedProcedure F D Unit :=
  critical (ofProgram do
    modify fun ir => { ir with gSpeed := speed }
    modify fun ir => { ir with gGps := gps })

theorem lockedGetGps_run (ir : IR F D) : lockedGetGps.run ir = getGps.run ir := rfl

section

variable [SinglePrecision F D]

open SinglePrecision

def lockedRecvTun (host : Host F D) (received : Received) (sendFails : Bool) :
    LockedProcedure F D Unit := do
  ofProgram (modify fun ir =>
    { ir with tunBuffer := received.store frameSize ir.tunBuffer })
  lockedGetGps
  ofProgram (recvTunAfterGps host received sendFails)

def lockedBuildBeacon (host : Host F D) (stack : BeaconMessage) :
    LockedProcedure F D BeaconMessage := do
  let virIp ← ofProgram (read IR.virIp)
  let phyIp ← ofProgram (read IR.phyIp)
  lockedGetGps
  ofProgram (buildBeaconAfterGps host { stack with virIp := virIp, phyIp := phyIp })

def lockedSendBeacon (host : Host F D) (stack : BeaconMessage) : LockedProcedure F D Unit := do
  let beacon ← lockedBuildBeacon host stack
  ofProgram (perform fun ir => (ir, [.beaconSent ir.broadcastAddr (beacon.bytes host.order)]))

/-- With the mutex free at its lock, `recv_tun` does what it does without one. -/
theorem lockedRecvTun_run (host : Host F D) (received : Received) (sendFails : Bool)
    (ir : IR F D) :
    (lockedRecvTun host received sendFails).run ir = (recvTun host received sendFails).run ir := by
  unfold lockedRecvTun
  simp only [LockedProgram.run_bind, run_ofProgram]
  rfl

theorem lockedSendBeacon_run (host : Host F D) (stack : BeaconMessage) (ir : IR F D) :
    (lockedSendBeacon host stack).run ir = (sendBeacon host stack).run ir := by
  unfold lockedSendBeacon lockedBuildBeacon
  simp only [LockedProgram.run_bind, run_ofProgram]
  rfl

theorem storeFix_run (host : Host F D) (gps : GPS F) (speed : D) (ir : IR F D) :
    (storeFix gps speed).run ir = ((Activity.gpsFix gps speed).procedure host).run ir := rfl

/-- The handler of `SIGALRM`, on whichever thread it is started. -/
inductive HandlesAlarm (host : Host F D) : LockedProcedure F D Unit → Prop
  | sendBeacon (stack : BeaconMessage) : HandlesAlarm host (lockedSendBeacon host stack)

theorem handlesAlarm_balanced (host : Host F D) (program : LockedProcedure F D Unit)
    (chosen : HandlesAlarm host program) : program.Balanced false := by
  cases chosen with
  | sendBeacon stack =>
      have beacon : (lockedBuildBeacon host stack).Balanced false :=
        (balanced_ofProgram _).bind fun _ => (balanced_ofProgram _).bind fun _ =>
          (balanced_critical _).bind fun _ => balanced_ofProgram _
      exact beacon.bind fun _ => balanced_ofProgram _

end

/-- The main loop and `gps_thread`. -/
inductive NodeThread where
  | main
  | gps
  deriving DecidableEq

section

variable [DoublePrecision D] [SinglePrecision F D] (host : Host F D)

/-- An operation of the main loop. Only `recv_tun` takes the mutex. -/
def lockedOperation : Operation D → LockedProcedure F D Unit
  | .recvTun received sendFails => lockedRecvTun host received sendFails
  | .recvBeacon now fromAddr received => ofProgram (recvBeacon host now fromAddr received)
  | .recvData readings received writeFails =>
      ofProgram (recvData host readings received writeFails)

theorem lockedOperation_run (operation : Operation D) (ir : IR F D) :
    (lockedOperation host operation).run ir = (operation.procedure host).run ir := by
  cases operation with
  | recvTun received sendFails => exact lockedRecvTun_run host received sendFails ir
  | recvBeacon now fromAddr received => exact congrFun (run_ofProgram _) ir
  | recvData readings received writeFails => exact congrFun (run_ofProgram _) ir

/-- What the two threads do over and over. -/
inductive StartsWork : NodeThread → LockedProcedure F D Unit → Prop
  | operation (operation : Operation D) : StartsWork .main (lockedOperation host operation)
  | fix (gps : GPS F) (speed : D) : StartsWork .gps (storeFix gps speed)

abbrev NodeStep : Threads NodeThread (IR F D) (Event F) Stop → Threads.Move NodeThread →
    Threads NodeThread (IR F D) (Event F) Stop → Prop :=
  Threads.Step (StartsWork host) (HandlesAlarm host)

theorem startsWork_balanced (thread : NodeThread) (program : LockedProcedure F D Unit)
    (chosen : StartsWork host thread program) : program.Balanced false := by
  cases chosen with
  | fix gps speed => exact balanced_critical _
  | operation operation =>
      cases operation with
      | recvTun received sendFails =>
          exact (balanced_ofProgram _).bind fun _ => (balanced_critical _).bind fun _ =>
            balanced_ofProgram _
      | recvBeacon now fromAddr received => exact balanced_ofProgram _
      | recvData readings received writeFails => exact balanced_ofProgram _

variable {host} {all last : Threads NodeThread (IR F D) (Event F) Stop}

/-- In every run in which `SIGALRM` never interrupts the thread that has the mutex, the
handler never waits for the thread it has interrupted. -/
theorem run_lockSafe {ir : IR F D}
    {history : List (Threads NodeThread (IR F D) (Event F) Stop × Threads.Move NodeThread)}
    (run : History (NodeStep host) (.idle ir) history last)
    (spares : ∀ visited ∈ history, Threads.SparesOwner visited.1 visited.2) :
    ¬last.SelfDeadlock :=
  Threads.run_not_selfDeadlock (startsWork_balanced host) (handlesAlarm_balanced host) run spares

/-- A signal that does interrupt it is the beginning of a deadlock: two statements later the
handler is at its lock. -/
theorem signal_selfDeadlocks (host : Host F D) {thread : NodeThread}
    {code : LockedProcedure F D Unit} (running : all.threads thread = ⟨code, none⟩)
    (mine : all.owner = some thread) (stack : BeaconMessage) :
    ∃ history last, History (NodeStep host) all history last ∧ last.SelfDeadlock := by
  let silent (ir : IR F D) : IR F D × List (Event F) := (ir, [])
  have first : ∃ next : IR F D → IR F D → LockedProcedure F D Unit,
      lockedSendBeacon host stack =
        .step silent fun one => .step silent fun two => .lock (next one two) := ⟨_, rfl⟩
  obtain ⟨next, same⟩ := first
  have alarm : HandlesAlarm host (.step silent fun one => .step silent fun two =>
      .lock (next one two)) := same ▸ .sendBeacon stack
  -- the handler reads the two addresses, and the owner of the mutex stays what it is
  have signalled : NodeStep host all (.signal thread) _ := .signal all thread code _ running alarm
  have once := ((History.start all).next _ signalled).next (.handler thread)
    (.handler _ thread code _ _ _ _ (Function.update_self ..)
      (.statement all.state all.owner silent _))
  have twice := once.next (.handler thread) (.handler _ thread code _ _ _ _
    (Function.update_self ..) (.statement all.state all.owner silent _))
  exact ⟨_, _, twice, thread, code, next all.state all.state, Function.update_self .., mine⟩

end

/-- A packet comes from the tun device, and `recv_tun` stores it and takes the mutex. -/
theorem recvTun_takesMutex :
    ∃ history last code, History (NodeStep Host.shortHistories) (.idle loneNode) history last ∧
      (∀ visited ∈ history, Threads.SparesOwner visited.1 visited.2) ∧
      last.threads .main = ⟨code, none⟩ ∧ last.owner = some .main := by
  let store (ir : IR Float32 Float) : IR Float32 Float × List (Event Float32) :=
    ({ ir with tunBuffer := (Received.packet headerPacket).store frameSize ir.tunBuffer }, [])
  have first : ∃ next : IR Float32 Float → LockedProcedure Float32 Float Unit,
      lockedOperation Host.shortHistories (.recvTun (.packet headerPacket) false) =
        .step store fun one => .lock (next one) := ⟨_, rfl⟩
  obtain ⟨next, same⟩ := first
  have operation : StartsWork Host.shortHistories .main (.step store fun one => .lock (next one)) :=
    same ▸ .operation _
  have started : NodeStep Host.shortHistories (.idle loneNode) (.start .main) _ :=
    .start _ NodeThread.main _ rfl operation
  have stored := ((History.start _).next _ started).next (.code .main)
    (.code _ NodeThread.main _ _ _ _ rfl
      (.statement loneNode none store fun one => .lock (next one)))
  have locked := stored.next (.code .main) (.code _ NodeThread.main _ _ _ _ rfl
    (.lock _ _))
  refine ⟨_, _, _, locked, ?_, rfl, rfl⟩
  intro visited member thread signalled
  simp only [List.nil_append, List.cons_append, List.mem_cons, List.not_mem_nil, or_false] at member
  rcases member with rfl | rfl | rfl <;> cases signalled

/-- The signal arrives while `recv_tun` has the mutex. -/
theorem alarm_selfDeadlocks :
    ¬∀ history last, History (NodeStep Host.shortHistories) (.idle loneNode) history last →
      ¬last.SelfDeadlock := by
  intro safe
  obtain ⟨earlier, middle, code, reached, -, running, mine⟩ := recvTun_takesMutex
  obtain ⟨later, last, stuck, deadlock⟩ :=
    signal_selfDeadlocks Host.shortHistories running mine ⟨0, 0, 0, 0, 0, 0⟩
  exact safe _ last (reached.append stuck) deadlock

theorem recvTun_lockSafe :
    ∃ last : Threads NodeThread (IR Float32 Float) (Event Float32) Stop,
      last.owner = some .main ∧ ¬last.SelfDeadlock := by
  obtain ⟨history, last, code, reached, spares, running, mine⟩ := recvTun_takesMutex
  exact ⟨last, mine, run_lockSafe reached spares⟩

end TunVideo
