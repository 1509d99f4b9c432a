import TunVideo.ProgramInterleave
import TunVideo.Schedule

set_option autoImplicit false

namespace TunVideo

open Program

variable {F D : Type}

/-- Beacons go to the beacon port and data broadcasts to the data port. -/
def PortsSeparated (events : List (Event F)) : Prop :=
  (∀ dst payload, .beaconSent dst payload ∈ events → dst.sinPort = beaconPort) ∧
    ∀ dst payload, .dataBroadcast dst payload ∈ events → dst.sinPort = dataPort

def NoBeaconAfterPortSet (events : List (Event F)) : Prop :=
  ∀ front dst payload back, events = front ++ .beaconSent dst payload :: back →
    ∀ port, .portSet port ∉ front

/-- The port of the shared address behind an event. -/
def portStep (port : UInt16) : Event F → UInt16
  | .portSet assigned => assigned
  | _ => port

def portAfter (port : UInt16) (events : List (Event F)) : UInt16 :=
  events.foldl portStep port

def BeaconsFollow : UInt16 → List (Event F) → Prop
  | _, [] => True
  | port, event :: rest =>
      (∀ dst payload, event = .beaconSent dst payload → dst.sinPort = port) ∧
        BeaconsFollow (portStep port event) rest

theorem portAfter_append (port : UInt16) (front back : List (Event F)) :
    portAfter port (front ++ back) = portAfter (portAfter port front) back :=
  List.foldl_append

theorem beaconsFollow_append (port : UInt16) (front back : List (Event F)) :
    BeaconsFollow port (front ++ back) ↔
      BeaconsFollow port front ∧ BeaconsFollow (portAfter port front) back := by
  induction front generalizing port with
  | nil => simp only [List.nil_append, BeaconsFollow, portAfter, List.foldl_nil, true_and]
  | cons event rest ih =>
      simp only [List.cons_append, BeaconsFollow, ih, and_assoc]
      rfl

/-- What the main loop may emit: it only assigns the data port and sends no beacon. -/
def Event.OfMainLoop : Event F → Prop
  | portSet port => port = dataPort
  | beaconSent _ _ => False
  | dataBroadcast dst _ => dst.sinPort = dataPort
  | _ => True

theorem portAfter_of_unset {port : UInt16} {events : List (Event F)}
    (unset : ∀ assigned, .portSet assigned ∉ events) : portAfter port events = port := by
  induction events with
  | nil => rfl
  | cons event rest ih =>
      have kept : portStep port event = port := by
        cases event with
        | portSet assigned => exact absurd List.mem_cons_self (unset assigned)
        | _ => rfl
      rw [portAfter, List.foldl_cons, kept]
      exact ih fun assigned member => unset assigned (List.mem_cons_of_mem _ member)

theorem portAfter_of_set {port : UInt16} {events : List (Event F)}
    (data : ∀ assigned, .portSet assigned ∈ events → assigned = dataPort)
    (start : port = dataPort ∨ ∃ assigned, .portSet assigned ∈ events) :
    portAfter port events = dataPort := by
  induction events generalizing port with
  | nil =>
      rcases start with same | ⟨_, member⟩
      · exact same
      · cases member
  | cons event rest ih =>
      rw [portAfter, List.foldl_cons]
      refine ih (fun assigned member => data assigned (List.mem_cons_of_mem _ member)) ?_
      cases event with
      | portSet assigned => exact Or.inl (data assigned List.mem_cons_self)
      | _ =>
          refine start.imp_right ?_
          rintro ⟨assigned, member⟩
          exact ⟨assigned, by simpa using member⟩

def SamePort (before after : IR F D) : Prop :=
  before.broadcastAddr.sinPort = after.broadcastAddr.sinPort

def MainLoopStatement (before : IR F D) (events : List (Event F)) (after : IR F D) : Prop :=
  after.broadcastAddr.sinPort = portAfter before.broadcastAddr.sinPort events ∧
    ∀ event ∈ events, event.OfMainLoop

/-- A part of the main loop that is started with a port in `p` and left with one in `q`. -/
def Leads {α : Type} (p q : UInt16 → Prop) (procedure : Procedure F D α) : Prop :=
  ∀ ir : IR F D, p ir.broadcastAddr.sinPort →
    procedure.Guarantees SamePort MainLoopStatement (fun _ ir => q ir.broadcastAddr.sinPort) ir

section

variable {p q r : UInt16 → Prop}

theorem SamePort.holds {ir seen : IR F D} (moved : SamePort ir seen)
    (held : p ir.broadcastAddr.sinPort) : p seen.broadcastAddr.sinPort :=
  (show ir.broadcastAddr.sinPort = _ from moved) ▸ held

theorem MainLoopStatement.silent {before after : IR F D}
    (same : after.broadcastAddr = before.broadcastAddr) :
    MainLoopStatement before [] after :=
  ⟨congrArg SockAddr.sinPort same, fun _ member => nomatch member⟩

theorem Leads.pure {α : Type} (value : α) : Leads p p (Pure.pure value : Procedure F D α) :=
  fun _ held => Guarantees.pure fun _ moved => moved.holds held

theorem Leads.stop {α : Type} (reason : Stop) :
    Leads p q (Program.stop reason : Procedure F D α) :=
  fun _ _ => trivial

theorem Leads.read {α : Type} (expression : IR F D → α) :
    Leads p p (Program.read expression : Procedure F D α) :=
  fun _ held => Guarantees.read fun _ moved =>
    ⟨.silent rfl, fun _ later => later.holds (moved.holds held)⟩

theorem Leads.modify (update : IR F D → IR F D)
    (same : ∀ ir, (update ir).broadcastAddr = ir.broadcastAddr) :
    Leads p p (Program.modify update : Procedure F D Unit) := by
  refine fun _ held => Guarantees.modify fun seen moved => ⟨.silent (same seen), ?_⟩
  intro _ later
  refine later.holds ?_
  rw [same seen]
  exact moved.holds held

theorem Leads.require {α : Type} (reason : Stop) (value : Option α) :
    Leads p p (Program.require reason value : Procedure F D α) :=
  fun _ held => Guarantees.require fun _ _ _ moved => moved.holds held

theorem Leads.emit (event : IR F D → Event F)
    (unset : ∀ ir, p ir.broadcastAddr.sinPort → ∀ port, event ir ≠ .portSet port)
    (allowed : ∀ ir, p ir.broadcastAddr.sinPort → (event ir).OfMainLoop) :
    Leads p p (Program.perform fun ir => (ir, [event ir]) : Procedure F D Unit) := by
  refine fun _ held => Guarantees.perform fun seen moved => ?_
  have here := moved.holds held
  refine ⟨⟨?_, ?_⟩, fun _ later => later.holds here⟩
  · rw [portAfter_of_unset]
    intro port member
    exact unset seen here port (List.mem_singleton.mp member).symm
  · intro emitted member
    rw [List.mem_singleton.mp member]
    exact allowed seen here

theorem Leads.setPort :
    Leads p (· = dataPort) (Program.perform fun ir =>
      ({ ir with broadcastAddr := { ir.broadcastAddr with sinPort := dataPort } },
        [.portSet dataPort]) : Procedure F D Unit) := by
  refine fun _ _ => Guarantees.perform fun seen _ => ⟨⟨rfl, ?_⟩, fun _ later => later.symm⟩
  intro emitted member
  rw [List.mem_singleton.mp member]
  rfl

theorem Leads.bind {α β : Type} {first : Procedure F D α} {next : α → Procedure F D β}
    (head : Leads p q first) (tail : ∀ value, Leads q r (next value)) :
    Leads p r (first >>= next) :=
  fun ir held => Guarantees.bind (fun ir => (rfl : SamePort ir ir)) (head ir held)
    fun value seen here => tail value seen here

theorem Leads.forget {α : Type} {procedure : Procedure F D α} (leads : Leads p q procedure) :
    Leads p (fun _ => True) procedure :=
  fun ir held => (leads ir held).mono fun _ _ _ => trivial

theorem Leads.ite {α : Type} {condition : Prop} [Decidable condition]
    {first second : Procedure F D α} (yes : Leads p q first) (no : Leads p q second) :
    Leads p q (if condition then first else second) := by
  split
  · exact yes
  · exact no

end

section

variable {p : UInt16 → Prop}

theorem getGps_leads : Leads p p (getGps : Procedure F D Unit) :=
  .modify _ fun _ => rfl

theorem outgoing_leads (nread : Nat) : Leads p p (outgoing nread : Procedure F D _) :=
  .bind (.read _) fun _ => .require _ _

theorem dataBroadcast_leads (nread : Nat) :
    Leads p (fun _ => True) (dataBroadcast nread : Procedure F D Unit) := by
  unfold dataBroadcast
  refine .forget (.bind .setPort fun _ => .bind (outgoing_leads nread) fun _ => .emit _ ?_ ?_)
  · simp
  · exact fun _ held => held

theorem sendToNextHop_leads (nextHopId : UInt32) (nread : Nat) :
    Leads p p (sendToNextHop nextHopId nread : Procedure F D Unit) := by
  unfold sendToNextHop mySend
  exact .ite (.bind (outgoing_leads nread) fun _ => .emit _ (by simp) fun _ _ => trivial) (.pure ())

theorem refreshRoute_leads (dstIp nextHopId : UInt32) (untilTime : Int) :
    Leads p p (refreshRoute dstIp nextHopId untilTime : Procedure F D Unit) :=
  .modify _ fun _ => rfl

theorem fillDataBuffer_leads (order : ByteOrder) (nread : Nat) (message : DataMessage) :
    Leads p p (fillDataBuffer order nread message : Procedure F D Unit) := by
  unfold fillDataBuffer
  exact .bind (.modify _ fun _ => rfl) fun _ => .bind (.read _) fun _ =>
    .bind (.require _ _) fun _ => .modify _ fun _ => rfl

section

variable [SinglePrecision F D]

theorem buildNeighbor_leads (host : Host F D) (now : Timeval) (message : BeaconMessage) :
    Leads p p (buildNeighbor host now message) := by
  unfold buildNeighbor
  refine .bind (.read _) fun _ => .bind (.modify _ fun _ => rfl) fun _ =>
    .bind (.modify _ fun _ => rfl) fun _ => .bind (.modify _ fun _ => rfl) fun _ =>
    .modify _ fun _ => rfl

theorem recvBeacon_leads (host : Host F D) (now : Timeval) (fromAddr : UInt32)
    (received : Received) : Leads p p (recvBeacon host now fromAddr received) := by
  unfold recvBeacon
  exact .bind (.modify _ fun _ => rfl) fun _ => .bind (.read _) fun _ => .bind (.read _) fun _ =>
    .ite (buildNeighbor_leads host now _) (.pure ())

theorem recvTun_leads (host : Host F D) (received : Received) (sendFails : Bool) :
    Leads p (fun _ => True) (recvTun host received sendFails) := by
  unfold recvTun recvTunAfterGps tunSending
  refine .bind (.modify _ fun _ => rfl) fun _ => .bind getGps_leads fun _ =>
    .bind (.read _) fun opt => .bind (.read _) fun _ => ?_
  cases opt with
  | none =>
      refine .forget (.bind .setPort fun _ => .bind (.read _) fun _ => .bind (.require _ _) fun _ =>
        .bind (fillDataBuffer_leads _ _ _) fun _ => .ite (.stop _) (.emit _ (by simp) ?_))
      exact fun _ held => held
  | some found =>
      exact .forget (.bind (.require _ _) fun _ => .bind (.require _ _) fun _ =>
        .bind (.read _) fun _ => .bind (.require _ _) fun _ =>
        .bind (fillDataBuffer_leads _ _ _) fun _ => .emit _ (by simp) fun _ _ => trivial)

end

section

variable [DoublePrecision D]

theorem routeMakeup_leads (host : Host F D) (now : Timeval) (gaussrand : UInt32 → Nat → D)
    (dstGps : GPS F) : Leads p p (routeMakeup host now gaussrand dstGps) := by
  unfold routeMakeup
  refine .bind (.emit _ (by simp) (fun _ _ => trivial)) fun _ => .bind (.read _) fun _ =>
    .bind (.read _) fun _ => .bind (.read _) fun _ => .bind (.require _ _) fun _ =>
    .bind (.modify _ fun _ => rfl) fun _ => .bind (.require _ _) fun _ => .ite ?_ (.pure _)
  exact .bind (.require _ _) fun _ => .ite (.pure _) (.pure _)

variable [SinglePrecision F D]

theorem isLegal_leads (host : Host F D) (now : Timeval) (nghbrIp : UInt32) (dstGps : GPS F) :
    Leads p p (isLegal host now nghbrIp dstGps) := by
  unfold isLegal
  refine .bind (.emit _ (by simp) (fun _ _ => trivial)) fun _ => .bind (.read _) fun found => ?_
  cases found with
  | none => exact .pure false
  | some entry =>
      refine .bind (.read _) fun _ => .ite ?_ ?_
      · exact .bind (.modify _ fun _ => rfl) fun _ => .pure false
      · exact .bind (.read _) fun _ => .pure _

theorem forwarding_leads (host : Host F D) (readings : Readings D) (dstIp : UInt32)
    (dstGps : GPS F) (nread : Nat) :
    Leads p (fun _ => True) (forwarding host readings dstIp dstGps nread) := by
  unfold forwarding
  refine .bind (.read _) fun it => .bind (.read _) fun untilTime => ?_
  cases it with
  | none =>
      refine .ite (dataBroadcast_leads nread) (.forget (q := p) ?_)
      refine .bind (routeMakeup_leads _ _ _ _) fun _ => .bind (.require _ _) fun _ => ?_
      exact .ite (.bind (.modify _ fun _ => rfl) fun _ => sendToNextHop_leads _ _)
        (sendToNextHop_leads _ _)
  | some entry =>
      refine .ite (.ite (dataBroadcast_leads nread) (.forget (q := p) ?_)) (.forget (q := p) ?_)
      · refine .bind (routeMakeup_leads _ _ _ _) fun _ => ?_
        exact .ite (.bind (refreshRoute_leads _ _ _) fun _ => sendToNextHop_leads _ _)
          (sendToNextHop_leads _ _)
      · refine .bind (isLegal_leads _ _ _ _) fun _ => .ite (sendToNextHop_leads _ _) ?_
        exact .bind (routeMakeup_leads _ _ _ _) fun _ => .bind (refreshRoute_leads _ _ _) fun _ =>
          sendToNextHop_leads _ _

theorem recvData_leads (host : Host F D) (readings : Readings D) (received : Received)
    (writeFails : Bool) : Leads p (fun _ => True) (recvData host readings received writeFails) := by
  unfold recvData
  refine .bind (.modify _ fun _ => rfl) fun _ => .bind (.read _) fun _ => .bind (.read _) fun _ =>
    .bind (.read _) fun _ => .ite (.bind (.require _ _) fun _ => .ite ?_ ?_) (.forget (.pure ()))
  · exact .ite (.stop _) (.forget (.emit _ (by simp) fun _ _ => trivial))
  · exact .bind (.read _) fun _ => .bind (.modify _ fun _ => rfl) fun _ =>
      .ite (forwarding_leads _ _ _ _ _) (.forget (.pure ()))

theorem operation_leads (host : Host F D) (operation : Operation D) :
    Leads (fun _ => True) (fun _ => True) (operation.procedure host) := by
  cases operation with
  | recvTun received sendFails => exact recvTun_leads host received sendFails
  | recvBeacon now fromAddr received => exact recvBeacon_leads host now fromAddr received
  | recvData readings received writeFails =>
      exact recvData_leads host readings received writeFails

theorem operation_emits (host : Host F D) (operation : Operation D) (ir : IR F D) :
    ∀ event ∈ ((operation.procedure host).run ir).events, event.OfMainLoop :=
  (operation_leads host operation ir trivial).emitted (fun ir => (rfl : SamePort ir ir))
    fun _ _ _ kept => kept.2

end

end

/-- What holds between the events of a run and the port of the shared address. -/
structure PortHistory (events : List (Event F)) (ir : IR F D) : Prop where
  current : ir.broadcastAddr.sinPort = portAfter beaconPort events
  beacons : BeaconsFollow beaconPort events
  assigned : ∀ port, .portSet port ∈ events → port = dataPort
  broadcasts : ∀ dst payload, .dataBroadcast dst payload ∈ events → dst.sinPort = dataPort

theorem beaconsFollow_of_mainLoop {port : UInt16} {events : List (Event F)}
    (loop : ∀ event ∈ events, event.OfMainLoop) : BeaconsFollow port events := by
  induction events generalizing port with
  | nil => trivial
  | cons event rest ih =>
      refine ⟨?_, ih fun later member => loop later (List.mem_cons_of_mem _ member)⟩
      rintro dst payload rfl
      exact (loop _ List.mem_cons_self).elim

theorem PortHistory.statement {trace events : List (Event F)} {before after : IR F D}
    (history : PortHistory trace before) (kept : MainLoopStatement before events after) :
    PortHistory (trace ++ events) after := by
  obtain ⟨moved, loop⟩ := kept
  refine ⟨?_, ?_, ?_, ?_⟩
  · rw [moved, history.current, portAfter_append]
  · exact (beaconsFollow_append _ _ _).mpr ⟨history.beacons, beaconsFollow_of_mainLoop loop⟩
  · intro port member
    rcases List.mem_append.mp member with earlier | later
    · exact history.assigned port earlier
    · exact loop _ later
  · intro dst payload member
    rcases List.mem_append.mp member with earlier | later
    · exact history.broadcasts dst payload earlier
    · exact loop _ later

/-- A beacon goes wherever the shared address points when the signal arrives. -/
theorem PortHistory.beacon {trace : List (Event F)} {ir after : IR F D}
    (history : PortHistory trace ir) (same : after.broadcastAddr = ir.broadcastAddr)
    (payload : List UInt8) :
    PortHistory (trace ++ [.beaconSent ir.broadcastAddr payload]) after := by
  have current := history.current
  refine ⟨?_, ?_, ?_, ?_⟩
  · rw [same, current, portAfter_append]
    rfl
  · refine (beaconsFollow_append _ _ _).mpr ⟨history.beacons, ?_, trivial⟩
    intro dst payload' sent
    rw [← current]
    cases sent
    rfl
  · intro port member
    rcases List.mem_append.mp member with earlier | later
    · exact history.assigned port earlier
    · cases List.mem_singleton.mp later
  · intro dst payload' member
    rcases List.mem_append.mp member with earlier | later
    · exact history.broadcasts dst payload' earlier
    · cases List.mem_singleton.mp later

section

variable [SinglePrecision F D]

theorem sigalrm_run (host : Host F D) (stack : BeaconMessage) (ir : IR F D) :
    ((Activity.sigalrm stack).procedure host).run ir =
      ⟨.ok (), afterBeacon ir, [.beaconSent ir.broadcastAddr
        ((beaconOf host stack (afterBeacon ir)).bytes host.order)]⟩ := by
  rw [Activity.procedure, sendBeacon_run]

theorem activity_port (host : Host F D) (activity : Activity F D) (ir : IR F D) :
    ((activity.procedure host).run ir).state.broadcastAddr = ir.broadcastAddr := by
  cases activity with
  | sigalrm stack => rw [sigalrm_run]; rfl
  | gpsFix gps speed => rfl

theorem PortHistory.activity (host : Host F D) (activity : Activity F D)
    {trace : List (Event F)} {ir : IR F D} (history : PortHistory trace ir) :
    PortHistory (trace ++ ((activity.procedure host).run ir).events)
      ((activity.procedure host).run ir).state := by
  have same := activity_port host activity ir
  cases activity with
  | sigalrm stack =>
      rw [sigalrm_run] at same ⊢
      exact history.beacon same _
  | gpsFix gps speed =>
      exact history.statement (.silent same)

variable [DoublePrecision D]

/-- The runs of a node: the main loop, and timer signals and fixes between its statements. -/
abbrev NodeTrace (host : Host F D) :=
  Loop.Trace (Operation.procedure host) (Activity.procedure (F := F) (D := D) host)

theorem portHistory_of_trace {host : Host F D} {initial : IR F D} {events : List (Event F)}
    {last : Loop (IR F D) (Event F) Stop} (start : initial.Initial)
    (run : NodeTrace host ⟨.done (), initial⟩ events last) : PortHistory events last.state := by
  have steady (activity : Activity F D) (ir : IR F D) :
      SamePort ir ((activity.procedure host).run ir).state :=
    congrArg SockAddr.sinPort (activity_port host activity ir).symm
  have guaranteed (operation : Operation D) (ir : IR F D) :=
    operation_leads host operation ir trivial
  have none : PortHistory [] initial :=
    ⟨start.port, trivial, fun _ member => (nomatch member), fun _ _ member => (nomatch member)⟩
  exact Loop.Trace.invariant
    (fun a b c (first : SamePort a b) (second : SamePort b c) => first.trans second)
    (fun a => (rfl : SamePort a a)) steady guaranteed PortHistory
    (fun _ _ _ _ history kept => history.statement kept)
    (fun _ _ activity history => history.activity host activity) none run

theorem BeaconsFollow.sent {port : UInt16} {front back : List (Event F)} {dst : SockAddr}
    {payload : List UInt8} (follow : BeaconsFollow port (front ++ .beaconSent dst payload :: back)) :
    dst.sinPort = portAfter port front :=
  ((beaconsFollow_append _ _ _).mp follow).2.1 dst payload rfl

/-- From every initial state, one packet from the tun device sends the next beacon to the
data port: no destination is known yet. -/
theorem beacon_afterBroadcast (host : Host F D) {initial : IR F D} (start : initial.Initial)
    {packet : List UInt8} {message : DataMessage}
    (fits : packet.length + DataMessage.size ≤ frameSize)
    (written : trailerOf initial (tunDstIp host initial packet) packet.length = some message)
    (stack : BeaconMessage) :
    ∃ events last, NodeTrace host ⟨.done (), initial⟩ events last ∧ ¬PortsSeparated events := by
  have absent : initial.forwardTable[tunDstIp host initial packet]? = none := by
    rw [start.forward]
    exact Std.ExtTreeMap.getElem?_empty
  have origin : ((Operation.recvTun (.packet packet) false).procedure host).run initial =
      ⟨.ok (), afterOrigin host initial packet message, originEvents initial
        (tunDstIp host initial packet) (packet ++ message.bytes host.order)⟩ := by
    rw [Operation.procedure, recvTun_run host initial fits written]
  have port : (afterOrigin host initial packet message).broadcastAddr.sinPort = dataPort := by
    unfold afterOrigin
    rw [absent]
  have broadcast : NodeTrace host ⟨.done (), initial⟩ _ _ :=
    .operation _ origin
  have beacon : NodeTrace host _ _ _ := broadcast.append (.activity _ (sigalrm_run host stack _))
  refine ⟨_, _, beacon, ?_⟩
  rintro ⟨separated, -⟩
  have address := separated _ _ (List.mem_append_right _ (List.mem_singleton.mpr rfl))
  rw [port] at address
  exact absurd address (by decide)

/-- A run keeps the ports apart exactly when no timer signal arrives behind an
assignment of the data port, which no statement ever takes back. -/
theorem trace_portsSeparated_iff {host : Host F D} {initial : IR F D} {events : List (Event F)}
    {last : Loop (IR F D) (Event F) Stop} (start : initial.Initial)
    (run : NodeTrace host ⟨.done (), initial⟩ events last) :
    PortsSeparated events ↔ NoBeaconAfterPortSet events := by
  have history := portHistory_of_trace start run
  constructor
  · rintro ⟨separated, -⟩ front dst payload back rfl port member
    have reset := separated dst payload (by simp)
    have assigned : portAfter beaconPort front = dataPort :=
      portAfter_of_set (fun port' earlier => history.assigned port' (by simp [earlier]))
        (Or.inr ⟨port, member⟩)
    rw [history.beacons.sent, assigned] at reset
    exact absurd reset (by decide)
  · intro quiet
    refine ⟨?_, history.broadcasts⟩
    intro dst payload member
    obtain ⟨front, back, rfl⟩ := List.append_of_mem member
    rw [history.beacons.sent, portAfter_of_unset (quiet front dst payload back rfl)]

end

/-- One tun packet on a node that has heard nobody, and then the timer signal. -/
theorem beacon_sentToDataPort :
    ∃ events last, NodeTrace Host.shortHistories ⟨.done (), loneNode⟩ events last ∧
      ¬PortsSeparated events := by
  let packet : List UInt8 := List.replicate 20 0
  have fits : packet.length + DataMessage.size ≤ frameSize := by decide
  have written : trailerOf loneNode (tunDstIp Host.shortHistories loneNode packet)
      packet.length = some ⟨20, 0, 0, 0, 90, 16⟩ := by
    decide +kernel
  exact beacon_afterBroadcast Host.shortHistories loneNode_initial fits written
    ⟨0, 0, 0, 0, 0, 0⟩

/-- A timer signal right after `init`. -/
theorem beacon_sentAtOnce :
    PortsSeparated (F := Float32) [.beaconSent loneNode.broadcastAddr
      ((beaconOf .shortHistories ⟨0, 0, 0, 0, 0, 0⟩ (afterBeacon loneNode)).bytes .little)] := by
  have signal := sigalrm_run Host.shortHistories ⟨0, 0, 0, 0, 0, 0⟩ loneNode
  refine (trace_portsSeparated_iff loneNode_initial (.activity _ signal)).mpr ?_
  intro front dst payload back same port member
  cases front with
  | nil => cases member
  | cons event rest => simp at same

end TunVideo
