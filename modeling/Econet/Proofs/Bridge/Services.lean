import Econet.Proofs.Bridge.Batches

/-!
# Services and their answers

A service may be any machine: it has a state, decides on the ports that it listens on, takes packets
in, and hands out what it has to say. What the bridge has of it is how it answers after the packets
that it has seen. A packet is offered to one service after the other, and then the answers of all of
them are sent in that order. No answer keeps another one from being sent, and none gets in the way
of those to other destinations.

## Main definitions

* `Machine`: a machine that runs as a service
* `Machine.offer`: what a machine says to a packet, and the machine after it
* `Service.Runs s m`: the service `s` behaves as the machine `m` does from now on

## Main results

* `Service.runs_machine`, `Service.runs_service`: services and machines are the same
* `Service.runs_offerAll`: a packet is offered to each machine once
* `Bridge.deliver_to_services`: what becomes of a packet that services are offered, and of what they
  answer
-/

namespace Econet

open Account (Time)

/-! ### Machines -/

/-- A machine that runs as a service, in some state. -/
structure Machine where
  State : Type
  state : State
  /-- It listens on a port. -/
  accepts : State → UInt8 → Bool
  /-- The state after a packet came in. -/
  inbound : State → Packet → State
  /-- What it has to say, and the state after that is handed out. -/
  drain : State → List Packet × State

namespace Machine

/-- The machine in another state. -/
def withState (m : Machine) (state : m.State) : Machine := { m with state }

def listens (m : Machine) (port : UInt8) : Bool := m.accepts m.state port

/-- What the machine says when a packet comes in. -/
def answers (m : Machine) (p : Packet) : List Packet := (m.drain (m.inbound m.state p)).1

/-- The machine after a packet came in and its answers were handed out. -/
def next (m : Machine) (p : Packet) : Machine :=
  m.withState (m.drain (m.inbound m.state p)).2

/-- The machine after several packets. -/
def after (m : Machine) (ps : List Packet) : Machine := ps.foldl next m

/-- What a machine says to a packet that it is offered, and the machine after it. One that does not
listen on the port stays as it is. -/
def offer (m : Machine) (p : Packet) : List Packet × Machine :=
  if m.listens p.port then (m.answers p, m.next p) else ([], m)

/-- The service that a machine runs as. -/
def service (m : Machine) : Service :=
  .fresh (fun seen port => (m.after seen).listens port) (fun seen p => (m.after seen).answers p)

theorem after_append (m : Machine) (ps qs : List Packet) :
    m.after (ps ++ qs) = (m.after ps).after qs :=
  List.foldl_append

end Machine

namespace Service

/-- From now on, the service behaves as the machine does. -/
def Runs (s : Service) (m : Machine) : Prop :=
  ∀ ps, (∀ port, s.listens (s.seen ++ ps) port = (m.after ps).listens port) ∧
    ∀ p, s.answers (s.seen ++ ps) p = (m.after ps).answers p

/-- The machine that a service is: it remembers what it has seen, and what it has not said yet. -/
def machine (s : Service) : Machine where
  State := List Packet × List Packet
  state := (s.seen, [])
  accepts st port := s.listens st.1 port
  inbound st p := (st.1 ++ [p], st.2 ++ s.answers st.1 p)
  drain st := (st.2, (st.1, []))

variable {s : Service} {m : Machine} {ss : List Service} {ms : List Machine}

theorem after_machine (s : Service) (ps : List Packet) :
    s.machine.after ps = s.machine.withState (s.seen ++ ps, []) := by
  induction ps using List.reverseRecOn with
  | nil => rw [List.append_nil]; rfl
  | append_singleton ps p ih => rw [Machine.after_append, ih, ← List.append_assoc]; rfl

/-- Every service runs a machine. -/
theorem runs_machine (s : Service) : s.Runs s.machine := by
  intro ps
  rw [after_machine]
  exact ⟨fun port => rfl, fun p => (List.nil_append _).symm⟩

/-- Every machine runs as a service. -/
theorem runs_service (m : Machine) : m.service.Runs m :=
  fun _ => ⟨fun _ => rfl, fun _ => rfl⟩

theorem Runs.accepts (h : s.Runs m) (p : Packet) : s.accepts p = m.listens p.port := by
  have hlistens := (h []).1 p.port
  rwa [List.append_nil] at hlistens

theorem Runs.answers (h : s.Runs m) (p : Packet) : s.answers s.seen p = m.answers p := by
  have hanswers := (h []).2 p
  rwa [List.append_nil] at hanswers

/-- A service that has seen a packet behaves as the machine that took it in. -/
theorem Runs.next (h : s.Runs m) (p : Packet) :
    Runs { s with seen := s.seen ++ [p] } (m.next p) := by
  intro ps
  have hps := h (p :: ps)
  rw [List.append_cons] at hps
  exact hps

theorem Runs.offer (h : s.Runs m) (p : Packet) :
    (s.offer p).1 = (m.offer p).1 ∧ (s.offer p).2.Runs (m.offer p).2 := by
  rw [Service.offer, Machine.offer, h.accepts]
  split
  · exact ⟨h.answers p, h.next p⟩
  · exact ⟨rfl, h⟩

/-- **A packet is offered to each machine once**, and the answers are collected in order. -/
theorem runs_offerAll (h : List.Forall₂ Runs ss ms) (p : Packet) :
    (offerAll ss p).1 = ms.flatMap (fun m => (m.offer p).1) ∧
      List.Forall₂ Runs (offerAll ss p).2 (ms.map fun m => (m.offer p).2) := by
  induction h with
  | nil => exact ⟨rfl, .nil⟩
  | cons h _ ih =>
    obtain ⟨hanswers, hruns⟩ := h.offer p
    refine ⟨?_, .cons hruns ih.2⟩
    rw [offerAll, hanswers, ih.1, List.flatMap_cons]

end Service

namespace Bridge

variable {b : Bridge} {ms : List Machine}

/-! ### A packet for the services -/

/-- **What becomes of a packet that the services are offered, and of their answers.** Each machine
that listens on the port takes the packet in once and hands out its answers, and all others stay as
they are. A packet for the bridge or for all is offered so, and the answers are sent in the order of
the machines, each on all of its ways, whatever became of those before it. What goes along a way are
the answers that it leads to, in order and numbered on and on; and of these its link takes what it
has room for. -/
theorem deliver_to_services (hms : List.Forall₂ Service.Runs b.services ms) (p : Packet)
    (now : Time) (t : Transport) :
    let b' := b.deliver now t p
    let answers := ms.flatMap fun m => (m.offer p).1
    ((Service.offerAll b.services p).1 = answers ∧
      List.Forall₂ Service.Runs (Service.offerAll b.services p).2
        (ms.map fun m => (m.offer p).2)) ∧
    (p.destination = b.context.bridge ∨ p.destination.station = 255 →
      b'.services = (Service.offerAll b.services p).2 ∧
      (∃ attempts, Router.Tries b.router attempts b'.router ∧
        attempts.map (·.message) = (b.router.trail answers).map (·.message b.router.aunPort)) ∧
      (b.router.trail answers).map (fun x => (x.way, x.packet)) =
        (answers.flatMap fun q => (b.router.plan.openWays q).map (·, q)) ∧
      ∀ w, (b.router.trail answers).filter (·.way = w) = b.router.parcelsAlong w answers ∧
        b'.router.linkOf w = (b.router.linkOf w).map fun l =>
          l.pushAll ((b.router.textsAlong w answers).take l.room)) := by
  intro b' answers
  have hoffered := Service.runs_offerAll hms p
  refine ⟨hoffered, fun hp => ?_⟩
  have hservices : b.isForServices p = true := isForServices_iff.mpr hp
  -- The router is given what the machines answer, and nothing else.
  have hpassed : b.passedOn t p = answers := (if_pos hservices).trans hoffered.1
  have hrouter : b'.router = b.router.sendAll answers := by
    rw [← hpassed]
    exact b.router_deliver now t p
  rw [hrouter]
  exact ⟨(b.services_deliver now t p).trans (if_pos hservices),
    Router.exists_tries_sendAll answers b.router, Router.map_trail answers b.router,
    fun w => ⟨Router.filter_way_trail w answers b.router,
      Router.linkOf_sendAll answers b.router w⟩⟩

/-- A machine that counts the packets on a port, and answers two clients and a station that nobody
knows. The queue of the first client is full, and the second one gets its answer all the same. A
machine on another port is left as it is. -/
theorem deliver_to_services_counting :
    let answer (p : Packet) (a : Address) (n : Nat) : Packet :=
      ⟨p.destination, a, p.port, p.control, [UInt8.ofNat n]⟩
    let counter (port : UInt8) (n : Nat) : Machine :=
      ⟨Nat × List Packet, (n, []), fun _ q => q = port,
        fun st p => (st.1 + 1, st.2 ++ [answer p ⟨200, 1⟩ st.1, answer p ⟨9, 9⟩ st.1,
          answer p ⟨200, 2⟩ st.1]), fun st => (st.2, (st.1, []))⟩
    let pool := ((((Client.Pool.ofList [200]).allocate ⟨"a"⟩).2).allocate ⟨"b"⟩).2
    let full : Link := { Link.ofCapacity 1 with queue := ["text"] }
    let r : Router :=
      { Router.ofRoutes ⟨.ofRules [], .empty, pool⟩ 32768 with
        clients := (Table.empty.insert ⟨"a"⟩ full).insert ⟨"b"⟩ (.ofCapacity 1) }
    let b : Bridge := ⟨⟨⟨127, 254⟩, 2, 0, none⟩, r, .ofBackends [] 0 "",
      [(counter 0x99 7).service, (counter 0xD1 3).service]⟩
    let p : Packet := ⟨⟨2, 7⟩, ⟨127, 254⟩, 0x99, 0x80, [0x42]⟩
    let b' := b.deliver 1 .piconet p
    List.Forall₂ Service.Runs b'.services [counter 0x99 8, counter 0xD1 3] ∧
      b'.router.linkOf (.client ⟨"a"⟩) = some full ∧
      (b'.router.linkOf (.client ⟨"b"⟩)).map (·.queue.length) = some 1 := by
  intro answer counter pool full r b p b'
  have hms : List.Forall₂ Service.Runs b.services [counter 0x99 7, counter 0xD1 3] :=
    .cons (Service.runs_service _) (.cons (Service.runs_service _) .nil)
  obtain ⟨⟨-, hruns⟩, hdelivered⟩ := deliver_to_services hms p 1 .piconet
  obtain ⟨hservices, -, -, hways⟩ := hdelivered (.inl rfl)
  refine ⟨?_, ?_, ?_⟩
  · show List.Forall₂ Service.Runs (b.deliver 1 .piconet p).services _
    rw [hservices]
    exact hruns
  · have ha : b.router.linkOf (.client ⟨"a"⟩) = some full := rfl
    have hroom : full.room = 0 := rfl
    rw [(hways (.client ⟨"a"⟩)).2, ha, Option.map_some, hroom, List.take_zero, Link.pushAll_nil]
  · rw [(hways (.client ⟨"b"⟩)).2]
    decide +kernel

end Bridge

end Econet
