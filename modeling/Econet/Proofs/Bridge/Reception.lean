import Econet.Proofs.Bridge.Activity
import Econet.Proofs.Bridge.Ways

/-!
# Where a packet goes that came in

An event has effects of its own: a number is noted, a frame is acknowledged, a request is answered,
a way out comes or goes. After that the router is given packets: those that services answer with,
if the packet that came in is for them, and else that packet itself, unless it would go back to the
transport that it came by.

## Main definitions

* `Event.origin?`: the transport that an event comes by
* `Bridge.settle b e`: the bridge after the event's own effects
* `Bridge.answer? b e`: what the bridge itself says to the event
* `Bridge.outgoing b e`: the packets that the router is given then

## Main results

* `Bridge.handle_eq`: an event is dealt with by its own effects and the delivery of its packet
* `Bridge.router_handle`, `Bridge.messages_settle`: what is sent when an event happens
* `Bridge.passed_on_once`: services get what is for them, and nothing else is sent back
-/

namespace Econet

open Account (Time)
open Client (ConnectionId)

/-- The transport that an event comes by. -/
def Event.origin? : Event → Option Transport
  | .datagram _ _ => some .aun
  | .clientConnected _ _ | .clientText _ _ | .clientLeft _ | .clientLink _ _ => some .webSocket
  | .serialLine _ | .serialClosed | .serialLink _ => some .piconet
  | .housekeeping => none

namespace Bridge

/-! ### An event's own effects -/

/-- The bridge after the effects that an event has on the router, apart from those of a packet that
is delivered. -/
def settle (b : Bridge) : Event → Bridge
  | .datagram peer bytes =>
    match Aun.Frame.decode bytes, peer.ipv4?, b.router.routes.aun.addressOfSocket peer with
    | .ok f, some ip, some sender =>
      (b.prime peer ip f.header.sequence).acknowledge (Router.sendDatagram peer)
        (f.header.ack (b.context.withSender sender))
    | _, _, _ => b
  | .clientConnected c link => b.mapRouter (·.connect c link)
  | .clientText c text =>
    match Client.Message.decode text with
    | .ok (.request name _) => b.receiveRequest c name
    | .ok (.packet f) =>
      if b.pool.addressOf c = some f.source then
        b.acknowledge (Router.sendText c) (f.ackText b.context)
      else b
    | .error _ => b
  | .clientLeft c => b.mapRouter (·.disconnect c)
  | .clientLink c change => b.mapRouter (·.changeLink c (·.change change))
  | .serialClosed => b.mapRouter (·.withAdapter none)
  | .serialLink change => b.mapRouter (·.changeAdapterLink (·.change change))
  | .serialLine _ | .housekeeping => b

/-- What the bridge itself says to an event: the acknowledgement of a frame, or the answer to a
request. -/
def answer? (b : Bridge) : Event → Option Message
  | .datagram peer bytes =>
    match Aun.Frame.decode bytes, peer.ipv4?, b.router.routes.aun.addressOfSocket peer with
    | .ok f, some _, some sender =>
      (f.header.ack (b.context.withSender sender)).map (.datagram peer)
    | _, _, _ => none
  | .clientText c text =>
    match Client.Message.decode text with
    | .ok (.request name _) => some (.text c (answerRequest b.pool c name).1.text)
    | .ok (.packet f) =>
      if b.pool.addressOf c = some f.source then (f.ackText b.context).map (.text c) else none
    | .error _ => none
  | .clientConnected _ _ | .clientLeft _ | .clientLink _ _ | .serialLine _ | .serialClosed
  | .serialLink _ | .housekeeping => none

variable {b : Bridge} {e : Event} {t : Transport} {p : Packet}

theorem messages_acknowledge {α : Type} {send : α → Router.Sending} {message : α → Message}
    (h : ∀ a r, (send a r).2.messages = r.messages ++ [message a]) (b : Bridge) (ack : Option α) :
    (b.acknowledge send ack).router.messages =
      b.router.messages ++ (ack.map message).toList := by
  cases ack with
  | none => exact (List.append_nil _).symm
  | some a => exact h a b.router

/-- **What the bridge itself says** is all that is sent by an event's own effects. -/
theorem messages_settle (b : Bridge) (e : Event) :
    (b.settle e).router.messages = b.router.messages ++ (b.answer? e).toList := by
  cases e with
  | datagram peer bytes =>
    simp only [settle, answer?]
    split
    · exact messages_acknowledge (Router.messages_sendDatagram peer) _ _
    · exact (List.append_nil _).symm
  | clientText c text =>
    simp only [settle, answer?]
    split
    · exact Router.messages_sendText c _ _
    · split
      · exact messages_acknowledge (Router.messages_sendText c) _ _
      · exact (List.append_nil _).symm
    · exact (List.append_nil _).symm
  | _ => exact (List.append_nil _).symm

/-- What no message changes in a router is left alone by an acknowledgement. -/
theorem router_acknowledge {α β : Type} {send : α → Router.Sending} (φ : Router → β)
    (h : ∀ a r, φ (send a r).2 = φ r) (b : Bridge) (ack : Option α) :
    φ (b.acknowledge send ack).router = φ b.router := by
  cases ack with
  | none => rfl
  | some a => exact h a b.router

theorem acknowledge_eq {α : Type} (b : Bridge) (send : α → Router.Sending) (ack : Option α) :
    b.acknowledge send ack = b.mapRouter fun _ => (b.acknowledge send ack).router := by
  cases ack <;> rfl

/-- Nothing but the router changes. -/
theorem settle_eq (b : Bridge) (e : Event) :
    b.settle e = b.mapRouter fun _ => (b.settle e).router := by
  cases e with
  | datagram peer bytes =>
    simp only [settle]
    split
    · exact acknowledge_eq _ _ _
    · rfl
  | clientText c text =>
    simp only [settle]
    split
    · rfl
    · split
      · exact acknowledge_eq _ _ _
      · rfl
    · rfl
  | _ => rfl

theorem context_settle (b : Bridge) (e : Event) : (b.settle e).context = b.context := by
  rw [settle_eq]
  rfl

theorem services_settle (b : Bridge) (e : Event) : (b.settle e).services = b.services := by
  rw [settle_eq]
  rfl

/-- A datagram that is heard leaves its number under the endpoint that it comes from. -/
theorem routes_settle_datagram {peer : Socket} {bytes : List UInt8} {f : Aun.Frame} {ip : Ipv4}
    {sender : Address} (hf : Aun.Frame.decode bytes = .ok f) (hip : peer.ipv4? = some ip)
    (ha : b.router.routes.aun.addressOfSocket peer = some sender) :
    (b.settle (.datagram peer bytes)).router.routes = { b.router.routes with
      aun := b.router.routes.aun.prime (b.router.routes.aun.sourceEndpoint ip peer.port).text
        f.header.sequence } := by
  simp only [settle, hf, hip, ha]
  refine (router_acknowledge Router.routes (fun _ _ => rfl) _ _).trans ?_
  rw [← Aun.Map.sourceKey_eq]
  rfl

theorem plan_settle_datagram (b : Bridge) (peer : Socket) (bytes : List UInt8) :
    (b.settle (.datagram peer bytes)).router.plan = b.router.plan := by
  simp only [settle]
  split
  · exact router_acknowledge Router.plan (fun _ _ => rfl) _ _
  · rfl

/-- A packet that is delivered finds every address where it was. -/
theorem plan_settle_of_delivered (hp : b.delivered? e = some p) :
    (b.settle e).router.plan = b.router.plan := by
  cases e with
  | datagram peer bytes => exact b.plan_settle_datagram peer bytes
  | clientText c text =>
    simp only [delivered?, settle] at hp ⊢
    cases hm : Client.Message.decode text with
    | error error => rfl
    | ok m =>
      cases m with
      | request name args =>
        -- Requests bring no packet in.
        rw [hm] at hp
        cases hp
      | packet f =>
        dsimp only
        split
        · exact router_acknowledge Router.plan (Router.plan_sendText c) _ _
        · rfl
  | serialLine line => rfl
  | _ => cases hp

/-! ### Delivery of the packet -/

theorem accept_eq (b : Bridge) (now : Time) (origin : Transport) (h : Header) (p : Packet) :
    b.accept now origin h p =
      (letThrough h p).elim b fun q => b.deliver now origin q := by
  unfold accept letThrough
  split <;> rfl

/-- **An event is dealt with** by its own effects and the delivery of the packet that it brings
in. -/
theorem handle_eq (b : Bridge) (now : Time) (ht : e.origin? = some t) :
    b.handle now e = (b.delivered? e).elim (b.settle e) fun p => (b.settle e).deliver now t p := by
  cases e with
  | datagram peer bytes =>
    cases ht
    simp only [handle, receiveDatagram, delivered?, settle]
    cases Aun.Frame.decode bytes with
    | error error => rfl
    | ok f =>
      cases peer.ipv4? with
      | none => rfl
      | some ip =>
        cases b.router.routes.aun.addressOfSocket peer with
        | none => rfl
        | some sender =>
          -- The acknowledgement comes first, and does not depend on the packet.
          show b.receiveFrame now peer ip sender f = _
          rw [receiveFrame_eq]
          exact accept_eq _ now .aun f.header _
  | clientText c text =>
    cases ht
    simp only [handle, receiveText, delivered?, settle]
    cases Client.Message.decode text with
    | error error => rfl
    | ok m =>
      cases m with
      | request name args => rfl
      | packet f =>
        show b.receivePacket now c f = _
        rw [receivePacket_eq]
        dsimp only
        split
        · exact accept_eq _ now .webSocket f.header f.packet
        · rfl
  | serialLine line =>
    cases ht
    simp only [handle, receiveLine, delivered?, settle]
    cases Piconet.Line.parse line.toList with
    | error error => rfl
    | ok l =>
      cases l with
      | packet f => exact accept_eq b now .piconet f.header _
      | _ => rfl
  | housekeeping => cases ht
  | _ => rfl

/-- The packets that the router is given when a packet was delivered: the answers of services, or
that packet, or nothing. -/
def passedOn (b : Bridge) (t : Transport) (p : Packet) : List Packet :=
  if b.isForServices p then (Service.offerAll b.services p).1
  else if b.isEcho t p then []
  else [p]

/-- The packets that the router is given when an event happens. -/
def outgoing (b : Bridge) (e : Event) : List Packet :=
  match e.origin?, b.delivered? e with
  | some t, some p => b.passedOn t p
  | _, _ => []

/-- The register is nothing to where a packet goes. -/
theorem deliver_eq (b : Bridge) (now : Time) (t : Transport) (p : Packet) :
    b.deliver now t p =
      let noticed := { b with register := b.register.touch p.source now }
      if b.isForServices p then noticed.serve p
      else if b.isEcho t p then noticed
      else noticed.mapRouter fun r => (Router.send p r).2 := rfl

theorem router_deliver (b : Bridge) (now : Time) (t : Transport) (p : Packet) :
    (b.deliver now t p).router = b.router.sendAll (b.passedOn t p) := by
  rw [deliver_eq, passedOn]
  split
  · rfl
  · split <;> rfl

theorem services_deliver (b : Bridge) (now : Time) (t : Transport) (p : Packet) :
    (b.deliver now t p).services =
      if b.isForServices p then (Service.offerAll b.services p).2 else b.services := by
  rw [deliver_eq]
  split
  · rfl
  · split <;> rfl

theorem isForServices_settle (b : Bridge) (e : Event) (p : Packet) :
    (b.settle e).isForServices p = b.isForServices p := by
  rw [isForServices, context_settle]
  rfl

theorem transportTo_settle (hp : b.delivered? e = some p) (a : Address) :
    (b.settle e).router.routes.transportTo a = b.router.routes.transportTo a :=
  congrArg (fun q : Plan => q.routes.transportTo a) (plan_settle_of_delivered hp)

/-- An event's own effects do not decide where its packet goes. -/
theorem passedOn_settle (hp : b.delivered? e = some p) (t : Transport) :
    (b.settle e).passedOn t p = b.passedOn t p := by
  have hecho : (b.settle e).isEcho t p = b.isEcho t p := by
    rw [isEcho, transportTo_settle hp]
    rfl
  rw [passedOn, isForServices_settle, services_settle, hecho]
  rfl

/-- **What the router is given when an event happens.** -/
theorem router_handle (b : Bridge) (now : Time) (e : Event) :
    (b.handle now e).router = (b.settle e).router.sendAll (b.outgoing e) := by
  unfold outgoing
  cases ht : e.origin? with
  | none =>
    cases e with
    | housekeeping => rfl
    | _ => cases ht
  | some t =>
    rw [handle_eq b now ht]
    cases hp : b.delivered? e with
    | none => rfl
    | some p =>
      show ((b.settle e).deliver now t p).router = _
      rw [router_deliver, passedOn_settle hp]

/-! ### Where packets go -/

theorem fst_offerAll (ss : List Service) (p : Packet) :
    (Service.offerAll ss p).1 =
      ss.flatMap fun s => if s.accepts p then s.answers s.seen p else [] := by
  induction ss with
  | nil => rfl
  | cons s ss ih =>
    simp only [Service.offerAll, List.flatMap_cons, ih, Service.offer]
    split <;> rfl

theorem snd_offerAll (ss : List Service) (p : Packet) :
    (Service.offerAll ss p).2 =
      ss.map fun s => if s.accepts p then { s with seen := s.seen ++ [p] } else s := by
  induction ss with
  | nil => rfl
  | cons s ss ih =>
    simp only [Service.offerAll, List.map_cons, ih, Service.offer]
    split <;> rfl

/-- What services answer to a packet. -/
def replies (b : Bridge) (p : Packet) : List Packet :=
  b.services.flatMap fun s => if s.accepts p then s.answers s.seen p else []

theorem isForServices_iff :
    b.isForServices p = true ↔ p.destination = b.context.bridge ∨ p.destination.station = 255 := by
  rw [isForServices, Bool.or_eq_true, decide_eq_true_iff, Address.isBroadcast, decide_eq_true_iff]
  rfl

theorem isEcho_iff :
    b.isEcho t p = true ↔
      t ≠ .webSocket ∧ b.router.routes.transportTo p.destination = some t := by
  simp [isEcho]

/-- What comes as a datagram is for the bridge itself. -/
theorem isForServices_of_datagram {peer : Socket} {bytes : List UInt8}
    (hp : b.delivered? (.datagram peer bytes) = some p) : b.isForServices p = true := by
  simp only [delivered?] at hp
  split at hp
  · obtain ⟨q, hq, hp⟩ := Option.bind_eq_some_iff.mp hp
    cases hq
    rw [letThrough_eq_some hp]
    exact isForServices_iff.mpr (.inl rfl)
  · cases hp

/-- Services get a packet, and nothing is sent for it but their answers. -/
structure Served (b : Bridge) (e : Event) (p : Packet) (b' : Bridge) : Prop where
  /-- Those that listen have seen it. -/
  services : b'.services =
    b.services.map fun s => if s.accepts p then { s with seen := s.seen ++ [p] } else s
  router : b'.router = (b.settle e).router.sendAll (b.replies p)
  messages : ∃ sent, b'.router.messages = b.router.messages ++ (b.answer? e).toList ++ sent ∧
    ∀ m ∈ sent, ∃ q ∈ b.replies p, m.Carries q

/-- The router gets a packet once, and no service sees it. -/
structure Forwarded (b : Bridge) (e : Event) (p : Packet) (b' : Bridge) : Prop where
  services : b'.services = b.services
  router : b'.router = (Router.send p (b.settle e).router).2
  messages : ∃ sent, b'.router.messages = b.router.messages ++ (b.answer? e).toList ++ sent ∧
    sent.length ≤ 1 ∧ ∀ m ∈ sent, m.Carries p

theorem services_handle (ht : e.origin? = some t) (hp : b.delivered? e = some p) (now : Time) :
    (b.handle now e).services =
      if b.isForServices p then (Service.offerAll b.services p).2 else b.services := by
  rw [handle_eq b now ht, hp]
  show ((b.settle e).deliver now t p).services = _
  rw [services_deliver, services_settle, isForServices_settle]

theorem outgoing_eq (ht : e.origin? = some t) (hp : b.delivered? e = some p) :
    b.outgoing e = b.passedOn t p := by
  simp only [outgoing, ht, hp]

/-- What is for the bridge is answered, and not passed on. -/
theorem outgoing_of_isForServices (ht : e.origin? = some t) (hp : b.delivered? e = some p)
    (h : b.isForServices p = true) : b.outgoing e = b.replies p := by
  rw [outgoing_eq ht hp, passedOn, if_pos h, fst_offerAll]
  rfl

theorem served_handle (ht : e.origin? = some t) (hp : b.delivered? e = some p) (now : Time)
    (h : b.isForServices p = true) : b.Served e p (b.handle now e) := by
  have hrouter : (b.handle now e).router = (b.settle e).router.sendAll (b.replies p) := by
    rw [router_handle, outgoing_of_isForServices ht hp h]
  refine ⟨?_, hrouter, ?_⟩
  · rw [services_handle ht hp, if_pos h, snd_offerAll]
  · obtain ⟨sent, hsent, hcarries⟩ :=
      (Router.sends_sendAll (b.replies p) (b.settle e).router).messages
    exact ⟨sent, by rw [hrouter, hsent, messages_settle], hcarries⟩

theorem forwarded_handle (ht : e.origin? = some t) (hp : b.delivered? e = some p) (now : Time)
    (h : b.isForServices p = false) (hecho : b.isEcho t p = false) :
    b.Forwarded e p (b.handle now e) := by
  have hrouter : (b.handle now e).router = (Router.send p (b.settle e).router).2 := by
    rw [router_handle, outgoing_eq ht hp, passedOn, h, hecho]
    rfl
  refine ⟨?_, hrouter, ((b.settle e).router.parcels p).map (·.message (b.settle e).router.aunPort),
    ?_, ?_, ?_⟩
  · rw [services_handle ht hp, h]
    rfl
  · rw [hrouter, Router.messages_send, messages_settle]
  · -- A station is reached by one way at most.
    have hbroadcast : p.destination.isBroadcast = false :=
      (Bool.or_eq_false_iff.mp h).2
    rw [List.length_map, Router.parcels, Plan.ways, hbroadcast]
    exact (List.length_filterMap_le _ _).trans (Plan.length_toStation_le _ _)
  · rintro m hm
    obtain ⟨x, hx, rfl⟩ := List.mem_map.mp hm
    exact Router.carries_of_mem_parcels hx _

theorem router_handle_of_isEcho (ht : e.origin? = some t) (hp : b.delivered? e = some p)
    (now : Time) (h : b.isForServices p = false) (hecho : b.isEcho t p = true) :
    (b.handle now e).router = b.router := by
  rw [router_handle, outgoing_eq ht hp, passedOn, h, hecho]
  -- Of the three transports only the adapter is left, whose lines have no effects of their own.
  cases e with
  | datagram peer bytes =>
    rw [isForServices_of_datagram hp] at h
    cases h
  | serialLine line => rfl
  | clientText c text =>
    cases ht
    exact absurd rfl (isEcho_iff.mp hecho).1
  | _ => cases hp

/-- A line to the adapter is for an address of a network behind it. -/
theorem line_not_mem_parcels {r : Router} (hb : p.destination.isBroadcast = false)
    (h : r.routes.transportTo p.destination ≠ some .piconet) (d : UInt16) (line : String) :
    .line line ∉ (r.parcels p).map (·.message d) := by
  intro hm
  obtain ⟨x, hx, hline⟩ := List.mem_map.mp hm
  obtain ⟨w, hw, hx⟩ := List.mem_filterMap.mp hx
  cases w with
  | client c =>
    cases hx
    cases hline
  | adapter =>
    rw [Plan.ways, hb] at hw
    exact h (Plan.transportTo_of_adapter_mem_toStation hw)
  | host f =>
    cases hx
    cases hline

/-- What the adapter transmits of a packet that it brought in are answers of services to it. -/
theorem exists_sent_of_adapter (ht : e.origin? = some .piconet) (hp : b.delivered? e = some p)
    (now : Time) :
    ∃ sent, (b.handle now e).router.messages = b.router.messages ++ sent ∧
      ∀ line, .line line ∈ sent →
        b.isForServices p = true ∧ ∃ q ∈ b.replies p, (Message.line line).Carries q := by
  -- The bridge says nothing itself to what the adapter brings in.
  have hanswer : b.answer? e = none := by
    cases e with
    | serialLine line => rfl
    | serialClosed => rfl
    | serialLink change => rfl
    | _ => cases ht
  cases hservices : b.isForServices p with
  | true =>
    obtain ⟨sent, hsent, hcarries⟩ := (served_handle ht hp now hservices).messages
    rw [hanswer, Option.toList_none, List.append_nil] at hsent
    exact ⟨sent, hsent, fun line hline => ⟨rfl, hcarries _ hline⟩⟩
  | false =>
    cases hecho : b.isEcho .piconet p with
    | true =>
      refine ⟨[], ?_, fun line hline => absurd hline List.not_mem_nil⟩
      rw [router_handle_of_isEcho ht hp now hservices hecho, List.append_nil]
    | false =>
      have hroute : (b.settle e).router.routes.transportTo p.destination ≠ some .piconet := by
        -- The router would send the line on, but the bridge has looked at the same route.
        rw [transportTo_settle hp]
        intro hr
        exact Bool.false_ne_true (hecho.symm.trans (isEcho_iff.mpr ⟨Transport.noConfusion, hr⟩))
      have hbroadcast : p.destination.isBroadcast = false := (Bool.or_eq_false_iff.mp hservices).2
      refine ⟨((b.settle e).router.parcels p).map (·.message (b.settle e).router.aunPort), ?_, ?_⟩
      · rw [(forwarded_handle ht hp now hservices hecho).router, Router.messages_send,
          messages_settle, hanswer, Option.toList_none, List.append_nil]
      · intro line hline
        exact absurd hline (line_not_mem_parcels hbroadcast hroute _ line)

/-- **What becomes of a packet that comes in.** If it is for the bridge or for everybody, services
get it, and no frame of it is sent. Otherwise no service sees it and the router gets it once, unless
it would go back to the hosts or to the adapter; then nothing at all is sent. Nothing that the
adapter brings in is transmitted by the adapter, the answers of services apart. -/
theorem passed_on_once (ht : e.origin? = some t) (hp : b.delivered? e = some p) (now : Time) :
    let b' := b.handle now e
    let isForServices := p.destination = b.context.bridge ∨ p.destination.station = 255
    let isEcho := (t = .aun ∨ t = .piconet) ∧ b.router.routes.transportTo p.destination = some t
    (isForServices → b.Served e p b') ∧
      (¬ isForServices → isEcho → b'.services = b.services ∧ b'.router = b.router) ∧
      (¬ isForServices → ¬ isEcho → b.Forwarded e p b') ∧
      (t = .piconet → ∃ sent, b'.router.messages = b.router.messages ++ sent ∧
        ∀ line, .line line ∈ sent →
          isForServices ∧ ∃ q ∈ b.replies p, (Message.line line).Carries q) := by
  intro b' isForServices isEcho
  have hecho : b.isEcho t p = true ↔ isEcho := by
    rw [isEcho_iff]
    cases t <;> simp [isEcho]
  have hnot (h : ¬ isForServices) : b.isForServices p = false :=
    Bool.eq_false_iff.mpr (mt isForServices_iff.mp h)
  refine ⟨fun h => ?_, fun h he => ⟨?_, ?_⟩, fun h he => ?_, ?_⟩
  · exact served_handle ht hp now (isForServices_iff.mpr h)
  · rw [services_handle ht hp, hnot h]
    rfl
  · exact router_handle_of_isEcho ht hp now (hnot h) (hecho.mpr he)
  · exact forwarded_handle ht hp now (hnot h) (Bool.eq_false_iff.mpr (mt hecho.mp he))
  · rintro rfl
    obtain ⟨sent, hsent, hlines⟩ := exists_sent_of_adapter ht hp now
    exact ⟨sent, hsent, fun line hline => (hlines line hline).imp_left isForServices_iff.mp⟩

/-- A station behind the adapter sends to its own network, to a host and to everybody. Only what is
for the host is passed on. -/
theorem passed_on_once_adapter :
    let aun := Aun.Map.ofRules [.host (.ofNat 0x0A000006) ⟨1, 6⟩]
    let router := (Router.ofRoutes ⟨aun, .ofList [2], .empty⟩ 32768).withAdapter
      (some ⟨.ofCapacity 16, 2⟩)
    let b : Bridge := ⟨⟨⟨127, 254⟩, 2, 0, none⟩, router, .ofBackends [] 0 "",
      [.fresh (fun _ port => port = 0x99) fun _ p => [{ p with destination := p.source }]]⟩
    let near : Event := .serialLine "RX_TRANSMIT CQIHAoCZ CQIHAkEAAA=="
    let far : Event := .serialLine "RX_TRANSMIT BgEHAoCZ BgEHAkEAAA=="
    let everybody : Event := .serialLine "RX_BROADCAST /wIHAoCZQQ=="
    (b.handle 1 near).router = b.router ∧
      b.Forwarded far ⟨⟨2, 7⟩, ⟨1, 6⟩, 0x99, 0x80, [0x41]⟩ (b.handle 1 far) ∧
      b.Served everybody ⟨⟨2, 7⟩, ⟨2, 255⟩, 0x99, 0x80, [0x41]⟩ (b.handle 1 everybody) := by
  intro aun router b near far everybody
  have hnear : b.delivered? near = some ⟨⟨2, 7⟩, ⟨2, 9⟩, 0x99, 0x80, [0x41]⟩ := by decide
  have hfar : b.delivered? far = some ⟨⟨2, 7⟩, ⟨1, 6⟩, 0x99, 0x80, [0x41]⟩ := by decide
  have heverybody : b.delivered? everybody = some ⟨⟨2, 7⟩, ⟨2, 255⟩, 0x99, 0x80, [0x41]⟩ := by
    decide
  have hroute : b.router.routes.transportTo ⟨2, 9⟩ = some .piconet := by decide
  have hroute' : b.router.routes.transportTo ⟨1, 6⟩ = some .aun := by decide
  refine ⟨((passed_on_once rfl hnear 1).2.1 (by decide) ⟨.inr rfl, hroute⟩).2, ?_,
    (passed_on_once rfl heverybody 1).1 (.inr rfl)⟩
  refine (passed_on_once rfl hfar 1).2.2.1 (by decide) ?_
  rintro ⟨-, h⟩
  cases hroute'.symm.trans h

end Bridge

end Econet
