import Econet.Proofs.Bridge.Handover
import Econet.Proofs.Bridge.Reception

/-!
# Acknowledgements

A frame is acknowledged by the bytes of its header alone: a unicast frame under its own number, and
the question for the type of the machine by its answer. The acknowledgement is the first that is
sent when the frame arrives, and the only response. Whoever gets it says nothing to it, so that two
bridges never acknowledge each other's acknowledgements.

## Main definitions

* `Context.ackOf ctx raw`: the acknowledgement of a frame, byte by byte
* `Message.IsResponse m`: the message `m` is a frame that answers another one
* `Router.Queues r s`: from `r` to `s` clients have got more texts to read

## Main results

* `Message.Carries.not_isResponse`: frames of packets are no responses
* `Bridge.handle_response`: nothing comes of a response, numbers apart
* `Bridge.acknowledged_once`: what is acknowledged, when, where and how often
-/

namespace Econet

open Account (Time)
open Client (ConnectionId Envelope)

/-! ### The bytes of an acknowledgement -/

/-- The acknowledgement of a frame, byte by byte. -/
def Context.ackOf (ctx : Context) : List UInt8 → Option (List UInt8)
  | type :: _ :: control :: _ :: a :: b :: c :: d :: _ =>
    if type = 2 then some [3, 0, 0, 0, a, b, c, d]
    else if type = 5 ∧ control = 8 then
      some [6, 0, 0, 0, 0, 0, 0, 0, 0x40, 0x66, ctx.versionMinor, ctx.versionMajor]
    else none
  | _ => none

theorem Header.ackOf_frame (h : Header) (ctx : Context) (data : List UInt8) :
    ctx.ackOf (h.frame data) = h.ack ctx := by
  obtain ⟨type, port, control, pad, sequence⟩ := h
  cases type with
  | unicast => rfl
  | immediate =>
    by_cases hc : control = 8
    · subst hc
      rfl
    · have hcontrol : ¬ (PacketType.immediate.code = 5 ∧ control = 8) := fun h => hc h.2
      exact (if_neg hcontrol).trans (if_neg hc).symm
  | broadcast => rfl
  | ack => rfl
  | reject => rfl
  | immediateReply => rfl

theorem Aun.Frame.ackOf_of_decode {raw : List UInt8} {f : Aun.Frame}
    (h : Aun.Frame.decode raw = .ok f) (ctx : Context) : ctx.ackOf raw = f.header.ack ctx := by
  rw [← Aun.Frame.encode_of_decode h]
  exact f.header.ackOf_frame ctx f.data

theorem Client.Frame.ackText_eq (f : Client.Frame) (ctx : Context) :
    f.ackText ctx = (ctx.ackOf (f.header.frame f.data)).map fun ack =>
      (Envelope.packet ctx.bridge.text f.source.text (Base64.text ack)).text := by
  rw [Header.ackOf_frame]
  rfl

/-- An acknowledgement reads as a response. -/
theorem Context.decode_ackOf {ctx : Context} {raw ack : List UInt8} (h : ctx.ackOf raw = some ack) :
    ∃ f, Aun.Frame.decode ack = .ok f ∧ f.header.type.isResponse = true := by
  unfold ackOf at h
  split at h
  · split at h
    · cases h
      exact ⟨_, rfl, rfl⟩
    · split at h
      · cases h
        exact ⟨_, rfl, rfl⟩
      · cases h
  · cases h

/-! ### Responses -/

/-- The message is a frame that answers another one. The adapter answers frames by itself, and its
lines hold none. -/
def Message.IsResponse : Message → Prop
  | .datagram _ bytes => ∃ f, Aun.Frame.decode bytes = .ok f ∧ f.header.type.isResponse = true
  | .text _ written =>
    ∃ f, Client.Message.decode written = .ok (.packet f) ∧ f.header.type.isResponse = true
  | .line _ => False

theorem PacketType.isResponse_toward (a : Address) : (PacketType.toward a).isResponse = false := by
  unfold toward
  split <;> rfl

/-- **Frames of packets are no responses.** -/
theorem Message.Carries.not_isResponse {m : Message} {p : Packet} (h : m.Carries p) :
    ¬ m.IsResponse := by
  have htoward := PacketType.isResponse_toward p.destination
  cases m with
  | datagram target bytes =>
    obtain ⟨sequence, rfl⟩ := h
    -- What was written is read back, with the type that it was given.
    rintro ⟨f, hf, hresponse⟩
    rw [Aun.Frame.decode_encode] at hf
    cases hf
    exact Bool.false_ne_true (htoward.symm.trans hresponse)
  | text c written =>
    obtain ⟨sequence, rfl⟩ := h
    rintro ⟨f, hf, hresponse⟩
    rw [Client.Message.decode_frame] at hf
    cases hf
    exact Bool.false_ne_true (htoward.symm.trans hresponse)
  | line written =>
    intro hresponse
    exact hresponse

theorem Header.ack_of_isResponse {h : Header} (hr : h.type.isResponse = true) (ctx : Context) :
    h.ack ctx = none := by
  obtain ⟨type, port, control, pad, sequence⟩ := h
  cases type with
  | ack => rfl
  | reject => rfl
  | immediateReply => rfl
  | broadcast => cases hr
  | unicast => cases hr
  | immediate => cases hr

/-! ### What clients have to read -/

namespace Router

/-- Clients have got more texts to read, behind those that they had. -/
def Queues (r s : Router) : Prop :=
  ∀ c l, r.clients.get? c = some l →
    ∃ m texts, s.clients.get? c = some m ∧ m.queue = l.queue ++ texts

variable {r s t : Router}

theorem Queues.of_clients (h : s.clients = r.clients) : Queues r s := by
  intro c l hl
  exact ⟨l, [], by rw [h, hl], (List.append_nil _).symm⟩

theorem Queues.trans (h : Queues r s) (k : Queues s t) : Queues r t := by
  intro c l hl
  obtain ⟨m, texts, hm, hqueue⟩ := h c l hl
  obtain ⟨n, later, hn, hqueue'⟩ := k c m hm
  exact ⟨n, texts ++ later, hn, by rw [hqueue', hqueue, List.append_assoc]⟩

theorem queues_send (p : Packet) (r : Router) : Queues r (send p r).2 := by
  obtain ⟨attempts, htries, -⟩ := exists_tries_send p r
  intro c l hl
  refine ⟨l.pushAll ((Way.client c).received attempts), _, ?_, rfl⟩
  have hlink : (send p r).2.clients.get? c = (r.clients.get? c).map _ := htries.linkOf (.client c)
  rw [hlink, hl]
  rfl

/-- What clients have to read is not lost when packets are sent. -/
theorem queues_sendAll (ps : List Packet) (r : Router) : Queues r (r.sendAll ps) := by
  induction ps generalizing r with
  | nil => exact Queues.of_clients rfl
  | cons p ps ih => exact (queues_send p r).trans (ih _)

end Router

/-! ### What comes of a frame -/

namespace Bridge

variable {b : Bridge} {peer : Socket} {bytes : List UInt8} {f : Aun.Frame}

theorem letThrough_of_isResponse {h : Header} (hr : h.type.isResponse = true) (p : Packet) :
    letThrough h p = none := by
  rw [letThrough, Header.isConsumed, hr]
  rfl

/-- **Nothing comes of a response**, apart from the number that is noted for its sender. -/
theorem handle_response (hf : Aun.Frame.decode bytes = .ok f)
    (hr : f.header.type.isResponse = true) (b : Bridge) (now : Time) (peer : Socket) :
    b.delivered? (.datagram peer bytes) = none ∧
      (b.handle now (.datagram peer bytes) = b ∨
        ∃ ip sequence, b.handle now (.datagram peer bytes) = b.prime peer ip sequence) := by
  have hdelivered : b.delivered? (.datagram peer bytes) = none := by
    simp only [delivered?, hf]
    cases peer.ipv4? with
    | none => rfl
    | some ip =>
      cases b.router.routes.aun.addressOfSocket peer with
      | none => rfl
      | some sender => exact letThrough_of_isResponse hr _
  -- Only the event's own effects are left, and a response is not acknowledged.
  refine ⟨hdelivered, ?_⟩
  rw [handle_eq b now (t := .aun) rfl, hdelivered, Option.elim_none]
  simp only [settle, hf]
  cases peer.ipv4? with
  | none => exact .inl rfl
  | some ip =>
    cases b.router.routes.aun.addressOfSocket peer with
    | none => exact .inl rfl
    | some sender =>
      dsimp only
      rw [Header.ack_of_isResponse hr]
      exact .inr ⟨ip, f.header.sequence, rfl⟩

theorem journal_settle_datagram {sink : Sink} {sender : Address} (hs : b.router.sink = some sink)
    (hf : Aun.Frame.decode bytes = .ok f)
    (ha : b.router.routes.aun.addressOfSocket peer = some sender) :
    (b.settle (.datagram peer bytes)).router.journal = b.router.journal ++
      ((b.context.ackOf bytes).map fun ack =>
        (⟨.datagram peer ack, sink.takes b.router.journal peer ack⟩ : Attempt)).toList := by
  obtain ⟨ip, hip, -⟩ := Option.bind_eq_some_iff.mp ha
  have hack : f.header.ack (b.context.withSender sender) = b.context.ackOf bytes :=
    (Aun.Frame.ackOf_of_decode hf _).symm
  simp only [settle, hf, hip, ha, hack]
  cases b.context.ackOf bytes with
  | none => exact (List.append_nil _).symm
  | some ack =>
    show _ ++ [(⟨.datagram peer ack, _⟩ : Attempt)] = _
    simp only [prime, mapRouter, hs]
    rfl

theorem answer?_datagram {sender : Address} (hf : Aun.Frame.decode bytes = .ok f)
    (ha : b.router.routes.aun.addressOfSocket peer = some sender) :
    b.answer? (.datagram peer bytes) = (b.context.ackOf bytes).map (.datagram peer) := by
  obtain ⟨ip, hip, -⟩ := Option.bind_eq_some_iff.mp ha
  simp only [answer?, hf, hip, ha]
  rw [← Aun.Frame.ackOf_of_decode hf]
  rfl

/-- What the router is given when an event happens is sent in packets, which are no responses. -/
theorem exists_attempts_handle (b : Bridge) (now : Time) (e : Event) :
    ∃ attempts, (b.handle now e).router.journal = (b.settle e).router.journal ++ attempts ∧
      ∀ a ∈ attempts, ¬ a.message.IsResponse ∧ ∃ q ∈ b.outgoing e, a.message.Carries q := by
  obtain ⟨attempts, hattempts, hcarries⟩ :=
    (Router.sends_sendAll (b.outgoing e) (b.settle e).router).journal
  refine ⟨attempts, by rw [router_handle, hattempts], fun a ha => ?_⟩
  obtain ⟨q, hq, hm⟩ := hcarries a ha
  exact ⟨hm.not_isResponse, q, hq, hm⟩

/-- What is sent for a datagram, after its acknowledgement, are answers of services. -/
theorem exists_attempts_datagram {sink : Sink} {sender : Address} (hs : b.router.sink = some sink)
    (hf : Aun.Frame.decode bytes = .ok f)
    (ha : b.router.routes.aun.addressOfSocket peer = some sender) (now : Time) :
    ∃ attempts, (b.handle now (.datagram peer bytes)).router.journal = b.router.journal ++
        ((b.context.ackOf bytes).map fun ack =>
          (⟨.datagram peer ack, sink.takes b.router.journal peer ack⟩ : Attempt)).toList ++
        attempts ∧
      ∀ a ∈ attempts, ¬ a.message.IsResponse ∧
        ∃ p, b.delivered? (.datagram peer bytes) = some p ∧
          ∃ q ∈ b.replies p, a.message.Carries q := by
  obtain ⟨attempts, hattempts, hsent⟩ := b.exists_attempts_handle now (.datagram peer bytes)
  refine ⟨attempts, by rw [hattempts, journal_settle_datagram hs hf ha], fun a hmem => ?_⟩
  obtain ⟨hresponse, q, hq, hcarries⟩ := hsent a hmem
  refine ⟨hresponse, ?_⟩
  cases hp : b.delivered? (.datagram peer bytes) with
  | none =>
    rw [outgoing, hp] at hq
    cases hq
  | some p =>
    -- Every datagram is for the bridge itself.
    rw [outgoing_of_isForServices rfl hp (isForServices_of_datagram hp)] at hq
    exact ⟨p, rfl, q, hq, hcarries⟩

variable {c : ConnectionId} {text : String} {g : Client.Frame}

theorem answer?_packet (hg : Client.Message.decode text = .ok (.packet g))
    (hc : b.pool.addressOf c = some g.source) :
    b.answer? (.clientText c text) = (g.ackText b.context).map (.text c) := by
  simp only [answer?, hg]
  exact if_pos hc

/-- What is sent for a packet of a client, after its acknowledgement, are no responses. -/
theorem exists_sent_packet (hg : Client.Message.decode text = .ok (.packet g))
    (hc : b.pool.addressOf c = some g.source) (now : Time) :
    ∃ sent, (b.handle now (.clientText c text)).router.messages = b.router.messages ++
        ((g.ackText b.context).map (.text c)).toList ++ sent ∧
      ∀ m ∈ sent, ¬ m.IsResponse := by
  obtain ⟨attempts, hattempts, hsent⟩ := b.exists_attempts_handle now (.clientText c text)
  refine ⟨attempts.map (·.message), ?_, ?_⟩
  · rw [← answer?_packet hg hc, ← messages_settle, Router.messages, hattempts, List.map_append]
    rfl
  · rintro m hm
    obtain ⟨a, ha, rfl⟩ := List.mem_map.mp hm
    exact (hsent a ha).1

/-- A client that has room gets its acknowledgement before anything else. -/
theorem exists_queue_packet (hg : Client.Message.decode text = .ok (.packet g))
    (hc : b.pool.addressOf c = some g.source) {l : Link}
    (hl : b.router.clients.get? c = some l) (hconnected : l.isConnected = true)
    (hroom : l.queue.length < l.capacity) (now : Time) :
    ∃ m later, (b.handle now (.clientText c text)).router.clients.get? c = some m ∧
      m.queue = l.queue ++ (g.ackText b.context).toList ++ later := by
  obtain ⟨hopen, hread⟩ := Bool.and_eq_true_iff.mp hconnected
  have hsettle : ∃ m, (b.settle (.clientText c text)).router.clients.get? c = some m ∧
      m.queue = l.queue ++ (g.ackText b.context).toList := by
    simp only [settle, hg]
    rw [if_pos hc]
    cases g.ackText b.context with
    | none => exact ⟨l, hl, (List.append_nil _).symm⟩
    | some ack =>
      -- There is room, so that the link takes the text.
      have hsend : l.send ack = .ok (l.push ack) :=
        (Link.send_eq_ok_iff _ _ _).mpr ⟨hopen, hread, hroom, rfl⟩
      refine ⟨l.push ack, ?_, rfl⟩
      show (Router.sendText c ack b.router).2.clients.get? c = _
      simp only [Router.sendText, hl, Option.map_some, hsend]
      exact (Table.get?_insert _ _ _ _).trans (if_pos rfl)
  obtain ⟨m, hm, hqueue⟩ := hsettle
  obtain ⟨n, later, hn, hlater⟩ := Router.queues_sendAll (b.outgoing (.clientText c text))
    (b.settle (.clientText c text)).router c m hm
  exact ⟨n, later, by rw [router_handle, hn], by rw [hlater, hqueue]⟩

/-- **What is acknowledged, when, where and how often.** A datagram from a host that the map knows
is acknowledged by one datagram to the socket that it came from, before anything else is sent, if
its bytes call for that; no other response is sent. A client's packet from the address that the
client holds is acknowledged by the same bytes, in an envelope to that client. Whoever gets such
bytes in a datagram sends nothing, and none of its services sees them. -/
theorem acknowledged_once (b : Bridge) (now : Time) :
    (∀ sink peer bytes f sender, b.router.sink = some sink → Aun.Frame.decode bytes = .ok f →
      b.router.routes.aun.addressOfSocket peer = some sender →
      ∃ attempts, (b.handle now (.datagram peer bytes)).router.journal = b.router.journal ++
          ((b.context.ackOf bytes).map fun ack =>
            (⟨.datagram peer ack, sink.takes b.router.journal peer ack⟩ : Attempt)).toList ++
          attempts ∧
        ∀ a ∈ attempts, ¬ a.message.IsResponse ∧
          ∃ p, b.delivered? (.datagram peer bytes) = some p ∧
            ∃ q ∈ b.replies p, a.message.Carries q) ∧
    (∀ c text g, Client.Message.decode text = .ok (.packet g) →
      b.pool.addressOf c = some g.source →
      let b' := b.handle now (.clientText c text)
      let ack := (b.context.ackOf (g.header.frame g.data)).map fun ack =>
        (Envelope.packet b.context.bridge.text g.source.text (Base64.text ack)).text
      (∃ sent, b'.router.messages = b.router.messages ++ (ack.map (.text c)).toList ++ sent ∧
        ∀ m ∈ sent, ¬ m.IsResponse) ∧
      ∀ l, b.router.clients.get? c = some l → l.isConnected = true →
        l.queue.length < l.capacity →
        ∃ m later, b'.router.clients.get? c = some m ∧
          m.queue = l.queue ++ ack.toList ++ later) ∧
    ∀ (ctx : Context) raw ack, ctx.ackOf raw = some ack →
      (∀ peer, (Message.datagram peer ack).IsResponse) ∧
      ∀ (other : Bridge) (later : Time) (peer : Socket),
        other.delivered? (.datagram peer ack) = none ∧
        (other.handle later (.datagram peer ack) = other ∨
          ∃ ip sequence, other.handle later (.datagram peer ack) =
            other.prime peer ip sequence) := by
  refine ⟨?_, ?_, ?_⟩
  · intro sink peer bytes f sender hs hf ha
    exact exists_attempts_datagram hs hf ha now
  · intro c text g hg hc
    rw [← Client.Frame.ackText_eq]
    exact ⟨exists_sent_packet hg hc now, fun l hl hconnected hroom =>
      exists_queue_packet hg hc hl hconnected hroom now⟩
  -- An acknowledgement is a response wherever it comes in, and no response is answered.
  · intro ctx raw ack hack
    obtain ⟨f, hf, hresponse⟩ := Context.decode_ackOf hack
    exact ⟨fun peer => ⟨f, hf, hresponse⟩, fun other later peer =>
      handle_response hf hresponse other later peer⟩

/-- A host and a client both send to the bridge, and get their acknowledgements first. -/
theorem acknowledged_once_unicast :
    let aun := Aun.Map.ofRules [.host (.ofNat 0x0A000005) ⟨1, 5⟩]
    let pool := ((Client.Pool.ofList [200]).allocate ⟨"a"⟩).2
    let router := (Router.ofRoutes ⟨aun, .empty, pool⟩ 32768).connect ⟨"a"⟩ (.ofCapacity 16)
    let b : Bridge := ⟨⟨⟨127, 254⟩, 2, 0, none⟩,
      { router with sink := some ⟨fun _ _ _ => true⟩ }, .ofBackends [] 0 "",
      [.fresh (fun _ port => port = 0x99) fun _ p => [{ p with destination := p.source }]]⟩
    let peer := Socket.ofIpv4 (.ofNat 0x0A000005) 32768
    let bytes : List UInt8 := [2, 0x99, 0x80, 0, 4, 0, 0, 0, 0x41]
    let ack : List UInt8 := [3, 0, 0, 0, 4, 0, 0, 0]
    let text :=
      "\x7b\"type\":\"pkt\",\"src\":\"200.1\",\"dst\":\"127.254\",\"payload\":\"ApmAAAQAAABB\"\x7d"
    let reply :=
      "\x7b\"type\":\"pkt\",\"src\":\"127.254\",\"dst\":\"200.1\",\"payload\":\"AwAAAAQAAAA=\"\x7d"
    (∃ attempts, (b.handle 2 (.datagram peer bytes)).router.journal =
        b.router.journal ++ [⟨.datagram peer ack, true⟩] ++ attempts ∧
      ∀ a ∈ attempts, ¬ a.message.IsResponse) ∧
    (∃ m later, (b.handle 2 (.clientText ⟨"a"⟩ text)).router.clients.get? ⟨"a"⟩ = some m ∧
      m.queue = reply :: later) ∧
    b.delivered? (.datagram peer ack) = none := by
  intro aun pool router b peer bytes ack text reply
  obtain ⟨hhost, hclient, hack⟩ := acknowledged_once b 2
  refine ⟨?_, ?_, ?_⟩
  · obtain ⟨attempts, hattempts, hsent⟩ := hhost ⟨fun _ _ _ => true⟩ peer bytes
      ⟨⟨.unicast, 0x99, 0x80, 0, 4⟩, [0x41]⟩ ⟨1, 5⟩ rfl rfl (by decide)
    exact ⟨attempts, hattempts, fun a ha => (hsent a ha).1⟩
  · have hg : Client.Message.decode text = .ok (.packet
        (.ofPacket ⟨⟨200, 1⟩, ⟨127, 254⟩, 0x99, 0x80, [0x41]⟩ 4)) := by
      subst text
      rfl
    have hreply : (Envelope.packet (Address.text ⟨127, 254⟩) (Address.text ⟨200, 1⟩)
        (Base64.text ack)).text = reply := by decide
    obtain ⟨m, later, hm, hqueue⟩ := (hclient ⟨"a"⟩ text _ hg (by decide)).2
      (.ofCapacity 16) (by decide) rfl (by decide)
    refine ⟨m, later, hm, ?_⟩
    rw [hqueue, ← hreply]
    rfl
  · exact ((hack b.context bytes ack rfl).2 b 2 peer).1

end Bridge

end Econet
