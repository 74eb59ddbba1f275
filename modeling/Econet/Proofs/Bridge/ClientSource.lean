import Econet.Proofs.Bridge.Delivery

/-!
# In whose name a browser client speaks

A browser client may only send from the address that it holds, and nobody else holds that. A
packet with another source changes nothing at all. Whatever else a client says, services see,
sessions notice and ways out carry no packets but those from the client's own address, and what
services answer to them.

## Main definitions

* `Bridge.Owns b c a`: the connection `c` holds the address `a`, and no other one does
* `Bridge.OnBehalf b b' now c`: from `b` to `b'` only packets from the address of `c` had effects

## Main results

* `Bridge.onBehalf_clientText`: what a text of a client may change
* `Bridge.clientText_source`: a client speaks in nobody else's name
-/

namespace Econet.Bridge

open Account (Time)
open Client (ConnectionId Pool)

/-- The connection holds the address, and no other one does. -/
def Owns (b : Bridge) (c : ConnectionId) (a : Address) : Prop :=
  b.pool.addressOf c = some a ∧ ∀ d, b.pool.addressOf d = some a → d = c

/-- The router of the bridge with another pool. -/
def withPool (b : Bridge) (pool : Pool) : Router :=
  { b.router with routes := { b.router.routes with pool } }

/-- All that changed is due to packets from the address of one connection, or is a text that the
connection itself gets. -/
structure OnBehalf (b b' : Bridge) (now : Time) (c : ConnectionId) : Prop where
  /-- Services saw packets from the address of the connection only. -/
  services : List.Forall₂ (Service.Saw fun p => b.Owns c p.source) b.services b'.services
  /-- A session was active at the address of the connection, if any. -/
  register : b'.register = b.register ∨
    ∃ a, b.Owns c a ∧ b'.register = b.register.touch a now
  /-- The connection may have got an address and a text; then the router was given at most a packet
  from its address, or the answers of services to one. -/
  router : ∃ pool r, (pool = b.pool ∨ pool = (b.pool.allocate c).2) ∧
    (r = b.withPool pool ∨ ∃ text, r = (Router.sendText c text (b.withPool pool)).2) ∧
    Dispatched (fun p => b.Owns c p.source) b.services r b'.router
  /-- What was sent is for the connection itself, or for a packet from its address. -/
  journal : ∃ attempts, b'.router.journal = b.router.journal ++ attempts ∧
    ∀ t ∈ attempts, (∃ text, t.message = .text c text) ∨
      IsFor (fun p => b.Owns c p.source) b.services t.message

variable {b b' : Bridge} {now : Time} {c : ConnectionId}

/-- What is sent follows from what the router was given. -/
theorem OnBehalf.of_router {pool : Pool} {r : Router}
    (hservices : List.Forall₂ (Service.Saw fun p => b.Owns c p.source) b.services b'.services)
    (hregister : b'.register = b.register ∨
      ∃ a, b.Owns c a ∧ b'.register = b.register.touch a now)
    (hpool : pool = b.pool ∨ pool = (b.pool.allocate c).2)
    (htext : r = b.withPool pool ∨ ∃ text, r = (Router.sendText c text (b.withPool pool)).2)
    (hrouter : Dispatched (fun p => b.Owns c p.source) b.services r b'.router) :
    OnBehalf b b' now c := by
  refine ⟨hservices, hregister, ⟨pool, r, hpool, htext, hrouter⟩, ?_⟩
  have hr : Router.Sends (fun m => (∃ text, m = .text c text) ∨
      IsFor (fun p => b.Owns c p.source) b.services m) (b.withPool pool) r := by
    rcases htext with rfl | ⟨text, rfl⟩
    · exact Router.Sends.refl _ _
    · exact Router.sends_sendText (.inl ⟨text, rfl⟩) _
  exact (hr.trans (hrouter.sends.mono fun m hm => .inr hm)).journal

theorem OnBehalf.refl (b : Bridge) (now : Time) (c : ConnectionId) : OnBehalf b b now c :=
  .of_router (Service.forall₂_saw_refl _ _) (.inl rfl) (.inl rfl) (.inl rfl) .nothing

theorem onBehalf_receiveRequest (b : Bridge) (now : Time) (c : ConnectionId) (request : String) :
    OnBehalf b (b.receiveRequest c request) now c :=
  .of_router (Service.forall₂_saw_refl _ _) (.inl rfl) (answerRequest_snd b.pool c request)
    (.inr ⟨_, rfl⟩) .nothing

theorem onBehalf_receivePacket {f : Client.Frame} (h : b.Owns c f.source) :
    OnBehalf b (b.receivePacket now c f) now c := by
  rw [receivePacket_eq, if_pos h.1]
  generalize hb : b.acknowledge (Router.sendText c) (f.ackText b.context) = acked
  have hservices : acked.services = b.services := by rw [← hb, services_acknowledge]
  have hregister : acked.register = b.register := by rw [← hb, register_acknowledge]
  have htext : acked.router = b.router ∨
      ∃ text, acked.router = (Router.sendText c text b.router).2 := by
    rw [← hb]
    cases f.ackText b.context with
    | none => exact .inl rfl
    | some ack => exact .inr ⟨ack, rfl⟩
  refine .of_router ?_ ?_ (.inl rfl) htext ?_
  · rw [← hservices]
    exact services_accept (P := fun p => b.Owns c p.source) h acked now .webSocket f.header
  · rw [← hregister]
    rcases register_accept acked now .webSocket f.header f.packet with hr | hr
    · exact .inl hr
    · exact .inr ⟨f.source, h, hr⟩
  · rw [← hservices]
    exact dispatched_accept (P := fun p => b.Owns c p.source) h acked now .webSocket f.header

/-- The address of a connection in a consistent pool is its own. -/
theorem owns_of_addressOf (h : b.pool.Consistent) {a : Address}
    (ha : b.pool.addressOf c = some a) : b.Owns c a := by
  refine ⟨ha, fun d hd => ?_⟩
  have hc := (h.addressOf_iff c a).mp ha
  have hd := (h.addressOf_iff d a).mp hd
  exact Option.some.inj (hd.symm.trans hc)

/-- A packet whose source is not the address of the connection changes nothing. -/
theorem handle_clientText_foreign {text : String} {f : Client.Frame}
    (hf : Client.Message.decode text = .ok (.packet f))
    (h : b.pool.addressOf c ≠ some f.source) : b.handle now (.clientText c text) = b := by
  simp only [handle, receiveText, hf]
  rw [receivePacket_eq, if_neg h]

/-- **What a text of a client may change.** -/
theorem onBehalf_clientText (h : b.pool.Consistent) (now : Time) (c : ConnectionId)
    (text : String) : OnBehalf b (b.handle now (.clientText c text)) now c := by
  cases ht : Client.Message.decode text with
  | error e =>
    rw [handle_clientText_undecodable ht]
    exact OnBehalf.refl b now c
  | ok m =>
    cases m with
    | request name args =>
      simp only [handle, receiveText, ht]
      exact onBehalf_receiveRequest b now c name
    | packet f =>
      by_cases hc : b.pool.addressOf c = some f.source
      · simp only [handle, receiveText, ht]
        exact onBehalf_receivePacket (owns_of_addressOf h hc)
      · rw [handle_clientText_foreign ht hc]
        exact OnBehalf.refl b now c

/-- **A client speaks in nobody else's name.** After any events, a packet whose source is not the
address of the connection changes nothing; and whatever the connection sends, all that comes of it
is due to packets from the one address that it alone holds. -/
theorem clientText_source (h : b.IsReachable) (now : Time) (c : ConnectionId) (text : String) :
    (∀ f, Client.Message.decode text = .ok (.packet f) → b.pool.addressOf c ≠ some f.source →
      b.handle now (.clientText c text) = b) ∧
    OnBehalf b (b.handle now (.clientText c text)) now c :=
  ⟨fun _ hf hc => handle_clientText_foreign hf hc, onBehalf_clientText h.consistent now c text⟩

/-- Two clients hold an address each. What one of them says in the name of the other has no
effect. -/
theorem clientText_source_impostor :
    let start : Bridge := ⟨⟨⟨127, 254⟩, 2, 0, none⟩,
      .ofRoutes ⟨.empty, .empty, Pool.ofList [200]⟩ 32768, .ofBackends [] 0 "", []⟩
    let request := "\x7b\"type\":\"ctrl\",\"request\":\"allocate\"\x7d"
    let es : List (Time × Event) := [(0, .clientConnected ⟨"a"⟩ (.ofCapacity 16)),
      (1, .clientConnected ⟨"b"⟩ (.ofCapacity 16)), (2, .clientText ⟨"a"⟩ request),
      (3, .clientText ⟨"b"⟩ request)]
    let b := start.handleAll es
    let text :=
      "\x7b\"type\":\"pkt\",\"src\":\"200.2\",\"dst\":\"127.254\",\"payload\":\"ApmAAAQAAABB\"\x7d"
    b.pool.addressOf ⟨"b"⟩ = some ⟨200, 2⟩ ∧ b.handle 4 (.clientText ⟨"a"⟩ text) = b ∧
      OnBehalf b (b.handle 4 (.clientText ⟨"b"⟩ text)) 4 ⟨"b"⟩ := by
  intro start request es b text
  have hb : b.IsReachable := ⟨start, [200], es, rfl, rfl⟩
  have ha : b.pool.addressOf ⟨"a"⟩ = some ⟨200, 1⟩ := by decide
  have hf : Client.Message.decode text = .ok (.packet
      (.ofPacket ⟨⟨200, 2⟩, ⟨127, 254⟩, 0x99, 0x80, [0x41]⟩ 4)) := by
    subst text
    rfl
  refine ⟨by decide, ?_, (clientText_source hb 4 ⟨"b"⟩ text).2⟩
  refine (clientText_source hb 4 ⟨"a"⟩ text).1 _ hf ?_
  rw [ha]
  decide

end Econet.Bridge
