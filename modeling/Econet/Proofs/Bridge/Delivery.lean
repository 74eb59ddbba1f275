import Econet.Bridge
import Econet.Proofs.Bridge.Sending

/-!
# Delivery of packets, and the bridges that events lead to

A packet that comes in is acknowledged and then dealt with: services see it, a session notices it,
and frames of it or of answers to it are sent. Over any events, the pool of a bridge changes only
as connections ask it to, so that it remains consistent.

## Main definitions

* `Service.Saw P s t`: from `s` to `t` the service saw packets with the property `P`
* `Bridge.Dispatched P ss r s`: from `r` to `s` the router was given a packet with the property
  `P`, or the answers of `ss` to one, or nothing
* `Bridge.IsFor P ss m`: the message `m` is a frame of such a packet or of such an answer
* `Pool.Evolves p q`: operations of connections lead from `p` to `q`
* `Bridge.IsReachable b`: events lead to `b` from a bridge with a new pool

## Main results

* `Bridge.services_accept`, `Bridge.register_accept`, `Bridge.dispatched_accept`: what becomes of
  a packet that comes in
* `Bridge.evolves_handle`: an event changes the pool by operations of connections
* `Bridge.IsReachable.consistent`: the pool of a reachable bridge is consistent
-/

namespace Econet

open Account (Time)
open Client (ConnectionId Pool)

/-! ### What services see -/

namespace Service

/-- The service saw more packets, all of one kind. -/
def Saw (P : Packet → Prop) (s t : Service) : Prop :=
  ∃ ps, t = { s with seen := s.seen ++ ps } ∧ ∀ p ∈ ps, P p

variable {P : Packet → Prop} {p : Packet}

theorem Saw.refl (P : Packet → Prop) (s : Service) : Saw P s s := ⟨[], by simp, by simp⟩

theorem saw_offer (hp : P p) (s : Service) : Saw P s (s.offer p).2 := by
  unfold offer
  split
  · exact ⟨[p], rfl, by simpa using hp⟩
  · exact Saw.refl P s

theorem forall₂_saw_refl (P : Packet → Prop) (ss : List Service) : List.Forall₂ (Saw P) ss ss :=
  List.forall₂_same.mpr fun s _ => Saw.refl P s

theorem forall₂_saw_offerAll (hp : P p) (ss : List Service) :
    List.Forall₂ (Saw P) ss (offerAll ss p).2 := by
  induction ss with
  | nil => exact .nil
  | cons s ss ih => exact .cons (saw_offer hp s) ih

end Service

namespace Bridge

/-! ### What becomes of a packet -/

/-- What the router is given on behalf of packets of one kind: nothing, one of them, or the answers
of services to one of them. -/
inductive Dispatched (P : Packet → Prop) (ss : List Service) (r : Router) : Router → Prop where
  | nothing : Dispatched P ss r r
  | packet {p : Packet} (hp : P p) : Dispatched P ss r (Router.send p r).2
  | answers {p : Packet} (hp : P p) : Dispatched P ss r (r.sendAll (Service.offerAll ss p).1)

/-- The message is a frame of a packet of one kind, or of an answer of services to one. -/
def IsFor (P : Packet → Prop) (ss : List Service) (m : Message) : Prop :=
  ∃ p, P p ∧ (m.Carries p ∨ ∃ q ∈ (Service.offerAll ss p).1, m.Carries q)

variable {P : Packet → Prop} {p : Packet}

theorem Dispatched.sends {ss : List Service} {r s : Router} (h : Dispatched P ss r s) :
    Router.Sends (IsFor P ss) r s := by
  cases h with
  | nothing => exact Router.Sends.refl _ r
  | packet hp => exact (Router.sends_send _ r).mono fun m hm => ⟨_, hp, .inl hm⟩
  | answers hp => exact (Router.sends_sendAll _ r).mono fun m hm => ⟨_, hp, .inr hm⟩

theorem dispatched_accept (hp : P p) (b : Bridge) (now : Time) (origin : Transport) (h : Header) :
    Dispatched P b.services b.router (b.accept now origin h p).router := by
  unfold accept
  split
  · exact .nothing
  · unfold deliver forward
    split
    · exact .answers hp
    · split
      · exact .nothing
      · exact .packet hp

theorem services_accept (hp : P p) (b : Bridge) (now : Time) (origin : Transport) (h : Header) :
    List.Forall₂ (Service.Saw P) b.services (b.accept now origin h p).services := by
  unfold accept
  split
  · exact Service.forall₂_saw_refl P b.services
  · unfold deliver forward
    split
    · exact Service.forall₂_saw_offerAll hp b.services
    · split
      · exact Service.forall₂_saw_refl P b.services
      · exact Service.forall₂_saw_refl P b.services

theorem register_accept (b : Bridge) (now : Time) (origin : Transport) (h : Header) (p : Packet) :
    (b.accept now origin h p).register = b.register ∨
      (b.accept now origin h p).register = b.register.touch p.source now := by
  unfold accept
  split
  · exact .inl rfl
  · right
    unfold deliver forward
    split
    · rfl
    · split <;> rfl

/-! ### Acknowledgements -/

/-- The bridge after an acknowledgement was sent, if one is due. -/
def acknowledge {α : Type} (b : Bridge) (send : α → Router.Sending) (ack : Option α) : Bridge :=
  match ack with
  | some a => b.mapRouter fun r => (send a r).2
  | none => b

/-- The bridge after the sequence number of a host was noted. -/
def prime (b : Bridge) (peer : Socket) (ip : Ipv4) (sequence : UInt32) : Bridge :=
  let key := b.router.routes.aun.sourceKey ip peer.port
  b.mapRouter fun r =>
    { r with routes := { r.routes with aun := r.routes.aun.prime key sequence } }

theorem receiveFrame_eq (b : Bridge) (now : Time) (peer : Socket) (ip : Ipv4) (sender : Address)
    (f : Aun.Frame) :
    b.receiveFrame now peer ip sender f =
      let acked := (b.prime peer ip f.header.sequence).acknowledge (Router.sendDatagram peer)
        (f.header.ack (b.context.withSender sender))
      match f.packet (b.context.withSender sender) with
      | .ok p => acked.accept now .aun f.header p
      | .error _ => acked := by
  unfold receiveFrame acknowledge
  dsimp only
  cases f.header.ack (b.context.withSender sender) <;> rfl

theorem receivePacket_eq (b : Bridge) (now : Time) (c : ConnectionId) (f : Client.Frame) :
    b.receivePacket now c f =
      if b.router.routes.pool.addressOf c = some f.source then
        (b.acknowledge (Router.sendText c) (f.ackText b.context)).accept now .webSocket f.header
          f.packet
      else b := by
  unfold receivePacket acknowledge
  split
  · cases f.ackText b.context <;> rfl
  · rfl

variable {α : Type}

theorem sends_acknowledge {P : Message → Prop} {send : α → Router.Sending}
    (h : ∀ a r, Router.Sends P r (send a r).2) (b : Bridge) (ack : Option α) :
    Router.Sends P b.router (b.acknowledge send ack).router := by
  cases ack with
  | none => exact Router.Sends.refl P _
  | some a => exact h a b.router

@[simp] theorem services_acknowledge (b : Bridge) (send : α → Router.Sending) (ack : Option α) :
    (b.acknowledge send ack).services = b.services := by
  cases ack <;> rfl

@[simp] theorem register_acknowledge (b : Bridge) (send : α → Router.Sending) (ack : Option α) :
    (b.acknowledge send ack).register = b.register := by
  cases ack <;> rfl

end Bridge

/-! ### What becomes of the pool -/

namespace Client.Pool

/-- Operations of connections lead from one pool to the other. -/
def Evolves (p q : Pool) : Prop := ∃ ops, q = p.run ops

variable {p q r : Pool}

theorem Evolves.refl (p : Pool) : Evolves p p := ⟨[], rfl⟩

theorem Evolves.trans (h : Evolves p q) (k : Evolves q r) : Evolves p r := by
  obtain ⟨ops, rfl⟩ := h
  obtain ⟨ops', rfl⟩ := k
  exact ⟨ops ++ ops', (run_append p ops ops').symm⟩

theorem evolves_apply (p : Pool) (op : Operation) : Evolves p (p.apply op) := ⟨[op], rfl⟩

theorem Consistent.evolves (h : p.Consistent) (k : Evolves p q) : q.Consistent := by
  obtain ⟨ops, rfl⟩ := k
  exact h.run ops

end Client.Pool

theorem Router.Sends.evolves {P : Message → Prop} {r s : Router} (h : Router.Sends P r s) :
    Pool.Evolves r.routes.pool s.routes.pool := by
  obtain ⟨cs, hcs⟩ := h.pool
  exact ⟨_, hcs⟩

namespace Bridge

/-- The pool of a bridge. -/
abbrev pool (b : Bridge) : Pool := b.router.routes.pool

theorem evolves_accept (b : Bridge) (now : Time) (origin : Transport) (h : Header) (p : Packet) :
    Pool.Evolves b.pool (b.accept now origin h p).pool :=
  (dispatched_accept (P := fun _ => True) trivial b now origin h).sends.evolves

theorem evolves_receiveFrame (b : Bridge) (now : Time) (peer : Socket) (ip : Ipv4)
    (sender : Address) (f : Aun.Frame) :
    Pool.Evolves b.pool (b.receiveFrame now peer ip sender f).pool := by
  rw [receiveFrame_eq]
  generalize f.header.ack (b.context.withSender sender) = ack
  have hacked : Pool.Evolves b.pool
      ((b.prime peer ip f.header.sequence).acknowledge (Router.sendDatagram peer) ack).pool :=
    (sends_acknowledge (P := fun _ => True) (fun a r => Router.sends_sendDatagram trivial r)
      (b.prime peer ip f.header.sequence) _).evolves
  split
  · next p hp => exact hacked.trans (evolves_accept _ now .aun f.header p)
  · exact hacked

/-- A request changes the pool only if it asks for an address. -/
theorem answerRequest_snd (p : Pool) (c : ConnectionId) (request : String) :
    (answerRequest p c request).2 = p ∨ (answerRequest p c request).2 = (p.allocate c).2 := by
  unfold answerRequest
  split
  · right
    split
    · next h => rw [h]
    · next h => rw [h]
  · exact .inl rfl

theorem evolves_receiveRequest (b : Bridge) (c : ConnectionId) (request : String) :
    Pool.Evolves b.pool (b.receiveRequest c request).pool := by
  have hanswer : Pool.Evolves b.pool (answerRequest b.pool c request).2 := by
    rcases answerRequest_snd b.pool c request with h | h
    · rw [h]
      exact Pool.Evolves.refl _
    · rw [h]
      exact b.pool.evolves_apply (.allocate c)
  have htext : Router.Sends (fun _ => True)
      { b.router with routes := { b.router.routes with
          pool := (answerRequest b.pool c request).2 } }
      (b.receiveRequest c request).router := Router.sends_sendText trivial _
  exact hanswer.trans htext.evolves

theorem evolves_receiveText (b : Bridge) (now : Time) (c : ConnectionId) (text : String) :
    Pool.Evolves b.pool (b.receiveText now c text).pool := by
  unfold receiveText
  split
  · next request args h => exact b.evolves_receiveRequest c request
  · next f h =>
    rw [receivePacket_eq]
    split
    · have hacked : Pool.Evolves b.pool
          (b.acknowledge (Router.sendText c) (f.ackText b.context)).pool :=
        (sends_acknowledge (P := fun _ => True)
          (fun a r => Router.sends_sendText trivial r) b _).evolves
      exact hacked.trans (evolves_accept _ now .webSocket f.header f.packet)
    · exact Pool.Evolves.refl _
  · exact Pool.Evolves.refl _

/-- **An event changes the pool by operations of connections.** -/
theorem evolves_handle (b : Bridge) (now : Time) (e : Event) :
    Pool.Evolves b.pool (b.handle now e).pool := by
  cases e with
  | datagram sender bytes =>
    simp only [handle, receiveDatagram]
    split
    · exact evolves_receiveFrame b now sender _ _ _
    · exact Pool.Evolves.refl _
  | clientText c text => exact b.evolves_receiveText now c text
  | clientLeft c => exact b.pool.evolves_apply (.free c)
  | serialLine line =>
    simp only [handle, receiveLine]
    split
    · exact evolves_accept b now .piconet _ _
    · exact Pool.Evolves.refl _
  | _ => exact Pool.Evolves.refl _

theorem evolves_handleAll (b : Bridge) (es : List (Time × Event)) :
    Pool.Evolves b.pool (b.handleAll es).pool := by
  induction es using List.reverseRecOn with
  | nil => exact Pool.Evolves.refl _
  | append_singleton es e ih =>
    rw [handleAll_append]
    exact ih.trans (evolves_handle _ e.1 e.2)

/-- Some events lead to the bridge from one whose pool is new. -/
def IsReachable (b : Bridge) : Prop :=
  ∃ (start : Bridge) (ns : List UInt8) (es : List (Time × Event)),
    start.pool = Pool.ofList ns ∧ b = start.handleAll es

/-- **The pool of a reachable bridge is consistent.** -/
theorem IsReachable.consistent {b : Bridge} (h : b.IsReachable) : b.pool.Consistent := by
  obtain ⟨start, ns, es, hstart, rfl⟩ := h
  obtain ⟨ops, hops⟩ := start.evolves_handleAll es
  rw [hops, hstart]
  exact Pool.consistent_run ns ops

end Bridge

end Econet
