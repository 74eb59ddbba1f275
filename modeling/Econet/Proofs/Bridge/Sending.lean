import Econet.Proofs.Client.PoolBijection
import Econet.Router

/-!
# What sending does to a router

To send a packet means to hand messages to ways out, each of which carries the packet in the frame
of its transport, and to use up sequence numbers. Nobody gains or loses an address by it.

## Main definitions

* `Message.Carries p m`: the message `m` is a frame of the packet `p`
* `Router.Sends P r s`: from `r` to `s` only messages with the property `P` were sent

## Main results

* `Router.sends_send`: to send a packet is to send messages that carry it
* `Router.sends_sendAll`: to send several packets is to send messages that carry one of them
-/

namespace Econet

open Client (ConnectionId Pool)

/-- The message is a frame of the packet, under some sequence number and for some wire. -/
def Message.Carries (p : Packet) : Message → Prop
  | .datagram _ bytes => ∃ sequence, bytes = (Aun.Frame.ofPacket p sequence).encode
  | .text _ written => ∃ sequence, written = (Client.Frame.ofPacket p sequence).text
  | .line written => ∃ localNetwork, written = Piconet.command p localNetwork

namespace Router

/-- Only messages of a kind were sent: the journal grew by those, and the pool gave out sequence
numbers and nothing else. -/
structure Sends (P : Message → Prop) (r s : Router) : Prop where
  /-- What was tried is added to the journal. -/
  journal : ∃ attempts, s.journal = r.journal ++ attempts ∧ ∀ a ∈ attempts, P a.message
  /-- Sequence numbers of clients are used up. -/
  pool : ∃ cs : List ConnectionId, s.routes.pool = r.routes.pool.run (cs.map .advance)

variable {P Q : Message → Prop} {r s t : Router}

theorem Sends.refl (P : Message → Prop) (r : Router) : Sends P r r :=
  ⟨⟨[], by simp⟩, ⟨[], rfl⟩⟩

theorem Sends.trans (h : Sends P r s) (k : Sends P s t) : Sends P r t := by
  obtain ⟨as, has, hP⟩ := h.journal
  obtain ⟨bs, hbs, hQ⟩ := k.journal
  obtain ⟨cs, hcs⟩ := h.pool
  obtain ⟨ds, hds⟩ := k.pool
  refine ⟨⟨as ++ bs, by rw [hbs, has, List.append_assoc], ?_⟩, ⟨cs ++ ds, ?_⟩⟩
  · intro a ha
    rcases List.mem_append.mp ha with ha | ha
    · exact hP a ha
    · exact hQ a ha
  · rw [hds, hcs, List.map_append, Pool.run_append]

theorem Sends.mono (h : Sends P r s) (hPQ : ∀ m, P m → Q m) : Sends Q r s := by
  obtain ⟨as, has, hP⟩ := h.journal
  exact ⟨⟨as, has, fun a ha => hPQ _ (hP a ha)⟩, h.pool⟩

/-- Sending leaves the addresses of clients alone. -/
theorem Sends.addressOf (h : Sends P r s) (c : ConnectionId) :
    s.routes.pool.addressOf c = r.routes.pool.addressOf c := by
  obtain ⟨cs, hcs⟩ := h.pool
  rw [hcs]
  clear hcs
  induction cs using List.reverseRecOn with
  | nil => rfl
  | append_singleton cs d ih =>
    rw [List.map_append, Pool.run_append]
    exact ih

/-! ### Single messages -/

theorem sends_note {m : Message} (hm : P m) (taken : Bool) : Sends P r (r.note m taken) := by
  refine ⟨⟨[⟨m, taken⟩], rfl, ?_⟩, ⟨[], rfl⟩⟩
  intro a ha
  rw [List.mem_singleton.mp ha]
  exact hm

theorem sends_sendDatagram {target : Socket} {bytes : List UInt8}
    (h : P (.datagram target bytes)) (r : Router) : Sends P r (sendDatagram target bytes r).2 :=
  sends_note h _

theorem sends_sendText {c : ConnectionId} {text : String} (h : P (.text c text)) (r : Router) :
    Sends P r (sendText c text r).2 := by
  unfold sendText
  split
  · exact ⟨(sends_note h true).journal, ⟨[], rfl⟩⟩
  · exact sends_note h false

theorem sends_sendLine {line : String} (h : P (.line line)) (r : Router) :
    Sends P r (sendLine line r).2 := by
  unfold sendLine trySendLine
  split
  · exact ⟨(sends_note h true).journal, ⟨[], rfl⟩⟩
  · exact sends_note h false
  · exact sends_note h false

theorem Sends.counted {f : Sending} (h : Sends P r (f r).2) (t : Transport) :
    Sends P r (counted t f r).2 := by
  unfold Router.counted
  split
  · exact ⟨h.journal, h.pool⟩
  · exact h

theorem Sends.both {f g : Sending} (hf : Sends P r (f r).2) (hg : ∀ s, Sends P s (g s).2) :
    Sends P r (both f g r).2 :=
  hf.trans (hg _)

theorem Sends.orDrop (h : Sends P r s) (taken : Bool) :
    Sends P r (if taken then s else s.drop) := by
  split
  · exact h
  · exact ⟨h.journal, h.pool⟩

/-! ### Packets -/

variable (p : Packet)

theorem sends_sendToClient (c : ConnectionId) (r : Router) :
    Sends (Message.Carries p) r (sendToClient p c r).2 := by
  have hadvance : Sends (Message.Carries p) r
      { r with routes := { r.routes with pool := r.routes.pool.advance c } } :=
    ⟨⟨[], by simp⟩, ⟨[c], rfl⟩⟩
  exact hadvance.trans ((sends_sendText ⟨_, rfl⟩ _).counted .webSocket)

theorem sends_sendToAdapter (r : Router) :
    Sends (Message.Carries p) r (sendToAdapter p r).2 := by
  unfold sendToAdapter
  split
  · exact (sends_sendLine ⟨_, rfl⟩ r).counted .piconet
  · exact Sends.refl _ r

theorem sends_sendToHost (r : Router) : Sends (Message.Carries p) r (sendToHost p r).2 := by
  unfold sendToHost
  split
  · next e he =>
    have hadvance : Sends (Message.Carries p) r
        { r with routes := { r.routes with aun := r.routes.aun.advance e.text } } :=
      ⟨⟨[], by simp⟩, ⟨[], rfl⟩⟩
    exact hadvance.trans ((sends_sendDatagram ⟨_, rfl⟩ _).counted .aun)
  · exact Sends.refl _ r

theorem sends_sendToEach (cs : List ConnectionId) (r : Router) :
    Sends (Message.Carries p) r (sendToEach p cs r).2 := by
  induction cs generalizing r with
  | nil => exact Sends.refl _ r
  | cons c cs ih => exact (sends_sendToClient p c r).both ih

theorem sends_sendToNetwork (r : Router) : Sends (Message.Carries p) r (sendToNetwork p r).2 := by
  refine (sends_sendToEach p _ r).both fun s => Sends.both ?_ (sends_sendToHost p)
  split
  · exact sends_sendToAdapter p s
  · exact Sends.refl _ s

theorem sends_sendToStation (r : Router) : Sends (Message.Carries p) r (sendToStation p r).2 := by
  unfold sendToStation
  split
  · next t ht =>
    cases t with
    | aun => exact sends_sendToHost p r
    | piconet => exact sends_sendToAdapter p r
    | webSocket =>
      simp only [sendBy]
      split
      · exact sends_sendToClient p _ r
      · exact Sends.refl _ r
  · exact Sends.refl _ r

/-- **To send a packet is to send messages that carry it.** -/
theorem sends_send (r : Router) : Sends (Message.Carries p) r (send p r).2 := by
  unfold send
  dsimp only
  split
  · exact (sends_sendToNetwork p r).orDrop _
  · exact (sends_sendToStation p r).orDrop _

/-- To send several packets is to send messages that carry one of them. -/
theorem sends_sendAll (ps : List Packet) (r : Router) :
    Sends (fun m => ∃ q ∈ ps, Message.Carries q m) r (r.sendAll ps) := by
  induction ps generalizing r with
  | nil => exact Sends.refl _ r
  | cons q ps ih =>
    have hq := (sends_send q r).mono fun m hm => (⟨q, List.mem_cons_self, hm⟩ :
      ∃ q' ∈ q :: ps, Message.Carries q' m)
    refine hq.trans ((ih (send q r).2).mono ?_)
    rintro m ⟨q', hq', hm⟩
    exact ⟨q', List.mem_cons_of_mem _ hq', hm⟩

end Router

end Econet
