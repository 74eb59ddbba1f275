import Econet.Proofs.Bridge.Delivery

/-!
# Whose activity sessions notice

An event brings at most one packet in. A session notices activity when a packet from its own station
is delivered, whoever sent that packet; nothing else that happens to the bridge reaches sessions,
housekeeping apart. A browser client's packets are delivered only from the address that the client
holds at that moment.

## Main definitions

* `Bridge.delivered? b e`: the packet that is delivered when the event `e` happens to `b`
* `Bridge.activeAt? b e`: the station that is active by it
* `Bridge.ComesFrom b a e`: the event `e` brings something in from the station `a`

## Main results

* `Bridge.register_handle`: the register after an event
* `Bridge.session_handle`: the session of a station after an event
* `Bridge.comesFrom_of_activeAt?`: who makes a station active
-/

namespace Econet

open Account (Register Session Time)
open Client (ConnectionId Pool)

namespace Bridge

variable {b : Bridge} {a : Address}

/-! ### What is delivered -/

/-- The packet that a header lets through. -/
def letThrough (h : Header) (p : Packet) : Option Packet := if h.isConsumed then none else some p

/-- The packet that is delivered when an event happens. -/
def delivered? (b : Bridge) : Event → Option Packet
  | .datagram peer bytes =>
    match Aun.Frame.decode bytes, peer.ipv4?, b.router.routes.aun.addressOfSocket peer with
    | .ok f, some _, some sender =>
      (f.packet (b.context.withSender sender)).toOption.bind (letThrough f.header)
    | _, _, _ => none
  | .clientText c text =>
    match Client.Message.decode text with
    | .ok (.packet f) =>
      -- Nobody may send in the name of another station.
      if b.pool.addressOf c = some f.source then letThrough f.header f.packet else none
    | _ => none
  | .serialLine line =>
    match Piconet.Line.parse line.toList with
    | .ok (.packet f) => letThrough f.header (f.packet b.context.localNetwork)
    | _ => none
  | .clientConnected _ _ | .clientLeft _ | .clientLink _ _ | .serialClosed | .serialLink _
  | .housekeeping => none

/-- The station that is active when an event happens. -/
def activeAt? (b : Bridge) (e : Event) : Option Address := (b.delivered? e).map (·.source)

/-- The register after a packet is delivered, if one is. -/
def notice (m : Register) (now : Time) (p : Option Packet) : Register :=
  match p with
  | some p => m.touch p.source now
  | none => m

theorem register_forward (b : Bridge) (origin : Transport) (p : Packet) :
    (b.forward origin p).register = b.register := by
  unfold forward
  split
  · rfl
  · split <;> rfl

theorem register_accept_eq (b : Bridge) (now : Time) (origin : Transport) (h : Header)
    (p : Packet) : (b.accept now origin h p).register = notice b.register now (letThrough h p) := by
  unfold accept letThrough
  split
  · rfl
  · exact register_forward _ origin p

theorem register_receiveFrame (b : Bridge) (now : Time) (peer : Socket) (ip : Ipv4)
    (sender : Address) (f : Aun.Frame) :
    (b.receiveFrame now peer ip sender f).register =
      notice b.register now
        ((f.packet (b.context.withSender sender)).toOption.bind (letThrough f.header)) := by
  rw [receiveFrame_eq]
  cases hp : f.packet (b.context.withSender sender) with
  | ok p =>
    show (Bridge.accept _ now .aun f.header p).register = _
    rw [register_accept_eq, register_acknowledge]
    rfl
  | error e =>
    show (Bridge.acknowledge _ _ _).register = _
    rw [register_acknowledge]
    rfl

theorem register_receiveDatagram (b : Bridge) (now : Time) (peer : Socket) (bytes : List UInt8) :
    (b.receiveDatagram now peer bytes).register =
      notice b.register now (b.delivered? (.datagram peer bytes)) := by
  simp only [receiveDatagram, delivered?]
  cases Aun.Frame.decode bytes with
  | error e => rfl
  | ok f =>
    cases peer.ipv4? with
    | none => rfl
    | some ip =>
      cases b.router.routes.aun.addressOfSocket peer with
      | none => rfl
      | some sender => exact register_receiveFrame b now peer ip sender f

theorem register_receiveText (b : Bridge) (now : Time) (c : ConnectionId) (text : String) :
    (b.receiveText now c text).register =
      notice b.register now (b.delivered? (.clientText c text)) := by
  simp only [receiveText, delivered?]
  cases Client.Message.decode text with
  | error e => rfl
  | ok m =>
    cases m with
    | request name args => rfl
    | packet f =>
      show (b.receivePacket now c f).register = _
      rw [receivePacket_eq]
      dsimp only
      split
      · rw [register_accept_eq, register_acknowledge]
      · rfl

theorem register_receiveLine (b : Bridge) (now : Time) (line : String) :
    (b.receiveLine now line).register =
      notice b.register now (b.delivered? (.serialLine line)) := by
  simp only [receiveLine, delivered?]
  cases Piconet.Line.parse line.toList with
  | error e => rfl
  | ok l =>
    cases l with
    | packet f => exact register_accept_eq b now .piconet f.header _
    | _ => rfl

/-- **The register after an event**: the sender of what is delivered is active, and housekeeping
ends idle sessions. -/
theorem register_handle (b : Bridge) (now : Time) (e : Event) :
    (b.handle now e).register =
      match e with
      | .housekeeping => b.register.evict now
      | e => notice b.register now (b.delivered? e) := by
  cases e with
  | datagram peer bytes => exact register_receiveDatagram b now peer bytes
  | clientText c text => exact register_receiveText b now c text
  | serialLine line => exact register_receiveLine b now line
  | _ => rfl

/-- **The session of a station after an event.** It notices the station's activity and may end by
housekeeping; nothing else happens to it. -/
theorem session_handle (b : Bridge) (now : Time) (e : Event) (a : Address) :
    (b.activeAt? e = some a ∧
      (b.handle now e).register.session a = (b.register.session a).map (·.touch now)) ∨
    (b.activeAt? e ≠ some a ∧ (b.handle now e).register.session a = b.register.session a) ∨
    (e = .housekeeping ∧ (b.handle now e).register.session a =
      (b.register.session a).filter fun s => !s.isExpired b.register.maxIdle now) := by
  -- Housekeeping apart, a packet is all that the register gets to see.
  have hnotice (m : Register) (p : Option Packet) :
      (p.map (·.source) = some a ∧
        (notice m now p).session a = (m.session a).map (·.touch now)) ∨
      (p.map (·.source) ≠ some a ∧ (notice m now p).session a = m.session a) := by
    cases p with
    | none => exact .inr ⟨by simp, rfl⟩
    | some p =>
      simp only [notice, Register.session_touch, Option.map_some, ne_eq, Option.some.injEq]
      by_cases hp : p.source = a
      · exact .inl ⟨hp, if_pos hp⟩
      · exact .inr ⟨hp, if_neg hp⟩
  rw [register_handle]
  split
  · exact .inr (.inr ⟨rfl, Register.session_evict b.register now a⟩)
  · rcases hnotice b.register (b.delivered? _) with h | h
    · exact .inl h
    · exact .inr (.inl h)

theorem maxIdle_handle (b : Bridge) (now : Time) (e : Event) :
    (b.handle now e).register.maxIdle = b.register.maxIdle := by
  rw [register_handle]
  split
  · rfl
  · unfold notice
    split <;> rfl

/-! ### Who is active -/

theorem letThrough_eq_some {h : Header} {p q : Packet} (hq : letThrough h p = some q) : q = p := by
  unfold letThrough at hq
  split at hq
  · cases hq
  · exact (Option.some.inj hq).symm

/-- What an event brings in comes from a station: a browser client holds its address at that
moment, the map knows the host by it, or the serial adapter has a packet from it. -/
inductive ComesFrom (b : Bridge) (a : Address) : Event → Prop where
  | client {c : ConnectionId} {text : String} (h : b.pool.addressOf c = some a) :
    ComesFrom b a (.clientText c text)
  | host {peer : Socket} {bytes : List UInt8}
    (h : b.router.routes.aun.addressOfSocket peer = some a) :
    ComesFrom b a (.datagram peer bytes)
  | adapter {line : String} {f : Piconet.Frame}
    (hline : Piconet.Line.parse line.toList = .ok (.packet f))
    (hsource : (f.packet b.context.localNetwork).source = a) : ComesFrom b a (.serialLine line)

/-- **Who makes a station active.** -/
theorem comesFrom_of_activeAt? {e : Event} (h : b.activeAt? e = some a) : b.ComesFrom a e := by
  obtain ⟨p, hp, rfl⟩ := Option.map_eq_some_iff.mp h
  cases e with
  | datagram peer bytes =>
    simp only [delivered?] at hp
    split at hp
    · next f ip sender hf hip hsender =>
      obtain ⟨q, hq, hp⟩ := Option.bind_eq_some_iff.mp hp
      rw [letThrough_eq_some hp]
      -- The frame names no source; it is the address by which the map knows the host.
      cases hq
      exact .host hsender
    · cases hp
  | clientText c text =>
    simp only [delivered?] at hp
    split at hp
    · next f hf =>
      split at hp
      · next hc =>
        rw [letThrough_eq_some hp]
        exact .client hc
      · cases hp
    · cases hp
  | serialLine line =>
    simp only [delivered?] at hp
    split at hp
    · next f hf => exact .adapter hf (letThrough_eq_some hp ▸ rfl)
    · cases hp
  | _ => cases hp

/-- What a client says that does not hold the address is nothing to the session there. -/
theorem session_clientText_of_ne {c : ConnectionId} (h : b.pool.addressOf c ≠ some a) (now : Time)
    (text : String) :
    (b.handle now (.clientText c text)).register.session a = b.register.session a := by
  rcases b.session_handle now (.clientText c text) a with ⟨hactive, -⟩ | ⟨-, hsame⟩ | ⟨he, -⟩
  · cases comesFrom_of_activeAt? hactive with
    | client hc => exact absurd hc h
  · exact hsame
  · cases he

end Bridge

end Econet
