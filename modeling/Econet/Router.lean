import Econet.Aun.Frame
import Econet.Client.Frame
import Econet.Piconet.Adapter
import Econet.Routes

/-!
# The router

All that leaves the bridge leaves through the router. It looks for the transport of a packet's
destination, numbers the packet, and hands it on. A packet that no transport takes is dropped.
The journal holds all that was tried, in order.

## Main definitions

* `Router`: the routes, the ways out, and the journal
* `Attempt`: one message that was handed to a way out
* `Router.sendDatagram`, `sendText`, `sendLine`: single messages
* `Router.send`: sends a packet to a station or to all stations of a network
* `Router.connect`, `Router.disconnect`: browser clients come and go
-/

namespace Econet

open Client (ConnectionId)

/-! ### Messages and ways out -/

/-- What the router hands to a way out. -/
inductive Message where
  | datagram (target : Socket) (bytes : List UInt8)
  | text (client : ConnectionId) (text : String)
  | line (line : String)
  deriving DecidableEq, Repr

/-- A message that was handed to a way out. -/
structure Attempt where
  message : Message
  isTaken : Bool
  deriving DecidableEq, Repr

/-- The way out to hosts. -/
structure Sink where
  /-- Whether a datagram is taken, after all that was tried before. -/
  takes : List Attempt → Socket → List UInt8 → Bool

/-- How many packets each transport took, and how many none did. With a packet every nanosecond a
counter of 64 bits would last for five centuries, so these have no bound. -/
structure Counts where
  aun : Nat := 0
  webSocket : Nat := 0
  piconet : Nat := 0
  /-- Packets that no transport took. -/
  dropped : Nat := 0
  deriving DecidableEq, Repr

/-- One more packet of a transport. -/
def Counts.add (c : Counts) : Transport → Counts
  | .aun => { c with aun := c.aun + 1 }
  | .webSocket => { c with webSocket := c.webSocket + 1 }
  | .piconet => { c with piconet := c.piconet + 1 }

/-- The routes and the ways out. -/
structure Router where
  routes : Routes
  /-- The port of hosts that have none of their own. -/
  aunPort : UInt16
  sink : Option Sink
  clients : Table ConnectionId Link
  adapter : Option Piconet.Adapter
  counts : Counts
  /-- All that was tried so far, oldest first. -/
  journal : List Attempt

namespace Router

/-- The router without ways out. -/
def ofRoutes (routes : Routes) (aunPort : UInt16) : Router :=
  ⟨routes, aunPort, none, .empty, none, {}, []⟩

/-- Number of browser clients. -/
def clientCount (r : Router) : Nat := r.clients.size

/-- The router with one more attempt in its journal. -/
def note (r : Router) (message : Message) (isTaken : Bool) : Router :=
  { r with journal := r.journal ++ [⟨message, isTaken⟩] }

/-- The router with one more packet counted. -/
def count (r : Router) (t : Transport) : Router := { r with counts := r.counts.add t }

/-- The router with one more packet dropped. -/
def drop (r : Router) : Router :=
  { r with counts := { r.counts with dropped := r.counts.dropped + 1 } }

/-! ### Sending -/

/-- Something is sent: whether any transport took it, and the router afterwards. -/
abbrev Sending := Router → Bool × Router

/-- Nothing is sent. -/
def nothing : Sending := fun r => (false, r)

/-- Both are sent, one after the other; it is enough if one is taken. -/
def both (f g : Sending) : Sending := fun r =>
  ((f r).1 || (g (f r).2).1, (g (f r).2).2)

/-- Something is sent, and counted for a transport if it is taken. -/
def counted (t : Transport) (f : Sending) : Sending := fun r =>
  if (f r).1 then (true, (f r).2.count t) else (false, (f r).2)

/-- Sends a datagram to a host. -/
def sendDatagram (target : Socket) (bytes : List UInt8) : Sending := fun r =>
  let isTaken := match r.sink with
    | some s => s.takes r.journal target bytes
    | none => false
  (isTaken, r.note (.datagram target bytes) isTaken)

/-- Sends a text to a browser client. -/
def sendText (c : ConnectionId) (text : String) : Sending := fun r =>
  match (r.clients.get? c).map fun l : Link => l.send text with
  | some (.ok link) =>
    (true, { r with clients := r.clients.insert c link }.note (.text c text) true)
  | _ => (false, r.note (.text c text) false)

/-- Sends a line to the serial adapter: the reason if it is refused, and the router
afterwards. -/
def trySendLine (r : Router) (line : String) : Option LinkError × Router :=
  match r.adapter.map fun a : Piconet.Adapter => a.send line with
  | some (.ok adapter) => (none, { r with adapter := some adapter }.note (.line line) true)
  | some (.error e) => (some e, r.note (.line line) false)
  | none => (some .closed, r.note (.line line) false)

/-- Sends a line to the serial adapter. -/
def sendLine (line : String) : Sending := fun r =>
  ((r.trySendLine line).1.isNone, (r.trySendLine line).2)

/-- Sends lines to the serial adapter up to the first that is refused: the reason, if one is, and
the router afterwards. -/
def trySendLines (r : Router) : List String → Option LinkError × Router
  | [] => (none, r)
  | line :: lines =>
    match r.trySendLine line with
    | (none, r) => trySendLines r lines
    | (some e, r) => (some e, r)

/-- Sends a packet to a browser client, with the client's next number. -/
def sendToClient (p : Packet) (c : ConnectionId) : Sending := fun r =>
  let text := (Client.Frame.ofPacket p (r.routes.pool.nextSequence c)).text
  -- The number is used up, whether or not the text is taken.
  let r := { r with routes := { r.routes with pool := r.routes.pool.advance c } }
  counted .webSocket (sendText c text) r

/-- Sends a packet to the serial adapter. -/
def sendToAdapter (p : Packet) : Sending := fun r =>
  match r.adapter with
  | some a => counted .piconet (sendLine (Piconet.command p a.localNetwork)) r
  | none => (false, r)

/-- Sends a packet to an endpoint, with the endpoint's next number. -/
def sendToEndpoint (p : Packet) (e : Aun.Endpoint) : Sending := fun r =>
  let bytes := (Aun.Frame.ofPacket p (r.routes.aun.nextSequence e.text)).encode
  -- The number is used up, whether or not the datagram is taken.
  let r := { r with routes := { r.routes with aun := r.routes.aun.advance e.text } }
  counted .aun (sendDatagram (e.socket r.aunPort) bytes) r

/-- Sends a packet to the host of its destination. -/
def sendToHost (p : Packet) : Sending := fun r =>
  match r.routes.aun.endpointOf p.destination with
  | some e => sendToEndpoint p e r
  | none => (false, r)

/-- Sends a packet to each of several browser clients. -/
def sendToEach (p : Packet) (cs : List ConnectionId) : Sending :=
  cs.foldr (fun c f => both (sendToClient p c) f) nothing

/-- Sends a packet by one transport to the station that it is for. -/
def sendBy (t : Transport) (p : Packet) : Sending := fun r =>
  match t with
  | .webSocket =>
    match r.routes.pool.holderOf p.destination with
    | some c => sendToClient p c r
    | none => (false, r)
  | .piconet => sendToAdapter p r
  | .aun => sendToHost p r

/-- Sends a packet to the station that it is for. -/
def sendToStation (p : Packet) : Sending := fun r =>
  match r.routes.transportTo p.destination with
  | some t => sendBy t p r
  | none => (false, r)

/-- The browser clients on a network. -/
def clientsOn (r : Router) (network : UInt8) : List ConnectionId :=
  r.clients.keys.filter (r.routes.isClientOn network)

/-- Sends a packet to all stations of its destination's network, by every transport. -/
def sendToNetwork (p : Packet) : Sending := fun r =>
  let network := p.destination.network
  let toAdapter := if r.routes.networks.contains network then sendToAdapter p else nothing
  both (sendToEach p (r.clientsOn network)) (both toAdapter (sendToHost p)) r

/-- Sends a packet where it belongs. One that no transport takes is counted as dropped. -/
def send (p : Packet) : Sending := fun r =>
  let (isTaken, r) := if p.destination.isBroadcast then sendToNetwork p r else sendToStation p r
  (isTaken, if isTaken then r else r.drop)

/-- Sends several packets, one after the other. -/
def sendAll (r : Router) (ps : List Packet) : Router := ps.foldl (fun r p => (send p r).2) r

/-! ### Ways out come and go -/

/-- The router after a browser client has connected. -/
def connect (r : Router) (c : ConnectionId) (link : Link) : Router :=
  { r with clients := r.clients.insert c link }

/-- The router after a browser client has left, whose address is free then. -/
def disconnect (r : Router) (c : ConnectionId) : Router :=
  { r with
    routes := { r.routes with pool := r.routes.pool.free c }
    clients := r.clients.erase c }

/-- The router after something has happened to the link of a client. -/
def changeLink (r : Router) (c : ConnectionId) (f : Link → Link) : Router :=
  { r with clients := r.clients.modify c f }

/-- The router after something has happened to the link of the adapter. -/
def changeAdapterLink (r : Router) (f : Link → Link) : Router :=
  { r with adapter := r.adapter.map fun a : Piconet.Adapter => { a with link := f a.link } }

/-- The router with another serial adapter, or without one. -/
def withAdapter (r : Router) (adapter : Option Piconet.Adapter) : Router := { r with adapter }

/-- The router after the adapter was told to stop. -/
def stop (r : Router) : Router :=
  match r.adapter with
  | some _ => (sendLine Piconet.stopLine r).2
  | none => r

/-! ### Small facts -/

@[simp] theorem journal_note (r : Router) (m : Message) (isTaken : Bool) :
    (r.note m isTaken).journal = r.journal ++ [⟨m, isTaken⟩] := rfl

theorem counted_fst (t : Transport) (f : Sending) (r : Router) : (counted t f r).1 = (f r).1 := by
  unfold counted
  split <;> simp_all

@[simp] theorem journal_counted (t : Transport) (f : Sending) (r : Router) :
    (counted t f r).2.journal = (f r).2.journal := by
  unfold counted
  split <;> rfl

end Router

end Econet
