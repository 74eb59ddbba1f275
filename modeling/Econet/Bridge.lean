import Econet.Account.Register
import Econet.Piconet.Line
import Econet.Router
import Econet.Service

/-!
# The bridge

The bridge joins the transports. Whatever comes in by one of them is acknowledged where that is
due, then shown to the services if it is for the bridge or for everybody, and otherwise sent on
by the transport of its destination. All that happens to the bridge is an event at a time, and
events are dealt with one by one. What happens to a link between those that the bridge is told of,
for one that its far end reads a text, is an event as well.

## Main definitions

* `Bridge`: the state of the bridge
* `Event`: what happens to it
* `Bridge.deliver`: what becomes of a packet that came in
* `Bridge.handle`, `Bridge.handleAll`, `Bridge.run`: one event, several, and all until the end

## Main results

* `Bridge.handleAll_append`: a run is the run of its parts
* `Bridge.handle_clientText_undecodable`: a text that cannot be read changes nothing
-/

namespace Econet

open Account (Register Time)
open Client (ConnectionId Envelope)

/-- The state of the bridge. -/
structure Bridge where
  context : Context
  router : Router
  register : Register
  /-- The services, in the order in which they see packets. -/
  services : List Service

/-- What happens to the bridge and to its links. -/
inductive Event where
  | datagram (sender : Socket) (bytes : List UInt8)
  | clientConnected (client : ConnectionId) (link : Link)
  | clientText (client : ConnectionId) (text : String)
  | clientLeft (client : ConnectionId)
  /-- The link of a browser client changes, of which the bridge is not told. -/
  | clientLink (client : ConnectionId) (change : Link.Change)
  | serialLine (line : String)
  /-- The serial adapter is gone. -/
  | serialClosed
  /-- The link of the serial adapter changes, of which the bridge is not told. -/
  | serialLink (change : Link.Change)
  /-- It is time to look for idle sessions. -/
  | housekeeping

namespace Bridge

/-- The bridge with its router changed. -/
def mapRouter (b : Bridge) (f : Router → Router) : Bridge := { b with router := f b.router }

/-! ### Delivery -/

/-- The bridge after the services have seen a packet and their answers were sent. -/
def serve (b : Bridge) (p : Packet) : Bridge :=
  let (replies, services) := Service.offerAll b.services p
  { b with services, router := b.router.sendAll replies }

/-- A packet is for the services: it is for the bridge or for everybody. -/
def isForServices (b : Bridge) (p : Packet) : Bool :=
  p.destination = b.context.bridge || p.destination.isBroadcast

/-- A packet would go back to where it came from. Only browser clients are bridged to each
other. -/
def isEcho (b : Bridge) (origin : Transport) (p : Packet) : Bool :=
  origin ≠ .webSocket && b.router.routes.transportTo p.destination = some origin

/-- The bridge after a packet is passed on to the services or to its destination. -/
def forward (b : Bridge) (origin : Transport) (p : Packet) : Bridge :=
  if b.isForServices p then b.serve p
  else if b.isEcho origin p then b
  else b.mapRouter fun r => (Router.send p r).2

/-- The bridge after a packet came in by a transport. -/
def deliver (b : Bridge) (now : Time) (origin : Transport) (p : Packet) : Bridge :=
  { b with register := b.register.touch p.source now }.forward origin p

/-- The bridge after a frame came in. Frames that only the transport cares about go no
further. -/
def accept (b : Bridge) (now : Time) (origin : Transport) (h : Header) (p : Packet) : Bridge :=
  if h.isConsumed then b else b.deliver now origin p

/-! ### Events -/

/-- The bridge after a frame came in from a host that the map knows. -/
def receiveFrame (b : Bridge) (now : Time) (peer : Socket) (ip : Ipv4) (sender : Address)
    (f : Aun.Frame) : Bridge :=
  let ctx := b.context.withSender sender
  let routes := b.router.routes
  let aun := routes.aun.prime (routes.aun.sourceKey ip peer.port) f.header.sequence
  -- Replies to this host go on from the number that it sent.
  let b := b.mapRouter fun r => { r with routes := { routes with aun } }
  -- The acknowledgement leaves before the packet is looked at.
  let b := match f.header.ack ctx with
    | some ack => b.mapRouter fun r => (Router.sendDatagram peer ack r).2
    | none => b
  match f.packet ctx with
  | .ok p => b.accept now .aun f.header p
  | .error _ => b

/-- The bridge after a datagram came in. One that cannot be read, or that comes from nobody the
map knows, is dropped. -/
def receiveDatagram (b : Bridge) (now : Time) (peer : Socket) (bytes : List UInt8) : Bridge :=
  match Aun.Frame.decode bytes, peer.ipv4?, b.router.routes.aun.addressOfSocket peer with
  | .ok f, some ip, some sender => b.receiveFrame now peer ip sender f
  | _, _, _ => b

/-- The request for an address. -/
def allocateRequest : String := "allocate"

/-- The answer to a request, and the pool afterwards. -/
def answerRequest (pool : Client.Pool) (c : ConnectionId) (request : String) :
    Envelope × Client.Pool :=
  if request = allocateRequest then
    match pool.allocate c with
    | (some a, pool) => (.response a.text, pool)
    | (none, pool) => (.refusal Client.Pool.noCapacity, pool)
  else (.refusal s!"unknown request {request}", pool)

/-- The bridge after a browser client's request is answered. -/
def receiveRequest (b : Bridge) (c : ConnectionId) (request : String) : Bridge :=
  let (answer, pool) := answerRequest b.router.routes.pool c request
  b.mapRouter fun r =>
    (Router.sendText c answer.text { r with routes := { r.routes with pool } }).2

/-- The bridge after a packet came in from a browser client. A client may only send from the
address that it holds. -/
def receivePacket (b : Bridge) (now : Time) (c : ConnectionId) (f : Client.Frame) : Bridge :=
  -- Nobody may send in the name of another station.
  if b.router.routes.pool.addressOf c = some f.source then
    let b := match f.ackText b.context with
      | some ack => b.mapRouter fun r => (Router.sendText c ack r).2
      | none => b
    b.accept now .webSocket f.header f.packet
  else b

/-- The bridge after a text came in from a browser client. -/
def receiveText (b : Bridge) (now : Time) (c : ConnectionId) (text : String) : Bridge :=
  match Client.Message.decode text with
  | .ok (.request name _) => b.receiveRequest c name
  | .ok (.packet f) => b.receivePacket now c f
  | .error _ => b

/-- The bridge after a line came in from the serial adapter. Lines that hold no packet only
inform. -/
def receiveLine (b : Bridge) (now : Time) (line : String) : Bridge :=
  match Piconet.Line.parse line.toList with
  | .ok (.packet f) => b.accept now .piconet f.header (f.packet b.context.localNetwork)
  | _ => b

/-- The bridge after an event. The sessions of a client that leaves last until they expire. -/
def handle (b : Bridge) (now : Time) : Event → Bridge
  | .datagram sender bytes => b.receiveDatagram now sender bytes
  | .clientConnected c link => b.mapRouter (·.connect c link)
  | .clientText c text => b.receiveText now c text
  | .clientLeft c => b.mapRouter (·.disconnect c)
  | .clientLink c change => b.mapRouter (·.changeLink c (·.change change))
  | .serialLine line => b.receiveLine now line
  | .serialClosed => b.mapRouter (·.withAdapter none)
  | .serialLink change => b.mapRouter (·.changeAdapterLink (·.change change))
  | .housekeeping => { b with register := b.register.evict now }

/-- The bridge after several events. -/
def handleAll (b : Bridge) (es : List (Time × Event)) : Bridge :=
  es.foldl (fun b e => b.handle e.1 e.2) b

/-- The bridge after all events, with the serial adapter stopped. -/
def run (b : Bridge) (es : List (Time × Event)) : Bridge := (b.handleAll es).mapRouter (·.stop)

/-! ### Small facts -/

theorem handleAll_append (b : Bridge) (es fs : List (Time × Event)) :
    b.handleAll (es ++ fs) = (b.handleAll es).handleAll fs :=
  List.foldl_append

theorem handle_clientText_undecodable {b : Bridge} {now : Time} {c : ConnectionId} {text : String}
    {e : FrameError} (h : Client.Message.decode text = .error e) :
    b.handle now (.clientText c text) = b := by
  simp [handle, receiveText, h]

end Bridge

end Econet
