import Econet.Header

/-!
# AUN frames

A datagram carries one packet: the header and the data. It names no stations; the socket it
comes from tells the source, and the host that receives it is the destination.

## Main definitions

* `Frame.decode`, `Frame.encode`: datagrams to frames and back
* `Frame.ofPacket`: the frame that carries a packet
* `Frame.packet`: the packet of a frame that was received

## Main results

* `Frame.decode_encode`, `Frame.encode_of_decode`: reading and writing are inverse
-/

namespace Econet.Aun

/-- A datagram, read. -/
structure Frame where
  header : Header
  data : List UInt8
  deriving DecidableEq, Repr

namespace Frame

/-- The frame in a datagram. -/
def decode (raw : List UInt8) : Except FrameError Frame :=
  (Header.parse raw).map fun r => ⟨r.1, r.2⟩

/-- The datagram of a frame. -/
def encode (f : Frame) : List UInt8 := f.header.frame f.data

/-- The frame that carries a packet under a sequence number. -/
def ofPacket (p : Packet) (sequence : UInt32) : Frame where
  header :=
    { type := .toward p.destination, port := p.port, control := p.control, sequence := sequence }
  data := p.payload

/-- The packet of a frame from the sender that the context names to the bridge. -/
def packet (f : Frame) (ctx : Context) : Except FrameError Packet :=
  match ctx.sender with
  | some source => .ok ⟨source, ctx.bridge, f.header.port, f.header.control, f.data⟩
  | none => .error .unresolvedSource

@[simp] theorem decode_encode (f : Frame) : decode f.encode = .ok f := by
  simp [decode, encode, Header.parse_frame, Except.map]

theorem encode_of_decode {raw : List UInt8} {f : Frame} (h : decode raw = .ok f) :
    f.encode = raw := by
  unfold decode at h
  cases hp : Header.parse raw with
  | error e => simp [hp, Except.map] at h
  | ok r =>
    simp only [hp, Except.map, Except.ok.injEq] at h
    subst h
    exact Header.frame_of_parse hp

end Frame

end Econet.Aun
