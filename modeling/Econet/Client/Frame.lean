import Econet.Base64
import Econet.Client.Envelope
import Econet.Header

/-!
# Frames of browser clients

A packet envelope, unpacked: the addresses it names, and the frame that its payload holds in
base 64.

## Main definitions

* `Frame`: a packet envelope, unpacked
* `Frame.ofPacket`, `Frame.text`: the frame that carries a packet, and its envelope
* `Message.decode`: the frame or the request in a text
* `Frame.ackText`: the acknowledgement of a frame in an envelope of its own
-/

namespace Econet.Client

open Text (trim)

/-- A packet envelope, unpacked. -/
structure Frame where
  /-- Station that the envelope names as source. -/
  source : Address
  /-- Station that the envelope names as destination. -/
  destination : Address
  header : Header
  data : List UInt8
  deriving DecidableEq, Repr

/-- What a client sends. -/
inductive Message where
  | packet (frame : Frame)
  | request (name : String) (args : Option Json.Value)
  deriving Repr

namespace Frame

/-- The frame that carries a packet under a sequence number. -/
def ofPacket (p : Packet) (sequence : UInt32) : Frame where
  source := p.source
  destination := p.destination
  header :=
    { type := .toward p.destination, port := p.port, control := p.control, sequence := sequence }
  data := p.payload

/-- The envelope of a frame. -/
def envelope (f : Frame) : Envelope :=
  .packet f.source.text f.destination.text (Base64.text (f.header.frame f.data))

/-- The text of a frame. -/
def text (f : Frame) : String := f.envelope.text

/-- The packet of a frame. -/
def packet (f : Frame) : Packet :=
  ⟨f.source, f.destination, f.header.port, f.header.control, f.data⟩

/-- The acknowledgement of a frame, as an envelope from the bridge to the source. -/
def ackText (f : Frame) (ctx : Context) : Option String :=
  (f.header.ack ctx).map fun ack =>
    (Envelope.packet ctx.bridge.text f.source.text (Base64.text ack)).text

end Frame

/-- The address in a field of an envelope. -/
def addressField (text : String) : Except FrameError Address :=
  match Address.parse text.toList with
  | some a => .ok a
  | none => .error (.malformed (.address text))

/-- The bytes in a field of an envelope, outer blanks aside. -/
def payloadField (text : String) : Except FrameError (List UInt8) :=
  match Base64.decode (trim text.toList) with
  | some bytes => .ok bytes
  | none => .error (@FrameError.notBase64 (trim text.toList))

namespace Message

/-- The message in an envelope. -/
def ofEnvelope : Envelope → Except FrameError Message
  | .packet source destination payload => do
    let source ← addressField source
    let destination ← addressField destination
    let raw ← payloadField payload
    let (header, data) ← Header.parse raw
    .ok (.packet ⟨source, destination, header, data⟩)
  | .control (some name) args _ _ => .ok (.request name args)
  | .control none _ _ _ => .error (.malformed .requestMissing)

/-- The message in a text. -/
def decode (text : String) : Except FrameError Message :=
  match Envelope.parse text.toList with
  | some e => ofEnvelope e
  | none => .error .notJson

end Message

end Econet.Client
