import Econet.Packet
import Econet.Text.Hex

/-!
# Frame headers

Eight bytes in front of the data of a frame: type, port, control byte, padding, and a
sequence number of 32 bits with the least significant byte first. The header decides which
acknowledgement a frame gets and whether its packet is delivered at all.

## Main definitions

* `FrameError`: why a frame cannot be read
* `Context`: what the bridge knows when it reads a frame
* `Header`: the eight bytes, with `Header.bytes`, `Header.frame` and `Header.parse`
* `Header.ack`: the acknowledgement of a frame
* `Header.isConsumed`: the frame goes to no station
* `Header.describe`: the diagnostic text of a frame

## Main results

* `Header.sequenceOf_bytes`: the bytes of a sequence number determine it
* `Header.parse_frame`: a written frame reads as its header and data
-/

namespace Econet

open Text (digits hexByte quoted)

/-! ### Errors -/

/-- Why a text is no frame. -/
inductive Malformation where
  /-- An address in the text is none. -/
  | address (text : String)
  /-- A control envelope makes no request. -/
  | requestMissing
  | emptyLine
  | notPacketLine (kind : String)
  /-- The line lacks the field with the addresses. -/
  | scoutMissing (kind : String)
  | dataMissing (kind : String)
  /-- The outcome of a transmission has an unknown code. -/
  | unknownResult (code : String)
  deriving DecidableEq, Repr

/-- The wording of a malformation. -/
def Malformation.message : Malformation → String
  | address text => Address.invalidMessage text.toList
  | requestMissing => "ctrl envelope without request"
  | emptyLine => "empty line"
  | notPacketLine kind => s!"not a packet line: {kind}"
  | scoutMissing kind => s!"{kind} without scout"
  | dataMissing kind => s!"{kind} without data"
  | unknownResult code => String.append "unknown TX_RESULT " (quoted code.toList)

/-- Why a frame cannot be read, or gives no packet. -/
inductive FrameError where
  /-- The frame has `size` bytes but needs `least`. -/
  | tooShort (size least : Nat)
  | unknownType (code : UInt8)
  | malformed (reason : Malformation)
  /-- The text is not JSON, or not an envelope. -/
  | notJson
  /-- A field is not written in base 64. -/
  | notBase64 {field : List Char}
  /-- The sender has no station address. -/
  | unresolvedSource
  deriving DecidableEq, Repr

/-- The wording of an error. What is wrong with a text that is no JSON, and with a field that is not
in base 64, is said by the readers of these. -/
def FrameError.message (e : FrameError) (json : String := "")
    (base64 : List Char → String := fun _ => "") : String :=
  match e with
  | tooShort size least => s!"Frame too short: {size} bytes (need {least})"
  | unknownType code => s!"Unknown packet type: {code}"
  | malformed reason => s!"Malformed frame: {reason.message}"
  | notJson => s!"JSON error: {json}"
  | @notBase64 field => s!"Base64 error: {base64 field}"
  | unresolvedSource => "Sender has no Econet address"

/-! ### Context -/

/-- What the bridge knows when it reads a frame: its address and the version of its firmware. -/
structure Context where
  bridge : Address
  versionMajor : UInt8
  versionMinor : UInt8
  /-- The address of the sender, if the transport knows it. -/
  sender : Option Address := none
  deriving DecidableEq, Repr

/-- The context of a frame from a known sender. -/
def Context.withSender (ctx : Context) (sender : Address) : Context :=
  { ctx with sender := some sender }

/-- The network that the serial wire calls 0. -/
def Context.localNetwork (ctx : Context) : UInt8 := ctx.bridge.network

/-! ### Headers -/

/-- Distance between two sequence numbers that the bridge gives out. -/
def sequenceStride : UInt32 := 4

/-- The header of a frame. -/
structure Header where
  type : PacketType
  port : UInt8
  control : UInt8
  /-- Padding, or a count of retransmissions. -/
  pad : UInt8 := 0
  sequence : UInt32
  deriving DecidableEq, Repr

namespace Header

/-- Number of bytes in a header. -/
def size : Nat := 8

/-- The four bytes of a sequence number, least significant first. -/
def sequenceBytes (s : UInt32) : List UInt8 :=
  let n := s.toNat
  [UInt8.ofNat n, UInt8.ofNat (n / 256), UInt8.ofNat (n / 65536), UInt8.ofNat (n / 16777216)]

/-- The sequence number of four bytes, least significant first. -/
def sequenceOf (a b c d : UInt8) : UInt32 :=
  UInt32.ofNat (a.toNat + 256 * b.toNat + 65536 * c.toNat + 16777216 * d.toNat)

/-- The eight bytes of a header. -/
def bytes (h : Header) : List UInt8 :=
  [h.type.code, h.port, h.control, h.pad] ++ sequenceBytes h.sequence

/-- A frame: its header and its data. -/
def frame (h : Header) (data : List UInt8) : List UInt8 := h.bytes ++ data

/-- The header and the data of a frame. -/
def parse : List UInt8 → Except FrameError (Header × List UInt8)
  | t :: port :: control :: pad :: a :: b :: c :: d :: data =>
    match PacketType.ofCode? t with
    | some type => .ok (⟨type, port, control, pad, sequenceOf a b c d⟩, data)
    | none => .error (.unknownType t)
  | raw => .error (.tooShort raw.length size)

/-- The bytes of a sequence number determine it. -/
theorem sequenceOf_bytes (s : UInt32) :
    sequenceOf (UInt8.ofNat s.toNat) (UInt8.ofNat (s.toNat / 256)) (UInt8.ofNat (s.toNat / 65536))
      (UInt8.ofNat (s.toNat / 16777216)) = s := by
  have h := s.toNat_lt
  apply UInt32.toNat_inj.1
  simp only [sequenceOf, UInt8.toNat_ofNat', UInt32.toNat_ofNat']
  omega

theorem sequenceBytes_of (a b c d : UInt8) : sequenceBytes (sequenceOf a b c d) = [a, b, c, d] := by
  have ha := a.toNat_lt
  have hb := b.toNat_lt
  have hc := c.toNat_lt
  have hd := d.toNat_lt
  simp only [sequenceBytes, sequenceOf, UInt32.toNat_ofNat', List.cons.injEq, and_true]
  refine ⟨?_, ?_, ?_, ?_⟩ <;>
    (apply UInt8.toNat_inj.1; simp only [UInt8.toNat_ofNat']; omega)

/-- A written frame reads as its header and data. -/
theorem parse_frame (h : Header) (data : List UInt8) : parse (h.frame data) = .ok (h, data) := by
  simp only [frame, bytes, sequenceBytes, List.cons_append, List.nil_append, parse,
    PacketType.ofCode?_code, sequenceOf_bytes]

/-- A frame that reads is written by its header and data. -/
theorem frame_of_parse {raw : List UInt8} {h : Header} {data : List UInt8}
    (hp : parse raw = .ok (h, data)) : h.frame data = raw := by
  unfold parse at hp
  split at hp
  · next t port control pad a b c d rest =>
    split at hp
    · next type ht =>
      simp only [Except.ok.injEq, Prod.mk.injEq] at hp
      obtain ⟨rfl, rfl⟩ := hp
      simp [frame, bytes, sequenceBytes_of, PacketType.code_of_ofCode? ht]
    · simp at hp
  · simp at hp

/-! ### Acknowledgements -/

/-- Control byte of the immediate operation that asks for the type of the machine. -/
def machinePeek : UInt8 := 8

/-- The acknowledgement of a frame. A unicast frame is acknowledged under its own sequence
number. The question for the type of the machine is answered by two bytes for the type and
the version of the firmware, the part after the point first. -/
def ack (h : Header) (ctx : Context) : Option (List UInt8) :=
  match h.type with
  | .unicast =>
    some (Header.frame { type := .ack, port := 0, control := 0, sequence := h.sequence } [])
  | .immediate =>
    if h.control = machinePeek then
      some (Header.frame { type := .immediateReply, port := 0, control := 0, sequence := 0 }
        [0x40, 0x66, ctx.versionMinor, ctx.versionMajor])
    else none
  | _ => none

/-- The frame is dealt with once it is acknowledged: it is a response, or asks for the type
of the machine. -/
def isConsumed (h : Header) : Bool :=
  h.type.isResponse || (h.type = .immediate && h.control = machinePeek)

/-! ### Diagnostics -/

/-- Bytes in hexadecimal with colons between them. -/
def describeData : List UInt8 → List Char
  | [] => []
  | [b] => hexByte b
  | b :: bs => hexByte b ++ ':' :: describeData bs

/-- The diagnostic text of a frame. -/
def describe (h : Header) (data : List UInt8) : String :=
  let body := String.ofList (describeData data)
  s!"Header | Type : {h.type.code} Port : {h.port} Control : {h.control} Pad : {h.pad} " ++
    s!"Seq : {h.sequence} | Body |{body}|"

end Header

end Econet
