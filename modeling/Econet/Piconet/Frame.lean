import Econet.Base64
import Econet.Header

/-!
# Frames of the serial adapter

The adapter reports a packet as a line: the kind, then fields in base 64. The first field is
the scout: station and network of the destination, station and network of the source,
control byte and port. A broadcast has up to eight bytes of data behind the scout, an
immediate operation up to four; the data of a transmission stands in a second field, behind
four bytes of addresses and before two of checksum. On the wire, network 0 is the network
the adapter is attached to.

## Main definitions

* `Frame.decode`: the frame that a line reports
* `Frame.packet`: its packet, with network 0 resolved
* `command`: the line that transmits a packet
-/

namespace Econet.Piconet

open Text (fields digits)

/-- A packet that the adapter reports. -/
structure Frame where
  type : PacketType
  /-- Destination, as on the wire. -/
  destination : Address
  /-- Source, as on the wire. -/
  source : Address
  control : UInt8
  port : UInt8
  data : List UInt8
  deriving DecidableEq, Repr

/-! ### Networks on the wire -/

/-- The network number that stands for the local network on the wire. -/
def wireLocal : UInt8 := 0

/-- The network that a number on the wire means. -/
def ofWire (network localNetwork : UInt8) : UInt8 :=
  if network = wireLocal then localNetwork else network

/-- The number of a network on the wire. -/
def toWire (network localNetwork : UInt8) : UInt8 :=
  if network = localNetwork then wireLocal else network

/-- An address with its network resolved. -/
def resolve (a : Address) (localNetwork : UInt8) : Address :=
  ⟨ofWire a.network localNetwork, a.station⟩

/-! ### Kinds of lines -/

/-- The kinds of lines that report a packet. -/
inductive Kind where
  | broadcast
  | immediate
  | transmit
  deriving DecidableEq, Repr

namespace Kind

/-- The word at the front of a line. -/
def word : Kind → String
  | broadcast => "RX_BROADCAST"
  | immediate => "RX_IMMEDIATE"
  | transmit => "RX_TRANSMIT"

/-- The kind that a word denotes. -/
def ofWord? (w : List Char) : Option Kind :=
  if w = "RX_BROADCAST".toList then some broadcast
  else if w = "RX_IMMEDIATE".toList then some immediate
  else if w = "RX_TRANSMIT".toList then some transmit
  else none

/-- The type of the frame that a line reports. -/
def type : Kind → PacketType
  | broadcast => .broadcast
  | immediate => .immediate
  | transmit => .unicast

end Kind

namespace Frame

/-! ### Reading -/

/-- Number of bytes of a scout without data. -/
def scoutSize : Nat := 6

/-- The bytes of a field in base 64, which are at least `least`. -/
def bytesField (least : Nat) (field : List Char) : Except FrameError (List UInt8) :=
  match Base64.decode field with
  | none => .error (@FrameError.notBase64 field)
  | some bytes => if bytes.length < least then .error (.tooShort bytes.length least) else .ok bytes

/-- The data of a transmission, without the addresses before and the checksum after it. -/
def transmitted (blob : List UInt8) : List UInt8 := (blob.drop 4).take (blob.length - 6)

/-- The data that a line of a kind reports, from its scout and the fields after that. -/
def dataOf (kind : Kind) (scout : List UInt8) (rest : List (List Char)) :
    Except FrameError (List UInt8) :=
  match kind with
  | .broadcast => .ok ((scout.drop scoutSize).take 8)
  | .immediate => .ok ((scout.drop scoutSize).take 4)
  | .transmit =>
    match rest with
    | [] => .error (.malformed (.dataMissing kind.word))
    | field :: _ => (bytesField 6 field).map transmitted

/-- The frame of a scout and its data. -/
def ofScout (kind : Kind) (scout data : List UInt8) : Except FrameError Frame :=
  match scout with
  | dstStation :: dstNetwork :: srcStation :: srcNetwork :: control :: port :: _ =>
    .ok
      { type := kind.type
        destination := ⟨dstNetwork, dstStation⟩
        source := ⟨srcNetwork, srcStation⟩
        control := control
        port := port
        data := data }
  | _ => .error (.tooShort scout.length scoutSize)

/-- The frame of a line of a known kind, from the fields after the kind. -/
def ofFields (kind : Kind) : List (List Char) → Except FrameError Frame
  | [] => .error (.malformed (.scoutMissing kind.word))
  | field :: rest => do
    let scout ← bytesField scoutSize field
    let data ← dataOf kind scout rest
    ofScout kind scout data

/-- The frame that a line reports. -/
def decode (line : List Char) : Except FrameError Frame :=
  match fields line with
  | [] => .error (.malformed .emptyLine)
  | word :: rest =>
    match Kind.ofWord? word with
    | some kind => ofFields kind rest
    | none => .error (.malformed (.notPacketLine (String.ofList word)))

/-! ### Packets -/

/-- The header of a frame; the wire has neither padding nor sequence numbers. -/
def header (f : Frame) : Header :=
  { type := f.type, port := f.port, control := f.control, sequence := 0 }

/-- The packet of a frame, network 0 being the local network. -/
def packet (f : Frame) (localNetwork : UInt8) : Packet :=
  ⟨resolve f.source localNetwork, resolve f.destination localNetwork, f.port, f.control, f.data⟩

end Frame

/-! ### Writing -/

/-- The words of the command that transmits a packet, without its data. -/
def commandHead (p : Packet) (localNetwork : UInt8) : List Char :=
  if p.destination.isBroadcast then "BCAST".toList
  else
    "TX ".toList ++ digits p.destination.station.toNat ++ ' ' ::
      digits (toWire p.destination.network localNetwork).toNat ++ ' ' ::
      digits p.control.toNat ++ ' ' :: digits p.port.toNat

/-- The data field of a command, left out if there is no data. -/
def commandData (payload : List UInt8) : List Char :=
  if payload = [] then [] else ' ' :: Base64.encode payload

/-- The line that makes the adapter transmit a packet. -/
def command (p : Packet) (localNetwork : UInt8) : String :=
  String.ofList (commandHead p localNetwork ++ commandData p.payload)

end Econet.Piconet
