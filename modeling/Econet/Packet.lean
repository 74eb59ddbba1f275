import Econet.Address

/-!
# Packets

The packet that all transports carry, each in its own frame, and the types of frames.

## Main definitions

* `Packet`: addresses, port, control byte and data
* `PacketType`: what a frame is, with its code
* `Transport`: the three ways a packet travels

## Main results

* `PacketType.ofCode?_code`, `PacketType.code_of_ofCode?`: types and codes correspond
-/

namespace Econet

/-- A packet between two stations. -/
structure Packet where
  source : Address
  destination : Address
  /-- Port that tells services apart. -/
  port : UInt8
  control : UInt8
  payload : List UInt8
  deriving DecidableEq, Repr, Inhabited

/-- The type of a frame. -/
inductive PacketType where
  | broadcast
  | unicast
  | ack
  | reject
  | immediate
  | immediateReply
  deriving DecidableEq, Repr, Inhabited

namespace PacketType

/-- The code of a type in a frame. -/
def code : PacketType → UInt8
  | broadcast => 1
  | unicast => 2
  | ack => 3
  | reject => 4
  | immediate => 5
  | immediateReply => 6

/-- The type with a given code. -/
def ofCode? (n : UInt8) : Option PacketType :=
  if n = 1 then some broadcast
  else if n = 2 then some unicast
  else if n = 3 then some ack
  else if n = 4 then some reject
  else if n = 5 then some immediate
  else if n = 6 then some immediateReply
  else none

@[simp] theorem ofCode?_code (t : PacketType) : ofCode? t.code = some t := by
  cases t <;> rfl

theorem code_of_ofCode? {n : UInt8} {t : PacketType} (h : ofCode? n = some t) : t.code = n := by
  grind [ofCode?, code]

/-- The frame answers an earlier one; no service sees it. -/
def isResponse : PacketType → Bool
  | ack | reject | immediateReply => true
  | _ => false

/-- The type of the frame that carries a packet to `destination`. -/
def toward (destination : Address) : PacketType :=
  if destination.isBroadcast then broadcast else unicast

end PacketType

/-- The ways a packet travels. -/
inductive Transport where
  /-- Datagrams between hosts of an IP network. -/
  | aun
  /-- Text frames of a browser client. -/
  | webSocket
  /-- Lines of a serial adapter. -/
  | piconet
  deriving DecidableEq, Repr

/-- The name of a transport. -/
def Transport.name : Transport → String
  | aun => "AUN"
  | webSocket => "WebSocket"
  | piconet => "Piconet"

end Econet
