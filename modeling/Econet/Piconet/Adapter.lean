import Econet.Link
import Econet.Piconet.Frame

/-!
# The serial adapter

## Main definitions

* `Adapter`: the link to the adapter, and the network that it is on
* `Adapter.transmit`: sends a packet
* `startLines`, `stopLine`: the lines that start and stop the adapter
-/

namespace Econet.Piconet

/-- The serial adapter. -/
structure Adapter where
  link : Link
  /-- The network that it is on. -/
  localNetwork : UInt8
  deriving DecidableEq, Repr

/-- The lines that make the adapter listen as a station. -/
def startLines (station : UInt8) : List String :=
  ["STATUS", s!"SET_STATION {station.toNat}", "SET_MODE LISTEN"]

/-- The line that stops the adapter. -/
def stopLine : String := "STOP"

namespace Adapter

/-- The adapter after a line is sent. -/
def send (a : Adapter) (line : String) : Except LinkError Adapter :=
  (a.link.send line).map fun link => { a with link }

/-- The adapter after a packet is sent. -/
def transmit (a : Adapter) (p : Packet) : Except LinkError Adapter :=
  a.send (command p a.localNetwork)

/-- Sends lines up to the first that is refused: the reason, if one is, and the adapter
afterwards. -/
def sendAll (a : Adapter) : List String → Option LinkError × Adapter
  | [] => (none, a)
  | line :: lines =>
    match a.send line with
    | .ok a => sendAll a lines
    | .error e => (some e, a)

end Adapter

end Econet.Piconet
