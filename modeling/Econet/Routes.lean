import Econet.Aun.Map
import Econet.Client.Pool
import Econet.Piconet.Networks

/-!
# Routes

Which transport leads to an address. A browser client is found first, then a network behind
the serial adapter, then an endpoint of the map.

## Main definitions

* `Routes`: what each transport knows about addresses
* `Routes.transportTo`: the transport that leads to an address
-/

namespace Econet

/-- What each transport knows about addresses. -/
structure Routes where
  aun : Aun.Map
  /-- The networks behind the serial adapter. -/
  networks : Piconet.Networks
  pool : Client.Pool
  deriving DecidableEq

namespace Routes

/-- Routes to nowhere. -/
def empty : Routes := ⟨.empty, .empty, .empty⟩

/-- The transport that leads to an address. -/
def transportTo (r : Routes) (a : Address) : Option Transport :=
  if (r.pool.holderOf a).isSome then some .webSocket
  else if r.networks.contains a.network then some .piconet
  else if (r.aun.endpointOf a).isSome then some .aun
  else none

/-- The address of a browser client is on a network. -/
def isClientOn (r : Routes) (network : UInt8) (c : Client.ConnectionId) : Bool :=
  match r.pool.addressOf c with
  | some a => a.network = network
  | none => false

end Routes

end Econet
