import Econet.Aun.Rule
import Econet.Header
import Econet.MapFile
import Econet.Table

/-!
# The AUN map

The map gives a host its station address: by a rule for the port it sends from, else by one
for the host, else by the longest subnet that contains it, the last one among equally long.
The other way, an address leads to the host port or host that was bound to it first, else to
a host of a subnet of its network that the map knows on that network. The map also counts
sequence numbers for each end of a conversation.

## Main definitions

* `Map`, `Map.add`, `Map.ofRules`: maps built rule by rule
* `Map.addressOf`: the address of a host
* `Map.endpointOf`: where an address lives
* `Map.sourceKey`, `Endpoint.text`: the keys of the counters
* `Map.advance`, `Map.prime`, `Map.counter`: the counters
-/

namespace Econet.Aun

/-- Where an address lives on the IP network. -/
structure Endpoint where
  ip : Ipv4
  /-- The port, if a rule names one. -/
  port : Option UInt16
  deriving DecidableEq, Repr

namespace Endpoint

/-- The socket of an endpoint. -/
def socket (e : Endpoint) (defaultPort : UInt16) : Socket :=
  .ofIpv4 e.ip (e.port.getD defaultPort)

/-- The written form: the host, and the port if there is one. -/
def text (e : Endpoint) : String :=
  match e.port with
  | some port => s!"{e.ip.text}:{port}"
  | none => e.ip.text

end Endpoint

/-- Rules, bindings and counters. -/
structure Map where
  hostPorts : Table (Ipv4 × UInt16) Address
  hosts : Table Ipv4 Address
  /-- The port of a host that an address leads to. -/
  portOf : Table Address (Ipv4 × UInt16)
  /-- The host that an address leads to. -/
  hostOf : Table Address Ipv4
  /-- Subnets, in the order of their rules. -/
  subnets : List Subnet
  /-- Sequence numbers of conversations. -/
  counters : Table String UInt32
  deriving DecidableEq

namespace Map

/-- The map without rules. -/
def empty : Map := ⟨.empty, .empty, .empty, .empty, [], .empty⟩

instance : Inhabited Map := ⟨empty⟩

/-! ### Rules -/

/-- Bindings of addresses after a target moved from its previous address to another one. The
previous address loses the target; the other one keeps a target it already has. -/
def rebind {τ : Type} [DecidableEq τ] (bound : Table Address τ) (target : τ)
    (previous : Option Address) (address : Address) : Table Address τ :=
  let released :=
    match previous with
    | some p => if bound.get? p = some target then bound.erase p else bound
    | none => bound
  -- The first target of an address stays, so that replies go to one place.
  if released.contains address then released else released.insert address target

/-- The map with one more rule. A rule replaces an earlier one for the same host or port. -/
def add (m : Map) : Rule → Map
  | .hostPort ip port address =>
    { m with
      hostPorts := m.hostPorts.insert (ip, port) address
      portOf := rebind m.portOf (ip, port) (m.hostPorts.get? (ip, port)) address }
  | .host ip address =>
    { m with
      hosts := m.hosts.insert ip address
      hostOf := rebind m.hostOf ip (m.hosts.get? ip) address }
  | .subnet s => { m with subnets := m.subnets ++ [s] }

/-- The map with several more rules, in order. -/
def addAll (m : Map) (rules : List Rule) : Map := rules.foldl add m

/-- The map of a list of rules. -/
def ofRules (rules : List Rule) : Map := empty.addAll rules

/-- Number of rules that count. -/
def ruleCount (m : Map) : Nat := m.hostPorts.size + m.hosts.size + m.subnets.length

/-- The rule that a line denotes, with the wording of the error. -/
def readRule (line : List Char) : Except String Rule :=
  match Rule.parse line with
  | .ok r => .ok r
  | .error e => .error e.message

/-- The map of the rules in a text. -/
def parse (text : List Char) : Except MapFile.Error Map :=
  (MapFile.parse readRule text).map ofRules

/-! ### From hosts to addresses -/

/-- The longer of two subnets, the second one if they are equally long. -/
def longer (best : Option Subnet) (s : Subnet) : Option Subnet :=
  match best with
  | none => some s
  | some b => if b.length ≤ s.length then some s else some b

/-- The longest subnet that contains a host. -/
def subnetOf (m : Map) (ip : Ipv4) : Option Subnet :=
  (m.subnets.filter (·.contains ip)).foldl longer none

/-- The address that a rule names for a host, sending from a port if one is given. -/
def ruledAddressOf (m : Map) (ip : Ipv4) (port : Option UInt16) : Option Address :=
  match port.bind fun p => m.hostPorts.get? (ip, p) with
  | some a => some a
  | none => m.hosts.get? ip

/-- The address of a host, sending from a port if one is given. -/
def addressOf (m : Map) (ip : Ipv4) (port : Option UInt16) : Option Address :=
  match m.ruledAddressOf ip port with
  | some a => some a
  | none => (m.subnetOf ip).map fun s => ⟨s.network, ip.lastOctet⟩

/-- The address of the sender of a datagram. -/
def addressOfSocket (m : Map) (s : Socket) : Option Address :=
  s.ipv4?.bind fun ip => m.addressOf ip (some s.port)

/-! ### From addresses to hosts -/

/-- A rule names the host, or a port of it. -/
def isRuled (m : Map) (ip : Ipv4) : Bool :=
  m.hosts.contains ip || m.hostPorts.keys.any (·.1 = ip)

/-- The map knows the host on a network through a subnet and no other rule. -/
def knowsOnNetwork (m : Map) (network : UInt8) (ip : Ipv4) : Bool :=
  !m.isRuled ip && (m.subnetOf ip).map (·.network) = some network

/-- The hosts that an address may mean, by the subnets of its network, longest first. -/
def candidates (m : Map) (a : Address) : List Ipv4 :=
  ((m.subnets.filter (·.network = a.network)).mergeSort fun s t => t.length ≤ s.length).map
    (·.host a.station)

/-- Where an address lives. -/
def endpointOf (m : Map) (a : Address) : Option Endpoint :=
  match m.portOf.get? a with
  | some (ip, port) => some ⟨ip, some port⟩
  | none =>
    match m.hostOf.get? a with
    | some ip => some ⟨ip, none⟩
    | none => ((m.candidates a).find? (m.knowsOnNetwork a.network)).map (⟨·, none⟩)

/-! ### Counters -/

/-- The key of what comes from a socket: with its port if a rule names that. -/
def sourceKey (m : Map) (ip : Ipv4) (port : UInt16) : String :=
  if m.hostPorts.contains (ip, port) then Endpoint.text ⟨ip, some port⟩
  else Endpoint.text ⟨ip, none⟩

/-- The last sequence number of a key. -/
def counter (m : Map) (key : String) : Option UInt32 := m.counters.get? key

/-- The next sequence number of a key. -/
def nextSequence (m : Map) (key : String) : UInt32 := (m.counter key).getD 0 + sequenceStride

/-- The map after the next sequence number of a key is used. -/
def advance (m : Map) (key : String) : Map :=
  { m with counters := m.counters.insert key (m.nextSequence key) }

/-- The map after a sequence number is seen under a key. -/
def prime (m : Map) (key : String) (sequence : UInt32) : Map :=
  { m with counters := m.counters.insert key sequence }

theorem counter_advance (m : Map) (key other : String) :
    (m.advance key).counter other =
      if key = other then some (m.nextSequence key) else m.counter other :=
  Table.get?_insert _ _ _ _

theorem counter_prime (m : Map) (key other : String) (s : UInt32) :
    (m.prime key s).counter other = if key = other then some s else m.counter other :=
  Table.get?_insert _ _ _ _

end Map

end Econet.Aun
