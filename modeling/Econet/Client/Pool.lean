import Econet.Header
import Econet.MapFile
import Econet.Table

/-!
# The pool of dynamic addresses

Browser clients have no address of their own. On request a connection is given the first
free station, from 1 to 253, of the first network with room; it is free again when the
connection ends. The pool also counts the sequence numbers of each connection.

## Main definitions

* `ConnectionId`: the name of a connection
* `Pool`: the networks of a pool and what its connections hold
* `Pool.allocate`, `Pool.free`: giving and taking addresses
* `Pool.addressOf`, `Pool.holderOf`: the address of a connection and the holder of an address
* `Pool.nextSequence`, `Pool.advance`: sequence numbers
-/

namespace Econet.Client

/-- The name of a connection. -/
structure ConnectionId where
  name : String
  deriving DecidableEq, Repr, Inhabited

/-- Networks with dynamic addresses, and who holds which. -/
structure Pool where
  /-- The networks, in the order in which they are searched, with the connection that holds
  each station. -/
  networks : Table UInt8 (Table UInt8 ConnectionId)
  held : Table ConnectionId Address
  /-- The last sequence number of each connection. -/
  sequences : Table ConnectionId UInt32
  deriving DecidableEq

namespace Pool

/-- The wording of a refusal when all addresses are taken. -/
def noCapacity : String := "No dynamic addresses available"

/-- The stations that are given away, ascending. -/
def stations : List UInt8 := (List.range 253).map fun i => UInt8.ofNat (i + 1)

/-- Number of stations that a network gives away. -/
def stationCount : Nat := 253

def empty : Pool := ⟨.empty, .empty, .empty⟩

instance : Inhabited Pool := ⟨empty⟩

/-- The pool with one more network at the end of the search. -/
def addNetwork (p : Pool) (n : UInt8) : Pool :=
  if p.networks.contains n then p else { p with networks := p.networks.insert n .empty }

/-- The pool of a list of networks, of which the first mention counts. -/
def ofList (ns : List UInt8) : Pool := ns.foldl addNetwork empty

/-- The pool of the networks in a text. -/
def parse (text : List Char) : Except MapFile.Error Pool := (MapFile.networks text).map ofList

/-- The numbers of the networks, in the order in which they are searched. -/
def networkList (p : Pool) : List UInt8 := p.networks.keys

def allocated (p : Pool) : Nat := p.held.size

/-! ### Who holds what -/

/-- The address of a connection. -/
def addressOf (p : Pool) (c : ConnectionId) : Option Address := p.held.get? c

/-- The connection that holds an address. -/
def holderOf (p : Pool) (a : Address) : Option ConnectionId :=
  (p.networks.get? a.network).bind (·.get? a.station)

/-! ### Giving and taking -/

/-- A network has room as long as not all of its stations are held. They are counted, and not
looked at. -/
def hasRoom (taken : Table UInt8 ConnectionId) : Bool := taken.size < stationCount

/-- The first free station of a network. -/
def firstFree (taken : Table UInt8 ConnectionId) : Option UInt8 :=
  stations.find? fun s => !taken.contains s

/-- The first free address. Networks without room are passed over. -/
def firstFreeAddress (p : Pool) : Option Address :=
  (p.networks.entries.filter fun e => hasRoom e.2).findSome? fun e =>
    (firstFree e.2).map fun s => ⟨e.1, s⟩

/-- The pool after a connection takes an address. -/
def take (p : Pool) (c : ConnectionId) (a : Address) : Pool :=
  { p with
    networks := p.networks.modify a.network (·.insert a.station c)
    held := p.held.insert c a }

/-- The address that a connection is given, and the pool after that. A connection keeps an
address it has; without one it gets the first free address, or none if all are taken. -/
def allocate (p : Pool) (c : ConnectionId) : Option Address × Pool :=
  match p.addressOf c with
  | some a => (some a, p)
  | none =>
    match p.firstFreeAddress with
    | some a => (some a, p.take c a)
    | none => (none, p)

/-- The pool after a connection gives up its address and its sequence number. -/
def free (p : Pool) (c : ConnectionId) : Pool :=
  match p.addressOf c with
  | none => { p with sequences := p.sequences.erase c }
  | some a =>
    { networks := p.networks.modify a.network (·.erase a.station)
      held := p.held.erase c
      sequences := p.sequences.erase c }

/-! ### Sequence numbers -/

def nextSequence (p : Pool) (c : ConnectionId) : UInt32 :=
  (p.sequences.get? c).getD 0 + sequenceStride

/-- The pool after the next sequence number of a connection is used. -/
def advance (p : Pool) (c : ConnectionId) : Pool :=
  { p with sequences := p.sequences.insert c (p.nextSequence c) }

@[simp] theorem addressOf_advance (p : Pool) (c d : ConnectionId) :
    (p.advance c).addressOf d = p.addressOf d := rfl

end Pool

end Econet.Client
