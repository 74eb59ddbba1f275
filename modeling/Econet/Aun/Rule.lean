import Econet.Address
import Econet.Ip

/-!
# Rules of the AUN map

A rule gives hosts of the IP network their station addresses. It is written on one line:
a host `ip`, a port of a host `ip:port` or a subnet `ip/length`, a blank, and a network or an
address `network.station`. A host rule without a station takes the last number of the IP
address; so does every host of a subnet.

## Main definitions

* `Subnet`: a block of IP addresses, with its network
* `Rule`, `Rule.parse`: a rule and the rule that a line denotes
* `RuleError`: why a line is no rule
-/

namespace Econet.Aun

open Text (fields splitOnce quoted parseBelow parseByte parseUInt16)

/-! ### Subnets -/

/-- Number of addresses in a block whose addresses share their first `length` bits. -/
def blockSize (length : Nat) : Nat := Nat.pow 2 (32 - length)

theorem blockSize_pos (length : Nat) : 0 < blockSize length := Nat.two_pow_pos _

/-- The hosts whose addresses share their first `length` bits with `base`, on one network. -/
structure Subnet where
  /-- The lowest address. -/
  base : Ipv4
  /-- Number of bits that the addresses share. -/
  length : Nat
  network : UInt8
  length_le : length ≤ 32
  /-- The remaining bits of the lowest address are zero. -/
  base_mod : base.toNat % blockSize length = 0
  deriving DecidableEq, Repr

namespace Subnet

/-- The subnet that an address belongs to. -/
def of (ip : Ipv4) (length : Nat) (network : UInt8) (h : length ≤ 32) : Subnet where
  base := ⟨ip.toNat / blockSize length * blockSize length,
    Nat.lt_of_le_of_lt (Nat.div_mul_le_self _ _) ip.isLt⟩
  length := length
  network := network
  length_le := h
  base_mod := Nat.mul_mod_left _ _

/-- The address shares the first bits of the subnet. -/
def contains (s : Subnet) (ip : Ipv4) : Bool :=
  ip.toNat / blockSize s.length = s.base.toNat / blockSize s.length

/-- The host of a station. Station 255 is the highest address of the subnet; another station
replaces the last number of the lowest address, so that a subnet of fewer than 24 bits has
hosts in its lowest 256 addresses only. -/
def host (s : Subnet) (station : UInt8) : Ipv4 :=
  if station = Address.broadcastStation then
    .ofNat (s.base.toNat + (blockSize s.length - 1))
  else .ofNat (s.base.toNat / 256 * 256 + station.toNat)

end Subnet

/-! ### Rules -/

/-- A rule of the map. -/
inductive Rule where
  | hostPort (ip : Ipv4) (port : UInt16) (address : Address)
  | host (ip : Ipv4) (address : Address)
  | subnet (s : Subnet)
  deriving DecidableEq, Repr

/-- Why a line is no rule. -/
inductive RuleError where
  /-- The line does not have two fields. -/
  | shape (line : String)
  /-- A network or station is no number of a byte. -/
  | notByte (text : String)
  /-- A subnet is given a station. -/
  | stationOfSubnet (target : String)
  | notIpv4 (text : String)
  /-- The text is no number of bits. -/
  | badLength (text : String)
  | badPort (text : String)
  deriving DecidableEq, Repr

/-- The wording of an error. -/
def RuleError.message : RuleError → String
  | shape line =>
    String.append "expected `ip[:port][/cidr] network[.station]`, got " (quoted line.toList)
  | notByte text => String.append (quoted text.toList) " is not a number between 0 and 255"
  | stationOfSubnet target => s!"subnet rule {target} takes a network number only"
  | notIpv4 text => String.append (quoted text.toList) " is not an IPv4 address"
  | badLength text => String.append "invalid prefix length " (quoted text.toList)
  | badPort text => String.append "invalid UDP port " (quoted text.toList)

namespace Rule

/-- A number of a byte. -/
def byteField (cs : List Char) : Except RuleError UInt8 :=
  match parseByte cs with
  | some n => .ok n
  | none => .error (.notByte (String.ofList cs))

/-- An IPv4 address. -/
def ipField (cs : List Char) : Except RuleError Ipv4 :=
  match Ipv4.parse cs with
  | some ip => .ok ip
  | none => .error (.notIpv4 (String.ofList cs))

/-- A port. -/
def portField (cs : List Char) : Except RuleError UInt16 :=
  match parseUInt16 cs with
  | some port => .ok port
  | none => .error (.badPort (String.ofList cs))

/-- A network, and a station if there is a point. -/
def stationField (cs : List Char) : Except RuleError (UInt8 × Option UInt8) :=
  match splitOnce (· == '.') cs with
  | some (network, station) => do
    let network ← byteField network
    let station ← byteField station
    .ok (network, some station)
  | none => do
    let network ← byteField cs
    .ok (network, none)

/-- A subnet rule from the text before and after the slash. -/
def ofSubnet (ip length : List Char) (network : UInt8) : Except RuleError Rule := do
  let ip ← ipField ip
  match h : parseBelow 33 length with
  | some n => .ok (.subnet (.of ip n network (by have := Text.parseBelow_lt h; omega)))
  | none => .error (.badLength (String.ofList length))

/-- A rule for a host or a port of one. -/
def ofHost (target : List Char) (network : UInt8) (station : Option UInt8) :
    Except RuleError Rule :=
  match splitOnce (· == ':') target with
  | some (ip, port) => do
    let port ← portField port
    let ip ← ipField ip
    .ok (.hostPort ip port ⟨network, station.getD ip.lastOctet⟩)
  | none => do
    let ip ← ipField target
    .ok (.host ip ⟨network, station.getD ip.lastOctet⟩)

/-- The rule of the two fields of a line. -/
def ofFields (target address : List Char) : Except RuleError Rule := do
  let (network, station) ← stationField address
  match splitOnce (· == '/') target with
  | some (ip, length) =>
    if station.isSome then .error (.stationOfSubnet (String.ofList target))
    else ofSubnet ip length network
  | none => ofHost target network station

/-- The rule that a line denotes. -/
def parse (line : List Char) : Except RuleError Rule :=
  match fields line with
  | [target, address] => ofFields target address
  | _ => .error (.shape (String.ofList line))

end Rule

end Econet.Aun
