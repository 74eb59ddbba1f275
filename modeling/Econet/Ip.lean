import Econet.Text.Blank
import Econet.Text.Decimal
import Econet.Text.Hex

/-!
# Addresses of IP hosts and sockets

An IPv4 address is written as four decimal numbers without leading zeros. An IPv6 address is
written as eight hexadecimal groups, the longest run of at least two zero groups as `::`;
one that embeds an IPv4 address is written as `::ffff:` and that address. A socket is a host
and a port; an IPv6 host stands in brackets, with its scope if it has one.

## Main definitions

* `Ipv4`, `Ipv4.parse`, `Ipv4.text`: IPv4 addresses
* `Ipv6`, `Ipv6.parse`, `Ipv6.text`: IPv6 addresses
* `Socket`, `Socket.parse`, `Socket.text`: sockets
* `Socket.ipv4?`: the IPv4 address of a socket, embedded or not
-/

namespace Econet

open Text (pieces splitOnce digits hexDigits hexNumber? isNumeral parseBelow value)

/-! ### IPv4 -/

/-- An IPv4 address. -/
structure Ipv4 where
  toNat : Nat
  isLt : toNat < 4294967296
  deriving DecidableEq, Repr

namespace Ipv4

instance : Inhabited Ipv4 := ⟨⟨0, by decide⟩⟩

/-- The address of a number, modulo `2 ^ 32`. -/
def ofNat (n : Nat) : Ipv4 := ⟨n % 4294967296, Nat.mod_lt _ (by decide)⟩

/-- The last of the four numbers. -/
def lastOctet (ip : Ipv4) : UInt8 := UInt8.ofNat ip.toNat

/-- The characters of the written form. -/
def chars (ip : Ipv4) : List Char :=
  digits (ip.toNat / 16777216) ++ '.' :: digits (ip.toNat / 65536 % 256) ++ '.' ::
    digits (ip.toNat / 256 % 256) ++ '.' :: digits (ip.toNat % 256)

/-- The written form. -/
def text (ip : Ipv4) : String := String.ofList ip.chars

/-- One of the four numbers: below 256 and without leading zeros. -/
def octet? (cs : List Char) : Option Nat :=
  if isNumeral cs && (cs.length = 1 || cs.head? ≠ some '0') && value cs < 256 then some (value cs)
  else none

/-- The address that a text denotes. -/
def parse (cs : List Char) : Option Ipv4 :=
  match pieces (· == '.') cs with
  | [a, b, c, d] => do
    let a ← octet? a
    let b ← octet? b
    let c ← octet? c
    let d ← octet? d
    some (ofNat (((a * 256 + b) * 256 + c) * 256 + d))
  | _ => none

end Ipv4

/-! ### IPv6 -/

/-- An IPv6 address. -/
structure Ipv6 where
  toNat : Nat
  isLt : toNat < Nat.pow 2 128
  deriving DecidableEq, Repr

namespace Ipv6

/-- The address of its groups, the first one first. -/
def ofGroups (gs : List Nat) : Ipv6 :=
  ⟨gs.foldl (fun n g => n * 65536 + g) 0 % Nat.pow 2 128, Nat.mod_lt _ (by decide)⟩

/-- The eight groups of an address. -/
def groups (ip : Ipv6) : List Nat :=
  (List.range 8).map fun i => ip.toNat / Nat.pow 65536 (7 - i) % 65536

/-- The IPv4 address that an address embeds. -/
def mapped? (ip : Ipv6) : Option Ipv4 :=
  if ip.toNat / 4294967296 = 0xFFFF then some (.ofNat ip.toNat) else none

/-- Number of zeros at the front of a list. -/
def zeros (gs : List Nat) : Nat := (gs.takeWhile (· = 0)).length

/-- Start and length of the first longest run of zeros from position `i` on. -/
def longestRun (i : Nat) : List Nat → Nat × Nat
  | [] => (i, 0)
  | g :: gs =>
    let here := zeros (g :: gs)
    let later := longestRun (i + 1) gs
    if here < later.2 then later else (i, here)

/-- Groups in hexadecimal with colons between them. -/
def groupsText : List Nat → List Char
  | [] => []
  | [g] => hexDigits g
  | g :: gs => hexDigits g ++ ':' :: groupsText gs

/-- The characters of the written form. -/
def chars (ip : Ipv6) : List Char :=
  match ip.mapped? with
  | some v4 => "::ffff:".toList ++ v4.chars
  | none =>
    let gs := ip.groups
    let (start, length) := longestRun 0 gs
    if length < 2 then groupsText gs
    else groupsText (gs.take start) ++ ':' :: ':' :: groupsText (gs.drop (start + length))

/-- The written form. -/
def text (ip : Ipv6) : String := String.ofList ip.chars

/-- The groups of pieces of text; the last piece may be an IPv4 address if `embed` is set. -/
def groupsOf (embed : Bool) : List (List Char) → Option (List Nat)
  | [] => some []
  | p :: ps => do
    if embed && ps = [] && p.contains '.' then
      let v4 ← Ipv4.parse p
      some [v4.toNat / 65536, v4.toNat % 65536]
    else if p = [] || 4 < p.length then none
    else
      let g ← hexNumber? p
      some (g :: (← groupsOf embed ps))

/-- The groups of a text between colons. -/
def groupsOfText (embed : Bool) (cs : List Char) : Option (List Nat) :=
  if cs = [] then some [] else groupsOf embed (pieces (· == ':') cs)

/-- The text before and after the first double colon. -/
def splitDouble : List Char → Option (List Char × List Char)
  | ':' :: ':' :: rest => some ([], rest)
  | c :: rest => (splitDouble rest).map fun r => (c :: r.1, r.2)
  | [] => none

/-- The address that a text denotes. -/
def parse (cs : List Char) : Option Ipv6 :=
  match splitDouble cs with
  | none => do
    let gs ← groupsOfText true cs
    if gs.length = 8 then some (ofGroups gs) else none
  | some (front, back) => do
    let front ← groupsOfText false front
    let back ← groupsOfText true back
    if front.length + back.length ≤ 7 then
      some (ofGroups (front ++ List.replicate (8 - front.length - back.length) 0 ++ back))
    else none

end Ipv6

/-! ### Sockets -/

/-- A host of an IP network. -/
inductive Host where
  | v4 (ip : Ipv4)
  | v6 (ip : Ipv6) (scope : Nat)
  deriving DecidableEq, Repr

/-- A port of a host. -/
structure Socket where
  host : Host
  port : UInt16
  deriving DecidableEq, Repr

namespace Socket

/-- A port of an IPv4 host. -/
def ofIpv4 (ip : Ipv4) (port : UInt16) : Socket := ⟨.v4 ip, port⟩

/-- The IPv4 address of the host, if it has or embeds one. -/
def ipv4? (s : Socket) : Option Ipv4 :=
  match s.host with
  | .v4 ip => some ip
  | .v6 ip _ => ip.mapped?

/-- The characters of the written form. -/
def chars (s : Socket) : List Char :=
  let port := ':' :: digits s.port.toNat
  match s.host with
  | .v4 ip => ip.chars ++ port
  | .v6 ip scope =>
    '[' :: ip.chars ++ (if scope = 0 then [] else '%' :: digits scope) ++ ']' :: port

/-- The written form. -/
def text (s : Socket) : String := String.ofList s.chars

/-- A number in decimal digits, below a bound. -/
def number? (bound : Nat) (cs : List Char) : Option Nat :=
  if isNumeral cs then parseBelow bound cs else none

/-- The socket that a text denotes. -/
def parse (cs : List Char) : Option Socket :=
  match cs with
  | '[' :: rest => do
    let (inside, rest) ← splitOnce (· == ']') rest
    let digits ← rest.head?.bind fun c => if c = ':' then some rest.tail else none
    let port ← number? 65536 digits
    let (ip, scope) ←
      match splitOnce (· == '%') inside with
      | some (ip, scope) => (number? UInt32.size scope).map (ip, ·)
      | none => some (inside, 0)
    some ⟨.v6 (← Ipv6.parse ip) scope, UInt16.ofNat port⟩
  | _ => do
    let (ip, port) ← splitOnce (· == ':') cs
    some ⟨.v4 (← Ipv4.parse ip), UInt16.ofNat (← number? 65536 port)⟩

end Socket

end Econet
