import Econet.Text.Blank
import Econet.Text.Decimal
import Econet.Text.Quoted

/-!
# Station addresses

A station is addressed by the number of its network and its own number there, written
`network.station`. Station 255 stands for every station of the network.

## Main definitions

* `Address`: network and station
* `Address.text`: the written form
* `Address.parse`: the address that a text denotes

## Main results

* `Address.parse_chars`: a written address reads as itself
-/

namespace Econet

open Text (trim splitOnce digits parseByte quoted)

/-- The address of a station. -/
structure Address where
  network : UInt8
  station : UInt8
  deriving DecidableEq, Repr, Inhabited

namespace Address

/-- The station number that addresses every station of a network. -/
def broadcastStation : UInt8 := 255

/-- The address stands for every station of its network. -/
def isBroadcast (a : Address) : Bool := a.station = broadcastStation

/-- The characters of the written form. -/
def chars (a : Address) : List Char :=
  digits a.network.toNat ++ '.' :: digits a.station.toNat

/-- The written form `network.station`. -/
def text (a : Address) : String := String.ofList a.chars

/-- The address that a text denotes, outer blanks aside. -/
def parse (cs : List Char) : Option Address := do
  let (network, station) ← splitOnce (· == '.') (trim cs)
  some ⟨← parseByte network, ← parseByte station⟩

/-- A written address reads as itself. -/
theorem parse_chars (a : Address) : parse a.chars = some a := by
  have hd {n : Nat} {c : Char} (hc : c ∈ digits n) : c.isDigit := Text.isDigit_of_mem_digits hc
  -- There is no blank in the text ...
  have ht : trim a.chars = a.chars := by
    refine Text.trim_eq_self fun c hc => ?_
    rcases List.mem_append.1 hc with hc | hc
    · exact Text.isBlank_of_isDigit (hd hc)
    · rcases List.mem_cons.1 hc with rfl | hc
      · rfl
      · exact Text.isBlank_of_isDigit (hd hc)
  -- ... and no other point in it.
  have hs : splitOnce (· == '.') a.chars =
      some (digits a.network.toNat, digits a.station.toNat) := by
    refine Text.splitOnce_append (fun c hc => ?_) rfl
    have := hd hc
    simp only [beq_eq_false_iff_ne]
    rintro rfl
    exact absurd this (by decide)
  simp [parse, ht, hs, Text.parseByte_digits]

/-- The message about a text that denotes no address. -/
def invalidMessage (cs : List Char) : String :=
  String.append "Invalid Econet address: " (quoted cs)

end Address

end Econet
