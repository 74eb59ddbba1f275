/-!
# Hexadecimal digits

## Main definitions

* `hexDigits`: the shortest hexadecimal form of a number
* `hexPadded w`: the form with leading zeros, up to a width of `w`
* `hexValue?`, `hexNumber?`: the number that a digit, or several, of either case denote
-/

namespace Econet.Text

/-- The lower-case hexadecimal form of a number, without leading zeros. -/
def hexDigits (n : Nat) : List Char := Nat.toDigits 16 n

def hexPadded (width n : Nat) : List Char :=
  let ds := hexDigits n
  List.replicate (width - ds.length) '0' ++ ds

/-- The two lower-case digits of a byte. -/
def hexByte (b : UInt8) : List Char := hexPadded 2 b.toNat

def hexValue? (c : Char) : Option Nat :=
  let n := c.toNat
  if 48 ≤ n && n ≤ 57 then some (n - 48)
  else if 97 ≤ n && n ≤ 102 then some (n - 87)
  else if 65 ≤ n && n ≤ 70 then some (n - 55)
  else none

def hexNumber? (cs : List Char) : Option Nat :=
  cs.foldlM (fun acc c => (hexValue? c).map (16 * acc + ·)) 0

end Econet.Text
