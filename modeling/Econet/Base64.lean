/-!
# Base 64

Bytes as text over the standard alphabet: three bytes make four digits, and a last group of
one or two bytes is filled up with `=`. Reading is strict: the padding has to be there, and
the bits of the last digit that belong to no byte have to be zero.

## Main definitions

* `digit`, `digitValue?`: the alphabet and its inverse
* `encode`, `decode`: bytes to text and back

## Main results

* `digitValue?_digit`, `digit_of_digitValue?`: the alphabet is a bijection
* `digit_ne_pad`: the padding sign is no digit
-/

namespace Econet.Base64

/-! ### The alphabet -/

/-- The digit of a number below 64. -/
def digit (n : Nat) : Char :=
  if n < 26 then Char.ofNat (65 + n)
  else if n < 52 then Char.ofNat (71 + n)
  else if n < 62 then Char.ofNat (n - 4)
  else if n = 62 then '+'
  else '/'

/-- The number below 64 that a digit stands for. -/
def digitValue? (c : Char) : Option Nat :=
  let n := c.toNat
  if 65 ≤ n && n ≤ 90 then some (n - 65)
  else if 97 ≤ n && n ≤ 122 then some (n - 71)
  else if 48 ≤ n && n ≤ 57 then some (n + 4)
  else if c = '+' then some 62
  else if c = '/' then some 63
  else none

theorem digitValue?_digit : ∀ {n : Nat}, n < 64 → digitValue? (digit n) = some n := by
  decide

theorem digit_ne_pad : ∀ {n : Nat}, n < 64 → digit n ≠ '=' := by decide

theorem digitValue?_lt {c : Char} {n : Nat} (h : digitValue? c = some n) : n < 64 := by
  grind [digitValue?]

theorem digit_of_digitValue? {c : Char} {n : Nat} (h : digitValue? c = some n) :
    digit n = c := by
  have hc : Char.ofNat c.toNat = c := Char.ofNat_toNat c
  grind [digitValue?, digit]

/-! ### Groups -/

/-- A byte from a number, which the callers keep below 256. -/
def byte (n : Nat) : UInt8 := UInt8.ofNat n

/-- The byte of two digits and their padding; the last four bits have to be zero. -/
def decodeOne (a b : Char) : Option (List UInt8) := do
  let x ← digitValue? a
  let y ← digitValue? b
  if y % 16 = 0 then some [byte (x * 4 + y / 16)] else none

/-- The two bytes of three digits and their padding; the last two bits have to be zero. -/
def decodeTwo (a b c : Char) : Option (List UInt8) := do
  let x ← digitValue? a
  let y ← digitValue? b
  let z ← digitValue? c
  if z % 4 = 0 then some [byte (x * 4 + y / 16), byte (y % 16 * 16 + z / 4)] else none

/-- The three bytes of four digits. -/
def decodeThree (a b c d : Char) : Option (List UInt8) := do
  let x ← digitValue? a
  let y ← digitValue? b
  let z ← digitValue? c
  let w ← digitValue? d
  some [byte (x * 4 + y / 16), byte (y % 16 * 16 + z / 4), byte (z % 4 * 64 + w)]

/-! ### Whole texts -/

/-- The text of a list of bytes. -/
def encode : List UInt8 → List Char
  | [] => []
  | [a] => [digit (a.toNat / 4), digit (a.toNat % 4 * 16), '=', '=']
  | [a, b] =>
    [digit (a.toNat / 4), digit (a.toNat % 4 * 16 + b.toNat / 16),
      digit (b.toNat % 16 * 4), '=']
  | a :: b :: c :: rest =>
    digit (a.toNat / 4) :: digit (a.toNat % 4 * 16 + b.toNat / 16) ::
      digit (b.toNat % 16 * 4 + c.toNat / 64) :: digit (c.toNat % 64) :: encode rest

/-- The bytes of a text, if it is written as `encode` writes. -/
def decode : List Char → Option (List UInt8)
  | [] => some []
  | a :: b :: c :: d :: rest =>
    if rest = [] ∧ d = '=' then
      if c = '=' then decodeOne a b else decodeTwo a b c
    else do
      let group ← decodeThree a b c d
      let others ← decode rest
      some (group ++ others)
  | _ => none

/-- The text of a list of bytes, as a string. -/
def text (bytes : List UInt8) : String := String.ofList (encode bytes)

end Econet.Base64
