/-!
# Nonnegative binary floating-point numbers of 64 bits

A number is a significand below `2 ^ 53` times a power of two with exponent from -1074 to
971. Every operation is exact arithmetic on natural numbers followed by one rounding to the
nearest such number, ties going to the even significand.

## Main definitions

* `Binary64`: the finite nonnegative numbers
* `Binary64.ofRatio`: rounding of a quotient of natural numbers
* `Binary64.mul?`, `Binary64.div`: rounded product and quotient
* `Binary64.shortest`: the fewest decimal digits that read back
-/

namespace Econet

/-- The number `significand * 2 ^ exponent`. -/
structure Binary64 where
  significand : Nat
  exponent : Int
  deriving DecidableEq, Repr, Inhabited

namespace Binary64

/-- Smallest exponent. -/
def minExponent : Int := -1074

/-- Largest exponent. -/
def maxExponent : Int := 971

/-- The number zero. -/
def zero : Binary64 := ⟨0, minExponent⟩

/-- The number is zero. -/
def isZero (x : Binary64) : Bool := x.significand = 0

/-! ### Rounding -/

/-- The quotient `num / (den * 2 ^ e)` as a quotient of natural numbers. -/
def scaled (num den : Nat) (e : Int) : Nat × Nat :=
  if e < 0 then (num * Nat.pow 2 e.natAbs, den) else (num, den * Nat.pow 2 e.toNat)

/-- The natural number nearest to a quotient, ties to even. -/
def roundQuotient (num den : Nat) : Nat :=
  let q := num / den
  let r := num % den
  if 2 * r < den then q
  else if den < 2 * r then q + 1
  else if q % 2 = 0 then q else q + 1

/-- The exponent at which a quotient has a significand of 53 bits, but no smaller than the
smallest exponent. -/
def exponentOf (num den : Nat) : Int :=
  let e : Int := (Nat.log2 num : Int) - (Nat.log2 den : Int) - 52
  let (n, d) := scaled num den e
  -- The difference of the logarithms is one too large for half of the quotients.
  let e := if n / d < Nat.pow 2 52 then e - 1 else e
  max e minExponent

/-- The number nearest to `num / den`; `none` if that is beyond the largest number. -/
def ofRatio (num den : Nat) : Option Binary64 :=
  if num = 0 then some zero
  else
    let e := exponentOf num den
    let (n, d) := scaled num den e
    let m := roundQuotient n d
    -- Rounding up may reach the next power of two.
    let (m, e) := if m = Nat.pow 2 53 then (Nat.pow 2 52, e + 1) else (m, e)
    if e ≤ maxExponent then some ⟨m, e⟩ else none

/-- Numerator and denominator of a number. -/
def toRatio (x : Binary64) : Nat × Nat :=
  if x.exponent < 0 then (x.significand, Nat.pow 2 x.exponent.natAbs)
  else (x.significand * Nat.pow 2 x.exponent.toNat, 1)

/-- The number nearest to a natural number. -/
def ofNat? (n : Nat) : Option Binary64 := ofRatio n 1

/-- The rounded product; `none` beyond the largest number. -/
def mul? (x y : Binary64) : Option Binary64 :=
  let (a, b) := x.toRatio
  let (c, d) := y.toRatio
  ofRatio (a * c) (b * d)

/-- The rounded quotient by a number that is at least one. -/
def div (x y : Binary64) : Binary64 :=
  let (a, b) := x.toRatio
  let (c, d) := y.toRatio
  (ofRatio (a * d) (b * c)).getD zero

/-! ### Shortest decimal form -/

/-- The reals that round to a number, in units of `2 ^ (exponent - 2)`: lower and upper end.
Below a power of two the gap is half as wide. -/
def interval (x : Binary64) : Nat × Nat :=
  let m := x.significand
  let lower := if m = Nat.pow 2 52 ∧ x.exponent ≠ minExponent then 4 * m - 1 else 4 * m - 2
  (lower, 4 * m + 2)

/-- The quotient `a * 2 ^ e / 10 ^ k` as a quotient of natural numbers. -/
def decimalRatio (a : Nat) (e k : Int) : Nat × Nat :=
  let n := if e < 0 then a else a * Nat.pow 2 e.toNat
  let d := if e < 0 then Nat.pow 2 e.natAbs else 1
  if k < 0 then (n * Nat.pow 10 k.natAbs, d) else (n, d * Nat.pow 10 k.toNat)

/-- The decimal `c * 10 ^ k` rounds to the number `x`. -/
def readsBack (x : Binary64) (c : Nat) (k : Int) : Bool :=
  let (lower, upper) := x.interval
  let e := x.exponent - 2
  let (a, b) := decimalRatio lower e k
  let (a', b') := decimalRatio upper e k
  if x.significand % 2 = 0 then a ≤ c * b && c * b' ≤ a' else a < c * b && c * b' < a'

/-- The better of the two neighbours of `x` on the grid of multiples of `10 ^ k`, if one
reads back: the nearer one, and of two equally near ones the even one. -/
def onGrid (x : Binary64) (k : Int) : Option Nat :=
  let (n, d) := decimalRatio x.significand x.exponent k
  let c := n / d
  let down := x.readsBack c k && 0 < c
  let up := x.readsBack (c + 1) k
  let nearest := roundQuotient n d
  if down && up then some nearest
  else if down then some c
  else if up then some (c + 1)
  else none

/-- Decimal exponent of the leading digit of a positive number. -/
def leadingExponent (x : Binary64) : Int :=
  -- The binary logarithm gives the decimal one up to one.
  let guess : Int := ((Nat.log2 x.significand : Int) + x.exponent) * 30103 / 100000
  let (n, d) := decimalRatio x.significand x.exponent (guess + 1)
  if d ≤ n then guess + 1
  else
    let (n, d) := decimalRatio x.significand x.exponent guess
    if d ≤ n then guess else guess - 1

/-- Search for the coarsest decimal grid with a point that reads back, from `k` downwards. -/
def shortestFrom (x : Binary64) : Nat → Int → Nat × Int
  | 0, k => (roundQuotient (decimalRatio x.significand x.exponent k).1
      (decimalRatio x.significand x.exponent k).2, k)
  | steps + 1, k =>
    match x.onGrid k with
    | some c => (c, k)
    | none => shortestFrom x steps (k - 1)

/-- Removal of trailing zeros of a decimal `c * 10 ^ k`. -/
def dropZeros : Nat → Nat → Int → Nat × Int
  | 0, c, k => (c, k)
  | steps + 1, c, k => if c % 10 = 0 && 0 < c then dropZeros steps (c / 10) (k + 1) else (c, k)

/-- The decimal `c * 10 ^ k` with the fewest digits that rounds to a positive number. -/
def shortest (x : Binary64) : Nat × Int :=
  let (c, k) := x.shortestFrom 17 x.leadingExponent
  dropZeros 20 c k

end Binary64

end Econet
