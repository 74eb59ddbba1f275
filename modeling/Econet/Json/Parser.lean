import Econet.Json.Value
import Econet.Text.Decimal
import Econet.Text.Hex

/-!
# Reading JSON

Each reader takes a text and gives what it read together with the rest of the text. Arrays
and objects may be nested 127 deep. An escaped surrogate has to be one of a pair. An integer
that does not fit in 64 bits, a negative zero, and a number with a fraction or an exponent
are floating-point numbers; one beyond the largest such number is refused.

## Main definitions

* `readString`: a string after its opening quote
* `readNumber`: a number
* `readItems`: what stands between brackets, given a reader of one item
* `readValue`, `readMembers`: values and the members of an object, to a given depth
* `parseWhole`: a reader applied to a text of which nothing but blanks may remain
-/

namespace Econet.Json

open Text (hexNumber?)

/-- A reader: what it reads from the front of a text, and the rest of the text. -/
abbrev Reader (α : Type) := List Char → Option (α × List Char)

/-- Deepest nesting of arrays and objects. -/
def maxDepth : Nat := 127

/-- The blanks of the format: space, tab, line feed and carriage return. -/
def isSpace (c : Char) : Bool := c = ' ' || c = '\t' || c = '\n' || c = '\r'

/-- Text without leading blanks. -/
def skipSpace (cs : List Char) : List Char := cs.dropWhile isSpace

/-! ### Strings -/

/-- The character that a letter after a backslash stands for. -/
def unescape? (c : Char) : Option Char :=
  if c = '"' then some '"'
  else if c = '\\' then some '\\'
  else if c = '/' then some '/'
  else if c = 'b' then some (Char.ofNat 8)
  else if c = 'f' then some (Char.ofNat 12)
  else if c = 'n' then some '\n'
  else if c = 'r' then some '\r'
  else if c = 't' then some '\t'
  else none

/-- First half of a surrogate pair. -/
def isHighSurrogate (n : Nat) : Bool := 0xD800 ≤ n && n ≤ 0xDBFF

/-- Second half of a surrogate pair. -/
def isLowSurrogate (n : Nat) : Bool := 0xDC00 ≤ n && n ≤ 0xDFFF

/-- The character of a surrogate pair. -/
def joinSurrogates (high low : Nat) : Char :=
  Char.ofNat (0x10000 + (high - 0xD800) * 0x400 + (low - 0xDC00))

/-- The characters of a string after its opening quote, up to its closing quote. -/
def readString : Reader (List Char)
  | [] => none
  | '"' :: rest => some ([], rest)
  | '\\' :: 'u' :: a :: b :: c :: d :: rest =>
    match hexNumber? [a, b, c, d] with
    | none => none
    | some n =>
      -- The first half of a pair: the second half has to follow.
      if isHighSurrogate n then
        match rest with
        | '\\' :: 'u' :: e :: f :: g :: h :: rest =>
          match hexNumber? [e, f, g, h] with
          | none => none
          | some m =>
            if isLowSurrogate m then
              (readString rest).map fun r => (joinSurrogates n m :: r.1, r.2)
            else none
        | _ => none
      else if isLowSurrogate n then none
      else (readString rest).map fun r => (Char.ofNat n :: r.1, r.2)
  | '\\' :: c :: rest =>
    match unescape? c with
    | none => none
    | some x => (readString rest).map fun r => (x :: r.1, r.2)
  | c :: rest =>
    if c.toNat < 0x20 || c = '\\' then none
    else (readString rest).map fun r => (c :: r.1, r.2)

/-! ### Numbers -/

/-- Largest number that 64 bits hold. -/
def maxUInt64 : Nat := 18446744073709551615

/-- Appends decimal digits to a number as long as it fits in 64 bits; also counts them. -/
def absorb : Nat → List Char → Nat × Nat
  | n, [] => (n, 0)
  | n, c :: cs =>
    let m := 10 * n + (c.toNat - 48)
    if m ≤ maxUInt64 then
      let r := absorb m cs
      (r.1, r.2 + 1)
    else (n, 0)

/-- The floating-point number nearest to `10 ^ n`, for `n` up to 308. -/
def powerOfTen (n : Nat) : Binary64 := (Binary64.ofNat? (Nat.pow 10 n)).getD .zero

/-- Division by `10 ^ k`, in steps of at most `10 ^ 308`. -/
def scaleDown (x : Binary64) (k : Nat) : Binary64 :=
  if k ≤ 308 then x.div (powerOfTen k)
  else if x.isZero then x
  else scaleDown (x.div (powerOfTen 308)) (k - 308)
termination_by k

/-- The floating-point number of `n * 10 ^ k`: the rounded `n` times or by a rounded power of
ten. -/
def floatOf? (n : Nat) (k : Int) : Option Binary64 := do
  let x ← Binary64.ofNat? n
  if k < 0 then some (scaleDown x k.natAbs)
  else if k ≤ 308 then x.mul? (powerOfTen k.toNat)
  else if x.isZero then some x
  else none

/-- Decimal digits at the front of a text. -/
def spanDigits (cs : List Char) : List Char × List Char :=
  (cs.takeWhile Char.isDigit, cs.dropWhile Char.isDigit)

theorem pred_lt_of_le {n bound : Nat} (h : 0 < n ∧ n ≤ bound) : n - 1 < bound := by
  omega

/-- An integer from its sign and digits. -/
def integer? (isNegative : Bool) (ds : List Char) : Option Number :=
  let (n, kept) := absorb 0 ds
  -- Digits that do not fit only scale the number.
  if kept < ds.length then
    (floatOf? n (ds.length - kept : Nat)).map (.float isNegative)
  else if !isNegative then some (.natural (UInt64.ofNat n))
  else if h : 0 < n ∧ n ≤ 9223372036854775808 then some (.negative ⟨n - 1, pred_lt_of_le h⟩)
  else (Binary64.ofNat? n).map (.float true)

/-- A number with a fraction or an exponent. -/
def real? (isNegative : Bool) (whole fraction : List Char) (exponent : Int) : Option Number :=
  let (n, kept) := absorb 0 whole
  let (m, kept') := absorb n fraction
  let k : Int := (whole.length - kept : Nat) - (kept' : Int) + exponent
  (floatOf? m k).map (.float isNegative)

/-- A sign and digits after the mark of an exponent. -/
def readExponent (cs : List Char) : Option (Int × List Char) :=
  let (isNegative, cs) :=
    match cs with
    | '-' :: r => (true, r)
    | '+' :: r => (false, r)
    | _ => (false, cs)
  let (ds, rest) := spanDigits cs
  if ds = [] then none
  else
    let n := Text.value ds
    some (if isNegative then -(n : Int) else n, rest)

/-- A number after its sign. -/
def readUnsigned (isNegative : Bool) : Reader Number := fun cs =>
  let (whole, rest) := spanDigits cs
  if whole = [] || (whole.head? = some '0' && whole.length ≠ 1) then none
  else
    match rest with
    | '.' :: rest =>
      let (fraction, rest) := spanDigits rest
      if fraction = [] then none
      else
        match rest with
        | c :: tail =>
          if c = 'e' || c = 'E' then do
            let (e, rest) ← readExponent tail
            let n ← real? isNegative whole fraction e
            some (n, rest)
          else (real? isNegative whole fraction 0).map (·, rest)
        | [] => (real? isNegative whole fraction 0).map (·, [])
    | c :: tail =>
      if c = 'e' || c = 'E' then do
        let (e, rest) ← readExponent tail
        let n ← real? isNegative whole [] e
        some (n, rest)
      else (integer? isNegative whole).map (·, rest)
    | [] => (integer? isNegative whole).map (·, [])

/-- A number. -/
def readNumber : Reader Number
  | '-' :: rest => readUnsigned true rest
  | cs => readUnsigned false cs

/-! ### Arrays and objects -/

/-- Items with commas between them up to a closing bracket, at most `fuel` of them. -/
def readItems {α : Type} (item : Reader α) (close : Char) : Nat → Reader (List α)
  | 0, _ => none
  | fuel + 1, cs => do
    let (x, rest) ← item (skipSpace cs)
    match skipSpace rest with
    | c :: rest =>
      if c = ',' then do
        let (xs, rest) ← readItems item close fuel rest
        some (x :: xs, rest)
      else if c = close then some ([x], rest)
      else none
    | [] => none

/-- What stands between brackets, after the opening one. -/
def readBracketed {α : Type} (item : Reader α) (close : Char) : Reader (List α) := fun cs =>
  match skipSpace cs with
  | [] => none
  | c :: rest =>
    if c = close then some ([], rest) else readItems item close (rest.length + 1) (c :: rest)

/-- A member of an object, given a reader of values. -/
def readMember {α : Type} (value : Reader α) : Reader (String × α)
  | '"' :: cs => do
    let (name, rest) ← readString cs
    match skipSpace rest with
    | ':' :: rest => do
      let (v, rest) ← value (skipSpace rest)
      some ((String.ofList name, v), rest)
    | _ => none
  | _ => none

/-- A literal name, if it stands at the front of the text. -/
def readLiteral (name : List Char) (v : Value) : Reader Value := fun cs =>
  (name.isPrefixOf? cs).map (v, ·)

/-- A value whose arrays and objects are nested at most `depth` deep. -/
def readValue (depth : Nat) : Reader Value
  | '"' :: cs => (readString cs).map fun r => (.string (String.ofList r.1), r.2)
  | '[' :: cs =>
    match depth with
    | 0 => none
    | depth + 1 => (readBracketed (readValue depth) ']' cs).map fun r => (.array r.1, r.2)
  | '\x7b' :: cs =>
    match depth with
    | 0 => none
    | depth + 1 =>
      (readBracketed (readMember (readValue depth)) '\x7d' cs).map fun r =>
        (Value.ofMembers r.1, r.2)
  | cs@('n' :: _) => readLiteral ['n', 'u', 'l', 'l'] .null cs
  | cs@('t' :: _) => readLiteral ['t', 'r', 'u', 'e'] (.bool true) cs
  | cs@('f' :: _) => readLiteral ['f', 'a', 'l', 's', 'e'] (.bool false) cs
  | cs => (readNumber cs).map fun r => (.number r.1, r.2)

/-- The members of an object after its opening bracket, in the order of the text. -/
def readMembers (depth : Nat) : Reader (List (String × Value)) :=
  readBracketed (readMember (readValue depth)) '\x7d'

/-- The result of a reader, if only blanks stand before and after what it reads. -/
def parseWhole {α : Type} (read : Reader α) (cs : List Char) : Option α := do
  let (x, rest) ← read (skipSpace cs)
  if skipSpace rest = [] then some x else none

/-- The value that a text denotes. -/
def parse (cs : List Char) : Option Value := parseWhole (readValue maxDepth) cs

end Econet.Json
