import Econet.Text.Decimal
import Econet.Toml.Document
import Econet.Toml.Quoting

/-!
# Reading TOML

A document is read into its statements, and these are carried out in order. Values may be
nested at most 79 deep, and a dotted key has at most 79 parts. Integers have 64 bits with
sign; a floating-point number that rounds to positive infinity is refused.

## Main definitions

* `readKey`: a dotted key
* `readScalar`, `readValue`: values
* `readStatements`: the statements of a document
* `parse`: the table that a document denotes
-/

namespace Econet.Toml

open Text (hexNumber? value)

/-! ### Blanks and comments -/

/-- A character that a comment may hold. -/
def isCommentChar (c : Char) : Bool := !isControl c

/-- Text without leading spaces. -/
def skipSpace (cs : List Char) : List Char := cs.dropWhile isSpace

/-- Text without leading spaces, line breaks and comments; `inComment` is set inside one. -/
def skipTrivia (inComment : Bool) : List Char → List Char
  | [] => []
  | '\r' :: '\n' :: cs => skipTrivia false cs
  | '\n' :: cs => skipTrivia false cs
  | c :: cs =>
    if inComment && isCommentChar c then skipTrivia true cs
    else if isSpace c then skipTrivia false cs
    else if c = '#' then skipTrivia true cs
    else c :: cs

/-- The text after the end of a line, which may hold spaces and a comment. -/
def endLine (cs : List Char) : Option (List Char) :=
  let cs := skipSpace cs
  let cs :=
    match cs with
    | '#' :: rest => rest.dropWhile isCommentChar
    | _ => cs
  match cs with
  | [] => some []
  | '\n' :: rest => some rest
  | '\r' :: '\n' :: rest => some rest
  | _ => none

/-! ### Keys -/

/-- Most parts of a dotted key, and deepest nesting of values. -/
def maxDepth : Nat := 79

/-- A character of a bare key. -/
def isBare (c : Char) : Bool := c.isAlphanum || c = '-' || c = '_'

/-- One part of a key. -/
def readPart : Reader String
  | '"' :: rest => (readBasic rest).map fun r => (String.ofList r.1, r.2)
  | '\'' :: rest => (readLiteral rest).map fun r => (String.ofList r.1, r.2)
  | cs =>
    let part := cs.takeWhile isBare
    if part = [] then none else some (String.ofList part, cs.dropWhile isBare)

/-- The parts of a key, at most `fuel` of them. -/
def readParts : Nat → Reader (List String)
  | 0, _ => none
  | fuel + 1, cs => do
    let (part, rest) ← readPart (skipSpace cs)
    match skipSpace rest with
    | '.' :: rest => do
      let (parts, rest) ← readParts fuel rest
      some (part :: parts, rest)
    | rest => some ([part], rest)

/-- A dotted key, with the spaces around it. -/
def readKey : Reader (List String) := fun cs => readParts maxDepth cs

/-! ### Numbers -/

/-- Digits of a class after a first one, with single underscores between them. -/
def spanTail (p : Char → Bool) : List Char → List Char × List Char
  | '_' :: c :: cs =>
    if p c then
      let r := spanTail p cs
      (c :: r.1, r.2)
    else ([], '_' :: c :: cs)
  | c :: cs =>
    if p c then
      let r := spanTail p cs
      (c :: r.1, r.2)
    else ([], c :: cs)
  | [] => ([], [])

/-- Digits of a class, with single underscores between them. -/
def spanDigits (p : Char → Bool) : List Char → List Char × List Char
  | c :: cs =>
    if p c then
      let r := spanTail p cs
      (c :: r.1, r.2)
    else ([], c :: cs)
  | [] => ([], [])

/-- Digits without a leading zero, unless that is all. -/
def readWhole : Reader (List Char)
  | '0' :: rest => some (['0'], rest)
  | cs =>
    match spanDigits Char.isDigit cs with
    | ([], _) => none
    | r => some r

/-- An integer that fits in 64 bits with sign. -/
def integer? (n : Int) : Option Value :=
  if -9223372036854775808 ≤ n && n < 9223372036854775808 then some (.integer n) else none

/-- The number of digits in a base up to 16. -/
def readBase (base : Nat) : Reader Value := fun cs =>
  let isDigit := fun c => (Text.hexValue? c).any (· < base)
  match spanDigits isDigit cs with
  | ([], _) => none
  | (ds, rest) =>
    (integer? (ds.foldl (fun n c => base * n + (Text.hexValue? c).getD 0) 0 : Nat)).map (·, rest)

/-- The decimal `whole.fraction * 10 ^ exponent` is below the bound from which numbers round
to infinity. -/
def isFinite (whole fraction : List Char) (exponent : Int) : Bool :=
  let n := value (whole ++ fraction)
  let k := exponent - fraction.length
  if n = 0 then true
  else if k < 0 then
    -- So many places behind the point make any digits small; the power is not computed then.
    let low := (whole ++ fraction).length + 400 < k.natAbs
    low || n < (Nat.pow 2 1024 - Nat.pow 2 970) * Nat.pow 10 k.natAbs
  -- From `10 ^ 400` on any digits but zeros are too much.
  else k ≤ 400 && n * Nat.pow 10 k.toNat < Nat.pow 2 1024 - Nat.pow 2 970

/-- The exponent of a number, after its mark. -/
def readExponent (cs : List Char) : Option (Int × List Char) :=
  let (isNegative, cs) :=
    match cs with
    | '-' :: r => (true, r)
    | '+' :: r => (false, r)
    | _ => (false, cs)
  match spanDigits Char.isDigit cs with
  | ([], _) => none
  | (ds, rest) =>
    let n : Int := (value ds : Nat)
    some (if isNegative then -n else n, rest)

/-- The exponent of a number with its mark, or zero if there is none. -/
def readExponent? (cs : List Char) : Option (Int × List Char) :=
  match cs with
  | 'e' :: rest => readExponent rest
  | 'E' :: rest => readExponent rest
  | _ => some (0, cs)

/-- A floating-point number, if it is finite or negative. -/
def float? (isNegative : Bool) (whole fraction : List Char) (exponent : Int) : Option Value :=
  if isNegative || isFinite whole fraction exponent then some .float else none

/-- A decimal number after its sign. -/
def readDecimal (isNegative : Bool) : Reader Value := fun cs => do
  let (whole, rest) ← readWhole cs
  match rest with
  | '.' :: rest =>
    match spanDigits Char.isDigit rest with
    | ([], _) => none
    | (fraction, rest) => do
      let (exponent, rest) ← readExponent? rest
      (float? isNegative whole fraction exponent).map (·, rest)
  | c :: _ =>
    if c = 'e' || c = 'E' then do
      let (exponent, rest) ← readExponent? rest
      (float? isNegative whole [] exponent).map (·, rest)
    else
      let n : Int := (value whole : Nat)
      (integer? (if isNegative then -n else n)).map (·, rest)
  | [] =>
    let n : Int := (value whole : Nat)
    (integer? (if isNegative then -n else n)).map (·, [])

/-! ### Times -/

/-- A number of exactly `n` digits. -/
def readFixed (n : Nat) : Reader Nat := fun cs =>
  let ds := cs.take n
  if ds.length = n && ds.all Char.isDigit then some (value ds, cs.drop n) else none

/-- A number of two digits within bounds. -/
def readTwo (least greatest : Nat) : Reader Nat := fun cs => do
  let (n, rest) ← readFixed 2 cs
  if least ≤ n && n ≤ greatest then some (n, rest) else none

/-- The text after a character. -/
def expect (c : Char) : List Char → Option (List Char)
  | d :: rest => if d = c then some rest else none
  | [] => none

/-- The year has a 29th of February. -/
def isLeap (year : Nat) : Bool := year % 4 = 0 && (year % 100 ≠ 0 || year % 400 = 0)

/-- Number of days in a month. -/
def daysIn (year month : Nat) : Nat :=
  if month = 2 then if isLeap year then 29 else 28
  else if month = 4 || month = 6 || month = 9 || month = 11 then 30
  else 31

/-- The text after a date. -/
def afterDate (cs : List Char) : Option (List Char) := do
  let (year, rest) ← readFixed 4 cs
  let (month, rest) ← readTwo 1 12 (← expect '-' rest)
  let (_, rest) ← readTwo 1 (daysIn year month) (← expect '-' rest)
  some rest

/-- The text after a fraction of a second, if there is one. -/
def afterFraction : List Char → List Char
  | '.' :: c :: cs => if c.isDigit then cs.dropWhile Char.isDigit else '.' :: c :: cs
  | cs => cs

/-- The text after a time of day. -/
def afterClock (cs : List Char) : Option (List Char) := do
  let (_, rest) ← readTwo 0 23 cs
  let (_, rest) ← readTwo 0 59 (← expect ':' rest)
  let (_, rest) ← readTwo 0 60 (← expect ':' rest)
  some (afterFraction rest)

/-- The text after the distance from universal time, if one is given. -/
def afterOffset (cs : List Char) : Option (List Char) :=
  match cs with
  | [] => some []
  | c :: rest =>
    if c = 'Z' || c = 'z' then some rest
    else if c = '+' || c = '-' then do
      let (_, rest) ← readTwo 0 23 rest
      let (_, rest) ← readTwo 0 59 (← expect ':' rest)
      some rest
    else some cs

/-- The text after a date, with or without a time of day, or after a time of day. -/
def afterTime (cs : List Char) : Option (List Char) :=
  match afterDate cs with
  | some (c :: rest) =>
    if c = 'T' || c = 't' || c = ' ' then
      match afterClock rest with
      | some rest => afterOffset rest
      -- What follows is no time of day: the date stands alone.
      | none => some (c :: rest)
    else some (c :: rest)
  | some [] => some []
  | none => afterClock cs

/-! ### Values -/

/-- A name, if it stands at the front of the text. -/
def readName (name : String) (v : Value) : Reader Value := fun cs =>
  (name.toList.isPrefixOf? cs).map (v, ·)

/-- Infinity or not a number. -/
def readSpecial : Reader Value
  | 'i' :: cs => readName "inf" .float ('i' :: cs)
  | cs => readName "nan" .float cs

/-- A number after its sign. -/
def readSigned (isNegative : Bool) : Reader Value
  | cs@('i' :: _) => readSpecial cs
  | cs@('n' :: _) => readSpecial cs
  | cs => readDecimal isNegative cs

/-- A number or a time. -/
def readNumber : Reader Value := fun cs =>
  match afterTime cs with
  | some rest => some (.time, rest)
  | none =>
    match cs with
    | '0' :: 'x' :: rest => readBase 16 rest
    | '0' :: 'o' :: rest => readBase 8 rest
    | '0' :: 'b' :: rest => readBase 2 rest
    | '-' :: rest => readSigned true rest
    | '+' :: rest => readSigned false rest
    | _ => readDecimal false cs

/-- A value without parts. -/
def readScalar : Reader Value
  | cs@('"' :: _) => (readString cs).map fun r => (.string r.1, r.2)
  | cs@('\'' :: _) => (readString cs).map fun r => (.string r.1, r.2)
  | cs@('t' :: _) => readName "true" (.boolean true) cs
  | cs@('f' :: _) => readName "false" (.boolean false) cs
  | cs@('i' :: _) => readSpecial cs
  | cs@('n' :: _) => readSpecial cs
  | cs => readNumber cs

/-- The items of an array after its opening bracket, at most `fuel` of them. A comma may
follow the last one. -/
def readItems (item : Reader Value) : Nat → Reader (List Value)
  | 0, _ => none
  | fuel + 1, cs =>
    match skipTrivia false cs with
    -- Either there are no items, or a comma stood before the bracket.
    | ']' :: rest => some ([], rest)
    | cs => do
      let (v, rest) ← item cs
      match skipTrivia false rest with
      | ',' :: rest => do
        let (vs, rest) ← readItems item fuel rest
        some (v :: vs, rest)
      | ']' :: rest => some ([v], rest)
      | _ => none

/-- A key with its value, given a reader of values. -/
def readAssignment (item : Reader Value) : Reader (List String × Value) := fun cs => do
  let (key, rest) ← readKey cs
  let rest ← expect '=' rest
  let (v, rest) ← item (skipSpace rest)
  some ((key, v), rest)

/-- The entries of an inline table with at least one, at most `fuel` of them. -/
def readEntries (item : Reader Value) : Nat → Reader (List (List String × Value))
  | 0, _ => none
  | fuel + 1, cs => do
    let (e, rest) ← readAssignment item cs
    match skipSpace rest with
    | ',' :: rest => do
      let (es, rest) ← readEntries item fuel rest
      some (e :: es, rest)
    | '\x7d' :: rest => some ([e], rest)
    | _ => none

/-- An inline table after its opening brace. -/
def readInline (item : Reader Value) : Reader Value := fun cs =>
  match skipSpace cs with
  | '\x7d' :: rest => some (.table [], rest)
  | cs => do
    let (es, rest) ← readEntries item (cs.length + 1) cs
    let entries ← assignAll es []
    some (.table (valuesOf entries), rest)

/-- A value nested at most `depth` deep. -/
def readValue (depth : Nat) : Reader Value
  | '[' :: cs =>
    match depth with
    | 0 => none
    | depth + 1 =>
      (readItems (readValue depth) (cs.length + 1) cs).map fun r => (.array r.1, r.2)
  | '\x7b' :: cs =>
    match depth with
    | 0 => none
    | depth + 1 => readInline (readValue depth) cs
  | cs => readScalar cs

/-! ### Documents -/

/-- A header after its first bracket, up to the end of its line. -/
def readHeader (cs : List Char) : Option (Statement × List Char) :=
  match cs with
  | '[' :: rest => do
    let (path, rest) ← readKey rest
    let rest ← expect ']' (← expect ']' rest)
    some (.series path, ← endLine rest)
  | _ => do
    let (path, rest) ← readKey cs
    some (.header path, ← endLine (← expect ']' rest))

/-- A statement at the start of a line, up to the end of its last line. -/
def readStatement : Reader Statement
  | '[' :: cs => readHeader cs
  | cs => do
    let ((key, v), rest) ← readAssignment (readValue maxDepth) cs
    some (.assign key v, ← endLine rest)

/-- The statements of a document, on at most `fuel` lines or groups of lines. -/
def readStatements : Nat → List Char → Option (List Statement)
  | 0, _ => none
  | fuel + 1, cs =>
    match skipTrivia false cs with
    | [] => some []
    | cs => do
      let (s, rest) ← readStatement cs
      some (s :: (← readStatements fuel rest))

/-- Text without a byte order mark. -/
def dropMark : List Char → List Char
  | c :: cs => if c.toNat = 0xFEFF then cs else c :: cs
  | [] => []

/-- The entries of the table that a document denotes. -/
def parse (cs : List Char) : Option (List (String × Value)) := do
  let cs := dropMark cs
  let statements ← readStatements (cs.length + 1) cs
  tableOf statements

end Econet.Toml
