import Econet.Text.Hex

/-!
# Strings in TOML

A string has four written forms: basic and literal, each on one line or several. A literal
string holds its characters as they are, a basic one may escape them by a backslash. A form
of several lines begins and ends with three quotes, and a line break right after the first
three does not count; up to two quotes may stand inside it, and just before its end.

A string is written in the plainest form that can hold it.

## Main definitions

* `readBasic`, `readLiteral`, `readLongBasic`, `readLongLiteral`: the rest of a string after
  its opening quotes
* `readString`: a string in any form
* `stringText`: a string as written
-/

namespace Econet.Toml

open Text (hexNumber? hexPadded)

/-- A reader: what it reads from the front of a text, and the rest of the text. -/
abbrev Reader (α : Type) := List Char → Option (α × List Char)

/-! ### Characters -/

/-- A control character that no string holds as it is: one below U+0020 other than tab, or
U+007F. -/
def isControl (c : Char) : Bool := (c.toNat < 0x20 && c ≠ '\t') || c.toNat = 0x7F

/-- Space or tab. -/
def isSpace (c : Char) : Bool := c = ' ' || c = '\t'

/-- The character of a hexadecimal code point, if there is one. -/
def charOf? (ds : List Char) : Option Char :=
  match hexNumber? ds with
  | some n => if n.isValidChar then some (Char.ofNat n) else none
  | none => none

/-- The character that a letter after a backslash stands for. -/
def unescape? (c : Char) : Option Char :=
  if c = 'b' then some (Char.ofNat 8)
  else if c = 't' then some '\t'
  else if c = 'n' then some '\n'
  else if c = 'f' then some (Char.ofNat 12)
  else if c = 'r' then some '\r'
  else if c = '"' then some '"'
  else if c = '\\' then some '\\'
  else none

/-- Puts a character in front of what a reader read. -/
def consChar (c : Char) (r : Option (List Char × List Char)) : Option (List Char × List Char) :=
  r.map fun r => (c :: r.1, r.2)

/-! ### Strings of one line -/

/-- The characters of a basic string, up to its closing quote. -/
def readBasic : Reader (List Char)
  | [] => none
  | '"' :: rest => some ([], rest)
  | '\\' :: 'u' :: a :: b :: c :: d :: rest =>
    (charOf? [a, b, c, d]).bind fun x => consChar x (readBasic rest)
  | '\\' :: 'U' :: a :: b :: c :: d :: e :: f :: g :: h :: rest =>
    (charOf? [a, b, c, d, e, f, g, h]).bind fun x => consChar x (readBasic rest)
  | '\\' :: c :: rest => (unescape? c).bind fun x => consChar x (readBasic rest)
  | c :: rest => if isControl c || c = '\\' then none else consChar c (readBasic rest)

/-- The characters of a literal string, up to its closing quote. -/
def readLiteral : Reader (List Char)
  | [] => none
  | '\'' :: rest => some ([], rest)
  | c :: rest => if isControl c then none else consChar c (readLiteral rest)

/-! ### Strings of several lines -/

/-- Text without one line break at its front. -/
def dropNewline : List Char → List Char
  | '\n' :: cs => cs
  | '\r' :: '\n' :: cs => cs
  | cs => cs

/-- A line break stands at the front of a text, after spaces. -/
def breaksLine (cs : List Char) : Bool :=
  match cs.dropWhile isSpace with
  | '\n' :: _ => true
  | '\r' :: '\n' :: _ => true
  | _ => false

/-- The characters of a basic string of several lines, up to its closing quotes. A backslash
at the end of a line takes the line break and all spaces and line breaks after it away; while
these are passed over, `skipping` is set. -/
def readLongBasic (skipping : Bool) : Reader (List Char)
  | [] => none
  | '"' :: '"' :: '"' :: '"' :: '"' :: rest => some (['"', '"'], rest)
  | '"' :: '"' :: '"' :: '"' :: rest => some (['"'], rest)
  | '"' :: '"' :: '"' :: rest => some ([], rest)
  | '\r' :: '\n' :: rest =>
    if skipping then readLongBasic true rest else consChar '\n' (readLongBasic false rest)
  | '\n' :: rest =>
    if skipping then readLongBasic true rest else consChar '\n' (readLongBasic false rest)
  | '\\' :: 'u' :: a :: b :: c :: d :: rest =>
    (charOf? [a, b, c, d]).bind fun x => consChar x (readLongBasic false rest)
  | '\\' :: 'U' :: a :: b :: c :: d :: e :: f :: g :: h :: rest =>
    (charOf? [a, b, c, d, e, f, g, h]).bind fun x => consChar x (readLongBasic false rest)
  | '\\' :: c :: rest =>
    if breaksLine (c :: rest) then
      -- The line feed behind a carriage return belongs to the same line break.
      if c = '\r' then
        match rest with
        | _ :: rest => readLongBasic true rest
        | [] => none
      else readLongBasic true rest
    else (unescape? c).bind fun x => consChar x (readLongBasic false rest)
  | c :: rest =>
    if skipping && isSpace c then readLongBasic true rest
    else if isControl c || c = '\\' then none
    else consChar c (readLongBasic false rest)

/-- The characters of a literal string of several lines, up to its closing quotes. -/
def readLongLiteral : Reader (List Char)
  | [] => none
  | '\'' :: '\'' :: '\'' :: '\'' :: '\'' :: rest => some (['\'', '\''], rest)
  | '\'' :: '\'' :: '\'' :: '\'' :: rest => some (['\''], rest)
  | '\'' :: '\'' :: '\'' :: rest => some ([], rest)
  | '\r' :: '\n' :: rest => consChar '\n' (readLongLiteral rest)
  | '\n' :: rest => consChar '\n' (readLongLiteral rest)
  | c :: rest => if isControl c then none else consChar c (readLongLiteral rest)

/-- A string in any form. -/
def readString : Reader String := fun cs =>
  let chars :=
    match cs with
    | '"' :: '"' :: '"' :: rest => readLongBasic false (dropNewline rest)
    | '"' :: rest => readBasic rest
    | '\'' :: '\'' :: '\'' :: rest => readLongLiteral (dropNewline rest)
    | '\'' :: rest => readLiteral rest
    | _ => none
  chars.map fun r => (String.ofList r.1, r.2)

/-! ### Writing -/

/-- The forms of a string. -/
inductive Form where
  | basic
  | literal
  | longBasic
  | longLiteral
  deriving DecidableEq, Repr

/-- A character that only a basic form holds: a control character other than a line feed. -/
def needsEscape (c : Char) : Bool := isControl c && c ≠ '\n'

/-- Three of a character stand in a row. -/
def hasTriple (q : Char) : List Char → Bool
  | a :: b :: c :: rest => (a = q && b = q && c = q) || hasTriple q (b :: c :: rest)
  | _ => false

/-- The plainest form that can hold a string. -/
def formOf (cs : List Char) : Form :=
  let plain := !cs.any needsEscape
  let short := !cs.contains '\n'
  if plain && short && !cs.contains '\\' && !cs.contains '"' then .basic
  else if plain && short && !cs.contains '\'' then .literal
  else if plain && !cs.contains '\\' && !hasTriple '"' cs then .longBasic
  else if plain && !hasTriple '\'' cs then .longLiteral
  else if short then .basic
  else .longBasic

/-- A character that a basic string escapes, with a letter if there is one. -/
def escape (c : Char) : List Char :=
  if c = '\\' then ['\\', '\\']
  else if c.toNat = 8 then ['\\', 'b']
  else if c = '\t' then ['\\', 't']
  else if c.toNat = 12 then ['\\', 'f']
  else if c = '\r' then ['\\', 'r']
  else if isControl c then '\\' :: 'u' :: (hexPadded 4 c.toNat).map Char.toUpper
  else [c]

/-- The inside of a basic string of one line. -/
def basicBody (cs : List Char) : List Char :=
  cs.flatMap fun c =>
    if c = '"' then ['\\', '"'] else if c = '\n' then ['\\', 'n'] else escape c

/-- The inside of a basic string of several lines, after `run` quotes: every third quote of a
run is escaped. -/
def longBasicBody (run : Nat) : List Char → List Char
  | [] => []
  | c :: cs =>
    if c = '"' then
      if run = 2 then '\\' :: '"' :: longBasicBody 0 cs else '"' :: longBasicBody (run + 1) cs
    else (if c = '\n' then ['\n'] else escape c) ++ longBasicBody 0 cs

/-- The line break that opens a form of several lines, if the string has a line break. -/
def opening (cs : List Char) : List Char := if cs.contains '\n' then ['\n'] else []

/-- A string as written. -/
def stringText (s : String) : List Char :=
  let cs := s.toList
  match formOf cs with
  | .basic => '"' :: basicBody cs ++ ['"']
  | .literal => '\'' :: cs ++ ['\'']
  | .longBasic => ['"', '"', '"'] ++ opening cs ++ longBasicBody 0 cs ++ ['"', '"', '"']
  | .longLiteral => ['\'', '\'', '\''] ++ opening cs ++ cs ++ ['\'', '\'', '\'']

end Econet.Toml
