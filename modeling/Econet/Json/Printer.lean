import Econet.Json.Value
import Econet.Text.Decimal
import Econet.Text.Hex

/-!
# Writing JSON

Values are written without blanks. In strings a quote, a backslash and the characters below
U+0020 are escaped, the latter by a letter where there is one. A floating-point number has
the fewest digits that read back; it always has a point or an exponent, and the exponent, with
its sign, is used from `10 ^ 16` on and below `10 ^ -5`.

## Main definitions

* `escape`, `stringText`: a character and a string as written
* `floatText`, `Number.text`: numbers as written
* `membersText`: an object from members that are written already
* `Value.text`: a value as written
-/

namespace Econet.Json

open Text (digits hexPadded)

/-! ### Strings -/

/-- One character of a written string. -/
def escape (c : Char) : List Char :=
  if c = '"' then ['\\', '"']
  else if c = '\\' then ['\\', '\\']
  else if c.toNat < 0x20 then
    if c.toNat = 8 then ['\\', 'b']
    else if c.toNat = 9 then ['\\', 't']
    else if c.toNat = 10 then ['\\', 'n']
    else if c.toNat = 12 then ['\\', 'f']
    else if c.toNat = 13 then ['\\', 'r']
    else '\\' :: 'u' :: hexPadded 4 c.toNat
  else [c]

/-- A written string, with its quotes. -/
def stringText (s : String) : List Char := '"' :: s.toList.flatMap escape ++ ['"']

/-! ### Numbers -/

/-- A positive decimal `c * 10 ^ k`, positional if its point stands within or shortly beside
its digits, with a signed exponent otherwise. -/
def decimalText (c : Nat) (k : Int) : List Char :=
  let ds := digits c
  let point : Int := ds.length + k
  if 0 ≤ k && point ≤ 16 then ds ++ List.replicate k.toNat '0' ++ ['.', '0']
  else if 0 < point && point ≤ 16 then
    ds.take point.toNat ++ '.' :: ds.drop point.toNat
  else if -5 < point && point ≤ 0 then
    ['0', '.'] ++ List.replicate point.natAbs '0' ++ ds
  else
    let exponent := point - 1
    let tail := 'e' :: (if exponent < 0 then '-' else '+') :: digits exponent.natAbs
    match ds with
    | [d] => d :: tail
    | d :: rest => d :: '.' :: rest ++ tail
    | [] => tail

/-- A floating-point number as written. -/
def floatText (isNegative : Bool) (x : Binary64) : List Char :=
  (if isNegative then ['-'] else []) ++
    if x.isZero then ['0', '.', '0'] else decimalText x.shortest.1 x.shortest.2

/-- A number as written. -/
def Number.text : Number → List Char
  | .natural n => digits n.toNat
  | .negative n => '-' :: digits (n.val + 1)
  | .float isNegative x => floatText isNegative x

/-! ### Values -/

/-- Texts with commas between them. -/
def separated : List (List Char) → List Char
  | [] => []
  | [t] => t
  | t :: ts => t ++ ',' :: separated ts

/-- A member from its name and its written value. -/
def memberText (name : String) (v : List Char) : List Char := stringText name ++ ':' :: v

/-- An object from its written members. -/
def membersText (ms : List (List Char)) : List Char := '\x7b' :: separated ms ++ ['\x7d']

mutual

/-- A tree as written. -/
def Tree.text : Tree → List Char
  | .null => ['n', 'u', 'l', 'l']
  | .bool true => ['t', 'r', 'u', 'e']
  | .bool false => ['f', 'a', 'l', 's', 'e']
  | .number n => n.text
  | .string s => stringText s
  | .array items => '[' :: separated (itemTexts items) ++ [']']
  | .object members => membersText (memberTexts members)

/-- The trees of a list as written. -/
def itemTexts : List Tree → List (List Char)
  | [] => []
  | t :: ts => t.text :: itemTexts ts

/-- The members of a list as written. -/
def memberTexts : List (String × Tree) → List (List Char)
  | [] => []
  | (name, t) :: ms => memberText name t.text :: memberTexts ms

end

/-- A value as written. -/
def Value.text (v : Value) : List Char := v.tree.text

end Econet.Json
