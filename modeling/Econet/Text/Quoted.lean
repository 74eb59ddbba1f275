import Econet.Text.Hex
import Econet.Text.Visible

/-!
# Quoted text in messages

Messages show a text between double quotes. A backslash stands before a quote and a
backslash; tab, carriage return, line feed and zero are written `\t`, `\r`, `\n` and `\0`;
other hidden characters by their code point in hexadecimal, all others as they are.

## Main definitions

* `escapeChar`: one character of quoted text
* `quoted`: a string in quotes
-/

namespace Econet.Text

/-- One character as quoted text shows it. -/
def escapeChar (c : Char) : List Char :=
  if c = '"' then ['\\', '"']
  else if c = '\\' then ['\\', '\\']
  else if c = '\t' then ['\\', 't']
  else if c = '\r' then ['\\', 'r']
  else if c = '\n' then ['\\', 'n']
  else if c.toNat = 0 then ['\\', '0']
  else if isVisible c then [c]
  else ['\\', 'u', '\x7b'] ++ hexDigits c.toNat ++ ['\x7d']

/-- A text between quotes, with what cannot be seen or would end the quotes escaped. -/
def quoted (cs : List Char) : String :=
  String.ofList ('"' :: cs.flatMap escapeChar ++ ['"'])

end Econet.Text
