import Econet.Text.Hex

/-!
# Text on a terminal

A terminal carries out some of the control characters that it is sent. Where lines may end up on
one, these characters are written as escapes: bell, backspace, form feed, escape and delete by
two hexadecimal digits, and U+0080 to U+009F by their code point. All others, tabs and the ends
of lines among them, stay as they are.

## Main definitions

* `escapeControl`: one character on a terminal
* `onTerminal`: a text on a terminal
-/

namespace Econet.Text

/-- One character as it is sent to a terminal. -/
def escapeControl (c : Char) : List Char :=
  let n := c.toNat
  if n = 7 || n = 8 || n = 12 || n = 27 || n = 127 then '\\' :: 'x' :: hexPadded 2 n
  else if 0x80 ≤ n && n ≤ 0x9F then ['\\', 'u', '\x7b'] ++ hexDigits n ++ ['\x7d']
  else [c]

/-- A text as it is sent to a terminal. -/
def onTerminal (s : String) : String := String.ofList (s.toList.flatMap escapeControl)

end Econet.Text
