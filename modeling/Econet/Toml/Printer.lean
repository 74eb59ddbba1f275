import Econet.Toml.Quoting
import Econet.Toml.Value

/-!
# Writing TOML

An assignment stands on a line of its own. An array of at most one item is written on one
line, a longer one item by item, each on a line with four spaces in front and a comma behind.

## Main definitions

* `booleanText`, `arrayText`: values as written
* `assignmentText`: an assignment with its line end
* `sectionText`, `seriesText`: a table and a table of a series with their headers
-/

namespace Econet.Toml

/-- A truth value as written. -/
def booleanText (b : Bool) : List Char := if b then "true".toList else "false".toList

/-- An array of items that are written already. -/
def arrayText : List (List Char) → List Char
  | [] => ['[', ']']
  | [t] => '[' :: t ++ [']']
  | ts => '[' :: '\n' :: ts.flatMap (fun t => "    ".toList ++ t ++ [',', '\n']) ++ [']']

/-- An assignment of a written value to a bare key. -/
def assignmentText (key : String) (v : List Char) : List Char :=
  key.toList ++ " = ".toList ++ v ++ ['\n']

/-- Assignments, each on its line. -/
def assignmentsText (es : List (String × List Char)) : List Char :=
  es.flatMap fun e => assignmentText e.1 e.2

/-- A table with its header. -/
def sectionText (key : String) (es : List (String × List Char)) : List Char :=
  '[' :: key.toList ++ [']', '\n'] ++ assignmentsText es

/-- A table of a series with its header. -/
def seriesText (key : String) (es : List (String × List Char)) : List Char :=
  '[' :: '[' :: key.toList ++ [']', ']', '\n'] ++ assignmentsText es

/-- Tables with blank lines between them. -/
def joined : List (List Char) → List Char
  | [] => []
  | [t] => t
  | t :: ts => t ++ '\n' :: joined ts

end Econet.Toml
