import Econet.Files
import Econet.Text.Decimal
import Econet.Text.Quoted

/-!
# Map files

Files of rules, one a line. A `#` begins a comment that runs to the end of its line; outer
blanks and empty lines do not count.

## Main definitions

* `MapFile.rules`: the lines that count, with their numbers
* `MapFile.parse`: the results of a reader on these lines
* `MapFile.Error`: what is wrong with a file
* `MapFile.networks`: the numbers in a list of networks
-/

namespace Econet.MapFile

open Text (trim lines parseByte quoted)

/-- A line without its comment and outer blanks. -/
def content (line : List Char) : List Char := trim (line.takeWhile (· ≠ '#'))

/-- The lines that count, with their numbers from `n` on. -/
def numbered (n : Nat) : List (List Char) → List (Nat × List Char)
  | [] => []
  | line :: rest =>
    let c := content line
    if c = [] then numbered (n + 1) rest else (n, c) :: numbered (n + 1) rest

/-- The lines of a text that count, with their numbers from 1 on. -/
def rules (text : List Char) : List (Nat × List Char) := numbered 1 (lines text)

/-- What is wrong with a map file. -/
inductive Error where
  | unreadable (path : String) (cause : FileError)
  | line (number : Nat) (message : String)
  deriving DecidableEq, Repr

/-- The wording of an error. -/
def Error.message : Error → String
  | unreadable path cause => s!"IO error reading {path}: {cause.message}"
  | line number message => s!"Line {number}: {message}"

/-- The results of a reader on numbered lines, or the error on the first line it refuses. -/
def readAll {α : Type} (read : List Char → Except String α) :
    List (Nat × List Char) → Except Error (List α)
  | [] => .ok []
  | (n, c) :: rest =>
    match read c with
    | .error message => .error (.line n message)
    | .ok a =>
      match readAll read rest with
      | .error e => .error e
      | .ok as => .ok (a :: as)

/-- The results of a reader on the lines of a text. -/
def parse {α : Type} (read : List Char → Except String α) (text : List Char) :
    Except Error (List α) :=
  readAll read (rules text)

/-- The text of a map file. -/
def load (fs : Files) (path : String) : Except Error String :=
  match fs.readText path with
  | .ok text => .ok text
  | .error cause => .error (.unreadable path cause)

/-! ### Lists of networks -/

/-- The network number that a line holds. -/
def network (line : List Char) : Except String UInt8 :=
  match parseByte line with
  | some n => .ok n
  | none => .error (String.append "invalid network number " (quoted line))

/-- The numbers in a list of networks, in the order of the text. -/
def networks (text : List Char) : Except Error (List UInt8) := parse network text

end Econet.MapFile
