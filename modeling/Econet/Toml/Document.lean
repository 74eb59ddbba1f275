import Econet.Toml.Value

/-!
# TOML documents

A document is a list of statements: assignments to dotted keys, and headers that open the
table or the next table of a series to which the assignments below them go. Every table is
opened at most once, and no key is assigned twice.

## Main definitions

* `Statement`: assignments and headers
* `Node`: a table under construction
* `assign`, `openTable`, `openSeries`, `assignUnder`: the effects of statements
* `tableOf`: the table that the statements of a document make
-/

namespace Econet.Toml

/-- A statement of a document. -/
inductive Statement where
  /-- Gives a value to a dotted key. -/
  | assign (key : List String) (v : Value)
  /-- Opens a table. -/
  | header (path : List String)
  /-- Opens the next table of a series. -/
  | series (path : List String)
  deriving Repr

/-- How a table came into being. -/
inductive Origin where
  /-- By a header of its own. -/
  | header
  /-- By the header of a table below it. -/
  | implied
  /-- By a dotted key. -/
  | dotted
  deriving DecidableEq, Repr

/-- What a key holds while the document is read. -/
inductive Node where
  | leaf (v : Value)
  | table (origin : Origin) (entries : List (String × Node))
  /-- A series of tables; the last one is open. -/
  | series (tables : List (List (String × Node)))

/-- The entries of a table under construction. -/
abbrev Entries := List (String × Node)

/-- What a key holds. -/
def node? (key : String) : Entries → Option Node
  | [] => none
  | e :: es => if e.1 = key then some e.2 else node? key es

/-- Entries with what a key holds replaced, or with a new key at the end. -/
def put (key : String) (n : Node) : Entries → Entries
  | [] => [(key, n)]
  | e :: es => if e.1 = key then (key, n) :: es else e :: put key n es

/-! ### Statements -/

/-- Applies a change to the last table of a series. -/
def changeLast (f : Entries → Option Entries) : List Entries → Option (List Entries)
  | [] => none
  | [t] => (f t).map ([·])
  | t :: ts => (changeLast f ts).map (t :: ·)

/-- Entries after a value is given to a dotted key. The tables on the way have to come from
dotted keys themselves; an implied table or a series may be passed but not be assigned to. -/
def assign : List String → Value → Entries → Option Entries
  | [], _, _ => none
  | [key], v, es =>
    match node? key es with
    | none => some (put key (.leaf v) es)
    | some _ => none
  | key :: rest, v, es =>
    match node? key es with
    | none => (assign rest v []).map fun t => put key (.table .dotted t) es
    | some (.table .dotted t) => (assign rest v t).map fun t => put key (.table .dotted t) es
    | some (.table .implied t) =>
      if rest.length = 1 then none
      else (assign rest v t).map fun t => put key (.table .implied t) es
    -- A table with a header of its own gets nothing from elsewhere.
    | some (.table .header _) => none
    | some (.series ts) =>
      if rest.length = 1 then none
      else (changeLast (assign rest v) ts).map fun ts => put key (.series ts) es
    | some (.leaf _) => none

/-- Entries after several assignments. -/
def assignAll : List (List String × Value) → Entries → Option Entries
  | [], es => some es
  | (key, v) :: rest, es => (assign key v es).bind (assignAll rest)

/-- Entries after a header opens a table. The table is new, or so far only implied. -/
def openTable : List String → Entries → Option Entries
  | [], _ => none
  | [key], es =>
    match node? key es with
    | none => some (put key (.table .header []) es)
    -- Only headers below it have spoken of the table so far.
    | some (.table .implied t) => some (put key (.table .header t) es)
    | some _ => none
  | key :: rest, es =>
    match node? key es with
    | none => (openTable rest []).map fun t => put key (.table .implied t) es
    | some (.table origin t) => (openTable rest t).map fun t => put key (.table origin t) es
    | some (.series ts) =>
      (changeLast (openTable rest) ts).map fun ts => put key (.series ts) es
    | some (.leaf _) => none

/-- Entries after a header opens the next table of a series. -/
def openSeries : List String → Entries → Option Entries
  | [], _ => none
  | [key], es =>
    match node? key es with
    | none => some (put key (.series [[]]) es)
    | some (.series ts) => some (put key (.series (ts ++ [[]])) es)
    | some _ => none
  | key :: rest, es =>
    match node? key es with
    | none => (openSeries rest []).map fun t => put key (.table .implied t) es
    | some (.table origin t) => (openSeries rest t).map fun t => put key (.table origin t) es
    | some (.series ts) =>
      (changeLast (openSeries rest) ts).map fun ts => put key (.series ts) es
    | some (.leaf _) => none

/-- Entries after an assignment below the header of a path. -/
def assignUnder : List String → List String → Value → Entries → Option Entries
  | [], key, v, es => assign key v es
  | p :: path, key, v, es =>
    match node? p es with
    | some (.table origin t) =>
      (assignUnder path key v t).map fun t => put p (.table origin t) es
    | some (.series ts) =>
      (changeLast (assignUnder path key v) ts).map fun ts => put p (.series ts) es
    | _ => none

/-- Entries after statements, the first ones below the header of a path. -/
def carryOut (path : List String) : List Statement → Entries → Option Entries
  | [], es => some es
  | .assign key v :: rest, es => (assignUnder path key v es).bind (carryOut path rest)
  | .header path :: rest, es => (openTable path es).bind (carryOut path rest)
  | .series path :: rest, es => (openSeries path es).bind (carryOut path rest)

/-! ### Results -/

mutual

/-- The value that a node has become. -/
def valueOf : Node → Value
  | .leaf v => v
  | .table _ es => .table (valuesOf es)
  | .series ts => .array (seriesOf ts)

/-- The entries of a table that is complete. -/
def valuesOf : List (String × Node) → List (String × Value)
  | [] => []
  | (key, n) :: es => (key, valueOf n) :: valuesOf es

/-- The tables of a series that is complete. -/
def seriesOf : List (List (String × Node)) → List Value
  | [] => []
  | t :: ts => .table (valuesOf t) :: seriesOf ts

end

/-- The entries of the table that the statements of a document make. -/
def tableOf (statements : List Statement) : Option (List (String × Value)) :=
  (carryOut [] statements []).map valuesOf

end Econet.Toml
