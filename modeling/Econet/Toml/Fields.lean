import Econet.Toml.Value

/-!
# Reading records from TOML

A record is written as a table, or as an array of the values of its fields in order. Fields
that the record does not know are passed over. In an array the last fields may be missing,
but no field without a value of its own for that case, even if a table may leave it out.

## Main definitions

* `Schema`: the fields of a record
* `recordOf`: the entries of a record
* `boolean`, `unsigned`, `text`, `listOf`: values of a type
* `required`, `optional`, `withDefault`: fields of a record
-/

namespace Econet.Toml

/-- The fields of a record. -/
structure Schema where
  names : List String
  /-- Number of values that an array has to have at least. -/
  least : Nat

/-- The entries of the record that a value denotes. A time counts as a table without any of
its fields. -/
def recordOf (s : Schema) : Value → Option (List (String × Value))
  | .table es => some es
  | .array vs => if s.least ≤ vs.length then some (s.names.zip vs) else none
  | .time => some []
  | _ => none

/-! ### Values of a type -/

/-- A truth value. -/
def boolean : Value → Option Bool
  | .boolean b => some b
  | _ => none

/-- A natural number below a bound. -/
def unsigned (bound : Nat) : Value → Option Nat
  | .integer n => if 0 ≤ n && n < bound then some n.toNat else none
  | _ => none

/-- A number of 8 bits. -/
def byte (v : Value) : Option UInt8 := (unsigned UInt8.size v).map UInt8.ofNat

/-- A number of 16 bits. -/
def uint16 (v : Value) : Option UInt16 := (unsigned UInt16.size v).map UInt16.ofNat

/-- A number of 32 bits. -/
def uint32 (v : Value) : Option UInt32 := (unsigned UInt32.size v).map UInt32.ofNat

/-- A number of 64 bits. -/
def uint64 (v : Value) : Option UInt64 := (unsigned UInt64.size v).map UInt64.ofNat

/-- A text. -/
def text : Value → Option String
  | .string s => some s
  | _ => none

/-- A list of values of one type. -/
def listOf {α : Type} (read : Value → Option α) : Value → Option (List α)
  | .array vs => vs.mapM read
  | _ => none

/-! ### Fields -/

/-- A field that has to be there. -/
def required {α : Type} (es : List (String × Value)) (name : String) (read : Value → Option α) :
    Option α :=
  (field? name es).bind read

/-- A field that may be absent. -/
def optional {α : Type} (es : List (String × Value)) (name : String) (read : Value → Option α) :
    Option (Option α) :=
  match field? name es with
  | none => some none
  | some v => (read v).map some

/-- A field with a value for the case that it is absent. -/
def withDefault {α : Type} (es : List (String × Value)) (name : String) (default : α)
    (read : Value → Option α) : Option α :=
  match field? name es with
  | none => some default
  | some v => read v

end Econet.Toml
