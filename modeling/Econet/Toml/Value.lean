/-!
# TOML values

## Main definitions

* `Value`: what a key can hold
* `Value.field?`: the value of a key in a list of entries
-/

namespace Econet.Toml

/-- What a key holds. Of floating-point numbers and of times only the kind is kept. -/
inductive Value where
  | string (s : String)
  | integer (n : Int)
  | float
  | boolean (b : Bool)
  | time
  | array (items : List Value)
  | table (entries : List (String × Value))
  deriving Repr, Inhabited

/-- The value of a key. -/
def field? (key : String) : List (String × Value) → Option Value
  | [] => none
  | e :: es => if e.1 = key then some e.2 else field? key es

end Econet.Toml
