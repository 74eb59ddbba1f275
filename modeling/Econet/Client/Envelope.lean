import Econet.Json.Parser
import Econet.Json.Printer

/-!
# Envelopes

Browser clients exchange JSON texts. A `pkt` envelope carries two addresses and a payload as
texts, a `ctrl` envelope a request with its arguments, or the response or error that answers
one. An envelope may also be written as an array: its type and then its fields in order.

## Main definitions

* `Envelope`: both kinds
* `Envelope.text`: the written form
* `Envelope.parse`: the envelope that a text denotes
-/

namespace Econet.Client

open Json (Value Number)

/-- A text that a client and the bridge exchange. -/
inductive Envelope where
  /-- A packet: addresses and payload as texts. -/
  | packet (source destination payload : String)
  | control (request : Option String) (args : Option Value) (response error : Option String)
  deriving Repr

namespace Envelope

/-- The answer to a request that was granted. -/
def response (text : String) : Envelope := .control none none (some text) none

/-- The answer to a request that was refused. -/
def refusal (text : String) : Envelope := .control none none none (some text)

/-! ### Writing -/

/-- A member that is written only if it is present. -/
def member? (name : String) (v : Option (List Char)) : List (List Char) :=
  (v.map (Json.memberText name)).toList

/-- The characters of the written form. -/
def chars : Envelope → List Char
  | packet source destination payload =>
    Json.membersText
      [Json.memberText "type" (Json.stringText "pkt"),
        Json.memberText "src" (Json.stringText source),
        Json.memberText "dst" (Json.stringText destination),
        Json.memberText "payload" (Json.stringText payload)]
  | control request args response error =>
    Json.membersText
      (Json.memberText "type" (Json.stringText "ctrl") ::
        (member? "request" (request.map Json.stringText) ++
          member? "args" (args.map Value.text) ++
          member? "response" (response.map Json.stringText) ++
          member? "error" (error.map Json.stringText)))

/-- The written form: compact JSON, the type first, absent members left out. -/
def text (e : Envelope) : String := String.ofList e.chars

/-! ### Reading -/

/-- The string that a value is. -/
def asString (v : Value) : Option String :=
  match v.tree with
  | .string s => some s
  | _ => none

/-- A value, where `null` counts as absent. -/
def asOptional (v : Value) : Option Value :=
  match v.tree with
  | .null => none
  | _ => some v

/-- A field that may be absent or `null` but otherwise has to be a string. -/
def optionalString (v : Option Value) : Option (Option String) :=
  match v.bind asOptional with
  | none => some none
  | some v => (asString v).map some

/-- The value of the only member of a name: `none` if there are several. -/
def only (ms : List (String × Value)) (name : String) : Option (Option Value) :=
  match ms.filter (·.1 = name) with
  | [] => some none
  | [m] => some (some m.2)
  | _ => none

/-- The envelope of the fields of a packet. -/
def ofPacketFields (source destination payload : Value) : Option Envelope := do
  some (packet (← asString source) (← asString destination) (← asString payload))

/-- The envelope of the fields of a control message. -/
def ofControlFields (request args response error : Option Value) : Option Envelope := do
  some (control (← optionalString request) (args.bind asOptional) (← optionalString response)
    (← optionalString error))

/-- The envelope of the members of an object. A member that the type does not know is passed
over; one that it knows may not be repeated. -/
def ofMembers (ms : List (String × Value)) : Option Envelope := do
  let type ← (← only ms "type").bind asString
  if type = "pkt" then
    ofPacketFields (← ← only ms "src") (← ← only ms "dst") (← ← only ms "payload")
  else if type = "ctrl" then
    ofControlFields (← only ms "request") (← only ms "args") (← only ms "response")
      (← only ms "error")
  else none

/-- The envelope of the items of an array. -/
def ofItems : List Value → Option Envelope
  | [] => none
  | type :: fields => do
    let type ← asString type
    if type = "pkt" then
      match fields with
      | [source, destination, payload] => ofPacketFields source destination payload
      | _ => none
    else if type = "ctrl" then
      if fields.length ≤ 4 then ofControlFields fields[0]? fields[1]? fields[2]? fields[3]?
      else none
    else none

/-- A reader of envelopes. -/
def read : Json.Reader Envelope
  | '\x7b' :: cs => do
    let (ms, rest) ← Json.readMembers (Json.maxDepth - 1) cs
    some (← ofMembers ms, rest)
  | '[' :: cs => do
    let (items, rest) ←
      Json.readBracketed (Json.readValue (Json.maxDepth - 1)) ']' cs
    some (← ofItems items, rest)
  | _ => none

/-- The envelope that a text denotes. -/
def parse (cs : List Char) : Option Envelope := Json.parseWhole read cs

end Envelope

end Econet.Client
