import Econet.Text.Decimal

/-!
# Arguments of the command line

The arguments choose a command and its options. Options have a long name, and some a short one
too; some take a value, which stands in the next argument or in the same one. Short options
without values can be written together. The options of the program itself may stand before or
after the command, and those that stand after it count.

## Main definitions

* `Command`, `Invocation`: what is to be done
* `Switch`: the options, with their names
* `Interruption`: why nothing is done
* `parse`: what arguments ask for
-/

namespace Econet.CommandLine

open Text (isNumeral value)

/-! ### What can be asked for -/

/-- What the program can do. -/
inductive Command where
  | run (aunPort webSocketPort : Option UInt16) (serial : Option String)
  /-- Show the settings, or write an example. -/
  | config (generate : Bool) (output : Option String)
  | info
  deriving DecidableEq, Repr

/-- What is to be done, and with which settings. -/
structure Invocation where
  /-- The file of settings, if one is named. -/
  settingsFile : Option String
  verbose : Bool
  command : Command
  deriving DecidableEq, Repr

/-- The commands by name. -/
inductive Verb where
  | run
  | config
  | info
  deriving DecidableEq, Repr

/-- The name of a command. -/
def Verb.name : Verb → String
  | run => "run"
  | config => "config"
  | info => "info"

/-- What can be explained. -/
inductive Topic where
  | program
  | verb (v : Verb)
  | help
  deriving DecidableEq, Repr

/-! ### Options -/

/-- The options. -/
inductive Switch where
  | settingsFile
  | verbose
  | help
  | version
  | aunPort
  | webSocketPort
  | serial
  | generate
  | output
  deriving DecidableEq, Repr

namespace Switch

/-- The long name. -/
def long : Switch → String
  | settingsFile => "config"
  | verbose => "verbose"
  | help => "help"
  | version => "version"
  | aunPort => "aun-port"
  | webSocketPort => "ws-port"
  | serial => "serial"
  | generate => "generate"
  | output => "output"

/-- The short name. -/
def short? : Switch → Option Char
  | settingsFile => some 'c'
  | verbose => some 'v'
  | help => some 'h'
  | version => some 'V'
  | output => some 'o'
  | _ => none

/-- The option takes a value. -/
def takesValue : Switch → Bool
  | settingsFile | aunPort | webSocketPort | serial | output => true
  | _ => false

/-- The options of a command, or of the program if there is no command. -/
def all : Option Verb → List Switch
  | none => [settingsFile, verbose, help, version]
  | some .run => [aunPort, settingsFile, verbose, webSocketPort, serial, help]
  | some .config => [settingsFile, generate, output, verbose, help]
  | some .info => [settingsFile, verbose, help]

end Switch

/-- A number of a port. A sign may stand in front of it. -/
def parsePort (cs : List Char) : Option UInt16 :=
  let ds := match cs with
    | '+' :: ds => ds
    | '-' :: ds => ds
    | ds => ds
  let n := value ds
  if isNumeral ds && n < UInt16.size && (cs.head? ≠ some '-' || n = 0) then some (UInt16.ofNat n)
  else none

/-- A text can be the value of an option. -/
def Switch.accepts (s : Switch) (v : List Char) : Bool :=
  match s with
  | aunPort | webSocketPort => (parsePort v).isSome
  | settingsFile | output => !v.isEmpty
  | _ => true

/-! ### Interruptions -/

/-- Why arguments cannot be understood. -/
inductive UsageError where
  | missingCommand
  | unexpected (argument : String)
  | repeated (s : Switch)
  | missingValue (s : Switch)
  | invalidValue (s : Switch) (v : String)
  deriving DecidableEq, Repr

/-- The wording of an error. -/
def UsageError.message : UsageError → String
  | missingCommand => "a command is required"
  | unexpected argument => s!"unexpected argument '{argument}' found"
  | repeated s => s!"the argument '--{s.long}' cannot be used multiple times"
  | missingValue s => s!"a value is required for '--{s.long}' but none was supplied"
  | invalidValue s v => s!"invalid value '{v}' for '--{s.long}'"

/-- Why no command is carried out. -/
inductive Interruption where
  | help (topic : Topic)
  | version
  | wrong (e : UsageError)
  deriving DecidableEq, Repr

/-! ### Reading options -/

/-- The options that were read so far, and one whose value is not settled yet. -/
structure Given where
  settled : List (Switch × String)
  /-- An option whose value stood in an argument of its own. -/
  open? : Option (Switch × String)
  deriving DecidableEq, Repr

namespace Given

/-- No option was read. -/
def empty : Given := ⟨[], none⟩

/-- The options with one more, which must not be there yet. -/
def put (g : Given) (s : Switch) (v : String) : Except Interruption Given :=
  if g.settled.any (·.1 = s) then .error (.wrong (.repeated s))
  else if s.accepts v.toList then .ok { g with settled := g.settled ++ [(s, v)] }
  else .error (.wrong (.invalidValue s v))

/-- The options with the open one settled. That is done when the next option begins, or at the
end. -/
def settle (g : Given) : Except Interruption Given :=
  match g.open? with
  | some (s, v) => { g with open? := none }.put s v
  | none => .ok g

/-- The options with one more that stands in one argument, where `topic` is what an explanation
would be about. -/
def add (g : Given) (topic : Topic) (s : Switch) (v : String) : Except Interruption Given :=
  match g.settle with
  | .error e => .error e
  | .ok g =>
    match s with
    | .help => .error (.help topic)
    | .version => .error .version
    | _ => g.put s v

/-- The value of an option. -/
def value? (g : Given) (s : Switch) : Option String := g.settled.lookup s

/-- The option was read. -/
def has (g : Given) (s : Switch) : Bool := (g.value? s).isSome

end Given

/-- What an explanation among the options of a command, or of the program, is about. -/
def topicAt : Option Verb → Topic
  | none => .program
  | some v => .verb v

/-- An argument that is refused. -/
def unexpected (argument : List Char) : Interruption :=
  .wrong (.unexpected (String.ofList argument))

/-- Reads short options that are written together. The last one may want the next argument as its
value; then it is returned too. -/
def readShort (level : Option Verb) (g : Given) :
    List Char → Except Interruption (Given × Option Switch)
  | [] => .ok (g, none)
  | c :: cs =>
    match (Switch.all level).find? (·.short? = some c) with
    | none => .error (unexpected ['-', c])
    | some s =>
      if s.takesValue then
        match cs with
        -- The value is the next argument.
        | [] => g.settle.map (·, some s)
        | '=' :: v => (g.add (topicAt level) s (String.ofList v)).map (·, none)
        | v => (g.add (topicAt level) s (String.ofList v)).map (·, none)
      else
        match g.add (topicAt level) s "" with
        | .ok g => readShort level g cs
        | .error e => .error e

/-- Reads a long option. One that wants the next argument as its value is returned too. -/
def readLong (level : Option Verb) (g : Given) (cs : List Char) :
    Except Interruption (Given × Option Switch) :=
  match (Switch.all level).find? (·.long.toList = cs.takeWhile (· ≠ '=')) with
  | none => .error (unexpected ('-' :: '-' :: cs))
  | some s =>
    match cs.dropWhile (· ≠ '='), s.takesValue with
    | [], true => g.settle.map (·, some s)
    | [], false => (g.add (topicAt level) s "").map (·, none)
    | _ :: v, true => (g.add (topicAt level) s (String.ofList v)).map (·, none)
    | _ :: _, false => .error (unexpected ('-' :: '-' :: cs))

/-- An argument has the form of an option. -/
def isSwitch (argument : String) : Bool :=
  argument.toList.head? = some '-' && argument ≠ "-"

/-- Reads the options of a command, or of the program, up to the first argument that is none. An
argument of two hyphens ends the options. -/
def readSwitches (level : Option Verb) (g : Given) :
    List String → Except Interruption (Given × List String)
  | [] => .ok (g, [])
  | a :: as =>
    if !isSwitch a then .ok (g, a :: as)
    else if a = "--" then
      match as with
      | [] => .ok (g, [])
      | b :: _ => .error (.wrong (.unexpected b))
    else
      let read := match a.toList with
        | '-' :: '-' :: cs => readLong level g cs
        | cs => readShort level g cs.tail
      match read with
      | .error e => .error e
      | .ok (g, none) => readSwitches level g as
      | .ok (g, some s) =>
        match as with
        | [] => .error (.wrong (.missingValue s))
        | v :: rest =>
          if isSwitch v then .error (.wrong (.missingValue s))
          else readSwitches level { g with open? := some (s, v) } rest

/-! ### Reading commands -/

/-- The command of a name. -/
def verb? (name : String) : Option Verb := [.run, .config, .info].find? (·.name = name)

/-- What the arguments behind the request for help ask about. -/
def readTopic : List String → Interruption
  | [] => .help .program
  | [name] =>
    if name = "help" then .help .help
    else match verb? name with
      | some v => .help (.verb v)
      | none => .wrong (.unexpected name)
  | name :: _ => .wrong (.unexpected name)

/-- The number of a port in an option. -/
def Given.port? (g : Given) (s : Switch) : Option UInt16 :=
  (g.value? s).bind fun v => parsePort v.toList

/-- The command with the options that were read behind it. -/
def Verb.command (v : Verb) (g : Given) : Command :=
  match v with
  | run => .run (g.port? .aunPort) (g.port? .webSocketPort) (g.value? .serial)
  | config => .config (g.has .generate) (g.value? .output)
  | info => .info

/-- Reads the arguments behind a command, after the options of the program. -/
def readCommand (outer : Given) (v : Verb) (args : List String) :
    Except Interruption Invocation := do
  let (inner, rest) ← readSwitches (some v) .empty args
  match rest with
  | a :: _ => .error (.wrong (.unexpected a))
  | [] =>
    -- Of two faults in options that still wait, that of the command comes first.
    let inner ← inner.settle
    let outer ← outer.settle
    .ok
      -- An option behind the command overrides one before it.
      { settingsFile := (inner.value? .settingsFile).or (outer.value? .settingsFile)
        verbose := inner.has .verbose || outer.has .verbose
        command := v.command inner }

/-- What arguments ask for. -/
def parse (args : List String) : Except Interruption Invocation := do
  let (outer, rest) ← readSwitches none .empty args
  match rest with
  | [] => .error (.wrong .missingCommand)
  | name :: args =>
    if name = "help" then .error (readTopic args)
    else match verb? name with
      | some v => readCommand outer v args
      | none => .error (.wrong (.unexpected name))

end Econet.CommandLine
