import Econet.CommandLine.Arguments

/-!
# Explanations of the command line

An explanation says what something does, how it is called, and which commands and options there
are, in two columns.

## Main definitions

* `helpText`: the explanation of a topic
-/

namespace Econet.CommandLine

/-- The name of the program. -/
def programName : String := "econet-bridge"

/-- The version of the program. -/
def programVersion : String := "0.1.0"

/-- A text with blanks behind it, up to a width. -/
def padded (width : Nat) (s : String) : String :=
  s ++ String.ofList (List.replicate (width - s.length) ' ')

/-- Rows of two columns. -/
def columns (rows : List (String × String)) : String :=
  let width := rows.foldl (fun n r => max n r.1.length) 0
  String.join (rows.map fun r => s!"  {padded width r.1}  {r.2}\n")

/-- What a command does. -/
def Verb.about : Verb → String
  | run => "Run the bridge"
  | config => "Show current configuration"
  | info => "Show bridge information"

/-- What the request for help does. -/
def aboutHelp : String := "Print this message or the help of the given subcommand(s)"

/-- What the value of an option stands for. -/
def Switch.valueName? : Switch → Option String
  | settingsFile => some "CONFIG"
  | aunPort => some "AUN_PORT"
  | webSocketPort => some "WS_PORT"
  | serial => some "SERIAL"
  | output => some "OUTPUT"
  | _ => none

/-- What an option does. -/
def Switch.about : Switch → String
  | settingsFile => "Path to configuration file"
  | verbose => "Enable verbose output"
  | help => "Print help"
  | version => "Print version"
  | aunPort => "AUN UDP port (overrides configuration)"
  | webSocketPort => "WebSocket port (overrides configuration)"
  | serial => "Piconet serial device; enables the Piconet transport"
  | generate => "Generate sample configuration"
  | output => "Output path for generated config"

/-- An option as it is written. -/
def Switch.form (s : Switch) : String :=
  let short := match s.short? with
    | some c => String.ofList ['-', c, ',', ' ']
    | none => "    "
  let value := match s.valueName? with
    | some name => s!" <{name}>"
    | none => ""
  s!"{short}--{s.long}{value}"

/-- The options of a command, or of the program. -/
def optionRows (level : Option Verb) : String :=
  columns ((Switch.all level).map fun s => (s.form, s.about))

/-- The commands. -/
def commandRows : String :=
  columns ([Verb.run, .config, .info].map (fun v => (v.name, v.about)) ++ [("help", aboutHelp)])

/-- The explanation of a topic. -/
def helpText : Topic → String
  | .program =>
    "Bridge Acorn Econet traffic between AUN, WebSocket and Piconet\n\n" ++
      s!"Usage: {programName} [OPTIONS] <COMMAND>\n\nCommands:\n{commandRows}\n" ++
      s!"Options:\n{optionRows none}"
  | .verb v =>
    s!"{v.about}\n\nUsage: {programName} {v.name} [OPTIONS]\n\nOptions:\n{optionRows (some v)}"
  | .help =>
    s!"{aboutHelp}\n\nUsage: {programName} help [COMMAND]...\n\nArguments:\n" ++
      columns [("[COMMAND]...", "Print help for the subcommand(s)")]

end Econet.CommandLine
