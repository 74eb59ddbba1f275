import Econet.CommandLine.Help
import Econet.Launch

/-!
# What a call of the program does

A call of the program is a function of its arguments and of its environment. It ends with a
report: what is printed and logged, the exit code, and the files afterwards. A bridge that was
started is part of the report.

## Main definitions

* `Report`: the outcome of a call
* `call`: the report of a call
-/

namespace Econet.CommandLine

/-- The outcome of a call. -/
structure Report where
  code : UInt8 := 0
  output : String := ""
  /-- What is printed about errors. -/
  errors : String := ""
  /-- What is logged, at the level of information. -/
  log : List String := []
  files : Files
  /-- The bridge, if one was started. -/
  bridge : Option Bridge := none

/-! ### Failures -/

/-- The lines of a text with a blank margin from the second line on. -/
def hanging (margin text : String) : String :=
  String.ofList (text.toList.flatMap fun c => if c = '\n' then '\n' :: margin.toList else [c])

/-- Causes with their numbers, from `n` on. -/
def numbered (n : Nat) : List String → List String
  | [] => []
  | cause :: causes =>
    (s!"\n    {n}: " ++ hanging "       " cause) :: numbered (n + 1) causes

/-- Why something failed, below its headline. A cause that is not the only one has a number. -/
def causesText : List String → String
  | [] => ""
  | [cause] => "\n\nCaused by:\n    " ++ hanging "    " cause
  | causes => "\n\nCaused by:" ++ String.join (numbered 0 causes)

/-- The report of a failure. -/
def failed (fs : Files) (headline : String) (causes : List String) : Report :=
  { code := 1, errors := s!"Error: {headline}{causesText causes}\n", files := fs }

/-- What lies behind an error in settings. -/
def settingsCauses (e : SettingsError) (toml : String → String) : List String :=
  match e with
  | .io cause => [cause.message]
  | @SettingsError.notSettings text => [toml text]
  | _ => []

/-- The report of an error in settings. -/
def settingsFailed (env : Environment) (e : SettingsError) : Report :=
  failed env.files (e.message env.settingsCause) (settingsCauses e env.settingsCause)

/-- The report of arguments that ask for no command. -/
def interrupted (fs : Files) : Interruption → Report
  | .help topic => { output := helpText topic, files := fs }
  | .version => { output := s!"{programName} {programVersion}\n", files := fs }
  | .wrong e => { code := 2, errors := s!"error: {e.message}\n", files := fs }

/-! ### Commands -/

/-- The settings for a call. A file that is named has to hold settings; of the others, one that
does not is passed over in favour of the defaults. -/
def settingsFor (env : Environment) (file : Option String) : Except SettingsError Settings :=
  match file with
  | some path => Settings.load env.files path
  | none =>
    match Settings.loadDefault env.files env.settingsDirectory with
    | .ok s => .ok s
    | .error _ => .ok Settings.default

/-- The settings with what the arguments say instead. -/
def adjusted (s : Settings) (aunPort webSocketPort : Option UInt16) (serial : Option String) :
    Settings :=
  { s with
    aun := { s.aun with port := aunPort.getD s.aun.port }
    websocket := { s.websocket with port := webSocketPort.getD s.websocket.port }
    piconet := match serial with
      | some device => { s.piconet with device, enabled := true }
      | none => s.piconet }

/-- What is printed when the bridge runs. -/
def banner (s : Settings) : String :=
  let rule := "========================================\n"
  let line (isShown : Bool) (text : String) := if isShown then s!"  {text}\n" else ""
  String.join
    ["\n", rule, line true "Econet Bridge Running", rule, line true s!"Station: {s.address.text}",
      line s.aun.enabled s!"AUN: UDP port {s.aun.port.toNat}",
      line s.websocket.enabled s!"WebSocket: port {s.websocket.port.toNat}",
      line s.piconet.enabled s!"Piconet: {s.piconet.device}", rule,
      "\nPress Ctrl+C to stop.\n\n"]

/-- The report of a start of the bridge. -/
def runReport (env : Environment) (sink : Sink) (s : Settings) : Report :=
  let (log, started) := s.launch env sink
  match started with
  | .error e => { failed env.files e.headline (e.causes env.usersCause) with log }
  | .ok bridge => { output := banner s, log, files := env.files, bridge := some bridge }

/-- The report of a request for the text of settings, which is printed or written to a file. -/
def textReport (env : Environment) (s : Settings) (path : Option String) : Report :=
  match s.text? with
  | none => settingsFailed env .unwritable
  | some text =>
    match path with
    | none => { output := s!"{text}\n", files := env.files }
    | some path =>
      match env.files.writeText path text with
      | .error cause => failed env.files cause.message []
      | .ok files => { output := s!"Configuration written to: {path}\n", files }

/-- The description of a bridge with some settings. -/
def description (env : Environment) (s : Settings) : String :=
  String.join
    ["Econet Bridge Information\n", "=========================\n\n",
      s!"Instance: {s.instanceId env.freshId}\n", s!"Station: {s.address.text}\n",
      s!"Firmware version: {s.bridge.versionMajor.toNat}.{s.bridge.versionMinor.toNat}\n\n",
      s!"Default AUN Port: {Settings.default.aun.port.toNat}\n",
      s!"Default WebSocket Port: {Settings.default.websocket.port.toNat}\n",
      s!"Default Piconet Baud: {Settings.default.piconet.baudRate.toNat}\n"]

/-- The report of a command with some settings. -/
def report (env : Environment) (sink : Sink) (s : Settings) : Command → Report
  | .run aunPort webSocketPort serial =>
    runReport env sink (adjusted s aunPort webSocketPort serial)
  | .config true output => textReport env .sample output
  | .config false _ => textReport env s none
  | .info => { output := description env s, files := env.files }

/-- The report of a call. -/
def call (env : Environment) (sink : Sink) (args : List String) : Report :=
  match parse args with
  | .error i => interrupted env.files i
  | .ok i =>
    match settingsFor env i.settingsFile with
    | .error e => settingsFailed env e
    | .ok s => report env sink s i.command

end Econet.CommandLine
