import Econet.Files
import Econet.Settings.Text

/-!
# Settings in files

## Main definitions

* `SettingsError`: why settings cannot be loaded or saved
* `Settings.load`, `Settings.save`: settings in a file
* `Settings.defaultPlaces`, `Settings.loadDefault`: the search when no file is named
-/

namespace Econet

/-- Why settings cannot be loaded or saved. -/
inductive SettingsError where
  | io (cause : FileError)
  /-- The text is not TOML, or a setting is of a wrong type. -/
  | notSettings {text : String}
  /-- A number is too large to be written. -/
  | unwritable
  | notFound (path : String)
  /-- The bridge may not have this station number. -/
  | reservedStation (station : UInt8)
  deriving DecidableEq, Repr

/-- The wording of an error. What is wrong with a text that holds no settings is said by the reader
of TOML. -/
def SettingsError.message (e : SettingsError) (toml : String → String := fun _ => "") : String :=
  match e with
  | io cause => s!"IO error: {cause.message}"
  | @notSettings text => s!"Parse error: {toml text}"
  | unwritable => "Serialize error: out-of-range value for `u64` type"
  | notFound path => s!"Config file not found: {path}"
  | reservedStation station => s!"Invalid configuration: bridge station {station} is reserved"

namespace Settings

/-- The settings, if they are valid. -/
def validate (s : Settings) : Except SettingsError Settings :=
  if s.isValid then .ok s else .error (.reservedStation s.bridge.station)

/-- The settings that a text denotes, if they are valid. -/
def ofText (text : String) : Except SettingsError Settings :=
  match parse text.toList with
  | some s => s.validate
  | none => .error (@SettingsError.notSettings text)

/-- The settings in a file. -/
def load (fs : Files) (path : String) : Except SettingsError Settings :=
  if fs.isPresent path then
    match fs.readText path with
    | .ok text => ofText text
    | .error cause => .error (.io cause)
  else .error (.notFound path)

/-- The tree after settings are written to a file. -/
def save (s : Settings) (fs : Files) (path : String) : Except SettingsError Files :=
  match s.text? with
  | none => .error .unwritable
  | some text =>
    match fs.save path text with
    | (.ok (), fs) => .ok fs
    | (.error cause, _) => .error (.io cause)

/-- The places that are searched for settings. The first of them is in the user's directory of
settings, if there is one. -/
def defaultPlaces (directory : Option String) : List String :=
  (directory.map fun d => s!"{d}/econet-bridge/config.toml").toList ++
    ["./econet-bridge.toml", "./config.toml"]

/-- The settings in the first place that has any, or the defaults if no place has. -/
def loadDefault (fs : Files) (directory : Option String) : Except SettingsError Settings :=
  match (defaultPlaces directory).find? fs.isPresent with
  | some path => load fs path
  | none => .ok default

end Settings

end Econet
