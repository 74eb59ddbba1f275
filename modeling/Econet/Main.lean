import Econet.CommandLine.Report

/-!
# The program

Reads what a call needs from the system, has it carried out, and passes on the report. The
transports themselves belong to whoever embeds the bridge: this program opens none, so that a
bridge with a transport does not start.
-/

namespace Econet.Main

open CommandLine (Command Report)

/-- What stands at a path. -/
def lookAt (path : String) : IO (Option Node) := do
  try
    return some (.file (← IO.FS.readBinFile path))
  catch e =>
    match e with
    | .noFileOrDirectory .. => return none
    | _ => return some .directory

/-- The tree with what stands at a path. -/
def survey (fs : Files) (path : String) : IO Files := do
  match ← lookAt path with
  | some (.file bytes) => return fs.add path bytes
  | some .directory => return fs.addDirectory path
  | none => return fs

/-- The tree with what stands at several paths. -/
def surveyAll (fs : Files) (paths : List String) : IO Files := paths.foldlM survey fs

/-- The directory in which the user keeps settings, if there is one. -/
def settingsDirectory : IO (Option String) := do
  match ← IO.getEnv "XDG_CONFIG_HOME" with
  | some directory => if directory.startsWith "/" then return some directory
  | none => pure ()
  return (← IO.getEnv "HOME").map (· ++ "/.config")

/-- The files that settings name. -/
def filesOf (s : Settings) : List String :=
  [s.aun.mapFile, s.piconet.networksFile, s.websocket.dynamicNetworksFile,
    s.security.usersFile].filterMap id

/-- The directory that holds a path. -/
def parentOf (path : String) : String :=
  let names := (Files.namesOf path).dropLast
  if names.isEmpty then "." else String.intercalate "/" names ++ "/"

/-- A random digit of base 16, of which some bits are given. -/
def randomDigit (least greatest : Nat) : IO Char := do
  return ((Text.hexDigits (← IO.rand least greatest)).head?).getD '0'

/-- A random name in the form of 32 digits in five groups. -/
def freshId : IO String := do
  let digits (n : Nat) : IO (List Char) := (List.replicate n ()).mapM fun _ => randomDigit 0 15
  let third ← digits 3
  let fourth ← digits 3
  let groups := [← digits 8, ← digits 4, '4' :: third, (← randomDigit 8 11) :: fourth, ← digits 12]
  return String.intercalate "-" (groups.map String.ofList)

/-- Prints a report and carries out what it writes to a file. -/
def passOn (before : Files) (r : Report) (output : Option String) : IO UInt32 := do
  for line in r.log do
    IO.println s!" INFO econet_bridge: {line}"
  match output with
  | some path =>
    match r.files.readText path with
    | .ok text =>
      if (before.readText path).toOption ≠ some text then IO.FS.writeFile path text
    | .error _ => pure ()
  | none => pure ()
  IO.print r.output
  IO.eprint r.errors
  return r.code.toUInt32

end Econet.Main

open Econet in
/-- The program. -/
def main (args : List String) : IO UInt32 := do
  let here := Files.namesOf (← IO.currentDir).toString
  let directory ← Main.settingsDirectory
  let invocation := (CommandLine.parse args).toOption
  let places := match invocation.bind (·.settingsFile) with
    | some path => [path]
    | none => Settings.defaultPlaces directory
  let tree ← Main.surveyAll (.empty (here.filter (· ≠ ""))) places
  let env : Environment :=
    { files := tree, settingsDirectory := directory, freshId := ← Main.freshId
      refusal := fun _ => some "Function not implemented (os error 38)"
      settingsCause := fun _ => "not a document of settings"
      usersCause := fun _ => "not a document of users" }
  let settings := invocation.bind fun i => (CommandLine.settingsFor env i.settingsFile).toOption
  let output := invocation.bind fun i => match i.command with
    | .config true path => path
    | _ => none
  let named := (settings.map Main.filesOf).getD []
  let targets := match output with
    | some path => [Main.parentOf path, path]
    | none => []
  let tree ← Main.surveyAll tree (named ++ targets)
  let r := CommandLine.call { env with files := tree } ⟨fun _ _ _ => false⟩ args
  Main.passOn tree r output
