import Econet.Bridge
import Econet.Settings.File
import Econet.Text.Terminal

/-!
# Launching the bridge

From settings to a bridge that is ready to run: the routes are read from the settings and the
files that they name, then the users, and at last the transports are opened. Each step can fail,
and then the bridge does not start.

## Main definitions

* `Environment`: what the system offers to the program
* `LaunchError`: why the bridge does not start
* `Settings.routes`, `Settings.register`: the routes and the users of settings
* `Settings.launch`: the bridge, ready to run
-/

namespace Econet

open Account (Register UserFile BackendError)

/-- What the system offers to the program. -/
structure Environment where
  files : Files
  /-- The directory in which the user keeps settings, if there is one. -/
  settingsDirectory : Option String
  /-- A name for this run of the program that no other run has. -/
  freshId : String
  /-- Why a transport cannot be opened. -/
  refusal : Transport → Option String
  /-- What is wrong with a text that holds no settings, as the reader of TOML says. -/
  settingsCause : String → String := fun _ => ""
  /-- What is wrong with a text that holds no users, as the reader of TOML says. -/
  usersCause : String → String := fun _ => ""

/-- Why the bridge does not start. -/
inductive LaunchError where
  | aunMap (path : String) (cause : MapFile.Error)
  | aunRule (line : String) (cause : Aun.RuleError)
  | piconetNetworks (path : String) (cause : MapFile.Error)
  | dynamicNetworks (path : String) (cause : MapFile.Error)
  | users (path : String) (cause : BackendError)
  /-- The host does not hand out the interface. -/
  | aun (interface : String) (cause : String)
  | webSocket (cause : String)
  | piconet (device : String) (cause : String)
  deriving DecidableEq, Repr

namespace LaunchError

/-- What is wrong with a map file, from the outside to the inside. -/
def mapCauses (e : MapFile.Error) : List String :=
  match e with
  | .unreadable _ cause => [e.message, cause.message]
  | .line _ _ => [e.message]

/-- What is wrong with a file of users, from the outside to the inside. -/
def userCauses (e : BackendError) (toml : String → String) : List String :=
  match e with
  | .io cause => [e.message toml, cause.message]
  | @BackendError.notUsers text => [e.message toml, toml text]
  | _ => [e.message toml]

/-- What failed. -/
def headline : LaunchError → String
  | aunMap path _ => s!"Failed to load AUN map {path}"
  | aunRule line cause =>
    String.join ["Invalid AUN rule ", Text.quoted line.toList, ": ", cause.message]
  | piconetNetworks path _ => s!"Failed to load Piconet networks {path}"
  | dynamicNetworks path _ => s!"Failed to load dynamic networks {path}"
  | users path _ => s!"Failed to load users {path}"
  | aun interface _ => s!"Failed to bind AUN socket on {interface}"
  | webSocket cause => s!"IO error: {cause}"
  | piconet device _ => s!"Failed to open Piconet on {device}"

/-- Why it failed, from the outside to the inside. -/
def causes (e : LaunchError) (toml : String → String) : List String :=
  match e with
  | aunMap _ cause => mapCauses cause
  | aunRule _ _ => []
  | piconetNetworks _ cause => mapCauses cause
  | dynamicNetworks _ cause => mapCauses cause
  | users _ cause => userCauses cause toml
  | aun _ cause => [cause]
  | webSocket cause => [cause]
  | piconet _ cause => [s!"Serial error: {cause}", cause]

end LaunchError

namespace Settings

/-! ### Routes -/

/-- What a reader makes of the file that a setting names. -/
def fromFile {α : Type} (fs : Files) (read : List Char → Except MapFile.Error α)
    (wrong : String → MapFile.Error → LaunchError) (path : String) : Except LaunchError α :=
  match MapFile.load fs path with
  | .error e => .error (wrong path e)
  | .ok text => (read text.toList).mapError (wrong path)

/-- The map with the rules of several lines added. -/
def addRules (m : Aun.Map) : List String → Except LaunchError Aun.Map
  | [] => .ok m
  | line :: lines =>
    match Aun.Rule.parse line.toList with
    | .ok r => addRules (m.add r) lines
    | .error e => .error (.aunRule line e)

/-- The addresses of hosts: first the rules of the map file, then those of the settings. -/
def aunMap (s : Settings) (fs : Files) : Except LaunchError Aun.Map := do
  let base ← match s.aun.mapFile with
    | some path => fromFile fs Aun.Map.parse .aunMap path
    | none => .ok .empty
  addRules base s.aun.rules

/-- The networks behind the serial adapter. If the adapter is used, the bridge's own network is
one of them. -/
def piconetNetworks (s : Settings) (fs : Files) : Except LaunchError Piconet.Networks := do
  let listed ← match s.piconet.networksFile with
    | some path => fromFile fs Piconet.Networks.parse .piconetNetworks path
    | none => .ok .empty
  -- Networks form a set, so the order of both sources does not matter.
  let networks := listed.toList.foldl .insert (.ofList s.piconet.networks)
  .ok (if s.piconet.enabled then networks.insert s.bridge.network else networks)

/-- The addresses of browser clients, by the networks of the settings and then those of the
file. -/
def pool (s : Settings) (fs : Files) : Except LaunchError Client.Pool := do
  let listed ← match s.websocket.dynamicNetworksFile with
    | some path => fromFile fs Client.Pool.parse .dynamicNetworks path
    | none => .ok .empty
  .ok (.ofList (s.websocket.dynamicNetworks ++ listed.networkList))

/-- The routes of settings. -/
def routes (s : Settings) (fs : Files) : Except LaunchError Routes := do
  let aun ← s.aunMap fs
  let networks ← s.piconetNetworks fs
  let pool ← s.pool fs
  .ok { aun, networks, pool }

/-! ### Users -/

/-- The limit for idle sessions, in nanoseconds. -/
def maxIdle (s : Settings) : Nat := s.security.maxIdleSecs.toNat * 1000000000

/-- The register of settings, with the users of their file. -/
def register (s : Settings) (fs : Files) : Except LaunchError Register :=
  let users := match s.security.usersFile with
    | some path => (UserFile.load fs path s.security.homeRoot).mapError (LaunchError.users path)
    | none => .ok (.inMemory s.security.homeRoot)
  users.map fun f => .ofBackends [.userFile f] s.maxIdle s.security.libraryPath

/-! ### Transports -/

/-- Number of lines that wait for the serial adapter. -/
def adapterQueue : Nat := 64

/-- The interface that datagrams arrive at. -/
def aunInterface (s : Settings) : String := s!"{s.aun.bindAddress}:{s.aun.port.toNat}"

/-- A transport opens, or the bridge does not start. -/
def opened (env : Environment) (t : Transport) (wrong : String → LaunchError) :
    Except LaunchError Unit :=
  match env.refusal t with
  | some cause => .error (wrong cause)
  | none => .ok ()

/-- The transports that the settings use are opened one after the other. -/
def openTransports (s : Settings) (env : Environment) : Except LaunchError Unit := do
  if s.aun.enabled then opened env .aun (.aun s.aunInterface)
  if s.websocket.enabled then opened env .webSocket .webSocket
  if s.piconet.enabled then opened env .piconet (.piconet s.piconet.device)

/-- The router of settings when the transports are open; `sink` is the way out to hosts. -/
def router (s : Settings) (routes : Routes) (sink : Sink) : Router :=
  let r := { Router.ofRoutes routes s.aun.port with
    sink := if s.aun.enabled then some sink else none }
  if s.piconet.enabled then
    ((r.withAdapter (some ⟨.ofCapacity adapterQueue, s.bridge.network⟩)).trySendLines
      (Piconet.startLines s.bridge.station)).2
  else r

/-- What the log says when the routes are known. It may be read on a terminal. -/
def startLog (s : Settings) (r : Routes) : List String :=
  [Text.onTerminal s!"Starting '{s.general.name}' as Econet station {s.address.text}",
    s!"{r.aun.ruleCount} AUN rules, {r.networks.size} Piconet networks, " ++
      s!"{r.pool.networkList.length} dynamic networks"]

/-- The bridge of settings, ready to run, and what the log says until then. -/
def launch (s : Settings) (env : Environment) (sink : Sink) :
    List String × Except LaunchError Bridge :=
  match s.routes env.files with
  | .error e => ([], .error e)
  | .ok routes =>
    (s.startLog routes, do
      let register ← s.register env.files
      s.openTransports env
      .ok { context := s.context, router := s.router routes sink, register, services := [] })

end Settings

end Econet
