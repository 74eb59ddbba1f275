import Econet.Settings.Basic
import Econet.Toml.Fields
import Econet.Toml.Parser
import Econet.Toml.Printer

/-!
# Settings as text

Settings are written in TOML, section by section, and absent options are left out. When they
are read, missing sections and fields take their defaults.

## Main definitions

* `Settings.text?`: the written form
* `Settings.parse`: the settings that a text denotes
-/

namespace Econet.Settings

open Text (digits)
open Toml (Value Schema stringText booleanText arrayText required optional withDefault listOf)

/-! ### Writing -/

/-- A field that is left out if it is absent. -/
def option (name : String) (v : Option String) : List (String × List Char) :=
  (v.map fun s => (name, stringText s)).toList

/-- The fields of the general settings as written. -/
def General.fields (s : General) : List (String × List Char) :=
  option "instance_id" s.instanceId ++
    [("name", stringText s.name), ("verbose", booleanText s.verbose)]

/-- The fields of the station as written. -/
def Station.fields (s : Station) : List (String × List Char) :=
  [("network", digits s.network.toNat), ("station", digits s.station.toNat),
    ("version_major", digits s.versionMajor.toNat), ("version_minor", digits s.versionMinor.toNat)]

/-- Network numbers as written. -/
def networksText (ns : List UInt8) : List Char := arrayText (ns.map fun n => digits n.toNat)

/-- The fields of the transport by datagrams as written. -/
def Aun.fields (s : Aun) : List (String × List Char) :=
  [("enabled", booleanText s.enabled), ("port", digits s.port.toNat),
    ("bind_address", stringText s.bindAddress)] ++
  option "map_file" s.mapFile ++ [("rules", arrayText (s.rules.map stringText))]

/-- The fields of the transport to browser clients as written. -/
def WebSocket.fields (s : WebSocket) : List (String × List Char) :=
  [("enabled", booleanText s.enabled), ("port", digits s.port.toNat),
    ("bind_address", stringText s.bindAddress)] ++
  option "dynamic_networks_file" s.dynamicNetworksFile ++
    [("dynamic_networks", networksText s.dynamicNetworks)]

/-- The fields of the transport by the serial adapter as written. -/
def Piconet.fields (s : Piconet) : List (String × List Char) :=
  [("enabled", booleanText s.enabled), ("device", stringText s.device),
    ("baud_rate", digits s.baudRate.toNat)] ++
  option "networks_file" s.networksFile ++ [("networks", networksText s.networks)]

/-- The fields of the users and sessions as written. -/
def Security.fields (s : Security) : List (String × List Char) :=
  [("max_idle_secs", digits s.maxIdleSecs.toNat),
    ("housekeeping_interval_secs", digits s.housekeepingIntervalSecs.toNat)] ++
  option "users_file" s.usersFile ++
    [("home_root", stringText s.homeRoot), ("library_path", stringText s.libraryPath)]

/-- The characters of the written form. -/
def chars (s : Settings) : List Char :=
  Toml.joined
    [Toml.sectionText "general" s.general.fields, Toml.sectionText "bridge" s.bridge.fields,
      Toml.sectionText "aun" s.aun.fields, Toml.sectionText "websocket" s.websocket.fields,
      Toml.sectionText "piconet" s.piconet.fields, Toml.sectionText "security" s.security.fields]

/-- The numbers of the settings fit into the integers of the format. -/
def isWritable (s : Settings) : Bool :=
  s.security.maxIdleSecs.toNat < 9223372036854775808 &&
    s.security.housekeepingIntervalSecs.toNat < 9223372036854775808

/-- The written form; `none` if a number does not fit. -/
def text? (s : Settings) : Option String :=
  if s.isWritable then some (String.ofList s.chars) else none

/-! ### Reading -/

/-- The fields of the general settings. -/
def General.schema : Schema := ⟨["instance_id", "name", "verbose"], 1⟩

/-- The fields of the station. -/
def Station.schema : Schema := ⟨["network", "station", "version_major", "version_minor"], 0⟩

/-- The fields of the transport by datagrams. -/
def Aun.schema : Schema := ⟨["enabled", "port", "bind_address", "map_file", "rules"], 4⟩

/-- The fields of the transport to browser clients. -/
def WebSocket.schema : Schema :=
  ⟨["enabled", "port", "bind_address", "dynamic_networks_file", "dynamic_networks"], 4⟩

/-- The fields of the transport by the serial adapter. -/
def Piconet.schema : Schema := ⟨["enabled", "device", "baud_rate", "networks_file", "networks"], 4⟩

/-- The fields of the users and sessions. -/
def Security.schema : Schema :=
  ⟨["max_idle_secs", "housekeeping_interval_secs", "users_file", "home_root", "library_path"], 3⟩

/-- The general settings of a section. -/
def General.ofValue (v : Value) : Option General := do
  let defaults : General := {}
  let es ← Toml.recordOf schema v
  some
    { instanceId := ← optional es "instance_id" Toml.text
      name := ← withDefault es "name" defaults.name Toml.text
      verbose := ← withDefault es "verbose" defaults.verbose Toml.boolean }

/-- The station of a section. -/
def Station.ofValue (v : Value) : Option Station := do
  let defaults : Station := {}
  let es ← Toml.recordOf schema v
  some
    { network := ← withDefault es "network" defaults.network Toml.byte
      station := ← withDefault es "station" defaults.station Toml.byte
      versionMajor := ← withDefault es "version_major" defaults.versionMajor Toml.byte
      versionMinor := ← withDefault es "version_minor" defaults.versionMinor Toml.byte }

/-- The transport by datagrams of a section. -/
def Aun.ofValue (v : Value) : Option Aun := do
  let defaults : Aun := {}
  let es ← Toml.recordOf schema v
  some
    { enabled := ← withDefault es "enabled" defaults.enabled Toml.boolean
      port := ← withDefault es "port" defaults.port Toml.uint16
      bindAddress := ← withDefault es "bind_address" defaults.bindAddress Toml.text
      mapFile := ← optional es "map_file" Toml.text
      rules := ← withDefault es "rules" defaults.rules (listOf Toml.text) }

/-- The transport to browser clients of a section. -/
def WebSocket.ofValue (v : Value) : Option WebSocket := do
  let defaults : WebSocket := {}
  let es ← Toml.recordOf schema v
  some
    { enabled := ← withDefault es "enabled" defaults.enabled Toml.boolean
      port := ← withDefault es "port" defaults.port Toml.uint16
      bindAddress := ← withDefault es "bind_address" defaults.bindAddress Toml.text
      dynamicNetworksFile := ← optional es "dynamic_networks_file" Toml.text
      dynamicNetworks :=
        ← withDefault es "dynamic_networks" defaults.dynamicNetworks (listOf Toml.byte) }

/-- The transport by the serial adapter of a section. -/
def Piconet.ofValue (v : Value) : Option Piconet := do
  let defaults : Piconet := {}
  let es ← Toml.recordOf schema v
  some
    { enabled := ← withDefault es "enabled" defaults.enabled Toml.boolean
      device := ← withDefault es "device" defaults.device Toml.text
      baudRate := ← withDefault es "baud_rate" defaults.baudRate Toml.uint32
      networksFile := ← optional es "networks_file" Toml.text
      networks := ← withDefault es "networks" defaults.networks (listOf Toml.byte) }

/-- The users and sessions of a section. -/
def Security.ofValue (v : Value) : Option Security := do
  let defaults : Security := {}
  let es ← Toml.recordOf schema v
  some
    { maxIdleSecs := ← withDefault es "max_idle_secs" defaults.maxIdleSecs Toml.uint64
      housekeepingIntervalSecs :=
        ← withDefault es "housekeeping_interval_secs" defaults.housekeepingIntervalSecs
            Toml.uint64
      usersFile := ← optional es "users_file" Toml.text
      homeRoot := ← withDefault es "home_root" defaults.homeRoot Toml.text
      libraryPath := ← withDefault es "library_path" defaults.libraryPath Toml.text }

/-- The settings of the entries of a document. -/
def ofEntries (es : List (String × Value)) : Option Settings := do
  some
    { general := ← withDefault es "general" {} General.ofValue
      bridge := ← withDefault es "bridge" {} Station.ofValue
      aun := ← withDefault es "aun" {} Aun.ofValue
      websocket := ← withDefault es "websocket" {} WebSocket.ofValue
      piconet := ← withDefault es "piconet" {} Piconet.ofValue
      security := ← withDefault es "security" {} Security.ofValue }

/-- The settings that a text denotes. -/
def parse (cs : List Char) : Option Settings := (Toml.parse cs).bind ofEntries

end Econet.Settings
