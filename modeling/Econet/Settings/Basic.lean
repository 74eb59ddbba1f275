import Econet.Header

/-!
# Settings of the bridge

## Main definitions

* `Settings`: all settings, in sections
* `Settings.sample`: an example for users
* `Settings.isValid`: the bridge has a station number of its own
* `Settings.context`: what the bridge knows when it reads a frame
-/

namespace Econet

namespace Settings

/-- General settings. -/
structure General where
  /-- Identity of this instance, made up at each start if absent. -/
  instanceId : Option String := none
  name : String := "econet-bridge"
  verbose : Bool := false
  deriving DecidableEq, Repr

/-- The station of the bridge, with the version of its firmware. -/
structure Station where
  network : UInt8 := 1
  station : UInt8 := 254
  versionMajor : UInt8 := 2
  versionMinor : UInt8 := 0
  deriving DecidableEq, Repr

/-- The transport by datagrams. -/
structure Aun where
  enabled : Bool := true
  /-- Port to listen on and to send to. -/
  port : UInt16 := 32768
  bindAddress : String := "0.0.0.0"
  mapFile : Option String := none
  rules : List String := []
  deriving DecidableEq, Repr

/-- The transport to browser clients. -/
structure WebSocket where
  enabled : Bool := true
  port : UInt16 := 8090
  bindAddress : String := "0.0.0.0"
  dynamicNetworksFile : Option String := none
  dynamicNetworks : List UInt8 := []
  deriving DecidableEq, Repr

/-- The transport by the serial adapter. -/
structure Piconet where
  enabled : Bool := false
  device : String := "/dev/ttyACM0"
  baudRate : UInt32 := 115200
  networksFile : Option String := none
  networks : List UInt8 := []
  deriving DecidableEq, Repr

/-- Users and their sessions. -/
structure Security where
  /-- Seconds without activity after which a session may be ended. -/
  maxIdleSecs : UInt64 := 3600
  /-- Seconds between two searches for such sessions. -/
  housekeepingIntervalSecs : UInt64 := 60
  /-- File of users; without one they are kept in memory. -/
  usersFile : Option String := none
  homeRoot : String := "/home"
  /-- Library directory of new sessions. -/
  libraryPath : String := "/Library"
  deriving DecidableEq, Repr

end Settings

/-- All settings. -/
structure Settings where
  general : Settings.General := {}
  bridge : Settings.Station := {}
  aun : Settings.Aun := {}
  websocket : Settings.WebSocket := {}
  piconet : Settings.Piconet := {}
  security : Settings.Security := {}
  deriving DecidableEq, Repr

namespace Settings

/-- The settings when nothing is set. -/
def default : Settings := {}

/-- An example for users. -/
def sample : Settings where
  general := { instanceId := some "beeb-bridge", name := "Econet Bridge" }
  bridge := { network := 127 }
  aun := { rules := ["192.168.0.0/24 127", "192.168.0.40 127.254"] }
  websocket := { dynamicNetworks := [200] }
  piconet := { networks := [1] }
  security := { usersFile := some "users.toml" }

/-- The bridge has a station number of its own: neither 0 nor the one for broadcasts. -/
def isValid (s : Settings) : Bool :=
  s.bridge.station ≠ 0 && s.bridge.station ≠ Address.broadcastStation

def address (s : Settings) : Address := ⟨s.bridge.network, s.bridge.station⟩

/-- What the bridge knows when it reads a frame. -/
def context (s : Settings) : Context :=
  { bridge := s.address
    versionMajor := s.bridge.versionMajor
    versionMinor := s.bridge.versionMinor }

/-- Identity of the instance, given one that was made up for the case that none is set. -/
def instanceId (s : Settings) (madeUp : String) : String := s.general.instanceId.getD madeUp

/-- Seconds between two searches for idle sessions, at least one. -/
def housekeepingInterval (s : Settings) : Nat := max s.security.housekeepingIntervalSecs.toNat 1

end Settings

end Econet
