import Econet.Address
import Econet.Text.UpperCase

/-!
# Users and sessions

## Main definitions

* `User`: somebody who has proved who they are
* `Session`: a user at a station
-/

namespace Econet.Account

/-- A point in time, in nanoseconds from an origin. -/
abbrev Time := Int

/-- Somebody who has proved who they are. -/
structure User where
  /-- In upper case. -/
  username : String
  uid : UInt32
  home : String
  /-- What the station does when the user logs in. -/
  bootOption : UInt8 := 0
  privileged : Bool := false
  chosenDir : Option String := none
  chosenLibrary : Option String := none
  deriving DecidableEq, Repr

namespace User

/-- A user without any rights. -/
def named (name : String) (uid : UInt32) (home : String) : User :=
  { username := Text.upper name, uid, home }

/-- The current directory: home, until another one is chosen. -/
def currentDir (u : User) : String := u.chosenDir.getD u.home

/-- The library: the given one, until another one is chosen. -/
def libraryDir (u : User) (default : String) : String := u.chosenLibrary.getD default

end User

/-- A user at a station. -/
structure Session where
  user : User
  /-- Name of the backend that let the user in. -/
  provider : String
  loginTime : Time
  /-- When the station was last active. -/
  idleTime : Time
  deriving DecidableEq, Repr

namespace Session

def start (user : User) (provider : String) (now : Time) : Session :=
  { user, provider, loginTime := now, idleTime := now }

def touch (s : Session) (now : Time) : Session := { s with idleTime := now }

/-- The session has been idle for more than a number of nanoseconds. Time that runs backwards
counts as none. -/
def isExpired (s : Session) (maxIdle : Nat) (now : Time) : Bool :=
  maxIdle < (now - s.idleTime).toNat

end Session

end Econet.Account
