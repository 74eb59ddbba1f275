import Econet.Account.UserFile

/-!
# Backends

Where users come from. A backend says who somebody is, and some can also change accounts.

## Main definitions

* `Backend`: a source of users
* `Backend.login`: the user that a name and a password denote
* `Backend.create`, `remove`, `setPrivileged`, `setPassword`: changes of accounts
-/

namespace Econet.Account

/-- A source of users. -/
inductive Backend where
  /-- Accounts of the bridge's own. -/
  | userFile (file : UserFile)
  /-- Accounts kept elsewhere, which the bridge can only ask about. -/
  | readOnly (name : String) (login : String → String → Except BackendError (Option User))

namespace Backend

/-- The name by which a session remembers its backend. -/
def name : Backend → String
  | userFile _ => "userfile"
  | readOnly name _ => name

/-- The user that a name and a password denote. -/
def login : Backend → String → String → Except BackendError (Option User)
  | userFile file, name, password => .ok (file.login name password)
  | readOnly _ login, name, password => login name password

/-- A change of the accounts of the bridge's own; other accounts cannot be changed. -/
def change (b : Backend) (fs : Files) (op : UserFile → Files → Change BackendError UserFile) :
    Change BackendError Backend :=
  match b with
  | userFile file => (op file fs).map userFile
  | readOnly name _ => .refused (.readOnly name) b fs

/-- Makes an account for a new user. -/
def create (b : Backend) (fs : Files) (name password : String) (privileged : Bool) :
    Change BackendError Backend :=
  b.change fs fun f fs => f.create fs name password privileged

/-- Removes an account. -/
def remove (b : Backend) (fs : Files) (name : String) : Change BackendError Backend :=
  b.change fs fun f fs => f.remove fs name

/-- Gives or takes the right to change accounts. -/
def setPrivileged (b : Backend) (fs : Files) (name : String) (privileged : Bool) :
    Change BackendError Backend :=
  b.change fs fun f fs => f.setPrivileged fs name privileged

/-- Changes a password. -/
def setPassword (b : Backend) (fs : Files) (name password : String) :
    Change BackendError Backend :=
  b.change fs fun f fs => f.setPassword fs name password

end Backend

end Econet.Account
