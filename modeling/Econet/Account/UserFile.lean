import Econet.Account.User
import Econet.Files
import Econet.Toml.Fields
import Econet.Toml.Parser
import Econet.Toml.Printer

/-!
# Files of users

The accounts of the bridge stand in a file, a table of TOML for each. Names differ by more
than case. An account is kept under its name in upper case, and accounts are written in the
order of their names.

## Main definitions

* `Record`: an account
* `UserFile`: the accounts, and the file that they stand in
* `UserFile.login`: the user that a name and a password denote
* `UserFile.create`, `remove`, `setPrivileged`, `setPassword`: changes, which are saved
* `Change`: what a change leaves behind

## Main results

* `UserFile.state_save`: saving leaves the accounts as they are
-/

namespace Econet.Account

open Text (upper digits)
open Toml (Value Schema stringText booleanText required withDefault listOf)

/-! ### Accounts -/

/-- An account. -/
structure Record where
  username : String
  /-- Password, as it is typed. -/
  password : String
  uid : UInt32
  home : String
  bootOption : UInt8
  privileged : Bool
  deriving DecidableEq, Repr

namespace Record

/-- The user who has the account. -/
def user (r : Record) : User :=
  { User.named r.username r.uid r.home with
    bootOption := r.bootOption, privileged := r.privileged }

/-- The account with its name in upper case. -/
def normal (r : Record) : Record := { r with username := upper r.username }

/-- The fields as written. -/
def fields (r : Record) : List (String × List Char) :=
  [("username", stringText r.username), ("password", stringText r.password),
    ("uid", digits r.uid.toNat), ("home", stringText r.home),
    ("boot_option", digits r.bootOption.toNat), ("privileged", booleanText r.privileged)]

/-- The fields of an account. -/
def schema : Schema :=
  ⟨["username", "password", "uid", "home", "boot_option", "privileged"], 4⟩

/-- The account that a value denotes. -/
def ofValue (v : Value) : Option Record := do
  let es ← Toml.recordOf schema v
  some
    { username := ← required es "username" Toml.text
      password := ← withDefault es "password" "" Toml.text
      uid := ← required es "uid" Toml.uint32
      home := ← required es "home" Toml.text
      bootOption := ← withDefault es "boot_option" 0 Toml.byte
      privileged := ← withDefault es "privileged" false Toml.boolean }

end Record

/-- The written form of accounts. -/
def recordsText (rs : List Record) : String :=
  String.ofList <|
    if rs = [] then Toml.assignmentText "users" (Toml.arrayText [])
    else Toml.joined (rs.map fun r => Toml.seriesText "users" r.fields)

/-- The accounts that a text denotes. -/
def parseRecords (text : String) : Option (List Record) := do
  withDefault (← Toml.parse text.toList) "users" [] (listOf Record.ofValue)

/-! ### Errors and changes -/

/-- Why a backend does not answer. -/
inductive BackendError where
  | readOnly (backend : String)
  | unknownUser (name : String)
  | userExists (name : String)
  | io (cause : FileError)
  /-- Its file is not TOML, or something in it is of a wrong type. -/
  | notUsers {text : String}
  | other (text : String)
  deriving DecidableEq, Repr

/-- The wording of an error. What is wrong with a text that holds no accounts is said by the reader
of TOML. -/
def BackendError.message (e : BackendError) (toml : String → String := fun _ => "") : String :=
  match e with
  | readOnly backend => s!"Backend {backend} is read-only"
  | unknownUser name => s!"Unknown user: {name}"
  | userExists name => s!"User already exists: {name}"
  | io cause => s!"IO error: {cause.message}"
  | @notUsers text => s!"Parse error: {toml text}"
  | other text => text

/-- What a change leaves behind, whether it succeeds or not. -/
structure Change (ε σ : Type) where
  /-- Why it failed, if it did. -/
  result : Except ε Unit
  state : σ
  /-- The files afterwards. -/
  files : Files

namespace Change

/-- A change that is refused and leaves all as it is. -/
def refused {ε σ : Type} (e : ε) (s : σ) (fs : Files) : Change ε σ := ⟨.error e, s, fs⟩

/-- The change of a part as a change of the whole. -/
def map {ε σ τ : Type} (f : σ → τ) (c : Change ε σ) : Change ε τ := ⟨c.result, f c.state, c.files⟩

end Change

/-! ### Files of accounts -/

/-- The accounts of a file. -/
structure UserFile where
  /-- Where they are saved, if anywhere. -/
  path : Option String
  /-- Directory above the homes of new users. -/
  homeRoot : String
  users : Table String Record

namespace UserFile

/-- The number of the first user. -/
def firstUid : UInt32 := 1000

/-- Accounts that are not saved. -/
def inMemory (homeRoot : String) : UserFile := ⟨none, homeRoot, .empty⟩

/-- The accounts with one more, or one replaced. -/
def insert (f : UserFile) (r : Record) : UserFile :=
  { f with users := f.users.insert (upper r.username) r.normal }

/-- The accounts with several more. -/
def insertAll (f : UserFile) (rs : List Record) : UserFile := rs.foldl insert f

/-- The account of a name. -/
def get? (f : UserFile) (name : String) : Option Record := f.users.get? (upper name)

/-- Number of accounts. -/
def size (f : UserFile) : Nat := f.users.size

/-- The accounts of a file. A file that is missing has none. -/
def load (fs : Files) (path homeRoot : String) : Except BackendError UserFile :=
  let empty : UserFile := { inMemory homeRoot with path := some path }
  if fs.isPresent path then
    match fs.readText path with
    | .error cause => .error (.io cause)
    | .ok text =>
      match parseRecords text with
      | some rs => .ok (empty.insertAll rs)
      | none => .error (@BackendError.notUsers text)
  else .ok empty

/-- The accounts in the order of their names. -/
def records (f : UserFile) : List Record :=
  f.users.values.mergeSort fun a b => a.username ≤ b.username

/-- The accounts as written. -/
def text (f : UserFile) : String := recordsText f.records

/-- Saves the accounts, if they have a place. -/
def save (f : UserFile) (fs : Files) : Change BackendError UserFile :=
  match f.path with
  | none => ⟨.ok (), f, fs⟩
  | some path =>
    let (result, fs) := fs.save path f.text
    ⟨result.mapError .io, f, fs⟩

/-! ### Logins and changes -/

/-- The user that a name and a password denote. -/
def login (f : UserFile) (name password : String) : Option User :=
  ((f.get? name).filter (·.password = password)).map Record.user

/-- The number of the next user: above all others. -/
def nextUid (f : UserFile) : UInt32 := f.users.values.foldl (fun n r => max n (r.uid + 1)) firstUid

/-- The home directory of a new user. -/
def homeOf (f : UserFile) (name : String) : String :=
  String.ofList ((f.homeRoot.toList.reverse.dropWhile (· = '/')).reverse ++ '/' :: name.toList)

/-- The account of a new user. -/
def newRecord (f : UserFile) (name password : String) (privileged : Bool) : Record :=
  { username := name, password, uid := f.nextUid, home := f.homeOf name, bootOption := 0,
    privileged }

/-- Makes an account for a new user. -/
def create (f : UserFile) (fs : Files) (name password : String) (privileged : Bool) :
    Change BackendError UserFile :=
  let key := upper name
  if f.users.contains key then .refused (.userExists key) f fs
  -- The account exists from now on, also if it cannot be saved.
  else save { f with users := f.users.insert key (f.newRecord key password privileged) } fs

/-- Removes an account. -/
def remove (f : UserFile) (fs : Files) (name : String) : Change BackendError UserFile :=
  let key := upper name
  -- The account is gone from now on, also if that cannot be saved.
  if f.users.contains key then save { f with users := f.users.erase key } fs
  else .refused (.unknownUser key) f fs

/-- Changes an account. -/
def edit (f : UserFile) (fs : Files) (name : String) (change : Record → Record) :
    Change BackendError UserFile :=
  let key := upper name
  if f.users.contains key then save { f with users := f.users.modify key change } fs
  else .refused (.unknownUser key) f fs

/-- Gives or takes the right to change accounts. -/
def setPrivileged (f : UserFile) (fs : Files) (name : String) (privileged : Bool) :
    Change BackendError UserFile :=
  f.edit fs name fun r => { r with privileged }

/-- Changes a password. -/
def setPassword (f : UserFile) (fs : Files) (name password : String) :
    Change BackendError UserFile :=
  f.edit fs name fun r => { r with password }

/-! ### Lookup after each operation -/

@[simp] theorem state_save (f : UserFile) (fs : Files) : (f.save fs).state = f := by
  unfold save
  split <;> rfl

theorem path_insertAll (f : UserFile) (rs : List Record) : (f.insertAll rs).path = f.path := by
  induction rs generalizing f with
  | nil => rfl
  | cons r rs ih => exact ih (f.insert r)

end UserFile

end Econet.Account
