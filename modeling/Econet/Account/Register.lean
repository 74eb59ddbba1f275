import Econet.Account.Backend

/-!
# The register of sessions

Who is logged in at which station. Somebody who logs in is looked up in a chain of backends,
and the first one that knows them decides. Accounts can be changed by privileged users, in the
first backend that carries the change out.

## Main definitions

* `Register`: the chain of backends and the sessions by station
* `Register.login`, `logout`, `touch`, `evict`: the life of a session
* `Register.create`, `remove`, `setPrivileged`, `changePassword`: changes of accounts

## Main results

* `firstAccepted_append`: a chain asks its first part before the rest
* `Register.session_touch`, `Register.session_evict`: the sessions after each operation
-/

namespace Econet.Account

open Text (upper)

/-- Why an operation on sessions or accounts is refused. -/
inductive AccessError where
  | notLoggedIn (station : Address)
  | permissionDenied (station : Address)
  | authenticationFailed (username : String)
  /-- No backend can carry it out. -/
  | noBackend
  | backend (cause : BackendError)
  deriving DecidableEq, Repr

/-- The wording of an error. -/
def AccessError.message (e : AccessError) (toml : String → String := fun _ => "") : String :=
  match e with
  | notLoggedIn station => s!"{station.text} is not logged in"
  | permissionDenied station => s!"Permission denied for {station.text}"
  | authenticationFailed username => s!"Authentication failed for {username}"
  | noBackend => "No authentication backend accepted the operation"
  | backend cause => s!"Backend error: {cause.message toml}"

/-! ### Chains of backends -/

/-- The user whom the first accepting backend of a chain lets in, and that backend's name.
Backends that fail are passed over. -/
def firstAccepted (name password : String) : List Backend → Option (User × String)
  | [] => none
  | b :: bs =>
    match b.login name password with
    | .ok (some user) => some (user, b.name)
    | .ok none => firstAccepted name password bs
    -- A backend that cannot answer does not keep others from answering.
    | .error _ => firstAccepted name password bs

theorem firstAccepted_append (name password : String) (bs cs : List Backend) :
    firstAccepted name password (bs ++ cs) =
      (firstAccepted name password bs).or (firstAccepted name password cs) := by
  induction bs with
  | nil => rfl
  | cons b bs ih =>
    simp only [List.cons_append, firstAccepted]
    split
    · rfl
    · exact ih
    · exact ih

/-- The change of the first backend that carries it out. If none does, the last failure counts,
or `last` where there is no backend. -/
def changeFirst (op : Backend → Files → Change BackendError Backend) (last : AccessError) :
    List Backend → Files → Change AccessError (List Backend)
  | [], fs => .refused last [] fs
  | b :: bs, fs =>
    match (op b fs).result with
    | .ok () => ⟨.ok (), (op b fs).state :: bs, (op b fs).files⟩
    | .error e =>
      -- What a backend did before it failed stays done.
      (changeFirst op (.backend e) bs (op b fs).files).map ((op b fs).state :: ·)

/-- The change of the first backend with a given name. -/
def changeNamed (op : Backend → Files → Change AccessError Backend) (name : String) :
    List Backend → Files → Change AccessError (List Backend)
  | [], fs => .refused .noBackend [] fs
  | b :: bs, fs =>
    if b.name = name then (op b fs).map (· :: bs)
    else (changeNamed op name bs fs).map (b :: ·)

/-! ### The register -/

/-- Who is logged in where, and where users come from. -/
structure Register where
  /-- The chain of backends, the first to be asked in front. -/
  backends : List Backend
  sessions : Table Address Session
  /-- The time in nanoseconds after which an idle session ends. -/
  maxIdle : Nat
  /-- The library of users who have chosen none. -/
  libraryPath : String

namespace Register

/-- The register without sessions. -/
def ofBackends (backends : List Backend) (maxIdle : Nat) (libraryPath : String) : Register :=
  ⟨backends, .empty, maxIdle, libraryPath⟩

/-- The session at a station. -/
def session (m : Register) (a : Address) : Option Session := m.sessions.get? a

/-- The user at a station. -/
def user (m : Register) (a : Address) : Option User := (m.session a).map (·.user)

/-- Somebody is logged in at a station. -/
def isLoggedIn (m : Register) (a : Address) : Bool := (m.session a).isSome

/-- The library of the user at a station. -/
def libraryDir (m : Register) (a : Address) : Option String :=
  (m.user a).map (·.libraryDir m.libraryPath)

/-- A privileged user is logged in at a station. -/
def isAdmin (m : Register) (a : Address) : Bool :=
  match m.user a with
  | some u => u.privileged
  | none => false

/-! ### The life of a session -/

/-- The register after a login. A session that the station has already is replaced. -/
def login (m : Register) (a : Address) (name password : String) (now : Time) :
    Except AccessError Register :=
  match firstAccepted (upper name) password m.backends with
  | some (user, provider) =>
    .ok { m with sessions := m.sessions.insert a (.start user provider now) }
  | none => .error (.authenticationFailed (upper name))

/-- The session that ends, and the register after it. -/
def logout (m : Register) (a : Address) : Except AccessError (Session × Register) :=
  match m.session a with
  | some s => .ok (s, { m with sessions := m.sessions.erase a })
  | none => .error (.notLoggedIn a)

/-- The register after activity of a station. -/
def touch (m : Register) (a : Address) (now : Time) : Register :=
  { m with sessions := m.sessions.modify a (·.touch now) }

/-- The stations that have been idle for too long. -/
def expired (m : Register) (now : Time) : List Address :=
  (m.sessions.entries.filter fun e => e.2.isExpired m.maxIdle now).map (·.1)

/-- The register without the sessions of some stations. -/
def endAll (m : Register) (as : List Address) : Register :=
  { m with sessions := as.foldl Table.erase m.sessions }

/-- The register without the sessions that have been idle for too long. -/
def evict (m : Register) (now : Time) : Register := m.endAll (m.expired now)

/-- The register with the user at a station changed. -/
def editUser (m : Register) (a : Address) (f : User → User) : Register :=
  { m with sessions := m.sessions.modify a fun s => { s with user := f s.user } }

/-! ### Changes of accounts -/

/-- A change that only privileged users may ask for. -/
def changeAs (m : Register) (fs : Files) (actor : Address)
    (op : Backend → Files → Change BackendError Backend) : Change AccessError Register :=
  if m.isAdmin actor then
    (changeFirst op .noBackend m.backends fs).map fun bs => { m with backends := bs }
  else .refused (.permissionDenied actor) m fs

/-- Makes an account for a new user. -/
def create (m : Register) (fs : Files) (actor : Address) (name password : String)
    (privileged : Bool) : Change AccessError Register :=
  m.changeAs fs actor fun b fs => b.create fs (upper name) password privileged

/-- Removes an account. Sessions of the user go on. -/
def remove (m : Register) (fs : Files) (actor : Address) (name : String) :
    Change AccessError Register :=
  m.changeAs fs actor fun b fs => b.remove fs (upper name)

/-- The session after its user was given or lost the right to change accounts. -/
def withPrivilege (name : String) (privileged : Bool) (s : Session) : Session :=
  if s.user.username = name then { s with user := { s.user with privileged } } else s

/-- Gives or takes the right to change accounts, also in sessions that the user has. -/
def setPrivileged (m : Register) (fs : Files) (actor : Address) (name : String)
    (privileged : Bool) : Change AccessError Register :=
  let c := m.changeAs fs actor fun b fs => b.setPrivileged fs (upper name) privileged
  match c.result with
  | .ok () => c.map fun m =>
    { m with sessions := m.sessions.mapValues (withPrivilege (upper name) privileged) }
  | .error _ => c

/-- A change of password in a backend that has accepted the old one. -/
def replacePassword (username old new : String) (b : Backend) (fs : Files) :
    Change AccessError Backend :=
  match b.login username old with
  | .error e => .refused (.backend e) b fs
  -- The old password is wrong.
  | .ok none => .refused (.authenticationFailed username) b fs
  | .ok (some _) =>
    let c := b.setPassword fs username new
    ⟨c.result.mapError .backend, c.state, c.files⟩

/-- Changes the password of the user at a station, in the backend that the session names. -/
def changePassword (m : Register) (fs : Files) (a : Address) (old new : String) :
    Change AccessError Register :=
  match m.session a with
  | none => .refused (.notLoggedIn a) m fs
  | some s =>
    (changeNamed (replacePassword s.user.username old new) s.provider m.backends fs).map
      fun bs => { m with backends := bs }

/-! ### Sessions after each operation -/

theorem session_login {m n : Register} {a : Address} {name password : String} {now : Time}
    (h : m.login a name password now = .ok n) (b : Address) (hb : a ≠ b) :
    n.session b = m.session b := by
  unfold login at h
  split at h
  · simp only [Except.ok.injEq] at h
    subst h
    exact Table.get?_insert_of_ne _ _ hb
  · simp at h

theorem session_touch (m : Register) (a b : Address) (now : Time) :
    (m.touch a now).session b =
      if a = b then (m.session b).map (·.touch now) else m.session b :=
  Table.get?_modify _ _ _ _

theorem get?_foldl_erase {κ ν : Type} [DecidableEq κ] (ks : List κ) (t : Table κ ν) (k : κ) :
    (ks.foldl Table.erase t).get? k = if k ∈ ks then none else t.get? k := by
  induction ks generalizing t with
  | nil => simp
  | cons j ks ih =>
    simp only [List.foldl_cons, ih, Table.get?_erase, List.mem_cons]
    grind

theorem mem_expired_iff (m : Register) (now : Time) (a : Address) :
    a ∈ m.expired now ↔ ∃ s, m.session a = some s ∧ s.isExpired m.maxIdle now := by
  simp only [expired, List.mem_map, List.mem_filter, session, ← Table.mem_entries_iff]
  constructor
  · rintro ⟨⟨b, s⟩, ⟨h, hs⟩, rfl⟩
    exact ⟨s, h, hs⟩
  · rintro ⟨s, h, hs⟩
    exact ⟨(a, s), ⟨h, hs⟩, rfl⟩

theorem session_evict (m : Register) (now : Time) (a : Address) :
    (m.evict now).session a =
      (m.session a).filter fun s => !s.isExpired m.maxIdle now := by
  have h := mem_expired_iff m now a
  simp only [evict, endAll, session, get?_foldl_erase] at h ⊢
  cases hs : m.sessions.get? a with
  | none => simp
  | some s =>
    simp only [hs, Option.some.injEq, exists_eq_left'] at h
    by_cases he : s.isExpired m.maxIdle now <;> simp [h, he, Option.filter]

end Register

end Econet.Account
