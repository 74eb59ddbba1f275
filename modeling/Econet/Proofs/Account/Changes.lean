import Econet.Account.UserFile
import Econet.Proofs.Text.Capitals

/-!
# Changes of accounts

A change of the accounts of a file is refused, or it is made in memory and then saved. A change that
cannot be saved fails as well, but it stays: only what is refused leaves the accounts as they were.

## Main definitions

* `UserFile.Operation`, `UserFile.apply`: changes as data
* `UserFile.refusal?`: why an operation is refused
* `UserFile.outcome`: the accounts that an operation is to bring about
* `UserFile.IsKeyed`: every account stands under its name in upper case

## Main results

* `UserFile.isSome_refusal?`: what is refused, by the account of the name
* `UserFile.apply_eq`: an operation is refused, or its outcome is saved
* `UserFile.get?_outcome`: every account after an operation
* `UserFile.IsKeyed.apply`: operations keep accounts under their names
* `UserFile.state_of_failed`: what an operation that fails leaves behind
-/

namespace Econet.Account

open Text (upper upper_upper)

namespace UserFile

variable {f : UserFile} {fs : Files} {e : BackendError}

/-! ### Operations -/

/-- A change of accounts. -/
inductive Operation where
  /-- An account for a new user. -/
  | create (name password : String) (privileged : Bool)
  /-- An account less. -/
  | remove (name : String)
  /-- The right to change accounts is given or taken. -/
  | setPrivileged (name : String) (privileged : Bool)
  /-- Another password. -/
  | setPassword (name password : String)
  deriving DecidableEq, Repr

/-- The name of the account that is changed. -/
def Operation.name : Operation → String
  | .create name _ _ => name
  | .remove name => name
  | .setPrivileged name _ => name
  | .setPassword name _ => name

/-- The change needs that there is no account of the name yet. -/
def Operation.creates : Operation → Bool
  | .create _ _ _ => true
  | .remove _ | .setPrivileged _ _ | .setPassword _ _ => false

/-- Makes a change. -/
def apply (f : UserFile) (fs : Files) : Operation → Change BackendError UserFile
  | .create name password privileged => f.create fs name password privileged
  | .remove name => f.remove fs name
  | .setPrivileged name privileged => f.setPrivileged fs name privileged
  | .setPassword name password => f.setPassword fs name password

theorem contains_upper (f : UserFile) (name : String) :
    f.users.contains (upper name) = (f.get? name).isSome := rfl

/-- Why an operation is refused: a new user must not have an account yet, another one must. -/
def refusal? (f : UserFile) : Operation → Option BackendError
  | .create name _ _ =>
    if f.users.contains (upper name) then some (.userExists (upper name)) else none
  | .remove name | .setPrivileged name _ | .setPassword name _ =>
    if f.users.contains (upper name) then none else some (.unknownUser (upper name))

/-- What is refused depends on the account of the name alone. -/
theorem isSome_refusal? (f : UserFile) (op : Operation) :
    (f.refusal? op).isSome = ((f.get? op.name).isSome == op.creates) := by
  cases op <;>
    simp only [refusal?, Operation.name, Operation.creates, ← contains_upper] <;>
    split <;> simp_all

theorem refusal?_eq_none_iff {op : Operation} :
    f.refusal? op = none ↔ (f.get? op.name).isSome = !op.creates := by
  rw [← Option.not_isSome_iff_eq_none, isSome_refusal?]
  cases (f.get? op.name).isSome <;> cases op.creates <;> decide

/-- The accounts that an operation is to bring about. -/
def outcome (f : UserFile) : Operation → UserFile
  | .create name password privileged =>
    { f with users := f.users.insert (upper name) (f.newRecord (upper name) password privileged) }
  | .remove name => { f with users := f.users.erase (upper name) }
  | .setPrivileged name privileged =>
    { f with users := f.users.modify (upper name) fun r => { r with privileged } }
  | .setPassword name password =>
    { f with users := f.users.modify (upper name) fun r => { r with password } }

/-- **An operation is refused, or its outcome is saved.** -/
theorem apply_eq (f : UserFile) (fs : Files) (op : Operation) :
    f.apply fs op =
      match f.refusal? op with
      | some e => .refused e f fs
      | none => (f.outcome op).save fs := by
  cases op with
  | create name password privileged =>
    simp only [apply, create, refusal?, outcome]
    split <;> rfl
  | remove name =>
    simp only [apply, remove, refusal?, outcome]
    split <;> rfl
  | setPrivileged name privileged =>
    simp only [apply, setPrivileged, edit, refusal?, outcome]
    split <;> rfl
  | setPassword name password =>
    simp only [apply, setPassword, edit, refusal?, outcome]
    split <;> rfl

theorem state_apply (f : UserFile) (fs : Files) (op : Operation) :
    (f.apply fs op).state = if (f.refusal? op).isSome then f else f.outcome op := by
  rw [apply_eq]
  cases f.refusal? op with
  | none => exact state_save _ _
  | some e => rfl

/-- Accounts fail to be saved only where they have a place, and only as files do. -/
theorem result_save_eq_error_iff :
    (f.save fs).result = .error e ↔
      ∃ path cause, f.path = some path ∧ (fs.save path f.text).1 = .error cause ∧
        e = .io cause := by
  unfold save
  cases hpath : f.path with
  | none => simp
  | some path =>
    simp only [Option.some.injEq]
    cases hsave : (fs.save path f.text).1 with
    | ok u => simp [Except.mapError, hsave]
    | error cause => simp [Except.mapError, hsave, eq_comm]

/-! ### Every account after an operation -/

/-- What becomes of the account that an operation changes. -/
def Operation.effect (f : UserFile) : Operation → Option Record → Option Record
  | .create name password privileged => fun _ =>
    some (f.newRecord (upper name) password privileged)
  | .remove _ => fun _ => none
  | .setPrivileged _ privileged => Option.map fun r => { r with privileged }
  | .setPassword _ password => Option.map fun r => { r with password }

theorem users_outcome (f : UserFile) (op : Operation) (key : String) :
    (f.outcome op).users.get? key =
      if upper op.name = key then op.effect f (f.users.get? key) else f.users.get? key := by
  cases op with
  | create name password privileged => exact Table.get?_insert _ _ _ _
  | remove name => exact Table.get?_erase _ _ _
  | setPrivileged name privileged => exact Table.get?_modify _ _ _ _
  | setPassword name password => exact Table.get?_modify _ _ _ _

/-- **Every account after an operation.** -/
theorem get?_outcome (f : UserFile) (op : Operation) (name : String) :
    (f.outcome op).get? name =
      if upper op.name = upper name then op.effect f (f.get? name) else f.get? name :=
  users_outcome f op (upper name)

theorem get?_outcome_name (f : UserFile) (op : Operation) :
    (f.outcome op).get? op.name = op.effect f (f.get? op.name) := by
  rw [get?_outcome, if_pos rfl]

/-- An operation leaves the other accounts as they are, whether it succeeds or not. -/
theorem get?_apply_of_ne {op : Operation} {name : String} (h : upper op.name ≠ upper name) :
    (f.apply fs op).state.get? name = f.get? name := by
  rw [state_apply]
  split
  · rfl
  · rw [get?_outcome, if_neg h]

/-! ### Accounts under their names -/

/-- Every account stands under its name, which is in upper case. -/
def IsKeyed (f : UserFile) : Prop :=
  ∀ key r, f.users.get? key = some r → r.username = key ∧ upper key = key

theorem isKeyed_inMemory (homeRoot : String) : (inMemory homeRoot).IsKeyed := by
  intro key r h
  simp [inMemory] at h

theorem IsKeyed.insert (h : f.IsKeyed) (r : Record) : (f.insert r).IsKeyed := by
  intro key s hs
  simp only [UserFile.insert, Table.get?_insert] at hs
  split at hs
  · next hkey =>
    rw [← hkey, ← Option.some.inj hs]
    exact ⟨rfl, upper_upper _⟩
  · exact h key s hs

theorem IsKeyed.insertAll (h : f.IsKeyed) (rs : List Record) : (f.insertAll rs).IsKeyed := by
  induction rs generalizing f with
  | nil => exact h
  | cons r rs ih => exact ih (h.insert r)

/-- Accounts that are read from a file stand under their names. -/
theorem isKeyed_load {path homeRoot : String} (h : load fs path homeRoot = .ok f) :
    f.IsKeyed := by
  have hempty : IsKeyed { inMemory homeRoot with path := some path } := isKeyed_inMemory homeRoot
  unfold load at h
  split at h
  · split at h
    · cases h
    · split at h
      · rw [← Except.ok.inj h]
        exact hempty.insertAll _
      · cases h
  · rw [← Except.ok.inj h]
    exact hempty

theorem IsKeyed.username_eq (h : f.IsKeyed) {name : String} {r : Record}
    (hr : f.get? name = some r) : r.username = upper name :=
  (h _ _ hr).1

theorem IsKeyed.outcome (h : f.IsKeyed) (op : Operation) : (f.outcome op).IsKeyed := by
  intro key r hr
  rw [users_outcome] at hr
  split at hr
  · next hkey =>
    subst hkey
    refine ⟨?_, upper_upper _⟩
    cases op with
    | create name password privileged =>
      rw [← Option.some.inj hr]
      rfl
    | remove name => cases hr
    | setPrivileged name privileged =>
      obtain ⟨s, hs, rfl⟩ := Option.map_eq_some_iff.mp hr
      exact (h _ s hs).1
    | setPassword name password =>
      obtain ⟨s, hs, rfl⟩ := Option.map_eq_some_iff.mp hr
      exact (h _ s hs).1
  · exact h key r hr

/-- **Operations keep accounts under their names**, whether they succeed or not. -/
theorem IsKeyed.apply (h : f.IsKeyed) (fs : Files) (op : Operation) :
    (f.apply fs op).state.IsKeyed := by
  rw [state_apply]
  split
  · exact h
  · exact h.outcome op

/-! ### Operations that fail -/

/-- The account is as the operation wants it. -/
def Operation.IsIdle (f : UserFile) : Operation → Prop
  | .create _ _ _ => False
  | .remove _ => False
  | .setPrivileged name privileged => ∃ r, f.get? name = some r ∧ r.privileged = privileged
  | .setPassword name password => ∃ r, f.get? name = some r ∧ r.password = password

theorem modify_users_eq_self_iff {name : String} {r : Record} (hr : f.get? name = some r)
    (change : Record → Record) :
    { f with users := f.users.modify (upper name) change } = f ↔ change r = r := by
  rw [← Table.modify_eq_self_iff hr]
  constructor
  · exact congrArg UserFile.users
  · intro h
    rw [h]

/-- An operation that is not refused changes something, unless all is as it wants it. -/
theorem outcome_eq_self_iff {op : Operation} (h : f.refusal? op = none) :
    f.outcome op = f ↔ op.IsIdle f := by
  -- To make or to remove an account changes whether it is there.
  have haccount := refusal?_eq_none_iff.mp h
  cases op with
  | create name password privileged =>
    have hnew := get?_outcome_name f (.create name password privileged)
    refine ⟨fun hf => ?_, False.elim⟩
    rw [hf] at hnew
    rw [hnew] at haccount
    cases haccount
  | remove name =>
    have hgone := get?_outcome_name f (.remove name)
    refine ⟨fun hf => ?_, False.elim⟩
    rw [hf] at hgone
    rw [hgone] at haccount
    cases haccount
  | setPrivileged name privileged =>
    obtain ⟨r, hr : f.get? name = some r⟩ := Option.isSome_iff_exists.mp haccount
    rw [outcome, modify_users_eq_self_iff hr]
    cases r
    simp [Operation.IsIdle, hr, eq_comm]
  | setPassword name password =>
    obtain ⟨r, hr : f.get? name = some r⟩ := Option.isSome_iff_exists.mp haccount
    rw [outcome, modify_users_eq_self_iff hr]
    cases r
    simp [Operation.IsIdle, hr, eq_comm]

/-- **What an operation that fails leaves behind.** The accounts are as before if it was refused, or
if there was nothing to change. In every other case its file could not be written, and the accounts
have changed all the same. -/
theorem state_of_failed {op : Operation} (h : (f.apply fs op).result = .error e) :
    ((f.apply fs op).state = f ↔ f.refusal? op = some e ∨ op.IsIdle f) ∧
    (f.refusal? op = some e ∨ (f.apply fs op).state = f.outcome op ∧
      ∃ path cause, f.path = some path ∧
        (fs.save path (f.outcome op).text).1 = .error cause ∧ e = .io cause) := by
  rw [state_apply]
  rw [apply_eq] at h
  cases hop : f.refusal? op with
  | some cause =>
    rw [hop] at h
    cases h
    simp
  | none =>
    -- What is not refused is made, so only the save can have failed.
    rw [hop] at h
    obtain ⟨path, cause, hpath, hsave, rfl⟩ := result_save_eq_error_iff.mp h
    have hf : (f.outcome op).path = f.path := by cases op <;> rfl
    simpa [hf ▸ hpath, hsave] using outcome_eq_self_iff hop

/-- A file stands where the directory of the accounts should be. The new user is there, and the
answer is that there is none. -/
theorem state_of_failed_blocked :
    let f : UserFile := { inMemory "/home" with path := some "a/users.toml" }
    let fs := (Files.empty ["srv"]).add "a" .empty
    let op := Operation.create "bob" "" true
    (f.apply fs op).result = .error (.io .alreadyExists) ∧
      (f.apply fs op).state ≠ f ∧ (f.apply fs op).state = f.outcome op := by
  intro f fs op
  have h : (f.apply fs op).result = .error (.io .alreadyExists) := by decide
  have hnew : f.refusal? op ≠ some (.io .alreadyExists) := by decide
  obtain ⟨hiff, hstate⟩ := state_of_failed h
  refine ⟨h, ?_, (hstate.resolve_left hnew).1⟩
  rw [ne_eq, hiff]
  rintro (hrefused | hidle)
  · exact hnew hrefused
  · exact hidle

/-- A failure does not mean that the accounts are as before. -/
theorem not_users_eq_of_failed :
    ¬ ∀ (f : UserFile) (fs : Files) (op : Operation) (e : BackendError),
      (f.apply fs op).result = .error e → (f.apply fs op).state.users = f.users := by
  intro h
  have husers := h { inMemory "/home" with path := some "a/users.toml" }
    ((Files.empty ["srv"]).add "a" .empty) (.create "bob" "" true) (.io .alreadyExists)
    (by decide)
  exact absurd (congrArg Table.size husers) (by decide)

end UserFile

end Econet.Account
