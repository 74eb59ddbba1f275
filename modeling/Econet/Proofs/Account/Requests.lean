import Econet.Account.Register
import Econet.Proofs.Account.Changes

/-!
# Requests to the register

All that can be asked of the register, as data: stations log in and out, are active or idle, order
changes of accounts and change passwords. What a request does to the files is not kept: every
request that writes may meet any files, so that the results hold whatever else changes them.

## Main definitions

* `Register.Directive`, `Register.carryOut`: changes of accounts that privileged users order
* `Register.Request`, `Register.after`: requests, and the register after one
* `Register.afterAll`: the register after several requests
* `Register.history`: a run, as requests with the registers that they were made to

## Main results

* `Register.carryOut_of_not_isAdmin`: a station without privilege orders nothing
* `Register.user_after`: where the users of sessions come from
* `Register.backends_after`: only directives and changes of passwords reach backends
* `Register.history_invariant`: what every request keeps holds all along a run
-/

namespace Econet.Account

open Text (upper)

/-! ### Chains of backends -/

/-- What the change of one backend keeps, the chain keeps. -/
theorem map_changeNamed {γ : Type} {op : Backend → Files → Change AccessError Backend}
    {view : Backend → γ} (h : ∀ b fs, view (op b fs).state = view b) (name : String)
    (bs : List Backend) (fs : Files) :
    (changeNamed op name bs fs).state.map view = bs.map view := by
  induction bs with
  | nil => rfl
  | cons b bs ih =>
    unfold changeNamed
    split
    · simp [Change.map, h]
    · simpa [Change.map] using ih

/-- What the changes of all backends keep, the chain keeps. -/
theorem map_changeFirst {γ : Type} {op : Backend → Files → Change BackendError Backend}
    {view : Backend → γ} (h : ∀ b fs, view (op b fs).state = view b) (last : AccessError)
    (bs : List Backend) (fs : Files) :
    (changeFirst op last bs fs).state.map view = bs.map view := by
  induction bs generalizing last fs with
  | nil => rfl
  | cons b bs ih =>
    unfold changeFirst
    split
    · simp [h]
    · simp [Change.map, h, ih]

/-- Makes a change of accounts in a backend. -/
def Backend.apply (b : Backend) (fs : Files) (op : UserFile.Operation) :
    Change BackendError Backend :=
  b.change fs fun f fs => f.apply fs op

namespace Register

variable {m n : Register} {fs : Files} {a actor : Address} {u : User} {f : UserFile}

/-! ### Directives -/

/-- A change of accounts that only privileged users may order. -/
inductive Directive where
  /-- An account for a new user. -/
  | create (name password : String) (privileged : Bool)
  /-- An account less. -/
  | remove (name : String)
  /-- The right to change accounts is given or taken. -/
  | setPrivileged (name : String) (privileged : Bool)
  deriving DecidableEq, Repr

namespace Directive

/-- What a directive asks of a backend. -/
def operation : Directive → UserFile.Operation
  | create name password privileged => .create (upper name) password privileged
  | remove name => .remove (upper name)
  | setPrivileged name privileged => .setPrivileged (upper name) privileged

/-- The user of a session after a directive was carried out. -/
def onUser : Directive → User → User
  | create _ _ _ => id
  | remove _ => id
  | setPrivileged name privileged => fun u =>
    if u.username = upper name then { u with privileged } else u

end Directive

/-- Carries out a directive of the user at a station. -/
def carryOut (m : Register) (fs : Files) (actor : Address) : Directive → Change AccessError Register
  | .create name password privileged => m.create fs actor name password privileged
  | .remove name => m.remove fs actor name
  | .setPrivileged name privileged => m.setPrivileged fs actor name privileged

/-- **A station without privilege orders nothing.** -/
theorem carryOut_of_not_isAdmin (h : m.isAdmin actor = false) (fs : Files) (d : Directive) :
    m.carryOut fs actor d = .refused (.permissionDenied actor) m fs := by
  cases d with
  | create name password privileged => simp [carryOut, create, changeAs, h]
  | remove name => simp [carryOut, remove, changeAs, h]
  | setPrivileged name privileged => simp [carryOut, setPrivileged, changeAs, h, Change.refused]

/-- The change of backends that a directive comes down to. -/
def ordered (m : Register) (fs : Files) (actor : Address) (d : Directive) :
    Change AccessError Register :=
  m.changeAs fs actor fun b fs => b.apply fs d.operation

theorem result_carryOut (m : Register) (fs : Files) (actor : Address) (d : Directive) :
    (m.carryOut fs actor d).result = (m.ordered fs actor d).result := by
  cases d with
  | create name password privileged => rfl
  | remove name => rfl
  | setPrivileged name privileged =>
    simp only [carryOut, setPrivileged]
    split <;> rfl

theorem backends_carryOut (m : Register) (fs : Files) (actor : Address) (d : Directive) :
    (m.carryOut fs actor d).state.backends = (m.ordered fs actor d).state.backends := by
  cases d with
  | create name password privileged => rfl
  | remove name => rfl
  | setPrivileged name privileged =>
    simp only [carryOut, setPrivileged]
    split <;> rfl

@[simp] theorem sessions_changeAs (m : Register) (fs : Files) (actor : Address)
    (op : Backend → Files → Change BackendError Backend) :
    (m.changeAs fs actor op).state.sessions = m.sessions := by
  unfold changeAs
  split <;> rfl

/-- A directive that is carried out reaches the users of sessions. -/
theorem user_carryOut_of_ok {d : Directive} (h : (m.carryOut fs actor d).result = .ok ())
    (a : Address) : (m.carryOut fs actor d).state.user a = (m.user a).map d.onUser := by
  rw [result_carryOut] at h
  cases d with
  | create name password privileged =>
    simp [carryOut, create, user, session, Directive.onUser]
  | remove name =>
    simp [carryOut, remove, user, session, Directive.onUser]
  | setPrivileged name privileged =>
    have hresult : (m.changeAs fs actor fun b fs =>
      b.setPrivileged fs (upper name) privileged).result = .ok () := h
    simp only [carryOut, setPrivileged, hresult, Change.map, user, session,
      Table.get?_mapValues, sessions_changeAs, Option.map_map]
    congr 1
    funext s
    simp only [Function.comp_apply, withPrivilege, Directive.onUser]
    split <;> rfl

/-- A directive that fails leaves the users of sessions as they are. -/
theorem user_carryOut_of_error {d : Directive} {e : AccessError}
    (h : (m.carryOut fs actor d).result = .error e) (a : Address) :
    (m.carryOut fs actor d).state.user a = m.user a := by
  rw [result_carryOut] at h
  cases d with
  | create name password privileged => simp [carryOut, create, user, session]
  | remove name => simp [carryOut, remove, user, session]
  | setPrivileged name privileged =>
    have hresult : (m.changeAs fs actor fun b fs =>
      b.setPrivileged fs (upper name) privileged).result = .error e := h
    simp only [carryOut, setPrivileged, hresult, user, session, sessions_changeAs]

/-! ### Requests -/

/-- What can be asked of the register. -/
inductive Request where
  | login (a : Address) (name password : String) (now : Time)
  | logout (a : Address)
  /-- A station is active. -/
  | touch (a : Address) (now : Time)
  /-- Sessions that have been idle for too long are to end. -/
  | evict (now : Time)
  /-- The user at a station orders a change of accounts. -/
  | order (fs : Files) (actor : Address) (d : Directive)
  | changePassword (fs : Files) (a : Address) (old new : String)

/-- The register after a request. -/
def after (m : Register) : Request → Register
  | .login a name password now =>
    match m.login a name password now with
    | .ok n => n
    | .error _ => m
  | .logout a =>
    match m.logout a with
    | .ok (_, n) => n
    | .error _ => m
  | .touch a now => m.touch a now
  | .evict now => m.evict now
  | .order fs actor d => (m.carryOut fs actor d).state
  | .changePassword fs a old new => (m.changePassword fs a old new).state

theorem login_eq_ok_iff {name password : String} {now : Time} :
    m.login a name password now = .ok n ↔
      ∃ u provider, firstAccepted (upper name) password m.backends = some (u, provider) ∧
        n = { m with sessions := m.sessions.insert a (.start u provider now) } := by
  unfold login
  split
  · next v provider h => simp [h, eq_comm]
  · next h => simp [h]

@[simp] theorem sessions_changePassword (m : Register) (fs : Files) (a : Address)
    (old new : String) : (m.changePassword fs a old new).state.sessions = m.sessions := by
  unfold changePassword
  split <;> rfl

/-- **Where the users of sessions come from**: they have logged in, or they were there, and a
directive may have changed them. -/
theorem user_after {r : Request} (h : (m.after r).user a = some u) :
    (∃ name password now provider, r = .login a name password now ∧
      firstAccepted (upper name) password m.backends = some (u, provider)) ∨
    m.user a = some u ∨
    ∃ fs actor d v, r = .order fs actor d ∧ (m.carryOut fs actor d).result = .ok () ∧
      m.user a = some v ∧ u = d.onUser v := by
  cases r with
  | login b name password now =>
    simp only [after] at h
    split at h
    · next n hn =>
      obtain ⟨v, provider, hv, rfl⟩ := login_eq_ok_iff.mp hn
      simp only [user, session, Table.get?_insert] at h ⊢
      -- The user has just logged in, or is at another station.
      split at h
      · next hb =>
        subst hb
        rw [← Option.some.inj h]
        exact .inl ⟨name, password, now, provider, rfl, hv⟩
      · exact .inr (.inl h)
    · exact .inr (.inl h)
  | logout b =>
    simp only [after, logout] at h
    right; left
    split at h
    · next s n hn =>
      split at hn
      · cases hn
        simp only [user, session, Table.get?_erase] at h
        -- Nobody is left at the station itself.
        split at h
        · cases h
        · exact h
      · cases hn
    · exact h
  | touch b now =>
    right; left
    simp only [after, user, session_touch] at h
    split at h
    · rw [Option.map_map] at h
      exact h
    · exact h
  | evict now =>
    right; left
    simp only [after, user, session_evict] at h
    obtain ⟨s, hs, rfl⟩ := Option.map_eq_some_iff.mp h
    rw [user, Option.eq_some_of_filter_eq_some hs]
    rfl
  | order fs actor d =>
    right
    simp only [after] at h
    -- Sessions follow a directive only if it is carried out.
    cases hresult : (m.carryOut fs actor d).result with
    | ok _ =>
      rw [user_carryOut_of_ok hresult] at h
      obtain ⟨v, hv, rfl⟩ := Option.map_eq_some_iff.mp h
      exact .inr ⟨fs, actor, d, v, rfl, hresult, hv, rfl⟩
    | error e =>
      rw [user_carryOut_of_error hresult] at h
      exact .inl h
  | changePassword fs b old new =>
    right; left
    simpa only [after, user, session, sessions_changePassword] using h

/-- **Only directives and changes of passwords reach backends.** -/
theorem backends_after (m : Register) (r : Request) :
    (m.after r).backends = m.backends ∨ (∃ fs actor d, r = .order fs actor d) ∨
      ∃ fs a old new, r = .changePassword fs a old new := by
  cases r with
  | login a name password now =>
    left
    simp only [after]
    split
    · next n hn =>
      obtain ⟨u, provider, -, rfl⟩ := login_eq_ok_iff.mp hn
      rfl
    · rfl
  | logout a =>
    left
    simp only [after, logout]
    split
    · next s n hn =>
      split at hn
      · cases hn
        rfl
      · cases hn
    · rfl
  -- These are about sessions only.
  | touch a now => exact .inl rfl
  | evict now => exact .inl rfl
  | order fs actor d => exact .inr (.inl ⟨fs, actor, d, rfl⟩)
  | changePassword fs a old new => exact .inr (.inr ⟨fs, a, old, new, rfl⟩)

/-! ### Runs -/

/-- The register after several requests. -/
def afterAll (m : Register) (rs : List Request) : Register := rs.foldl after m

theorem afterAll_concat (m : Register) (rs : List Request) (r : Request) :
    m.afterAll (rs ++ [r]) = (m.afterAll rs).after r := by
  rw [afterAll, List.foldl_append]
  rfl

theorem afterAll_append_cons (m : Register) (before : List Request) (r : Request)
    (after : List Request) :
    m.afterAll (before ++ r :: after) = ((m.afterAll before).after r).afterAll after := by
  rw [afterAll, List.foldl_append]
  rfl

/-- The requests of a run, each with the register that it is made to. -/
def history (m : Register) : List Request → List (Register × Request)
  | [] => []
  | r :: rs => (m, r) :: (m.after r).history rs

theorem history_concat (m : Register) (rs : List Request) (r : Request) :
    m.history (rs ++ [r]) = m.history rs ++ [(m.afterAll rs, r)] := by
  induction rs generalizing m with
  | nil => rfl
  | cons s rs ih => exact congrArg _ (ih (m.after s))

/-- **What every request keeps holds all along a run**, before and after each request. -/
theorem history_invariant {I : Register → Prop} {P : Register → Request → Prop}
    (hstep : ∀ n r, I n → P n r → I (n.after r)) {rs : List Request} (h : I m)
    (hP : ∀ n r, (n, r) ∈ m.history rs → P n r) :
    ∀ n r, (n, r) ∈ m.history rs → I n ∧ I (n.after r) := by
  -- Along the requests, from whatever register they start.
  induction rs generalizing m with
  | nil => simp [history]
  | cons r rs ih =>
    have hr : I (m.after r) := hstep m r h (hP m r List.mem_cons_self)
    intro n s hs
    rcases List.mem_cons.mp hs with hs | hs
    · cases hs
      exact ⟨h, hr⟩
    · exact ih hr (fun n r hr => hP n r (List.mem_cons_of_mem _ hr)) n s hs

end Register

end Econet.Account
