import Econet.Proofs.Account.Requests

/-!
# Privilege does not come from nowhere

Without a privileged user at any station, and as long as nobody logs in who has privilege, no
request gives privilege to anyone: changes of accounts are denied, and accounts keep all but their
passwords.

## Main definitions

* `Backend.withoutPasswords`: what passwords have no part in
* `Register.IsPowerless m n`: the register `n` has no privileged users, and the accounts of `m`

## Main results

* `Register.IsPowerless.after`: a request gives privilege to nobody but users who log in with it
* `Register.isPowerless_history`: without privileged logins there is no privilege along a run
-/

namespace Econet.Account

open Text (upper)

/-! ### Accounts without their passwords -/

/-- An account without its password. -/
def Record.withoutPassword (r : Record) : Record := { r with password := "" }

/-- The accounts of a file without their passwords. -/
def UserFile.withoutPasswords (f : UserFile) : UserFile :=
  { f with users := f.users.mapValues Record.withoutPassword }

/-- A backend without the passwords of its accounts. -/
def Backend.withoutPasswords : Backend → Backend
  | userFile f => userFile f.withoutPasswords
  | readOnly name login => readOnly name login

theorem UserFile.withoutPasswords_setPassword (f : UserFile) (fs : Files)
    (name password : String) :
    (f.setPassword fs name password).state.withoutPasswords = f.withoutPasswords := by
  have hstate := state_apply f fs (.setPassword name password)
  rw [apply] at hstate
  rw [hstate]
  split
  · rfl
  · -- Only the password changes, and that is left out.
    simp only [outcome, withoutPasswords]
    congr 1
    exact Table.mapValues_modify fun r => rfl

theorem Backend.withoutPasswords_setPassword (b : Backend) (fs : Files)
    (name password : String) :
    (b.setPassword fs name password).state.withoutPasswords = b.withoutPasswords := by
  cases b with
  | userFile f => exact congrArg userFile (f.withoutPasswords_setPassword fs name password)
  | readOnly name login => rfl

namespace Register

variable {m n : Register}

theorem withoutPasswords_replacePassword (username old new : String) (b : Backend) (fs : Files) :
    (replacePassword username old new b fs).state.withoutPasswords = b.withoutPasswords := by
  unfold replacePassword
  split
  · rfl
  · rfl
  · exact b.withoutPasswords_setPassword fs username new

theorem withoutPasswords_changePassword (m : Register) (fs : Files) (a : Address)
    (old new : String) :
    (m.changePassword fs a old new).state.backends.map Backend.withoutPasswords =
      m.backends.map Backend.withoutPasswords := by
  unfold changePassword
  split
  · rfl
  · exact map_changeNamed (withoutPasswords_replacePassword _ old new) _ _ fs

/-! ### Registers without privilege -/

theorem isAdmin_eq_false_iff {a : Address} :
    m.isAdmin a = false ↔ ∀ u, m.user a = some u → u.privileged = false := by
  unfold isAdmin
  split
  · next u hu => simp [hu]
  · next hu => simp [hu]

/-- No user is privileged, and the accounts are those of another register, up to passwords. -/
structure IsPowerless (m n : Register) : Prop where
  /-- No station may order changes of accounts. -/
  isAdmin_eq_false : ∀ a, n.isAdmin a = false
  /-- Users, their numbers, homes, options and privileges are the same. -/
  backends_eq : n.backends.map Backend.withoutPasswords = m.backends.map Backend.withoutPasswords

/-- A login that is accepted gives no privilege. -/
def AdmitsNoAdmin (n : Register) : Request → Prop
  | .login a name password now =>
    ∀ n', n.login a name password now = .ok n' → n'.isAdmin a = false
  | _ => True

theorem admitsNoAdmin_login_iff {a : Address} {name password : String} {now : Time} :
    n.AdmitsNoAdmin (.login a name password now) ↔
      (firstAccepted (upper name) password n.backends).all fun p => !p.1.privileged := by
  simp only [AdmitsNoAdmin, login_eq_ok_iff, Option.all_eq_true]
  constructor
  · rintro h ⟨u, provider⟩ hu
    have hadmin := h _ ⟨u, provider, hu, rfl⟩
    simpa [isAdmin, user, session, Session.start] using hadmin
  · rintro h n' ⟨u, provider, hu, rfl⟩
    have hadmin := h _ hu
    simpa [isAdmin, user, session, Session.start] using hadmin

instance : DecidablePred n.AdmitsNoAdmin
  | .login _ _ _ _ => decidable_of_iff _ admitsNoAdmin_login_iff.symm
  | .logout _ => isTrue trivial
  | .touch _ _ => isTrue trivial
  | .evict _ => isTrue trivial
  | .order _ _ _ => isTrue trivial
  | .changePassword _ _ _ _ => isTrue trivial

/-- A request reaches no backend, unless it is a change of a password. -/
theorem IsPowerless.backends_after (h : m.IsPowerless n) {r : Request}
    (hr : ∀ fs a old new, r ≠ .changePassword fs a old new) :
    (n.after r).backends = n.backends := by
  rcases n.backends_after r with heq | ⟨fs, actor, d, rfl⟩ | ⟨fs, a, old, new, rfl⟩
  · exact heq
  · rw [Register.after, carryOut_of_not_isAdmin (h.isAdmin_eq_false actor)]
    rfl
  · exact absurd rfl (hr fs a old new)

/-- **A request gives privilege to nobody but users who log in with it.** -/
theorem IsPowerless.after (h : m.IsPowerless n) {r : Request} (hr : n.AdmitsNoAdmin r) :
    m.IsPowerless (n.after r) where
  isAdmin_eq_false := by
    intro a
    rw [isAdmin_eq_false_iff]
    intro u hu
    -- The user has logged in, was there, or was changed by an order, which somebody had to give.
    rcases user_after hu with ⟨name, password, now, provider, rfl, hfirst⟩ | hu' |
      ⟨fs, actor, d, v, rfl, hok, -, -⟩
    · have hlogin : n.login a name password now = .ok _ :=
        login_eq_ok_iff.mpr ⟨u, provider, hfirst, rfl⟩
      refine isAdmin_eq_false_iff.mp (hr _ hlogin) u ?_
      simpa only [Register.after, hlogin] using hu
    · exact isAdmin_eq_false_iff.mp (h.isAdmin_eq_false a) u hu'
    · rw [carryOut_of_not_isAdmin (h.isAdmin_eq_false actor)] at hok
      cases hok
  backends_eq := by
    rw [← h.backends_eq]
    by_cases hpassword : ∃ fs a old new, r = .changePassword fs a old new
    · obtain ⟨fs, a, old, new, rfl⟩ := hpassword
      exact n.withoutPasswords_changePassword fs a old new
    · rw [h.backends_after]
      intro fs a old new hr
      exact hpassword ⟨fs, a, old, new, hr⟩

/-- **Without privileged logins there is no privilege along a run.** Starting without privileged
users, nobody has privilege at any time, every directive is denied, and the accounts stay as they
are, except that requests for it change passwords. -/
theorem isPowerless_history {rs : List Request} (hm : ∀ a, m.isAdmin a = false)
    (hlogin : ∀ n r, (n, r) ∈ m.history rs → n.AdmitsNoAdmin r) :
    ∀ n r, (n, r) ∈ m.history rs →
      m.IsPowerless n ∧ m.IsPowerless (n.after r) ∧
      (∀ fs actor d, r = .order fs actor d →
        (n.carryOut fs actor d).result = .error (.permissionDenied actor)) ∧
      ((∀ fs a old new, r ≠ .changePassword fs a old new) →
        (n.after r).backends = n.backends) := by
  intro n r hr
  obtain ⟨hn, hafter⟩ := history_invariant (I := m.IsPowerless) (P := AdmitsNoAdmin)
    (fun n r hn => hn.after) ⟨hm, rfl⟩ hlogin n r hr
  refine ⟨hn, hafter, ?_, hn.backends_after⟩
  rintro fs actor d rfl
  rw [carryOut_of_not_isAdmin (hn.isAdmin_eq_false actor)]
  rfl

/-- A guest cannot make an administrator, but can change a password. -/
theorem isPowerless_history_guest :
    let syst : Record := ⟨"SYST", "sys", 1000, "/home/SYST", 0, true⟩
    let guest : Record := ⟨"GUEST", "", 1001, "/home/GUEST", 0, false⟩
    let m := ofBackends [.userFile ((UserFile.inMemory "/home").insertAll [syst, guest])] 0 ""
    let create := Request.order (.empty []) ⟨1, 2⟩ (.create "eve" "" true)
    let change := Request.changePassword (.empty []) ⟨1, 2⟩ "" "new"
    let rs := [.login ⟨1, 2⟩ "guest" "" 0, .login ⟨1, 3⟩ "syst" "guess" 1, create, change]
    let n := (m.after (.login ⟨1, 2⟩ "guest" "" 0)).after (.login ⟨1, 3⟩ "syst" "guess" 1)
    (∀ a, m.isAdmin a = false) ∧ (∀ s ∈ m.history rs, s.1.AdmitsNoAdmin s.2) ∧
      n.isLoggedIn ⟨1, 2⟩ = true ∧ (n.after create).backends = n.backends ∧
      m.IsPowerless ((n.after create).after change) := by
  intro syst guest m create change rs n
  have hm : ∀ a, m.isAdmin a = false := fun a => rfl
  have hlogin : ∀ s ∈ m.history rs, s.1.AdmitsNoAdmin s.2 := by decide
  have hn := isPowerless_history hm fun n r => hlogin (n, r)
  refine ⟨hm, hlogin, by decide, ?_, ?_⟩
  · exact (hn n create (by simp [history, rs, n])).2.2.2 (by simp [create])
  · exact (hn (n.after create) change (by simp [history, rs, n])).2.1

end Register

end Econet.Account
