import Econet.Proofs.Account.Requests

/-!
# Administrators and their accounts

Privilege is copied into a session at the login. With one file of users, the sessions keep up with
the accounts, but for two kinds of requests: the removal of an account leaves the sessions of its
user privileged, and so does a withdrawal of privilege that cannot be saved.

## Main definitions

* `Register.AdminsHaveAccounts m`: every privileged session belongs to a privileged account
* `Register.Strands m r`: the request `r` leaves a privileged session without such an account

## Main results

* `UserFile.HasAdministrator.apply`: privilege stays where no operation withdraws it
* `Register.Sound.after`: a register with one file of users remains one
* `Register.Sound.adminsHaveAccounts_after_iff`: which requests keep sessions and accounts together
* `Register.adminsHaveAccounts_history_iff`: which runs do
* `Register.exists_admin_without_account`: an administrator may go on without an account
-/

namespace Econet.Account

open Text (upper upper_upper)

/-! ### Privileged accounts of a file -/

namespace UserFile

variable {f : UserFile} {fs : Files} {name x : String}

/-- The account of a name is privileged. -/
def HasAdministrator (f : UserFile) (name : String) : Prop :=
  ∃ r, f.get? name = some r ∧ r.privileged = true

instance : Decidable (f.HasAdministrator name) :=
  decidable_of_iff ((f.get? name).any fun r => r.privileged)
    (by simp [HasAdministrator, Option.any_eq_true])

theorem refusal?_eq_none_of_result {op : Operation} (h : (f.apply fs op).result = .ok ()) :
    f.refusal? op = none := by
  rw [apply_eq] at h
  cases hop : f.refusal? op with
  | none => rfl
  | some e =>
    rw [hop] at h
    cases h

/-- The operation takes privilege from an account, or takes the account. -/
def Operation.withdraws : Operation → Bool
  | .remove _ => true
  | .setPrivileged _ privileged => !privileged
  | .create _ _ _ | .setPassword _ _ => false

/-- **Privilege stays where no operation withdraws it**, whether operations succeed or not. -/
theorem HasAdministrator.apply (h : f.HasAdministrator x) (fs : Files) {op : Operation}
    (hop : op.withdraws = true → upper op.name ≠ upper x) :
    (f.apply fs op).state.HasAdministrator x := by
  by_cases hx : upper op.name = upper x
  · rw [state_apply]
    split
    · exact h
    · next hrefused =>
      obtain ⟨r, hr, hp⟩ := h
      rw [HasAdministrator, get?_outcome, if_pos hx, hr]
      cases op with
      | create name password privileged =>
        -- The account of that name is there already.
        have hname : f.get? name = some r := by
          rw [get?, show upper name = upper x from hx]
          exact hr
        simp [isSome_refusal?, Operation.name, Operation.creates, hname] at hrefused
      | remove name => exact absurd hx (hop rfl)
      | setPrivileged name privileged =>
        cases privileged with
        | true => exact ⟨_, rfl, rfl⟩
        | false => exact absurd hx (hop rfl)
      | setPassword name password => exact ⟨_, rfl, hp⟩
  · rw [HasAdministrator, get?_apply_of_ne hx]
    exact h

/-- An operation that withdraws privilege leaves none, whether it succeeds or not. -/
theorem not_hasAdministrator_apply (f : UserFile) (fs : Files) {op : Operation}
    (hop : op.withdraws = true) : ¬ (f.apply fs op).state.HasAdministrator op.name := by
  rintro ⟨r, hr, hp⟩
  rw [state_apply] at hr
  split at hr
  · next hrefused =>
    -- What is not to be created is refused where there is no account.
    rw [isSome_refusal?, hr] at hrefused
    cases op with
    | create name password privileged => cases hop
    | remove name => cases hrefused
    | setPrivileged name privileged => cases hrefused
    | setPassword name password => cases hop
  · rw [get?_outcome_name] at hr
    cases op with
    | create name password privileged => cases hop
    | remove name => cases hr
    | setPrivileged name privileged =>
      obtain ⟨s, -, rfl⟩ := Option.map_eq_some_iff.mp hr
      cases privileged with
      | true => cases hop
      | false => cases hp
    | setPassword name password => cases hop

/-- Privilege can be given to whoever has an account. -/
theorem hasAdministrator_setPrivileged_true
    (h : f.refusal? (.setPrivileged name true) = none) :
    (f.apply fs (.setPrivileged name true)).state.HasAdministrator name := by
  obtain ⟨r, hr⟩ := Option.isSome_iff_exists.mp (refusal?_eq_none_iff.mp h)
  refine ⟨{ r with privileged := true }, ?_, rfl⟩
  rw [state_apply, h]
  refine (get?_outcome_name f (.setPrivileged name true)).trans ?_
  exact Option.map_eq_some_iff.mpr ⟨r, hr, rfl⟩

end UserFile

/-- A backend has a privileged account of a name, in a file of users. -/
def Backend.HasAdministrator : Backend → String → Prop
  | .userFile f, name => f.HasAdministrator name
  | .readOnly _ _, _ => False

instance (b : Backend) (name : String) : Decidable (b.HasAdministrator name) :=
  match b with
  | .userFile f => inferInstanceAs (Decidable (f.HasAdministrator name))
  | .readOnly _ _ => inferInstanceAs (Decidable False)

namespace Register

variable {m n : Register} {fs : Files} {actor : Address} {f : UserFile} {d : Directive}

/-! ### Registers with one file of users -/

/-- A directive is carried out exactly if the file takes it. -/
theorem result_carryOut_single_iff (h : m.backends = [.userFile f])
    (hactor : m.isAdmin actor = true) :
    (m.carryOut fs actor d).result = .ok () ↔ (f.apply fs d.operation).result = .ok () := by
  rw [result_carryOut, ordered, changeAs, if_pos hactor, h]
  simp only [changeFirst, Backend.apply, Backend.change, Change.map]
  cases (f.apply fs d.operation).result <;> simp [Change.refused]

theorem backends_carryOut_single (h : m.backends = [.userFile f])
    (hactor : m.isAdmin actor = true) :
    (m.carryOut fs actor d).state.backends = [.userFile (f.apply fs d.operation).state] := by
  rw [backends_carryOut, ordered, changeAs, if_pos hactor, h]
  simp only [changeFirst, Backend.apply, Backend.change, Change.map]
  cases (f.apply fs d.operation).result <;> rfl

theorem backends_changePassword_single (h : m.backends = [.userFile f]) (fs : Files)
    (a : Address) (old new : String) :
    (m.changePassword fs a old new).state.backends = [.userFile f] ∨
      ∃ name, (m.changePassword fs a old new).state.backends =
        [.userFile (f.apply fs (.setPassword name new)).state] := by
  unfold changePassword
  split
  · exact .inl h
  · next s hs =>
    simp only [h, changeNamed]
    split
    · simp only [replacePassword, Backend.login]
      cases f.login s.user.username old with
      | none => exact .inl rfl
      | some u => exact .inr ⟨s.user.username, rfl⟩
    · exact .inl rfl

theorem firstAccepted_single {name password provider : String} {u : User}
    (h : firstAccepted name password [.userFile f] = some (u, provider)) :
    ∃ r, f.get? name = some r ∧ u = r.user := by
  simp only [firstAccepted, Backend.login, UserFile.login] at h
  cases hr : f.get? name with
  | none => simp [hr] at h
  | some r =>
    by_cases hp : r.password = password
    · simp only [hr, Option.filter, hp, decide_true, if_true, Option.map_some,
        Option.some.injEq, Prod.mk.injEq] at h
      exact ⟨r, rfl, h.1.symm⟩
    · simp [hr, Option.filter, hp] at h

/-- One file of users, and users whose names are in upper case. -/
structure Sound (m : Register) : Prop where
  /-- The accounts stand under their names. -/
  file : ∃ f, m.backends = [.userFile f] ∧ f.IsKeyed
  /-- Names are as accounts have them. -/
  names : ∀ a u, m.user a = some u → upper u.username = u.username

theorem sound_ofBackends (h : f.IsKeyed) (maxIdle : Nat) (libraryPath : String) :
    (ofBackends [.userFile f] maxIdle libraryPath).Sound where
  file := ⟨f, rfl, h⟩
  names := by
    intro a u hu
    cases hu

theorem username_onUser (d : Directive) (u : User) : (d.onUser u).username = u.username := by
  cases d with
  | create name password privileged => rfl
  | remove name => rfl
  | setPrivileged name privileged =>
    simp only [Directive.onUser]
    split <;> rfl

/-- **A register with one file of users remains one.** -/
theorem Sound.after (h : m.Sound) (r : Request) : (m.after r).Sound where
  file := by
    obtain ⟨f, hf, hkeyed⟩ := h.file
    rcases m.backends_after r with heq | ⟨fs, actor, d, rfl⟩ | ⟨fs, a, old, new, rfl⟩
    · exact ⟨f, heq.trans hf, hkeyed⟩
    · cases hactor : m.isAdmin actor with
      | true => exact ⟨_, backends_carryOut_single hf hactor, hkeyed.apply fs _⟩
      | false =>
        rw [Register.after, carryOut_of_not_isAdmin hactor]
        exact ⟨f, hf, hkeyed⟩
    · rcases backends_changePassword_single hf fs a old new with heq | ⟨name, heq⟩
      · exact ⟨f, heq, hkeyed⟩
      · exact ⟨_, heq, hkeyed.apply fs _⟩
  names := by
    intro a u hu
    obtain ⟨f, hf, -⟩ := h.file
    rcases user_after hu with ⟨name, password, now, provider, rfl, hfirst⟩ | hu' |
      ⟨fs, actor, d, v, rfl, -, hv, rfl⟩
    -- Whoever logs in gets the name of the account in upper case.
    · rw [hf] at hfirst
      obtain ⟨r, -, rfl⟩ := firstAccepted_single hfirst
      exact upper_upper r.username
    · exact h.names a u hu'
    · rw [username_onUser]
      exact h.names a v hv

/-! ### Sessions and accounts -/

/-- Somebody with privilege is logged in under a name. -/
def HasAdminSession (m : Register) (name : String) : Prop :=
  ∃ a u, m.user a = some u ∧ u.privileged = true ∧ u.username = name

/-- There is a privileged account of a name. -/
def HasAdministrator (m : Register) (name : String) : Prop :=
  ∃ b ∈ m.backends, b.HasAdministrator name

instance (name : String) : Decidable (m.HasAdministrator name) :=
  inferInstanceAs (Decidable (∃ b ∈ m.backends, b.HasAdministrator name))

/-- Every privileged session belongs to a privileged account. -/
def AdminsHaveAccounts (m : Register) : Prop :=
  ∀ a u, m.user a = some u → u.privileged = true → m.HasAdministrator u.username

/-- The request leaves a privileged session without a privileged account. -/
inductive Strands (m : Register) : Request → Prop
  /-- The account is removed. -/
  | remove {fs : Files} {actor : Address} {name : String} (hactor : m.isAdmin actor = true)
      (hsession : m.HasAdminSession (upper name)) : Strands m (.order fs actor (.remove name))
  /-- The account loses its privilege, and that cannot be saved. -/
  | withdraw {fs : Files} {actor : Address} {name : String} (hactor : m.isAdmin actor = true)
      (hsession : m.HasAdminSession (upper name))
      (hfailed : (m.carryOut fs actor (.setPrivileged name false)).result ≠ .ok ()) :
      Strands m (.order fs actor (.setPrivileged name false))

theorem hasAdministrator_iff (h : m.backends = [.userFile f]) {name : String} :
    m.HasAdministrator name ↔ f.HasAdministrator name := by
  simp [HasAdministrator, Backend.HasAdministrator, h]

/-- A directive that does not concern sessions leaves their users as they are. -/
theorem user_carryOut_of_onUser (h : d.onUser = id) (fs : Files) (actor a : Address) :
    (m.carryOut fs actor d).state.user a = m.user a := by
  cases hresult : (m.carryOut fs actor d).result with
  | ok _ => rw [user_carryOut_of_ok hresult, h, Option.map_id_fun, id]
  | error e => exact user_carryOut_of_error hresult a

/-- Stranded sessions are without an account. -/
theorem Sound.not_adminsHaveAccounts_of_strands (hm : m.Sound) {r : Request}
    (h : m.Strands r) : ¬ (m.after r).AdminsHaveAccounts := by
  obtain ⟨f, hf, -⟩ := hm.file
  intro hafter
  cases h with
  | @remove fs actor name hactor hsession =>
    obtain ⟨a, u, hu, hp, hname⟩ := hsession
    have huser : (m.carryOut fs actor (.remove name)).state.user a = some u :=
      (user_carryOut_of_onUser rfl fs actor a).trans hu
    have haccount := hafter a u huser hp
    rw [Register.after, hasAdministrator_iff (backends_carryOut_single hf hactor), hname]
      at haccount
    exact f.not_hasAdministrator_apply fs rfl haccount
  | @withdraw fs actor name hactor hsession hfailed =>
    obtain ⟨a, u, hu, hp, hname⟩ := hsession
    cases hresult : (m.carryOut fs actor (.setPrivileged name false)).result with
    | ok _ => exact hfailed hresult
    | error e =>
      have haccount := hafter a u ((user_carryOut_of_error hresult a).trans hu) hp
      rw [Register.after, hasAdministrator_iff (backends_carryOut_single hf hactor), hname]
        at haccount
      exact f.not_hasAdministrator_apply fs rfl haccount

/-- A login finds the account of the user. -/
theorem Sound.hasAdministrator_of_firstAccepted (hm : m.Sound) {name password provider : String}
    {u : User} (h : firstAccepted (upper name) password m.backends = some (u, provider))
    (hp : u.privileged = true) : m.HasAdministrator u.username := by
  obtain ⟨f, hf, hkeyed⟩ := hm.file
  rw [hf] at h
  obtain ⟨r, hr, rfl⟩ := firstAccepted_single h
  rw [hasAdministrator_iff hf]
  refine ⟨r, ?_, hp⟩
  have hname : r.user.username = upper name := by
    rw [show r.user.username = upper r.username from rfl, hkeyed.username_eq hr]
    simp
  rw [hname]
  exact hr

/-- A directive that strands nobody keeps sessions and accounts together. -/
theorem Sound.adminsHaveAccounts_carryOut (hm : m.Sound) (h : m.AdminsHaveAccounts)
    (hr : ¬ m.Strands (.order fs actor d)) :
    (m.carryOut fs actor d).state.AdminsHaveAccounts := by
  obtain ⟨f, hf, -⟩ := hm.file
  cases hactor : m.isAdmin actor with
  | false =>
    rw [carryOut_of_not_isAdmin hactor]
    exact h
  | true =>
    intro a u hu hp
    rw [hasAdministrator_iff (backends_carryOut_single hf hactor)]
    have haccount {v : User} (hv : m.user a = some v) (hp : v.privileged = true) :
        f.HasAdministrator v.username := (hasAdministrator_iff hf).mp (h a v hv hp)
    -- Names that differ do so in upper case.
    have hupper {v : User} {name : String} (hv : m.user a = some v)
        (hname : v.username ≠ upper name) : upper (upper name) ≠ upper v.username := by
      rw [upper_upper, hm.names a v hv]
      exact hname.symm
    cases d with
    | create name password privileged =>
      rw [user_carryOut_of_onUser rfl] at hu
      exact (haccount hu hp).apply fs (fun h => by cases h)
    | remove name =>
      rw [user_carryOut_of_onUser rfl] at hu
      refine (haccount hu hp).apply fs fun _ => hupper hu fun hname => hr ?_
      exact .remove hactor ⟨a, u, hu, hp, hname⟩
    | setPrivileged name privileged =>
      cases hresult : (m.carryOut fs actor (.setPrivileged name privileged)).result with
      | error e =>
        rw [user_carryOut_of_error hresult] at hu
        refine (haccount hu hp).apply fs fun hwithdraws => hupper hu fun hname => hr ?_
        obtain rfl : privileged = false := by
          simpa [Directive.operation, UserFile.Operation.withdraws] using hwithdraws
        exact .withdraw hactor ⟨a, u, hu, hp, hname⟩ (by rw [hresult]; simp)
      | ok _ =>
        rw [user_carryOut_of_ok hresult] at hu
        obtain ⟨v, hv, rfl⟩ := Option.map_eq_some_iff.mp hu
        simp only [Directive.onUser] at hp ⊢
        split at hp
        · next hname =>
          -- The session was given what the account was given.
          rw [if_pos hname, hname]
          obtain rfl : privileged = true := hp
          have hfile := (result_carryOut_single_iff hf hactor).mp hresult
          exact UserFile.hasAdministrator_setPrivileged_true
            (UserFile.refusal?_eq_none_of_result hfile)
        · next hname =>
          rw [if_neg hname]
          exact (haccount hv hp).apply fs fun _ => hupper hv hname

/-- **Which requests keep sessions and accounts together**: those that strand nobody. -/
theorem Sound.adminsHaveAccounts_after_iff (hm : m.Sound) (h : m.AdminsHaveAccounts)
    (r : Request) : (m.after r).AdminsHaveAccounts ↔ ¬ m.Strands r := by
  refine ⟨fun hafter hr => hm.not_adminsHaveAccounts_of_strands hr hafter, fun hr => ?_⟩
  rcases m.backends_after r with heq | ⟨fs, actor, d, rfl⟩ | ⟨fs, b, old, new, rfl⟩
  · intro a u hu hp
    have hsame {name : String} : (m.after r).HasAdministrator name ↔ m.HasAdministrator name := by
      rw [HasAdministrator, heq]
      rfl
    rw [hsame]
    rcases user_after hu with ⟨name, password, now, provider, rfl, hfirst⟩ | hu' |
      ⟨fs, actor, d, v, rfl, -, -, -⟩
    · exact hm.hasAdministrator_of_firstAccepted hfirst hp
    · exact h a u hu' hp
    · exact hsame.mp (hm.adminsHaveAccounts_carryOut h hr a u hu hp)
  · exact hm.adminsHaveAccounts_carryOut h hr
  -- A password is nothing to who is an administrator.
  · obtain ⟨f, hf, -⟩ := hm.file
    intro a u hu hp
    have haccount : f.HasAdministrator u.username := by
      rw [← hasAdministrator_iff hf]
      refine h a u ?_ hp
      simpa only [Register.after, user, session, sessions_changePassword] using hu
    rcases backends_changePassword_single hf fs b old new with heq | ⟨name, heq⟩
    · exact (hasAdministrator_iff heq).mpr haccount
    · exact (hasAdministrator_iff heq).mpr (haccount.apply fs (fun h => by cases h))

/-- If privileged sessions belong to privileged accounts, then changes are ordered from these. -/
theorem AdminsHaveAccounts.of_result (h : m.AdminsHaveAccounts)
    (hresult : (m.carryOut fs actor d).result = .ok ()) :
    ∃ u, m.user actor = some u ∧ m.HasAdministrator u.username := by
  have hactor : m.isAdmin actor = true := by
    by_contra hactor
    rw [carryOut_of_not_isAdmin (Bool.eq_false_iff.mpr hactor)] at hresult
    cases hresult
  unfold isAdmin at hactor
  split at hactor
  · next u hu => exact ⟨u, hu, h actor u hu hactor⟩
  · cases hactor

/-- **Which runs keep sessions and accounts together**: those in which no request strands anybody.
All along such a run, who orders a change of accounts with success has a privileged account. -/
theorem adminsHaveAccounts_history_iff (hf : f.IsKeyed) (maxIdle : Nat) (libraryPath : String)
    (rs : List Request) :
    let m := ofBackends [.userFile f] maxIdle libraryPath
    ((∀ n r, (n, r) ∈ m.history rs → (n.after r).AdminsHaveAccounts) ↔
      ∀ n r, (n, r) ∈ m.history rs → ¬ n.Strands r) ∧
    ((∀ n r, (n, r) ∈ m.history rs → ¬ n.Strands r) →
      ∀ n r, (n, r) ∈ m.history rs → ∀ fs actor d,
        ((n.after r).carryOut fs actor d).result = .ok () →
          ∃ u, (n.after r).user actor = some u ∧ (n.after r).HasAdministrator u.username) := by
  intro m
  have hstart : m.Sound ∧ m.AdminsHaveAccounts :=
    ⟨sound_ofBackends hf maxIdle libraryPath, fun a u hu => by cases hu⟩
  -- Either side lets the invariant pass through each request.
  have hall : (∀ n r, (n, r) ∈ m.history rs → ¬ n.Strands r) →
      ∀ n r, (n, r) ∈ m.history rs → (n.after r).AdminsHaveAccounts := by
    intro hrs n r hr
    have hrun := history_invariant (I := fun n => n.Sound ∧ n.AdminsHaveAccounts)
      (P := fun n r => ¬ n.Strands r)
      (fun n r hn hr => ⟨hn.1.after r, (hn.1.adminsHaveAccounts_after_iff hn.2 r).mpr hr⟩)
      hstart hrs n r hr
    exact hrun.2.2
  refine ⟨⟨fun hafter n r hr => ?_, hall⟩, fun hrs n r hr fs actor d => ?_⟩
  · have hrun := history_invariant (I := fun n => n.Sound ∧ n.AdminsHaveAccounts)
      (P := fun n r => (n.after r).AdminsHaveAccounts)
      (fun n r hn hr => ⟨hn.1.after r, hr⟩) hstart hafter n r hr
    exact (hrun.1.1.adminsHaveAccounts_after_iff hrun.1.2 r).mp (hafter n r hr)
  · exact (hall hrs n r hr).of_result

/-- Privilege that is taken from an account is taken from the sessions. -/
theorem adminsHaveAccounts_history_withdrawn :
    let syst : Record := ⟨"SYST", "sys", 1000, "/home/SYST", 0, true⟩
    let bob : Record := ⟨"BOB", "", 1001, "/home/BOB", 0, true⟩
    let f := (UserFile.inMemory "/home").insertAll [syst, bob]
    let m := ofBackends [.userFile f] 0 ""
    let withdraw := Request.order (.empty []) ⟨1, 1⟩ (.setPrivileged "bob" false)
    let n := (m.after (.login ⟨1, 1⟩ "syst" "sys" 0)).after (.login ⟨1, 2⟩ "bob" "" 1)
    f.IsKeyed ∧ n.isAdmin ⟨1, 2⟩ = true ∧ (n.after withdraw).isLoggedIn ⟨1, 2⟩ = true ∧
      (n.after withdraw).isAdmin ⟨1, 2⟩ = false ∧ (n.after withdraw).AdminsHaveAccounts := by
  intro syst bob f m withdraw n
  have hf : f.IsKeyed := (UserFile.isKeyed_inMemory "/home").insertAll [syst, bob]
  refine ⟨hf, by decide, by decide, by decide, ?_⟩
  let rs := [.login ⟨1, 1⟩ "syst" "sys" 0, .login ⟨1, 2⟩ "bob" "" 1, withdraw]
  refine (adminsHaveAccounts_history_iff hf 0 "" rs).1.mpr ?_ n withdraw
    (by simp [history, rs, n, m])
  have hresult : (n.carryOut (.empty []) ⟨1, 1⟩ (.setPrivileged "bob" false)).result = .ok () := by
    decide
  intro n' r hr hstrands
  simp only [history, rs, List.mem_cons, Prod.mk.injEq, List.not_mem_nil, or_false] at hr
  rcases hr with ⟨-, rfl⟩ | ⟨-, rfl⟩ | ⟨hn, rfl⟩
  · cases hstrands
  · cases hstrands
  · simp only [withdraw] at hstrands
    cases hstrands with
    | withdraw hactor hsession hfailed => exact hfailed (hn ▸ hresult)

/-- An administrator whose account is removed goes on as one, and makes others. -/
theorem exists_admin_without_account :
    let syst : Record := ⟨"SYST", "sys", 1000, "/home/SYST", 0, true⟩
    let bob : Record := ⟨"BOB", "", 1001, "/home/BOB", 0, true⟩
    let f := (UserFile.inMemory "/home").insertAll [syst, bob]
    let m := ofBackends [.userFile f] 0 ""
    let remove := Request.order (.empty []) ⟨1, 1⟩ (.remove "bob")
    let n := (m.after (.login ⟨1, 1⟩ "syst" "sys" 0)).after (.login ⟨1, 2⟩ "bob" "" 1)
    f.IsKeyed ∧ ¬ (n.after remove).AdminsHaveAccounts ∧
      ((n.after remove).carryOut (.empty []) ⟨1, 2⟩ (.create "eve" "" true)).result = .ok () ∧
      ¬ ∃ u, (n.after remove).user ⟨1, 2⟩ = some u ∧
        (n.after remove).HasAdministrator u.username := by
  intro syst bob f m remove n
  have huser : (n.after remove).user ⟨1, 2⟩ = some bob.user := by decide
  have hgone : ¬ (n.after remove).HasAdministrator bob.user.username := by decide
  refine ⟨(UserFile.isKeyed_inMemory "/home").insertAll [syst, bob], ?_, by decide, ?_⟩
  · intro h
    exact hgone (h ⟨1, 2⟩ bob.user huser rfl)
  · rintro ⟨u, hu, hadmin⟩
    cases huser.symm.trans hu
    exact hgone hadmin

end Register

end Econet.Account
