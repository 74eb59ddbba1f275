import Econet.Proofs.Account.Logins
import Econet.Proofs.Account.Sessions

/-!
# Changes of passwords

A session remembers the backend that has let its user in by nothing but its name. A change of
password goes to the first backend of that name. That is the backend of the login, unless an earlier
backend of the chain has the same name: then the old password is asked of that one, and the new
password is set there.

## Main definitions

* `IsFirst name bs j b`: the first backend of a name in a chain
* `Register.Admits m name password i b u`: who lets in the user at a login
* `Register.ChangesIn m a username j b`: passwords are changed in a backend, and nowhere else

## Main results

* `changeNamed_of_isFirst`, `exists_isFirst`: which backend of a chain is changed
* `firstAccepted_eq_some_iff`: which backend of a chain lets in a user
* `Register.exists_admits`: a login that succeeds has a backend that lets the user in
* `Register.names_afterAll`: chains keep the names of their backends
* `Register.login_of_admits`: what a session remembers of its login
* `Register.changePassword_after_login`: where the password of a session is changed
-/

namespace Econet.Account

open Text (upper)

/-! ### The first backend of a name -/

/-- The backend `b` stands at the place `j` of a chain, and is the first that has the name. -/
structure IsFirst (name : String) (bs : List Backend) (j : Nat) (b : Backend) : Prop where
  /-- It stands there. -/
  getElem?_eq : bs[j]? = some b
  /-- It has the name. -/
  name_eq : b.name = name
  /-- No backend before it has the name. -/
  before : name ∉ (bs.take j).map Backend.name

variable {name password username old new provider : String} {bs : List Backend} {b d : Backend}
  {u : User} {i j : Nat} {fs : Files}

/-- **Which backend is changed**: the first of the name. -/
theorem changeNamed_of_isFirst (h : IsFirst name bs j b)
    (op : Backend → Files → Change AccessError Backend) (fs : Files) :
    changeNamed op name bs fs = (op b fs).map (bs.set j ·) := by
  obtain ⟨hj, hname, hbefore⟩ := h
  -- Along the chain: what stands in front has another name, until the backend itself does.
  induction bs generalizing j with
  | nil => simp at hj
  | cons c cs ih =>
    cases j with
    | zero =>
      cases hj
      simp [changeNamed, hname]
    | succ j =>
      simp only [List.take_succ_cons, List.map_cons, List.mem_cons, not_or] at hbefore
      simp only [changeNamed, Ne.symm hbefore.1, if_false, ih hj hbefore.2]
      rfl

/-- The first backend of a name does not stand behind the others of that name. -/
theorem exists_isFirst (h : bs[i]? = some b) :
    ∃ j d, IsFirst b.name bs j d ∧ j ≤ i ∧ (j = i ↔ b.name ∉ (bs.take i).map Backend.name) := by
  induction bs generalizing i with
  | nil => simp at h
  | cons c cs ih =>
    by_cases hc : c.name = b.name
    · -- The first backend of the chain has the name already.
      refine ⟨0, c, ⟨rfl, hc, by simp⟩, Nat.zero_le i, ?_⟩
      cases i with
      | zero => simp
      | succ i => simp [hc]
    · cases i with
      | zero =>
        cases h
        exact absurd rfl hc
      | succ i =>
        obtain ⟨j, d, ⟨hj, hname, hbefore⟩, hle, heq⟩ := ih h
        have hcons (l : Nat) : b.name ∉ ((c :: cs).take (l + 1)).map Backend.name ↔
            b.name ∉ (cs.take l).map Backend.name := by
          simp [Ne.symm hc]
        refine ⟨j + 1, d, ⟨hj, hname, (hcons j).mpr hbefore⟩, Nat.succ_le_succ hle, ?_⟩
        rw [Nat.add_right_cancel_iff, heq, hcons]

/-- **Which backend lets in a user**: the first that accepts the password. -/
theorem firstAccepted_eq_some_iff :
    firstAccepted name password bs = some (u, provider) ↔
      ∃ i b, bs[i]? = some b ∧ firstAccepted name password (bs.take i) = none ∧
        b.login name password = .ok (some u) ∧ b.name = provider := by
  induction bs with
  | nil => simp [firstAccepted]
  | cons c cs ih =>
    by_cases hc : c.accepts name password
    · -- The backend in front decides.
      obtain ⟨v, hv⟩ := Backend.accepts_iff.mp hc
      rw [firstAccepted_cons_of_accepts hv, Option.some.injEq, Prod.mk.injEq]
      constructor
      · rintro ⟨rfl, rfl⟩
        exact ⟨0, c, rfl, rfl, hv, rfl⟩
      · rintro ⟨i, b, hi, hbefore, hb, rfl⟩
        cases i with
        | zero =>
          cases hi
          cases hv.symm.trans hb
          exact ⟨rfl, rfl⟩
        | succ i =>
          rw [List.take_succ_cons, firstAccepted_cons_of_accepts hv] at hbefore
          cases hbefore
    -- It has no say, and places in the chain are counted without it.
    · rw [firstAccepted_cons_of_not_accepts hc, ih]
      constructor
      · rintro ⟨i, b, hi, hbefore, hb⟩
        refine ⟨i + 1, b, hi, ?_, hb⟩
        rwa [List.take_succ_cons, firstAccepted_cons_of_not_accepts hc]
      · rintro ⟨i, b, hi, hbefore, hb⟩
        cases i with
        | zero =>
          cases hi
          exact absurd (Backend.accepts_iff.mpr ⟨u, hb.1⟩) hc
        | succ i =>
          rw [List.take_succ_cons, firstAccepted_cons_of_not_accepts hc] at hbefore
          exact ⟨i, b, hi, hbefore, hb⟩

/-! ### The change in a backend -/

/-- A password of an account that is there is set, and the accounts are saved. -/
theorem UserFile.setPassword_of_account {f : UserFile} {r : Record} (h : f.get? name = some r)
    (fs : Files) (password : String) :
    f.setPassword fs name password = (f.outcome (.setPassword name password)).save fs := by
  have hop : f.refusal? (.setPassword name password) = none := by
    rw [refusal?_eq_none_iff]
    exact Option.isSome_iff_exists.mpr ⟨r, h⟩
  have hsave := f.apply_eq fs (.setPassword name password)
  rwa [hop] at hsave

theorem UserFile.login_eq_some_iff {f : UserFile} :
    f.login name password = some u ↔
      ∃ r, f.get? name = some r ∧ r.password = password ∧ r.user = u := by
  simp [login, Option.filter_eq_some_iff, and_assoc]

namespace Register

theorem replacePassword_of_rejects (h : ∀ v, d.login username old ≠ .ok (some v)) (new : String)
    (fs : Files) : ∃ e, replacePassword username old new d fs = .refused e d fs := by
  cases hd : d.login username old with
  | error e => exact ⟨.backend e, by simp only [replacePassword, hd]⟩
  | ok v =>
    cases v with
    | none => exact ⟨.authenticationFailed username, by simp only [replacePassword, hd]⟩
    | some v => exact absurd hd (h v)

theorem replacePassword_of_accepts {f : UserFile} {r : Record} (hr : f.get? username = some r)
    (hold : r.password = old) (new : String) (fs : Files) :
    replacePassword username old new (.userFile f) fs =
      ⟨(((f.outcome (.setPassword username new)).save fs).result).mapError .backend,
        .userFile (f.outcome (.setPassword username new)),
        ((f.outcome (.setPassword username new)).save fs).files⟩ := by
  have hlogin : f.login username old = some r.user :=
    UserFile.login_eq_some_iff.mpr ⟨r, hr, hold, rfl⟩
  simp only [replacePassword, Backend.login, hlogin, Backend.setPassword, Backend.change,
    Change.map, UserFile.setPassword_of_account hr, UserFile.state_save]

/-- A password is changed exactly if the old one is right and the accounts can be saved. -/
theorem result_replacePassword_iff :
    (replacePassword username old new d fs).result = .ok () ↔
      ∃ f r, d = .userFile f ∧ f.get? username = some r ∧ r.password = old ∧
        ((f.outcome (.setPassword username new)).save fs).result = .ok () := by
  constructor
  · intro h
    by_cases hd : ∃ v, d.login username old = .ok (some v)
    · obtain ⟨v, hv⟩ := hd
      cases d with
      | userFile f =>
        obtain ⟨r, hr, hold, -⟩ := UserFile.login_eq_some_iff.mp (Except.ok.inj hv)
        rw [replacePassword_of_accepts hr hold] at h
        refine ⟨f, r, rfl, hr, hold, ?_⟩
        cases hsave : ((f.outcome (.setPassword username new)).save fs).result with
        | ok _ => rfl
        | error e =>
          rw [hsave] at h
          cases h
      | readOnly kind login =>
        -- It knows the user, but its accounts cannot be changed.
        simp only [replacePassword, hv] at h
        cases h
    · obtain ⟨e, he⟩ := replacePassword_of_rejects (not_exists.mp hd) new fs
      rw [he] at h
      cases h
  · rintro ⟨f, r, rfl, hr, hold, hsave⟩
    rw [replacePassword_of_accepts hr hold, hsave]
    rfl

/-! ### The change in the register -/

variable {m n : Register} {a : Address} {s : Session} {now : Time} {rs : List Request}

/-- A change of password is made in the first backend of the name that the session remembers. -/
theorem changePassword_eq (hs : m.session a = some s) (h : IsFirst s.provider m.backends j d)
    (fs : Files) (old new : String) :
    m.changePassword fs a old new =
      (replacePassword s.user.username old new d fs).map
        fun c => { m with backends := m.backends.set j c } := by
  simp only [changePassword, hs, changeNamed_of_isFirst h]
  rfl

/-- Passwords of the user at a station are changed in the backend `b`, which stands at the place
`j`, and nowhere else. -/
structure ChangesIn (m : Register) (a : Address) (username : String) (j : Nat) (b : Backend) :
    Prop where
  /-- A wrong old password is refused, and nothing changes. -/
  refused : ∀ fs old new, (∀ u, b.login username old ≠ .ok (some u)) →
    ∃ e, m.changePassword fs a old new = .refused e m fs
  /-- The password is changed if the old one is right and the accounts can be saved. -/
  ok_iff : ∀ fs old new, (m.changePassword fs a old new).result = .ok () ↔
    ∃ f r, b = .userFile f ∧ f.get? username = some r ∧ r.password = old ∧
      ((f.outcome (.setPassword username new)).save fs).result = .ok ()
  /-- Then the account has the new password, and all else is as it was. -/
  state_eq : ∀ fs old new, (m.changePassword fs a old new).result = .ok () →
    ∃ f, b = .userFile f ∧ (m.changePassword fs a old new).state =
      { m with backends := m.backends.set j (.userFile
        { f with users := f.users.modify (upper username) fun r => { r with password := new } }) }
  /-- The other backends and the sessions are as they were, whether it succeeds or not. -/
  others_eq : ∀ fs old new, (m.changePassword fs a old new).state.sessions = m.sessions ∧
    ∀ i, i ≠ j → (m.changePassword fs a old new).state.backends[i]? = m.backends[i]?

theorem changesIn_of_isFirst (hs : m.session a = some s)
    (h : IsFirst s.provider m.backends j d) : m.ChangesIn a s.user.username j d where
  refused := by
    intro fs old new hold
    obtain ⟨e, he⟩ := replacePassword_of_rejects hold new fs
    obtain ⟨hj, hd⟩ := List.getElem?_eq_some_iff.mp h.getElem?_eq
    refine ⟨e, ?_⟩
    -- What is put back in its place is the same backend.
    rw [changePassword_eq hs h, he]
    simp only [Change.map, Change.refused, ← hd, List.set_getElem_self]
  ok_iff := by
    intro fs old new
    rw [changePassword_eq hs h]
    exact result_replacePassword_iff
  state_eq := by
    intro fs old new hok
    rw [changePassword_eq hs h] at hok ⊢
    obtain ⟨f, r, rfl, hr, hold, -⟩ := result_replacePassword_iff.mp hok
    rw [replacePassword_of_accepts hr hold]
    exact ⟨f, rfl, rfl⟩
  others_eq := by
    intro fs old new
    refine ⟨sessions_changePassword m fs a old new, ?_⟩
    intro i hi
    rw [changePassword_eq hs h]
    exact List.getElem?_set_ne (Ne.symm hi)

/-! ### From the login to the change -/

/-- The backend `b`, at the place `i` of the chain, is the one that lets in the user `u`. -/
structure Admits (m : Register) (name password : String) (i : Nat) (b : Backend) (u : User) :
    Prop where
  /-- It stands there. -/
  getElem?_eq : m.backends[i]? = some b
  /-- No backend before it lets anybody in. -/
  before : firstAccepted (upper name) password (m.backends.take i) = none
  /-- It lets in the user. -/
  accepts : b.login (upper name) password = .ok (some u)

/-- **What a session remembers of its login** is the name of the backend that has let the user
in. -/
theorem login_of_admits (hadmits : m.Admits name password i b u) :
    m.login a name password now =
      .ok { m with sessions := m.sessions.insert a (.start u b.name now) } := by
  have hu : firstAccepted (upper name) password m.backends = some (u, b.name) :=
    firstAccepted_eq_some_iff.mpr ⟨i, b, hadmits.getElem?_eq, hadmits.before, hadmits.accepts, rfl⟩
  exact login_of_firstAccepted hu a now

theorem session_of_admits (hadmits : m.Admits name password i b u)
    (hlogin : m.login a name password now = .ok n) :
    n.session a = some (.start u b.name now) := by
  cases (login_of_admits hadmits).symm.trans hlogin
  exact Table.get?_insert_self _ _ _

/-- Every login that succeeds has a backend that lets the user in. -/
theorem exists_admits (hlogin : m.login a name password now = .ok n) :
    ∃ i b u, m.Admits name password i b u := by
  obtain ⟨u, provider, hu, -⟩ := session_of_login hlogin
  obtain ⟨i, b, hi, hbefore, hb, -⟩ := firstAccepted_eq_some_iff.mp hu
  exact ⟨i, b, u, hi, hbefore, hb⟩

theorem name_replacePassword (username old new : String) (b : Backend) (fs : Files) :
    (replacePassword username old new b fs).state.name = b.name := by
  unfold replacePassword
  split
  · rfl
  · rfl
  · cases b <;> rfl

/-- **Chains keep the names of their backends.** -/
theorem names_after (m : Register) (r : Request) :
    (m.after r).backends.map Backend.name = m.backends.map Backend.name := by
  rcases m.backends_after r with h | ⟨fs, actor, d, rfl⟩ | ⟨fs, a, old, new, rfl⟩
  · rw [h]
  · rw [after, backends_carryOut, ordered, changeAs]
    split
    · refine map_changeFirst (fun b fs => ?_) _ _ _
      cases b <;> rfl
    · rfl
  · rw [after, changePassword]
    split
    · rfl
    · exact map_changeNamed (name_replacePassword _ old new) _ _ fs

theorem names_afterAll (m : Register) (rs : List Request) :
    (m.afterAll rs).backends.map Backend.name = m.backends.map Backend.name := by
  induction rs using List.reverseRecOn with
  | nil => rfl
  | append_singleton rs r ih => rw [afterAll_concat, names_after, ih]

/-- A session in which nobody logs in anew is the same, up to when its station was active. -/
theorem visit_afterAll_of_not_opens (h : ∀ k r, (k, r) ∈ m.history rs → ∀ s, ¬ k.Opens a s r)
    (hs : (m.afterAll rs).visit a = some s) : ∃ v t, m.visit a = some v ∧ s = v.touch t := by
  -- Along the requests, from whatever register they start.
  induction rs generalizing m with
  | nil => exact ⟨s, s.idleTime, hs, rfl⟩
  | cons r rs ih =>
    obtain ⟨w, t, hw, rfl⟩ := ih (fun k q hq => h k q (List.mem_cons_of_mem _ hq)) hs
    rw [visit_after_of_not_opens (h m r List.mem_cons_self)] at hw
    cases hv : m.visit a with
    | none =>
      rw [hv] at hw
      cases r <;> simp [Request.onVisit] at hw
    | some v =>
      rw [hv] at hw
      obtain ⟨-, -, rfl⟩ := onVisit_eq_some_iff.mp hw
      exact ⟨v, t, rfl, rfl⟩

/-- **Where the password of a session is changed.** The backend that has let the user in gave the
session its name; later, whatever was asked of the register since, the first backend of that name
is asked for the old password and given the new one. It is the same backend exactly if none before
it has its name. -/
theorem changePassword_after_login (hadmits : m.Admits name password i b u)
    (hlogin : m.login a name password now = .ok n)
    (hopens : ∀ k r, (k, r) ∈ n.history rs → ∀ s, ¬ k.Opens a s r)
    (hin : (n.afterAll rs).isLoggedIn a = true) :
    ∃ j d, IsFirst b.name (n.afterAll rs).backends j d ∧
      (n.afterAll rs).ChangesIn a u.username j d ∧ j ≤ i ∧
      (j = i ↔ b.name ∉ (m.backends.take i).map Backend.name) := by
  obtain ⟨s, hs⟩ := Option.isSome_iff_exists.mp hin
  -- The session is the one of the login.
  have hvisit : (n.afterAll rs).visit a = some s.unprivileged := by rw [visit, hs]; rfl
  obtain ⟨v, t, hv, hsv⟩ := visit_afterAll_of_not_opens hopens hvisit
  rw [visit, session_of_admits hadmits hlogin] at hv
  cases hv
  have hprovider : s.provider = b.name := congrArg Session.provider hsv
  have husername : s.user.username = u.username := congrArg (·.user.username) hsv
  -- The chain has the same names as at the login.
  have hnames : (n.afterAll rs).backends.map Backend.name = m.backends.map Backend.name := by
    obtain ⟨w, provider, -, rfl⟩ := login_eq_ok_iff.mp hlogin
    exact names_afterAll _ rs
  have hname : ((n.afterAll rs).backends.map Backend.name)[i]? = some b.name := by
    rw [hnames, List.getElem?_map, hadmits.getElem?_eq]
    rfl
  rw [List.getElem?_map] at hname
  obtain ⟨c, hc, hcb⟩ := Option.map_eq_some_iff.mp hname
  -- What has become of the backend of the login has its name, but need not be the first.
  obtain ⟨j, d, hfirst, hle, heq⟩ := exists_isFirst hc
  rw [hcb] at hfirst heq
  refine ⟨j, d, hfirst, ?_, hle, ?_⟩
  · rw [← husername]
    exact changesIn_of_isFirst hs (hprovider ▸ hfirst)
  · rw [heq, List.map_take, List.map_take, hnames]

/-- A guest whom the second backend lets in changes the password there, as the first one has
another name. -/
theorem changePassword_after_login_second :
    let guest : Record := ⟨"GUEST", "", 1000, "/home/GUEST", 0, false⟩
    let b := Backend.userFile ((UserFile.inMemory "/home").insertAll [guest])
    let m := ofBackends [.readOnly "directory" fun _ _ => .error (.other "unreachable"), b] 3600 ""
    let n := { m with sessions := m.sessions.insert ⟨1, 2⟩ (.start guest.user "userfile" 0) }
    let rs := [.touch ⟨1, 2⟩ 5, .login ⟨1, 3⟩ "guest" "" 6, .evict 7]
    m.Admits "guest" "" 1 b guest.user ∧ m.login ⟨1, 2⟩ "guest" "" 0 = .ok n ∧
      (∀ k r, (k, r) ∈ n.history rs → ∀ s, ¬ k.Opens ⟨1, 2⟩ s r) ∧
      (n.afterAll rs).isLoggedIn ⟨1, 2⟩ = true ∧
      ∃ d, (n.afterAll rs).ChangesIn ⟨1, 2⟩ guest.user.username 1 d := by
  intro guest b m n rs
  have hadmits : m.Admits "guest" "" 1 b guest.user := ⟨rfl, rfl, by decide⟩
  have hlogin : m.login ⟨1, 2⟩ "guest" "" 0 = .ok n := login_of_admits hadmits
  have hopens : ∀ k r, (k, r) ∈ n.history rs → ∀ s, ¬ k.Opens ⟨1, 2⟩ s r := by
    rintro k r hr s ⟨name, password, now, n', rfl, -, -⟩
    simp [history, rs] at hr
  have hin : (n.afterAll rs).isLoggedIn ⟨1, 2⟩ = true := by decide
  obtain ⟨j, d, -, hchanges, -, hj⟩ := changePassword_after_login hadmits hlogin hopens hin
  have hfirst : j = 1 := hj.mpr (by decide)
  subst hfirst
  exact ⟨hadmits, hlogin, hopens, hin, d, hchanges⟩

/-- Two files of users have the same name. A guest whom the second one lets in cannot change the
password with the one of the login, but with the one that the first file has. -/
theorem exists_changePassword_elsewhere :
    ∃ (m n : Register) (a : Address) (name password : String) (i : Nat) (b : Backend) (u : User)
      (fs : Files) (old new : String),
      m.Admits name password i b u ∧ m.login a name password 0 = .ok n ∧
      (n.changePassword fs a password new).result = .error (.authenticationFailed u.username) ∧
      b.login u.username old = .ok none ∧ (n.changePassword fs a old new).result = .ok () := by
  let guest (password : String) : Record := ⟨"GUEST", password, 1000, "/home/GUEST", 0, false⟩
  let file (password : String) : Backend :=
    .userFile ((UserFile.inMemory "/home").insertAll [guest password])
  let m := ofBackends [file "first", file "second"] 3600 ""
  let n := { m with
    sessions := m.sessions.insert ⟨1, 2⟩ (.start (guest "second").user "userfile" 0) }
  have hadmits : m.Admits "guest" "second" 1 (file "second") (guest "second").user :=
    ⟨rfl, by decide, by decide⟩
  have hrefused : (n.changePassword (.empty []) ⟨1, 2⟩ "second" "new").result =
    .error (.authenticationFailed (guest "second").user.username) := by decide
  have hwrong : (file "second").login (guest "second").user.username "first" = .ok none := by
    decide
  have hchanged : (n.changePassword (.empty []) ⟨1, 2⟩ "first" "new").result = .ok () := by decide
  exact ⟨m, n, _, _, _, _, _, _, _, _, _, hadmits, login_of_admits hadmits, hrefused, hwrong,
    hchanged⟩

end Register

end Econet.Account
