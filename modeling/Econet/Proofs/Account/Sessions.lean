import Mathlib.Data.List.Induction
import Econet.Proofs.Account.Requests
import Econet.Proofs.Splits

/-!
# Sessions over whole runs

A session is what the last successful login at its station has left, as long as nobody has logged
out there and housekeeping has come in time. When it was opened and when the station was last active
can be read off the requests of the run, at whatever times they were made.

## Main definitions

* `Register.visit m x`: the session at a station, up to the privilege of its user
* `Register.Opens m x s r`: the request `r` is a login at `x`, and opens the session `s`
* `Register.lastActive x t rs`: when the station was last active, if it was so at `t` before
* `Register.Outlasts m x t rs`: a session that was opened at the time `t` lasts through `rs`
* `Register.Holds m rs x s`: the session was opened in the run `rs`, and has lasted
* `Register.Request.station?`: the station that a request is about

## Main results

* `Register.visit_after_of_opens`, `Register.visit_after_of_not_opens`: what one request does to the
  session of a station
* `Register.outlasts_concat_iff`: what a session has to outlast with one more request
* `Register.visit_afterAll_iff`: the session of a station at the end of a run
* `Register.mem_expired_iff_ended`: what housekeeping answers
* `Register.session_after_of_ne`: a request about one station leaves the sessions of others alone
* `Register.times_of_run`: when the sessions of a run were opened and last active
-/

namespace Econet.Account

open Text (upper)

/-- The session of the same user without privilege. -/
def Session.unprivileged (s : Session) : Session :=
  { s with user := { s.user with privileged := false } }

namespace Register

variable {m n : Register} {r : Request} {rs : List Request} {x y : Address} {s s₀ : Session}
  {t t₀ t₁ now : Time}

/-! ### One request -/

/-- The session at a station, whether or not its user is privileged. -/
def visit (m : Register) (x : Address) : Option Session := (m.session x).map Session.unprivileged

/-- The request is a login at the station, and opens a session there. -/
def Opens (m : Register) (x : Address) (s : Session) (r : Request) : Prop :=
  ∃ name password now n, r = .login x name password now ∧
    m.login x name password now = .ok n ∧ n.session x = some s

/-- What becomes of a session by a request that opens none at its station. -/
def Request.onVisit (x : Address) (maxIdle : Nat) (r : Request) (s : Option Session) :
    Option Session :=
  match r with
  | .logout a => if a = x then none else s
  | .touch a now => if a = x then s.map (·.touch now) else s
  | .evict now => s.filter fun s => !s.isExpired maxIdle now
  | .login _ _ _ _ | .order _ _ _ | .changePassword _ _ _ _ => s

/-- A login that is let in opens a session, which starts anew. -/
theorem session_of_login {name password : String}
    (h : m.login x name password now = .ok n) :
    ∃ u provider, firstAccepted (upper name) password m.backends = some (u, provider) ∧
      n.session x = some (.start u provider now) := by
  obtain ⟨u, provider, hu, rfl⟩ := login_eq_ok_iff.mp h
  exact ⟨u, provider, hu, Table.get?_insert_self _ _ _⟩

theorem visit_after_of_opens (h : m.Opens x s r) : (m.after r).visit x = some s.unprivileged := by
  obtain ⟨name, password, now, n, rfl, hn, hs⟩ := h
  simp only [after, hn, visit, hs, Option.map_some]

/-- A directive changes the privilege of users, and nothing else in sessions. -/
theorem visit_carryOut (m : Register) (fs : Files) (actor : Address) (d : Directive) (x : Address) :
    (m.carryOut fs actor d).state.visit x = m.visit x := by
  have hsession (op : Backend → Files → Change BackendError Backend) :
      (m.changeAs fs actor op).state.session x = m.session x := by
    rw [session, sessions_changeAs]
    rfl
  cases d with
  | create name password privileged => exact congrArg (Option.map _) (hsession _)
  | remove name => exact congrArg (Option.map _) (hsession _)
  | setPrivileged name privileged =>
    simp only [carryOut, setPrivileged]
    split
    · simp only [visit, session, Change.map, Table.get?_mapValues, sessions_changeAs,
        Option.map_map]
      congr 1
      funext s
      simp only [Function.comp_apply, withPrivilege]
      split <;> rfl
    · exact congrArg (Option.map _) (hsession _)

theorem visit_after_of_not_opens (h : ∀ s, ¬ m.Opens x s r) :
    (m.after r).visit x = r.onVisit x m.maxIdle (m.visit x) := by
  cases r with
  | login a name password now =>
    simp only [after, Request.onVisit]
    cases hn : m.login a name password now with
    | error e => rfl
    | ok n =>
      -- It opens a session, so it does so at another station.
      have hax : a ≠ x := by
        rintro rfl
        obtain ⟨u, provider, -, hs⟩ := session_of_login hn
        exact h _ ⟨name, password, now, n, rfl, hn, hs⟩
      exact congrArg (Option.map _) (session_login hn x hax)
  | logout a =>
    simp only [after, logout, Request.onVisit]
    by_cases hax : a = x
    · subst hax
      cases hs : m.session a with
      | none => simp [visit, hs]
      | some s => simp [visit, session]
    · cases hs : m.session a with
      | none => simp [hax]
      | some s => simp [visit, session, Table.get?_erase_of_ne _ hax, hax]
  | touch a now =>
    simp only [after, visit, session_touch, Request.onVisit]
    split
    · simp only [Option.map_map]
      rfl
    · rfl
  | evict now =>
    simp only [after, visit, session_evict, Request.onVisit, Option.filter_map]
    rfl
  | order fs actor d => exact visit_carryOut m fs actor d x
  | changePassword fs a old new =>
    simp only [after, visit, session, sessions_changePassword, Request.onVisit]

@[simp] theorem maxIdle_changeAs (m : Register) (fs : Files) (actor : Address)
    (op : Backend → Files → Change BackendError Backend) :
    (m.changeAs fs actor op).state.maxIdle = m.maxIdle := by
  unfold changeAs
  split <;> rfl

@[simp] theorem maxIdle_after (m : Register) (r : Request) : (m.after r).maxIdle = m.maxIdle := by
  cases r with
  | login a name password now =>
    simp only [after]
    split
    · next n hn =>
      obtain ⟨u, provider, -, rfl⟩ := login_eq_ok_iff.mp hn
      rfl
    · rfl
  | logout a =>
    simp only [after, logout]
    cases m.session a <;> rfl
  | touch a now => rfl
  | evict now => rfl
  | order fs actor d =>
    cases d with
    | create name password privileged => exact maxIdle_changeAs _ _ _ _
    | remove name => exact maxIdle_changeAs _ _ _ _
    | setPrivileged name privileged =>
      simp only [after, carryOut, setPrivileged]
      split
      · exact maxIdle_changeAs _ _ _ _
      · exact maxIdle_changeAs _ _ _ _
  | changePassword fs a old new =>
    simp only [after, changePassword]
    split <;> rfl

@[simp] theorem maxIdle_afterAll (m : Register) (rs : List Request) :
    (m.afterAll rs).maxIdle = m.maxIdle := by
  induction rs using List.reverseRecOn with
  | nil => rfl
  | append_singleton rs r ih => rw [afterAll_concat, maxIdle_after, ih]

/-! ### Sessions that outlast requests -/

/-- When a request tells of activity at the station. -/
def Request.activity? (x : Address) : Request → Option Time
  | .touch a now => if a = x then some now else none
  | _ => none

/-- When the station was last active, if it was so at a time before the requests. -/
def lastActive (x : Address) (t : Time) (rs : List Request) : Time :=
  (rs.filterMap (·.activity? x)).getLastD t

theorem lastActive_concat (x : Address) (t : Time) (rs : List Request) (r : Request) :
    lastActive x t (rs ++ [r]) = (r.activity? x).getD (lastActive x t rs) := by
  rw [lastActive, List.filterMap_append]
  cases hr : r.activity? x with
  | none => simp [hr, lastActive]
  | some now => simp [hr]

/-- A session that was opened at the station at the time `t` lasts through requests. -/
structure Outlasts (m : Register) (x : Address) (t : Time) (rs : List Request) : Prop where
  /-- No other session is opened there. -/
  not_opens : ∀ n r, (n, r) ∈ m.history rs → ∀ s, ¬ n.Opens x s r
  /-- Nobody logs out there. -/
  not_logout : .logout x ∉ rs
  /-- Housekeeping comes while the station has not been idle for too long. -/
  in_time : ∀ before now after, rs = before ++ .evict now :: after →
    (now - lastActive x t before).toNat ≤ m.maxIdle

theorem outlasts_nil (m : Register) (x : Address) (t : Time) : m.Outlasts x t [] where
  not_opens := by
    intro n r h
    cases h
  not_logout := List.not_mem_nil
  in_time := by
    intro before now after h
    simp at h

/-- **What a session has to outlast with one more request.** -/
theorem outlasts_concat_iff :
    m.Outlasts x t (rs ++ [r]) ↔
      m.Outlasts x t rs ∧ (∀ s, ¬ (m.afterAll rs).Opens x s r) ∧ r ≠ .logout x ∧
        ∀ now, r = .evict now → (now - lastActive x t rs).toNat ≤ m.maxIdle := by
  constructor
  · rintro ⟨hopens, hlogout, htime⟩
    rw [List.mem_append, not_or, List.mem_singleton] at hlogout
    simp only [history_concat, List.mem_append, List.mem_singleton] at hopens
    refine ⟨⟨fun n s hs => hopens n s (.inl hs), hlogout.1, ?_⟩, hopens _ r (.inr rfl),
      Ne.symm hlogout.2, ?_⟩
    · rintro before now after rfl
      exact htime before now (after ++ [r]) (by simp)
    · rintro now rfl
      exact htime rs now [] rfl
  -- A point of the longer run is one of the shorter run, or the end of it.
  · rintro ⟨⟨hopens, hlogout, htime⟩, hr, hrlogout, hrtime⟩
    refine ⟨?_, ?_, ?_⟩
    · intro n s hs
      rw [history_concat, List.mem_append, List.mem_singleton] at hs
      rcases hs with hs | hs
      · exact hopens n s hs
      · cases hs
        exact hr
    · rw [List.mem_append, not_or, List.mem_singleton]
      exact ⟨hlogout, Ne.symm hrlogout⟩
    · intro before now after he
      rcases append_cons_eq_concat_iff.mp he.symm with ⟨rfl, hs, -⟩ | ⟨after, -, rfl⟩
      · exact hrtime now hs.symm
      · exact htime before now after rfl

/-! ### The session of a station -/

/-- The session at a station, up to the privilege of its user, is what a login has left that has
lasted to the end of the run. -/
def Holds (m : Register) (rs : List Request) (x : Address) (s : Session) : Prop :=
  ∃ before r after s₀, rs = before ++ r :: after ∧ (m.afterAll before).Opens x s₀ r ∧
    ((m.afterAll before).after r).Outlasts x s₀.loginTime after ∧
      s = s₀.unprivileged.touch (lastActive x s₀.loginTime after)

theorem Opens.unique (h : m.Opens x s r) (h₀ : m.Opens x s₀ r) : s = s₀ := by
  obtain ⟨name, password, now, n, rfl, hn, hs⟩ := h
  obtain ⟨name', password', now', n', hr, hn', hs₀⟩ := h₀
  cases hr
  cases hn.symm.trans hn'
  exact Option.some.inj (hs.symm.trans hs₀)

theorem Opens.idleTime_eq (h : m.Opens x s r) : s.idleTime = s.loginTime := by
  obtain ⟨name, password, now, n, rfl, hn, hs⟩ := h
  obtain ⟨u, provider, -, hstart⟩ := session_of_login hn
  cases hs.symm.trans hstart
  rfl

/-- When a session goes on, and what is then known of it. -/
theorem onVisit_eq_some_iff {maxIdle : Nat} {v : Session} :
    r.onVisit x maxIdle (some v) = some s ↔
      r ≠ .logout x ∧ (∀ now, r = .evict now → (now - v.idleTime).toNat ≤ maxIdle) ∧
        v.touch ((r.activity? x).getD v.idleTime) = s := by
  -- Without activity the session is as it was.
  have hv : v.touch v.idleTime = v := rfl
  cases r with
  | logout a =>
    by_cases ha : a = x
    · simp [Request.onVisit, ha]
    · simp [Request.onVisit, Request.activity?, ha, hv]
  | touch a now =>
    by_cases ha : a = x
    · simp [Request.onVisit, Request.activity?, ha]
    · simp [Request.onVisit, Request.activity?, ha, hv]
  | evict now =>
    simp [Request.onVisit, Request.activity?, Session.isExpired, Option.filter_some, hv]
  | login a name password now => simp [Request.onVisit, Request.activity?, hv]
  | order fs actor d => simp [Request.onVisit, Request.activity?, hv]
  | changePassword fs a old new => simp [Request.onVisit, Request.activity?, hv]

theorem holds_concat_of_opens (h : (m.afterAll rs).Opens x s₀ r) :
    m.Holds (rs ++ [r]) x s ↔ s = s₀.unprivileged := by
  have htouch : s₀.unprivileged.touch s₀.loginTime = s₀.unprivileged := by
    rw [← h.idleTime_eq]
    rfl
  constructor
  · rintro ⟨before, r', after, s', he, hopens, hlasts, rfl⟩
    rcases append_cons_eq_concat_iff.mp he.symm with ⟨rfl, rfl, rfl⟩ | ⟨after, rfl, rfl⟩
    · cases hopens.unique h
      exact htouch
    · -- No session outlasts a login.
      rw [afterAll_append_cons] at h
      exact absurd h ((outlasts_concat_iff.mp hlasts).2.1 s₀)
  · rintro rfl
    exact ⟨rs, r, [], s₀, rfl, h, outlasts_nil _ _ _, htouch.symm⟩

theorem holds_concat_of_not_opens (h : ∀ s₀, ¬ (m.afterAll rs).Opens x s₀ r) :
    m.Holds (rs ++ [r]) x s ↔
      ∃ v, m.Holds rs x v ∧ r.onVisit x m.maxIdle (some v) = some s := by
  constructor
  · rintro ⟨before, r', after, s₀, he, hopens, hlasts, rfl⟩
    rcases append_cons_eq_concat_iff.mp he.symm with ⟨rfl, rfl, rfl⟩ | ⟨after, rfl, rfl⟩
    · exact absurd hopens (h s₀)
    · obtain ⟨hlasts, -, hlogout, htime⟩ := outlasts_concat_iff.mp hlasts
      simp only [maxIdle_after, maxIdle_afterAll] at htime
      refine ⟨_, ⟨before, r', after, s₀, rfl, hopens, hlasts, rfl⟩, ?_⟩
      rw [onVisit_eq_some_iff, lastActive_concat]
      exact ⟨hlogout, htime, rfl⟩
  · rintro ⟨v, ⟨before, r', after, s₀, rfl, hopens, hlasts, rfl⟩, hr⟩
    obtain ⟨hlogout, htime, rfl⟩ := onVisit_eq_some_iff.mp hr
    rw [afterAll_append_cons] at h
    refine ⟨before, r', after ++ [r], s₀, by simp, hopens, ?_, ?_⟩
    · rw [outlasts_concat_iff, maxIdle_after, maxIdle_afterAll]
      exact ⟨hlasts, h, hlogout, htime⟩
    · rw [lastActive_concat]
      rfl

/-- **The session of a station at the end of a run** is the one that was opened there last, if it
has lasted. -/
theorem visit_afterAll_iff (hm : m.session x = none) :
    (m.afterAll rs).visit x = some s ↔ m.Holds rs x s := by
  -- Over the requests, the last one first: it opens a session, or the one before it may go on.
  induction rs using List.reverseRecOn generalizing s with
  | nil =>
    have hnil : ¬ m.Holds [] x s := by
      rintro ⟨before, r, after, s₀, he, -⟩
      simp at he
    simp [hnil, afterAll, visit, hm]
  | append_singleton rs r ih =>
    rw [afterAll_concat]
    by_cases h : ∃ s₀, (m.afterAll rs).Opens x s₀ r
    · obtain ⟨s₀, h⟩ := h
      rw [holds_concat_of_opens h, visit_after_of_opens h, Option.some.injEq, eq_comm]
    · have h' := not_exists.mp h
      rw [holds_concat_of_not_opens h', visit_after_of_not_opens h', maxIdle_afterAll]
      simp only [← ih]
      cases (m.afterAll rs).visit x with
      | none => cases r <;> simp [Request.onVisit]
      | some v => simp

/-! ### Housekeeping, and the sessions of other stations -/

theorem nodup_expired (m : Register) (now : Time) : (m.expired now).Nodup :=
  m.sessions.nodup_keys.sublist (List.filter_sublist.map _)

/-- **What housekeeping answers** are the stations whose sessions it ends. -/
theorem mem_expired_iff_ended :
    x ∈ m.expired now ↔ m.isLoggedIn x = true ∧ (m.evict now).isLoggedIn x = false := by
  rw [mem_expired_iff]
  simp only [isLoggedIn, session_evict]
  cases m.session x with
  | none => simp
  | some s => simp [Option.filter_some]

theorem session_evict_of_notMem (h : x ∉ m.expired now) :
    (m.evict now).session x = m.session x := by
  rw [mem_expired_iff] at h
  rw [session_evict]
  cases hs : m.session x with
  | none => rfl
  | some s =>
    have hexpired : ¬ s.isExpired m.maxIdle now := fun he => h ⟨s, hs, he⟩
    simp [Option.filter_some, hexpired]

/-- The station that a request is about. Housekeeping and directives are about all of them. -/
def Request.station? : Request → Option Address
  | .login a _ _ _ | .logout a | .touch a _ | .changePassword _ a _ _ => some a
  | .evict _ | .order _ _ _ => none

theorem session_after_of_ne (h : r.station? = some y) (hyx : y ≠ x) :
    (m.after r).session x = m.session x := by
  cases r with
  | login a name password now =>
    cases h
    simp only [after]
    split
    · next n hn => exact session_login hn x hyx
    · rfl
  | logout a =>
    cases h
    simp only [after, logout]
    cases m.session y with
    | none => rfl
    | some s => exact Table.get?_erase_of_ne _ hyx
  | touch a now =>
    cases h
    simp only [after, session_touch, hyx, if_false]
  | changePassword fs a old new => simp only [after, session, sessions_changePassword]
  | evict now => cases h
  | order fs actor d => cases h

/-- When a session was opened, and when its station was last active. -/
def times (m : Register) (x : Address) : Option (Time × Time) :=
  (m.session x).map fun s => (s.loginTime, s.idleTime)

theorem times_eq_map_visit (m : Register) (x : Address) :
    m.times x = (m.visit x).map fun s => (s.loginTime, s.idleTime) := by
  simp only [visit, times, Option.map_map]
  rfl

/-- The times of a session at the end of a run are those of the login that has opened it, and of the
last activity since. -/
theorem times_afterAll_iff (hm : m.session x = none) :
    (m.afterAll rs).times x = some (t₀, t₁) ↔
      ∃ before name password after n, rs = before ++ .login x name password t₀ :: after ∧
        (m.afterAll before).login x name password t₀ = .ok n ∧ n.Outlasts x t₀ after ∧
          t₁ = lastActive x t₀ after := by
  have hafter {k n : Register} {name password : String} (h : k.login x name password t₀ = .ok n) :
      k.after (.login x name password t₀) = n := by
    simp only [after, h]
  rw [times_eq_map_visit, Option.map_eq_some_iff]
  simp only [visit_afterAll_iff hm]
  constructor
  · rintro ⟨_, ⟨before, r, after, s₀, rfl, hopens, hlasts, rfl⟩, htimes⟩
    cases htimes
    obtain ⟨name, password, now, n, rfl, hn, hs⟩ := hopens
    obtain ⟨u, provider, -, hstart⟩ := session_of_login hn
    cases hs.symm.trans hstart
    exact ⟨before, name, password, after, n, rfl, hn, hafter hn ▸ hlasts, rfl⟩
  · rintro ⟨before, name, password, after, n, rfl, hn, hlasts, rfl⟩
    obtain ⟨u, provider, -, hs⟩ := session_of_login hn
    refine ⟨_, ⟨before, _, after, _, rfl, ⟨name, password, t₀, n, rfl, hn, hs⟩, ?_, rfl⟩, rfl⟩
    exact (hafter hn).symm ▸ hlasts

/-- **When the sessions of a run were opened and last active**, whatever the times of its requests.
A station has a session at the end of the run exactly if a login has succeeded there and the
session has lasted since. At every request of the run, housekeeping answers the stations whose
sessions it ends, each of them once, and leaves the other sessions as they are; a login that fails
changes nothing; and a request about one station leaves the sessions of the others alone. -/
theorem times_of_run (backends : List Backend) (maxIdle : Nat) (libraryPath : String)
    (rs : List Request) :
    let m := ofBackends backends maxIdle libraryPath
    (∀ x t₀ t₁, (m.afterAll rs).times x = some (t₀, t₁) ↔
      ∃ before name password after n, rs = before ++ .login x name password t₀ :: after ∧
        (m.afterAll before).login x name password t₀ = .ok n ∧ n.Outlasts x t₀ after ∧
          t₁ = lastActive x t₀ after) ∧
    ∀ n r, (n, r) ∈ m.history rs →
      (∀ now, r = .evict now → (n.expired now).Nodup ∧ ∀ x,
        (x ∈ n.expired now ↔
          n.isLoggedIn x = true ∧ (n.after r).isLoggedIn x = false) ∧
        (x ∉ n.expired now → (n.after r).session x = n.session x)) ∧
      (∀ x name password now e, r = .login x name password now →
        n.login x name password now = .error e → n.after r = n) ∧
      ∀ y, r.station? = some y → ∀ x, y ≠ x → (n.after r).session x = n.session x := by
  intro m
  refine ⟨fun x t₀ t₁ => times_afterAll_iff rfl, ?_⟩
  intro n r _
  refine ⟨?_, ?_, fun y hy x => session_after_of_ne hy⟩
  · rintro now rfl
    exact ⟨nodup_expired n now, fun x => ⟨mem_expired_iff_ended, session_evict_of_notMem⟩⟩
  · rintro x name password now e rfl he
    simp only [after, he]

/-- Clocks that run backwards end no session, and neither does as much idleness as is allowed. -/
example :
    let guest : Record := ⟨"GUEST", "", 1000, "/home/GUEST", 0, false⟩
    let m := ofBackends [.userFile ((UserFile.inMemory "/home").insertAll [guest])] 10 ""
    let n := m.afterAll [.login ⟨1, 2⟩ "guest" "" 5, .touch ⟨1, 2⟩ 3, .evict (-4), .evict 13]
    n.times ⟨1, 2⟩ = some (5, 3) ∧ n.expired 14 = [⟨1, 2⟩] := by
  decide

end Register

end Econet.Account
