import Econet.Proofs.Account.Requests

/-!
# Who a login lets in

A chain of backends is asked from its front. A backend accepts a name and a password, refuses them,
or fails; the first that accepts them decides, and one that does not is as good as not there. The
session of a login is made of what that backend says and of the present time. Nothing that the
station had before goes into it, and a login that nobody accepts leaves the register as it was.

## Main definitions

* `Backend.accepts name password`: the backend lets somebody in

## Main results

* `firstAccepted_eq_none_iff`: a chain lets nobody in if no backend of it does
* `firstAccepted_of_accepts`: the first backend that accepts decides, whatever stands behind it
* `firstAccepted_filter`: only the backends that accept matter
* `Register.login_by_first_accepting`: when a login succeeds, and what it leaves
-/

namespace Econet.Account

open Text (upper)

/-- The backend lets in whoever gives this name and this password. -/
def Backend.accepts (b : Backend) (name password : String) : Bool :=
  match b.login name password with
  | .ok (some _) => true
  | .ok none => false
  | .error _ => false

variable {name password : String} {b : Backend} {bs before after : List Backend} {u : User}

/-! ### One backend -/

theorem Backend.accepts_iff :
    b.accepts name password ↔ ∃ u, b.login name password = .ok (some u) := by
  unfold accepts
  split
  · next u hu => exact iff_of_true rfl ⟨u, hu⟩
  · next h => simp [h]
  · next h => simp [h]

/-- A backend that does not accept refuses or fails. -/
theorem Backend.not_accepts_iff : ¬ b.accepts name password ↔
    b.login name password = .ok none ∨ ∃ e, b.login name password = .error e := by
  unfold accepts
  split
  · next u hu => simp [hu]
  · next h => simp [h]
  · next e h => simp [h]

/-- The user of an account has chosen no directory and no library yet. -/
theorem UserFile.chosen_of_login {f : UserFile} (h : f.login name password = some u) :
    u.chosenDir = none ∧ u.chosenLibrary = none := by
  obtain ⟨r, -, rfl⟩ := Option.map_eq_some_iff.mp h
  exact ⟨rfl, rfl⟩

/-! ### Chains -/

theorem firstAccepted_cons_of_accepts (h : b.login name password = .ok (some u))
    (bs : List Backend) : firstAccepted name password (b :: bs) = some (u, b.name) := by
  rw [firstAccepted, h]

theorem firstAccepted_cons_of_not_accepts (h : ¬ b.accepts name password) (bs : List Backend) :
    firstAccepted name password (b :: bs) = firstAccepted name password bs := by
  rcases Backend.not_accepts_iff.mp h with h | ⟨e, h⟩ <;> rw [firstAccepted, h]

/-- A chain lets nobody in exactly if each of its backends refuses or fails. -/
theorem firstAccepted_eq_none_iff :
    firstAccepted name password bs = none ↔ ∀ b ∈ bs, ¬ b.accepts name password := by
  induction bs with
  | nil => simp [firstAccepted]
  | cons b bs ih =>
    rw [List.forall_mem_cons]
    by_cases hb : b.accepts name password
    · obtain ⟨u, hu⟩ := Backend.accepts_iff.mp hb
      simp [firstAccepted_cons_of_accepts hu, hb]
    · simp [firstAccepted_cons_of_not_accepts hb, ih, hb]

/-- **The first backend that accepts decides**, whatever stands behind it. -/
theorem firstAccepted_of_accepts (hbefore : ∀ c ∈ before, ¬ c.accepts name password)
    (hb : b.login name password = .ok (some u)) (after : List Backend) :
    firstAccepted name password (before ++ b :: after) = some (u, b.name) := by
  rw [firstAccepted_append, firstAccepted_eq_none_iff.mpr hbefore,
    firstAccepted_cons_of_accepts hb]
  rfl

/-- **Only the backends that accept matter.** -/
theorem firstAccepted_filter (name password : String) (bs : List Backend) :
    firstAccepted name password (bs.filter (·.accepts name password)) =
      firstAccepted name password bs := by
  induction bs with
  | nil => rfl
  | cons b bs ih =>
    by_cases hb : b.accepts name password
    · obtain ⟨u, hu⟩ := Backend.accepts_iff.mp hb
      rw [List.filter_cons, if_pos hb, firstAccepted_cons_of_accepts hu,
        firstAccepted_cons_of_accepts hu]
    · rw [List.filter_cons, if_neg hb, ih, firstAccepted_cons_of_not_accepts hb]

/-! ### The register -/

namespace Register

variable {m n : Register} {a : Address} {now : Time}

theorem login_of_firstAccepted {provider : String}
    (h : firstAccepted (upper name) password m.backends = some (u, provider))
    (a : Address) (now : Time) :
    m.login a name password now =
      .ok { m with sessions := m.sessions.insert a (.start u provider now) } :=
  login_eq_ok_iff.mpr ⟨u, provider, h, rfl⟩

theorem login_of_firstAccepted_eq_none
    (h : firstAccepted (upper name) password m.backends = none) (a : Address) (now : Time) :
    m.login a name password now = .error (.authenticationFailed (upper name)) := by
  rw [login, h]

/-- A login succeeds exactly if some backend accepts. -/
theorem exists_login_eq_ok_iff : (∃ n, m.login a name password now = .ok n) ↔
    ∃ b ∈ m.backends, b.accepts (upper name) password := by
  cases h : firstAccepted (upper name) password m.backends with
  | none =>
    have hnone := firstAccepted_eq_none_iff.mp h
    rw [login_of_firstAccepted_eq_none h]
    constructor
    · rintro ⟨n, hn⟩
      cases hn
    · rintro ⟨b, hb, haccepts⟩
      exact absurd haccepts (hnone b hb)
  | some v =>
    refine iff_of_true ⟨_, login_of_firstAccepted h a now⟩ ?_
    by_contra hnone
    have hall : ∀ b ∈ m.backends, ¬ b.accepts (upper name) password :=
      fun b hb haccepts => hnone ⟨b, hb, haccepts⟩
    cases h.symm.trans (firstAccepted_eq_none_iff.mpr hall)

/-- Chains with the same backends that accept lead to the same outcome. -/
theorem login_of_filter_eq {cs : List Backend}
    (h : cs.filter (·.accepts (upper name) password) =
      m.backends.filter (·.accepts (upper name) password)) (a : Address) (now : Time) :
    { m with backends := cs }.login a name password now =
      (m.login a name password now).map fun n => { n with backends := cs } := by
  have hcs : firstAccepted (upper name) password cs =
      firstAccepted (upper name) password m.backends := by
    rw [← firstAccepted_filter, h, firstAccepted_filter]
  cases hm : firstAccepted (upper name) password m.backends with
  | none =>
    rw [login_of_firstAccepted_eq_none hm,
      login_of_firstAccepted_eq_none (m := { m with backends := cs }) (hcs.trans hm)]
    rfl
  | some v =>
    rw [login_of_firstAccepted hm,
      login_of_firstAccepted (m := { m with backends := cs }) (hcs.trans hm)]
    rfl

/-- **When a login succeeds, and what it leaves.** It succeeds exactly if some backend accepts the
name in capitals. The station then has a new session, of the user whom the first such backend lets
in, whatever stands behind that backend and whatever session the station had. If no backend accepts,
the register is as it was. Backends that refuse or fail can be put into the chain or taken out of it
without any effect on this, and no backend changes. -/
theorem login_by_first_accepting (m : Register) (a : Address) (name password : String)
    (now : Time) :
    ((∃ n, m.login a name password now = .ok n) ↔
      ∃ b ∈ m.backends, b.accepts (upper name) password) ∧
    (∀ before b after u, m.backends = before ++ b :: after →
      (∀ c ∈ before, ¬ c.accepts (upper name) password) →
      b.login (upper name) password = .ok (some u) →
      ∃ n, m.login a name password now = .ok n ∧
        (∀ d, n.session d = if a = d then some ⟨u, b.name, now, now⟩ else m.session d) ∧
        n = { m with sessions := n.sessions } ∧
        (∀ f, b = .userFile f → u.chosenDir = none ∧ u.chosenLibrary = none)) ∧
    ((∀ b ∈ m.backends, ¬ b.accepts (upper name) password) →
      m.login a name password now = .error (.authenticationFailed (upper name)) ∧
      m.after (.login a name password now) = m) ∧
    (∀ cs : List Backend, cs.filter (·.accepts (upper name) password) =
        m.backends.filter (·.accepts (upper name) password) →
      { m with backends := cs }.login a name password now =
        (m.login a name password now).map fun n => { n with backends := cs }) ∧
    (m.after (.login a name password now)).backends = m.backends := by
  refine ⟨exists_login_eq_ok_iff, ?accepted, ?rejected, fun cs h => login_of_filter_eq h a now, ?_⟩
  case accepted =>
    intro before b after u hchain hbefore hb
    have hfirst : firstAccepted (upper name) password m.backends = some (u, b.name) := by
      rw [hchain]
      exact firstAccepted_of_accepts hbefore hb after
    refine ⟨_, login_of_firstAccepted hfirst a now, fun d => Table.get?_insert _ _ _ _, rfl, ?_⟩
    rintro f rfl
    exact UserFile.chosen_of_login (Except.ok.inj hb)
  case rejected =>
    intro hnone
    have hfailed : m.login a name password now = .error (.authenticationFailed (upper name)) :=
      login_of_firstAccepted_eq_none (firstAccepted_eq_none_iff.mpr hnone) a now
    exact ⟨hfailed, by rw [Register.after, hfailed]⟩
  -- Of all requests only changes of users and of passwords reach the backends.
  · rcases m.backends_after (.login a name password now) with h | ⟨_, _, _, h⟩ | ⟨_, _, _, _, h⟩
    · exact h
    · cases h
    · cases h

/-- Somebody else was at the station and had chosen a directory. A guest is let in between backends
that fail and refuse, and starts anew; with a wrong password, nobody lets the guest in. -/
theorem login_by_first_accepting_guest :
    let guest : Record := ⟨"GUEST", "", 1000, "/home/GUEST", 0, false⟩
    let file := Backend.userFile ((UserFile.inMemory "/home").insertAll [guest])
    let others : List Backend := [.readOnly "directory" fun _ _ => .error (.other "unreachable"),
      .readOnly "gate" fun _ _ => .ok none]
    let earlier : Session :=
      ⟨{ User.named "syst" 1001 "/home/SYST" with chosenDir := some "/Games" }, "gate", 0, 5⟩
    let m := { ofBackends (others ++ file :: others) 3600 "" with
      sessions := Table.empty.insert ⟨1, 2⟩ earlier }
    (∃ n, m.login ⟨1, 2⟩ "guest" "" 9 = .ok n ∧
      n.session ⟨1, 2⟩ = some ⟨guest.user, "userfile", 9, 9⟩) ∧
    m.login ⟨1, 2⟩ "guest" "sesame" 9 = .error (.authenticationFailed "GUEST") ∧
    (m.after (.login ⟨1, 2⟩ "guest" "sesame" 9)).session ⟨1, 2⟩ = some earlier := by
  intro guest file others earlier m
  obtain ⟨-, haccepted, -⟩ := login_by_first_accepting m ⟨1, 2⟩ "guest" "" 9
  obtain ⟨-, -, hrejected, -⟩ := login_by_first_accepting m ⟨1, 2⟩ "guest" "sesame" 9
  obtain ⟨n, hn, hsession, -⟩ := haccepted others file others guest.user rfl (by decide) (by decide)
  obtain ⟨herror, hafter⟩ := hrejected (by decide)
  refine ⟨⟨n, hn, hsession ⟨1, 2⟩⟩, herror, ?_⟩
  rw [hafter]
  rfl

end Register

end Econet.Account
