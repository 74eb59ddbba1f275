import Econet.Proofs.Account.Requests
import Econet.Proofs.Bridge.Activity
import Econet.Proofs.Bridge.ClientSource

/-!
# Sessions of clients that have left

A session outlives the client that opened it, and lasts until its station has been idle for too
long. When the client leaves, nobody holds its address any more; but whoever is given the address
next is the same station, and keeps the session from ending.

## Main definitions

* `Action`: an event, or a user logs in
* `Bridge.actAll`, `Bridge.steps`: the bridge after several actions, and each of them with the
  bridge that it meets
* `Step.LogsIn y a`, `Step.Refreshes y a`: a session starts at `a`, or notices activity
* `Step.Renews y a`: one of the two
* `Bridge.Lasts b a t`: there is a session at `a`, and at the time `t` it is not idle for too long

## Main results

* `Step.session_after`: the session of a station after a step
* `Bridge.lasts_actAll_iff`: what lasts to the end of a run has been renewed in time
* `Bridge.addressOf_actAll`: a client keeps its address until it leaves
* `Bridge.session_after_departure`: what becomes of the session of a client that has left
-/

namespace Econet

open Account (Session Register Time firstAccepted)
open Client (ConnectionId Pool)
open Text (upper)

/-- What happens to a bridge where users log in. -/
inductive Action where
  | event (e : Event)
  | login (station : Address) (name password : String)

namespace Bridge

/-- The bridge after an action. A login that fails changes nothing. -/
def act (b : Bridge) (now : Time) : Action → Bridge
  | .event e => b.handle now e
  | .login a name password =>
    { b with register := b.register.after (.login a name password now) }

/-- When actions take place. -/
abbrev times (xs : List (Time × Action)) : List Time := xs.map (·.1)

/-- The bridge after several actions. -/
def actAll (b : Bridge) (xs : List (Time × Action)) : Bridge :=
  xs.foldl (fun b x => b.act x.1 x.2) b

end Bridge

/-- An action, and the bridge that it meets. -/
structure Step where
  before : Bridge
  time : Time
  action : Action

/-- The bridge after a step. -/
def Step.after (y : Step) : Bridge := y.before.act y.time y.action

/-- The steps of a run. -/
def Bridge.steps (b : Bridge) : List (Time × Action) → List Step
  | [] => []
  | x :: xs => ⟨b, x.1, x.2⟩ :: (b.act x.1 x.2).steps xs

variable {b : Bridge} {xs : List (Time × Action)} {y : Step} {now t : Time}
  {a : Address} {c : ConnectionId}

namespace Bridge

theorem actAll_append (b : Bridge) (xs zs : List (Time × Action)) :
    b.actAll (xs ++ zs) = (b.actAll xs).actAll zs :=
  List.foldl_append

theorem exists_append_of_mem_steps (h : y ∈ b.steps xs) :
    ∃ zs ws, xs = zs ++ (y.time, y.action) :: ws ∧ y.before = b.actAll zs := by
  induction xs generalizing b with
  | nil => cases h
  | cons x xs ih =>
    rcases List.mem_cons.mp h with rfl | h
    · exact ⟨[], xs, rfl, rfl⟩
    · obtain ⟨zs, ws, rfl, hy⟩ := ih h
      exact ⟨x :: zs, ws, rfl, hy⟩

theorem mem_of_mem_steps (h : y ∈ b.steps xs) : (y.time, y.action) ∈ xs := by
  obtain ⟨zs, ws, rfl, -⟩ := exists_append_of_mem_steps h
  exact List.mem_append_right zs List.mem_cons_self

theorem register_login (b : Bridge) (now : Time) (d : Address) (name password : String) :
    (b.act now (.login d name password)).register =
      match firstAccepted (upper name) password b.register.backends with
      | some (u, provider) =>
        { b.register with sessions := b.register.sessions.insert d (.start u provider now) }
      | none => b.register := by
  simp only [act, Register.after, Register.login]
  cases firstAccepted (upper name) password b.register.backends <;> rfl

@[simp] theorem maxIdle_act (b : Bridge) (now : Time) (x : Action) :
    (b.act now x).register.maxIdle = b.register.maxIdle := by
  cases x with
  | event e => exact b.maxIdle_handle now e
  | login d name password =>
    rw [register_login]
    split <;> rfl

@[simp] theorem maxIdle_actAll (b : Bridge) (xs : List (Time × Action)) :
    (b.actAll xs).register.maxIdle = b.register.maxIdle := by
  induction xs generalizing b with
  | nil => rfl
  | cons x xs ih => exact (ih (b.act x.1 x.2)).trans (b.maxIdle_act x.1 x.2)

end Bridge

/-! ### Steps -/

namespace Step

/-- A user logs in at the station, and is let in. -/
def LogsIn (y : Step) (a : Address) : Prop :=
  ∃ name password, y.action = .login a name password ∧
    (firstAccepted (upper name) password y.before.register.backends).isSome

/-- The station is active while somebody is logged in there. -/
def Refreshes (y : Step) (a : Address) : Prop :=
  ∃ e, y.action = .event e ∧ y.before.activeAt? e = some a ∧ y.before.register.isLoggedIn a

/-- The idle time of the session at the station starts anew. -/
def Renews (y : Step) (a : Address) : Prop := y.LogsIn a ∨ y.Refreshes a

theorem renews_event_iff {e : Event} :
    Renews ⟨b, now, .event e⟩ a ↔ b.activeAt? e = some a ∧ b.register.isLoggedIn a := by
  constructor
  · rintro (⟨name, password, hx, -⟩ | ⟨e', hx, hactive⟩)
    · cases hx
    · cases hx
      exact hactive
  · exact fun hactive => .inr ⟨e, rfl, hactive⟩

theorem renews_login_iff {d : Address} {name password : String} :
    Renews ⟨b, now, .login d name password⟩ a ↔
      d = a ∧ (firstAccepted (upper name) password b.register.backends).isSome := by
  constructor
  · rintro (⟨name', password', hx, hin⟩ | ⟨e, hx, -⟩)
    · cases hx
      exact ⟨rfl, hin⟩
    · cases hx
  · rintro ⟨rfl, hin⟩
    exact .inl ⟨name, password, rfl, hin⟩

/-- **The session of a station after a step.** Its idle time starts anew, or it is as before, unless
housekeeping ends it. -/
theorem session_after (y : Step) (a : Address) :
    (y.Renews a ∧ ∃ s, y.after.register.session a = some s ∧ s.idleTime = y.time) ∨
    (¬ y.Renews a ∧ y.after.register.session a = y.before.register.session a) ∨
    (¬ y.Renews a ∧ y.action = .event .housekeeping ∧
      y.after.register.session a = (y.before.register.session a).filter fun s =>
        !s.isExpired y.before.register.maxIdle y.time) := by
  obtain ⟨b, now, x⟩ := y
  cases x with
  | event e =>
    rw [renews_event_iff]
    rcases b.session_handle now e a with ⟨hactive, h⟩ | ⟨hactive, h⟩ | ⟨rfl, h⟩
    · -- The station is active, which nobody notices without a session.
      cases hs : b.register.session a with
      | none =>
        rw [hs] at h
        exact .inr (.inl ⟨by simp [Register.isLoggedIn, hs], h⟩)
      | some s =>
        rw [hs] at h
        exact .inl ⟨⟨hactive, by simp [Register.isLoggedIn, hs]⟩, s.touch now, h, rfl⟩
    · exact .inr (.inl ⟨fun hn => hactive hn.1, h⟩)
    · exact .inr (.inr ⟨fun hn => (nomatch hn.1), rfl, h⟩)
  | login d name password =>
    rw [renews_login_iff, after, Bridge.register_login]
    -- A login that fails is nothing to any session, and one that succeeds only to its own station.
    cases hu : firstAccepted (upper name) password b.register.backends with
    | none => exact .inr (.inl ⟨by simp, rfl⟩)
    | some u =>
      simp only [Register.session, Table.get?_insert]
      by_cases hd : d = a
      · exact .inl ⟨⟨hd, rfl⟩, _, if_pos hd, rfl⟩
      · exact .inr (.inl ⟨fun h => hd h.1, if_neg hd⟩)

theorem Renews.idleTime_after (h : y.Renews a) :
    ∃ s, y.after.register.session a = some s ∧ s.idleTime = y.time := by
  rcases y.session_after a with ⟨-, hs⟩ | ⟨hn, -⟩ | ⟨hn, -⟩
  · exact hs
  · exact absurd h hn
  · exact absurd h hn

@[simp] theorem maxIdle_after (y : Step) : y.after.register.maxIdle = y.before.register.maxIdle :=
  y.before.maxIdle_act y.time y.action

end Step

/-! ### Sessions that last -/

theorem Account.Session.isExpired_eq_false_iff {s : Session} {maxIdle : Nat} :
    s.isExpired maxIdle t = false ↔ t ≤ s.idleTime + maxIdle := by
  rw [isExpired, decide_eq_false_iff_not, Nat.not_lt, Int.toNat_le]
  exact sub_le_iff_le_add'

/-- Somebody is logged in at the station, and at the time has not been idle for too long. -/
def Bridge.Lasts (b : Bridge) (a : Address) (t : Time) : Prop :=
  ∃ s, b.register.session a = some s ∧ t ≤ s.idleTime + b.register.maxIdle

/-- Housekeeping ends the sessions that do not last. -/
theorem Bridge.session_housekeeping_eq_none_iff :
    (b.handle t .housekeeping).register.session a = none ↔ ¬ b.Lasts a t := by
  rw [register_handle, Register.session_evict, Option.filter_eq_none_iff]
  simp only [Lasts, not_exists, not_and, ← Session.isExpired_eq_false_iff, Bool.not_eq_true']

namespace Step

theorem Renews.lasts_after_iff (h : y.Renews a) :
    y.after.Lasts a t ↔ t ≤ y.time + y.before.register.maxIdle := by
  obtain ⟨s, hs, hidle⟩ := h.idleTime_after
  simp only [Bridge.Lasts, hs, Option.some.injEq, exists_eq_left', hidle, maxIdle_after]

/-- What lasts survives a step that comes in time. -/
theorem lasts_after_of_before (h : y.before.Lasts a t) (hy : y.time ≤ t)
    (ht : t ≤ y.time + y.before.register.maxIdle) : y.after.Lasts a t := by
  obtain ⟨s, hs, hidle⟩ := h
  rcases y.session_after a with ⟨hrenews, -⟩ | ⟨-, hsame⟩ | ⟨-, -, hkept⟩
  · exact hrenews.lasts_after_iff.mpr ht
  · exact ⟨s, hsame.trans hs, by rwa [maxIdle_after]⟩
  · -- Housekeeping before `t` finds the session less idle than at `t`.
    refine ⟨s, ?_, by rwa [maxIdle_after]⟩
    have hexpired : s.isExpired y.before.register.maxIdle y.time = false :=
      Session.isExpired_eq_false_iff.mpr (hy.trans hidle)
    rw [hkept, hs, Option.filter_some, hexpired]
    rfl

/-- What lasts after a step has lasted before, or the step has renewed it. -/
theorem lasts_of_after (h : y.after.Lasts a t) :
    y.before.Lasts a t ∨ (y.Renews a ∧ t ≤ y.time + y.before.register.maxIdle) := by
  rcases y.session_after a with ⟨hrenews, -⟩ | ⟨-, hsame⟩ | ⟨-, -, hkept⟩
  · exact .inr ⟨hrenews, hrenews.lasts_after_iff.mp h⟩
  · obtain ⟨s, hs, hidle⟩ := h
    rw [maxIdle_after] at hidle
    exact .inl ⟨s, hsame.symm.trans hs, hidle⟩
  · obtain ⟨s, hs, hidle⟩ := h
    rw [maxIdle_after] at hidle
    exact .inl ⟨s, Option.eq_some_of_filter_eq_some (hkept.symm.trans hs), hidle⟩

end Step

namespace Bridge

/-- What lasts after a run has lasted before, or a step of the run has renewed it. -/
theorem lasts_of_actAll (h : (b.actAll xs).Lasts a t) :
    b.Lasts a t ∨ ∃ y ∈ b.steps xs, y.Renews a ∧ t ≤ y.time + b.register.maxIdle := by
  induction xs generalizing b with
  | nil => exact .inl h
  | cons x xs ih =>
    rcases ih h with hx | ⟨y, hy, hrenews, ht⟩
    · rcases Step.lasts_of_after (y := ⟨b, x.1, x.2⟩) hx with hb | hstep
      · exact .inl hb
      · exact .inr ⟨_, List.mem_cons_self, hstep⟩
    · rw [maxIdle_act] at ht
      exact .inr ⟨y, List.mem_cons_of_mem _ hy, hrenews, ht⟩

/-- A run that is over early enough saves nothing. -/
theorem not_lasts_actAll (h : ¬ b.Lasts a t) (hxs : ∀ s ∈ times xs, s + b.register.maxIdle < t) :
    ¬ (b.actAll xs).Lasts a t := by
  intro hlasts
  rcases lasts_of_actAll hlasts with hb | ⟨y, hy, -, ht⟩
  · exact h hb
  · exact absurd ht (not_le.mpr (hxs y.time (List.mem_map_of_mem (mem_of_mem_steps hy))))

/-- What a step has renewed is over when the idle time has passed since the end of the run. -/
theorem not_lasts_of_renews (h : y.Renews a)
    (hxs : ∀ s ∈ y.time :: times xs, s + y.before.register.maxIdle < t) :
    ¬ (y.after.actAll xs).Lasts a t := by
  obtain ⟨hy, hxs⟩ := List.forall_mem_cons.mp hxs
  refine not_lasts_actAll ?_ ?_
  · rw [h.lasts_after_iff]
    exact not_le.mpr hy
  · rw [Step.maxIdle_after]
    exact hxs

theorem Lasts.actAll (h : b.Lasts a t)
    (hxs : ∀ x ∈ xs, x.1 ≤ t ∧ t ≤ x.1 + b.register.maxIdle) : (b.actAll xs).Lasts a t := by
  induction xs generalizing b with
  | nil => exact h
  | cons x xs ih =>
    obtain ⟨hx, hxs⟩ := List.forall_mem_cons.mp hxs
    refine ih (Step.lasts_after_of_before (y := ⟨b, x.1, x.2⟩) h hx.1 hx.2) fun z hz => ?_
    rw [maxIdle_act]
    exact hxs z hz

/-- **What lasts to the end of a run.** A session that would be over by then has been renewed in
time. -/
theorem lasts_actAll_iff (htimes : (times xs ++ [t]).Pairwise (· ≤ ·)) (h : ¬ b.Lasts a t) :
    (b.actAll xs).Lasts a t ↔
      ∃ y ∈ b.steps xs, y.Renews a ∧ t ≤ y.time + b.register.maxIdle := by
  constructor
  · intro hlasts
    exact (lasts_of_actAll hlasts).resolve_left h
  · rintro ⟨y, hy, hrenews, ht⟩
    obtain ⟨zs, ws, rfl, hbefore⟩ := exists_append_of_mem_steps hy
    have hmax : y.before.register.maxIdle = b.register.maxIdle := by rw [hbefore, maxIdle_actAll]
    have hlasts : y.after.Lasts a t := hrenews.lasts_after_iff.mpr (hmax ▸ ht)
    -- Later steps come between this one and the end.
    have hws : (y.time :: (times ws ++ [t])).Pairwise (· ≤ ·) := by
      rw [times, List.map_append, List.append_assoc] at htimes
      exact (List.pairwise_append.mp htimes).2.1
    obtain ⟨hlater, hws⟩ := List.pairwise_cons.mp hws
    obtain ⟨-, -, hend⟩ := List.pairwise_append.mp hws
    rw [actAll_append, ← hbefore]
    refine Lasts.actAll (b := y.after) hlasts fun x hx => ?_
    have hx : x.1 ∈ times ws := List.mem_map_of_mem hx
    refine ⟨hend x.1 hx t (List.mem_singleton_self t), ?_⟩
    rw [Step.maxIdle_after, hmax]
    exact ht.trans (Int.add_le_add_right (hlater x.1 (List.mem_append_left _ hx)) _)

/-! ### Who holds an address -/

theorem addressOf_accept (b : Bridge) (now : Time) (origin : Transport) (h : Header) (p : Packet)
    (c : ConnectionId) : (b.accept now origin h p).pool.addressOf c = b.pool.addressOf c :=
  (dispatched_accept (P := fun _ => True) trivial b now origin h).sends.addressOf c

theorem addressOf_acknowledge {α : Type} {send : α → Router.Sending}
    (h : ∀ ack r, Router.Sends (fun _ => True) r (send ack r).2) (b : Bridge) (ack : Option α)
    (c : ConnectionId) : (b.acknowledge send ack).pool.addressOf c = b.pool.addressOf c :=
  (sends_acknowledge h b ack).addressOf c

theorem addressOf_receiveFrame (b : Bridge) (now : Time) (peer : Socket) (ip : Ipv4)
    (sender : Address) (f : Aun.Frame) (c : ConnectionId) :
    (b.receiveFrame now peer ip sender f).pool.addressOf c = b.pool.addressOf c := by
  rw [receiveFrame_eq]
  generalize f.header.ack (b.context.withSender sender) = ack
  have hacked : ((b.prime peer ip f.header.sequence).acknowledge
      (Router.sendDatagram peer) ack).pool.addressOf c = b.pool.addressOf c :=
    addressOf_acknowledge (fun _ r => Router.sends_sendDatagram trivial r) _ ack c
  split
  · exact (addressOf_accept _ _ _ _ _ c).trans hacked
  · exact hacked

theorem addressOf_receivePacket (b : Bridge) (now : Time) (d : ConnectionId) (f : Client.Frame)
    (c : ConnectionId) : (b.receivePacket now d f).pool.addressOf c = b.pool.addressOf c := by
  rw [receivePacket_eq]
  split
  · have hacked : (b.acknowledge (Router.sendText d) (f.ackText b.context)).pool.addressOf c =
        b.pool.addressOf c :=
      addressOf_acknowledge (fun _ r => Router.sends_sendText trivial r) b _ c
    exact (addressOf_accept _ _ _ _ _ c).trans hacked
  · rfl

/-- A request takes no address away. -/
theorem addressOf_receiveRequest (h : b.pool.addressOf c = some a) (d : ConnectionId)
    (request : String) : (b.receiveRequest d request).pool.addressOf c = some a := by
  have hanswer : (answerRequest b.pool d request).2.addressOf c = some a := by
    rcases answerRequest_snd b.pool d request with hp | hp
    · rw [hp, h]
    · rw [hp]
      rcases b.pool.allocate_cases d with hp | ⟨a', hd, -, hp⟩
      · rw [hp, h]
      · have hdc : d ≠ c := by
          rintro rfl
          cases h.symm.trans hd
        rw [hp, Pool.addressOf_take, if_neg hdc, h]
  have htext : Router.Sends (fun _ => True)
      (b.withPool (answerRequest b.pool d request).2)
      (b.receiveRequest d request).router := Router.sends_sendText trivial _
  exact (htext.addressOf c).trans hanswer

/-- **A client keeps its address until it leaves.** -/
theorem addressOf_handle {e : Event} (h : b.pool.addressOf c = some a) (he : e ≠ .clientLeft c)
    (now : Time) : (b.handle now e).pool.addressOf c = some a := by
  rw [← h]
  cases e with
  | datagram peer bytes =>
    simp only [handle, receiveDatagram]
    split
    · exact addressOf_receiveFrame b now peer _ _ _ c
    · rfl
  | clientText d text =>
    simp only [handle, receiveText]
    split
    · exact (addressOf_receiveRequest h d _).trans h.symm
    · exact addressOf_receivePacket b now d _ c
    · rfl
  | clientLeft d =>
    have hdc : d ≠ c := fun hdc => he (hdc ▸ rfl)
    exact (Pool.addressOf_free _ _ _).trans (if_neg hdc)
  | serialLine line =>
    simp only [handle, receiveLine]
    split
    · exact addressOf_accept b now .piconet _ _ c
    · rfl
  | _ => rfl

theorem addressOf_actAll (h : b.pool.addressOf c = some a)
    (hxs : ∀ x ∈ xs, x.2 ≠ .event (.clientLeft c)) :
    (b.actAll xs).pool.addressOf c = some a := by
  induction xs generalizing b with
  | nil => exact h
  | cons x xs ih =>
    obtain ⟨hx, hxs⟩ := List.forall_mem_cons.mp hxs
    refine ih ?_ hxs
    obtain ⟨now, x⟩ := x
    -- A login leaves the pool alone.
    cases x with
    | event e => exact addressOf_handle h (fun he => hx (congrArg _ he)) now
    | login d name password => exact h

theorem evolves_actAll (b : Bridge) (xs : List (Time × Action)) :
    Pool.Evolves b.pool (b.actAll xs).pool := by
  induction xs generalizing b with
  | nil => exact Pool.Evolves.refl _
  | cons x xs ih =>
    refine Pool.Evolves.trans ?_ (ih (b.act x.1 x.2))
    obtain ⟨now, x⟩ := x
    cases x with
    | event e => exact b.evolves_handle now e
    | login d name password => exact Pool.Evolves.refl _

theorem consistent_actAll {ns : List UInt8} (h : b.pool = Pool.ofList ns)
    (xs : List (Time × Action)) : (b.actAll xs).pool.Consistent := by
  obtain ⟨ops, hops⟩ := b.evolves_actAll xs
  rw [hops, h]
  exact Pool.consistent_run ns ops

/-- When a client leaves, nobody holds its address. -/
theorem addressOf_clientLeft_ne (h : b.Owns c a) (now : Time) (d : ConnectionId) :
    (b.handle now (.clientLeft c)).pool.addressOf d ≠ some a := by
  show (b.pool.free c).addressOf d ≠ some a
  rw [Pool.addressOf_free]
  split
  · exact nofun
  · next hcd => exact fun hd => hcd (h.2 d hd).symm

/-! ### Clients that have left -/

/-- **What becomes of the session of a client that has left.** A session is opened at the address
of a client that stays for a while. When it has left, nobody holds the address, and those who do
not get it afterwards are nothing to the session. It ends after the idle time unless somebody who
is the station by then has kept it. -/
theorem session_after_departure {start : Bridge} {ns : List UInt8}
    {before between after : List (Time × Action)} {name password : String} {t₀ t₁ t₂ : Time}
    (hstart : start.pool = Pool.ofList ns)
    (hc : (start.actAll before).pool.addressOf c = some a)
    (hlogin : Step.LogsIn ⟨start.actAll before, t₀, .login a name password⟩ a)
    (hstays : ∀ x ∈ between, x.2 ≠ .event (.clientLeft c))
    (htimes : (t₀ :: times between ++ t₁ :: (times after ++ [t₂])).Pairwise (· ≤ ·))
    (hidle : t₁ + start.register.maxIdle < t₂) :
    let opened := (start.actAll before).act t₀ (.login a name password)
    let left := (opened.actAll between).handle t₁ (.clientLeft c)
    (∀ d, left.pool.addressOf d ≠ some a) ∧
    (∀ y ∈ left.steps after, ∀ d text, y.action = .event (.clientText d text) →
      y.before.pool.addressOf d ≠ some a →
        y.after.register.session a = y.before.register.session a) ∧
    (∀ y ∈ left.steps after, y.Refreshes a →
      (∃ s, y.after.register.session a = some s ∧ s.idleTime = y.time) ∧
        ∃ e, y.action = .event e ∧ y.before.ComesFrom a e) ∧
    ((∀ y ∈ left.steps after, ¬ y.LogsIn a) →
      (((left.actAll after).handle t₂ .housekeeping).register.session a = none ↔
        ∀ y ∈ left.steps after, y.Refreshes a → y.time + start.register.maxIdle < t₂)) := by
  intro opened left
  obtain ⟨-, hafter, hcross⟩ := List.pairwise_append.mp htimes
  have hmax : left.register.maxIdle = start.register.maxIdle := by
    simp only [left, opened, maxIdle_handle, maxIdle_actAll, maxIdle_act]
  have howns : (opened.actAll between).Owns c a := by
    have hrun : opened.actAll between =
        start.actAll (before ++ (t₀, .login a name password) :: between) := by
      rw [actAll_append]
      rfl
    refine owns_of_addressOf ?_ (addressOf_actAll (b := opened) hc hstays)
    rw [hrun]
    exact consistent_actAll hstart _
  -- All that has renewed the session so far was no later than the departure.
  have hlate (s : Time) (hs : s ≤ t₁) : s + start.register.maxIdle < t₂ :=
    lt_of_le_of_lt (Int.add_le_add_right hs _) hidle
  have hgone : ¬ left.Lasts a t₂ := by
    have hrun : left = opened.actAll (between ++ [(t₁, .event (.clientLeft c))]) := by
      rw [actAll_append]
      rfl
    rw [hrun]
    refine not_lasts_of_renews (.inl hlogin) fun s hs => ?_
    rw [maxIdle_actAll]
    refine hlate s ?_
    rw [times, List.map_append, ← List.cons_append] at hs
    rcases List.mem_append.mp hs with hs | hs
    · exact hcross s hs t₁ List.mem_cons_self
    · exact (List.mem_singleton.mp hs).le
  -- The first three parts hold of every step by itself; the last one takes the whole run.
  refine ⟨addressOf_clientLeft_ne howns t₁, ?_, ?_, ?_⟩
  · rintro ⟨b, now, x⟩ - d text rfl hd
    exact session_clientText_of_ne hd now text
  · rintro y - ⟨e, he, hactive, hin⟩
    exact ⟨Step.Renews.idleTime_after (.inr ⟨e, he, hactive, hin⟩), e, he,
      comesFrom_of_activeAt? hactive⟩
  · intro hnew
    rw [session_housekeeping_eq_none_iff,
      lasts_actAll_iff (List.pairwise_cons.mp hafter).2 hgone, hmax]
    constructor
    · intro h y hy hrefreshes
      exact not_le.mp fun ht => h ⟨y, hy, .inr hrefreshes, ht⟩
    · rintro h ⟨y, hy, hlogs | hrefreshes, ht⟩
      · exact hnew y hy hlogs
      · exact absurd ht (not_le.mpr (h y hy hrefreshes))

/-- A client takes over the address of another one, and falls silent. Housekeeping ends the session
that it has found there. -/
theorem session_after_departure_silent :
    let syst : Account.Record := ⟨"SYST", "sys", 1000, "/home/SYST", 0, true⟩
    let f := (Account.UserFile.inMemory "/home").insertAll [syst]
    let start : Bridge := ⟨⟨⟨127, 254⟩, 2, 0, none⟩,
      .ofRoutes ⟨.empty, .empty, Pool.ofList [200]⟩ 32768, .ofBackends [.userFile f] 100 "", []⟩
    let request := "\x7b\"type\":\"ctrl\",\"request\":\"allocate\"\x7d"
    let text :=
      "\x7b\"type\":\"pkt\",\"src\":\"200.1\",\"dst\":\"127.254\",\"payload\":\"ApmAAAQAAABB\"\x7d"
    let before : List (Time × Action) := [(0, .event (.clientConnected ⟨"a"⟩ (.ofCapacity 16))),
      (1, .event (.clientText ⟨"a"⟩ request))]
    let opened := (start.actAll before).act 2 (.login ⟨200, 1⟩ "syst" "sys")
    let between : List (Time × Action) := [(3, .event (.clientText ⟨"a"⟩ text))]
    let left := (opened.actAll between).handle 4 (.clientLeft ⟨"a"⟩)
    let after : List (Time × Action) := [(5, .event (.clientConnected ⟨"b"⟩ (.ofCapacity 16))),
      (6, .event (.clientText ⟨"b"⟩ request)), (50, .event (.clientText ⟨"b"⟩ text))]
    (left.actAll after).pool.addressOf ⟨"b"⟩ = some ⟨200, 1⟩ ∧
      ((left.actAll after).register.session ⟨200, 1⟩).map (·.idleTime) = some 50 ∧
      ((left.actAll after).handle 200 .housekeeping).register.session ⟨200, 1⟩ = none := by
  intro syst f start request text before opened between left after
  have hc : (start.actAll before).pool.addressOf ⟨"a"⟩ = some ⟨200, 1⟩ := by decide
  have hlogin : Step.LogsIn ⟨start.actAll before, 2, .login ⟨200, 1⟩ "syst" "sys"⟩ ⟨200, 1⟩ :=
    ⟨"syst", "sys", rfl, by decide⟩
  have hstays : ∀ x ∈ between, x.2 ≠ .event (.clientLeft ⟨"a"⟩) := by simp [between]
  have htimes : (2 :: times between ++ 4 :: (times after ++ [200])).Pairwise (· ≤ ·) := by decide
  have hidle : 4 + start.register.maxIdle < (200 : Time) := by decide
  have hsteps (y : Step) (hy : y ∈ left.steps after) :
      ¬ y.LogsIn ⟨200, 1⟩ ∧ y.time + start.register.maxIdle < 200 := by
    have hmem := mem_of_mem_steps hy
    simp only [after, List.mem_cons, Prod.mk.injEq, List.not_mem_nil, or_false] at hmem
    constructor
    · rintro ⟨name, password, hx, -⟩
      rcases hmem with ⟨-, hy⟩ | ⟨-, hy⟩ | ⟨-, hy⟩ <;> cases hx.symm.trans hy
    · rcases hmem with ⟨ht, -⟩ | ⟨ht, -⟩ | ⟨ht, -⟩ <;> rw [ht] <;> decide
  refine ⟨by decide, by decide, ?_⟩
  exact ((session_after_departure rfl hc hlogin hstays htimes hidle).2.2.2
    fun y hy => (hsteps y hy).1).mpr fun y hy _ => (hsteps y hy).2

/-- A client that is given the address of one that has left is logged in as whoever was logged in
there, and keeps the session, though nobody logs in. -/
theorem exists_session_inherited :
    let syst : Account.Record := ⟨"SYST", "sys", 1000, "/home/SYST", 0, true⟩
    let f := (Account.UserFile.inMemory "/home").insertAll [syst]
    let start : Bridge := ⟨⟨⟨127, 254⟩, 2, 0, none⟩,
      .ofRoutes ⟨.empty, .empty, Pool.ofList [200]⟩ 32768, .ofBackends [.userFile f] 100 "", []⟩
    let request := "\x7b\"type\":\"ctrl\",\"request\":\"allocate\"\x7d"
    let text :=
      "\x7b\"type\":\"pkt\",\"src\":\"200.1\",\"dst\":\"127.254\",\"payload\":\"ApmAAAQAAABB\"\x7d"
    let before : List (Time × Action) := [(0, .event (.clientConnected ⟨"a"⟩ (.ofCapacity 16))),
      (1, .event (.clientText ⟨"a"⟩ request))]
    let opened := (start.actAll before).act 2 (.login ⟨200, 1⟩ "syst" "sys")
    let left := opened.handle 4 (.clientLeft ⟨"a"⟩)
    let after : List (Time × Action) := [(5, .event (.clientConnected ⟨"b"⟩ (.ofCapacity 16))),
      (6, .event (.clientText ⟨"b"⟩ request))]
    let other := left.actAll after
    let spoken := other.handle 50 (.clientText ⟨"b"⟩ text)
    start.register.maxIdle = 100 ∧ opened.pool.addressOf ⟨"a"⟩ = some ⟨200, 1⟩ ∧
      (opened.register.session ⟨200, 1⟩).map (·.idleTime) = some 2 ∧
      (other.register.session ⟨200, 1⟩).map (·.idleTime) = some 2 ∧
      (spoken.register.session ⟨200, 1⟩).map (·.idleTime) = some 50 ∧
      (spoken.handle 120 .housekeeping).register.isAdmin ⟨200, 1⟩ = true := by
  decide

end Bridge

end Econet
