import Econet.Proofs.Bridge.Handover

/-!
# The order of clients

Browser clients are kept in a table, and a packet to a network is sent to them in the order in
which the table has them. Nobody can tell that order afterwards. Two clients may change places,
since each has a queue and a number of its own and the counts only add up; so may all of them. The
host comes after them in any case, and its way out does not see what they were sent.

## Main definitions

* `Sink.SeesOwn k`: the way out `k` goes by datagrams only
* `Router.Alike r s`: the routers `r` and `s` are the same but for the order of clients
* `Router.Agree f g`: the sendings `f` and `g` cannot be told apart

## Main results

* `Router.agree_of_perm`: clients may be sent to in any order
* `Router.agree_send`: to send a packet is the same for routers that are alike
-/

namespace Econet

open Client (ConnectionId Pool)

/-- The attempts to send datagrams. -/
def datagrams (attempts : List Attempt) : List Attempt :=
  attempts.filter (·.message.transport = .aun)

/-- The way out to hosts goes by what it was handed itself: it does not see texts and lines. -/
def Sink.SeesOwn (k : Sink) : Prop :=
  ∀ js ks, datagrams js = datagrams ks → k.takes js = k.takes ks

theorem datagrams_append (as bs : List Attempt) :
    datagrams (as ++ bs) = datagrams as ++ datagrams bs :=
  List.filter_append _ _

theorem accepted_append_comm (t : Transport) (as bs : List Attempt) :
    accepted t (as ++ bs) = accepted t (bs ++ as) :=
  List.perm_append_comm.countP_eq _

theorem Counts.after_append_comm (c : Counts) (as bs : List Attempt) :
    c.after (as ++ bs) = c.after (bs ++ as) := by
  simp only [after, accepted_append_comm]

namespace Router

variable {r s t : Router} {p : Packet}

/-- The routers are the same but for the order of clients and of what clients were sent. -/
structure Alike (r s : Router) : Prop where
  routes : r.routes.unnumbered = s.routes.unnumbered
  /-- Clients have the same numbers. -/
  reached : ∀ c, r.routes.pool.reached c = s.routes.pool.reached c
  /-- Hosts have the same numbers. -/
  counter : ∀ key, r.routes.aun.counter key = s.routes.aun.counter key
  aunPort : r.aunPort = s.aunPort
  localNetwork : r.adapter.map (·.localNetwork) = s.adapter.map (·.localNetwork)
  /-- Clients, and the adapter, have the same queues. -/
  linkOf : ∀ w, r.linkOf w = s.linkOf w
  counts : r.counts = s.counts
  /-- Hosts were sent the same datagrams, in the same order. -/
  datagrams : datagrams r.journal = datagrams s.journal
  sink : r.sink = s.sink
  seesOwn : ∀ k ∈ r.sink, k.SeesOwn

/-! ### Alike routers -/

namespace Alike

theorem refl (h : ∀ k ∈ r.sink, k.SeesOwn) : Alike r r where
  routes := rfl
  reached _ := rfl
  counter _ := rfl
  aunPort := rfl
  localNetwork := rfl
  linkOf _ := rfl
  counts := rfl
  datagrams := rfl
  sink := rfl
  seesOwn := h

theorem trans (h : Alike r s) (k : Alike s t) : Alike r t where
  routes := h.routes.trans k.routes
  reached c := (h.reached c).trans (k.reached c)
  counter key := (h.counter key).trans (k.counter key)
  aunPort := h.aunPort.trans k.aunPort
  localNetwork := h.localNetwork.trans k.localNetwork
  linkOf w := (h.linkOf w).trans (k.linkOf w)
  counts := h.counts.trans k.counts
  datagrams := h.datagrams.trans k.datagrams
  sink := h.sink.trans k.sink
  seesOwn := h.seesOwn

/-- It does not matter in which order the table has the clients. -/
theorem of_perm (hsink : ∀ k ∈ r.sink, k.SeesOwn) {cs : Table ConnectionId Link}
    (h : r.clients.entries.Perm cs.entries) : Alike r { r with clients := cs } :=
  { refl hsink with
    linkOf := by
      intro w
      cases w with
      | client c => exact Table.get?_eq_of_perm h c
      | adapter => rfl
      | host e => rfl }

theorem drop (h : Alike r s) : Alike r.drop s.drop :=
  { h with
    counts := by rw [Router.drop, h.counts]; rfl
    linkOf := h.linkOf }

theorem message? (h : Alike r s) (p : Packet) (w : Way) : r.message? p w = s.message? p w := by
  have hport := h.aunPort
  cases w with
  | client c => simp only [Router.message?, parcel?, Pool.nextSequence_eq, h.reached, hport]
  | adapter => simp only [Router.message?, parcel?, plan, h.localNetwork, hport]
  | host e => simp only [Router.message?, parcel?, Aun.Map.nextSequence, h.counter, hport]

theorem takes (h : Alike r s) (m : Message) : r.takes [] m = s.takes [] m := by
  cases m with
  | datagram target bytes =>
    simp only [Router.takes, List.append_nil, ← h.sink]
    cases hk : r.sink with
    | none => rfl
    | some k => simp only [Option.any_some, h.seesOwn k hk _ _ h.datagrams]
  | text c text => simp only [Router.takes, h.linkOf]
  | line line => simp only [Router.takes, h.linkOf]

theorem attempts (h : Alike r s) (p : Packet) (w : Way) : r.attempts p w = s.attempts p w := by
  simp only [Router.attempts, h.message?, h.takes]

/-- Alike routers stay so if they are handed the same and use up the same numbers. -/
theorem sendAlong (h : Alike r s) (p : Packet) (w : Way) :
    Alike (sendAlong p w r).2 (sendAlong p w s).2 := by
  have hr := sent_sendAlong p w r
  have hs := sent_sendAlong p w s
  rw [← h.attempts] at hs
  have hplan := plan_sendAlong p w r
  have hplan' := plan_sendAlong p w s
  have hroutes := routes_sendAlong p w r
  have hroutes' := routes_sendAlong p w s
  refine ⟨?_, fun c => ?_, fun key => ?_, ?_, ?_, fun v => ?_, ?_, ?_, ?_, ?_⟩
  · exact (congrArg Plan.routes hplan).trans (h.routes.trans (congrArg Plan.routes hplan').symm)
  -- The number of the way is used up in both, and no other.
  · rw [hroutes, hroutes']
    cases w with
    | client d => simp only [Routes.advance, Pool.reached_advance, h.reached]
    | adapter => exact h.reached c
    | host e => exact h.reached c
  · rw [hroutes, hroutes']
    cases w with
    | client d => exact h.counter key
    | adapter => exact h.counter key
    | host e =>
      simp only [Routes.advance, Aun.Map.counter_advance, Aun.Map.nextSequence, h.counter]
  · exact (congrArg Plan.aunPort hplan).trans (h.aunPort.trans (congrArg Plan.aunPort hplan').symm)
  · exact (congrArg Plan.localNetwork hplan).trans
      (h.localNetwork.trans (congrArg Plan.localNetwork hplan').symm)
  -- The attempts are the same, and so is what they add to queues, counts and journal.
  · rw [hr.tries.linkOf, hs.tries.linkOf, h.linkOf]
  · rw [hr.counts, hs.counts, h.counts]
  · rw [hr.tries.journal, hs.tries.journal, datagrams_append, datagrams_append, h.datagrams]
  · rw [hr.tries.sink, hs.tries.sink, h.sink]
  · rw [hr.tries.sink]
    exact h.seesOwn

end Alike

/-! ### Sendings that cannot be told apart -/

/-- The sendings come to the same, and leave alike routers alike. -/
def Agree (f g : Sending) : Prop :=
  ∀ r s, Alike r s → (f r).1 = (g s).1 ∧ Alike (f r).2 (g s).2

variable {f f' f'' g g' : Sending}

theorem Agree.trans (h : Agree f f') (k : Agree f' f'') : Agree f f'' := by
  intro r s hrs
  obtain ⟨hfst, hsnd⟩ := h r r (.refl hrs.seesOwn)
  obtain ⟨kfst, ksnd⟩ := k r s hrs
  exact ⟨hfst.trans kfst, hsnd.trans ksnd⟩

theorem Agree.both (h : Agree f f') (k : Agree g g') : Agree (both f g) (both f' g') := by
  intro r s hrs
  obtain ⟨hfst, hsnd⟩ := h r s hrs
  obtain ⟨kfst, ksnd⟩ := k _ _ hsnd
  refine ⟨?_, ksnd⟩
  simp only [Router.both, hfst, kfst]

theorem agree_sendAlong (p : Packet) (w : Way) : Agree (sendAlong p w) (sendAlong p w) := by
  intro r s h
  refine ⟨?_, h.sendAlong p w⟩
  rw [(sent_sendAlong p w r).fst, (sent_sendAlong p w s).fst, h.attempts]

theorem agree_sendAlongEach (p : Packet) (ws : List Way) :
    Agree (sendAlongEach p ws) (sendAlongEach p ws) := by
  induction ws with
  | nil => exact fun r s h => ⟨rfl, h⟩
  | cons w ws ih => exact (agree_sendAlong p w).both ih

/-! ### Clients change places -/

theorem received_attempts_client {w : Way} {c : ConnectionId} (h : w ≠ .client c) (p : Packet)
    (r : Router) : w.received (r.attempts p (.client c)) = [] := by
  cases w with
  | client d =>
    have hdc : d ≠ c := fun he => h (he ▸ rfl)
    simp [attempts, message?, parcel?, Parcel.message, Way.received, Way.received?, hdc]
  | adapter => rfl
  | host e => rfl

theorem datagrams_attempts_client (p : Packet) (c : ConnectionId) (r : Router) :
    datagrams (r.attempts p (.client c)) = [] := rfl

theorem attempts_sendAlong_of_ne {c d : ConnectionId} (h : c ≠ d) (p : Packet) (r : Router) :
    (sendAlong p (.client c) r).2.attempts p (.client d) = r.attempts p (.client d) := by
  have hne : Way.client c ≠ .client d := fun he => h (Way.client.inj he)
  have hport : (sendAlong p (.client c) r).2.aunPort = r.aunPort :=
    congrArg Plan.aunPort (plan_sendAlong p (.client c) r)
  have hmessage : (sendAlong p (.client c) r).2.message? p (.client d) =
      r.message? p (.client d) := by
    rw [message?, parcel?_sendAlong_of_ne hne, hport]
    rfl
  have hreceived : (Way.client d).received (r.attempts p (.client c)) = [] :=
    received_attempts_client hne.symm p r
  rw [attempts, hmessage]
  refine congrArg Option.toList (Option.map_congr fun m hm => ?_)
  obtain ⟨text, rfl⟩ : ∃ text, m = .text d text := ⟨_, (Option.some.inj hm).symm⟩
  congr 1
  -- What the one client took is not in the queue of the other.
  rw [(sent_sendAlong p (.client c) r).tries.takes, List.append_nil]
  simp only [takes, hreceived]
  rfl

/-- What two clients are handed, and what they take of it, does not depend on who is first. -/
theorem sent_both_clients {c d : ConnectionId} (h : c ≠ d) (p : Packet) (r : Router) :
    Sent r (r.attempts p (.client c) ++ r.attempts p (.client d))
      (both (sendAlong p (.client c)) (sendAlong p (.client d))) := by
  have hd := sent_sendAlong p (.client d) (sendAlong p (.client c) r).2
  rw [attempts_sendAlong_of_ne h] at hd
  exact (sent_sendAlong p (.client c) r).both hd

theorem received_append_comm {c d : ConnectionId} (h : c ≠ d) (p : Packet) (r : Router)
    (w : Way) :
    w.received (r.attempts p (.client c) ++ r.attempts p (.client d)) =
      w.received (r.attempts p (.client d) ++ r.attempts p (.client c)) := by
  rw [Way.received_append, Way.received_append]
  -- One of the two is nothing to the way.
  by_cases hw : w = .client c
  · have hne : w ≠ .client d := fun hd => h (Way.client.inj (hw.symm.trans hd))
    rw [received_attempts_client hne, List.append_nil, List.nil_append]
  · rw [received_attempts_client hw, List.append_nil, List.nil_append]

theorem reached_advance_comm {c d : ConnectionId} (h : c ≠ d) (q : Pool) (e : ConnectionId) :
    ((q.advance c).advance d).reached e = ((q.advance d).advance c).reached e := by
  simp only [Pool.reached_advance]
  by_cases hc : c = e
  · subst hc
    simp [h.symm]
  · by_cases hd : d = e
    · subst hd
      simp [h]
    · simp [hc, hd]

theorem alike_both_clients {c d : ConnectionId} (h : c ≠ d) (p : Packet)
    (hsink : ∀ k ∈ r.sink, k.SeesOwn) :
    Alike (both (sendAlong p (.client c)) (sendAlong p (.client d)) r).2
      (both (sendAlong p (.client d)) (sendAlong p (.client c)) r).2 := by
  have hcd := sent_both_clients h p r
  have hdc := sent_both_clients h.symm p r
  -- Both orders leave the plan alone and use up the same numbers.
  have hplan (c d : ConnectionId) :
      (both (sendAlong p (.client c)) (sendAlong p (.client d)) r).2.plan = r.plan :=
    (plan_sendAlong p _ _).trans (plan_sendAlong p _ r)
  have hroutes (c d : ConnectionId) :
      (both (sendAlong p (.client c)) (sendAlong p (.client d)) r).2.routes =
        (r.routes.advance (.client c)).advance (.client d) := by
    rw [← routes_sendAlong p]
    exact routes_sendAlong p _ _
  have hsame := (hplan c d).trans (hplan d c).symm
  refine ⟨congrArg Plan.routes hsame, fun e => ?_, fun key => ?_, congrArg Plan.aunPort hsame,
    congrArg Plan.localNetwork hsame, fun w => ?_, ?_, ?_, ?_, ?_⟩
  · rw [hroutes, hroutes]
    exact reached_advance_comm h _ e
  · rw [hroutes, hroutes]
    rfl
  · rw [hcd.tries.linkOf, hdc.tries.linkOf, received_append_comm h]
  · rw [hcd.counts, hdc.counts, Counts.after_append_comm]
  · rw [hcd.tries.journal, hdc.tries.journal]
    simp only [datagrams_append, datagrams_attempts_client]
  · rw [hcd.tries.sink, hdc.tries.sink]
  · rw [hcd.tries.sink]
    exact hsink

/-- **Two clients may change places.** -/
theorem agree_both_clients (p : Packet) (c d : ConnectionId) :
    Agree (both (sendAlong p (.client c)) (sendAlong p (.client d)))
      (both (sendAlong p (.client d)) (sendAlong p (.client c))) := by
  by_cases h : c = d
  · subst h
    exact (agree_sendAlong p _).both (agree_sendAlong p _)
  intro r s hrs
  have hdc := (agree_sendAlong p (.client d)).both (agree_sendAlong p (.client c))
  -- The places are changed in one router, from which the other one differs in nothing else.
  obtain ⟨hfst, hsnd⟩ := hdc r s hrs
  refine ⟨?_, (alike_both_clients h p hrs.seesOwn).trans hsnd⟩
  rw [← hfst, (sent_both_clients h p r).fst, (sent_both_clients (Ne.symm h) p r).fst,
    List.any_append, List.any_append, Bool.or_comm]

/-- **Clients may be sent to in any order.** -/
theorem agree_of_perm {cs ds : List ConnectionId} (h : cs.Perm ds) (p : Packet) :
    Agree (sendAlongEach p (cs.map .client)) (sendAlongEach p (ds.map .client)) := by
  -- A permutation is made of changes of place between neighbours.
  induction h with
  | nil => exact agree_sendAlongEach p []
  | cons c _ ih => exact (agree_sendAlong p (.client c)).both ih
  | swap c d cs =>
    have hsplit (a b : ConnectionId) : sendAlongEach p ((a :: b :: cs).map .client) =
        both (both (sendAlong p (.client a)) (sendAlong p (.client b)))
          (sendAlongEach p (cs.map .client)) := (both_assoc _ _ _).symm
    rw [hsplit, hsplit]
    exact (agree_both_clients p d c).both (agree_sendAlongEach p _)
  | trans _ _ ih ih' => exact ih.trans ih'

/-! ### Packets -/

/-- Alike routers have the same clients. -/
theorem Alike.perm_keys (h : Alike r s) : r.clients.keys.Perm s.clients.keys := by
  have hmem (c : ConnectionId) : c ∈ r.clients.keys ↔ c ∈ s.clients.keys := by
    have hc : r.clients.get? c = s.clients.get? c := h.linkOf (.client c)
    rw [Table.mem_keys_iff, Table.mem_keys_iff, hc]
  exact (List.perm_ext_iff_of_nodup r.clients.nodup_keys s.clients.nodup_keys).mpr hmem

theorem Alike.sendAlongEach_ways (h : Alike r s) (p : Packet) :
    (sendAlongEach p (r.plan.ways p) r).1 = (sendAlongEach p (s.plan.ways p) s).1 ∧
      Alike (sendAlongEach p (r.plan.ways p) r).2 (sendAlongEach p (s.plan.ways p) s).2 := by
  have hroutes : r.plan.routes = s.plan.routes := h.routes
  have hperm : (r.plan.clients.filter (r.plan.routes.isClientOn p.destination.network)).Perm
      (s.plan.clients.filter (s.plan.routes.isClientOn p.destination.network)) := by
    rw [hroutes]
    exact h.perm_keys.filter _
  unfold Plan.ways
  split
  · -- What follows the clients is the same in both.
    simp only [Plan.toNetwork, sendAlongEach_append p (List.map _ _)]
    rw [hroutes] at hperm ⊢
    exact ((agree_of_perm hperm p).both (agree_sendAlongEach p _)) r s h
  · simp only [Plan.toStation, hroutes]
    exact agree_sendAlongEach p _ r s h

/-- **To send a packet is the same for routers that are alike.** -/
theorem agree_send (p : Packet) : Agree (send p) (send p) := by
  intro r s h
  obtain ⟨hfst, hsnd⟩ := h.sendAlongEach_ways p
  rw [send_eq, send_eq, ← hfst]
  refine ⟨rfl, ?_⟩
  dsimp only
  split
  · exact hsnd
  · exact hsnd.drop

end Router

end Econet
