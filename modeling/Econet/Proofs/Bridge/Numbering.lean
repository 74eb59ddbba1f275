import Econet.Proofs.Bridge.History
import Econet.Proofs.Splits

/-!
# Sequence numbers over runs

Each host and each client has a conversation of its own with the bridge. A conversation with a host
starts again from every number that the host sends, one with a client when the client comes to have
an address; every packet that is sent in it, taken or not, has the next number. Nothing else that
happens in a run bears on it.

## Main definitions

* `Turn`, `Turn.origin`, `Turn.count`: what bears on a conversation, the number that it started from
  last, and how many packets were sent since
* `hostTurns e h`, `clientTurns c h`: the turns of a conversation in a history
* `addressAt c h`: the address that a client has after a history
* `AreNumbered rules h`: all packets of a history have the next number of their conversation
* `Routes.Follows rules h s`: the routes `s` have come to what the history `h` says

## Main results

* `Turn.toNat_reached`: the number that a conversation has come to
* `Bridge.follows_moveAll`: routes follow the history of a run
* `Bridge.number_of_sent`: which number each packet of a run has
-/

namespace Econet

open Account (Time)
open Client (ConnectionId Pool)

/-! ### Turns -/

/-- What bears on a conversation: it starts again from a number, or a packet is sent. -/
inductive Turn where
  | restart (n : UInt32)
  | packet

namespace Turn

/-- The number that a conversation has come to after one more turn. -/
def next (n : UInt32) : Turn → UInt32
  | restart m => m
  | packet => n + sequenceStride

/-- The number that a conversation has come to. -/
def reached (ts : List Turn) : UInt32 := ts.foldl next 0

def restart? : Turn → Option UInt32
  | restart n => some n
  | packet => none

/-- The number that a conversation started from last, 0 at first. -/
def origin (ts : List Turn) : UInt32 := (ts.filterMap restart?).getLast?.getD 0

/-- How many packets were sent in a conversation since it last started. -/
def count (ts : List Turn) : Nat := (ts.reverse.takeWhile fun t => t.restart?.isNone).length

theorem reached_concat (ts : List Turn) (t : Turn) : reached (ts ++ [t]) = next (reached ts) t := by
  rw [reached, List.foldl_append]
  rfl

theorem origin_concat (ts : List Turn) (t : Turn) :
    origin (ts ++ [t]) = t.restart?.getD (origin ts) := by
  rw [origin, List.filterMap_append]
  cases t with
  | restart n => simp [restart?]
  | packet => simp [restart?, origin]

theorem count_concat (ts : List Turn) (t : Turn) :
    count (ts ++ [t]) = if t.restart?.isNone then count ts + 1 else 0 := by
  rw [count, List.reverse_append]
  cases t with
  | restart n => rfl
  | packet => rfl

/-- **The number that a conversation has come to**: four for each packet since it last started. -/
theorem toNat_reached (ts : List Turn) :
    (reached ts).toNat = ((origin ts).toNat + 4 * count ts) % 2 ^ 32 := by
  induction ts using List.reverseRecOn with
  | nil => rfl
  | append_singleton ts t ih =>
    rw [reached_concat, origin_concat, count_concat]
    cases t with
    | restart n => exact (Nat.mod_eq_of_lt n.toNat_lt).symm
    | packet =>
      show (reached ts + sequenceStride).toNat = ((origin ts).toNat + 4 * (count ts + 1)) % 2 ^ 32
      rw [UInt32.toNat_add, ih]
      show (_ + 4) % 2 ^ 32 = _
      omega

/-- The number of the next packet. -/
theorem toNat_next_reached (ts : List Turn) :
    (reached ts + sequenceStride).toNat = ((origin ts).toNat + 4 * (count ts + 1)) % 2 ^ 32 := by
  -- It is what the conversation comes to by that packet.
  have hnext : reached ts + sequenceStride = reached (ts ++ [.packet]) :=
    (reached_concat ts .packet).symm
  rw [hnext, toNat_reached, origin_concat, count_concat]
  rfl

end Turn

/-! ### Turns of a history -/

/-- What an occurrence is in the conversation with a host. -/
def Occurrence.hostTurn? (e : Aun.Endpoint) : Occurrence → Option Turn
  | heard f n => if f = e then some (.restart n) else none
  | sent (.toHost f _ _) => if f = e then some .packet else none
  | _ => none

/-- What an occurrence is in the conversation with a client. -/
def Occurrence.clientTurn? (c : ConnectionId) : Occurrence → Option Turn
  | joined d _ => if d = c then some (.restart 0) else none
  | sent (.toClient d _ _) => if d = c then some .packet else none
  | _ => none

/-- The address that a client has after one more occurrence. -/
def Occurrence.address (c : ConnectionId) (a : Option Address) : Occurrence → Option Address
  | joined d b => if d = c then some b else a
  | left d => if d = c then none else a
  | _ => a

/-- The turns of the conversation with a host. -/
def hostTurns (e : Aun.Endpoint) (h : List Occurrence) : List Turn := h.filterMap (·.hostTurn? e)

/-- The turns of the conversation with a client. -/
def clientTurns (c : ConnectionId) (h : List Occurrence) : List Turn :=
  h.filterMap (·.clientTurn? c)

/-- The address that a client has after a history. -/
def addressAt (c : ConnectionId) (h : List Occurrence) : Option Address :=
  h.foldl (Occurrence.address c) none

variable {h : List Occurrence} {o : Occurrence} {e : Aun.Endpoint} {c : ConnectionId}

theorem reached_filterMap_concat (f : Occurrence → Option Turn) (h : List Occurrence)
    (o : Occurrence) :
    Turn.reached ((h ++ [o]).filterMap f) =
      (f o).elim (Turn.reached (h.filterMap f)) (Turn.next (Turn.reached (h.filterMap f))) := by
  rw [List.filterMap_append]
  cases ho : f o with
  | none => simp [ho]
  | some t =>
    rw [List.filterMap_cons_some ho, List.filterMap_nil, Turn.reached_concat]
    rfl

theorem addressAt_concat (c : ConnectionId) (h : List Occurrence) (o : Occurrence) :
    addressAt c (h ++ [o]) = o.address c (addressAt c h) := by
  rw [addressAt, List.foldl_append]
  rfl

theorem eq_of_clientTurn? {t : Turn} (h : o.clientTurn? c = some t) :
    t = .restart 0 ∨ t = .packet := by
  unfold Occurrence.clientTurn? at h
  split at h
  · split at h
    · exact .inl (Option.some.inj h).symm
    · cases h
  · split at h
    · exact .inr (Option.some.inj h).symm
    · cases h
  · cases h

/-- Conversations with clients start from 0. -/
theorem origin_clientTurns (c : ConnectionId) (h : List Occurrence) :
    Turn.origin (clientTurns c h) = 0 := by
  induction h using List.reverseRecOn with
  | nil => rfl
  | append_singleton h o ih =>
    rw [clientTurns, List.filterMap_append]
    cases ho : o.clientTurn? c with
    | none =>
      rw [List.filterMap_cons_none ho, List.filterMap_nil, List.append_nil]
      exact ih
    | some t =>
      rw [List.filterMap_cons_some ho, List.filterMap_nil, Turn.origin_concat]
      rcases eq_of_clientTurn? ho with rfl | rfl
      · rfl
      · exact ih

/-! ### Routes that follow a history -/

/-- A packet on one of its ways is where it belongs and has the next number of its conversation. -/
def Parcel.IsNumbered (rules : List Aun.Rule) (h : List Occurrence) : Parcel → Prop
  | toHost e p n =>
    (Aun.Map.ofRules rules).endpointOf p.destination = some e ∧
      n = Turn.reached (hostTurns e h) + sequenceStride
  | toClient c p n =>
    (∃ a, addressAt c h = some a ∧ (p.destination = a ∨
      p.destination.isBroadcast = true ∧ p.destination.network = a.network)) ∧
      n = Turn.reached (clientTurns c h) + sequenceStride
  | toAdapter _ _ => True

/-- All packets of a history have the next number of their conversation. -/
def AreNumbered (rules : List Aun.Rule) (h : List Occurrence) : Prop :=
  ∀ pre x post, h = pre ++ .sent x :: post → x.IsNumbered rules pre

/-- Routes have come to what a history says, in which all packets are numbered. -/
structure Routes.Follows (rules : List Aun.Rule) (h : List Occurrence) (s : Routes) : Prop where
  map : s.unnumbered.aun = Aun.Map.ofRules rules
  hosts : ∀ e, s.aun.reached e = Turn.reached (hostTurns e h)
  clients : ∀ c a, s.pool.addressOf c = some a →
    s.pool.reached c = Turn.reached (clientTurns c h)
  /-- Connections without an address have no number. -/
  idle : ∀ c, s.pool.addressOf c = none → s.pool.reached c = 0
  addresses : ∀ c, s.pool.addressOf c = addressAt c h
  consistent : s.pool.Consistent
  numbered : AreNumbered rules h

variable {rules : List Aun.Rule} {s : Routes} {a : Address}

theorem areNumbered_nil (rules : List Aun.Rule) : AreNumbered rules [] := by
  intro pre x post he
  cases pre <;> cases he

theorem AreNumbered.concat (hs : AreNumbered rules h)
    (ho : ∀ x, o = .sent x → x.IsNumbered rules h) : AreNumbered rules (h ++ [o]) := by
  intro pre x post he
  -- The packet is the last occurrence, or one of those before it.
  rcases append_cons_eq_concat_iff.mp he.symm with ⟨rfl, hx, -⟩ | ⟨rest, rfl, rfl⟩
  · exact ho x hx.symm
  · exact hs pre x rest rfl

namespace Routes.Follows

theorem heard (hf : s.Follows rules h) (e : Aun.Endpoint) (n : UInt32) :
    Follows rules (h ++ [.heard e n]) { s with aun := s.aun.prime e.text n } where
  map := hf.map
  hosts f := by
    rw [hostTurns, reached_filterMap_concat, Aun.Map.reached_prime, Occurrence.hostTurn?]
    split
    · rfl
    · exact hf.hosts f
  clients d b hd := by
    rw [clientTurns, reached_filterMap_concat]
    exact hf.clients d b hd
  idle := hf.idle
  addresses d := by
    rw [addressAt_concat]
    exact hf.addresses d
  consistent := hf.consistent
  numbered := hf.numbered.concat fun _ hx => by cases hx

theorem joined (hf : s.Follows rules h) (hc : s.pool.addressOf c = none)
    (ha : s.pool.firstFreeAddress = some a) :
    Follows rules (h ++ [.joined c a]) { s with pool := s.pool.take c a } where
  map := hf.map
  hosts f := by
    rw [hostTurns, reached_filterMap_concat]
    exact hf.hosts f
  clients d b hd := by
    rw [clientTurns, reached_filterMap_concat, Occurrence.clientTurn?]
    by_cases hcd : c = d
    · subst hcd
      -- A connection that had no address had no number, so that it starts from 0.
      rw [if_pos rfl]
      exact hf.idle c hc
    · rw [if_neg hcd]
      refine hf.clients d b ?_
      rw [← hd]
      exact ((Pool.addressOf_take _ _ _ _).trans (if_neg hcd)).symm
  idle d hd := by
    refine hf.idle d ?_
    rw [Pool.addressOf_take] at hd
    split at hd
    · cases hd
    · exact hd
  addresses d := by
    rw [addressAt_concat, Occurrence.address, ← hf.addresses]
    exact Pool.addressOf_take _ _ _ _
  consistent := by
    obtain ⟨hn, hs, hfree⟩ := Pool.holderOf_of_firstFreeAddress ha
    exact hf.consistent.take hc hn hs hfree
  numbered := hf.numbered.concat fun _ hx => by cases hx

theorem left (hf : s.Follows rules h) (c : ConnectionId) :
    Follows rules (h ++ [.left c]) { s with pool := s.pool.free c } where
  map := hf.map
  hosts f := by
    rw [hostTurns, reached_filterMap_concat]
    exact hf.hosts f
  -- A client that keeps its address is another one than the client that has left.
  clients d b hd := by
    rw [Pool.addressOf_free] at hd
    rw [clientTurns, reached_filterMap_concat, Pool.reached_free]
    split at hd
    · cases hd
    · next hcd =>
      rw [if_neg hcd]
      exact hf.clients d b hd
  idle d hd := by
    rw [Pool.addressOf_free] at hd
    rw [Pool.reached_free]
    split at hd
    · next hcd => exact if_pos hcd
    · next hcd =>
      rw [if_neg hcd]
      exact hf.idle d hd
  addresses d := by
    rw [addressAt_concat, Occurrence.address, ← hf.addresses]
    exact Pool.addressOf_free _ _ _
  consistent := hf.consistent.free c
  numbered := hf.numbered.concat fun _ hx => by cases hx

/-- An occurrence that is no turn of a conversation, and concerns no address, changes nothing. -/
theorem unmoved (hf : s.Follows rules h) (hhost : ∀ e, o.hostTurn? e = none)
    (hclient : ∀ c, o.clientTurn? c = none) (haddress : ∀ c a, o.address c a = a)
    (ho : ∀ x, o = .sent x → x.IsNumbered rules h) : Follows rules (h ++ [o]) s where
  map := hf.map
  hosts f := by
    rw [hostTurns, reached_filterMap_concat, hhost]
    exact hf.hosts f
  clients d b hd := by
    rw [clientTurns, reached_filterMap_concat, hclient]
    exact hf.clients d b hd
  idle := hf.idle
  addresses d := by
    rw [addressAt_concat, haddress]
    exact hf.addresses d
  consistent := hf.consistent
  numbered := hf.numbered.concat ho

theorem toClient {p : Packet} (hf : s.Follows rules h) (hc : s.pool.addressOf c = some a)
    (hp : p.destination = a ∨
      p.destination.isBroadcast = true ∧ p.destination.network = a.network) :
    Follows rules (h ++ [.sent (.toClient c p (s.pool.nextSequence c))])
      (s.advance (.client c)) where
  map := hf.map
  hosts f := by
    rw [hostTurns, reached_filterMap_concat]
    exact hf.hosts f
  clients d b hd := by
    rw [clientTurns, reached_filterMap_concat, Occurrence.clientTurn?]
    refine (Pool.reached_advance _ c d).trans ?_
    by_cases hcd : c = d
    · subst hcd
      rw [if_pos rfl, if_pos rfl, hf.clients c b hd]
      rfl
    · rw [if_neg hcd, if_neg hcd]
      exact hf.clients d b hd
  idle d hd := by
    -- The client has an address, and so is not one without.
    have hcd : c ≠ d := by
      rintro rfl
      cases hc.symm.trans hd
    exact (Pool.reached_advance _ c d).trans ((if_neg hcd).trans (hf.idle d hd))
  addresses d := by
    rw [addressAt_concat]
    exact hf.addresses d
  consistent := ⟨hf.consistent.addressOf_iff, hf.consistent.station_mem⟩
  numbered := by
    refine hf.numbered.concat fun x hx => ?_
    cases hx
    exact ⟨⟨a, (hf.addresses c).symm.trans hc, hp⟩,
      congrArg (· + sequenceStride) (hf.clients c a hc)⟩

theorem toHost {p : Packet} (hf : s.Follows rules h)
    (he : (Aun.Map.ofRules rules).endpointOf p.destination = some e) :
    Follows rules (h ++ [.sent (.toHost e p (s.aun.nextSequence e.text))])
      (s.advance (.host e)) where
  map := hf.map
  hosts f := by
    rw [hostTurns, reached_filterMap_concat, Occurrence.hostTurn?]
    refine (Aun.Map.reached_advance _ e f).trans ?_
    by_cases hef : e = f
    · subst hef
      rw [if_pos rfl, if_pos rfl, hf.hosts e]
      rfl
    · rw [if_neg hef, if_neg hef]
      exact hf.hosts f
  clients d b hd := by
    rw [clientTurns, reached_filterMap_concat]
    exact hf.clients d b hd
  idle := hf.idle
  addresses d := by
    rw [addressAt_concat]
    exact hf.addresses d
  consistent := hf.consistent
  numbered := by
    refine hf.numbered.concat fun x hx => ?_
    cases hx
    exact ⟨he, congrArg (· + sequenceStride) (hf.hosts e)⟩

/-- **A packet along one of its ways** has the next number of the conversation there. -/
theorem sent {r : Router} {p : Packet} {w : Way} (hf : r.routes.Follows rules h)
    (hw : w ∈ r.plan.ways p) :
    Follows rules (h ++ (r.parcel? p w).toList.map .sent) (r.routes.advance w) := by
  cases w with
  | client c =>
    rcases Plan.of_client_mem_ways hw with hholder | ⟨hbroadcast, hon⟩
    · exact hf.toClient ((hf.consistent.addressOf_iff _ _).mpr hholder) (.inl rfl)
    · obtain ⟨a, ha, hnetwork⟩ := Routes.isClientOn_iff.mp hon
      exact hf.toClient ha (.inr ⟨hbroadcast, hnetwork.symm⟩)
  | adapter =>
    cases hx : r.parcel? p .adapter with
    | none =>
      rw [Option.toList_none, List.map_nil, List.append_nil]
      exact hf
    | some x =>
      obtain ⟨n, -, rfl⟩ := Option.map_eq_some_iff.mp hx
      refine hf.unmoved (fun _ => rfl) (fun _ => rfl) (fun _ _ => rfl) fun x hx => ?_
      cases hx
      trivial
  | host e =>
    refine hf.toHost ?_
    rw [← hf.map]
    exact Plan.of_host_mem_ways hw

end Routes.Follows

/-! ### Packets -/

namespace Router

variable {r : Router} {p : Packet}

theorem follows_sendAlongEach {ws : List Way} (hws : ws.Nodup)
    (hmem : ∀ w ∈ ws, w ∈ r.plan.ways p) (hf : r.routes.Follows rules h) :
    (sendAlongEach p ws r).2.routes.Follows rules
      (h ++ (ws.filterMap (r.parcel? p)).map .sent) := by
  induction ws generalizing r h with
  | nil =>
    rw [List.filterMap_nil, List.map_nil, List.append_nil]
    exact hf
  | cons w ws ih =>
    obtain ⟨hw, hws⟩ := List.nodup_cons.mp hws
    -- The invariant carries the history so far, so each packet is judged by what was before it.
    have hsent := hf.sent (hmem w List.mem_cons_self)
    rw [← routes_sendAlong] at hsent
    -- Each way that remains is one of the packet's, and finds its number as it was.
    have hlater := ih hws (r := (sendAlong p w r).2) (fun v hv => by
      rw [plan_sendAlong]
      exact hmem v (List.mem_cons_of_mem _ hv)) hsent
    rw [filterMap_parcel?_sendAlong hw, List.append_assoc, ← List.map_append] at hlater
    rw [snd_sendAlongEach_cons]
    cases hx : r.parcel? p w with
    | none =>
      rw [List.filterMap_cons_none hx]
      rwa [hx] at hlater
    | some x =>
      rw [List.filterMap_cons_some hx]
      rwa [hx] at hlater

theorem follows_send (hf : r.routes.Follows rules h) (p : Packet) :
    (send p r).2.routes.Follows rules (h ++ (r.parcels p).map .sent) := by
  have hsent := follows_sendAlongEach (r.nodup_ways p) (fun w hw => hw) hf
  rcases snd_send p r with h | h
  · rw [h]
    exact hsent
  · rw [h]
    exact hsent

theorem follows_sendAll (hf : r.routes.Follows rules h) (ps : List Packet) :
    (r.sendAll ps).routes.Follows rules (h ++ (r.trail ps).map .sent) := by
  induction ps generalizing r h with
  | nil =>
    rw [trail, List.map_nil, List.append_nil]
    exact hf
  | cons p ps ih =>
    have hlater := ih (follows_send hf p)
    rw [List.append_assoc, ← List.map_append] at hlater
    exact hlater

end Router

/-! ### Events -/

namespace Bridge

variable {b : Bridge}

/-- A text of a client leaves routes alone, unless the client is given an address by it. -/
theorem routes_settle_clientText (b : Bridge) (c : ConnectionId) (text : String) :
    (b.settle (.clientText c text)).router.routes = b.router.routes ∨
      ∃ a, b.pool.addressOf c = none ∧ b.pool.firstFreeAddress = some a ∧
        (b.settle (.clientText c text)).router.routes =
          { b.router.routes with pool := b.pool.take c a } := by
  simp only [settle]
  split
  · next name args hm =>
    have hroutes : (b.receiveRequest c name).router.routes =
        { b.router.routes with pool := (answerRequest b.pool c name).2 } :=
      Router.routes_sendText c _ _
    rw [hroutes]
    rcases answerRequest_snd b.pool c name with hp | hp
    · rw [hp]
      exact .inl rfl
    · rcases b.pool.allocate_cases c with hq | ⟨a, hc, ha, hq⟩
      · rw [hp, hq]
        exact .inl rfl
      · rw [hp, hq]
        exact .inr ⟨a, hc, ha, rfl⟩
  · left
    split
    · exact router_acknowledge Router.routes (Router.routes_sendText c) _ _
    · rfl
  · exact .inl rfl

theorem follows_notes (hf : b.router.routes.Follows rules h) (e : Event) :
    (b.settle e).router.routes.Follows rules (h ++ b.notes e) := by
  cases e with
  | datagram peer bytes =>
    cases hf' : Aun.Frame.decode bytes with
    | error error => simpa [settle, notes, hf'] using hf
    | ok f =>
      cases hip : peer.ipv4? with
      | none => simpa [settle, notes, hf', hip] using hf
      | some ip =>
        cases ha : b.router.routes.aun.addressOfSocket peer with
        | none => simpa [settle, notes, hf', hip, ha] using hf
        | some sender =>
          simp only [routes_settle_datagram hf' hip ha, notes, hf', hip, ha]
          exact hf.heard _ _
  | clientText c text =>
    -- Whether a request for an address is granted can be seen from the pool afterwards.
    rcases b.routes_settle_clientText c text with hroutes | ⟨a, hc, ha, hroutes⟩
    · have hnotes : b.notes (.clientText c text) = [] := by
        simp only [notes, pool, hroutes]
        split
        · next hc => rw [hc]; rfl
        · rfl
      rw [hroutes, hnotes, List.append_nil]
      exact hf
    · have hnotes : b.notes (.clientText c text) = [.joined c a] := by
        simp only [notes, hc, if_pos, pool, hroutes]
        rw [Pool.addressOf_take, if_pos rfl]
        rfl
      rw [hroutes, hnotes]
      exact hf.joined hc ha
  | clientLeft c => exact hf.left c
  | _ =>
    rw [notes, List.append_nil]
    exact hf

theorem follows_said (hf : s.Follows rules h) (m : Option Message) :
    s.Follows rules (h ++ m.toList.map .said) := by
  cases m with
  | none =>
    rw [Option.toList_none, List.map_nil, List.append_nil]
    exact hf
  | some m =>
    exact hf.unmoved (fun _ => rfl) (fun _ => rfl) (fun _ _ => rfl) fun _ hx => by cases hx

/-- **A step of a run** keeps routes and history together. -/
theorem follows_move (hf : b.router.routes.Follows rules h) (x : Move) :
    (b.move x).router.routes.Follows rules (h ++ b.trace x) := by
  cases x with
  | event now e =>
    show (b.handle now e).router.routes.Follows rules _
    rw [router_handle, trace, ← List.append_assoc, ← List.append_assoc]
    exact Router.follows_sendAll (follows_said (follows_notes hf e) (b.answer? e)) _
  | send p => exact Router.follows_send hf p

/-- **Routes follow the history of a run.** -/
theorem follows_moveAll (hf : b.router.routes.Follows rules []) (xs : List Move) :
    (b.moveAll xs).router.routes.Follows rules (b.history xs) := by
  -- From the end: a step finds the bridge that the steps before it have left.
  induction xs using List.reverseRecOn with
  | nil => exact hf
  | append_singleton xs x ih =>
    rw [moveAll_concat, history_concat]
    exact follows_move ih x

/-- New routes follow the empty history. -/
theorem follows_nil {ns : List UInt8} (haun : s.aun = Aun.Map.ofRules rules)
    (hpool : s.pool = Pool.ofList ns) : s.Follows rules [] where
  map := by
    show { s.aun with counters := .empty } = Aun.Map.ofRules rules
    rw [haun, ← Aun.Map.counters_ofRules rules]
  hosts e := by
    rw [haun, Aun.Map.reached, Aun.Map.counter, Aun.Map.counters_ofRules]
    rfl
  clients c a hc := by
    rw [hpool, Pool.addressOf_ofList] at hc
    cases hc
  idle c _ := by
    rw [hpool]
    exact Pool.reached_ofList ns c
  addresses c := by
    rw [hpool]
    exact Pool.addressOf_ofList ns c
  consistent := by
    rw [hpool]
    exact Pool.consistent_ofList ns
  numbered := areNumbered_nil rules

/-- **Which number each packet of a run has.** The history of a run gives all its messages, and who
has which address. A packet to a host has the number from which the conversation with that host
started last, and four more for each packet since and for itself; one to a client has four for each
packet since the client came to have its address. What is no turn of a conversation does not move
its next number. -/
theorem number_of_sent {start : Bridge} {ns : List UInt8}
    (haun : start.router.routes.aun = Aun.Map.ofRules rules) (hpool : start.pool = Pool.ofList ns)
    (xs : List Move) :
    let b := start.moveAll xs
    let h := start.history xs
    b.router.messages =
        start.router.messages ++ h.filterMap (·.message? start.router.aunPort) ∧
      (∀ c, b.pool.addressOf c = addressAt c h) ∧
      (∀ pre post e p n, h = pre ++ .sent (.toHost e p n) :: post →
        (Aun.Map.ofRules rules).endpointOf p.destination = some e ∧
        n.toNat = ((Turn.origin (hostTurns e pre)).toNat +
          4 * (Turn.count (hostTurns e pre) + 1)) % 2 ^ 32) ∧
      (∀ pre post c p n, h = pre ++ .sent (.toClient c p n) :: post →
        (∃ a, addressAt c pre = some a ∧ (p.destination = a ∨
          p.destination.isBroadcast = true ∧ p.destination.network = a.network)) ∧
        n.toNat = 4 * (Turn.count (clientTurns c pre) + 1) % 2 ^ 32) ∧
      (∀ x e, hostTurns e (b.trace x) = [] →
        (b.move x).router.routes.aun.nextSequence e.text =
          b.router.routes.aun.nextSequence e.text) ∧
      ∀ x c a, b.pool.addressOf c = some a → (b.move x).pool.addressOf c = some a →
        clientTurns c (b.trace x) = [] →
        (b.move x).pool.nextSequence c = b.pool.nextSequence c := by
  intro b h
  have hf : b.router.routes.Follows rules h := follows_moveAll (follows_nil haun hpool) xs
  refine ⟨messages_moveAll start xs, hf.addresses, ?_, ?_, ?_, ?_⟩
  · intro pre post e p n hh
    obtain ⟨he, hn⟩ := hf.numbered pre _ post hh
    exact ⟨he, by rw [hn, Turn.toNat_next_reached]⟩
  · intro pre post c p n hh
    obtain ⟨hc, hn⟩ := hf.numbered pre _ post hh
    refine ⟨hc, ?_⟩
    rw [hn, Turn.toNat_next_reached, origin_clientTurns]
    exact congrArg (· % 2 ^ 32) (Nat.zero_add _)
  · intro x e hx
    -- The step adds no turn to the conversation, which has come to what it had come to.
    rw [Aun.Map.nextSequence_text, Aun.Map.nextSequence_text, (follows_move hf x).hosts, hf.hosts,
      hostTurns, List.filterMap_append]
    rw [hostTurns] at hx
    rw [hx, List.append_nil]
    rfl
  · intro x c a ha hc hx
    rw [Pool.nextSequence_eq, Pool.nextSequence_eq, (follows_move hf x).clients c a hc,
      hf.clients c a ha, clientTurns, List.filterMap_append]
    rw [clientTurns] at hx
    rw [hx, List.append_nil]
    rfl

/-- A host sends number 100 and is sent two packets; a client leaves, comes back and is sent one. -/
theorem number_of_sent_again :
    let start : Bridge := ⟨⟨⟨127, 254⟩, 2, 0, none⟩,
      .ofRoutes ⟨.ofRules [.host (.ofNat 0x0A000005) ⟨1, 5⟩], .empty, Pool.ofList [200]⟩ 32768,
      .ofBackends [] 0 "",
      [.fresh (fun _ port => port = 0x99) fun _ p => [{ p with destination := p.source }]]⟩
    let request := "\x7b\"type\":\"ctrl\",\"request\":\"allocate\"\x7d"
    let toHost : Packet := ⟨⟨127, 254⟩, ⟨1, 5⟩, 0x99, 0x80, [0x42]⟩
    let toClient : Packet := ⟨⟨127, 254⟩, ⟨200, 1⟩, 0x99, 0x80, [0x42]⟩
    let xs : List Move :=
      [.event 0 (.datagram (.ofIpv4 (.ofNat 0x0A000005) 32768) [2, 0x99, 0x80, 0, 100, 0, 0, 0]),
        .send toHost, .event 1 (.clientText ⟨"a"⟩ request), .send toClient,
        .event 2 (.clientLeft ⟨"a"⟩), .event 3 (.clientText ⟨"a"⟩ request), .send toClient]
    let h := start.history xs
    (∃ pre post n, h = pre ++ .sent (.toHost ⟨.ofNat 0x0A000005, none⟩ toHost n) :: post ∧
      n.toNat = (100 + 4 * 2) % 2 ^ 32) ∧
    ∃ pre post n, h = pre ++ .sent (.toClient ⟨"a"⟩ toClient n) :: post ∧
      (∃ x, Occurrence.left x ∈ pre) ∧ n.toNat = 4 * 1 % 2 ^ 32 := by
  intro start request toHost toClient xs h
  obtain ⟨-, -, hhosts, hclients, -, -⟩ := @number_of_sent _ start [200] rfl rfl xs
  have hhost : h = h.take 3 ++ .sent (.toHost ⟨.ofNat 0x0A000005, none⟩ toHost 108) ::
      h.drop 4 := by decide
  have hclient : h = h.take 10 ++ .sent (.toClient ⟨"a"⟩ toClient 4) :: h.drop 11 := by
    decide
  refine ⟨⟨h.take 3, h.drop 4, 108, hhost, ?_⟩, h.take 10, h.drop 11, 4, hclient, ?_, ?_⟩
  · rw [(hhosts _ _ _ _ _ hhost).2]
    decide
  · exact ⟨⟨"a"⟩, by decide⟩
  · rw [(hclients _ _ _ _ _ hclient).2]
    decide

end Bridge

end Econet
