import Econet.Proofs.Bridge.Numbering

/-!
# Clients come and go

A browser client connects, says something, and leaves. However such visits are interleaved, with
each other and with whatever else happens to a bridge, nobody has an address or a sequence number
but clients that are there. When all of them have left, nothing is left of them.

## Main definitions

* `Event.visit`: what a client does from its beginning to its end
* `IsOrderly es`: a run in which every client keeps to that
* `IsPresent c es`: the client has connected and not left
* `Pool.Remembers p c`: the pool has an address or a sequence number for the connection

## Main results

* `Router.remembers_sendAll`: to send packets makes the pool remember nobody else
* `Bridge.Tracks.handle`: an event of an orderly run keeps clients and pool together
* `Bridge.present_of_remembers`: whom a pool remembers at any point of an orderly run
-/

namespace Econet

open Account (Time)
open Client (ConnectionId Pool)

/-! ### Visits of clients -/

namespace Event

/-- The event is one that the bridge is told of by a browser client. -/
def isOf (c : ConnectionId) : Event → Bool
  | .clientConnected d _ | .clientText d _ | .clientLeft d => d = c
  | .datagram _ _ | .clientLink _ _ | .serialLine _ | .serialClosed | .serialLink _
  | .housekeeping => false

/-- What a client does while it is there: it connects and says something. -/
def stay (c : ConnectionId) (link : Link) (texts : List String) : List Event :=
  .clientConnected c link :: texts.map (.clientText c)

/-- What a client does from its beginning to its end: in the end it leaves. -/
def visit (c : ConnectionId) (link : Link) (texts : List String) : List Event :=
  stay c link texts ++ [.clientLeft c]

end Event

/-- The events of a client in a run. -/
def eventsOf (c : ConnectionId) (es : List (Time × Event)) : List Event :=
  (es.map (·.2)).filter (Event.isOf c)

/-- Every client has come as far as it likes in a visit, while others did whatever they did. -/
def IsOrderly (es : List (Time × Event)) : Prop :=
  ∀ c, ∃ link texts, eventsOf c es <+: Event.visit c link texts

/-- The client has connected and not left. -/
def IsPresent (c : ConnectionId) (es : List (Time × Event)) : Prop :=
  (∃ link, .clientConnected c link ∈ eventsOf c es) ∧ .clientLeft c ∉ eventsOf c es

variable {c d : ConnectionId} {es : List (Time × Event)} {x : Time × Event}

theorem eventsOf_concat (c : ConnectionId) (es : List (Time × Event)) (x : Time × Event) :
    eventsOf c (es ++ [x]) = eventsOf c es ++ if x.2.isOf c then [x.2] else [] := by
  rw [eventsOf, List.map_append, List.filter_append]
  cases h : x.2.isOf c <;> simp [eventsOf, h]

/-- A run is orderly up to each of its points. -/
theorem IsOrderly.of_concat (h : IsOrderly (es ++ [x])) : IsOrderly es := by
  intro c
  obtain ⟨link, texts, hprefix⟩ := h c
  rw [eventsOf_concat] at hprefix
  exact ⟨link, texts, (List.prefix_append _ _).trans hprefix⟩

/-- What a client did before its last event was part of its stay. -/
theorem IsOrderly.prefix_stay (h : IsOrderly (es ++ [x])) (hx : x.2.isOf c) :
    ∃ link texts, eventsOf c es <+: Event.stay c link texts ∧
      eventsOf c es ++ [x.2] <+: Event.visit c link texts := by
  obtain ⟨link, texts, hprefix⟩ := h c
  rw [eventsOf_concat, if_pos hx] at hprefix
  refine ⟨link, texts, ?_, hprefix⟩
  refine List.prefix_of_prefix_length_le ((List.prefix_append _ _).trans hprefix)
    (List.prefix_append _ _) ?_
  have hlength := hprefix.length_le
  simp only [Event.visit, List.length_append, List.length_singleton] at hlength
  exact Nat.le_of_succ_le_succ hlength

theorem clientLeft_not_mem_stay (c : ConnectionId) (link : Link) (texts : List String) :
    Event.clientLeft c ∉ Event.stay c link texts := by
  simp [Event.stay]

/-- A client that connects was not there before. -/
theorem IsOrderly.isPresent_clientConnected {now : Time} {link : Link}
    (h : IsOrderly (es ++ [(now, .clientConnected c link)])) :
    IsPresent c (es ++ [(now, .clientConnected c link)]) := by
  have hx : (Event.clientConnected c link).isOf c := decide_eq_true rfl
  obtain ⟨link', texts, hstay, -⟩ := h.prefix_stay hx
  rw [IsPresent, eventsOf_concat, if_pos hx]
  refine ⟨⟨link, List.mem_append_right _ (List.mem_singleton_self _)⟩, fun hleft => ?_⟩
  rcases List.mem_append.mp hleft with hleft | hleft
  · exact clientLeft_not_mem_stay c link' texts (hstay.subset hleft)
  · cases List.mem_singleton.mp hleft

/-- A client that says something is there. -/
theorem IsOrderly.isPresent_clientText {now : Time} {text : String}
    (h : IsOrderly (es ++ [(now, .clientText c text)])) : IsPresent c es := by
  have hx : (Event.clientText c text).isOf c := decide_eq_true rfl
  obtain ⟨link, texts, hstay, hvisit⟩ := h.prefix_stay hx
  refine ⟨⟨link, ?_⟩, fun hleft => clientLeft_not_mem_stay c link texts (hstay.subset hleft)⟩
  -- What it has said is not the first thing that it did.
  cases hes : eventsOf c es with
  | nil =>
    rw [hes] at hvisit
    cases (List.cons_prefix_cons.mp hvisit).1
  | cons e _ =>
    rw [hes] at hstay
    rw [← (List.cons_prefix_cons.mp hstay).1]
    exact List.mem_cons_self

theorem not_isPresent_clientLeft (es : List (Time × Event)) (now : Time) (c : ConnectionId) :
    ¬ IsPresent c (es ++ [(now, .clientLeft c)]) := by
  rintro ⟨-, hleft⟩
  have hx : (Event.clientLeft c).isOf c := decide_eq_true rfl
  rw [eventsOf_concat, if_pos hx] at hleft
  exact hleft (List.mem_append_right _ (List.mem_singleton_self _))

theorem isPresent_concat_of_isOf_eq_false (h : x.2.isOf c = false) :
    IsPresent c (es ++ [x]) ↔ IsPresent c es := by
  rw [IsPresent, eventsOf_concat, h, if_neg Bool.false_ne_true, List.append_nil]
  rfl

theorem isPresent_concat_clientText (es : List (Time × Event)) (now : Time) (d : ConnectionId)
    (text : String) :
    IsPresent c (es ++ [(now, .clientText d text)]) ↔ IsPresent c es := by
  rw [IsPresent, IsPresent, eventsOf_concat]
  split <;> simp

/-! ### What a pool remembers -/

namespace Client.Pool

/-- The pool has an address or a sequence number for the connection. -/
def Remembers (p : Pool) (c : ConnectionId) : Prop :=
  (p.addressOf c).isSome ∨ (p.sequences.get? c).isSome

variable {p q : Pool} {a : Address}

theorem not_remembers_ofList (ns : List UInt8) (c : ConnectionId) :
    ¬ (ofList ns).Remembers c := by
  simp [Remembers, addressOf_ofList, sequences_ofList]

theorem remembers_take (p : Pool) (c d : ConnectionId) (a : Address) :
    (p.take c a).Remembers d ↔ c = d ∨ p.Remembers d := by
  have hsequences : (p.take c a).sequences = p.sequences := rfl
  rw [Remembers, Remembers, addressOf_take, hsequences]
  split <;> simp_all

theorem remembers_free (p : Pool) (c d : ConnectionId) :
    (p.free c).Remembers d ↔ c ≠ d ∧ p.Remembers d := by
  rw [Remembers, Remembers, addressOf_free, sequences_free, Table.get?_erase]
  split <;> simp_all

theorem remembers_advance (p : Pool) (c d : ConnectionId) :
    (p.advance c).Remembers d ↔ c = d ∨ p.Remembers d := by
  have hsequences : (p.advance c).sequences = p.sequences.insert c (p.nextSequence c) := rfl
  rw [Remembers, Remembers, addressOf_advance, hsequences, Table.get?_insert]
  split <;> simp_all

end Client.Pool

/-- A number is used up for a client that the packet goes to. -/
theorem Routes.remembers_foldl_advance {s : Routes} {ws : List Way}
    (h : (ws.foldl Routes.advance s).pool.Remembers c) :
    s.pool.Remembers c ∨ .client c ∈ ws := by
  induction ws generalizing s with
  | nil => exact .inl h
  | cons w ws ih =>
    rcases ih h with hw | hws
    · cases w with
      | client d =>
        rcases (s.pool.remembers_advance d c).mp hw with rfl | hs
        · exact .inr List.mem_cons_self
        · exact .inl hs
      | adapter => exact .inl hw
      | host e => exact .inl hw
    · exact .inr (List.mem_cons_of_mem _ hws)

namespace Router

variable {r : Router}

theorem routes_sendAlongEach (p : Packet) (ws : List Way) (r : Router) :
    (sendAlongEach p ws r).2.routes = ws.foldl Routes.advance r.routes := by
  induction ws generalizing r with
  | nil => rfl
  | cons w ws ih => rw [snd_sendAlongEach_cons, ih, routes_sendAlong, List.foldl_cons]

/-- The clients that a packet goes to have addresses. -/
theorem isSome_addressOf_of_mem_ways {p : Packet} (h : r.routes.pool.Consistent)
    (hc : .client c ∈ r.plan.ways p) : (r.routes.pool.addressOf c).isSome := by
  rcases Plan.of_client_mem_ways hc with hholder | ⟨-, hclient⟩
  · exact Option.isSome_of_eq_some ((h.addressOf_iff c p.destination).mpr hholder)
  · obtain ⟨a, ha, -⟩ := Routes.isClientOn_iff.mp hclient
    exact Option.isSome_of_eq_some ha

theorem remembers_send {p : Packet} (h : r.routes.pool.Consistent)
    (hc : (send p r).2.routes.pool.Remembers c) : r.routes.pool.Remembers c := by
  have hroutes : (send p r).2.routes = (r.plan.ways p).foldl Routes.advance r.routes := by
    rw [← routes_sendAlongEach]
    rcases snd_send p r with hs | hs
    · rw [hs]
    · rw [hs]
      rfl
  rw [hroutes] at hc
  rcases Routes.remembers_foldl_advance hc with hr | hways
  · exact hr
  · exact .inl (isSome_addressOf_of_mem_ways h hways)

/-- **To send packets makes the pool remember nobody else.** -/
theorem remembers_sendAll {ps : List Packet} (h : r.routes.pool.Consistent)
    (hc : (r.sendAll ps).routes.pool.Remembers c) : r.routes.pool.Remembers c := by
  induction ps generalizing r with
  | nil => exact hc
  | cons p ps ih => exact remembers_send h (ih (h.evolves (sends_send p r).evolves) hc)

end Router

/-! ### Clients and pool of a bridge -/

namespace Bridge

variable {b : Bridge}

/-- Only a client's arrival and departure change who is connected. -/
theorem mem_clients_settle (b : Bridge) (e : Event) (c : ConnectionId) :
    c ∈ (b.settle e).router.clients.keys ↔
      match e with
      | .clientConnected d _ => d = c ∨ c ∈ b.router.clients.keys
      | .clientLeft d => d ≠ c ∧ c ∈ b.router.clients.keys
      | _ => c ∈ b.router.clients.keys := by
  cases e with
  | datagram peer bytes =>
    have hkeys := congrArg Plan.clients (b.plan_settle_datagram peer bytes)
    exact iff_of_eq (congrArg (c ∈ ·) hkeys)
  | clientConnected d link =>
    simp only [settle, mapRouter, Router.connect, Table.mem_keys_iff, Table.get?_insert]
    split <;> simp_all
  | clientText d text =>
    have hkeys : (b.settle (.clientText d text)).router.clients.keys = b.router.clients.keys := by
      simp only [settle]
      split
      · exact congrArg Plan.clients (Router.plan_sendText d _ _)
      · split
        · exact congrArg Plan.clients (router_acknowledge Router.plan (Router.plan_sendText d) _ _)
        · rfl
      · rfl
    exact iff_of_eq (congrArg (c ∈ ·) hkeys)
  | clientLeft d =>
    simp only [settle, mapRouter, Router.disconnect, Table.mem_keys_iff, Table.get?_erase]
    split <;> simp_all
  | clientLink d change =>
    -- The links of clients change, but not whose they are.
    have hkeys : (b.router.clients.modify d (·.change change)).keys = b.router.clients.keys :=
      b.router.clients.keys_modify d _
    exact iff_of_eq (congrArg (c ∈ ·) hkeys)
  | _ => rfl

theorem clients_handle (b : Bridge) (now : Time) (e : Event) :
    (b.handle now e).router.clients.keys = (b.settle e).router.clients.keys := by
  rw [router_handle]
  exact congrArg Plan.clients (Router.plan_sendAll _ _)

/-- An event's own effects on the pool: a client is given an address, or gives it up. -/
theorem pool_settle (b : Bridge) (e : Event) :
    ((∀ d, e ≠ .clientLeft d) ∧ (b.settle e).pool = b.pool) ∨
    (∃ d text a, e = .clientText d text ∧ b.pool.addressOf d = none ∧
      b.pool.firstFreeAddress = some a ∧ (b.settle e).pool = b.pool.take d a) ∨
    ∃ d, e = .clientLeft d ∧ (b.settle e).pool = b.pool.free d := by
  cases e with
  | datagram peer bytes =>
    refine .inl ⟨fun d h => Event.noConfusion h, ?_⟩
    simp only [settle]
    split
    · exact router_acknowledge (fun r => r.routes.pool) (fun _ _ => rfl) _ _
    · rfl
  | clientText d text =>
    rcases b.routes_settle_clientText d text with hroutes | ⟨a, hd, ha, hroutes⟩
    · exact .inl ⟨fun d h => Event.noConfusion h, congrArg Routes.pool hroutes⟩
    · exact .inr (.inl ⟨d, text, a, rfl, hd, ha, congrArg Routes.pool hroutes⟩)
  | clientLeft d => exact .inr (.inr ⟨d, rfl, rfl⟩)
  | _ => exact .inl ⟨fun d h => Event.noConfusion h, rfl⟩

theorem consistent_settle (h : b.pool.Consistent) (e : Event) : (b.settle e).pool.Consistent := by
  rcases b.pool_settle e with ⟨-, hp⟩ | ⟨d, -, a, -, hd, ha, hp⟩ | ⟨d, -, hp⟩
  · exact hp ▸ h
  · obtain ⟨hn, hs, hfree⟩ := Pool.holderOf_of_firstFreeAddress ha
    exact hp ▸ h.take hd hn hs hfree
  · exact hp ▸ h.free d

/-- Whom the pool remembers after an event: a client that spoke, or one that it remembered and that
did not leave. -/
theorem remembers_handle {e : Event} {now : Time} (h : b.pool.Consistent)
    (hc : (b.handle now e).pool.Remembers c) :
    (∃ text, e = .clientText c text) ∨ b.pool.Remembers c ∧ e ≠ .clientLeft c := by
  rw [pool, router_handle] at hc
  have hc := Router.remembers_sendAll (consistent_settle h e) hc
  rcases b.pool_settle e with ⟨he, hp⟩ | ⟨d, text, a, rfl, -, -, hp⟩ | ⟨d, rfl, hp⟩
  · exact .inr ⟨hp ▸ hc, he c⟩
  · rcases (b.pool.remembers_take d c a).mp (hp ▸ hc) with rfl | hc
    · exact .inl ⟨text, rfl⟩
    · exact .inr ⟨hc, nofun⟩
  · obtain ⟨hd, hc⟩ := (b.pool.remembers_free d c).mp (hp ▸ hc)
    exact .inr ⟨hc, fun he => hd (Event.clientLeft.inj he)⟩

/-! ### Orderly runs -/

/-- Clients are those who are there, and the pool remembers nobody else. -/
structure Tracks (b : Bridge) (es : List (Time × Event)) : Prop where
  consistent : b.pool.Consistent
  mem_clients_iff : ∀ c, c ∈ b.router.clients.keys ↔ IsPresent c es
  isPresent : ∀ c, b.pool.Remembers c → IsPresent c es

/-- **An event of an orderly run** keeps clients and pool together. -/
theorem Tracks.handle (hb : b.Tracks es) {now : Time} {e : Event}
    (h : IsOrderly (es ++ [(now, e)])) : (b.handle now e).Tracks (es ++ [(now, e)]) := by
  have hclients : ∀ c, c ∈ (b.handle now e).router.clients.keys ↔
      IsPresent c (es ++ [(now, e)]) := by
    intro c
    rw [clients_handle, mem_clients_settle, hb.mem_clients_iff]
    by_cases hc : e.isOf c
    · -- The event is one of the client's own.
      cases e with
      | clientConnected d link =>
        obtain rfl : d = c := of_decide_eq_true hc
        exact iff_of_true (.inl rfl) h.isPresent_clientConnected
      | clientText d text => exact (isPresent_concat_clientText es now d text).symm
      | clientLeft d =>
        obtain rfl : d = c := of_decide_eq_true hc
        exact iff_of_false (fun hd => hd.1 rfl) (not_isPresent_clientLeft es now d)
      | _ => cases hc
    · have hother : IsPresent c (es ++ [(now, e)]) ↔ IsPresent c es :=
        isPresent_concat_of_isOf_eq_false (Bool.eq_false_iff.mpr hc)
      rw [hother]
      cases e with
      | clientConnected d link => exact or_iff_right (of_decide_eq_false (Bool.eq_false_iff.mpr hc))
      | clientLeft d => exact and_iff_right (of_decide_eq_false (Bool.eq_false_iff.mpr hc))
      | _ => rfl
  refine ⟨hb.consistent.evolves (b.evolves_handle now e), hclients, fun c hc => ?_⟩
  rw [← hclients, clients_handle, mem_clients_settle, hb.mem_clients_iff]
  rcases remembers_handle hb.consistent hc with ⟨text, rfl⟩ | ⟨hc, hleft⟩
  · exact h.isPresent_clientText
  · have hpresent := hb.isPresent c hc
    cases e with
    | clientConnected d link => exact .inr hpresent
    | clientLeft d => exact ⟨fun hd => hleft (hd ▸ rfl), hpresent⟩
    | _ => exact hpresent

/-- **Clients and pool stay together in an orderly run.** -/
theorem tracks_handleAll {start : Bridge} {ns : List UInt8} (hpool : start.pool = Pool.ofList ns)
    (hclients : start.router.clients = .empty) (h : IsOrderly es) :
    (start.handleAll es).Tracks es := by
  -- From the end: a run is orderly up to its last event.
  induction es using List.reverseRecOn with
  | nil =>
    refine ⟨?_, fun c => ?_, fun c hc => ?_⟩
    · show start.pool.Consistent
      exact hpool ▸ Pool.consistent_ofList ns
    · show c ∈ start.router.clients.keys ↔ _
      rw [hclients]
      exact iff_of_false nofun nofun
    · exact absurd (hpool ▸ hc) (Pool.not_remembers_ofList ns c)
  | append_singleton es x ih =>
    rw [handleAll_append]
    exact (ih h.of_concat).handle h

/-- **Whom a pool remembers at any point of an orderly run.** Who has an address or a sequence
number is a client that has connected and not left. When all that have connected have left, the
pool is empty and there are no clients. -/
theorem present_of_remembers {start : Bridge} {ns : List UInt8}
    (hpool : start.pool = Pool.ofList ns) (hclients : start.router.clients = .empty)
    (h : IsOrderly es) :
    let b := start.handleAll es
    (∀ c, b.pool.Remembers c → c ∈ b.router.clients.keys ∧ IsPresent c es) ∧
      ((∀ c, ¬ IsPresent c es) →
        b.pool.allocated = 0 ∧ (∀ a, b.pool.holderOf a = none) ∧ b.pool.sequences.size = 0 ∧
          b.router.clientCount = 0) := by
  intro b
  have hb : b.Tracks es := tracks_handleAll hpool hclients h
  refine ⟨fun c hc => ?_, fun hgone => ?_⟩
  · have hpresent := hb.isPresent c hc
    exact ⟨(hb.mem_clients_iff c).mpr hpresent, hpresent⟩
  · have hforgotten (c : ConnectionId) : ¬ b.pool.Remembers c :=
      fun hc => hgone c (hb.isPresent c hc)
    have haddress (c : ConnectionId) : b.pool.addressOf c = none :=
      Option.not_isSome_iff_eq_none.mp fun hc => hforgotten c (.inl hc)
    refine ⟨(Table.size_eq_zero_iff _).mpr haddress, fun a => ?_,
      (Table.size_eq_zero_iff _).mpr fun c => ?_, (Table.size_eq_zero_iff _).mpr fun c => ?_⟩
    · refine Option.eq_none_iff_forall_ne_some.mpr fun c hc => ?_
      cases (haddress c).symm.trans ((hb.consistent.addressOf_iff c a).mpr hc)
    · exact Option.not_isSome_iff_eq_none.mp fun hc => hforgotten c (.inr hc)
    · refine Option.eq_none_iff_forall_ne_some.mpr fun link hlink => hgone c ?_
      exact (hb.mem_clients_iff c).mp ((Table.mem_keys_iff _ _).mpr ⟨link, hlink⟩)

/-- Two visits at once: one client sends the other a packet, which reads it, and leaves first. Its
address is free at once, and in the end so is that of the other, whose number is forgotten. -/
theorem present_of_remembers_visits :
    let start : Bridge := ⟨⟨⟨127, 254⟩, 2, 0, none⟩,
      .ofRoutes ⟨.empty, .empty, Pool.ofList [200]⟩ 32768, .ofBackends [] 0 "", []⟩
    let request := "\x7b\"type\":\"ctrl\",\"request\":\"allocate\"\x7d"
    let packet :=
      "\x7b\"type\":\"pkt\",\"src\":\"200.1\",\"dst\":\"200.2\",\"payload\":\"ApmAAAQAAABB\"\x7d"
    let link := Link.ofCapacity 16
    let es : List (Time × Event) := [(0, .clientConnected ⟨"a"⟩ link),
      (1, .clientConnected ⟨"b"⟩ link), (2, .clientText ⟨"a"⟩ request),
      (3, .clientText ⟨"b"⟩ request), (4, .clientText ⟨"a"⟩ packet),
      (5, .clientLink ⟨"b"⟩ .readAll), (6, .clientLeft ⟨"a"⟩)]
    let b := start.handleAll es
    let b' := start.handleAll (es ++ [(7, .clientLeft ⟨"b"⟩)])
    b.pool.allocated = 1 ∧ b.pool.sequences.get? ⟨"b"⟩ = some 4 ∧
      IsPresent ⟨"b"⟩ es ∧ ⟨"b"⟩ ∈ b.router.clients.keys ∧
      b'.pool.allocated = 0 ∧ b'.pool.sequences.size = 0 ∧ b'.router.clientCount = 0 := by
  intro start request packet link es b b'
  have hown (c : ConnectionId) : eventsOf c (es ++ [(7, .clientLeft ⟨"b"⟩)]) =
      if c = ⟨"a"⟩ then Event.visit ⟨"a"⟩ link [request, packet]
      else if c = ⟨"b"⟩ then Event.visit ⟨"b"⟩ link [request] else [] := by
    by_cases ha : c = ⟨"a"⟩
    · subst ha
      rfl
    · by_cases hb : c = ⟨"b"⟩
      · subst hb
        rfl
      · simp [eventsOf, es, Event.isOf, ha, hb, Ne.symm ha, Ne.symm hb]
  have horderly : IsOrderly (es ++ [(7, .clientLeft ⟨"b"⟩)]) := by
    intro c
    rw [hown]
    split
    · next ha => exact ⟨link, [request, packet], ha ▸ List.prefix_rfl⟩
    · split
      · next hb => exact ⟨link, [request], hb ▸ List.prefix_rfl⟩
      · exact ⟨link, [], List.nil_prefix⟩
  have hgone (c : ConnectionId) : ¬ IsPresent c (es ++ [(7, .clientLeft ⟨"b"⟩)]) := by
    rintro ⟨⟨l, hconnected⟩, hleft⟩
    rw [hown] at hconnected hleft
    split at hleft
    · next ha => exact hleft (by simp [Event.visit, ha])
    · split at hleft
      · next hb => exact hleft (by simp [Event.visit, hb])
      · next ha hb => simp [ha, hb] at hconnected
  have hsequence : b.pool.sequences.get? ⟨"b"⟩ = some 4 := by decide
  have hstart : start.pool = Pool.ofList [200] := rfl
  obtain ⟨hclient, hpresent⟩ := (present_of_remembers hstart rfl horderly.of_concat).1 ⟨"b"⟩
    (.inr (Option.isSome_of_eq_some hsequence))
  obtain ⟨hallocated, -, hsequences, hcount⟩ := (present_of_remembers hstart rfl horderly).2 hgone
  exact ⟨by decide, hsequence, hpresent, hclient, hallocated, hsequences, hcount⟩

end Bridge

end Econet
