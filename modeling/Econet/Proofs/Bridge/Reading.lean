import Econet.Proofs.Bridge.Batches

/-!
# What far ends read

The far end of a link reads when it likes, and the bridge is not told. As long as it has the same
link and goes on reading, it reads what the link took, in order and each text once; the rest waits
in the queue, which never holds more texts than agreed.

## Main definitions

* `Link.read l x`: what the far end reads when the change `x` happens to the link
* `Link.Turn`, `Event.turn?`: what becomes of a link, and what an event makes of the link of a way
* `Router.unread r w`: what waits in the queue that the way `w` leads to
* `Router.Reads w r texts attempts s`: from `r` to `s` the far end of `w` read texts
* `Bridge.reading b w xs`: what the far end of `w` reads in a run

## Main results

* `Link.hasRoom_change`: who reads a text makes room for another one
* `Bridge.settle_turn`: what an event by itself does to links
* `Bridge.reading_append_unread`: what is read in a run, and what waits after it
* `Bridge.isBounded_moveAll`: no queue holds more than agreed
-/

namespace Econet

open Account (Time)
open Client (ConnectionId)

/-! ### One link -/

namespace Link

/-- What the far end reads when something happens to the link. -/
def read (l : Link) : Change → List String
  | .receive => l.queue.head?.toList
  | .readAll => l.queue
  | .close | .abandon => []

/-- No more texts are unread than agreed. -/
def IsBounded (l : Link) : Prop := l.queue.length ≤ l.capacity

variable {l : Link} {x : Change}

/-- What is read stood in front, and the rest stays where it is. -/
theorem read_append_queue_change (hx : x ≠ .abandon) :
    l.read x ++ (l.change x).queue = l.queue := by
  cases x with
  | receive =>
    show l.queue.head?.toList ++ l.queue.tail = l.queue
    cases l.queue <;> rfl
  | readAll => exact List.append_nil _
  | close => rfl
  | abandon => exact absurd rfl hx

theorem length_queue_change_le (l : Link) (x : Change) :
    (l.change x).queue.length ≤ l.queue.length := by
  cases x with
  | receive =>
    show l.queue.tail.length ≤ l.queue.length
    rw [List.length_tail]
    exact Nat.sub_le _ _
  | readAll => exact Nat.zero_le _
  | close => exact Nat.le_refl _
  | abandon => exact Nat.zero_le _

theorem capacity_change (l : Link) (x : Change) : (l.change x).capacity = l.capacity := by
  cases x <;> rfl

theorem IsBounded.change (h : l.IsBounded) (x : Change) : (l.change x).IsBounded := by
  rw [IsBounded, capacity_change]
  exact (l.length_queue_change_le x).trans h

/-- A link takes no more than it has room for. -/
theorem IsBounded.pushAll_take (h : l.IsBounded) (texts : List String) :
    (l.pushAll (texts.take l.room)).IsBounded := by
  have hroom : l.room ≤ l.capacity - l.queue.length := by
    unfold room
    split <;> omega
  show (l.queue ++ texts.take l.room).length ≤ l.capacity
  rw [List.length_append, List.length_take]
  unfold IsBounded at h
  omega

/-- **Who reads a text makes room for another one.** -/
theorem hasRoom_change (h : l.IsBounded) (hconnected : l.isConnected = true)
    (hx : l.read x ≠ []) : (l.change x).hasRoom = true := by
  have habandon : x ≠ .abandon := by
    rintro rfl
    exact hx rfl
  -- Both ends are still there, since a text was read.
  have hstill : (l.change x).isConnected = true := by
    cases x with
    | receive => exact hconnected
    | readAll => exact hconnected
    | close => exact absurd rfl hx
    | abandon => exact absurd rfl hx
  have hlength : (l.read x).length + (l.change x).queue.length = l.queue.length := by
    rw [← List.length_append, read_append_queue_change habandon]
  have hpos : 0 < (l.read x).length := List.length_pos_iff.mpr hx
  unfold IsBounded at h
  rw [hasRoom, hstill, capacity_change, Bool.true_and, decide_eq_true_eq]
  omega

end Link

/-! ### Events and links -/

/-- What becomes of a link. -/
inductive Link.Turn where
  /-- Another one takes its place, or none. -/
  | replace (other : Option Link)
  | change (x : Link.Change)

/-- The link of a way after what has become of it. -/
def Link.Turn.after (link : Option Link) : Link.Turn → Option Link
  | .replace other => other
  | .change x => link.map (·.change x)

/-- The far end reads no more of what stands in the queue. -/
def Link.Turn.cuts : Link.Turn → Bool
  | .replace _ => true
  | .change x => x = .abandon

/-- What the far end reads then. -/
def Link.Turn.read (link : Option Link) : Link.Turn → List String
  | .replace _ => []
  | .change x => link.elim [] (·.read x)

/-- As long as nothing is cut off, what is read stood in front. -/
theorem Link.Turn.read_append_queue_after {u : Link.Turn} (h : u.cuts = false)
    (link : Option Link) :
    u.read link ++ (u.after link).elim [] (·.queue) = link.elim [] (·.queue) := by
  cases u with
  | replace other => cases h
  | change x =>
    cases link with
    | none => rfl
    | some l => exact Link.read_append_queue_change (of_decide_eq_false h)

/-- The way whose link an event changes by itself, and what becomes of the link. -/
def Event.turn? : Event → Option (Way × Link.Turn)
  | .clientConnected c link => some (.client c, .replace (some link))
  | .clientLeft c => some (.client c, .replace none)
  | .clientLink c x => some (.client c, .change x)
  | .serialClosed => some (.adapter, .replace none)
  | .serialLink x => some (.adapter, .change x)
  | .datagram _ _ | .clientText _ _ | .serialLine _ | .housekeeping => none

/-- Links only come with clients. -/
theorem Event.eq_clientConnected_of_turn? {e : Event} {w : Way} {l : Link}
    (h : e.turn? = some (w, .replace (some l))) : ∃ c, e = .clientConnected c l := by
  cases e with
  | clientConnected c link =>
    cases h
    exact ⟨c, rfl⟩
  | _ => cases h

/-- The far end of a way reads no more of what stands in its queue. -/
def Event.cuts (e : Event) (w : Way) : Bool := e.turn?.any fun x => x.1 = w && x.2.cuts

namespace Router

variable {r s t : Router} {w : Way} {as bs : List Attempt} {ss ts : List String}

/-- What waits in the queue that a way leads to. -/
def unread (r : Router) (w : Way) : List String := (r.linkOf w).elim [] (·.queue)

/-- A way with no link at its end takes nothing. -/
theorem Tries.received_eq_nil (h : Tries r as s) (hl : r.linkOf w = none) :
    w.received as = [] := by
  rw [Way.received, List.filterMap_eq_nil_iff]
  intro a ha
  -- A text would have been refused where there is no link, and another message leaves no text.
  obtain ⟨pre, post, he⟩ := List.append_of_mem ha
  rw [Way.received?_eq]
  cases hm : w.text? a.message with
  | none => exact ite_self _
  | some text =>
    have htaken : a.isTaken = false := by
      rw [h.isTaken pre a post he, takes_of_text? hm, hl]
      rfl
    rw [htaken]
    rfl

theorem Tries.unread_eq (h : Tries r as s) (w : Way) :
    s.unread w = r.unread w ++ w.received as := by
  rw [unread, unread, h.linkOf]
  cases hl : r.linkOf w with
  | none => exact (h.received_eq_nil hl).symm
  | some l => rfl

/-- The far end of a way reads texts, while several messages are handed to ways out. -/
structure Reads (w : Way) (r : Router) (texts : List String) (attempts : List Attempt)
    (s : Router) : Prop where
  /-- The messages are all in the journal. -/
  journal : s.journal = r.journal ++ attempts
  /-- What waited is read before what the link took, and the rest waits now. -/
  unread : texts ++ s.unread w = r.unread w ++ w.received attempts

theorem Tries.reads (h : Tries r as s) (w : Way) : Reads w r [] as s :=
  ⟨h.journal, h.unread_eq w⟩

/-- What is read later stood behind. -/
theorem Reads.trans (h : Reads w r ss as s) (k : Reads w s ts bs t) :
    Reads w r (ss ++ ts) (as ++ bs) t where
  journal := by rw [k.journal, h.journal, List.append_assoc]
  unread := by
    rw [List.append_assoc, k.unread, ← List.append_assoc, h.unread, Way.received_append,
      List.append_assoc]

/-- Only links of browser clients change with the table of clients. -/
theorem linkOf_eq_of_clients {c : ConnectionId} {u : Link.Turn}
    (ha : s.adapter = r.adapter)
    (hc : ∀ d, s.clients.get? d =
      if c = d then u.after (r.clients.get? d) else r.clients.get? d) (v : Way) :
    s.linkOf v = if .client c = v then u.after (r.linkOf v) else r.linkOf v := by
  cases v with
  | client d =>
    simp only [Way.client.injEq]
    exact hc d
  | adapter => exact congrArg (Option.map _) ha
  | host e => rfl

/-- No queue holds more than agreed. -/
def IsBounded (r : Router) : Prop := ∀ w l, r.linkOf w = some l → l.IsBounded

theorem Tries.isBounded (h : Tries r as s) (hr : r.IsBounded) : s.IsBounded := by
  intro w l hl
  rw [h.linkOf_eq] at hl
  obtain ⟨m, hm, rfl⟩ := Option.map_eq_some_iff.mp hl
  exact (hr w m hm).pushAll_take _

end Router

namespace Bridge

open Router (Tries Reads)

variable {b : Bridge} {e : Event} {w : Way}

theorem exists_tries_acknowledge {α : Type} {send : α → Router.Sending} (message : α → Message)
    (h : ∀ a, send a = Router.handOver (message a)) (b : Bridge) (ack : Option α) :
    ∃ attempts, Tries b.router attempts (b.acknowledge send ack).router := by
  cases ack with
  | none => exact ⟨[], .of_eq rfl rfl rfl rfl⟩
  | some a =>
    refine ⟨[⟨message a, b.router.takes [] (message a)⟩], ?_⟩
    show Tries b.router _ (send a b.router).2
    rw [h]
    exact Router.tries_handOver (message a) b.router

/-- An event without a turn of its own does nothing to links, but that the bridge may say
something. -/
theorem exists_tries_settle (h : e.turn? = none) :
    ∃ attempts, Tries b.router attempts (b.settle e).router := by
  have hnothing : ∃ attempts, Tries b.router attempts b.router := ⟨[], .of_eq rfl rfl rfl rfl⟩
  cases e with
  | datagram peer bytes =>
    simp only [settle]
    split
    · next f ip sender _ _ _ =>
      -- The number of the host is noted in the routes, which no link depends on.
      have hprime : Tries b.router [] (b.prime peer ip f.header.sequence).router :=
        .of_eq rfl rfl rfl rfl
      obtain ⟨attempts, hack⟩ := exists_tries_acknowledge (.datagram peer) (fun _ => rfl)
        (b.prime peer ip f.header.sequence) (f.header.ack (b.context.withSender sender))
      exact ⟨attempts, hprime.trans hack⟩
    · exact hnothing
  | clientText c text =>
    simp only [settle]
    split
    · next name args _ =>
      let answered := answerRequest b.pool c name
      let asked : Router :=
        { b.router with routes := { b.router.routes with pool := answered.2 } }
      have hasked : Tries b.router [] asked := .of_eq rfl rfl rfl rfl
      exact ⟨_, hasked.trans (Router.tries_handOver (.text c answered.1.text) asked)⟩
    · split
      · exact exists_tries_acknowledge (.text c) (fun _ => rfl) b _
      · exact hnothing
    · exact hnothing
  | serialLine line => exact hnothing
  | housekeeping => exact hnothing
  | _ => cases h

/-- **What an event by itself does to links**, if it does anything to one. -/
theorem settle_turn {u : Link.Turn} (h : e.turn? = some (w, u)) :
    (b.settle e).router.journal = b.router.journal ∧
      ∀ v, (b.settle e).router.linkOf v =
        if w = v then u.after (b.router.linkOf v) else b.router.linkOf v := by
  cases e with
  | clientConnected c link =>
    cases h
    exact ⟨rfl, Router.linkOf_eq_of_clients rfl fun d => b.router.clients.get?_insert c d link⟩
  | clientLeft c =>
    cases h
    exact ⟨rfl, Router.linkOf_eq_of_clients rfl (b.router.clients.get?_erase c)⟩
  | clientLink c x =>
    cases h
    exact ⟨rfl, Router.linkOf_eq_of_clients rfl fun d =>
      b.router.clients.get?_modify c d (·.change x)⟩
  | serialClosed =>
    cases h
    exact ⟨rfl, fun v => by cases v <;> rfl⟩
  | serialLink x =>
    cases h
    refine ⟨rfl, fun v => ?_⟩
    cases v with
    | client d => rfl
    | adapter =>
      show (b.router.adapter.map _).map _ = (b.router.adapter.map _).map _
      rw [Option.map_map, Option.map_map]
      rfl
    | host e => rfl
  | _ => cases h

/-- What the far end of a way reads when an event happens. -/
def readAt (b : Bridge) (w : Way) (e : Event) : List String :=
  match e.turn? with
  | some (v, u) => if v = w then u.read (b.router.linkOf w) else []
  | none => []

/-- Where an event changes a link, the bridge says nothing; where it says something, no link is
changed otherwise. -/
theorem exists_reads_settle (h : e.cuts w = false) :
    ∃ attempts, Reads w b.router (b.readAt w e) attempts (b.settle e).router := by
  cases ht : e.turn? with
  | none =>
    obtain ⟨attempts, htries⟩ := exists_tries_settle (b := b) ht
    refine ⟨attempts, ?_⟩
    rw [readAt, ht]
    exact htries.reads w
  | some x =>
    obtain ⟨v, u⟩ := x
    obtain ⟨hjournal, hlinks⟩ := settle_turn (b := b) ht
    refine ⟨[], by rw [hjournal, List.append_nil], ?_⟩
    show b.readAt w e ++ _ = b.router.unread w ++ []
    simp only [readAt, ht, Router.unread, hlinks w, List.append_nil]
    by_cases hv : v = w
    · have hu : u.cuts = false := by simpa [Event.cuts, ht, hv] using h
      rw [if_pos hv, if_pos hv]
      exact Link.Turn.read_append_queue_after hu _
    · rw [if_neg hv, if_neg hv, List.nil_append]

/-- What the far end of a way reads in a run. -/
def reading (b : Bridge) (w : Way) : List Move → List String
  | [] => []
  | .event now e :: xs => b.readAt w e ++ (b.handle now e).reading w xs
  | .send p :: xs => (b.move (.send p)).reading w xs

/-- **What an event is to the far end of a way**: it may read, and then messages are tried. -/
theorem exists_reads_handle (h : e.cuts w = false) (now : Time) :
    ∃ attempts, Reads w b.router (b.readAt w e) attempts (b.handle now e).router := by
  obtain ⟨as, hsettle⟩ := exists_reads_settle (b := b) h
  obtain ⟨bs, hsent, -⟩ := Router.exists_tries_sendAll (b.outgoing e) (b.settle e).router
  refine ⟨as ++ bs, ?_⟩
  -- Nobody reads while packets are sent.
  rw [router_handle, ← List.append_nil (b.readAt w e)]
  exact hsettle.trans (hsent.reads w)

theorem exists_reads_moveAll {xs : List Move}
    (h : ∀ now e, .event now e ∈ xs → e.cuts w = false) (b : Bridge) :
    ∃ attempts, Reads w b.router (b.reading w xs) attempts (b.moveAll xs).router := by
  induction xs generalizing b with
  | nil => exact ⟨[], (Tries.of_eq rfl rfl rfl rfl).reads w⟩
  | cons x xs ih =>
    obtain ⟨bs, hlater⟩ := ih (fun now e he => h now e (List.mem_cons_of_mem x he)) (b.move x)
    cases x with
    | event now e =>
      obtain ⟨as, hfirst⟩ := exists_reads_handle (b := b) (h now e List.mem_cons_self) now
      exact ⟨as ++ bs, hfirst.trans hlater⟩
    | send p =>
      obtain ⟨as, hsent, -⟩ := Router.exists_tries_send p b.router
      exact ⟨as ++ bs, (hsent.reads w).trans hlater⟩

/-- **What the far end of a way reads in a run**, as long as nothing is cut off. Of all messages of
the run, its link takes some. What waited before the run and then these are what is read in the run
and what waits after it, in order and each text once. -/
theorem reading_append_unread {xs : List Move}
    (h : ∀ now e, .event now e ∈ xs → e.cuts w = false) (b : Bridge) :
    ∃ attempts,
      attempts.map (·.message) = (b.history xs).filterMap (·.message? b.router.aunPort) ∧
      (b.moveAll xs).router.journal = b.router.journal ++ attempts ∧
      b.reading w xs ++ (b.moveAll xs).router.unread w =
        b.router.unread w ++ w.received attempts := by
  obtain ⟨attempts, hreads⟩ := exists_reads_moveAll h b
  refine ⟨attempts, ?_, hreads.journal, hreads.unread⟩
  have hmessages := b.messages_moveAll xs
  rw [Router.messages, hreads.journal, List.map_append] at hmessages
  exact List.append_cancel_left hmessages

/-- An adapter with room for one line. The second packet is lost, and the third is not, since the
first one was read before it came. -/
example :
    let router := (Router.ofRoutes ⟨.ofRules [], .ofList [2], .empty⟩ 32768).withAdapter
      (some ⟨.ofCapacity 1, 2⟩)
    let b : Bridge := ⟨⟨⟨127, 254⟩, 2, 0, none⟩, router, .ofBackends [] 0 "", []⟩
    let packet (port : UInt8) : Packet := ⟨⟨127, 254⟩, ⟨2, 9⟩, port, 0x80, []⟩
    let xs : List Move := [.send (packet 1), .send (packet 2), .event 0 (.serialLink .receive),
      .send (packet 3)]
    b.reading .adapter xs = [Piconet.command (packet 1) 2] ∧
      (b.moveAll xs).router.unread .adapter = [Piconet.command (packet 3) 2] := by
  decide +kernel

/-! ### Queues -/

theorem isBounded_settle (hb : b.router.IsBounded)
    (he : ∀ c l, e = .clientConnected c l → l.IsBounded) : (b.settle e).router.IsBounded := by
  cases ht : e.turn? with
  | none =>
    obtain ⟨attempts, htries⟩ := exists_tries_settle (b := b) ht
    exact htries.isBounded hb
  | some x =>
    obtain ⟨v, u⟩ := x
    intro w l hl
    rw [(settle_turn ht).2 w] at hl
    split at hl
    · cases u with
      | replace other =>
        cases hl
        obtain ⟨c, rfl⟩ := Event.eq_clientConnected_of_turn? ht
        exact he c l rfl
      | change x =>
        obtain ⟨m, hm, rfl⟩ := Option.map_eq_some_iff.mp hl
        exact (hb w m hm).change x
    · exact hb w l hl

/-- **No queue holds more than agreed** at the end of any run, if none does that comes in it. -/
theorem isBounded_moveAll {xs : List Move} (hb : b.router.IsBounded)
    (h : ∀ now c l, .event now (.clientConnected c l) ∈ xs → l.IsBounded) :
    (b.moveAll xs).router.IsBounded := by
  induction xs generalizing b with
  | nil => exact hb
  | cons x xs ih =>
    refine ih ?_ fun now c l hl => h now c l (List.mem_cons_of_mem x hl)
    cases x with
    | event now e =>
      have hsettle : (b.settle e).router.IsBounded :=
        isBounded_settle hb fun c l he => h now c l (he ▸ List.mem_cons_self)
      obtain ⟨attempts, hsent, -⟩ :=
        Router.exists_tries_sendAll (b.outgoing e) (b.settle e).router
      show (b.handle now e).router.IsBounded
      rw [router_handle]
      exact hsent.isBounded hsettle
    | send p =>
      obtain ⟨attempts, hsent, -⟩ := Router.exists_tries_send p b.router
      exact hsent.isBounded hb

end Bridge

end Econet
