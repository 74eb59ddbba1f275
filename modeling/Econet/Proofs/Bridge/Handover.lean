import Econet.Proofs.Bridge.Ways
import Econet.Proofs.Client.FrameText
import Econet.Proofs.Splits

/-!
# What ways out take

A message is handed to its way out once, and that takes it or not. A link takes it if somebody reads
there and there is room; the way out to hosts decides for itself. A text that is taken stands at the
end of the link's queue, one that is not is nowhere, and no other link notices. The counts say how
many messages of each transport were taken, and of how many packets none was.

## Main definitions

* `Link.hasRoom`: a link takes the next text
* `Message.Reads type p m`: the message `m` is read as a frame of the type, with the packet `p`
* `Router.linkOf r w`: the link that the way `w` leads to
* `Way.received w attempts`: what the link of a way took of several attempts
* `Router.takes r before m`: whether the message `m` is taken, after several attempts
* `Router.Tries r attempts s`: from `r` to `s` several messages were handed to ways out
* `Counts.after c attempts`: the counts after several attempts
* `Router.attempts r p w`: what is tried when the packet `p` is sent along the way `w`
* `Router.Sent r attempts f`: what is tried when something is sent, and what it comes to

## Main results

* `Router.Tries.trans`: attempts may be put together
* `Router.tries_handOver`: what becomes of one message
* `Router.exists_tries_send`: what becomes of a packet
-/

namespace Econet

open Client (ConnectionId)

/-! ### Links -/

namespace Link

/-- The link takes the next text: both ends are there, and the queue is not full. -/
def hasRoom (l : Link) : Bool := l.isConnected && l.queue.length < l.capacity

/-- The link after it takes several texts. -/
def pushAll (l : Link) (texts : List String) : Link :=
  { l with queue := l.queue ++ texts, sent := l.sent + texts.length }

@[simp] theorem pushAll_nil (l : Link) : l.pushAll [] = l := by
  simp [pushAll]

theorem map_pushAll_nil (o : Option Link) : o.map (·.pushAll []) = o := by
  simp

theorem pushAll_singleton (l : Link) (text : String) : l.pushAll [text] = l.push text := rfl

theorem pushAll_append (l : Link) (ss ts : List String) :
    l.pushAll (ss ++ ts) = (l.pushAll ss).pushAll ts := by
  simp [pushAll, Nat.add_assoc]

theorem send_of_hasRoom {l : Link} (h : l.hasRoom = true) (text : String) :
    l.send text = .ok (l.push text) := by
  simp only [hasRoom, isConnected, Bool.and_eq_true, decide_eq_true_eq] at h
  exact (send_eq_ok_iff _ _ _).mpr ⟨h.1.1, h.1.2, h.2, rfl⟩

theorem exists_send_eq_error {l : Link} (h : l.hasRoom = false) (text : String) :
    ∃ e, l.send text = .error e := by
  cases hs : l.send text with
  | error e => exact ⟨e, rfl⟩
  | ok m =>
    obtain ⟨hopen, hread, hlt, -⟩ := (send_eq_ok_iff _ _ _).mp hs
    simp [hasRoom, isConnected, hopen, hread, hlt] at h

end Link

/-! ### Messages and their ways -/

/-- The transport that a message leaves by. -/
def Message.transport : Message → Transport
  | .datagram _ _ => .aun
  | .text _ _ => .webSocket
  | .line _ => .piconet

/-- What a message is to those who read it: a frame of the type, with all of the packet that its
transport has room for. Hosts do not get to know addresses. -/
def Message.Reads (type : PacketType) (p : Packet) : Message → Prop
  | .datagram _ bytes => ∃ f, Aun.Frame.decode bytes = .ok f ∧ f.header.type = type ∧
      f.header.port = p.port ∧ f.header.control = p.control ∧ f.data = p.payload
  | .text _ written => ∃ f, Client.Message.decode written = .ok (.packet f) ∧
      f.header.type = type ∧ f.packet = p
  | .line written => ∃ localNetwork, written = Piconet.command p localNetwork

theorem Message.Carries.reads {p : Packet} {m : Message} (h : m.Carries p) :
    m.Reads (.toward p.destination) p := by
  cases m with
  | datagram target bytes =>
    obtain ⟨n, rfl⟩ := h
    exact ⟨_, Aun.Frame.decode_encode _, rfl, rfl, rfl, rfl⟩
  | text c written =>
    obtain ⟨n, rfl⟩ := h
    exact ⟨_, Client.Message.decode_frame _, rfl, rfl⟩
  | line written => exact h

/-- The transport of a way. -/
def Way.transport : Way → Transport
  | .client _ => .webSocket
  | .adapter => .piconet
  | .host _ => .aun

/-- What an attempt leaves in the queue of a way's link. -/
def Way.received? (w : Way) (a : Attempt) : Option String :=
  match w, a.message with
  | .client c, .text d text => if a.isTaken && c = d then some text else none
  | .adapter, .line line => if a.isTaken then some line else none
  | _, _ => none

/-- What the link of a way took of several attempts, oldest first. -/
def Way.received (w : Way) (attempts : List Attempt) : List String :=
  attempts.filterMap w.received?

theorem Way.received_append (w : Way) (as bs : List Attempt) :
    w.received (as ++ bs) = w.received as ++ w.received bs :=
  List.filterMap_append

/-- How many messages of a transport were taken. -/
def accepted (t : Transport) (attempts : List Attempt) : Nat :=
  attempts.countP fun a => a.isTaken && a.message.transport = t

/-- The counts after several attempts. -/
def Counts.after (c : Counts) (attempts : List Attempt) : Counts where
  aun := c.aun + accepted .aun attempts
  webSocket := c.webSocket + accepted .webSocket attempts
  piconet := c.piconet + accepted .piconet attempts
  dropped := c.dropped

theorem Counts.after_append (c : Counts) (as bs : List Attempt) :
    c.after (as ++ bs) = (c.after as).after bs := by
  simp [after, accepted, List.countP_append, Nat.add_assoc]

theorem Counts.after_singleton (c : Counts) (m : Message) (isTaken : Bool) :
    c.after [⟨m, isTaken⟩] = if isTaken then c.add m.transport else c := by
  cases isTaken with
  | false => rfl
  | true => cases m <;> rfl

namespace Router

variable {r s t : Router}

/-- The link that a way leads to. There is none to hosts. -/
def linkOf (r : Router) : Way → Option Link
  | .client c => r.clients.get? c
  | .adapter => r.adapter.map (·.link)
  | .host _ => none

/-- Whether a message is taken, after several attempts: there is a way out, and it has room. -/
def takes (r : Router) (before : List Attempt) : Message → Bool
  | .datagram target bytes => r.sink.any (·.takes (r.journal ++ before) target bytes)
  | .text c _ => (r.linkOf (.client c)).any fun l =>
      (l.pushAll ((Way.client c).received before)).hasRoom
  | .line _ => (r.linkOf .adapter).any fun l => (l.pushAll (Way.adapter.received before)).hasRoom

/-- Several messages were handed to ways out. -/
structure Tries (r : Router) (attempts : List Attempt) (s : Router) : Prop where
  /-- They are all in the journal. -/
  journal : s.journal = r.journal ++ attempts
  /-- Each was taken if its way out had room at the time. -/
  isTaken : ∀ pre a post, attempts = pre ++ a :: post → a.isTaken = r.takes pre a.message
  /-- Links have what they took, behind what they had. -/
  linkOf : ∀ w, s.linkOf w = (r.linkOf w).map (·.pushAll (w.received attempts))
  /-- The way out to hosts is the same one. -/
  sink : s.sink = r.sink

theorem Tries.of_eq (hj : s.journal = r.journal) (hc : s.clients = r.clients)
    (ha : s.adapter = r.adapter) (hs : s.sink = r.sink) : Tries r [] s where
  journal := by rw [hj, List.append_nil]
  isTaken pre a post h := by
    cases pre <;> cases h
  linkOf w := by
    have hsame : s.linkOf w = r.linkOf w := by
      cases w with
      | client c => exact congrArg (·.get? c) hc
      | adapter => exact congrArg (Option.map _) ha
      | host e => rfl
    rw [hsame]
    exact (Link.map_pushAll_nil _).symm
  sink := hs

variable {as bs : List Attempt}

/-- What is taken later depends on what was taken before. -/
theorem Tries.takes (h : Tries r as s) (before : List Attempt) (m : Message) :
    s.takes before m = r.takes (as ++ before) m := by
  cases m with
  | datagram target bytes =>
    simp only [Router.takes, h.sink, h.journal, List.append_assoc]
  | text c text =>
    simp only [Router.takes, h.linkOf, Option.any_map, Way.received_append, Link.pushAll_append]
  | line line =>
    simp only [Router.takes, h.linkOf, Option.any_map, Way.received_append, Link.pushAll_append]

/-- **Attempts may be put together.** -/
theorem Tries.trans (h : Tries r as s) (k : Tries s bs t) : Tries r (as ++ bs) t where
  journal := by rw [k.journal, h.journal, List.append_assoc]
  isTaken pre a post he := by
    rcases append_cons_eq_append_iff.mp he.symm with ⟨rest, rfl, hrest⟩ | ⟨rest, rfl, hrest⟩
    · exact h.isTaken pre a rest hrest.symm
    · rw [← h.takes]
      exact k.isTaken rest a post hrest.symm
  linkOf w := by
    rw [k.linkOf, h.linkOf, Option.map_map, Way.received_append]
    refine Option.map_congr fun l _ => ?_
    exact (l.pushAll_append _ _).symm
  sink := k.sink.trans h.sink

theorem Tries.counted {f : Sending} (h : Tries r as (f r).2) (t : Transport) :
    Tries r as (counted t f r).2 := by
  unfold Router.counted
  split
  · exact ⟨h.journal, h.isTaken, h.linkOf, h.sink⟩
  · exact h

/-! ### One message -/

/-- Hands a message to its way out. -/
def handOver : Message → Sending
  | .datagram target bytes => sendDatagram target bytes
  | .text c text => sendText c text
  | .line line => sendLine line

variable {m : Message}

theorem takes_text_iff {c : ConnectionId} {text : String} :
    r.takes [] (.text c text) = true ↔ ∃ l, r.clients.get? c = some l ∧ l.hasRoom = true := by
  have hnone : (Way.client c).received [] = [] := rfl
  simp [takes, linkOf, hnone, Option.any_eq_true]

theorem takes_line_iff {line : String} :
    r.takes [] (.line line) = true ↔ ∃ a, r.adapter = some a ∧ a.link.hasRoom = true := by
  have hnone : Way.adapter.received [] = [] := rfl
  simp [takes, linkOf, hnone, Option.any_map, Option.any_eq_true]

theorem sendDatagram_eq (target : Socket) (bytes : List UInt8) (r : Router) :
    sendDatagram target bytes r =
      (r.takes [] (.datagram target bytes),
        r.note (.datagram target bytes) (r.takes [] (.datagram target bytes))) := by
  unfold sendDatagram takes
  rw [List.append_nil]
  cases r.sink with
  | none => rfl
  | some k => rfl

/-- A message that is refused leaves nothing but a note. -/
theorem handOver_of_takes_eq_false (h : r.takes [] m = false) :
    handOver m r = (false, r.note m false) := by
  cases m with
  | datagram target bytes => rw [handOver, sendDatagram_eq, h]
  | text c text =>
    rw [← Bool.not_eq_true, takes_text_iff] at h
    simp only [handOver, sendText]
    cases hl : r.clients.get? c with
    | none => rfl
    | some l =>
      have hroom : l.hasRoom = false := Bool.eq_false_iff.mpr fun hr => h ⟨l, hl, hr⟩
      obtain ⟨e, he⟩ := Link.exists_send_eq_error hroom text
      simp [he]
  | line line =>
    rw [← Bool.not_eq_true, takes_line_iff] at h
    simp only [handOver, sendLine, trySendLine]
    cases ha : r.adapter with
    | none => rfl
    | some a =>
      have hroom : a.link.hasRoom = false := Bool.eq_false_iff.mpr fun hr => h ⟨a, ha, hr⟩
      obtain ⟨e, he⟩ := Link.exists_send_eq_error hroom line
      simp [Piconet.Adapter.send, he, Except.map]

theorem sendText_of_hasRoom {c : ConnectionId} {l : Link} (hl : r.clients.get? c = some l)
    (hroom : l.hasRoom = true) (text : String) :
    sendText c text r =
      (true, { r with clients := r.clients.insert c (l.push text) }.note (.text c text) true) := by
  simp [sendText, hl, Link.send_of_hasRoom hroom]

theorem sendLine_of_hasRoom {a : Piconet.Adapter} (ha : r.adapter = some a)
    (hroom : a.link.hasRoom = true) (line : String) :
    sendLine line r =
      (true, { r with adapter := some { a with link := a.link.push line } }.note
        (.line line) true) := by
  simp [sendLine, trySendLine, ha, Piconet.Adapter.send, Link.send_of_hasRoom hroom, Except.map]

theorem isTaken_singleton {isTaken : Bool} (h : isTaken = r.takes [] m) (pre : List Attempt)
    (a : Attempt) (post : List Attempt) (he : [⟨m, isTaken⟩] = pre ++ a :: post) :
    a.isTaken = r.takes pre a.message := by
  rcases append_cons_eq_concat_iff.mp (he.symm.trans (List.nil_append _).symm) with
    ⟨rfl, rfl, -⟩ | ⟨rest, -, hrest⟩
  · exact h
  · simp at hrest

/-- A message that is noted, and is in no queue. -/
theorem tries_note {isTaken : Bool} (h : isTaken = r.takes [] m)
    (hnone : ∀ w : Way, w.received [⟨m, isTaken⟩] = []) :
    Tries r [⟨m, isTaken⟩] (r.note m isTaken) where
  journal := rfl
  isTaken := isTaken_singleton h
  linkOf w := by
    rw [hnone]
    exact (Link.map_pushAll_nil _).symm
  sink := rfl

/-- **What becomes of one message.** -/
theorem tries_handOver (m : Message) (r : Router) :
    Tries r [⟨m, r.takes [] m⟩] (handOver m r).2 := by
  cases hm : r.takes [] m with
  | false =>
    rw [handOver_of_takes_eq_false hm]
    -- A message that is not taken is in the journal only.
    refine tries_note hm.symm fun w => ?_
    cases w <;> cases m <;> rfl
  | true =>
    cases m with
    | datagram target bytes =>
      -- Datagrams leave the bridge at once, so that no queue has them.
      rw [handOver, sendDatagram_eq, hm]
      refine tries_note hm.symm fun w => ?_
      cases w <;> rfl
    | text c text =>
      obtain ⟨l, hl, hroom⟩ := takes_text_iff.mp hm
      rw [handOver, sendText_of_hasRoom hl hroom]
      refine ⟨rfl, isTaken_singleton hm.symm, fun w => ?_, rfl⟩
      cases w with
      | client d =>
        show (r.clients.insert c (l.push text)).get? d = (r.clients.get? d).map _
        rw [Table.get?_insert]
        by_cases hd : c = d
        · subst hd
          simp [Way.received, Way.received?, hl, Link.pushAll_singleton]
        · simp [Way.received, Way.received?, hd, Ne.symm hd]
      | adapter => exact (Link.map_pushAll_nil _).symm
      | host e => rfl
    | line line =>
      obtain ⟨a, ha, hroom⟩ := takes_line_iff.mp hm
      rw [handOver, sendLine_of_hasRoom ha hroom]
      refine ⟨rfl, isTaken_singleton hm.symm, fun w => ?_, rfl⟩
      cases w with
      | client d => exact (Link.map_pushAll_nil _).symm
      | adapter => simp [linkOf, note, ha, Way.received, Way.received?, Link.pushAll_singleton]
      | host e => rfl

theorem fst_handOver (m : Message) (r : Router) : (handOver m r).1 = r.takes [] m := by
  cases hm : r.takes [] m with
  | false => rw [handOver_of_takes_eq_false hm]
  | true =>
    cases m with
    | datagram target bytes => rw [handOver, sendDatagram_eq, hm]
    | text c text =>
      obtain ⟨l, hl, hroom⟩ := takes_text_iff.mp hm
      rw [handOver, sendText_of_hasRoom hl hroom]
    | line line =>
      obtain ⟨a, ha, hroom⟩ := takes_line_iff.mp hm
      rw [handOver, sendLine_of_hasRoom ha hroom]

theorem counts_handOver (m : Message) (r : Router) : (handOver m r).2.counts = r.counts := by
  cases m with
  | datagram target bytes => rfl
  | text c text =>
    rw [handOver, sendText]
    split <;> rfl
  | line line =>
    rw [handOver, sendLine, trySendLine]
    split <;> rfl

/-! ### Packets -/

variable {p : Packet}

/-- How a packet is written for one of its ways, if that is open. -/
def message? (r : Router) (p : Packet) (w : Way) : Option Message :=
  (r.parcel? p w).map (·.message r.aunPort)

theorem transport_of_message? {w : Way} (h : r.message? p w = some m) :
    m.transport = w.transport := by
  obtain ⟨x, hx, rfl⟩ := Option.map_eq_some_iff.mp h
  cases w with
  | client c =>
    cases hx
    rfl
  | adapter =>
    obtain ⟨n, -, rfl⟩ := Option.map_eq_some_iff.mp hx
    rfl
  | host e =>
    cases hx
    rfl

/-- A packet is sent along an open way by handing its message over, when its number is used up. -/
theorem sendAlong_of_message? {w : Way} (h : r.message? p w = some m) :
    sendAlong p w r =
      counted w.transport (handOver m) { r with routes := r.routes.advance w } := by
  obtain ⟨x, hx, rfl⟩ := Option.map_eq_some_iff.mp h
  cases w with
  | client c =>
    cases hx
    rfl
  | adapter =>
    obtain ⟨n, hn, rfl⟩ := Option.map_eq_some_iff.mp hx
    obtain ⟨a, ha, rfl⟩ := Option.map_eq_some_iff.mp hn
    have hsend : sendToAdapter p r =
        counted .piconet (sendLine (Piconet.command p a.localNetwork)) r := by
      rw [sendToAdapter, ha]
    exact hsend
  | host e =>
    cases hx
    rfl

theorem sendAlong_of_message?_eq_none {w : Way} (h : r.message? p w = none) :
    sendAlong p w r = (false, r) := by
  cases w with
  | client c => cases h
  | adapter =>
    cases ha : r.adapter with
    | none => rw [sendAlong, sendToAdapter, ha]
    | some a => simp [message?, parcel?, plan, ha] at h
  | host e => cases h

/-- What is tried when a packet is sent along a way. -/
def attempts (r : Router) (p : Packet) (w : Way) : List Attempt :=
  ((r.message? p w).map fun m => ⟨m, r.takes [] m⟩).toList

/-- What is tried when something is sent, and what it comes to. -/
structure Sent (r : Router) (attempts : List Attempt) (f : Sending) : Prop where
  tries : Tries r attempts (f r).2
  fst : (f r).1 = attempts.any (·.isTaken)
  counts : (f r).2.counts = r.counts.after attempts

theorem Sent.both {f g : Sending} (h : Sent r as f) (k : Sent (f r).2 bs g) :
    Sent r (as ++ bs) (both f g) where
  tries := h.tries.trans k.tries
  fst := by
    rw [List.any_append, ← h.fst, ← k.fst]
    rfl
  counts := by
    rw [Counts.after_append, ← h.counts]
    exact k.counts

theorem sent_sendAlong (p : Packet) (w : Way) (r : Router) :
    Sent r (r.attempts p w) (sendAlong p w) := by
  cases h : r.message? p w with
  | none =>
    refine ⟨?_, ?_, ?_⟩
    all_goals rw [sendAlong_of_message?_eq_none h, attempts, h]
    · exact .of_eq rfl rfl rfl rfl
    · rfl
    · rfl
  | some m =>
    -- Numbers are nothing to ways out.
    have hnumber : Tries r [] { r with routes := r.routes.advance w } := .of_eq rfl rfl rfl rfl
    have htakes : Router.takes { r with routes := r.routes.advance w } [] m = r.takes [] m :=
      hnumber.takes [] m
    refine ⟨?_, ?_, ?_⟩
    all_goals rw [sendAlong_of_message? h, attempts, h, Option.map_some, Option.toList_some]
    · have hm := (tries_handOver m { r with routes := r.routes.advance w }).counted w.transport
      rw [htakes] at hm
      exact hnumber.trans hm
    · rw [counted_fst, fst_handOver, htakes]
      simp
    · rw [counted, fst_handOver, htakes, Counts.after_singleton, transport_of_message? h]
      cases r.takes [] m with
      | true => exact congrArg (Counts.add · w.transport) (counts_handOver m _)
      | false => exact counts_handOver m _

theorem exists_sent_sendAlongEach (p : Packet) (ws : List Way) (r : Router) :
    ∃ attempts, Sent r attempts (sendAlongEach p ws) := by
  induction ws generalizing r with
  | nil => exact ⟨[], .of_eq rfl rfl rfl rfl, rfl, rfl⟩
  | cons w ws ih =>
    obtain ⟨bs, hws⟩ := ih (sendAlong p w r).2
    exact ⟨_, (sent_sendAlong p w r).both hws⟩

/-- **What becomes of a packet.** The messages that it is written in are handed to their ways out.
It is sent if one is taken, and dropped if none is. -/
theorem exists_tries_send (p : Packet) (r : Router) :
    ∃ attempts, Tries r attempts (send p r).2 ∧
      attempts.map (·.message) = (r.parcels p).map (·.message r.aunPort) ∧
      (send p r).1 = attempts.any (·.isTaken) ∧
      (send p r).2.counts =
        { r.counts.after attempts with
          dropped := r.counts.dropped + if (send p r).1 then 0 else 1 } := by
  obtain ⟨attempts, hsent⟩ := exists_sent_sendAlongEach p (r.plan.ways p) r
  have htries : Tries r attempts (send p r).2 := by
    rw [send_eq]
    dsimp only
    split
    · exact hsent.tries
    · exact ⟨hsent.tries.journal, hsent.tries.isTaken, hsent.tries.linkOf, hsent.tries.sink⟩
  refine ⟨attempts, htries, ?_, ?_, ?_⟩
  · have hmessages := messages_send p r
    rw [messages, htries.journal, List.map_append] at hmessages
    exact List.append_cancel_left hmessages
  · rw [send_eq]
    exact hsent.fst
  · rw [send_eq]
    dsimp only
    split
    · exact hsent.counts
    · have hdrop (s : Router) :
          s.drop.counts = { s.counts with dropped := s.counts.dropped + 1 } := rfl
      rw [hdrop, hsent.counts]
      rfl

end Router

end Econet
