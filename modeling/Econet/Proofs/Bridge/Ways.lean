import Econet.Proofs.Aun.Keys
import Econet.Proofs.Bridge.Sending

/-!
# The ways that a packet leaves by

Which ways a packet takes depends on its destination and on who is where, and not on what was sent
before. A packet to a station takes one way at most; one to a network takes the way of each of its
clients, that of the adapter and that of a host. Each way is tried once, with a message that carries
the packet and the next number of that way.

## Main definitions

* `Way`: one way out of the bridge
* `Plan`, `Plan.ways`: what decides about ways, and the ways of a packet
* `Router.plan r`: the plan that a router follows
* `Parcel`, `Parcel.message`: a packet on one of its ways, and how it is written
* `Router.parcels r p`: what a router makes of a packet

## Main results

* `Router.send_eq`: to send a packet is to send it along each of its ways
* `Router.plan_send`: sending changes no way
* `Router.messages_send`: what is handed to ways out when a packet is sent
-/

namespace Econet

open Client (ConnectionId Pool)

/-! ### Plans -/

theorem Routes.isClientOn_iff {r : Routes} {network : UInt8} {c : ConnectionId} :
    r.isClientOn network c = true ↔ ∃ a, r.pool.addressOf c = some a ∧ a.network = network := by
  unfold isClientOn
  split
  · next a ha => simp [ha]
  · next ha => simp [ha]

/-- A way out of the bridge. -/
inductive Way where
  | client (c : ConnectionId)
  | adapter
  | host (e : Aun.Endpoint)
  deriving DecidableEq

/-- The routes without the sequence numbers that were used. -/
def Routes.unnumbered (r : Routes) : Routes where
  aun := { r.aun with counters := .empty }
  networks := r.networks
  pool := { r.pool with sequences := .empty }

/-- What decides where packets go. -/
structure Plan where
  /-- Which address is where. -/
  routes : Routes
  /-- The browser clients that are connected. -/
  clients : List ConnectionId
  /-- The port of hosts that have none of their own. -/
  aunPort : UInt16
  /-- The network of the serial adapter, if there is one. -/
  localNetwork : Option UInt8

namespace Plan

/-- The ways to all stations of a network. -/
def toNetwork (q : Plan) (a : Address) : List Way :=
  (q.clients.filter (q.routes.isClientOn a.network)).map .client ++
    ((if q.routes.networks.contains a.network then [.adapter] else []) ++
      (q.routes.aun.endpointOf a).toList.map .host)

/-- The way to a station, by the transport that leads to its address. -/
def toStation (q : Plan) (a : Address) : List Way :=
  match q.routes.transportTo a with
  | some .webSocket => (q.routes.pool.holderOf a).toList.map .client
  | some .piconet => [.adapter]
  | some .aun => (q.routes.aun.endpointOf a).toList.map .host
  | none => []

/-- The ways that a packet takes. -/
def ways (q : Plan) (p : Packet) : List Way :=
  if p.destination.isBroadcast then q.toNetwork p.destination else q.toStation p.destination

variable {q : Plan} {p : Packet} {c : ConnectionId} {e : Aun.Endpoint}

theorem nodup_toNetwork (h : q.clients.Nodup) (a : Address) : (q.toNetwork a).Nodup := by
  have hclients : ((q.clients.filter (q.routes.isClientOn a.network)).map Way.client).Nodup :=
    (h.filter _).map (fun _ _ hw => Way.client.inj hw)
  have hothers : ((if q.routes.networks.contains a.network then [Way.adapter] else []) ++
      (q.routes.aun.endpointOf a).toList.map Way.host).Nodup := by
    cases q.routes.aun.endpointOf a with
    | none => split <;> simp
    | some e => split <;> simp
  refine hclients.append hothers fun w hw hw' => ?_
  obtain ⟨c, -, rfl⟩ := List.mem_map.mp hw
  -- Neither the adapter nor a host is a client.
  rcases List.mem_append.mp hw' with hw' | hw'
  · split at hw' <;> simp at hw'
  · simp at hw'

theorem nodup_toStation (q : Plan) (a : Address) : (q.toStation a).Nodup := by
  unfold toStation
  split
  · cases q.routes.pool.holderOf a <;> simp
  · simp
  · cases q.routes.aun.endpointOf a <;> simp
  · simp

theorem length_toStation_le (q : Plan) (a : Address) : (q.toStation a).length ≤ 1 := by
  unfold toStation
  split
  · cases q.routes.pool.holderOf a <;> simp
  · simp
  · cases q.routes.aun.endpointOf a <;> simp
  · simp

theorem transportTo_of_adapter_mem_toStation {a : Address} (h : .adapter ∈ q.toStation a) :
    q.routes.transportTo a = some .piconet := by
  unfold toStation at h
  split at h
  · simp at h
  · assumption
  · simp at h
  · simp at h

/-- No way is taken twice. -/
theorem nodup_ways (h : q.clients.Nodup) (p : Packet) : (q.ways p).Nodup := by
  unfold ways
  split
  · exact nodup_toNetwork h _
  · exact nodup_toStation q _

/-- A client that a packet goes to is its destination, or is on its network. -/
theorem of_client_mem_ways (h : .client c ∈ q.ways p) :
    q.routes.pool.holderOf p.destination = some c ∨
      p.destination.isBroadcast ∧ q.routes.isClientOn p.destination.network c := by
  unfold ways at h
  split at h
  · next hb =>
    right
    simp only [toNetwork, List.mem_append, List.mem_map, List.mem_filter] at h
    rcases h with ⟨d, hd, hdc⟩ | h | ⟨e, -, he⟩
    · cases hdc
      exact ⟨hb, hd.2⟩
    · split at h <;> simp at h
    · cases he
  · left
    unfold toStation at h
    split at h
    · simpa using h
    · simp at h
    · simp at h
    · simp at h

/-- A host that a packet goes to is that of its destination. -/
theorem of_host_mem_ways (h : .host e ∈ q.ways p) :
    q.routes.aun.endpointOf p.destination = some e := by
  unfold ways at h
  split at h
  · simp only [toNetwork, List.mem_append, List.mem_map, Option.mem_toList] at h
    rcases h with ⟨d, -, hd⟩ | h | ⟨f, hf, hfe⟩
    · cases hd
    · split at h <;> simp at h
    · cases hfe
      exact hf
  · unfold toStation at h
    split at h
    · simp at h
    · simp at h
    · simpa using h
    · simp at h

end Plan

/-! ### Numbers -/

namespace Client.Pool

/-- The number that the packets to a connection have come to. -/
def reached (p : Pool) (c : ConnectionId) : UInt32 := (p.sequences.get? c).getD 0

theorem nextSequence_eq (p : Pool) (c : ConnectionId) :
    p.nextSequence c = p.reached c + sequenceStride := rfl

theorem reached_advance (p : Pool) (c d : ConnectionId) :
    (p.advance c).reached d = if c = d then p.reached c + sequenceStride else p.reached d := by
  rw [reached, advance, Table.get?_insert]
  split <;> rfl

theorem sequences_ofList (ns : List UInt8) : (ofList ns).sequences = .empty := by
  induction ns using List.reverseRecOn with
  | nil => rfl
  | append_singleton ns n ih =>
    rw [ofList_concat, addNetwork]
    split
    · exact ih
    · exact ih

theorem sequences_free (p : Pool) (c : ConnectionId) :
    (p.free c).sequences = p.sequences.erase c := by
  unfold free
  split <;> rfl

theorem reached_ofList (ns : List UInt8) (c : ConnectionId) : (ofList ns).reached c = 0 := by
  rw [reached, sequences_ofList]
  rfl

theorem reached_free (p : Pool) (c d : ConnectionId) :
    (p.free c).reached d = if c = d then 0 else p.reached d := by
  rw [reached, sequences_free, Table.get?_erase]
  split <;> rfl

end Client.Pool

/-- The routes after the next number of a way is used. -/
def Routes.advance (r : Routes) : Way → Routes
  | .client c => { r with pool := r.pool.advance c }
  | .adapter => r
  | .host e => { r with aun := r.aun.advance e.text }

/-! ### Parcels -/

/-- A packet on one of its ways. Lines to the adapter have no number. -/
inductive Parcel where
  | toClient (c : ConnectionId) (p : Packet) (number : UInt32)
  | toAdapter (p : Packet) (localNetwork : UInt8)
  | toHost (e : Aun.Endpoint) (p : Packet) (number : UInt32)
  deriving DecidableEq

/-- How a parcel is written. -/
def Parcel.message (aunPort : UInt16) : Parcel → Message
  | toClient c p number => .text c (Client.Frame.ofPacket p number).text
  | toAdapter p localNetwork => .line (Piconet.command p localNetwork)
  | toHost e p number => .datagram (e.socket aunPort) (Aun.Frame.ofPacket p number).encode

theorem Piconet.Adapter.localNetwork_of_send {a b : Piconet.Adapter} {line : String}
    (h : a.send line = .ok b) : b.localNetwork = a.localNetwork := by
  unfold send at h
  cases hl : a.link.send line with
  | error e =>
    rw [hl] at h
    cases h
  | ok link =>
    rw [hl] at h
    cases h
    rfl

namespace Router

/-- The plan that a router follows. -/
def plan (r : Router) : Plan :=
  ⟨r.routes.unnumbered, r.clients.keys, r.aunPort, r.adapter.map (·.localNetwork)⟩

theorem nodup_ways (r : Router) (p : Packet) : (r.plan.ways p).Nodup :=
  Plan.nodup_ways r.clients.nodup_keys p

/-- The packet on one of its ways, if that is open. -/
def parcel? (r : Router) (p : Packet) : Way → Option Parcel
  | .client c => some (.toClient c p (r.routes.pool.nextSequence c))
  | .adapter => r.plan.localNetwork.map (.toAdapter p)
  | .host e => some (.toHost e p (r.routes.aun.nextSequence e.text))

/-- What the router makes of a packet. -/
def parcels (r : Router) (p : Packet) : List Parcel := (r.plan.ways p).filterMap (r.parcel? p)

/-- All messages that were handed to ways out, oldest first. -/
def messages (r : Router) : List Message := r.journal.map (·.message)

theorem Sends.messages {P : Message → Prop} {r s : Router} (h : Sends P r s) :
    ∃ sent, s.messages = r.messages ++ sent ∧ ∀ m ∈ sent, P m := by
  obtain ⟨attempts, hattempts, hP⟩ := h.journal
  refine ⟨attempts.map (·.message), ?_, ?_⟩
  · rw [Router.messages, hattempts, List.map_append]
    rfl
  · rintro m hm
    obtain ⟨a, ha, rfl⟩ := List.mem_map.mp hm
    exact hP a ha

/-- Sends a packet along a way. -/
def sendAlong (p : Packet) : Way → Sending
  | .client c => sendToClient p c
  | .adapter => sendToAdapter p
  | .host e => sendToEndpoint p e

/-- Sends a packet along several ways. -/
def sendAlongEach (p : Packet) (ws : List Way) : Sending :=
  ws.foldr (fun w f => both (sendAlong p w) f) nothing

variable {r : Router} {p : Packet}

/-! ### What one message does to the router -/

theorem plan_counted (t : Transport) (f : Sending) (r : Router) :
    (counted t f r).2.plan = (f r).2.plan := by
  unfold counted
  split <;> rfl

theorem messages_counted (t : Transport) (f : Sending) (r : Router) :
    (counted t f r).2.messages = (f r).2.messages := by
  rw [messages, journal_counted]
  rfl

theorem messages_note (r : Router) (m : Message) (taken : Bool) :
    (r.note m taken).messages = r.messages ++ [m] := by
  rw [messages, journal_note, List.map_append]
  rfl

theorem messages_sendDatagram (target : Socket) (bytes : List UInt8) (r : Router) :
    (sendDatagram target bytes r).2.messages = r.messages ++ [.datagram target bytes] :=
  messages_note r _ _

theorem routes_sendText (c : ConnectionId) (text : String) (r : Router) :
    (sendText c text r).2.routes = r.routes := by
  unfold sendText
  split <;> rfl

theorem messages_sendText (c : ConnectionId) (text : String) (r : Router) :
    (sendText c text r).2.messages = r.messages ++ [.text c text] := by
  unfold sendText
  split
  · exact messages_note _ _ _
  · exact messages_note _ _ _

theorem plan_sendText (c : ConnectionId) (text : String) (r : Router) :
    (sendText c text r).2.plan = r.plan := by
  unfold sendText
  split
  · next l hl =>
    -- The client's link is replaced where it stands.
    obtain ⟨old, hold, -⟩ := Option.map_eq_some_iff.mp hl
    show Plan.mk _ (r.clients.insert c l).keys _ _ = _
    rw [Table.keys_insert hold]
    rfl
  · rfl

theorem plan_sendLine (line : String) (r : Router) : (sendLine line r).2.plan = r.plan := by
  unfold sendLine trySendLine
  split
  · next a ha =>
    obtain ⟨old, hold, hsend⟩ := Option.map_eq_some_iff.mp ha
    -- The adapter's queue has grown, but it is on the network that it was on.
    show Plan.mk _ _ _ (some a.localNetwork) = _
    rw [Piconet.Adapter.localNetwork_of_send hsend, plan, hold]
    rfl
  · rfl
  · rfl

theorem messages_sendLine (line : String) (r : Router) :
    (sendLine line r).2.messages = r.messages ++ [.line line] := by
  unfold sendLine trySendLine
  split
  · exact messages_note _ _ _
  · exact messages_note _ _ _
  · exact messages_note _ _ _

/-! ### Packets along a way -/

theorem plan_sendAlong (p : Packet) (w : Way) (r : Router) :
    (sendAlong p w r).2.plan = r.plan := by
  cases w with
  | client c =>
    show (counted .webSocket (sendText c _) _).2.plan = _
    rw [plan_counted, plan_sendText]
    rfl
  | adapter =>
    show (sendToAdapter p r).2.plan = _
    unfold sendToAdapter
    split
    · rw [plan_counted, plan_sendLine]
    · rfl
  | host e =>
    show (counted .aun (sendDatagram _ _) _).2.plan = _
    rw [plan_counted]
    rfl

theorem routes_counted (t : Transport) (f : Sending) (r : Router) :
    (counted t f r).2.routes = (f r).2.routes := by
  unfold counted
  split <;> rfl

theorem routes_sendLine (line : String) (r : Router) : (sendLine line r).2.routes = r.routes := by
  unfold sendLine trySendLine
  split <;> rfl

/-- A number is used up by every attempt. -/
theorem routes_sendAlong (p : Packet) (w : Way) (r : Router) :
    (sendAlong p w r).2.routes = r.routes.advance w := by
  cases w with
  | client c =>
    show (counted .webSocket (sendText c _) _).2.routes = _
    rw [routes_counted, routes_sendText]
    rfl
  | adapter =>
    show (sendToAdapter p r).2.routes = _
    unfold sendToAdapter
    split
    · rw [routes_counted, routes_sendLine]
      rfl
    · rfl
  | host e =>
    show (counted .aun (sendDatagram _ _) _).2.routes = _
    rw [routes_counted]
    rfl

theorem messages_sendAlong (p : Packet) (w : Way) (r : Router) :
    (sendAlong p w r).2.messages =
      r.messages ++ ((r.parcel? p w).map (·.message r.aunPort)).toList := by
  cases w with
  | client c =>
    show (counted .webSocket (sendText c _) _).2.messages = _
    rw [messages_counted, messages_sendText]
    rfl
  | adapter =>
    show (sendToAdapter p r).2.messages = _
    unfold sendToAdapter
    cases ha : r.adapter with
    | none => simp [parcel?, plan, ha]
    | some a =>
      show (counted .piconet (sendLine _) r).2.messages = _
      rw [messages_counted, messages_sendLine]
      simp [parcel?, plan, ha, Parcel.message]
  | host e =>
    show (counted .aun (sendDatagram _ _) _).2.messages = _
    rw [messages_counted, messages_sendDatagram]
    rfl

/-- What goes along one way is nothing to the numbers of another. -/
theorem parcel?_sendAlong_of_ne {w v : Way} (h : w ≠ v) (p q : Packet) (r : Router) :
    (sendAlong p w r).2.parcel? q v = r.parcel? q v := by
  -- Only clients and hosts have numbers, each its own.
  have hroutes := routes_sendAlong p w r
  cases v with
  | client d =>
    have hnumber : (r.routes.advance w).pool.reached d = r.routes.pool.reached d := by
      cases w with
      | client c =>
        refine (Pool.reached_advance _ c d).trans (if_neg ?_)
        rintro rfl
        exact h rfl
      | adapter => rfl
      | host e => rfl
    simp only [parcel?, Pool.nextSequence_eq, hroutes, hnumber]
  | adapter => simp only [parcel?, plan_sendAlong]
  | host f =>
    have hnumber : (r.routes.advance w).aun.reached f = r.routes.aun.reached f := by
      cases w with
      | client c => rfl
      | adapter => rfl
      | host e =>
        refine (Aun.Map.reached_advance _ e f).trans (if_neg ?_)
        rintro rfl
        exact h rfl
    simp only [parcel?, Aun.Map.nextSequence_text, hroutes, hnumber]

/-! ### Packets along all their ways -/

theorem snd_sendAlongEach_cons (p : Packet) (w : Way) (ws : List Way) (r : Router) :
    (sendAlongEach p (w :: ws) r).2 = (sendAlongEach p ws (sendAlong p w r).2).2 := rfl

theorem plan_sendAlongEach (p : Packet) (ws : List Way) (r : Router) :
    (sendAlongEach p ws r).2.plan = r.plan := by
  induction ws generalizing r with
  | nil => rfl
  | cons w ws ih => rw [snd_sendAlongEach_cons, ih, plan_sendAlong]

/-- The ways that remain find the numbers that they had. -/
theorem filterMap_parcel?_sendAlong {w : Way} {ws : List Way} (hw : w ∉ ws) (p : Packet)
    (r : Router) :
    ws.filterMap ((sendAlong p w r).2.parcel? p) = ws.filterMap (r.parcel? p) := by
  refine List.filterMap_congr fun v hv => parcel?_sendAlong_of_ne ?_ p p r
  rintro rfl
  exact hw hv

theorem messages_sendAlongEach {ws : List Way} (h : ws.Nodup) (p : Packet) (r : Router) :
    (sendAlongEach p ws r).2.messages =
      r.messages ++ (ws.filterMap (r.parcel? p)).map (·.message r.aunPort) := by
  induction ws generalizing r with
  | nil => simp [sendAlongEach, nothing]
  | cons w ws ih =>
    obtain ⟨hw, hws⟩ := List.nodup_cons.mp h
    have hport : (sendAlong p w r).2.aunPort = r.aunPort :=
      congrArg Plan.aunPort (plan_sendAlong p w r)
    rw [snd_sendAlongEach_cons, ih hws, messages_sendAlong, hport, filterMap_parcel?_sendAlong hw,
      List.append_assoc]
    cases hp : r.parcel? p w with
    | none => simp [hp]
    | some x => simp [hp]

theorem both_nothing (f : Sending) : both nothing f = f := by
  funext r
  simp [both, nothing]

theorem both_assoc (f g h : Sending) : both (both f g) h = both f (both g h) := by
  funext r
  simp [both, Bool.or_assoc]

theorem sendAlongEach_append (p : Packet) (ws vs : List Way) :
    sendAlongEach p (ws ++ vs) = both (sendAlongEach p ws) (sendAlongEach p vs) := by
  induction ws with
  | nil => exact (both_nothing _).symm
  | cons w ws ih =>
    show both (sendAlong p w) (sendAlongEach p (ws ++ vs)) = _
    rw [ih, ← both_assoc]
    rfl

theorem sendToEach_eq (p : Packet) (cs : List ConnectionId) :
    sendToEach p cs = sendAlongEach p (cs.map .client) := by
  unfold sendToEach sendAlongEach
  rw [List.foldr_map]
  rfl

theorem sendAlongEach_singleton (p : Packet) (w : Way) (r : Router) :
    sendAlongEach p [w] r = sendAlong p w r := by
  simp [sendAlongEach, both, nothing]

theorem sendToHost_eq (p : Packet) (r : Router) :
    sendToHost p r =
      sendAlongEach p ((r.plan.routes.aun.endpointOf p.destination).toList.map .host) r := by
  have hplan : r.plan.routes.aun.endpointOf p.destination =
      r.routes.aun.endpointOf p.destination := rfl
  rw [hplan, sendToHost]
  cases r.routes.aun.endpointOf p.destination with
  | none => rfl
  | some e => exact (sendAlongEach_singleton p (.host e) r).symm

theorem sendToStation_eq (p : Packet) (r : Router) :
    sendToStation p r = sendAlongEach p (r.plan.toStation p.destination) r := by
  have hplan : r.plan.routes.transportTo p.destination =
      r.routes.transportTo p.destination := rfl
  rw [Plan.toStation, hplan, sendToStation]
  cases r.routes.transportTo p.destination with
  | none => rfl
  | some t =>
    cases t with
    | aun => exact sendToHost_eq p r
    | piconet => exact (sendAlongEach_singleton p .adapter r).symm
    | webSocket =>
      have hholder : r.plan.routes.pool.holderOf p.destination =
          r.routes.pool.holderOf p.destination := rfl
      simp only [hholder, sendBy]
      cases r.routes.pool.holderOf p.destination with
      | none => rfl
      | some c => exact (sendAlongEach_singleton p (.client c) r).symm

theorem sendToNetwork_eq (p : Packet) (r : Router) :
    sendToNetwork p r = sendAlongEach p (r.plan.toNetwork p.destination) r := by
  have hclients : sendToEach p (r.clientsOn p.destination.network) = sendAlongEach p
      ((r.plan.clients.filter (r.plan.routes.isClientOn p.destination.network)).map .client) :=
    sendToEach_eq p _
  have hadapter : (if r.routes.networks.contains p.destination.network then sendToAdapter p
      else nothing) = sendAlongEach p
        (if r.plan.routes.networks.contains p.destination.network then [.adapter] else []) := by
    have hplan : r.plan.routes.networks = r.routes.networks := rfl
    rw [hplan]
    split
    · funext s
      exact (sendAlongEach_singleton p .adapter s).symm
    · rfl
  -- The host is looked up last, in a router that still follows the plan.
  have hhost (s : Router) (hs : s.plan = r.plan) : sendToHost p s = sendAlongEach p
      ((r.plan.routes.aun.endpointOf p.destination).toList.map .host) s := by
    rw [sendToHost_eq, hs]
  rw [Plan.toNetwork, sendAlongEach_append, sendAlongEach_append, sendToNetwork, hclients, hadapter]
  simp only [both]
  rw [hhost]
  rw [plan_sendAlongEach, plan_sendAlongEach]

/-- **To send a packet is to send it along each of its ways.** -/
theorem send_eq (p : Packet) (r : Router) :
    send p r =
      ((sendAlongEach p (r.plan.ways p) r).1,
        if (sendAlongEach p (r.plan.ways p) r).1 then (sendAlongEach p (r.plan.ways p) r).2
        else (sendAlongEach p (r.plan.ways p) r).2.drop) := by
  have hways : (if p.destination.isBroadcast then sendToNetwork p r else sendToStation p r) =
      sendAlongEach p (r.plan.ways p) r := by
    unfold Plan.ways
    split
    · exact sendToNetwork_eq p r
    · exact sendToStation_eq p r
  rw [send, hways]

theorem snd_send (p : Packet) (r : Router) :
    (send p r).2 = (sendAlongEach p (r.plan.ways p) r).2 ∨
      (send p r).2 = (sendAlongEach p (r.plan.ways p) r).2.drop := by
  rw [send_eq]
  dsimp only
  split
  · exact .inl rfl
  · exact .inr rfl

/-- **Sending changes no way.** -/
theorem plan_send (p : Packet) (r : Router) : (send p r).2.plan = r.plan := by
  have hplan := plan_sendAlongEach p (r.plan.ways p) r
  rcases snd_send p r with h | h
  · rw [h, hplan]
  · rw [h]
    exact hplan

theorem plan_sendAll (ps : List Packet) (r : Router) : (r.sendAll ps).plan = r.plan := by
  induction ps generalizing r with
  | nil => rfl
  | cons p ps ih => exact (ih (send p r).2).trans (plan_send p r)

/-- **What is handed to ways out when a packet is sent.** -/
theorem messages_send (p : Packet) (r : Router) :
    (send p r).2.messages = r.messages ++ (r.parcels p).map (·.message r.aunPort) := by
  have hmessages := messages_sendAlongEach (r.nodup_ways p) p r
  rcases snd_send p r with h | h
  · rw [h, hmessages]
    rfl
  · rw [h]
    exact hmessages

theorem carries_of_mem_parcels {x : Parcel} (h : x ∈ r.parcels p) (d : UInt16) :
    (x.message d).Carries p := by
  obtain ⟨w, -, hx⟩ := List.mem_filterMap.mp h
  cases w with
  | client c =>
    cases hx
    exact ⟨_, rfl⟩
  | adapter =>
    obtain ⟨n, -, rfl⟩ := Option.map_eq_some_iff.mp hx
    exact ⟨n, rfl⟩
  | host e =>
    cases hx
    exact ⟨_, rfl⟩

end Router

end Econet
