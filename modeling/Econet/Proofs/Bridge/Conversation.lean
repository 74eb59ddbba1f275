import Econet.Proofs.Aun.Attribution
import Econet.Proofs.Bridge.Acknowledgement
import Econet.Proofs.Bridge.Batches

/-!
# Answers to a host go on from its number

A number that a host sends is noted under the endpoint that the datagram comes from, and an answer is
numbered under the endpoint that its destination leads to. The answers to a datagram go on from its
number if these are one endpoint. They are whenever the answers go back to the socket that the
datagram came from, unless the destination has been released: it kept a port that moved to another
address, while a rule still binds the socket's port to it, and it leads to the host instead.

## Main definitions

* `Aun.Map.IsStranded rules t a`: a rule binds the port `t` to the address `a`, which was released
* `Message.isDatagram m`: the message `m` is for a host
* `Bridge.AnswersFrom b now peer bytes v`: the answers to a datagram go on from the number `v`

## Main results

* `Aun.Map.sourceEndpoint_socket_eq_iff`: when a socket is counted under the endpoint that leads
  to it
* `Router.filter_isDatagram_trail`: the datagrams of several packets for one endpoint
* `Bridge.answersFrom_sequence`: from which number the answers to a datagram go on
* `Bridge.not_answersFrom_of_released`: answers can go on from another number
-/

namespace Econet

open Account (Time)

/-! ### Two endpoints of one socket -/

namespace Aun.Map

variable {a : Address} {e : Endpoint}

theorem isReleased_of_isLatest {τ : Type} [DecidableEq τ] {t : τ} {bs : List (τ × Address)}
    (h : IsLatest t a bs) (hk : keeper a bs = none) : IsReleased a bs := by
  obtain ⟨pre, post, rfl, -⟩ := h
  rcases (keeper_eq_none_iff _ _).mp hk with hnever | hreleased
  · exact absurd rfl (hnever (t, a) (by simp))
  · exact hreleased

/-- A rule binds a port to an address that was released: the address kept another port, and that
moved away. -/
def IsStranded (rules : List Rule) (t : Ipv4 × UInt16) (a : Address) : Prop :=
  IsLatest t a (rules.filterMap Rule.portBinding?) ∧
    IsReleased a (rules.filterMap Rule.portBinding?)

variable {rules : List Rule}

theorem portOf_of_isStranded {t : Ipv4 × UInt16} (h : IsStranded rules t a) :
    (ofRules rules).portOf.get? a = none := by
  rw [portOf_ofRules]
  exact (keeper_eq_none_iff _ _).mpr (.inr h.2)

/-- A port of a host is counted with the host, unless a rule binds it. -/
theorem sourceEndpoint_eq_host_iff {ip : Ipv4} {d : UInt16}
    (hp : (ofRules rules).portOf.get? a = none)
    (ha : (ofRules rules).addressOf ip (some d) = some a) :
    (ofRules rules).sourceEndpoint ip d = ⟨ip, none⟩ ↔ ¬ IsStranded rules (ip, d) a := by
  unfold sourceEndpoint
  cases hd : (ofRules rules).hostPorts.get? (ip, d) with
  | none =>
    rw [Table.contains, hd]
    refine iff_of_true rfl fun h => ?_
    cases hd.symm.trans ((hostPorts_ofRules rules (ip, d) a).mpr h.1)
  | some b =>
    -- The port is bound, and so to the address that the socket has.
    obtain rfl : b = a := Option.some.inj ((addressOf_of_hostPorts hd).symm.trans ha)
    have hlatest := (hostPorts_ofRules rules (ip, d) b).mp hd
    rw [portOf_ofRules] at hp
    rw [Table.contains, hd]
    exact iff_of_false (by simp) fun h => h ⟨hlatest, isReleased_of_isLatest hlatest hp⟩

/-- **When a socket is counted under the endpoint that leads to it**: unless its port is bound to an
address that was released. -/
theorem sourceEndpoint_socket_eq_iff {d : UInt16} (he : (ofRules rules).endpointOf a = some e)
    (ha : (ofRules rules).addressOfSocket (e.socket d) = some a) :
    (ofRules rules).sourceEndpoint e.ip (e.socket d).port = e ↔
      ¬ IsStranded rules (e.ip, d) a := by
  -- By what the address has kept: a port, a host, or neither of them but a network.
  rcases endpointOf_eq_some.mp he with ⟨ip, port, hp, rfl⟩ | ⟨hp, ip, -, rfl⟩ | ⟨hp, -, ip, -, rfl⟩
  · have hbound : (ofRules rules).hostPorts.contains (ip, port) = true := by
      rw [Table.contains, (consistent_ofRules rules).ports _ _ hp]
      rfl
    show (ofRules rules).sourceEndpoint ip port = _ ↔ _
    rw [sourceEndpoint, if_pos hbound]
    refine iff_of_true rfl fun h => ?_
    cases hp.symm.trans (portOf_of_isStranded h)
  · exact sourceEndpoint_eq_host_iff hp ha
  · exact sourceEndpoint_eq_host_iff hp ha

end Aun.Map

/-! ### Datagrams among messages -/

/-- The message is for a host. -/
def Message.isDatagram : Message → Bool
  | .datagram _ _ => true
  | .text _ _ | .line _ => false

/-- A packet to a host has the way of that host. -/
theorem Plan.host_mem_ways {q : Plan} {p : Packet} {e : Aun.Endpoint}
    (he : q.routes.aun.endpointOf p.destination = some e)
    (h : p.destination.isBroadcast = true ∨ q.routes.transportTo p.destination = some .aun) :
    .host e ∈ q.ways p := by
  unfold Plan.ways
  split
  · rw [toNetwork, he]
    exact List.mem_append_right _ (List.mem_append_right _ List.mem_cons_self)
  · next hb =>
    rw [toStation, h.resolve_left hb, he]
    exact List.mem_cons_self

theorem Parcel.isDatagram_message_iff (x : Parcel) (d : UInt16) :
    (x.message d).isDatagram = true ↔ ∃ e, x.way = .host e := by
  cases x with
  | toClient c p n => simp [message, Message.isDatagram, way]
  | toAdapter p n => simp [message, Message.isDatagram, way]
  | toHost e p n => simp [message, Message.isDatagram, way]

namespace Router

variable {r : Router} {e : Aun.Endpoint}

/-- **The datagrams of several packets for one endpoint** are numbered on and on. -/
theorem filter_isDatagram_trail {ps : List Packet} {a : Address}
    (hps : ∀ p ∈ ps, p.destination = a) (he : r.plan.routes.aun.endpointOf a = some e)
    (h : a.isBroadcast = true ∨ r.plan.routes.transportTo a = some .aun) (d : UInt16) :
    ((r.trail ps).map (·.message d)).filter Message.isDatagram =
      ps.mapIdx fun i q => .datagram (e.socket d) (Aun.Frame.ofPacket q
        (UInt32.ofNat ((r.routes.aun.reached e).toNat + 4 * (i + 1)))).encode := by
  -- No other host is among the ways of these packets.
  have hhost (x : Parcel) (hx : x ∈ r.trail ps) :
      (x.message d).isDatagram = decide (x.way = .host e) := by
    refine Bool.eq_iff_iff.mpr ?_
    rw [x.isDatagram_message_iff, decide_eq_true_iff]
    constructor
    · rintro ⟨f, hf⟩
      obtain ⟨p, hp, hway⟩ := exists_way_mem_ways hx
      have hdestination := Plan.of_host_mem_ways (hf ▸ hway)
      rw [hps p hp] at hdestination
      cases he.symm.trans hdestination
      exact hf
    · exact fun hf => ⟨e, hf⟩
  -- All of them have the way of this one.
  have hall (p : Packet) (hp : p ∈ ps) : decide (.host e ∈ r.plan.ways p) = true := by
    rw [← hps p hp] at he h
    exact decide_eq_true (Plan.host_mem_ways he h)
  have hfilter : (r.trail ps).filter (Message.isDatagram ∘ (·.message d)) =
      (r.trail ps).filter (·.way = .host e) := List.filter_congr hhost
  rw [List.filter_map, hfilter, filter_way_trail, parcelsAlong, List.filter_eq_self.mpr hall]
  exact map_reduceOption_mapIdx_some _ _ ps

end Router

namespace Bridge

variable {b : Bridge} {rules : List Aun.Rule} {counters : Table String UInt32} {peer : Socket}
  {bytes : List UInt8} {f : Aun.Frame} {a : Address} {e : Aun.Endpoint}

/-- The answers of services to a datagram. -/
def answersTo (b : Bridge) (peer : Socket) (bytes : List UInt8) : List Packet :=
  (b.delivered? (.datagram peer bytes)).elim [] b.replies

theorem outgoing_datagram (b : Bridge) (peer : Socket) (bytes : List UInt8) :
    b.outgoing (.datagram peer bytes) = b.answersTo peer bytes := by
  unfold answersTo
  cases hp : b.delivered? (.datagram peer bytes) with
  | none =>
    rw [outgoing, hp]
    rfl
  | some p =>
    -- Every datagram is for the bridge itself.
    exact outgoing_of_isForServices rfl hp (isForServices_of_datagram hp)

/-- After the acknowledgement, the datagrams that are sent when a datagram arrives are the answers
to it, which go on from a number and back to where it came from. -/
def AnswersFrom (b : Bridge) (now : Time) (peer : Socket) (bytes : List UInt8) (v : UInt32) :
    Prop :=
  ∃ sent, (b.handle now (.datagram peer bytes)).router.messages = b.router.messages ++
      ((b.context.ackOf bytes).map (.datagram peer)).toList ++ sent ∧
    sent.filter Message.isDatagram = (b.answersTo peer bytes).mapIdx fun i q =>
      .datagram peer (Aun.Frame.ofPacket q (UInt32.ofNat (v.toNat + 4 * (i + 1)))).encode

theorem answersFrom_settle (hf : Aun.Frame.decode bytes = .ok f)
    (ha : b.router.routes.aun.addressOfSocket peer = some a)
    (he : b.router.routes.aun.endpointOf a = some e)
    (hpeer : e.socket b.router.aunPort = peer)
    (hroute : a.isBroadcast = true ∨ b.router.routes.transportTo a = some .aun)
    (hall : ∀ q ∈ b.answersTo peer bytes, q.destination = a) (now : Time) :
    b.AnswersFrom now peer bytes
      ((b.settle (.datagram peer bytes)).router.routes.aun.reached e) := by
  have hplan := b.plan_settle_datagram peer bytes
  refine ⟨((b.settle (.datagram peer bytes)).router.trail (b.answersTo peer bytes)).map
    (·.message b.router.aunPort), ?_, ?_⟩
  · rw [router_handle, Router.messages_sendAll, messages_settle, answer?_datagram hf ha,
      outgoing_datagram, aunPort_settle]
  · rw [Router.filter_isDatagram_trail hall (by rw [hplan]; exact he) (by rw [hplan]; exact hroute),
      hpeer]

/-- The number that an endpoint has come to when a datagram from it, or from another one, has
arrived. -/
theorem reached_settle (hf : Aun.Frame.decode bytes = .ok f)
    (ha : b.router.routes.aun.addressOfSocket peer = some a) {ip : Ipv4}
    (hip : peer.ipv4? = some ip) (e : Aun.Endpoint) :
    (b.settle (.datagram peer bytes)).router.routes.aun.reached e =
      if b.router.routes.aun.sourceEndpoint ip peer.port = e then f.header.sequence
      else b.router.routes.aun.reached e := by
  rw [routes_settle_datagram hf hip ha, Aun.Map.reached_prime]

/-- **From which number the answers to a datagram go on**, when all of them are for the station that
it came from, and go back to the socket that it came from. They go on from its own number, unless
the station was released while a rule binds the socket's port to it: then, and only then, datagrams
from the socket and answers to it are counted apart, and the answers go on from whatever number the
answers before them have come to. -/
theorem answersFrom_sequence (haun : b.router.routes.aun = { Aun.Map.ofRules rules with counters })
    (hf : Aun.Frame.decode bytes = .ok f)
    (ha : b.router.routes.aun.addressOfSocket peer = some a)
    (he : b.router.routes.aun.endpointOf a = some e)
    (hpeer : e.socket b.router.aunPort = peer)
    (hroute : a.isBroadcast = true ∨ b.router.routes.transportTo a = some .aun)
    (hall : ∀ q ∈ b.answersTo peer bytes, q.destination = a) (now : Time) :
    let isStranded := Aun.Map.IsStranded rules (e.ip, b.router.aunPort) a
    (b.router.routes.aun.sourceKey e.ip peer.port = e.text ↔ ¬ isStranded) ∧
      (¬ isStranded → b.AnswersFrom now peer bytes f.header.sequence) ∧
      (isStranded → b.AnswersFrom now peer bytes (b.router.routes.aun.reached e)) := by
  intro isStranded
  -- The datagram and the answers are counted together exactly if their endpoints are the same.
  have hsource : b.router.routes.aun.sourceEndpoint e.ip peer.port = e ↔ ¬ isStranded := by
    have hsocket := ha
    rw [haun] at he hsocket ⊢
    rw [← hpeer] at hsocket ⊢
    exact Aun.Map.sourceEndpoint_socket_eq_iff he hsocket
  have hip : peer.ipv4? = some e.ip := by
    rw [← hpeer]
    rfl
  have hanswers := answersFrom_settle hf ha he hpeer hroute hall now
  rw [reached_settle hf ha hip] at hanswers
  refine ⟨?_, fun h => ?_, fun h => ?_⟩
  · rw [Aun.Map.sourceKey_eq, ← hsource]
    exact ⟨Aun.Endpoint.text_inj, congrArg Aun.Endpoint.text⟩
  · rwa [if_pos (hsource.mpr h)] at hanswers
  · rwa [if_neg fun hs => hsource.mp hs h] at hanswers

/-- A host is known by a rule for it, or besides by one for its port, to a station that was released.
Answers go on from its number 100 in the first case, and from nothing in the second. -/
theorem answersFrom_sequence_released :
    let ip : Ipv4 := .ofNat 0x0A000005
    let echo : Service :=
      .fresh (fun _ port => port = 0x99) fun _ p => [⟨p.destination, p.source, 0x99, 0x80, []⟩]
    let bridge (rules : List Aun.Rule) : Bridge := ⟨⟨⟨127, 254⟩, 2, 0, none⟩,
      .ofRoutes ⟨.ofRules rules, .empty, .empty⟩ 32768, .ofBackends [] 0 "", [echo]⟩
    let known : List Aun.Rule := [.host ip ⟨1, 5⟩]
    let released : List Aun.Rule := [.hostPort (.ofNat 0x0A000006) 1000 ⟨1, 5⟩,
      .hostPort ip 32768 ⟨1, 5⟩, .hostPort (.ofNat 0x0A000006) 1000 ⟨1, 7⟩, .host ip ⟨1, 5⟩]
    let peer := Socket.ofIpv4 ip 32768
    let bytes : List UInt8 := [2, 0x99, 0x80, 0, 100, 0, 0, 0]
    (bridge known).AnswersFrom 1 peer bytes 100 ∧
      (bridge released).AnswersFrom 1 peer bytes 0 := by
  intro ip echo bridge known released peer bytes
  refine ⟨?_, ?_⟩
  · refine (@answersFrom_sequence (bridge known) known .empty peer bytes
      ⟨⟨.unicast, 0x99, 0x80, 0, 100⟩, []⟩ ⟨1, 5⟩ ⟨ip, none⟩ rfl rfl (by decide)
      (by decide) rfl (.inr (by decide)) (by decide) 1).2.1 fun h => ?_
    have hlatest := (Aun.Map.hostPorts_ofRules _ _ _).mpr h.1
    exact absurd hlatest (by decide)
  · refine (@answersFrom_sequence (bridge released) released .empty peer bytes
      ⟨⟨.unicast, 0x99, 0x80, 0, 100⟩, []⟩ ⟨1, 5⟩ ⟨ip, none⟩ rfl rfl (by decide)
      (by decide) rfl (.inr (by decide)) (by decide) 1).2.2 ?_
    have hlatest := (Aun.Map.hostPorts_ofRules released (ip, 32768) ⟨1, 5⟩).mp (by decide)
    exact ⟨hlatest, Aun.Map.isReleased_of_isLatest hlatest (by decide)⟩

/-- Two ports have one address; the first one moves away, and the host of the second one has the
address as well. The second port is still known by the address, and answers to it go back to it, but
they do not go on from its number. -/
theorem not_answersFrom_of_released :
    let ip : Ipv4 := .ofNat 0x0A000005
    let rules : List Aun.Rule := [.hostPort (.ofNat 0x0A000006) 1000 ⟨1, 5⟩,
      .hostPort ip 32768 ⟨1, 5⟩, .hostPort (.ofNat 0x0A000006) 1000 ⟨1, 7⟩, .host ip ⟨1, 5⟩]
    let b : Bridge := ⟨⟨⟨127, 254⟩, 2, 0, none⟩,
      .ofRoutes ⟨.ofRules rules, .empty, .empty⟩ 32768, .ofBackends [] 0 "",
      [.fresh (fun _ port => port = 0x99) fun _ p =>
        [⟨p.destination, p.source, p.port, p.control, 7 :: p.payload⟩]]⟩
    let peer := Socket.ofIpv4 ip 32768
    let bytes : List UInt8 := [2, 0x99, 0x80, 0, 100, 0, 0, 0, 0x41]
    b.router.routes.aun.addressOfSocket peer = some ⟨1, 5⟩ ∧
      b.router.routes.aun.endpointOf ⟨1, 5⟩ = some ⟨ip, none⟩ ∧
      (⟨ip, none⟩ : Aun.Endpoint).socket 32768 = peer ∧
      b.router.routes.transportTo ⟨1, 5⟩ = some .aun ∧
      (∀ q ∈ b.answersTo peer bytes, q.destination = ⟨1, 5⟩) ∧
      (b.handle 1 (.datagram peer bytes)).router.messages =
        [.datagram peer [3, 0, 0, 0, 100, 0, 0, 0],
          .datagram peer [2, 0x99, 0x80, 0, 4, 0, 0, 0, 7, 0x41]] ∧
      ¬ b.AnswersFrom 1 peer bytes 100 := by
  intro ip rules b peer bytes
  have hmessages : (b.handle 1 (.datagram peer bytes)).router.messages =
      [.datagram peer [3, 0, 0, 0, 100, 0, 0, 0],
        .datagram peer [2, 0x99, 0x80, 0, 4, 0, 0, 0, 7, 0x41]] := by decide
  refine ⟨by decide, by decide, rfl, by decide, by decide,
    hmessages, ?_⟩
  rintro ⟨sent, hsent, hanswers⟩
  -- What follows the acknowledgement is the one answer.
  obtain rfl : [.datagram peer [2, 0x99, 0x80, 0, 4, 0, 0, 0, 7, 0x41]] = sent :=
    (List.cons.inj (hmessages.symm.trans hsent)).2
  exact absurd hanswers (by decide)

end Bridge

end Econet
