import Econet.Proofs.Bridge.Handover
import Econet.Proofs.Bridge.History
import Mathlib.Data.List.ReduceOption

/-!
# Several packets, one after the other

Packets that are sent one after the other do not get in each other's way. Each is tried on all of
its ways, whatever became of those before it. A way gets the packets that it leads to in their order
and numbered on and on, and its link takes of them what it has room for. What happens on one way is
nothing to another.

## Main definitions

* `Link.room`: how many texts a link takes if nobody reads
* `Plan.openWays q p`: the ways that a packet is tried on
* `Router.parcelsAlong r w ps`: the parcels of several packets that go along the way `w`
* `Way.text? w m`: what a message leaves in the queue of a way's link, if it is taken

## Main results

* `Router.map_trail`: each packet is tried once on each of its open ways, in order
* `Router.filter_way_trail`: what goes along one way
* `Router.Tries.received_eq_take`: a link takes what comes first
* `Router.exists_tries_sendAll`, `Router.linkOf_sendAll`: what becomes of several packets
-/

namespace Econet

open Client (ConnectionId)

/-! ### The room of a link -/

/-- How many texts the link takes if nobody reads any. -/
def Link.room (l : Link) : Nat := if l.isConnected then l.capacity - l.queue.length else 0

theorem Link.hasRoom_pushAll_iff (l : Link) (texts : List String) :
    (l.pushAll texts).hasRoom = true ↔ texts.length < l.room := by
  have hconnected : (l.pushAll texts).isConnected = l.isConnected := rfl
  rw [hasRoom, hconnected, room, pushAll]
  cases l.isConnected with
  | false => simp
  | true =>
    simp only [Bool.true_and, decide_eq_true_eq, List.length_append, if_true]
    omega

/-! ### Ways and numbers -/

/-- The way of a parcel. -/
def Parcel.way : Parcel → Way
  | toClient c _ _ => .client c
  | toAdapter _ _ => .adapter
  | toHost e _ _ => .host e

/-- The packet of a parcel. -/
def Parcel.packet : Parcel → Packet
  | toClient _ p _ => p
  | toAdapter p _ => p
  | toHost _ p _ => p

/-- The way can be tried. To the adapter this takes an adapter. -/
def Plan.isOpen (q : Plan) : Way → Bool
  | .adapter => q.localNetwork.isSome
  | .client _ => true
  | .host _ => true

/-- The ways that a packet is tried on. -/
def Plan.openWays (q : Plan) (p : Packet) : List Way := (q.ways p).filter q.isOpen

/-- A packet on a way, under a number, if the way is open. -/
def Plan.parcel? (q : Plan) (p : Packet) (number : UInt32) : Way → Option Parcel
  | .client c => some (.toClient c p number)
  | .adapter => q.localNetwork.map (.toAdapter p)
  | .host e => some (.toHost e p number)

/-- The number that the packets on a way have come to. Lines to the adapter are not numbered. -/
def Routes.reached (r : Routes) : Way → UInt32
  | .client c => r.pool.reached c
  | .adapter => 0
  | .host e => r.aun.reached e

/-- How far apart the numbers on a way are. -/
def Way.stride : Way → UInt32
  | .adapter => 0
  | .client _ => sequenceStride
  | .host _ => sequenceStride

theorem Routes.reached_advance (r : Routes) (w v : Way) :
    (r.advance w).reached v = if w = v then r.reached v + v.stride else r.reached v := by
  cases w with
  | client c =>
    cases v with
    | client d =>
      refine (r.pool.reached_advance c d).trans ?_
      by_cases h : c = d <;> simp [h, reached, Way.stride]
    | adapter => rfl
    | host f => rfl
  | adapter =>
    cases v with
    | client d => rfl
    | adapter => rfl
    | host f => rfl
  | host e =>
    cases v with
    | client d => rfl
    | adapter => rfl
    | host f =>
      refine (r.aun.reached_advance e f).trans ?_
      by_cases h : e = f <;> simp [h, reached, Way.stride]

theorem ofNat_add_stride (v : UInt32) (n : Nat) :
    UInt32.ofNat ((v + sequenceStride).toNat + n) = UInt32.ofNat (v.toNat + (4 + n)) := by
  apply UInt32.toNat_inj.mp
  have hstride : sequenceStride.toNat = 4 := rfl
  rw [UInt32.toNat_ofNat', UInt32.toNat_ofNat', UInt32.toNat_add, hstride]
  omega

/-- A packet that is one of several on its way, after `i` others. -/
def Plan.parcelAfter? (q : Plan) (reached : UInt32) (w : Way) (i : Nat) (p : Packet) :
    Option Parcel :=
  q.parcel? p (UInt32.ofNat (reached.toNat + 4 * (i + 1))) w

theorem Plan.parcelAfter?_zero (q : Plan) (v : UInt32) (w : Way) (p : Packet) :
    q.parcelAfter? v w 0 p = q.parcel? p (v + sequenceStride) w := by
  have hnumber := ofNat_add_stride v 0
  rw [Nat.add_zero, UInt32.ofNat_toNat] at hnumber
  rw [hnumber]
  rfl

/-- Once the number of a way is used, the next packet goes on from it. -/
theorem Plan.parcelAfter?_stride (q : Plan) (v : UInt32) (w : Way) (i : Nat) (p : Packet) :
    q.parcelAfter? (v + w.stride) w i p = q.parcelAfter? v w (i + 1) p := by
  have hnumber : UInt32.ofNat ((v + sequenceStride).toNat + 4 * (i + 1)) =
      UInt32.ofNat (v.toNat + 4 * (i + 1 + 1)) := by
    rw [ofNat_add_stride, Nat.mul_succ 4 (i + 1), Nat.add_comm 4]
  cases w with
  | client c => exact congrArg (q.parcel? p · (.client c)) hnumber
  | adapter => rfl
  | host e => exact congrArg (q.parcel? p · (.host e)) hnumber

namespace Router

variable {r s : Router} {p : Packet} {w v : Way} {x : Parcel}

theorem parcel?_eq (r : Router) (p : Packet) (w : Way) :
    r.parcel? p w = r.plan.parcel? p (r.routes.reached w + sequenceStride) w := by
  cases w <;> rfl

theorem way_of_parcel? (h : r.parcel? p w = some x) : x.way = w := by
  cases w with
  | client c =>
    cases h
    rfl
  | adapter =>
    obtain ⟨n, -, rfl⟩ := Option.map_eq_some_iff.mp h
    rfl
  | host e =>
    cases h
    rfl

/-! ### Which parcels there are -/

theorem map_parcel? (r : Router) (p : Packet) (w : Way) :
    (r.parcel? p w).map (fun x => (x.way, x.packet)) =
      if r.plan.isOpen w then some (w, p) else none := by
  cases w with
  | client c => rfl
  | adapter =>
    cases h : r.plan.localNetwork <;> simp [parcel?, Plan.isOpen, h, Parcel.way, Parcel.packet]
  | host e => rfl

theorem map_parcels (r : Router) (p : Packet) :
    (r.parcels p).map (fun x => (x.way, x.packet)) = (r.plan.openWays p).map (·, p) := by
  rw [parcels, Plan.openWays, List.map_filterMap]
  induction r.plan.ways p with
  | nil => rfl
  | cons w ws ih =>
    rw [List.filterMap_cons, map_parcel?, List.filter_cons, ih]
    cases r.plan.isOpen w <;> rfl

/-- **Each packet is tried once on each of its open ways**, in order and whatever became of those
before it. -/
theorem map_trail (ps : List Packet) (r : Router) :
    (r.trail ps).map (fun x => (x.way, x.packet)) =
      ps.flatMap fun p => (r.plan.openWays p).map (·, p) := by
  induction ps generalizing r with
  | nil => rfl
  | cons p ps ih => rw [trail, List.map_append, map_parcels, ih, plan_send, List.flatMap_cons]

/-- A parcel is on one of the ways of its packet. -/
theorem exists_way_mem_ways {ps : List Packet} (hx : x ∈ r.trail ps) :
    ∃ p ∈ ps, x.way ∈ r.plan.ways p := by
  have hmem := List.mem_map_of_mem (f := fun x : Parcel => (x.way, x.packet)) hx
  rw [map_trail] at hmem
  obtain ⟨p, hp, hway⟩ := List.mem_flatMap.mp hmem
  obtain ⟨w, hw, hwx⟩ := List.mem_map.mp hway
  cases hwx
  exact ⟨_, hp, (List.mem_filter.mp hw).1⟩

/-! ### What goes along one way -/

theorem filter_way_filterMap {ws : List Way} (h : ws.Nodup) (r : Router) (p : Packet) (w : Way) :
    (ws.filterMap (r.parcel? p)).filter (·.way = w) =
      if w ∈ ws then (r.parcel? p w).toList else [] := by
  induction ws with
  | nil => rfl
  | cons v ws ih =>
    obtain ⟨hv, hws⟩ := List.nodup_cons.mp h
    -- What goes along the way in front goes along it only.
    have hfirst : (r.parcel? p v).toList.filter (·.way = w) =
        if v = w then (r.parcel? p w).toList else [] := by
      cases hx : r.parcel? p v with
      | none =>
        split
        · next hvw =>
          subst hvw
          rw [hx]
          rfl
        · rfl
      | some x =>
        have hway := way_of_parcel? hx
        by_cases hvw : v = w
        · subst hvw
          simp [hway, hx]
        · simp [hway, hvw]
    have hcons : (v :: ws).filterMap (r.parcel? p) =
        (r.parcel? p v).toList ++ ws.filterMap (r.parcel? p) := by
      rw [List.filterMap_cons]
      cases r.parcel? p v <;> rfl
    rw [hcons, List.filter_append, hfirst, ih hws]
    by_cases hvw : v = w
    · -- The way stands here, and so nowhere else.
      subst hvw
      simp [hv]
    · simp [hvw, Ne.symm hvw]

theorem filter_way_parcels (r : Router) (p : Packet) (w : Way) :
    (r.parcels p).filter (·.way = w) =
      if w ∈ r.plan.ways p then (r.parcel? p w).toList else [] :=
  filter_way_filterMap (r.nodup_ways p) r p w

theorem reached_sendAlongEach {ws : List Way} (h : ws.Nodup) (p : Packet) (r : Router) (w : Way) :
    (sendAlongEach p ws r).2.routes.reached w =
      if w ∈ ws then r.routes.reached w + w.stride else r.routes.reached w := by
  induction ws generalizing r with
  | nil => rfl
  | cons v ws ih =>
    obtain ⟨hv, hws⟩ := List.nodup_cons.mp h
    rw [snd_sendAlongEach_cons, ih hws, routes_sendAlong, Routes.reached_advance]
    by_cases hvw : v = w
    · subst hvw
      simp [hv]
    · simp [hvw, Ne.symm hvw]

/-- A packet uses up one number of each of its ways. -/
theorem reached_send (p : Packet) (r : Router) (w : Way) :
    (send p r).2.routes.reached w =
      if w ∈ r.plan.ways p then r.routes.reached w + w.stride else r.routes.reached w := by
  have hreached := reached_sendAlongEach (r.nodup_ways p) p r w
  rcases snd_send p r with h | h
  · rw [h, hreached]
  · rw [h]
    exact hreached

/-- The parcels of several packets that go along a way: those packets that have the way, in their
order and numbered on and on. -/
def parcelsAlong (r : Router) (w : Way) (ps : List Packet) : List Parcel :=
  ((ps.filter fun p => w ∈ r.plan.ways p).mapIdx
    (r.plan.parcelAfter? (r.routes.reached w) w)).reduceOption

theorem parcelsAlong_cons (r : Router) (w : Way) (p : Packet) (ps : List Packet) :
    r.parcelsAlong w (p :: ps) =
      (if w ∈ r.plan.ways p then (r.parcel? p w).toList else []) ++
        (send p r).2.parcelsAlong w ps := by
  unfold parcelsAlong
  rw [plan_send, reached_send]
  by_cases hw : w ∈ r.plan.ways p
  · have hlater : r.plan.parcelAfter? (r.routes.reached w + w.stride) w =
        fun i => r.plan.parcelAfter? (r.routes.reached w) w (i + 1) := by
      funext i q
      exact r.plan.parcelAfter?_stride _ w i q
    rw [List.filter_cons, if_pos (decide_eq_true hw), List.mapIdx_cons, if_pos hw, if_pos hw,
      hlater, Plan.parcelAfter?_zero, ← parcel?_eq]
    cases r.parcel? p w <;> rfl
  · rw [List.filter_cons, if_neg (mt of_decide_eq_true hw), if_neg hw, if_neg hw, List.nil_append]

/-- **What goes along one way.** -/
theorem filter_way_trail (w : Way) (ps : List Packet) (r : Router) :
    (r.trail ps).filter (·.way = w) = r.parcelsAlong w ps := by
  induction ps generalizing r with
  | nil => rfl
  | cons p ps ih => rw [trail, List.filter_append, filter_way_parcels, ih, parcelsAlong_cons]

/-- On a way that is always open, each packet is a parcel. -/
theorem map_reduceOption_mapIdx_some {α β γ : Type} (f : Nat → α → β) (g : β → γ) (xs : List α) :
    (xs.mapIdx fun i x => some (f i x)).reduceOption.map g = xs.mapIdx fun i x => g (f i x) := by
  induction xs generalizing f with
  | nil => rfl
  | cons x xs ih =>
    rw [List.mapIdx_cons, List.mapIdx_cons, List.reduceOption_cons_of_some, List.map_cons, ih]

/-! ### What a link takes -/

end Router

/-- What a message leaves in the queue of a way's link, if it is taken. -/
def Way.text? (w : Way) (m : Message) : Option String :=
  match w, m with
  | .client c, .text d text => if c = d then some text else none
  | .adapter, .line line => some line
  | _, _ => none

theorem Way.received?_eq (w : Way) (a : Attempt) :
    w.received? a = if a.isTaken then w.text? a.message else none := by
  obtain ⟨m, isTaken⟩ := a
  cases isTaken <;> cases w <;> cases m <;> simp [received?, text?]

theorem Parcel.text?_message_of_ne {w : Way} {x : Parcel} (h : x.way ≠ w) (d : UInt16) :
    w.text? (x.message d) = none := by
  cases w with
  | client c =>
    cases x with
    | toClient e p n => exact if_neg fun hce => h (congrArg Way.client hce.symm)
    | toAdapter p n => rfl
    | toHost e p n => rfl
  | adapter =>
    cases x with
    | toClient e p n => rfl
    | toAdapter p n => exact absurd rfl h
    | toHost e p n => rfl
  | host e => cases x <;> rfl

namespace Router

variable {r s : Router} {attempts : List Attempt} {w : Way} {l : Link}

/-- A text on a way is taken if there is a link at its end, which has room. -/
theorem takes_of_text? {m : Message} {text : String} (hm : w.text? m = some text)
    (before : List Attempt) :
    r.takes before m = (r.linkOf w).any fun l => (l.pushAll (w.received before)).hasRoom := by
  cases w with
  | client c =>
    cases m with
    | text d written =>
      obtain ⟨rfl, -⟩ : c = d ∧ written = text := by simpa [Way.text?] using hm
      rfl
    | datagram target bytes => cases hm
    | line written => cases hm
  | adapter =>
    cases m with
    | line written => rfl
    | datagram target bytes => cases hm
    | text d written => cases hm
  | host e => cases m <;> cases hm

/-- **A link takes what comes first**, and no more than it has room for. -/
theorem Tries.received_eq_take (h : Tries r attempts s) (hl : r.linkOf w = some l) :
    w.received attempts = ((attempts.map (·.message)).filterMap w.text?).take l.room := by
  have htaken := h.isTaken
  clear h
  -- Attempt by attempt, where what was taken so far decides about the next one.
  induction attempts using List.reverseRecOn with
  | nil => simp [Way.received]
  | append_singleton as a ih =>
    have hreceived := ih fun pre b post he =>
      htaken pre b (post ++ [a]) (by rw [he, List.append_assoc]; rfl)
    have ha : a.isTaken = r.takes as a.message := htaken as a [] rfl
    have hlast : w.received [a] = (if a.isTaken then w.text? a.message else none).toList := by
      rw [← Way.received?_eq, Way.received, List.filterMap_cons]
      cases w.received? a <;> rfl
    have htext : ([a].map (·.message)).filterMap w.text? = (w.text? a.message).toList := by
      rw [List.map_singleton, List.filterMap_cons]
      cases w.text? a.message <;> rfl
    rw [Way.received_append, hlast, List.map_append, List.filterMap_append, htext]
    cases hm : w.text? a.message with
    | none => simp [hreceived]
    | some text =>
      have htakes : r.takes as a.message = (l.pushAll (w.received as)).hasRoom := by
        rw [takes_of_text? hm, hl, Option.any_some]
      have hroom := l.hasRoom_pushAll_iff (w.received as)
      rw [← htakes, ← ha, hreceived, List.length_take] at hroom
      rw [hreceived]
      generalize (as.map (·.message)).filterMap w.text? = texts at hroom ⊢
      cases htaken : a.isTaken with
      | true =>
        -- There is room for this text, and so there was for those before it.
        have hlt := hroom.mp htaken
        rw [List.take_of_length_le (by omega), List.take_of_length_le (by simp; omega)]
        rfl
      | false =>
        have hge : ¬ min l.room texts.length < l.room := fun hlt =>
          Bool.false_ne_true (htaken.symm.trans (hroom.mpr hlt))
        rw [List.take_append_of_le_length (by omega)]
        exact List.append_nil _

theorem Tries.linkOf_eq (h : Tries r attempts s) (w : Way) :
    s.linkOf w = (r.linkOf w).map fun l =>
      l.pushAll (((attempts.map (·.message)).filterMap w.text?).take l.room) := by
  rw [h.linkOf]
  cases hl : r.linkOf w with
  | none => rfl
  | some l => rw [Option.map_some, Option.map_some, h.received_eq_take hl]

/-! ### What becomes of several packets -/

/-- **All that several packets come to** is tried in order, and each message is taken if its way out
has room at the time. -/
theorem exists_tries_sendAll (ps : List Packet) (r : Router) :
    ∃ attempts, Tries r attempts (r.sendAll ps) ∧
      attempts.map (·.message) = (r.trail ps).map (·.message r.aunPort) := by
  induction ps generalizing r with
  | nil => exact ⟨[], .of_eq rfl rfl rfl rfl, rfl⟩
  | cons p ps ih =>
    obtain ⟨as, has, hmessages, -⟩ := exists_tries_send p r
    obtain ⟨bs, hbs, hlater⟩ := ih (send p r).2
    refine ⟨as ++ bs, has.trans hbs, ?_⟩
    rw [List.map_append, hmessages, hlater, aunPort_send, trail, List.map_append]

/-- What several packets leave in the queue of a way's link, as far as there is room. -/
def textsAlong (r : Router) (w : Way) (ps : List Packet) : List String :=
  (r.parcelsAlong w ps).filterMap fun x => w.text? (x.message r.aunPort)

theorem filterMap_text?_trail (w : Way) (ps : List Packet) (r : Router) :
    ((r.trail ps).map (·.message r.aunPort)).filterMap w.text? = r.textsAlong w ps := by
  rw [textsAlong, ← filter_way_trail, List.filterMap_filter, List.filterMap_map]
  refine List.filterMap_congr fun x _ => ?_
  rw [Function.comp_apply]
  split
  · rfl
  · next hx => exact Parcel.text?_message_of_ne (by simpa using hx) _

/-- **What several packets leave in a queue** depends on the way that leads there, and on nothing
that happens elsewhere. -/
theorem linkOf_sendAll (ps : List Packet) (r : Router) (w : Way) :
    (r.sendAll ps).linkOf w =
      (r.linkOf w).map fun l => l.pushAll ((r.textsAlong w ps).take l.room) := by
  obtain ⟨attempts, htries, hmessages⟩ := exists_tries_sendAll ps r
  rw [htries.linkOf_eq, hmessages, filterMap_text?_trail]

end Router

end Econet
