import Econet.Proofs.Bridge.Handover

/-!
# Packets to one station

A packet to a station is one message or none, by the transport that leads to the station's address.
That transport has been decided on when the message is written: if it does not take the message, or
if there is no adapter to write a line for, no other is asked, and the packet is dropped.

## Main definitions

* `Router.Conveys r p t m`: the message `m` conveys the packet `p` by the transport `t`

## Main results

* `Router.send_to_station`: what becomes of a packet to a station
-/

namespace Econet.Router

open Client (ConnectionId Pool)

variable {r : Router} {p : Packet} {t : Transport} {m : Message}

/-- The message conveys the packet to its station by a transport: to the browser client that holds
the address, otherwise to the adapter if the network is behind that, otherwise to the host. -/
inductive Conveys (r : Router) (p : Packet) : Transport → Message → Prop where
  | webSocket {c : ConnectionId} (hholder : r.routes.pool.holderOf p.destination = some c) :
      Conveys r p .webSocket
        (.text c (Client.Frame.ofPacket p (r.routes.pool.nextSequence c)).text)
  | piconet {a : Piconet.Adapter} (hholder : r.routes.pool.holderOf p.destination = none)
      (hnetwork : r.routes.networks.contains p.destination.network = true)
      (hadapter : r.adapter = some a) :
      Conveys r p .piconet (.line (Piconet.command p a.localNetwork))
  | aun {e : Aun.Endpoint} (hholder : r.routes.pool.holderOf p.destination = none)
      (hnetwork : r.routes.networks.contains p.destination.network = false)
      (hendpoint : r.routes.aun.endpointOf p.destination = some e) :
      Conveys r p .aun
        (.datagram (e.socket r.aunPort)
          (Aun.Frame.ofPacket p (r.routes.aun.nextSequence e.text)).encode)

theorem Conveys.transportTo (h : r.Conveys p t m) :
    r.routes.transportTo p.destination = some t := by
  cases h with
  | webSocket hholder => simp [Routes.transportTo, hholder]
  | piconet hholder hnetwork hadapter => simp [Routes.transportTo, hholder, hnetwork]
  | aun hholder hnetwork hendpoint => simp [Routes.transportTo, hholder, hnetwork, hendpoint]

theorem Conveys.transport (h : r.Conveys p t m) : m.transport = t := by
  cases h <;> rfl

theorem Conveys.carries (h : r.Conveys p t m) : m.Carries p := by
  cases h with
  | webSocket hholder => exact ⟨_, rfl⟩
  | piconet hholder hnetwork hadapter => exact ⟨_, rfl⟩
  | aun hholder hnetwork hendpoint => exact ⟨_, rfl⟩

theorem isBroadcast_eq_false (hp : p.destination.station ≠ 255) :
    p.destination.isBroadcast = false :=
  decide_eq_false hp

theorem Conveys.reads (h : r.Conveys p t m) (hp : p.destination.station ≠ 255) :
    m.Reads .unicast p := by
  have hreads := h.carries.reads
  rwa [PacketType.toward, isBroadcast_eq_false hp] at hreads

/-- There is one message for a packet to a station, unless there is no way. -/
theorem exists_conveys (hp : p.destination.station ≠ 255) (r : Router) :
    ∃ message : Option Message,
      (r.parcels p).map (·.message r.aunPort) = message.toList ∧
      (∀ m ∈ message, ∃ t, r.Conveys p t m) ∧
      (message = none ↔ r.routes.transportTo p.destination = none ∨
        r.routes.transportTo p.destination = some .piconet ∧ r.adapter = none) := by
  have hways : r.plan.ways p = r.plan.toStation p.destination := by
    simp [Plan.ways, isBroadcast_eq_false hp]
  have hplan : r.plan.routes.transportTo p.destination =
      r.routes.transportTo p.destination := rfl
  have hholderOf : r.plan.routes.pool.holderOf p.destination =
      r.routes.pool.holderOf p.destination := rfl
  have hendpointOf : r.plan.routes.aun.endpointOf p.destination =
      r.routes.aun.endpointOf p.destination := rfl
  rw [parcels, hways, Plan.toStation, hplan, hholderOf, hendpointOf]
  -- The transport is that of the first of the three that knows the address.
  cases hholder : r.routes.pool.holderOf p.destination with
  | some c =>
    have hm := Conveys.webSocket hholder
    have ht := hm.transportTo
    refine ⟨some _, by rw [ht]; rfl, ?_, by simp [ht]⟩
    rintro m ⟨⟩
    exact ⟨_, hm⟩
  | none =>
    cases hnetwork : r.routes.networks.contains p.destination.network with
    | true =>
      have ht : r.routes.transportTo p.destination = some .piconet := by
        simp [Routes.transportTo, hholder, hnetwork]
      cases hadapter : r.adapter with
      | none =>
        refine ⟨none, ?_, by simp, by simp [ht]⟩
        rw [ht]
        simp [parcel?, plan, hadapter]
      | some a =>
        refine ⟨some (.line (Piconet.command p a.localNetwork)), ?_, ?_, by simp [ht]⟩
        · rw [ht]
          simp [parcel?, plan, hadapter, Parcel.message]
        · rintro m ⟨⟩
          exact ⟨_, .piconet hholder hnetwork hadapter⟩
    | false =>
      cases hendpoint : r.routes.aun.endpointOf p.destination with
      | none =>
        have ht : r.routes.transportTo p.destination = none := by
          simp [Routes.transportTo, hholder, hnetwork, hendpoint]
        exact ⟨none, by rw [ht]; rfl, by simp, by simp [ht]⟩
      | some e =>
        have hm := Conveys.aun hholder hnetwork hendpoint
        have ht := hm.transportTo
        refine ⟨some _, by rw [ht]; rfl, ?_, by simp [ht]⟩
        rintro m ⟨⟩
        exact ⟨_, hm⟩

/-- Of an attempt that is the only one, it is enough to know the message and what it comes to. -/
theorem eq_of_map_message {attempts : List Attempt} {message : Option Message} {isSent : Bool}
    (hmessages : attempts.map (·.message) = message.toList)
    (hsent : isSent = attempts.any (·.isTaken)) :
    attempts = (message.map (⟨·, isSent⟩)).toList := by
  cases message with
  | none => exact List.map_eq_nil_iff.mp hmessages
  | some m =>
    obtain ⟨a, rfl, rfl⟩ := List.map_eq_singleton_iff.mp hmessages
    simp [hsent]

/-- **What becomes of a packet to a station.** There is one message for it, which conveys it by the
transport that leads to the station and is read as a frame for one station; there is none only if
no transport leads there, or if that is the adapter and there is no adapter. Nothing else is tried.
The packet is sent if the message is taken. Then the transport has one more packet, and otherwise
one more is dropped. -/
theorem send_to_station (hp : p.destination.station ≠ 255) (r : Router) :
    ∃ message : Option Message,
      Tries r (message.map (⟨·, (send p r).1⟩)).toList (send p r).2 ∧
      (∀ m ∈ message, ∃ t, r.routes.transportTo p.destination = some t ∧ r.Conveys p t m ∧
        m.Reads .unicast p) ∧
      (message = none ↔ r.routes.transportTo p.destination = none ∨
        r.routes.transportTo p.destination = some .piconet ∧ r.adapter = none) ∧
      ((send p r).1 = true ↔ ∃ m ∈ message, r.takes [] m = true) ∧
      ((send p r).1 = true → ∃ t, r.routes.transportTo p.destination = some t ∧
        (send p r).2.counts = r.counts.add t) ∧
      ((send p r).1 = false →
        (send p r).2.counts = { r.counts with dropped := r.counts.dropped + 1 }) := by
  obtain ⟨attempts, htries, hmessages, hsent, hcounts⟩ := exists_tries_send p r
  obtain ⟨message, hparcels, hconveys, hnone⟩ := exists_conveys hp r
  obtain rfl := eq_of_map_message (hmessages.trans hparcels) hsent
  refine ⟨message, htries, ?_, hnone, ?_⟩
  · intro m hm
    obtain ⟨t, ht⟩ := hconveys m hm
    exact ⟨t, ht.transportTo, ht, ht.reads hp⟩
  cases message with
  | none =>
    have hfalse : (send p r).1 = false := hsent
    refine ⟨by simp [hfalse], by simp [hfalse], fun _ => ?_⟩
    rw [hcounts, hfalse]
    rfl
  | some m =>
    obtain ⟨t, ht⟩ := hconveys m rfl
    -- Nothing was tried before the only message.
    have htakes : (send p r).1 = r.takes [] m := htries.isTaken [] _ [] rfl
    rw [Option.map_some, Option.toList_some, Counts.after_singleton, ht.transport] at hcounts
    refine ⟨by simp [htakes], fun h => ⟨t, ht.transportTo, ?_⟩, fun h => ?_⟩
    · rw [hcounts, h]
      cases t <;> rfl
    · rw [hcounts, h]
      rfl

/-- The queue of the client that holds the address is full. The adapter has room and a host is said
to have the address too, but the packet is dropped. -/
theorem send_to_station_full :
    let aun : Aun.Map := .ofRules [.host (.ofNat 0x0A000005) ⟨200, 1⟩]
    let pool := ((Pool.ofList [200]).allocate ⟨"a"⟩).2
    let full : Link := { Link.ofCapacity 1 with queue := ["text"] }
    let r : Router :=
      { Router.ofRoutes ⟨aun, .ofList [200], pool⟩ 32768 with
        sink := some ⟨fun _ _ _ => true⟩
        clients := Table.empty.insert ⟨"a"⟩ full
        adapter := some ⟨.ofCapacity 16, 2⟩ }
    let p : Packet := ⟨⟨127, 254⟩, ⟨200, 1⟩, 0x99, 0x80, [0x42]⟩
    p.destination.station ≠ 255 ∧ (send p r).1 = false ∧
      (send p r).2.counts = { dropped := 1 } ∧
      ∃ m, Tries r [⟨m, false⟩] (send p r).2 ∧ r.Conveys p .webSocket m := by
  intro aun pool full r p
  have hp : p.destination.station ≠ 255 := by decide
  have ha : r.routes.pool.holderOf p.destination = some ⟨"a"⟩ := by decide
  have ht : r.routes.transportTo p.destination = some .webSocket := by decide
  obtain ⟨message, htries, hconveys, hnone, htaken, -, hdropped⟩ := send_to_station hp r
  cases message with
  | none => simp [ht] at hnone
  | some m =>
    obtain ⟨t, ht', hm, -⟩ := hconveys m rfl
    cases ht.symm.trans ht'
    have hfull : r.takes [] m = false := by
      cases hm with
      | webSocket hholder =>
        cases ha.symm.trans hholder
        rfl
    have hfalse : (send p r).1 = false := by
      simpa [hfull] using htaken
    refine ⟨hp, hfalse, hdropped hfalse, m, ?_, hm⟩
    rw [hfalse] at htries
    exact htries

end Econet.Router
