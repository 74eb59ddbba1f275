import Econet.Proofs.Bridge.Reordering

/-!
# Packets to all stations of a network

A packet to a network is announced by every transport that knows the network: to each browser client
there, on the adapter, and to the host that stands for all. Each is handed one message, whatever
becomes of the others, and one that is taken is enough for the packet to count as sent. It is not
known in which order the clients come, and it does not matter.

## Main definitions

* `Router.Announces r p m`: the message `m` announces the packet `p` to its network

## Main results

* `Router.announces_iff`: the messages that a packet to a network is written in
* `Router.send_to_network`: what becomes of a packet to a network
-/

namespace Econet.Router

open Client (ConnectionId Pool)

variable {r : Router} {p : Packet} {m : Message}

/-- The message announces the packet to its network: to a browser client there, to the adapter if
the network is behind that, or to the host that stands for the network. -/
inductive Announces (r : Router) (p : Packet) : Message → Prop where
  | client {c : ConnectionId} {a : Address} (hclient : c ∈ r.clients.keys)
      (haddress : r.routes.pool.addressOf c = some a)
      (hnetwork : a.network = p.destination.network) :
      Announces r p (.text c (Client.Frame.ofPacket p (r.routes.pool.nextSequence c)).text)
  | adapter (hnetwork : r.routes.networks.contains p.destination.network = true)
      (hadapter : r.adapter.isSome = true) :
      Announces r p (.line (String.ofList ("BCAST".toList ++ Piconet.commandData p.payload)))
  | host {e : Aun.Endpoint} (hendpoint : r.routes.aun.endpointOf p.destination = some e) :
      Announces r p
        (.datagram (e.socket r.aunPort)
          (Aun.Frame.ofPacket p (r.routes.aun.nextSequence e.text)).encode)

theorem command_of_isBroadcast (hp : p.destination.isBroadcast = true) (localNetwork : UInt8) :
    Piconet.command p localNetwork =
      String.ofList ("BCAST".toList ++ Piconet.commandData p.payload) := by
  rw [Piconet.command, Piconet.commandHead, if_pos hp]

theorem Announces.reads (h : r.Announces p m) (hp : p.destination.isBroadcast = true) :
    m.Reads .broadcast p := by
  have hcarries : m.Carries p := by
    cases h with
    | client hclient haddress hnetwork => exact ⟨_, rfl⟩
    | adapter hnetwork hadapter => exact ⟨0, (command_of_isBroadcast hp 0).symm⟩
    | host hendpoint => exact ⟨_, rfl⟩
  have hreads := hcarries.reads
  rwa [PacketType.toward, if_pos hp] at hreads

/-- **The messages that a packet to a network is written in.** -/
theorem announces_iff (hp : p.destination.isBroadcast = true) :
    r.Announces p m ↔ ∃ w ∈ r.plan.ways p, r.message? p w = some m := by
  have hways : r.plan.ways p = r.plan.toNetwork p.destination := if_pos hp
  rw [hways]
  constructor
  -- The plan looks at clients, the adapter and hosts in this order.
  · rintro (⟨hclient, haddress, hnetwork⟩ | ⟨hnetwork, hadapter⟩ | hendpoint)
    · refine ⟨.client _, ?_, rfl⟩
      refine List.mem_append_left _ (List.mem_map_of_mem ?_)
      exact List.mem_filter.mpr ⟨hclient, Routes.isClientOn_iff.mpr ⟨_, haddress, hnetwork⟩⟩
    · obtain ⟨a, ha⟩ := Option.isSome_iff_exists.mp hadapter
      refine ⟨.adapter, ?_, ?_⟩
      · have hplan : r.plan.routes.networks.contains p.destination.network = true := hnetwork
        simp [Plan.toNetwork, hplan]
      · simp [message?, parcel?, plan, ha, Parcel.message, command_of_isBroadcast hp]
    · refine ⟨.host _, ?_, rfl⟩
      have hplan : r.plan.routes.aun.endpointOf p.destination = some _ := hendpoint
      simp [Plan.toNetwork, hplan]
  · rintro ⟨w, hw, hm⟩
    obtain ⟨x, hx, rfl⟩ := Option.map_eq_some_iff.mp hm
    cases w with
    | client c =>
      cases hx
      have hc : c ∈ r.plan.clients.filter (r.plan.routes.isClientOn p.destination.network) := by
        simpa [Plan.toNetwork] using hw
      obtain ⟨hclient, hon⟩ := List.mem_filter.mp hc
      obtain ⟨a, haddress, hnetwork⟩ := Routes.isClientOn_iff.mp hon
      exact .client hclient haddress hnetwork
    | adapter =>
      have hnetwork : r.plan.routes.networks.contains p.destination.network = true := by
        simpa [Plan.toNetwork] using hw
      obtain ⟨n, hn, rfl⟩ := Option.map_eq_some_iff.mp hx
      obtain ⟨a, ha, rfl⟩ := Option.map_eq_some_iff.mp hn
      rw [Parcel.message, command_of_isBroadcast hp]
      exact .adapter hnetwork (Option.isSome_of_eq_some ha)
    | host e =>
      cases hx
      exact .host (Plan.of_host_mem_ways (hways ▸ hw))

theorem map_message_parcels (p : Packet) (r : Router) :
    (r.parcels p).map (·.message r.aunPort) = (r.plan.ways p).filterMap (r.message? p) := by
  rw [parcels, List.map_filterMap]
  rfl

/-- Messages on different ways are different. -/
theorem eq_of_message?_eq {w v : Way} (hw : w ∈ r.plan.ways p) (hv : v ∈ r.plan.ways p)
    (hwm : r.message? p w = some m) (hvm : r.message? p v = some m) : w = v := by
  -- A message is of one transport, so only clients and hosts are left to be told apart.
  have ht : w.transport = v.transport := by
    rw [← transport_of_message? hwm, ← transport_of_message? hvm]
  cases w with
  | client c =>
    cases v with
    | client d =>
      cases hwm
      cases hvm
      rfl
    | adapter => cases ht
    | host f => cases ht
  | adapter =>
    cases v with
    | client d => cases ht
    | adapter => rfl
    | host f => cases ht
  | host e =>
    cases v with
    | client d => cases ht
    | adapter => cases ht
    | host f =>
      cases (Plan.of_host_mem_ways hw).symm.trans (Plan.of_host_mem_ways hv)
      rfl

theorem nodup_messages (p : Packet) (r : Router) :
    ((r.parcels p).map (·.message r.aunPort)).Nodup := by
  rw [map_message_parcels]
  refine List.pairwise_filterMap.mpr ((r.nodup_ways p).imp_of_mem ?_)
  rintro w v hw hv hne m hwm _ hvm rfl
  exact hne (eq_of_message?_eq hw hv hwm hvm)

/-- **What becomes of a packet to a network.** Each message that announces it is handed to its way
out once, and nothing else is; they are read as frames for all stations. The packet is sent if one
of them is taken. Each that is taken counts for its transport, and if none is the packet is dropped.
All this is the same if the clients come in another order, provided that the way out to hosts does
not see what clients are sent. -/
theorem send_to_network (hp : p.destination.station = 255) (r : Router) :
    (∃ attempts, Tries r attempts (send p r).2 ∧
      (attempts.map (·.message)).Nodup ∧
      (∀ m, m ∈ attempts.map (·.message) ↔ r.Announces p m) ∧
      (send p r).1 = attempts.any (·.isTaken) ∧
      (send p r).2.counts =
        { r.counts.after attempts with
          dropped := r.counts.dropped + if (send p r).1 then 0 else 1 }) ∧
    (∀ m, r.Announces p m → m.Reads .broadcast p) ∧
    ∀ cs : Table ConnectionId Link, r.clients.entries.Perm cs.entries →
      (∀ k ∈ r.sink, k.SeesOwn) →
      (send p r).1 = (send p { r with clients := cs }).1 ∧
        Alike (send p r).2 (send p { r with clients := cs }).2 := by
  have hbroadcast : p.destination.isBroadcast = true := decide_eq_true hp
  refine ⟨?_, fun m hm => hm.reads hbroadcast, fun cs hcs hsink => ?_⟩
  · obtain ⟨attempts, htries, hmessages, hsent, hcounts⟩ := exists_tries_send p r
    refine ⟨attempts, htries, ?_, fun m => ?_, hsent, hcounts⟩
    · rw [hmessages]
      exact nodup_messages p r
    · rw [hmessages, map_message_parcels, List.mem_filterMap, announces_iff hbroadcast]
  · exact agree_send p r _ (.of_perm hsink hcs)

/-- Three clients have an address, of which the second has a full queue and the third is on another
network. The first one, the adapter and the host take the packet, whoever of them comes first. -/
theorem send_to_network_full :
    let aun : Aun.Map := .ofRules [.subnet (.of (.ofNat 0x0A000000) 24 200 (by decide))]
    let pool : Pool := ⟨Table.empty.insert 200 ((Table.empty.insert 1 ⟨"a"⟩).insert 2 ⟨"b"⟩)
        |>.insert 201 (Table.empty.insert 1 ⟨"c"⟩),
      ((Table.empty.insert ⟨"a"⟩ ⟨200, 1⟩).insert ⟨"b"⟩ ⟨200, 2⟩).insert ⟨"c"⟩ ⟨201, 1⟩, .empty⟩
    let full : Link := { Link.ofCapacity 1 with queue := ["text"] }
    let clients : List (ConnectionId × Link) :=
      [(⟨"a"⟩, .ofCapacity 1), (⟨"b"⟩, full), (⟨"c"⟩, .ofCapacity 1)]
    let r (es : List (ConnectionId × Link)) : Router :=
      { Router.ofRoutes ⟨aun, .ofList [200], pool⟩ 32768 with
        sink := some ⟨fun js _ _ => (datagrams js).length < 1⟩
        clients := es.foldl (fun t e => t.insert e.1 e.2) Table.empty
        adapter := some ⟨.ofCapacity 16, 2⟩ }
    let p : Packet := ⟨⟨127, 254⟩, ⟨200, 255⟩, 0x99, 0x80, [0x42]⟩
    p.destination.station = 255 ∧ (send p (r clients)).1 = true ∧
      (send p (r clients)).2.counts = { aun := 1, webSocket := 1, piconet := 1 } ∧
      Alike (send p (r clients)).2 (send p (r clients.reverse)).2 ∧
      ∃ attempts, Tries (r clients) attempts (send p (r clients)).2 ∧
        ∀ text, .text ⟨"c"⟩ text ∉ attempts.map (·.message) := by
  intro aun pool full clients r p
  have hp : p.destination.station = 255 := rfl
  have hsink : ∀ k ∈ (r clients).sink, k.SeesOwn := by
    rintro k ⟨⟩ js ks h
    simp only [h]
  have hperm : (r clients).clients.entries.Perm (r clients.reverse).clients.entries := by
    decide
  obtain ⟨⟨attempts, htries, -, hmem, -⟩, -, halike⟩ := send_to_network hp (r clients)
  refine ⟨hp, by decide +kernel, by decide +kernel, (halike _ hperm hsink).2, attempts, htries,
    fun text h => ?_⟩
  have haddress : pool.addressOf ⟨"c"⟩ = some ⟨201, 1⟩ := by decide
  cases (hmem _).mp h with
  | client hclient haddress' hnetwork =>
    cases haddress.symm.trans haddress'
    exact absurd hnetwork (by decide)

end Econet.Router
