import Econet.Proofs.Aun.Bindings

/-!
# Looking up an address and its host in turn

An address leads to an endpoint, and the endpoint has an address. After any rules that is the
address itself, unless it is a broadcast that a subnet answers, whose network is kept. The other
way round something can get lost: a host may have an address that leads nowhere, as soon as the
host that was first to have it moves to another address.

## Main definitions

* `Map.subnetHost m a`: the host that subnets give to the address `a`
* `Map.LeadsBack m a`: the address `a` leads to an endpoint that has this address

## Main results

* `Map.endpointOf_eq_some`: the three ways to an endpoint
* `Map.addressOf_endpointOf`: no address leads to an endpoint that is known as somebody else
* `Map.leadsBack_ofRules_iff`: the addresses that lead back, by the history of the rules
* `Map.not_leadsBack_of_alias`: a rule can cut off a host that it does not mention
-/

namespace Econet.Aun

theorem Subnet.lastOctet_host (s : Subnet) {station : UInt8}
    (h : station ≠ Address.broadcastStation) : (s.host station).lastOctet = station := by
  have hs := station.toNat_lt
  apply UInt8.toNat_inj.mp
  simp only [Subnet.host, h, if_false, Ipv4.lastOctet, Ipv4.ofNat, UInt8.toNat_ofNat']
  omega

namespace Map

variable {m : Map} {a : Address} {ip : Ipv4}

/-! ### Addresses of endpoints -/

theorem addressOf_of_hostPorts {port : UInt16} (h : m.hostPorts.get? (ip, port) = some a) :
    m.addressOf ip (some port) = some a := by
  simp [addressOf, ruledAddressOf, h]

theorem addressOf_of_hosts (h : m.hosts.get? ip = some a) : m.addressOf ip none = some a := by
  simp [addressOf, ruledAddressOf, h]

/-- A host that no rule names has no address by a rule, whatever port it sends from. -/
theorem ruledAddressOf_of_not_isRuled (h : m.isRuled ip = false) (port : Option UInt16) :
    m.ruledAddressOf ip port = none := by
  simp only [isRuled, Bool.or_eq_false_iff, List.any_eq_false, decide_eq_true_eq] at h
  obtain ⟨hhost, hport⟩ := h
  have hhost : m.hosts.get? ip = none := by simpa [Table.contains] using hhost
  have hnone : (port.bind fun p => m.hostPorts.get? (ip, p)) = none := by
    rw [Option.bind_eq_none_iff]
    intro p _
    by_contra hp
    obtain ⟨b, hb⟩ := Option.ne_none_iff_exists'.mp hp
    exact hport (ip, p) ((Table.mem_keys_iff _ _).mpr ⟨b, hb⟩) rfl
  rw [ruledAddressOf, hnone]
  exact hhost

/-- A host that is known on a network through a subnet has its last number as station. -/
theorem addressOf_of_knowsOnNetwork {network : UInt8} (h : m.knowsOnNetwork network ip)
    (port : Option UInt16) : m.addressOf ip port = some ⟨network, ip.lastOctet⟩ := by
  simp only [knowsOnNetwork, Bool.and_eq_true, Bool.not_eq_true', decide_eq_true_eq] at h
  obtain ⟨hruled, hsubnet⟩ := h
  obtain ⟨s, hs, rfl⟩ := Option.map_eq_some_iff.mp hsubnet
  rw [addressOf, ruledAddressOf_of_not_isRuled hruled, hs]
  rfl

/-! ### Endpoints of addresses -/

/-- The host that the subnets of its network give to an address. -/
def subnetHost (m : Map) (a : Address) : Option Ipv4 :=
  (m.candidates a).find? (m.knowsOnNetwork a.network)

theorem knowsOnNetwork_of_subnetHost (h : m.subnetHost a = some ip) :
    m.knowsOnNetwork a.network ip :=
  List.find?_some h

theorem lastOctet_of_subnetHost (h : m.subnetHost a = some ip)
    (ha : a.station ≠ Address.broadcastStation) : ip.lastOctet = a.station := by
  obtain ⟨s, -, rfl⟩ := List.mem_map.mp (List.mem_of_find?_eq_some h)
  exact s.lastOctet_host ha

/-- **The three ways to an endpoint**: a port, a host, and then a host of a subnet. -/
theorem endpointOf_eq_some {e : Endpoint} :
    m.endpointOf a = some e ↔
      (∃ ip port, m.portOf.get? a = some (ip, port) ∧ e = ⟨ip, some port⟩) ∨
      (m.portOf.get? a = none ∧ ∃ ip, m.hostOf.get? a = some ip ∧ e = ⟨ip, none⟩) ∨
      (m.portOf.get? a = none ∧ m.hostOf.get? a = none ∧
        ∃ ip, m.subnetHost a = some ip ∧ e = ⟨ip, none⟩) := by
  unfold endpointOf subnetHost
  split
  · next ip port hp => simp [hp, eq_comm]
  · next hp =>
    split
    · next ip hh => simp [hp, hh, eq_comm]
    · next hh =>
      rw [Option.map_eq_some_iff]
      simp [hp, hh, eq_comm]

/-- **An address leads to an endpoint that has this address**, except that a broadcast leads to
one that is at least on its network. -/
theorem addressOf_endpointOf (rules : List Rule) (a : Address) (e : Endpoint)
    (h : (ofRules rules).endpointOf a = some e) :
    ∃ b, (ofRules rules).addressOf e.ip e.port = some b ∧ b.network = a.network ∧
      (a.station ≠ Address.broadcastStation → b = a) := by
  have hm := consistent_ofRules rules
  rcases endpointOf_eq_some.mp h with ⟨ip, port, hp, rfl⟩ | ⟨-, ip, hh, rfl⟩ | ⟨-, -, ip, hs, rfl⟩
  · exact ⟨a, addressOf_of_hostPorts (hm.ports _ _ hp), rfl, fun _ => rfl⟩
  · exact ⟨a, addressOf_of_hosts (hm.hosts _ _ hh), rfl, fun _ => rfl⟩
  · refine ⟨⟨a.network, ip.lastOctet⟩,
      addressOf_of_knowsOnNetwork (knowsOnNetwork_of_subnetHost hs) none, rfl, ?_⟩
    intro ha
    rw [lastOctet_of_subnetHost hs ha]

/-- Of two subnets the longer one is asked first; the host that it gives has another address, so
the wider subnet answers. -/
theorem addressOf_endpointOf_overlap :
    let rules : List Rule := [.subnet (.of (.ofNat 0x0A010000) 16 9 (by decide)),
      .subnet (.of (.ofNat 0x0A000000) 8 9 (by decide)), .host (.ofNat 0x0A010006) ⟨9, 77⟩]
    (ofRules rules).endpointOf ⟨9, 6⟩ = some ⟨.ofNat 0x0A000006, none⟩ ∧
      ∃ b, (ofRules rules).addressOf (.ofNat 0x0A000006) none = some b ∧ b.network = 9 ∧
        ((6 : UInt8) ≠ Address.broadcastStation → b = ⟨9, 6⟩) := by
  intro rules
  have hc : (ofRules rules).candidates ⟨9, 6⟩ = [.ofNat 0x0A010006, .ofNat 0x0A000006] := by
    rw [candidates, List.mergeSort_of_pairwise (by decide)]
    decide
  have h : (ofRules rules).endpointOf ⟨9, 6⟩ = some ⟨.ofNat 0x0A000006, none⟩ := by
    rw [endpointOf, hc]
    decide
  exact ⟨h, addressOf_endpointOf rules ⟨9, 6⟩ ⟨.ofNat 0x0A000006, none⟩ h⟩

/-! ### Addresses that lead back -/

/-- The address leads to an endpoint, and the endpoint has this address. -/
def LeadsBack (m : Map) (a : Address) : Prop :=
  ∃ e, m.endpointOf a = some e ∧ m.addressOf e.ip e.port = some a

theorem Consistent.leadsBack_of_portOf (h : m.Consistent) {t : Ipv4 × UInt16}
    (ht : m.portOf.get? a = some t) : m.LeadsBack a :=
  ⟨⟨t.1, some t.2⟩, endpointOf_eq_some.mpr (.inl ⟨t.1, t.2, ht, rfl⟩),
    addressOf_of_hostPorts (h.ports _ _ ht)⟩

theorem Consistent.leadsBack_of_hostOf (h : m.Consistent) (hip : m.hostOf.get? a = some ip) :
    m.LeadsBack a := by
  -- A port that the address leads to goes first.
  cases hp : m.portOf.get? a with
  | some t => exact h.leadsBack_of_portOf hp
  | none =>
    exact ⟨⟨ip, none⟩, endpointOf_eq_some.mpr (.inr (.inl ⟨hp, ip, hip, rfl⟩)),
      addressOf_of_hosts (h.hosts _ _ hip)⟩

theorem leadsBack_iff_of_unbound (hp : m.portOf.get? a = none) (hh : m.hostOf.get? a = none) :
    m.LeadsBack a ↔ ∃ ip, m.subnetHost a = some ip ∧ ip.lastOctet = a.station := by
  constructor
  · rintro ⟨e, he, ha⟩
    rcases endpointOf_eq_some.mp he with ⟨ip, port, hp', -⟩ | ⟨-, ip, hh', -⟩ | ⟨-, -, ip, hs, rfl⟩
    · simp [hp] at hp'
    · simp [hh] at hh'
    · rw [addressOf_of_knowsOnNetwork (knowsOnNetwork_of_subnetHost hs)] at ha
      exact ⟨ip, hs, congrArg Address.station (Option.some.inj ha)⟩
  · rintro ⟨ip, hs, ho⟩
    refine ⟨⟨ip, none⟩, endpointOf_eq_some.mpr (.inr (.inr ⟨hp, hh, ip, hs, rfl⟩)), ?_⟩
    rw [addressOf_of_knowsOnNetwork (knowsOnNetwork_of_subnetHost hs), ho]

/-- **The addresses that lead back**: those that keep a port or a host, and those that a subnet
gives a host with their station. An address that a rule names keeps none as soon as the target
that it kept moves to another address, until a later rule names it. -/
theorem leadsBack_ofRules_iff (rules : List Rule) (a : Address) :
    (ofRules rules).LeadsBack a ↔
      ¬ (IsAbandoned a (rules.filterMap Rule.portBinding?) ∧
        IsAbandoned a (rules.filterMap Rule.hostBinding?)) ∨
      ∃ ip, (ofRules rules).subnetHost a = some ip ∧ ip.lastOctet = a.station := by
  have hm := consistent_ofRules rules
  rw [← keeper_eq_none_iff, ← keeper_eq_none_iff, ← portOf_ofRules, ← hostOf_ofRules]
  cases hp : (ofRules rules).portOf.get? a with
  | some t => simp [hm.leadsBack_of_portOf hp]
  | none =>
    cases hh : (ofRules rules).hostOf.get? a with
    | some ip => simp [hm.leadsBack_of_hostOf hh]
    | none => simp [leadsBack_iff_of_unbound hp hh]

/-- Two hosts have one address; the first one moves away. The second one still has the address,
and the address leads nowhere. -/
theorem not_leadsBack_of_alias :
    ¬ ∀ (rules : List Rule) (ip : Ipv4) (port : Option UInt16) (a : Address),
      (ofRules rules).ruledAddressOf ip port = some a → (ofRules rules).LeadsBack a := by
  intro h
  obtain ⟨e, he, -⟩ := h
    [.host (.ofNat 0x0A000005) ⟨1, 5⟩, .host (.ofNat 0x0A000006) ⟨1, 5⟩,
      .host (.ofNat 0x0A000005) ⟨1, 6⟩]
    (.ofNat 0x0A000006) none ⟨1, 5⟩ (by decide)
  rw [endpointOf, candidates, List.mergeSort_of_pairwise (by decide)] at he
  exact absurd he (by decide +revert)

end Map

end Econet.Aun
