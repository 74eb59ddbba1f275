import Econet.Proofs.Aun.ForwardLookup
import Econet.Proofs.Aun.ReverseLookup

/-!
# Hosts of subnets

A host that no rule names has its address from the longest subnet that covers it. If that subnet has
at most 256 hosts, their last numbers tell them apart, so that replies find a host: a rule may have
given the address away, or another subnet of the network may answer, but the address leads somewhere.
With only one subnet on its network and no rule for the address it leads back to the host.

## Main results

* `Subnet.host_lastOctet`: a short block of addresses has one host for each last number
* `Map.isRuled_ofRules_iff`: which hosts no rule names
* `Map.endpointOf_of_isLongest`: the addresses of hosts of subnets lead somewhere
-/

namespace Econet.Aun

/-- Addresses that agree in front agree in their first 24 bits, if that is at least as far. -/
theorem Subnet.div_eq_of_contains {s : Subnet} {ip : Ipv4} (hlen : 24 ≤ s.length)
    (hc : s.contains ip = true) : ip.toNat / 256 = s.base.toNat / 256 := by
  have hle := s.length_le
  have hsize : 256 = blockSize s.length * 2 ^ (s.length - 24) := by
    rw [blockSize, Nat.pow_eq, ← Nat.pow_add, show 32 - s.length + (s.length - 24) = 8 by omega]
  rw [contains, decide_eq_true_iff] at hc
  rw [hsize, ← Nat.div_div_eq_div_mul, ← Nat.div_div_eq_div_mul, hc]

/-- **A short block of addresses has one host for each last number**, the broadcast apart. -/
theorem Subnet.host_lastOctet {s : Subnet} {ip : Ipv4} (hlen : 24 ≤ s.length)
    (hc : s.contains ip = true) (hlast : ip.lastOctet ≠ Address.broadcastStation) :
    s.host ip.lastOctet = ip := by
  have hdiv := s.div_eq_of_contains hlen hc
  have hlt := ip.isLt
  obtain ⟨n, hn⟩ := ip
  rw [host, if_neg hlast, Ipv4.ofNat, Ipv4.mk.injEq, ← hdiv]
  simp only [Ipv4.lastOctet, UInt8.toNat_ofNat']
  omega

namespace Map

variable {m : Map} {rules : List Rule} {a : Address} {ip : Ipv4} {s : Subnet}

/-- The hosts that an address may mean are those of the subnets of its network. -/
theorem mem_candidates_iff :
    ip ∈ m.candidates a ↔ ∃ s ∈ m.subnets, s.network = a.network ∧ s.host a.station = ip := by
  simp [candidates, and_assoc]

/-- **Which hosts no rule names.** -/
theorem isRuled_ofRules_iff :
    (ofRules rules).isRuled ip = false ↔
      (∀ b, .host ip b ∉ rules) ∧ ∀ p b, .hostPort ip p b ∉ rules := by
  have hports (p : UInt16) : (ofRules rules).hostPorts.get? (ip, p) = none ↔
      ∀ b, .hostPort ip p b ∉ rules := by
    have h := @portRule_eq_none_iff ip rules (some p)
    simpa using h
  rw [isRuled, Bool.or_eq_false_iff, Table.contains, Option.isSome_eq_false_iff,
    Option.isNone_iff_eq_none, hostRule_eq_none_iff, List.any_eq_false]
  refine and_congr_right fun _ => ?_
  simp only [decide_eq_true_eq, ← hports]
  constructor
  · intro h p
    by_contra hp
    obtain ⟨b, hb⟩ := Option.ne_none_iff_exists'.mp hp
    exact h (ip, p) ((Table.mem_keys_iff _ _).mpr ⟨b, hb⟩) rfl
  · rintro h ⟨jp, p⟩ hk rfl
    obtain ⟨b, hb⟩ := (Table.mem_keys_iff _ _).mp hk
    cases (h p).symm.trans hb

/-- An address that no rule names is bound to nothing. -/
theorem unbound_of_forall_notMem (hhost : ∀ jp, .host jp a ∉ rules)
    (hport : ∀ jp p, .hostPort jp p a ∉ rules) :
    (ofRules rules).portOf.get? a = none ∧ (ofRules rules).hostOf.get? a = none := by
  rw [portOf_ofRules, hostOf_ofRules, keeper_eq_none_iff, keeper_eq_none_iff]
  refine ⟨.inl ?_, .inl ?_⟩
  · rintro ⟨t, b⟩ hb rfl
    obtain ⟨r, hr, ht⟩ := List.mem_filterMap.mp hb
    rw [Rule.portBinding?_eq_some_iff.mp ht] at hr
    exact hport _ _ hr
  · rintro ⟨jp, b⟩ hb rfl
    obtain ⟨r, hr, ht⟩ := List.mem_filterMap.mp hb
    rw [Rule.hostBinding?_eq_some_iff.mp ht] at hr
    exact hhost _ hr

/-- A host that no rule names is known on the network of the subnet that it belongs to. -/
theorem knowsOnNetwork_of_isLongest (hruled : (ofRules rules).isRuled ip = false)
    (hs : IsLongest ip s (rules.filterMap Rule.subnet?)) :
    (ofRules rules).knowsOnNetwork s.network ip = true := by
  simp [knowsOnNetwork, hruled, subnetOf_eq_some_iff.mpr hs]

/-- **The addresses of hosts of subnets lead somewhere.** A host that no rule names belongs to a
subnet of at most 256 hosts, and is not the last of them. Its address has an endpoint; that is the
host itself if no rule names the address and no other subnet is on the network. -/
theorem endpointOf_of_isLongest (hhost : ∀ b, .host ip b ∉ rules)
    (hport : ∀ p b, .hostPort ip p b ∉ rules)
    (hs : IsLongest ip s (rules.filterMap Rule.subnet?)) (hlen : 24 ≤ s.length)
    (hlast : ip.lastOctet ≠ 255) :
    ∃ a, (ofRules rules).addressOf ip none = some a ∧
      (∃ e, (ofRules rules).endpointOf a = some e) ∧
      ((∀ jp, .host jp a ∉ rules) → (∀ jp p, .hostPort jp p a ∉ rules) →
        (∀ t, .subnet t ∈ rules → t.network = a.network → t = s) →
        (ofRules rules).endpointOf a = some ⟨ip, none⟩) := by
  have hknown := knowsOnNetwork_of_isLongest (isRuled_ofRules_iff.mpr ⟨hhost, hport⟩) hs
  have hself : s.host ip.lastOctet = ip :=
    s.host_lastOctet hlen ((s.contains_iff ip).mpr hs.1) hlast
  have hmem : s ∈ (ofRules rules).subnets := by
    rw [subnets_ofRules]
    exact hs.mem
  -- The host itself is among those that are tried, so that the search finds one.
  have hfound : ∃ jp, (ofRules rules).subnetHost ⟨s.network, ip.lastOctet⟩ = some jp := by
    rw [← Option.isSome_iff_exists, subnetHost, List.find?_isSome]
    exact ⟨ip, mem_candidates_iff.mpr ⟨s, hmem, rfl, hself⟩, hknown⟩
  obtain ⟨jp, hjp⟩ := hfound
  refine ⟨⟨s.network, ip.lastOctet⟩, addressOf_of_knowsOnNetwork hknown none, ?_, ?_⟩
  · -- A port or a host that the address is bound to goes before the subnets.
    cases hp : (ofRules rules).portOf.get? ⟨s.network, ip.lastOctet⟩ with
    | some t => exact ⟨_, endpointOf_eq_some.mpr (.inl ⟨t.1, t.2, hp, rfl⟩)⟩
    | none =>
      cases hh : (ofRules rules).hostOf.get? ⟨s.network, ip.lastOctet⟩ with
      | some kp => exact ⟨_, endpointOf_eq_some.mpr (.inr (.inl ⟨hp, kp, hh, rfl⟩))⟩
      | none => exact ⟨_, endpointOf_eq_some.mpr (.inr (.inr ⟨hp, hh, jp, hjp, rfl⟩))⟩
  · intro hunnamed hunnamed' hsame
    obtain ⟨hp, hh⟩ := unbound_of_forall_notMem hunnamed hunnamed'
    -- Whatever subnet of the network was tried, it was this one.
    obtain ⟨t, ht, hnetwork, rfl⟩ := mem_candidates_iff.mp (List.mem_of_find?_eq_some hjp)
    rw [subnets_ofRules, List.mem_filterMap] at ht
    obtain ⟨r, hr, htr⟩ := ht
    rw [Rule.subnet?_eq_some_iff.mp htr] at hr
    obtain rfl := hsame t hr hnetwork
    rw [hself] at hjp
    exact endpointOf_eq_some.mpr (.inr (.inr ⟨hp, hh, ip, hjp, rfl⟩))

/-- A host belongs to the middle one of three nested subnets. A neighbour that a rule names is
nothing to it. -/
theorem endpointOf_of_isLongest_nested :
    let s : Subnet := .of (.ofNat 0xC0A80100) 24 127 (by decide)
    let rules : List Rule := [.subnet (.of (.ofNat 0xC0A80000) 16 9 (by decide)), .subnet s,
      .subnet (.of (.ofNat 0xC0A80180) 25 4 (by decide)), .host (.ofNat 0xC0A80128) ⟨127, 254⟩]
    IsLongest (.ofNat 0xC0A80109) s (rules.filterMap Rule.subnet?) ∧
      (ofRules rules).addressOf (.ofNat 0xC0A80109) none = some ⟨127, 9⟩ ∧
      (ofRules rules).endpointOf ⟨127, 9⟩ = some ⟨.ofNat 0xC0A80109, none⟩ := by
  intro s rules
  have hs : IsLongest (.ofNat 0xC0A80109) s (rules.filterMap Rule.subnet?) :=
    ⟨by decide, [_], [_], rfl, by decide, by decide⟩
  have hhost : ∀ b, .host (.ofNat 0xC0A80109) b ∉ rules := by
    intro b hb
    simp only [rules, List.mem_cons, reduceCtorEq, Rule.host.injEq, List.not_mem_nil, or_false,
      false_or] at hb
    exact absurd hb.1 (by decide)
  have hport : ∀ p b, .hostPort (.ofNat 0xC0A80109) p b ∉ rules := by
    simp [rules]
  obtain ⟨a, ha, -, hback⟩ := endpointOf_of_isLongest hhost hport hs (by decide) (by decide)
  have haddress : (ofRules rules).addressOf (.ofNat 0xC0A80109) none = some ⟨127, 9⟩ := by decide
  obtain rfl : a = ⟨127, 9⟩ := Option.some.inj (ha.symm.trans haddress)
  refine ⟨hs, haddress, hback (by simp [rules]) (by simp [rules]) fun t ht hnetwork => ?_⟩
  simp only [rules, List.mem_cons, Rule.subnet.injEq, reduceCtorEq, List.not_mem_nil,
    or_false] at ht
  rcases ht with rfl | rfl | rfl
  · exact absurd hnetwork (by decide)
  · rfl
  · exact absurd hnetwork (by decide)

end Map

end Econet.Aun
