import Econet.Proofs.Client.PoolBijection

/-!
# First come, first free

The addresses of a pool stand in a fixed order: by network, and by station within a network. A
connection that asks for an address is given the first of those that nobody holds, and then the
others are free as before.

## Main definitions

* `Pool.addresses`: the addresses of a pool, in their order
* `Pool.freeAddresses`: those that nobody holds

## Main results

* `Pool.firstFree_of_not_hasRoom`: to count the stations that are held is enough to pass a network
  over
* `Pool.firstFreeAddress_eq`: a connection is given the first free address
* `Pool.freeAddresses_take`: the others are free as before
-/

namespace Econet.Client.Pool

/-- The addresses of a pool, in the order in which they are searched. -/
def addresses (p : Pool) : List Address := p.networkList.flatMap fun n => stations.map (⟨n, ·⟩)

/-- The addresses that nobody holds. -/
def freeAddresses (p : Pool) : List Address := p.addresses.filter fun a => (p.holderOf a).isNone

variable {p : Pool} {c : ConnectionId} {a : Address} {as : List Address}

theorem mem_addresses_iff (p : Pool) (a : Address) :
    a ∈ p.addresses ↔ a.network ∈ p.networkList ∧ a.station ∈ stations := by
  obtain ⟨n, s⟩ := a
  simp [addresses]

theorem mem_freeAddresses_iff (p : Pool) (a : Address) :
    a ∈ p.freeAddresses ↔ a ∈ p.addresses ∧ p.holderOf a = none := by
  rw [freeAddresses, List.mem_filter, Option.isNone_iff_eq_none]

theorem nodup_stations : stations.Nodup := by
  refine List.nodup_range.map_on fun i hi j hj h => ?_
  have hnat := congrArg UInt8.toNat h
  rw [List.mem_range] at hi hj
  rw [UInt8.toNat_ofNat', UInt8.toNat_ofNat'] at hnat
  omega

theorem length_stations : stations.length = stationCount := by
  rw [stations, List.length_map, List.length_range, stationCount]

/-- No address stands twice. -/
theorem nodup_addresses (p : Pool) : p.addresses.Nodup := by
  refine List.nodup_flatMap.mpr ⟨fun n _ => ?_, ?_⟩
  · exact nodup_stations.map fun _ _ h => congrArg Address.station h
  · refine List.Pairwise.imp (fun {n m} hne a hn hm => hne ?_) p.networks.nodup_keys
    obtain ⟨_, -, rfl⟩ := List.mem_map.mp hn
    obtain ⟨_, -, hnetwork⟩ := List.mem_map.mp hm
    exact (congrArg Address.network hnetwork).symm

/-- Stations of a network are taken as its table says. -/
theorem holderOf_of_mem_entries {e : UInt8 × Table UInt8 ConnectionId}
    (he : e ∈ p.networks.entries) (s : UInt8) : p.holderOf ⟨e.1, s⟩ = e.2.get? s := by
  rw [holderOf, (Table.mem_entries_iff _ _ _).mp he]
  rfl

/-- **Networks without room have no free station.** As many stations are held as there are, and only
those that there are can be held. -/
theorem firstFree_of_not_hasRoom (hp : p.Consistent) {e : UInt8 × Table UInt8 ConnectionId}
    (he : e ∈ p.networks.entries) (h : hasRoom e.2 = false) : firstFree e.2 = none := by
  have hkeys : e.2.keys ⊆ stations := by
    intro s hs
    obtain ⟨c, hc⟩ := (Table.mem_keys_iff _ _).mp hs
    rw [← holderOf_of_mem_entries he] at hc
    exact hp.station_mem c _ ((hp.addressOf_iff _ _).mpr hc)
  have hcount : stations.length ≤ e.2.keys.length := by
    rw [length_stations, Table.keys, List.length_map]
    exact Nat.not_lt.mp (of_decide_eq_false h)
  -- Distinct stations, as many as there are, are all of them.
  have hperm : e.2.keys.Perm stations :=
    (e.2.nodup_keys.subperm hkeys).perm_of_length_le hcount
  refine List.find?_eq_none.mpr fun s hs => ?_
  obtain ⟨c, hc⟩ := (Table.mem_keys_iff _ _).mp (hperm.mem_iff.mpr hs)
  simp [Table.contains, hc]

/-- **A connection is given the first free address.** -/
theorem firstFreeAddress_eq (hp : p.Consistent) :
    p.firstFreeAddress = p.freeAddresses.head? := by
  have hnetwork : ∀ e ∈ p.networks.entries,
      (if hasRoom e.2 then (firstFree e.2).map fun s => (⟨e.1, s⟩ : Address) else none) =
        ((stations.map (Address.mk e.1)).filter fun a => (p.holderOf a).isNone).head? := by
    intro e he
    -- To pass over a network without room makes no difference.
    have hroom : (if hasRoom e.2 then (firstFree e.2).map fun s => (⟨e.1, s⟩ : Address)
        else none) = (firstFree e.2).map fun s => ⟨e.1, s⟩ := by
      split
      · rfl
      · next h => rw [firstFree_of_not_hasRoom hp he (Bool.eq_false_iff.mpr h), Option.map_none]
    rw [hroom, List.filter_map, List.head?_map, List.head?_filter, firstFree]
    congr 2
    funext s
    rw [Function.comp, holderOf_of_mem_entries he, Table.contains, Option.not_isSome]
  rw [freeAddresses, addresses, List.filter_flatMap, List.head?_flatMap, networkList, Table.keys,
    List.findSome?_map, firstFreeAddress, ← List.head?_filterMap, ← List.head?_filterMap,
    List.filterMap_filter]
  exact congrArg List.head? (List.filterMap_congr hnetwork)

/-- **The other addresses are free as before** when the first one is taken. -/
theorem freeAddresses_take (h : p.freeAddresses = a :: as) (c : ConnectionId) :
    (p.take c a).freeAddresses = as := by
  have hmem : a ∈ p.freeAddresses := h ▸ List.mem_cons_self
  have hn := ((mem_addresses_iff p a).mp ((mem_freeAddresses_iff p a).mp hmem).1).1
  have hnodup : (a :: as).Nodup := h ▸ p.nodup_addresses.filter _
  have haddresses : (p.take c a).addresses = p.addresses :=
    congrArg (List.flatMap _) (Table.keys_modify _ _ _)
  -- What is free afterwards was free before and is another address.
  have hfilter : (p.take c a).freeAddresses = p.freeAddresses.filter (· ≠ a) := by
    rw [freeAddresses, haddresses, freeAddresses, List.filter_filter]
    refine List.filter_congr fun b _ => ?_
    rw [holderOf_take c b hn]
    by_cases hab : a = b
    · simp [hab]
    · simp [hab, Ne.symm hab]
  rw [hfilter, h, List.filter_cons_of_neg (by simp)]
  exact List.filter_eq_self.mpr fun b hb =>
    decide_eq_true fun hba => (List.nodup_cons.mp hnodup).1 (hba ▸ hb)

theorem freeAddresses_ofList (ns : List UInt8) :
    (ofList ns).freeAddresses = (ofList ns).addresses :=
  List.filter_eq_self.mpr fun a _ => by rw [holderOf_ofList, Option.isNone_none]

/-- What a connection is given is an address of the pool. -/
theorem mem_addresses_of_allocate {q : Pool} (hp : p.Consistent)
    (h : p.allocate c = (some a, q)) : a ∈ p.addresses := by
  rw [mem_addresses_iff]
  unfold allocate at h
  split at h
  · next b hb =>
    cases h
    have hholder := (hp.addressOf_iff c a).mp hb
    exact ⟨network_mem_of_holderOf hholder, hp.station_mem c a hb⟩
  · split at h
    · next b hb =>
      cases h
      obtain ⟨hn, hs, -⟩ := holderOf_of_firstFreeAddress hb
      exact ⟨hn, hs⟩
    · cases h

end Econet.Client.Pool
