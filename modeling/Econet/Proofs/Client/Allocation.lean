import Econet.Proofs.Client.FirstFree

/-!
# Which address a connection is given

The addresses of a pool have an order that is known from the list of networks: a network comes where
it is mentioned first, and the stations of a network ascend. However often addresses were given and
taken back, a connection without an address is given the first one in this order that is free. It
is refused only when there is none.

## Main definitions

* `Pool.IsOffered ns a`: a pool of the networks `ns` has the address `a` to give
* `Pool.Precedes ns a b`: the address `a` comes before `b`
* `Pool.IsFirstFree ns p a`: nobody holds the address `a`, and all before it are held

## Main results

* `Pool.pairwise_addresses`: the addresses of a pool stand in their order
* `Pool.firstFreeAddress_eq_some_iff`: the search finds the first free address
* `Pool.views_allocate`, `Pool.views_free_allocate`: who has which address afterwards
* `Pool.allocate_first_fit`: what a connection is given, and when it is refused
-/

namespace Econet.Client.Pool

/-! ### The order of addresses -/

/-- The address is one of those that a pool of these networks has to give. -/
def IsOffered (ns : List UInt8) (a : Address) : Prop :=
  a.network ∈ ns ∧ 1 ≤ a.station ∧ a.station ≤ 253

/-- The first address comes before the second one: its network is mentioned earlier, or it is an
earlier station of the same network. -/
def Precedes (ns : List UInt8) (a b : Address) : Prop :=
  ns.idxOf a.network < ns.idxOf b.network ∨ a.network = b.network ∧ a.station < b.station

/-- Nobody holds the address, and somebody holds each one before it. -/
structure IsFirstFree (ns : List UInt8) (p : Pool) (a : Address) : Prop where
  isOffered : IsOffered ns a
  isFree : p.holderOf a = none
  isHeld : ∀ b, IsOffered ns b → Precedes ns b a → ∃ d, p.holderOf b = some d

variable {ns : List UInt8} {p : Pool} {c : ConnectionId} {a b : Address}

theorem Precedes.asymm (h : Precedes ns a b) : ¬ Precedes ns b a := by
  rintro (hb | ⟨hn, hs⟩)
  · rcases h with ha | ⟨hn, -⟩
    · exact Nat.lt_asymm ha hb
    · exact absurd hb (by rw [hn]; exact Nat.lt_irrefl _)
  · rcases h with ha | ⟨-, hs'⟩
    · exact absurd ha (by rw [hn]; exact Nat.lt_irrefl _)
    · exact UInt8.lt_asymm hs hs'

/-- Networks are searched in the order in which they are mentioned first. -/
theorem pairwise_networkList (ns : List UInt8) :
    (ofList ns).networkList.Pairwise fun n m => ns.idxOf n < ns.idxOf m := by
  induction ns using List.reverseRecOn with
  | nil => exact List.Pairwise.nil
  | append_singleton ns n ih =>
    have hbefore (m : UInt8) (hm : m ∈ (ofList ns).networkList) :
        (ns ++ [n]).idxOf m = ns.idxOf m :=
      List.idxOf_append_of_mem ((mem_networkList_ofList ns m).mp hm)
    have hold : (ofList ns).networkList.Pairwise fun m k =>
        (ns ++ [n]).idxOf m < (ns ++ [n]).idxOf k := by
      refine ih.imp_of_mem fun {m k} hm hk h => ?_
      rwa [hbefore m hm, hbefore k hk]
    rw [ofList_concat, addNetwork]
    split
    · exact hold
    · next hn =>
      -- A network that is mentioned for the first time comes after all others.
      have hnew : n ∉ (ofList ns).networkList := by
        rintro hmem
        obtain ⟨t, ht⟩ := (Table.mem_keys_iff _ _).mp hmem
        exact hn (Option.isSome_of_eq_some ht)
      have hkeys : ((ofList ns).networks.insert n .empty).keys =
          (ofList ns).networkList ++ [n] := by
        rw [Table.keys, Table.entries_insert hnew, List.map_append]
        rfl
      show ((ofList ns).networks.insert n .empty).keys.Pairwise _
      rw [hkeys, List.pairwise_append]
      refine ⟨hold, List.pairwise_singleton _ _, fun m hm k hk => ?_⟩
      cases List.mem_singleton.mp hk
      have hns := (mem_networkList_ofList ns m).mp hm
      rw [List.idxOf_append_of_mem hns, List.idxOf_append_of_notMem
        (mt (mem_networkList_ofList ns n).mpr hnew)]
      exact (List.idxOf_lt_length_of_mem hns).trans_le (Nat.le_add_right _ _)

theorem pairwise_stations : stations.Pairwise (· < ·) := by
  refine List.pairwise_map.mpr (List.pairwise_lt_range.imp_of_mem fun {i j} hi hj h => ?_)
  rw [List.mem_range] at hi hj
  rw [UInt8.lt_iff_toNat_lt, UInt8.toNat_ofNat', UInt8.toNat_ofNat']
  omega

/-- **The addresses of a pool stand in their order.** -/
theorem pairwise_addresses (h : p.networkList = (ofList ns).networkList) :
    p.addresses.Pairwise (Precedes ns) := by
  rw [addresses, h]
  refine List.pairwise_flatMap.mpr ⟨fun n _ => ?_, ?_⟩
  · exact List.pairwise_map.mpr (pairwise_stations.imp fun hs => .inr ⟨rfl, hs⟩)
  · refine (pairwise_networkList ns).imp fun {n m} hlt a ha b hb => .inl ?_
    obtain ⟨s, -, rfl⟩ := List.mem_map.mp ha
    obtain ⟨t, -, rfl⟩ := List.mem_map.mp hb
    exact hlt

theorem mem_addresses_iff_isOffered (h : p.networkList = (ofList ns).networkList) (a : Address) :
    a ∈ p.addresses ↔ IsOffered ns a := by
  rw [mem_addresses_iff, h, mem_networkList_ofList, mem_stations_iff, IsOffered]

/-! ### The first free address -/

/-- In a list that ascends, the head is the entry that no other one comes before. -/
theorem head?_eq_some_iff_of_pairwise {α : Type} {R : α → α → Prop}
    (hR : ∀ x y, R x y → ¬ R y x) {xs : List α} (hxs : xs.Pairwise R) (x : α) :
    xs.head? = some x ↔ x ∈ xs ∧ ∀ y ∈ xs, ¬ R y x := by
  cases xs with
  | nil => simp
  | cons y ys =>
    obtain ⟨hy, -⟩ := List.pairwise_cons.mp hxs
    rw [List.head?_cons, Option.some.injEq]
    constructor
    · rintro rfl
      refine ⟨List.mem_cons_self, fun z hz => ?_⟩
      rcases List.mem_cons.mp hz with rfl | hz
      · exact fun hzz => hR z z hzz hzz
      · exact hR y z (hy z hz)
    · rintro ⟨hx, hfirst⟩
      rcases List.mem_cons.mp hx with rfl | hx
      · rfl
      · exact absurd (hy x hx) (hfirst y List.mem_cons_self)

/-- **The search finds the first free address.** -/
theorem firstFreeAddress_eq_some_iff (hp : p.Consistent)
    (h : p.networkList = (ofList ns).networkList) (a : Address) :
    p.firstFreeAddress = some a ↔ IsFirstFree ns p a := by
  have hfree : p.freeAddresses.Pairwise (Precedes ns) := (pairwise_addresses h).filter _
  rw [firstFreeAddress_eq hp, head?_eq_some_iff_of_pairwise (fun _ _ => Precedes.asymm) hfree]
  simp only [mem_freeAddresses_iff, mem_addresses_iff_isOffered h]
  constructor
  · rintro ⟨⟨hoffered, hfree⟩, hfirst⟩
    refine ⟨hoffered, hfree, fun b hb hba => ?_⟩
    by_contra hnone
    exact hfirst b ⟨hb, Option.eq_none_iff_forall_ne_some.mpr fun d hd => hnone ⟨d, hd⟩⟩ hba
  · rintro ⟨hoffered, hfree, hheld⟩
    refine ⟨⟨hoffered, hfree⟩, fun b hb hba => ?_⟩
    obtain ⟨d, hd⟩ := hheld b hb.1 hba
    cases hb.2.symm.trans hd

/-- The search finds nothing exactly if every address is held. -/
theorem firstFreeAddress_eq_none_iff (hp : p.Consistent)
    (h : p.networkList = (ofList ns).networkList) :
    p.firstFreeAddress = none ↔ ∀ a, IsOffered ns a → ∃ d, p.holderOf a = some d := by
  rw [firstFreeAddress_eq hp, List.head?_eq_none_iff, List.eq_nil_iff_forall_not_mem]
  refine forall_congr' fun a => ?_
  rw [mem_freeAddresses_iff, mem_addresses_iff_isOffered h, not_and]
  exact imp_congr_right fun _ => Option.ne_none_iff_exists'

/-! ### Giving and taking back -/

theorem allocate_of_addressOf (h : p.addressOf c = some a) : p.allocate c = (some a, p) := by
  rw [allocate, h]

theorem allocate_of_firstFreeAddress (hc : p.addressOf c = none)
    (h : p.firstFreeAddress = some a) : p.allocate c = (some a, p.take c a) := by
  rw [allocate, hc, h]

theorem allocate_of_firstFreeAddress_eq_none (hc : p.addressOf c = none)
    (h : p.firstFreeAddress = none) : p.allocate c = (none, p) := by
  rw [allocate, hc, h]

/-- A connection without an address is given what the search finds. -/
theorem fst_allocate (hc : p.addressOf c = none) : (p.allocate c).1 = p.firstFreeAddress := by
  cases h : p.firstFreeAddress with
  | none => rw [allocate_of_firstFreeAddress_eq_none hc h]
  | some a => rw [allocate_of_firstFreeAddress hc h]

theorem allocate_eq_none_iff :
    (p.allocate c).1 = none ↔ p.addressOf c = none ∧ p.firstFreeAddress = none := by
  cases hc : p.addressOf c with
  | none => simp [fst_allocate hc]
  | some a => simp [allocate_of_addressOf hc]

/-- Who has which address, after a connection was given one that it may have had before. -/
theorem views_allocate (hp : p.Consistent) (h : (p.allocate c).1 = some a) :
    (∀ d, (p.allocate c).2.addressOf d = if c = d then some a else p.addressOf d) ∧
      ∀ b, (p.allocate c).2.holderOf b = if a = b then some c else p.holderOf b := by
  cases hc : p.addressOf c with
  | some a' =>
    rw [allocate_of_addressOf hc] at h ⊢
    cases h
    have hholder := (hp.addressOf_iff c a).mp hc
    refine ⟨fun d => (ite_eq_right_iff.mpr ?_).symm, fun b => (ite_eq_right_iff.mpr ?_).symm⟩
    · rintro rfl
      exact hc.symm
    · rintro rfl
      exact hholder.symm
  | none =>
    rw [fst_allocate hc] at h
    obtain ⟨hn, -, -⟩ := holderOf_of_firstFreeAddress h
    rw [allocate_of_firstFreeAddress hc h]
    exact ⟨fun d => addressOf_take p c d a, fun b => holderOf_take c b hn⟩

/-- A connection that gives up what it has just been given leaves all others what they had. -/
theorem views_free_allocate (hc : p.addressOf c = none) :
    (∀ d, ((p.allocate c).2.free c).addressOf d = p.addressOf d) ∧
      ∀ b, ((p.allocate c).2.free c).holderOf b = p.holderOf b := by
  have hnobody (d : ConnectionId) : (if c = d then none else p.addressOf d) = p.addressOf d := by
    refine ite_eq_right_iff.mpr ?_
    rintro rfl
    exact hc.symm
  cases h : p.firstFreeAddress with
  | none =>
    rw [allocate_of_firstFreeAddress_eq_none hc h]
    exact ⟨fun d => (addressOf_free p c d).trans (hnobody d), holderOf_free_of_none hc⟩
  | some a =>
    obtain ⟨hn, -, hfree⟩ := holderOf_of_firstFreeAddress h
    have htaken : (p.take c a).addressOf c = some a := by
      rw [addressOf_take, if_pos rfl]
    rw [allocate_of_firstFreeAddress hc h]
    refine ⟨fun d => ?_, fun b => ?_⟩
    · rw [addressOf_free, addressOf_take, ← hnobody d]
      split <;> rfl
    · rw [holderOf_free htaken, holderOf_take c b hn]
      split
      · next hab => rw [← hab, hfree]
      · rfl

/-- **What a connection is given, and when it is refused.** A connection that has an address keeps
it. Another one is given the first free address, by the order in which networks are mentioned first
and then by station, and all others keep theirs. It is refused exactly if no address is free, and
then nothing changes. If it gives the address up again, everybody has what they had. -/
theorem allocate_first_fit (ns : List UInt8) (ops : List Operation) (c : ConnectionId) :
    let p := (ofList ns).run ops
    let q := (p.allocate c).2
    (∀ a, p.addressOf c = some a → p.allocate c = (some a, p)) ∧
      (p.addressOf c = none → ∀ a, (p.allocate c).1 = some a ↔ IsFirstFree ns p a) ∧
      (∀ a, (p.allocate c).1 = some a →
        (∀ d, q.addressOf d = if c = d then some a else p.addressOf d) ∧
        ∀ b, q.holderOf b = if a = b then some c else p.holderOf b) ∧
      ((p.allocate c).1 = none ↔
        p.addressOf c = none ∧ ∀ a, IsOffered ns a → ∃ d, p.holderOf a = some d) ∧
      ((p.allocate c).1 = none → q = p) ∧
      (p.addressOf c = none →
        (∀ d, (q.free c).addressOf d = p.addressOf d) ∧
        ∀ b, (q.free c).holderOf b = p.holderOf b) := by
  intro p q
  have hp : p.Consistent := consistent_run ns ops
  have hnetworks : p.networkList = (ofList ns).networkList := networkList_run _ ops
  refine ⟨fun a => allocate_of_addressOf, fun hc a => ?_, fun a => views_allocate hp, ?_,
    fun h => ?_, views_free_allocate⟩
  · rw [fst_allocate hc]
    exact firstFreeAddress_eq_some_iff hp hnetworks a
  -- Networks that are counted as full are those without a free station.
  · rw [allocate_eq_none_iff, firstFreeAddress_eq_none_iff hp hnetworks]
  · obtain ⟨hc, hfirst⟩ := allocate_eq_none_iff.mp h
    exact congrArg Prod.snd (allocate_of_firstFreeAddress_eq_none hc hfirst)

end Econet.Client.Pool
