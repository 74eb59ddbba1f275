import Econet.Client.Pool
import Mathlib.Data.List.Induction
import Mathlib.Data.Set.Card

/-!
# Connections and addresses of the pool

The pool keeps two tables: the address of each connection, and the connection that holds each
station of each network. Whatever connections ask for, the tables remain inverse to each other,
and each connection's requests concern its own address only.

## Main definitions

* `Pool.Operation`, `Pool.run`: what connections ask of a pool, and the pool afterwards
* `Pool.Consistent`: the two tables are inverse, and stations are in range

## Main results

* `Pool.holderOf_take`, `Pool.holderOf_free`, …: who holds what after each operation
* `Pool.Consistent.apply`, `Pool.consistent_run`: operations keep a pool consistent
* `Pool.addressOf_run_bijective`: the state of a pool after any operations
-/

namespace Econet.Client.Pool

/-! ### Operations -/

/-- What a connection asks of the pool. -/
inductive Operation where
  /-- An address. -/
  | allocate (c : ConnectionId)
  /-- To give up its address. -/
  | free (c : ConnectionId)
  /-- The next sequence number. -/
  | advance (c : ConnectionId)

/-- The connection that asks. -/
def Operation.connection : Operation → ConnectionId
  | .allocate c => c
  | .free c => c
  | .advance c => c

/-- The pool after an operation. -/
def apply (p : Pool) : Operation → Pool
  | .allocate c => (p.allocate c).2
  | .free c => p.free c
  | .advance c => p.advance c

/-- The pool after several operations. -/
def run (p : Pool) (ops : List Operation) : Pool := ops.foldl apply p

theorem run_append (p : Pool) (ops ops' : List Operation) :
    p.run (ops ++ ops') = (p.run ops).run ops' :=
  List.foldl_append

theorem run_concat (p : Pool) (ops : List Operation) (op : Operation) :
    p.run (ops ++ [op]) = (p.run ops).apply op :=
  run_append p ops [op]

variable {p : Pool} {c d : ConnectionId} {a b : Address}

/-! ### Who holds what after an operation -/

theorem network_mem_of_holderOf (h : p.holderOf a = some c) : a.network ∈ p.networkList := by
  obtain ⟨t, ht, -⟩ := Option.bind_eq_some_iff.mp h
  exact (Table.mem_keys_iff _ _).mpr ⟨t, ht⟩

theorem addressOf_take (p : Pool) (c d : ConnectionId) (a : Address) :
    (p.take c a).addressOf d = if c = d then some a else p.addressOf d :=
  Table.get?_insert _ _ _ _

theorem holderOf_take (c : ConnectionId) (b : Address) (h : a.network ∈ p.networkList) :
    (p.take c a).holderOf b = if a = b then some c else p.holderOf b := by
  obtain ⟨t, ht⟩ := (Table.mem_keys_iff _ _).mp h
  obtain ⟨n, s⟩ := a
  obtain ⟨m, r⟩ := b
  simp only [holderOf, take, Table.get?_modify, Address.mk.injEq]
  by_cases hn : n = m
  · subst hn
    simp [ht, Table.get?_insert]
  · simp [hn]

theorem addressOf_free (p : Pool) (c d : ConnectionId) :
    (p.free c).addressOf d = if c = d then none else p.addressOf d := by
  unfold free
  split
  · next h =>
    -- The connection has no address to give up.
    show p.addressOf d = _
    split
    · next hc => rw [← hc, h]
    · rfl
  · exact Table.get?_erase _ _ _

theorem holderOf_free (h : p.addressOf c = some a) (b : Address) :
    (p.free c).holderOf b = if a = b then none else p.holderOf b := by
  obtain ⟨n, s⟩ := a
  obtain ⟨m, r⟩ := b
  simp only [free, h, holderOf, Table.get?_modify, Address.mk.injEq]
  by_cases hn : n = m
  · subst hn
    cases ht : p.networks.get? n <;> simp [Table.get?_erase]
  · simp [hn]

theorem holderOf_free_of_none (h : p.addressOf c = none) (b : Address) :
    (p.free c).holderOf b = p.holderOf b := by
  simp [free, h, holderOf]

/-- The first free address is one of the pool, and nobody holds it. -/
theorem holderOf_of_firstFreeAddress (h : p.firstFreeAddress = some a) :
    a.network ∈ p.networkList ∧ a.station ∈ stations ∧ p.holderOf a = none := by
  obtain ⟨⟨n, taken⟩, hmem, ha⟩ := List.exists_of_findSome?_eq_some h
  obtain ⟨s, hs, rfl⟩ := Option.map_eq_some_iff.mp ha
  have hget := (Table.mem_entries_iff _ _ _).mp (List.mem_filter.mp hmem).1
  have hfree : taken.get? s = none := by
    simpa [Table.contains] using List.find?_some hs
  exact ⟨(Table.mem_keys_iff _ _).mpr ⟨taken, hget⟩, List.mem_of_find?_eq_some hs,
    by simp [holderOf, hget, hfree]⟩

/-- A request changes nothing, or the connection takes the first free address. -/
theorem allocate_cases (p : Pool) (c : ConnectionId) :
    (p.allocate c).2 = p ∨
      ∃ a, p.addressOf c = none ∧ p.firstFreeAddress = some a ∧ (p.allocate c).2 = p.take c a := by
  unfold allocate
  split
  · exact .inl rfl
  · next hc =>
    split
    · next a ha => exact .inr ⟨a, hc, ha, rfl⟩
    · exact .inl rfl

theorem networkList_apply (p : Pool) (op : Operation) :
    (p.apply op).networkList = p.networkList := by
  cases op with
  | allocate c =>
    rcases p.allocate_cases c with h | ⟨a, -, -, h⟩
    · exact congrArg networkList h
    · rw [apply, h]
      exact Table.keys_modify _ _ _
  | free c =>
    rw [apply, free]
    split
    · rfl
    · exact Table.keys_modify _ _ _
  | advance c => rfl

/-- An operation concerns the address of the connection that asks, and no other. -/
theorem addressOf_apply_of_ne (p : Pool) (op : Operation) (h : d ≠ op.connection) :
    (p.apply op).addressOf d = p.addressOf d := by
  cases op with
  | allocate c =>
    have hc : c ≠ d := Ne.symm h
    rcases p.allocate_cases c with hp | ⟨a, -, -, hp⟩
    · exact congrArg (addressOf · d) hp
    · rw [apply, hp, addressOf_take, if_neg hc]
  | free c =>
    have hc : c ≠ d := Ne.symm h
    rw [apply, addressOf_free, if_neg hc]
  | advance c => rfl

/-! ### Consistent pools -/

/-- The two tables are inverse, and stations are in range. -/
structure Consistent (p : Pool) : Prop where
  /-- A connection has an address exactly if it holds the address. -/
  addressOf_iff : ∀ c a, p.addressOf c = some a ↔ p.holderOf a = some c
  /-- The stations that are held are those that are given away. -/
  station_mem : ∀ c a, p.addressOf c = some a → a.station ∈ stations

/-- Tables that are inverse remain so when they change at a connection and its address, as long
as these lead to each other or nowhere, before and afterwards. -/
theorem Consistent.update_iff (h : p.Consistent) {u : Option Address} {w : Option ConnectionId}
    (hc : ∀ b, p.addressOf c = some b → a = b) (ha : ∀ d, p.holderOf a = some d → c = d)
    (hu : ∀ b, u = some b → a = b) (hw : ∀ d, w = some d → c = d)
    (huw : u = some a ↔ w = some c) :
    (if c = d then u else p.addressOf d) = some b ↔
      (if a = b then w else p.holderOf b) = some d := by
  by_cases hcd : c = d
  · subst hcd
    rw [if_pos rfl]
    by_cases hab : a = b
    · subst hab
      rw [if_pos rfl]
      exact huw
    · rw [if_neg hab, ← h.addressOf_iff]
      exact iff_of_false (mt (hu b) hab) (mt (hc b) hab)
  · rw [if_neg hcd]
    by_cases hab : a = b
    · subst hab
      rw [if_pos rfl, h.addressOf_iff]
      exact iff_of_false (mt (ha d) hcd) (mt (hw d) hcd)
    · rw [if_neg hab]
      exact h.addressOf_iff d b

theorem Consistent.take (h : p.Consistent) (hc : p.addressOf c = none)
    (hn : a.network ∈ p.networkList) (hs : a.station ∈ stations) (ha : p.holderOf a = none) :
    (p.take c a).Consistent where
  addressOf_iff := by
    intro d b
    rw [addressOf_take, holderOf_take c b hn]
    exact h.update_iff (by simp [hc]) (by simp [ha]) (by simp) (by simp) (by simp)
  station_mem := by
    intro d b hb
    rw [addressOf_take] at hb
    split at hb
    · rwa [← Option.some.inj hb]
    · exact h.station_mem d b hb

theorem Consistent.free (h : p.Consistent) (c : ConnectionId) : (p.free c).Consistent where
  addressOf_iff := by
    intro d b
    rw [addressOf_free]
    cases hc : p.addressOf c with
    | none =>
      rw [holderOf_free_of_none hc]
      by_cases hcd : c = d
      · subst hcd
        rw [if_pos rfl, ← h.addressOf_iff, hc]
      · rw [if_neg hcd]
        exact h.addressOf_iff d b
    | some a =>
      have ha := (h.addressOf_iff c a).mp hc
      rw [holderOf_free hc]
      exact h.update_iff (by simp [hc]) (by simp [ha]) (by simp) (by simp) (by simp)
  station_mem := by
    intro d b hb
    rw [addressOf_free] at hb
    split at hb
    · simp at hb
    · exact h.station_mem d b hb

/-- **An operation keeps a pool consistent.** -/
theorem Consistent.apply (h : p.Consistent) (op : Operation) : (p.apply op).Consistent := by
  cases op with
  | allocate c =>
    rcases p.allocate_cases c with hp | ⟨a, hc, ha, hp⟩
    · rw [Pool.apply, hp]
      exact h
    · rw [Pool.apply, hp]
      obtain ⟨hn, hs, hfree⟩ := holderOf_of_firstFreeAddress ha
      exact h.take hc hn hs hfree
  | free c => exact h.free c
  | advance c => exact ⟨h.addressOf_iff, h.station_mem⟩

/-- Several operations keep a pool consistent. -/
theorem Consistent.run (h : p.Consistent) (ops : List Operation) : (p.run ops).Consistent := by
  induction ops using List.reverseRecOn with
  | nil => exact h
  | append_singleton ops op ih =>
    rw [run_concat]
    exact ih.apply op

/-! ### New pools -/

theorem ofList_concat (ns : List UInt8) (n : UInt8) :
    ofList (ns ++ [n]) = (ofList ns).addNetwork n := by
  rw [ofList, List.foldl_append]
  rfl

theorem addressOf_ofList (ns : List UInt8) (c : ConnectionId) :
    (ofList ns).addressOf c = none := by
  induction ns using List.reverseRecOn with
  | nil => rfl
  | append_singleton ns n ih =>
    rw [ofList_concat, addNetwork]
    split
    · exact ih
    · exact ih

theorem holderOf_ofList (ns : List UInt8) (a : Address) : (ofList ns).holderOf a = none := by
  induction ns using List.reverseRecOn with
  | nil => rfl
  | append_singleton ns n ih =>
    rw [ofList_concat, addNetwork]
    split
    · exact ih
    · rw [holderOf, Table.get?_insert]
      split
      · rfl
      · exact ih

theorem mem_networkList_addNetwork (p : Pool) (n m : UInt8) :
    m ∈ (p.addNetwork n).networkList ↔ m ∈ p.networkList ∨ m = n := by
  rw [addNetwork]
  split
  · next h =>
    obtain ⟨t, ht⟩ := Option.isSome_iff_exists.mp h
    have hn : n ∈ p.networkList := (Table.mem_keys_iff _ _).mpr ⟨t, ht⟩
    constructor
    · exact .inl
    · rintro (hm | rfl)
      · exact hm
      · exact hn
  · simp only [networkList, Table.mem_keys_iff, Table.get?_insert]
    by_cases hm : n = m
    · simp [hm]
    · simp [hm, Ne.symm hm]

theorem mem_networkList_ofList (ns : List UInt8) (n : UInt8) :
    n ∈ (ofList ns).networkList ↔ n ∈ ns := by
  induction ns using List.reverseRecOn with
  | nil => simp [ofList, networkList, empty, Table.keys, Table.empty]
  | append_singleton ns m ih =>
    rw [ofList_concat, mem_networkList_addNetwork, ih, List.mem_append, List.mem_singleton]

theorem consistent_ofList (ns : List UInt8) : (ofList ns).Consistent where
  addressOf_iff := by simp [addressOf_ofList, holderOf_ofList]
  station_mem := by simp [addressOf_ofList]

/-- **A pool is consistent after any operations.** -/
theorem consistent_run (ns : List UInt8) (ops : List Operation) :
    ((ofList ns).run ops).Consistent :=
  (consistent_ofList ns).run ops

theorem networkList_run (p : Pool) (ops : List Operation) :
    (p.run ops).networkList = p.networkList := by
  induction ops using List.reverseRecOn with
  | nil => rfl
  | append_singleton ops op ih => rw [run_concat, networkList_apply, ih]

/-! ### The state of a pool -/

theorem mem_stations_iff (s : UInt8) : s ∈ stations ↔ 1 ≤ s ∧ s ≤ 253 := by
  have h1 : (1 : UInt8).toNat = 1 := rfl
  have h253 : (253 : UInt8).toNat = 253 := rfl
  simp only [stations, List.mem_map, List.mem_range, UInt8.le_iff_toNat_le, h1, h253]
  constructor
  · rintro ⟨i, hi, rfl⟩
    rw [UInt8.toNat_ofNat', Nat.mod_eq_of_lt (by omega)]
    omega
  · rintro ⟨hlow, hhigh⟩
    refine ⟨s.toNat - 1, by omega, UInt8.toNat_inj.mp ?_⟩
    rw [UInt8.toNat_ofNat', Nat.mod_eq_of_lt (by omega)]
    omega

/-- As many addresses are held as connections have one. -/
theorem Consistent.allocated_eq (h : p.Consistent) :
    p.allocated = {a | ∃ c, p.holderOf a = some c}.ncard := by
  have hset : {a | ∃ c, p.holderOf a = some c} = (p.held.values.toFinset : Set Address) := by
    ext a
    simp only [Set.mem_ofPred_eq, List.coe_toFinset, Table.mem_values_iff]
    exact exists_congr fun c => (h.addressOf_iff c a).symm
  have hnodup : p.held.values.Nodup := by
    refine Table.nodup_values fun c d a hc hd => ?_
    have hc := (h.addressOf_iff c a).mp hc
    have hd := (h.addressOf_iff d a).mp hd
    exact Option.some.inj (hc.symm.trans hd)
  rw [hset, Set.ncard_coe_finset, List.toFinset_card_of_nodup hnodup]
  simp [allocated, Table.size, Table.values]

/-- **The state of a pool after any operations.** Connections and addresses correspond one to one,
addresses are on the networks that were given, and an operation leaves other connections alone. -/
theorem addressOf_run_bijective (ns : List UInt8) (ops : List Operation) :
    let p := (ofList ns).run ops
    (∀ c a, p.addressOf c = some a ↔ p.holderOf a = some c) ∧
      (∀ c a, p.holderOf a = some c → a.network ∈ ns ∧ 1 ≤ a.station ∧ a.station ≤ 253) ∧
      p.allocated = {a | ∃ c, p.holderOf a = some c}.ncard ∧
      ∀ (op : Operation) (d : ConnectionId), d ≠ op.connection →
        (p.apply op).addressOf d = p.addressOf d := by
  intro p
  have h := consistent_run ns ops
  refine ⟨h.addressOf_iff, ?_, h.allocated_eq, fun op d hd => addressOf_apply_of_ne p op hd⟩
  intro c a ha
  have hn := network_mem_of_holderOf ha
  rw [networkList_run, mem_networkList_ofList] at hn
  exact ⟨hn, (mem_stations_iff _).mp (h.station_mem c a ((h.addressOf_iff c a).mpr ha))⟩

end Econet.Client.Pool
