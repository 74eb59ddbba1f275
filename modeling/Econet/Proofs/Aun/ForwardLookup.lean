import Econet.Proofs.Aun.Bindings
import Mathlib.Data.Nat.Bitwise

/-!
# The address of a host, read off the rules

The map is built rule by rule, and overwrites as it goes. What it answers can be said of the list of
rules as a whole: the last rule for the port that the host sends from, else the last rule for the
host, else the longest of the subnets that have the first bits of the host, and the last one among
equally long.

## Main definitions

* `Ipv4.bit ip i`: the `i`-th bit of an address, from the front
* `Subnet.Covers s ip`: the host `ip` has the first bits of the subnet `s`
* `IsLongest ip s ss`: among the subnets `ss`, the host `ip` belongs to `s`
* `Gives rules ip port a`: the rules give the host `ip`, sending from `port`, the address `a`

## Main results

* `Subnet.contains_iff`: a block of addresses is what has its first bits
* `Map.subnetOf_eq_some_iff`, `Map.subnetOf_eq_none_iff`: the subnet that a host belongs to
* `Map.addressOf_ofRules_iff`: the address of a host is what the rules give it
-/

namespace Econet

/-- The `i`-th bit of an address, from the front. -/
def Ipv4.bit (ip : Ipv4) (i : Nat) : Bool := ip.toNat.testBit (31 - i)

/-- Two addresses belong to one block exactly if they have the same bits in front. -/
theorem Ipv4.div_blockSize_eq_iff {ip jp : Ipv4} {n : Nat} (hn : n ≤ 32) :
    ip.toNat / Aun.blockSize n = jp.toNat / Aun.blockSize n ↔ ∀ i < n, ip.bit i = jp.bit i := by
  -- What is left of a number when it is divided are its bits from there on.
  have hbit (kp : Ipv4) (j : Nat) :
      (kp.toNat / Aun.blockSize n).testBit j = kp.toNat.testBit (j + (32 - n)) :=
    Nat.testBit_div_two_pow _ _
  constructor
  · intro h i hi
    have hj := congrArg (Nat.testBit · (n - 1 - i)) h
    simp only [hbit] at hj
    rwa [show n - 1 - i + (32 - n) = 31 - i by omega] at hj
  · intro h
    refine Nat.eq_of_testBit_eq fun j => ?_
    rw [hbit, hbit]
    by_cases hj : j < n
    · have hi := h (n - 1 - j) (by omega)
      simpa only [bit, show 31 - (n - 1 - j) = j + (32 - n) by omega] using hi
    · -- There are no bits beyond the first one of the front.
      have hzero (kp : Ipv4) : kp.toNat.testBit (j + (32 - n)) = false := by
        have hlt : kp.toNat < 2 ^ 32 := kp.isLt
        exact Nat.testBit_lt_two_pow (hlt.trans_le (Nat.pow_le_pow_right (by omega) (by omega)))
      rw [hzero, hzero]

namespace Aun

/-! ### Subnets of a host -/

/-- The host has the first bits of the subnet. -/
def Subnet.Covers (s : Subnet) (ip : Ipv4) : Prop := ∀ i < s.length, ip.bit i = s.base.bit i

/-- **A block of addresses is what has its first bits.** -/
theorem Subnet.contains_iff (s : Subnet) (ip : Ipv4) : s.contains ip = true ↔ s.Covers ip := by
  rw [contains, decide_eq_true_iff]
  exact Ipv4.div_blockSize_eq_iff s.length_le

instance (s : Subnet) (ip : Ipv4) : Decidable (s.Covers ip) :=
  decidable_of_iff _ (s.contains_iff ip)

/-- Among several subnets, a host belongs to the longest that covers it, and to the last one among
equally long. -/
def IsLongest (ip : Ipv4) (s : Subnet) (ss : List Subnet) : Prop :=
  s.Covers ip ∧ ∃ pre post, ss = pre ++ s :: post ∧
    (∀ t ∈ pre, t.Covers ip → t.length ≤ s.length) ∧ ∀ t ∈ post, t.Covers ip → t.length < s.length

variable {ip : Ipv4} {s t : Subnet} {ss : List Subnet}

theorem IsLongest.mem (h : IsLongest ip s ss) : s ∈ ss := by
  obtain ⟨-, pre, post, rfl, -, -⟩ := h
  simp

theorem IsLongest.length_le (h : IsLongest ip s ss) (ht : t ∈ ss) (hc : t.Covers ip) :
    t.length ≤ s.length := by
  obtain ⟨-, pre, post, rfl, hpre, hpost⟩ := h
  rcases List.mem_append.mp ht with ht | ht
  · exact hpre t ht hc
  · rcases List.mem_cons.mp ht with rfl | ht
    · exact le_rfl
    · exact (hpost t ht hc).le

/-- With one more subnet, a host belongs to that one if it covers the host and none is longer. -/
theorem isLongest_concat_iff :
    IsLongest ip s (ss ++ [t]) ↔
      (s = t ∧ t.Covers ip ∧ ∀ u ∈ ss, u.Covers ip → u.length ≤ t.length) ∨
      (IsLongest ip s ss ∧ (t.Covers ip → t.length < s.length)) := by
  constructor
  · rintro ⟨hs, pre, post, he, hpre, hpost⟩
    rcases append_cons_eq_concat_iff.mp he.symm with ⟨rfl, rfl, -⟩ | ⟨rest, rfl, rfl⟩
    · exact .inl ⟨rfl, hs, hpre⟩
    · rw [List.forall_mem_append, List.forall_mem_singleton] at hpost
      exact .inr ⟨⟨hs, pre, rest, rfl, hpre, hpost.1⟩, hpost.2⟩
  · rintro (⟨rfl, hs, hle⟩ | ⟨⟨hs, pre, post, rfl, hpre, hpost⟩, ht⟩)
    · exact ⟨hs, ss, [], rfl, hle, by simp⟩
    · refine ⟨hs, pre, post ++ [t], by simp, hpre, ?_⟩
      rw [List.forall_mem_append, List.forall_mem_singleton]
      exact ⟨hpost, ht⟩

/-- The longest of several subnets that contains a host. -/
def longestOf (ip : Ipv4) (ss : List Subnet) : Option Subnet :=
  (ss.filter (·.contains ip)).foldl Map.longer none

theorem longestOf_concat (ip : Ipv4) (ss : List Subnet) (t : Subnet) :
    longestOf ip (ss ++ [t]) =
      if t.contains ip then Map.longer (longestOf ip ss) t else longestOf ip ss := by
  rw [longestOf, List.filter_append, List.foldl_append]
  by_cases ht : t.contains ip
  · simp [ht, longestOf]
  · simp [ht, longestOf]

theorem longer_eq_some_iff (best : Option Subnet) (t s : Subnet) :
    Map.longer best t = some s ↔
      (s = t ∧ ∀ b ∈ best, b.length ≤ t.length) ∨ (best = some s ∧ t.length < s.length) := by
  cases best with
  | none => simp [Map.longer, eq_comm]
  | some b =>
    simp only [Map.longer, Option.mem_some_iff, forall_eq', Option.some.injEq]
    split
    -- Of two that are equally long the later one is taken.
    · next h =>
      rw [Option.some.injEq]
      constructor
      · rintro rfl
        exact .inl ⟨rfl, h⟩
      · rintro (⟨rfl, -⟩ | ⟨rfl, hlt⟩)
        · rfl
        · omega
    · next h =>
      rw [Option.some.injEq]
      constructor
      · rintro rfl
        exact .inr ⟨rfl, by omega⟩
      · rintro (⟨-, hle⟩ | ⟨rfl, -⟩)
        · exact absurd hle h
        · rfl

theorem longestOf_eq_none_iff : longestOf ip ss = none ↔ ∀ t ∈ ss, ¬ t.Covers ip := by
  induction ss using List.reverseRecOn with
  | nil => simp [longestOf]
  | append_singleton ss t ih =>
    rw [longestOf_concat, List.forall_mem_append, List.forall_mem_singleton, ← ih,
      ← Subnet.contains_iff]
    by_cases ht : t.contains ip
    · have hsome : Map.longer (longestOf ip ss) t ≠ none := by
        unfold Map.longer
        split
        · simp
        · split <;> simp
      simp [ht, hsome]
    · simp [ht]

theorem longestOf_eq_some_iff : longestOf ip ss = some s ↔ IsLongest ip s ss := by
  induction ss using List.reverseRecOn generalizing s with
  | nil =>
    refine iff_of_false (by simp [longestOf]) fun h => ?_
    exact List.not_mem_nil h.mem
  | append_singleton ss t ih =>
    -- The best one so far stands for all of them.
    have hall : (∀ b ∈ longestOf ip ss, b.length ≤ t.length) ↔
        ∀ u ∈ ss, u.Covers ip → u.length ≤ t.length := by
      constructor
      · intro h u hu hcu
        cases hb : longestOf ip ss with
        | none => exact absurd hcu (longestOf_eq_none_iff.mp hb u hu)
        | some b => exact ((ih.mp hb).length_le hu hcu).trans (h b hb)
      · intro h b hb
        exact h b (ih.mp hb).mem (ih.mp hb).1
    rw [longestOf_concat, isLongest_concat_iff, ← ih, ← Subnet.contains_iff]
    by_cases ht : t.contains ip
    · rw [if_pos ht, longer_eq_some_iff, hall]
      simp [ht]
    · simp [ht]

/-! ### Addresses of hosts -/

/-- The address that rules give to a host, sending from a port if one is given. -/
inductive Gives (rules : List Rule) (ip : Ipv4) (port : Option UInt16) (a : Address) : Prop where
  /-- By the last rule for the port. -/
  | byPort (p : UInt16) (hp : port = some p)
      (ha : IsLatest (ip, p) a (rules.filterMap Rule.portBinding?))
  /-- By the last rule for the host, without one for the port. -/
  | byHost (hport : ∀ p, port = some p → ∀ b, .hostPort ip p b ∉ rules)
      (ha : IsLatest ip a (rules.filterMap Rule.hostBinding?))
  /-- By the subnet that the host belongs to, without a rule for the port or the host. -/
  | bySubnet (hport : ∀ p, port = some p → ∀ b, .hostPort ip p b ∉ rules)
      (hhost : ∀ b, .host ip b ∉ rules) (s : Subnet)
      (hs : IsLongest ip s (rules.filterMap Rule.subnet?))
      (ha : a = ⟨s.network, ip.lastOctet⟩)

namespace Map

variable {rules : List Rule} {port : Option UInt16} {a : Address}

/-- **The subnet that a host belongs to.** -/
theorem subnetOf_eq_some_iff :
    (ofRules rules).subnetOf ip = some s ↔ IsLongest ip s (rules.filterMap Rule.subnet?) := by
  rw [← longestOf_eq_some_iff, ← subnets_ofRules]
  rfl

/-- A host that belongs to no subnet is covered by none. -/
theorem subnetOf_eq_none_iff :
    (ofRules rules).subnetOf ip = none ↔ ∀ s, .subnet s ∈ rules → ¬ s.Covers ip := by
  have hnone : longestOf ip (ofRules rules).subnets = none ↔
      ∀ s ∈ (ofRules rules).subnets, ¬ s.Covers ip := longestOf_eq_none_iff
  simp only [subnets_ofRules, List.mem_filterMap, Rule.subnet?_eq_some_iff, exists_eq_right] at hnone
  rw [← hnone, ← subnets_ofRules]
  rfl

theorem portRule_eq_none_iff :
    (port.bind fun p => (ofRules rules).hostPorts.get? (ip, p)) = none ↔
      ∀ p, port = some p → ∀ b, .hostPort ip p b ∉ rules := by
  simp only [Option.bind_eq_none_iff, hostPorts_eq, get?_bindAll_eq_none_iff, List.mem_filterMap,
    Rule.portBinding?_eq_some_iff, exists_eq_right]

theorem hostRule_eq_none_iff :
    (ofRules rules).hosts.get? ip = none ↔ ∀ b, .host ip b ∉ rules := by
  simp only [hosts_eq, get?_bindAll_eq_none_iff, List.mem_filterMap,
    Rule.hostBinding?_eq_some_iff, exists_eq_right]

/-- A rule for the port goes before one for the host, and both before the subnets. -/
theorem addressOf_eq (m : Map) (ip : Ipv4) (port : Option UInt16) :
    m.addressOf ip port =
      ((port.bind fun p => m.hostPorts.get? (ip, p)).or (m.hosts.get? ip)).or
        ((m.subnetOf ip).map fun s => ⟨s.network, ip.lastOctet⟩) := by
  unfold addressOf ruledAddressOf
  cases port.bind fun p => m.hostPorts.get? (ip, p) with
  | some a => rfl
  | none =>
    cases m.hosts.get? ip with
    | some a => rfl
    | none => rfl

/-- **The address of a host is what the rules give it**: that of the last rule for its port, else
that of the last rule for itself, else its last number on the network of the longest subnet that
covers it, the last one among equally long. It has no address exactly if there is no such rule. -/
theorem addressOf_ofRules_iff (rules : List Rule) (ip : Ipv4) (port : Option UInt16) :
    (∀ a, (ofRules rules).addressOf ip port = some a ↔ Gives rules ip port a) ∧
    ((ofRules rules).addressOf ip port = none ↔
      (∀ p, port = some p → ∀ b, .hostPort ip p b ∉ rules) ∧ (∀ b, .host ip b ∉ rules) ∧
        ∀ s, .subnet s ∈ rules → ¬ s.Covers ip) := by
  refine ⟨fun a => ?_, ?_⟩
  -- Each way to look a host up is tried when those before it find nothing.
  · rw [addressOf_eq, Option.or_eq_some_iff, Option.or_eq_some_iff]
    constructor
    · rintro ((hp | ⟨hp, hh⟩) | ⟨hruled, hs⟩)
      · obtain ⟨p, rfl, hp⟩ := Option.bind_eq_some_iff.mp hp
        exact .byPort p rfl ((hostPorts_ofRules _ _ _).mp hp)
      · exact .byHost (portRule_eq_none_iff.mp hp) ((hosts_ofRules _ _ _).mp hh)
      · obtain ⟨hp, hh⟩ := Option.or_eq_none_iff.mp hruled
        obtain ⟨s, hsubnet, rfl⟩ := Option.map_eq_some_iff.mp hs
        exact .bySubnet (portRule_eq_none_iff.mp hp) (hostRule_eq_none_iff.mp hh) s
          (subnetOf_eq_some_iff.mp hsubnet) rfl
    · rintro (⟨p, rfl, ha⟩ | ⟨hp, ha⟩ | ⟨hp, hh, s, hs, rfl⟩)
      · exact .inl (.inl ((hostPorts_ofRules _ _ _).mpr ha))
      · exact .inl (.inr ⟨portRule_eq_none_iff.mpr hp, (hosts_ofRules _ _ _).mpr ha⟩)
      · refine .inr ⟨Option.or_eq_none_iff.mpr ⟨portRule_eq_none_iff.mpr hp,
          hostRule_eq_none_iff.mpr hh⟩, ?_⟩
        rw [subnetOf_eq_some_iff.mpr hs]
        rfl
  · rw [addressOf_eq, Option.or_eq_none_iff, Option.or_eq_none_iff, portRule_eq_none_iff,
      hostRule_eq_none_iff, Option.map_eq_none_iff, subnetOf_eq_none_iff, and_assoc]

end Map

end Aun

end Econet
