import Econet.Aun.Map
import Econet.Proofs.Splits
import Mathlib.Data.List.Induction

/-!
# Bindings of addresses

Rules bind targets, which are hosts or ports of hosts, to addresses. The map holds two tables for
each kind of target: one leads from targets to addresses, the other from an address to the one
target that replies go to. Seen from a single address, the second table is an automaton that
reads bindings: the first target is kept until it moves to another address.

## Main definitions

* `keeper a bs`: the target that the address `a` keeps after the bindings `bs`
* `IsReleased a bs`, `IsAbandoned a bs`: no target is kept, by what was bound and when
* `Agree`: each target that an address leads to leads back to the address
* `IsLatest t b bs`: of several bindings, the last one of the target `t` is to the address `b`
* `Map.Consistent`: both pairs of tables agree

## Main results

* `keeper_eq_none_iff`: no target is kept exactly of abandoned addresses
* `get?_rebind`: the second table takes a step of the automaton
* `Map.consistent_ofRules`: the tables agree after all rules
* `Map.portOf_ofRules`, `Map.hostOf_ofRules`: the second tables hold what is kept
* `Map.hostPorts_ofRules`, `Map.hosts_ofRules`: the first tables hold the latest bindings
-/

namespace Econet.Aun

section Keeper

variable {τ : Type} [DecidableEq τ]

/-- The target that an address keeps after one more binding: the first one, until it moves. -/
def keep (a : Address) (kept : Option τ) (b : τ × Address) : Option τ :=
  if b.2 = a then kept.or (some b.1)
  else if kept = some b.1 then none
  else kept

/-- The target that an address keeps after several bindings. -/
def keeper (a : Address) (bs : List (τ × Address)) : Option τ := bs.foldl (keep a) none

/-- The target that the address kept moved to another address, and nothing was bound to the
address since. -/
def IsReleased (a : Address) (bs : List (τ × Address)) : Prop :=
  ∃ pre t b post, bs = pre ++ (t, b) :: post ∧ keeper a pre = some t ∧ b ≠ a ∧
    ∀ x ∈ post, x.2 ≠ a

/-- Nothing was ever bound to the address, or it was released. -/
def IsAbandoned (a : Address) (bs : List (τ × Address)) : Prop :=
  (∀ x ∈ bs, x.2 ≠ a) ∨ IsReleased a bs

@[simp] theorem keeper_nil (a : Address) : keeper a ([] : List (τ × Address)) = none := rfl

theorem keeper_concat (a : Address) (bs : List (τ × Address)) (b : τ × Address) :
    keeper a (bs ++ [b]) = keep a (keeper a bs) b := by
  rw [keeper, List.foldl_append]
  rfl

theorem keep_eq_none_iff (a : Address) (kept : Option τ) (b : τ × Address) :
    keep a kept b = none ↔ b.2 ≠ a ∧ (kept = none ∨ kept = some b.1) := by
  unfold keep
  split
  · simp_all
  · split <;> simp_all

theorem isReleased_concat_iff (a : Address) (bs : List (τ × Address)) (b : τ × Address) :
    IsReleased a (bs ++ [b]) ↔ b.2 ≠ a ∧ (keeper a bs = some b.1 ∨ IsReleased a bs) := by
  constructor
  · rintro ⟨pre, t, c, post, he, hk, hc, hpost⟩
    -- The move is the last binding, or one of the earlier ones.
    rcases append_cons_eq_concat_iff.mp he.symm with ⟨rfl, rfl, -⟩ | ⟨rest, rfl, rfl⟩
    · exact ⟨hc, .inl hk⟩
    · rw [List.forall_mem_append, List.forall_mem_singleton] at hpost
      exact ⟨hpost.2, .inr ⟨pre, t, c, rest, rfl, hk, hc, hpost.1⟩⟩
  · rintro ⟨hb, hk | ⟨pre, t, c, post, rfl, hk, hc, hpost⟩⟩
    · exact ⟨bs, b.1, b.2, [], rfl, hk, hb, by simp⟩
    · refine ⟨pre, t, c, post ++ [b], by simp, hk, hc, ?_⟩
      rw [List.forall_mem_append, List.forall_mem_singleton]
      exact ⟨hpost, hb⟩

/-- **An address keeps no target exactly if it is abandoned.** -/
theorem keeper_eq_none_iff (a : Address) (bs : List (τ × Address)) :
    keeper a bs = none ↔ IsAbandoned a bs := by
  induction bs using List.reverseRecOn with
  | nil => simp [IsAbandoned]
  | append_singleton bs b ih =>
    rw [keeper_concat, keep_eq_none_iff, ih, IsAbandoned, IsAbandoned, isReleased_concat_iff,
      List.forall_mem_append, List.forall_mem_singleton]
    tauto

/-- The bindings of one kind of target in a sequence of rules, one rule at a time. -/
theorem keeper_filterMap_concat (a : Address) (f : Rule → Option (τ × Address))
    (rules : List Rule) (r : Rule) :
    keeper a ((rules ++ [r]).filterMap f) =
      (f r).elim (keeper a (rules.filterMap f)) (keep a (keeper a (rules.filterMap f))) := by
  rw [List.filterMap_append]
  cases hr : f r with
  | none => simp [hr]
  | some b =>
    rw [List.filterMap_cons_some hr, List.filterMap_nil, keeper_concat]
    rfl

/-! ### The tables of one kind of target -/

/-- Each target that an address leads to leads back to the address. -/
def Agree (addresses : Table τ Address) (targets : Table Address τ) : Prop :=
  ∀ a t, targets.get? a = some t → addresses.get? t = some a

variable {addresses : Table τ Address} {targets : Table Address τ}

/-- The targets of addresses without a target that moves away from its previous address. -/
def released (targets : Table Address τ) (t : τ) (previous : Option Address) : Table Address τ :=
  match previous with
  | some p => if targets.get? p = some t then targets.erase p else targets
  | none => targets

theorem rebind_eq (targets : Table Address τ) (t : τ) (previous : Option Address) (b : Address) :
    Map.rebind targets t previous b =
      if (released targets t previous).contains b then released targets t previous
      else (released targets t previous).insert b t := rfl

theorem get?_released (h : Agree addresses targets) (t : τ) (a : Address) :
    (released targets t (addresses.get? t)).get? a =
      if targets.get? a = some t then none else targets.get? a := by
  unfold released
  cases hp : addresses.get? t with
  | none =>
    have ht : targets.get? a ≠ some t := by
      intro ht
      rw [h a t ht] at hp
      cases hp
    rw [if_neg ht]
  | some p =>
    -- An address that leads to the target is the previous one.
    have hpa : targets.get? a = some t → p = a := by
      intro ht
      exact Option.some.inj (hp.symm.trans (h a t ht))
    by_cases hk : targets.get? p = some t
    · simp only [if_pos hk, Table.get?_erase]
      by_cases ha : p = a
      · rw [if_pos ha, ← ha, if_pos hk]
      · rw [if_neg ha, if_neg (mt hpa ha)]
    · have ht : targets.get? a ≠ some t := by
        intro ht
        rw [hpa ht] at hk
        exact hk ht
      simp only [if_neg hk, if_neg ht]

/-- **A binding takes a step of the automaton of each address.** -/
theorem get?_rebind (h : Agree addresses targets) (t : τ) (b a : Address) :
    (Map.rebind targets t (addresses.get? t) b).get? a = keep a (targets.get? a) (t, b) := by
  have ha := get?_released h t a
  rw [rebind_eq, Table.contains, keep]
  by_cases hb : b = a
  · subst hb
    rw [if_pos rfl]
    by_cases ht : targets.get? b = some t
    · -- The target leaves the address and comes back.
      rw [if_pos ht] at ha
      simp [ha, ht]
    · rw [if_neg ht] at ha
      cases hc : targets.get? b with
      | none => simp [ha, hc]
      | some k => simp [ha, hc]
  · rw [if_neg hb, ← ha]
    split
    · rfl
    · rw [Table.get?_insert, if_neg hb]

/-- **A binding keeps the tables in agreement.** -/
theorem Agree.insert (h : Agree addresses targets) (t : τ) (b : Address) :
    Agree (addresses.insert t b) (Map.rebind targets t (addresses.get? t) b) := by
  intro a k hk
  rw [get?_rebind h, keep] at hk
  rw [Table.get?_insert]
  -- The address that is bound now leads to the target, or to where it led before.
  by_cases hb : b = a
  · subst hb
    rw [if_pos rfl] at hk
    by_cases ht : t = k
    · rw [if_pos ht]
    · rw [if_neg ht]
      cases hc : targets.get? b with
      | none =>
        rw [hc] at hk
        exact absurd (Option.some.inj hk) ht
      | some j =>
        rw [hc] at hk
        exact h b k (hc.trans hk)
  · rw [if_neg hb] at hk
    split at hk
    · cases hk
    · next hne =>
      have ht : t ≠ k := by
        rintro rfl
        exact hne hk
      rw [if_neg ht]
      exact h a k hk

end Keeper

/-! ### The latest binding of a target -/

section Latest

variable {τ : Type} {t : τ} {b : Address} {bs : List (τ × Address)}

/-- The last binding of a target is to an address. -/
def IsLatest (t : τ) (b : Address) (bs : List (τ × Address)) : Prop :=
  ∃ pre post, bs = pre ++ (t, b) :: post ∧ ∀ x ∈ post, x.1 ≠ t

theorem not_isLatest_nil : ¬ IsLatest t b [] := by
  rintro ⟨pre, post, h, -⟩
  simp at h

theorem isLatest_concat_iff (x : τ × Address) :
    IsLatest t b (bs ++ [x]) ↔ x = (t, b) ∨ x.1 ≠ t ∧ IsLatest t b bs := by
  constructor
  · rintro ⟨pre, post, he, hpost⟩
    rcases append_cons_eq_concat_iff.mp he.symm with ⟨-, rfl, -⟩ | ⟨rest, rfl, rfl⟩
    · exact .inl rfl
    · rw [List.forall_mem_append, List.forall_mem_singleton] at hpost
      exact .inr ⟨hpost.2, pre, rest, rfl, hpost.1⟩
  · rintro (rfl | ⟨hx, pre, post, rfl, hpost⟩)
    · exact ⟨bs, [], rfl, by simp⟩
    · refine ⟨pre, post ++ [x], by simp, ?_⟩
      rw [List.forall_mem_append, List.forall_mem_singleton]
      exact ⟨hpost, hx⟩

variable [DecidableEq τ]

/-- The addresses of targets after several bindings. -/
def bindAll (bs : List (τ × Address)) : Table τ Address :=
  bs.foldl (fun addresses x => addresses.insert x.1 x.2) .empty

theorem get?_bindAll_concat (bs : List (τ × Address)) (x : τ × Address) (t : τ) :
    (bindAll (bs ++ [x])).get? t = if x.1 = t then some x.2 else (bindAll bs).get? t := by
  rw [bindAll, List.foldl_append]
  exact Table.get?_insert _ _ _ _

/-- **A target has the address of its latest binding.** -/
theorem get?_bindAll_eq_some_iff : (bindAll bs).get? t = some b ↔ IsLatest t b bs := by
  induction bs using List.reverseRecOn with
  | nil => simp [bindAll, not_isLatest_nil]
  | append_singleton bs x ih =>
    obtain ⟨u, c⟩ := x
    rw [get?_bindAll_concat, isLatest_concat_iff, ← ih]
    by_cases hu : u = t
    · simp [hu]
    · simp [hu]

/-- A target without a binding has no address. -/
theorem get?_bindAll_eq_none_iff : (bindAll bs).get? t = none ↔ ∀ b, (t, b) ∉ bs := by
  induction bs using List.reverseRecOn with
  | nil => simp [bindAll]
  | append_singleton bs x ih =>
    obtain ⟨u, c⟩ := x
    rw [get?_bindAll_concat]
    by_cases hu : u = t
    · subst hu
      exact iff_of_false (by simp) fun h => h c (by simp)
    · simp [hu, ih, Ne.symm hu]

end Latest

/-! ### Rules -/

/-- The port of a host that a rule binds, with its address. -/
def Rule.portBinding? : Rule → Option ((Ipv4 × UInt16) × Address)
  | .hostPort ip port a => some ((ip, port), a)
  | .host _ _ => none
  | .subnet _ => none

/-- The host that a rule binds, with its address. -/
def Rule.hostBinding? : Rule → Option (Ipv4 × Address)
  | .hostPort _ _ _ => none
  | .host ip a => some (ip, a)
  | .subnet _ => none

/-- The subnet of a rule. -/
def Rule.subnet? : Rule → Option Subnet
  | .hostPort _ _ _ => none
  | .host _ _ => none
  | .subnet s => some s

theorem Rule.portBinding?_eq_some_iff {r : Rule} {t : Ipv4 × UInt16} {a : Address} :
    r.portBinding? = some (t, a) ↔ r = .hostPort t.1 t.2 a := by
  obtain ⟨ip, port⟩ := t
  cases r <;> simp [portBinding?, and_assoc]

theorem Rule.hostBinding?_eq_some_iff {r : Rule} {ip : Ipv4} {a : Address} :
    r.hostBinding? = some (ip, a) ↔ r = .host ip a := by
  cases r <;> simp [hostBinding?]

theorem Rule.subnet?_eq_some_iff {r : Rule} {s : Subnet} : r.subnet? = some s ↔ r = .subnet s := by
  cases r <;> simp [subnet?]

namespace Map

/-- Targets and addresses agree, of ports and of hosts. -/
structure Consistent (m : Map) : Prop where
  /-- The ports of hosts. -/
  ports : Agree m.hostPorts m.portOf
  /-- The hosts. -/
  hosts : Agree m.hosts m.hostOf

theorem consistent_empty : empty.Consistent where
  ports := by
    intro a t h
    simp [empty] at h
  hosts := by
    intro a t h
    simp [empty] at h

theorem Consistent.add {m : Map} (h : m.Consistent) (r : Rule) : (m.add r).Consistent := by
  cases r with
  | hostPort ip port a => exact ⟨h.ports.insert (ip, port) a, h.hosts⟩
  | host ip a => exact ⟨h.ports, h.hosts.insert ip a⟩
  | subnet s => exact ⟨h.ports, h.hosts⟩

theorem ofRules_concat (rules : List Rule) (r : Rule) :
    ofRules (rules ++ [r]) = (ofRules rules).add r := by
  rw [ofRules, addAll, List.foldl_append]
  rfl

/-- **Targets and addresses agree after all rules.** -/
theorem consistent_ofRules (rules : List Rule) : (ofRules rules).Consistent := by
  induction rules using List.reverseRecOn with
  | nil => exact consistent_empty
  | append_singleton rules r ih =>
    rw [ofRules_concat]
    exact ih.add r

/-- An address leads to the port of a host that it keeps. -/
theorem portOf_ofRules (rules : List Rule) (a : Address) :
    (ofRules rules).portOf.get? a = keeper a (rules.filterMap Rule.portBinding?) := by
  induction rules using List.reverseRecOn with
  | nil => rfl
  | append_singleton rules r ih =>
    rw [ofRules_concat, keeper_filterMap_concat, ← ih]
    cases r with
    | hostPort ip port b => exact get?_rebind (consistent_ofRules rules).ports (ip, port) b a
    | host ip b => rfl
    | subnet s => rfl

/-- An address leads to the host that it keeps. -/
theorem hostOf_ofRules (rules : List Rule) (a : Address) :
    (ofRules rules).hostOf.get? a = keeper a (rules.filterMap Rule.hostBinding?) := by
  induction rules using List.reverseRecOn with
  | nil => rfl
  | append_singleton rules r ih =>
    rw [ofRules_concat, keeper_filterMap_concat, ← ih]
    cases r with
    | hostPort ip port b => rfl
    | host ip b => exact get?_rebind (consistent_ofRules rules).hosts ip b a
    | subnet s => rfl

/-- The map binds ports as the rules come. -/
theorem hostPorts_eq (rules : List Rule) :
    (ofRules rules).hostPorts = bindAll (rules.filterMap Rule.portBinding?) := by
  induction rules using List.reverseRecOn with
  | nil => rfl
  | append_singleton rules r ih =>
    rw [ofRules_concat, bindAll, List.filterMap_append, List.foldl_append, ← bindAll, ← ih]
    cases r <;> rfl

/-- The map binds hosts as the rules come. -/
theorem hosts_eq (rules : List Rule) :
    (ofRules rules).hosts = bindAll (rules.filterMap Rule.hostBinding?) := by
  induction rules using List.reverseRecOn with
  | nil => rfl
  | append_singleton rules r ih =>
    rw [ofRules_concat, bindAll, List.filterMap_append, List.foldl_append, ← bindAll, ← ih]
    cases r <;> rfl

/-- **The map has the latest binding of each port.** -/
theorem hostPorts_ofRules (rules : List Rule) (t : Ipv4 × UInt16) (b : Address) :
    (ofRules rules).hostPorts.get? t = some b ↔
      IsLatest t b (rules.filterMap Rule.portBinding?) := by
  rw [hostPorts_eq]
  exact get?_bindAll_eq_some_iff

/-- **The map has the latest binding of each host.** -/
theorem hosts_ofRules (rules : List Rule) (ip : Ipv4) (b : Address) :
    (ofRules rules).hosts.get? ip = some b ↔
      IsLatest ip b (rules.filterMap Rule.hostBinding?) := by
  rw [hosts_eq]
  exact get?_bindAll_eq_some_iff

/-- The map has the subnets as the rules come. -/
theorem subnets_ofRules (rules : List Rule) :
    (ofRules rules).subnets = rules.filterMap Rule.subnet? := by
  induction rules using List.reverseRecOn with
  | nil => rfl
  | append_singleton rules r ih =>
    rw [ofRules_concat, List.filterMap_append, ← ih]
    cases r with
    | hostPort ip port a => exact (List.append_nil _).symm
    | host ip a => exact (List.append_nil _).symm
    | subnet s => rfl

end Map

end Econet.Aun
