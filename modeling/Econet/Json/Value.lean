import Econet.Binary64

/-!
# JSON values

## Main definitions

* `Number`: integers of 64 bits, signed or not, and floating-point numbers
* `Tree`: numbers, texts and the like, in arrays and objects
* `Value`: the trees in whose objects the names of the members ascend
* `insertMember`, `Value.ofMembers`: objects from members in any order, the last one of a
  name winning
* `Tree.depth`: how deep arrays and objects are nested

## Main results

* `pairwise_insertMember`: a member takes its place in the order of names
-/

namespace Econet.Json

/-- A number: an integer from `-2 ^ 63` to `2 ^ 64 - 1`, or a floating-point number with an
explicit sign. -/
inductive Number where
  | natural (n : UInt64)
  /-- The integer `-(n + 1)`. -/
  | negative (n : Fin 9223372036854775808)
  | float (isNegative : Bool) (magnitude : Binary64)
  deriving DecidableEq, Repr

/-- A tree of JSON values. -/
inductive Tree where
  | null
  | bool (b : Bool)
  | number (n : Number)
  | string (s : String)
  | array (items : List Tree)
  | object (members : List (String × Tree))
  deriving Repr, Inhabited

/-! ### Trees -/

mutual

/-- How deep arrays and objects are nested in a tree. -/
def Tree.depth : Tree → Nat
  | .array items => depthOfItems items + 1
  | .object members => depthOfMembers members + 1
  | _ => 0

/-- The largest depth of a list of trees. -/
def depthOfItems : List Tree → Nat
  | [] => 0
  | t :: ts => max t.depth (depthOfItems ts)

/-- The largest depth of a list of members. -/
def depthOfMembers : List (String × Tree) → Nat
  | [] => 0
  | (_, t) :: ms => max t.depth (depthOfMembers ms)

end

mutual

/-- Every number in the tree is `p`, and so are the names of every object `q`. -/
def Tree.every (p : Number → Bool) (q : List String → Bool) : Tree → Bool
  | .number n => p n
  | .array items => everyItem p q items
  | .object members => q (members.map (·.1)) && everyMember p q members
  | _ => true

/-- The same of every tree of a list. -/
def everyItem (p : Number → Bool) (q : List String → Bool) : List Tree → Bool
  | [] => true
  | t :: ts => t.every p q && everyItem p q ts

/-- The same of every tree of a list of members. -/
def everyMember (p : Number → Bool) (q : List String → Bool) : List (String × Tree) → Bool
  | [] => true
  | (_, t) :: ms => t.every p q && everyMember p q ms

end

/-- The names of every object in the tree ascend. -/
def Tree.isOrdered (t : Tree) : Bool :=
  t.every (fun _ => true) fun names => names.Pairwise (· < ·)

section Every

variable {p : Number → Bool} {q : List String → Bool} {items : List Tree}
  {members : List (String × Tree)}

theorem everyItem_iff : everyItem p q items = true ↔ ∀ t ∈ items, t.every p q = true := by
  induction items with
  | nil => simp [everyItem]
  | cons t ts ih => simp [everyItem, ih]

theorem everyMember_iff : everyMember p q members = true ↔ ∀ m ∈ members, m.2.every p q = true := by
  induction members with
  | nil => simp [everyMember]
  | cons m ms ih => simp [everyMember, ih]

theorem Tree.every_array :
    (Tree.array items).every p q = true ↔ ∀ t ∈ items, t.every p q = true := by
  rw [Tree.every, everyItem_iff]

theorem Tree.every_object :
    (Tree.object members).every p q = true ↔
      q (members.map (·.1)) = true ∧ ∀ m ∈ members, m.2.every p q = true := by
  rw [Tree.every, Bool.and_eq_true, everyMember_iff]

theorem Tree.isOrdered_object : (Tree.object members).isOrdered = true ↔
    (members.map (·.1)).Pairwise (· < ·) ∧ ∀ m ∈ members, m.2.isOrdered = true := by
  rw [Tree.isOrdered, Tree.every_object, decide_eq_true_iff]
  rfl

end Every

/-! ### Members -/

section Members

variable {α : Type}

/-- Members in ascending order of names with one more; it replaces one of its name. -/
def insertMember (name : String) (v : α) : List (String × α) → List (String × α)
  | [] => [(name, v)]
  | m :: ms =>
    if name < m.1 then (name, v) :: m :: ms
    else if name = m.1 then (name, v) :: ms
    else m :: insertMember name v ms

/-- Members in ascending order of names; of several members of one name the last one counts. -/
def inOrder (ms : List (String × α)) : List (String × α) :=
  ms.foldl (fun acc m => insertMember m.1 m.2 acc) []

theorem mem_insertMember {name : String} {v : α} {ms : List (String × α)} {m : String × α}
    (h : m ∈ insertMember name v ms) : m = (name, v) ∨ m ∈ ms := by
  induction ms with
  | nil => exact .inl (List.mem_singleton.mp h)
  | cons k ks ih =>
    rw [insertMember] at h
    split at h
    · exact List.mem_cons.mp h
    · split at h
      · rcases List.mem_cons.mp h with rfl | h
        · exact .inl rfl
        · exact .inr (List.mem_cons_of_mem _ h)
      · rcases List.mem_cons.mp h with rfl | h
        · exact .inr List.mem_cons_self
        · exact (ih h).imp_right (List.mem_cons_of_mem _)

/-- A member takes its place in the order of names. -/
theorem pairwise_insertMember {name : String} {v : α} {ms : List (String × α)}
    (h : ms.Pairwise fun k m => k.1 < m.1) :
    (insertMember name v ms).Pairwise fun k m => k.1 < m.1 := by
  induction ms with
  | nil => simp [insertMember]
  | cons k ks ih =>
    obtain ⟨hk, hks⟩ := List.pairwise_cons.mp h
    rw [insertMember]
    split
    · next hlt =>
      refine List.pairwise_cons.mpr ⟨fun m hm => ?_, h⟩
      rcases List.mem_cons.mp hm with rfl | hm
      · exact hlt
      · exact String.lt_trans hlt (hk m hm)
    · next hlt =>
      split
      · next heq =>
        refine List.pairwise_cons.mpr ⟨fun m hm => ?_, hks⟩
        rw [heq]
        exact hk m hm
      · next hne =>
        have hlast : k.1 < name := Std.lt_of_le_of_ne (String.not_lt.mp hlt) (Ne.symm hne)
        refine List.pairwise_cons.mpr ⟨fun m hm => ?_, ih hks⟩
        rcases mem_insertMember hm with rfl | hm
        · exact hlast
        · exact hk m hm

/-- Names ascend, and there are no members but those that are put in order. -/
theorem inOrder_spec (ms : List (String × α)) :
    ((inOrder ms).Pairwise fun k m => k.1 < m.1) ∧ ∀ m ∈ inOrder ms, m ∈ ms := by
  have hfold (acc : List (String × α)) (hacc : acc.Pairwise fun k m => k.1 < m.1) :
      ((ms.foldl (fun acc m => insertMember m.1 m.2 acc) acc).Pairwise fun k m => k.1 < m.1) ∧
        ∀ k ∈ ms.foldl (fun acc m => insertMember m.1 m.2 acc) acc, k ∈ acc ∨ k ∈ ms := by
    induction ms generalizing acc with
    | nil => exact ⟨hacc, fun k hk => .inl hk⟩
    | cons m ms ih =>
      obtain ⟨hpairwise, hmem⟩ := ih _ (pairwise_insertMember (v := m.2) hacc)
      refine ⟨hpairwise, fun k hk => ?_⟩
      rcases hmem k hk with hk | hk
      · rcases mem_insertMember hk with rfl | hk
        · exact .inr List.mem_cons_self
        · exact .inl hk
      · exact .inr (List.mem_cons_of_mem _ hk)
  obtain ⟨hpairwise, hmem⟩ := hfold [] .nil
  exact ⟨hpairwise, fun m hm => (hmem m hm).resolve_left List.not_mem_nil⟩

end Members

/-! ### Values -/

/-- A JSON value: a tree in whose objects the names of the members ascend. -/
@[ext]
structure Value where
  tree : Tree
  ordered : tree.isOrdered = true
  deriving Repr

namespace Value

def null : Value := ⟨.null, rfl⟩

def bool (b : Bool) : Value := ⟨.bool b, rfl⟩

def number (n : Number) : Value := ⟨.number n, rfl⟩

def string (s : String) : Value := ⟨.string s, rfl⟩

instance : Inhabited Value := ⟨null⟩

def array (items : List Value) : Value where
  tree := .array (items.map tree)
  ordered := Tree.every_array.mpr <| List.forall_mem_map.mpr fun v _ => v.ordered

/-- The object with the given members; of several members of one name the last one counts. -/
def ofMembers (ms : List (String × Value)) : Value where
  tree := .object ((inOrder ms).map fun m => (m.1, m.2.tree))
  ordered := by
    refine Tree.isOrdered_object.mpr ⟨?_, List.forall_mem_map.mpr fun m _ => m.2.ordered⟩
    rw [List.map_map]
    exact List.pairwise_map.mpr (inOrder_spec ms).1

def depth (v : Value) : Nat := v.tree.depth

end Value

end Econet.Json
