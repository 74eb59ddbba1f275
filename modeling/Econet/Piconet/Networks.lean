import Econet.MapFile

/-!
# Networks behind the serial adapter

## Main definitions

* `Networks`: a set of network numbers
* `Networks.insert`, `Networks.ofList`, `Networks.parse`: building a set
* `Networks.toList`: the numbers in ascending order
-/

namespace Econet.Piconet

/-- A set of networks, as a list of its numbers in ascending order. -/
structure Networks where
  toList : List UInt8
  ascending : toList.Pairwise (· < ·)
  deriving DecidableEq, Repr

namespace Networks

/-- The set without networks. -/
def empty : Networks := ⟨[], .nil⟩

instance : Inhabited Networks := ⟨empty⟩

/-- A network belongs to the set. -/
def contains (s : Networks) (n : UInt8) : Bool := s.toList.contains n

/-- Ascending numbers with one more. -/
def insertOrdered (n : UInt8) : List UInt8 → List UInt8
  | [] => [n]
  | m :: ms => if n < m then n :: m :: ms else if n = m then m :: ms else m :: insertOrdered n ms

theorem mem_insertOrdered {n m : UInt8} {ms : List UInt8} :
    m ∈ insertOrdered n ms ↔ m = n ∨ m ∈ ms := by
  induction ms with
  | nil => simp [insertOrdered]
  | cons k ks ih => grind [insertOrdered]

theorem pairwise_insertOrdered {n : UInt8} {ms : List UInt8} (h : ms.Pairwise (· < ·)) :
    (insertOrdered n ms).Pairwise (· < ·) := by
  induction ms with
  | nil => simp [insertOrdered]
  | cons k ks ih =>
    obtain ⟨hk, hks⟩ := List.pairwise_cons.1 h
    simp only [insertOrdered]
    split
    · next hlt =>
      -- The new number stands in front of the least one, and so of all.
      refine List.pairwise_cons.2 ⟨fun m hm => ?_, h⟩
      rcases List.mem_cons.1 hm with rfl | hm
      · exact hlt
      · exact UInt8.lt_trans hlt (hk m hm)
    · split
      · exact h
      · next hge hne =>
        refine List.pairwise_cons.2 ⟨fun m hm => ?_, ih hks⟩
        rcases mem_insertOrdered.1 hm with rfl | hm
        · exact UInt8.lt_of_le_of_ne (UInt8.not_lt.1 hge) (Ne.symm hne)
        · exact hk m hm

/-- The set with one more network. -/
def insert (s : Networks) (n : UInt8) : Networks :=
  ⟨insertOrdered n s.toList, pairwise_insertOrdered s.ascending⟩

/-- The set of the numbers of a list. -/
def ofList (ns : List UInt8) : Networks := ns.foldl insert empty

/-- The set of the numbers in a text. -/
def parse (text : List Char) : Except MapFile.Error Networks := (MapFile.networks text).map ofList

/-- Number of networks. -/
def size (s : Networks) : Nat := s.toList.length

end Networks

end Econet.Piconet
