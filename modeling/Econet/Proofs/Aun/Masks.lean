import Econet.Aun.Rule
import Mathlib.Data.Nat.Bitwise

/-!
# Masks

The addresses of a subnet are told from others by a mask, whose first bits are ones. It is computed
by a difference and a shift, which are in range for every length that a subnet can have. To keep the
bits of a mask is to leave out the remainder of a division by the number of addresses in the subnet.

## Main definitions

* `mask? length`: the mask of a length, if the numbers on the way to it are in range

## Main results

* `mask?_isSome_iff`: which lengths have a mask
* `and_mask`: to keep the bits of a mask is to divide and to multiply
* `Subnet.contains_iff_and_mask`: the addresses of a subnet in terms of its mask
* `Subnet.toNat_host`: the hosts of a subnet in terms of its mask
-/

namespace Econet.Aun

/-- A difference of unsigned numbers. -/
def checkedSub (m n : Nat) : Option Nat := if n ≤ m then some (m - n) else none

/-- A shift of 32 bits. By more than 31 it means nothing. -/
def checkedShiftLeft (x : UInt32) (k : Nat) : Option UInt32 :=
  if k < 32 then some (x <<< UInt32.ofNat k) else none

/-- The mask whose first `length` bits are ones. -/
def mask? (length : Nat) : Option UInt32 :=
  if length = 0 then some 0 else (checkedSub 32 length).bind (checkedShiftLeft 0xFFFFFFFF)

variable {n k length : Nat} {m : UInt32}

/-! ### The bits of a mask -/

theorem toNat_checkedShiftLeft (hk : k < 32) :
    ∃ m, checkedShiftLeft 0xFFFFFFFF k = some m ∧ m.toNat = 2 ^ 32 - 2 ^ k := by
  refine ⟨0xFFFFFFFF <<< UInt32.ofNat k, if_pos hk, ?_⟩
  have hshift : (UInt32.ofNat k).toNat % 32 = k := by
    rw [UInt32.toNat_ofNat']
    omega
  have hones : (0xFFFFFFFF : UInt32).toNat = 4294967295 := rfl
  have hpos : 0 < 2 ^ k := Nat.two_pow_pos k
  have hle : 2 ^ k ≤ 2 ^ 32 := Nat.pow_le_pow_right Nat.two_pos (Nat.le_of_lt hk)
  rw [UInt32.toNat_shiftLeft, hshift, hones, Nat.shiftLeft_eq]
  omega

/-- The mask of a length of at most 32 is all ones but for the last bits. -/
theorem exists_mask (h : length ≤ 32) :
    ∃ m, mask? length = some m ∧ m.toNat = 2 ^ 32 - blockSize length := by
  unfold mask?
  split
  · next hzero =>
    subst hzero
    exact ⟨0, rfl, rfl⟩
  · next hpos =>
    have hsub : checkedSub 32 length = some (32 - length) := if_pos h
    rw [hsub]
    exact toNat_checkedShiftLeft (by omega)

theorem mask?_isSome_iff : (mask? length).isSome ↔ length ≤ 32 := by
  constructor
  · intro h
    refine Nat.le_of_not_lt fun hlt => ?_
    have hsub : checkedSub 32 length = none := if_neg (Nat.not_le_of_lt hlt)
    rw [mask?, if_neg (by omega), hsub] at h
    cases h
  · intro h
    obtain ⟨m, hm, -⟩ := exists_mask h
    exact Option.isSome_of_eq_some hm

theorem toNat_mask (hm : mask? length = some m) : m.toNat = 2 ^ 32 - blockSize length := by
  obtain ⟨m', hm', htoNat⟩ := exists_mask (mask?_isSome_iff.mp (Option.isSome_of_eq_some hm))
  cases hm.symm.trans hm'
  exact htoNat

theorem blockSize_le (length : Nat) : blockSize length ≤ 2 ^ 32 :=
  Nat.pow_le_pow_right Nat.two_pos (Nat.sub_le 32 length)

theorem toNat_not_mask (hm : mask? length = some m) : (~~~m).toNat = blockSize length - 1 := by
  have hsize : UInt32.size = 2 ^ 32 := rfl
  have hpos := blockSize_pos length
  have hle := blockSize_le length
  rw [UInt32.toNat_not, toNat_mask hm, hsize]
  omega

/-- To leave out the last bits of a number is to leave out the remainder of a division. -/
theorem and_two_pow_sub_two_pow (hn : n < 2 ^ 32) (hk : k ≤ 32) :
    n &&& (2 ^ 32 - 2 ^ k) = n / 2 ^ k * 2 ^ k := by
  have hpos : 0 < 2 ^ k := Nat.two_pow_pos k
  have hle : 2 ^ k ≤ 2 ^ 32 := Nat.pow_le_pow_right Nat.two_pos hk
  have hones : 2 ^ 32 - 2 ^ k = 2 ^ 32 - (2 ^ k - 1 + 1) := by omega
  rw [hones, ← Nat.shiftRight_eq_div_pow, ← Nat.shiftLeft_eq]
  refine Nat.eq_of_testBit_eq fun i => ?_
  rw [Nat.testBit_and, Nat.testBit_two_pow_sub_succ (by omega), Nat.testBit_two_pow_sub_one,
    Nat.testBit_shiftLeft, Nat.testBit_shiftRight]
  by_cases hik : i < k
  · have hik' : ¬ i ≥ k := by omega
    simp [hik, hik']
  · have hsum : k + (i - k) = i := by omega
    have hge : i ≥ k := by omega
    by_cases hi : i < 32
    · simp [hik, hi, hge, hsum]
    · -- There are no bits beyond.
      have hbit : n.testBit i = false := Nat.testBit_lt_two_pow
        (Nat.lt_of_lt_of_le hn (Nat.pow_le_pow_right Nat.two_pos (Nat.not_lt.mp hi)))
      simp [hi, hge, hsum, hbit]

theorem and_mask (hm : mask? length = some m) (hn : n < 2 ^ 32) :
    n &&& m.toNat = n / blockSize length * blockSize length := by
  rw [toNat_mask hm]
  exact and_two_pow_sub_two_pow hn (Nat.sub_le 32 length)

/-! ### Subnets -/

namespace Subnet

theorem base_eq (s : Subnet) :
    s.base.toNat = s.base.toNat / blockSize s.length * blockSize s.length :=
  (Nat.div_mul_cancel (Nat.dvd_of_mod_eq_zero s.base_mod)).symm

/-- **The addresses of a subnet** are those that the mask takes to its lowest address. -/
theorem contains_iff_and_mask {s : Subnet} (hm : mask? s.length = some m) (ip : Ipv4) :
    s.contains ip = true ↔ ip.toNat &&& m.toNat = s.base.toNat := by
  rw [contains, decide_eq_true_iff, and_mask hm ip.isLt]
  constructor
  · intro h
    rw [h, ← s.base_eq]
  · intro h
    rw [← h, Nat.mul_div_cancel _ (blockSize_pos _)]

/-- The highest address of a subnet. -/
theorem base_add_lt (s : Subnet) : s.base.toNat + (blockSize s.length - 1) < 2 ^ 32 := by
  have hbase := s.base_eq
  have hlt : s.base.toNat < 2 ^ 32 := s.base.isLt
  have hblocks : 2 ^ s.length * blockSize s.length = 2 ^ 32 := by
    show 2 ^ s.length * 2 ^ (32 - s.length) = _
    rw [← Nat.pow_add, Nat.add_sub_cancel' s.length_le]
  -- The subnet is one of the blocks that all addresses fall into.
  have hquot : s.base.toNat / blockSize s.length + 1 ≤ 2 ^ s.length := by
    refine Nat.div_lt_of_lt_mul ?_
    rwa [Nat.mul_comm, hblocks]
  have hend := Nat.mul_le_mul_right (blockSize s.length) hquot
  have hpos := blockSize_pos s.length
  rw [Nat.add_mul, Nat.one_mul, hblocks, ← hbase] at hend
  omega

/-- **The hosts of a subnet**: all ones stand for all of them, and a station takes the place of the
last eight bits. -/
theorem toNat_host {s : Subnet} (hm : mask? s.length = some m) (station : UInt8) :
    (s.host station).toNat =
      if station = 255 then s.base.toNat ||| (~~~m).toNat
      else (s.base.toNat &&& (~~~(0xFF : UInt32)).toNat) ||| station.toNat := by
  have hbroadcast : Address.broadcastStation = 255 := rfl
  rw [host, hbroadcast]
  by_cases h : station = 255
  · have hlast : blockSize s.length - 1 < 2 ^ (32 - s.length) :=
      Nat.sub_lt (blockSize_pos s.length) Nat.one_pos
    have hor := Nat.two_pow_add_eq_or_of_lt hlast (s.base.toNat / blockSize s.length)
    have hbase : 2 ^ (32 - s.length) * (s.base.toNat / blockSize s.length) = s.base.toNat :=
      (Nat.mul_comm _ _).trans s.base_eq.symm
    rw [hbase] at hor
    rw [if_pos h, if_pos h, toNat_not_mask hm, ← hor]
    exact Nat.mod_eq_of_lt s.base_add_lt
  · have hlow : (~~~(0xFF : UInt32)).toNat = 2 ^ 32 - 2 ^ 8 := rfl
    have hstation : station.toNat < 2 ^ 8 := station.toNat_lt
    have hbase : s.base.toNat < 2 ^ 32 := s.base.isLt
    rw [if_neg h, if_neg h, hlow, and_two_pow_sub_two_pow hbase (by decide), Nat.mul_comm _ (2 ^ 8),
      ← Nat.two_pow_add_eq_or_of_lt hstation]
    show (s.base.toNat / 256 * 256 + station.toNat) % 4294967296 = _
    omega

end Subnet

end Econet.Aun
