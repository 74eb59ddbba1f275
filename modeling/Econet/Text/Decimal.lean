import Econet.Text.Blank

/-!
# Decimal numbers in text

A number is written with the digits 0 to 9 and no leading zero. It is read from digits with
an optional plus sign in front; leading zeros are fine, and the value has to be below a bound.

## Main definitions

* `digits n`: the decimal form of `n`
* `value ds`: the number that digits denote
* `parseBelow b`: the number below `b` that a text denotes

## Main results

* `value_digits`: a written number reads as itself
* `head?_digits_ne`: no leading zero is written
* `parseBelow_digits`: so does it through `parseBelow`, when below the bound
* `parseBelow_lt`: what is read is below the bound
-/

namespace Econet.Text

/-- The decimal form of a number. -/
def digits (n : Nat) : List Char := Nat.toDigits 10 n

/-- The number that decimal digits denote. -/
def value (ds : List Char) : Nat := Nat.ofDigitChars 10 ds 0

theorem value_digits (n : Nat) : value (digits n) = n :=
  Nat.ofDigitChars_toDigits (by omega) (by omega)

theorem isDigit_of_mem_digits {n : Nat} {c : Char} (h : c ∈ digits n) : c.isDigit :=
  Nat.isDigit_of_mem_toDigits (by omega) (by omega) h

theorem isBlank_of_isDigit {c : Char} (h : c.isDigit) : isBlank c = false := by
  simp only [Char.isDigit, Bool.and_eq_true, decide_eq_true_eq, ge_iff_le, UInt32.le_iff_toNat_le]
    at h
  have h : 48 ≤ c.toNat ∧ c.toNat ≤ 57 := h
  simp only [isBlank]
  grind

theorem digits_ne_nil (n : Nat) : digits n ≠ [] := Nat.toDigits_ne_nil

theorem exists_digits_eq_cons (n : Nat) : ∃ c cs, digits n = c :: cs ∧ c.isDigit := by
  obtain ⟨c, cs, h⟩ := List.exists_cons_of_ne_nil (digits_ne_nil n)
  exact ⟨c, cs, h, isDigit_of_mem_digits (n := n) (h ▸ List.mem_cons_self)⟩

/-- No leading zero is written. -/
theorem head?_digits_ne {n : Nat} (h : 0 < n) : (digits n).head? ≠ some '0' := by
  induction n using Nat.strongRecOn with
  | ind n ih =>
    by_cases hn : n < 10
    · rw [digits, Nat.toDigits_of_lt_base hn]
      have hdigit : ∀ m < 10, 0 < m → Nat.digitChar m ≠ '0' := by decide
      simpa using hdigit n hn h
    · have hfront := ih (n / 10) (by omega) (by omega)
      obtain ⟨c, cs, hcs, -⟩ := exists_digits_eq_cons (n / 10)
      rw [hcs] at hfront
      rw [digits, Nat.toDigits_of_base_le (by omega) (by omega)]
      rw [digits] at hcs
      rw [hcs]
      exact hfront

/-- A text of at least one character, all of them decimal digits. -/
def isNumeral (cs : List Char) : Bool := !cs.isEmpty && cs.all Char.isDigit

theorem isNumeral_digits (n : Nat) : isNumeral (digits n) := by
  simp only [isNumeral, Bool.and_eq_true, Bool.not_eq_true', List.isEmpty_eq_false_iff,
    List.all_eq_true]
  exact ⟨digits_ne_nil n, fun c hc => isDigit_of_mem_digits hc⟩

/-- Text without one leading plus sign. -/
def dropPlus : List Char → List Char
  | '+' :: cs => cs
  | cs => cs

/-- The number below `bound` that a text denotes: digits, after at most one plus sign. -/
def parseBelow (bound : Nat) (cs : List Char) : Option Nat :=
  let ds := dropPlus cs
  if isNumeral ds && value ds < bound then some (value ds) else none

theorem parseBelow_lt {bound n : Nat} {cs : List Char} (h : parseBelow bound cs = some n) :
    n < bound := by
  simp only [parseBelow] at h
  split at h
  · next hc => simp_all
  · simp at h

theorem dropPlus_digits (n : Nat) : dropPlus (digits n) = digits n := by
  have h := digits_ne_nil n
  cases hd : digits n with
  | nil => exact absurd hd h
  | cons c cs =>
    have hc : c.isDigit := isDigit_of_mem_digits (n := n) (by simp [hd])
    unfold dropPlus
    split
    · next he =>
      simp only [List.cons.injEq] at he
      rw [he.1] at hc
      exact absurd hc (by decide)
    · rfl

theorem parseBelow_digits {bound n : Nat} (h : n < bound) :
    parseBelow bound (digits n) = some n := by
  simp [parseBelow, dropPlus_digits, isNumeral_digits, value_digits, h]

/-- A byte in decimal. -/
def parseByte (cs : List Char) : Option UInt8 := (parseBelow 256 cs).map UInt8.ofNat

/-- A number of 16 bits in decimal. -/
def parseUInt16 (cs : List Char) : Option UInt16 := (parseBelow 65536 cs).map UInt16.ofNat

theorem parseByte_digits (b : UInt8) : parseByte (digits b.toNat) = some b := by
  simp [parseByte, parseBelow_digits b.toNat_lt]

end Econet.Text
