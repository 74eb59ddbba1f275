import Econet.Json.Parser
import Econet.Json.Printer

/-!
# Written strings and integers

Strings and integers are read from the front of a text. What is written reads as itself: a string
up to its closing quote, whatever its characters, and an integer in front of whatever may end an
item of an array or a member of an object.

## Main definitions

* `Ends rest`: the text is at its end, or goes on with what ends an item

## Main results

* `readString_flatMap_escape`: every string reads as itself
* `readNumber_text`: so does every integer of 64 bits
-/

namespace Econet.Json

open Text (digits hexPadded hexNumber?)

/-! ### Strings -/

/-- The four digits of a control character. -/
theorem hexPadded_control : ∀ {n : Nat}, n < 0x20 →
    hexPadded 4 n = ['0', '0', Nat.digitChar (n / 16), Nat.digitChar (n % 16)] ∧
      hexNumber? ['0', '0', Nat.digitChar (n / 16), Nat.digitChar (n % 16)] = some n := by
  decide

theorem readString_letter {letter c : Char} (hu : letter ≠ 'u') (h : unescape? letter = some c)
    (rest : List Char) :
    readString ('\\' :: letter :: rest) = (readString rest).map fun r => (c :: r.1, r.2) := by
  rw [readString.eq_4 letter rest fun _ _ _ _ _ hl _ => hu hl, h]

theorem readString_control {c : Char} (h : c.toNat < 0x20) (rest : List Char) :
    readString ('\\' :: 'u' :: (hexPadded 4 c.toNat ++ rest)) =
      (readString rest).map fun r => (c :: r.1, r.2) := by
  obtain ⟨hpadded, hnumber⟩ := hexPadded_control h
  -- The number is below those of surrogates.
  have hhigh : isHighSurrogate c.toNat = false := by
    simp only [isHighSurrogate, Bool.and_eq_false_iff, decide_eq_false_iff_not]
    omega
  have hlow : isLowSurrogate c.toNat = false := by
    simp only [isLowSurrogate, Bool.and_eq_false_iff, decide_eq_false_iff_not]
    omega
  have hc : Char.ofNat c.toNat = c := Char.ofNat_toNat c
  rw [hpadded]
  simp [readString, hnumber, hhigh, hlow, hc]

theorem readString_plain {c : Char} (hquote : c ≠ '"') (hbackslash : c ≠ '\\')
    (hcontrol : ¬ c.toNat < 0x20) (rest : List Char) :
    readString (c :: rest) = (readString rest).map fun r => (c :: r.1, r.2) := by
  rw [readString.eq_def]
  split
  · next h => cases h
  · next h => exact absurd (List.cons.inj h).1 hquote
  · next h => exact absurd (List.cons.inj h).1 hbackslash
  · next h => exact absurd (List.cons.inj h).1 hbackslash
  · next d tail _ _ _ h =>
    obtain ⟨rfl, rfl⟩ := List.cons.inj h
    simp [hcontrol, hbackslash]

/-- A written character reads as itself. -/
theorem readString_escape (c : Char) (rest : List Char) :
    readString (escape c ++ rest) = (readString rest).map fun r => (c :: r.1, r.2) := by
  have hletter {n : Nat} {letter : Char} (hn : c.toNat = n) (hu : letter ≠ 'u')
      (h : unescape? letter = some (Char.ofNat n)) :
      readString ('\\' :: letter :: rest) = (readString rest).map fun r => (c :: r.1, r.2) := by
    rw [← hn, Char.ofNat_toNat] at h
    exact readString_letter hu h rest
  unfold escape
  split
  · next h => exact readString_letter (by decide) (by rw [h]; rfl) rest
  · next hquote =>
    split
    · next h => exact readString_letter (by decide) (by rw [h]; rfl) rest
    · next hbackslash =>
      split
      · next hcontrol =>
        -- The characters that a letter stands for, and those that are written as a number.
        split
        · next h => exact hletter h (by decide) rfl
        split
        · next h => exact hletter h (by decide) rfl
        split
        · next h => exact hletter h (by decide) rfl
        split
        · next h => exact hletter h (by decide) rfl
        split
        · next h => exact hletter h (by decide) rfl
        · exact readString_control hcontrol rest
      · next hcontrol => exact readString_plain hquote hbackslash hcontrol rest

/-- **Every string reads as itself**, up to its closing quote. -/
theorem readString_flatMap_escape (cs rest : List Char) :
    readString (cs.flatMap escape ++ '"' :: rest) = some (cs, rest) := by
  induction cs with
  | nil => simp [readString]
  | cons c cs ih =>
    rw [List.flatMap_cons, List.append_assoc, readString_escape, ih, Option.map_some]

/-! ### What ends an item -/

/-- The text is at its end, or goes on with a comma or a closing bracket. -/
def Ends (rest : List Char) : Prop := ∀ c ∈ rest.head?, c = ',' ∨ c = ']' ∨ c = '\x7d'

theorem ends_cons {c : Char} (h : c = ',' ∨ c = ']' ∨ c = '\x7d') (rest : List Char) :
    Ends (c :: rest) := by
  simpa [Ends] using h

variable {rest : List Char}

/-! ### Numbers -/

/-- The number is an integer of 64 bits. -/
def Number.isInteger : Number → Bool
  | .natural _ | .negative _ => true
  | .float _ _ => false

theorem Ends.spanDigits (h : Ends rest) {ds : List Char} (hds : ∀ c ∈ ds, c.isDigit) :
    spanDigits (ds ++ rest) = (ds, rest) := by
  have hrest : rest.takeWhile Char.isDigit = [] ∧ rest.dropWhile Char.isDigit = rest := by
    cases rest with
    | nil => exact ⟨rfl, rfl⟩
    | cons c cs =>
      have hc : c.isDigit = false := by
        rcases h c rfl with rfl | rfl | rfl <;> rfl
      simp [hc]
  rw [Json.spanDigits, List.takeWhile_append_of_pos hds, List.dropWhile_append_of_pos hds, hrest.1,
    hrest.2, List.append_nil]

theorem le_ofDigitChars (ds : List Char) (n : Nat) : n ≤ Nat.ofDigitChars 10 ds n := by
  rw [Nat.ofDigitChars_eq_ofDigitChars_zero]
  have hpow : n ≤ 10 ^ ds.length * n := Nat.le_mul_of_pos_left n (Nat.pow_pos (by decide))
  omega

/-- The digits of a number that fits in 64 bits are all taken in. -/
theorem absorb_eq {ds : List Char} {n : Nat} (h : Nat.ofDigitChars 10 ds n ≤ maxUInt64) :
    absorb n ds = (Nat.ofDigitChars 10 ds n, ds.length) := by
  induction ds generalizing n with
  | nil => simp [absorb]
  | cons c ds ih =>
    rw [Nat.ofDigitChars_cons] at h
    have hfits : 10 * n + (c.toNat - 48) ≤ maxUInt64 := Nat.le_trans (le_ofDigitChars ds _) h
    have hrest := ih h
    simp only [absorb, hfits, if_true, Nat.ofDigitChars_cons, List.length_cons]
    exact congrArg (fun r : Nat × Nat => (r.1, r.2 + 1)) hrest

theorem absorb_digits {n : Nat} (h : n ≤ maxUInt64) :
    absorb 0 (digits n) = (n, (digits n).length) := by
  have hvalue : Nat.ofDigitChars 10 (digits n) 0 = n := Text.value_digits n
  rw [absorb_eq (by rw [hvalue]; exact h), hvalue]

theorem integer?_natural (n : UInt64) : integer? false (digits n.toNat) = some (.natural n) := by
  have hn : n.toNat ≤ maxUInt64 := Nat.le_of_lt_succ n.toNat_lt
  simp [integer?, absorb_digits hn]

theorem integer?_negative (n : Fin 9223372036854775808) :
    integer? true (digits (n.val + 1)) = some (.negative n) := by
  have hn : n.val + 1 ≤ maxUInt64 := by
    have := n.isLt
    simp only [maxUInt64]
    omega
  have hbound : 0 < n.val + 1 ∧ n.val + 1 ≤ 9223372036854775808 := ⟨by omega, n.isLt⟩
  simp [integer?, absorb_digits hn, hbound]

/-- Digits that end where an item does are those of an integer. -/
theorem Ends.readUnsigned (h : Ends rest) (isNegative : Bool) (n : Nat) :
    readUnsigned isNegative (digits n ++ rest) =
      (integer? isNegative (digits n)).map fun x => (x, rest) := by
  have hdigits : ∀ c ∈ digits n, c.isDigit := fun c hc => Text.isDigit_of_mem_digits hc
  have hspan := h.spanDigits hdigits
  have hzero : ¬ ((digits n).head? = some '0' ∧ (digits n).length ≠ 1) := by
    rintro ⟨hhead, hlength⟩
    rcases Nat.eq_zero_or_pos n with rfl | hn
    · exact hlength rfl
    · exact Text.head?_digits_ne hn hhead
  have hlead :
      (digits n = [] || ((digits n).head? = some '0' && (digits n).length ≠ 1)) = false := by
    simpa [Text.digits_ne_nil] using hzero
  simp only [Json.readUnsigned, hspan, hlead]
  cases rest with
  | nil => rfl
  | cons c cs => rcases h c rfl with rfl | rfl | rfl <;> rfl

/-- **Every integer reads as itself.** -/
theorem readNumber_text {n : Number} (hn : n.isInteger) (h : Ends rest) :
    readNumber (n.text ++ rest) = some (n, rest) := by
  cases n with
  | natural n =>
    have hsign : readNumber (digits n.toNat ++ rest) =
        readUnsigned false (digits n.toNat ++ rest) := by
      obtain ⟨c, cs, hcs, hdigit⟩ := Text.exists_digits_eq_cons n.toNat
      rw [hcs, List.cons_append, readNumber]
      rintro tail ⟨⟩
      exact absurd hdigit (by decide)
    rw [Number.text, hsign, h.readUnsigned, integer?_natural, Option.map_some]
  | negative n =>
    show readUnsigned true (digits (n.val + 1) ++ rest) = _
    rw [h.readUnsigned, integer?_negative, Option.map_some]
  | float isNegative x => cases hn

end Econet.Json
