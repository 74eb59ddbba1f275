import Econet.Ip
import Econet.Proofs.Text.Fields
import Mathlib.Data.List.Induction

/-!
# Numbers and IP addresses in texts

A number may be written in several ways, as a plus sign and leading zeros say nothing. The four
numbers of an IPv4 address may not, so that an address has one written form.

## Main definitions

* `IsNumber cs n`: the text `cs` says the number `n`

## Main results

* `parseBelow_eq_some_iff`, `parseByte_eq_some_iff`, `parseUInt16_eq_some_iff`: which numbers are
  read
* `digits_value`: digits without a leading zero are the written form of their number
* `digits_inj`, `digits_append_cons_inj`: a number is read off the text that it is written in
* `Ipv4.parse_eq_some_iff`: an address is read from its written form, and from nothing else
-/

namespace Econet

namespace Text

variable {cs ds : List Char} {c : Char} {n k bound : Nat}

/-! ### Numbers with a bound -/

/-- The text says the number: in decimal digits, after at most one plus sign. -/
inductive IsNumber : List Char → Nat → Prop where
  | plain {ds : List Char} (h : isNumeral ds = true) : IsNumber ds (value ds)
  | plus {ds : List Char} (h : isNumeral ds = true) : IsNumber ('+' :: ds) (value ds)

theorem dropPlus_of_isNumeral (h : isNumeral ds = true) : dropPlus ds = ds := by
  unfold dropPlus
  split
  · -- A plus sign is no digit.
    simp [isNumeral] at h
  · rfl

/-- **A number is read if it is below the bound**, however it is written. -/
theorem parseBelow_eq_some_iff : parseBelow bound cs = some n ↔ IsNumber cs n ∧ n < bound := by
  constructor
  · intro h
    have hread : (isNumeral (dropPlus cs) = true ∧ value (dropPlus cs) < bound) ∧
        value (dropPlus cs) = n := by
      simpa [parseBelow] using h
    obtain ⟨⟨hdigits, hlt⟩, rfl⟩ := hread
    refine ⟨?_, hlt⟩
    unfold dropPlus at hdigits ⊢
    split at hdigits
    · exact .plus hdigits
    · exact .plain hdigits
  · rintro ⟨hcs, hlt⟩
    cases hcs with
    | plain h => simp [parseBelow, dropPlus_of_isNumeral h, h, hlt]
    | plus h => simp [parseBelow, dropPlus, h, hlt]

theorem parseByte_eq_some_iff {b : UInt8} : parseByte cs = some b ↔ IsNumber cs b.toNat := by
  rw [parseByte, Option.map_eq_some_iff]
  constructor
  · rintro ⟨n, hn, rfl⟩
    obtain ⟨hcs, hlt⟩ := parseBelow_eq_some_iff.mp hn
    rwa [UInt8.toNat_ofNat', Nat.mod_eq_of_lt hlt]
  · intro h
    exact ⟨b.toNat, parseBelow_eq_some_iff.mpr ⟨h, b.toNat_lt⟩, UInt8.ofNat_toNat⟩

theorem parseUInt16_eq_some_iff {b : UInt16} : parseUInt16 cs = some b ↔ IsNumber cs b.toNat := by
  rw [parseUInt16, Option.map_eq_some_iff]
  constructor
  · rintro ⟨n, hn, rfl⟩
    obtain ⟨hcs, hlt⟩ := parseBelow_eq_some_iff.mp hn
    rwa [UInt16.toNat_ofNat', Nat.mod_eq_of_lt hlt]
  · intro h
    exact ⟨b.toNat, parseBelow_eq_some_iff.mpr ⟨h, b.toNat_lt⟩, UInt16.ofNat_toNat⟩

/-- No number holds a separator that is neither a digit nor a plus sign. -/
theorem IsNumber.ne_of_mem (h : IsNumber cs n) {d : Char} (hdigit : d.isDigit = false)
    (hplus : d ≠ '+') (hc : c ∈ cs) : c ≠ d := by
  have hmem (ds : List Char) (hds : isNumeral ds = true) (hc : c ∈ ds) : c ≠ d := by
    rintro rfl
    have hall : ∀ c ∈ ds, c.isDigit = true := List.all_eq_true.mp (Bool.and_eq_true_iff.mp hds).2
    cases hdigit.symm.trans (hall c hc)
  cases h with
  | plain hds => exact hmem _ hds hc
  | plus hds =>
    rcases List.mem_cons.mp hc with rfl | hc
    · exact hplus.symm
    · exact hmem _ hds hc

/-! ### Digits -/

theorem value_append_singleton (ds : List Char) (c : Char) :
    value (ds ++ [c]) = 10 * value ds + (c.toNat - 48) := by
  rw [value, Nat.ofDigitChars_append, Nat.ofDigitChars_cons]
  rfl

theorem toNat_of_isDigit (h : c.isDigit = true) : 48 ≤ c.toNat ∧ c.toNat ≤ 57 := by
  simp only [Char.isDigit, Bool.and_eq_true, decide_eq_true_eq, ge_iff_le, UInt32.le_iff_toNat_le]
    at h
  exact h

theorem digitChar_of_isDigit (h : c.isDigit = true) : Nat.digitChar (c.toNat - 48) = c := by
  obtain ⟨hge, hle⟩ := toNat_of_isDigit h
  rw [← Char.toNat_inj, Nat.toNat_digitChar_of_lt_ten (by omega)]
  omega

theorem digits_of_lt (h : k < 10) : digits k = [Nat.digitChar k] :=
  Nat.toDigits_of_lt_base h

theorem digits_mul_add (hn : 0 < n) (hk : k < 10) :
    digits (10 * n + k) = digits n ++ [Nat.digitChar k] := by
  have hdiv : (10 * n + k) / 10 = n := by omega
  have hmod : (10 * n + k) % 10 = k := by omega
  rw [digits, Nat.toDigits_of_base_le (by omega) (by omega), hdiv, hmod]
  rfl

/-- **Digits without a leading zero are the written form of their number.** -/
theorem digits_value (h : isNumeral ds = true) (hzero : ds.length = 1 ∨ ds.head? ≠ some '0') :
    digits (value ds) = ds := by
  obtain ⟨hne, hall⟩ : ds ≠ [] ∧ ∀ c ∈ ds, c.isDigit = true := by simpa [isNumeral] using h
  clear h
  -- Digit by digit from the front, where a first digit other than zero keeps the value positive.
  induction ds using List.reverseRecOn with
  | nil => exact absurd rfl hne
  | append_singleton ds c ih =>
    have hc : c.isDigit = true := hall c (by simp)
    have hlt : c.toNat - 48 < 10 := by
      have hle := (toNat_of_isDigit hc).2
      omega
    cases ds with
    | nil =>
      have hvalue : value [c] = c.toNat - 48 := by
        rw [← List.nil_append [c], value_append_singleton]
        simp [value]
      rw [List.nil_append, hvalue, digits_of_lt hlt, digitChar_of_isDigit hc]
    | cons d ds =>
      have hd : d ≠ '0' := by simpa using hzero
      have hfront : digits (value (d :: ds)) = d :: ds :=
        ih (.inr (by simpa using hd)) (List.cons_ne_nil d ds) fun e he =>
          hall e (List.mem_append_left _ he)
      have hpos : 0 < value (d :: ds) := by
        by_contra hnot
        rw [Nat.eq_zero_of_not_pos hnot] at hfront
        exact hd (List.cons_eq_cons.mp hfront).1.symm
      rw [value_append_singleton, digits_mul_add hpos hlt, hfront, digitChar_of_isDigit hc]

/-! ### Written numbers apart -/

variable {m : Nat} {s t : List Char}

theorem digits_inj (h : digits m = digits n) : m = n := by
  rw [← value_digits m, h, value_digits]

/-- A number is read off the front of a text up to a character that is no digit. -/
theorem digits_append_cons_inj (hc : c.isDigit = false)
    (h : digits m ++ c :: s = digits n ++ c :: t) : m = n ∧ s = t := by
  have hsplit (k : Nat) (u : List Char) :
      splitOnce (· == c) (digits k ++ c :: u) = some (digits k, u) := by
    refine splitOnce_append (fun d hd => ?_) (beq_self_eq_true c)
    rw [beq_eq_false_iff_ne]
    rintro rfl
    cases hc.symm.trans (isDigit_of_mem_digits hd)
  have hparts := (hsplit m s).symm.trans ((congrArg _ h).trans (hsplit n t))
  simp only [Option.some.injEq, Prod.mk.injEq] at hparts
  exact ⟨digits_inj hparts.1, hparts.2⟩

theorem digits_ne_append_cons (hc : c.isDigit = false) : digits m ≠ digits n ++ c :: t := by
  intro h
  have hmem : c ∈ digits m := by simp [h]
  cases hc.symm.trans (isDigit_of_mem_digits hmem)

end Text

/-! ### IPv4 addresses -/

namespace Ipv4

open Text (digits pieces value isNumeral)

variable {cs : List Char} {ip : Ipv4} {n : Nat}

theorem octet?_eq_some_iff : octet? cs = some n ↔ n < 256 ∧ cs = digits n := by
  constructor
  · intro h
    have hread : ((isNumeral cs = true ∧ (cs.length = 1 ∨ cs.head? ≠ some '0')) ∧
        value cs < 256) ∧ value cs = n := by
      simpa [octet?] using h
    obtain ⟨⟨⟨hdigits, hzero⟩, hlt⟩, rfl⟩ := hread
    exact ⟨hlt, (Text.digits_value hdigits hzero).symm⟩
  · rintro ⟨hlt, rfl⟩
    have hzero : (digits n).length = 1 ∨ (digits n).head? ≠ some '0' := by
      rcases Nat.eq_zero_or_pos n with rfl | hn
      · exact .inl rfl
      · exact .inr (Text.head?_digits_ne hn)
    simp [octet?, Text.isNumeral_digits, Text.value_digits, hlt, hzero]

/-- The address of four numbers. -/
theorem chars_ofNat {a b c d : Nat} (ha : a < 256) (hb : b < 256) (hc : c < 256) (hd : d < 256) :
    (ofNat (((a * 256 + b) * 256 + c) * 256 + d)).chars =
      digits a ++ '.' :: (digits b ++ '.' :: (digits c ++ '.' :: digits d)) := by
  have hnumber : (ofNat (((a * 256 + b) * 256 + c) * 256 + d)).toNat =
      ((a * 256 + b) * 256 + c) * 256 + d := Nat.mod_eq_of_lt (by omega)
  have ha' : (((a * 256 + b) * 256 + c) * 256 + d) / 16777216 = a := by omega
  have hb' : (((a * 256 + b) * 256 + c) * 256 + d) / 65536 % 256 = b := by omega
  have hc' : (((a * 256 + b) * 256 + c) * 256 + d) / 256 % 256 = c := by omega
  have hd' : (((a * 256 + b) * 256 + c) * 256 + d) % 256 = d := by omega
  rw [chars, hnumber, ha', hb', hc', hd']
  simp

theorem beq_dot_of_mem_digits {c : Char} (h : c ∈ digits n) : (c == '.') = false := by
  rw [beq_eq_false_iff_ne]
  rintro rfl
  exact absurd (Text.isDigit_of_mem_digits h) (by decide)

/-- A text of four numbers with points between them. -/
theorem pieces_dots (a b c d : Nat) :
    pieces (· == '.') (digits a ++ '.' :: (digits b ++ '.' :: (digits c ++ '.' :: digits d))) =
      [digits a, digits b, digits c, digits d] := by
  have hdot : ('.' == '.') = true := rfl
  rw [Text.pieces_append_cons (fun _ => beq_dot_of_mem_digits) hdot,
    Text.pieces_append_cons (fun _ => beq_dot_of_mem_digits) hdot,
    Text.pieces_append_cons (fun _ => beq_dot_of_mem_digits) hdot,
    Text.pieces_of_forall fun _ => beq_dot_of_mem_digits]

/-- A text that is cut at a point into a piece and others. -/
theorem eq_append_dot {w w' : List Char} {ws : List (List Char)}
    (h : pieces (· == '.') cs = w :: w' :: ws) :
    ∃ rest, cs = w ++ '.' :: rest ∧ pieces (· == '.') rest = w' :: ws := by
  obtain ⟨-, ⟨-, hnil⟩ | ⟨c, rest, hc, rfl, hrest⟩⟩ := Text.pieces_eq_cons_iff.mp h
  · cases hnil
  · rw [beq_iff_eq] at hc
    subst hc
    exact ⟨rest, rfl, hrest⟩

/-- **An address is read from its written form**, and from nothing else. -/
theorem parse_eq_some_iff : parse cs = some ip ↔ cs = ip.chars := by
  constructor
  · intro h
    unfold parse at h
    split at h
    · next a b c d hpieces =>
      obtain ⟨k, hk, h⟩ := Option.bind_eq_some_iff.mp h
      obtain ⟨l, hl, h⟩ := Option.bind_eq_some_iff.mp h
      obtain ⟨m, hm, h⟩ := Option.bind_eq_some_iff.mp h
      obtain ⟨n, hn, h⟩ := Option.bind_eq_some_iff.mp h
      cases h
      obtain ⟨hklt, rfl⟩ := octet?_eq_some_iff.mp hk
      obtain ⟨hllt, rfl⟩ := octet?_eq_some_iff.mp hl
      obtain ⟨hmlt, rfl⟩ := octet?_eq_some_iff.mp hm
      obtain ⟨hnlt, rfl⟩ := octet?_eq_some_iff.mp hn
      -- The text is put together again from its pieces.
      obtain ⟨rest, hcs, hthree⟩ := eq_append_dot hpieces
      obtain ⟨rest, rfl, htwo⟩ := eq_append_dot hthree
      obtain ⟨rest, rfl, hone⟩ := eq_append_dot htwo
      obtain ⟨-, ⟨rfl, -⟩ | ⟨_, _, _, -, hmore⟩⟩ := Text.pieces_eq_cons_iff.mp hone
      · rw [hcs, chars_ofNat hklt hllt hmlt hnlt]
      · exact absurd hmore (Text.pieces_ne_nil _ _)
    · cases h
  · rintro rfl
    obtain ⟨n, hn⟩ := ip
    have hnumber : (((n / 16777216 * 256 + n / 65536 % 256) * 256 + n / 256 % 256) * 256 +
        n % 256) % 4294967296 = n := by omega
    have hchars : (mk n hn).chars = digits (n / 16777216) ++ '.' :: (digits (n / 65536 % 256) ++
        '.' :: (digits (n / 256 % 256) ++ '.' :: digits (n % 256))) := by
      simp [chars]
    have hoctet (m : Nat) (hm : m < 256) : octet? (digits m) = some m :=
      octet?_eq_some_iff.mpr ⟨hm, rfl⟩
    rw [parse, hchars, pieces_dots]
    simp only [hoctet (n / 16777216) (by omega), hoctet (n / 65536 % 256) (by omega),
      hoctet (n / 256 % 256) (by omega), hoctet (n % 256) (by omega), Option.bind_eq_bind,
      Option.bind_some, ofNat, hnumber]

/-- An address is written with digits and points. -/
theorem ne_of_mem_chars {c d : Char} (hc : c ∈ ip.chars) (hdigit : d.isDigit = false)
    (hdot : d ≠ '.') : c ≠ d := by
  have hdigits (n : Nat) (hc : c ∈ digits n) : c ≠ d := by
    rintro rfl
    cases hdigit.symm.trans (Text.isDigit_of_mem_digits hc)
  simp only [chars, List.append_assoc, List.cons_append, List.mem_append, List.mem_cons] at hc
  rcases hc with hc | rfl | hc | rfl | hc | rfl | hc
  · exact hdigits _ hc
  · exact hdot.symm
  · exact hdigits _ hc
  · exact hdot.symm
  · exact hdigits _ hc
  · exact hdot.symm
  · exact hdigits _ hc

end Ipv4

end Econet
