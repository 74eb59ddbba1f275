import Econet.Base64
import Econet.Text.Blank

/-!
# Bytes through base 64

What is written in base 64 reads as the same bytes, for every length: whole groups as well as the
two kinds of last group that are filled up. Nothing else is read, so that bytes have one written
form. No blank is written, so that a reader which drops outer blanks drops nothing.

## Main results

* `decodeOne_digits`, `decodeTwo_digits`, `decodeThree_digits`: the three kinds of groups
* `decode_encode`: written bytes read as themselves
* `decodeOne_eq_some`, `decodeTwo_eq_some`, `decodeThree_eq_some`: no other groups are read
* `decode_eq_some_iff`: bytes are read from their written form, and from nothing else
* `trim_encode`: nothing of a written text is an outer blank
-/

namespace Econet.Base64

open Text (isBlank trim)

/-! ### Groups -/

theorem byte_eq {n : Nat} {a : UInt8} (h : n = a.toNat) : byte n = a := by
  rw [h, byte, UInt8.ofNat_toNat]

/-- The last group of one byte. -/
theorem decodeOne_digits (a : UInt8) :
    decodeOne (digit (a.toNat / 4)) (digit (a.toNat % 4 * 16)) = some [a] := by
  have ha := a.toNat_lt
  have hx : digitValue? (digit (a.toNat / 4)) = some (a.toNat / 4) :=
    digitValue?_digit (by omega)
  have hy : digitValue? (digit (a.toNat % 4 * 16)) = some (a.toNat % 4 * 16) :=
    digitValue?_digit (by omega)
  have hrest : a.toNat % 4 * 16 % 16 = 0 := by omega
  have hbyte : byte (a.toNat / 4 * 4 + a.toNat % 4 * 16 / 16) = a := byte_eq (by omega)
  simp only [decodeOne, hx, hy, Option.bind_eq_bind, Option.bind_some, hrest, if_true, hbyte]

/-- The last group of two bytes. -/
theorem decodeTwo_digits (a b : UInt8) :
    decodeTwo (digit (a.toNat / 4)) (digit (a.toNat % 4 * 16 + b.toNat / 16))
      (digit (b.toNat % 16 * 4)) = some [a, b] := by
  have ha := a.toNat_lt
  have hb := b.toNat_lt
  have hx : digitValue? (digit (a.toNat / 4)) = some (a.toNat / 4) :=
    digitValue?_digit (by omega)
  have hy : digitValue? (digit (a.toNat % 4 * 16 + b.toNat / 16)) =
      some (a.toNat % 4 * 16 + b.toNat / 16) := digitValue?_digit (by omega)
  have hz : digitValue? (digit (b.toNat % 16 * 4)) = some (b.toNat % 16 * 4) :=
    digitValue?_digit (by omega)
  have hrest : b.toNat % 16 * 4 % 4 = 0 := by omega
  have hfirst : byte (a.toNat / 4 * 4 + (a.toNat % 4 * 16 + b.toNat / 16) / 16) = a :=
    byte_eq (by omega)
  have hsecond :
      byte ((a.toNat % 4 * 16 + b.toNat / 16) % 16 * 16 + b.toNat % 16 * 4 / 4) = b :=
    byte_eq (by omega)
  simp only [decodeTwo, hx, hy, hz, Option.bind_eq_bind, Option.bind_some, hrest, if_true, hfirst,
    hsecond]

/-- A whole group. -/
theorem decodeThree_digits (a b c : UInt8) :
    decodeThree (digit (a.toNat / 4)) (digit (a.toNat % 4 * 16 + b.toNat / 16))
      (digit (b.toNat % 16 * 4 + c.toNat / 64)) (digit (c.toNat % 64)) = some [a, b, c] := by
  have ha := a.toNat_lt
  have hb := b.toNat_lt
  have hc := c.toNat_lt
  have hx : digitValue? (digit (a.toNat / 4)) = some (a.toNat / 4) :=
    digitValue?_digit (by omega)
  have hy : digitValue? (digit (a.toNat % 4 * 16 + b.toNat / 16)) =
      some (a.toNat % 4 * 16 + b.toNat / 16) := digitValue?_digit (by omega)
  have hz : digitValue? (digit (b.toNat % 16 * 4 + c.toNat / 64)) =
      some (b.toNat % 16 * 4 + c.toNat / 64) := digitValue?_digit (by omega)
  have hw : digitValue? (digit (c.toNat % 64)) = some (c.toNat % 64) :=
    digitValue?_digit (by omega)
  have hfirst : byte (a.toNat / 4 * 4 + (a.toNat % 4 * 16 + b.toNat / 16) / 16) = a :=
    byte_eq (by omega)
  have hsecond : byte ((a.toNat % 4 * 16 + b.toNat / 16) % 16 * 16 +
      (b.toNat % 16 * 4 + c.toNat / 64) / 4) = b := byte_eq (by omega)
  have hthird : byte ((b.toNat % 16 * 4 + c.toNat / 64) % 4 * 64 + c.toNat % 64) = c :=
    byte_eq (by omega)
  simp only [decodeThree, hx, hy, hz, hw, Option.bind_eq_bind, Option.bind_some, hfirst, hsecond,
    hthird]

/-! ### Whole texts -/

/-- **Written bytes read as themselves.** -/
theorem decode_encode (bytes : List UInt8) : decode (encode bytes) = some bytes := by
  fun_induction encode bytes with
  | case1 => rfl
  | case2 a => simp [decode, decodeOne_digits]
  | case3 a b =>
    have hpad : digit (b.toNat % 16 * 4) ≠ '=' := digit_ne_pad (by omega)
    simp [decode, hpad, decodeTwo_digits]
  | case4 a b c rest ih =>
    -- The fourth digit is no padding, so that the group is not taken for the last one.
    have hpad : digit (c.toNat % 64) ≠ '=' := digit_ne_pad (by omega)
    simp [decode, hpad, decodeThree_digits, ih]

/-! ### What is read -/

theorem toNat_byte {n : Nat} (h : n < 256) : (byte n).toNat = n :=
  UInt8.toNat_ofNat_of_lt' h

theorem decodeOne_eq_some {a b : Char} {bytes : List UInt8} (h : decodeOne a b = some bytes) :
    ∃ r, bytes = [r] ∧ encode [r] = [a, b, '=', '='] := by
  obtain ⟨x, hx, h⟩ := Option.bind_eq_some_iff.mp h
  obtain ⟨y, hy, h⟩ := Option.bind_eq_some_iff.mp h
  have hxlt := digitValue?_lt hx
  have hylt := digitValue?_lt hy
  split at h
  · next hrest =>
    cases h
    have hr : (byte (x * 4 + y / 16)).toNat = x * 4 + y / 16 := toNat_byte (by omega)
    have hfirst : (x * 4 + y / 16) / 4 = x := by omega
    have hsecond : (x * 4 + y / 16) % 4 * 16 = y := by omega
    refine ⟨_, rfl, ?_⟩
    rw [encode, hr, hfirst, hsecond, digit_of_digitValue? hx, digit_of_digitValue? hy]
  · cases h

theorem decodeTwo_eq_some {a b c : Char} {bytes : List UInt8}
    (h : decodeTwo a b c = some bytes) :
    ∃ r s, bytes = [r, s] ∧ encode [r, s] = [a, b, c, '='] := by
  obtain ⟨x, hx, h⟩ := Option.bind_eq_some_iff.mp h
  obtain ⟨y, hy, h⟩ := Option.bind_eq_some_iff.mp h
  obtain ⟨z, hz, h⟩ := Option.bind_eq_some_iff.mp h
  have hxlt := digitValue?_lt hx
  have hylt := digitValue?_lt hy
  have hzlt := digitValue?_lt hz
  split at h
  · next hrest =>
    cases h
    have hr : (byte (x * 4 + y / 16)).toNat = x * 4 + y / 16 := toNat_byte (by omega)
    have hs : (byte (y % 16 * 16 + z / 4)).toNat = y % 16 * 16 + z / 4 := toNat_byte (by omega)
    have hfirst : (x * 4 + y / 16) / 4 = x := by omega
    have hsecond : (x * 4 + y / 16) % 4 * 16 + (y % 16 * 16 + z / 4) / 16 = y := by omega
    have hthird : (y % 16 * 16 + z / 4) % 16 * 4 = z := by omega
    refine ⟨_, _, rfl, ?_⟩
    rw [encode, hr, hs, hfirst, hsecond, hthird, digit_of_digitValue? hx, digit_of_digitValue? hy,
      digit_of_digitValue? hz]
  · cases h

theorem decodeThree_eq_some {a b c d : Char} {bytes : List UInt8}
    (h : decodeThree a b c d = some bytes) :
    ∃ r s t, bytes = [r, s, t] ∧
      ∀ rest, encode (r :: s :: t :: rest) = a :: b :: c :: d :: encode rest := by
  obtain ⟨x, hx, h⟩ := Option.bind_eq_some_iff.mp h
  obtain ⟨y, hy, h⟩ := Option.bind_eq_some_iff.mp h
  obtain ⟨z, hz, h⟩ := Option.bind_eq_some_iff.mp h
  obtain ⟨w, hw, h⟩ := Option.bind_eq_some_iff.mp h
  cases h
  have hxlt := digitValue?_lt hx
  have hylt := digitValue?_lt hy
  have hzlt := digitValue?_lt hz
  have hwlt := digitValue?_lt hw
  have hr : (byte (x * 4 + y / 16)).toNat = x * 4 + y / 16 := toNat_byte (by omega)
  have hs : (byte (y % 16 * 16 + z / 4)).toNat = y % 16 * 16 + z / 4 := toNat_byte (by omega)
  have ht : (byte (z % 4 * 64 + w)).toNat = z % 4 * 64 + w := toNat_byte (by omega)
  have hfirst : (x * 4 + y / 16) / 4 = x := by omega
  have hsecond : (x * 4 + y / 16) % 4 * 16 + (y % 16 * 16 + z / 4) / 16 = y := by omega
  have hthird : (y % 16 * 16 + z / 4) % 16 * 4 + (z % 4 * 64 + w) / 64 = z := by omega
  have hfourth : (z % 4 * 64 + w) % 64 = w := by omega
  refine ⟨_, _, _, rfl, fun rest => ?_⟩
  rw [encode, hr, hs, ht, hfirst, hsecond, hthird, hfourth, digit_of_digitValue? hx,
    digit_of_digitValue? hy, digit_of_digitValue? hz, digit_of_digitValue? hw]

/-- What is read is written as it was. -/
theorem encode_of_decode {cs : List Char} {bytes : List UInt8} (h : decode cs = some bytes) :
    encode bytes = cs := by
  fun_induction decode cs generalizing bytes with
  | case1 =>
    cases h
    rfl
  | case2 a b d rest hlast =>
    obtain ⟨rfl, rfl⟩ := hlast
    obtain ⟨r, rfl, hr⟩ := decodeOne_eq_some h
    exact hr
  | case3 a b c d rest hlast hc =>
    obtain ⟨rfl, rfl⟩ := hlast
    obtain ⟨r, s, rfl, hrs⟩ := decodeTwo_eq_some h
    exact hrs
  | case4 a b c d rest hlast ih =>
    obtain ⟨group, hgroup, h⟩ := Option.bind_eq_some_iff.mp h
    obtain ⟨others, hothers, h⟩ := Option.bind_eq_some_iff.mp h
    cases h
    obtain ⟨r, s, t, rfl, hrst⟩ := decodeThree_eq_some hgroup
    rw [List.cons_append, List.cons_append, List.cons_append, List.nil_append, hrst,
      ih hothers]
  | case5 => cases h

/-- **Bytes are read from their written form, and from nothing else.** -/
theorem decode_eq_some_iff {cs : List Char} {bytes : List UInt8} :
    decode cs = some bytes ↔ cs = encode bytes := by
  constructor
  · intro h
    exact (encode_of_decode h).symm
  · rintro rfl
    exact decode_encode bytes

theorem encode_inj {bytes bytes' : List UInt8} :
    encode bytes = encode bytes' ↔ bytes = bytes' := by
  constructor
  · intro h
    have hread := decode_encode bytes
    rw [h, decode_encode] at hread
    exact (Option.some.inj hread).symm
  · exact congrArg encode

/-! ### Blanks -/

theorem isBlank_digit : ∀ {n : Nat}, n < 64 → isBlank (digit n) = false := by decide

theorem isBlank_of_mem_encode {bytes : List UInt8} {x : Char} (h : x ∈ encode bytes) :
    isBlank x = false := by
  have hpad : isBlank '=' = false := by decide
  fun_induction encode bytes with
  | case1 => cases h
  -- One or two bytes at the end are filled up with padding.
  | case2 a =>
    have ha := a.toNat_lt
    simp only [List.mem_cons, List.not_mem_nil, or_false] at h
    rcases h with rfl | rfl | rfl | rfl
    · exact isBlank_digit (by omega)
    · exact isBlank_digit (by omega)
    · exact hpad
    · exact hpad
  | case3 a b =>
    have ha := a.toNat_lt
    have hb := b.toNat_lt
    simp only [List.mem_cons, List.not_mem_nil, or_false] at h
    rcases h with rfl | rfl | rfl | rfl
    · exact isBlank_digit (by omega)
    · exact isBlank_digit (by omega)
    · exact isBlank_digit (by omega)
    · exact hpad
  | case4 a b c rest ih =>
    have ha := a.toNat_lt
    have hb := b.toNat_lt
    have hc := c.toNat_lt
    simp only [List.mem_cons] at h
    rcases h with rfl | rfl | rfl | rfl | h
    · exact isBlank_digit (by omega)
    · exact isBlank_digit (by omega)
    · exact isBlank_digit (by omega)
    · exact isBlank_digit (by omega)
    · exact ih h

theorem trim_encode (bytes : List UInt8) : trim (encode bytes) = encode bytes :=
  Text.trim_eq_self fun _ hx => isBlank_of_mem_encode hx

end Econet.Base64
