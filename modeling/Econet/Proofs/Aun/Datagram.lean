import Econet.Aun.Frame

/-!
# Datagrams and frames

Eight bytes of header are all that a datagram needs, and the first of them has to be the code of a
type. Such datagrams and frames correspond one to one: no byte is lost or moved, the padding and
the bytes of the sequence number included.

## Main results

* `Header.exists_parse_iff`: which bytes begin with a header
* `Aun.Frame.decode_eq_ok_iff`: datagrams and frames correspond
* `Aun.Frame.decode_encode_bijective`: which datagrams are frames, and where each field stands
-/

namespace Econet

namespace PacketType

theorem exists_ofCode?_iff (n : UInt8) : (∃ t, ofCode? n = some t) ↔ 1 ≤ n ∧ n ≤ 6 := by
  constructor
  · rintro ⟨t, ht⟩
    obtain rfl := code_of_ofCode? ht
    cases t <;> decide
  · rintro ⟨hlow, hhigh⟩
    have h : n = 1 ∨ n = 2 ∨ n = 3 ∨ n = 4 ∨ n = 5 ∨ n = 6 := by grind
    rcases h with rfl | rfl | rfl | rfl | rfl | rfl <;> exact ⟨_, rfl⟩

end PacketType

namespace Header

/-- Which bytes begin with a header: eight or more, of which the first is the code of a type. -/
theorem exists_parse_iff (raw : List UInt8) :
    (∃ r, parse raw = .ok r) ↔ 8 ≤ raw.length ∧ ∃ n ∈ raw.head?, 1 ≤ n ∧ n ≤ 6 := by
  unfold parse
  split
  · next n port control pad a b c d data =>
    have hlength : 8 ≤ (n :: port :: control :: pad :: a :: b :: c :: d :: data).length := by
      simp
    rw [List.head?_cons]
    simp only [hlength, Option.mem_some, exists_eq_left', true_and]
    rw [← PacketType.exists_ofCode?_iff]
    cases PacketType.ofCode? n with
    | none => simp
    | some t => simp
  · next hraw =>
    refine iff_of_false (by simp) ?_
    rintro ⟨hlength, -⟩
    -- Eight bytes would have matched the first case.
    match raw, hlength with
    | n :: port :: control :: pad :: a :: b :: c :: d :: data, _ => exact hraw _ _ _ _ _ _ _ _ _ rfl

theorem toNat_sequenceOf (a b c d : UInt8) :
    (sequenceOf a b c d).toNat =
      a.toNat + 256 * b.toNat + 65536 * c.toNat + 16777216 * d.toNat := by
  have ha := a.toNat_lt
  have hb := b.toNat_lt
  have hc := c.toNat_lt
  have hd := d.toNat_lt
  rw [sequenceOf, UInt32.toNat_ofNat', Nat.mod_eq_of_lt (by omega)]

end Header

namespace Aun.Frame

/-- Datagrams and frames correspond. -/
theorem decode_eq_ok_iff {raw : List UInt8} {f : Frame} : decode raw = .ok f ↔ raw = f.encode := by
  constructor
  · intro h
    exact (encode_of_decode h).symm
  · rintro rfl
    exact decode_encode f

theorem exists_decode_iff (raw : List UInt8) :
    (∃ f, decode raw = .ok f) ↔ ∃ r, Header.parse raw = .ok r := by
  unfold decode
  cases Header.parse raw with
  | error e => simp [Except.map]
  | ok r => simp [Except.map]

/-- The bytes of a datagram are the fields of its frame in order, the sequence number with its
least significant byte first. -/
theorem exists_encode_eq (f : Frame) :
    ∃ a b c d : UInt8,
      f.encode =
        f.header.type.code :: f.header.port :: f.header.control :: f.header.pad ::
          a :: b :: c :: d :: f.data ∧
      f.header.sequence.toNat =
        a.toNat + 256 * b.toNat + 65536 * c.toNat + 16777216 * d.toNat := by
  obtain ⟨⟨type, port, control, pad, sequence⟩, data⟩ := f
  refine ⟨_, _, _, _, rfl, ?_⟩
  rw [← Header.toNat_sequenceOf, Header.sequenceOf_bytes]

/-- **Which datagrams are frames, and where each field stands.** A datagram reads as a frame
exactly if it has eight bytes or more, of which the first is a code from 1 to 6. The frame is then
the one that writes these bytes, and every frame is written so. -/
theorem decode_encode_bijective :
    (∀ raw, (∃ f, decode raw = .ok f) ↔ 8 ≤ raw.length ∧ ∃ n ∈ raw.head?, 1 ≤ n ∧ n ≤ 6) ∧
    (∀ raw f, decode raw = .ok f ↔ raw = f.encode) ∧
    ∀ f : Frame, ∃ a b c d : UInt8,
      f.encode =
        f.header.type.code :: f.header.port :: f.header.control :: f.header.pad ::
          a :: b :: c :: d :: f.data ∧
      f.header.sequence.toNat =
        a.toNat + 256 * b.toNat + 65536 * c.toNat + 16777216 * d.toNat := by
  refine ⟨fun raw => ?_, fun raw f => decode_eq_ok_iff, exists_encode_eq⟩
  rw [exists_decode_iff]
  exact Header.exists_parse_iff raw

end Aun.Frame

end Econet
