import Econet.Piconet.Line
import Econet.Proofs.Outcomes
import Econet.Proofs.Text.Base64
import Econet.Proofs.Text.Trimming

/-!
# Lines that report packets

A line reports a packet if its first field says how the packet came, the second one holds a scout
and, for a transmission, the third one the bytes that were sent. Two readers take such a line: one
for frames, and one for all lines that the adapter writes. They cut it differently, and agree.

## Main definitions

* `slice? bytes i j`: the bytes between two positions, if these exist
* `Frame.HasScout f scout`: the frame has the addresses, control byte and port of a scout
* `Reports fields f`: the fields of a line report a frame

## Main results

* `Frame.decode_eq_ok_iff`: a line is read as the frame that its fields report, and as no other
* `Line.fst_split_trim`: both readers see the same first field
* `Line.parse_of_kind`, `Line.parse_of_not_kind`: lines that report packets, and other lines
* `Line.parse_reports`: which lines are frames, which frames they are, and that both readers agree
-/

namespace Econet.Piconet

open Text (AllBlank IsWord fields isBlank splitOnce trim)

variable {bytes scout blob data : List UInt8} {i j n : Nat} {field line text : List Char}
  {rest : List (List Char)} {kind : Kind} {f : Frame} {e : FrameError}

/-! ### Slices -/

/-- The bytes from one position up to another. There are none unless both are positions of the
list, the first one not behind the second one. -/
def slice? (bytes : List UInt8) (i j : Nat) : Option (List UInt8) :=
  if i ≤ j ∧ j ≤ bytes.length then some ((bytes.drop i).take (j - i)) else none

theorem slice?_eq_some_iff :
    slice? bytes i j = some data ↔
      (i ≤ j ∧ j ≤ bytes.length) ∧ (bytes.drop i).take (j - i) = data := by
  rw [slice?]
  split
  · next h => simp [h]
  · next h => simp [h]

/-- Bytes that are cut to what is present. -/
theorem slice?_min (h : i ≤ bytes.length) (n : Nat) :
    slice? bytes i (min (i + n) bytes.length) = some data ↔ (bytes.drop i).take n = data := by
  have hmin : i ≤ min (i + n) bytes.length ∧ min (i + n) bytes.length ≤ bytes.length := by omega
  have htake : (bytes.drop i).take (min (i + n) bytes.length - i) = (bytes.drop i).take n := by
    have hlength : min (i + n) bytes.length - i = min n (bytes.drop i).length := by
      rw [List.length_drop]
      omega
    rw [hlength, ← List.take_eq_take_min]
  rw [slice?_eq_some_iff, htake]
  exact and_iff_right hmin

/-! ### What is reported -/

/-- The frame has the addresses, control byte and port of a scout. -/
structure Frame.HasScout (f : Frame) (scout : List UInt8) : Prop where
  destinationStation : scout[0]? = some f.destination.station
  destinationNetwork : scout[1]? = some f.destination.network
  sourceStation : scout[2]? = some f.source.station
  sourceNetwork : scout[3]? = some f.source.network
  control : scout[4]? = some f.control
  port : scout[5]? = some f.port

theorem Frame.HasScout.length_le (h : f.HasScout scout) : 6 ≤ scout.length := by
  obtain ⟨hlt, -⟩ := List.getElem?_eq_some_iff.mp h.port
  omega

/-- The fields of a line report a frame. What follows the fields that are needed is ignored. -/
inductive Reports : List (List Char) → Frame → Prop where
  /-- The data of a broadcast are up to eight bytes behind the scout. -/
  | broadcast {scout : List UInt8} {rest : List (List Char)} {f : Frame} (hs : f.HasScout scout)
      (htype : f.type = .broadcast) (hdata : slice? scout 6 (min 14 scout.length) = some f.data) :
    Reports ("RX_BROADCAST".toList :: Base64.encode scout :: rest) f
  /-- The data of an immediate operation are up to four bytes behind the scout. -/
  | immediate {scout : List UInt8} {rest : List (List Char)} {f : Frame} (hs : f.HasScout scout)
      (htype : f.type = .immediate) (hdata : slice? scout 6 (min 10 scout.length) = some f.data) :
    Reports ("RX_IMMEDIATE".toList :: Base64.encode scout :: rest) f
  /-- The data of a transmission are what was sent, without the first four and the last two
  bytes. -/
  | transmit {scout blob : List UInt8} {rest : List (List Char)} {f : Frame}
      (hs : f.HasScout scout) (htype : f.type = .unicast)
      (hdata : slice? blob 4 (blob.length - 2) = some f.data) :
    Reports ("RX_TRANSMIT".toList :: Base64.encode scout :: Base64.encode blob :: rest) f

theorem Kind.ofWord?_eq_some_iff {w : List Char} : ofWord? w = some kind ↔ w = kind.word.toList := by
  constructor
  · intro h
    unfold ofWord? at h
    split at h
    · next hw =>
      cases h
      exact hw
    · split at h
      · next hw =>
        cases h
        exact hw
      · split at h
        · next hw =>
          cases h
          exact hw
        · cases h
  · rintro rfl
    cases kind <;> decide

namespace Frame

/-! ### Single fields -/

theorem bytesField_eq_ok_iff :
    bytesField n field = .ok bytes ↔ field = Base64.encode bytes ∧ n ≤ bytes.length := by
  rw [← Base64.decode_eq_some_iff, bytesField]
  cases hfield : Base64.decode field with
  | none => simp
  | some read =>
    simp only [Option.some.injEq]
    split
    · next hlt =>
      refine ⟨fun h => ?_, ?_⟩
      · cases h
      · rintro ⟨rfl, hle⟩
        omega
    · next hlt =>
      rw [Except.ok.injEq]
      constructor
      · rintro rfl
        exact ⟨rfl, by omega⟩
      · exact fun h => h.1

/-- The scout and the data make the frame. -/
theorem ofScout_eq_ok_iff :
    ofScout kind scout data = .ok f ↔ f.HasScout scout ∧ f.type = kind.type ∧ f.data = data := by
  constructor
  · intro h
    unfold ofScout at h
    split at h
    · cases h
      exact ⟨⟨rfl, rfl, rfl, rfl, rfl, rfl⟩, rfl, rfl⟩
    · cases h
  · rintro ⟨hs, htype, rfl⟩
    -- A scout of six bytes has its fields one after the other.
    match scout, hs, hs.length_le with
    | a :: b :: c :: d :: x :: y :: _, hs, _ =>
      obtain ⟨h0, h1, h2, h3, h4, h5⟩ := hs
      obtain ⟨type, ⟨_, _⟩, ⟨_, _⟩, control, port, data⟩ := f
      cases h0
      cases h1
      cases h2
      cases h3
      cases h4
      cases h5
      rw [ofScout, ← htype]

/-- The data of a frame, in terms of slices. -/
theorem dataOf_broadcast (h : 6 ≤ scout.length) : dataOf .broadcast scout rest = .ok data ↔
    slice? scout 6 (min 14 scout.length) = some data := by
  rw [dataOf, Except.ok.injEq]
  exact (slice?_min h 8).symm

theorem dataOf_immediate (h : 6 ≤ scout.length) : dataOf .immediate scout rest = .ok data ↔
    slice? scout 6 (min 10 scout.length) = some data := by
  rw [dataOf, Except.ok.injEq]
  exact (slice?_min h 4).symm

theorem slice?_transmitted :
    slice? blob 4 (blob.length - 2) = some data ↔ 6 ≤ blob.length ∧ transmitted blob = data := by
  have hcut : blob.length - 2 - 4 = blob.length - 6 := by omega
  have hbounds : (4 ≤ blob.length - 2 ∧ blob.length - 2 ≤ blob.length) ↔ 6 ≤ blob.length := by
    omega
  rw [slice?_eq_some_iff, hbounds, hcut]
  rfl

theorem dataOf_transmit : dataOf .transmit scout rest = .ok data ↔
    ∃ blob others, rest = Base64.encode blob :: others ∧
      slice? blob 4 (blob.length - 2) = some data := by
  cases rest with
  | nil =>
    refine ⟨fun h => ?_, ?_⟩
    · cases h
    · rintro ⟨blob, others, h, -⟩
      cases h
  | cons field others =>
    rw [dataOf, map_eq_ok_iff]
    constructor
    · rintro ⟨blob, hfield, hdata⟩
      obtain ⟨rfl, hlength⟩ := bytesField_eq_ok_iff.mp hfield
      exact ⟨blob, others, rfl, slice?_transmitted.mpr ⟨hlength, hdata⟩⟩
    · rintro ⟨blob, others, h, hdata⟩
      cases h
      obtain ⟨hlength, hdata⟩ := slice?_transmitted.mp hdata
      exact ⟨blob, bytesField_eq_ok_iff.mpr ⟨rfl, hlength⟩, hdata⟩

/-! ### Whole lines -/

/-- The fields behind the kind of a line. -/
theorem ofFields_eq_ok_iff : ofFields kind rest = .ok f ↔
    ∃ scout others, rest = Base64.encode scout :: others ∧ f.HasScout scout ∧
      f.type = kind.type ∧ dataOf kind scout others = .ok f.data := by
  cases rest with
  | nil =>
    refine ⟨fun h => ?_, ?_⟩
    · cases h
    · rintro ⟨scout, others, h, -⟩
      cases h
  | cons field others =>
    constructor
    · intro h
      obtain ⟨scout, hscout, hrest⟩ := bind_eq_ok_iff.mp h
      obtain ⟨data, hdata, hframe⟩ := bind_eq_ok_iff.mp hrest
      obtain ⟨hs, htype, rfl⟩ := ofScout_eq_ok_iff.mp hframe
      obtain ⟨rfl, -⟩ := bytesField_eq_ok_iff.mp hscout
      exact ⟨scout, others, rfl, hs, htype, hdata⟩
    · rintro ⟨scout, others, h, hs, htype, hdata⟩
      cases h
      refine bind_eq_ok_iff.mpr ⟨scout, bytesField_eq_ok_iff.mpr ⟨rfl, hs.length_le⟩, ?_⟩
      exact bind_eq_ok_iff.mpr ⟨f.data, hdata, ofScout_eq_ok_iff.mpr ⟨hs, htype, rfl⟩⟩

/-- A line that is read is of one of the three kinds. -/
theorem decode_eq_ok_iff_ofFields : decode line = .ok f ↔
    ∃ kind rest, fields line = kind.word.toList :: rest ∧ ofFields kind rest = .ok f := by
  constructor
  · intro h
    unfold decode at h
    split at h
    · cases h
    · next word rest hfields =>
      split at h
      · next kind hkind => exact ⟨kind, rest, by rw [hfields, Kind.ofWord?_eq_some_iff.mp hkind], h⟩
      · cases h
  · rintro ⟨kind, rest, hfields, h⟩
    rw [decode, hfields]
    simp only [Kind.ofWord?_eq_some_iff.mpr rfl]
    exact h

theorem reports_iff {fields : List (List Char)} : Reports fields f ↔
    ∃ kind rest, fields = kind.word.toList :: rest ∧ ofFields kind rest = .ok f := by
  constructor
  · intro h
    cases h with
    | broadcast hs htype hdata =>
      exact ⟨.broadcast, _, rfl, ofFields_eq_ok_iff.mpr
        ⟨_, _, rfl, hs, htype, (dataOf_broadcast hs.length_le).mpr hdata⟩⟩
    | immediate hs htype hdata =>
      exact ⟨.immediate, _, rfl, ofFields_eq_ok_iff.mpr
        ⟨_, _, rfl, hs, htype, (dataOf_immediate hs.length_le).mpr hdata⟩⟩
    | transmit hs htype hdata =>
      exact ⟨.transmit, _, rfl, ofFields_eq_ok_iff.mpr
        ⟨_, _, rfl, hs, htype, dataOf_transmit.mpr ⟨_, _, rfl, hdata⟩⟩⟩
  · rintro ⟨kind, rest, rfl, h⟩
    obtain ⟨scout, others, rfl, hs, htype, hdata⟩ := ofFields_eq_ok_iff.mp h
    cases kind with
    | broadcast => exact .broadcast hs htype ((dataOf_broadcast hs.length_le).mp hdata)
    | immediate => exact .immediate hs htype ((dataOf_immediate hs.length_le).mp hdata)
    | transmit =>
      obtain ⟨blob, more, rfl, hblob⟩ := dataOf_transmit.mp hdata
      exact .transmit hs htype hblob

/-- **A line is read as the frame that its fields report**, and as no other. -/
theorem decode_eq_ok_iff : decode line = .ok f ↔ Reports (fields line) f := by
  rw [decode_eq_ok_iff_ofFields, reports_iff]

/-- The line of a frame holds its scout. -/
theorem exists_scout (h : decode line = .ok f) :
    ∃ (kind : Kind) (scout : List UInt8) (rest : List (List Char)),
      fields line = kind.word.toList :: Base64.encode scout :: rest ∧ f.HasScout scout := by
  obtain ⟨kind, rest, hfields, hrest⟩ := decode_eq_ok_iff_ofFields.mp h
  obtain ⟨scout, others, rfl, hs, -⟩ := ofFields_eq_ok_iff.mp hrest
  exact ⟨kind, scout, others, hfields, hs⟩

/-- A scout of six bytes, and data if they are needed, make a frame. -/
theorem exists_ofFields_iff : (∃ f, ofFields kind rest = .ok f) ↔
    ∃ scout others, rest = Base64.encode scout :: others ∧ 6 ≤ scout.length ∧
      (kind = .transmit → ∃ blob more, others = Base64.encode blob :: more ∧ 6 ≤ blob.length) := by
  constructor
  · rintro ⟨f, h⟩
    obtain ⟨scout, others, rfl, hs, -, hdata⟩ := ofFields_eq_ok_iff.mp h
    refine ⟨scout, others, rfl, hs.length_le, ?_⟩
    rintro rfl
    obtain ⟨blob, more, rfl, hblob⟩ := dataOf_transmit.mp hdata
    exact ⟨blob, more, rfl, (slice?_transmitted.mp hblob).1⟩
  · rintro ⟨scout, others, rfl, hlength, hblob⟩
    obtain ⟨data, hdata⟩ : ∃ data, dataOf kind scout others = .ok data := by
      cases kind with
      | broadcast => exact ⟨_, rfl⟩
      | immediate => exact ⟨_, rfl⟩
      | transmit =>
        obtain ⟨blob, more, rfl, hlength⟩ := hblob rfl
        exact ⟨_, dataOf_transmit.mpr ⟨blob, more, rfl, slice?_transmitted.mpr ⟨hlength, rfl⟩⟩⟩
    obtain ⟨f, hf⟩ : ∃ f, ofScout kind scout data = .ok f := by
      match scout, hlength with
      | _ :: _ :: _ :: _ :: _ :: _ :: _, _ => exact ⟨_, rfl⟩
    refine ⟨f, bind_eq_ok_iff.mpr ⟨scout, bytesField_eq_ok_iff.mpr ⟨rfl, hlength⟩, ?_⟩⟩
    exact bind_eq_ok_iff.mpr ⟨data, hdata, hf⟩

theorem decode_trim (text : List Char) : decode (trim text) = decode text := by
  rw [decode, decode, Text.fields_trim]

end Frame

namespace Line

/-! ### The other reader -/

/-- **Both readers see the same first field.** -/
theorem fst_split_trim {w : List Char} (h : fields text = w :: rest) :
    (split (trim text)).1 = w := by
  rw [← Text.fields_trim] at h
  obtain ⟨hw, x, hx, htext⟩ := Text.fields_eq_cons_iff.mp h
  -- A trimmed text does not start with a blank.
  have hnil : x = [] := by
    rcases x with - | ⟨c, x⟩
    · rfl
    · have hc : isBlank c = false := by
        rcases htext with ⟨htext, -⟩ | ⟨d, more, -, htext, -⟩
        · exact Text.not_isBlank_of_trim_eq_cons htext
        · exact Text.not_isBlank_of_trim_eq_cons htext
      exact absurd (hx c List.mem_cons_self) (by simp [hc])
  subst hnil
  rcases htext with ⟨htext, -⟩ | ⟨c, more, hc, htext, -⟩
  · rw [htext, List.nil_append, split, Text.splitOnce_eq_none_iff.mpr hw.2]
  · rw [htext, List.nil_append, split, Text.splitOnce_append hw.2 hc]

theorem trim_of_fields_eq_nil (h : fields text = []) : trim text = [] :=
  Text.trim_eq_nil_iff.mpr (Text.fields_eq_nil_iff.mp h)

/-- Lines that report packets. -/
theorem parse_of_kind (h : fields text = kind.word.toList :: rest) :
    parse text = (Frame.decode text).map .packet := by
  rw [parse]
  simp only [fst_split_trim h, Frame.decode_trim]
  cases kind <;> rfl

/-- A result is no packet, and may be unknown. -/
theorem map_result_parse (code : List Char) :
    (∀ f, (TxResult.parse code).map Line.result ≠ .ok (.packet f)) ∧
      ∀ e, (TxResult.parse code).map Line.result = .error e →
        ∃ code, e = .malformed (.unknownResult code) := by
  unfold TxResult.parse
  split
  · refine ⟨fun f => ?_, fun e he => ?_⟩
    · simp [Except.map]
    · cases he
  · refine ⟨fun f => ?_, fun e he => ?_⟩
    · simp [Except.map]
    · cases he
      exact ⟨_, rfl⟩

/-- Other lines are no packets, and the only complaint about them is about results. -/
theorem parse_of_not_kind (h : Kind.ofWord? (split (trim text)).1 = none) :
    (∀ f, parse text ≠ .ok (.packet f)) ∧
      ∀ e, parse text = .error e → ∃ code, e = .malformed (.unknownResult code) := by
  unfold parse
  simp only [h, Option.isSome_none, Bool.false_eq_true, if_false]
  -- Of the first words that are left, only the one of results has something to be read behind it.
  split
  · simp
  · split
    · simp
    · split
      · simp
      · split
        · exact map_result_parse _
        · simp

/-- A line of another kind has no frame, and the reader of frames says so. -/
theorem decode_of_not_kind (h : Kind.ofWord? (split (trim text)).1 = none) :
    Frame.decode text = .error (.malformed .emptyLine) ∨
      ∃ word, Frame.decode text = .error (.malformed (.notPacketLine word)) := by
  rw [Frame.decode]
  cases hfields : fields text with
  | nil => exact .inl rfl
  | cons w rest =>
    rw [fst_split_trim hfields] at h
    simp only [h]
    exact .inr ⟨_, rfl⟩

/-- A line reports a packet, by its first field, or both readers take it for something else. -/
theorem exists_kind_or (text : List Char) :
    (∃ (kind : Kind) (rest : List (List Char)), fields text = kind.word.toList :: rest) ∨
      Kind.ofWord? (split (trim text)).1 = none := by
  cases hfields : fields text with
  | nil =>
    rw [trim_of_fields_eq_nil hfields]
    exact .inr rfl
  | cons w rest =>
    rw [fst_split_trim hfields]
    cases hkind : Kind.ofWord? w with
    | none => exact .inr rfl
    | some kind => exact .inl ⟨kind, rest, by rw [Kind.ofWord?_eq_some_iff.mp hkind]⟩

theorem parse_eq_packet_iff : parse line = .ok (.packet f) ↔ Frame.decode line = .ok f := by
  rcases exists_kind_or line with ⟨kind, rest, hfields⟩ | hkind
  · rw [parse_of_kind hfields, map_eq_ok_iff]
    simp
  · constructor
    · intro h
      exact absurd h ((parse_of_not_kind hkind).1 f)
    · intro h
      rcases decode_of_not_kind hkind with hempty | ⟨word, hword⟩
      · cases hempty.symm.trans h
      · cases hword.symm.trans h

/-- The readers fail alike on lines that report packets, and on no other lines. -/
theorem parse_eq_error_iff (h : Frame.decode line = .error e) : parse line = .error e ↔
    ∃ (kind : Kind) (rest : List (List Char)), fields line = kind.word.toList :: rest := by
  constructor
  · intro hparse
    refine (exists_kind_or line).resolve_right fun hkind => ?_
    obtain ⟨code, rfl⟩ := (parse_of_not_kind hkind).2 e hparse
    rcases decode_of_not_kind hkind with hempty | ⟨word, hword⟩
    · cases hempty.symm.trans h
    · cases hword.symm.trans h
  · rintro ⟨kind, rest, hfields⟩
    rw [parse_of_kind hfields, map_eq_error_iff]
    exact h

/-- **Which lines are frames, and which frames they are.** A line is read as a frame exactly if its
first field is one of the three kinds, its second one the written form of at least six bytes and,
for a transmission, its third one that of at least six bytes. The reader of all lines takes these
lines for packets with the same frames, and fails as the reader of frames does exactly on those of
the three kinds. -/
theorem parse_reports (line : List Char) :
    ((∃ f, Frame.decode line = .ok f) ↔
      ∃ (kind : Kind) (scout : List UInt8) (rest : List (List Char)),
        fields line = kind.word.toList :: Base64.encode scout :: rest ∧
        6 ≤ scout.length ∧
        (kind = .transmit → ∃ blob more, rest = Base64.encode blob :: more ∧ 6 ≤ blob.length)) ∧
    (∀ f, Frame.decode line = .ok f ↔ Reports (fields line) f) ∧
    (∀ f, parse line = .ok (.packet f) ↔ Frame.decode line = .ok f) ∧
    ∀ e, parse line = .error e ∧ Frame.decode line = .error e ↔
      (∃ (kind : Kind) (rest : List (List Char)), fields line = kind.word.toList :: rest) ∧
        Frame.decode line = .error e := by
  refine ⟨?_, fun f => Frame.decode_eq_ok_iff, fun f => parse_eq_packet_iff, fun e => ?_⟩
  · constructor
    · rintro ⟨f, hf⟩
      obtain ⟨kind, rest, hfields, hrest⟩ := Frame.decode_eq_ok_iff_ofFields.mp hf
      obtain ⟨scout, others, rfl, h⟩ := Frame.exists_ofFields_iff.mp ⟨f, hrest⟩
      exact ⟨kind, scout, others, hfields, h⟩
    · rintro ⟨kind, scout, rest, hfields, h⟩
      obtain ⟨f, hf⟩ := Frame.exists_ofFields_iff.mpr ⟨scout, rest, rfl, h⟩
      exact ⟨f, Frame.decode_eq_ok_iff_ofFields.mpr ⟨kind, _, hfields, hf⟩⟩
  · exact and_congr_left fun hdecode => parse_eq_error_iff hdecode

end Line

end Econet.Piconet
