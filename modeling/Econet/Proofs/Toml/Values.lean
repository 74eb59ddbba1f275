import Econet.Proofs.Toml.Strings
import Econet.Toml.Fields
import Econet.Toml.Parser
import Econet.Toml.Printer
import Mathlib.Data.List.Basic

/-!
# Written values

Strings, truth values, numbers and arrays of them read as themselves. A value ends where its line
does, or at the comma or bracket behind an item of an array; up to there a number is not taken for a
time, and nothing is taken for a part of the value that does not belong to it.

## Main definitions

* `Ends rest`: the text is at its end, or goes on with what ends a value
* `Reads depth t v`: the text `t` is taken for the value `v`, whatever ends it

## Main results

* `reads_stringText`, `reads_booleanText`, `reads_digits`: scalars read as themselves
* `reads_arrayText`: an array reads as itself if each item does
* `byte_integer`, `text_string`, `listOf_array`, …: values of a type are taken for what they hold
-/

namespace Econet.Toml

open Text (digits value)

/-! ### What ends a value -/

/-- The text is at its end, or goes on with a line break, a comma or a closing bracket. -/
def Ends (rest : List Char) : Prop := ∀ c ∈ rest.head?, c = '\n' ∨ c = ',' ∨ c = ']'

theorem ends_cons {c : Char} (h : c = '\n' ∨ c = ',' ∨ c = ']') (rest : List Char) :
    Ends (c :: rest) := by
  simpa [Ends] using h

variable {c : Char} {t rest : List Char} {depth : Nat} {v : Value}

theorem Ends.head?_ne (h : Ends rest) (hc : c ≠ '\n' ∧ c ≠ ',' ∧ c ≠ ']') :
    rest.head? ≠ some c := by
  intro hrest
  rcases h c hrest with rfl | rfl | rfl
  · exact hc.1 rfl
  · exact hc.2.1 rfl
  · exact hc.2.2 rfl

/-- A character that no value begins with: what stands between values, and what closes an array. -/
def isApart (c : Char) : Bool := isSpace c || c = '\n' || c = '\r' || c = '#' || c = ']'

theorem skipSpace_cons (h : isSpace c = false) (cs : List Char) :
    skipSpace (c :: cs) = c :: cs := by
  simp [skipSpace, h]

theorem skipTrivia_cons (h : isApart c = false) (cs : List Char) :
    skipTrivia false (c :: cs) = c :: cs := by
  simp only [isApart, Bool.or_eq_false_iff, decide_eq_false_iff_not] at h
  obtain ⟨⟨⟨⟨hspace, hnewline⟩, hreturn⟩, hcomment⟩, -⟩ := h
  simp [skipTrivia, *]

/-- The text is taken for the value, whatever ends the text. -/
structure Reads (depth : Nat) (t : List Char) (v : Value) : Prop where
  /-- The text begins with a character of the value. -/
  starts : ∃ c cs, t = c :: cs ∧ isApart c = false
  read : ∀ {rest}, Ends rest → readValue depth (t ++ rest) = some (v, rest)

theorem Reads.skipTrivia (h : Reads depth t v) (rest : List Char) :
    skipTrivia false (t ++ rest) = t ++ rest := by
  obtain ⟨c, cs, rfl, hc⟩ := h.starts
  exact skipTrivia_cons hc _

theorem Reads.skipSpace (h : Reads depth t v) (rest : List Char) :
    skipSpace (t ++ rest) = t ++ rest := by
  obtain ⟨c, cs, rfl, hc⟩ := h.starts
  refine skipSpace_cons ?_ _
  simp only [isApart, Bool.or_eq_false_iff] at hc
  exact hc.1.1.1.1

/-! ### Strings and truth values -/

theorem exists_stringText_eq_cons (s : String) :
    ∃ c cs, stringText s = c :: cs ∧ (c = '"' ∨ c = '\'') := by
  unfold stringText
  dsimp only
  split
  · exact ⟨_, _, rfl, .inl rfl⟩
  · exact ⟨_, _, rfl, .inr rfl⟩
  · exact ⟨_, _, rfl, .inl rfl⟩
  · exact ⟨_, _, rfl, .inr rfl⟩

/-- **Every string reads as itself.** -/
theorem reads_stringText (depth : Nat) (s : String) : Reads depth (stringText s) (.string s) := by
  obtain ⟨c, cs, hs, hc⟩ := exists_stringText_eq_cons s
  refine ⟨⟨c, cs, hs, ?_⟩, fun {rest} hrest => ?_⟩
  · rcases hc with rfl | rfl <;> rfl
  · have hread := readString_stringText (hrest.head?_ne (by decide)) (hrest.head?_ne (by decide)) s
    have hscalar : readValue depth (stringText s ++ rest) =
        (readString (stringText s ++ rest)).map fun r => (.string r.1, r.2) := by
      rw [hs]
      rcases hc with rfl | rfl <;> simp [readValue, readScalar]
    rw [hscalar, hread]
    rfl

theorem readName_append (name : String) (v : Value) (rest : List Char) :
    readName name v (name.toList ++ rest) = some (v, rest) := by
  have hprefix : name.toList.isPrefixOf? (name.toList ++ rest) = some rest :=
    List.isPrefixOf?_eq_some_iff_append_eq.mpr rfl
  rw [readName, hprefix, Option.map_some]

theorem reads_booleanText (depth : Nat) (b : Bool) : Reads depth (booleanText b) (.boolean b) := by
  cases b with
  | false =>
    refine ⟨⟨'f', _, rfl, rfl⟩, fun {rest} _ => ?_⟩
    have hread := readName_append "false" (.boolean false) rest
    simpa [booleanText, readValue, readScalar] using hread
  | true =>
    refine ⟨⟨'t', _, rfl, rfl⟩, fun {rest} _ => ?_⟩
    have hread := readName_append "true" (.boolean true) rest
    simpa [booleanText, readValue, readScalar] using hread

/-! ### Numbers -/

section Numbers

variable {ds : List Char} (hds : ∀ c ∈ ds, c.isDigit) (hrest : Ends rest)

include hrest in
theorem Ends.head?_isDigit : ∀ c ∈ rest.head?, c.isDigit = false ∧ c ≠ '_' := by
  intro c hc
  rcases hrest c hc with rfl | rfl | rfl <;> decide

include hds hrest

theorem spanTail_append : spanTail Char.isDigit (ds ++ rest) = (ds, rest) := by
  induction ds with
  | nil =>
    cases rest with
    | nil => rfl
    | cons c cs =>
      obtain ⟨hdigit, hunderscore⟩ := hrest.head?_isDigit c rfl
      simp [spanTail, *]
  | cons d ds ih =>
    obtain ⟨hd, hds⟩ := List.forall_mem_cons.mp hds
    have hunderscore : d ≠ '_' := by
      rintro rfl
      cases hd
    simp [spanTail, ih hds, *]

theorem spanDigits_append : spanDigits Char.isDigit (ds ++ rest) = (ds, rest) := by
  cases ds with
  | nil =>
    cases rest with
    | nil => rfl
    | cons c cs =>
      obtain ⟨hdigit, -⟩ := hrest.head?_isDigit c rfl
      simp [spanDigits, hdigit]
  | cons d ds =>
    obtain ⟨hd, hds⟩ := List.forall_mem_cons.mp hds
    simp [spanDigits, hd, spanTail_append hds hrest]

omit hds in
/-- Digits are read off digits, and digits are left. -/
theorem readFixed_append {k n : Nat} {r : List Char} (h : readFixed k (ds ++ rest) = some (n, r)) :
    r = ds.drop k ++ rest := by
  simp only [readFixed] at h
  split at h
  · next hrun =>
    simp only [Bool.and_eq_true, decide_eq_true_eq, List.all_eq_true] at hrun
    obtain ⟨hlength, hall⟩ := hrun
    cases h
    by_cases hk : k ≤ ds.length
    · exact List.drop_append_of_le_length hk
    · -- The digit after the last one would be what ends the value.
      cases rest with
      | nil => simp at hlength; omega
      | cons c cs =>
        have hmem : c ∈ (ds ++ c :: cs).take k := by
          rw [List.take_append, List.mem_append]
          obtain ⟨m, hm⟩ : ∃ m, k - ds.length = m + 1 := ⟨k - ds.length - 1, by omega⟩
          exact .inr (by simp [hm])
        cases (hall c hmem).symm.trans (hrest.head?_isDigit c rfl).1
  · cases h

theorem expect_append (hc : c.isDigit = false) (hend : c ≠ '\n' ∧ c ≠ ',' ∧ c ≠ ']') :
    expect c (ds ++ rest) = none := by
  cases ds with
  | nil =>
    have hne := hrest.head?_ne hend
    cases rest with
    | nil => rfl
    | cons d cs => simpa [expect] using hne
  | cons d ds =>
    have hdc : d ≠ c := by
      rintro rfl
      cases hc.symm.trans (hds d List.mem_cons_self)
    simp [expect, hdc]

/-- A number is no time. -/
theorem afterTime_append : afterTime (ds ++ rest) = none := by
  have hexpect {k n : Nat} {r : List Char} {c : Char} (h : readFixed k (ds ++ rest) = some (n, r))
      (hc : c.isDigit = false) (hend : c ≠ '\n' ∧ c ≠ ',' ∧ c ≠ ']') : expect c r = none := by
    rw [readFixed_append hrest h]
    exact expect_append (fun d hd => hds d (List.mem_of_mem_drop hd)) hrest hc hend
  have hdate : afterDate (ds ++ rest) = none := by
    simp only [afterDate]
    cases h : readFixed 4 (ds ++ rest) with
    | none => rfl
    | some r => simp [hexpect (c := '-') h rfl (by decide)]
  have hclock : afterClock (ds ++ rest) = none := by
    simp only [afterClock, readTwo]
    cases h : readFixed 2 (ds ++ rest) with
    | none => rfl
    | some r =>
      simp only [Option.bind_eq_bind, Option.bind_some]
      split
      · simp [hexpect (c := ':') h rfl (by decide)]
      · rfl
  rw [afterTime, hdate]
  exact hclock

end Numbers

theorem readWhole_digits (n : Nat) (hrest : Ends rest) :
    readWhole (digits n ++ rest) = some (digits n, rest) := by
  rcases Nat.eq_zero_or_pos n with rfl | hn
  · rfl
  · have hdigits : ∀ c ∈ digits n, c.isDigit := fun c hc => Text.isDigit_of_mem_digits hc
    have hspan := spanDigits_append hdigits hrest
    have hzero := Text.head?_digits_ne hn
    obtain ⟨c, cs, hcs, -⟩ := Text.exists_digits_eq_cons n
    rw [hcs] at hspan hzero ⊢
    have hc : c ≠ '0' := fun h => hzero (congrArg some h)
    rw [List.cons_append] at hspan ⊢
    simp [readWhole, *]

theorem integer?_of_lt {n : Nat} (hn : n < 9223372036854775808) :
    integer? (n : Int) = some (.integer n) := by
  have hbounds : (-9223372036854775808 ≤ (n : Int) && (n : Int) < 9223372036854775808) = true := by
    rw [Bool.and_eq_true, decide_eq_true_eq, decide_eq_true_eq]
    omega
  rw [integer?, if_pos hbounds]

theorem readDecimal_digits {n : Nat} (hn : n < 9223372036854775808) (hrest : Ends rest) :
    readDecimal false (digits n ++ rest) = some (.integer n, rest) := by
  have hinteger := integer?_of_lt hn
  have hwhole := readWhole_digits n hrest
  have hvalue := Text.value_digits n
  rw [readDecimal, hwhole]
  simp only [Option.bind_eq_bind, Option.bind_some, hvalue, Bool.false_eq_true, if_false, hinteger]
  cases rest with
  | nil => rfl
  | cons c cs => rcases hrest c rfl with rfl | rfl | rfl <;> rfl

/-- A number in decimal is not taken for one in another base or with a sign. -/
theorem readNumber_digits (n : Nat) (hrest : Ends rest) :
    readNumber (digits n ++ rest) = readDecimal false (digits n ++ rest) := by
  have hdigits : ∀ c ∈ digits n, c.isDigit := fun c hc => Text.isDigit_of_mem_digits hc
  have htime := afterTime_append hdigits hrest
  obtain ⟨d, ds, hds, hd⟩ := Text.exists_digits_eq_cons n
  rw [hds, List.forall_mem_cons] at hdigits
  rw [hds, List.cons_append] at htime ⊢
  have hbase {c : Char} (hc : c.isDigit = false) (hend : c ≠ '\n' ∧ c ≠ ',' ∧ c ≠ ']')
      (r : List Char) : d :: (ds ++ rest) ≠ '0' :: c :: r := by
    intro h
    have hnone := expect_append hdigits.2 hrest hc hend
    simp [(List.cons.inj h).2, expect] at hnone
  have hsign {c : Char} (hc : c.isDigit = false) (r : List Char) :
      d :: (ds ++ rest) ≠ c :: r := by
    rintro ⟨⟩
    cases hc.symm.trans hd
  rw [readNumber, htime]
  · exact hbase rfl (by decide)
  · exact hbase rfl (by decide)
  · exact hbase rfl (by decide)
  · exact hsign rfl
  · exact hsign rfl

theorem isApart_of_isDigit (h : c.isDigit) : isApart c = false := by
  rw [Bool.eq_false_iff]
  intro hc
  simp only [isApart, isSpace, Bool.or_eq_true, decide_eq_true_eq] at hc
  rcases hc with ((((rfl | rfl) | rfl) | rfl) | rfl) | rfl <;> cases h

/-- **Every number that fits reads as itself.** -/
theorem reads_digits (depth : Nat) {n : Nat} (hn : n < 9223372036854775808) :
    Reads depth (digits n) (.integer n) := by
  obtain ⟨c, cs, hcs, hc⟩ := Text.exists_digits_eq_cons n
  refine ⟨⟨c, cs, hcs, isApart_of_isDigit hc⟩, fun {rest} hrest => ?_⟩
  have hscalar : readValue depth (digits n ++ rest) = readNumber (digits n ++ rest) := by
    have hne {d : Char} (hd : d.isDigit = false) : c ≠ d := by
      rintro rfl
      cases hd.symm.trans hc
    rw [hcs, List.cons_append, readValue, readScalar]
    all_goals exact fun _ h => hne rfl (List.cons.inj h).1
  rw [hscalar, readNumber_digits n hrest, readDecimal_digits hn hrest]

theorem reads_byte (depth : Nat) (n : UInt8) : Reads depth (digits n.toNat) (.integer n.toNat) :=
  reads_digits depth (Nat.lt_trans n.toNat_lt (by decide))

theorem reads_uint16 (depth : Nat) (n : UInt16) :
    Reads depth (digits n.toNat) (.integer n.toNat) :=
  reads_digits depth (Nat.lt_trans n.toNat_lt (by decide))

theorem reads_uint32 (depth : Nat) (n : UInt32) :
    Reads depth (digits n.toNat) (.integer n.toNat) :=
  reads_digits depth (Nat.lt_trans n.toNat_lt (by decide))

/-! ### Arrays -/

section Arrays

variable {α : Type} {write : α → List Char} {denote : α → Value}

/-- An item is read after a line break and spaces. -/
theorem skipTrivia_indented (u : List Char) :
    skipTrivia false ('\n' :: ("    ".toList ++ u)) = skipTrivia false u := by
  simp [skipTrivia, isSpace]

theorem Reads.readItems_comma (h : Reads depth t v) {cs u : List Char}
    (hcs : Toml.skipTrivia false cs = t ++ ',' :: u) (fuel : Nat) :
    readItems (readValue depth) (fuel + 1) cs =
      (readItems (readValue depth) fuel u).map fun r => (v :: r.1, r.2) := by
  have hread := h.read (ends_cons (.inr (.inl rfl)) u)
  have hcomma : Toml.skipTrivia false (',' :: u) = ',' :: u := skipTrivia_cons rfl u
  obtain ⟨c, t, rfl, hc⟩ := h.starts
  simp only [readItems, hcs]
  split
  · next heq =>
    obtain ⟨rfl, -⟩ := List.cons.inj heq
    cases hc
  · simp only [hread, hcomma, Option.bind_eq_bind, Option.bind_some]
    exact Option.map_eq_bind.symm

theorem Reads.readItems_bracket (h : Reads depth t v) {cs u : List Char}
    (hcs : Toml.skipTrivia false cs = t ++ ']' :: u) (fuel : Nat) :
    readItems (readValue depth) (fuel + 1) cs = some ([v], u) := by
  have hread := h.read (ends_cons (.inr (.inr rfl)) u)
  have hbracket : Toml.skipTrivia false (']' :: u) = ']' :: u := by simp [Toml.skipTrivia, isSpace]
  obtain ⟨c, t, rfl, hc⟩ := h.starts
  simp only [readItems, hcs]
  split
  · next heq =>
    obtain ⟨rfl, -⟩ := List.cons.inj heq
    cases hc
  · simp only [hread, hbracket, Option.bind_eq_bind, Option.bind_some]

/-- Items on lines of their own. -/
theorem readItems_lines {xs : List α} (h : ∀ x ∈ xs, Reads depth (write x) (denote x)) {fuel : Nat}
    (hfuel : xs.length < fuel) (rest : List Char) :
    readItems (readValue depth) fuel ('\n' ::
        ((xs.map write).flatMap (fun t => "    ".toList ++ t ++ [',', '\n']) ++ ']' :: rest)) =
      some (xs.map denote, rest) := by
  induction xs generalizing fuel with
  | nil =>
    obtain ⟨fuel, rfl⟩ := Nat.exists_eq_add_of_lt hfuel
    simp [readItems, skipTrivia, isSpace]
  | cons x xs ih =>
    obtain ⟨fuel, rfl⟩ := Nat.exists_eq_add_of_lt hfuel
    obtain ⟨hx, hxs⟩ := List.forall_mem_cons.mp h
    have hlines := @ih hxs (xs.length + 1 + fuel) (by omega)
    have hskip := (skipTrivia_indented _).trans (hx.skipTrivia (',' :: '\n' ::
      ((xs.map write).flatMap (fun t => "    ".toList ++ t ++ [',', '\n']) ++ ']' :: rest)))
    have hitems := hx.readItems_comma hskip (xs.length + 1 + fuel)
    rw [hlines] at hitems
    simpa using hitems

theorem length_le_flatMap {f : List Char → List Char} (hf : ∀ t, f t ≠ [])
    (ts : List (List Char)) : ts.length ≤ (ts.flatMap f).length := by
  induction ts with
  | nil => exact Nat.le_refl 0
  | cons t ts ih =>
    have ht := List.length_pos_iff.mpr (hf t)
    rw [List.flatMap_cons, List.length_append, List.length_cons]
    omega

/-- **An array reads as itself** if each item does. -/
theorem reads_arrayText {xs : List α} (h : ∀ x ∈ xs, Reads depth (write x) (denote x)) :
    Reads (depth + 1) (arrayText (xs.map write)) (.array (xs.map denote)) := by
  have hread {cs rest : List Char} {vs : List Value}
      (hitems : readItems (readValue depth) (cs.length + 1) cs = some (vs, rest)) :
      readValue (depth + 1) ('[' :: cs) = some (.array vs, rest) := by
    rw [readValue, hitems, Option.map_some]
  match xs with
  | [] =>
    refine ⟨⟨'[', _, rfl, rfl⟩, fun {rest} _ => hread ?_⟩
    simp [readItems, skipTrivia, isSpace]
  | [x] =>
    have hx := h x List.mem_cons_self
    refine ⟨⟨'[', _, rfl, rfl⟩, fun {rest} _ => hread ?_⟩
    have hskip : skipTrivia false (write x ++ [']'] ++ rest) = write x ++ ']' :: rest := by
      rw [List.append_assoc]
      exact hx.skipTrivia _
    exact hx.readItems_bracket hskip _
  -- Two items or more have lines of their own.
  | x :: y :: xs =>
    refine ⟨⟨'[', _, rfl, rfl⟩, fun {rest} _ => ?_⟩
    have htext : arrayText ((x :: y :: xs).map write) ++ rest = '[' :: '\n' ::
        (((x :: y :: xs).map write).flatMap (fun t => "    ".toList ++ t ++ [',', '\n']) ++
          ']' :: rest) := by
      simp [arrayText]
    have hlength := length_le_flatMap (f := fun t => "    ".toList ++ t ++ [',', '\n']) (by simp)
      ((x :: y :: xs).map write)
    rw [List.length_map] at hlength
    rw [htext]
    refine hread (readItems_lines h (Nat.lt_succ_of_le (Nat.le_trans hlength ?_)) rest)
    rw [List.length_cons, List.length_append]
    omega

end Arrays

/-! ### Values of a type -/

theorem unsigned_integer {bound n : Nat} (h : n < bound) :
    unsigned bound (.integer n) = some n := by
  have hbounds : (0 ≤ (n : Int) && (n : Int) < bound) = true := by
    rw [Bool.and_eq_true, decide_eq_true_eq, decide_eq_true_eq]
    omega
  rw [unsigned, if_pos hbounds, Int.toNat_natCast]

@[simp] theorem byte_integer (n : UInt8) : byte (.integer n.toNat) = some n := by
  rw [byte, unsigned_integer n.toNat_lt, Option.map_some, UInt8.ofNat_toNat]

@[simp] theorem uint16_integer (n : UInt16) : uint16 (.integer n.toNat) = some n := by
  rw [uint16, unsigned_integer n.toNat_lt, Option.map_some, UInt16.ofNat_toNat]

@[simp] theorem uint32_integer (n : UInt32) : uint32 (.integer n.toNat) = some n := by
  rw [uint32, unsigned_integer n.toNat_lt, Option.map_some, UInt32.ofNat_toNat]

@[simp] theorem uint64_integer (n : UInt64) : uint64 (.integer n.toNat) = some n := by
  rw [uint64, unsigned_integer n.toNat_lt, Option.map_some, UInt64.ofNat_toNat]

@[simp] theorem text_string (s : String) : text (.string s) = some s := rfl

@[simp] theorem boolean_boolean (b : Bool) : boolean (.boolean b) = some b := rfl

theorem listOf_array {α : Type} {read : Value → Option α} {denote : α → Value}
    (h : ∀ x, read (denote x) = some x) (xs : List α) :
    listOf read (.array (xs.map denote)) = some xs := by
  rw [listOf]
  induction xs with
  | nil => rfl
  | cons x xs ih => rw [List.map_cons, List.mapM_cons, h, ih]; rfl

/-! ### Fields of a record -/

section Record

variable {α : Type} {es : List (String × Value)} {name : String} {read : Value → Option α} {x : α}

theorem required_eq (h : field? name es = some v) (hv : read v = some x) :
    required es name read = some x := by
  rw [required, h, Option.bind_some, hv]

theorem withDefault_eq (h : field? name es = some v) (hv : read v = some x) (default : α) :
    withDefault es name default read = some x := by
  rw [withDefault, h]
  exact hv

theorem optional_eq (h : field? name es = some v) (hv : read v = some x) :
    optional es name read = some (some x) := by
  rw [optional, h]
  exact congrArg (Option.map some) hv

theorem optional_eq_none (h : field? name es = none) : optional es name read = some none := by
  rw [optional, h]

end Record

end Econet.Toml
