import Econet.Proofs.Json.Scalars
import Mathlib.Data.List.Basic

/-!
# Written values

Values whose numbers are integers read as themselves, however deep they are nested, up to the depth
that the reader allows. The members of an object are written in the order of their names, and so
they need not be put in order when they are read.

## Main definitions

* `Reads r t x`: the reader takes the text `t` for `x`, whatever ends it
* `Value.isIntegral`: the numbers in a value are integers

## Main results

* `readBracketed_separated`: items read one after the other if each does
* `inOrder_eq_self`: members whose names ascend are in order
* `Value.cases`: what a value is made of
* `reads_text`: an integral value reads as itself, to the depth at which it is nested
* `depth_le_of_readValue`: what is read is no deeper than allowed
-/

namespace Econet.Json

variable {rest : List Char}

/-! ### Items -/

/-- The reader takes the text for `x`, whatever ends the text. -/
structure Reads {α : Type} (r : Reader α) (t : List Char) (x : α) : Prop where
  /-- The text begins with neither a blank nor a closing bracket. -/
  starts : ∃ c cs, t = c :: cs ∧ isSpace c = false ∧ c ≠ ']' ∧ c ≠ '\x7d'
  read : ∀ {rest}, Ends rest → r (t ++ rest) = some (x, rest)

theorem skipSpace_cons {c : Char} (h : isSpace c = false) (cs : List Char) :
    skipSpace (c :: cs) = c :: cs := by
  simp [skipSpace, h]

theorem separated_cons_cons (t u : List Char) (ts : List (List Char)) :
    separated (t :: u :: ts) = t ++ ',' :: separated (u :: ts) := rfl

theorem length_le_separated {ts : List (List Char)} (h : ∀ t ∈ ts, t ≠ []) :
    ts.length ≤ (separated ts).length := by
  induction ts with
  | nil => simp
  | cons t ts ih =>
    have ht := List.length_pos_iff.mpr (h t List.mem_cons_self)
    have hts := ih fun u hu => h u (List.mem_cons_of_mem _ hu)
    cases ts with
    | nil => exact ht
    | cons u us =>
      rw [separated_cons_cons]
      simp only [List.length_cons, List.length_append] at hts ⊢
      omega

section Items

variable {α : Type} {item : Reader α} {write : α → List Char} {close : Char}

theorem Reads.skipSpace {t : List Char} {x : α} (h : Reads item t x) (rest : List Char) :
    skipSpace (t ++ rest) = t ++ rest := by
  obtain ⟨c, cs, rfl, hc, -⟩ := h.starts
  exact skipSpace_cons hc _

theorem isSpace_close (h : close = ']' ∨ close = '\x7d') : isSpace close = false := by
  rcases h with rfl | rfl <;> rfl

/-- One item or more, each of which the reader takes for what it is written for. -/
theorem readItems_separated (hclose : close = ']' ∨ close = '\x7d') {x : α} {xs : List α}
    (h : ∀ y ∈ x :: xs, Reads item (write y) y) {fuel : Nat} (hfuel : xs.length < fuel)
    (rest : List Char) :
    readItems item close fuel (separated ((x :: xs).map write) ++ close :: rest) =
      some (x :: xs, rest) := by
  induction xs generalizing x fuel with
  | nil =>
    obtain ⟨fuel, rfl⟩ := Nat.exists_eq_add_of_lt hfuel
    have hx := h x List.mem_cons_self
    have hend := hx.read (ends_cons (.inr hclose) rest)
    have hcomma : close ≠ ',' := by rcases hclose with rfl | rfl <;> decide
    show readItems item close (0 + fuel + 1) (write x ++ close :: rest) = _
    simp [readItems, hx.skipSpace, hend, skipSpace_cons (isSpace_close hclose), hcomma]
  | cons y ys ih =>
    obtain ⟨fuel, rfl⟩ := Nat.exists_eq_add_of_lt hfuel
    have hx := h x List.mem_cons_self
    have hfuel : ys.length < ys.length + 1 + fuel := by omega
    have hys := ih (fun z hz => h z (List.mem_cons_of_mem _ hz)) hfuel
    have hend := hx.read (ends_cons (.inl rfl)
      (separated ((y :: ys).map write) ++ close :: rest))
    have hspace : isSpace ',' = false := rfl
    simp only [List.map_cons, separated_cons_cons, List.append_assoc, List.cons_append] at hend ⊢
    simp only [List.map_cons] at hys
    simp [readItems, hx.skipSpace, hend, skipSpace_cons hspace, hys]

theorem exists_separated_eq_cons {x : α} {xs : List α}
    (h : ∀ y ∈ x :: xs, Reads item (write y) y) :
    ∃ c cs, separated ((x :: xs).map write) = c :: cs ∧ isSpace c = false ∧ c ≠ ']' ∧
      c ≠ '\x7d' := by
  obtain ⟨c, cs, hcs, hc⟩ := (h x List.mem_cons_self).starts
  cases xs with
  | nil => exact ⟨c, cs, hcs, hc⟩
  | cons y ys =>
    refine ⟨c, cs ++ ',' :: separated ((y :: ys).map write), ?_, hc⟩
    rw [List.map_cons, List.map_cons, separated_cons_cons, hcs]
    rfl

/-- **Items read one after the other if each does**, up to the closing bracket. -/
theorem readBracketed_separated (hclose : close = ']' ∨ close = '\x7d') {xs : List α}
    (h : ∀ x ∈ xs, Reads item (write x) x) (rest : List Char) :
    readBracketed item close (separated (xs.map write) ++ close :: rest) = some (xs, rest) := by
  cases xs with
  | nil =>
    simp [readBracketed, separated, skipSpace_cons (isSpace_close hclose)]
  | cons x xs =>
    have hlength : (x :: xs).length ≤ (separated ((x :: xs).map write)).length := by
      rw [← List.length_map write]
      refine length_le_separated fun t ht => ?_
      obtain ⟨y, hy, rfl⟩ := List.mem_map.mp ht
      obtain ⟨c, cs, hcs, -⟩ := (h y hy).starts
      rw [hcs]
      exact List.cons_ne_nil c cs
    obtain ⟨c, cs, hcs, hspace, hbrackets⟩ := exists_separated_eq_cons h
    have hc : c ≠ close := by
      rcases hclose with rfl | rfl
      · exact hbrackets.1
      · exact hbrackets.2
    rw [hcs, List.length_cons, List.length_cons] at hlength
    have hfuel : xs.length < (cs ++ close :: rest).length + 1 := by
      rw [List.length_append]
      omega
    have hitems := readItems_separated hclose h hfuel rest
    rw [hcs] at hitems ⊢
    simp only [readBracketed, List.cons_append, skipSpace_cons hspace, if_neg hc]
    exact hitems

end Items

/-! ### Members in order -/

section Members

variable {α : Type} {ms : List (String × α)}

/-- A name above all others comes last. -/
theorem insertMember_of_forall_lt {name : String} {v : α} (h : ∀ m ∈ ms, m.1 < name) :
    insertMember name v ms = ms ++ [(name, v)] := by
  induction ms with
  | nil => rfl
  | cons m ms ih =>
    have hm := h m List.mem_cons_self
    have hne : name ≠ m.1 := by
      intro he
      rw [he] at hm
      exact String.lt_irrefl _ hm
    rw [insertMember, if_neg (String.lt_asymm hm), if_neg hne,
      ih fun k hk => h k (List.mem_cons_of_mem _ hk)]
    rfl

/-- Members whose names ascend are in order. -/
theorem inOrder_eq_self (h : (ms.map (·.1)).Pairwise (· < ·)) : inOrder ms = ms := by
  have hfold (acc : List (String × α)) (hacc : ((acc ++ ms).map (·.1)).Pairwise (· < ·)) :
      ms.foldl (fun acc m => insertMember m.1 m.2 acc) acc = acc ++ ms := by
    clear h
    -- Each member goes behind those that are there already.
    induction ms generalizing acc with
    | nil => simp
    | cons m ms ih =>
      have hlast : ∀ k ∈ acc, k.1 < m.1 := by
        intro k hk
        rw [List.map_append, List.pairwise_append] at hacc
        exact hacc.2.2 k.1 (List.mem_map_of_mem hk) m.1 (by simp)
      rw [List.foldl_cons, insertMember_of_forall_lt hlast, ih _ (by simpa using hacc)]
      simp
  rw [inOrder, hfold [] (by simpa using h), List.nil_append]

end Members

/-! ### Arrays and objects

The facts about trees carry over to the values that are made of other values. -/

/-- All numbers in the value are integers. -/
def Value.isIntegral (v : Value) : Bool := v.tree.every Number.isInteger fun _ => true

namespace Value

variable {items : List Value} {members : List (String × Value)} {d : Nat}

theorem isIntegral_array : (array items).isIntegral ↔ ∀ v ∈ items, v.isIntegral := by
  rw [isIntegral, array, Tree.every_array, List.forall_mem_map]
  rfl

theorem isIntegral_ofMembers :
    (ofMembers members).isIntegral ↔ ∀ m ∈ inOrder members, m.2.isIntegral := by
  rw [isIntegral, ofMembers, Tree.every_object, List.forall_mem_map]
  exact and_iff_right rfl

theorem depthOfItems_le_iff {ts : List Tree} : depthOfItems ts ≤ d ↔ ∀ t ∈ ts, t.depth ≤ d := by
  induction ts with
  | nil => simp [depthOfItems]
  | cons t ts ih => rw [depthOfItems, Nat.max_le, ih, List.forall_mem_cons]

theorem depthOfMembers_le_iff {ms : List (String × Tree)} :
    depthOfMembers ms ≤ d ↔ ∀ m ∈ ms, m.2.depth ≤ d := by
  induction ms with
  | nil => simp [depthOfMembers]
  | cons m ms ih => rw [depthOfMembers, Nat.max_le, ih, List.forall_mem_cons]

theorem depth_array_le_iff : (array items).depth ≤ d + 1 ↔ ∀ v ∈ items, v.depth ≤ d := by
  rw [depth, array, Tree.depth, Nat.add_le_add_iff_right, depthOfItems_le_iff, List.forall_mem_map]
  rfl

theorem depth_ofMembers_le_iff :
    (ofMembers members).depth ≤ d + 1 ↔ ∀ m ∈ inOrder members, m.2.depth ≤ d := by
  rw [depth, ofMembers, Tree.depth, Nat.add_le_add_iff_right, depthOfMembers_le_iff,
    List.forall_mem_map]
  rfl

theorem itemTexts_eq_map (ts : List Tree) : itemTexts ts = ts.map Tree.text := by
  induction ts with
  | nil => rfl
  | cons t ts ih => rw [itemTexts, ih, List.map_cons]

theorem memberTexts_eq_map (ms : List (String × Tree)) :
    memberTexts ms = ms.map fun m => memberText m.1 m.2.text := by
  induction ms with
  | nil => rfl
  | cons m ms ih => rw [memberTexts, ih, List.map_cons]

theorem text_array : (array items).text = '[' :: separated (items.map text) ++ [']'] := by
  rw [text, array, Tree.text, itemTexts_eq_map, List.map_map]
  rfl

theorem text_ofMembers :
    (ofMembers members).text =
      membersText ((inOrder members).map fun m => memberText m.1 m.2.text) := by
  rw [text, ofMembers, Tree.text, memberTexts_eq_map, List.map_map]
  rfl

theorem exists_items {ts : List Tree} (h : ∀ t ∈ ts, t.isOrdered = true) :
    ∃ items : List Value, items.map tree = ts := by
  refine ⟨ts.pmap mk h, ?_⟩
  rw [List.map_pmap, List.pmap_eq_map, List.map_id']

theorem exists_members {ms : List (String × Tree)} (h : ∀ m ∈ ms, m.2.isOrdered = true) :
    ∃ members : List (String × Value), members.map (fun m => (m.1, m.2.tree)) = ms := by
  refine ⟨ms.pmap (fun m hm => (m.1, ⟨m.2, hm⟩)) h, ?_⟩
  simp [List.map_pmap]

/-- What a value is made of: the members of an object are given in order. -/
@[elab_as_elim, cases_eliminator]
theorem cases {motive : Value → Prop} (v : Value) (null : motive null)
    (bool : ∀ b, motive (bool b)) (number : ∀ n, motive (number n))
    (string : ∀ s, motive (string s)) (array : ∀ items, motive (array items))
    (object : ∀ members, inOrder members = members → motive (ofMembers members)) : motive v := by
  obtain ⟨tree, ordered⟩ := v
  match tree with
  | .null => exact null
  | .bool b => exact bool b
  | .number n => exact number n
  | .string s => exact string s
  | .array ts =>
    obtain ⟨items, rfl⟩ := exists_items (Tree.every_array.mp ordered)
    exact array items
  | .object ms =>
    obtain ⟨hnames, hms⟩ := Tree.isOrdered_object.mp ordered
    obtain ⟨members, rfl⟩ := exists_members hms
    have horder : inOrder members = members := by
      rw [List.map_map] at hnames
      exact inOrder_eq_self hnames
    have hv : (⟨_, ordered⟩ : Value) = ofMembers members := by
      ext1
      simp only [ofMembers, horder]
    rw [hv]
    exact object members horder

end Value

/-! ### Values -/

theorem reads_stringText (d : Nat) (s : String) :
    Reads (readValue d) (stringText s) (.string s) where
  starts := ⟨'"', _, rfl, by decide⟩
  read := by
    intro rest _
    rw [stringText, List.cons_append, List.cons_append, List.append_assoc, readValue]
    simp [readString_flatMap_escape]

/-- A member reads as itself if its value does. -/
theorem Reads.member {α : Type} {value : Reader α} {t : List Char} {v : α} (h : Reads value t v)
    (name : String) : Reads (readMember value) (memberText name t) (name, v) where
  starts := ⟨'"', _, rfl, by decide⟩
  read := by
    intro rest hrest
    have hcolon : isSpace ':' = false := rfl
    have hv := h.read hrest
    simp [memberText, stringText, readMember, readString_flatMap_escape, skipSpace_cons hcolon,
      h.skipSpace, hv]

theorem reads_numberText {n : Number} (hn : n.isInteger) (d : Nat) :
    Reads (readValue d) n.text (.number n) := by
  -- The text begins with a digit or a sign, and so with nothing else that a value begins with.
  have hfront : ∃ c cs, n.text = c :: cs ∧ (c = '-' ∨ c.isDigit) := by
    cases n with
    | natural n =>
      obtain ⟨c, cs, hcs, hc⟩ := Text.exists_digits_eq_cons n.toNat
      exact ⟨c, cs, hcs, .inr hc⟩
    | negative n => exact ⟨'-', _, rfl, .inl rfl⟩
    | float isNegative x => cases hn
  obtain ⟨c, cs, hcs, hc⟩ := hfront
  have hne {x : Char} (hx : x ≠ '-' ∧ x.isDigit = false) : c ≠ x := by
    rintro rfl
    rcases hc with rfl | hc
    · exact hx.1 rfl
    · exact absurd hc (by rw [hx.2]; decide)
  have hspace : isSpace c = false := by
    simp [isSpace, hne (x := ' ') (by decide), hne (x := '\t') (by decide),
      hne (x := '\n') (by decide), hne (x := '\r') (by decide)]
  refine ⟨⟨c, cs, hcs, hspace, hne (by decide), hne (by decide)⟩, fun {rest} hrest => ?_⟩
  have hnumber := readNumber_text hn hrest
  rw [hcs, List.cons_append] at hnumber ⊢
  rw [readValue, hnumber, Option.map_some]
  · rintro tail ⟨⟩
    exact hne (x := '"') (by decide) rfl
  · rintro tail ⟨⟩
    exact hne (x := '[') (by decide) rfl
  · rintro tail ⟨⟩
    exact hne (x := '\x7b') (by decide) rfl
  · rintro tail ⟨⟩
    exact hne (x := 'n') (by decide) rfl
  · rintro tail ⟨⟩
    exact hne (x := 't') (by decide) rfl
  · rintro tail ⟨⟩
    exact hne (x := 'f') (by decide) rfl

theorem readLiteral_append (name : List Char) (v : Value) (rest : List Char) :
    readLiteral name v (name ++ rest) = some (v, rest) := by
  have hprefix : name.isPrefixOf? (name ++ rest) = some rest :=
    List.isPrefixOf?_eq_some_iff_append_eq.mpr rfl
  rw [readLiteral, hprefix, Option.map_some]

theorem reads_null (d : Nat) : Reads (readValue d) Value.null.text .null where
  starts := ⟨'n', _, rfl, by decide⟩
  read := by
    intro rest _
    show readValue d ('n' :: _) = _
    rw [readValue]
    exact readLiteral_append ['n', 'u', 'l', 'l'] .null rest

theorem reads_bool (d : Nat) (b : Bool) : Reads (readValue d) (Value.bool b).text (.bool b) := by
  cases b with
  | true =>
    refine ⟨⟨'t', _, rfl, by decide⟩, fun {rest} _ => ?_⟩
    show readValue d ('t' :: _) = _
    rw [readValue]
    exact readLiteral_append ['t', 'r', 'u', 'e'] (.bool true) rest
  | false =>
    refine ⟨⟨'f', _, rfl, by decide⟩, fun {rest} _ => ?_⟩
    show readValue d ('f' :: _) = _
    rw [readValue]
    exact readLiteral_append ['f', 'a', 'l', 's', 'e'] (.bool false) rest

theorem reads_array {items : List Value} {d : Nat} (h : ∀ v ∈ items, Reads (readValue d) v.text v) :
    Reads (readValue (d + 1)) (Value.array items).text (.array items) where
  starts := ⟨'[', _, Value.text_array, by decide⟩
  read := by
    intro rest _
    have hitems := readBracketed_separated (.inl rfl) h rest
    rw [Value.text_array, List.cons_append, List.cons_append, List.append_assoc, readValue,
      List.singleton_append, hitems, Option.map_some]

theorem reads_object {members : List (String × Value)} {d : Nat} (horder : inOrder members = members)
    (h : ∀ m ∈ members, Reads (readValue d) m.2.text m.2) :
    Reads (readValue (d + 1)) (Value.ofMembers members).text (.ofMembers members) where
  starts := ⟨'\x7b', _, Value.text_ofMembers, by decide⟩
  read := by
    intro rest _
    have hmembers := readBracketed_separated (.inr rfl) (fun m hm => (h m hm).member m.1) rest
    rw [Value.text_ofMembers, horder, membersText, List.cons_append, List.cons_append,
      List.append_assoc, readValue, List.singleton_append, hmembers, Option.map_some]

theorem reads_of_depth_eq_zero {v : Value} (h : v.depth = 0) (hintegral : v.isIntegral) (d : Nat) :
    Reads (readValue d) v.text v := by
  cases v with
  | null => exact reads_null d
  | bool b => exact reads_bool d b
  | number n => exact reads_numberText hintegral d
  | string s => exact reads_stringText d s
  | array items => cases h
  | object members => cases h

/-- **A value reads as itself**, to the depth at which it is nested. -/
theorem reads_text {v : Value} {d : Nat} (hdepth : v.depth ≤ d) (hintegral : v.isIntegral) :
    Reads (readValue d) v.text v := by
  induction d generalizing v with
  | zero => exact reads_of_depth_eq_zero (Nat.le_zero.mp hdepth) hintegral 0
  | succ d ih =>
    cases v with
    | array items =>
      have hdepth := Value.depth_array_le_iff.mp hdepth
      have hintegral := Value.isIntegral_array.mp hintegral
      exact reads_array fun v hv => ih (hdepth v hv) (hintegral v hv)
    | object members horder =>
      have hdepth := Value.depth_ofMembers_le_iff.mp hdepth
      have hintegral := Value.isIntegral_ofMembers.mp hintegral
      -- What holds of the members in order holds of all, since these are in order already.
      rw [horder] at hdepth hintegral
      exact reads_object horder fun m hm => ih (hdepth m hm) (hintegral m hm)
    | _ => exact reads_of_depth_eq_zero rfl hintegral _

/-! ### What is read -/

section Read

variable {α : Type} {P : α → Prop} {item : Reader α} {close : Char}

/-- What holds of whatever an item is taken for holds of all items. -/
theorem forall_of_readItems (h : ∀ cs x rest, item cs = some (x, rest) → P x) {fuel : Nat}
    {cs rest : List Char} {xs : List α} (hread : readItems item close fuel cs = some (xs, rest)) :
    ∀ x ∈ xs, P x := by
  induction fuel generalizing cs xs rest with
  | zero => cases hread
  | succ fuel ih =>
    rw [readItems] at hread
    obtain ⟨⟨x, tail⟩, hx, hread⟩ := Option.bind_eq_some_iff.mp hread
    have hP := h _ _ _ hx
    dsimp only at hread
    split at hread
    · split at hread
      · obtain ⟨⟨ys, tail'⟩, hys, hread⟩ := Option.bind_eq_some_iff.mp hread
        obtain ⟨rfl, -⟩ := Prod.mk.inj (Option.some.inj hread)
        exact List.forall_mem_cons.mpr ⟨hP, ih hys⟩
      · split at hread
        · obtain ⟨rfl, -⟩ := Prod.mk.inj (Option.some.inj hread)
          simpa using hP
        · cases hread
    · cases hread

theorem forall_of_readBracketed (h : ∀ cs x rest, item cs = some (x, rest) → P x)
    {cs rest : List Char} {xs : List α} (hread : readBracketed item close cs = some (xs, rest)) :
    ∀ x ∈ xs, P x := by
  unfold readBracketed at hread
  split at hread
  · cases hread
  · split at hread
    · obtain ⟨rfl, -⟩ := Prod.mk.inj (Option.some.inj hread)
      simp
    · exact forall_of_readItems h hread

theorem of_readMember {value : Reader α} (h : ∀ cs x rest, value cs = some (x, rest) → P x)
    {cs rest : List Char} {m : String × α} (hread : readMember value cs = some (m, rest)) :
    P m.2 := by
  unfold readMember at hread
  split at hread
  · obtain ⟨⟨name, tail⟩, -, hread⟩ := Option.bind_eq_some_iff.mp hread
    dsimp only at hread
    split at hread
    · obtain ⟨⟨v, tail'⟩, hv, hread⟩ := Option.bind_eq_some_iff.mp hread
      obtain ⟨rfl, -⟩ := Prod.mk.inj (Option.some.inj hread)
      exact h _ _ _ hv
    · cases hread
  · cases hread

end Read

theorem readLiteral_eq_some {name cs rest : List Char} {v w : Value}
    (h : readLiteral name v cs = some (w, rest)) : w = v := by
  obtain ⟨tail, -, h⟩ := Option.map_eq_some_iff.mp h
  exact (Prod.mk.inj h).1.symm

/-- What can be read: a value without nesting, an array of values that are read to one depth less,
or an object of such values. -/
theorem readValue_cases {d : Nat} {cs rest : List Char} {v : Value}
    (h : readValue d cs = some (v, rest)) :
    v.depth = 0 ∨
    (∃ e tail items, d = e + 1 ∧ v = .array items ∧
      readBracketed (readValue e) ']' tail = some (items, rest)) ∨
    ∃ e tail members, d = e + 1 ∧ v = .ofMembers members ∧
      readBracketed (readMember (readValue e)) '\x7d' tail = some (members, rest) := by
  rw [readValue.eq_def] at h
  split at h
  · obtain ⟨r, -, h⟩ := Option.map_eq_some_iff.mp h
    obtain ⟨rfl, -⟩ := Prod.mk.inj h
    exact .inl rfl
  · next tail =>
    cases d with
    | zero => cases h
    | succ e =>
      obtain ⟨⟨items, tail'⟩, hitems, h⟩ := Option.map_eq_some_iff.mp h
      obtain ⟨rfl, rfl⟩ := Prod.mk.inj h
      exact .inr (.inl ⟨e, tail, items, rfl, rfl, hitems⟩)
  · next tail =>
    cases d with
    | zero => cases h
    | succ e =>
      obtain ⟨⟨members, tail'⟩, hmembers, h⟩ := Option.map_eq_some_iff.mp h
      obtain ⟨rfl, rfl⟩ := Prod.mk.inj h
      exact .inr (.inr ⟨e, tail, members, rfl, rfl, hmembers⟩)
  · exact .inl (by rw [readLiteral_eq_some h]; rfl)
  · exact .inl (by rw [readLiteral_eq_some h]; rfl)
  · exact .inl (by rw [readLiteral_eq_some h]; rfl)
  · obtain ⟨r, -, h⟩ := Option.map_eq_some_iff.mp h
    obtain ⟨rfl, -⟩ := Prod.mk.inj h
    exact .inl rfl

/-- **What is read is no deeper than allowed.** -/
theorem depth_le_of_readValue {d : Nat} {cs rest : List Char} {v : Value}
    (h : readValue d cs = some (v, rest)) : v.depth ≤ d := by
  induction d generalizing cs rest v with
  | zero =>
    rcases readValue_cases h with hv | ⟨e, -, -, he, -⟩ | ⟨e, -, -, he, -⟩
    · exact Nat.le_of_eq hv
    · cases he
    · cases he
  | succ d ih =>
    rcases readValue_cases h with hv | ⟨e, tail, items, he, rfl, hitems⟩ |
      ⟨e, tail, members, he, rfl, hmembers⟩
    · exact hv ▸ Nat.zero_le _
    · cases he
      exact Value.depth_array_le_iff.mpr (forall_of_readBracketed (fun _ _ _ => ih) hitems)
    · cases he
      have hall := forall_of_readBracketed (P := fun m : String × Value => m.2.depth ≤ d)
        (fun _ _ _ => of_readMember fun _ _ _ => ih) hmembers
      exact Value.depth_ofMembers_le_iff.mpr fun m hm => hall m ((inOrder_spec members).2 m hm)

end Econet.Json
