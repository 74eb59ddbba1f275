import Econet.Text.Blank

/-!
# Texts cut into pieces and words

A text is cut at its first separator, and what follows is cut again. Between blanks stand the words
of a text. Which words these are says all about the text, but for the blanks around them.

## Main definitions

* `IsWord w`: a text of at least one character, without any blank
* `AllBlank x`: a text of blanks
* `spaced ws`: words with one space between each two

## Main results

* `splitOnce_eq_none_iff`: a text without a separator is not cut
* `pieces_eq_cons_iff`: where a text is cut first
* `pieces_append`: the pieces of two texts put together
* `fields_eq_cons_iff`, `fields_eq_nil_iff`: the first word of a text
* `fields_eq_pair_iff`: the texts of two words
* `fields_spaced`: words are read off a text that spaces them
-/

namespace Econet.Text

variable {p : Char → Bool} {cs a b u v w x : List Char} {ws front back : List (List Char)} {c : Char}

/-! ### Pieces -/

theorem splitOnce_eq_none_iff : splitOnce p cs = none ↔ ∀ c ∈ cs, p c = false := by
  induction cs with
  | nil => simp [splitOnce]
  | cons c cs ih =>
    rw [splitOnce, List.forall_mem_cons, ← ih]
    cases p c <;> simp

/-- A text is cut at its first separator, and then behind that. -/
theorem pieces_eq (p : Char → Bool) (cs : List Char) :
    pieces p cs = (splitOnce p cs).elim [cs] fun r => r.1 :: pieces p r.2 := by
  induction cs with
  | nil => rfl
  | cons c cs ih =>
    rw [pieces, splitOnce]
    cases hc : p c with
    | true => rfl
    | false =>
      simp only [Bool.false_eq_true, if_false]
      rw [ih]
      cases splitOnce p cs <;> rfl

theorem pieces_of_forall (h : ∀ c ∈ cs, p c = false) : pieces p cs = [cs] := by
  rw [pieces_eq, splitOnce_eq_none_iff.mpr h]
  rfl

theorem pieces_append_cons (ha : ∀ c ∈ a, p c = false) (hc : p c = true) (b : List Char) :
    pieces p (a ++ c :: b) = a :: pieces p b := by
  rw [pieces_eq, splitOnce_append ha hc]
  rfl

/-- **Where a text is cut first.** -/
theorem pieces_eq_cons_iff : pieces p cs = w :: ws ↔ (∀ c ∈ w, p c = false) ∧
    ((cs = w ∧ ws = []) ∨ ∃ c rest, p c = true ∧ cs = w ++ c :: rest ∧ pieces p rest = ws) := by
  constructor
  · intro h
    rw [pieces_eq] at h
    cases hs : splitOnce p cs with
    | none =>
      rw [hs] at h
      cases h
      exact ⟨splitOnce_eq_none_iff.mp hs, .inl ⟨rfl, rfl⟩⟩
    | some r =>
      rw [hs] at h
      cases h
      obtain ⟨hr, c, hc, hcs⟩ := splitOnce_eq_some hs
      exact ⟨hr, .inr ⟨c, r.2, hc, hcs, rfl⟩⟩
  · rintro ⟨hw, ⟨rfl, rfl⟩ | ⟨c, rest, hc, rfl, rfl⟩⟩
    · exact pieces_of_forall hw
    · exact pieces_append_cons hw hc rest

theorem pieces_eq_singleton_iff : pieces p cs = [w] ↔ cs = w ∧ ∀ c ∈ w, p c = false := by
  rw [pieces_eq_cons_iff]
  constructor
  · rintro ⟨hw, ⟨hcs, -⟩ | ⟨c, rest, -, -, hrest⟩⟩
    · exact ⟨hcs, hw⟩
    · exact absurd hrest (pieces_ne_nil p rest)
  · rintro ⟨hcs, hw⟩
    exact ⟨hw, .inl ⟨hcs, rfl⟩⟩

/-- **The pieces of two texts put together.** The last piece of the one and the first piece of the
other become one. -/
theorem pieces_append (ha : pieces p a = front ++ [u]) (hb : pieces p b = v :: back) :
    pieces p (a ++ b) = front ++ (u ++ v) :: back := by
  induction front generalizing a with
  | nil =>
    obtain ⟨rfl, hu⟩ := pieces_eq_singleton_iff.mp ha
    obtain ⟨hv, hrest⟩ := pieces_eq_cons_iff.mp hb
    refine pieces_eq_cons_iff.mpr ⟨?_, ?_⟩
    · intro c hc
      rcases List.mem_append.mp hc with hc | hc
      · exact hu c hc
      · exact hv c hc
    · rcases hrest with ⟨rfl, rfl⟩ | ⟨c, rest, hc, rfl, rfl⟩
      · exact .inl ⟨rfl, rfl⟩
      · exact .inr ⟨c, rest, hc, by simp, rfl⟩
  | cons w front ih =>
    obtain ⟨hw, ⟨-, hnil⟩ | ⟨c, rest, hc, rfl, hrest⟩⟩ := pieces_eq_cons_iff.mp ha
    · exact absurd hnil (by simp)
    · rw [List.append_assoc, List.cons_append, pieces_append_cons hw hc, ih hrest,
        List.cons_append]

theorem exists_pieces_eq_concat (p : Char → Bool) (cs : List Char) :
    ∃ front u, pieces p cs = front ++ [u] := by
  rcases List.eq_nil_or_concat (pieces p cs) with h | ⟨front, u, h⟩
  · exact absurd h (pieces_ne_nil p cs)
  · exact ⟨front, u, by rw [h, List.concat_eq_append]⟩

theorem exists_pieces_eq_cons (p : Char → Bool) (cs : List Char) :
    ∃ v back, pieces p cs = v :: back :=
  List.exists_cons_of_ne_nil (pieces_ne_nil p cs)

/-! ### Words -/

/-- A text of at least one character, none of them blank. -/
def IsWord (w : List Char) : Prop := w ≠ [] ∧ ∀ c ∈ w, isBlank c = false

/-- A text of blanks. -/
def AllBlank (x : List Char) : Prop := ∀ c ∈ x, isBlank c = true

theorem IsWord.fields (h : IsWord w) : fields w = [w] := by
  rw [Text.fields, pieces_of_forall h.2]
  simp [h.1]

theorem IsWord.fields_append_cons (h : IsWord w) (hc : isBlank c = true) (cs : List Char) :
    Text.fields (w ++ c :: cs) = w :: Text.fields cs := by
  rw [Text.fields, pieces_append_cons h.2 hc]
  simp [Text.fields, h.1]

theorem fields_cons_of_isBlank (hc : isBlank c = true) (cs : List Char) :
    fields (c :: cs) = fields cs := by
  rw [fields, pieces, if_pos hc]
  rfl

theorem AllBlank.fields_append (h : AllBlank x) (cs : List Char) :
    fields (x ++ cs) = fields cs := by
  induction x with
  | nil => rfl
  | cons c x ih =>
    obtain ⟨hc, hx⟩ := List.forall_mem_cons.mp h
    rw [List.cons_append, fields_cons_of_isBlank hc, ih hx]

/-- A text that does not start with a blank starts with a word, up to its first blank. -/
theorem fields_cons_of_not_isBlank (hc : isBlank c = false) (cs : List Char) :
    (IsWord (c :: cs) ∧ fields (c :: cs) = [c :: cs]) ∨
      ∃ w d rest, IsWord w ∧ isBlank d = true ∧ c :: cs = w ++ d :: rest ∧
        fields (c :: cs) = w :: fields rest := by
  cases hs : splitOnce isBlank (c :: cs) with
  | none =>
    have hw : IsWord (c :: cs) := ⟨List.cons_ne_nil c cs, splitOnce_eq_none_iff.mp hs⟩
    exact .inl ⟨hw, hw.fields⟩
  | some r =>
    obtain ⟨hr, d, hd, hcs⟩ := splitOnce_eq_some hs
    have hw : IsWord r.1 := by
      refine ⟨fun hnil => ?_, hr⟩
      rw [hnil] at hcs
      cases hcs
      cases hc.symm.trans hd
    exact .inr ⟨r.1, d, r.2, hw, hd, hcs, by rw [hcs, hw.fields_append_cons hd]⟩

/-- **The first word of a text.** -/
theorem fields_eq_cons_iff : fields cs = w :: ws ↔ IsWord w ∧ ∃ x, AllBlank x ∧
    ((cs = x ++ w ∧ ws = []) ∨
      ∃ c rest, isBlank c = true ∧ cs = x ++ (w ++ c :: rest) ∧ fields rest = ws) := by
  constructor
  · intro h
    -- Blanks in front are passed over, up to the word.
    induction cs with
    | nil => cases h
    | cons c cs ih =>
      cases hc : isBlank c with
      | true =>
        rw [fields_cons_of_isBlank hc] at h
        obtain ⟨hw, x, hx, hcs⟩ := ih h
        refine ⟨hw, c :: x, List.forall_mem_cons.mpr ⟨hc, hx⟩, ?_⟩
        rcases hcs with ⟨rfl, hws⟩ | ⟨d, rest, hd, rfl, hrest⟩
        · exact .inl ⟨rfl, hws⟩
        · exact .inr ⟨d, rest, hd, rfl, hrest⟩
      | false =>
        rcases fields_cons_of_not_isBlank hc cs with ⟨hw, he⟩ | ⟨v, d, rest, hw, hd, hcs, he⟩
        · cases he.symm.trans h
          exact ⟨hw, [], List.forall_mem_nil _, .inl ⟨rfl, rfl⟩⟩
        · cases he.symm.trans h
          exact ⟨hw, [], List.forall_mem_nil _, .inr ⟨d, rest, hd, hcs, rfl⟩⟩
  · rintro ⟨hw, x, hx, ⟨rfl, rfl⟩ | ⟨c, rest, hc, rfl, rfl⟩⟩
    · rw [hx.fields_append, hw.fields]
    · rw [hx.fields_append, hw.fields_append_cons hc]

theorem fields_eq_nil_iff : fields cs = [] ↔ AllBlank cs := by
  constructor
  · intro h
    induction cs with
    | nil => exact List.forall_mem_nil _
    | cons c cs ih =>
      cases hc : isBlank c with
      | true =>
        rw [fields_cons_of_isBlank hc] at h
        exact List.forall_mem_cons.mpr ⟨hc, ih h⟩
      | false =>
        rcases fields_cons_of_not_isBlank hc cs with ⟨-, he⟩ | ⟨v, d, rest, -, -, -, he⟩
        · cases he.symm.trans h
        · cases he.symm.trans h
  · intro h
    rw [← List.append_nil cs, h.fields_append]
    rfl

/-- **The texts of two words**: blanks stand between them, and may stand around them. -/
theorem fields_eq_pair_iff : fields cs = [v, w] ↔ IsWord v ∧ IsWord w ∧
    ∃ x y z, AllBlank x ∧ AllBlank y ∧ y ≠ [] ∧ AllBlank z ∧ cs = x ++ v ++ y ++ w ++ z := by
  constructor
  · intro h
    obtain ⟨hv, x, hx, ⟨-, hnil⟩ | ⟨c, rest, hc, rfl, hrest⟩⟩ := fields_eq_cons_iff.mp h
    · cases hnil
    obtain ⟨hw, y, hy, hcs⟩ := fields_eq_cons_iff.mp hrest
    have hcy : AllBlank (c :: y) := List.forall_mem_cons.mpr ⟨hc, hy⟩
    rcases hcs with ⟨rfl, -⟩ | ⟨d, z, hd, rfl, hz⟩
    · exact ⟨hv, hw, x, c :: y, [], hx, hcy, List.cons_ne_nil c y, List.forall_mem_nil _, by simp⟩
    · have hdz : AllBlank (d :: z) := List.forall_mem_cons.mpr ⟨hd, fields_eq_nil_iff.mp hz⟩
      exact ⟨hv, hw, x, c :: y, d :: z, hx, hcy, List.cons_ne_nil c y, hdz, by simp⟩
  · rintro ⟨hv, hw, x, y, z, hx, hy, hne, hz, rfl⟩
    obtain ⟨c, y, rfl⟩ := List.exists_cons_of_ne_nil hne
    obtain ⟨hc, hy⟩ := List.forall_mem_cons.mp hy
    have hlast : fields (w ++ z) = [w] := by
      cases z with
      | nil => rw [List.append_nil, hw.fields]
      | cons d z =>
        obtain ⟨hd, hz⟩ := List.forall_mem_cons.mp hz
        rw [hw.fields_append_cons hd, fields_eq_nil_iff.mpr hz]
    simp only [List.append_assoc, List.cons_append]
    rw [hx.fields_append, hv.fields_append_cons hc, AllBlank.fields_append hy, hlast]

/-! ### Words with spaces between them -/

/-- Words with one space between each two. -/
def spaced : List (List Char) → List Char
  | [] => []
  | [w] => w
  | w :: ws => w ++ ' ' :: spaced ws

theorem spaced_cons (w v : List Char) (ws : List (List Char)) :
    spaced (w :: v :: ws) = w ++ ' ' :: spaced (v :: ws) := rfl

/-- **Words are read off a text that spaces them.** -/
theorem fields_spaced (h : ∀ w ∈ ws, IsWord w) : fields (spaced ws) = ws := by
  induction ws with
  | nil => rfl
  | cons w ws ih =>
    obtain ⟨hw, hws⟩ := List.forall_mem_cons.mp h
    cases ws with
    | nil => exact hw.fields
    | cons v ws => rw [spaced_cons, hw.fields_append_cons (by decide), ih hws]

theorem eq_or_mem_of_mem_spaced (h : c ∈ spaced ws) : c = ' ' ∨ ∃ w ∈ ws, c ∈ w := by
  induction ws with
  | nil => cases h
  | cons w ws ih =>
    cases ws with
    | nil => exact .inr ⟨w, List.mem_singleton_self w, h⟩
    | cons v ws =>
      rw [spaced_cons, List.mem_append, List.mem_cons] at h
      rcases h with h | rfl | h
      · exact .inr ⟨w, List.mem_cons_self, h⟩
      · exact .inl rfl
      · rcases ih h with hc | ⟨u, hu, hc⟩
        · exact .inl hc
        · exact .inr ⟨u, List.mem_cons_of_mem w hu, hc⟩

end Econet.Text
