import Econet.Toml.Quoting

/-!
# Written strings

Every string reads as itself, whichever of the four forms it is written in. A basic form writes
characters one by one, so it is read one by one. In a form of several lines quotes may stand inside
the string, so the quotes just read count: up to two of them may still turn out to be the first of
those that close it.

## Main definitions

* `Writes c t`: in a basic string, `t` is a written form of the character `c`

## Main results

* `readBasic_basicBody`, `readLiteral_append`, `readLongBasic_longBasicBody`,
  `readLongLiteral_append`: the inside of each form reads as the string
* `readString_stringText`: every string reads as itself
-/

namespace Econet.Toml

open Text (hexPadded hexNumber?)

variable {c : Char} {cs t rest : List Char}

theorem ne_cons_of_head?_ne (h : t.head? ≠ some c) (u : List Char) : t ≠ c :: u := by
  rintro rfl
  exact h rfl

/-! ### Written characters -/

/-- What a basic string may hold for a character: the character, a backslash and a letter, or a
backslash and four digits. -/
inductive Writes (c : Char) : List Char → Prop where
  | plain (hcontrol : isControl c = false) (hquote : c ≠ '"') (hbackslash : c ≠ '\\') : Writes c [c]
  | letter {l : Char} (h : unescape? l = some c) : Writes c ['\\', l]
  | digits {d₁ d₂ d₃ d₄ : Char} (h : charOf? [d₁, d₂, d₃, d₄] = some c) :
    Writes c ['\\', 'u', d₁, d₂, d₃, d₄]

/-- The four digits of a character below U+0080. -/
theorem hexPadded_ascii : ∀ {n : Nat}, n < 0x80 →
    (hexPadded 4 n).map Char.toUpper =
        ['0', '0', (Nat.digitChar (n / 16)).toUpper, (Nat.digitChar (n % 16)).toUpper] ∧
      hexNumber? ['0', '0', (Nat.digitChar (n / 16)).toUpper, (Nat.digitChar (n % 16)).toUpper] =
        some n := by
  decide

theorem writes_digits (h : c.toNat < 0x80) :
    Writes c ('\\' :: 'u' :: (hexPadded 4 c.toNat).map Char.toUpper) := by
  obtain ⟨hpadded, hnumber⟩ := hexPadded_ascii h
  rw [hpadded]
  refine .digits ?_
  have hvalid : c.toNat.isValidChar := c.valid
  rw [charOf?, hnumber]
  simp [hvalid, Char.ofNat_toNat]

theorem toNat_lt_of_isControl (h : isControl c) : c.toNat < 0x80 := by
  simp only [isControl, Bool.or_eq_true, Bool.and_eq_true, decide_eq_true_eq] at h
  omega

theorem writes_escape (hquote : c ≠ '"') : Writes c (escape c) := by
  have hletter {n : Nat} {l : Char} (hn : c.toNat = n) (h : unescape? l = some (Char.ofNat n)) :
      Writes c ['\\', l] := by
    rw [← hn, Char.ofNat_toNat] at h
    exact .letter h
  unfold escape
  split
  · next h => exact .letter (by rw [h]; rfl)
  · next hbackslash =>
    split
    · next h => exact hletter h rfl
    split
    · next h => exact .letter (by rw [h]; rfl)
    split
    · next h => exact hletter h rfl
    split
    · next h => exact .letter (by rw [h]; rfl)
    split
    · next h => exact writes_digits (toNat_lt_of_isControl h)
    · next h => exact .plain (Bool.eq_false_iff.mpr h) hquote hbackslash

/-- A character as a string of one line has it. -/
theorem writes_basic (c : Char) :
    Writes c (if c = '"' then ['\\', '"'] else if c = '\n' then ['\\', 'n'] else escape c) := by
  split
  · next h => exact .letter (by rw [h]; rfl)
  · next hquote =>
    split
    · next h => exact .letter (by rw [h]; rfl)
    · exact writes_escape hquote

/-- A written character begins with no quote and no control character. -/
theorem Writes.exists_eq_cons (h : Writes c t) :
    ∃ d u, t = d :: u ∧ d ≠ '"' ∧ isControl d = false := by
  cases h with
  | plain hcontrol hquote => exact ⟨c, [], rfl, hquote, hcontrol⟩
  | letter => exact ⟨'\\', _, rfl, by decide, rfl⟩
  | digits => exact ⟨'\\', _, rfl, by decide, rfl⟩

/-- The letters after a backslash. -/
theorem letter_cases {l : Char} (h : unescape? l = some c) :
    l = 'b' ∨ l = 't' ∨ l = 'n' ∨ l = 'f' ∨ l = 'r' ∨ l = '"' ∨ l = '\\' := by
  simp only [unescape?] at h
  grind

/-! ### Basic strings of one line -/

theorem readBasic_writes (h : Writes c t) (rest : List Char) :
    readBasic (t ++ rest) = consChar c (readBasic rest) := by
  cases h with
  | plain hcontrol hquote hbackslash => simp [readBasic, hcontrol, hbackslash]
  | letter h =>
    rcases letter_cases h with rfl | rfl | rfl | rfl | rfl | rfl | rfl <;> simp [readBasic, h]
  | digits h => simp [readBasic, h]

theorem readBasic_basicBody (cs rest : List Char) :
    readBasic (basicBody cs ++ '"' :: rest) = some (cs, rest) := by
  induction cs with
  | nil => simp [basicBody, readBasic]
  | cons c cs ih =>
    rw [basicBody, List.flatMap_cons, List.append_assoc, readBasic_writes (writes_basic c)]
    exact congrArg (consChar c) ih

/-! ### Literal strings of one line -/

theorem readLiteral_append (h : ∀ c ∈ cs, isControl c = false ∧ c ≠ '\'') (rest : List Char) :
    readLiteral (cs ++ '\'' :: rest) = some (cs, rest) := by
  induction cs with
  | nil => simp [readLiteral]
  | cons c cs ih =>
    obtain ⟨⟨hcontrol, hquote⟩, hcs⟩ := List.forall_mem_cons.mp h
    simp [readLiteral, hcontrol, ih hcs, consChar]

/-! ### Basic strings of several lines -/

theorem readLongBasic_newline (rest : List Char) :
    readLongBasic false ('\n' :: rest) = consChar '\n' (readLongBasic false rest) := by
  simp [readLongBasic]

theorem readLongBasic_writes (h : Writes c t) (rest : List Char) :
    readLongBasic false (t ++ rest) = consChar c (readLongBasic false rest) := by
  cases h with
  | plain hcontrol hquote hbackslash =>
    have hreturn : c ≠ '\r' := by
      rintro rfl
      cases hcontrol
    have hnewline : c ≠ '\n' := by
      rintro rfl
      cases hcontrol
    simp [readLongBasic, *]
  | letter h =>
    -- No letter is a space or a line break.
    rcases letter_cases h with rfl | rfl | rfl | rfl | rfl | rfl | rfl <;> cases rest <;>
      simp [readLongBasic, breaksLine, isSpace, h]
  | digits h => simp [readLongBasic, h]

/-- Up to two quotes with no third one behind them stand inside the string. -/
theorem readLongBasic_replicate {run : Nat} (hrun : run ≤ 2) (ht : t.head? ≠ some '"') :
    readLongBasic false (List.replicate run '"' ++ t) =
      (readLongBasic false t).map fun r => (List.replicate run '"' ++ r.1, r.2) := by
  have hthird : ∀ u, t ≠ '"' :: u := ne_cons_of_head?_ne ht
  obtain rfl | rfl | rfl : run = 0 ∨ run = 1 ∨ run = 2 := by omega
  · simp
  · simp [List.replicate, readLongBasic, hthird, isControl, consChar]
  · simp [List.replicate, readLongBasic, hthird, isControl, consChar, Function.comp_def]

/-- Up to two quotes before the three that close a string stand inside it. -/
theorem readLongBasic_close {run : Nat} (hrun : run ≤ 2) (hrest : rest.head? ≠ some '"') :
    readLongBasic false (List.replicate run '"' ++ '"' :: '"' :: '"' :: rest) =
      some (List.replicate run '"', rest) := by
  have hthird : ∀ u, rest ≠ '"' :: u := ne_cons_of_head?_ne hrest
  obtain rfl | rfl | rfl : run = 0 ∨ run = 1 ∨ run = 2 := by omega
  · simp [readLongBasic, hthird]
  · simp [List.replicate, readLongBasic, *]
  · simp [List.replicate, readLongBasic]

/-- What is written for a character with no quote at its front ends a run of quotes. -/
theorem readLongBasic_of_head?_ne {run : Nat} {u : List Char} (hrun : run ≤ 2)
    (ht : (t ++ u).head? ≠ some '"')
    (hread : readLongBasic false (t ++ u) = consChar c (readLongBasic false u))
    (hu : readLongBasic false u = some (cs, rest)) :
    readLongBasic false (List.replicate run '"' ++ (t ++ u)) =
      some (List.replicate run '"' ++ c :: cs, rest) := by
  rw [readLongBasic_replicate hrun ht, hread, hu]
  rfl

/-- The inside of the string, behind quotes that may still turn out to close it. -/
theorem readLongBasic_longBasicBody {run : Nat} (hrun : run ≤ 2) (hrest : rest.head? ≠ some '"')
    (cs : List Char) :
    readLongBasic false (List.replicate run '"' ++
        (longBasicBody run cs ++ '"' :: '"' :: '"' :: rest)) =
      some (List.replicate run '"' ++ cs, rest) := by
  induction cs generalizing run with
  | nil => rw [longBasicBody, List.nil_append, readLongBasic_close hrun hrest, List.append_nil]
  | cons c cs ih =>
    have hbody := ih (Nat.zero_le 2)
    rw [List.replicate_zero, List.nil_append, List.nil_append] at hbody
    by_cases hc : c = '"'
    · subst hc
      by_cases hlast : run = 2
      · -- The third quote of a run is escaped.
        have hquote : Writes '"' ['\\', '"'] := .letter rfl
        rw [longBasicBody, if_pos rfl, if_pos hlast]
        exact readLongBasic_of_head?_ne (t := ['\\', '"']) hrun (by simp)
          (readLongBasic_writes hquote _) hbody
      · have hnext := @ih (run + 1) (by omega)
        rw [List.replicate_succ', List.append_assoc, List.append_assoc] at hnext
        rw [longBasicBody, if_pos rfl, if_neg hlast]
        exact hnext
    · rw [longBasicBody, if_neg hc, List.append_assoc]
      by_cases hnewline : c = '\n'
      · subst hnewline
        rw [if_pos rfl]
        exact readLongBasic_of_head?_ne hrun (by simp) (readLongBasic_newline _) hbody
      · rw [if_neg hnewline]
        have hwrites := writes_escape hc
        obtain ⟨d, u, ht, hd, -⟩ := hwrites.exists_eq_cons
        refine readLongBasic_of_head?_ne hrun ?_ (readLongBasic_writes hwrites _) hbody
        simpa [ht] using hd

/-! ### Literal strings of several lines -/

theorem readLongLiteral_cons (hcontrol : needsEscape c = false) (hquote : c ≠ '\'')
    (rest : List Char) :
    readLongLiteral (c :: rest) = consChar c (readLongLiteral rest) := by
  by_cases hnewline : c = '\n'
  · subst hnewline
    simp [readLongLiteral]
  · have hplain : isControl c = false := by simpa [needsEscape, hnewline] using hcontrol
    have hreturn : c ≠ '\r' := by
      rintro rfl
      cases hplain
    simp [readLongLiteral, *]

theorem hasTriple_cons {q a : Char} (h : hasTriple q (a :: cs) = false) :
    hasTriple q cs = false := by
  cases cs with
  | nil => rfl
  | cons b cs =>
    cases cs with
    | nil => rfl
    | cons c cs =>
      rw [hasTriple, Bool.or_eq_false_iff] at h
      exact h.2

/-- Up to two quotes with no third one behind them stand inside the string. -/
theorem readLongLiteral_replicate {run : Nat} (hrun : run ≤ 2) (ht : t.head? ≠ some '\'') :
    readLongLiteral (List.replicate run '\'' ++ t) =
      (readLongLiteral t).map fun r => (List.replicate run '\'' ++ r.1, r.2) := by
  have hthird : ∀ u, t ≠ '\'' :: u := ne_cons_of_head?_ne ht
  obtain rfl | rfl | rfl : run = 0 ∨ run = 1 ∨ run = 2 := by omega
  · simp
  · simp [List.replicate, readLongLiteral, hthird, isControl, consChar]
  · simp [List.replicate, readLongLiteral, hthird, isControl, consChar, Function.comp_def]

/-- Up to two quotes before the three that close a string stand inside it. -/
theorem readLongLiteral_close {run : Nat} (hrun : run ≤ 2) (hrest : rest.head? ≠ some '\'') :
    readLongLiteral (List.replicate run '\'' ++ '\'' :: '\'' :: '\'' :: rest) =
      some (List.replicate run '\'', rest) := by
  have hthird : ∀ u, rest ≠ '\'' :: u := ne_cons_of_head?_ne hrest
  obtain rfl | rfl | rfl : run = 0 ∨ run = 1 ∨ run = 2 := by omega
  · simp [readLongLiteral, hthird]
  · simp [List.replicate, readLongLiteral, *]
  · simp [List.replicate, readLongLiteral]

theorem hasTriple_append {q : Char} (h : hasTriple q (t ++ cs) = false) :
    hasTriple q cs = false := by
  induction t with
  | nil => exact h
  | cons a t ih => exact ih (hasTriple_cons h)

/-- The inside of the string, behind quotes that may still turn out to close it. -/
theorem readLongLiteral_append {run : Nat} (hrun : run ≤ 2) (hrest : rest.head? ≠ some '\'')
    (hplain : ∀ c ∈ cs, needsEscape c = false)
    (htriple : hasTriple '\'' (List.replicate run '\'' ++ cs) = false) :
    readLongLiteral (List.replicate run '\'' ++ (cs ++ '\'' :: '\'' :: '\'' :: rest)) =
      some (List.replicate run '\'' ++ cs, rest) := by
  induction cs generalizing run with
  | nil => rw [List.nil_append, readLongLiteral_close hrun hrest, List.append_nil]
  | cons c cs ih =>
    obtain ⟨hc, hcs⟩ := List.forall_mem_cons.mp hplain
    by_cases hquote : c = '\''
    · subst hquote
      -- A third quote is not in the string, which would be written in another form.
      have hlast : run ≠ 2 := by
        rintro rfl
        simp [List.replicate, hasTriple] at htriple
      have hreplicate : List.replicate run '\'' ++ '\'' :: cs =
          List.replicate (run + 1) '\'' ++ cs := by
        rw [List.replicate_succ', List.append_assoc]
        rfl
      have hnext := @ih (run + 1) (by omega) hcs (hreplicate ▸ htriple)
      rw [List.replicate_succ', List.append_assoc, List.append_assoc] at hnext
      exact hnext
    · have hbody := ih (Nat.zero_le 2) hcs (hasTriple_cons (hasTriple_append htriple))
      rw [List.replicate_zero, List.nil_append, List.nil_append] at hbody
      rw [readLongLiteral_replicate hrun (by simpa using hquote), List.cons_append,
        readLongLiteral_cons hc hquote, hbody]
      rfl

/-! ### Forms -/

/-- What a literal form of one line is chosen for. -/
theorem of_formOf_literal (h : formOf cs = .literal) :
    ∀ c ∈ cs, isControl c = false ∧ c ≠ '\'' := by
  intro c hc
  simp only [formOf] at h
  split at h
  · cases h
  split at h
  · next hform =>
    simp only [Bool.and_eq_true, Bool.not_eq_true', List.any_eq_false, List.contains_eq_mem,
      decide_eq_false_iff_not] at hform
    obtain ⟨⟨hplain, hshort⟩, hquote⟩ := hform
    have hnewline : c ≠ '\n' := fun h => hshort (h ▸ hc)
    exact ⟨by simpa [needsEscape, hnewline] using hplain c hc, fun h => hquote (h ▸ hc)⟩
  split at h
  · cases h
  split at h
  · cases h
  split at h <;> cases h

/-- What a literal form of several lines is chosen for. -/
theorem of_formOf_longLiteral (h : formOf cs = .longLiteral) :
    (∀ c ∈ cs, needsEscape c = false) ∧ hasTriple '\'' cs = false := by
  simp only [formOf] at h
  split at h
  · cases h
  split at h
  · cases h
  split at h
  · cases h
  split at h
  · next hform =>
    simp only [Bool.and_eq_true, Bool.not_eq_true', List.any_eq_false] at hform
    exact ⟨fun c hc => Bool.eq_false_iff.mpr (hform.1 c hc), hform.2⟩
  split at h <;> cases h

/-- Nothing but the line break that opens a form is taken away behind its quotes. -/
theorem dropNewline_opening (h : '\n' ∉ cs → ∀ c ∈ t.head?, isControl c = false) :
    dropNewline (opening cs ++ t) = t := by
  by_cases hnewline : '\n' ∈ cs
  · simp [opening, hnewline, dropNewline]
  · have hopening : opening cs = [] := by simp [opening, hnewline]
    rw [hopening, List.nil_append]
    cases t with
    | nil => rfl
    | cons c t =>
      have hc := h hnewline c rfl
      unfold dropNewline
      split
      · next heq =>
        cases heq
        cases hc
      · next heq =>
        cases heq
        cases hc
      · rfl

theorem head?_longBasicBody (h : '\n' ∉ cs) :
    ∀ c ∈ (longBasicBody 0 cs ++ '"' :: t).head?, isControl c = false := by
  cases cs with
  | nil => simp [longBasicBody, isControl]
  | cons c cs =>
    by_cases hc : c = '"'
    · simp [longBasicBody, hc, isControl]
    · have hnewline : c ≠ '\n' := fun hc => h (hc ▸ List.mem_cons_self)
      obtain ⟨d, u, hu, -, hd⟩ := (writes_escape hc).exists_eq_cons
      simpa [longBasicBody, hc, hnewline, hu] using hd

theorem head?_of_needsEscape (hplain : ∀ c ∈ cs, needsEscape c = false) (h : '\n' ∉ cs) :
    ∀ c ∈ (cs ++ '\'' :: t).head?, isControl c = false := by
  cases cs with
  | nil => simp [isControl]
  | cons c cs =>
    have hnewline : c ≠ '\n' := fun hc => h (hc ▸ List.mem_cons_self)
    simpa [needsEscape, hnewline] using hplain c List.mem_cons_self

theorem readString_basic (hrest : rest.head? ≠ some '"') (cs : List Char) :
    readString ('"' :: (basicBody cs ++ '"' :: rest)) = some (String.ofList cs, rest) := by
  -- The quote that opens the form has no two others behind it.
  have hquotes (u : List Char) : basicBody cs ++ '"' :: rest ≠ '"' :: '"' :: u := by
    cases cs with
    | nil =>
      rintro ⟨⟩
      exact hrest rfl
    | cons c cs =>
      obtain ⟨d, v, hv, hd, -⟩ := (writes_basic c).exists_eq_cons
      simp [basicBody, hv, hd]
  simp [readString, readBasic_basicBody, *]

theorem readString_literal (hrest : rest.head? ≠ some '\'')
    (h : ∀ c ∈ cs, isControl c = false ∧ c ≠ '\'') :
    readString ('\'' :: (cs ++ '\'' :: rest)) = some (String.ofList cs, rest) := by
  have hquotes (u : List Char) : cs ++ '\'' :: rest ≠ '\'' :: '\'' :: u := by
    cases cs with
    | nil =>
      rintro ⟨⟩
      exact hrest rfl
    | cons c cs => simp [(h c List.mem_cons_self).2]
  simp [readString, readLiteral_append h, *]

theorem readString_longBasic (hrest : rest.head? ≠ some '"') (cs : List Char) :
    readString ('"' :: '"' :: '"' ::
        (opening cs ++ (longBasicBody 0 cs ++ '"' :: '"' :: '"' :: rest))) =
      some (String.ofList cs, rest) := by
  have hread := readLongBasic_longBasicBody (Nat.zero_le 2) hrest cs
  rw [List.replicate_zero, List.nil_append, List.nil_append] at hread
  rw [readString, dropNewline_opening head?_longBasicBody]
  simp only [hread, Option.map_some]

theorem readString_longLiteral (hrest : rest.head? ≠ some '\'')
    (hplain : ∀ c ∈ cs, needsEscape c = false) (htriple : hasTriple '\'' cs = false) :
    readString ('\'' :: '\'' :: '\'' :: (opening cs ++ (cs ++ '\'' :: '\'' :: '\'' :: rest))) =
      some (String.ofList cs, rest) := by
  have hread := readLongLiteral_append (Nat.zero_le 2) hrest hplain htriple
  rw [List.replicate_zero, List.nil_append, List.nil_append] at hread
  rw [readString, dropNewline_opening (head?_of_needsEscape hplain)]
  simp only [hread, Option.map_some]

/-- **Every string reads as itself** if no quote follows. -/
theorem readString_stringText (hbasic : rest.head? ≠ some '"') (hliteral : rest.head? ≠ some '\'')
    (s : String) : readString (stringText s ++ rest) = some (s, rest) := by
  have hs : String.ofList s.toList = s := String.ofList_toList
  cases hform : formOf s.toList with
  | basic => simpa [stringText, hform, hs] using readString_basic hbasic s.toList
  | literal =>
    simpa [stringText, hform, hs] using readString_literal hliteral (of_formOf_literal hform)
  | longBasic => simpa [stringText, hform, hs] using readString_longBasic hbasic s.toList
  | longLiteral =>
    obtain ⟨hplain, htriple⟩ := of_formOf_longLiteral hform
    simpa [stringText, hform, hs] using readString_longLiteral hliteral hplain htriple

end Econet.Toml
