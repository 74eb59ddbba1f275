import Econet.MapFile
import Econet.Proofs.Text.Trimming
import Mathlib.Data.List.Forall2
import Mathlib.Logic.Relation

/-!
# The lines of map files

A line is what stands between two line feeds, and its number is one more than the number of line
feeds before it. What counts of a line is its content, so that a text may be laid out in many ways:
blanks, comments, empty lines and carriage returns make no difference to what is read, and only the
number of the line that is reported tells them apart.

## Main definitions

* `IsLine text n line`: the line of a text with a number
* `contents text`: the contents of the lines that count
* `Reports read n ls e`: an error reports the first line that cannot be read
* `Inserts text text'`: something is inserted that does not count
* `SameLayout`: texts that differ by such insertions
* `SameButNumber`: results that differ in the number of the reported line at most

## Main results

* `isLine_iff`: the lines of a text are the pieces between its line feeds
* `parse_eq_ok_iff`, `parse_eq_error_iff`: what becomes of a text, line by line
* `SameLayout.contents_eq`: layout does not change the contents
* `SameLayout.parse`: layout changes the number of the reported line at most
-/

namespace Econet.MapFile

open Text (AllBlank isBlank trim lines pieces dropReturn)

variable {α : Type} {read : List Char → Except String α}
  {a b l line text text' u v x z : List Char} {front back ls : List (List Char)} {n : Nat}

/-! ### Lines as they stand -/

/-- The text ends where a line starts. -/
def AtStart (a : List Char) : Prop := a = [] ∨ ∃ rest, a = rest ++ ['\n']

/-- The text starts where a line ends. -/
def AtEnd (b : List Char) : Prop := b = [] ∨ ∃ rest, b = '\n' :: rest

/-- The line of a text with a number: one more than there are line feeds before it. -/
def IsLine (text : List Char) (n : Nat) (line : List Char) : Prop :=
  ∃ a b, text = a ++ (line ++ b) ∧ AtStart a ∧ AtEnd b ∧ '\n' ∉ line ∧ n = a.count '\n' + 1

/-- A text cut at its line feeds. -/
def rawLines (text : List Char) : List (List Char) := pieces (· == '\n') text

theorem rawLines_of_notMem (h : '\n' ∉ l) : rawLines l = [l] := by
  refine Text.pieces_of_forall fun c hc => ?_
  rw [beq_eq_false_iff_ne]
  rintro rfl
  exact h hc

theorem rawLines_append (ha : rawLines a = front ++ [u]) (hb : rawLines b = v :: back) :
    rawLines (a ++ b) = front ++ (u ++ v) :: back :=
  Text.pieces_append ha hb

/-- Characters in front of a text are in its first line. -/
theorem rawLines_append_of_notMem (hl : '\n' ∉ l) (hb : rawLines b = v :: back) :
    rawLines (l ++ b) = (l ++ v) :: back := by
  have hl : rawLines l = [] ++ [l] := rawLines_of_notMem hl
  exact rawLines_append hl hb

theorem rawLines_newline (b : List Char) : rawLines ('\n' :: b) = [] :: rawLines b := rfl

/-- A line and its line feed in front of a text. -/
theorem rawLines_append_newline (hl : '\n' ∉ l) (b : List Char) :
    rawLines (l ++ '\n' :: b) = l :: rawLines b := by
  have hlines := rawLines_append_of_notMem hl (rawLines_newline b)
  rwa [List.append_nil] at hlines

/-- The first line of a text. -/
theorem rawLines_eq_cons_iff : rawLines text = line :: back ↔ '\n' ∉ line ∧
    ((text = line ∧ back = []) ∨ ∃ rest, text = line ++ '\n' :: rest ∧ rawLines rest = back) := by
  have hline : (∀ c ∈ line, (c == '\n') = false) ↔ '\n' ∉ line := by
    constructor
    · intro h hmem
      exact absurd (h _ hmem) (by decide)
    · intro h c hc
      rw [beq_eq_false_iff_ne]
      rintro rfl
      exact h hc
  rw [rawLines, Text.pieces_eq_cons_iff, hline]
  refine and_congr_right fun _ => or_congr_right ?_
  constructor
  · rintro ⟨c, rest, hc, htext, hrest⟩
    rw [beq_iff_eq] at hc
    exact ⟨rest, by rw [htext, hc], hrest⟩
  · rintro ⟨rest, htext, hrest⟩
    exact ⟨'\n', rest, rfl, htext, hrest⟩

theorem length_rawLines (text : List Char) : (rawLines text).length = text.count '\n' + 1 := by
  obtain ⟨line, back, h⟩ := Text.exists_pieces_eq_cons (· == '\n') text
  -- One line after the other, each up to the next line feed.
  induction back generalizing text line with
  | nil =>
    obtain ⟨hline, ⟨rfl, -⟩ | ⟨rest, -, hrest⟩⟩ := rawLines_eq_cons_iff.mp h
    · rw [rawLines, h, List.count_eq_zero.mpr hline]
      rfl
    · exact absurd hrest (Text.pieces_ne_nil _ rest)
  | cons next back ih =>
    obtain ⟨hline, ⟨-, hnil⟩ | ⟨rest, rfl, hrest⟩⟩ := rawLines_eq_cons_iff.mp h
    · exact absurd hnil (List.cons_ne_nil next back)
    · have hlength : (rawLines rest).length = rest.count '\n' + 1 := ih rest next hrest
      rw [hrest] at hlength
      rw [rawLines, h, List.length_cons, hlength, List.count_append, List.count_cons_self,
        List.count_eq_zero.mpr hline]
      omega

theorem AtStart.rawLines (h : AtStart a) : ∃ front, rawLines a = front ++ [[]] := by
  rcases h with rfl | ⟨rest, rfl⟩
  · exact ⟨[], rfl⟩
  · obtain ⟨front, u, hrest⟩ := Text.exists_pieces_eq_concat (· == '\n') rest
    refine ⟨front ++ [u], ?_⟩
    rw [rawLines_append hrest (rawLines_newline []), List.append_nil, List.append_assoc]
    rfl

theorem AtEnd.rawLines (h : AtEnd b) : ∃ back, rawLines b = [] :: back := by
  rcases h with rfl | ⟨rest, rfl⟩
  · exact ⟨[], rfl⟩
  · exact ⟨_, rawLines_newline rest⟩

theorem AtStart.append (h : AtStart a) (l : List Char) : AtStart (l ++ '\n' :: a) := by
  rcases h with rfl | ⟨rest, rfl⟩
  · exact .inr ⟨l, rfl⟩
  · exact .inr ⟨l ++ '\n' :: rest, by simp⟩

/-- **The lines of a text are the pieces between its line feeds.** -/
theorem isLine_iff : IsLine text n line ↔
    ∃ front back, rawLines text = front ++ line :: back ∧ n = front.length + 1 := by
  constructor
  · rintro ⟨a, b, rfl, ha, hb, hline, rfl⟩
    obtain ⟨front, hfront⟩ := ha.rawLines
    obtain ⟨back, hback⟩ := hb.rawLines
    have hend : rawLines (line ++ b) = line :: back := by
      have hlines := rawLines_append_of_notMem hline hback
      rwa [List.append_nil] at hlines
    have hlength := length_rawLines a
    rw [hfront, List.length_append] at hlength
    exact ⟨front, back, rawLines_append hfront hend, by simpa using hlength.symm⟩
  -- Along the lines in front: each of them ends by a line feed, which is counted.
  · rintro ⟨front, back, h, rfl⟩
    induction front generalizing text with
    | nil =>
      obtain ⟨hline, ⟨rfl, -⟩ | ⟨rest, rfl, -⟩⟩ := rawLines_eq_cons_iff.mp h
      · exact ⟨[], [], by simp, .inl rfl, .inl rfl, hline, rfl⟩
      · exact ⟨[], '\n' :: rest, rfl, .inl rfl, .inr ⟨rest, rfl⟩, hline, rfl⟩
    | cons l front ih =>
      obtain ⟨hl, ⟨-, hnil⟩ | ⟨rest, rfl, hrest⟩⟩ := rawLines_eq_cons_iff.mp h
      · exact absurd hnil (by simp)
      · obtain ⟨a, b, rfl, ha, hb, hline, hcount⟩ := ih hrest
        refine ⟨l ++ '\n' :: a, b, by simp, ha.append l, hb, hline, ?_⟩
        rw [List.count_append, List.count_cons_self, List.count_eq_zero.mpr hl, List.length_cons]
        omega

/-! ### Contents -/

theorem content_of_comment (line z : List Char) : content (line ++ '#' :: z) = content line := by
  have hcut : (line ++ '#' :: z).takeWhile (· ≠ '#') = line.takeWhile (· ≠ '#') := by
    induction line with
    | nil => rfl
    | cons c line ih =>
      rw [List.cons_append, List.takeWhile_cons, List.takeWhile_cons, ih]
  rw [content, content, hcut]

theorem takeWhile_of_notMem (h : '#' ∉ line) : line.takeWhile (· ≠ '#') = line := by
  rw [List.takeWhile_eq_self_iff]
  intro c hc
  rw [decide_eq_true_eq]
  rintro rfl
  exact h hc

theorem takeWhile_of_allBlank (h : AllBlank x) : x.takeWhile (· ≠ '#') = x :=
  takeWhile_of_notMem fun hmem => absurd (h _ hmem) (by decide)

theorem content_append_of_allBlank (h : AllBlank x) (line : List Char) :
    content (line ++ x) = content line := by
  by_cases hline : '#' ∈ line
  · -- The blanks belong to a comment.
    obtain ⟨front, rest, rfl⟩ := List.append_of_mem hline
    rw [List.append_assoc, List.cons_append, content_of_comment, content_of_comment]
  · have hcut : line.takeWhile (· ≠ '#') = line := takeWhile_of_notMem hline
    have hall : (line ++ x).takeWhile (· ≠ '#') = line ++ x := by
      rw [List.takeWhile_append, hcut, if_pos rfl, takeWhile_of_allBlank h]
    rw [content, content, hcut, hall, Text.trim_append_of_allBlank h]

theorem content_blanks_append (h : AllBlank x) (line : List Char) :
    content (x ++ line) = content line := by
  have hcut : (x ++ line).takeWhile (· ≠ '#') = x ++ line.takeWhile (· ≠ '#') := by
    rw [List.takeWhile_append, takeWhile_of_allBlank h, if_pos rfl]
  rw [content, content, hcut, h.trim_append]

theorem content_nil : content [] = [] := rfl

theorem content_of_allBlank (h : AllBlank x) : content x = [] := by
  rw [← List.append_nil x, content_blanks_append h, content_nil]

theorem allBlank_return : AllBlank ['\r'] := by
  intro c hc
  rw [List.mem_singleton.mp hc]
  rfl

theorem content_dropReturn (line : List Char) : content (dropReturn line) = content line := by
  unfold dropReturn
  split
  · next h =>
    have hline : line = line.dropLast ++ ['\r'] := (List.dropLast_append_getLast? _ h).symm
    conv_rhs => rw [hline, content_append_of_allBlank allBlank_return]
  · rfl

/-- What counts of several lines. -/
def counting (ls : List (List Char)) : List (List Char) := (ls.map content).filter (· ≠ [])

/-- The contents of the lines of a text that count. -/
def contents (text : List Char) : List (List Char) := counting (rawLines text)

theorem content_mem_counting (hmem : line ∈ ls) (h : content line ≠ []) :
    content line ∈ counting ls := by
  rw [counting, List.mem_filter]
  exact ⟨List.mem_map_of_mem hmem, by simpa using h⟩

theorem counting_append (ls ms : List (List Char)) :
    counting (ls ++ ms) = counting ls ++ counting ms := by
  rw [counting, List.map_append, List.filter_append]
  rfl

theorem counting_cons (line : List Char) (ls : List (List Char)) :
    counting (line :: ls) =
      if content line = [] then counting ls else content line :: counting ls := by
  rw [counting, List.map_cons, List.filter_cons]
  by_cases h : content line = []
  · rw [if_pos h, if_neg (by simpa using h)]
    rfl
  · rw [if_neg h, if_pos (by simpa using h)]
    rfl

/-- Contents decide which number goes where. -/
theorem numbered_congr {ls ms : List (List Char)} (h : ls.map content = ms.map content) (n : Nat) :
    numbered n ls = numbered n ms := by
  induction ls generalizing ms n with
  | nil =>
    rw [List.map_nil, eq_comm, List.map_eq_nil_iff] at h
    rw [h]
  | cons line ls ih =>
    obtain ⟨other, ms, rfl, hline, hls⟩ := List.map_eq_cons_iff.mp h.symm
    rw [numbered, numbered, hline, ih hls.symm]

theorem numbered_concat_nil (n : Nat) (ls : List (List Char)) :
    numbered n (ls ++ [[]]) = numbered n ls := by
  induction ls generalizing n with
  | nil => rfl
  | cons line ls ih => rw [List.cons_append, numbered, numbered, ih]

/-- The lines that count are found among the pieces between line feeds: a carriage return before a
line feed is a blank, and after the last line feed an empty piece counts for nothing. -/
theorem rules_eq (text : List Char) : rules text = numbered 1 (rawLines text) := by
  obtain ⟨front, last, h⟩ := Text.exists_pieces_eq_concat (· == '\n') text
  have hfront : (front.map dropReturn).map content = front.map content := by
    rw [List.map_map]
    exact List.map_congr_left fun line _ => content_dropReturn line
  have hlines : lines text = front.map dropReturn ++ if last = [] then [] else [last] := by
    rw [lines, h, List.dropLast_concat, List.getLast?_concat]
    rfl
  rw [rules, hlines, rawLines, h]
  split
  · next hlast =>
    rw [hlast, numbered_concat_nil, List.append_nil]
    exact numbered_congr hfront 1
  · refine numbered_congr ?_ 1
    rw [List.map_append, List.map_append, hfront]

theorem map_snd_numbered (n : Nat) (ls : List (List Char)) :
    (numbered n ls).map (·.2) = counting ls := by
  induction ls generalizing n with
  | nil => rfl
  | cons line ls ih =>
    rw [counting_cons, numbered]
    split
    · exact ih (n + 1)
    · rw [List.map_cons, ih]

/-! ### What becomes of a text -/

/-- The line does not count, or it can be read. -/
def Passes (read : List Char → Except String α) (line : List Char) : Prop :=
  content line ≠ [] → ∃ r, read (content line) = .ok r

theorem readAll_eq_ok_iff {ns : List (Nat × List Char)} {rs : List α} :
    readAll read ns = .ok rs ↔ List.Forall₂ (fun c r => read c = .ok r) (ns.map (·.2)) rs := by
  induction ns generalizing rs with
  | nil =>
    rw [List.map_nil, List.forall₂_nil_left_iff, readAll, Except.ok.injEq, eq_comm]
  | cons entry ns ih =>
    obtain ⟨n, c⟩ := entry
    rw [List.map_cons, List.forall₂_cons_left_iff]
    constructor
    · intro h
      rw [readAll] at h
      split at h
      · cases h
      · next r hr =>
        split at h
        · cases h
        · next rest hrest =>
          cases h
          exact ⟨r, rest, hr, ih.mp hrest, rfl⟩
    · rintro ⟨r, rest, hr, hrest, rfl⟩
      simp only [readAll, hr, ih.mpr hrest]

/-- The error reports the first of several lines that cannot be read, by its number. -/
def Reports (read : List Char → Except String α) (n : Nat) (ls : List (List Char)) (e : Error) :
    Prop :=
  ∃ front line back message, ls = front ++ line :: back ∧ (∀ l ∈ front, Passes read l) ∧
    content line ≠ [] ∧ read (content line) = .error message ∧ e = .line (n + front.length) message

theorem not_reports_nil {e : Error} : ¬ Reports read n [] e := by
  rintro ⟨front, line, back, -, hnil, -⟩
  exact absurd hnil (by simp)

/-- The first line is the one that is reported, or it passes. -/
theorem reports_cons_iff {e : Error} : Reports read n (line :: ls) e ↔
    (content line ≠ [] ∧ ∃ message, read (content line) = .error message ∧ e = .line n message) ∨
      (Passes read line ∧ Reports read (n + 1) ls e) := by
  constructor
  · rintro ⟨front, other, back, message, hls, hfront, hother, hread, he⟩
    rcases List.cons_eq_append_iff.mp hls with ⟨rfl, hfirst⟩ | ⟨front, rfl, rfl⟩
    · cases hfirst
      exact .inl ⟨hother, message, hread, he⟩
    · obtain ⟨hpass, hfront⟩ := List.forall_mem_cons.mp hfront
      refine .inr ⟨hpass, front, other, back, message, rfl, hfront, hother, hread, ?_⟩
      rw [he, List.length_cons, Nat.add_right_comm, Nat.add_assoc]
  · rintro (⟨hline, message, hread, he⟩ | ⟨hpass, front, other, back, message, rfl, h⟩)
    · exact ⟨[], line, ls, message, rfl, List.forall_mem_nil _, hline, hread, he⟩
    · obtain ⟨hfront, hother, hread, he⟩ := h
      refine ⟨line :: front, other, back, message, rfl, List.forall_mem_cons.mpr ⟨hpass, hfront⟩,
        hother, hread, ?_⟩
      rw [he, List.length_cons, Nat.add_right_comm, Nat.add_assoc]

theorem readAll_numbered_eq_error_iff {e : Error} :
    readAll read (numbered n ls) = .error e ↔ Reports read n ls e := by
  induction ls generalizing n with
  | nil =>
    refine ⟨fun h => ?_, fun h => absurd h not_reports_nil⟩
    cases h
  | cons line ls ih =>
    rw [reports_cons_iff, ← ih, numbered]
    by_cases hline : content line = []
    · simp [hline, Passes]
    · rw [if_neg hline, readAll]
      cases hread : read (content line) with
      | error message => simp [hline, Passes, hread, eq_comm]
      | ok r =>
        cases hrest : readAll read (numbered (n + 1) ls) <;> simp [hline, Passes, hread]

/-- **A text is read if each line that counts is**, and comes to what these say, in their order. -/
theorem parse_eq_ok_iff {rs : List α} : parse read text = .ok rs ↔
    List.Forall₂ (fun c r => read c = .ok r) (contents text) rs := by
  rw [parse, readAll_eq_ok_iff, rules_eq, map_snd_numbered]
  rfl

/-- **The first line that cannot be read is reported**, with its number. -/
theorem parse_eq_error_iff {e : Error} : parse read text = .error e ↔
    ∃ n line message, IsLine text n line ∧ content line ≠ [] ∧
      read (content line) = .error message ∧
      (∀ m < n, ∀ other, IsLine text m other → Passes read other) ∧ e = .line n message := by
  rw [parse, rules_eq, readAll_numbered_eq_error_iff]
  constructor
  · rintro ⟨front, line, back, message, hls, hfront, hline, hread, rfl⟩
    refine ⟨1 + front.length, line, message, isLine_iff.mpr ⟨front, back, hls, by omega⟩, hline,
      hread, ?_, rfl⟩
    intro m hm other hother
    obtain ⟨before, after, hlines, rfl⟩ := isLine_iff.mp hother
    -- A line with a lower number is one of those in front.
    refine hfront other ?_
    have hget : (front ++ line :: back)[before.length]? = some other := by
      rw [← hls, hlines]
      simp
    rw [List.getElem?_append_left (by omega)] at hget
    exact List.mem_of_getElem? hget
  · rintro ⟨n, line, message, hn, hline, hread, hbefore, rfl⟩
    obtain ⟨front, back, hls, rfl⟩ := isLine_iff.mp hn
    refine ⟨front, line, back, message, hls, ?_, hline, hread, by rw [Nat.add_comm]⟩
    intro l hl
    obtain ⟨before, after, rfl⟩ := List.append_of_mem hl
    refine hbefore (before.length + 1) ?_ l (isLine_iff.mpr ⟨before, after ++ line :: back, ?_, rfl⟩)
    · simp only [List.length_append, List.length_cons]
      omega
    · rw [hls, List.append_assoc, List.cons_append]

/-! ### Layout -/

/-- Something is inserted into a text that does not count. -/
inductive Inserts : List Char → List Char → Prop where
  /-- A blank line. -/
  | blankLine {a b x : List Char} (ha : AtStart a) (hx : AllBlank x) (hn : '\n' ∉ x) :
    Inserts (a ++ b) (a ++ (x ++ '\n' :: b))
  /-- A line with a comment only. -/
  | commentLine {a b x z : List Char} (ha : AtStart a) (hx : AllBlank x) (hn : '\n' ∉ x)
      (hz : '\n' ∉ z) : Inserts (a ++ b) (a ++ (x ++ '#' :: z ++ '\n' :: b))
  /-- A line feed behind the last line. -/
  | lastFeed {a : List Char} : Inserts a (a ++ ['\n'])
  /-- A comment behind a line. -/
  | comment {a b z : List Char} (hz : '\n' ∉ z) (hb : AtEnd b) :
    Inserts (a ++ b) (a ++ ('#' :: z ++ b))
  /-- Blanks in front of a line. -/
  | leading {a b x : List Char} (ha : AtStart a) (hx : AllBlank x) (hn : '\n' ∉ x) :
    Inserts (a ++ b) (a ++ (x ++ b))
  /-- Blanks behind a line. -/
  | trailing {a b x : List Char} (hx : AllBlank x) (hn : '\n' ∉ x) (hb : AtEnd b) :
    Inserts (a ++ b) (a ++ (x ++ b))
  /-- Blanks in front of a comment. -/
  | beforeComment {a b x : List Char} (hx : AllBlank x) (hn : '\n' ∉ x) :
    Inserts (a ++ '#' :: b) (a ++ (x ++ '#' :: b))
  /-- A carriage return in front of a line feed. -/
  | carriageReturn {a b : List Char} : Inserts (a ++ '\n' :: b) (a ++ '\r' :: '\n' :: b)

/-- The texts differ by insertions that do not count. -/
def SameLayout : List Char → List Char → Prop := Relation.EqvGen Inserts

/-- The same results, or the same complaint about lines that may have different numbers. -/
inductive SameButNumber {β : Type} : Except Error β → Except Error β → Prop where
  | ok (b : β) : SameButNumber (.ok b) (.ok b)
  | error (m n : Nat) (message : String) :
    SameButNumber (.error (.line m message)) (.error (.line n message))

/-- A line that does not count may stand anywhere. -/
theorem contents_insert_line (ha : AtStart a) (hl : '\n' ∉ l) (hidle : content l = [])
    (b : List Char) : contents (a ++ (l ++ '\n' :: b)) = contents (a ++ b) := by
  obtain ⟨front, hfront⟩ := ha.rawLines
  obtain ⟨v, back, hback⟩ := Text.exists_pieces_eq_cons (· == '\n') b
  have hline : rawLines (l ++ '\n' :: b) = l :: rawLines b := rawLines_append_newline hl b
  rw [contents, contents, rawLines_append hfront hline, rawLines_append hfront hback,
    counting_append, counting_append, List.nil_append, List.nil_append, counting_cons,
    if_pos hidle]
  exact congrArg (counting front ++ counting ·) hback

/-- What is inserted in a line does not count if the content of the line stays the same. -/
theorem contents_insert (hx : '\n' ∉ x) (ha : rawLines a = front ++ [u])
    (hb : rawLines b = v :: back) (h : content (u ++ (x ++ v)) = content (u ++ v)) :
    contents (a ++ (x ++ b)) = contents (a ++ b) := by
  rw [contents, contents, rawLines_append ha (rawLines_append_of_notMem hx hb),
    rawLines_append ha hb, counting_append, counting_append, counting_cons, counting_cons, h]

/-- What is inserted at the end of a line. -/
theorem contents_insert_behind (hx : '\n' ∉ x) (hb : AtEnd b)
    (h : ∀ u, content (u ++ x) = content u) : contents (a ++ (x ++ b)) = contents (a ++ b) := by
  obtain ⟨front, u, ha⟩ := Text.exists_pieces_eq_concat (· == '\n') a
  obtain ⟨back, hb⟩ := hb.rawLines
  refine contents_insert hx ha hb ?_
  rw [List.append_nil, List.append_nil, h]

theorem Inserts.contents_eq (h : Inserts text text') : contents text' = contents text := by
  cases h with
  | blankLine ha hx hn => exact contents_insert_line ha hn (content_of_allBlank hx) _
  | @commentLine a b x z ha hx hn hz =>
    refine contents_insert_line ha ?_ ?_ b
    · simp [hn, hz]
    · rw [content_of_comment, content_of_allBlank hx]
  | lastFeed =>
    obtain ⟨front, u, ha⟩ := Text.exists_pieces_eq_concat (· == '\n') text
    rw [contents, contents, rawLines_append ha (rawLines_newline []), List.append_nil,
      List.append_cons, counting_append, ← show rawLines text = front ++ [u] from ha]
    exact List.append_nil _
  | comment hz hb =>
    refine contents_insert_behind ?_ hb fun u => content_of_comment u _
    simp [hz]
  | @leading a b x ha hx hn =>
    obtain ⟨front, ha⟩ := ha.rawLines
    obtain ⟨v, back, hb⟩ := Text.exists_pieces_eq_cons (· == '\n') b
    exact contents_insert hn ha hb (content_blanks_append hx v)
  | trailing hx hn hb => exact contents_insert_behind hn hb fun u => content_append_of_allBlank hx u
  -- What is inserted here ends the part of the line that counts.
  | @beforeComment a b x hx hn =>
    obtain ⟨front, u, ha⟩ := Text.exists_pieces_eq_concat (· == '\n') a
    obtain ⟨v, back, hb⟩ := Text.exists_pieces_eq_cons (· == '\n') b
    have hcomment : rawLines ('#' :: b) = ('#' :: v) :: back :=
      rawLines_append_of_notMem (show '\n' ∉ ['#'] by decide) hb
    refine contents_insert hn ha hcomment ?_
    rw [← List.append_assoc, content_of_comment, content_of_comment,
      content_append_of_allBlank hx]
  | @carriageReturn a b =>
    exact contents_insert_behind (x := ['\r']) (by decide) (.inr ⟨b, rfl⟩) fun u =>
      content_append_of_allBlank allBlank_return u

/-- **Layout does not change the contents.** -/
theorem SameLayout.contents_eq (h : SameLayout text text') : contents text = contents text' := by
  induction h with
  | rel text text' h => exact h.contents_eq.symm
  | refl text => rfl
  | symm text text' _ ih => exact ih.symm
  | trans text text' text'' _ _ ih ih' => exact ih.trans ih'

/-- The same lines with other numbers. -/
theorem readAll_sameButNumber {ms ns : List (Nat × List Char)}
    (h : ms.map (·.2) = ns.map (·.2)) : SameButNumber (readAll read ms) (readAll read ns) := by
  induction ms generalizing ns with
  | nil =>
    rw [List.map_nil, eq_comm, List.map_eq_nil_iff] at h
    rw [h]
    exact .ok []
  | cons entry ms ih =>
    obtain ⟨other, ns, rfl, hentry, hns⟩ := List.map_eq_cons_iff.mp h.symm
    obtain ⟨m, c⟩ := entry
    obtain ⟨n, d⟩ := other
    dsimp only at hentry
    subst hentry
    rw [readAll, readAll]
    cases read d with
    | error message => exact .error m n message
    | ok r =>
      have hrest := ih hns.symm
      generalize readAll read ms = result at hrest ⊢
      generalize readAll read ns = result' at hrest ⊢
      cases hrest with
      | ok rs => exact .ok (r :: rs)
      | error m n message => exact .error m n message

/-- **Layout changes the number of the reported line at most.** -/
theorem SameLayout.parse (h : SameLayout text text') (read : List Char → Except String α) :
    SameButNumber (parse read text) (parse read text') := by
  refine readAll_sameButNumber ?_
  rw [rules_eq, rules_eq, map_snd_numbered, map_snd_numbered]
  exact h.contents_eq

end Econet.MapFile
