import Econet.Proofs.Toml.Values
import Mathlib.Data.List.Nodup

/-!
# Written documents

A document reads as the tables that it is written for: tables with a header each, the tables of one
series, or assignments alone. Reading goes statement by statement, so the text of each table is
taken for its statements whatever follows; and carrying out the statements of a table only adds to
what was there before.

## Main definitions

* `IsKey key`: the key can be written as it is
* `Fields es vs`: written fields with distinct keys, and what their values read as
* `Denotes t ss`: the text `t` is taken for the statements `ss`, whatever follows

## Main results

* `denotes_assignmentsText`, `denotes_sectionText`, `denotes_seriesText`: tables denote their fields
* `carryOut_assigns`: assignments add fields to the table that is open
* `parse_assignmentsText`, `parse_sections`, `parse_series`: documents read as themselves
-/

namespace Econet.Toml

/-! ### Keys -/

/-- The key can be written as it is. -/
def IsKey (key : String) : Prop := key.toList ≠ [] ∧ ∀ c ∈ key.toList, isBare c

instance (key : String) : Decidable (IsKey key) :=
  decidable_of_iff ((!key.toList.isEmpty && key.toList.all isBare) = true) (by simp [IsKey])

variable {key : String} {c d : Char} {t u rest : List Char} {v : Value}

theorem ne_of_isBare (hc : isBare c) (hd : isBare d = false) : c ≠ d := by
  rintro rfl
  cases hd.symm.trans hc

theorem IsKey.exists_eq_cons (h : IsKey key) : ∃ c cs, key.toList = c :: cs ∧ isBare c := by
  obtain ⟨c, cs, hcs⟩ := List.exists_cons_of_ne_nil h.1
  exact ⟨c, cs, hcs, h.2 c (hcs ▸ List.mem_cons_self)⟩

theorem IsKey.skipSpace (h : IsKey key) (u : List Char) :
    skipSpace (key.toList ++ u) = key.toList ++ u := by
  obtain ⟨c, cs, hcs, hc⟩ := h.exists_eq_cons
  have hspace : isSpace c = false := by
    rw [isSpace, Bool.or_eq_false_iff, decide_eq_false_iff_not, decide_eq_false_iff_not]
    exact ⟨ne_of_isBare hc rfl, ne_of_isBare hc rfl⟩
  rw [hcs]
  exact skipSpace_cons hspace _

theorem readPart_append (h : IsKey key) (hu : ∀ c ∈ u.head?, isBare c = false) :
    readPart (key.toList ++ u) = some (key, u) := by
  have hspan : u.takeWhile isBare = [] ∧ u.dropWhile isBare = u := by
    cases u with
    | nil => exact ⟨rfl, rfl⟩
    | cons c cs => simp [hu c rfl]
  have htake : (key.toList ++ u).takeWhile isBare = key.toList := by
    rw [List.takeWhile_append_of_pos h.2, hspan.1, List.append_nil]
  have hdrop : (key.toList ++ u).dropWhile isBare = u := by
    rw [List.dropWhile_append_of_pos h.2, hspan.2]
  have hkey : String.ofList key.toList = key := String.ofList_toList
  obtain ⟨c, cs, hcs, hc⟩ := h.exists_eq_cons
  have hquote {d : Char} (hd : isBare d = false) (r : List Char) : key.toList ++ u ≠ d :: r := by
    rw [hcs]
    rintro ⟨⟩
    cases hd.symm.trans hc
  rw [readPart, htake, hdrop, if_neg h.1, hkey]
  · exact hquote rfl
  · exact hquote rfl

/-- A key is read up to what cannot belong to it; the spaces behind it are skipped. -/
theorem readKey_append (h : IsKey key) (hu : ∀ c ∈ u.head?, isBare c = false)
    (hdot : (skipSpace u).head? ≠ some '.') :
    readKey (key.toList ++ u) = some ([key], skipSpace u) := by
  rw [readKey, maxDepth, readParts, h.skipSpace, readPart_append h hu]
  simp only [Option.bind_eq_bind, Option.bind_some]
  split
  · next heq => exact absurd (congrArg List.head? heq) hdot
  · rfl

/-! ### Statements -/

/-- The text is taken for the statements, whatever follows. -/
structure Denotes (t : List Char) (ss : List Statement) : Prop where
  length_le : ss.length ≤ t.length
  read : ∀ {fuel rest ss'}, readStatements fuel rest = some ss' →
    readStatements (fuel + ss.length) (t ++ rest) = some (ss ++ ss')

theorem denotes_nil : Denotes [] [] := ⟨Nat.le_refl 0, id⟩

theorem Denotes.append {ss ss' : List Statement} (h : Denotes t ss) (k : Denotes u ss') :
    Denotes (t ++ u) (ss ++ ss') where
  length_le := by
    have ht := h.length_le
    have hu := k.length_le
    rw [List.length_append, List.length_append]
    omega
  read := by
    intro fuel rest ss'' hrest
    have hread := h.read (k.read hrest)
    rw [List.append_assoc, List.append_assoc, List.length_append, Nat.add_comm ss.length,
      ← Nat.add_assoc]
    exact hread

theorem readStatements_of_skipTrivia (h : skipTrivia false t = skipTrivia false u) (fuel : Nat) :
    readStatements fuel t = readStatements fuel u := by
  cases fuel with
  | zero => rfl
  | succ fuel => rw [readStatements, readStatements, h]

/-- A blank line. -/
theorem denotes_newline : Denotes ['\n'] [] where
  length_le := Nat.zero_le _
  read := by
    intro fuel rest ss' hrest
    have hskip : skipTrivia false ('\n' :: rest) = skipTrivia false rest := by simp [skipTrivia]
    exact (readStatements_of_skipTrivia hskip fuel).trans hrest

theorem denotes_of_readStatement {s : Statement} (hstart : ∃ c cs, t = c :: cs ∧ isApart c = false)
    (h : ∀ rest, readStatement (t ++ rest) = some (s, rest)) : Denotes t [s] := by
  obtain ⟨c, cs, rfl, hc⟩ := hstart
  refine ⟨by simp, fun {fuel rest ss'} hrest => ?_⟩
  have hread := h rest
  rw [List.cons_append] at hread ⊢
  rw [List.length_singleton, readStatements, skipTrivia_cons hc]
  simp only [hread, hrest, Option.bind_eq_bind, Option.bind_some]
  rfl

/-- A text that denotes statements is read as them. -/
theorem Denotes.readStatements {ss : List Statement} (h : Denotes t ss) :
    readStatements (t.length + 1) t = some ss := by
  have hlength := h.length_le
  have hend : Toml.readStatements (t.length - ss.length + 1) [] = some [] := by
    rw [Toml.readStatements, skipTrivia]
  have hread := h.read hend
  rw [List.append_nil, List.append_nil] at hread
  have hfuel : t.length - ss.length + 1 + ss.length = t.length + 1 := by omega
  rwa [hfuel] at hread

/-! ### What is written for a table -/

/-- Written fields with distinct keys, and what their values read as. -/
structure Fields (es : List (String × List Char)) (vs : List (String × Value)) : Prop where
  reads : List.Forall₂ (fun e v => e.1 = v.1 ∧ Reads maxDepth e.2 v.2) es vs
  keys : ∀ v ∈ vs, IsKey v.1
  nodup : (vs.map (·.1)).Nodup

/-- Fields of a record, some of which may be left out. -/
theorem fields_of_sublist {es : List (String × List Char)} {vs : List (String × Value)}
    (names : List String) (hnames : names.Nodup ∧ ∀ key ∈ names, IsKey key)
    (hsublist : (vs.map (·.1)).Sublist names)
    (hreads : List.Forall₂ (fun e v => e.1 = v.1 ∧ Reads maxDepth e.2 v.2) es vs) :
    Fields es vs where
  reads := hreads
  keys := fun v hv => hnames.2 v.1 (hsublist.subset (List.mem_map_of_mem hv))
  nodup := hnames.1.sublist hsublist

/-- Assignments that give fields their values. -/
def assigns (vs : List (String × Value)) : List Statement := vs.map fun v => .assign [v.1] v.2

theorem endLine_newline (rest : List Char) : endLine ('\n' :: rest) = some rest := rfl

theorem readAssignment_append (hkey : IsKey key) (ht : Reads maxDepth t v) (rest : List Char) :
    readAssignment (readValue maxDepth) (key.toList ++ (" = ".toList ++ (t ++ '\n' :: rest))) =
      some (([key], v), '\n' :: rest) := by
  have hequals : skipSpace (" = ".toList ++ (t ++ '\n' :: rest)) =
      '=' :: ' ' :: (t ++ '\n' :: rest) := by
    simp [skipSpace, isSpace]
  have hvalue : skipSpace (' ' :: (t ++ '\n' :: rest)) = t ++ '\n' :: rest := ht.skipSpace _
  have hread := readKey_append hkey (u := " = ".toList ++ (t ++ '\n' :: rest)) (by simp [isBare])
    (by rw [hequals]; simp)
  rw [readAssignment, hread, hequals]
  simp only [Option.bind_eq_bind, Option.bind_some, expect, if_pos, hvalue,
    ht.read (ends_cons (.inl rfl) rest)]

theorem denotes_assignmentText (hkey : IsKey key) (ht : Reads maxDepth t v) :
    Denotes (assignmentText key t) [.assign [key] v] := by
  obtain ⟨c, cs, hcs, hc⟩ := hkey.exists_eq_cons
  have happart : isApart c = false := by
    simp only [isApart, isSpace, Bool.or_eq_false_iff, decide_eq_false_iff_not]
    have hne {d : Char} (hd : isBare d = false) : c ≠ d := ne_of_isBare hc hd
    exact ⟨⟨⟨⟨⟨hne rfl, hne rfl⟩, hne rfl⟩, hne rfl⟩, hne rfl⟩, hne rfl⟩
  refine denotes_of_readStatement ⟨c, _, by rw [assignmentText, hcs]; rfl, happart⟩ fun rest => ?_
  have htext : assignmentText key t ++ rest =
      key.toList ++ (" = ".toList ++ (t ++ '\n' :: rest)) := by
    simp [assignmentText]
  have hread := readAssignment_append hkey ht rest
  rw [htext]
  rw [hcs] at hread ⊢
  rw [List.cons_append] at hread ⊢
  rw [readStatement, hread]
  · simp only [Option.bind_eq_bind, Option.bind_some, endLine_newline]
  · rintro r ⟨⟩
    cases hc

theorem denotes_assignmentsText {es : List (String × List Char)} {vs : List (String × Value)}
    (h : Fields es vs) : Denotes (assignmentsText es) (assigns vs) := by
  obtain ⟨hreads, hkeys, -⟩ := h
  induction hreads with
  | nil => exact denotes_nil
  | @cons e v es vs hev _ ih =>
    obtain ⟨hv, hvs⟩ := List.forall_mem_cons.mp hkeys
    obtain ⟨hkey, hvalue⟩ := hev
    have htext : assignmentsText (e :: es) = assignmentText v.1 e.2 ++ assignmentsText es := by
      rw [assignmentsText, List.flatMap_cons, hkey]
      rfl
    rw [htext]
    exact (denotes_assignmentText hv hvalue).append (ih hvs)

/-- The key of a header, up to the bracket that closes it. -/
theorem readKey_bracket (hkey : IsKey key) (u : List Char) :
    readKey (key.toList ++ ']' :: u) = some ([key], ']' :: u) := by
  have hskip : skipSpace (']' :: u) = ']' :: u := skipSpace_cons rfl u
  have hread := readKey_append hkey (u := ']' :: u) (by simp [isBare]) (by rw [hskip]; simp)
  rwa [hskip] at hread

theorem denotes_header (hkey : IsKey key) :
    Denotes ('[' :: key.toList ++ [']', '\n']) [.header [key]] := by
  refine denotes_of_readStatement ⟨'[', _, rfl, rfl⟩ fun rest => ?_
  have hread := readKey_bracket hkey ('\n' :: rest)
  have htext : '[' :: key.toList ++ [']', '\n'] ++ rest =
      '[' :: (key.toList ++ ']' :: '\n' :: rest) := by
    simp
  obtain ⟨c, cs, hcs, hc⟩ := hkey.exists_eq_cons
  rw [htext, readStatement]
  rw [hcs, List.cons_append] at hread ⊢
  rw [readHeader, hread]
  · simp only [Option.bind_eq_bind, Option.bind_some, expect, if_pos, endLine_newline]
  · rintro r ⟨⟩
    cases hc

theorem denotes_seriesHeader (hkey : IsKey key) :
    Denotes ('[' :: '[' :: key.toList ++ [']', ']', '\n']) [.series [key]] := by
  refine denotes_of_readStatement ⟨'[', _, rfl, rfl⟩ fun rest => ?_
  have htext : '[' :: '[' :: key.toList ++ [']', ']', '\n'] ++ rest =
      '[' :: '[' :: (key.toList ++ ']' :: ']' :: '\n' :: rest) := by
    simp
  rw [htext, readStatement, readHeader, readKey_bracket hkey]
  simp only [Option.bind_eq_bind, Option.bind_some, expect, if_pos, endLine_newline]

theorem denotes_sectionText (hkey : IsKey key) {es : List (String × List Char)}
    {vs : List (String × Value)} (h : Fields es vs) :
    Denotes (sectionText key es) (.header [key] :: assigns vs) :=
  (denotes_header hkey).append (denotes_assignmentsText h)

theorem denotes_seriesText (hkey : IsKey key) {es : List (String × List Char)}
    {vs : List (String × Value)} (h : Fields es vs) :
    Denotes (seriesText key es) (.series [key] :: assigns vs) :=
  (denotes_seriesHeader hkey).append (denotes_assignmentsText h)

/-- Tables one after the other, with blank lines between them. -/
theorem denotes_joined {ts : List (List Char)} {sss : List (List Statement)}
    (h : List.Forall₂ Denotes ts sss) : Denotes (joined ts) sss.flatten := by
  induction h with
  | nil => exact denotes_nil
  | @cons t ss ts sss ht hts ih =>
    cases hts with
    | nil =>
      rw [List.flatten_cons, List.flatten_nil, List.append_nil]
      exact ht
    | cons => exact ht.append (denotes_newline.append ih)

/-! ### Tables that are made -/

theorem node?_append {es : Entries} (h : key ∉ es.map (·.1)) (fs : Entries) :
    node? key (es ++ fs) = node? key fs := by
  induction es with
  | nil => rfl
  | cons e es ih =>
    rw [List.map_cons, List.mem_cons, not_or] at h
    rw [List.cons_append, node?, if_neg (Ne.symm h.1), ih h.2]

theorem put_append {es : Entries} (h : key ∉ es.map (·.1)) (n : Node) (fs : Entries) :
    put key n (es ++ fs) = es ++ put key n fs := by
  induction es with
  | nil => rfl
  | cons e es ih =>
    rw [List.map_cons, List.mem_cons, not_or] at h
    rw [List.cons_append, put, if_neg (Ne.symm h.1), ih h.2, List.cons_append]

theorem node?_of_notMem {es : Entries} (h : key ∉ es.map (·.1)) : node? key es = none := by
  simpa [node?] using node?_append h []

theorem put_of_notMem {es : Entries} (h : key ∉ es.map (·.1)) (n : Node) :
    put key n es = es ++ [(key, n)] := by
  simpa [put] using put_append h n []

theorem node?_concat {es : Entries} (h : key ∉ es.map (·.1)) (n : Node) :
    node? key (es ++ [(key, n)]) = some n := by
  rw [node?_append h, node?, if_pos rfl]

theorem put_concat {es : Entries} (h : key ∉ es.map (·.1)) (n n' : Node) :
    put key n' (es ++ [(key, n)]) = es ++ [(key, n')] := by
  rw [put_append h, put, if_pos rfl]

theorem changeLast_concat (f : Entries → Option Entries) (ts : List Entries) (t : Entries) :
    changeLast f (ts ++ [t]) = (f t).map fun t => ts ++ [t] := by
  induction ts with
  | nil => rfl
  | cons u ts ih =>
    rw [List.cons_append, changeLast, ih, Option.map_map]
    · rfl
    · simp

/-- The fields of a table that has these values. -/
def leaves (vs : List (String × Value)) : Entries := vs.map fun v => (v.1, .leaf v.2)

/-- Assignments add fields to the table that is open. The document around that table is `around`. -/
theorem carryOut_assigns {path : List String} {around : Entries → Entries}
    (hopen : ∀ key v t, assignUnder path [key] v (around t) = (assign [key] v t).map around)
    {vs : List (String × Value)} {t : Entries}
    (hnodup : (t.map (·.1) ++ vs.map (·.1)).Nodup) (ss : List Statement) :
    carryOut path (assigns vs ++ ss) (around t) = carryOut path ss (around (t ++ leaves vs)) := by
  induction vs generalizing t with
  | nil => rw [leaves, List.map_nil, List.append_nil]; rfl
  | cons v vs ih =>
    have hkey : v.1 ∉ t.map (·.1) := by
      intro hmem
      exact List.disjoint_of_nodup_append hnodup hmem List.mem_cons_self
    have hassign : assign [v.1] v.2 t = some (t ++ [(v.1, .leaf v.2)]) := by
      rw [assign, node?_of_notMem hkey]
      exact congrArg some (put_of_notMem hkey _)
    have hnext : ((t ++ [(v.1, Node.leaf v.2)]).map (·.1) ++ vs.map (·.1)).Nodup := by
      simpa using hnodup
    show ((assignUnder path [v.1] v.2 (around t)).bind (carryOut path (assigns vs ++ ss))) = _
    rw [hopen, hassign, Option.map_some, Option.bind_some, ih hnext, List.append_assoc]
    rfl

/-- A header opens a table at the end of the document, and the table gets its fields. -/
theorem carryOut_section {path : List String} {es : Entries} {vs : List (String × Value)}
    (hkey : key ∉ es.map (·.1)) (hnodup : (vs.map (·.1)).Nodup) (ss : List Statement) :
    carryOut path (.header [key] :: assigns vs ++ ss) es =
      carryOut [key] ss (es ++ [(key, .table .header (leaves vs))]) := by
  have hopened : openTable [key] es = some (es ++ [(key, .table .header [])]) := by
    rw [openTable, node?_of_notMem hkey]
    exact congrArg some (put_of_notMem hkey _)
  have hopen (k : String) (v : Value) (t : Entries) :
      assignUnder [key] [k] v (es ++ [(key, .table .header t)]) =
        (assign [k] v t).map fun t => es ++ [(key, .table .header t)] := by
    rw [assignUnder, node?_concat hkey]
    simp only [put_concat hkey, assignUnder]
  show (openTable [key] es).bind (carryOut [key] (assigns vs ++ ss)) = _
  rw [hopened, Option.bind_some]
  exact carryOut_assigns hopen (t := []) hnodup ss

/-- The next table of a series gets its fields. -/
theorem carryOut_series {path : List String} {es : Entries} {ts : List Entries}
    {vs : List (String × Value)}
    (hopened : openSeries [key] es = some [(key, .series (ts ++ [[]]))])
    (hnodup : (vs.map (·.1)).Nodup) (ss : List Statement) :
    carryOut path (.series [key] :: assigns vs ++ ss) es =
      carryOut [key] ss [(key, .series (ts ++ [leaves vs]))] := by
  have hopen (k : String) (v : Value) (t : Entries) :
      assignUnder [key] [k] v [(key, .series (ts ++ [t]))] =
        (assign [k] v t).map fun t => [(key, .series (ts ++ [t]))] := by
    simp only [assignUnder, node?, if_pos, changeLast_concat, put, Option.map_map,
      Function.comp_def]
  show (openSeries [key] es).bind (carryOut [key] (assigns vs ++ ss)) = _
  rw [hopened, Option.bind_some]
  exact carryOut_assigns hopen (t := []) hnodup ss

/-! ### Documents -/

theorem valuesOf_eq (es : Entries) : valuesOf es = es.map fun e => (e.1, valueOf e.2) := by
  induction es with
  | nil => rfl
  | cons e es ih => rw [valuesOf, ih, List.map_cons]

theorem seriesOf_eq (ts : List Entries) : seriesOf ts = ts.map fun t => .table (valuesOf t) := by
  induction ts with
  | nil => rfl
  | cons t ts ih => rw [seriesOf, ih, List.map_cons]

theorem valuesOf_leaves (vs : List (String × Value)) : valuesOf (leaves vs) = vs := by
  rw [valuesOf_eq, leaves, List.map_map]
  exact List.map_id vs

theorem parse_of_denotes {ss : List Statement} (h : Denotes t ss)
    (hmark : ∀ c ∈ t.head?, c.toNat ≠ 0xFEFF) : parse t = tableOf ss := by
  have hdrop : dropMark t = t := by
    cases t with
    | nil => rfl
    | cons c cs => rw [dropMark, if_neg (hmark c rfl)]
  rw [parse, hdrop]
  simp only [h.readStatements, Option.bind_eq_bind, Option.bind_some]

theorem toNat_ne_of_isBare (h : isBare c) : c.toNat ≠ 0xFEFF := by
  intro hc
  have hmark : c = Char.ofNat 0xFEFF := by rw [← hc, Char.ofNat_toNat]
  exact ne_of_isBare h (by decide) hmark

/-- **Assignments read as their fields.** -/
theorem parse_assignmentsText {es : List (String × List Char)} {vs : List (String × Value)}
    (h : Fields es vs) : parse (assignmentsText es) = some vs := by
  have hmark : ∀ c ∈ (assignmentsText es).head?, c.toNat ≠ 0xFEFF := by
    cases h.reads with
    | nil => exact nofun
    | @cons e v es _ hev =>
      obtain ⟨d, cs, hcs, hd⟩ := (h.keys v List.mem_cons_self).exists_eq_cons
      rw [← hev.1] at hcs
      have hhead : (assignmentsText (e :: es)).head? = some d := by
        simp [assignmentsText, assignmentText, hcs]
      rintro c hc
      cases hhead.symm.trans hc
      exact toNat_ne_of_isBare hd
  have hopen (k : String) (v : Value) (t : Entries) :
      assignUnder [] [k] v (id t) = (assign [k] v t).map id := Option.map_id'.symm
  have hcarry := carryOut_assigns hopen (t := []) h.nodup []
  rw [List.append_nil] at hcarry
  rw [parse_of_denotes (denotes_assignmentsText h) hmark, tableOf]
  show (carryOut [] (assigns vs) (id [])).map valuesOf = _
  rw [hcarry]
  exact congrArg some (valuesOf_leaves vs)

theorem carryOut_sections {path : List String} {es : Entries}
    {ds : List (String × List (String × Value))}
    (hkeys : (es.map (·.1) ++ ds.map (·.1)).Nodup) (hfields : ∀ d ∈ ds, (d.2.map (·.1)).Nodup) :
    carryOut path (ds.map fun d => .header [d.1] :: assigns d.2).flatten es =
      some (es ++ ds.map fun d => (d.1, .table .header (leaves d.2))) := by
  induction ds generalizing path es with
  | nil => rw [List.map_nil, List.map_nil, List.append_nil]; rfl
  | cons d ds ih =>
    obtain ⟨hd, hds⟩ := List.forall_mem_cons.mp hfields
    have hkey : d.1 ∉ es.map (·.1) := fun hmem =>
      List.disjoint_of_nodup_append hkeys hmem List.mem_cons_self
    have hnext : ((es ++ [(d.1, Node.table .header (leaves d.2))]).map (·.1) ++
        ds.map (·.1)).Nodup := by
      simpa using hkeys
    rw [List.map_cons, List.flatten_cons, carryOut_section hkey hd, ih hnext hds, List.append_assoc]
    rfl

/-- Tables begin with a bracket. -/
theorem head?_joined {ts : List (List Char)} (h : ∀ t ∈ ts, ∃ u, t = '[' :: u) :
    ∀ c ∈ (joined ts).head?, c.toNat ≠ 0xFEFF := by
  intro c hc
  have hbracket : c = '[' := by
    match ts with
    | [] => cases hc
    | [t] =>
      obtain ⟨u, rfl⟩ := h t List.mem_cons_self
      exact (Option.some.inj hc).symm
    | t :: t' :: ts =>
      obtain ⟨u, rfl⟩ := h t List.mem_cons_self
      exact (Option.some.inj hc).symm
  rw [hbracket]
  decide

theorem forall_mem_of_forall₂ {α β : Type} {R : α → β → Prop} {P : β → Prop} {as : List α}
    {bs : List β} (h : List.Forall₂ R as bs) (hP : ∀ a b, R a b → P b) : ∀ b ∈ bs, P b := by
  induction h with
  | nil => exact nofun
  | cons hab _ ih => exact List.forall_mem_cons.mpr ⟨hP _ _ hab, ih⟩

/-- **Tables with a header each read as their fields.** -/
theorem parse_sections {ws : List (String × List (String × List Char))}
    {ds : List (String × List (String × Value))}
    (h : List.Forall₂ (fun w d => w.1 = d.1 ∧ IsKey w.1 ∧ Fields w.2 d.2) ws ds)
    (hnodup : (ds.map (·.1)).Nodup) :
    parse (joined (ws.map fun w => sectionText w.1 w.2)) =
      some (ds.map fun d => (d.1, .table d.2)) := by
  have hdenotes : List.Forall₂ Denotes (ws.map fun w => sectionText w.1 w.2)
      (ds.map fun d => .header [d.1] :: assigns d.2) := by
    rw [List.forall₂_map_left_iff, List.forall₂_map_right_iff]
    refine h.imp fun w d hwd => ?_
    rw [← hwd.1]
    exact denotes_sectionText hwd.2.1 hwd.2.2
  have hfields : ∀ d ∈ ds, (d.2.map (·.1)).Nodup :=
    forall_mem_of_forall₂ h fun _ _ hwd => hwd.2.2.nodup
  have hmark : ∀ c ∈ (joined (ws.map fun w => sectionText w.1 w.2)).head?, c.toNat ≠ 0xFEFF := by
    refine head?_joined fun t ht => ?_
    obtain ⟨w, -, rfl⟩ := List.mem_map.mp ht
    exact ⟨_, rfl⟩
  have hcarry := @carryOut_sections [] [] ds hnodup hfields
  rw [parse_of_denotes (denotes_joined hdenotes) hmark, tableOf, hcarry, List.nil_append,
    Option.map_some, valuesOf_eq, List.map_map]
  simp only [Function.comp_def, valueOf, valuesOf_leaves]

theorem carryOut_tables {path : List String} {ts : List Entries}
    {vss : List (List (String × Value))} (hfields : ∀ vs ∈ vss, (vs.map (·.1)).Nodup) :
    carryOut path (vss.map fun vs => .series [key] :: assigns vs).flatten [(key, .series ts)] =
      some [(key, .series (ts ++ vss.map leaves))] := by
  induction vss generalizing path ts with
  | nil => rw [List.map_nil, List.map_nil, List.append_nil]; rfl
  | cons vs vss ih =>
    obtain ⟨hvs, hvss⟩ := List.forall_mem_cons.mp hfields
    have hopened : openSeries [key] [(key, .series ts)] = some [(key, .series (ts ++ [[]]))] := by
      simp [openSeries, node?, put]
    rw [List.map_cons, List.flatten_cons, carryOut_series hopened hvs, ih hvss, List.append_assoc]
    rfl

/-- **The tables of a series read as their fields.** -/
theorem parse_series (hkey : IsKey key) {ess : List (List (String × List Char))}
    {vss : List (List (String × Value))} (h : List.Forall₂ Fields ess vss) (hne : ess ≠ []) :
    parse (joined (ess.map (seriesText key))) = some [(key, .array (vss.map .table))] := by
  have hdenotes : List.Forall₂ Denotes (ess.map (seriesText key))
      (vss.map fun vs => .series [key] :: assigns vs) := by
    rw [List.forall₂_map_left_iff, List.forall₂_map_right_iff]
    exact h.imp fun es vs hfields => denotes_seriesText hkey hfields
  have hfields : ∀ vs ∈ vss, (vs.map (·.1)).Nodup :=
    forall_mem_of_forall₂ h fun _ _ hfields => hfields.nodup
  have hmark : ∀ c ∈ (joined (ess.map (seriesText key))).head?, c.toNat ≠ 0xFEFF := by
    refine head?_joined fun t ht => ?_
    obtain ⟨es, -, rfl⟩ := List.mem_map.mp ht
    exact ⟨_, rfl⟩
  have hcarry : carryOut [] (vss.map fun vs => .series [key] :: assigns vs).flatten [] =
      some [(key, .series (vss.map leaves))] := by
    cases h with
    | nil => exact absurd rfl hne
    | @cons es vs ess vss _ _ =>
      -- The first table makes the series.
      obtain ⟨hvs, hvss⟩ := List.forall_mem_cons.mp hfields
      have hopened : openSeries [key] [] = some [(key, .series ([] ++ [[]]))] := rfl
      rw [List.map_cons, List.flatten_cons, carryOut_series hopened hvs, carryOut_tables hvss]
      rfl
  rw [parse_of_denotes (denotes_joined hdenotes) hmark, tableOf, hcarry, Option.map_some,
    valuesOf_eq]
  simp only [List.map_cons, List.map_nil, valueOf, seriesOf_eq, List.map_map, Function.comp_def,
    valuesOf_leaves]

end Econet.Toml
