import Econet.Aun.Map
import Econet.Proofs.Aun.RuleGrammar
import Econet.Proofs.MapFile.Lines

/-!
# Loading map files

Maps of rules and lists of networks are loaded alike, and differ in what one line says. Every line
that counts has to say something, and what is loaded is what the lines say, in their order. If a
line says nothing, the first such line is reported.

## Main definitions

* `LoadsLines load read build`: texts are loaded line by line

## Main results

* `loadsLines_parse`: a loader that puts together what a reader makes of the lines
* `loads_rules_and_networks`: maps and lists of networks, with the grammar of their lines
-/

namespace Econet.MapFile

open Text (IsNumber IsPair)

variable {α β : Type} {load : List Char → Except Error β} {read : List Char → Except String α}
  {build : List α → β}

/-- Texts are loaded line by line, by a reader of what counts in a line. -/
structure LoadsLines (load : List Char → Except Error β) (read : List Char → Except String α)
    (build : List α → β) : Prop where
  /-- A text is loaded exactly if each of its lines either does not count or can be read. -/
  exists_iff : ∀ text, (∃ b, load text = .ok b) ↔ ∀ n line, IsLine text n line → Passes read line
  /-- What is loaded is put together from what the lines say, in their order. -/
  ok_iff : ∀ text b, load text = .ok b ↔
    ∃ rs, List.Forall₂ (fun c r => read c = .ok r) (contents text) rs ∧ build rs = b
  /-- If a text is not loaded, the first line that cannot be read is reported with its number. -/
  error_iff : ∀ text e, load text = .error e ↔
    ∃ n line message, IsLine text n line ∧ content line ≠ [] ∧
      read (content line) = .error message ∧
      (∀ m < n, ∀ other, IsLine text m other → Passes read other) ∧ e = .line n message
  /-- The layout of a text has no influence but on the number of the line that is reported. -/
  layout : ∀ text text', SameLayout text text' → SameButNumber (load text) (load text')

theorem SameButNumber.map {x y : Except Error α} (h : SameButNumber x y) (f : α → β) :
    SameButNumber (x.map f) (y.map f) := by
  cases h with
  | ok r => exact .ok (f r)
  | error m n message => exact .error m n message

/-- A text is read exactly if all its lines pass: a line that does not would be reported. -/
theorem exists_parse_eq_ok_iff {text : List Char} :
    (∃ rs, parse read text = .ok rs) ↔ ∀ n line, IsLine text n line → Passes read line := by
  constructor
  · rintro ⟨rs, hrs⟩ n line hline hcontent
    have hread := parse_eq_ok_iff.mp hrs
    -- What counts of the line is among the contents of the text.
    obtain ⟨front, back, hlines, -⟩ := isLine_iff.mp hline
    have hmem : content line ∈ contents text :=
      content_mem_counting (hlines ▸ List.mem_append_right _ List.mem_cons_self) hcontent
    obtain ⟨i, hi, hget⟩ := List.mem_iff_getElem.mp hmem
    have hi' : i < rs.length := hread.length_eq ▸ hi
    refine ⟨rs[i], ?_⟩
    rw [← hget]
    exact hread.get hi hi'
  · intro h
    cases hparse : parse read text with
    | ok rs => exact ⟨rs, rfl⟩
    | error e =>
      obtain ⟨n, line, message, hline, hcontent, hread, -⟩ := parse_eq_error_iff.mp hparse
      obtain ⟨r, hr⟩ := h n line hline hcontent
      cases hread.symm.trans hr

/-- **A loader that puts together what a reader makes of the lines.** -/
theorem loadsLines_parse (hload : ∀ text, load text = (parse read text).map build) :
    LoadsLines load read build where
  exists_iff text := by
    rw [← exists_parse_eq_ok_iff, hload]
    constructor
    · rintro ⟨b, hb⟩
      obtain ⟨rs, hrs, -⟩ := map_eq_ok_iff.mp hb
      exact ⟨rs, hrs⟩
    · rintro ⟨rs, hrs⟩
      exact ⟨build rs, map_eq_ok_iff.mpr ⟨rs, hrs, rfl⟩⟩
  ok_iff text b := by
    rw [hload, map_eq_ok_iff]
    exact exists_congr fun rs => and_congr_left fun _ => parse_eq_ok_iff
  error_iff text e := by
    rw [hload, map_eq_error_iff]
    exact parse_eq_error_iff
  layout text text' h := by
    rw [hload, hload]
    exact (h.parse read).map build

theorem readRule_eq_ok_iff {line : List Char} {r : Aun.Rule} :
    Aun.Map.readRule line = .ok r ↔ Aun.Rule.parse line = .ok r := by
  rw [Aun.Map.readRule]
  cases Aun.Rule.parse line <;> simp

theorem network_eq_ok_iff {line : List Char} {n : UInt8} :
    network line = .ok n ↔ IsNumber line n.toNat := by
  rw [← Text.parseByte_eq_some_iff, network]
  cases Text.parseByte line <;> simp

/-- **Maps and lists of networks are loaded line by line.** In a map, what counts of a line has to
be two words that say a rule, and the rules are added to an empty map one after the other; in a list
of networks it has to be the number of one. -/
theorem loads_rules_and_networks :
    LoadsLines Aun.Map.parse Aun.Map.readRule (List.foldl Aun.Map.add Aun.Map.empty) ∧
    LoadsLines networks network id ∧
    (∀ c r, Aun.Map.readRule c = .ok r ↔
      ∃ target address, IsPair c target address ∧ Aun.Rule.Says target address r) ∧
    ∀ c n, network c = .ok n ↔ IsNumber c n.toNat := by
  refine ⟨loadsLines_parse fun text => rfl, loadsLines_parse fun text => ?_, ?_, ?_⟩
  · rw [networks]
    cases parse network text <;> rfl
  · intro c r
    rw [readRule_eq_ok_iff]
    exact Aun.Rule.parse_eq_ok_iff c r
  · intro c n
    exact network_eq_ok_iff

end Econet.MapFile
