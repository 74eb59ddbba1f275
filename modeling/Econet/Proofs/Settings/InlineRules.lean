import Econet.Launch
import Econet.Proofs.MapFile.Loading

/-!
# Rules in settings and in map files

Rules stand in a map file, one a line, or in the settings, as a list of lines. In a file a line may
carry a comment or be blank, and only what counts of it is read. In the settings every line is read
as it stands, and there is no rule that holds a comment or no word at all. So the same lines give
the same routes from either place if they are bare, and else they are refused in the settings.

## Main definitions

* `MapFile.ConsistsOf ls text`: a text consists of lines
* `MapFile.IsBare line`: a line has no comment and is not blank
* `Aun.AreRules ls rs`: lines say rules, one after the other
* `Settings.withRules`, `Settings.withMapFile`: settings with their rules in one place

## Main results

* `Aun.Rule.parse_eq_ok_iff_content`: a line says the rule that counts of it, if it is bare
* `Aun.areRules_iff`: so do several lines
* `Settings.routes_of_lines`: the routes of lines in settings, and of the same lines in a map file
-/

namespace Econet

open Text (AllBlank IsNumber fields trim)

/-! ### Texts of lines -/

namespace MapFile

variable {l line text : List Char} {ls : List (List Char)}

/-- A text consists of lines. Each of them ends with a line feed, before which a carriage return may
stand; the last line may go without an end. -/
inductive ConsistsOf : List (List Char) → List Char → Prop where
  | nil : ConsistsOf [] []
  | last {l : List Char} (hl : '\n' ∉ l) : ConsistsOf [l] l
  | feed {l text : List Char} {ls : List (List Char)} (hl : '\n' ∉ l) (h : ConsistsOf ls text) :
    ConsistsOf (l :: ls) (l ++ '\n' :: text)
  | returnFeed {l text : List Char} {ls : List (List Char)} (hl : '\n' ∉ l)
      (h : ConsistsOf ls text) : ConsistsOf (l :: ls) (l ++ '\r' :: '\n' :: text)

/-- Lines make a text, whichever they are. -/
theorem consistsOf_flatMap (h : ∀ l ∈ ls, '\n' ∉ l) : ConsistsOf ls (ls.flatMap (· ++ ['\n'])) := by
  induction ls with
  | nil => exact .nil
  | cons l ls ih =>
    obtain ⟨hl, hls⟩ := List.forall_mem_cons.mp h
    rw [List.flatMap_cons, List.append_assoc]
    exact .feed hl (ih hls)

/-- What counts of a text is what counts of its lines. -/
theorem ConsistsOf.contents_eq (h : ConsistsOf ls text) : contents text = counting ls := by
  induction h with
  | nil => rfl
  | last hl => rw [contents, rawLines_of_notMem hl]
  | feed hl _ ih =>
    rw [contents, rawLines_append_newline hl, counting_cons, counting_cons, ← ih]
    rfl
  | @returnFeed l text ls hl _ ih =>
    have hreturn : '\n' ∉ l ++ ['\r'] := by simp [hl]
    rw [List.append_cons, contents, rawLines_append_newline hreturn, counting_cons, counting_cons,
      content_append_of_allBlank allBlank_return, ← ih]
    rfl

/-- The line has no comment and is not blank. -/
def IsBare (line : List Char) : Prop := '#' ∉ line ∧ ¬ AllBlank line

-- The characters of the line are looked through, and not all characters that there are.
instance (line : List Char) : Decidable (IsBare line) :=
  have : Decidable (AllBlank line) := List.decidableBAll _ line
  inferInstanceAs (Decidable ('#' ∉ line ∧ ¬ AllBlank line))

theorem content_of_notMem (h : '#' ∉ line) : content line = trim line := by
  rw [content, takeWhile_of_notMem h]

theorem IsBare.content_ne_nil (h : IsBare line) : content line ≠ [] := by
  rw [content_of_notMem h.1, ne_eq, Text.trim_eq_nil_iff]
  exact h.2

end MapFile

/-! ### Lines that say rules -/

namespace Aun

open MapFile (IsBare content counting contents)

variable {cs ds line target address : List Char} {ls : List (List Char)} {r : Rule}
  {rs : List Rule}

theorem notMem_hash_of_isNumber {n : Nat} (h : IsNumber cs n) : '#' ∉ cs :=
  fun hmem => h.ne_of_mem (d := '#') rfl (by decide) hmem rfl

theorem SaysAddress.notMem_hash {ip : Ipv4} {a : Address} (h : SaysAddress ip cs a) :
    '#' ∉ cs := by
  cases h with
  | network hn => exact notMem_hash_of_isNumber hn
  | station hn hs => simp [notMem_hash_of_isNumber hn, notMem_hash_of_isNumber hs]

namespace Rule

/-- No word of a rule starts a comment. -/
theorem Says.notMem_hash (h : Says target address r) : '#' ∉ target ∧ '#' ∉ address := by
  have hip (ip : Ipv4) : '#' ∉ ip.chars :=
    fun hmem => Ipv4.ne_of_mem_chars (d := '#') hmem rfl (by decide) rfl
  cases h with
  | host ha => exact ⟨hip _, ha.notMem_hash⟩
  | hostPort hport ha => exact ⟨by simp [hip, notMem_hash_of_isNumber hport], ha.notMem_hash⟩
  | subnet hlength hnetwork hmask hbase =>
    exact ⟨by simp [hip, notMem_hash_of_isNumber hlength], notMem_hash_of_isNumber hnetwork⟩

/-- A line that says a rule has no comment and is not blank. -/
theorem isBare_of_parse (h : parse line = .ok r) : IsBare line := by
  obtain ⟨target, address, ⟨htarget, haddress, x, y, z, hx, hy, -, hz, rfl⟩, hsays⟩ :=
    (parse_eq_ok_iff line r).mp h
  obtain ⟨hhash, hhash'⟩ := hsays.notMem_hash
  have hblank {x : List Char} (hx : AllBlank x) : '#' ∉ x :=
    fun hmem => absurd (hx _ hmem) (by decide)
  refine ⟨by simp [hblank hx, hhash, hblank hy, hhash', hblank hz], fun hall => ?_⟩
  -- Its first word would be blank.
  obtain ⟨c, w, rfl⟩ := List.exists_cons_of_ne_nil htarget.1
  have hc : Text.isBlank c = true := hall c (by simp)
  cases hc.symm.trans (htarget.2 c List.mem_cons_self)

/-- Lines of the same words say the same rule. -/
theorem parse_congr (h : fields cs = fields ds) : parse cs = .ok r ↔ parse ds = .ok r := by
  unfold parse
  rw [h]
  split <;> simp

/-- **A line says the rule that counts of it, if it is bare.** -/
theorem parse_eq_ok_iff_content (line : List Char) (r : Rule) :
    parse line = .ok r ↔ IsBare line ∧ parse (content line) = .ok r := by
  have hcontent (hline : IsBare line) : fields (content line) = fields line := by
    rw [MapFile.content_of_notMem hline.1, Text.fields_trim]
  constructor
  · intro h
    have hline := isBare_of_parse h
    exact ⟨hline, (parse_congr (hcontent hline)).mpr h⟩
  · rintro ⟨hline, h⟩
    exact (parse_congr (hcontent hline)).mp h

end Rule

/-- Lines say rules, one after the other. -/
def AreRules (ls : List (List Char)) (rs : List Rule) : Prop :=
  List.Forall₂ (fun l r => Rule.parse l = .ok r) ls rs

theorem areRules_nil_iff : AreRules [] rs ↔ rs = [] := List.forall₂_nil_left_iff

theorem areRules_cons_iff : AreRules (line :: ls) rs ↔
    ∃ r rest, Rule.parse line = .ok r ∧ AreRules ls rest ∧ rs = r :: rest :=
  List.forall₂_cons_left_iff

theorem AreRules.exists_rule (h : AreRules ls rs) (hline : line ∈ ls) :
    ∃ r, Rule.parse line = .ok r := by
  induction h with
  | nil => cases hline
  | cons hr _ ih =>
    rcases List.mem_cons.mp hline with rfl | hline
    · exact ⟨_, hr⟩
    · exact ih hline

/-- **Lines say the rules that count of them, if they are bare.** -/
theorem areRules_iff (ls : List (List Char)) (rs : List Rule) :
    AreRules ls rs ↔ (∀ l ∈ ls, IsBare l) ∧ AreRules (counting ls) rs := by
  -- A bare line counts, so the lines and what counts of them go along together.
  induction ls generalizing rs with
  | nil => exact ⟨fun h => ⟨List.forall_mem_nil _, h⟩, And.right⟩
  | cons l ls ih =>
    have hcounting (hl : IsBare l) : counting (l :: ls) = content l :: counting ls := by
      rw [MapFile.counting_cons, if_neg hl.content_ne_nil]
    rw [List.forall_mem_cons, areRules_cons_iff]
    constructor
    · rintro ⟨r, rest, hr, hrest, rfl⟩
      obtain ⟨hl, hr⟩ := (Rule.parse_eq_ok_iff_content l r).mp hr
      obtain ⟨hls, hrest⟩ := (ih rest).mp hrest
      refine ⟨⟨hl, hls⟩, ?_⟩
      rw [hcounting hl]
      exact areRules_cons_iff.mpr ⟨r, rest, hr, hrest, rfl⟩
    · rintro ⟨⟨hl, hls⟩, h⟩
      rw [hcounting hl] at h
      obtain ⟨r, rest, hr, hrest, rfl⟩ := areRules_cons_iff.mp h
      exact ⟨r, rest, (Rule.parse_eq_ok_iff_content l r).mpr ⟨hl, hr⟩, (ih rest).mpr ⟨hls, hrest⟩,
        rfl⟩

/-- The map of a text has the rules that its lines say. -/
theorem Map.parse_eq_ok_iff {text : List Char} {m : Map} :
    Map.parse text = .ok m ↔ ∃ rs, AreRules (contents text) rs ∧ Map.ofRules rs = m := by
  have hread : (fun c r => Map.readRule c = .ok r) = fun c r => Rule.parse c = .ok r := by
    funext c r
    exact propext MapFile.readRule_eq_ok_iff
  rw [Map.parse, map_eq_ok_iff]
  refine exists_congr fun rs => and_congr_left fun _ => ?_
  rw [MapFile.parse_eq_ok_iff, hread]
  rfl

end Aun

/-! ### Settings with rules in one place -/

namespace Settings

open Econet.Aun (AreRules)
open MapFile (ConsistsOf IsBare counting)

/-- The settings with these rules and without a map file. -/
def withRules (s : Settings) (lines : List String) : Settings :=
  { s with aun := { s.aun with mapFile := none, rules := lines } }

/-- The settings with a map file and without rules of their own. -/
def withMapFile (s : Settings) (path : String) : Settings :=
  { s with aun := { s.aun with mapFile := some path, rules := [] } }

variable {s : Settings} {fs : Files} {r : Routes} {m n : Aun.Map} {path : String}
  {lines : List String} {text : List Char}

theorem addRules_eq_ok_iff : addRules m lines = .ok n ↔
    ∃ rs, AreRules (lines.map String.toList) rs ∧ m.addAll rs = n := by
  -- For all maps: each rule changes the one that the others are added to.
  induction lines generalizing m with
  | nil => simp [addRules, Aun.areRules_nil_iff, Aun.Map.addAll]
  | cons line lines ih =>
    rw [List.map_cons, addRules]
    constructor
    · intro h
      split at h
      · next r hr =>
        obtain ⟨rs, hrs, hm⟩ := ih.mp h
        exact ⟨r :: rs, Aun.areRules_cons_iff.mpr ⟨r, rs, hr, hrs, rfl⟩, hm⟩
      · cases h
    · rintro ⟨rs, hrs, hm⟩
      obtain ⟨r, rest, hr, hrest, rfl⟩ := Aun.areRules_cons_iff.mp hrs
      rw [hr]
      exact ih.mpr ⟨rest, hrest, hm⟩

/-- The first line that says no rule is refused. -/
theorem addRules_append_cons {front back : List String} {line : String} {cause : Aun.RuleError}
    (hfront : ∀ l ∈ front, ∃ r, Aun.Rule.parse l.toList = .ok r)
    (hline : Aun.Rule.parse line.toList = .error cause) :
    addRules m (front ++ line :: back) = .error (.aunRule line cause) := by
  induction front generalizing m with
  | nil => rw [List.nil_append, addRules, hline]
  | cons l front ih =>
    obtain ⟨⟨r, hr⟩, hfront⟩ := List.forall_mem_cons.mp hfront
    rw [List.cons_append, addRules, hr]
    exact ih hfront

theorem aunMap_withRules (s : Settings) (lines : List String) (fs : Files) :
    (s.withRules lines).aunMap fs = addRules .empty lines := rfl

theorem aunMap_withRules_eq_ok_iff : (s.withRules lines).aunMap fs = .ok m ↔
    ∃ rs, AreRules (lines.map String.toList) rs ∧ Aun.Map.ofRules rs = m := by
  rw [aunMap_withRules, addRules_eq_ok_iff]
  rfl

theorem fromFile_eq_ok_iff {α : Type} {read : List Char → Except MapFile.Error α}
    {wrong : String → MapFile.Error → LaunchError} {a : α}
    (hread : fs.readText path = .ok (String.ofList text)) :
    fromFile fs read wrong path = .ok a ↔ read text = .ok a := by
  rw [fromFile, MapFile.load, hread]
  dsimp only
  rw [String.toList_ofList]
  cases read text <;> simp [Except.mapError]

theorem aunMap_withMapFile_eq_ok_iff (hread : fs.readText path = .ok (String.ofList text)) :
    (s.withMapFile path).aunMap fs = .ok m ↔
      ∃ rs, AreRules (MapFile.contents text) rs ∧ Aun.Map.ofRules rs = m := by
  rw [← Aun.Map.parse_eq_ok_iff]
  show (fromFile fs Aun.Map.parse .aunMap path >>= fun base => addRules base []) = .ok m ↔ _
  rw [bind_eq_ok_iff]
  constructor
  · rintro ⟨base, hbase, h⟩
    cases h
    exact (fromFile_eq_ok_iff hread).mp hbase
  · intro h
    exact ⟨m, (fromFile_eq_ok_iff hread).mpr h, rfl⟩

/-- Routes are read from the settings and their files, kind by kind. -/
theorem routes_eq_ok_iff : s.routes fs = .ok r ↔
    s.aunMap fs = .ok r.aun ∧ s.piconetNetworks fs = .ok r.networks ∧ s.pool fs = .ok r.pool := by
  rw [routes, bind_eq_ok_iff]
  constructor
  · rintro ⟨aun, haun, h⟩
    obtain ⟨networks, hnetworks, h⟩ := bind_eq_ok_iff.mp h
    obtain ⟨pool, hpool, h⟩ := bind_eq_ok_iff.mp h
    cases h
    exact ⟨haun, hnetworks, hpool⟩
  · rintro ⟨haun, hnetworks, hpool⟩
    refine ⟨r.aun, haun, bind_eq_ok_iff.mpr ⟨r.networks, hnetworks, ?_⟩⟩
    exact bind_eq_ok_iff.mpr ⟨r.pool, hpool, rfl⟩

theorem routes_eq_error_of_aunMap {e : LaunchError} (h : s.aunMap fs = .error e) :
    s.routes fs = .error e := by
  rw [routes, h]
  rfl

/-- The rest of the settings is read alike. -/
theorem routes_withRules_eq_ok_iff : (s.withRules lines).routes fs = .ok r ↔
    (∃ rs, AreRules (lines.map String.toList) rs ∧ Aun.Map.ofRules rs = r.aun) ∧
      s.piconetNetworks fs = .ok r.networks ∧ s.pool fs = .ok r.pool := by
  rw [routes_eq_ok_iff, aunMap_withRules_eq_ok_iff]
  rfl

theorem routes_withMapFile_eq_ok_iff (hread : fs.readText path = .ok (String.ofList text)) :
    (s.withMapFile path).routes fs = .ok r ↔
      (∃ rs, AreRules (MapFile.contents text) rs ∧ Aun.Map.ofRules rs = r.aun) ∧
        s.piconetNetworks fs = .ok r.networks ∧ s.pool fs = .ok r.pool := by
  rw [routes_eq_ok_iff, aunMap_withMapFile_eq_ok_iff hread]
  rfl

/-- The lines of rules that count, without their comments. -/
def significant (lines : List String) : List String :=
  (counting (lines.map String.toList)).map String.ofList

theorem map_toList_significant (lines : List String) :
    (significant lines).map String.toList = counting (lines.map String.toList) := by
  rw [significant, List.map_map]
  exact (List.map_congr_left fun l _ => String.toList_ofList).trans (List.map_id _)

/-- **Rules in settings and in a map file of the same lines.** The lines give the same routes from
the settings as from the file if they are bare. From the file they give the routes that those of
them which count give from the settings without their comments; and if the file is read, the
settings are refused for the first line that is not bare. -/
theorem routes_of_lines (s : Settings)
    (htext : ConsistsOf (lines.map String.toList) text)
    (hread : fs.readText path = .ok (String.ofList text)) :
    (∀ r, (s.withRules lines).routes fs = .ok r ↔
      (∀ line ∈ lines, IsBare line.toList) ∧ (s.withMapFile path).routes fs = .ok r) ∧
    (∀ r, (s.withMapFile path).routes fs = .ok r ↔
      (s.withRules (significant lines)).routes fs = .ok r) ∧
    ∀ front line back, lines = front ++ line :: back → (∀ l ∈ front, IsBare l.toList) →
      ¬ IsBare line.toList → (∃ r, (s.withMapFile path).routes fs = .ok r) →
      ∃ cause, (s.withRules lines).routes fs = .error (.aunRule line cause) := by
  have hcontents : MapFile.contents text = counting (lines.map String.toList) := htext.contents_eq
  refine ⟨fun r => ?_, fun r => ?_, ?_⟩
  · rw [routes_withRules_eq_ok_iff, routes_withMapFile_eq_ok_iff hread, hcontents]
    simp only [Aun.areRules_iff (lines.map String.toList), List.forall_mem_map, and_assoc,
      exists_and_left]
  · rw [routes_withRules_eq_ok_iff, routes_withMapFile_eq_ok_iff hread, hcontents,
      map_toList_significant]
  · rintro front line back rfl hfront hline ⟨r, hr⟩
    obtain ⟨⟨rs, hrs, -⟩, -⟩ := (routes_withMapFile_eq_ok_iff hread).mp hr
    rw [hcontents] at hrs
    -- The lines in front are bare, so all of each counts, and what counts says rules.
    have hrules : ∀ l ∈ front, ∃ r, Aun.Rule.parse l.toList = .ok r := by
      intro l hl
      have hmem : MapFile.content l.toList ∈
          counting ((front ++ line :: back).map String.toList) :=
        MapFile.content_mem_counting (List.mem_map_of_mem (List.mem_append_left _ hl))
          (hfront l hl).content_ne_nil
      obtain ⟨r, hr⟩ := hrs.exists_rule hmem
      exact ⟨r, (Aun.Rule.parse_eq_ok_iff_content _ r).mpr ⟨hfront l hl, hr⟩⟩
    cases hparse : Aun.Rule.parse line.toList with
    | ok r => exact absurd (Aun.Rule.isBare_of_parse hparse) hline
    | error cause =>
      exact ⟨cause, routes_eq_error_of_aunMap (addRules_append_cons hrules hparse)⟩

/-- Blanks around rules, an alias and a subnet, in lines with every kind of end. -/
theorem routes_of_lines_bare :
    let lines := ["\t10.0.0.5  1.5", "10.0.0.6:99 1.5 ", "10.0.0.0/8 9"]
    let text := "\t10.0.0.5  1.5".toList ++ '\r' :: '\n' ::
      ("10.0.0.6:99 1.5 ".toList ++ '\n' :: "10.0.0.0/8 9".toList)
    let fs := Files.ofList ["srv"] [("aun/hosts", (String.ofList text).toUTF8)]
    ConsistsOf (lines.map String.toList) text ∧
      fs.readText "aun/hosts" = .ok (String.ofList text) ∧
      ∃ r, r.aun.ruleCount = 3 ∧ (default.withMapFile "aun/hosts").routes fs = .ok r ∧
        (default.withRules lines).routes fs = .ok r := by
  intro lines text fs
  have htext : ConsistsOf (lines.map String.toList) text :=
    .returnFeed (by decide) (.feed (by decide) (.last (by decide)))
  have hread : fs.readText "aun/hosts" = .ok (String.ofList text) := by decide +kernel
  have hcount : ((default.withMapFile "aun/hosts").routes fs).toOption.map (·.aun.ruleCount) =
      some 3 := by decide +kernel
  cases hfile : (default.withMapFile "aun/hosts").routes fs with
  | error e =>
    rw [hfile] at hcount
    cases hcount
  | ok r =>
    rw [hfile] at hcount
    refine ⟨htext, hread, r, Option.some.inj hcount, rfl, ?_⟩
    exact ((routes_of_lines default htext hread).1 r).mpr ⟨by decide +kernel, hfile⟩

/-- A map file may name its hosts in comments. In the settings the same line is refused. -/
theorem not_routes_of_comment :
    let lines := ["10.0.0.5 1.5 # printer"]
    let text := (lines.map String.toList).flatMap (· ++ ['\n'])
    let fs := Files.ofList ["srv"] [("hosts", (String.ofList text).toUTF8)]
    ConsistsOf (lines.map String.toList) text ∧
      fs.readText "hosts" = .ok (String.ofList text) ∧
      (∃ r, (default.withMapFile "hosts").routes fs = .ok r) ∧
      ¬ ∃ r, (default.withRules lines).routes fs = .ok r := by
  intro lines text fs
  have hfile : ((default.withMapFile "hosts").routes fs).isOk = true := by decide +kernel
  have hrefused : ((default.withRules lines).routes fs).isOk = false := by decide +kernel
  refine ⟨MapFile.consistsOf_flatMap (by decide +kernel), by decide +kernel, ?_, ?_⟩
  · cases hroutes : (default.withMapFile "hosts").routes fs with
    | error e =>
      rw [hroutes] at hfile
      cases hfile
    | ok r => exact ⟨r, rfl⟩
  · rintro ⟨r, hr⟩
    rw [hr] at hrefused
    cases hrefused

end Settings

end Econet
