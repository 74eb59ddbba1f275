/-!
# Blank characters and the splitting of text

Texts are read as lists of characters. A blank is a character of the Unicode class
`White_Space`; fields are what stands between blanks, and lines end at a line feed.

## Main definitions

* `isBlank`: membership in `White_Space`
* `trim`, `trimStart`, `trimEnd`: text without its outer blanks
* `pieces p`: the text cut at every character of a class
* `fields`: the nonempty pieces between blanks
* `splitOnce p`: the text before and after the first character of a class
* `lines`: the lines of a text, without their line ends

## Main results

* `trim_eq_self`: what trimming leaves
* `splitOnce_append`, `splitOnce_eq_some`: where a text is cut
-/

namespace Econet.Text

/-- Membership in the Unicode class `White_Space`. -/
def isBlank (c : Char) : Bool :=
  let n := c.toNat
  (9 ≤ n && n ≤ 13) || n = 0x20 || n = 0x85 || n = 0xA0 || n = 0x1680 ||
    (0x2000 ≤ n && n ≤ 0x200A) || n = 0x2028 || n = 0x2029 || n = 0x202F || n = 0x205F ||
    n = 0x3000

/-! ### Outer blanks -/

/-- Text without its leading blanks. -/
def trimStart (cs : List Char) : List Char := cs.dropWhile isBlank

/-- Text without its trailing blanks. -/
def trimEnd (cs : List Char) : List Char := (cs.reverse.dropWhile isBlank).reverse

/-- Text without its leading and trailing blanks. -/
def trim (cs : List Char) : List Char := trimEnd (trimStart cs)

theorem trimStart_eq_self {cs : List Char} (h : ∀ c ∈ cs, isBlank c = false) :
    trimStart cs = cs := by
  cases cs with
  | nil => rfl
  | cons c cs => simp [trimStart, h c List.mem_cons_self]

/-- Text without any blank is left as it is. -/
theorem trim_eq_self {cs : List Char} (h : ∀ c ∈ cs, isBlank c = false) : trim cs = cs := by
  have hr : trimStart cs.reverse = cs.reverse :=
    trimStart_eq_self fun c hc => h c (by simpa using hc)
  rw [trim, trimStart_eq_self h, trimEnd]
  simpa [trimStart] using congrArg List.reverse hr

/-! ### Cutting at a class of characters -/

/-- The text cut at every character of the class `p`; empty pieces are kept. -/
def pieces (p : Char → Bool) : List Char → List (List Char)
  | [] => [[]]
  | c :: cs =>
    if p c then [] :: pieces p cs
    else
      match pieces p cs with
      | [] => [[c]]
      | w :: ws => (c :: w) :: ws

/-- The text before and after the first character of the class `p`, if there is one. -/
def splitOnce (p : Char → Bool) : List Char → Option (List Char × List Char)
  | [] => none
  | c :: cs =>
    if p c then some ([], cs)
    else (splitOnce p cs).map fun r => (c :: r.1, r.2)

/-- The nonempty pieces between blanks. -/
def fields (cs : List Char) : List (List Char) := (pieces isBlank cs).filter (· ≠ [])

theorem pieces_ne_nil (p : Char → Bool) (cs : List Char) : pieces p cs ≠ [] := by
  cases cs with
  | nil => simp [pieces]
  | cons c cs =>
    simp only [pieces]
    split
    · simp
    · split <;> simp

theorem splitOnce_append {p : Char → Bool} {a b : List Char} {c : Char}
    (ha : ∀ d ∈ a, p d = false) (hc : p c = true) : splitOnce p (a ++ c :: b) = some (a, b) := by
  induction a with
  | nil => simp [splitOnce, hc]
  | cons d a ih =>
    have hd := ha d List.mem_cons_self
    have ha := ih fun e he => ha e (List.mem_cons_of_mem _ he)
    simp [splitOnce, hd, ha]

theorem splitOnce_eq_some {p : Char → Bool} {cs a b : List Char}
    (h : splitOnce p cs = some (a, b)) :
    (∀ c ∈ a, p c = false) ∧ ∃ c, p c = true ∧ cs = a ++ c :: b := by
  induction cs generalizing a b with
  | nil => simp [splitOnce] at h
  | cons c cs ih =>
    simp only [splitOnce] at h
    split at h
    · next hc =>
      simp only [Option.some.injEq, Prod.mk.injEq] at h
      obtain ⟨rfl, rfl⟩ := h
      exact ⟨by simp, c, hc, rfl⟩
    · next hc =>
      obtain ⟨⟨a', b'⟩, hr, he⟩ := Option.map_eq_some_iff.1 h
      simp only [Prod.mk.injEq] at he
      obtain ⟨rfl, rfl⟩ := he
      obtain ⟨h1, d, hd, rfl⟩ := ih hr
      refine ⟨?_, d, hd, rfl⟩
      intro x hx
      rcases List.mem_cons.1 hx with rfl | hx
      · simpa using hc
      · exact h1 x hx

/-! ### Lines -/

/-- A line without the carriage return that ends it. -/
def dropReturn (line : List Char) : List Char :=
  if line.getLast? = some '\r' then line.dropLast else line

/-- The lines of a text. A line feed ends a line, together with one carriage return before
it; what follows the last line feed is a line if it is not empty. -/
def lines (cs : List Char) : List (List Char) :=
  let ps := pieces (· == '\n') cs
  let last := ps.getLast?.getD []
  ps.dropLast.map dropReturn ++ if last = [] then [] else [last]

end Econet.Text
