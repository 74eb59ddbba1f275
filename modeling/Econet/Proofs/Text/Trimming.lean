import Econet.Proofs.Text.Fields
import Mathlib.Data.List.DropRight

/-!
# Texts without their outer blanks

A text is what is left of it when it is trimmed, with blanks on both sides. Blanks that are added on
either side go unnoticed, by who trims the text as well as by who reads its words.

## Main results

* `AllBlank.trim_append`, `trim_append_of_allBlank`: blanks on either side are dropped
* `trim_eq_nil_iff`: what is left is empty if the text was blank
* `exists_eq_append_trim`: a text is what is left of it, and blanks
* `fields_trim`: the words of a text are those of what is left of it
-/

namespace Econet.Text

variable {cs x y : List Char} {c : Char}

theorem trimEnd_eq_rdropWhile (cs : List Char) : trimEnd cs = cs.rdropWhile isBlank := rfl

/-! ### Blanks that are dropped -/

/-- Blanks in front are dropped. -/
theorem AllBlank.trim_append (h : AllBlank x) (cs : List Char) : trim (x ++ cs) = trim cs := by
  rw [trim, trim, trimStart, List.dropWhile_append_of_pos h]
  rfl

theorem trimEnd_append_of_allBlank (h : AllBlank x) (cs : List Char) :
    trimEnd (cs ++ x) = trimEnd cs := by
  have hreverse : ∀ c ∈ x.reverse, isBlank c = true := fun c hc => h c (List.mem_reverse.mp hc)
  rw [trimEnd, trimEnd, List.reverse_append, List.dropWhile_append_of_pos hreverse]

theorem trim_eq_nil_iff : trim cs = [] ↔ AllBlank cs := by
  constructor
  · intro h
    have hstart : AllBlank (trimStart cs) := by
      rwa [trim, trimEnd_eq_rdropWhile, List.rdropWhile_eq_nil_iff] at h
    -- What dropping leaves does not start with a blank, so it leaves nothing here.
    have hnil : cs.dropWhile isBlank = [] := by
      rcases hcs : cs.dropWhile isBlank with - | ⟨c, rest⟩
      · rfl
      · have hne : cs.dropWhile isBlank ≠ [] := by simp [hcs]
        have hc : isBlank ((cs.dropWhile isBlank).head hne) = true :=
          hstart _ (List.head_mem hne)
        exact absurd (hc.symm.trans (List.head_dropWhile_not isBlank hne)) (by decide)
    exact List.dropWhile_eq_nil_iff.mp hnil
  · intro h
    have htrim := h.trim_append []
    rwa [List.append_nil] at htrim

/-- Blanks behind are dropped. -/
theorem trim_append_of_allBlank (h : AllBlank x) (cs : List Char) : trim (cs ++ x) = trim cs := by
  by_cases hcs : AllBlank cs
  · rw [hcs.trim_append, trim_eq_nil_iff.mpr h, trim_eq_nil_iff.mpr hcs]
  · have hne : cs.dropWhile isBlank ≠ [] := mt List.dropWhile_eq_nil_iff.mp hcs
    have hstart : trimStart (cs ++ x) = trimStart cs ++ x := by
      rw [trimStart, List.dropWhile_append, if_neg (by simpa using hne)]
      rfl
    rw [trim, hstart, trimEnd_append_of_allBlank h]
    rfl

/-! ### What is left -/

/-- **A text is what is left of it, and blanks.** -/
theorem exists_eq_append_trim (cs : List Char) :
    ∃ x y, AllBlank x ∧ AllBlank y ∧ cs = x ++ (trim cs ++ y) := by
  refine ⟨cs.takeWhile isBlank, (trimStart cs).rtakeWhile isBlank, ?_, ?_, ?_⟩
  · intro c hc
    exact List.mem_takeWhile_imp hc
  · intro c hc
    exact List.mem_rtakeWhile_imp hc
  · rw [trim, trimEnd_eq_rdropWhile, List.rdropWhile_append_rtakeWhile]
    exact List.takeWhile_append_dropWhile.symm

theorem trim_trim (cs : List Char) : trim (trim cs) = trim cs := by
  obtain ⟨x, y, hx, hy, hcs⟩ := exists_eq_append_trim cs
  calc trim (trim cs) = trim (trim cs ++ y) := (trim_append_of_allBlank hy _).symm
    _ = trim (x ++ (trim cs ++ y)) := (hx.trim_append _).symm
    _ = trim cs := by rw [← hcs]

theorem not_isBlank_of_trim_eq_cons {rest : List Char} (h : trim cs = c :: rest) :
    isBlank c = false := by
  by_contra hc
  rw [Bool.not_eq_false] at hc
  -- The blank in front would have been dropped, and the text be shorter than it is.
  have hlength : (trim (c :: rest)).length ≤ rest.length := by
    have hdrop : trim (c :: rest) = trim rest :=
      AllBlank.trim_append (x := [c]) (by simpa [AllBlank] using hc) rest
    rw [hdrop]
    obtain ⟨x, y, -, -, hrest⟩ := exists_eq_append_trim rest
    have := congrArg List.length hrest
    simp only [List.length_append] at this
    omega
  rw [← h, trim_trim, h, List.length_cons] at hlength
  omega

/-! ### Words -/

theorem fields_append_of_allBlank (h : AllBlank x) (cs : List Char) :
    fields (cs ++ x) = fields cs := by
  obtain ⟨front, u, hcs⟩ := exists_pieces_eq_concat isBlank cs
  obtain ⟨v, back, hx⟩ := exists_pieces_eq_cons isBlank x
  -- Blanks are cut into empty pieces.
  have hempty : ∀ w ∈ v :: back, w = [] := by
    have hnil : fields x = [] := fields_eq_nil_iff.mpr h
    rw [fields, hx, List.filter_eq_nil_iff] at hnil
    simpa using hnil
  have hback : back.filter (· ≠ []) = [] := by
    rw [List.filter_eq_nil_iff]
    simpa using fun w hw => hempty w (List.mem_cons_of_mem v hw)
  rw [fields, fields, pieces_append hcs hx, hcs, hempty v List.mem_cons_self, List.append_nil,
    List.append_cons, List.filter_append, hback, List.append_nil]

/-- **The words of a text are those of what is left of it.** -/
theorem fields_trim (cs : List Char) : fields (trim cs) = fields cs := by
  obtain ⟨x, y, hx, hy, hcs⟩ := exists_eq_append_trim cs
  calc fields (trim cs) = fields (trim cs ++ y) := (fields_append_of_allBlank hy _).symm
    _ = fields (x ++ (trim cs ++ y)) := (hx.fields_append _).symm
    _ = fields cs := by rw [← hcs]

end Econet.Text
