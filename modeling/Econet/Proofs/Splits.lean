import Mathlib.Data.List.Basic

/-!
# Lists split at an entry

What holds of each entry of a list and the entries before it is said of the ways to split the list
at an entry. When a list grows at its end, or two lists are put together, the split is in the part
that was there or in the part that is new.

## Main results

* `append_cons_eq_concat_iff`: a list with one more entry, split at an entry
* `append_cons_eq_append_iff`: two lists put together, split at an entry
-/

namespace Econet

variable {α : Type} {pre post as bs : List α} {x y : α}

/-- The entry is the last one, or one of those before it. -/
theorem append_cons_eq_concat_iff :
    pre ++ x :: post = as ++ [y] ↔
      (pre = as ∧ x = y ∧ post = []) ∨ ∃ rest, post = rest ++ [y] ∧ pre ++ x :: rest = as := by
  constructor
  · intro h
    rcases List.eq_nil_or_concat post with rfl | ⟨rest, z, rfl⟩
    · obtain ⟨rfl, hx⟩ := List.append_inj' h rfl
      exact .inl ⟨rfl, List.head_eq_of_cons_eq hx, rfl⟩
    · rw [List.concat_eq_append] at h ⊢
      rw [← List.cons_append, ← List.append_assoc] at h
      obtain ⟨rfl, hz⟩ := List.append_inj' h rfl
      exact .inr ⟨rest, by rw [hz], rfl⟩
  · rintro (⟨rfl, rfl, rfl⟩ | ⟨rest, rfl, rfl⟩)
    · rfl
    · simp

/-- The entry is one of the first list, or of the second one. -/
theorem append_cons_eq_append_iff :
    pre ++ x :: post = as ++ bs ↔
      (∃ rest, post = rest ++ bs ∧ pre ++ x :: rest = as) ∨
      ∃ rest, pre = as ++ rest ∧ rest ++ x :: post = bs := by
  constructor
  · intro h
    rcases List.append_eq_append_iff.mp h with ⟨rest, rfl, hrest⟩ | ⟨rest, rfl, rfl⟩
    · rcases List.cons_eq_append_iff.mp hrest with ⟨rfl, rfl⟩ | ⟨rest, rfl, rfl⟩
      · exact .inr ⟨[], by simp, rfl⟩
      · exact .inl ⟨rest, rfl, rfl⟩
    · exact .inr ⟨rest, rfl, rfl⟩
  · rintro (⟨rest, rfl, rfl⟩ | ⟨rest, rfl, rfl⟩)
    · simp
    · simp

end Econet
