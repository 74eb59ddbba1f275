import Econet.Text.UpperCase
import Mathlib.Data.List.Basic

/-!
# Capitals

The characters of upper-case forms, which are capitals, are their own upper-case forms. So it does
not matter how often a text is put into upper case.

## Main definitions

* `CaseRun.IsApart r s`: the images of the run `r` are not in the run `s`

## Main results

* `upperChar_of_mem_upperChar`: capitals are their own upper-case forms
* `upper_upper`: a text in upper case is its own upper-case form
-/

namespace Econet.Text

namespace CaseRun

variable {r s : CaseRun} {a n : Nat}

theorem map?_eq_some (h : r.map? a = some n) :
    ∃ q < r.count, a = r.first + r.stride * q ∧ n = r.image + r.stride * q := by
  unfold map? at h
  split at h
  · next hr =>
    simp only [Bool.and_eq_true, decide_eq_true_eq] at hr
    obtain ⟨⟨hfirst, hmod⟩, hcount⟩ := hr
    have hdiv := Nat.div_add_mod (a - r.first) r.stride
    rw [Option.some.injEq] at h
    exact ⟨_, hcount, by omega, by omega⟩
  · cases h

/-- The images of one run are not in the other one: they lie below it, or above it, or they fall
into the gaps of a run of every other character. -/
def isApart (r s : CaseRun) : Bool :=
  -- Comparisons of literals by these functions are evaluated at once.
  Nat.blt (r.image + r.stride * (r.count - 1)) s.first ||
    (Nat.blt (s.first + s.stride * (s.count - 1)) r.image ||
      ((Nat.beq r.count 1 || Nat.beq (r.stride % 2) 0) && Nat.beq (s.stride % 2) 0 &&
        Nat.beq ((r.image + s.first) % 2) 1))

theorem map?_eq_none_of_isApart (h : r.isApart s = true) (hr : r.map? a = some n) :
    s.map? n = none := by
  obtain ⟨q, hq, -, hn⟩ := map?_eq_some hr
  by_contra hs
  obtain ⟨k, hk⟩ := Option.ne_none_iff_exists'.mp hs
  obtain ⟨p, hp, hn', -⟩ := map?_eq_some hk
  have hrq : r.stride * q ≤ r.stride * (r.count - 1) := Nat.mul_le_mul_left _ (by omega)
  have hsp : s.stride * p ≤ s.stride * (s.count - 1) := Nat.mul_le_mul_left _ (by omega)
  simp only [isApart, Bool.or_eq_true, Bool.and_eq_true, Nat.blt_eq, Nat.beq_eq] at h
  rcases h with h | h | ⟨⟨hr2, hs2⟩, h⟩
  · omega
  · omega
  · -- Both runs keep to numbers of one parity, and to different ones.
    have hrq2 : r.stride * q % 2 = 0 := by
      rcases hr2 with hr1 | hr2
      · have : q = 0 := by omega
        simp [this]
      · simp [Nat.mul_mod, hr2]
    have hsp2 : s.stride * p % 2 = 0 := by simp [Nat.mul_mod, hs2]
    omega

end CaseRun

/-! ### The tables -/

/-- Runs of all images: those of the runs, and one for each character of an expansion. -/
def imageRuns : List CaseRun :=
  caseRuns ++ caseExpansions.flatMap fun e => e.2.map fun n => ⟨n, 1, 1, n⟩

/-- Runs of all characters that are not their own upper-case forms. -/
def casedRuns : List CaseRun := caseRuns ++ caseExpansions.map fun e => ⟨e.1, 1, 1, e.1⟩

theorem isApart_of_mem {r s : CaseRun} (hr : r ∈ imageRuns) (hs : s ∈ casedRuns) :
    r.isApart s = true := by
  have h : (imageRuns.all fun r => casedRuns.all r.isApart) = true := by decide +kernel
  exact List.all_eq_true.mp (List.all_eq_true.mp h r hr) s hs

theorem map?_single (n : Nat) : (⟨n, 1, 1, n⟩ : CaseRun).map? n = some n := by
  simp [CaseRun.map?]

/-- An image has no upper-case form but itself. -/
theorem upperChar_of_mem_imageRuns {r : CaseRun} {a n : Nat} (hr : r ∈ imageRuns)
    (h : r.map? a = some n) : upperChar (Char.ofNat n) = [Char.ofNat n] := by
  -- Neither of the tables has an entry for it.
  by_cases hv : n.isValidChar
  · have hruns : caseRuns.findSome? (·.map? n) = none := by
      rw [List.findSome?_eq_none_iff]
      intro s hs
      exact CaseRun.map?_eq_none_of_isApart
        (isApart_of_mem hr (List.mem_append_left _ hs)) h
    have hexpansions : caseExpansions.lookup n = none := by
      rw [List.lookup_eq_none_iff]
      intro e he
      have hs : (⟨e.1, 1, 1, e.1⟩ : CaseRun) ∈ casedRuns :=
        List.mem_append_right _ (List.mem_map.mpr ⟨e, he, rfl⟩)
      have hnone := CaseRun.map?_eq_none_of_isApart (isApart_of_mem hr hs) h
      rw [bne_iff_ne]
      rintro rfl
      rw [map?_single] at hnone
      cases hnone
    have hn : (Char.ofNat n).toNat = n := by
      rw [Char.ofNat, dif_pos hv]
      rfl
    simp only [upperChar, hn, hruns, hexpansions]
  · -- A number that is no code point stands for the null character.
    rw [Char.ofNat, dif_neg hv]
    rfl

/-- **Capitals are their own upper-case forms.** -/
theorem upperChar_of_mem_upperChar {c d : Char} (h : d ∈ upperChar c) : upperChar d = [d] := by
  unfold upperChar at h
  split at h
  · next n hn =>
    obtain ⟨r, hr, hrn⟩ := List.exists_of_findSome?_eq_some hn
    rw [List.mem_singleton.mp h]
    exact upperChar_of_mem_imageRuns (List.mem_append_left _ hr) hrn
  · next hruns =>
    split at h
    · next ns hns =>
      obtain ⟨n, hn, rfl⟩ := List.mem_map.mp h
      have he : (c.toNat, ns) ∈ caseExpansions := by
        obtain ⟨front, back, hsplit, -⟩ := List.lookup_eq_some_iff.mp hns
        rw [hsplit]
        exact List.mem_append_right _ List.mem_cons_self
      exact upperChar_of_mem_imageRuns (r := ⟨n, 1, 1, n⟩) (List.mem_append_right _
        (List.mem_flatMap.mpr ⟨_, he, List.mem_map.mpr ⟨n, hn, rfl⟩⟩)) (map?_single n)
    · next hexpansions =>
      rw [List.mem_singleton.mp h, upperChar, hruns]
      simp only [hexpansions]

theorem toUpper_toUpper (cs : List Char) : toUpper (toUpper cs) = toUpper cs := by
  have h (c : Char) : toUpper (upperChar c) = upperChar c := by
    rw [toUpper, List.flatMap_congr (fun d hd => upperChar_of_mem_upperChar hd)]
    exact List.flatMap_singleton' _
  rw [toUpper, toUpper, List.flatMap_assoc]
  exact List.flatMap_congr fun c _ => h c

/-- **A text in upper case is its own upper-case form.** -/
@[simp] theorem upper_upper (s : String) : upper (upper s) = upper s := by
  simp only [upper, String.toList_ofList, toUpper_toUpper]

end Econet.Text
