import SiteSearch.Unicode.Alphanumeric
import SiteSearch.Unicode.CombiningClass
import SiteSearch.Unicode.Mark
import SiteSearch.Unicode.WhiteSpace
import Mathlib.Data.List.Chain

/-
  How the classes of characters lie to each other.

  Classes are lists of ranges, so that one of them contains
  another, or is apart from it, if its ranges are so.  That is
  checked once over the tables.  Every character that is moved
  when a text is put into canonical order is a mark, and no
  white space is alphanumeric.

  Main declarations:
    * `SiteSearch.Unicode.Ranges.exists_of_contains`
    * `SiteSearch.Unicode.isMark_of_combiningClass_ne_zero`
    * `SiteSearch.Unicode.not_isAlphanumeric_of_isWhiteSpace`
-/

------------------------------------------------------------
-- Ranges
------------------------------------------------------------

namespace SiteSearch.Unicode

/- What a class contains lies in one of its ranges. -/
theorem Ranges.exists_of_contains
    {code : Nat}
    {ranges : Ranges}
    (hCode : ranges.contains code = true) :
    ∃ range ∈ ranges, range.1 ≤ code ∧ code ≤ range.2 := by
  induction ranges with
  | nil => simp [contains] at hCode
  | cons range ranges ih =>
      unfold contains at hCode
      split at hCode
      · simp at hCode
      · rename_i hFirst
        split at hCode
        · rename_i hLast
          exact ⟨range, List.mem_cons_self, not_lt.mp hFirst, hLast⟩
        · rcases ih hCode with ⟨other, hOther, hBounds⟩
          exact ⟨other, List.mem_cons_of_mem range hOther, hBounds⟩

/- Ascending ranges contain what lies in one of them. -/
theorem Ranges.contains_of_mem
    {code : Nat}
    {ranges : Ranges}
    (hAscending : ranges.Pairwise fun a b => a.1 ≤ b.1)
    {range : Nat × Nat}
    (hRange : range ∈ ranges)
    (hFirst : range.1 ≤ code)
    (hLast : code ≤ range.2) :
    ranges.contains code = true := by
  induction ranges with
  | nil => simp at hRange
  | cons head ranges ih =>
      rcases List.pairwise_cons.mp hAscending with ⟨hHead, hRest⟩
      unfold contains
      rcases List.mem_cons.mp hRange with rfl | hBehind
      · rw [if_neg (not_lt.mpr hFirst), if_pos hLast]
      · have hStart := (hHead range hBehind).trans hFirst
        rw [if_neg (not_lt.mpr hStart), ih hRest hBehind]
        exact ite_self _

/- A class that is not zero is that of a run. -/
theorem exists_of_classIn_ne_zero
    {code : Nat}
    {runs : List (Nat × Nat × Nat)}
    (hClass : classIn code runs ≠ 0) :
    ∃ run ∈ runs, run.1 ≤ code ∧ code ≤ run.2.1 := by
  induction runs with
  | nil => simp [classIn] at hClass
  | cons run runs ih =>
      unfold classIn at hClass
      split at hClass
      · simp at hClass
      · rename_i hFirst
        split at hClass
        · rename_i hLast
          exact ⟨run, List.mem_cons_self, not_lt.mp hFirst, hLast⟩
        · rcases ih hClass with ⟨other, hOther, hBounds⟩
          exact ⟨other, List.mem_cons_of_mem run hOther, hBounds⟩

end SiteSearch.Unicode

------------------------------------------------------------
-- Tables
------------------------------------------------------------

namespace SiteSearch.Unicode

/- The ranges of marks ascend. -/
theorem pairwise_markRanges :
    markRanges.Pairwise fun a b => a.1 ≤ b.1 := by
  rw [← List.isChain_iff_pairwise]
  decide +kernel

/- Every run of a non-zero class lies in a range of marks. -/
theorem combiningClassRuns_in_markRanges :
    ∀ run ∈ combiningClassRuns, ∃ range ∈ markRanges,
      range.1 ≤ run.1 ∧ run.2.1 ≤ range.2 := by
  have hChecked :
      (combiningClassRuns.all fun run => markRanges.any fun range =>
        Nat.ble range.1 run.1 && Nat.ble run.2.1 range.2) = true := by
    decide +kernel
  simpa only [List.all_eq_true, List.any_eq_true, Bool.and_eq_true,
    Nat.ble_eq] using hChecked

/-
  The ranges of white space are apart from the alphanumeric
  ones.
-/
theorem whiteSpaceRanges_apart :
    ∀ space ∈ whiteSpaceRanges, ∀ range ∈ alphanumericRanges,
      space.2 < range.1 ∨ range.2 < space.1 := by
  have hChecked :
      (whiteSpaceRanges.all fun space =>
        alphanumericRanges.all fun range =>
        Nat.blt space.2 range.1 || Nat.blt range.2 space.1) = true := by
    decide +kernel
  simpa only [List.all_eq_true, Bool.or_eq_true, Nat.blt_eq]
    using hChecked

/- Only marks have a class that reorders them. -/
theorem isMark_of_combiningClass_ne_zero
    {c : Char}
    (hClass : combiningClass c ≠ 0) :
    isMark c = true := by
  rcases exists_of_classIn_ne_zero hClass with
    ⟨run, hRun, hFirst, hLast⟩
  rcases combiningClassRuns_in_markRanges run hRun with
    ⟨range, hRange, hBefore, hBehind⟩
  exact Ranges.contains_of_mem pairwise_markRanges hRange
    (hBefore.trans hFirst) (hLast.trans hBehind)

/- White space is not alphanumeric. -/
theorem not_isAlphanumeric_of_isWhiteSpace
    {c : Char}
    (hSpace : isWhiteSpace c = true) :
    isAlphanumeric c = false := by
  rcases Ranges.exists_of_contains hSpace with
    ⟨space, hMember, hFirst, hLast⟩
  rw [Bool.eq_false_iff]
  intro hAlphanumeric
  rcases Ranges.exists_of_contains hAlphanumeric with
    ⟨range, hRange, hBefore, hBehind⟩
  have hApart := whiteSpaceRanges_apart space hMember range hRange
  omega

end SiteSearch.Unicode
