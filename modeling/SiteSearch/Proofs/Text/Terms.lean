import SiteSearch.Proofs.Text.Runs
import SiteSearch.Proofs.Unicode.Classes
import SiteSearch.Text.Terms
import Mathlib.Data.String.Basic

/-
  The terms of a text that is cut.

  Canonical order moves marks only, and folding drops them.
  So a text is folded character by character, and its terms
  are the alphanumeric runs of what it is folded to.  Where a
  text is cut, its terms are cut, too: each term of the part
  before the cut is the beginning of a term of the text.

  Main declarations:
    * `SiteSearch.Unicode.unmarked_reorder`
    * `SiteSearch.Text.fold_append`
    * `SiteSearch.Text.termChars_eq_runs`
    * `SiteSearch.Text.isCut_termChars`
    * `SiteSearch.Text.folding_commutes_with_cutting`
-/

------------------------------------------------------------
-- Canonical Order
------------------------------------------------------------

namespace SiteSearch.Unicode

/- The characters of a text that are no marks. -/
def unmarked
    (text : List Char) :
    List Char :=
  text.filter fun c => !isMark c

/- A character moves past marks only, and only if it is one. -/
theorem unmarked_insertByClass
    (c : Char)
    (text : List Char) :
    unmarked (insertByClass c text) = unmarked (c :: text) := by
  induction text with
  | nil => rfl
  | cons d rest ih =>
      unfold insertByClass
      split
      · rename_i hClasses
        have hMarkD : isMark d = true :=
          isMark_of_combiningClass_ne_zero (by omega)
        have hMarkC : isMark c = true :=
          isMark_of_combiningClass_ne_zero (by omega)
        unfold unmarked at ih ⊢
        simpa [hMarkC, hMarkD] using ih
      · rfl

/- Canonical order does not change what is left without marks. -/
theorem unmarked_reorder
    (text : List Char) :
    unmarked (reorder text) = unmarked text := by
  induction text with
  | nil => rfl
  | cons c rest ih =>
      calc unmarked (reorder (c :: rest))
          = unmarked (c :: reorder rest) :=
            unmarked_insertByClass c (reorder rest)
        _ = unmarked [c] ++ unmarked (reorder rest) :=
            List.filter_append [c] (reorder rest)
        _ = unmarked [c] ++ unmarked rest := by rw [ih]
        _ = unmarked (c :: rest) :=
            (List.filter_append [c] rest).symm

end SiteSearch.Unicode

------------------------------------------------------------
-- Folding
------------------------------------------------------------

namespace SiteSearch.Text

open Unicode

/- What one character is folded to. -/
def foldChar
    (c : Char) :
    List Char :=
  (unmarked (decompose c)).flatMap lowercase

/- A text is folded character by character. -/
theorem fold_eq_flatMap
    (text : List Char) :
    fold text = text.flatMap foldChar := by
  have hMarks :
      fold text =
        (unmarked (reorder (text.flatMap decompose))).flatMap
          lowercase :=
    rfl
  rw [hMarks, unmarked_reorder, unmarked, List.filter_flatMap,
    List.flatMap_assoc]
  rfl

/- Folding the parts of a text folds the text. -/
theorem fold_append
    (a b : List Char) :
    fold (a ++ b) = fold a ++ fold b := by
  simp only [fold_eq_flatMap, List.flatMap_append]

end SiteSearch.Text

------------------------------------------------------------
-- Terms
------------------------------------------------------------

namespace SiteSearch.Text

open Unicode

/-
  Single spaces separate the same terms as the white space
  did.
-/
theorem termChars_eq_runs
    (text : List Char) :
    termChars text = runs isAlphanumeric (fold text) := by
  have hSpace : ∀ c,
      (!isWhiteSpace c) = false → isAlphanumeric c = false :=
    fun c hOutside => not_isAlphanumeric_of_isWhiteSpace
      (by simpa using hOutside)
  exact runs_intercalate_runs hSpace (hSpace ' ' (by decide))
    (fold text)

/- Cutting a text cuts its terms. -/
theorem isCut_termChars
    (text rest : List Char) :
    IsCut (termChars text) (termChars (text ++ rest)) := by
  rw [termChars_eq_runs, termChars_eq_runs, fold_append]
  exact isCut_runs_append isAlphanumeric (fold text) (fold rest)

/- A term of a text that was cut is the beginning of a term. -/
theorem exists_term_of_cut
    {cut text : String}
    (hCut : cut.toList <+: text.toList)
    {term : String}
    (hTerm : term ∈ terms cut) :
    ∃ word ∈ terms text, term.toList <+: word.toList := by
  rcases hCut with ⟨rest, hText⟩
  rcases List.mem_map.mp hTerm with ⟨run, hRun, rfl⟩
  rcases (isCut_termChars cut.toList rest).exists_beginning hRun with
    ⟨longer, hLonger, hPrefix⟩
  rw [hText] at hLonger
  refine ⟨String.ofList longer,
    List.mem_map.mpr ⟨longer, hLonger, rfl⟩, ?_⟩
  rw [String.toList_ofList, String.toList_ofList]
  exact hPrefix

/-
  A text that is cut has the terms of the whole up to the
  one at the cut.
-/
theorem exists_split_terms
    (text rest : String)
    (hSome : terms text ≠ []) :
    ∃ front last word behind,
      terms text = front ++ [last] ∧
        terms (text ++ rest) = front ++ word :: behind ∧
        last.toList <+: word.toList := by
  have hRuns : termChars text.toList ≠ [] := by
    intro hNone
    exact hSome (by rw [terms, hNone, List.map_nil])
  rcases (isCut_termChars text.toList rest.toList).exists_split
    hRuns with
    ⟨front, run, longer, behind, hTerms, hWords, hPrefix⟩
  refine ⟨front.map String.ofList, String.ofList run,
    String.ofList longer, behind.map String.ofList, ?_, ?_, ?_⟩
  · rw [terms, hTerms, List.map_append, List.map_singleton]
  · rw [terms, String.toList_append, hWords, List.map_append,
      List.map_cons]
  · rw [String.toList_ofList, String.toList_ofList]
    exact hPrefix

/-
  Marks may change places where two texts meet, and yet what
  these are folded to is put together as they are.  So a text
  that is cut has the terms of the whole, in order, up to the
  one at the cut, and of that a beginning.
-/
theorem folding_commutes_with_cutting
    (text rest : String) :
    fold (text ++ rest).toList = fold text.toList ++ fold rest.toList ∧
      (terms text).length ≤ (terms (text ++ rest)).length ∧
      (∀ place, place + 1 < (terms text).length →
        (terms text)[place]? = (terms (text ++ rest))[place]?) ∧
      ∀ last, (terms text).getLast? = some last →
        ∃ word, (terms (text ++ rest))[(terms text).length - 1]? =
          some word ∧
          last.toList <+: word.toList := by
  refine ⟨by rw [String.toList_append, fold_append], ?_⟩
  by_cases hNone : terms text = []
  · simp [hNone]
  · rcases exists_split_terms text rest hNone with
      ⟨front, last, word, behind, hTerms, hWords, hPrefix⟩
    rw [hTerms, hWords]
    refine ⟨by simp, ?_, ?_⟩
    · intro place hPlace
      have hFront : place < front.length := by
        simpa using hPlace
      rw [List.getElem?_append_left hFront,
        List.getElem?_append_left hFront]
    · intro other hLast
      have hSame : other = last := by
        simpa using hLast.symm
      exact ⟨word, by simp, hSame ▸ hPrefix⟩

/- Without folding it would not be so: marks move past the cut. -/
example :
    decomposeText ("e\u0301".toList ++ "\u0323".toList) ≠
      decomposeText "e\u0301".toList ++ decomposeText "\u0323".toList := by
  decide +kernel

end SiteSearch.Text
