import SiteSearch.Proofs.Text.Terms
import SiteSearch.Proofs.Unicode.Folded

/-
  Folding a folded text.

  What a text is folded to consists of folded characters, and
  so do the words and terms that are cut out of it and what
  they are joined to.  So folding leaves all of these as they
  are, and cutting them again gives the same pieces.

  Main declarations:
    * `SiteSearch.Text.AreFolded`
    * `SiteSearch.Text.areFolded_fold`
    * `SiteSearch.Text.normalizeChars_normalizeChars`
    * `SiteSearch.Text.termChars_of_mem_termChars`
    * `SiteSearch.Text.folding_reaches_fixed_point`
-/

------------------------------------------------------------
-- Folded Texts
------------------------------------------------------------

namespace SiteSearch.Text

open Unicode

/- A text of folded characters. -/
def AreFolded
    (text : List Char) :
    Prop :=
  ∀ c ∈ text, IsFolded c

/- A character is folded to folded ones. -/
theorem isFolded_of_mem_foldChar
    {c d : Char}
    (hMember : d ∈ foldChar c) :
    IsFolded d := by
  rcases List.mem_flatMap.mp hMember with ⟨part, hPart, hLower⟩
  rcases List.mem_filter.mp hPart with ⟨hDecomposed, hMark⟩
  have hUnmarked : isMark part = false := by simpa using hMark
  exact isFolded_of_mem_lowercase (isWhole_of_mem_decompose hDecomposed)
    hUnmarked hLower

/- Folding leaves a folded character as it is. -/
theorem foldChar_of_isFolded
    {c : Char}
    (hFolded : IsFolded c) :
    foldChar c = [c] := by
  rw [foldChar, decompose_of_isWhole hFolded.whole]
  simp [unmarked, hFolded.unmarked, hFolded.lower]

/- A text is folded to folded characters. -/
theorem areFolded_fold
    (text : List Char) :
    AreFolded (fold text) := by
  intro d hMember
  rw [fold_eq_flatMap] at hMember
  rcases List.mem_flatMap.mp hMember with ⟨c, -, hFolded⟩
  exact isFolded_of_mem_foldChar hFolded

/- Folding leaves a folded text as it is. -/
theorem AreFolded.fold_eq
    {text : List Char}
    (hFolded : AreFolded text) :
    fold text = text := by
  rw [fold_eq_flatMap, List.flatMap_congr fun c hMember =>
    foldChar_of_isFolded (hFolded c hMember), List.flatMap_singleton']

end SiteSearch.Text

------------------------------------------------------------
-- Pieces
------------------------------------------------------------

namespace SiteSearch.Text

open Unicode

/- Between pieces that are joined stands the separator only. -/
theorem eq_or_mem_of_mem_intercalate
    {separator c : Char}
    {pieces : List (List Char)}
    (hMember : c ∈ [separator].intercalate pieces) :
    c = separator ∨ ∃ piece ∈ pieces, c ∈ piece := by
  induction pieces with
  | nil => cases hMember
  | cons first pieces ih =>
      cases pieces with
      | nil => exact Or.inr ⟨first, by simp, by simpa using hMember⟩
      | cons second pieces =>
          rw [List.intercalate_cons_cons, List.append_assoc,
            List.mem_append, List.singleton_append,
            List.mem_cons] at hMember
          rcases hMember with hFirst | hSame | hBehind
          · exact Or.inr ⟨first, List.mem_cons_self, hFirst⟩
          · exact Or.inl hSame
          · rcases ih hBehind with hSame | ⟨piece, hPiece, hInside⟩
            · exact Or.inl hSame
            · exact Or.inr
                ⟨piece, List.mem_cons_of_mem first hPiece, hInside⟩

/- The runs of a folded text are folded. -/
theorem AreFolded.of_mem_runs
    {text run : List Char}
    (hFolded : AreFolded text)
    {inside : Char → Bool}
    (hRun : run ∈ runs inside text) :
    AreFolded run :=
  fun c hMember => hFolded c (mem_and_inside_of_mem_runs hRun hMember).1

/- So is what they are joined to by spaces. -/
theorem AreFolded.intercalate_runs
    {text : List Char}
    (hFolded : AreFolded text)
    (inside : Char → Bool) :
    AreFolded ([' '].intercalate (runs inside text)) := by
  intro c hMember
  rcases eq_or_mem_of_mem_intercalate hMember with
    rfl | ⟨run, hRun, hInside⟩
  · exact isFolded_of_testBit (by decide +kernel)
  · exact hFolded.of_mem_runs hRun c hInside

/- Joining the runs of a text by a separator keeps them. -/
theorem runs_intercalate_self
    {inside : Char → Bool}
    {separator : Char}
    (hSeparator : inside separator = false)
    (text : List Char) :
    runs inside ([separator].intercalate (runs inside text)) =
      runs inside text :=
  runs_intercalate_runs (fun _ hOutside => hOutside) hSeparator text

end SiteSearch.Text

------------------------------------------------------------
-- Normalized Texts
------------------------------------------------------------

namespace SiteSearch.Text

open Unicode

/- Folding leaves a normalized text as it is. -/
theorem fold_normalizeChars
    (text : List Char) :
    fold (normalizeChars text) = normalizeChars text :=
  ((areFolded_fold text).intercalate_runs _).fold_eq

/-
  So its words are those of the text, and are joined as
  before.
-/
theorem normalizeChars_normalizeChars
    (text : List Char) :
    normalizeChars (normalizeChars text) = normalizeChars text := by
  rw [normalizeChars, fold_normalizeChars, normalizeChars,
    runs_intercalate_self (by decide)]

/- And so are its terms. -/
theorem termChars_normalizeChars
    (text : List Char) :
    termChars (normalizeChars text) = termChars text := by
  rw [termChars_eq_runs, fold_normalizeChars]
  rfl

end SiteSearch.Text

------------------------------------------------------------
-- Terms
------------------------------------------------------------

namespace SiteSearch.Text

open Unicode

/- A term is not empty. -/
theorem ne_nil_of_mem_termChars
    {text term : List Char}
    (hTerm : term ∈ termChars text) :
    term ≠ [] := by
  rintro rfl
  exact nil_not_mem_runsFrom isAlphanumeric [] (normalizeChars text)
    hTerm

/- It consists of alphanumeric characters. -/
theorem isAlphanumeric_of_mem_termChars
    {text term : List Char}
    (hTerm : term ∈ termChars text)
    {c : Char}
    (hMember : c ∈ term) :
    isAlphanumeric c = true :=
  (mem_and_inside_of_mem_runs hTerm hMember).2

/- The only term of a term is itself. -/
theorem termChars_of_mem_termChars
    {text term : List Char}
    (hTerm : term ∈ termChars text) :
    termChars term = [term] := by
  have hFolded : AreFolded term := by
    rw [termChars_eq_runs] at hTerm
    exact (areFolded_fold text).of_mem_runs hTerm
  rw [termChars_eq_runs, hFolded.fold_eq]
  exact runs_of_inside (ne_nil_of_mem_termChars hTerm)
    fun c hMember => isAlphanumeric_of_mem_termChars hTerm hMember

/-
  Terms that are joined by spaces are the terms of what they
  make.
-/
theorem termChars_intercalate_termChars
    (text : List Char) :
    termChars ([' '].intercalate (termChars text)) =
      termChars text := by
  have hJoined : AreFolded ([' '].intercalate (termChars text)) := by
    rw [termChars_eq_runs]
    exact (areFolded_fold text).intercalate_runs isAlphanumeric
  rw [termChars_eq_runs, hJoined.fold_eq, termChars_eq_runs]
  exact runs_intercalate_self (by decide) (fold text)

end SiteSearch.Text

------------------------------------------------------------
-- The Fixed Point
------------------------------------------------------------

namespace SiteSearch.Text

open Unicode

/-
  Normalizing a text once is enough, for the text and for its
  terms.  Each of these is a word of its own, of letters and
  numbers, and its only term.  Joined by spaces, the terms of
  a text make a text with the same terms.
-/
theorem folding_reaches_fixed_point
    (text : String) :
    normalize (normalize text) = normalize text ∧
      terms (normalize text) = terms text ∧
      (∀ term ∈ terms text,
        term ≠ "" ∧ (∀ c ∈ term.toList, isAlphanumeric c = true) ∧
          terms term = [term]) ∧
      terms (" ".intercalate (terms text)) = terms text := by
  refine ⟨?_, ?_, ?_, ?_⟩
  · rw [normalize, normalize, String.toList_ofList,
      normalizeChars_normalizeChars]
  · rw [terms, normalize, String.toList_ofList,
      termChars_normalizeChars]
    rfl
  · intro term hTerm
    rcases List.mem_map.mp hTerm with ⟨chars, hChars, rfl⟩
    refine ⟨?_, ?_, ?_⟩
    · rw [Ne, ← String.toList_inj, String.toList_ofList]
      exact ne_nil_of_mem_termChars hChars
    · rw [String.toList_ofList]
      exact fun c hMember =>
        isAlphanumeric_of_mem_termChars hChars hMember
    · rw [terms, String.toList_ofList,
        termChars_of_mem_termChars hChars]
      rfl
  · have hParts : (terms text).map String.toList =
        termChars text.toList := by
      rw [terms, List.map_map]
      exact List.map_id'' (fun chars => String.toList_ofList) _
    rw [terms, String.toList_intercalate, hParts]
    exact congrArg _ (termChars_intercalate_termChars text.toList)

end SiteSearch.Text
