import SiteSearch.Match
import SiteSearch.Proofs.Index.Representation
import SiteSearch.Proofs.Score.Order

/-
  Searching without an index.

  A scan looks at every record.  A record is found if each
  term of the query is the beginning of one of its terms, and
  its score is the sum, over the terms of the query, of the
  best score of one of its terms.  The records found are
  sorted by score, and those of equal score stay in order.

  Main declarations:
    * `SiteSearch.Record.hitScores`
    * `SiteSearch.Record.hasAll`
    * `SiteSearch.Record.score`
    * `SiteSearch.scan`
-/

------------------------------------------------------------
-- Hits in a Record
------------------------------------------------------------

namespace SiteSearch

/- Whether a word begins with some letters. -/
def isBeginning
    (start word : String) :
    Bool :=
  start.toList.isPrefixOf word.toList

/- A word begins with all of its letters. -/
theorem isBeginning_self
    (word : String) :
    isBeginning word word = true :=
  List.isPrefixOf_iff_prefix.mpr List.prefix_rfl

/- The beginning of a beginning is a beginning. -/
theorem isBeginning_trans
    {start middle word : String}
    (hStart : isBeginning start middle = true)
    (hMiddle : isBeginning middle word = true) :
    isBeginning start word = true :=
  List.isPrefixOf_iff_prefix.mpr
    ((List.isPrefixOf_iff_prefix.mp hStart).trans
      (List.isPrefixOf_iff_prefix.mp hMiddle))

/- A searched field is the title or the content. -/
theorem SearchedField.exists_iff
    {holds : SearchedField → Prop} :
    (∃ field, holds field) ↔ holds .title ∨ holds .content := by
  constructor
  · rintro ⟨_ | _, hHolds⟩
    · exact Or.inl hHolds
    · exact Or.inr hHolds
  · rintro (hTitle | hContent)
    · exact ⟨.title, hTitle⟩
    · exact ⟨.content, hContent⟩

namespace Record

variable {σ : Type}
variable [Score σ]

/-
  The scores of the terms in a field that begin with a query
  term.
-/
def fieldScores
    (record : Record)
    (term : String)
    (field : SearchedField) :
    List σ :=
  (record.fieldTerms field).zipIdx.filterMap fun (word, position) =>
    if isBeginning term word then
      some (termScore field position (record.fieldTerms field).length
        (word == term))
    else none

/-
  The scores of all terms that begin with a query term,
  title first.
-/
def hitScores
    (record : Record)
    (term : String) :
    List σ :=
  record.fieldScores term .title ++ record.fieldScores term .content

/- Whether some term begins with a query term. -/
def hasTerm
    (record : Record)
    (term : String) :
    Bool :=
  (record.fieldTerms .title ++ record.fieldTerms .content).any
    (isBeginning term)

/-
  Whether there are query terms, and some term begins with
  each.
-/
def hasAll
    (record : Record)
    (terms : List String) :
    Bool :=
  !terms.isEmpty && terms.all record.hasTerm

/- What the best scores for some query terms add to a total. -/
def scoreFrom
    [DecidableLT σ]
    (record : Record)
    (total : σ)
    (terms : List String) :
    σ :=
  terms.foldl
    (fun total term => total + largest (record.hitScores term))
    total

/-
  The sum of the best scores for the query terms, from left
  to right.
-/
def score
    [DecidableLT σ]
    (record : Record) :
    List String → σ
  | [] => Score.ofNat 0
  | term :: terms =>
      record.scoreFrom (largest (record.hitScores term)) terms

/- The match of a record that was found with a score. -/
def toMatch
    (record : Record)
    (score : σ) :
    Match σ :=
  ⟨record.id, record.title, record.href, record.parent, score⟩

end Record

end SiteSearch

------------------------------------------------------------
-- Scanning Records
------------------------------------------------------------

namespace SiteSearch

variable {σ : Type}
variable [Score σ]
variable [DecidableLT σ]

/- The terms of a query, each of them once. -/
def queryTerms
    (query : String) :
    List String :=
  (Text.terms query).eraseDups

/- They are the terms that occur in the query. -/
theorem mem_queryTerms_iff
    (query term : String) :
    term ∈ queryTerms query ↔ term ∈ Text.terms query :=
  List.mem_eraseDups

/-
  The match of each record that is found, in the order of
  the records.
-/
def foundIn
    (records : List Record)
    (terms : List String) :
    List (Match σ) :=
  (records.filter fun record => record.hasAll terms).map fun record =>
    record.toMatch (record.score terms)

/-
  The best matches of a query in order, at most `limit` of
  them.
-/
def scan
    (records : List Record)
    (query : String)
    (limit : Nat) :
    List (Match σ) :=
  ((foundIn records (queryTerms query)).mergeSort
    fun a b => !decide (a.score < b.score)).take limit

end SiteSearch

------------------------------------------------------------
-- Hits and Their Scores
------------------------------------------------------------

namespace SiteSearch.Record

variable {σ : Type}
variable [Score σ]

/-
  A field has the score of each term that begins with the
  query term.
-/
theorem mem_fieldScores_iff
    (record : Record)
    (term : String)
    (field : SearchedField)
    (score : σ) :
    score ∈ record.fieldScores term field ↔
      ∃ word position,
        (record.fieldTerms field)[position]? = some word ∧
          isBeginning term word = true ∧
          score = termScore field position
            (record.fieldTerms field).length (word == term) := by
  unfold fieldScores
  rw [List.mem_filterMap]
  constructor
  · rintro ⟨⟨word, position⟩, hWord, hScore⟩
    rw [Option.ite_none_right_eq_some, Option.some.injEq] at hScore
    exact ⟨word, position, List.mk_mem_zipIdx_iff_getElem?.mp hWord,
      hScore.1, hScore.2.symm⟩
  · rintro ⟨word, position, hWord, hBegins, rfl⟩
    exact ⟨(word, position), List.mk_mem_zipIdx_iff_getElem?.mpr hWord,
      if_pos hBegins⟩

/- A record has the scores of both fields. -/
theorem mem_hitScores_iff
    (record : Record)
    (term : String)
    (score : σ) :
    score ∈ record.hitScores term ↔
      ∃ field word position,
        (record.fieldTerms field)[position]? = some word ∧
          isBeginning term word = true ∧
          score = termScore field position
            (record.fieldTerms field).length (word == term) := by
  unfold hitScores
  rw [List.mem_append, mem_fieldScores_iff, mem_fieldScores_iff,
    SearchedField.exists_iff]

/- A record that some term hits has a score for it. -/
theorem hasTerm_iff
    (record : Record)
    (term : String) :
    record.hasTerm term = true ↔
      ∃ field, ∃ word ∈ record.fieldTerms field,
        isBeginning term word = true := by
  unfold hasTerm
  rw [List.any_append, Bool.or_eq_true, List.any_eq_true,
    List.any_eq_true, SearchedField.exists_iff]

/- A record has the beginnings of the terms that it has. -/
theorem hasTerm_of_isBeginning
    (record : Record)
    {term longer : String}
    (hBegins : isBeginning term longer = true)
    (hLonger : record.hasTerm longer = true) :
    record.hasTerm term = true := by
  rw [hasTerm_iff] at *
  rcases hLonger with ⟨field, word, hWord, hHit⟩
  exact ⟨field, word, hWord, isBeginning_trans hBegins hHit⟩

/- A record has all terms if there are some and it has each. -/
theorem hasAll_iff
    (record : Record)
    (terms : List String) :
    record.hasAll terms = true ↔
      terms ≠ [] ∧ ∀ term ∈ terms, record.hasTerm term = true := by
  rw [hasAll, Bool.and_eq_true, Bool.not_eq_true', List.all_eq_true,
    List.isEmpty_eq_false_iff]

/- A record has a term exactly if it has a score for it. -/
theorem hasTerm_iff_exists_mem_hitScores
    (record : Record)
    (term : String) :
    record.hasTerm term = true ↔
      ∃ score : σ, score ∈ record.hitScores term := by
  rw [hasTerm_iff]
  simp only [mem_hitScores_iff]
  constructor
  · rintro ⟨field, word, hWord, hBegins⟩
    rcases List.mem_iff_getElem?.mp hWord with ⟨position, hPosition⟩
    exact ⟨_, field, word, position, hPosition, hBegins, rfl⟩
  · rintro ⟨_, field, word, position, hPosition, hBegins, -⟩
    exact ⟨field, word, List.mem_of_getElem? hPosition, hBegins⟩

variable [DecidableLT σ]
variable [LawfulScore σ]

/- Adding best scores keeps a total from being negative. -/
theorem nonNegative_scoreFrom
    (record : Record)
    {total : σ}
    (hTotal : Score.NonNegative total)
    (terms : List String) :
    Score.NonNegative (record.scoreFrom total terms) := by
  induction terms generalizing total with
  | nil => exact hTotal
  | cons term terms ih =>
      exact ih (LawfulScore.nonNegative_add _ _ hTotal
        (nonNegative_largest _))

/- The score of a record is not negative. -/
theorem nonNegative_score
    (record : Record)
    (terms : List String) :
    Score.NonNegative (record.score terms : σ) := by
  cases terms with
  | nil => exact Score.NonNegative.zero
  | cons term terms =>
      exact record.nonNegative_scoreFrom (nonNegative_largest _) terms

end SiteSearch.Record
