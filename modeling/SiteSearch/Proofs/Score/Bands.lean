import SiteSearch.Proofs.Scan
import Mathlib.Algebra.Order.BigOperators.Group.List
import Mathlib.Algebra.Order.Field.Basic
import Mathlib.Algebra.Order.Field.Rat
import Mathlib.Tactic.NormNum
import Mathlib.Tactic.Positivity

/-
  Bands of scores.

  Read over the rational numbers, without rounding, a score
  tells what kind of hit it is for.  Hits of whole words and
  of mere beginnings, in titles and in contents, have scores
  in four intervals that lie apart, as the bonus for an early
  position is too small to reach the next one.  The best score
  of a record for a term lies where its best kind of hit does.

  Main declarations:
    * `SiteSearch.Band`
    * `SiteSearch.Band.holds_termScore`
    * `SiteSearch.Record.band?`
    * `SiteSearch.Record.holds_largest`
    * `SiteSearch.Record.score_le_of_no_title`
    * `SiteSearch.Record.le_score_of_title`
-/

------------------------------------------------------------
-- Bands
------------------------------------------------------------

namespace SiteSearch

/- The kinds of hits, from best to worst. -/
inductive Band where
  | titleWord
  | titleBeginning
  | contentWord
  | contentBeginning
deriving DecidableEq, Repr

namespace Band

/- The bands from best to worst. -/
def all : List Band :=
  [titleWord, titleBeginning, contentWord, contentBeginning]

/- How many bands are better. -/
def place :
    Band → Nat
  | titleWord => 0
  | titleBeginning => 1
  | contentWord => 2
  | contentBeginning => 3

/- The field of the hits in a band. -/
def field :
    Band → SearchedField
  | titleWord | titleBeginning => .title
  | contentWord | contentBeginning => .content

/- Whether the hits in a band are whole words. -/
def isWhole :
    Band → Bool
  | titleWord | contentWord => true
  | titleBeginning | contentBeginning => false

/-
  The band of a hit in a field, of a whole word or a
  beginning.
-/
def ofHit :
    SearchedField → Bool → Band
  | .title, true => titleWord
  | .title, false => titleBeginning
  | .content, true => contentWord
  | .content, false => contentBeginning

/- No score in a band is lower. -/
def low :
    Band → Rat
  | titleWord => 100
  | titleBeginning => 50
  | contentWord => 1
  | contentBeginning => 1 / 2

/- No score in a band is higher. -/
def high :
    Band → Rat
  | titleWord => 201 / 2
  | titleBeginning => 201 / 4
  | contentWord => 3 / 2
  | contentBeginning => 3 / 4

/- A score lies within a band. -/
def Holds
    (band : Band)
    (score : Rat) :
    Prop :=
  band.low ≤ score ∧ score ≤ band.high

@[simp] theorem field_ofHit
    (field : SearchedField)
    (whole : Bool) :
    (ofHit field whole).field = field := by
  cases field <;> cases whole <;> rfl

@[simp] theorem isWhole_ofHit
    (field : SearchedField)
    (whole : Bool) :
    (ofHit field whole).isWhole = whole := by
  cases field <;> cases whole <;> rfl

theorem ofHit_field_isWhole
    (band : Band) :
    ofHit band.field band.isWhole = band := by
  cases band <;> rfl

/- Of the two bands of a field, that of whole words is better. -/
theorem place_ofHit_whole_lt
    {band : Band}
    (hBeginning : band.isWhole = false) :
    (ofHit band.field true).place < band.place := by
  cases band with
  | titleWord | contentWord => simp [isWhole] at hBeginning
  | titleBeginning | contentBeginning => simp [field, ofHit, place]

theorem mem_all
    (band : Band) :
    band ∈ all := by
  cases band <;> simp [all]

/- The bands are listed in order. -/
theorem pairwise_all :
    all.Pairwise fun a b => a.place < b.place := by
  decide

/- Each band lies above those behind it. -/
theorem high_lt_low_of_place_lt
    {better worse : Band}
    (hPlace : better.place < worse.place) :
    worse.high < better.low := by
  revert hPlace
  cases better <;> cases worse <;> norm_num [place, high, low]

/- Bands that are not behind do not reach higher. -/
theorem high_le_high_of_place_le
    {better worse : Band}
    (hPlace : better.place ≤ worse.place) :
    worse.high ≤ better.high := by
  revert hPlace
  cases better <;> cases worse <;> norm_num [place, high]

theorem half_le_low
    (band : Band) :
    1 / 2 ≤ band.low := by
  cases band <;> norm_num [low]

theorem high_nonneg
    (band : Band) :
    0 ≤ band.high := by
  cases band <;> norm_num [high]

/-
  Bands that are not behind a band of titles are for titles,
  too.
-/
theorem field_eq_title_of_place_le
    {band : Band}
    {whole : Bool}
    (hPlace : band.place ≤ (ofHit .title whole).place) :
    band.field = .title := by
  cases band with
  | titleWord | titleBeginning => rfl
  | contentWord | contentBeginning =>
      cases whole <;> simp [ofHit, place] at hPlace

theorem fifty_le_low
    {band : Band}
    (hTitle : band.field = .title) :
    50 ≤ band.low := by
  cases band with
  | titleWord | titleBeginning => norm_num [low]
  | contentWord | contentBeginning => simp [field] at hTitle

theorem high_le_three_halves
    {band : Band}
    (hContent : band.field = .content) :
    band.high ≤ 3 / 2 := by
  cases band with
  | titleWord | titleBeginning => simp [field] at hContent
  | contentWord | contentBeginning => norm_num [high]

end Band

end SiteSearch

------------------------------------------------------------
-- Exact Scores
------------------------------------------------------------

namespace SiteSearch

/- The bonus is not negative and at most one half. -/
theorem positionBonus_bounds
    {position length : Nat}
    (hPosition : position < length) :
    0 ≤ (positionBonus position length : Rat) ∧
      (positionBonus position length : Rat) ≤ 1 / 2 := by
  have hLength : (0 : Rat) < length := by
    exact_mod_cast Nat.zero_lt_of_lt hPosition
  have hLow : 0 ≤ (position : Rat) / length := by positivity
  have hHigh : (position : Rat) / length ≤ 1 := by
    rw [div_le_one hLength]
    exact_mod_cast hPosition.le
  have hBonus :
      (positionBonus position length : Rat) =
        1 / 2 * (1 - position / length) := by
    rw [positionBonus, if_pos (Nat.zero_lt_of_lt hPosition)]
    rfl
  rw [hBonus]
  constructor <;> linarith

/-
  Without rounding, a score is the base and the bonus, or
  half of that.
-/
theorem termScore_unrounded
    (field : SearchedField)
    (position length : Nat)
    (exact : Bool) :
    (termScore field position length exact : Rat) =
      (baseScore field + positionBonus position length) *
        if exact then 1 else 1 / 2 := by
  cases exact with
  | false => rfl
  | true =>
      rw [if_pos rfl, mul_one]
      rfl

/- A hit has a score in its band. -/
theorem Band.holds_termScore
    (field : SearchedField)
    {position length : Nat}
    (hPosition : position < length)
    (exact : Bool) :
    (Band.ofHit field exact).Holds
      (termScore field position length exact : Rat) := by
  rcases positionBonus_bounds hPosition with ⟨hLow, hHigh⟩
  have hTitle : (baseScore .title : Rat) = 100 := rfl
  have hContent : (baseScore .content : Rat) = 1 := rfl
  rw [termScore_unrounded]
  cases field <;> cases exact <;>
    simp only [hTitle, hContent, Band.Holds, Band.ofHit, Band.low,
      Band.high] <;>
    constructor <;> norm_num <;> linarith

end SiteSearch

------------------------------------------------------------
-- The Band of a Record
------------------------------------------------------------

namespace SiteSearch.Record

variable (record : Record)
variable (term : String)

/-
  Whether a term of the record is a hit in a band: it is the
  query term, or begins with it.
-/
def hitsIn
    (band : Band) :
    Bool :=
  (record.fieldTerms band.field).any fun word =>
    if band.isWhole then word == term else isBeginning term word

/- The best band in which a record is hit. -/
def band? : Option Band :=
  Band.all.find? (record.hitsIn term)

variable {record}
variable {term}

/- A record is hit in its band. -/
theorem hitsIn_band
    {band : Band}
    (hBand : record.band? term = some band) :
    record.hitsIn term band = true :=
  List.find?_some hBand

/- A record is hit in no better band. -/
theorem place_le_of_hitsIn
    {band other : Band}
    (hBand : record.band? term = some band)
    (hOther : record.hitsIn term other = true) :
    band.place ≤ other.place := by
  rcases List.find?_eq_some_iff_append.mp hBand with
    ⟨-, before, behind, hAll, hBefore⟩
  have hMember := Band.mem_all other
  rw [hAll, List.mem_append, List.mem_cons] at hMember
  rcases hMember with hBetter | rfl | hWorse
  · have hMissed := hBefore other hBetter
    simp [hOther] at hMissed
  · exact le_rfl
  · have hOrder := Band.pairwise_all
    rw [hAll, List.pairwise_append, List.pairwise_cons] at hOrder
    exact (hOrder.2.1.1 other hWorse).le

/- A word that begins with a query term is a hit. -/
theorem hitsIn_ofHit
    {field : SearchedField}
    {word : String}
    (hWord : word ∈ record.fieldTerms field)
    (hBegins : isBeginning term word = true) :
    record.hitsIn term (Band.ofHit field (word == term)) = true := by
  rw [hitsIn, List.any_eq_true, Band.field_ofHit, Band.isWhole_ofHit]
  refine ⟨word, hWord, ?_⟩
  split
  · assumption
  · exact hBegins

/-
  Some term of the record is a hit of the kind that its band
  is for.
-/
theorem exists_hit_of_band
    {band : Band}
    (hBand : record.band? term = some band) :
    ∃ word ∈ record.fieldTerms band.field,
      isBeginning term word = true ∧ (word == term) = band.isWhole := by
  have hHit := hitsIn_band hBand
  rw [hitsIn, List.any_eq_true] at hHit
  rcases hHit with ⟨word, hWord, hKind⟩
  refine ⟨word, hWord, ?_⟩
  cases hWhole : band.isWhole with
  | true =>
      rw [if_pos hWhole] at hKind
      rw [eq_of_beq hKind]
      exact ⟨isBeginning_self term, beq_self_eq_true term⟩
  | false =>
      rw [if_neg (by simp [hWhole])] at hKind
      refine ⟨hKind, ?_⟩
      -- A whole word in this field would have been the better hit.
      by_contra hSame
      rw [Bool.not_eq_false] at hSame
      have hBetter := hitsIn_ofHit hWord hKind
      rw [hSame] at hBetter
      exact absurd (place_le_of_hitsIn hBand hBetter)
        (Nat.not_le_of_lt (Band.place_ofHit_whole_lt hWhole))

/- A record that has a query term is in a band. -/
theorem exists_band_of_hasTerm
    (hTerm : record.hasTerm term = true) :
    ∃ band, record.band? term = some band := by
  rcases (record.hasTerm_iff term).mp hTerm with
    ⟨field, word, hWord, hBegins⟩
  have hSome : (record.band? term).isSome = true := by
    rw [band?, List.find?_isSome]
    exact ⟨_, Band.mem_all _, hitsIn_ofHit hWord hBegins⟩
  exact Option.isSome_iff_exists.mp hSome

end SiteSearch.Record

------------------------------------------------------------
-- Best Scores
------------------------------------------------------------

namespace SiteSearch.Record

variable {record : Record}
variable {term : String}

/- Each score of a record is in the band of one of its hits. -/
theorem exists_band_of_mem_hitScores
    {score : Rat}
    (hScore : score ∈ record.hitScores term) :
    ∃ band, record.hitsIn term band = true ∧ band.Holds score := by
  rcases (record.mem_hitScores_iff term score).mp hScore with
    ⟨field, word, position, hWord, hBegins, rfl⟩
  have hPosition : position < (record.fieldTerms field).length :=
    (List.getElem?_eq_some_iff.mp hWord).1
  exact ⟨Band.ofHit field (word == term),
    hitsIn_ofHit (List.mem_of_getElem? hWord) hBegins,
    Band.holds_termScore field hPosition _⟩

/- A record has a score in its band. -/
theorem exists_mem_hitScores_of_band
    {band : Band}
    (hBand : record.band? term = some band) :
    ∃ score : Rat,
      score ∈ record.hitScores term ∧ band.Holds score := by
  rcases exists_hit_of_band hBand with ⟨word, hWord, hBegins, hWhole⟩
  rcases List.mem_iff_getElem?.mp hWord with ⟨position, hPlace⟩
  have hPosition : position < (record.fieldTerms band.field).length :=
    (List.getElem?_eq_some_iff.mp hPlace).1
  have hHolds :=
    Band.holds_termScore band.field hPosition (word == term)
  refine ⟨_, (record.mem_hitScores_iff term _).mpr
    ⟨band.field, word, position, hPlace, hBegins, rfl⟩, ?_⟩
  rw [hWhole, band.ofHit_field_isWhole] at hHolds
  rw [hWhole]
  exact hHolds

/- The best score of a record lies in its band. -/
theorem holds_largest
    {band : Band}
    (hBand : record.band? term = some band) :
    band.Holds (largest (record.hitScores term) : Rat) := by
  constructor
  · rcases exists_mem_hitScores_of_band hBand with
      ⟨score, hScore, hHolds⟩
    have hBest : score ≤ largest (record.hitScores term) :=
      not_lt.mp (not_foldl_larger_lt_of_mem _ _ hScore)
    exact hHolds.1.trans hBest
  · rcases largest_eq_zero_or_mem
      (record.hitScores term : List Rat) with
      hZero | ⟨-, hMember⟩
    · rw [hZero]
      exact band.high_nonneg
    · rcases exists_band_of_mem_hitScores hMember with
        ⟨other, hOther, hHolds⟩
      exact hHolds.2.trans (Band.high_le_high_of_place_le
        (place_le_of_hitsIn hBand hOther))

end SiteSearch.Record

------------------------------------------------------------
-- Scores of Queries
------------------------------------------------------------

namespace SiteSearch.Record

variable (record : Record)

/- Without rounding, scores are added in any order. -/
theorem scoreFrom_eq_sum
    (total : Rat)
    (terms : List String) :
    record.scoreFrom total terms =
      total + (terms.map fun term =>
        (largest (record.hitScores term) : Rat)).sum := by
  induction terms generalizing total with
  | nil => simp [scoreFrom]
  | cons term terms ih =>
      have hStep :
          record.scoreFrom total (term :: terms) =
            record.scoreFrom (total + largest (record.hitScores term))
              terms := rfl
      rw [hStep, ih, List.map_cons, List.sum_cons, add_assoc]

/- The score of a record is the sum of its best scores. -/
theorem score_eq_sum
    (terms : List String) :
    (record.score terms : Rat) =
      (terms.map fun term =>
        (largest (record.hitScores term) : Rat)).sum := by
  cases terms with
  | nil => rfl
  | cons term terms => exact record.scoreFrom_eq_sum _ terms

variable {record}

/- A term that a record has adds at least one half. -/
theorem half_le_largest
    {term : String}
    (hTerm : record.hasTerm term = true) :
    1 / 2 ≤ (largest (record.hitScores term) : Rat) := by
  rcases exists_band_of_hasTerm hTerm with ⟨band, hBand⟩
  exact band.half_le_low.trans (holds_largest hBand).1

/- A term that begins a term of the title adds at least fifty. -/
theorem fifty_le_largest
    {term word : String}
    (hWord : word ∈ record.fieldTerms .title)
    (hBegins : isBeginning term word = true) :
    50 ≤ (largest (record.hitScores term) : Rat) := by
  have hTerm : record.hasTerm term = true :=
    (record.hasTerm_iff term).mpr ⟨.title, word, hWord, hBegins⟩
  rcases exists_band_of_hasTerm hTerm with ⟨band, hBand⟩
  have hTitle : band.field = .title :=
    Band.field_eq_title_of_place_le
      (place_le_of_hitsIn hBand (hitsIn_ofHit hWord hBegins))
  exact (Band.fifty_le_low hTitle).trans (holds_largest hBand).1

/-
  A term that the title does not have adds at most three
  halves.
-/
theorem largest_le_of_no_title
    {term : String}
    (hTerm : record.hasTerm term = true)
    (hTitle : ∀ word ∈ record.fieldTerms .title,
      isBeginning term word = false) :
    (largest (record.hitScores term) : Rat) ≤ 3 / 2 := by
  rcases exists_band_of_hasTerm hTerm with ⟨band, hBand⟩
  rcases exists_hit_of_band hBand with ⟨word, hWord, hBegins, -⟩
  have hContent : band.field = .content := by
    cases hField : band.field with
    | content => rfl
    | title =>
        rw [hField] at hWord
        rw [hTitle word hWord] at hBegins
        exact absurd hBegins Bool.false_ne_true
  exact (holds_largest hBand).2.trans
    (Band.high_le_three_halves hContent)

/- A record whose title has none of the terms has a low score. -/
theorem score_le_of_no_title
    {terms : List String}
    (hAll : record.hasAll terms = true)
    (hTitle : ∀ term ∈ terms, ∀ word ∈ record.fieldTerms .title,
      isBeginning term word = false) :
    (record.score terms : Rat) ≤ terms.length * (3 / 2) := by
  have hTerms := ((record.hasAll_iff terms).mp hAll).2
  have hEach : ∀ best ∈ terms.map fun term =>
      (largest (record.hitScores term) : Rat), best ≤ 3 / 2 := by
    intro best hBest
    rcases List.mem_map.mp hBest with ⟨term, hTerm, rfl⟩
    exact largest_le_of_no_title (hTerms term hTerm) (hTitle term hTerm)
  have hSum := List.sum_le_card_nsmul _ _ hEach
  rw [List.length_map, nsmul_eq_mul] at hSum
  rw [score_eq_sum]
  exact hSum

/- A record whose title has one of the terms has a high score. -/
theorem le_score_of_title
    {terms : List String}
    (hAll : record.hasAll terms = true)
    {term word : String}
    (hTerm : term ∈ terms)
    (hWord : word ∈ record.fieldTerms .title)
    (hBegins : isBeginning term word = true) :
    50 + (terms.length - 1) * (1 / 2) ≤ (record.score terms : Rat) := by
  have hTerms := ((record.hasAll_iff terms).mp hAll).2
  have hPerm := List.perm_cons_erase hTerm
  have hOthers : ∀ best ∈ (terms.erase term).map fun term =>
      (largest (record.hitScores term) : Rat), 1 / 2 ≤ best := by
    intro best hBest
    rcases List.mem_map.mp hBest with ⟨other, hOther, rfl⟩
    exact half_le_largest (hTerms other (List.mem_of_mem_erase hOther))
  have hSum := List.card_nsmul_le_sum _ _ hOthers
  rw [List.length_map, nsmul_eq_mul] at hSum
  have hLength :
      (terms.length : Rat) = (terms.erase term).length + 1 := by
    rw [hPerm.length_eq, List.length_cons, Nat.cast_succ]
  have hBest := fifty_le_largest hWord hBegins
  rw [score_eq_sum, (hPerm.map _).sum_eq, List.map_cons, List.sum_cons,
    hLength]
  linarith

end SiteSearch.Record
