import SiteSearch.Proofs.Index.Order
import SiteSearch.Proofs.Score.Bands

/-
  Titles come before contents.

  Read over the rational numbers, the score of a record tells
  which kind of hit it has.  For a query of one term the
  results stand in four bands, one behind the other.  For more
  terms the hits in a content add up, but as long as there are
  fewer than fifty they do not outweigh one hit in a title.

  Main declarations:
    * `SiteSearch.RankedByBand`
    * `SiteSearch.SearchIndex.one_term_ranks_by_band`
    * `SiteSearch.SearchIndex.title_hit_ranks_first`
-/

------------------------------------------------------------
-- Queries of One Term
------------------------------------------------------------

namespace SiteSearch.Record

variable {record : Record}
variable {term : String}

/- For one term, the score of a record lies in its band. -/
theorem holds_score
    {band : Band}
    (hBand : record.band? term = some band) :
    band.Holds (record.score [term]) :=
  holds_largest hBand

/- A record whose score is not lower is not in a later band. -/
theorem place_le_of_score_le
    {other : Record}
    {band otherBand : Band}
    (hBand : record.band? term = some band)
    (hOther : other.band? term = some otherBand)
    (hScores : other.score [term] ≤ (record.score [term] : Rat)) :
    band.place ≤ otherBand.place := by
  by_contra hBehind
  have hApart :=
    Band.high_lt_low_of_place_lt (Nat.lt_of_not_le hBehind)
  have hHigh := (holds_score hBand).2
  have hLow := (holds_score hOther).1
  linarith

/- For one term, having all terms is having that one. -/
theorem hasAll_singleton
    (record : Record)
    (term : String) :
    record.hasAll [term] = record.hasTerm term := by
  simp [hasAll]

end SiteSearch.Record

namespace SiteSearch

/-
  A list of the records that have a term, in the order in
  which their bands and scores put them.
-/
structure RankedByBand
    (records : List Record)
    (term : String)
    (ranked : List Record) :
    Prop where
  /- They are the records that have the term. -/
  found : ranked.Perm (records.filter fun record => record.hasTerm term)
  /- The score of each lies in its band. -/
  scored : ∀ record ∈ ranked,
    ∃ band, record.band? term = some band ∧
      band.Holds (record.score [term])
  /- The bands do not go back. -/
  banded : ranked.Pairwise fun a b =>
    ∀ bandA bandB,
      a.band? term = some bandA → b.band? term = some bandB →
        bandA.place ≤ bandB.place
  /- The scores do not rise. -/
  descending : ranked.Pairwise fun a b =>
    b.score [term] ≤ (a.score [term] : Rat)
  /- Equal scores leave records in the order they were in. -/
  stable : ranked.Pairwise fun a b =>
    a.score [term] = (b.score [term] : Rat) → [a, b].Sublist records

/- Ranking the records found ranks them by their bands. -/
theorem rankedByBand_rankedIn
    {records : List Record}
    (hDifferent : records.Nodup)
    (term : String) :
    RankedByBand records term (rankedIn Rat records [term]) := by
  have hRanked := pairwise_rankedIn (σ := Rat) hDifferent [term]
  constructor
  case found =>
    simpa only [Record.hasAll_singleton] using
      rankedIn_perm Rat records [term]
  case scored =>
    intro record hRecord
    have hAll := ((mem_rankedIn_iff ..).mp hRecord).2
    rw [Record.hasAll_singleton] at hAll
    rcases Record.exists_band_of_hasTerm hAll with ⟨band, hBand⟩
    exact ⟨band, hBand, Record.holds_score hBand⟩
  case banded =>
    refine hRanked.imp ?_
    intro a b hOrder bandA bandB hA hB
    exact Record.place_le_of_score_le hA hB (not_lt.mp hOrder.1)
  case descending =>
    exact hRanked.imp fun hOrder => not_lt.mp hOrder.1
  case stable =>
    refine hRanked.imp ?_
    intro a b hOrder hEqual
    exact hOrder.2 (not_lt.mpr hEqual.le)

end SiteSearch

namespace SiteSearch.SearchIndex

/-
  However an index came about, the records that have the one
  term of a query can be listed by their bands, such that a
  search gives the first ones under every limit.
-/
theorem one_term_ranks_by_band
    (records added : List Record)
    {query term : String}
    (hTerm : queryTerms query = [term]) :
    ∃ ranked,
      RankedByBand (survivors (records ++ added)) term ranked ∧
      ∀ limit,
        ((added.foldl SearchIndex.add (ofRecords records)).search
            query limit : List (Match Rat)) =
          (ranked.take limit).map
            fun record => record.toMatch (record.score [term]) := by
  have hIndex := (represents_ofRecords records).foldl_add added
  refine ⟨_, rankedByBand_rankedIn (nodup_survivors _) term, ?_⟩
  intro limit
  rw [hIndex.search_eq_ranked, hTerm]

/-
  A term given twice is one term, whatever kinds of hits it
  has.
-/
theorem one_term_ranks_by_band_of_repeated :
    ∃ ranked,
      RankedByBand
        [⟨.number 1, "Guide", "setup steps", "/guide", none⟩,
         ⟨.number 2, "Notes", "a set", "/notes", none⟩,
         ⟨.number 3, "First Setup", "", "/setup", none⟩,
         ⟨.number 4, "Set", "settings", "/set", none⟩]
        "set" ranked ∧
      ∀ limit,
        ((SearchIndex.add
            (ofRecords
              [⟨.number 4, "Sets", "set", "/old", none⟩,
               ⟨.number 1, "Guide", "setup steps", "/guide", none⟩,
               ⟨.number 2, "Notes", "a set", "/notes", none⟩,
               ⟨.number 3, "First Setup", "", "/setup", none⟩])
            ⟨.number 4, "Set", "settings", "/set", none⟩).search
            "Set, set" limit : List (Match Rat)) =
          (ranked.take limit).map
            fun record => record.toMatch (record.score ["set"]) :=
  one_term_ranks_by_band
    [⟨.number 4, "Sets", "set", "/old", none⟩,
     ⟨.number 1, "Guide", "setup steps", "/guide", none⟩,
     ⟨.number 2, "Notes", "a set", "/notes", none⟩,
     ⟨.number 3, "First Setup", "", "/setup", none⟩]
    [⟨.number 4, "Set", "settings", "/set", none⟩]
    (by decide +kernel)

end SiteSearch.SearchIndex

------------------------------------------------------------
-- Queries of Many Terms
------------------------------------------------------------

namespace SiteSearch.Record

/-
  With at most 49 terms, one hit in a title outweighs hits of
  all terms in a content.
-/
theorem score_lt_of_title
    {first second : Record}
    {terms : List String}
    (hFew : terms.length ≤ 49)
    (hFirst : first.hasAll terms = true)
    (hSecond : second.hasAll terms = true)
    (hTitle : ∃ term ∈ terms, ∃ word ∈ first.fieldTerms .title,
      isBeginning term word = true)
    (hNoTitle : ∀ term ∈ terms, ∀ word ∈ second.fieldTerms .title,
      isBeginning term word = false) :
    second.score terms < (first.score terms : Rat) := by
  rcases hTitle with ⟨term, hTerm, word, hWord, hBegins⟩
  have hHigh := le_score_of_title hFirst hTerm hWord hBegins
  have hLow := score_le_of_no_title hSecond hNoTitle
  have hCount : (terms.length : Rat) ≤ 49 := by exact_mod_cast hFew
  linarith

end SiteSearch.Record

namespace SiteSearch.SearchIndex

/-
  However an index came about and whatever at most 49 terms a
  query has, a record whose title some term begins a word of
  comes before every result whose title none does.
-/
theorem title_hit_ranks_first
    (records added : List Record)
    {first second : Record}
    (hFirst : first ∈ survivors (records ++ added))
    (hSecond : second ∈ survivors (records ++ added))
    {query : String}
    (hFew : (queryTerms query).length ≤ 49)
    (hAll : first.hasAll (queryTerms query) = true)
    (hTitle : ∃ term ∈ queryTerms query,
      ∃ word ∈ first.fieldTerms .title, isBeginning term word = true)
    (hNoTitle : ∀ term ∈ queryTerms query,
      ∀ word ∈ second.fieldTerms .title, isBeginning term word = false)
    {limit : Nat}
    (hKept : second.id ∈
      ((added.foldl SearchIndex.add (ofRecords records)).search
        query limit : List (Match Rat)).map Match.id) :
    [first.id, second.id].Sublist
      (((added.foldl SearchIndex.add (ofRecords records)).search
        query limit : List (Match Rat)).map Match.id) := by
  have hIndex := (represents_ofRecords records).foldl_add added
  have hTaken := hIndex.mem_take_of_mem_search hSecond hKept
  have hSecondAll := (mem_of_mem_take_rankedIn Rat hTaken).2
  have hScores :=
    Record.score_lt_of_title hFew hAll hSecondAll hTitle hNoTitle
  exact hIndex.pair_sublist_search hFirst hSecond hAll hScores hKept

/-
  The beginning of a word late in a title comes before whole
  words.
-/
theorem title_hit_ranks_first_of_beginning :
    [RecordId.number 2, RecordId.number 1].Sublist
      (((SearchIndex.add
          (ofRecords
            [⟨.number 1, "Notes", "client set", "/notes", none⟩])
          ⟨.number 2, "How to: Setup", "all clients", "/setup",
            some "Start"⟩).search "set client" 2
            : List (Match Rat)).map Match.id) :=
  @title_hit_ranks_first
    [⟨.number 1, "Notes", "client set", "/notes", none⟩]
    [⟨.number 2, "How to: Setup", "all clients", "/setup", some "Start"⟩]
    ⟨.number 2, "How to: Setup", "all clients", "/setup", some "Start"⟩
    ⟨.number 1, "Notes", "client set", "/notes", none⟩
    (by decide +kernel) (by decide +kernel) "set client"
    (by decide +kernel) (by decide +kernel) (by decide +kernel)
    (by decide +kernel) 2 (by decide +kernel)

end SiteSearch.SearchIndex
