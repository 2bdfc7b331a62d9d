import SiteSearch.Proofs.Index.Search

/-
  The order of what is found.

  A search lists the records found from the best one down, and
  those of equal score in the order in which they were added.
  A limit takes the first of them.  So of two records found
  the one of higher score comes first under every limit that
  keeps the other.

  Main declarations:
    * `SiteSearch.rankedIn`
    * `SiteSearch.pairwise_rankedIn`
    * `SiteSearch.SearchIndex.Represents.search_eq_ranked`
    * `SiteSearch.SearchIndex.Represents.pair_sublist_search`
-/

------------------------------------------------------------
-- Records in Order
------------------------------------------------------------

namespace SiteSearch

/- No record survives twice. -/
theorem nodup_survivors
    (history : List Record) :
    (survivors history).Nodup :=
  List.Nodup.of_map Record.id (nodup_ids_survivors history)

variable (σ : Type)
variable [Score σ]
variable [DecidableLT σ]

/- The records that are found, best first. -/
def rankedIn
    (records : List Record)
    (terms : List String) :
    List Record :=
  (records.filter fun record => record.hasAll terms).mergeSort
    fun a b => !decide ((a.score terms : σ) < b.score terms)

/- Ranking keeps the records that are found. -/
theorem rankedIn_perm
    (records : List Record)
    (terms : List String) :
    (rankedIn σ records terms).Perm
      (records.filter fun record => record.hasAll terms) :=
  List.mergeSort_perm _ _

theorem mem_rankedIn_iff
    (records : List Record)
    (terms : List String)
    (record : Record) :
    record ∈ rankedIn σ records terms ↔
      record ∈ records ∧ record.hasAll terms = true := by
  rw [(rankedIn_perm σ records terms).mem_iff, List.mem_filter]

/- Whatever is among the first that are found is found. -/
theorem mem_of_mem_take_rankedIn
    {records : List Record}
    {terms : List String}
    {limit : Nat}
    {record : Record}
    (hTaken : record ∈ (rankedIn σ records terms).take limit) :
    record ∈ records ∧ record.hasAll terms = true :=
  (mem_rankedIn_iff σ records terms record).mp
    (List.mem_of_mem_take hTaken)

/- A scan lists the first records that are found. -/
theorem scan_eq_ranked
    (records : List Record)
    (query : String)
    (limit : Nat) :
    (scan records query limit : List (Match σ)) =
      ((rankedIn σ records (queryTerms query)).take limit).map
        fun record =>
          record.toMatch (record.score (queryTerms query)) := by
  unfold scan rankedIn foundIn
  generalize queryTerms query = terms
  rw [List.map_take, List.map_mergeSort]
  exact fun a _ b _ => rfl

variable [LawfulScore σ]

/- The scores of records compare with each other. -/
theorem scoresCompare_score
    (records : List Record)
    (terms : List String) :
    ScoresCompare (fun record => (record.score terms : σ)) records :=
  scoresCompare_of_nonNegative
    fun record _ => record.nonNegative_score terms

variable {σ}
variable {records : List Record}
variable (hDifferent : records.Nodup)

include hDifferent

/- No record is found twice. -/
omit [LawfulScore σ] in
theorem nodup_rankedIn
    (terms : List String) :
    (rankedIn σ records terms).Nodup :=
  (rankedIn_perm σ records terms).nodup_iff.mpr (hDifferent.filter _)

/-
  A record that is found comes before those of lower score,
  and those of equal score are in the order they were in.
-/
theorem pairwise_rankedIn
    (terms : List String) :
    (rankedIn σ records terms).Pairwise fun a b =>
      ¬ (a.score terms : σ) < b.score terms ∧
        (¬ (b.score terms : σ) < a.score terms →
          [a, b].Sublist records) := by
  have hFound := hDifferent.filter fun record => record.hasAll terms
  have hRanked :=
    pairwise_mergeSort_key (scoresCompare_score σ _ terms) hFound
  refine hRanked.imp ?_
  rintro a b ⟨hNotLess, hSame⟩
  exact ⟨hNotLess, fun hNotMore =>
    (hSame hNotMore).trans List.filter_sublist⟩

/-
  Leaving records out before or after ranking comes to the
  same.
-/
theorem filter_rankedIn
    (terms : List String)
    (keep : Record → Bool) :
    (rankedIn σ records terms).filter keep =
      rankedIn σ (records.filter keep) terms := by
  unfold rankedIn
  rw [filter_mergeSort_key (scoresCompare_score σ _ terms)
    (hDifferent.filter _), List.filter_filter, List.filter_filter]
  simp only [Bool.and_comm]

/- Of two records found, the one of higher score comes first. -/
theorem pair_sublist_rankedIn
    {terms : List String}
    {first second : Record}
    (hFirst : first ∈ rankedIn σ records terms)
    (hSecond : second ∈ rankedIn σ records terms)
    (hScores : (second.score terms : σ) < first.score terms) :
    [first, second].Sublist (rankedIn σ records terms) := by
  have hOther : first ≠ second := by
    rintro rfl
    exact LawfulScore.lt_irrefl _ hScores
  rcases pair_sublist_or_swap hFirst hSecond hOther with hPair | hSwap
  · exact hPair
  · have hOrder :=
      (pairwise_rankedIn hDifferent terms).forall_sublist hSwap
    exact absurd hScores hOrder.1

end SiteSearch

------------------------------------------------------------
-- Results in Order
------------------------------------------------------------

namespace SiteSearch.SearchIndex.Represents

variable {σ : Type}
variable [Score σ]
variable [DecidableLT σ]
variable [LawfulScore σ]
variable {index : SearchIndex}
variable {history : List Record}
variable (hIndex : index.Represents history)

include hIndex

/- A search lists the first survivors that are found. -/
theorem search_eq_ranked
    (query : String)
    (limit : Nat) :
    (index.search query limit : List (Match σ)) =
      ((rankedIn σ (survivors history) (queryTerms query)).take limit).map
        fun record =>
          record.toMatch (record.score (queryTerms query)) := by
  rw [hIndex.search_eq_scan, scan_eq_ranked]

/- A limit that is large enough leaves nothing out. -/
theorem search_eq_map_rankedIn
    (query : String)
    {limit : Nat}
    (hLimit : index.size ≤ limit) :
    (index.search query limit : List (Match σ)) =
      (rankedIn σ (survivors history) (queryTerms query)).map
        fun record =>
          record.toMatch (record.score (queryTerms query)) := by
  have hLength :
      (rankedIn σ (survivors history) (queryTerms query)).length ≤
        limit := by
    calc
      _ = ((survivors history).filter
            fun record => record.hasAll (queryTerms query)).length :=
        (rankedIn_perm ..).length_eq
      _ ≤ (survivors history).length := List.length_filter_le _ _
      _ = index.size := hIndex.size_eq.symm
      _ ≤ limit := hLimit
  rw [hIndex.search_eq_ranked, List.take_of_length_le hLength]

/-
  The identifiers of the results are those of the first ones
  found.
-/
theorem map_id_search
    (query : String)
    (limit : Nat) :
    (index.search query limit : List (Match σ)).map Match.id =
      ((rankedIn σ (survivors history) (queryTerms query)).take
        limit).map Record.id := by
  rw [hIndex.search_eq_ranked, List.map_map]
  rfl

/-
  A survivor whose identifier is among the results is one of
  the first records found.
-/
theorem mem_take_of_mem_search
    {query : String}
    {limit : Nat}
    {record : Record}
    (hSurvives : record ∈ survivors history)
    (hFound : record.id ∈
      (index.search query limit : List (Match σ)).map Match.id) :
    record ∈
      (rankedIn σ (survivors history) (queryTerms query)).take
        limit := by
  rw [hIndex.map_id_search] at hFound
  rcases List.mem_map.mp hFound with ⟨other, hOther, hId⟩
  have hSame : other = record :=
    List.inj_on_of_nodup_map (nodup_ids_survivors history)
      (mem_of_mem_take_rankedIn σ hOther).1 hSurvives hId
  exact hSame ▸ hOther

/-
  Of two records that a query finds, the one of higher score
  comes first under every limit that keeps the other.
-/
theorem pair_sublist_search
    {query : String}
    {limit : Nat}
    {first second : Record}
    (hFirst : first ∈ survivors history)
    (hSecond : second ∈ survivors history)
    (hAll : first.hasAll (queryTerms query) = true)
    (hScores :
      (second.score (queryTerms query) : σ) <
        first.score (queryTerms query))
    (hKept : second.id ∈
      (index.search query limit : List (Match σ)).map Match.id) :
    [first.id, second.id].Sublist
      ((index.search query limit : List (Match σ)).map Match.id) := by
  have hDifferent := nodup_survivors history
  have hTaken := hIndex.mem_take_of_mem_search hSecond hKept
  have hPair := pair_sublist_rankedIn hDifferent
    ((mem_rankedIn_iff ..).mpr ⟨hFirst, hAll⟩)
    (List.mem_of_mem_take hTaken) hScores
  have hBoth := pair_sublist_take
    (nodup_rankedIn hDifferent (queryTerms query)) hPair hTaken
  rw [hIndex.map_id_search]
  exact hBoth.map Record.id

end SiteSearch.SearchIndex.Represents
