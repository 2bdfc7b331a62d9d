import SiteSearch.Proofs.Index.Search
import SiteSearch.Proofs.Score.Comparison

/-
  The best candidates.

  Candidates in different slots whose scores are numbers have
  one order only.  Ranking keeps the first few in that order,
  whatever order they came in, and a larger limit adds to
  what a smaller one keeps.  So a search may sum up its hits
  in any order.

  Main declarations:
    * `SiteSearch.rank_eq_of_perm`
    * `SiteSearch.Candidate.Outranks`
    * `SiteSearch.AreBest`
    * `SiteSearch.SearchIndex.Represents.search_of_perm`
    * `SiteSearch.rank_keeps_best`
-/

------------------------------------------------------------
-- One Order
------------------------------------------------------------

namespace SiteSearch

variable {σ : Type}
variable [Score σ]
variable [DecidableLT σ]
variable [LawfulScore σ]
variable {candidates : List (Candidate σ)}

/-
  Candidates in different slots are ranked each before the
  next ones.
-/
theorem pairwise_before_ranked
    (hComparable : Comparable candidates)
    (hSlots : (candidates.map Candidate.slot).Nodup) :
    (rankedBackward candidates).reverse.Pairwise Candidate.Before := by
  have hPerm := ranked_perm candidates
  have hDifferent : (rankedBackward candidates).reverse.Pairwise
      fun a b => a.slot ≠ b.slot := by
    rw [← List.pairwise_map, ← List.Nodup,
      (hPerm.map Candidate.slot).nodup_iff]
    exact hSlots
  refine (hDifferent.and (pairwise_ranked hComparable)).imp ?_
  rintro a b ⟨hSlot, hNotBefore⟩
  exact (Candidate.before_or_before hSlot).resolve_right hNotBefore

/- The order in which candidates come does not matter. -/
theorem rank_eq_of_perm
    (hComparable : Comparable candidates)
    (hSlots : (candidates.map Candidate.slot).Nodup)
    {others : List (Candidate σ)}
    (hPerm : others.Perm candidates)
    (limit : Nat) :
    rank others limit = rank candidates limit := by
  refine rank_eq_take_of_pairwise ?_
    (hComparable.subset hPerm.subset) ?_
    (pairwise_ranked hComparable) limit
  · exact hPerm.trans (ranked_perm candidates).symm
  · exact (hPerm.map Candidate.slot).nodup_iff.mpr hSlots

end SiteSearch

------------------------------------------------------------
-- Searching
------------------------------------------------------------

namespace SiteSearch.SearchIndex

variable {σ : Type}
variable [Score σ]
variable [DecidableLT σ]

/- The candidates of a query, as their scores were summed up. -/
def candidates
    (index : SearchIndex)
    (query : String) :
    List (Candidate σ) :=
  (index.totals (Text.terms query).eraseDups).map
    fun (slot, score) => ⟨slot, score⟩

/- The matches that candidates stand for. -/
def matchesOf
    (index : SearchIndex)
    (candidates : List (Candidate σ)) :
    List (Match σ) :=
  candidates.filterMap fun candidate =>
    (index.stored? candidate.slot).map fun stored =>
      stored.toMatch candidate.score

/-
  Whatever order its candidates come in, a search finds the
  same.
-/
theorem Represents.search_of_perm
    [LawfulScore σ]
    {index : SearchIndex}
    {history : List Record}
    (hIndex : index.Represents history)
    (query : String)
    (limit : Nat)
    {candidates : List (Candidate σ)}
    (hPerm : candidates.Perm (index.candidates query)) :
    index.matchesOf (rank candidates limit) =
      index.search query limit := by
  have hSearch : (index.search query limit : List (Match σ)) =
      index.matchesOf (rank (index.candidates query) limit) := rfl
  have hComparable : Comparable
      (index.candidates query : List (Candidate σ)) :=
    (comparable_latestCandidate history _).subset
      (hIndex.totals_perm (Text.terms query).eraseDups).subset
  have hSlots : ((index.candidates query : List (Candidate σ)).map
      Candidate.slot).Nodup := by
    rw [SearchIndex.candidates, List.map_map]
    exact index.nodup_totals (σ := σ) _
  rw [hSearch, rank_eq_of_perm hComparable hSlots hPerm]

end SiteSearch.SearchIndex

------------------------------------------------------------
-- Scores That Are Numbers
------------------------------------------------------------

namespace SiteSearch

variable {candidates : List (Candidate Float)}

/-
  A candidate has the better score of two, or the same and
  the earlier slot.
-/
def Candidate.Outranks
    (a b : Candidate Float) :
    Prop :=
  b.score < a.score ∨ (a.score == b.score) = true ∧ a.slot < b.slot

/-
  The scores of some candidates are numbers, if only
  infinite ones.
-/
def HaveNumbers
    (candidates : List (Candidate Float)) :
    Prop :=
  ∀ a ∈ candidates, a.score.isNaN = false

instance
    (candidates : List (Candidate Float)) :
    Decidable (HaveNumbers candidates) := by
  unfold HaveNumbers
  infer_instance

/- Scores that are numbers compare with each other. -/
theorem HaveNumbers.comparable
    (hNumbers : HaveNumbers candidates) :
    Comparable candidates :=
  fun _ _ b hB _ _ hLess =>
    Binary64.lt_or_lt_of_lt (hNumbers b hB) hLess

/- What is ranked before another candidate outranks it. -/
theorem HaveNumbers.outranks
    (hNumbers : HaveNumbers candidates)
    {a b : Candidate Float}
    (hA : a ∈ candidates)
    (hB : b ∈ candidates)
    (hBefore : a.Before b) :
    a.Outranks b := by
  rcases hBefore with hScore | ⟨hNotLess, hSlot⟩
  · exact Or.inl hScore
  · by_cases hMore : b.score < a.score
    · exact Or.inl hMore
    · have hSame := (Binary64.beq_iff_not_lt (hNumbers a hA)
        (hNumbers b hB)).mpr ⟨hNotLess, hMore⟩
      exact Or.inr ⟨hSame, hSlot⟩

end SiteSearch

------------------------------------------------------------
-- The Best
------------------------------------------------------------

namespace SiteSearch

variable {candidates : List (Candidate Float)}

/-
  What is kept of some candidates are the best of them, in
  order.
-/
structure AreBest
    (kept candidates : List (Candidate Float))
    (limit : Nat) :
    Prop where
  /- As many are kept as there are and as the limit allows. -/
  length_eq : kept.length = min limit candidates.length
  /- None is kept more often than it is there. -/
  subperm : kept.Subperm candidates
  /- Each of them outranks those behind it. -/
  pairwise : kept.Pairwise Candidate.Outranks
  /- Each of them outranks all that are left out. -/
  outranks : ∀ a ∈ kept, ∀ b ∈ candidates, b ∉ kept → a.Outranks b

/- Ranking keeps the best candidates. -/
theorem areBest_rank
    (hSlots : (candidates.map Candidate.slot).Nodup)
    (hNumbers : HaveNumbers candidates)
    (limit : Nat) :
    AreBest (rank candidates limit) candidates limit := by
  let ranked := (rankedBackward candidates).reverse
  have hPerm : ranked.Perm candidates := ranked_perm candidates
  have hOutranks : ranked.Pairwise Candidate.Outranks := by
    refine (pairwise_before_ranked hNumbers.comparable
      hSlots).imp_of_mem ?_
    intro a b hA hB hBefore
    exact hNumbers.outranks (hPerm.subset hA) (hPerm.subset hB) hBefore
  have hCut : ranked = ranked.take limit ++ ranked.drop limit :=
    (List.take_append_drop limit ranked).symm
  exact {
    length_eq := by
      rw [rank, List.length_take, hPerm.length_eq]
    subperm :=
      (List.take_sublist limit ranked).subperm.trans hPerm.subperm
    pairwise := hOutranks.sublist (List.take_sublist limit ranked)
    outranks := by
      intro a hKept b hB hLeft
      have hRanked : b ∈ ranked := hPerm.mem_iff.mpr hB
      rw [hCut] at hOutranks hRanked
      have hBehind := (List.mem_append.mp hRanked).resolve_left hLeft
      exact (List.pairwise_append.mp hOutranks).2.2 a hKept b hBehind
  }

/-
  Ranking keeps the best candidates, a larger limit keeps
  what a smaller one does in front of others, and the order in
  which candidates come does not matter.  Nor does it in a
  search, however its hits were summed up.
-/
theorem rank_keeps_best
    (candidates : List (Candidate Float))
    (hSlots : (candidates.map Candidate.slot).Nodup)
    (hNumbers : HaveNumbers candidates) :
    (∀ limit, AreBest (rank candidates limit) candidates limit) ∧
      (∀ limit larger, limit ≤ larger →
        rank candidates limit <+: rank candidates larger) ∧
      (∀ others, others.Perm candidates →
        ∀ limit, rank others limit = rank candidates limit) ∧
      (∀ (records added : List Record) (query : String) (limit : Nat),
        let index :=
          added.foldl SearchIndex.add (SearchIndex.ofRecords records)
        ∀ summed : List (Candidate Float),
          summed.Perm (index.candidates query) →
            index.matchesOf (rank summed limit) =
              index.search query limit) := by
  refine ⟨areBest_rank hSlots hNumbers, ?_, ?_, ?_⟩
  · intro limit larger hLimit
    exact List.take_prefix_take_left hLimit
  · intro others hPerm limit
    exact rank_eq_of_perm hNumbers.comparable hSlots hPerm limit
  · intro records added query limit index summed hPerm
    have hIndex : index.Represents (records ++ added) :=
      (SearchIndex.represents_ofRecords records).foldl_add added
    exact hIndex.search_of_perm query limit hPerm

/- Both zeros are the same score, and infinities are scores. -/
theorem rank_keeps_best_of_zeros :
    let candidates : List (Candidate Float) :=
      [⟨3, 0⟩, ⟨4, -1 / 0⟩, ⟨1, -0⟩, ⟨2, 1 / 0⟩]
    (candidates.map Candidate.slot).Nodup ∧ HaveNumbers candidates ∧
      (rank candidates 3).map Candidate.slot = [2, 1, 3] ∧
      AreBest (rank candidates 3) candidates 3 ∧
      rank candidates.reverse 2 = rank candidates 2 ∧
      rank candidates 2 <+: rank candidates 3 := by
  intro candidates
  have hSlots : (candidates.map Candidate.slot).Nodup := by decide
  have hNumbers : HaveNumbers candidates := by decide
  have hBest := rank_keeps_best candidates hSlots hNumbers
  exact ⟨hSlots, hNumbers, by decide, hBest.1 3,
    hBest.2.2.1 _ (List.reverse_perm candidates) 2,
    hBest.2.1 2 3 (by decide)⟩

end SiteSearch
