import SiteSearch.Ranking
import SiteSearch.Proofs.Sorting
import Mathlib.Data.List.Nodup

/-
  What ranking yields.

  Where scores compare with each other, any two candidates in
  different slots are ranked one before the other, and there
  is one list only that has given candidates in that order.
  So the order in which candidates come does not matter, and
  ranking them is sorting them by score after they were put
  in the order of their slots.

  Main declarations:
    * `SiteSearch.Candidate.Before`
    * `SiteSearch.rank_eq_take_of_pairwise`
    * `SiteSearch.rank_eq_take_mergeSort`
-/

------------------------------------------------------------
-- The Order of Candidates
------------------------------------------------------------

namespace SiteSearch

variable {σ : Type}
variable [Score σ]

/-
  A candidate is ranked before another one if its score is
  higher, or not lower and its slot earlier.
-/
def Candidate.Before
    (a b : Candidate σ) :
    Prop :=
  b.score < a.score ∨ ¬ a.score < b.score ∧ a.slot < b.slot

/- The scores of some candidates compare with each other. -/
def Comparable
    (candidates : List (Candidate σ)) :
    Prop :=
  ∀ a ∈ candidates, ∀ b ∈ candidates, ∀ c ∈ candidates,
    a.score < c.score → a.score < b.score ∨ b.score < c.score

/- Fewer candidates compare with each other as well. -/
theorem Comparable.subset
    {candidates others : List (Candidate σ)}
    (hComparable : Comparable candidates)
    (hSubset : others ⊆ candidates) :
    Comparable others :=
  fun a hA b hB c hC =>
    hComparable a (hSubset hA) b (hSubset hB) c (hSubset hC)

/- Before is what comparing two candidates says. -/
theorem compare_eq_lt_iff
    [DecidableLT σ]
    (a b : Candidate σ) :
    a.compare b = .lt ↔ a.Before b := by
  unfold Candidate.compare Candidate.Before
  by_cases hMore : b.score < a.score
  · simp [hMore]
  · by_cases hLess : a.score < b.score
    · simp [hMore, hLess]
    · simp [hMore, hLess, compare_lt_iff_lt]

/-
  Candidates in different slots are ranked one before the
  other.
-/
theorem Candidate.before_or_before
    [DecidableLT σ]
    {a b : Candidate σ}
    (hSlot : a.slot ≠ b.slot) :
    a.Before b ∨ b.Before a := by
  by_cases hMore : b.score < a.score
  · exact Or.inl (Or.inl hMore)
  · by_cases hLess : a.score < b.score
    · exact Or.inr (Or.inl hLess)
    · rcases Nat.lt_or_gt_of_ne hSlot with hEarlier | hLater
      · exact Or.inl (Or.inr ⟨hLess, hEarlier⟩)
      · exact Or.inr (Or.inr ⟨hMore, hLater⟩)

/-
  Whatever is ranked beside two candidates is apart from one
  of them.
-/
theorem Comparable.before_or_before
    {candidates : List (Candidate σ)}
    (hComparable : Comparable candidates)
    {a b c : Candidate σ}
    (hA : a ∈ candidates)
    (hB : b ∈ candidates)
    (hC : c ∈ candidates)
    (hBefore : a.Before c) :
    a.Before b ∨ b.Before c := by
  rcases hBefore with hScore | ⟨hScore, hSlot⟩
  · rcases hComparable c hC b hB a hA hScore with hCB | hBA
    · exact Or.inr (Or.inl hCB)
    · exact Or.inl (Or.inl hBA)
  · rcases Nat.lt_or_ge a.slot b.slot with hEarlier | hLater
    · by_cases hAB : a.score < b.score
      · rcases hComparable a hA c hC b hB hAB with hAC | hCB
        · exact absurd hAC hScore
        · exact Or.inr (Or.inl hCB)
      · exact Or.inl (Or.inr ⟨hAB, hEarlier⟩)
    · by_cases hBC : b.score < c.score
      · rcases hComparable b hB a hA c hC hBC with hBA | hAC
        · exact Or.inl (Or.inl hBA)
        · exact absurd hAC hScore
      · exact Or.inr (Or.inr ⟨hBC, Nat.lt_of_le_of_lt hLater hSlot⟩)

variable [LawfulScore σ]

/- Scores that are not negative compare with each other. -/
theorem comparable_of_nonNegative
    {candidates : List (Candidate σ)}
    (hScores : ∀ a ∈ candidates, Score.NonNegative a.score) :
    Comparable candidates :=
  scoresCompare_of_nonNegative hScores

/- No two candidates are ranked before each other. -/
theorem Candidate.Before.asymm
    {a b : Candidate σ}
    (hBefore : a.Before b) :
    ¬ b.Before a := by
  rintro (hBack | ⟨hBack, hSlotBack⟩)
  · rcases hBefore with hScore | ⟨hScore, -⟩
    · exact LawfulScore.lt_asymm hScore hBack
    · exact hScore hBack
  · rcases hBefore with hScore | ⟨-, hSlot⟩
    · exact hBack hScore
    · exact absurd hSlot (Nat.lt_asymm hSlotBack)

end SiteSearch

------------------------------------------------------------
-- Ranking
------------------------------------------------------------

namespace SiteSearch

variable {σ : Type}
variable [Score σ]
variable [DecidableLT σ]

/- Moving a candidate forward keeps it and the others. -/
theorem moveForward_perm
    (candidate : Candidate σ)
    (candidates : List (Candidate σ)) :
    (moveForward candidate candidates).Perm
      (candidate :: candidates) := by
  induction candidates with
  | nil => exact List.Perm.refl _
  | cons last others ih =>
      unfold moveForward
      split
      · exact (ih.cons last).trans
          (List.Perm.swap candidate last others)
      · exact List.Perm.refl _

/- Ranking keeps the candidates. -/
theorem rankedBackward_perm
    (candidates : List (Candidate σ)) :
    (rankedBackward candidates).Perm candidates := by
  suffices hFold : ∀ ranked : List (Candidate σ),
      (candidates.foldl
        (fun ranked candidate => moveForward candidate ranked)
        ranked).Perm (candidates ++ ranked) by
    have hAll := hFold []
    rwa [List.append_nil] at hAll
  induction candidates with
  | nil => exact fun ranked => List.Perm.refl ranked
  | cons candidate candidates ih =>
      intro ranked
      refine (ih (moveForward candidate ranked)).trans ?_
      refine ((moveForward_perm candidate ranked).append_left
        candidates).trans ?_
      exact List.perm_middle

/- So it does from first to last. -/
theorem ranked_perm
    (candidates : List (Candidate σ)) :
    (rankedBackward candidates).reverse.Perm candidates :=
  (List.reverse_perm _).trans (rankedBackward_perm candidates)

variable [LawfulScore σ]

/- A list that is ranked from last to first stays so. -/
theorem pairwise_moveForward
    {candidate : Candidate σ}
    {candidates : List (Candidate σ)}
    (hComparable : Comparable (candidate :: candidates))
    (hRanked : candidates.Pairwise fun a b => ¬ a.Before b) :
    (moveForward candidate candidates).Pairwise
      fun a b => ¬ a.Before b := by
  induction candidates with
  | nil => exact List.pairwise_singleton _ _
  | cons last others ih =>
      have hParts := List.pairwise_cons.mp hRanked
      unfold moveForward
      split
      · rename_i hCompare
        have hBefore := (compare_eq_lt_iff candidate last).mp hCompare
        refine List.pairwise_cons.mpr ⟨?_, ?_⟩
        · intro other hOther
          rcases List.mem_cons.mp
              ((moveForward_perm candidate others).subset hOther) with
            hSame | hBehind
          · rw [hSame]
            exact hBefore.asymm
          · exact hParts.1 other hBehind
        · refine ih (hComparable.subset ?_) hParts.2
          exact List.cons_subset_cons _
            (List.subset_cons_self last others)
      · rename_i hCompare
        have hNotBefore : ¬ candidate.Before last :=
          fun hBefore => hCompare ((compare_eq_lt_iff _ _).mpr hBefore)
        refine List.pairwise_cons.mpr ⟨?_, hRanked⟩
        intro other hOther
        rcases List.mem_cons.mp hOther with hSame | hBehind
        · rw [hSame]
          exact hNotBefore
        · intro hBefore
          rcases hComparable.before_or_before List.mem_cons_self
              (List.mem_cons_of_mem candidate List.mem_cons_self)
              (List.mem_cons_of_mem candidate hOther) hBefore with
            hFirst | hSecond
          · exact hNotBefore hFirst
          · exact hParts.1 other hBehind hSecond

/- Ranking ranks. -/
theorem pairwise_rankedBackward
    {candidates : List (Candidate σ)}
    (hComparable : Comparable candidates) :
    (rankedBackward candidates).Pairwise fun a b => ¬ a.Before b := by
  suffices hFold : ∀ ranked : List (Candidate σ),
      Comparable (candidates ++ ranked) →
        (ranked.Pairwise fun a b => ¬ a.Before b) →
          (candidates.foldl
            (fun ranked candidate => moveForward candidate ranked)
            ranked).Pairwise fun a b => ¬ a.Before b by
    exact hFold [] (by simpa using hComparable) List.Pairwise.nil
  clear hComparable
  induction candidates with
  | nil => exact fun ranked _ hRanked => hRanked
  | cons candidate candidates ih =>
      intro ranked hComparable hRanked
      refine ih (moveForward candidate ranked) ?_ ?_
      · refine hComparable.subset ?_
        intro other hOther
        rcases List.mem_append.mp hOther with hLater | hDone
        · exact List.mem_cons_of_mem _ (List.mem_append_left _ hLater)
        · rcases List.mem_cons.mp
              ((moveForward_perm candidate ranked).subset hDone) with
            hSame | hOld
          · exact hSame ▸ List.mem_cons_self
          · exact List.mem_cons_of_mem _ (List.mem_append_right _ hOld)
      · refine pairwise_moveForward (hComparable.subset ?_) hRanked
        exact List.cons_subset_cons _
          (List.subset_append_right candidates ranked)

/- So it does from first to last. -/
theorem pairwise_ranked
    {candidates : List (Candidate σ)}
    (hComparable : Comparable candidates) :
    (rankedBackward candidates).reverse.Pairwise
      fun a b => ¬ b.Before a :=
  List.pairwise_reverse.mpr (pairwise_rankedBackward hComparable)

/-
  There is one order only in which candidates in different
  slots are ranked.
-/
theorem rank_eq_take_of_pairwise
    {candidates ranked : List (Candidate σ)}
    (hPerm : candidates.Perm ranked)
    (hComparable : Comparable candidates)
    (hSlots : (candidates.map Candidate.slot).Nodup)
    (hRanked : ranked.Pairwise fun a b => ¬ b.Before a)
    (limit : Nat) :
    rank candidates limit = ranked.take limit := by
  have hSame : (rankedBackward candidates).reverse = ranked := by
    refine List.Perm.eq_of_pairwise ?_ ?_ hRanked ?_
    · intro a b hA hB hAB hBA
      have hMemberA : a ∈ candidates :=
        (ranked_perm candidates).subset hA
      have hMemberB : b ∈ candidates := hPerm.mem_iff.mpr hB
      by_cases hSlot : a.slot = b.slot
      · exact List.inj_on_of_nodup_map hSlots hMemberA hMemberB hSlot
      · rcases Candidate.before_or_before hSlot with hBefore | hBefore
        · exact absurd hBefore hBA
        · exact absurd hBefore hAB
    · exact pairwise_ranked hComparable
    · exact (ranked_perm candidates).trans hPerm
  rw [rank, hSame]

end SiteSearch

------------------------------------------------------------
-- Ranking as Sorting
------------------------------------------------------------

namespace SiteSearch

variable {σ : Type}

variable [Score σ]
variable [DecidableLT σ]
variable [LawfulScore σ]

/-
  Sorted by score, candidates in the order of slots are
  ranked.
-/
theorem pairwise_mergeSort_score
    {ordered : List (Candidate σ)}
    (hOrdered : ordered.Pairwise fun a b => a.slot < b.slot)
    (hComparable : Comparable ordered) :
    (ordered.mergeSort fun a b => !decide (a.score < b.score)).Pairwise
      fun a b => ¬ b.Before a := by
  have hNodup : ordered.Nodup := by
    refine hOrdered.imp ?_
    rintro a b hSlot rfl
    exact Nat.lt_irrefl a.slot hSlot
  have hCompare : ScoresCompare Candidate.score ordered := hComparable
  refine (pairwise_mergeSort_key hCompare hNodup).imp ?_
  rintro a b ⟨hNotLess, hSame⟩ (hLess | ⟨hNotMore, hSlot⟩)
  · exact hNotLess hLess
  -- Equal scores: the two stand as they did in the order of slots.
  · have hEarlier := hOrdered.forall_sublist (hSame hNotMore)
    exact Nat.lt_asymm hSlot hEarlier

/-
  In whatever order candidates come, ranking them is sorting
  them by score after they were put in the order of slots.
-/
theorem rank_eq_take_mergeSort
    {candidates ordered : List (Candidate σ)}
    (hPerm : candidates.Perm ordered)
    (hOrdered : ordered.Pairwise fun a b => a.slot < b.slot)
    (hComparable : Comparable ordered)
    (limit : Nat) :
    rank candidates limit =
      (ordered.mergeSort
        fun a b => !decide (a.score < b.score)).take limit := by
  refine rank_eq_take_of_pairwise ?_
    (hComparable.subset hPerm.subset) ?_
    (pairwise_mergeSort_score hOrdered hComparable) limit
  · exact hPerm.trans (List.mergeSort_perm ordered _).symm
  · rw [(hPerm.map Candidate.slot).nodup_iff, List.Nodup,
      List.pairwise_map]
    exact hOrdered.imp fun hSlot => hSlot.ne

end SiteSearch
