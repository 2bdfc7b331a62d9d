import SiteSearch.Score
import Mathlib.Algebra.Order.Ring.Unbundled.Rat
import Mathlib.Tactic.Linarith

/-
  The order of scores.

  Scores are compared by `<` alone.  Over floating-point
  numbers this is no total order, as nothing compares with a
  number that is none.  What ranking needs is less: scores
  that are not negative compare with each other, and sums of
  such scores are such scores.

  Main declarations:
    * `SiteSearch.LawfulScore`
    * `SiteSearch.largest`
    * `SiteSearch.largest_congr`
    * `SiteSearch.isLargest_largest`
-/

------------------------------------------------------------
-- Lawful Scores
------------------------------------------------------------

namespace SiteSearch

/- Zero or more. -/
def Score.NonNegative
    {σ : Type}
    [Score σ]
    (score : σ) :
    Prop :=
  score = Score.ofNat 0 ∨ Score.ofNat 0 < score

/- What ranking relies on. -/
class LawfulScore (σ : Type) [Score σ] : Prop where
  lt_irrefl : ∀ a : σ, ¬ a < a
  lt_trans : ∀ a b c : σ, a < b → b < c → a < c
  /- Positive scores are told apart by the order. -/
  eq_of_positive : ∀ a b : σ,
    Score.ofNat 0 < a → Score.ofNat 0 < b →
      ¬ a < b → ¬ b < a → a = b
  nonNegative_add : ∀ a b : σ,
    Score.NonNegative a → Score.NonNegative b →
      Score.NonNegative (a + b)

instance : LawfulScore Rat where
  lt_irrefl a := lt_irrefl a
  lt_trans a b c := lt_trans
  eq_of_positive a b _ _ hLess hMore :=
    le_antisymm (not_lt.mp hMore) (not_lt.mp hLess)
  nonNegative_add a b hA hB := by
    have hNonNegative : ∀ score : Rat,
        Score.NonNegative score ↔ 0 ≤ score := by
      intro score
      rw [le_iff_eq_or_lt, eq_comm]
      rfl
    rw [hNonNegative] at *
    exact add_nonneg hA hB

variable {σ : Type}
variable [Score σ]
variable [LawfulScore σ]

/- Nothing is less than what is less than it. -/
theorem LawfulScore.lt_asymm
    {a b : σ}
    (hLess : a < b) :
    ¬ b < a :=
  fun hMore => lt_irrefl a (lt_trans a b a hLess hMore)

namespace Score.NonNegative

omit [LawfulScore σ] in
theorem zero :
    NonNegative (Score.ofNat 0 : σ) :=
  Or.inl rfl

/- No score that is not negative is less than zero. -/
theorem not_lt_zero
    {score : σ}
    (hScore : NonNegative score) :
    ¬ score < Score.ofNat 0 := by
  rcases hScore with rfl | hPositive
  · exact LawfulScore.lt_irrefl _
  · exact LawfulScore.lt_asymm hPositive

/- What the order does not tell apart is the same. -/
theorem eq_of_not_lt
    {a b : σ}
    (hA : NonNegative a)
    (hB : NonNegative b)
    (hLess : ¬ a < b)
    (hMore : ¬ b < a) :
    a = b := by
  rcases hA with rfl | hA
  · rcases hB with rfl | hB
    · rfl
    · exact absurd hB hLess
  · rcases hB with rfl | hB
    · exact absurd hA hMore
    · exact LawfulScore.eq_of_positive a b hA hB hLess hMore

/-
  Whatever stands between two scores is apart from one of
  them.
-/
theorem lt_or_lt
    {a b : σ}
    (hA : NonNegative a)
    (hB : NonNegative b)
    (c : σ)
    (hLess : a < c) :
    a < b ∨ b < c := by
  by_cases hAB : a < b
  · exact Or.inl hAB
  · by_cases hBA : b < a
    · exact Or.inr (LawfulScore.lt_trans b a c hBA hLess)
    · exact Or.inr (hA.eq_of_not_lt hB hAB hBA ▸ hLess)

end Score.NonNegative

end SiteSearch

------------------------------------------------------------
-- The Largest Score
------------------------------------------------------------

namespace SiteSearch

variable {σ : Type}
variable [Score σ]
variable [DecidableLT σ]

/- The larger of two scores. -/
def larger
    (best score : σ) :
    σ :=
  if best < score then score else best

/-
  The largest of some scores, and zero if there is none
  above it.
-/
def largest
    (scores : List σ) :
    σ :=
  scores.foldl larger (Score.ofNat 0)

/- One of some scores, with none above it. -/
def IsLargest
    (scores : List σ)
    (score : σ) :
    Prop :=
  score ∈ scores ∧ ∀ other ∈ scores, ¬ score < other

variable [LawfulScore σ]

/- The best score so far stays, or gives way to one above it. -/
theorem foldl_larger_eq_or_mem
    (scores : List σ)
    (best : σ) :
    scores.foldl larger best = best ∨
      best < scores.foldl larger best ∧
        scores.foldl larger best ∈ scores := by
  induction scores generalizing best with
  | nil => exact Or.inl rfl
  | cons score scores ih =>
      rw [List.foldl_cons]
      by_cases hLarger : best < score
      · have hStep : larger best score = score := if_pos hLarger
        rw [hStep]
        rcases ih score with hSame | ⟨hAbove, hMember⟩
        · rw [hSame]
          exact Or.inr ⟨hLarger, List.mem_cons_self⟩
        · exact Or.inr
            ⟨LawfulScore.lt_trans best score _ hLarger hAbove,
              List.mem_cons_of_mem score hMember⟩
      · have hStep : larger best score = best := if_neg hLarger
        rw [hStep]
        rcases ih best with hSame | ⟨hAbove, hMember⟩
        · exact Or.inl hSame
        · exact Or.inr ⟨hAbove, List.mem_cons_of_mem score hMember⟩

/- What is not less than the best score so far stays so. -/
theorem not_foldl_larger_lt
    (scores : List σ)
    {best other : σ}
    (hBest : ¬ best < other) :
    ¬ scores.foldl larger best < other := by
  induction scores generalizing best with
  | nil => exact hBest
  | cons score scores ih =>
      refine ih ?_
      unfold larger
      split
      · rename_i hLarger
        exact fun hLess =>
          hBest (LawfulScore.lt_trans best score other hLarger hLess)
      · exact hBest

/- No score is above the best one. -/
theorem not_foldl_larger_lt_of_mem
    (scores : List σ)
    (best : σ)
    {score : σ}
    (hScore : score ∈ scores) :
    ¬ scores.foldl larger best < score := by
  induction scores generalizing best with
  | nil => simp at hScore
  | cons first scores ih =>
      rw [List.foldl_cons]
      rcases List.mem_cons.mp hScore with rfl | hRest
      · apply not_foldl_larger_lt scores
        by_cases hLarger : best < score
        · rw [larger, if_pos hLarger]
          exact LawfulScore.lt_irrefl score
        · rw [larger, if_neg hLarger]
          exact hLarger
      · exact ih (larger best first) hRest

/- The largest score is zero or one of those above it. -/
theorem largest_eq_zero_or_mem
    (scores : List σ) :
    largest scores = Score.ofNat 0 ∨
      Score.ofNat 0 < largest scores ∧ largest scores ∈ scores :=
  foldl_larger_eq_or_mem scores (Score.ofNat 0)

/- The largest score is not negative. -/
theorem nonNegative_largest
    (scores : List σ) :
    Score.NonNegative (largest scores) := by
  rcases largest_eq_zero_or_mem scores with hZero | hPositive
  · exact Or.inl hZero
  · exact Or.inr hPositive.1

/-
  The largest of some scores is not below that of some of
  them.
-/
theorem not_largest_lt_largest
    {scores others : List σ}
    (hSubset : others ⊆ scores) :
    ¬ largest scores < largest others := by
  rcases largest_eq_zero_or_mem others with hZero | ⟨-, hMember⟩
  · rw [hZero]
    exact (nonNegative_largest scores).not_lt_zero
  · exact not_foldl_larger_lt_of_mem scores _ (hSubset hMember)

/-
  The largest score depends neither on order nor on
  repetition.
-/
theorem largest_congr
    {scores others : List σ}
    (hSame : ∀ score, score ∈ scores ↔ score ∈ others) :
    largest scores = largest others :=
  (nonNegative_largest scores).eq_of_not_lt
    (nonNegative_largest others)
    (not_largest_lt_largest fun score => (hSame score).mpr)
    (not_largest_lt_largest fun score => (hSame score).mp)

/-
  Of scores that are not negative, the largest one is one of
  them.
-/
theorem isLargest_largest
    {scores : List σ}
    (hSome : scores ≠ [])
    (hNonNegative : ∀ score ∈ scores, Score.NonNegative score) :
    IsLargest scores (largest scores) := by
  have hAbove : ∀ other ∈ scores, ¬ largest scores < other :=
    fun other hOther => not_foldl_larger_lt_of_mem scores _ hOther
  refine ⟨?_, hAbove⟩
  rcases largest_eq_zero_or_mem scores with hZero | ⟨-, hMember⟩
  · rcases List.exists_mem_of_ne_nil scores hSome with ⟨score, hScore⟩
    rcases hNonNegative score hScore with hSame | hPositive
    · rw [hZero, ← hSame]
      exact hScore
    · rw [← hZero] at hPositive
      exact absurd hPositive (hAbove score hScore)
  · exact hMember

end SiteSearch
