import SiteSearch.Proofs.Ranking
import SiteSearch.Proofs.Score.Comparison

/-
  When comparing candidates is consistent.

  Sorting relies on a comparison that is the other way round
  when its items change places, and that never puts the first
  of three items behind the last if the second does not come
  before the first nor the third before the second.  Two
  candidates always compare in that way.  Three of them do so
  as long as all scores are numbers.  A score that is no
  number leaves the slots to decide, and where that brings a
  lower score in front of a higher one, no order is right.

  Main declarations:
    * `SiteSearch.Candidate.compare_swap`
    * `SiteSearch.IsConsistent`
    * `SiteSearch.IsUndisturbed`
    * `SiteSearch.isConsistent_iff`
    * `SiteSearch.compare_not_consistent`
-/

------------------------------------------------------------
-- Two Candidates
------------------------------------------------------------

namespace SiteSearch

variable {σ : Type}
variable [Score σ]
variable [DecidableLT σ]
variable [LawfulScore σ]

/-
  Two candidates compare the other way round if they change
  places.
-/
theorem Candidate.compare_swap
    (a b : Candidate σ) :
    a.compare b = (b.compare a).swap := by
  unfold Candidate.compare
  by_cases hMore : b.score < a.score
  · simp [hMore, LawfulScore.lt_asymm hMore]
  · by_cases hLess : a.score < b.score
    · simp [hMore, hLess]
    · simp [hMore, hLess, Nat.compare_swap]

/-
  A candidate does not come behind what is not ranked before
  it.
-/
theorem compare_ne_gt_iff
    (a b : Candidate σ) :
    a.compare b ≠ .gt ↔ ¬ b.Before a := by
  rw [Candidate.compare_swap, ← compare_eq_lt_iff, Ne,
    Ordering.swap_eq_gt]

end SiteSearch

------------------------------------------------------------
-- Three Candidates
------------------------------------------------------------

namespace SiteSearch

variable {candidates : List (Candidate Float)}

/- What a sort asks of comparing some candidates. -/
structure IsConsistent
    (candidates : List (Candidate Float)) :
    Prop where
  swap_eq : ∀ a ∈ candidates, ∀ b ∈ candidates,
    a.compare b = (b.compare a).swap
  trans : ∀ a ∈ candidates, ∀ b ∈ candidates, ∀ c ∈ candidates,
    a.compare b ≠ .gt → b.compare c ≠ .gt → a.compare c ≠ .gt

/-
  Wherever the slot of a candidate whose score is no number
  stands between the slots of two others, the first of these
  has no lower score than the second.
-/
def IsUndisturbed
    (candidates : List (Candidate Float)) :
    Prop :=
  ∀ a ∈ candidates, ∀ blank ∈ candidates, ∀ b ∈ candidates,
    blank.score.isNaN = true →
      a.slot ≤ blank.slot → blank.slot ≤ b.slot →
        ¬ a.score < b.score

/- A score between two others is apart from one, or no number. -/
theorem lt_or_lt_or_isNaN
    {a c : Float}
    (hLess : a < c)
    (b : Float) :
    a < b ∨ b < c ∨ b.isNaN = true := by
  cases hNumber : b.isNaN with
  | false =>
      rcases Binary64.lt_or_lt_of_lt hNumber hLess with hFirst | hSecond
      · exact Or.inl hFirst
      · exact Or.inr (Or.inl hSecond)
  | true => exact Or.inr (Or.inr rfl)

/-
  Slots that disturb the order of two scores break
  consistency.
-/
theorem IsConsistent.isUndisturbed
    (hConsistent : IsConsistent candidates) :
    IsUndisturbed candidates := by
  intro a hA blank hBlank b hB hNaN hFirst hSecond hLess
  have hApart := Binary64.not_lt_of_isNaN hNaN
  have hStart : ¬ blank.Before a := by
    rintro (hScore | ⟨-, hSlot⟩)
    · exact (hApart a.score).2 hScore
    · exact absurd hSlot (Nat.not_lt.mpr hFirst)
  have hEnd : ¬ b.Before blank := by
    rintro (hScore | ⟨-, hSlot⟩)
    · exact (hApart b.score).1 hScore
    · exact absurd hSlot (Nat.not_lt.mpr hSecond)
  have hWhole := hConsistent.trans a hA blank hBlank b hB
  simp only [compare_ne_gt_iff] at hWhole
  exact hWhole hStart hEnd (Or.inl hLess)

/-
  Otherwise scores do not fall back along three candidates
  that are each in place: the second score is apart from one
  of the others, or no number, and then its slot stands
  between theirs.
-/
theorem IsUndisturbed.not_lt_of_not_before
    (hUndisturbed : IsUndisturbed candidates)
    {a b c : Candidate Float}
    (hA : a ∈ candidates)
    (hB : b ∈ candidates)
    (hC : c ∈ candidates)
    (hNotBA : ¬ b.Before a)
    (hNotCB : ¬ c.Before b) :
    ¬ a.score < c.score := by
  intro hLess
  rcases lt_or_lt_or_isNaN hLess b.score with hFirst | hSecond | hNaN
  · exact hNotBA (Or.inl hFirst)
  · exact hNotCB (Or.inl hSecond)
  · have hApart := Binary64.not_lt_of_isNaN hNaN
    have hSlotAB : a.slot ≤ b.slot := Nat.not_lt.mp fun hSlot =>
      hNotBA (Or.inr ⟨(hApart a.score).1, hSlot⟩)
    have hSlotBC : b.slot ≤ c.slot := Nat.not_lt.mp fun hSlot =>
      hNotCB (Or.inr ⟨(hApart c.score).2, hSlot⟩)
    exact hUndisturbed a hA b hB c hC hNaN hSlotAB hSlotBC hLess

/-
  So whatever is ranked beside two candidates is apart from
  one of them.  Three that go round in a circle have scores
  that do not decide, and slots cannot go round.
-/
theorem IsUndisturbed.before_or_before
    (hUndisturbed : IsUndisturbed candidates)
    {a b c : Candidate Float}
    (hA : a ∈ candidates)
    (hB : b ∈ candidates)
    (hC : c ∈ candidates)
    (hBefore : c.Before a) :
    c.Before b ∨ b.Before a := by
  by_contra hNeither
  rw [not_or] at hNeither
  rcases hNeither with ⟨hNotCB, hNotBA⟩
  have hNotAC : ¬ a.Before c := hBefore.asymm
  have hAC : ¬ a.score < c.score :=
    hUndisturbed.not_lt_of_not_before hA hB hC hNotBA hNotCB
  have hBA : ¬ b.score < a.score :=
    hUndisturbed.not_lt_of_not_before hB hC hA hNotCB hNotAC
  have hCB : ¬ c.score < b.score :=
    hUndisturbed.not_lt_of_not_before hC hA hB hNotAC hNotBA
  have hSlotCA : c.slot < a.slot := (hBefore.resolve_left hAC).2
  have hSlotAB : a.slot ≤ b.slot :=
    Nat.not_lt.mp fun hSlot => hNotBA (Or.inr ⟨hBA, hSlot⟩)
  have hSlotBC : b.slot ≤ c.slot :=
    Nat.not_lt.mp fun hSlot => hNotCB (Or.inr ⟨hCB, hSlot⟩)
  exact absurd hSlotCA (Nat.not_lt.mpr (hSlotAB.trans hSlotBC))

/-
  Comparing some candidates is consistent if and only if no
  score that is no number disturbs their order.
-/
theorem isConsistent_iff
    (candidates : List (Candidate Float)) :
    IsConsistent candidates ↔ IsUndisturbed candidates := by
  refine ⟨IsConsistent.isUndisturbed, fun hUndisturbed => ?_⟩
  refine ⟨fun a _ b _ => a.compare_swap b, ?_⟩
  intro a hA b hB c hC hAB hBC
  rw [compare_ne_gt_iff] at *
  intro hBefore
  rcases hUndisturbed.before_or_before hA hB hC hBefore with hCB | hBA
  · exact hBC hCB
  · exact hAB hBA

/-
  So comparing is not consistent for every three candidates,
  and ranking these depends on the order in which they come:
  the lower score may stay in front of the higher one.
-/
theorem compare_not_consistent :
    (¬ ∀ a b c : Candidate Float,
      a.compare b = (b.compare a).swap ∧
        (a.compare b ≠ .gt → b.compare c ≠ .gt →
          a.compare c ≠ .gt)) ∧
      (rank [(⟨0, 1⟩ : Candidate Float), ⟨1, 0 / 0⟩, ⟨2, 2⟩] 3).map
          Candidate.slot = [0, 1, 2] ∧
      (rank [(⟨2, 2⟩ : Candidate Float), ⟨0, 1⟩, ⟨1, 0 / 0⟩] 3).map
          Candidate.slot = [2, 0, 1] := by
  refine ⟨?_, by decide, by decide⟩
  intro hAll
  have hThree := (hAll ⟨0, 1⟩ ⟨1, 0 / 0⟩ ⟨2, 2⟩).2
  exact hThree (by decide) (by decide) (by decide)

end SiteSearch
