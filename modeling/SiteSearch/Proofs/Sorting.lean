import SiteSearch.Proofs.Score.Order
import Mathlib.Data.List.Perm.Subperm
import Mathlib.Data.List.Permutation

/-
  Stable sorting.

  Sorting needs an order that is total on what is sorted only.
  Items that the order does not tell apart stay as they were,
  so there is one list only that sorting different items can
  give, and leaving items out before or after sorting comes to
  the same.

  Main declarations:
    * `SiteSearch.pairwise_mergeSort_stable`
    * `SiteSearch.eq_mergeSort_of_pairwise`
    * `SiteSearch.pairwise_mergeSort_key`
    * `SiteSearch.filter_mergeSort_key`
-/

------------------------------------------------------------
-- Pairs
------------------------------------------------------------

namespace SiteSearch

variable {α : Type}
variable {items : List α}

/- Without repetitions two items stand in one order only. -/
theorem not_pair_sublist_swap
    (hNodup : items.Nodup)
    {a b : α}
    (hPair : [a, b].Sublist items) :
    ¬ [b, a].Sublist items := by
  induction items with
  | nil => simp at hPair
  | cons item items ih =>
      rcases List.nodup_cons.mp hNodup with ⟨hFresh, hRest⟩
      intro hSwap
      rcases List.sublist_cons_iff.mp hPair with
        hTail | ⟨_, hHead, hTail⟩
      · rcases List.sublist_cons_iff.mp hSwap with hBack | ⟨_, hBack, _⟩
        · exact ih hRest hTail hBack
        · rcases List.cons.inj hBack with ⟨rfl, -⟩
          exact hFresh (hTail.subset (by simp))
      · rcases List.cons.inj hHead with ⟨rfl, rfl⟩
        rcases List.sublist_cons_iff.mp hSwap with hBack | ⟨_, hBack, _⟩
        · exact hFresh (hBack.subset (by simp))
        · rcases List.cons.inj hBack with ⟨rfl, -⟩
          exact hFresh (hTail.subset (by simp))

/- Two different items stand in one order or the other. -/
theorem pair_sublist_or_swap
    {a b : α}
    (hA : a ∈ items)
    (hB : b ∈ items)
    (hDifferent : a ≠ b) :
    [a, b].Sublist items ∨ [b, a].Sublist items := by
  have hPair : [a, b].Subperm items := by
    refine List.subperm_of_subset ?_ ?_
    · simpa using hDifferent
    · simp [hA, hB]
  rcases hPair with ⟨pair, hPerm, hSublist⟩
  rcases List.perm_pair.mp hPerm with rfl | rfl
  · exact Or.inl hSublist
  · exact Or.inr hSublist

/- If the second of two items is among the first few, both are. -/
theorem pair_sublist_take
    (hNodup : items.Nodup)
    {a b : α}
    (hPair : [a, b].Sublist items)
    {count : Nat}
    (hTaken : b ∈ items.take count) :
    [a, b].Sublist (items.take count) := by
  have hNoSwap := not_pair_sublist_swap hNodup hPair
  have hDifferent : a ≠ b :=
    List.pairwise_pair.mp (hNodup.sublist hPair)
  have hFirst : a ∈ items.take count := by
    have hA : a ∈ items.take count ++ items.drop count := by
      rw [List.take_append_drop]
      exact hPair.subset (by simp)
    rcases List.mem_append.mp hA with hAlso | hLeft
    · exact hAlso
    · have hSwap :=
        (List.singleton_sublist.mpr hTaken).append
          (List.singleton_sublist.mpr hLeft)
      rw [List.take_append_drop] at hSwap
      exact absurd hSwap hNoSwap
  rcases pair_sublist_or_swap hFirst hTaken hDifferent with
    hSame | hSwap
  · exact hSame
  · exact absurd (hSwap.trans (List.take_sublist count items)) hNoSwap

end SiteSearch

------------------------------------------------------------
-- Stable Sorting
------------------------------------------------------------

namespace SiteSearch

variable {α : Type}

/- Sorting items is sorting them as members of their list. -/
theorem map_val_mergeSort_attach
    (le : α → α → Bool)
    (items : List α) :
    (items.attach.mergeSort fun a b => le a.1 b.1).map Subtype.val =
      items.mergeSort le := by
  rw [List.map_mergeSort (s := le) (fun _ _ _ _ => rfl),
    List.attach_map_subtype_val]

variable {le : α → α → Bool}
variable {items : List α}
variable
  (hTrans : ∀ a ∈ items, ∀ b ∈ items, ∀ c ∈ items,
    le a b → le b c → le a c)
variable (hTotal : ∀ a ∈ items, ∀ b ∈ items, le a b || le b a)

include hTrans hTotal

/- Sorting sorts if the order is total on what is sorted. -/
theorem pairwise_mergeSort_of_mem :
    (items.mergeSort le).Pairwise fun a b => le a b := by
  rw [← map_val_mergeSort_attach, List.pairwise_map]
  exact List.pairwise_mergeSort
    (fun a b c : { a // a ∈ items } => hTrans a a.2 b b.2 c c.2)
    (fun a b : { a // a ∈ items } => hTotal a a.2 b b.2)
    items.attach

/-
  Sorting keeps two items in order that need not change
  places.
-/
theorem pair_sublist_mergeSort_of_mem
    {a b : α}
    (hOrder : le a b)
    (hPair : [a, b].Sublist items) :
    [a, b].Sublist (items.mergeSort le) := by
  rw [← items.attach_map_subtype_val, List.sublist_map_iff] at hPair
  rcases hPair with ⟨members, hMembers, hPair⟩
  rw [← map_val_mergeSort_attach, hPair]
  refine (List.sublist_mergeSort
    (fun a b c : { a // a ∈ items } => hTrans a a.2 b b.2 c c.2)
    (fun a b : { a // a ∈ items } => hTotal a a.2 b b.2)
    ?_ hMembers).map Subtype.val
  rw [← List.pairwise_map (f := Subtype.val)
    (R := fun a b => le a b = true), ← hPair]
  exact List.pairwise_pair.mpr hOrder

variable (hNodup : items.Nodup)

include hNodup

/- Items that the order does not tell apart stay as they were. -/
theorem pairwise_mergeSort_stable :
    (items.mergeSort le).Pairwise fun a b =>
      le a b ∧ (le b a → [a, b].Sublist items) := by
  have hSorted : (items.mergeSort le).Nodup :=
    (List.mergeSort_perm items le).nodup_iff.mpr hNodup
  rw [List.pairwise_iff_forall_sublist]
  intro a b hPair
  refine ⟨(pairwise_mergeSort_of_mem hTrans hTotal).forall_sublist hPair,
    fun hBack => ?_⟩
  have hA : a ∈ items := List.mem_mergeSort.mp (hPair.subset (by simp))
  have hB : b ∈ items := List.mem_mergeSort.mp (hPair.subset (by simp))
  have hDifferent : a ≠ b :=
    List.pairwise_pair.mp (hSorted.sublist hPair)
  rcases pair_sublist_or_swap hA hB hDifferent with hSame | hSwap
  · exact hSame
  -- The sort would have kept the other order.
  · have hKept :=
      pair_sublist_mergeSort_of_mem hTrans hTotal hBack hSwap
    exact absurd hKept (not_pair_sublist_swap hSorted hPair)

/- There is one list only that is sorted in this way. -/
theorem eq_mergeSort_of_pairwise
    {sorted : List α}
    (hPerm : sorted.Perm items)
    (hSorted : sorted.Pairwise fun a b =>
      le a b ∧ (le b a → [a, b].Sublist items)) :
    sorted = items.mergeSort le := by
  refine List.Perm.eq_of_pairwise ?_ hSorted
    (pairwise_mergeSort_stable hTrans hTotal hNodup)
    (hPerm.trans (List.mergeSort_perm items le).symm)
  rintro a b - - ⟨hOrder, hStable⟩ ⟨hBack, hStableBack⟩
  exact absurd (hStableBack hOrder)
    (not_pair_sublist_swap hNodup (hStable hBack))

/- Leaving items out before or after sorting comes to the same. -/
theorem filter_mergeSort_of_mem
    (keep : α → Bool) :
    (items.mergeSort le).filter keep =
      (items.filter keep).mergeSort le := by
  have hSubset : items.filter keep ⊆ items :=
    List.filter_subset_self items
  apply eq_mergeSort_of_pairwise
  · exact fun a hA b hB c hC =>
      hTrans a (hSubset hA) b (hSubset hB) c (hSubset hC)
  · exact fun a hA b hB => hTotal a (hSubset hA) b (hSubset hB)
  · exact hNodup.filter keep
  · exact (List.mergeSort_perm items le).filter keep
  · have hStable := pairwise_mergeSort_stable hTrans hTotal hNodup
    refine (hStable.filter keep).imp_of_mem ?_
    rintro a b hA hB ⟨hOrder, hPair⟩
    refine ⟨hOrder, fun hBack => ?_⟩
    have hKept := (hPair hBack).filter keep
    rwa [List.filter_eq_self.mpr] at hKept
    intro item hItem
    rcases List.mem_pair.mp hItem with rfl | rfl
    · exact (List.mem_filter.mp hA).2
    · exact (List.mem_filter.mp hB).2

end SiteSearch

------------------------------------------------------------
-- Sorting by Score
------------------------------------------------------------

namespace SiteSearch

variable {σ : Type}
variable [Score σ]
variable {α : Type}

/-
  Whatever is scored beside two items is apart from one of
  them.
-/
def ScoresCompare
    (key : α → σ)
    (items : List α) :
    Prop :=
  ∀ a ∈ items, ∀ b ∈ items, ∀ c ∈ items,
    key a < key c → key a < key b ∨ key b < key c

variable [DecidableLT σ]
variable {items : List α}
variable {key : α → σ}

/- Not being scored less goes from one item to the next. -/
theorem ScoresCompare.not_lt_trans
    (hCompare : ScoresCompare key items) :
    ∀ a ∈ items, ∀ b ∈ items, ∀ c ∈ items,
      !decide (key a < key b) → !decide (key b < key c) →
        !decide (key a < key c) := by
  intro a hA b hB c hC hAB hBC
  simp only [Bool.not_eq_true', decide_eq_false_iff_not] at *
  intro hAC
  rcases hCompare a hA b hB c hC hAC with hLess | hLess
  · exact hAB hLess
  · exact hBC hLess

variable [LawfulScore σ]

/- Scores that are not negative compare with each other. -/
omit [DecidableLT σ] in
theorem scoresCompare_of_nonNegative
    (hScores : ∀ item ∈ items, Score.NonNegative (key item)) :
    ScoresCompare key items :=
  fun a hA b hB c _ hLess =>
    (hScores a hA).lt_or_lt (hScores b hB) (key c) hLess

/- One of two items is not scored less than the other. -/
theorem not_lt_or_not_lt
    (key : α → σ)
    (a b : α) :
    !decide (key a < key b) || !decide (key b < key a) := by
  by_cases hLess : key a < key b
  · simp [LawfulScore.lt_asymm hLess]
  · simp [hLess]

/-
  Sorted by score, an item comes before those of lower score,
  and those of equal score are in the order they were in.
-/
theorem pairwise_mergeSort_key
    (hCompare : ScoresCompare key items)
    (hNodup : items.Nodup) :
    (items.mergeSort fun a b => !decide (key a < key b)).Pairwise
      fun a b =>
        ¬ key a < key b ∧
          (¬ key b < key a → [a, b].Sublist items) := by
  have hStable := pairwise_mergeSort_stable hCompare.not_lt_trans
    (fun a _ b _ => not_lt_or_not_lt key a b) hNodup
  simpa only [Bool.not_eq_true', decide_eq_false_iff_not] using hStable

/-
  Leaving items out before or after sorting by score comes
  to the same.
-/
theorem filter_mergeSort_key
    (hCompare : ScoresCompare key items)
    (hNodup : items.Nodup)
    (keep : α → Bool) :
    (items.mergeSort fun a b => !decide (key a < key b)).filter keep =
      (items.filter keep).mergeSort
        fun a b => !decide (key a < key b) :=
  filter_mergeSort_of_mem hCompare.not_lt_trans
    (fun a _ b _ => not_lt_or_not_lt key a b) hNodup keep

end SiteSearch
