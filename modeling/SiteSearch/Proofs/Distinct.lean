import Mathlib.Data.Finset.Card

/-
  Counting without repetitions.

  Dropping the repetitions of a list keeps its elements in the
  order in which they first appear.  Any list without
  repetitions is as long as the set of its elements is large.

  Main declarations:
    * `SiteSearch.eraseDups_append_singleton`
    * `SiteSearch.nodup_eraseDups`
    * `SiteSearch.eraseDups_flatMap`
    * `SiteSearch.length_eq_card`
-/

------------------------------------------------------------
-- Repetitions
------------------------------------------------------------

namespace SiteSearch

variable {α : Type}
variable [BEq α]
variable [LawfulBEq α]

/- One more element comes last if it is not there yet. -/
theorem eraseDups_append_singleton
    (front : List α)
    (last : α) :
    (front ++ [last]).eraseDups =
      if last ∈ front then front.eraseDups
      else front.eraseDups ++ [last] := by
  rw [List.eraseDups_append]
  split_ifs with hMember
  · have hNone : [last].removeAll front = [] := by
      simp [List.removeAll, hMember]
    rw [hNone, List.eraseDups_nil, List.append_nil]
  · have hOne : [last].removeAll front = [last] := by
      simp [List.removeAll, hMember]
    rw [hOne, List.eraseDups_cons, List.filter_nil, List.eraseDups_nil]

theorem nodup_eraseDups
    (items : List α) :
    items.eraseDups.Nodup := by
  induction items using List.reverseRecOn with
  | nil => exact List.nodup_nil
  | append_singleton front last ih =>
      rw [eraseDups_append_singleton]
      split_ifs with hMember
      · exact ih
      · refine List.nodup_append'.mpr
          ⟨ih, List.nodup_singleton last, ?_⟩
        rw [List.disjoint_singleton, List.mem_eraseDups]
        exact hMember

/- What is one element over and over is that element. -/
theorem eraseDups_of_forall_eq
    {a : α}
    {items : List α}
    (hSome : items ≠ [])
    (hSame : ∀ b ∈ items, b = a) :
    items.eraseDups = [a] := by
  cases items with
  | nil => exact absurd rfl hSome
  | cons b items =>
      have hRest : items.filter (fun c => !c == b) = [] := by
        rw [List.filter_eq_nil_iff]
        intro c hMember
        rw [hSame c (List.mem_cons_of_mem _ hMember),
          hSame b List.mem_cons_self]
        simp
      rw [List.eraseDups_cons, hRest, hSame b List.mem_cons_self]
      rfl

/- Elements that are repeated in place are left as they were. -/
theorem eraseDups_flatMap
    {items : List α}
    (hNodup : items.Nodup)
    {block : α → List α}
    (hSome : ∀ a ∈ items, block a ≠ [])
    (hSame : ∀ a ∈ items, ∀ b ∈ block a, b = a) :
    (items.flatMap block).eraseDups = items := by
  induction items with
  | nil => rfl
  | cons first items ih =>
      rcases List.nodup_cons.mp hNodup with ⟨hFirst, hRest⟩
      have hKept : (items.flatMap block).removeAll (block first) =
          items.flatMap block := by
        rw [List.removeAll, List.filter_eq_self]
        intro b hMember
        rcases List.mem_flatMap.mp hMember with ⟨a, hItem, hBlock⟩
        have hOwn := hSame a (List.mem_cons_of_mem _ hItem) b hBlock
        simp only [List.elem_eq_mem, Bool.not_eq_eq_eq_not,
          Bool.not_true, decide_eq_false_iff_not]
        intro hAgain
        rw [← hSame first List.mem_cons_self b hAgain, hOwn] at hFirst
        exact hFirst hItem
      rw [List.flatMap_cons, List.eraseDups_append, hKept,
        ih hRest
          (fun a hItem => hSome a (List.mem_cons_of_mem _ hItem))
          (fun a hItem => hSame a (List.mem_cons_of_mem _ hItem)),
        eraseDups_of_forall_eq (hSome first List.mem_cons_self)
          (hSame first List.mem_cons_self)]
      rfl

/- What belongs to one element alone is there once. -/
theorem flatMap_ite_eq
    {α β : Type}
    [DecidableEq α]
    {items : List α}
    (hNodup : items.Nodup)
    {a : α}
    (hMember : a ∈ items)
    (block : List β) :
    (items.flatMap fun b => if b = a then block else []) = block := by
  induction items with
  | nil => cases hMember
  | cons first items ih =>
      rcases List.nodup_cons.mp hNodup with ⟨hFirst, hRest⟩
      rw [List.flatMap_cons]
      by_cases hSame : first = a
      · have hNone :
            (items.flatMap fun b => if b = a then block else []) =
              [] := by
          rw [List.flatMap_eq_nil_iff]
          intro b hItem
          refine if_neg ?_
          rintro rfl
          exact hFirst (hSame ▸ hItem)
        rw [if_pos hSame, hNone, List.append_nil]
      · rw [if_neg hSame, List.nil_append]
        exact ih hRest ((List.mem_cons.mp hMember).resolve_left
          (Ne.symm hSame))

end SiteSearch

------------------------------------------------------------
-- Sizes
------------------------------------------------------------

namespace SiteSearch

variable {α : Type}
variable [DecidableEq α]

/-
  A list without repetitions is as long as there are different
  elements in any list with the same elements.
-/
theorem length_eq_card
    {items others : List α}
    (hNodup : items.Nodup)
    (hSame : ∀ a, a ∈ items ↔ a ∈ others) :
    items.length = others.toFinset.card := by
  have hSet : items.toFinset = others.toFinset := by
    ext a
    rw [List.mem_toFinset, List.mem_toFinset, hSame]
  rw [← hSet, List.toFinset_card_of_nodup hNodup]

end SiteSearch
