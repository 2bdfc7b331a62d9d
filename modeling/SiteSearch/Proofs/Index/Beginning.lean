import SiteSearch.Index.Terms
import Mathlib.Data.String.Basic

/-
  Terms with a common beginning.

  In ascending order the terms that begin with a given text
  stand side by side, right behind the terms that come before
  that text.  So the scan of `TermIndex.startingWith`, which
  starts there and stops at the first other term, misses none.

  Main declarations:
    * `SiteSearch.prefix_of_not_lt_of_lt`
    * `SiteSearch.TermIndex.startingWith_eq_filter`
-/

------------------------------------------------------------
-- Beginnings in the Order of Texts
------------------------------------------------------------

namespace SiteSearch

/-
  What lies between a text and one that begins with it begins
  with it, too.
-/
theorem prefix_of_not_lt_of_lt
    {start a b : List Char}
    (hStart : ¬ a < start)
    (hLess : a < b)
    (hPrefix : start <+: b) :
    start <+: a := by
  induction start generalizing a b with
  | nil => exact List.nil_prefix
  | cons c start ih =>
      rcases hPrefix with ⟨rest, rfl⟩
      cases a with
      | nil => exact absurd (List.nil_lt_cons c start) hStart
      | cons d a =>
          rw [List.cons_lt_cons_iff, not_or] at hStart
          rw [List.cons_append, List.cons_lt_cons_iff] at hLess
          rcases hLess with hChar | ⟨rfl, hRest⟩
          · exact absurd hChar hStart.1
          · have hBelow : ¬ a < start := fun hLt =>
              hStart.2 ⟨rfl, hLt⟩
            exact List.cons_prefix_cons.mpr
              ⟨rfl, ih hBelow hRest (List.prefix_append start rest)⟩

/- A text does not come before its beginnings. -/
theorem not_lt_of_prefix
    {start text : List Char}
    (hPrefix : start <+: text) :
    ¬ text < start :=
  List.not_lt.mpr hPrefix.le

end SiteSearch

------------------------------------------------------------
-- The Scan
------------------------------------------------------------

namespace SiteSearch.TermIndex

/- Whether the term of an entry begins with a text. -/
def beginsWith
    (start : String)
    (entry : TermEntry) :
    Bool :=
  start.toList.isPrefixOf entry.1.toList

/- Entries before a text do not begin with it. -/
theorem filter_beginsWith_dropWhile
    (start : String)
    (entries : List TermEntry) :
    (entries.dropWhile fun entry => entry.1 < start).filter
        (beginsWith start) =
      entries.filter (beginsWith start) := by
  induction entries with
  | nil => rfl
  | cons entry entries ih =>
      by_cases hBefore : entry.1 < start
      · have hOther : ¬ beginsWith start entry = true := by
          intro hBegins
          exact not_lt_of_prefix
            (List.isPrefixOf_iff_prefix.mp hBegins)
            (String.lt_iff_toList_lt.mp hBefore)
        rw [List.dropWhile_cons_of_pos (by simpa using hBefore), ih,
          List.filter_cons_of_neg hOther]
      · rw [List.dropWhile_cons_of_neg (by simpa using hBefore)]

/-
  Among sorted entries that do not come before a text, the
  first one that does not begin with it is followed by none
  that does.
-/
theorem takeWhile_beginsWith_eq_filter
    (start : String)
    {entries : List TermEntry}
    (hSorted : entries.Pairwise fun a b => a.1 < b.1)
    (hStart : ∀ entry ∈ entries, ¬ entry.1 < start) :
    entries.takeWhile (beginsWith start) =
      entries.filter (beginsWith start) := by
  induction entries with
  | nil => rfl
  | cons entry entries ih =>
      have hParts := List.pairwise_cons.mp hSorted
      by_cases hBegins : beginsWith start entry = true
      · rw [List.takeWhile_cons_of_pos hBegins,
          List.filter_cons_of_pos hBegins,
          ih hParts.2 fun other hOther =>
            hStart other (List.mem_cons_of_mem entry hOther)]
      · rw [List.takeWhile_cons_of_neg hBegins,
          List.filter_cons_of_neg hBegins]
        refine (List.filter_eq_nil_iff.mpr ?_).symm
        intro other hOther hLater
        apply hBegins
        exact List.isPrefixOf_iff_prefix.mpr
          (prefix_of_not_lt_of_lt
            (fun hLt => hStart entry List.mem_cons_self
              (String.lt_iff_toList_lt.mpr hLt))
            (String.lt_iff_toList_lt.mp (hParts.1 other hOther))
            (List.isPrefixOf_iff_prefix.mp hLater))

/- Behind the entries before a text, none comes before it. -/
theorem not_lt_of_mem_dropWhile
    (start : String)
    {entries : List TermEntry}
    (hSorted : entries.Pairwise fun a b => a.1 < b.1) :
    ∀ entry ∈ entries.dropWhile (fun entry => entry.1 < start),
      ¬ entry.1 < start := by
  induction entries with
  | nil => simp
  | cons head entries ih =>
      have hParts := List.pairwise_cons.mp hSorted
      by_cases hBefore : head.1 < start
      · rw [List.dropWhile_cons_of_pos (by simpa using hBefore)]
        exact ih hParts.2
      · rw [List.dropWhile_cons_of_neg (by simpa using hBefore)]
        intro entry hEntry
        rcases List.mem_cons.mp hEntry with hHead | hRest
        · rw [hHead]
          exact hBefore
        · exact fun hLt =>
            hBefore ((hParts.1 entry hRest).trans hLt)

/- The scan finds the entries whose terms begin with a text. -/
theorem startingWith_eq_filter
    (index : TermIndex)
    (start : String) :
    index.startingWith start =
      index.entries.filter (beginsWith start) := by
  have hSorted :
      (index.entries.dropWhile
        fun entry => entry.1 < start).Pairwise
          fun a b => a.1 < b.1 :=
    index.sorted.sublist (List.dropWhile_sublist _)
  calc index.startingWith start
      = (index.entries.dropWhile
          fun entry => entry.1 < start).filter
            (beginsWith start) :=
        takeWhile_beginsWith_eq_filter start hSorted
          (not_lt_of_mem_dropWhile start index.sorted)
    _ = index.entries.filter (beginsWith start) :=
        filter_beginsWith_dropWhile start index.entries

end SiteSearch.TermIndex
