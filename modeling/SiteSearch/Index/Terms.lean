import SiteSearch.Score
import SiteSearch.Text.Terms
import SiteSearch.Record

/-
  Terms and where they occur.

  Key definitions include:
    * `SiteSearch.Posting`
    * `SiteSearch.RecordTerms`
    * `SiteSearch.TermIndex`
    * `SiteSearch.TermIndex.insert`
    * `SiteSearch.TermIndex.removeSlot`
    * `SiteSearch.TermIndex.startingWith`

  The term index lists every term with its occurrences, in
  ascending order of the terms.  The terms that begin with a
  given text stand side by side, the text itself first, so
  one scan that starts there and stops at the first other
  term finds them all.
-/

------------------------------------------------------------
-- Occurrences
------------------------------------------------------------

namespace SiteSearch

/-
  One occurrence of a term: the record, the field and the
  place in it.
-/
structure Posting where
  slot : Nat
  field : SearchedField
  position : Nat
deriving DecidableEq, Repr

/- The terms of a record, field by field. -/
structure RecordTerms where
  title : List String
  content : List String
deriving DecidableEq, Repr

/- The terms of a record. -/
def RecordTerms.ofRecord
    (record : Record) :
    RecordTerms :=
  ⟨Text.terms record.title, Text.terms record.content⟩

/- The terms of one field with their places in it. -/
def fieldOccurrences
    (slot : Nat)
    (field : SearchedField)
    (terms : List String) :
    List (String × Posting) :=
  terms.zipIdx.map fun (term, position) =>
    (term, ⟨slot, field, position⟩)

/- The terms of a record with their places, title first. -/
def RecordTerms.occurrences
    (terms : RecordTerms)
    (slot : Nat) :
    List (String × Posting) :=
  fieldOccurrences slot .title terms.title ++
    fieldOccurrences slot .content terms.content

end SiteSearch

------------------------------------------------------------
-- Sorted Entries
------------------------------------------------------------

namespace SiteSearch

/- A term with its occurrences. -/
abbrev TermEntry := String × List Posting

/- Add an occurrence behind those of the same term. -/
def addPosting
    (term : String)
    (posting : Posting) :
    List TermEntry → List TermEntry
  | [] => [(term, [posting])]
  | (other, postings) :: entries =>
      if term < other then
        (term, [posting]) :: (other, postings) :: entries
      else if other < term then
        (other, postings) :: addPosting term posting entries
      else (other, postings ++ [posting]) :: entries

/-
  The terms of the entries, and the one added, are the terms
  afterwards.
-/
theorem eq_or_mem_of_mem_addPosting
    (term : String)
    (posting : Posting)
    (entries : List TermEntry)
    {entry : TermEntry}
    (hMember : entry ∈ addPosting term posting entries) :
    entry.1 = term ∨ ∃ old ∈ entries, old.1 = entry.1 := by
  induction entries with
  | nil =>
      simp only [addPosting, List.mem_singleton] at hMember
      exact Or.inl (by rw [hMember])
  | cons head entries ih =>
      obtain ⟨other, postings⟩ := head
      unfold addPosting at hMember
      split at hMember
      · rcases List.mem_cons.mp hMember with hNew | hOld
        · exact Or.inl (by rw [hNew])
        · exact Or.inr ⟨entry, hOld, rfl⟩
      · split at hMember
        · rcases List.mem_cons.mp hMember with hHead | hRest
          · exact Or.inr ⟨_, List.mem_cons_self, by rw [hHead]⟩
          · rcases ih hRest with hTerm | ⟨old, hOld, hEq⟩
            · exact Or.inl hTerm
            · exact Or.inr ⟨old, List.mem_cons_of_mem _ hOld, hEq⟩
        · rcases List.mem_cons.mp hMember with hHead | hRest
          · exact Or.inr ⟨_, List.mem_cons_self, by rw [hHead]⟩
          · exact Or.inr ⟨entry, List.mem_cons_of_mem _ hRest, rfl⟩

/- Entries in ascending order of their terms stay so. -/
theorem pairwise_addPosting
    (term : String)
    (posting : Posting)
    (entries : List TermEntry)
    (hSorted : entries.Pairwise fun a b => a.1 < b.1) :
    (addPosting term posting entries).Pairwise
      fun a b => a.1 < b.1 := by
  induction entries with
  | nil => simp [addPosting]
  | cons head entries ih =>
      obtain ⟨other, postings⟩ := head
      have hParts := List.pairwise_cons.mp hSorted
      unfold addPosting
      split
      · rename_i hBefore
        refine List.pairwise_cons.mpr ⟨?_, hSorted⟩
        intro entry hEntry
        rcases List.mem_cons.mp hEntry with hHead | hRest
        · rw [hHead]
          exact hBefore
        · exact String.lt_trans hBefore (hParts.1 entry hRest)
      · split
        · rename_i hAfter
          refine List.pairwise_cons.mpr ⟨?_, ih hParts.2⟩
          intro entry hEntry
          rcases eq_or_mem_of_mem_addPosting term posting entries
              hEntry with
            hTerm | ⟨old, hOld, hEq⟩
          · rw [hTerm]
            exact hAfter
          · rw [← hEq]
            exact hParts.1 old hOld
        · exact List.pairwise_cons.mpr ⟨hParts.1, hParts.2⟩

/-
  What is left of an entry without the occurrences in a
  slot, if anything.
-/
def dropSlot?
    (slot : Nat)
    (entry : TermEntry) :
    Option TermEntry :=
  match entry.2.filter fun posting => posting.slot ≠ slot with
  | [] => none
  | posting :: postings => some (entry.1, posting :: postings)

/- What is left of an entry has its term. -/
theorem fst_of_dropSlot?
    {slot : Nat}
    {entry left : TermEntry}
    (hLeft : dropSlot? slot entry = some left) :
    left.1 = entry.1 := by
  unfold dropSlot? at hLeft
  split at hLeft
  · simp at hLeft
  · simp only [Option.some.injEq] at hLeft
    rw [← hLeft]

end SiteSearch

------------------------------------------------------------
-- The Term Index
------------------------------------------------------------

namespace SiteSearch

/-
  Terms with their occurrences, in ascending order of the
  terms.
-/
structure TermIndex where
  entries : List TermEntry
  sorted : entries.Pairwise fun a b => a.1 < b.1

namespace TermIndex

/- No terms. -/
def empty : TermIndex where
  entries := []
  sorted := List.Pairwise.nil

/- Add one occurrence of a term. -/
def add
    (index : TermIndex)
    (term : String)
    (posting : Posting) :
    TermIndex where
  entries := addPosting term posting index.entries
  sorted :=
    pairwise_addPosting term posting index.entries index.sorted

/- Add all terms of a record under its slot. -/
def insert
    (index : TermIndex)
    (slot : Nat)
    (terms : RecordTerms) :
    TermIndex :=
  (terms.occurrences slot).foldl
    (fun index occurrence => index.add occurrence.1 occurrence.2)
    index

/-
  Drop every occurrence in a slot, and the terms that occur
  nowhere else.
-/
def removeSlot
    (index : TermIndex)
    (slot : Nat) :
    TermIndex where
  entries := index.entries.filterMap (dropSlot? slot)
  sorted := by
    refine List.Pairwise.filterMap (dropSlot? slot) ?_ index.sorted
    intro a b hLess a' hA b' hB
    rw [fst_of_dropSlot? hA, fst_of_dropSlot? hB]
    exact hLess

/-
  The entries whose terms begin with a text, in ascending
  order.
-/
def startingWith
    (index : TermIndex)
    (start : String) :
    List TermEntry :=
  (index.entries.dropWhile fun entry => entry.1 < start).takeWhile
    fun entry => start.toList.isPrefixOf entry.1.toList

/- How many different terms there are. -/
def size
    (index : TermIndex) :
    Nat :=
  index.entries.length

/- The occurrences of one term. -/
def postings
    (index : TermIndex)
    (term : String) :
    List Posting :=
  (index.entries.lookup term).getD []

end TermIndex

end SiteSearch
