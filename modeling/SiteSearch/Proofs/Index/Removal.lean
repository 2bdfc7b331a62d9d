import SiteSearch.Proofs.Index.Terms

/-
  Removing what was inserted.

  The term index is its lists of occurrences: as no term is
  listed without one, indexes with the same occurrences of
  every term are the same.  Removing a slot takes away what
  was inserted there and nothing else, so it does not matter
  whether a record was inserted and removed again, before,
  between or behind others that share its terms.

  Main declarations:
    * `SiteSearch.TermIndex.eq_of_postings`
    * `SiteSearch.TermIndex.removeSlot_insert_same`
    * `SiteSearch.TermIndex.removeSlot_insert_other`
    * `SiteSearch.TermIndex.removeSlot_foldl_insertAt`
    * `SiteSearch.TermIndex.removeSlot_comm`
    * `SiteSearch.TermIndex.removal_undoes_insertion`
-/

------------------------------------------------------------
-- The Same Occurrences
------------------------------------------------------------

namespace SiteSearch.TermIndex

/- An index has an entry for each term that occurs. -/
theorem EachOccurs.mem_entries_iff
    {index : TermIndex}
    (hOccurs : index.EachOccurs)
    (entry : TermEntry) :
    entry ∈ index.entries ↔
      index.postings entry.1 = entry.2 ∧ entry.2 ≠ [] := by
  constructor
  · intro hEntry
    exact ⟨postings_of_mem_entries index hEntry, hOccurs entry hEntry⟩
  · rintro ⟨hPostings, hSome⟩
    rw [← hPostings] at hSome
    rcases List.exists_mem_of_ne_nil _ hSome with ⟨posting, hPosting⟩
    have hMember := mem_entries_of_mem_postings index hPosting
    rwa [hPostings] at hMember

/-
  Indexes with the same occurrences of every term are the
  same.
-/
theorem eq_of_postings
    {a b : TermIndex}
    (hA : a.EachOccurs)
    (hB : b.EachOccurs)
    (hSame : ∀ term, a.postings term = b.postings term) :
    a = b := by
  -- Both lists have the same entries, and both are in ascending order.
  have hPerm : a.entries.Perm b.entries := by
    rw [List.perm_ext_iff_of_nodup
      (a.sorted.imp fun hLess => ne_of_apply_ne Prod.fst hLess.ne)
      (b.sorted.imp fun hLess => ne_of_apply_ne Prod.fst hLess.ne)]
    intro entry
    rw [hA.mem_entries_iff, hB.mem_entries_iff, hSame]
  have hEntries : a.entries = b.entries :=
    hPerm.eq_of_pairwise
      (fun first second _ _ hLess hGreater =>
        absurd hGreater (lt_asymm hLess))
      a.sorted b.sorted
  cases a
  cases b
  congr

end SiteSearch.TermIndex

------------------------------------------------------------
-- Removing and Inserting
------------------------------------------------------------

namespace SiteSearch.TermIndex

/- The occurrences that a record adds lie in its slot. -/
theorem filter_occurrences
    (terms : RecordTerms)
    (slot other : Nat)
    (term : String) :
    ((((terms.occurrences slot).filter fun occurrence =>
        occurrence.1 = term).map Prod.snd).filter
          fun posting => posting.slot ≠ other) =
      if slot = other then []
      else ((terms.occurrences slot).filter fun occurrence =>
        occurrence.1 = term).map Prod.snd := by
  have hSlot : ∀ posting ∈ ((terms.occurrences slot).filter
      fun occurrence => occurrence.1 = term).map Prod.snd,
        posting.slot = slot := by
    intro posting hPosting
    rcases List.mem_map.mp hPosting with ⟨⟨_, _⟩, hOccurrence, rfl⟩
    exact ((terms.mem_occurrences_iff ..).mp
      (List.mem_filter.mp hOccurrence).1).1
  split_ifs with hSame
  · rw [List.filter_eq_nil_iff]
    intro posting hPosting
    simp [hSlot posting hPosting, hSame]
  · rw [List.filter_eq_self]
    intro posting hPosting
    simp [hSlot posting hPosting, hSame]

/-
  Removing the slot of a record removes all that the record
  added.
-/
theorem removeSlot_insert_same
    (index : TermIndex)
    (slot : Nat)
    (terms : RecordTerms) :
    (index.insert slot terms).removeSlot slot =
      index.removeSlot slot := by
  apply eq_of_postings (eachOccurs_removeSlot _ _)
    (eachOccurs_removeSlot _ _)
  intro term
  rw [postings_removeSlot, postings_insert, List.filter_append,
    filter_occurrences, if_pos rfl, List.append_nil,
    postings_removeSlot]

/- Removing another slot leaves what the record added. -/
theorem removeSlot_insert_other
    (index : TermIndex)
    {slot other : Nat}
    (hOther : slot ≠ other)
    (terms : RecordTerms) :
    (index.insert slot terms).removeSlot other =
      (index.removeSlot other).insert slot terms := by
  apply eq_of_postings (eachOccurs_removeSlot _ _)
    ((eachOccurs_removeSlot index other).insert slot terms)
  intro term
  rw [postings_removeSlot, postings_insert, List.filter_append,
    filter_occurrences, if_neg hOther, postings_insert,
    postings_removeSlot]

/- Slots are removed in any order. -/
theorem removeSlot_comm
    (index : TermIndex)
    (first second : Nat) :
    (index.removeSlot first).removeSlot second =
      (index.removeSlot second).removeSlot first := by
  apply eq_of_postings (eachOccurs_removeSlot _ _)
    (eachOccurs_removeSlot _ _)
  intro term
  rw [postings_removeSlot, postings_removeSlot, postings_removeSlot,
    postings_removeSlot, List.filter_comm]

end SiteSearch.TermIndex

------------------------------------------------------------
-- Whole Histories
------------------------------------------------------------

namespace SiteSearch.TermIndex

/- Insert a record at its slot. -/
def insertAt
    (index : TermIndex)
    (record : Nat × RecordTerms) :
    TermIndex :=
  index.insert record.1 record.2

/- The index of some records, inserted one after the other. -/
def ofInserts
    (records : List (Nat × RecordTerms)) :
    TermIndex :=
  records.foldl insertAt empty

/- Removing a slot leaves what was inserted at others. -/
theorem removeSlot_foldl_insertAt
    (index : TermIndex)
    (records : List (Nat × RecordTerms))
    (slot : Nat) :
    (records.foldl insertAt index).removeSlot slot =
      (records.filter fun record => record.1 ≠ slot).foldl insertAt
        (index.removeSlot slot) := by
  induction records generalizing index with
  | nil => rfl
  | cons record records ih =>
      rw [List.foldl_cons, ih, insertAt]
      by_cases hSlot : record.1 = slot
      · rw [hSlot, removeSlot_insert_same,
          List.filter_cons_of_neg (by simpa using hSlot)]
      · rw [removeSlot_insert_other index hSlot,
          List.filter_cons_of_pos (by simpa using hSlot),
          List.foldl_cons,
          insertAt]

/- So the index is what the other records make. -/
theorem removeSlot_ofInserts
    (records : List (Nat × RecordTerms))
    (slot : Nat) :
    (ofInserts records).removeSlot slot =
      ofInserts (records.filter fun record => record.1 ≠ slot) :=
  removeSlot_foldl_insertAt empty records slot

/-
  Removing several slots leaves what was inserted at none of
  them.
-/
theorem foldl_removeSlot_ofInserts
    (records : List (Nat × RecordTerms))
    (slots : List Nat) :
    slots.foldl removeSlot (ofInserts records) =
      ofInserts (records.filter fun record => record.1 ∉ slots) := by
  induction slots generalizing records with
  | nil => simp
  | cons slot slots ih =>
      rw [List.foldl_cons, removeSlot_ofInserts, ih, List.filter_filter]
      congr 1
      apply List.filter_congr
      intro record _
      simp [Bool.and_comm]

/-
  Removing slots undoes their insertion, wherever it stood
  among others: the index is the one that all others make,
  with the same terms and the same occurrences in the same
  order.  It matters neither whether a slot had been used
  before nor in what order slots are removed.
-/
theorem removal_undoes_insertion
    (records : List (Nat × RecordTerms)) :
    (∀ slot,
        (ofInserts records).removeSlot slot =
          ofInserts (records.filter fun record => record.1 ≠ slot)) ∧
      (∀ slots : List Nat,
        slots.foldl removeSlot (ofInserts records) =
          ofInserts (records.filter fun record => record.1 ∉ slots)) ∧
      ∀ slots order : List Nat, order.Perm slots →
        order.foldl removeSlot (ofInserts records) =
          slots.foldl removeSlot (ofInserts records) := by
  refine ⟨removeSlot_ofInserts records,
    foldl_removeSlot_ofInserts records, ?_⟩
  intro slots order hPerm
  exact hPerm.foldl_eq' (fun first _ second _ index =>
    removeSlot_comm index first second) _

end SiteSearch.TermIndex
