import SiteSearch.Index.Terms
import SiteSearch.Proofs.Association
import Mathlib.Data.String.Basic

/-
  The occurrences that the term index lists.

  Each operation is described by what it does to
  `TermIndex.postings`, the occurrences of one term.  Adding
  appends one occurrence, inserting a record appends all of
  its own, and removing a slot filters the list.

  Main declarations:
    * `SiteSearch.TermIndex.postings_add`
    * `SiteSearch.TermIndex.postings_insert`
    * `SiteSearch.TermIndex.postings_removeSlot`
-/

------------------------------------------------------------
-- Lookup in Sorted Entries
------------------------------------------------------------

namespace SiteSearch

/-
  Adding an occurrence changes what is found for its term
  only.
-/
theorem lookup_addPosting
    (term other : String)
    (posting : Posting)
    (entries : List TermEntry)
    (hSorted : entries.Pairwise fun a b => a.1 < b.1) :
    (addPosting term posting entries).lookup other =
      if other = term then
        some ((entries.lookup term).getD [] ++ [posting])
      else entries.lookup other := by
  induction entries with
  | nil => simp [addPosting, lookup_cons_eq_ite]
  | cons head entries ih =>
      rcases head with ⟨name, postings⟩
      have hParts := List.pairwise_cons.mp hSorted
      unfold addPosting
      split
      · rename_i hBefore
        -- All entries lie behind the term, so none of them is its own.
        have hAbsent :
            ((name, postings) :: entries).lookup term = none := by
          apply lookup_eq_none_of_forall_ne
          intro entry hEntry
          rcases List.mem_cons.mp hEntry with hHead | hRest
          · rw [hHead]
            exact hBefore.ne'
          · exact (hBefore.trans (hParts.1 entry hRest)).ne'
        rw [hAbsent, lookup_cons_eq_ite]
        rfl
      · split
        · rename_i hAfter
          have hNe : term ≠ name := hAfter.ne'
          rw [lookup_cons_eq_ite, ih hParts.2]
          by_cases hTerm : other = term
          · subst hTerm
            simp [lookup_cons_eq_ite, hNe]
          · simp [lookup_cons_eq_ite, hTerm]
        · rename_i hNotBefore hNotAfter
          have hEq : term = name :=
            le_antisymm (not_lt.mp hNotAfter) (not_lt.mp hNotBefore)
          subst hEq
          by_cases hTerm : other = term
          · simp [hTerm]
          · simp [lookup_cons_eq_ite, hTerm]

/- The terms of sorted entries are different. -/
theorem nodup_terms_of_sorted
    {entries : List TermEntry}
    (hSorted : entries.Pairwise fun a b => a.1 < b.1) :
    (entries.map Prod.fst).Nodup := by
  rw [List.Nodup, List.pairwise_map]
  exact hSorted.imp fun hLess => hLess.ne

/- The occurrences outside a slot, if there are any. -/
def elsewhere?
    (slot : Nat)
    (postings : List Posting) :
    Option (List Posting) :=
  match postings.filter fun posting => posting.slot ≠ slot with
  | [] => none
  | first :: others => some (first :: others)

/- No occurrences at all stand for none outside the slot. -/
theorem getD_elsewhere?
    (slot : Nat)
    (postings : List Posting) :
    (elsewhere? slot postings).getD [] =
      postings.filter fun posting => posting.slot ≠ slot := by
  unfold elsewhere?
  cases postings.filter fun posting => posting.slot ≠ slot with
  | nil => rfl
  | cons first others => rfl

/-
  What is left of an entry are its occurrences outside the
  slot.
-/
theorem dropSlot?_eq_map
    (slot : Nat)
    (entry : TermEntry) :
    dropSlot? slot entry =
      (elsewhere? slot entry.2).map (entry.1, ·) := by
  unfold dropSlot? elsewhere?
  cases entry.2.filter fun posting => posting.slot ≠ slot with
  | nil => rfl
  | cons first others => rfl

/- Dropping a slot filters the occurrences of every term. -/
theorem lookup_filterMap_dropSlot?
    (slot : Nat)
    (term : String)
    {entries : List TermEntry}
    (hSorted : entries.Pairwise fun a b => a.1 < b.1) :
    ((entries.filterMap (dropSlot? slot)).lookup term).getD [] =
      ((entries.lookup term).getD []).filter
        fun posting => posting.slot ≠ slot := by
  have hDrop :
      entries.filterMap (dropSlot? slot) =
        entries.filterMap fun entry =>
          (elsewhere? slot entry.2).map (entry.1, ·) := by
    simp only [dropSlot?_eq_map]
  rw [hDrop, lookup_filterMap (fun _ => elsewhere? slot)
    (nodup_terms_of_sorted hSorted)]
  cases entries.lookup term with
  | none => rfl
  | some postings => exact getD_elsewhere? slot postings

end SiteSearch

------------------------------------------------------------
-- The Occurrences of One Term
------------------------------------------------------------

namespace SiteSearch.TermIndex

@[simp] theorem postings_empty
    (term : String) :
    empty.postings term = [] := rfl

/- An occurrence is added behind the others of its term. -/
theorem postings_add
    (index : TermIndex)
    (term other : String)
    (posting : Posting) :
    (index.add term posting).postings other =
      if other = term then index.postings term ++ [posting]
      else index.postings other := by
  unfold postings add
  rw [lookup_addPosting term other posting index.entries
    index.sorted]
  split <;> rfl

/- Occurrences are added in the order in which they come. -/
theorem postings_foldl_add
    (term : String)
    (occurrences : List (String × Posting))
    (index : TermIndex) :
    (occurrences.foldl
        (fun index occurrence =>
          index.add occurrence.1 occurrence.2)
        index).postings term =
      index.postings term ++
        (occurrences.filter fun occurrence =>
          occurrence.1 = term).map Prod.snd := by
  induction occurrences generalizing index with
  | nil => simp
  | cons occurrence occurrences ih =>
      rw [List.foldl_cons, ih, postings_add]
      by_cases hTerm : occurrence.1 = term
      · simp [hTerm]
      · simp [hTerm, Ne.symm hTerm]

/- A record adds its own occurrences of a term. -/
theorem postings_insert
    (index : TermIndex)
    (slot : Nat)
    (terms : RecordTerms)
    (term : String) :
    (index.insert slot terms).postings term =
      index.postings term ++
        ((terms.occurrences slot).filter fun occurrence =>
          occurrence.1 = term).map Prod.snd :=
  postings_foldl_add term (terms.occurrences slot) index

/- Removing a slot removes the occurrences in it. -/
theorem postings_removeSlot
    (index : TermIndex)
    (slot : Nat)
    (term : String) :
    (index.removeSlot slot).postings term =
      (index.postings term).filter
        fun posting => posting.slot ≠ slot :=
  lookup_filterMap_dropSlot? slot term index.sorted

/- An entry lists the occurrences of its term. -/
theorem postings_of_mem_entries
    (index : TermIndex)
    {entry : TermEntry}
    (hEntry : entry ∈ index.entries) :
    index.postings entry.1 = entry.2 := by
  unfold postings
  rw [(lookup_eq_some_iff_mem
    (nodup_terms_of_sorted index.sorted) entry.1 entry.2).mpr
      hEntry]
  rfl

/- A term that occurs has an entry. -/
theorem mem_entries_of_mem_postings
    (index : TermIndex)
    {term : String}
    {posting : Posting}
    (hPosting : posting ∈ index.postings term) :
    (term, index.postings term) ∈ index.entries := by
  unfold postings at hPosting ⊢
  cases hLookup : index.entries.lookup term with
  | none => simp [hLookup] at hPosting
  | some postings =>
      exact (lookup_eq_some_iff_mem
        (nodup_terms_of_sorted index.sorted) term postings).mp
          hLookup

end SiteSearch.TermIndex

------------------------------------------------------------
-- The Occurrences in One Record
------------------------------------------------------------

namespace SiteSearch

/- The terms of one field. -/
def RecordTerms.inField
    (terms : RecordTerms) :
    SearchedField → List String
  | .title => terms.title
  | .content => terms.content

/-
  An occurrence comes first by slot, title before content,
  and place.
-/
def Posting.Precedes
    (a b : Posting) :
    Prop :=
  a.slot < b.slot ∨
    a.slot = b.slot ∧
      (a.field = .title ∧ b.field = .content ∨
        a.field = b.field ∧ a.position < b.position)

/- A field lists each of its terms at its place. -/
theorem mem_fieldOccurrences_iff
    (slot : Nat)
    (field : SearchedField)
    (terms : List String)
    (term : String)
    (posting : Posting) :
    (term, posting) ∈ fieldOccurrences slot field terms ↔
      posting.slot = slot ∧ posting.field = field ∧
        terms[posting.position]? = some term := by
  rcases posting with ⟨otherSlot, otherField, position⟩
  unfold fieldOccurrences
  simp only [List.mem_map, Prod.mk.injEq, Posting.mk.injEq]
  constructor
  · rintro ⟨⟨_, _⟩, hMember, rfl, rfl, rfl, rfl⟩
    exact ⟨rfl, rfl, List.mk_mem_zipIdx_iff_getElem?.mp hMember⟩
  · rintro ⟨rfl, rfl, hTerm⟩
    exact ⟨(term, position),
      List.mk_mem_zipIdx_iff_getElem?.mpr hTerm, rfl, rfl, rfl, rfl⟩

/- A record lists each term of its fields at its place. -/
theorem RecordTerms.mem_occurrences_iff
    (terms : RecordTerms)
    (slot : Nat)
    (term : String)
    (posting : Posting) :
    (term, posting) ∈ terms.occurrences slot ↔
      posting.slot = slot ∧
        (terms.inField posting.field)[posting.position]? =
          some term := by
  rcases posting with ⟨otherSlot, field, position⟩
  unfold occurrences
  rw [List.mem_append, mem_fieldOccurrences_iff,
    mem_fieldOccurrences_iff]
  cases field <;> simp [inField]

/- A field lists its terms in the order of their places. -/
theorem pairwise_fieldOccurrences
    (slot : Nat)
    (field : SearchedField)
    (terms : List String) :
    (fieldOccurrences slot field terms).Pairwise
      fun a b => a.2.Precedes b.2 := by
  have hPlaces :
      terms.zipIdx.Pairwise fun a b => a.2 < b.2 := by
    rw [← List.pairwise_map (f := Prod.snd) (R := (· < ·)),
      List.zipIdx_map_snd]
    exact List.pairwise_lt_range'
  unfold fieldOccurrences
  rw [List.pairwise_map]
  exact hPlaces.imp fun hLess => Or.inr ⟨rfl, Or.inr ⟨rfl, hLess⟩⟩

/- A record lists its terms in the order of occurrences. -/
theorem RecordTerms.pairwise_occurrences
    (terms : RecordTerms)
    (slot : Nat) :
    (terms.occurrences slot).Pairwise
      fun a b => a.2.Precedes b.2 := by
  unfold occurrences
  rw [List.pairwise_append]
  refine ⟨pairwise_fieldOccurrences slot .title terms.title,
    pairwise_fieldOccurrences slot .content terms.content, ?_⟩
  rintro ⟨a, first⟩ hTitle ⟨b, second⟩ hContent
  have hFirst := (mem_fieldOccurrences_iff ..).mp hTitle
  have hSecond := (mem_fieldOccurrences_iff ..).mp hContent
  exact Or.inr ⟨hFirst.1.trans hSecond.1.symm,
    Or.inl ⟨hFirst.2.1, hSecond.2.1⟩⟩

end SiteSearch

------------------------------------------------------------
-- Inserting a Record
------------------------------------------------------------

namespace SiteSearch.TermIndex

/- Inserting a record adds the places of its terms. -/
theorem mem_postings_insert_iff
    (index : TermIndex)
    (slot : Nat)
    (terms : RecordTerms)
    (term : String)
    (posting : Posting) :
    posting ∈ (index.insert slot terms).postings term ↔
      posting ∈ index.postings term ∨
        posting.slot = slot ∧
          (terms.inField posting.field)[posting.position]? =
            some term := by
  rw [postings_insert, List.mem_append,
    ← terms.mem_occurrences_iff]
  simp

/-
  Inserting a record behind all others keeps the order of
  occurrences.
-/
theorem pairwise_postings_insert
    (index : TermIndex)
    (slot : Nat)
    (terms : RecordTerms)
    (term : String)
    (hOrdered : (index.postings term).Pairwise Posting.Precedes)
    (hBelow : ∀ posting ∈ index.postings term, posting.slot < slot) :
    ((index.insert slot terms).postings term).Pairwise
      Posting.Precedes := by
  rw [postings_insert, List.pairwise_append]
  refine ⟨hOrdered, ?_, ?_⟩
  · rw [List.pairwise_map]
    exact (terms.pairwise_occurrences slot).filter _
  · intro old hOld new hNew
    rcases List.mem_map.mp hNew with ⟨⟨_, posting⟩, hOccurrence, rfl⟩
    have hSlot :=
      ((terms.mem_occurrences_iff ..).mp
        (List.mem_filter.mp hOccurrence).1).1
    exact Or.inl (hSlot ▸ hBelow old hOld)

end SiteSearch.TermIndex

------------------------------------------------------------
-- Terms That Occur
------------------------------------------------------------

namespace SiteSearch.TermIndex

/- Every term that is listed occurs somewhere. -/
def EachOccurs
    (index : TermIndex) :
    Prop :=
  ∀ entry ∈ index.entries, entry.2 ≠ []

theorem eachOccurs_empty :
    empty.EachOccurs := by
  intro entry hEntry
  simp [empty] at hEntry

theorem EachOccurs.add
    {index : TermIndex}
    (hOccurs : index.EachOccurs)
    (term : String)
    (posting : Posting) :
    (index.add term posting).EachOccurs := by
  intro entry hEntry
  rw [← postings_of_mem_entries _ hEntry, postings_add]
  split
  · simp
  · rename_i hOther
    rcases eq_or_mem_of_mem_addPosting term posting index.entries
        hEntry with hTerm | ⟨old, hOld, hName⟩
    · exact absurd hTerm hOther
    · rw [← hName, postings_of_mem_entries index hOld]
      exact hOccurs old hOld

theorem EachOccurs.insert
    {index : TermIndex}
    (hOccurs : index.EachOccurs)
    (slot : Nat)
    (terms : RecordTerms) :
    (index.insert slot terms).EachOccurs := by
  unfold TermIndex.insert
  generalize terms.occurrences slot = occurrences
  induction occurrences generalizing index with
  | nil => exact hOccurs
  | cons occurrence occurrences ih =>
      exact ih (hOccurs.add occurrence.1 occurrence.2)

/- Removing a slot drops the terms that occur nowhere else. -/
theorem eachOccurs_removeSlot
    (index : TermIndex)
    (slot : Nat) :
    (index.removeSlot slot).EachOccurs := by
  intro left hLeft
  rcases List.mem_filterMap.mp hLeft with ⟨entry, -, hDrop⟩
  unfold dropSlot? at hDrop
  split at hDrop
  · simp at hDrop
  · rw [← Option.some.inj hDrop]
    simp

end SiteSearch.TermIndex
