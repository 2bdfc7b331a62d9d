import SiteSearch.Proofs.Distinct
import SiteSearch.Proofs.Index.Survivors

/-
  What an index says of its size.

  An index counts its records by their identifiers, their
  parents in the slots and their terms in the term index.  All
  of these count the survivors of what was added: a record
  that was replaced leaves no identifier, no parent and no
  term of its own behind.

  Main declarations:
    * `SiteSearch.mem_ids_survivors_iff`
    * `SiteSearch.SearchIndex.Represents.mem_parents_iff`
    * `SiteSearch.SearchIndex.Represents.mem_terms_iff`
    * `SiteSearch.SearchIndex.Counts`
    * `SiteSearch.SearchIndex.counts_survivors`
-/

------------------------------------------------------------
-- Identifiers, Parents and Terms of Records
------------------------------------------------------------

namespace SiteSearch

/- Some record survives under each identifier that was added. -/
theorem mem_ids_survivors_iff
    (history : List Record)
    (id : RecordId) :
    id ∈ (survivors history).map Record.id ↔
      id ∈ history.map Record.id := by
  induction history with
  | nil => exact Iff.rfl
  | cons record later ih =>
      unfold survivors
      split
      · rename_i hReplaced
        rw [ih, List.map_cons, List.mem_cons]
        simp only [List.any_eq_true, decide_eq_true_eq] at hReplaced
        rcases hReplaced with ⟨other, hOther, hId⟩
        constructor
        · exact Or.inr
        · rintro (rfl | hLater)
          · exact List.mem_map.mpr ⟨other, hOther, hId⟩
          · exact hLater
      · rw [List.map_cons, List.mem_cons, ih, List.map_cons,
          List.mem_cons]

/-
  The words of a record: the terms of its title and its
  content.
-/
def Record.words
    (record : Record) :
    List String :=
  Text.terms record.title ++ Text.terms record.content

/- They are the terms of its fields. -/
theorem Record.mem_words_iff
    (record : Record)
    (term : String) :
    term ∈ record.words ↔ ∃ field, term ∈ record.fieldTerms field := by
  have hTitle : record.fieldTerms .title = Text.terms record.title := by
    unfold Record.fieldTerms
    rfl
  have hContent :
      record.fieldTerms .content = Text.terms record.content := by
    unfold Record.fieldTerms
    rfl
  unfold Record.words
  rw [List.mem_append, ← hTitle, ← hContent]
  constructor
  · rintro (hMember | hMember)
    · exact ⟨.title, hMember⟩
    · exact ⟨.content, hMember⟩
  · rintro ⟨field, hMember⟩
    cases field with
    | title => exact Or.inl hMember
    | content => exact Or.inr hMember

end SiteSearch

------------------------------------------------------------
-- What an Index Lists
------------------------------------------------------------

namespace SiteSearch.SearchIndex.Represents

variable {index : SearchIndex}
variable {history : List Record}
variable (hIndex : index.Represents history)

include hIndex

/-
  The identifiers that lead to a slot are those that were
  added.
-/
theorem mem_ids_iff
    (id : RecordId) :
    id ∈ index.slots.map Prod.fst ↔ id ∈ history.map Record.id := by
  rw [← mem_ids_survivors_iff, (hIndex.slots_perm.map Prod.fst).mem_iff,
    ← map_snd_latestFrom 0, List.map_map, List.map_map]
  rfl

/- What stands in some slot is kept of a survivor. -/
theorem mem_records_iff
    (stored : Stored) :
    some stored ∈ index.records.toList ↔
      ∃ record ∈ survivors history, record.stored = stored := by
  have hSlot : some stored ∈ index.records.toList ↔
      ∃ slot, index.stored? slot = some stored := by
    simp only [List.mem_iff_getElem?, stored?, Array.getElem?_toList,
      Option.join_eq_some_iff]
  rw [hSlot]
  simp only [hIndex.stored, mem_survivors_iff]
  constructor
  · rintro ⟨slot, record, hLatest, rfl⟩
    exact ⟨record, ⟨slot, hLatest⟩, rfl⟩
  · rintro ⟨record, ⟨slot, hLatest⟩, rfl⟩
    exact ⟨slot, record, hLatest, rfl⟩

/- So the parents in the slots are those of survivors. -/
theorem mem_parents_iff
    (parent : Option String) :
    parent ∈ index.records.toList.filterMap
        (fun stored => stored.map (·.parent)) ↔
      parent ∈ (survivors history).map Record.parent := by
  rw [List.mem_filterMap, List.mem_map]
  constructor
  · rintro ⟨slot, hSlot, hParent⟩
    rcases Option.map_eq_some_iff.mp hParent with ⟨stored, rfl, rfl⟩
    rcases (hIndex.mem_records_iff stored).mp hSlot with
      ⟨record, hSurvives, rfl⟩
    exact ⟨record, hSurvives, rfl⟩
  · rintro ⟨record, hSurvives, rfl⟩
    exact ⟨some record.stored,
      (hIndex.mem_records_iff _).mpr ⟨record, hSurvives, rfl⟩, rfl⟩

/- A term is listed if a survivor has it. -/
theorem mem_terms_iff
    (term : String) :
    term ∈ index.terms.entries.map Prod.fst ↔
      term ∈ (survivors history).flatMap Record.words := by
  simp only [List.mem_map, List.mem_flatMap, Record.mem_words_iff,
    mem_survivors_iff]
  constructor
  · rintro ⟨entry, hEntry, rfl⟩
    rcases List.exists_mem_of_ne_nil _ (hIndex.occurs entry hEntry) with
      ⟨posting, hPosting⟩
    rw [← index.terms.postings_of_mem_entries hEntry,
      hIndex.postings] at hPosting
    rcases hPosting with ⟨record, hLatest, hTerm⟩
    exact ⟨record, ⟨_, hLatest⟩, _, List.mem_of_getElem? hTerm⟩
  · rintro ⟨record, ⟨slot, hLatest⟩, field, hTerm⟩
    rcases List.mem_iff_getElem?.mp hTerm with ⟨position, hPlace⟩
    have hPosting :
        (⟨slot, field, position⟩ : Posting) ∈
          index.terms.postings term :=
      (hIndex.postings ..).mpr ⟨record, hLatest, hPlace⟩
    exact ⟨_, index.terms.mem_entries_of_mem_postings hPosting, rfl⟩

end SiteSearch.SearchIndex.Represents

------------------------------------------------------------
-- Counting
------------------------------------------------------------

namespace SiteSearch.SearchIndex

/-
  The numbers that an index gives are those of the records
  that were added in this order.  Having no parent is a parent
  of its own here, which no text is.
-/
structure Counts
    (index : SearchIndex)
    (history : List Record) :
    Prop where
  /- As many records as identifiers were added. -/
  size_eq :
    index.size = (history.map Record.id).toFinset.card
  /- There are none only if nothing was added. -/
  isEmpty_iff :
    index.isEmpty = true ↔ history = []
  /- An identifier is known if a record with it was added. -/
  contains_iff : ∀ id,
    index.contains id = true ↔ id ∈ history.map Record.id
  /- As many parents as the survivors have. -/
  parentCount_eq :
    index.parentCount =
      ((survivors history).map Record.parent).toFinset.card
  /- As many terms as the survivors have. -/
  termCount_eq :
    index.termCount =
      ((survivors history).flatMap Record.words).toFinset.card

/- The invariant gives an index the right numbers. -/
theorem Represents.counts
    {index : SearchIndex}
    {history : List Record}
    (hIndex : index.Represents history) :
    index.Counts history where
  size_eq := by
    rw [SearchIndex.size, ← List.length_map Prod.fst]
    exact length_eq_card hIndex.ids hIndex.mem_ids_iff
  isEmpty_iff := by
    have hNone :
        index.slots.map Prod.fst = [] ↔ history.map Record.id = [] := by
      simp only [List.eq_nil_iff_forall_not_mem, hIndex.mem_ids_iff]
    rw [List.map_eq_nil_iff, List.map_eq_nil_iff] at hNone
    rw [SearchIndex.isEmpty, List.isEmpty_iff, hNone]
  contains_iff := by
    intro id
    rw [contains, ← hIndex.mem_ids_iff, Option.isSome_iff_exists,
      List.mem_map]
    simp only [slot?, lookup_eq_some_iff_mem hIndex.ids]
    constructor
    · rintro ⟨slot, hSlot⟩
      exact ⟨(id, slot), hSlot, rfl⟩
    · rintro ⟨⟨_, slot⟩, hSlot, rfl⟩
      exact ⟨slot, hSlot⟩
  parentCount_eq := by
    refine length_eq_card (nodup_eraseDups _) fun parent => ?_
    rw [List.mem_eraseDups, hIndex.mem_parents_iff]
  termCount_eq := by
    rw [termCount, TermIndex.size, ← List.length_map Prod.fst]
    exact length_eq_card (nodup_terms_of_sorted index.terms.sorted)
      hIndex.mem_terms_iff

/-
  However often identifiers are repeated, an index that was
  built from some records and then added to counts exactly the
  records that survive.
-/
theorem counts_survivors
    (records added : List Record) :
    (added.foldl SearchIndex.add (ofRecords records)).Counts
      (records ++ added) :=
  ((represents_ofRecords records).foldl_add added).counts

end SiteSearch.SearchIndex
