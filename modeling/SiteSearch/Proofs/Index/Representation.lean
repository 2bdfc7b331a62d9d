import SiteSearch.Index
import SiteSearch.Proofs.Index.Terms

/-
  What an index holds after a history of additions.

  The index keeps records by slot, slots by identifier and
  occurrences by term.  `SearchIndex.Represents` says what the
  three hold together in terms of the records added so far:
  the slot of a record is its place in the history, and only
  the latest record of an identifier is left.  Every addition
  keeps this, so it holds after every history.

  Main declarations:
    * `SiteSearch.IsLatest`
    * `SiteSearch.SearchIndex.Represents`
    * `SiteSearch.SearchIndex.Represents.add`
    * `SiteSearch.SearchIndex.Consistent`
    * `SiteSearch.SearchIndex.consistent_after_additions`
-/

------------------------------------------------------------
-- Latest Records
------------------------------------------------------------

namespace SiteSearch

/- The terms of one field of a record. -/
@[irreducible] def Record.fieldTerms
    (record : Record)
    (field : SearchedField) :
    List String :=
  (RecordTerms.ofRecord record).inField field

/- What an index keeps of a record. -/
def Record.stored
    (record : Record) :
    Stored :=
  Stored.ofRecord record (RecordTerms.ofRecord record)

@[simp] theorem Record.id_stored
    (record : Record) :
    record.stored.id = record.id := rfl

/- The length kept for a field is the number of its terms. -/
theorem Record.fieldLength_stored
    (record : Record)
    (field : SearchedField) :
    record.stored.fieldLength field =
      (record.fieldTerms field).length := by
  unfold Record.stored Record.fieldTerms
  generalize RecordTerms.ofRecord record = terms
  cases field <;> rfl

/-
  The record at a place of a history is the latest one of its
  identifier.
-/
def IsLatest
    (history : List Record)
    (slot : Nat)
    (record : Record) :
    Prop :=
  history[slot]? = some record ∧
    ∀ other later,
      slot < other → history[other]? = some later →
        later.id ≠ record.id

/- A place holds at most one record. -/
theorem IsLatest.record_unique
    {history : List Record}
    {slot : Nat}
    {record other : Record}
    (hRecord : IsLatest history slot record)
    (hOther : IsLatest history slot other) :
    record = other :=
  Option.some.inj (hRecord.1.symm.trans hOther.1)

/-
  A record added to a history is the latest one; of the others
  those with another identifier stay so.
-/
theorem isLatest_append_singleton_iff
    (history : List Record)
    (added : Record)
    (slot : Nat)
    (record : Record) :
    IsLatest (history ++ [added]) slot record ↔
      slot = history.length ∧ record = added ∨
        IsLatest history slot record ∧ record.id ≠ added.id := by
  constructor
  · rintro ⟨hPlace, hLast⟩
    rcases Nat.lt_or_ge slot history.length with hOld | hNew
    · rw [List.getElem?_append_left hOld] at hPlace
      refine Or.inr ⟨⟨hPlace, ?_⟩, ?_⟩
      · intro other later hBehind hLater
        apply hLast other later hBehind
        rw [List.getElem?_append_left
          (List.getElem?_eq_some_iff.mp hLater).1]
        exact hLater
      · exact (hLast history.length added hOld (by simp)).symm
    · rw [List.getElem?_append_right hNew] at hPlace
      have hBound := (List.getElem?_eq_some_iff.mp hPlace).1
      have hSlot : slot = history.length := by
        simp only [List.length_singleton] at hBound
        omega
      subst hSlot
      simp only [Nat.sub_self, List.getElem?_cons_zero,
        Option.some.injEq] at hPlace
      exact Or.inl ⟨rfl, hPlace.symm⟩
  · rintro (⟨rfl, rfl⟩ | ⟨⟨hPlace, hLast⟩, hId⟩)
    · refine ⟨by simp, ?_⟩
      intro other later hBehind hLater
      have hBound := (List.getElem?_eq_some_iff.mp hLater).1
      simp only [List.length_append, List.length_singleton] at hBound
      omega
    · have hOld := (List.getElem?_eq_some_iff.mp hPlace).1
      refine ⟨by rwa [List.getElem?_append_left hOld], ?_⟩
      intro other later hBehind hLater
      rcases Nat.lt_or_ge other history.length with hIn | hOut
      · rw [List.getElem?_append_left hIn] at hLater
        exact hLast other later hBehind hLater
      · rw [List.getElem?_append_right hOut] at hLater
        have hMember := List.mem_of_getElem? hLater
        rw [List.mem_singleton.mp hMember]
        exact hId.symm

end SiteSearch

------------------------------------------------------------
-- Removing
------------------------------------------------------------

namespace SiteSearch.SearchIndex

variable (index : SearchIndex)

@[simp] theorem size_records_remove
    (id : RecordId) :
    (index.remove id).records.size = index.records.size := by
  unfold remove
  split <;> simp

/- The slot of the identifier is emptied. -/
theorem stored?_remove
    (id : RecordId)
    (slot : Nat) :
    (index.remove id).stored? slot =
      if index.slot? id = some slot then none
      else index.stored? slot := by
  unfold remove
  split
  · rename_i hNone
    simp [hNone]
  · rename_i old hOld
    rw [hOld]
    unfold stored?
    rw [Array.getElem?_setIfInBounds]
    by_cases hSlot : old = slot
    · subst hSlot
      by_cases hBound : old < index.records.size
      · simp [hBound]
      · simp [hBound]
    · simp [hSlot]

/- The identifier loses its slot. -/
theorem mem_slots_remove_iff
    (id other : RecordId)
    (slot : Nat) :
    (other, slot) ∈ (index.remove id).slots ↔
      (other, slot) ∈ index.slots ∧ other ≠ id := by
  unfold remove
  split
  · rename_i hNone
    have hAbsent := List.lookup_eq_none_iff.mp hNone
    constructor
    · intro hMember
      refine ⟨hMember, ?_⟩
      rintro rfl
      simpa using hAbsent _ hMember
    · exact fun hMember => hMember.1
  · simp

/- No identifier gains a slot. -/
theorem slots_remove_sublist
    (id : RecordId) :
    (index.remove id).slots.Sublist index.slots := by
  unfold remove
  split
  · exact List.Sublist.refl _
  · exact List.filter_sublist

/- Terms lose their occurrences in the slot. -/
theorem mem_postings_remove_iff
    (id : RecordId)
    (term : String)
    (posting : Posting) :
    posting ∈ (index.remove id).terms.postings term ↔
      posting ∈ index.terms.postings term ∧
        index.slot? id ≠ some posting.slot := by
  unfold remove
  split
  · rename_i hNone
    simp [hNone]
  · rename_i slot hSlot
    rw [hSlot, TermIndex.postings_removeSlot, List.mem_filter]
    simp only [ne_eq, decide_not, Bool.not_eq_eq_eq_not,
      Bool.not_true, decide_eq_false_iff_not, Option.some.injEq]
    rw [eq_comm (a := slot)]

/- Terms keep the order of their occurrences. -/
theorem postings_remove_sublist
    (id : RecordId)
    (term : String) :
    ((index.remove id).terms.postings term).Sublist
      (index.terms.postings term) := by
  unfold remove
  split
  · exact List.Sublist.refl _
  · rw [TermIndex.postings_removeSlot]
    exact List.filter_sublist

/- Terms that occur nowhere else are dropped. -/
theorem eachOccurs_remove
    (id : RecordId)
    (hOccurs : index.terms.EachOccurs) :
    (index.remove id).terms.EachOccurs := by
  unfold remove
  split
  · exact hOccurs
  · exact TermIndex.eachOccurs_removeSlot _ _

end SiteSearch.SearchIndex

------------------------------------------------------------
-- Appending
------------------------------------------------------------

namespace SiteSearch.SearchIndex

variable (index : SearchIndex)
variable (record : Record)
variable (terms : RecordTerms)

@[simp] theorem terms_append :
    (index.append record terms).terms =
      index.terms.insert index.records.size terms := rfl

/- The new record is stored behind the others. -/
theorem stored?_append
    (slot : Nat) :
    (index.append record terms).stored? slot =
      if slot = index.records.size then
        some (Stored.ofRecord record terms)
      else index.stored? slot := by
  unfold append stored?
  rw [Array.getElem?_push]
  split <;> rfl

end SiteSearch.SearchIndex

------------------------------------------------------------
-- The Invariant
------------------------------------------------------------

namespace SiteSearch.SearchIndex

/-
  What an index holds after a history of additions: the latest
  record of each identifier at its place in the history, the
  place under the identifier, and its terms.
-/
structure Represents
    (index : SearchIndex)
    (history : List Record) :
    Prop where
  size : index.records.size = history.length
  stored : ∀ slot stored,
    index.stored? slot = some stored ↔
      ∃ record, IsLatest history slot record ∧
        stored = record.stored
  slots : ∀ id slot,
    (id, slot) ∈ index.slots ↔
      ∃ record, IsLatest history slot record ∧ record.id = id
  ids : (index.slots.map Prod.fst).Nodup
  postings : ∀ term posting,
    posting ∈ index.terms.postings term ↔
      ∃ record, IsLatest history posting.slot record ∧
        (record.fieldTerms posting.field)[posting.position]? =
          some term
  ordered : ∀ term,
    (index.terms.postings term).Pairwise Posting.Precedes
  occurs : index.terms.EachOccurs

namespace Represents

variable {index : SearchIndex}
variable {history : List Record}

/- The slot of an identifier is the place of its latest record. -/
theorem slot?_eq_some_iff
    (hIndex : index.Represents history)
    (id : RecordId)
    (slot : Nat) :
    index.slot? id = some slot ↔
      ∃ record, IsLatest history slot record ∧ record.id = id :=
  (lookup_eq_some_iff_mem hIndex.ids id slot).trans
    (hIndex.slots id slot)

/- Of the latest records only that of the identifier goes. -/
theorem slot?_ne_some_iff
    (hIndex : index.Represents history)
    (id : RecordId)
    {slot : Nat}
    {record : Record}
    (hLatest : IsLatest history slot record) :
    index.slot? id ≠ some slot ↔ record.id ≠ id := by
  rw [ne_eq, hIndex.slot?_eq_some_iff, not_iff_not]
  constructor
  · rintro ⟨other, hOther, rfl⟩
    rw [hLatest.record_unique hOther]
  · rintro rfl
    exact ⟨record, hLatest, rfl⟩

/- A place that holds a record is inside the index. -/
theorem slot_lt_size
    (hIndex : index.Represents history)
    {slot : Nat}
    {record : Record}
    (hLatest : IsLatest history slot record) :
    slot < index.records.size := by
  rw [hIndex.size]
  exact (List.getElem?_eq_some_iff.mp hLatest.1).1

/- Nothing is stored before anything was added. -/
theorem empty :
    SearchIndex.empty.Represents [] where
  size := rfl
  stored := by simp [SearchIndex.empty, stored?, IsLatest]
  slots := by simp [SearchIndex.empty, IsLatest]
  ids := List.nodup_nil
  postings := by simp [SearchIndex.empty, IsLatest]
  ordered := by simp [SearchIndex.empty]
  occurs := TermIndex.eachOccurs_empty

end Represents

end SiteSearch.SearchIndex

------------------------------------------------------------
-- One Addition
------------------------------------------------------------

namespace SiteSearch.SearchIndex.Represents

variable {index : SearchIndex}
variable {history : List Record}
variable (hIndex : index.Represents history)
variable (added : Record)

include hIndex

/-
  Every place is taken over or emptied, and the next one
  filled.
-/
theorem stored?_add
    (slot : Nat)
    (stored : Stored) :
    (index.add added).stored? slot = some stored ↔
      ∃ record, IsLatest (history ++ [added]) slot record ∧
        stored = record.stored := by
  unfold SearchIndex.add
  rw [stored?_append, size_records_remove, hIndex.size,
    stored?_remove]
  simp only [isLatest_append_singleton_iff]
  by_cases hNew : slot = history.length
  · subst hNew
    have hOut : ∀ record, ¬ IsLatest history history.length record := by
      intro record hLatest
      have hBound := hIndex.slot_lt_size hLatest
      rw [hIndex.size] at hBound
      exact absurd hBound (Nat.lt_irrefl _)
    simp only [if_true, Option.some.injEq, hOut, false_and, or_false,
      true_and, exists_eq_left]
    exact eq_comm
  · simp only [hNew, if_false, false_and, false_or]
    constructor
    · intro hStored
      split at hStored
      · simp at hStored
      · rename_i hKept
        rcases (hIndex.stored slot stored).mp hStored with
          ⟨record, hLatest, rfl⟩
        exact ⟨record, ⟨hLatest,
          (hIndex.slot?_ne_some_iff added.id hLatest).mp hKept⟩, rfl⟩
    · rintro ⟨record, ⟨hLatest, hId⟩, rfl⟩
      rw [if_neg ((hIndex.slot?_ne_some_iff added.id hLatest).mpr hId)]
      exact (hIndex.stored slot record.stored).mpr
        ⟨record, hLatest, rfl⟩

/- The identifier moves to the next slot. -/
theorem mem_slots_add
    (id : RecordId)
    (slot : Nat) :
    (id, slot) ∈ (index.add added).slots ↔
      ∃ record, IsLatest (history ++ [added]) slot record ∧
        record.id = id := by
  unfold SearchIndex.add append
  simp only [List.mem_cons, Prod.mk.injEq, size_records_remove,
    hIndex.size, mem_slots_remove_iff, hIndex.slots,
    isLatest_append_singleton_iff]
  constructor
  · rintro (⟨rfl, rfl⟩ | ⟨⟨record, hLatest, rfl⟩, hId⟩)
    · exact ⟨added, Or.inl ⟨rfl, rfl⟩, rfl⟩
    · exact ⟨record, Or.inr ⟨hLatest, hId⟩, rfl⟩
  · rintro ⟨record, ⟨rfl, rfl⟩ | ⟨hLatest, hId⟩, rfl⟩
    · exact Or.inl ⟨rfl, rfl⟩
    · exact Or.inr ⟨⟨record, hLatest, rfl⟩, hId⟩

/- No identifier has two slots. -/
theorem nodup_ids_add :
    ((index.add added).slots.map Prod.fst).Nodup := by
  unfold SearchIndex.add append
  rw [List.map_cons, List.nodup_cons]
  constructor
  · intro hMember
    rcases List.mem_map.mp hMember with ⟨⟨id, slot⟩, hSlot, rfl⟩
    exact ((mem_slots_remove_iff index _ _ _).mp hSlot).2 rfl
  · exact hIndex.ids.sublist
      ((slots_remove_sublist index added.id).map Prod.fst)

/- Terms occur in the latest records. -/
theorem mem_postings_add
    (term : String)
    (posting : Posting) :
    posting ∈ (index.add added).terms.postings term ↔
      ∃ record,
        IsLatest (history ++ [added]) posting.slot record ∧
          (record.fieldTerms posting.field)[posting.position]? =
            some term := by
  unfold SearchIndex.add append
  simp only [TermIndex.mem_postings_insert_iff,
    mem_postings_remove_iff, hIndex.postings, size_records_remove,
    hIndex.size, isLatest_append_singleton_iff, Record.fieldTerms]
  constructor
  · rintro (⟨⟨record, hLatest, hTerm⟩, hKept⟩ | ⟨hSlot, hTerm⟩)
    · exact ⟨record, Or.inr ⟨hLatest,
        (hIndex.slot?_ne_some_iff added.id hLatest).mp hKept⟩, hTerm⟩
    · exact ⟨added, Or.inl ⟨hSlot, rfl⟩, hTerm⟩
  · rintro ⟨record, ⟨hSlot, rfl⟩ | ⟨hLatest, hId⟩, hTerm⟩
    · exact Or.inr ⟨hSlot, hTerm⟩
    · exact Or.inl ⟨⟨record, hLatest, hTerm⟩,
        (hIndex.slot?_ne_some_iff added.id hLatest).mpr hId⟩

/- New occurrences come behind the old ones. -/
theorem pairwise_postings_add
    (term : String) :
    ((index.add added).terms.postings term).Pairwise
      Posting.Precedes := by
  unfold SearchIndex.add append
  apply TermIndex.pairwise_postings_insert
  · exact (hIndex.ordered term).sublist
      (postings_remove_sublist index added.id term)
  · intro posting hPosting
    have hOld :=
      ((mem_postings_remove_iff index _ _ _).mp hPosting).1
    rcases (hIndex.postings term posting).mp hOld with
      ⟨record, hLatest, -⟩
    rw [size_records_remove]
    exact hIndex.slot_lt_size hLatest

/- An addition keeps the invariant. -/
theorem add :
    (index.add added).Represents (history ++ [added]) where
  size := by
    unfold SearchIndex.add append
    simp [hIndex.size]
  stored := hIndex.stored?_add added
  slots := hIndex.mem_slots_add added
  ids := hIndex.nodup_ids_add added
  postings := hIndex.mem_postings_add added
  ordered := hIndex.pairwise_postings_add added
  occurs := by
    unfold SearchIndex.add
    rw [terms_append]
    exact (eachOccurs_remove index added.id hIndex.occurs).insert _ _

end SiteSearch.SearchIndex.Represents

------------------------------------------------------------
-- All Additions
------------------------------------------------------------

namespace SiteSearch.SearchIndex

/- Additions one after the other keep the invariant. -/
theorem Represents.foldl_add
    {index : SearchIndex}
    {history : List Record}
    (hIndex : index.Represents history)
    (added : List Record) :
    (added.foldl SearchIndex.add index).Represents
      (history ++ added) := by
  induction added generalizing index history with
  | nil => simpa using hIndex
  | cons record added ih =>
      simpa using ih (hIndex.add record)

/- The index of some records holds them. -/
theorem represents_ofRecords
    (records : List Record) :
    (ofRecords records).Represents records :=
  Represents.empty.foldl_add records

/-
  The parts of an index fit together, and fit the records that
  were added in this order: the record stored in a slot is the
  one at that place.
-/
structure Consistent
    (index : SearchIndex)
    (history : List Record) :
    Prop where
  /- An identifier leads to a live record of its own. -/
  slot_holds : ∀ id slot,
    (id, slot) ∈ index.slots →
      slot < index.records.size ∧
        ∃ stored, index.stored? slot = some stored ∧
          stored.id = id
  /- A live record belongs to exactly one identifier. -/
  slot_owned : ∀ slot stored,
    index.stored? slot = some stored →
      ∃! id, (id, slot) ∈ index.slots
  /- No identifier is listed twice. -/
  ids_nodup : (index.slots.map Prod.fst).Nodup
  /- Replacing a record writes inside the slots. -/
  replaced_slot_lt : ∀ id slot,
    index.slot? id = some slot → slot < index.records.size
  /- A slot was filled once, by the record at its place. -/
  stored_eq : ∀ slot stored,
    index.stored? slot = some stored →
      ∃ record, history[slot]? = some record ∧
        stored = record.stored
  /- The occurrences are those of the terms of live records. -/
  posting_iff : ∀ term posting,
    posting ∈ index.terms.postings term ↔
      (index.stored? posting.slot).isSome ∧
        ∃ record, history[posting.slot]? = some record ∧
          (record.fieldTerms posting.field)[posting.position]? =
            some term
  /- No occurrence is outside its field. -/
  posting_inside : ∀ term posting,
    posting ∈ index.terms.postings term →
      ∃ stored, index.stored? posting.slot = some stored ∧
        posting.position < stored.fieldLength posting.field
  /- No term is left without occurrences. -/
  postings_ne_nil : ∀ entry ∈ index.terms.entries,
    entry.2 ≠ []
  /- Occurrences are strictly ascending. -/
  postings_ordered : ∀ entry ∈ index.terms.entries,
    entry.2.Pairwise Posting.Precedes

/- The invariant makes the parts of an index fit together. -/
theorem Represents.consistent
    {index : SearchIndex}
    {history : List Record}
    (hIndex : index.Represents history) :
    index.Consistent history where
  slot_holds := by
    intro id slot hSlot
    rcases (hIndex.slots id slot).mp hSlot with ⟨record, hLatest, rfl⟩
    exact ⟨hIndex.slot_lt_size hLatest, record.stored,
      (hIndex.stored slot record.stored).mpr ⟨record, hLatest, rfl⟩,
      rfl⟩
  slot_owned := by
    intro slot stored hStored
    rcases (hIndex.stored slot stored).mp hStored with
      ⟨record, hLatest, rfl⟩
    refine ⟨record.id,
      (hIndex.slots record.id slot).mpr ⟨record, hLatest, rfl⟩, ?_⟩
    intro id hSlot
    rcases (hIndex.slots id slot).mp hSlot with ⟨other, hOther, rfl⟩
    rw [hLatest.record_unique hOther]
  ids_nodup := hIndex.ids
  replaced_slot_lt := by
    intro id slot hSlot
    rcases (hIndex.slot?_eq_some_iff id slot).mp hSlot with
      ⟨record, hLatest, -⟩
    exact hIndex.slot_lt_size hLatest
  stored_eq := by
    intro slot stored hStored
    rcases (hIndex.stored slot stored).mp hStored with
      ⟨record, hLatest, hEq⟩
    exact ⟨record, hLatest.1, hEq⟩
  posting_iff := by
    intro term posting
    rw [hIndex.postings, Option.isSome_iff_exists]
    constructor
    · rintro ⟨record, hLatest, hTerm⟩
      exact ⟨⟨record.stored,
        (hIndex.stored _ _).mpr ⟨record, hLatest, rfl⟩⟩,
        record, hLatest.1, hTerm⟩
    · rintro ⟨⟨stored, hStored⟩, record, hPlace, hTerm⟩
      rcases (hIndex.stored _ _).mp hStored with ⟨latest, hLatest, -⟩
      have hSame : latest = record :=
        Option.some.inj (hLatest.1.symm.trans hPlace)
      exact ⟨record, hSame ▸ hLatest, hTerm⟩
  posting_inside := by
    intro term posting hPosting
    rcases (hIndex.postings term posting).mp hPosting with
      ⟨record, hLatest, hTerm⟩
    refine ⟨record.stored,
      (hIndex.stored _ _).mpr ⟨record, hLatest, rfl⟩, ?_⟩
    rw [record.fieldLength_stored]
    exact (List.getElem?_eq_some_iff.mp hTerm).1
  postings_ne_nil := hIndex.occurs
  postings_ordered := by
    intro entry hEntry
    rw [← index.terms.postings_of_mem_entries hEntry]
    exact hIndex.ordered entry.1

/-
  However often identifiers are repeated, an index that was
  built from some records and then added to stays consistent.
-/
theorem consistent_after_additions
    (records added : List Record) :
    (added.foldl SearchIndex.add (ofRecords records)).Consistent
      (records ++ added) :=
  ((represents_ofRecords records).foldl_add added).consistent

end SiteSearch.SearchIndex
