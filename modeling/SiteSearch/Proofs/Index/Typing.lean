import SiteSearch.Proofs.Index.Search
import SiteSearch.Proofs.Text.Terms

/-
  Typing the beginning of a text.

  Whatever is typed of a title or a content, its terms are
  beginnings of terms of that text.  So the record is found as
  long as there is a term at all, and it is found once, as no
  two survivors have the same identifier.

  Main declarations:
    * `SiteSearch.scan_perm_foundIn`
    * `SiteSearch.Record.hasAll_of_typed`
    * `SiteSearch.SearchIndex.count_id_search_of_typed`
-/

------------------------------------------------------------
-- What a Scan Finds
------------------------------------------------------------

namespace SiteSearch

variable {σ : Type}
variable [Score σ]
variable [DecidableLT σ]

/- The matches of the records found have their identifiers. -/
theorem map_id_foundIn
    (records : List Record)
    (terms : List String) :
    (foundIn records terms : List (Match σ)).map Match.id =
      (records.filter fun record => record.hasAll terms).map
        Record.id := by
  rw [foundIn, List.map_map]
  rfl

/- A limit that is large enough leaves nothing out. -/
theorem scan_perm_foundIn
    (records : List Record)
    (query : String)
    {limit : Nat}
    (hLimit : records.length ≤ limit) :
    (scan records query limit : List (Match σ)).Perm
      (foundIn records (queryTerms query)) := by
  unfold scan
  rw [List.take_of_length_le]
  · exact List.mergeSort_perm _ _
  · rw [List.length_mergeSort, foundIn, List.length_map]
    exact (List.length_filter_le _ _).trans hLimit

/- A record that a scan finds is found once. -/
theorem count_id_scan
    {records : List Record}
    (hIds : (records.map Record.id).Nodup)
    {record : Record}
    (hRecord : record ∈ records)
    {query : String}
    (hAll : record.hasAll (queryTerms query) = true)
    {limit : Nat}
    (hLimit : records.length ≤ limit) :
    ((scan records query limit : List (Match σ)).map Match.id).count
      record.id = 1 := by
  have hPerm :=
    (scan_perm_foundIn (σ := σ) records query hLimit).map Match.id
  rw [hPerm.count_eq, map_id_foundIn]
  apply List.count_eq_one_of_mem
  · exact hIds.sublist (List.filter_sublist.map Record.id)
  · exact List.mem_map.mpr
      ⟨record, List.mem_filter.mpr ⟨hRecord, hAll⟩, rfl⟩

end SiteSearch

------------------------------------------------------------
-- What Was Typed
------------------------------------------------------------

namespace SiteSearch

/- The searched text of a field. -/
def Record.searchedText
    (record : Record) :
    SearchedField → String
  | .title => record.title
  | .content => record.content

/- The terms of a field are those of its text. -/
theorem Record.fieldTerms_eq_terms
    (record : Record)
    (field : SearchedField) :
    record.fieldTerms field =
      Text.terms (record.searchedText field) := by
  unfold Record.fieldTerms RecordTerms.ofRecord
  cases field with
  | title => rw [RecordTerms.inField, searchedText]
  | content => rw [RecordTerms.inField, searchedText]

/- Each term typed is the beginning of a term. -/
theorem Record.hasTerm_of_typed
    (record : Record)
    (field : SearchedField)
    {typed : String}
    (hTyped : typed.toList <+: (record.searchedText field).toList)
    {term : String}
    (hTerm : term ∈ Text.terms typed) :
    record.hasTerm term = true := by
  rcases Text.exists_term_of_cut hTyped hTerm with
    ⟨word, hWord, hPrefix⟩
  rw [← record.fieldTerms_eq_terms] at hWord
  exact (record.hasTerm_iff term).mpr
    ⟨field, word, hWord, List.isPrefixOf_iff_prefix.mpr hPrefix⟩

/- A record has all terms of what was typed of it. -/
theorem Record.hasAll_of_typed
    (record : Record)
    (field : SearchedField)
    {typed : String}
    (hTyped : typed.toList <+: (record.searchedText field).toList)
    (hTerms : Text.terms typed ≠ []) :
    record.hasAll (queryTerms typed) = true := by
  rcases List.exists_mem_of_ne_nil _ hTerms with ⟨term, hTerm⟩
  rw [Record.hasAll_iff]
  refine ⟨?_, ?_⟩
  · exact List.ne_nil_of_mem ((mem_queryTerms_iff typed term).mpr hTerm)
  · intro other hOther
    exact record.hasTerm_of_typed field hTyped
      ((mem_queryTerms_iff typed other).mp hOther)

end SiteSearch

------------------------------------------------------------
-- Searching for What Was Typed
------------------------------------------------------------

namespace SiteSearch.SearchIndex

/-
  However an index came about, a record that survived is
  found, and once only, by whatever is typed of its title or
  its content, as soon as that has a term.
-/
theorem count_id_search_of_typed
    (records added : List Record)
    {record : Record}
    (hSurvives : record ∈ survivors (records ++ added))
    {typed : String}
    (hTyped :
      typed.toList <+: record.title.toList ∨
        typed.toList <+: record.content.toList)
    (hTerms : Text.terms typed ≠ [])
    {limit : Nat}
    (hLimit :
      (added.foldl SearchIndex.add (ofRecords records)).size ≤ limit) :
    (((added.foldl SearchIndex.add (ofRecords records)).search typed limit
        : List (Match Float)).map Match.id).count record.id = 1 := by
  have hIndex := (represents_ofRecords records).foldl_add added
  rw [hIndex.size_eq] at hLimit
  rw [hIndex.search_eq_scan]
  apply count_id_scan (nodup_ids_survivors _) hSurvives _ hLimit
  rcases hTyped with hTitle | hContent
  · exact record.hasAll_of_typed .title hTitle hTerms
  · exact record.hasAll_of_typed .content hContent hTerms

/-
  A record that replaced another is found before its accent
  is typed.
-/
theorem count_id_search_of_typed_before_accent :
    (((SearchIndex.add
        (ofRecords [⟨.number 1, "Tea", "", "/tea", none⟩])
        ⟨.number 1, "Cafe\u0301 ole", "", "/", none⟩).search "Cafe" 1
          : List (Match Float)).map Match.id).count (.number 1) = 1 :=
  @count_id_search_of_typed
    [⟨.number 1, "Tea", "", "/tea", none⟩]
    [⟨.number 1, "Cafe\u0301 ole", "", "/", none⟩]
    ⟨.number 1, "Cafe\u0301 ole", "", "/", none⟩
    (by decide +kernel) "Cafe" (Or.inl (by decide +kernel))
    (by decide +kernel) 1 (by decide +kernel)

end SiteSearch.SearchIndex
