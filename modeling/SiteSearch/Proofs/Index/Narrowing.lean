import SiteSearch.Proofs.Index.Order

/-
  More typing only narrows.

  If each term of a query is the beginning of some term of a
  longer one, a record that has all terms of the longer one
  has all terms of the query.  How often and in what order the
  terms occur makes no difference to what is found.

  Main declarations:
    * `SiteSearch.Record.hasAll_of_longer`
    * `SiteSearch.Record.hasAll_congr`
    * `SiteSearch.SearchIndex.search_narrows`
-/

------------------------------------------------------------
-- Longer Queries
------------------------------------------------------------

namespace SiteSearch

/- Each term is the beginning of one of the others. -/
def AreBeginnings
    (terms others : List String) :
    Prop :=
  ∀ term ∈ terms, ∃ other ∈ others, isBeginning term other = true

instance
    (terms others : List String) :
    Decidable (AreBeginnings terms others) :=
  inferInstanceAs (Decidable
    (∀ term ∈ terms, ∃ other ∈ others, isBeginning term other = true))

namespace Record

/- A record that has all longer terms has all their beginnings. -/
theorem hasAll_of_longer
    (record : Record)
    {query longer : String}
    (hSome : Text.terms query ≠ [])
    (hLonger : AreBeginnings (Text.terms query) (Text.terms longer))
    (hAll : record.hasAll (queryTerms longer) = true) :
    record.hasAll (queryTerms query) = true := by
  rw [hasAll_iff] at *
  rcases List.exists_mem_of_ne_nil _ hSome with ⟨first, hFirst⟩
  refine ⟨List.ne_nil_of_mem ((mem_queryTerms_iff ..).mpr hFirst), ?_⟩
  intro term hTerm
  rcases hLonger term ((mem_queryTerms_iff ..).mp hTerm) with
    ⟨other, hOther, hBegins⟩
  exact record.hasTerm_of_isBeginning hBegins
    (hAll.2 other ((mem_queryTerms_iff ..).mpr hOther))

/- Only which terms occur makes a difference. -/
theorem hasAll_congr
    (record : Record)
    {terms others : List String}
    (hSame : ∀ term, term ∈ terms ↔ term ∈ others) :
    record.hasAll terms = record.hasAll others := by
  have hNone : terms = [] ↔ others = [] := by
    simp only [List.eq_nil_iff_forall_not_mem, hSame]
  rw [Bool.eq_iff_iff, hasAll_iff, hasAll_iff, Ne, Ne, hNone]
  simp only [hSame]

end Record

end SiteSearch

------------------------------------------------------------
-- Results of Longer Queries
------------------------------------------------------------

namespace SiteSearch.SearchIndex

variable {σ : Type}
variable [Score σ]
variable [DecidableLT σ]
variable [LawfulScore σ]
variable {index : SearchIndex}
variable {history : List Record}

/- What is found are survivors that have all terms. -/
theorem Represents.exists_of_mem_search
    (hIndex : index.Represents history)
    {query : String}
    {limit : Nat}
    {id : RecordId}
    (hFound : id ∈
      (index.search query limit : List (Match σ)).map Match.id) :
    ∃ record ∈ survivors history,
      record.hasAll (queryTerms query) = true ∧ record.id = id := by
  rw [hIndex.map_id_search] at hFound
  rcases List.mem_map.mp hFound with ⟨record, hRecord, hId⟩
  rcases mem_of_mem_take_rankedIn σ hRecord with ⟨hSurvives, hAll⟩
  exact ⟨record, hSurvives, hAll, hId⟩

/- A limit that is large enough keeps all that have all terms. -/
theorem Represents.map_id_search_perm
    (hIndex : index.Represents history)
    (query : String)
    {limit : Nat}
    (hLimit : index.size ≤ limit) :
    ((index.search query limit : List (Match σ)).map Match.id).Perm
      (((survivors history).filter
        fun record => record.hasAll (queryTerms query)).map
          Record.id) := by
  rw [hIndex.search_eq_map_rankedIn query hLimit, List.map_map]
  exact (rankedIn_perm σ (survivors history) (queryTerms query)).map
    Record.id

/-
  However an index came about, what a longer query finds is
  found by a query whose terms are beginnings of its terms, if
  there are any.  Queries with the same terms find the same,
  whatever the order and the repetitions of these.
-/
theorem search_narrows
    (records added : List Record)
    (query longer : String)
    {limit longerLimit : Nat}
    (hLimit :
      (added.foldl SearchIndex.add (ofRecords records)).size ≤ limit) :
    (Text.terms query ≠ [] →
      AreBeginnings (Text.terms query) (Text.terms longer) →
        ((added.foldl SearchIndex.add (ofRecords records)).search
            longer longerLimit : List (Match Float)).map Match.id ⊆
          ((added.foldl SearchIndex.add (ofRecords records)).search
            query limit : List (Match Float)).map Match.id) ∧
    ((∀ term, term ∈ Text.terms query ↔ term ∈ Text.terms longer) →
      (added.foldl SearchIndex.add (ofRecords records)).size ≤
          longerLimit →
        (((added.foldl SearchIndex.add (ofRecords records)).search
            longer longerLimit : List (Match Float)).map Match.id).Perm
          (((added.foldl SearchIndex.add (ofRecords records)).search
            query limit : List (Match Float)).map Match.id)) := by
  have hIndex := (represents_ofRecords records).foldl_add added
  have hQuery := hIndex.map_id_search_perm (σ := Float) query hLimit
  constructor
  · intro hSome hLonger id hFound
    rcases hIndex.exists_of_mem_search hFound with
      ⟨record, hSurvives, hAll, rfl⟩
    rw [hQuery.mem_iff]
    apply List.mem_map_of_mem
    rw [List.mem_filter]
    exact ⟨hSurvives, record.hasAll_of_longer hSome hLonger hAll⟩
  · intro hSame hLongerLimit
    have hTerms : ∀ term,
        term ∈ queryTerms longer ↔ term ∈ queryTerms query := by
      intro term
      rw [mem_queryTerms_iff, mem_queryTerms_iff, hSame]
    have hFound :
        (survivors (records ++ added)).filter
            (fun record => record.hasAll (queryTerms longer)) =
          (survivors (records ++ added)).filter
            (fun record => record.hasAll (queryTerms query)) :=
      List.filter_congr fun record _ => record.hasAll_congr hTerms
    have hOther :=
      hIndex.map_id_search_perm (σ := Float) longer hLongerLimit
    rw [hFound] at hOther
    exact hOther.trans hQuery.symm

/-
  Two terms of a query may be beginnings of one term, and a
  query may give its terms again in another order.
-/
theorem search_narrows_of_collapsing :
    ((SearchIndex.add
        (ofRecords [⟨.number 1, "Setup", "clients", "/setup", none⟩])
        ⟨.number 2, "Settings", "", "/settings", none⟩).search
          "setup" 1 : List (Match Float)).map Match.id ⊆
      ((SearchIndex.add
        (ofRecords [⟨.number 1, "Setup", "clients", "/setup", none⟩])
        ⟨.number 2, "Settings", "", "/settings", none⟩).search
          "set S" 2 : List (Match Float)).map Match.id ∧
    (((SearchIndex.add
        (ofRecords [⟨.number 1, "Setup", "clients", "/setup", none⟩])
        ⟨.number 2, "Settings", "", "/settings", none⟩).search
          "s set, SET" 3 : List (Match Float)).map Match.id).Perm
      (((SearchIndex.add
        (ofRecords [⟨.number 1, "Setup", "clients", "/setup", none⟩])
        ⟨.number 2, "Settings", "", "/settings", none⟩).search
          "set S" 2 : List (Match Float)).map Match.id) := by
  have hTerms : Text.terms "set S" = ["set", "s"] := by decide +kernel
  have hOthers : Text.terms "s set, SET" = ["s", "set", "set"] := by
    decide +kernel
  constructor
  · exact (search_narrows
      [⟨.number 1, "Setup", "clients", "/setup", none⟩]
      [⟨.number 2, "Settings", "", "/settings", none⟩] "set S" "setup"
      (by decide +kernel)).1 (by decide +kernel) (by decide +kernel)
  · refine (search_narrows
      [⟨.number 1, "Setup", "clients", "/setup", none⟩]
      [⟨.number 2, "Settings", "", "/settings", none⟩] "set S"
      "s set, SET" (by decide +kernel)).2 ?_ (by decide +kernel)
    intro term
    rw [hTerms, hOthers]
    simp [or_comm]

end SiteSearch.SearchIndex
