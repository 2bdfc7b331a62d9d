import SiteSearch.Proofs.Index.Order

/-
  Adding a record leaves the others alone.

  A record that is added replaces the survivor that has its
  identifier and comes behind all others.  What a query finds
  of the others is the same as before, in the same order and
  with the same scores, and under its identifier nothing but
  the record added is found.

  Main declarations:
    * `SiteSearch.survivors_append_singleton`
    * `SiteSearch.SearchIndex.Represents.filter_search`
    * `SiteSearch.SearchIndex.search_others_add`
-/

------------------------------------------------------------
-- Survivors of One More Addition
------------------------------------------------------------

namespace SiteSearch

/-
  A record that is added survives behind those it does not
  replace.
-/
theorem survivors_append_singleton
    (history : List Record)
    (added : Record) :
    survivors (history ++ [added]) =
      ((survivors history).filter fun record => record.id ≠ added.id) ++
        [added] := by
  induction history with
  | nil => rfl
  | cons first later ih =>
      rw [List.cons_append, survivors, survivors, ih, List.any_append]
      by_cases hReplaced :
          (later.any fun other => other.id = first.id) = true
      · rw [if_pos hReplaced, hReplaced, Bool.true_or, if_pos rfl]
      · rw [if_neg hReplaced, Bool.eq_false_of_not_eq_true hReplaced,
          Bool.false_or]
        by_cases hId : added.id = first.id
        · simp [hId]
        · simp [hId, Ne.symm hId]

/- Without its identifier the survivors are those from before. -/
theorem filter_survivors_append_singleton
    (history : List Record)
    (added : Record) :
    (survivors (history ++ [added])).filter
        (fun record => record.id ≠ added.id) =
      (survivors history).filter fun record =>
        record.id ≠ added.id := by
  rw [survivors_append_singleton, List.filter_append,
    List.filter_filter]
  simp

end SiteSearch

------------------------------------------------------------
-- Searching After One More Addition
------------------------------------------------------------

namespace SiteSearch.SearchIndex

variable {σ : Type}
variable [Score σ]
variable [DecidableLT σ]
variable [LawfulScore σ]
variable {index : SearchIndex}
variable {history : List Record}

/-
  The results with other identifiers are the other records
  found.
-/
theorem Represents.filter_search
    (hIndex : index.Represents history)
    (query : String)
    {limit : Nat}
    (hLimit : index.size ≤ limit)
    (id : RecordId) :
    (index.search query limit : List (Match σ)).filter
        (fun result => result.id ≠ id) =
      (rankedIn σ
        ((survivors history).filter fun record => record.id ≠ id)
        (queryTerms query)).map
          fun record =>
            record.toMatch (record.score (queryTerms query)) := by
  rw [hIndex.search_eq_map_rankedIn query hLimit, List.filter_map,
    ← filter_rankedIn (nodup_survivors history)]
  rfl

/-
  However an index came about, adding a record changes no
  result but those with its identifier, and a result with its
  identifier is that record.
-/
theorem search_others_add
    (records added : List Record)
    (record : Record)
    (query : String)
    {limit nextLimit : Nat}
    (hLimit :
      (added.foldl SearchIndex.add (ofRecords records)).size ≤ limit)
    (hNextLimit :
      ((added.foldl SearchIndex.add (ofRecords records)).add record).size ≤
        nextLimit) :
    ((((added.foldl SearchIndex.add (ofRecords records)).add record).search
          query nextLimit : List (Match Float)).filter
        fun result => result.id ≠ record.id) =
      (((added.foldl SearchIndex.add (ofRecords records)).search
          query limit : List (Match Float)).filter
        fun result => result.id ≠ record.id) ∧
    ∀ someLimit,
      ∀ result ∈
        (((added.foldl SearchIndex.add (ofRecords records)).add
          record).search query someLimit : List (Match Float)),
        result.id = record.id →
          record.hasAll (queryTerms query) = true ∧
            result =
              record.toMatch (record.score (queryTerms query)) := by
  have hIndex := (represents_ofRecords records).foldl_add added
  have hNext := hIndex.add record
  constructor
  · rw [hNext.filter_search query hNextLimit,
      hIndex.filter_search query hLimit,
      filter_survivors_append_singleton]
  · intro someLimit result hResult hId
    rw [hNext.search_eq_ranked] at hResult
    rcases List.mem_map.mp hResult with ⟨other, hOther, rfl⟩
    rcases mem_of_mem_take_rankedIn Float hOther with ⟨hSurvives, hAll⟩
    have hSame : other = record := by
      rw [survivors_append_singleton, List.mem_append, List.mem_filter,
        List.mem_singleton] at hSurvives
      rcases hSurvives with ⟨-, hOtherId⟩ | hSame
      · exact absurd hId (of_decide_eq_true hOtherId)
      · exact hSame
    rw [hSame] at hAll ⊢
    exact ⟨hAll, rfl⟩

/-
  A record with terms of the others is replaced by one with
  fewer.
-/
theorem search_others_add_of_shared_terms :
    (((SearchIndex.add
          (ofRecords
            [⟨.number 1, "Setup", "client", "/setup", none⟩,
             ⟨.number 2, "Setup client", "settings", "/client", none⟩,
             ⟨.text "2", "Sets", "setup", "/sets", some "Start"⟩])
          ⟨.number 2, "Client", "set", "/client", none⟩).search
            "set" 3 : List (Match Float)).filter
        fun result => result.id ≠ .number 2) =
      (((ofRecords
            [⟨.number 1, "Setup", "client", "/setup", none⟩,
             ⟨.number 2, "Setup client", "settings", "/client", none⟩,
             ⟨.text "2", "Sets", "setup", "/sets", some "Start"⟩]).search
            "set" 3 : List (Match Float)).filter
        fun result => result.id ≠ .number 2) :=
  (search_others_add
    [⟨.number 1, "Setup", "client", "/setup", none⟩,
     ⟨.number 2, "Setup client", "settings", "/client", none⟩,
     ⟨.text "2", "Sets", "setup", "/sets", some "Start"⟩]
    [] ⟨.number 2, "Client", "set", "/client", none⟩ "set"
    (by decide +kernel) (by decide +kernel)).1

end SiteSearch.SearchIndex
