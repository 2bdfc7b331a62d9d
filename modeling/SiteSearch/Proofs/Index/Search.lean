import SiteSearch.Proofs.Index.Beginning
import SiteSearch.Proofs.Index.Survivors
import SiteSearch.Proofs.Ranking
import SiteSearch.Proofs.Scan
import SiteSearch.Proofs.Score.TermScore

/-
  Searching an index is scanning the survivors.

  The hits of a query term in a slot have the scores of the
  record that survives there, in another order.  So the best
  of them is the best score of that record, and the totals of
  a query list the records that a scan finds.  Ranking puts
  them in the order in which the scan sorts them.

  Main declarations:
    * `SiteSearch.SearchIndex.lookup_foldl_keepBest`
    * `SiteSearch.SearchIndex.Represents.lookup_bestHits`
    * `SiteSearch.SearchIndex.Represents.lookup_totals`
    * `SiteSearch.SearchIndex.Represents.search_eq_scan`
-/

------------------------------------------------------------
-- The Best Score of a Slot
------------------------------------------------------------

namespace SiteSearch.SearchIndex

variable {σ : Type}
variable [Score σ]
variable [DecidableLT σ]

/- Keeping a score changes the best score of its slot only. -/
theorem lookup_keepBest
    (slot other : Nat)
    (score : σ)
    (best : List (Nat × σ)) :
    (keepBest slot score best).lookup other =
      if other = slot then
        some (larger ((best.lookup slot).getD (Score.ofNat 0)) score)
      else best.lookup other := by
  induction best with
  | nil =>
      rw [keepBest, lookup_cons_eq_ite]
      rfl
  | cons hit best ih =>
      rcases hit with ⟨first, score'⟩
      unfold keepBest
      by_cases hFirst : first = slot
      · subst hFirst
        rw [if_pos rfl, lookup_cons_eq_ite, lookup_cons_eq_ite,
          lookup_cons_eq_ite]
        by_cases hOther : other = first
        · simp [hOther, larger]
        · simp [hOther]
      · rw [if_neg hFirst, lookup_cons_eq_ite, ih,
          lookup_cons_eq_ite, lookup_cons_eq_ite]
        by_cases hOther : other = slot
        · subst hOther
          simp [Ne.symm hFirst]
        · simp [hOther]

/- A slot is listed if it was, or if its score is kept. -/
theorem mem_slots_keepBest_iff
    (slot other : Nat)
    (score : σ)
    (best : List (Nat × σ)) :
    other ∈ (keepBest slot score best).map Prod.fst ↔
      other = slot ∨ other ∈ best.map Prod.fst := by
  induction best with
  | nil => simp [keepBest]
  | cons hit best ih =>
      unfold keepBest
      split
      · rename_i hSlot
        simp [hSlot]
      · rw [List.map_cons, List.mem_cons, ih, List.map_cons,
          List.mem_cons, or_left_comm]

/- No slot is listed twice. -/
theorem nodup_keepBest
    (slot : Nat)
    (score : σ)
    {best : List (Nat × σ)}
    (hNodup : (best.map Prod.fst).Nodup) :
    ((keepBest slot score best).map Prod.fst).Nodup := by
  induction best with
  | nil => exact List.nodup_singleton slot
  | cons hit best ih =>
      rcases List.nodup_cons.mp hNodup with ⟨hFresh, hRest⟩
      unfold keepBest
      split
      · exact hNodup
      · rename_i hSlot
        rw [List.map_cons, List.nodup_cons, mem_slots_keepBest_iff]
        refine ⟨?_, ih hRest⟩
        rintro (hSame | hMember)
        · exact hSlot hSame
        · exact hFresh hMember

/- The scores of the hits in a slot. -/
def scoresIn
    (slot : Nat)
    (hits : List (Nat × σ)) :
    List σ :=
  (hits.filter fun hit => hit.1 = slot).map Prod.snd

/- A slot keeps the largest score of its hits. -/
theorem lookup_foldl_keepBest
    (slot : Nat)
    (hits best : List (Nat × σ)) :
    (hits.foldl (fun best hit => keepBest hit.1 hit.2 best)
        best).lookup slot =
      if scoresIn slot hits = [] then best.lookup slot
      else some ((scoresIn slot hits).foldl larger
        ((best.lookup slot).getD (Score.ofNat 0))) := by
  induction hits generalizing best with
  | nil => simp [scoresIn]
  | cons hit hits ih =>
      rw [List.foldl_cons, ih, lookup_keepBest]
      by_cases hSlot : hit.1 = slot
      · have hScores :
            scoresIn slot (hit :: hits) =
              hit.2 :: scoresIn slot hits := by
          simp [scoresIn, hSlot]
        rw [hScores, if_pos hSlot.symm, hSlot]
        by_cases hNone : scoresIn slot hits = []
        · simp [hNone]
        · simp [hNone]
      · have hScores :
            scoresIn slot (hit :: hits) = scoresIn slot hits := by
          simp [scoresIn, hSlot]
        rw [hScores, if_neg (Ne.symm hSlot)]

/- The best score of a slot is the largest one of its hits. -/
theorem lookup_bestHits
    (index : SearchIndex)
    (term : String)
    (slot : Nat) :
    (index.bestHits term : List (Nat × σ)).lookup slot =
      if scoresIn slot (index.hits term : List (Nat × σ)) = [] then none
      else some (largest (scoresIn slot (index.hits term))) :=
  lookup_foldl_keepBest slot (index.hits term) []

/- No slot has two best scores. -/
theorem nodup_bestHits
    (index : SearchIndex)
    (term : String) :
    ((index.bestHits term : List (Nat × σ)).map Prod.fst).Nodup := by
  suffices hFold : ∀ best : List (Nat × σ),
      (best.map Prod.fst).Nodup →
        (((index.hits term).foldl
          (fun best hit => keepBest hit.1 hit.2 best)
          best).map Prod.fst).Nodup by
    exact hFold [] List.nodup_nil
  generalize (index.hits term : List (Nat × σ)) = hits
  induction hits with
  | nil => exact fun best hBest => hBest
  | cons hit hits ih =>
      exact fun best hBest => ih _ (nodup_keepBest hit.1 hit.2 hBest)

end SiteSearch.SearchIndex

------------------------------------------------------------
-- Totals
------------------------------------------------------------

namespace SiteSearch.SearchIndex

variable {σ : Type}
variable [Score σ]

/- What two lists have in common is what both of them assign. -/
theorem both_eq_filterMap
    (totals best : List (Nat × σ)) :
    both totals best =
      totals.filterMap fun total =>
        ((best.lookup total.1).map (total.2 + ·)).map (total.1, ·) := by
  simp only [both, Option.map_map]
  rfl

/- A slot has a sum of scores if it has both of them. -/
theorem lookup_both
    {totals : List (Nat × σ)}
    (hNodup : (totals.map Prod.fst).Nodup)
    (best : List (Nat × σ))
    (slot : Nat) :
    (both totals best).lookup slot =
      (totals.lookup slot).bind fun total =>
        (best.lookup slot).map (total + ·) := by
  rw [both_eq_filterMap]
  exact lookup_filterMap
    (fun slot total => (best.lookup slot).map (total + ·)) hNodup slot

/- No slot has two sums. -/
theorem nodup_both
    {totals : List (Nat × σ)}
    (hNodup : (totals.map Prod.fst).Nodup)
    (best : List (Nat × σ)) :
    ((both totals best).map Prod.fst).Nodup := by
  rw [both_eq_filterMap]
  exact hNodup.sublist (map_fst_filterMap_sublist
    (fun slot total => (best.lookup slot).map (total + ·)) totals)

end SiteSearch.SearchIndex

------------------------------------------------------------
-- Hits in an Index
------------------------------------------------------------

namespace SiteSearch.SearchIndex.Represents

variable {σ : Type}
variable [Score σ]
variable {index : SearchIndex}
variable {history : List Record}

/- An occurrence in a latest record has a score. -/
theorem postingScore?_eq
    (hIndex : index.Represents history)
    {posting : Posting}
    {record : Record}
    (hLatest : IsLatest history posting.slot record)
    (exact : Bool) :
    (index.postingScore? exact posting : Option σ) =
      some (termScore posting.field posting.position
        (record.fieldTerms posting.field).length exact) := by
  have hStored : index.stored? posting.slot = some record.stored :=
    (hIndex.stored _ _).mpr ⟨record, hLatest, rfl⟩
  rw [postingScore?, hStored, Option.map_some,
    record.fieldLength_stored]

/- The hits of a term are the scores of the latest records. -/
theorem mem_hits_iff
    (hIndex : index.Represents history)
    (term : String)
    (slot : Nat)
    (score : σ) :
    (slot, score) ∈ index.hits term ↔
      ∃ record, IsLatest history slot record ∧
        score ∈ record.hitScores term := by
  unfold hits
  rw [TermIndex.startingWith_eq_filter]
  simp only [List.mem_flatMap, List.mem_filter, List.mem_filterMap,
    Record.mem_hitScores_iff]
  constructor
  · rintro ⟨entry, ⟨hEntry, hBegins⟩, posting, hPosting, hScore⟩
    rw [← index.terms.postings_of_mem_entries hEntry,
      hIndex.postings] at hPosting
    rcases hPosting with ⟨record, hLatest, hTerm⟩
    rw [hIndex.postingScore?_eq hLatest, Option.map_some,
      Option.some.injEq, Prod.mk.injEq] at hScore
    rcases hScore with ⟨rfl, rfl⟩
    exact ⟨record, hLatest, posting.field, entry.1, posting.position,
      hTerm, hBegins, rfl⟩
  · rintro ⟨record, hLatest, field, word, position, hTerm, hBegins, rfl⟩
    have hPosting : (⟨slot, field, position⟩ : Posting) ∈
        index.terms.postings word :=
      (hIndex.postings word ⟨slot, field, position⟩).mpr
        ⟨record, hLatest, hTerm⟩
    refine ⟨(word, index.terms.postings word),
      ⟨index.terms.mem_entries_of_mem_postings hPosting, hBegins⟩,
      ⟨slot, field, position⟩, hPosting, ?_⟩
    rw [hIndex.postingScore?_eq hLatest]
    rfl

/-
  The scores in the slot of a latest record are those of the
  record.
-/
theorem mem_scoresIn_iff
    (hIndex : index.Represents history)
    {slot : Nat}
    {record : Record}
    (hLatest : IsLatest history slot record)
    (term : String)
    (score : σ) :
    score ∈ scoresIn slot (index.hits term) ↔
      score ∈ record.hitScores term := by
  have hHit : score ∈ scoresIn slot (index.hits term) ↔
      (slot, score) ∈ index.hits term := by
    simp [scoresIn]
  rw [hHit, hIndex.mem_hits_iff]
  constructor
  · rintro ⟨other, hOther, hScore⟩
    exact hLatest.record_unique hOther ▸ hScore
  · exact fun hScore => ⟨record, hLatest, hScore⟩

/- Slots without a latest record have no scores. -/
theorem scoresIn_eq_nil
    (hIndex : index.Represents history)
    {slot : Nat}
    (hNone : ∀ record, ¬ IsLatest history slot record)
    (term : String) :
    scoresIn slot (index.hits term : List (Nat × σ)) = [] := by
  rw [List.eq_nil_iff_forall_not_mem]
  intro score hScore
  have hHit : (slot, score) ∈ index.hits term := by
    simpa [scoresIn] using hScore
  rcases (hIndex.mem_hits_iff ..).mp hHit with ⟨record, hLatest, -⟩
  exact hNone record hLatest

variable [DecidableLT σ]

/- Slots without a latest record have no best score. -/
theorem lookup_bestHits_eq_none
    (hIndex : index.Represents history)
    {slot : Nat}
    (hNone : ∀ record, ¬ IsLatest history slot record)
    (term : String) :
    (index.bestHits term : List (Nat × σ)).lookup slot = none := by
  rw [SearchIndex.lookup_bestHits,
    if_pos (hIndex.scoresIn_eq_nil hNone term)]

variable [LawfulScore σ]

/- The best score of a latest record is its own. -/
theorem lookup_bestHits
    (hIndex : index.Represents history)
    {slot : Nat}
    {record : Record}
    (hLatest : IsLatest history slot record)
    (term : String) :
    (index.bestHits term : List (Nat × σ)).lookup slot =
      if record.hasTerm term then some (largest (record.hitScores term))
      else none := by
  have hScores : ∀ score : σ,
      score ∈ scoresIn slot (index.hits term) ↔
        score ∈ record.hitScores term :=
    hIndex.mem_scoresIn_iff hLatest term
  rw [SearchIndex.lookup_bestHits, largest_congr hScores]
  by_cases hTerm : record.hasTerm term = true
  · rcases (record.hasTerm_iff_exists_mem_hitScores (σ := σ) term).mp hTerm
        with
      ⟨score, hScore⟩
    have hSome := List.ne_nil_of_mem ((hScores score).mpr hScore)
    rw [if_pos hTerm, if_neg hSome]
  · have hNone :
        scoresIn slot (index.hits term : List (Nat × σ)) = [] := by
      rw [List.eq_nil_iff_forall_not_mem]
      intro score hScore
      exact hTerm ((record.hasTerm_iff_exists_mem_hitScores term).mpr
        ⟨score, (hScores score).mp hScore⟩)
    rw [if_neg hTerm, if_pos hNone]

end SiteSearch.SearchIndex.Represents

------------------------------------------------------------
-- Totals in an Index
------------------------------------------------------------

namespace SiteSearch.SearchIndex

variable {σ : Type}
variable [Score σ]
variable [DecidableLT σ]

/- The totals that more query terms leave of some totals. -/
def totalsFrom
    (index : SearchIndex)
    (totals : List (Nat × σ))
    (terms : List String) :
    List (Nat × σ) :=
  terms.foldl (fun totals term => both totals (index.bestHits term))
    totals

/- No slot has two totals. -/
theorem nodup_totalsFrom
    (index : SearchIndex)
    {totals : List (Nat × σ)}
    (hNodup : (totals.map Prod.fst).Nodup)
    (terms : List String) :
    ((index.totalsFrom totals terms).map Prod.fst).Nodup := by
  induction terms generalizing totals with
  | nil => exact hNodup
  | cons term terms ih => exact ih (nodup_both hNodup _)

/- No slot has two totals. -/
theorem nodup_totals
    (index : SearchIndex)
    (terms : List String) :
    ((index.totals terms : List (Nat × σ)).map Prod.fst).Nodup := by
  cases terms with
  | nil => exact List.nodup_nil
  | cons term terms =>
      exact index.nodup_totalsFrom (index.nodup_bestHits term) terms

/- Slots that have no total get none. -/
theorem lookup_totalsFrom_eq_none
    (index : SearchIndex)
    {totals : List (Nat × σ)}
    (hNodup : (totals.map Prod.fst).Nodup)
    {slot : Nat}
    (hNone : totals.lookup slot = none)
    (terms : List String) :
    (index.totalsFrom totals terms).lookup slot = none := by
  induction terms generalizing totals with
  | nil => exact hNone
  | cons term terms ih =>
      refine ih (nodup_both hNodup _) ?_
      rw [lookup_both hNodup, hNone]
      rfl

variable [LawfulScore σ]
variable {index : SearchIndex}
variable {history : List Record}

/-
  More query terms leave the total of a latest record if it
  has all of them, and add its best scores.
-/
theorem Represents.lookup_totalsFrom
    (hIndex : index.Represents history)
    {slot : Nat}
    {record : Record}
    (hLatest : IsLatest history slot record)
    {totals : List (Nat × σ)}
    (hNodup : (totals.map Prod.fst).Nodup)
    (terms : List String) :
    (index.totalsFrom totals terms).lookup slot =
      (totals.lookup slot).bind fun total =>
        if terms.all record.hasTerm then
          some (record.scoreFrom total terms)
        else none := by
  induction terms generalizing totals with
  | nil => simp [totalsFrom, Record.scoreFrom]
  | cons term terms ih =>
      have hStep :
          index.totalsFrom totals (term :: terms) =
            index.totalsFrom (both totals (index.bestHits term))
              terms :=
        rfl
      rw [hStep, ih (nodup_both hNodup _), lookup_both hNodup,
        hIndex.lookup_bestHits hLatest]
      cases totals.lookup slot with
      | none => rfl
      | some total =>
          by_cases hTerm : record.hasTerm term = true
          · simp [hTerm, Record.scoreFrom]
          · simp [hTerm]

/-
  The total of a latest record is its score, if it has all
  terms.
-/
theorem Represents.lookup_totals
    (hIndex : index.Represents history)
    {slot : Nat}
    {record : Record}
    (hLatest : IsLatest history slot record)
    (terms : List String) :
    (index.totals terms : List (Nat × σ)).lookup slot =
      if record.hasAll terms then some (record.score terms)
      else none := by
  cases terms with
  | nil => rfl
  | cons term terms =>
      have hTotals :
          (index.totals (term :: terms) : List (Nat × σ)) =
            index.totalsFrom (index.bestHits term) terms := rfl
      have hAll :
          record.hasAll (term :: terms) =
            (record.hasTerm term && terms.all record.hasTerm) := rfl
      rw [hTotals, hAll,
        hIndex.lookup_totalsFrom hLatest (index.nodup_bestHits term),
        hIndex.lookup_bestHits hLatest]
      by_cases hTerm : record.hasTerm term = true
      · rw [if_pos hTerm, Option.bind_some, hTerm, Bool.true_and]
        rfl
      · simp [hTerm]

/- Slots without a latest record have no total. -/
omit [LawfulScore σ] in
theorem Represents.lookup_totals_eq_none
    (hIndex : index.Represents history)
    {slot : Nat}
    (hNone : ∀ record, ¬ IsLatest history slot record)
    (terms : List String) :
    (index.totals terms : List (Nat × σ)).lookup slot = none := by
  cases terms with
  | nil => rfl
  | cons term terms =>
      exact index.lookup_totalsFrom_eq_none (index.nodup_bestHits term)
        (hIndex.lookup_bestHits_eq_none hNone term) terms

/-
  The totals of a query are the scores of the records that
  it finds.
-/
theorem Represents.mem_totals_iff
    (hIndex : index.Represents history)
    (terms : List String)
    (slot : Nat)
    (score : σ) :
    (slot, score) ∈ index.totals terms ↔
      ∃ record, IsLatest history slot record ∧
        record.hasAll terms = true ∧ record.score terms = score := by
  rw [← lookup_eq_some_iff_mem (index.nodup_totals terms)]
  by_cases hSome : ∃ record, IsLatest history slot record
  · rcases hSome with ⟨record, hLatest⟩
    rw [hIndex.lookup_totals hLatest, Option.ite_none_right_eq_some,
      Option.some.injEq]
    constructor
    · exact fun hScore => ⟨record, hLatest, hScore⟩
    · rintro ⟨other, hOther, hScore⟩
      exact hLatest.record_unique hOther ▸ hScore
  · have hNone : ∀ record, ¬ IsLatest history slot record :=
      fun record hLatest => hSome ⟨record, hLatest⟩
    rw [hIndex.lookup_totals_eq_none hNone]
    constructor
    · intro hScore
      simp at hScore
    · rintro ⟨record, hLatest, -⟩
      exact absurd hLatest (hNone record)

end SiteSearch.SearchIndex

------------------------------------------------------------
-- Candidates
------------------------------------------------------------

namespace SiteSearch

variable {σ : Type}
variable [Score σ]
variable [DecidableLT σ]

/- The latest records that a query finds, with their places. -/
def latestFound
    (history : List Record)
    (terms : List String) :
    List (Nat × Record) :=
  (latestFrom 0 history).filter fun latest => latest.2.hasAll terms

/- The score of a latest record. -/
def latestScore
    (terms : List String)
    (latest : Nat × Record) :
    σ :=
  latest.2.score terms

/- The candidate that a latest record is. -/
def latestCandidate
    (terms : List String)
    (latest : Nat × Record) :
    Candidate σ :=
  ⟨latest.1, latestScore terms latest⟩

/- The match of a latest record. -/
def latestMatch
    (terms : List String)
    (latest : Nat × Record) :
    Match σ :=
  latest.2.toMatch (latestScore terms latest)

/- The latest records found are the survivors found. -/
theorem map_latestMatch
    (history : List Record)
    (terms : List String) :
    (latestFound history terms).map (latestMatch terms) =
      (foundIn (survivors history) terms : List (Match σ)) := by
  rw [foundIn, ← map_snd_latestFrom 0, List.filter_map, List.map_map]
  rfl

/- The candidates are in the order of their slots. -/
theorem pairwise_latestCandidate
    (history : List Record)
    (terms : List String) :
    ((latestFound history terms).map
        (latestCandidate terms : _ → Candidate σ)).Pairwise
      fun a b => a.slot < b.slot := by
  rw [List.pairwise_map]
  exact (pairwise_latestFrom 0 history).filter _

/- The scores of the candidates compare with each other. -/
theorem comparable_latestCandidate
    [LawfulScore σ]
    (history : List Record)
    (terms : List String) :
    Comparable ((latestFound history terms).map
      (latestCandidate terms : _ → Candidate σ)) := by
  apply comparable_of_nonNegative
  intro candidate hCandidate
  rcases List.mem_map.mp hCandidate with ⟨latest, -, rfl⟩
  exact latest.2.nonNegative_score terms

end SiteSearch

------------------------------------------------------------
-- Searching
------------------------------------------------------------

namespace SiteSearch.SearchIndex.Represents

variable {σ : Type}
variable [Score σ]
variable [DecidableLT σ]
variable [LawfulScore σ]
variable {index : SearchIndex}
variable {history : List Record}

/-
  The candidates of a query are the latest records that it
  finds.
-/
theorem totals_perm
    (hIndex : index.Represents history)
    (terms : List String) :
    ((index.totals terms : List (Nat × σ)).map
        fun (slot, score) => ⟨slot, score⟩).Perm
      ((latestFound history terms).map (latestCandidate terms)) := by
  have hTotals :
      ((index.totals terms : List (Nat × σ)).map
        fun (slot, score) => Candidate.mk slot score).Nodup := by
    have hSlots := index.nodup_totals (σ := σ) terms
    rw [List.Nodup, List.pairwise_map] at hSlots ⊢
    refine hSlots.imp ?_
    intro a b hSlot hSame
    exact hSlot (Candidate.mk.inj hSame).1
  have hFound :
      ((latestFound history terms).map
        (latestCandidate terms : _ → Candidate σ)).Nodup := by
    refine (pairwise_latestCandidate history terms).imp ?_
    rintro a b hSlot rfl
    exact Nat.lt_irrefl a.slot hSlot
  rw [List.perm_ext_iff_of_nodup hTotals hFound]
  rintro ⟨slot, score⟩
  have hListed :
      Candidate.mk slot score ∈
          (index.totals terms : List (Nat × σ)).map
            (fun (slot, score) => Candidate.mk slot score) ↔
        (slot, score) ∈ index.totals terms := by
    simp
  rw [hListed, hIndex.mem_totals_iff, List.mem_map]
  constructor
  · rintro ⟨record, hLatest, hAll, rfl⟩
    refine ⟨(slot, record), List.mem_filter.mpr ⟨?_, hAll⟩, rfl⟩
    exact (mem_latestFrom_zero_iff ..).mpr hLatest
  · rintro ⟨⟨place, record⟩, hMember, hCandidate⟩
    rcases Candidate.mk.inj hCandidate with ⟨rfl, rfl⟩
    rcases List.mem_filter.mp hMember with ⟨hLatest, hAll⟩
    exact ⟨record, (mem_latestFrom_zero_iff ..).mp hLatest, hAll, rfl⟩

/- A candidate that was found leads to its match. -/
omit [LawfulScore σ] in
theorem toMatch_latestCandidate
    (hIndex : index.Represents history)
    {terms : List String}
    {latest : Nat × Record}
    (hFound : latest ∈ latestFound history terms) :
    ((index.stored? (latestCandidate terms latest : Candidate σ).slot).map
        fun stored =>
          stored.toMatch
            (latestCandidate terms latest : Candidate σ).score) =
      some (latestMatch terms latest) := by
  have hLatest : IsLatest history latest.1 latest.2 :=
    (mem_latestFrom_zero_iff ..).mp (List.mem_filter.mp hFound).1
  have hStored : index.stored? latest.1 = some latest.2.stored :=
    (hIndex.stored _ _).mpr ⟨latest.2, hLatest, rfl⟩
  rw [latestCandidate, hStored, Option.map_some]
  rfl

/-
  Searching an index finds what a scan of the survivors finds,
  in the same order and with the same scores.
-/
theorem search_eq_scan
    (hIndex : index.Represents history)
    (query : String)
    (limit : Nat) :
    (index.search query limit : List (Match σ)) =
      scan (survivors history) query limit := by
  unfold search scan
  generalize hTerms : queryTerms query = terms
  rw [queryTerms] at hTerms
  simp only [hTerms]
  let found := latestFound history terms
  let ahead := fun a b : Nat × Record =>
    !decide ((latestScore terms a : σ) < latestScore terms b)
  have hRanked :
      rank ((index.totals terms : List (Nat × σ)).map
          fun (slot, score) => ⟨slot, score⟩) limit =
        ((found.mergeSort ahead).take limit).map
          (latestCandidate terms) := by
    rw [rank_eq_take_mergeSort (hIndex.totals_perm terms)
      (pairwise_latestCandidate history terms)
      (comparable_latestCandidate history terms), List.map_take,
      List.map_mergeSort]
    exact fun a _ b _ => rfl
  have hMatches :
      ((found.mergeSort ahead).take limit).filterMap
          (fun latest =>
            (index.stored?
                (latestCandidate terms latest : Candidate σ).slot).map
              fun stored => stored.toMatch
                (latestCandidate terms latest : Candidate σ).score) =
        ((found.mergeSort ahead).take limit).map
          (latestMatch terms) := by
    rw [← List.filterMap_eq_map]
    apply List.filterMap_congr
    intro latest hMember
    exact hIndex.toMatch_latestCandidate
      (List.mem_mergeSort.mp (List.mem_of_mem_take hMember))
  rw [hRanked, List.filterMap_map]
  refine hMatches.trans ?_
  rw [List.map_take, ← map_latestMatch, List.map_mergeSort]
  exact fun a _ b _ => rfl

end SiteSearch.SearchIndex.Represents

------------------------------------------------------------
-- Floating-Point Scores
------------------------------------------------------------

namespace SiteSearch.Record

/- No term of a record has a negative score. -/
theorem nonNegative_of_mem_hitScores
    (record : Record)
    (hCounted : ∀ field, (record.fieldTerms field).length < 2 ^ 64)
    {term : String}
    {score : Float}
    (hScore : score ∈ record.hitScores term) :
    Score.NonNegative score := by
  rcases (record.mem_hitScores_iff term score).mp hScore with
    ⟨field, word, position, hWord, -, rfl⟩
  have hPosition : position < (record.fieldTerms field).length :=
    (List.getElem?_eq_some_iff.mp hWord).1
  exact nonNegative_termScore field hPosition (hCounted field) _

/-
  The best score of a record for a term it has is one of its
  scores.
-/
theorem isLargest_hitScores
    (record : Record)
    (hCounted : ∀ field, (record.fieldTerms field).length < 2 ^ 64)
    {term : String}
    (hTerm : record.hasTerm term = true) :
    IsLargest (record.hitScores term)
      (largest (record.hitScores term) : Float) := by
  rcases (record.hasTerm_iff_exists_mem_hitScores (σ := Float) term).mp
      hTerm with
    ⟨score, hScore⟩
  apply isLargest_largest (List.ne_nil_of_mem hScore)
  intro other hOther
  exact record.nonNegative_of_mem_hitScores hCounted hOther

end SiteSearch.Record

------------------------------------------------------------
-- After Every History
------------------------------------------------------------

namespace SiteSearch.SearchIndex

/-
  However an index came about, searching it is scanning the
  records that survived, in the order of their addition.  What
  a query term adds to the score of a record that is found is
  the largest score of a term that begins with it, if a word
  can count the terms of its fields.
-/
theorem search_after_additions
    (records added : List Record)
    (query : String)
    (limit : Nat) :
    ((added.foldl SearchIndex.add (ofRecords records)).search query limit
        : List (Match Float)) =
      scan (survivors (records ++ added)) query limit ∧
    ∀ record ∈ survivors (records ++ added),
      record.hasAll (queryTerms query) = true →
      (∀ field, (record.fieldTerms field).length < 2 ^ 64) →
        ∀ term ∈ queryTerms query,
          IsLargest (record.hitScores term)
            (largest (record.hitScores term) : Float) := by
  constructor
  · have hIndex := (represents_ofRecords records).foldl_add added
    exact hIndex.search_eq_scan query limit
  · intro record _ hAll hCounted term hTerm
    have hTerms := (Bool.and_eq_true_iff.mp hAll).2
    exact record.isLargest_hitScores hCounted
      (List.all_eq_true.mp hTerms term hTerm)

/-
  A record that both fields are found in gets the better
  score.
-/
theorem search_after_additions_of_both_fields :
    IsLargest
      (Record.hitScores ⟨.number 1, "Tea", "teapots", "/tea", none⟩ "tea")
      (largest (Record.hitScores
        ⟨.number 1, "Tea", "teapots", "/tea", none⟩ "tea") : Float) :=
  (search_after_additions
    [⟨.number 1, "Coffee", "", "/coffee", none⟩]
    [⟨.number 1, "Tea", "teapots", "/tea", none⟩] "tea" 1).2
    ⟨.number 1, "Tea", "teapots", "/tea", none⟩ (by decide +kernel)
    (by decide +kernel) (by rintro (_ | _) <;> decide +kernel) "tea"
    (by decide +kernel)

end SiteSearch.SearchIndex
