import SiteSearch.Index.Terms
import SiteSearch.Match
import SiteSearch.Ranking

/-
  The search index.

  Key definitions include:
    * `SiteSearch.Stored`
    * `SiteSearch.SearchIndex`
    * `SiteSearch.SearchIndex.add`
    * `SiteSearch.SearchIndex.ofRecords`
    * `SiteSearch.SearchIndex.search`

  Each record added takes the next slot.  A record whose
  identifier is known replaces the one before, whose slot
  stays empty from then on.  A record matches a query when
  each term of the query is the beginning of one of its terms;
  its score is the sum of its best hit for each term.
-/

------------------------------------------------------------
-- Stored Records
------------------------------------------------------------

namespace SiteSearch

/-
  What is kept of a record, with the number of terms in its
  fields.
-/
structure Stored where
  id : RecordId
  title : String
  href : String
  parent : Option String
  titleLength : Nat
  contentLength : Nat
deriving DecidableEq, Repr

namespace Stored

/- What is kept of a record with these terms. -/
def ofRecord
    (record : Record)
    (terms : RecordTerms) :
    Stored where
  id := record.id
  title := record.title
  href := record.href
  parent := record.parent
  titleLength := terms.title.length
  contentLength := terms.content.length

/- The number of terms in a field. -/
def fieldLength
    (stored : Stored) :
    SearchedField → Nat
  | .title => stored.titleLength
  | .content => stored.contentLength

/- The match of a stored record that was found with a score. -/
def toMatch
    {σ : Type}
    (stored : Stored)
    (score : σ) :
    Match σ :=
  ⟨stored.id, stored.title, stored.href, stored.parent, score⟩

end Stored

end SiteSearch

------------------------------------------------------------
-- The Index
------------------------------------------------------------

namespace SiteSearch

/-
  Records by slot, the slot of each identifier, and the terms
  with their occurrences.
-/
structure SearchIndex where
  records : Array (Option Stored)
  slots : List (RecordId × Nat)
  terms : TermIndex

namespace SearchIndex

/- No records. -/
def empty : SearchIndex :=
  ⟨#[], [], TermIndex.empty⟩

/- The stored record in a slot. -/
def stored?
    (index : SearchIndex)
    (slot : Nat) :
    Option Stored :=
  index.records[slot]?.join

/- The slot of an identifier. -/
def slot?
    (index : SearchIndex)
    (id : RecordId) :
    Option Nat :=
  index.slots.lookup id

/- Forget the record with an identifier, if there is one. -/
def remove
    (index : SearchIndex)
    (id : RecordId) :
    SearchIndex :=
  match index.slot? id with
  | none => index
  | some slot => {
      records := index.records.setIfInBounds slot none
      slots := index.slots.filter fun entry => entry.1 ≠ id
      terms := index.terms.removeSlot slot
    }

/- Put a record with a new identifier into the next slot. -/
def append
    (index : SearchIndex)
    (record : Record)
    (terms : RecordTerms) :
    SearchIndex where
  records := index.records.push (some (Stored.ofRecord record terms))
  slots := (record.id, index.records.size) :: index.slots
  terms := index.terms.insert index.records.size terms

/- Add a record, in place of one with the same identifier. -/
def add
    (index : SearchIndex)
    (record : Record) :
    SearchIndex :=
  (index.remove record.id).append record (RecordTerms.ofRecord record)

/- The index of some records, added one by one. -/
def ofRecords
    (records : List Record) :
    SearchIndex :=
  records.foldl add empty

end SearchIndex

end SiteSearch

------------------------------------------------------------
-- Statistics
------------------------------------------------------------

namespace SiteSearch.SearchIndex

/- The number of live records. -/
def size
    (index : SearchIndex) :
    Nat :=
  index.slots.length

/- Whether there are no records. -/
def isEmpty
    (index : SearchIndex) :
    Bool :=
  index.slots.isEmpty

/- Whether a record has an identifier. -/
def contains
    (index : SearchIndex)
    (id : RecordId) :
    Bool :=
  (index.slot? id).isSome

/- The number of different parents; having none counts as one. -/
def parentCount
    (index : SearchIndex) :
    Nat :=
  (index.records.toList.filterMap fun stored =>
    stored.map (·.parent)).eraseDups.length

/- The number of different terms. -/
def termCount
    (index : SearchIndex) :
    Nat :=
  index.terms.size

end SiteSearch.SearchIndex

------------------------------------------------------------
-- Search
------------------------------------------------------------

namespace SiteSearch.SearchIndex

variable {σ : Type}
variable [Score σ]
variable [DecidableLT σ]

/- Keep the best score of a slot. -/
def keepBest
    (slot : Nat)
    (score : σ) :
    List (Nat × σ) → List (Nat × σ)
  | [] =>
      [(slot, if Score.ofNat 0 < score then score else Score.ofNat 0)]
  | (other, best) :: hits =>
      if other = slot then
        (other, if best < score then score else best) :: hits
      else (other, best) :: keepBest slot score hits

/-
  The score of one occurrence of a term that begins with a
  query term.
-/
def postingScore?
    (index : SearchIndex)
    (exact : Bool)
    (posting : Posting) :
    Option σ :=
  (index.stored? posting.slot).map fun stored =>
    termScore posting.field posting.position
      (stored.fieldLength posting.field) exact

/-
  The slots and scores of all occurrences that a query term
  hits.
-/
def hits
    (index : SearchIndex)
    (term : String) :
    List (Nat × σ) :=
  (index.terms.startingWith term).flatMap fun entry =>
    entry.2.filterMap fun posting =>
      (index.postingScore? (entry.1 == term) posting).map
        fun score => (posting.slot, score)

/- The best score of each slot that a query term hits. -/
def bestHits
    (index : SearchIndex)
    (term : String) :
    List (Nat × σ) :=
  (index.hits term).foldl
    (fun best hit => keepBest hit.1 hit.2 best) []

/-
  The slots that both lists hold, with the sum of their
  scores.
-/
def both
    (totals best : List (Nat × σ)) :
    List (Nat × σ) :=
  totals.filterMap fun (slot, total) =>
    (best.lookup slot).map fun score => (slot, total + score)

/-
  The slots that every term hits, with the sum of their best
  scores.
-/
def totals
    (index : SearchIndex) :
    List String → List (Nat × σ)
  | [] => []
  | term :: terms =>
      terms.foldl
        (fun totals term => both totals (index.bestHits term))
        (index.bestHits term)

/-
  The best matches of a query in order, at most `limit` of
  them.
-/
def search
    (index : SearchIndex)
    (query : String)
    (limit : Nat) :
    List (Match σ) :=
  let candidates :=
    (index.totals (Text.terms query).eraseDups).map
      fun (slot, score) => ⟨slot, score⟩
  (rank candidates limit).filterMap fun candidate =>
    (index.stored? candidate.slot).map fun stored =>
      stored.toMatch candidate.score

end SiteSearch.SearchIndex
