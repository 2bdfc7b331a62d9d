import SiteSearch.Proofs.Bytes.Order
import SiteSearch.Proofs.Index.Beginning

/-
  The block of terms with a common beginning.

  Whether texts are compared by their characters or by their
  bytes, the terms that begin with a given text stand in one
  piece.  The terms before them come before that text, and if
  the text is a term, it is the first of them.  So the scan
  that starts at the text and stops at the first other term
  finds each of them once, in order, and nothing else.

  Main declarations:
    * `SiteSearch.TermIndex.byteScan`
    * `SiteSearch.TermIndex.IsBlock`
    * `SiteSearch.TermIndex.startingWith_eq_byteScan`
    * `SiteSearch.TermIndex.exists_before_behind`
    * `SiteSearch.TermIndex.scan_finds_whole_block`
-/

------------------------------------------------------------
-- The Scan by Bytes
------------------------------------------------------------

namespace SiteSearch.TermIndex

/-
  The entries from a text on, up to the first whose term does
  not begin with it; texts are compared byte by byte.
-/
def byteScan
    (entries : List TermEntry)
    (start : String) :
    List TermEntry :=
  (entries.dropWhile fun entry =>
      Bytes.ofText entry.1 < Bytes.ofText start).takeWhile
    fun entry => (Bytes.ofText start).isPrefixOf (Bytes.ofText entry.1)

/- A term begins with a text if its bytes do. -/
theorem beginsWith_iff_ofText
    (start : String)
    (entry : TermEntry) :
    beginsWith start entry = true ↔
      Bytes.ofText start <+: Bytes.ofText entry.1 := by
  rw [beginsWith, List.isPrefixOf_iff_prefix, Bytes.ofText_prefix_iff]

/- The scan by bytes finds what the scan by characters finds. -/
theorem startingWith_eq_byteScan
    (index : TermIndex)
    (start : String) :
    index.startingWith start = byteScan index.entries start := by
  have hBefore : ∀ entry : TermEntry,
      decide (entry.1 < start) =
        decide (Bytes.ofText entry.1 < Bytes.ofText start) := by
    intro entry
    rw [decide_eq_decide, Bytes.ofText_lt_iff]
  have hBegins : ∀ entry : TermEntry,
      beginsWith start entry =
        (Bytes.ofText start).isPrefixOf (Bytes.ofText entry.1) := by
    intro entry
    rw [Bool.eq_iff_iff, beginsWith_iff_ofText,
      List.isPrefixOf_iff_prefix]
  calc index.startingWith start
      = (index.entries.dropWhile fun entry => entry.1 < start).takeWhile
          fun entry => beginsWith start entry := rfl
    _ = byteScan index.entries start := by
        simp only [byteScan, hBefore, hBegins]

end SiteSearch.TermIndex

------------------------------------------------------------
-- One Piece
------------------------------------------------------------

namespace SiteSearch.TermIndex

/- Entries are found if their terms begin with the text. -/
theorem mem_startingWith_iff
    (index : TermIndex)
    (start : String)
    (entry : TermEntry) :
    entry ∈ index.startingWith start ↔
      entry ∈ index.entries ∧
        Bytes.ofText start <+: Bytes.ofText entry.1 := by
  rw [startingWith_eq_filter, List.mem_filter, beginsWith_iff_ofText]

/- What is found is in the order of the index. -/
theorem pairwise_startingWith
    (index : TermIndex)
    (start : String) :
    (index.startingWith start).Pairwise fun a b =>
      Bytes.ofText a.1 < Bytes.ofText b.1 := by
  rw [startingWith_eq_filter]
  refine (index.sorted.filter _).imp ?_
  intro a b hLess
  exact (Bytes.ofText_lt_iff a.1 b.1).mpr hLess

/- Behind the first miss of a scan there is none but misses. -/
theorem not_beginsWith_of_mem_dropWhile
    (start : String)
    {entries : List TermEntry}
    (hSorted : entries.Pairwise fun a b => a.1 < b.1)
    (hStart : ∀ entry ∈ entries, ¬ entry.1 < start) :
    ∀ entry ∈ entries.dropWhile (beginsWith start),
      ¬ beginsWith start entry = true := by
  -- The scan has taken all that begin with the text.
  have hTaken := takeWhile_beginsWith_eq_filter start hSorted hStart
  have hParts := congrArg (List.filter (beginsWith start))
    (List.takeWhile_append_dropWhile
      (p := beginsWith start) (l := entries))
  rw [List.filter_append, hTaken, List.filter_filter] at hParts
  simpa using hParts

/-
  The index consists of what comes before the text, what
  begins with it, and what comes behind all of that.
-/
theorem exists_before_behind
    (index : TermIndex)
    (start : String) :
    ∃ before behind : List TermEntry,
      index.entries = before ++ index.startingWith start ++ behind ∧
        (∀ entry ∈ before, entry.1 < start) ∧
          ∀ entry ∈ behind,
            start < entry.1 ∧ ¬ beginsWith start entry = true := by
  let later := index.entries.dropWhile fun entry => entry.1 < start
  have hLater : ∀ entry ∈ later, ¬ entry.1 < start :=
    not_lt_of_mem_dropWhile start index.sorted
  have hFound : index.startingWith start =
      later.takeWhile (beginsWith start) := rfl
  refine ⟨index.entries.takeWhile fun entry => entry.1 < start,
    later.dropWhile (beginsWith start), ?_, ?_, ?_⟩
  · rw [hFound, List.append_assoc, List.takeWhile_append_dropWhile,
      List.takeWhile_append_dropWhile]
  · intro entry hEntry
    simpa using List.mem_takeWhile_imp hEntry
  · intro entry hEntry
    have hOther : ¬ beginsWith start entry = true :=
      not_beginsWith_of_mem_dropWhile start
        (index.sorted.sublist (List.dropWhile_sublist _)) hLater
          entry hEntry
    have hNotBelow : ¬ entry.1 < start :=
      hLater entry ((List.dropWhile_sublist _).subset hEntry)
    have hNe : start ≠ entry.1 := by
      rintro rfl
      exact hOther (List.isPrefixOf_iff_prefix.mpr List.prefix_rfl)
    exact ⟨lt_of_le_of_ne (not_lt.mp hNotBelow) hNe, hOther⟩

/-
  A text that is a term stands first among those that begin
  with it.
-/
theorem head?_startingWith_of_mem
    (index : TermIndex)
    {entry : TermEntry}
    (hEntry : entry ∈ index.entries) :
    (index.startingWith entry.1).head? = some entry := by
  have hFound : entry ∈ index.startingWith entry.1 :=
    (mem_startingWith_iff ..).mpr ⟨hEntry, List.prefix_rfl⟩
  have hAscending := pairwise_startingWith index entry.1
  have hBegins : ∀ other ∈ index.startingWith entry.1,
      Bytes.ofText entry.1 <+: Bytes.ofText other.1 :=
        fun other hOther =>
    ((mem_startingWith_iff ..).mp hOther).2
  cases hBlock : index.startingWith entry.1 with
  | nil =>
      rw [hBlock] at hFound
      exact absurd hFound List.not_mem_nil
  | cons first others =>
      rw [hBlock] at hFound hAscending hBegins
      rcases List.mem_cons.mp hFound with hFirst | hLater
      · rw [hFirst, List.head?_cons]
      · have hLess := (List.pairwise_cons.mp hAscending).1 entry hLater
        have hPrefix := hBegins first List.mem_cons_self
        exact absurd hLess (List.not_lt.mpr hPrefix.le)

end SiteSearch.TermIndex

------------------------------------------------------------
-- The Whole Block
------------------------------------------------------------

namespace SiteSearch.TermIndex

/-
  Some entries are all those whose terms begin with a text,
  each once and in order, and they stand in one piece: what
  comes before them comes before the text, and what comes
  behind them begins with another.  All texts are compared by
  their bytes.
-/
structure IsBlock
    (entries : List TermEntry)
    (start : String)
    (found : List TermEntry) :
    Prop where
  mem_iff : ∀ entry, entry ∈ found ↔
    entry ∈ entries ∧ Bytes.ofText start <+: Bytes.ofText entry.1
  nodup_terms : (found.map Prod.fst).Nodup
  ascending : found.Pairwise fun a b =>
    Bytes.ofText a.1 < Bytes.ofText b.1
  itself_first : ∀ entry ∈ entries, entry.1 = start →
    found.head? = some entry
  one_piece : ∃ before behind : List TermEntry,
    entries = before ++ found ++ behind ∧
      (∀ entry ∈ before, Bytes.ofText entry.1 < Bytes.ofText start) ∧
        ∀ entry ∈ behind,
          Bytes.ofText start < Bytes.ofText entry.1 ∧
            ¬ Bytes.ofText start <+: Bytes.ofText entry.1

/-
  The scan for a beginning misses nothing and finds nothing
  else, whatever the terms are and whether the beginning is
  empty, a term, or the beginning of none.
-/
theorem scan_finds_whole_block
    (index : TermIndex)
    (start : String) :
    index.startingWith start = byteScan index.entries start ∧
      IsBlock index.entries start (index.startingWith start) := by
  have hAscending := pairwise_startingWith index start
  refine ⟨startingWith_eq_byteScan index start,
    mem_startingWith_iff index start, ?_, hAscending, ?_, ?_⟩
  · refine List.pairwise_map.mpr (hAscending.imp ?_)
    intro a b hLess
    exact ((Bytes.ofText_lt_iff a.1 b.1).mp hLess).ne
  · rintro entry hEntry rfl
    exact head?_startingWith_of_mem index hEntry
  · rcases exists_before_behind index start with
      ⟨before, behind, hEntries, hBefore, hBehind⟩
    refine ⟨before, behind, hEntries, ?_, ?_⟩
    · intro entry hEntry
      exact (Bytes.ofText_lt_iff entry.1 start).mpr
        (hBefore entry hEntry)
    · intro entry hEntry
      rw [Bytes.ofText_lt_iff, ← beginsWith_iff_ofText]
      exact hBehind entry hEntry

/-
  Three of five terms begin so, though the text itself is no
  term.
-/
example :
    ((empty.insert 0 ⟨["über", "install"],
      ["instant", "ins", "installation"]⟩).startingWith "inst").map
        Prod.fst = ["install", "installation", "instant"] := by
  decide

end SiteSearch.TermIndex
