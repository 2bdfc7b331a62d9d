import SiteSearch.Proofs.Artifact.Agreement

/-
  Search data put together.

  The elements of two arrays may be written into one array,
  with a comma between them.  It holds the elements of both,
  and each of them is read as before: what is a record stays
  one, and what is skipped is skipped for the same reason.

  Main declarations:
    * `SiteSearch.Artifact.both`
    * `SiteSearch.Artifact.listed_of_values_only`
    * `SiteSearch.Artifact.values_both`
    * `SiteSearch.Artifact.loads_both`
-/

------------------------------------------------------------
-- Elements
------------------------------------------------------------

namespace SiteSearch.Artifact

open Json

/- The bytes of an array with the elements of two. -/
def both
    (front back : List UInt8) :
    List UInt8 :=
  only (front ++ byte ',' :: back)

/-
  The elements between two brackets are listed up to the
  last bracket.
-/
theorem listed_of_values_only
    {bytes : List UInt8}
    {items : List Json}
    (hValues : values (only bytes) = .ok items) :
    Listed (byte ']') (value (depthLimit - 1)) true
      (bytes ++ [byte ']']) items [] := by
  rcases values_eq_ok_iff.mp hValues with
    ⟨front, rest, hSkip, hListed, hEnd⟩
  rw [skipSpace_only, List.cons.injEq] at hSkip
  rw [← hSkip.2] at hListed
  rcases hListed.exists_front (framed_value _) with ⟨inner, hBytes, -⟩
  rw [(eq_of_append_close_eq hBytes hEnd).2] at hListed
  exact hListed

/- Behind a comma stand the elements that could stand first. -/
theorem listed_behind_comma_of_first
    {item : Reader Json}
    {bytes rest : List UInt8}
    {items : List Json}
    (hListed : Listed (byte ']') item true bytes items rest)
    (hSome : items ≠ []) :
    Listed (byte ']') item false (byte ',' :: bytes) items rest := by
  cases hListed with
  | close hClose => exact absurd rfl hSome
  | item hAhead hItem hMore =>
      cases hAhead with
      | first hFront hOpen =>
          exact .item
            (.next (skipSpace_cons (by decide) bytes) hFront hOpen)
            hItem hMore

/- An array with the elements of two holds those of both. -/
theorem values_both
    {front back : List UInt8}
    {items others : List Json}
    (hFront : values (only front) = .ok items)
    (hBack : values (only back) = .ok others)
    (hItems : items ≠ [])
    (hOthers : others ≠ []) :
    values (both front back) = .ok (items ++ others) := by
  rcases (listed_of_values_only hFront).exists_front
    (framed_value _) with
    ⟨inner, hBytes, hAgain⟩
  rcases eq_of_append_close_eq hBytes rfl with ⟨rfl, -⟩
  have hBehind := listed_behind_comma_of_first
    (listed_of_values_only hBack) hOthers
  have hFirst : (true && items.isEmpty) = false := by
    rw [List.isEmpty_eq_false_iff.mpr hItems, Bool.and_false]
  -- A comma continues no number, so the last element ends where it did.
  have hListed := hAgain (byte ',' :: (back ++ [byte ']'])) others []
    (Or.inr (by rintro _ ⟨⟩; decide)) (hFirst ▸ hBehind)
  refine values_eq_ok_iff.mpr ⟨_, [], skipSpace_only _, ?_, rfl⟩
  rw [List.append_assoc]
  exact hListed

end SiteSearch.Artifact

------------------------------------------------------------
-- Records and Skipped Elements
------------------------------------------------------------

namespace SiteSearch

/- What is skipped, with some elements more in front of it. -/
def Skip.behind
    (count : Nat)
    (skip : Skip) :
    Skip :=
  { skip with position := skip.position + count }

namespace Artifact

/- Each element is a record or not, whatever stands beside it. -/
theorem recordsOf_append
    (items others : List Json) :
    recordsOf (items ++ others) = recordsOf items ++ recordsOf others :=
  List.filterMap_append

/- There are no more records than elements. -/
theorem length_recordsOf_le
    (items : List Json) :
    (recordsOf items).length ≤ items.length :=
  List.length_filterMap_le _ items

/-
  An element is skipped for the same reason wherever it
  stands.
-/
theorem skip?_add
    (v : Json)
    (position count : Nat) :
    skip? v (position + count) =
      (skip? v position).map (Skip.behind count) := by
  unfold skip?
  cases Record.ofJson v <;> rfl

/- What is skipped behind others is skipped at its new place. -/
theorem skipsOf_append
    (items others : List Json) :
    skipsOf (items ++ others) =
      skipsOf items ++
        (skipsOf others).map (Skip.behind items.length) := by
  unfold skipsOf
  rw [List.zipIdx_append, List.filterMap_append, Nat.zero_add]
  -- The elements of the first list keep their places.
  refine congrArg _ ?_
  rw [List.map_filterMap, List.zipIdx_eq_map_add, List.filterMap_map]
  apply List.filterMap_congr
  rintro ⟨v, position⟩ -
  change skip? v (items.length + position) = _
  rw [Nat.add_comm]
  exact skip?_add v position items.length

/- Records and skipped elements are all the elements there are. -/
theorem records_add_skipped
    (location : String)
    (bytes : List UInt8)
    (items : List Json) :
    (ofValues location bytes items).info.records +
      (ofValues location bytes items).info.skipped = items.length :=
  Nat.add_sub_of_le (length_recordsOf_le items)

/-
  What is known of the elements is known of elements that
  were read.
-/
theorem exists_values_of_map
    {α : Type}
    {bytes : List UInt8}
    {f : List Json → α}
    {a : α}
    (hKnown : (values bytes).toOption.map f = some a) :
    ∃ items, values bytes = .ok items ∧ f items = a := by
  cases hValues : values bytes with
  | error cause =>
      rw [hValues] at hKnown
      cases hKnown
  | ok items =>
      rw [hValues] at hKnown
      exact ⟨items, rfl, Option.some.inj hKnown⟩

/- Bytes that hold some elements are loaded with as many. -/
theorem exists_artifact_of_length
    (location : String)
    {bytes : List UInt8}
    {count : Nat}
    (hCount : (values bytes).toOption.map List.length = some count) :
    ∃ artifact, ofBytes location bytes = .ok artifact ∧
      artifact.info.records + artifact.info.skipped = count := by
  rcases exists_values_of_map hCount with ⟨items, hValues, rfl⟩
  exact ⟨ofValues location bytes items,
    ofBytes_eq_ok_iff.mpr ⟨items, hValues, rfl⟩,
    records_add_skipped location bytes items⟩

/-
  The records of search data stand alone.  Two arrays that are
  loaded, with at least one element each, are loaded together
  when their elements are written into one array.  Its records
  are those of the first and then those of the second, and as
  many elements are skipped as in both, each for the same
  reason as before.
-/
theorem loads_both
    {location location' : String}
    {front back : List UInt8}
    {first second : Artifact}
    (hFirst : ofBytes location (only front) = .ok first)
    (hSecond : ofBytes location' (only back) = .ok second)
    (hSome : 1 ≤ first.info.records + first.info.skipped)
    (hSome' : 1 ≤ second.info.records + second.info.skipped)
    (together : String) :
    ∃ artifact,
      ofBytes together (both front back) = .ok artifact ∧
      artifact.records = first.records ++ second.records ∧
      artifact.info.skipped = first.info.skipped + second.info.skipped ∧
      artifact.skips =
        first.skips ++ second.skips.map
          (Skip.behind (first.info.records + first.info.skipped)) := by
  rcases ofBytes_eq_ok_iff.mp hFirst with ⟨items, hItems, rfl⟩
  rcases ofBytes_eq_ok_iff.mp hSecond with ⟨others, hOthers, rfl⟩
  rw [records_add_skipped] at hSome hSome'
  have hValues := values_both hItems hOthers
    (List.ne_nil_of_length_pos hSome) (List.ne_nil_of_length_pos hSome')
  refine ⟨_, ofBytes_eq_ok_iff.mpr ⟨_, hValues, rfl⟩,
    recordsOf_append items others, ?_, ?_⟩
  · have hCount := length_recordsOf_le items
    have hCount' := length_recordsOf_le others
    simp only [ofValues, recordsOf_append, List.length_append]
    omega
  · rw [records_add_skipped]
    exact skipsOf_append items others

/- A text that no record is written in. -/
def bareNumber : List UInt8 := Bytes.ofText " 7"

/- A record is loaded together with an element that is skipped. -/
theorem loads_both_of_home :
    ∃ first second artifact,
      ofBytes "home.json" (only Record.homeText) = .ok first ∧
      ofBytes "number.json" (only bareNumber) = .ok second ∧
      1 ≤ first.info.records + first.info.skipped ∧
      1 ≤ second.info.records + second.info.skipped ∧
      ofBytes "both.json" (both Record.homeText bareNumber) =
        .ok artifact ∧
      artifact.records = first.records ++ second.records ∧
      artifact.info.skipped =
        first.info.skipped + second.info.skipped := by
  rcases exists_artifact_of_length "home.json"
      (show (values (only Record.homeText)).toOption.map List.length =
        some 1 by decide +kernel) with
    ⟨first, hFirst, hSome⟩
  rcases exists_artifact_of_length "number.json"
      (show (values (only bareNumber)).toOption.map List.length =
        some 1 by decide +kernel) with
    ⟨second, hSecond, hSome'⟩
  rcases loads_both hFirst hSecond hSome.ge hSome'.ge "both.json" with
    ⟨artifact, hBoth, hRecords, hSkipped, -⟩
  exact ⟨first, second, artifact, hFirst, hSecond, hSome.ge, hSome'.ge,
    hBoth, hRecords, hSkipped⟩

end Artifact

end SiteSearch
