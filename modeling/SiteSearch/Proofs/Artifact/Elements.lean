import SiteSearch.Artifact
import SiteSearch.Proofs.Json.Values

/-
  What search data is read from.

  The bytes of search data hold one array with nothing but
  space around it.  What stands behind its bracket does not
  matter to its elements, so that no two ways to read it end
  at different brackets.

  Main declarations:
    * `SiteSearch.Artifact.readValues_eq_ok_iff`
    * `SiteSearch.Artifact.indifferent_readValues`
    * `SiteSearch.Artifact.values_eq_ok_iff`
    * `SiteSearch.Artifact.ofBytes_eq_ok_iff`
-/

------------------------------------------------------------
-- Elements
------------------------------------------------------------

namespace SiteSearch.Artifact

open Json

/- Elements are read behind the bracket that opens the array. -/
theorem readValues_eq_ok_iff
    {bytes rest : List UInt8}
    {items : List Json} :
    readValues bytes = .ok (items, rest) ↔
      ∃ front, skipSpace bytes = byte '[' :: front ∧
        Listed (byte ']') (value (depthLimit - 1)) true front items
          rest := by
  have hElements : ∀ front,
      (sequence kept element []).map List.reverse front =
          .ok (items, rest) ↔
        Listed (byte ']') (value (depthLimit - 1)) true
          front items rest := by
    intro front
    rw [Reader.map_eq_ok_iff]
    constructor
    · rintro ⟨reversed, hRead, rfl⟩
      exact (sequence_eq_ok_iff_listed (consuming_value _)).mp hRead
    · intro hListed
      refine ⟨items.reverse, ?_, List.reverse_reverse items⟩
      refine (sequence_eq_ok_iff_listed (consuming_value _)).mpr ?_
      rw [List.reverse_reverse]
      exact hListed
  unfold readValues
  cases hSkip : skipSpace bytes with
  | nil => simp
  | cons b front =>
      dsimp only
      by_cases hBracket : b = byte '['
      · rw [if_pos hBracket, hElements]
        constructor
        · intro hListed
          exact ⟨front, by rw [hBracket], hListed⟩
        · rintro ⟨_, hSame, hListed⟩
          rw [List.cons.injEq] at hSame
          rw [hSame.2]
          exact hListed
      · rw [if_neg hBracket]
        constructor
        · intro hRead
          rcases bind_eq_ok_iff.mp hRead with ⟨result, -, hConvert⟩
          cases hConvert
        · rintro ⟨_, hSame, -⟩
          rw [List.cons.injEq] at hSame
          exact absurd hSame.1 hBracket

/- An array ends at its bracket, whatever stands behind it. -/
theorem indifferent_readValues
    (more : List UInt8) :
    readValues.Indifferent more := by
  intro bytes items rest hRead
  rcases readValues_eq_ok_iff.mp hRead with ⟨front, hSkip, hListed⟩
  rcases hListed.exists_taken (framed_value _) with
    ⟨taken, -, rfl, hAgain⟩
  refine readValues_eq_ok_iff.mpr
    ⟨taken ++ (rest ++ more), ?_, hAgain (rest ++ more)⟩
  rw [skipSpace_append hSkip more, List.append_assoc]

/-
  Bytes hold some elements if these stand in an array, with
  space around.
-/
theorem values_eq_ok_iff
    {bytes : List UInt8}
    {items : List Json} :
    values bytes = .ok items ↔
      ∃ front rest, skipSpace bytes = byte '[' :: front ∧
        Listed (byte ']') (value (depthLimit - 1)) true front items
          rest ∧
        skipSpace rest = [] := by
  rw [values, readAll_eq_ok_iff]
  simp only [readValues_eq_ok_iff]
  constructor
  · rintro ⟨rest, ⟨front, hSkip, hListed⟩, hEnd⟩
    exact ⟨front, rest, hSkip, hListed, hEnd⟩
  · rintro ⟨front, rest, hSkip, hListed, hEnd⟩
    exact ⟨rest, ⟨front, hSkip, hListed⟩, hEnd⟩

/- The search data that some elements make. -/
def ofValues
    (location : String)
    (bytes : List UInt8)
    (items : List Json) :
    Artifact where
  info := {
    location := location
    size := bytes.length
    checksum := Bytes.checksum bytes
    records := (recordsOf items).length
    skipped := items.length - (recordsOf items).length
  }
  records := recordsOf items
  skips := skipsOf items

/- Bytes hold search data if they hold elements. -/
theorem ofBytes_eq_ok_iff
    {location : String}
    {bytes : List UInt8}
    {artifact : Artifact} :
    ofBytes location bytes = .ok artifact ↔
      ∃ items, values bytes = .ok items ∧
        artifact = ofValues location bytes items := by
  unfold ofBytes
  cases values bytes with
  | error cause => simp
  | ok items => simp [ofValues, eq_comm]

end SiteSearch.Artifact
