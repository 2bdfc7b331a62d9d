import SiteSearch.Proofs.Unicode.Classes
import Mathlib.Data.Nat.Bitwise

/-
  Sets of code points as numbers.

  A set of code points is a number with one bit set for each
  of them.  Whether two tables have a code point in common is
  then seen from the bits that their numbers share, without
  going through one table for each entry of the other.

  Main declarations:
    * `SiteSearch.Unicode.unionBits`
    * `SiteSearch.Unicode.testBit_codeBits_iff`
    * `SiteSearch.Unicode.Ranges.testBit_bits`
    * `SiteSearch.Unicode.Rows.testBit_bits_iff`
    * `SiteSearch.Unicode.not_testBit_of_land_eq_zero`
-/

------------------------------------------------------------
-- Unions
------------------------------------------------------------

namespace SiteSearch.Unicode

variable {α : Type}

/- All code points of the sets that belong to some items. -/
def unionBits
    (bits : α → Nat)
    (items : List α) :
    Nat :=
  items.foldr (fun item union => bits item ||| union) 0

/- A code point of the union is one of some set. -/
theorem testBit_unionBits_iff
    (bits : α → Nat)
    (items : List α)
    (code : Nat) :
    (unionBits bits items).testBit code = true ↔
      ∃ item ∈ items, (bits item).testBit code = true := by
  induction items with
  | nil => simp [unionBits]
  | cons item items ih =>
      have hStep : unionBits bits (item :: items) =
          bits item ||| unionBits bits items := rfl
      rw [hStep, Nat.testBit_or, Bool.or_eq_true, ih]
      simp

/-
  What is in one of two sets without common members is not
  in the other.
-/
theorem not_testBit_of_land_eq_zero
    {a b code : Nat}
    (hApart : a &&& b = 0)
    (hCode : a.testBit code = true) :
    b.testBit code = false := by
  have hBoth : (a &&& b).testBit code = false := by
    rw [hApart, Nat.zero_testBit]
  simpa [Nat.testBit_and, hCode] using hBoth

end SiteSearch.Unicode

------------------------------------------------------------
-- Code Points
------------------------------------------------------------

namespace SiteSearch.Unicode

/- Some code points. -/
def codeBits
    (codes : List Nat) :
    Nat :=
  unionBits (fun code => 1 <<< code) codes

theorem testBit_codeBits_iff
    (codes : List Nat)
    (code : Nat) :
    (codeBits codes).testBit code = true ↔ code ∈ codes := by
  simp [codeBits, testBit_unionBits_iff, Nat.one_shiftLeft,
    Nat.testBit_two_pow]

/- Consecutive code points. -/
def runBits
    (first count : Nat) :
    Nat :=
  (2 ^ count - 1) <<< first

theorem testBit_runBits_iff
    (first count code : Nat) :
    (runBits first count).testBit code = true ↔
      first ≤ code ∧ code < first + count := by
  rw [runBits, Nat.testBit_shiftLeft, Nat.testBit_two_pow_sub_one,
    Bool.and_eq_true, decide_eq_true_eq, decide_eq_true_eq]
  omega

end SiteSearch.Unicode

------------------------------------------------------------
-- Ranges
------------------------------------------------------------

namespace SiteSearch.Unicode.Ranges

/- The code points of a class. -/
def bits
    (ranges : Ranges) :
    Nat :=
  unionBits (fun range => runBits range.1 (range.2 + 1 - range.1))
    ranges

/- They hold what the class contains. -/
theorem testBit_bits
    {ranges : Ranges}
    {code : Nat}
    (hCode : ranges.contains code = true) :
    ranges.bits.testBit code = true := by
  rcases exists_of_contains hCode with ⟨range, hRange, hFirst, hLast⟩
  rw [bits, testBit_unionBits_iff]
  refine ⟨range, hRange, (testBit_runBits_iff _ _ _).mpr ?_⟩
  omega

end SiteSearch.Unicode.Ranges

------------------------------------------------------------
-- Rows
------------------------------------------------------------

namespace SiteSearch.Unicode.Rows

variable {α : Type}

/- The code points with a row. -/
def bits
    (rows : Rows α) :
    Nat :=
  unionBits (fun run => runBits run.1 run.2.length) rows

/- A row belongs to a code point of some run. -/
theorem testBit_bits_of_row?
    {rows : Rows α}
    {code : Nat}
    {row : α}
    (hRow : rows.row? code = some row) :
    rows.bits.testBit code = true := by
  rw [bits, testBit_unionBits_iff]
  induction rows with
  | nil => simp [row?] at hRow
  | cons run runs ih =>
      unfold row? at hRow
      split at hRow
      · cases hRow
      · rename_i hFirst
        split at hRow
        · rename_i hPlace
          rcases List.getElem?_eq_some_iff.mp hPlace with ⟨hLength, -⟩
          refine ⟨run, List.mem_cons_self, ?_⟩
          rw [testBit_runBits_iff]
          omega
        · rcases ih hRow with ⟨other, hOther, hCode⟩
          exact ⟨other, List.mem_cons_of_mem run hOther, hCode⟩

/-
  The row of a run that a code point lies in is one of the
  entries.
-/
theorem exists_row?_of_testBit
    {rows : Rows α}
    (hAscending : rows.Pairwise fun a b => a.1 ≤ b.1)
    {code : Nat}
    (hCode : rows.bits.testBit code = true) :
    ∃ row, rows.row? code = some row := by
  rw [bits, testBit_unionBits_iff] at hCode
  induction rows with
  | nil => simp at hCode
  | cons head runs ih =>
      rcases List.pairwise_cons.mp hAscending with ⟨hHead, hRest⟩
      rcases hCode with ⟨run, hRun, hBit⟩
      have hBounds := (testBit_runBits_iff _ _ _).mp hBit
      have hStart : head.1 ≤ code := by
        rcases List.mem_cons.mp hRun with rfl | hBehind
        · exact hBounds.1
        · exact (hHead run hBehind).trans hBounds.1
      unfold row?
      rw [if_neg (Nat.not_lt.mpr hStart)]
      cases hPlace : head.2[code - head.1]? with
      | some row => exact ⟨row, rfl⟩
      | none =>
          have hLength := List.getElem?_eq_none_iff.mp hPlace
          rcases List.mem_cons.mp hRun with rfl | hBehind
          · omega
          · exact ih hRest ⟨run, hBehind, hBit⟩

end SiteSearch.Unicode.Rows
