/-
  Character classes and tables of characters.

  Key definitions include:
    * `SiteSearch.Unicode.Ranges`
    * `SiteSearch.Unicode.Ranges.contains`
    * `SiteSearch.Unicode.Rows`
    * `SiteSearch.Unicode.Rows.row?`

  A class of characters is listed as its maximal ranges of
  code points, both ends included, in ascending order.  A
  table gives a row for each code point of some ascending
  runs.  A lookup stops at the first range or run that lies
  beyond the code point.
-/

------------------------------------------------------------
-- Ranges
------------------------------------------------------------

namespace SiteSearch.Unicode

/-
  Ascending ranges of code points, given by first and last
  member.
-/
abbrev Ranges := List (Nat × Nat)

namespace Ranges

/- Whether a code point lies in one of the ranges. -/
def contains
    (code : Nat) :
    Ranges → Bool
  | [] => false
  | (first, last) :: ranges =>
      if code < first then false
      else if code ≤ last then true
      else contains code ranges

end Ranges

end SiteSearch.Unicode

------------------------------------------------------------
-- Rows
------------------------------------------------------------

namespace SiteSearch.Unicode

/-
  Ascending runs of rows, each run given by its first code
  point.
-/
abbrev Rows (α : Type) := List (Nat × List α)

namespace Rows

/- The row of a code point. -/
def row?
    {α : Type}
    (code : Nat) :
    Rows α → Option α
  | [] => none
  | (first, rows) :: runs =>
      if code < first then none
      else
        match rows[code - first]? with
        | some row => some row
        | none => row? code runs

/- The first code point with a row of some kind. -/
def code?
    {α : Type}
    (wanted : α → Bool) :
    Rows α → Option Nat
  | [] => none
  | (first, rows) :: runs =>
      match rows.findIdx? wanted with
      | some index => some (first + index)
      | none => code? wanted runs

end Rows

end SiteSearch.Unicode
