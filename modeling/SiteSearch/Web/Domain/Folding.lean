import SiteSearch.Unicode.Composition
import SiteSearch.Unicode.Lowercase
import SiteSearch.Unicode.Printable
import SiteSearch.Web.Domain.FoldingTable

/-
  Names that mean the same.

  Key definitions include:
    * `SiteSearch.Domain.foldChar?`
    * `SiteSearch.Domain.fold?`

  Names that differ only in case, style or width of their
  letters, or in how a letter and its marks are put together,
  are the same name.  Folding a name yields the one of them
  that is written, or fails at a character that no name may
  hold.
-/

------------------------------------------------------------
-- Characters
------------------------------------------------------------

namespace SiteSearch.Domain

/-
  The zero-width non-joiner and joiner, which only some
  places in a label allow.
-/
def nonJoiner : Char := '\u200c'
def joiner : Char := '\u200d'

/- The code point that a shifted one stands for. -/
def shifted?
    (code : Nat) :
    List (Nat × Nat × Nat) → Option Nat
  | [] => none
  | (first, last, target) :: runs =>
      if code < first then none
      else if code ≤ last then some (target + (code - first))
      else shifted? code runs

/- The text that a character stands for. -/
def foldedChar
    (c : Char) :
    List Char :=
  match shifted? c.toNat shiftedRanges with
  | some code => [Char.ofNat code]
  | none =>
      match foldedRows.row? c.toNat with
      | some text => text.toList
      | none => Unicode.lowercase c

/- The text that a character stands for, if a name may hold it. -/
def foldChar?
    (c : Char) :
    Option (List Char) :=
  if ignoredRanges.contains c.toNat then some []
  else if c = nonJoiner ∨ c = joiner then some [c]
  else if !Unicode.isPrintable c ||
      refusedRanges.contains c.toNat then none
  else some (foldedChar c)

end SiteSearch.Domain

------------------------------------------------------------
-- Names
------------------------------------------------------------

namespace SiteSearch.Domain

/- The folded form of a name. -/
def fold?
    (name : List Char) :
    Option (List Char) := do
  let texts ← name.mapM foldChar?
  return Unicode.composeText texts.flatten

/- Whether a name is its own folded form. -/
def isFolded
    (name : List Char) :
    Bool :=
  fold? name == some name

end SiteSearch.Domain
