/-
  Identifiers of records.

  Key definitions include:
    * `SiteSearch.RecordId`
    * `SiteSearch.RecordId.compare`

  Site generators name their pages by whole numbers or by
  texts.  The number 1 and the text "1" are different
  identifiers.
-/

------------------------------------------------------------
-- Identifiers
------------------------------------------------------------

namespace SiteSearch

/-
  What tells one record from another; negative numbers stand
  apart.
-/
inductive RecordId where
  | number (value : UInt64)
  | signed (value : Int64)
  | text (value : String)
deriving DecidableEq, Repr

namespace RecordId

/- An identifier as shown. -/
def display :
    RecordId → String
  | number value => toString value
  | signed value => toString value
  | text value => value

/- Numbers come before negative ones, and these before texts. -/
def compare :
    RecordId → RecordId → Ordering
  | number a, number b => Ord.compare a b
  | number _, _ => .lt
  | signed _, number _ => .gt
  | signed a, signed b => Ord.compare a b
  | signed _, text _ => .lt
  | text a, text b => Ord.compare a b
  | text _, _ => .gt

end RecordId

end SiteSearch
