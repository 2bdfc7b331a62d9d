/-
  Scores.

  Key definitions include:
    * `SiteSearch.Score`
    * `SiteSearch.SearchedField`
    * `SiteSearch.positionBonus`
    * `SiteSearch.termScore`

  A hit in a title outweighs any hit in a content, a whole
  word outweighs the beginning of one, and a word near the
  start of a field scores slightly more than a later one.
  The formulas ask only for arithmetic and an order, so that
  they can be read over floating-point numbers, with their
  rounding, and over the rational numbers, without.
-/

------------------------------------------------------------
-- Arithmetic
------------------------------------------------------------

namespace SiteSearch

/- The arithmetic and the order that scores need. -/
class Score (σ : Type) extends Add σ, Sub σ, Mul σ, Div σ, LT σ where
  ofNat : Nat → σ

instance : Score Float where
  ofNat := Float.ofNat

instance : Score Rat where
  ofNat n := n

end SiteSearch

------------------------------------------------------------
-- Fields
------------------------------------------------------------

namespace SiteSearch

/- The fields of a record that are searched. -/
inductive SearchedField where
  | title
  | content
deriving DecidableEq, Repr

/- The name of a field. -/
def SearchedField.name :
    SearchedField → String
  | title => "title"
  | content => "content"

end SiteSearch

------------------------------------------------------------
-- Formulas
------------------------------------------------------------

namespace SiteSearch

variable {σ : Type}
variable [Score σ]

/- One half. -/
def half : σ :=
  Score.ofNat 1 / Score.ofNat 2

/-
  What a hit in a field is worth before position and
  exactness.
-/
def baseScore :
    SearchedField → σ
  | .title => Score.ofNat 100
  | .content => Score.ofNat 1

/-
  At most one half, for the first term of a field; the later
  the less.
-/
def positionBonus
    (position length : Nat) :
    σ :=
  if 0 < length then
    half * (Score.ofNat 1 - Score.ofNat position / Score.ofNat length)
  else Score.ofNat 0

/-
  What one query term gets for one occurrence; half of it
  for a mere beginning.
-/
def termScore
    (field : SearchedField)
    (position length : Nat)
    (exact : Bool) :
    σ :=
  let full := baseScore field + positionBonus position length
  if exact then full else full * half

end SiteSearch
