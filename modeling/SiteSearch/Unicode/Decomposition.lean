import SiteSearch.Unicode.CombiningClass
import SiteSearch.Unicode.DecompositionTable

/-
  Canonical decomposition of characters and texts.

  Key definitions include:
    * `SiteSearch.Unicode.decompose`
    * `SiteSearch.Unicode.reorder`
    * `SiteSearch.Unicode.decomposeText`

  A text is decomposed by replacing each character with its
  full canonical decomposition and then sorting every run of
  characters of non-zero combining class by that class,
  keeping the order of equal classes.
-/

------------------------------------------------------------
-- One Character
------------------------------------------------------------

namespace SiteSearch.Unicode

/-
  The parts of a precomposed Hangul syllable, given by its
  distance from the first one: a leading consonant, a vowel
  and, for most syllables, a trailing consonant.
-/
def hangulParts
    (index : Nat) :
    List Char :=
  let leading := Char.ofNat (0x1100 + index / 588)
  let vowel := Char.ofNat (0x1161 + index % 588 / 28)
  if index % 28 = 0 then [leading, vowel]
  else [leading, vowel, Char.ofNat (0x11A7 + index % 28)]

/- The full canonical decomposition of one character. -/
def decompose
    (c : Char) :
    List Char :=
  if 0xAC00 ≤ c.toNat ∧ c.toNat ≤ 0xD7A3 then
    hangulParts (c.toNat - 0xAC00)
  else
    match decompositionRuns.row? c.toNat with
    | some row => row.map Char.ofNat
    | none => [c]

end SiteSearch.Unicode

------------------------------------------------------------
-- Texts
------------------------------------------------------------

namespace SiteSearch.Unicode

/-
  Put a character in front of an ordered text, behind the
  leading characters of smaller non-zero class.
-/
def insertByClass
    (c : Char) :
    List Char → List Char
  | [] => [c]
  | d :: rest =>
      if 0 < combiningClass d ∧
          combiningClass d < combiningClass c then
        d :: insertByClass c rest
      else c :: d :: rest

/-
  Sort every run of non-zero classes, keeping equal ones in
  order.
-/
def reorder
    (text : List Char) :
    List Char :=
  text.foldr insertByClass []

/- The canonical decomposition of a text. -/
def decomposeText
    (text : List Char) :
    List Char :=
  reorder (text.flatMap decompose)

end SiteSearch.Unicode
