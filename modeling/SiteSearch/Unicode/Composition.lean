import SiteSearch.Unicode.Decomposition

/-
  Canonical composition of texts.

  Key definitions include:
    * `SiteSearch.Unicode.compose?`
    * `SiteSearch.Unicode.composeText`

  Composing undoes decomposing: a character and a mark are
  joined when some character has just their decomposition.
  In a text, every mark is joined with the last character of
  class zero in front of it, unless a mark between them is in
  the way.
-/

------------------------------------------------------------
-- Pairs
------------------------------------------------------------

namespace SiteSearch.Unicode

/-
  The code points that have a decomposition but are never
  composed.
-/
def uncomposedRanges : Ranges :=
  [(0x344, 0x344), (0x958, 0x95F), (0x9DC, 0x9DD), (0x9DF, 0x9DF),
   (0xA33, 0xA33), (0xA36, 0xA36), (0xA59, 0xA5B), (0xA5E, 0xA5E),
   (0xB5C, 0xB5D), (0xF43, 0xF43), (0xF4D, 0xF4D), (0xF52, 0xF52),
   (0xF57, 0xF57), (0xF5C, 0xF5C), (0xF69, 0xF69), (0xF73, 0xF73),
   (0xF75, 0xF76), (0xF78, 0xF78), (0xF81, 0xF81), (0xF93, 0xF93),
   (0xF9D, 0xF9D), (0xFA2, 0xFA2), (0xFA7, 0xFA7), (0xFAC, 0xFAC),
   (0xFB9, 0xFB9), (0x2ADC, 0x2ADC), (0xFB1D, 0xFB1D),
   (0xFB1F, 0xFB1F), (0xFB2A, 0xFB36), (0xFB38, 0xFB3C),
   (0xFB3E, 0xFB3E), (0xFB40, 0xFB41), (0xFB43, 0xFB44),
   (0xFB46, 0xFB4E), (0x1D15E, 0x1D164), (0x1D1BB, 0x1D1C0)]

/-
  The Hangul syllable of two parts: a leading consonant and a
  vowel, or a syllable without a trailing consonant and one.
-/
def composeHangul?
    (a b : Nat) :
    Option Nat :=
  if 0x1100 ≤ a ∧ a < 0x1113 ∧ 0x1161 ≤ b ∧ b < 0x1176 then
    some (0xAC00 + 588 * (a - 0x1100) + 28 * (b - 0x1161))
  else if 0xAC00 ≤ a ∧ a ≤ 0xD7A3 ∧ (a - 0xAC00) % 28 = 0 ∧
      0x11A8 ≤ b ∧ b < 0x11C3 then
    some (a + (b - 0x11A7))
  else none

/-
  The character that a character and the one behind it are
  joined to.
-/
def compose?
    (a b : Char) :
    Option Char :=
  match composeHangul? a.toNat b.toNat with
  | some code => some (Char.ofNat code)
  | none =>
      let parts := (decompose a ++ [b]).map Char.toNat
      match decompositionRuns.code? (· == parts) with
      | none => none
      | some code =>
          if uncomposedRanges.contains code then none
          else some (Char.ofNat code)

end SiteSearch.Unicode

------------------------------------------------------------
-- Texts
------------------------------------------------------------

namespace SiteSearch.Unicode

/-
  Whether a mark is kept apart by the marks in front of it,
  the nearest first.
-/
def isBlocked
    (c : Char) :
    List Char → Bool
  | [] => false
  | d :: _ => combiningClass c ≤ combiningClass d

/-
  Compose the rest of a decomposed text behind a character of
  class zero and the marks, in reverse, that did not join it.
-/
def composeFrom
    (base : Char)
    (marks : List Char) :
    List Char → List Char
  | [] => base :: marks.reverse
  | c :: rest =>
      match if isBlocked c marks then none else compose? base c with
      | some joined => composeFrom joined marks rest
      | none =>
          if combiningClass c = 0 then
            base :: (marks.reverse ++ composeFrom c [] rest)
          else composeFrom base (c :: marks) rest

/- Compose a decomposed text. -/
def composeDecomposed :
    List Char → List Char
  | [] => []
  | c :: rest =>
      if combiningClass c = 0 then composeFrom c [] rest
      else c :: composeDecomposed rest

/- The canonical composition of a text. -/
def composeText
    (text : List Char) :
    List Char :=
  composeDecomposed (decomposeText text)

end SiteSearch.Unicode
