import SiteSearch.Unicode.Direction
import SiteSearch.Unicode.Joining
import SiteSearch.Unicode.Mark
import SiteSearch.Web.Domain.Folding
import SiteSearch.Web.Domain.Punycode

/-
  Labels of names.

  Key definitions include:
    * `SiteSearch.Domain.Label`
    * `SiteSearch.Domain.Label.ofText?`
    * `SiteSearch.Domain.Label.isWellFormed`
    * `SiteSearch.Domain.Label.isWellDirected`

  A label is what stands between two dots of a name.  If it
  has letters beyond ASCII, it is written as `xn--` and an
  encoding of them, and may be given so as well.
-/

------------------------------------------------------------
-- Labels
------------------------------------------------------------

namespace SiteSearch.Domain

/- The letters of a label and how they are written in ASCII. -/
structure Label where
  letters : List Char
  written : List Char
deriving DecidableEq, Repr

namespace Label

/- What an encoded label begins with. -/
def encodedMark : List Char := "xn--".toList

/-
  The longest label that is encoded and the longest encoding
  that is read.
-/
def longestLabel : Nat := 1000
def longestEncoding : Nat := 2000

/-
  The letters of a label, given what follows the mark of an
  encoded one.
-/
def decode?
    (encoding : List Char) :
    Option (List Char) :=
  if encoding.isEmpty || encoding.getLast? == some '-' ||
      longestEncoding < encoding.length then none
  else
    match Punycode.decode? encoding with
    | none => none
    | some letters =>
        if isFolded letters && !encodedMark.isPrefixOf letters then
          some letters
        else none

/- The label that a part of a folded name gives. -/
def ofText?
    (text : List Char) :
    Option Label :=
  let isAscii := text.all fun c => c.toNat < 128
  if encodedMark.isPrefixOf text then
    if isAscii then
      (decode? (text.drop encodedMark.length)).map
        fun letters => ⟨letters, text⟩
    else none
  else if isAscii then some ⟨text, text⟩
  else some ⟨text, encodedMark ++ Punycode.encode text⟩

end Label

end SiteSearch.Domain

------------------------------------------------------------
-- Joiners
------------------------------------------------------------

namespace SiteSearch.Domain.Label

/- The combining class of the signs that kill a vowel. -/
def viramaClass : Nat := 9

/-
  Whether a joiner may stand between two parts of a label, the
  first one in reverse: behind a killed vowel or, where it is
  to keep them apart, between two letters that would join.
-/
def allowsJoiner
    (c : Char)
    (before rest : List Char) :
    Bool :=
  match before with
  | [] => false
  | last :: _ =>
      Unicode.combiningClass last == viramaClass ||
        (c == nonJoiner &&
          (before.dropWhile Unicode.isTransparent).head?.any
            Unicode.joinsForward &&
          (rest.dropWhile Unicode.isTransparent).head?.any
            Unicode.joinsBackward)

/-
  Whether the joiners in the rest of a label stand where
  they may.
-/
def joinersFit
    (before : List Char) :
    List Char → Bool
  | [] => true
  | c :: rest =>
      (if c = nonJoiner ∨ c = joiner then allowsJoiner c before rest
        else true) &&
        joinersFit (c :: before) rest

/-
  Whether a label has no mark in front, fitting joiners and
  no excessive length.
-/
def isWellFormed
    (label : Label) :
    Bool :=
  !label.letters.head?.any Unicode.isMark &&
    joinersFit [] label.letters &&
    (label.letters.all (fun c => c.toNat < 128) ||
      label.letters.length ≤ longestLabel)

end SiteSearch.Domain.Label

------------------------------------------------------------
-- Directions
------------------------------------------------------------

namespace SiteSearch.Domain.Label

/-
  Whether some letter of a label is written from right to
  left.
-/
def hasRightToLeft
    (label : Label) :
    Bool :=
  label.letters.any fun c =>
    Unicode.direction c == .rightToLeft ||
      Unicode.direction c == .arabicNumber

/-
  Whether the directions in a label leave no doubt of its
  order: it begins with a letter, has no letter of the other
  direction, ends in a letter or a number, and has numbers of
  one kind if it is written from right to left.
-/
def isWellDirected
    (label : Label) :
    Bool :=
  let directions := label.letters.map Unicode.direction
  let last? :=
    (directions.reverse.dropWhile (· == .nonspacing)).head?
  match directions with
  | [] => true
  | .leftToRight :: _ =>
      !directions.contains .rightToLeft &&
        !directions.contains .arabicNumber &&
        last?.any fun d => d == .leftToRight || d == .europeanNumber
  | .rightToLeft :: _ =>
      !directions.contains .leftToRight &&
        (last?.any fun d =>
          d == .rightToLeft || d == .europeanNumber ||
            d == .arabicNumber) &&
        !(directions.contains .europeanNumber &&
          directions.contains .arabicNumber)
  | _ => false

end SiteSearch.Domain.Label
