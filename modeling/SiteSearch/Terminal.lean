import SiteSearch.Element.Walk
import SiteSearch.Number.Shortest
import SiteSearch.ResultList

/-
  Output to a terminal.

  Key definitions include:
    * `SiteSearch.Terminal`
    * `SiteSearch.Terminal.ofEnvironment`
    * `SiteSearch.Terminal.paint`
    * `SiteSearch.Terminal.row`
    * `SiteSearch.Terminal.results`
    * `SiteSearch.sizeText`

  Results are shown in boxes of a fixed width.  A terminal may
  show colors, of which there are two sets, one for a dark and
  one for a light background.
-/

------------------------------------------------------------
-- Terminals
------------------------------------------------------------

namespace SiteSearch

/-
  What is known of the surroundings: three variables and the
  kind of output.
-/
structure Environment where
  noColor : Option String
  theme : Option String
  colors : Option String
  isTerminal : Bool

/- How text is shown. -/
structure Terminal where
  colored : Bool
  light : Bool
deriving DecidableEq, Repr

/-
  A number of at most eight bits, with or without a plus in
  front.
-/
def smallNumber?
    (text : List Char) :
    Option Nat :=
  let digits :=
    match text with
    | '+' :: digits => digits
    | digits => digits
  if digits.isEmpty || !digits.all Char.isDigit then none
  else
    let number := digits.foldl (fun n c => 10 * n + (c.toNat - 48)) 0
    if number < 256 then some number else none

/-
  Whether the background is light: the theme says so, or
  else the last color does.
-/
def hasLightBackground
    (theme colors : Option String) :
    Bool :=
  let named := theme.map fun name => name.map Char.toLower
  if named = some "light" ∨ named = some "l" then true
  else if named = some "dark" ∨ named = some "d" then false
  else
    match colors with
    | none => false
    | some colors =>
        let last :=
          (colors.toList.reverse.takeWhile (· != ';')).reverse
        match smallNumber? last with
        | none => false
        | some background => 7 ≤ background && background != 8

/- The terminal in some surroundings. -/
def Terminal.ofEnvironment
    (environment : Environment) :
    Terminal where
  colored := environment.noColor.isNone && environment.isTerminal
  light := hasLightBackground environment.theme environment.colors

end SiteSearch

------------------------------------------------------------
-- Colors
------------------------------------------------------------

namespace SiteSearch

/- What a text is for. -/
inductive Tone where
  | ok
  | error
  | pending
  | link
  | heading
  | muted
deriving DecidableEq, Repr

namespace Tone

/- The red, green and blue of a tone on a dark background. -/
def onDark :
    Tone → Nat × Nat × Nat
  | ok => (152, 195, 121)
  | error => (224, 108, 117)
  | pending => (229, 192, 123)
  | link => (97, 175, 239)
  | heading => (86, 182, 194)
  | muted => (92, 99, 112)

/- The red, green and blue of a tone on a light background. -/
def onLight :
    Tone → Nat × Nat × Nat
  | ok => (80, 161, 79)
  | error => (228, 86, 73)
  | pending => (193, 132, 1)
  | link => (64, 120, 242)
  | heading => (1, 132, 188)
  | muted => (160, 161, 167)

end Tone

namespace Terminal

/-
  The control sequences that end all colors and begin bold
  and faint text.
-/
def reset : String := "\x1b[0m"
def bold : String := "\x1b[1m"
def faint : String := "\x1b[2m"

/- The control sequence that begins a tone. -/
def begin
    (terminal : Terminal)
    (tone : Tone) :
    String :=
  let (red, green, blue) :=
    if terminal.light then tone.onLight else tone.onDark
  s!"\x1b[38;2;{red};{green};{blue}m"

/- A text in a tone, which may be bold. -/
def paint
    (terminal : Terminal)
    (tone : Tone)
    (isBold : Bool)
    (text : String) :
    String :=
  if terminal.colored then
    (if isBold then bold else "") ++ terminal.begin tone ++ text ++
      reset
  else text

end Terminal

end SiteSearch

------------------------------------------------------------
-- Boxes
------------------------------------------------------------

namespace SiteSearch

/-
  The number of characters that show.  A control sequence ends
  with the next small m.
-/
def visibleLengthFrom
    (isHidden : Bool) :
    List Char → Nat
  | [] => 0
  | c :: rest =>
      if isHidden then visibleLengthFrom (c != 'm') rest
      else if c = '\x1b' then visibleLengthFrom true rest
      else visibleLengthFrom false rest + 1

/- The number of characters of a text that show. -/
def visibleLength
    (text : String) :
    Nat :=
  visibleLengthFrom false text.toList

/- The width of a box between its borders. -/
def boxWidth : Nat := 72

/- A character several times. -/
def repeated
    (c : Char)
    (count : Nat) :
    String :=
  String.ofList (List.replicate count c)

namespace Terminal

/- A part of a border. -/
def frame
    (terminal : Terminal)
    (piece : String) :
    String :=
  terminal.paint .muted false piece

/- A line of a box, filled with blanks. -/
def row
    (terminal : Terminal)
    (content : String) :
    String :=
  terminal.frame "│" ++ content ++
    repeated ' ' (boxWidth - visibleLength content) ++
    terminal.frame "│" ++ "\n"

/- The upper border of a box, with a label in it. -/
def top
    (terminal : Terminal)
    (label : String) :
    String :=
  let head := "─ " ++ terminal.paint .heading true label ++ " "
  terminal.frame "┌" ++ head ++
    terminal.frame
      (repeated '─' (boxWidth - visibleLength head) ++ "┐") ++ "\n"

/- The lower border of a box. -/
def bottom
    (terminal : Terminal) :
    String :=
  terminal.frame ("└" ++ repeated '─' boxWidth ++ "┘") ++ "\n"

/- The name of a status, in a tone that fits. -/
def status
    (terminal : Terminal)
    (name : String) :
    String :=
  if name = "ready" then terminal.paint .ok true name
  else if name = "failed" then terminal.paint .error true name
  else if name = "loading" then terminal.paint .pending false name
  else terminal.paint .muted false name

end Terminal

end SiteSearch

------------------------------------------------------------
-- Results
------------------------------------------------------------

namespace SiteSearch.Terminal

/- The line of a link: its text and where it leads. -/
def entry
    (terminal : Terminal)
    (anchor : Element) :
    String :=
  terminal.row
    ("  " ++ terminal.paint .link true (anchor.text.getD "") ++ "  " ++
      terminal.paint .muted false
        ((anchor.attribute? "href").getD ""))

/- The box of a section: its label and its links. -/
def sectionBox
    (terminal : Terminal)
    (part : Element) :
    String :=
  let label := (part.children.head?.bind (·.text)).getD ""
  let links :=
    part.anchors.filter fun anchor => anchor.hasClass entryClass
  terminal.top label ++ String.join (links.map terminal.entry) ++
    terminal.bottom

/- A list of results, one box for each section. -/
def results
    (terminal : Terminal)
    (list : Element) :
    String :=
  match list.children with
  | [] =>
      (if terminal.colored then faint ++ "no results" ++ reset
      else "no results") ++ "\n"
  | parts => String.join (parts.map terminal.sectionBox)

end SiteSearch.Terminal

------------------------------------------------------------
-- Sizes
------------------------------------------------------------

namespace SiteSearch

/-
  A quotient rounded to a whole number, a half to the even
  one.
-/
def roundedQuotient
    (numerator denominator : Nat) :
    Nat :=
  let whole := numerator / denominator
  let twice := 2 * (numerator % denominator)
  if twice < denominator then whole
  else if denominator < twice then whole + 1
  else whole + whole % 2

/-
  The whole number next to a number of bytes that a
  floating-point number holds.
-/
def heldSize
    (size : UInt64) :
    Nat :=
  let binary := Number.Binary.ofFloat size.toFloat
  binary.significand * Nat.pow 2 binary.exponent.toNat /
    Nat.pow 2 (-binary.exponent).toNat

/- A quotient with one decimal place. -/
def oneDecimal
    (numerator denominator : Nat) :
    String :=
  let tenths := roundedQuotient (10 * numerator) denominator
  s!"{tenths / 10}.{tenths % 10}"

/-
  A number of bytes in the largest unit that is not larger
  than it.
-/
def sizeText
    (size : UInt64) :
    String :=
  if size < 1024 then s!"{size} B"
  else if size < 1048576 then oneDecimal (heldSize size) 1024 ++ " KB"
  else oneDecimal (heldSize size) 1048576 ++ " MB"

end SiteSearch
