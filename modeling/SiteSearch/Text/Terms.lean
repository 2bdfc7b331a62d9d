import SiteSearch.Text.Runs
import SiteSearch.Unicode.Alphanumeric
import SiteSearch.Unicode.Decomposition
import SiteSearch.Unicode.Lowercase
import SiteSearch.Unicode.Mark
import SiteSearch.Unicode.WhiteSpace

/-
  From text to search terms.

  Key definitions include:
    * `SiteSearch.Text.fold`
    * `SiteSearch.Text.normalize`
    * `SiteSearch.Text.terms`

  Records and queries are cut into terms in the same way, so
  that "Café" in a title and "cafe" in the search box are the
  same term.  Folding decomposes the text, drops the marks and
  lowers what is left.
-/

------------------------------------------------------------
-- Folding
------------------------------------------------------------

namespace SiteSearch.Text

/- The case- and accent-insensitive form of a text. -/
def fold
    (text : List Char) :
    List Char :=
  ((Unicode.decomposeText text).filter fun c =>
    !Unicode.isMark c).flatMap Unicode.lowercase

/- The words of a folded text with one space between them. -/
def normalizeChars
    (text : List Char) :
    List Char :=
  [' '].intercalate
    (runs (fun c => !Unicode.isWhiteSpace c) (fold text))

/- The folded text, single-spaced. -/
def normalize
    (text : String) :
    String :=
  String.ofList (normalizeChars text.toList)

end SiteSearch.Text

------------------------------------------------------------
-- Terms
------------------------------------------------------------

namespace SiteSearch.Text

/- The normalized terms of a text in order, as characters. -/
def termChars
    (text : List Char) :
    List (List Char) :=
  runs Unicode.isAlphanumeric (normalizeChars text)

/-
  The normalized terms of a text in order.  Every character
  that is no letter or number separates terms.
-/
def terms
    (text : String) :
    List String :=
  (termChars text.toList).map String.ofList

end SiteSearch.Text
