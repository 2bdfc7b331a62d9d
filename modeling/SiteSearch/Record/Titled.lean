import SiteSearch.Artifact
import SiteSearch.Match
import SiteSearch.Unicode.Lowercase

/-
  Records made from a title.

  Key definitions include:
    * `SiteSearch.slug`
    * `SiteSearch.Record.titled`
    * `SiteSearch.Match.titled`

  A page that has a title and no address yet gets one from its
  title: in small letters, with dashes for blanks.
-/

------------------------------------------------------------
-- Titles
------------------------------------------------------------

namespace SiteSearch

/- The address that a title gives a page. -/
def slug
    (title : String) :
    String :=
  "/" ++ (Unicode.lowercaseText title).map fun c =>
    if c = ' ' then '-' else c

/- A record with the address of its title. -/
def Record.titled
    (id : UInt64)
    (title content : String)
    (parent : Option String) :
    Record :=
  ⟨.number id, title, content, slug title, parent⟩

/- A match with the address of its title and a score of one. -/
def Match.titled
    (id : UInt64)
    (title : String)
    (parent : Option String) :
    Match Float :=
  ⟨.number id, title, slug title, parent, 1⟩

end SiteSearch
