/-
  Locations of search data.

  Key definitions include:
    * `SiteSearch.isUrl`
    * `SiteSearch.joinUrl`

  A location is an address of its own, or a path on a site or
  among the files.
-/

------------------------------------------------------------
-- Locations
------------------------------------------------------------

namespace SiteSearch

/- Whether a location names its own address. -/
def isUrl
    (location : String) :
    Bool :=
  "http://".toList.isPrefixOf location.toList ||
    "https://".toList.isPrefixOf location.toList

/- A text without the slashes it ends in. -/
def dropTrailingSlashes
    (text : List Char) :
    List Char :=
  (text.reverse.dropWhile (· == '/')).reverse

/-
  The address of a path on a site, with exactly one slash
  between them.
-/
def joinUrl
    (base path : String) :
    String :=
  String.ofList
    (dropTrailingSlashes base.toList ++
      '/' :: path.toList.dropWhile (· == '/'))

end SiteSearch
