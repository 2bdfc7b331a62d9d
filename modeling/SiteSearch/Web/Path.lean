/-
  Paths in addresses.

  Key definitions include:
    * `SiteSearch.UrlPath.segments`
    * `SiteSearch.UrlPath.resolve`

  A path is a row of segments with slashes between them.  A
  segment of one dot stands for the directory itself, one of
  two dots for the directory above.  The letter of a drive is
  never left.
-/

------------------------------------------------------------
-- Segments
------------------------------------------------------------

namespace SiteSearch.UrlPath

/-
  The segments of a text; a scheme of the web takes a
  backslash for a slash.
-/
def segments
    (isWeb : Bool)
    (text : List Char) :
    List (List Char) :=
  (if isWeb then text.map fun c => if c = '\\' then '/' else c
    else text).splitOn '/'

/- Whether a segment stands for the directory itself. -/
def isDot
    (segment : List Char) :
    Bool :=
  segment == ['.'] || segment.map Char.toLower == "%2e".toList

/- Whether a segment stands for the directory above. -/
def isDoubleDot
    (segment : List Char) :
    Bool :=
  ["..", ".%2e", "%2e.", "%2e%2e"].any fun dots =>
    segment.map Char.toLower == dots.toList

/- Whether a text is a letter and a colon or a bar. -/
def isDrive :
    List Char → Bool
  | [letter, sign] => letter.isAlpha && (sign == ':' || sign == '|')
  | _ => false

/-
  Whether a segment is a drive, by itself or in front of a
  backslash.
-/
def beginsWithDrive :
    List Char → Bool
  | letter :: sign :: '\\' :: _ => isDrive [letter, sign]
  | segment => isDrive segment

end SiteSearch.UrlPath

------------------------------------------------------------
-- Resolving Dots
------------------------------------------------------------

namespace SiteSearch.UrlPath

/-
  The segments, in reverse, of the directory above the one
  of some segments.
-/
def above :
    List (List Char) → List (List Char)
  | [] => []
  | segment :: before =>
      if beginsWithDrive segment then segment :: before else before

/-
  A segment behind some others; a drive in front of a file
  is written with a colon.
-/
def settled
    (isFile : Bool)
    (before : List (List Char))
    (segment : List Char) :
    List Char :=
  if isFile && before.isEmpty && isDrive segment then
    segment.take 1 ++ [':']
  else segment

/- The segments with the dots resolved, behind some in reverse. -/
def resolveFrom
    (isFile : Bool)
    (before : List (List Char)) :
    List (List Char) → List (List Char)
  | [] => before.reverse
  | [segment] =>
      if isDoubleDot segment then ([] :: above before).reverse
      else if isDot segment then ([] :: before).reverse
      else (settled isFile before segment :: before).reverse
  | segment :: rest =>
      if isDoubleDot segment then resolveFrom isFile (above before) rest
      else if isDot segment then resolveFrom isFile before rest
      else
        resolveFrom isFile (settled isFile before segment :: before)
          rest

/- The segments with the dots resolved. -/
def resolve
    (isFile : Bool)
    (segments : List (List Char)) :
    List (List Char) :=
  resolveFrom isFile [] segments

/- The path of some segments. -/
def join
    (segments : List (List Char)) :
    List Char :=
  '/' :: ['/'].intercalate segments

end SiteSearch.UrlPath
