import SiteSearch.Web.Domain.Label

/-
  Names in the web.

  Key definitions include:
    * `SiteSearch.Domain.ascii?`

  A name is a row of labels with dots between them.  In an
  address it is written in ASCII.
-/

------------------------------------------------------------
-- Names
------------------------------------------------------------

namespace SiteSearch.Domain

/- The characters that no name may hold. -/
def isForbidden
    (c : Char) :
    Bool :=
  c.toNat ≤ 0x20 || c.toNat = 0x7F ||
    "#/:<>?@[\\]^|%".toList.contains c

/-
  A name in ASCII.  As soon as one label has a letter written
  from right to left, all of them have to be in order.
-/
def ascii?
    (name : List Char) :
    Option (List Char) := do
  let folded ← fold? name
  if folded.any isForbidden then none
  else
    let labels ← (folded.splitOn '.').mapM Label.ofText?
    if labels.all Label.isWellFormed &&
        (labels.all Label.isWellDirected ||
          !labels.any Label.hasRightToLeft) then
      some (['.'].intercalate (labels.map Label.written))
    else none

end SiteSearch.Domain
