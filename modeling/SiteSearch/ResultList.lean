import SiteSearch.Element
import SiteSearch.Grouping

/-
  The list of results.

  Key definitions include:
    * `SiteSearch.ResultView`
    * `SiteSearch.ResultView.ofMatches`
    * `SiteSearch.ResultView.sections`
    * `SiteSearch.ResultView.render`

  Matches are shown in sections, one for each parent or a
  single one for all.  A section is a list item with a label
  and a list of links.  Rendering only appends: whoever shows
  new results clears the old ones first.
-/

------------------------------------------------------------
-- Views
------------------------------------------------------------

namespace SiteSearch

/- Matches as they are shown: by parent or in one list. -/
inductive ResultView (σ : Type) where
  | grouped (groups : List (Group σ))
  | flat (found : List (Match σ))

/- The class of a list with results in it. -/
def hasHitsClass : String := "has-hits"

/- The class of a link to a result. -/
def entryClass : String := "gdoc-search__entry"

/- The label of the only section of a flat view. -/
def flatLabel : String := "Results"

/- The label of the section of matches without a parent. -/
def unparentedLabel : String := "Other"

namespace ResultView

variable {σ : Type}

/- The view of some matches. -/
def ofMatches
    (found : List (Match σ))
    (showParent : Bool) :
    ResultView σ :=
  if showParent then grouped (groupByParent found) else flat found

/- The number of matches in a view. -/
def count :
    ResultView σ → Nat
  | grouped groups => Group.count groups
  | flat found => found.length

end ResultView

end SiteSearch

------------------------------------------------------------
-- Sections
------------------------------------------------------------

namespace SiteSearch.ResultView

variable {σ : Type}

/- The link to a match. -/
def anchor
    (found : Match σ) :
    Element :=
  ((Element.new "a").setAttribute "href" found.href
    |>.addClass entryClass).withText found.title

/- The list item of a match. -/
def item
    (found : Match σ) :
    Element :=
  (Element.new "li").appendChild
    (((Element.new "span").addClass "flex").appendChild
      (anchor found))

/- A labelled section with a list of matches. -/
def sectionItem
    (label : String)
    (found : List (Match σ)) :
    Element :=
  let list :=
    (found.map item).foldl Element.appendChild (Element.new "ul")
  ((Element.new "li").appendChild
    ((Element.new "span").withText label)).appendChild list

/- The sections of a view. -/
def sections :
    ResultView σ → List Element
  | grouped groups =>
      groups.map fun group =>
        sectionItem (group.key.getD unparentedLabel) group.matched
  | flat found => [sectionItem flatLabel found]

/- Append the sections of a view to a container. -/
def render
    (view : ResultView σ)
    (container : Element) :
    Element :=
  view.sections.foldl Element.appendChild container

end SiteSearch.ResultView
