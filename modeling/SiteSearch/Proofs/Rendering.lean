import SiteSearch.Proofs.ResultList
import Mathlib.Logic.Function.Iterate

/-
  What rendering adds to a container.

  Matches are shown in sections, and what a section looks
  like depends on its label and its matches only.  Rendering
  a view puts its sections behind what is in the container
  already, as often as it is rendered, and the links of the
  container grow by one for each match each time.

  Main declarations:
    * `SiteSearch.listing`
    * `SiteSearch.shownParts`
    * `SiteSearch.Displays`
    * `SiteSearch.rendering_appends_view`
-/

------------------------------------------------------------
-- What a Section Looks Like
------------------------------------------------------------

namespace SiteSearch

variable {σ : Type}

/-
  The link to a match: it leads to its page and shows its
  title.
-/
def linkTo
    (found : Match σ) :
    Element where
  tag := "a"
  id := none
  classes := ["gdoc-search__entry"]
  attributes := [("href", found.href)]
  text := some found.title
  children := []

/- The list item that holds the link to a match. -/
def entryFor
    (found : Match σ) :
    Element :=
  ⟨"li", none, [], [], none,
    [⟨"span", none, ["flex"], [], none, [linkTo found]⟩]⟩

/- A list item with a label and a list of matches. -/
def listing
    (part : String × List (Match σ)) :
    Element :=
  ⟨"li", none, [], [], none,
    [⟨"span", none, [], [], some part.1, []⟩,
      ⟨"ul", none, [], [], none, part.2.map entryFor⟩]⟩

/-
  How matches are divided among sections.  By parent there is
  a section for each of the parents, in order of first
  appearance, with its matches in their order; otherwise
  there is one section for all matches, if only for none.
-/
def shownParts
    (found : List (Match σ))
    (showParent : Bool) :
    List (String × List (Match σ)) :=
  if showParent then
    (found.map Match.parent).eraseDups.map fun parent =>
      (parent.getD "Other", found.filter fun m => m.parent = parent)
  else [("Results", found)]

end SiteSearch

------------------------------------------------------------
-- The Sections of a View
------------------------------------------------------------

namespace SiteSearch.ResultView

variable {σ : Type}

/-
  The sections of a view are those in which its matches are
  shown.
-/
theorem parts_ofMatches
    (found : List (Match σ))
    (showParent : Bool) :
    (ofMatches found showParent).parts =
      shownParts found showParent := by
  cases showParent with
  | false => rfl
  | true =>
      have hGroups : (ofMatches found true).parts =
          (groupByParent found).map fun group =>
            (group.key.getD unparentedLabel, group.matched) := rfl
      rw [hGroups, groupByParent_eq_map, List.map_map]
      rfl

/- A section is built as it looks. -/
theorem sectionItem_eq_listing
    (label : String)
    (found : List (Match σ)) :
    sectionItem label found = listing (label, found) := by
  rw [sectionItem_eq]
  rfl

/- So are all sections of a view. -/
theorem sections_eq_listings
    (view : ResultView σ) :
    view.sections = view.parts.map listing := by
  rw [sections_eq_map]
  exact List.map_congr_left fun part _ =>
    sectionItem_eq_listing part.1 part.2

/- A view counts its matches, however they are divided. -/
theorem count_ofMatches
    (found : List (Match σ))
    (showParent : Bool) :
    (ofMatches found showParent).count = found.length := by
  cases showParent with
  | false => rfl
  | true =>
      have hGroups : (ofMatches found true).count =
          Group.count (groupByParent found) := rfl
      rw [hGroups, count_eq_length_flatten]
      exact (flatten_groupByParent_perm found).length_eq

/- It shows each of them once. -/
theorem listed_ofMatches_perm
    (found : List (Match σ))
    (showParent : Bool) :
    (ofMatches found showParent).listed.Perm found := by
  cases showParent with
  | false => exact List.Perm.refl found
  | true => exact flatten_groupByParent_perm found

/-
  Rendering puts the links to the matches of a view behind
  all others.
-/
theorem anchors_render
    (view : ResultView σ)
    (container : Element) :
    (view.render container).anchors =
      container.anchors ++ view.listed.map linkTo := by
  have hLinks : view.listed.map linkTo = view.listed.map anchor := rfl
  rw [hLinks, ← links_sections, render_eq, Element.anchors_eq_filter,
    Element.anchors_eq_filter, Element.preorderAll_append,
    List.filter_append]

end SiteSearch.ResultView

------------------------------------------------------------
-- Rendering Repeatedly
------------------------------------------------------------

namespace SiteSearch

variable {σ : Type}

/-
  An element is a container in which some sections are shown,
  a number of times one behind the other.
-/
structure Displays
    (shown container : Element)
    (parts : List (String × List (Match σ)))
    (times : Nat) :
    Prop where
  tag_eq : shown.tag = container.tag
  id_eq : shown.id = container.id
  classes_eq : shown.classes = container.classes
  attributes_eq : shown.attributes = container.attributes
  text_eq : shown.text = container.text
  /- The sections stand behind the old children. -/
  children_eq : shown.children =
    container.children ++
      (List.replicate times (parts.map listing)).flatten
  /- Their links stand behind the old ones, section by section. -/
  anchors_eq : shown.anchors =
    container.anchors ++
      (List.replicate times ((parts.flatMap Prod.snd).map linkTo)).flatten

/- A container shows no section at first. -/
theorem Displays.zero
    (container : Element)
    (parts : List (String × List (Match σ))) :
    Displays container container parts 0 where
  tag_eq := rfl
  id_eq := rfl
  classes_eq := rfl
  attributes_eq := rfl
  text_eq := rfl
  children_eq := (List.append_nil _).symm
  anchors_eq := (List.append_nil _).symm

/-
  Each time a view is rendered its sections are shown once
  more.
-/
theorem Displays.render
    {view : ResultView σ}
    {shown container : Element}
    {times : Nat}
    (hDisplays : Displays shown container view.parts times) :
    Displays (view.render shown) container view.parts (times + 1) := by
  have hRender := view.render_eq shown
  have hMore : ∀ {α : Type} (items : List α),
      (List.replicate (times + 1) items).flatten =
        (List.replicate times items).flatten ++ items := by
    intro α items
    rw [List.replicate_succ', List.flatten_append,
      List.flatten_singleton]
  exact {
    tag_eq := hRender ▸ hDisplays.tag_eq
    id_eq := hRender ▸ hDisplays.id_eq
    classes_eq := hRender ▸ hDisplays.classes_eq
    attributes_eq := hRender ▸ hDisplays.attributes_eq
    text_eq := hRender ▸ hDisplays.text_eq
    children_eq := by
      rw [hRender, hMore, ← List.append_assoc, ← hDisplays.children_eq,
        ← view.sections_eq_listings]
    anchors_eq := by
      rw [view.anchors_render, hMore, ← List.append_assoc,
        ← hDisplays.anchors_eq, view.flatMap_parts]
  }

/- So they are shown as often as the view is rendered. -/
theorem displays_iterate_render
    (view : ResultView σ)
    (container : Element)
    (times : Nat) :
    Displays (view.render^[times] container) container view.parts
      times := by
  induction times with
  | zero => exact Displays.zero container view.parts
  | succ times ih =>
      rw [Function.iterate_succ_apply']
      exact ih.render

/-
  Rendering the view of some matches appends its sections and
  nothing else, as often as it is rendered.  Each match is
  shown in one place of one section, and counted once.
-/
theorem rendering_appends_view
    (container : Element)
    (found : List (Match σ))
    (showParent : Bool)
    (times : Nat) :
    Displays
        ((ResultView.ofMatches found showParent).render^[times]
          container)
        container (shownParts found showParent) times ∧
      ((shownParts found showParent).flatMap Prod.snd).Perm found ∧
      (ResultView.ofMatches found showParent).count = found.length := by
  refine ⟨?_, ?_, ResultView.count_ofMatches found showParent⟩
  · rw [← ResultView.parts_ofMatches]
    exact displays_iterate_render _ container times
  · rw [← ResultView.parts_ofMatches, ResultView.flatMap_parts]
    exact ResultView.listed_ofMatches_perm found showParent

end SiteSearch
