import SiteSearch.ResultList
import SiteSearch.Proofs.Association
import Mathlib.Tactic.SplitIfs

/-
  What changing an element does.

  Each change concerns one attribute, one class or the end of
  the children, and the rest of the element stays as it is.

  Main declarations:
    * `SiteSearch.Element.attribute?_setAttribute`
    * `SiteSearch.Element.map_fst_setEntry`
    * `SiteSearch.Element.addClass_eq`
    * `SiteSearch.Element.foldl_appendChild`
    * `SiteSearch.ResultView.render_eq`
-/

------------------------------------------------------------
-- Attributes
------------------------------------------------------------

namespace SiteSearch.Element

/- Setting an entry changes what is found under its name only. -/
theorem lookup_setEntry
    (name other value : String)
    (entries : List (String × String)) :
    (setEntry name value entries).lookup other =
      if other = name then some value else entries.lookup other := by
  induction entries with
  | nil => rw [setEntry, lookup_cons_eq_ite]
  | cons entry entries ih =>
      rcases entry with ⟨first, old⟩
      unfold setEntry
      by_cases hFirst : first = name
      · subst hFirst
        rw [if_pos rfl, lookup_cons_eq_ite, lookup_cons_eq_ite]
        by_cases hOther : other = first
        · simp [hOther]
        · simp [hOther]
      · rw [if_neg hFirst, lookup_cons_eq_ite, lookup_cons_eq_ite, ih]
        by_cases hOther : other = name
        · subst hOther
          simp [Ne.symm hFirst]
        · simp [hOther]

/-
  Setting an attribute changes the value of that attribute
  only.
-/
theorem attribute?_setAttribute
    (element : Element)
    (name other value : String) :
    (element.setAttribute name value).attribute? other =
      if other = name then some value
      else element.attribute? other :=
  lookup_setEntry name other value element.attributes

/- An attribute that has no value has no entry. -/
theorem attribute?_eq_none_iff
    (element : Element)
    (name : String) :
    element.attribute? name = none ↔
      name ∉ element.attributes.map Prod.fst := by
  rw [attribute?, List.lookup_eq_none_iff, List.mem_map]
  constructor
  · rintro hOthers ⟨entry, hEntry, rfl⟩
    exact absurd (hOthers entry hEntry) (by simp)
  · intro hAbsent entry hEntry
    exact bne_iff_ne.mpr fun hSame =>
      hAbsent ⟨entry, hEntry, hSame.symm⟩

/-
  Setting an entry adds its name if there is none with that
  name.
-/
theorem map_fst_setEntry
    (name value : String)
    (entries : List (String × String)) :
    (setEntry name value entries).map Prod.fst =
      if name ∈ entries.map Prod.fst then entries.map Prod.fst
      else entries.map Prod.fst ++ [name] := by
  induction entries with
  | nil => rfl
  | cons entry entries ih =>
      rcases entry with ⟨other, old⟩
      unfold setEntry
      by_cases hSame : other = name
      · simp [hSame]
      · rw [if_neg hSame, List.map_cons, ih]
        split_ifs <;> simp_all

/- It changes no entries with other names. -/
theorem filter_setEntry
    (name value : String)
    (entries : List (String × String)) :
    ((setEntry name value entries).filter fun entry => entry.1 ≠ name) =
      entries.filter fun entry => entry.1 ≠ name := by
  induction entries with
  | nil => simp [setEntry]
  | cons entry entries ih =>
      rcases entry with ⟨other, old⟩
      unfold setEntry
      by_cases hSame : other = name
      · simp [hSame]
      · rw [if_neg hSame, List.filter_cons, List.filter_cons, ih]

end SiteSearch.Element

------------------------------------------------------------
-- Classes
------------------------------------------------------------

namespace SiteSearch.Element

/- Adding a class concerns the classes only. -/
theorem addClass_eq
    (element : Element)
    (name : String) :
    element.addClass name =
      { element with
        classes :=
          if element.hasClass name then element.classes
          else element.classes ++ [name] } := by
  cases element
  unfold addClass
  split_ifs <;> rfl

end SiteSearch.Element

------------------------------------------------------------
-- Children
------------------------------------------------------------

namespace SiteSearch

/- Children that are added one by one stand behind the others. -/
theorem Element.foldl_appendChild
    (children : List Element)
    (element : Element) :
    children.foldl Element.appendChild element =
      { element with children := element.children ++ children } := by
  induction children generalizing element with
  | nil =>
      rcases element with ⟨tag, id, classes, attributes, text, old⟩
      simp
  | cons child children ih =>
      rw [List.foldl_cons, ih]
      simp [Element.appendChild]

/- Rendering a view adds its sections. -/
theorem ResultView.render_eq
    {σ : Type}
    (view : ResultView σ)
    (container : Element) :
    view.render container =
      { container with
        children := container.children ++ view.sections } :=
  Element.foldl_appendChild view.sections container

end SiteSearch
