import SiteSearch.Proofs.Element

/-
  Edits of elements.

  An edit is about one part of an element: a class, an
  attribute, the identifier, the text or the children.  What
  it decides of that part holds afterwards, and all others
  stay as they are, in their places.

  Main declarations:
    * `SiteSearch.Element.Edit`
    * `SiteSearch.Element.Edit.hasClass_apply`
    * `SiteSearch.Element.Edit.attribute?_apply`
    * `SiteSearch.Element.Edit.classes_apply`
    * `SiteSearch.Element.Edit.attributes_apply`
    * `SiteSearch.Element.without_apply`
-/

------------------------------------------------------------
-- Edits
------------------------------------------------------------

namespace SiteSearch.Element

/- A change to an element. -/
inductive Edit where
  | addClass (name : String)
  | removeClass (name : String)
  | setAttribute (name value : String)
  | withId (id : String)
  | withText (text : String)
  | appendChild (child : Element)
  | clearChildren

namespace Edit

/- Make the change. -/
def apply
    (element : Element) :
    Edit → Element
  | addClass name => element.addClass name
  | removeClass name => element.removeClass name
  | setAttribute name value => element.setAttribute name value
  | withId id => element.withId id
  | withText text => element.withText text
  | appendChild child => element.appendChild child
  | clearChildren => element.clearChildren

/- Whether a class is there after an edit that is about it. -/
def class?
    (name : String) :
    Edit → Option Bool
  | addClass other => if other = name then some true else none
  | removeClass other => if other = name then some false else none
  | _ => none

/- The value of an attribute after an edit that is about it. -/
def attribute?
    (name : String) :
    Edit → Option String
  | setAttribute other value =>
      if other = name then some value else none
  | _ => none

/- The identifier that an edit gives. -/
def id? :
    Edit → Option String
  | withId id => some id
  | _ => none

/- The text that an edit gives. -/
def text? :
    Edit → Option String
  | withText text => some text
  | _ => none

/- The child that an edit adds. -/
def child? :
    Edit → Option Element
  | appendChild child => some child
  | _ => none

/- Whether an edit removes all children. -/
def clears :
    Edit → Bool
  | clearChildren => true
  | _ => false

end Edit

end SiteSearch.Element

------------------------------------------------------------
-- What an Edit Does
------------------------------------------------------------

namespace SiteSearch.Element.Edit

/- An edit decides about a class, or leaves it as it was. -/
theorem hasClass_apply
    (edit : Edit)
    (element : Element)
    (name : String) :
    (edit.apply element).hasClass name =
      ((edit.class? name).getD (element.hasClass name)) := by
  cases edit with
  | addClass other =>
      simp only [apply, class?, Element.addClass]
      split_ifs with hThere hSame hSame
      · rw [← hSame, hThere]
        rfl
      · rfl
      · simp [Element.hasClass, hSame]
      · simp [Element.hasClass, Ne.symm hSame]
  | removeClass other =>
      simp only [apply, class?, Element.removeClass, Element.hasClass]
      split_ifs with hSame
      · simp [hSame]
      · simp [List.contains_eq_mem, Ne.symm hSame]
  | _ => rfl

/- An edit decides about an attribute, or leaves it as it was. -/
theorem attribute?_apply
    (edit : Edit)
    (element : Element)
    (name : String) :
    (edit.apply element).attribute? name =
      (edit.attribute? name).or (element.attribute? name) := by
  cases edit with
  | setAttribute other value =>
      rw [apply, attribute?_setAttribute, attribute?]
      by_cases hSame : other = name
      · rw [if_pos hSame.symm, if_pos hSame, Option.some_or]
      · rw [if_neg (Ne.symm hSame), if_neg hSame, Option.none_or]
  | addClass other =>
      rw [apply, addClass_eq]
      rfl
  | _ => rfl

/-
  An edit adds a class that is not there, removes one, or
  leaves all classes as they are.
-/
theorem classes_apply
    (edit : Edit)
    (element : Element) :
    (∃ name, edit = addClass name ∧ element.hasClass name = false ∧
        (edit.apply element).classes = element.classes ++ [name]) ∨
      (∃ name, edit = removeClass name ∧
        (edit.apply element).classes =
          element.classes.filter fun other => other ≠ name) ∨
      (∀ name, edit = addClass name → element.hasClass name = true) ∧
        (∀ name, edit ≠ removeClass name) ∧
        (edit.apply element).classes = element.classes := by
  cases edit with
  | addClass name =>
      cases hThere : element.hasClass name with
      | false =>
          refine Or.inl ⟨name, rfl, hThere, ?_⟩
          simp [apply, Element.addClass, hThere]
      | true =>
          refine Or.inr (Or.inr ⟨?_, fun other => nofun, ?_⟩)
          · rintro other ⟨⟩
            exact hThere
          · simp [apply, Element.addClass, hThere]
  | removeClass name => exact Or.inr (Or.inl ⟨name, rfl, rfl⟩)
  | _ =>
      exact Or.inr (Or.inr ⟨fun other => nofun, fun other => nofun, rfl⟩)

/-
  An edit adds the name of an attribute that is not there, or
  leaves all names as they are.
-/
theorem attributes_apply
    (edit : Edit)
    (element : Element) :
    (∃ name value, edit = setAttribute name value ∧
        element.attribute? name = none ∧
        (edit.apply element).attributes.map Prod.fst =
          element.attributes.map Prod.fst ++ [name]) ∨
      (∀ name value, edit = setAttribute name value →
          element.attribute? name ≠ none) ∧
        (edit.apply element).attributes.map Prod.fst =
          element.attributes.map Prod.fst := by
  cases edit with
  | setAttribute name value =>
      have hNames := map_fst_setEntry name value element.attributes
      by_cases hThere : name ∈ element.attributes.map Prod.fst
      · refine Or.inr ⟨?_, hNames.trans (if_pos hThere)⟩
        rintro other _ ⟨⟩ hAbsent
        exact (element.attribute?_eq_none_iff name).mp hAbsent hThere
      · exact Or.inl ⟨name, value, rfl,
          (element.attribute?_eq_none_iff name).mpr hThere,
          hNames.trans (if_neg hThere)⟩
  | addClass name =>
      rw [apply, addClass_eq]
      exact Or.inr ⟨fun other value => nofun, rfl⟩
  | _ => exact Or.inr ⟨fun other value => nofun, rfl⟩

/-
  An edit gives the identifier and the text, or leaves them
  as they are.
-/
theorem id_apply
    (edit : Edit)
    (element : Element) :
    (edit.apply element).id = edit.id?.or element.id := by
  cases edit with
  | addClass name =>
      rw [apply, addClass_eq]
      rfl
  | _ => rfl

theorem text_apply
    (edit : Edit)
    (element : Element) :
    (edit.apply element).text = edit.text?.or element.text := by
  cases edit with
  | addClass name =>
      rw [apply, addClass_eq]
      rfl
  | _ => rfl

/- No edit changes the tag. -/
theorem tag_apply
    (edit : Edit)
    (element : Element) :
    (edit.apply element).tag = element.tag := by
  cases edit with
  | addClass name => rw [apply, addClass_eq]
  | _ => rfl

/-
  An edit removes the children, or adds one behind them if
  any.
-/
theorem children_apply
    (edit : Edit)
    (element : Element) :
    (edit.apply element).children =
      if edit.clears then []
      else element.children ++ edit.child?.toList := by
  cases edit with
  | addClass name => simp [apply, addClass_eq, clears, child?]
  | appendChild child => rfl
  | clearChildren => rfl
  | _ => exact (List.append_nil _).symm

end SiteSearch.Element.Edit

------------------------------------------------------------
-- What an Edit Leaves Alone
------------------------------------------------------------

namespace SiteSearch.Element

/- A part of an element that an edit can be about. -/
inductive Part where
  | classNamed (name : String)
  | attributeNamed (name : String)
  | id
  | text
  | children

/- The part that an edit is about. -/
def Edit.part :
    Edit → Part
  | addClass name => .classNamed name
  | removeClass name => .classNamed name
  | setAttribute name _ => .attributeNamed name
  | withId _ => .id
  | withText _ => .text
  | appendChild _ => .children
  | clearChildren => .children

/- An element but for one of its parts. -/
def without
    (element : Element) :
    Part → Element
  | .classNamed name =>
      { element with
        classes := element.classes.filter fun other => other ≠ name }
  | .attributeNamed name =>
      { element with
        attributes := element.attributes.filter fun entry =>
          entry.1 ≠ name }
  | .id => { element with id := none }
  | .text => { element with text := none }
  | .children => { element with children := [] }

/- An edit leaves all parts but one as they are. -/
theorem without_apply
    (edit : Edit)
    (element : Element) :
    (edit.apply element).without edit.part =
      element.without edit.part := by
  cases edit with
  | addClass name =>
      rw [Edit.apply, addClass_eq]
      unfold without Edit.part
      split_ifs <;> simp
  | removeClass name =>
      simp [Edit.apply, Edit.part, without, removeClass]
  | setAttribute name value =>
      simp only [Edit.apply, Edit.part, without, setAttribute,
        filter_setEntry]
  | _ => rfl

end SiteSearch.Element
