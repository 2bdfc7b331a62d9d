/-
  Elements of a page.

  Key definitions include:
    * `SiteSearch.Element`
    * `SiteSearch.Element.setAttribute`
    * `SiteSearch.Element.addClass`
    * `SiteSearch.Element.removeClass`

  An element has a tag, an identifier, classes, attributes, a
  text in front of its children, and the children.  Classes
  are a set in the order in which they were added, attributes
  a map in the order in which they were first set.
-/

------------------------------------------------------------
-- Elements
------------------------------------------------------------

namespace SiteSearch

/- An element with everything inside it. -/
structure Element where
  tag : String
  id : Option String
  classes : List String
  attributes : List (String × String)
  text : Option String
  children : List Element
deriving BEq, Inhabited

namespace Element

/- An empty element. -/
def new
    (tag : String) :
    Element :=
  ⟨tag, none, [], [], none, []⟩

/- Set the identifier. -/
def withId
    (element : Element)
    (id : String) :
    Element :=
  { element with id := some id }

/- Set the text. -/
def withText
    (element : Element)
    (text : String) :
    Element :=
  { element with text := some text }

end Element

end SiteSearch

------------------------------------------------------------
-- Attributes
------------------------------------------------------------

namespace SiteSearch.Element

/- The value of an attribute. -/
def attribute?
    (element : Element)
    (name : String) :
    Option String :=
  element.attributes.lookup name

/- Set an attribute where it stands, or behind the others. -/
def setEntry
    (name value : String) :
    List (String × String) → List (String × String)
  | [] => [(name, value)]
  | (other, old) :: entries =>
      if other = name then (other, value) :: entries
      else (other, old) :: setEntry name value entries

/- Set an attribute. -/
def setAttribute
    (element : Element)
    (name value : String) :
    Element :=
  { element with
    attributes := setEntry name value element.attributes }

end SiteSearch.Element

------------------------------------------------------------
-- Classes
------------------------------------------------------------

namespace SiteSearch.Element

/- Whether an element has a class. -/
def hasClass
    (element : Element)
    (name : String) :
    Bool :=
  element.classes.contains name

/- Add a class, unless it is there. -/
def addClass
    (element : Element)
    (name : String) :
    Element :=
  if element.hasClass name then element
  else { element with classes := element.classes ++ [name] }

/- Remove a class. -/
def removeClass
    (element : Element)
    (name : String) :
    Element :=
  { element with
    classes := element.classes.filter fun other => other ≠ name }

end SiteSearch.Element

------------------------------------------------------------
-- Children
------------------------------------------------------------

namespace SiteSearch.Element

/- Add a child behind the others. -/
def appendChild
    (element child : Element) :
    Element :=
  { element with children := element.children ++ [child] }

/- Remove all children. -/
def clearChildren
    (element : Element) :
    Element :=
  { element with children := [] }

end SiteSearch.Element
