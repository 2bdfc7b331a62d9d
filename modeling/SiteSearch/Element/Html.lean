import SiteSearch.Element

/-
  Elements as HTML.

  Key definitions include:
    * `SiteSearch.Element.escape`
    * `SiteSearch.Element.toHtml`

  An element is written as its start tag, its text, its
  children and its end tag.  In texts and attribute values the
  five characters that mean something in HTML are written as
  entities, so that no text can pass for a tag or end a value.
-/

------------------------------------------------------------
-- Escapes
------------------------------------------------------------

namespace SiteSearch.Element

/- A character as it stands in a text or an attribute value. -/
def escapeChar
    (c : Char) :
    List Char :=
  if c = '&' then "&amp;".toList
  else if c = '<' then "&lt;".toList
  else if c = '>' then "&gt;".toList
  else if c = '"' then "&quot;".toList
  else if c = '\'' then "&#39;".toList
  else [c]

/- A text as it stands in the page. -/
def escape
    (text : String) :
    List Char :=
  text.toList.flatMap escapeChar

end SiteSearch.Element

------------------------------------------------------------
-- Tags
------------------------------------------------------------

namespace SiteSearch.Element

/- One attribute in a start tag. -/
def attributeHtml
    (entry : String × String) :
    List Char :=
  ' ' :: (entry.1.toList ++ ['=', '"'] ++ escape entry.2 ++ ['"'])

/-
  The attributes of the start tag: the identifier, the classes
  with blanks between them, and the others.
-/
def shownAttributes
    (element : Element) :
    List (String × String) :=
  let id := element.id.toList.map fun id => ("id", id)
  let classes :=
    match element.classes with
    | [] => []
    | names => [("class", " ".intercalate names)]
  id ++ classes ++ element.attributes

/- The start tag of an element. -/
def startTag
    (element : Element) :
    List Char :=
  '<' :: (element.tag.toList ++
    element.shownAttributes.flatMap attributeHtml ++ ['>'])

/- The end tag of an element. -/
def endTag
    (element : Element) :
    List Char :=
  '<' :: '/' :: (element.tag.toList ++ ['>'])

mutual

/- The characters of an element. -/
def htmlChars :
    Element → List Char
  | ⟨tag, id, classes, attributes, text, children⟩ =>
      startTag ⟨tag, id, classes, attributes, text, []⟩
        ++ escape (text.getD "")
        ++ htmlAll children
        ++ endTag ⟨tag, id, classes, attributes, text, []⟩

/- The characters of some elements, one behind the other. -/
def htmlAll :
    List Element → List Char
  | [] => []
  | element :: elements => htmlChars element ++ htmlAll elements

end

/- An element as HTML. -/
def toHtml
    (element : Element) :
    String :=
  String.ofList (htmlChars element)

end SiteSearch.Element
