import SiteSearch.Element.Html
import SiteSearch.Element.Walk
import Mathlib.Tactic.SplitIfs

/-
  Reading HTML back.

  A reader takes a page apart at the characters that mean
  something in HTML: a tag begins at each `<`, its name and
  attributes end at the next `>`, and the values of attributes
  stand between double quotes.  What is left are texts with
  entities in them.  Start tags and end tags are then matched.

  As escapes leave none of these characters in a text, what is
  read off the HTML of an element is the element: its tag, its
  attributes with their values, its text and its children.

  Main declarations:
    * `SiteSearch.Markup.read`
    * `SiteSearch.Element.markup`
    * `SiteSearch.Element.IsWellNamed`
    * `SiteSearch.Markup.unescape_escape`
    * `SiteSearch.Markup.tag?_chars`
    * `SiteSearch.Element.nested_tags`
    * `SiteSearch.Markup.read_toHtml`
-/

------------------------------------------------------------
-- Markup
------------------------------------------------------------

namespace SiteSearch

/-
  What HTML says of an element: its tag, its attributes in
  order, the text in front of its children, and the children.
-/
inductive Markup where
  | node
      (tag : String)
      (attributes : List (String × String))
      (text : String)
      (children : List Markup)

namespace Markup

/- A tag, and the text behind it if it is a start tag. -/
inductive Tag where
  | opening
      (name : String)
      (attributes : List (String × String))
      (text : String)
  | closing (name : String)

end Markup

end SiteSearch

------------------------------------------------------------
-- The Reader
------------------------------------------------------------

namespace SiteSearch.Markup

/- Characters of names: letters, digits and hyphens. -/
def isNameChar
    (c : Char) :
    Bool :=
  c.isAlphanum || c == '-'

/- Names of tags and attributes. -/
def isName
    (name : List Char) :
    Bool :=
  !name.isEmpty && name.all isNameChar

/- The five entities, by their names. -/
def entities : List (String × Char) :=
  [("amp", '&'), ("lt", '<'), ("gt", '>'), ("quot", '"'), ("#39", '\'')]

/-
  The text that some characters stand for, if they may be
  inside an entity whose name has begun.
-/
def unescapeFrom
    (begun : Option (List Char)) :
    List Char → Option (List Char)
  | [] => if begun.isNone then some [] else none
  | c :: rest =>
      match begun with
      | none =>
          if c = '&' then unescapeFrom (some []) rest
          else (unescapeFrom none rest).map (c :: ·)
      | some name =>
          if c = ';' then
            (entities.lookup (String.ofList name)).bind fun meant =>
              (unescapeFrom none rest).map (meant :: ·)
          else unescapeFrom (some (name ++ [c])) rest

/- The text that some characters with entities stand for. -/
def unescape
    (chars : List Char) :
    Option (List Char) :=
  unescapeFrom none chars

/-
  The name in front of a value, between a blank and an
  equals sign.
-/
def attributeName? :
    List Char → Option String
  | ' ' :: rest =>
      if isName rest.dropLast && rest.getLast? == some '=' then
        some (String.ofList rest.dropLast)
      else none
  | _ => none

/- The attributes whose names and values the quotes divide. -/
def attributesOf :
    List (List Char) → Option (List (String × String))
  | [[]] => some []
  | name :: value :: pieces => do
      let name ← attributeName? name
      let value ← unescape value
      let attributes ← attributesOf pieces
      return (name, String.ofList value) :: attributes
  | _ => none

/-
  The start tag with a name and attributes between its
  brackets.
-/
def startTag?
    (inside text : List Char) :
    Option Tag := do
  let name := inside.takeWhile (· != ' ')
  let attributes ←
    attributesOf ((inside.dropWhile (· != ' ')).splitOn '"')
  let text ← unescape text
  if isName name then
    some (.opening (String.ofList name) attributes (String.ofList text))
  else none

/-
  The tag with something between its brackets and some text
  behind it.
-/
def tagOf?
    (inside text : List Char) :
    Option Tag :=
  match inside with
  | '/' :: name =>
      if isName name && text.isEmpty then
        some (.closing (String.ofList name))
      else none
  | inside => startTag? inside text

/-
  What stands from behind the first character of a tag up to
  the next tag.
-/
def tag?
    (piece : List Char) :
    Option Tag :=
  match piece.dropWhile (· != '>') with
  | [] => none
  | _ :: text => tagOf? (piece.takeWhile (· != '>')) text

/-
  Match start tags and end tags from the last to the first.
  What is left are the elements at hand and, for each end tag
  whose start tag is still to come, its name and the elements
  behind it.
-/
def nested :
    List Tag → Option (List Markup × List (String × List Markup))
  | [] => some ([], [])
  | .closing name :: tags =>
      (nested tags).map fun (behind, outer) =>
        ([], (name, behind) :: outer)
  | .opening name attributes text :: tags =>
      match nested tags with
      | some (children, (closed, behind) :: outer) =>
          if closed = name then
            some (node name attributes text children :: behind, outer)
          else none
      | _ => none

/- The element that some HTML writes. -/
def read
    (html : String) :
    Option Markup :=
  match html.toList.splitOn '<' with
  | [] :: pieces =>
      match (pieces.mapM tag?).bind nested with
      | some ([element], []) => some element
      | _ => none
  | _ => none

end SiteSearch.Markup

------------------------------------------------------------
-- Elements as Markup
------------------------------------------------------------

namespace SiteSearch.Element

open Markup

/-
  An element whose tag and attributes have names that HTML
  allows.
-/
structure HasNames
    (element : Element) :
    Prop where
  tag : isName element.tag.toList = true
  attributes : ∀ entry ∈ element.attributes,
    isName entry.1.toList = true

/- An element that has such names, with all that is inside it. -/
def IsWellNamed
    (element : Element) :
    Prop :=
  ∀ inner ∈ element.preorder, inner.HasNames

/-
  The attributes that HTML names, in order: the identifier if
  there is one, the classes if there are any, with blanks
  between them, and then all others.
-/
def attributeList
    (id : Option String)
    (classes : List String)
    (attributes : List (String × String)) :
    List (String × String) :=
  match id, classes with
  | none, [] => attributes
  | some id, [] => ("id", id) :: attributes
  | none, classes => ("class", " ".intercalate classes) :: attributes
  | some id, classes =>
      ("id", id) :: ("class", " ".intercalate classes) :: attributes

mutual

/- What HTML says of an element. -/
def markup :
    Element → Markup
  | ⟨tag, id, classes, attributes, text, children⟩ =>
      .node tag (attributeList id classes attributes) (text.getD "")
        (markupAll children)

/- What HTML says of some elements. -/
def markupAll :
    List Element → List Markup
  | [] => []
  | element :: elements => markup element :: markupAll elements

end

mutual

/-
  The tags of an element, in the order in which they are
  written.
-/
def tags :
    Element → List Tag
  | ⟨tag, id, classes, attributes, text, children⟩ =>
      .opening tag (attributeList id classes attributes) (text.getD "")
        :: (tagsAll children ++ [.closing tag])

/- The tags of some elements, one behind the other. -/
def tagsAll :
    List Element → List Tag
  | [] => []
  | element :: elements => tags element ++ tagsAll elements

end

end SiteSearch.Element

------------------------------------------------------------
-- Escapes
------------------------------------------------------------

namespace SiteSearch.Markup

open Element

/- Escapes leave no bracket and no double quote. -/
theorem not_mem_escape
    (text : String)
    {c : Char}
    (hChar : c ∈ ['<', '>', '"']) :
    c ∉ escape text := by
  intro hMember
  rcases List.mem_flatMap.mp hMember with ⟨written, -, hEscaped⟩
  have hEntities :
      ∀ entity ∈ ["&amp;", "&lt;", "&gt;", "&quot;", "&#39;"],
      entity.toList.all (fun c => c ∉ ['<', '>', '"']) = true := by
    decide
  have hClean : ∀ entity ∈ ["&amp;", "&lt;", "&gt;", "&quot;", "&#39;"],
      c ∉ entity.toList := by
    intro entity hEntity hInside
    have hAll :=
      List.all_eq_true.mp (hEntities entity hEntity) c hInside
    exact of_decide_eq_true hAll hChar
  unfold escapeChar at hEscaped
  split_ifs at hEscaped with hAnd hLess hGreater hQuote hApostrophe
  · exact hClean "&amp;" (by decide) hEscaped
  · exact hClean "&lt;" (by decide) hEscaped
  · exact hClean "&gt;" (by decide) hEscaped
  · exact hClean "&quot;" (by decide) hEscaped
  · exact hClean "&#39;" (by decide) hEscaped
  · rw [List.mem_singleton.mp hEscaped] at hChar
    simp [hLess, hGreater, hQuote] at hChar

/-
  An escaped character is read as itself, whatever stands
  behind it.
-/
theorem unescape_escapeChar
    (c : Char)
    (rest : List Char) :
    unescape (escapeChar c ++ rest) = (unescape rest).map (c :: ·) := by
  unfold escapeChar
  split_ifs with hAnd hLess hGreater hQuote hApostrophe
  · rw [hAnd]; rfl
  · rw [hLess]; rfl
  · rw [hGreater]; rfl
  · rw [hQuote]; rfl
  · rw [hApostrophe]; rfl
  · exact if_neg hAnd

/- An escaped text is read as itself. -/
theorem unescape_escape
    (text : String) :
    unescape (escape text) = some text.toList := by
  unfold escape
  induction text.toList with
  | nil => rfl
  | cons c chars ih =>
      rw [List.flatMap_cons, unescape_escapeChar, ih]
      rfl

end SiteSearch.Markup

------------------------------------------------------------
-- Attributes
------------------------------------------------------------

namespace SiteSearch.Markup

open Element

/- A character that no name has is in no name. -/
theorem not_mem_of_isName
    {name : List Char}
    (hName : isName name = true)
    {c : Char}
    (hChar : isNameChar c = false) :
    c ∉ name := by
  intro hMember
  have hAll := (Bool.and_eq_true_iff.mp hName).2
  rw [List.all_eq_true] at hAll
  exact absurd (hAll c hMember) (by simp [hChar])

/- The name in front of a value is read as it was written. -/
theorem attributeName?_eq
    {name : String}
    (hName : isName name.toList = true) :
    attributeName? (' ' :: (name.toList ++ ['='])) = some name := by
  simp [attributeName?, hName, String.ofList_toList]

/-
  What is between quotes and in front of them is read as
  attributes.
-/
theorem attributesOf_splitOn
    {attributes : List (String × String)}
    (hNames : ∀ entry ∈ attributes, isName entry.1.toList = true) :
    attributesOf ((attributes.flatMap attributeHtml).splitOn '"') =
      some attributes := by
  induction attributes with
  | nil => rfl
  | cons entry attributes ih =>
      rcases entry with ⟨name, value⟩
      have hName : isName name.toList = true :=
        hNames _ List.mem_cons_self
      have hRest := ih fun entry hMember =>
        hNames entry (List.mem_cons_of_mem _ hMember)
      have hPieces :
          (((name, value) :: attributes).flatMap attributeHtml) =
            (' ' :: (name.toList ++ ['='])) ++ '"' :: (escape value ++
              '"' :: attributes.flatMap attributeHtml) := by
        simp [attributeHtml]
      have hFront : '"' ∉ ' ' :: (name.toList ++ ['=']) := by
        have hNot := not_mem_of_isName hName (c := '"') (by decide)
        simp [hNot]
      have hValue : '"' ∉ escape value :=
        not_mem_escape value (by decide)
      rw [hPieces, List.splitOn_append_cons_self_of_not_mem hFront,
        List.splitOn_append_cons_self_of_not_mem hValue, attributesOf,
        attributeName?_eq hName, unescape_escape, hRest]
      simp

end SiteSearch.Markup

------------------------------------------------------------
-- Tags
------------------------------------------------------------

namespace SiteSearch.Markup

open Element

namespace Tag

/-
  The characters of a tag behind its first one, and of the
  text behind it.
-/
def chars :
    Tag → List Char
  | opening name attributes text =>
      name.toList ++ attributes.flatMap attributeHtml ++
        '>' :: escape text
  | closing name => '/' :: (name.toList ++ ['>'])

/- A tag with names that HTML allows. -/
def HasNames :
    Tag → Prop
  | opening name attributes _ =>
      isName name.toList = true ∧
        ∀ entry ∈ attributes, isName entry.1.toList = true
  | closing name => isName name.toList = true

end Tag

/- Attributes begin with a blank, if there are any. -/
theorem takeWhile_attributes
    (attributes : List (String × String)) :
    (attributes.flatMap attributeHtml).takeWhile (· != ' ') = [] := by
  cases attributes with
  | nil => rfl
  | cons entry attributes => simp [attributeHtml]

/- A bracket is no character of a name. -/
theorem isNameChar_of_bracket
    {c : Char}
    (hBracket : c ∈ ['<', '>']) :
    isNameChar c = false := by
  rw [List.mem_cons, List.mem_singleton] at hBracket
  rcases hBracket with rfl | rfl
  · rfl
  · rfl

/- No bracket stands in attributes. -/
theorem not_mem_attributes
    {attributes : List (String × String)}
    (hNames : ∀ entry ∈ attributes, isName entry.1.toList = true)
    {c : Char}
    (hBracket : c ∈ ['<', '>']) :
    c ∉ attributes.flatMap attributeHtml := by
  intro hMember
  rcases List.mem_flatMap.mp hMember with ⟨entry, hEntry, hChar⟩
  have hName : c ∉ entry.1.toList :=
    not_mem_of_isName (hNames entry hEntry)
      (isNameChar_of_bracket hBracket)
  have hValue : c ∉ escape entry.2 :=
    not_mem_escape entry.2 (List.mem_append_left ['"'] hBracket)
  simp only [attributeHtml, List.mem_cons, List.mem_append,
    List.not_mem_nil, or_false] at hChar
  rcases hChar with rfl | ((hInside | rfl | rfl) | hInside) | rfl
  · exact absurd hBracket (by decide)
  · exact hName hInside
  · exact absurd hBracket (by decide)
  · exact absurd hBracket (by decide)
  · exact hValue hInside
  · exact absurd hBracket (by decide)

/- A start tag is read as it was written. -/
theorem startTag?_eq
    {name : String}
    {attributes : List (String × String)}
    (hName : isName name.toList = true)
    (hNames : ∀ entry ∈ attributes, isName entry.1.toList = true)
    (text : String) :
    startTag? (name.toList ++ attributes.flatMap attributeHtml)
        (escape text) =
      some (.opening name attributes text) := by
  have hBlank : ∀ c ∈ name.toList, (c != ' ') = true := by
    intro c hMember
    have hNot := not_mem_of_isName hName (c := ' ') (by decide)
    exact bne_iff_ne.mpr fun hSame => hNot (hSame ▸ hMember)
  have hTake := takeWhile_attributes attributes
  have hDrop : (attributes.flatMap attributeHtml).dropWhile (· != ' ') =
      attributes.flatMap attributeHtml := by
    have hBoth := List.takeWhile_append_dropWhile
      (p := (· != ' ')) (l := attributes.flatMap attributeHtml)
    rw [hTake, List.nil_append] at hBoth
    exact hBoth
  unfold startTag?
  rw [List.takeWhile_append_of_pos hBlank,
    List.dropWhile_append_of_pos hBlank, hTake, hDrop, List.append_nil,
    attributesOf_splitOn hNames, unescape_escape]
  simp [hName]

/- A tag ends at its first closing bracket. -/
theorem tag?_append
    {inside : List Char}
    (hInside : '>' ∉ inside)
    (text : List Char) :
    tag? (inside ++ '>' :: text) = tagOf? inside text := by
  have hOther : ∀ c ∈ inside, (c != '>') = true := fun c hMember =>
    bne_iff_ne.mpr fun hSame => hInside (hSame ▸ hMember)
  unfold tag?
  rw [List.dropWhile_append_of_pos hOther,
    List.takeWhile_append_of_pos hOther]
  simp

/- A tag is read as it was written, with the text behind it. -/
theorem tag?_chars
    {tag : Tag}
    (hTag : tag.HasNames) :
    tag? tag.chars = some tag := by
  cases tag with
  | closing name =>
      have hName : isName name.toList = true := hTag
      have hInside : '>' ∉ '/' :: name.toList := by
        have hNot := not_mem_of_isName hName (c := '>') (by decide)
        simp [hNot]
      refine (tag?_append hInside []).trans ?_
      simp [tagOf?, hName]
  | opening name attributes text =>
      rcases hTag with ⟨hName, hNames⟩
      have hInside :
          '>' ∉ name.toList ++ attributes.flatMap attributeHtml := by
        rw [List.mem_append, not_or]
        exact ⟨not_mem_of_isName hName (by decide),
          not_mem_attributes hNames (by decide)⟩
      refine (tag?_append hInside (escape text)).trans ?_
      rw [← startTag?_eq hName hNames text]
      -- A name has a first character, and that is no slash.
      have hSlash := not_mem_of_isName hName (c := '/') (by decide)
      cases hChars : name.toList with
      | nil =>
          rw [hChars] at hName
          cases hName
      | cons c chars =>
          rw [hChars] at hSlash
          unfold tagOf?
          split
          · rename_i hFirst
            cases hFirst
            exact absurd List.mem_cons_self hSlash
          · rfl

/- A tag has no bracket that opens another. -/
theorem not_mem_chars
    {tag : Tag}
    (hTag : tag.HasNames) :
    '<' ∉ tag.chars := by
  cases tag with
  | closing name =>
      have hName : '<' ∉ name.toList :=
        not_mem_of_isName hTag (by decide)
      simp [Tag.chars, hName]
  | opening name attributes text =>
      have hName : '<' ∉ name.toList :=
        not_mem_of_isName hTag.1 (by decide)
      have hAttributes :=
        not_mem_attributes hTag.2 (c := '<') (by decide)
      have hText : '<' ∉ escape text := not_mem_escape text (by decide)
      simp only [Tag.chars, List.mem_append, List.mem_cons, not_or]
      exact ⟨⟨hName, hAttributes⟩, by decide, hText⟩

end SiteSearch.Markup

------------------------------------------------------------
-- Whole Elements
------------------------------------------------------------

namespace SiteSearch.Element

open Markup

/- The start tag holds the attributes that HTML names. -/
theorem shownAttributes_eq
    (element : Element) :
    element.shownAttributes =
      attributeList element.id element.classes element.attributes := by
  unfold shownAttributes attributeList
  cases element.id <;> cases element.classes <;> rfl

mutual

/- HTML is one tag behind the other. -/
theorem htmlChars_eq :
    (element : Element) →
      htmlChars element = (tags element).flatMap ('<' :: ·.chars)
  | ⟨tag, id, classes, attributes, text, children⟩ => by
      rw [htmlChars, htmlAll_eq children, tags, List.flatMap_cons,
        List.flatMap_append, List.flatMap_singleton]
      simp [startTag, endTag, Tag.chars, shownAttributes_eq]

/- So is the HTML of several elements. -/
theorem htmlAll_eq :
    (elements : List Element) →
      htmlAll elements = (tagsAll elements).flatMap ('<' :: ·.chars)
  | [] => rfl
  | element :: elements => by
      rw [htmlAll, htmlChars_eq element, htmlAll_eq elements, tagsAll,
        List.flatMap_append]

end

mutual

/-
  Matching the tags of an element yields it, in front of
  what stands behind.
-/
theorem nested_tags :
    (element : Element) → {rest : List Tag} → {behind : List Markup} →
      {outer : List (String × List Markup)} →
      nested rest = some (behind, outer) →
      nested (element.tags ++ rest) =
        some (element.markup :: behind, outer)
  | ⟨tag, id, classes, attributes, text, children⟩, rest, behind, outer,
    hRest => by
      have hClosed : nested (.closing tag :: rest) =
          some ([], (tag, behind) :: outer) := by
        rw [nested, hRest]
        rfl
      have hInside := nested_tagsAll children hClosed
      rw [tags, List.cons_append, List.append_assoc,
        List.singleton_append, nested, hInside, markup]
      simp

/- So does matching the tags of several elements. -/
theorem nested_tagsAll :
    (elements : List Element) → {rest : List Tag} →
      {behind : List Markup} → {outer : List (String × List Markup)} →
      nested rest = some (behind, outer) →
      nested (tagsAll elements ++ rest) =
        some (markupAll elements ++ behind, outer)
  | [], _, _, _, hRest => hRest
  | element :: elements, _, _, _, hRest => by
      rw [tagsAll, List.append_assoc, markupAll, List.cons_append]
      exact nested_tags element (nested_tagsAll elements hRest)

end

/- The attributes that HTML names have names if the others do. -/
theorem isName_of_mem_attributeList
    (id : Option String)
    (classes : List String)
    {attributes : List (String × String)}
    (hNames : ∀ entry ∈ attributes, isName entry.1.toList = true) :
    ∀ entry ∈ attributeList id classes attributes,
      isName entry.1.toList = true := by
  have hId : isName "id".toList = true := by decide
  have hClass : isName "class".toList = true := by decide
  cases id with
  | none =>
      cases classes with
      | nil => exact hNames
      | cons first others =>
          exact List.forall_mem_cons.mpr ⟨hClass, hNames⟩
  | some id =>
      cases classes with
      | nil => exact List.forall_mem_cons.mpr ⟨hId, hNames⟩
      | cons first others =>
          exact List.forall_mem_cons.mpr
            ⟨hId, List.forall_mem_cons.mpr ⟨hClass, hNames⟩⟩

mutual

/- The tags of an element have names if all that is in it does. -/
theorem hasNames_of_mem_tags :
    (element : Element) → (∀ inner ∈ element.preorder, inner.HasNames) →
      ∀ tag ∈ element.tags, tag.HasNames
  | ⟨tag, id, classes, attributes, text, children⟩, hNames => by
      rw [preorder, List.forall_mem_cons] at hNames
      rcases hNames with ⟨hOwn, hChildren⟩
      rw [tags, List.forall_mem_cons, List.forall_mem_append,
        List.forall_mem_singleton]
      exact ⟨⟨hOwn.tag,
          isName_of_mem_attributeList id classes hOwn.attributes⟩,
        hasNames_of_mem_tagsAll children hChildren, hOwn.tag⟩

/- So do those of several elements. -/
theorem hasNames_of_mem_tagsAll :
    (elements : List Element) →
      (∀ inner ∈ preorderAll elements, inner.HasNames) →
      ∀ tag ∈ tagsAll elements, tag.HasNames
  | [], _ => by
      rintro tag ⟨⟩
  | element :: elements, hNames => by
      rw [preorderAll, List.forall_mem_append] at hNames
      rw [tagsAll, List.forall_mem_append]
      exact ⟨hasNames_of_mem_tags element hNames.1,
        hasNames_of_mem_tagsAll elements hNames.2⟩

end

end SiteSearch.Element

------------------------------------------------------------
-- Reading What Was Written
------------------------------------------------------------

namespace SiteSearch.Markup

/- Tags are taken apart where each of them begins. -/
theorem splitOn_flatMap_chars
    {tags : List Tag}
    (hTags : ∀ tag ∈ tags, tag.HasNames)
    {front : List Char}
    (hFront : '<' ∉ front) :
    (front ++ tags.flatMap ('<' :: ·.chars)).splitOn '<' =
      front :: tags.map Tag.chars := by
  induction tags generalizing front with
  | nil =>
      rw [List.flatMap_nil, List.append_nil, List.map_nil]
      exact List.splitOn_eq_singleton hFront
  | cons tag tags ih =>
      rw [List.forall_mem_cons] at hTags
      rw [List.flatMap_cons, List.cons_append,
        List.splitOn_append_cons_self_of_not_mem hFront,
        ih hTags.2 (not_mem_chars hTags.1), List.map_cons]

/- All tags are read as they were written. -/
theorem mapM_tag?_chars
    {tags : List Tag}
    (hTags : ∀ tag ∈ tags, tag.HasNames) :
    (tags.map Tag.chars).mapM tag? = some tags := by
  induction tags with
  | nil => rfl
  | cons tag tags ih =>
      rw [List.forall_mem_cons] at hTags
      rw [List.map_cons, List.mapM_cons, tag?_chars hTags.1, ih hTags.2]
      rfl

/-
  What is read off the HTML of an element is what HTML says
  of it.
-/
theorem read_toHtml
    {element : Element}
    (hNames : element.IsWellNamed) :
    read element.toHtml = some element.markup := by
  have hTags := Element.hasNames_of_mem_tags element hNames
  have hPieces :
      element.toHtml.toList.splitOn '<' =
        [] :: element.tags.map Tag.chars := by
    rw [Element.toHtml, String.toList_ofList, Element.htmlChars_eq]
    exact splitOn_flatMap_chars hTags List.not_mem_nil
  have hNested : nested element.tags = some ([element.markup], []) := by
    rw [← List.append_nil element.tags]
    exact Element.nested_tags element rfl
  unfold read
  simp only [hPieces, mapM_tag?_chars hTags, Option.bind_some, hNested]

end SiteSearch.Markup

namespace SiteSearch.Element

/-
  HTML cannot be forged by what a page says.  The HTML of an
  element whose tags and attributes have proper names, with
  any identifiers, classes, values and texts, is read back:
  the tags, the attributes of each in order with their values,
  the texts and the children.  So elements with the same HTML
  are told apart by nothing that HTML says of them.
-/
theorem html_tells_elements_apart
    {element : Element}
    (hNames : element.IsWellNamed) :
    Markup.read element.toHtml = some element.markup ∧
      ∀ other : Element, other.IsWellNamed →
        other.toHtml = element.toHtml →
          other.markup = element.markup := by
  have hRead := Markup.read_toHtml hNames
  refine ⟨hRead, fun other hOther hSame => ?_⟩
  have hOtherRead := Markup.read_toHtml hOther
  rw [hSame, hRead] at hOtherRead
  exact (Option.some.inj hOtherRead).symm

/- A link whose identifier, address and text look like markup. -/
def hostile : Element where
  tag := "li"
  id := some "\" class=\"x"
  classes := []
  attributes := []
  text := none
  children :=
    [⟨"a", none, ["b", "'c'"], [("data-href", "/?q=1&lt;=\"2\"><a")],
      some "</a><a href=\"/\">&amp;", []⟩]

/- It is told apart from whatever else has its HTML. -/
theorem html_tells_hostile_apart :
    hostile.IsWellNamed ∧
      Markup.read hostile.toHtml = some hostile.markup ∧
      ∀ other : Element, other.IsWellNamed →
        other.toHtml = hostile.toHtml →
          other.markup = hostile.markup := by
  have hNames : hostile.IsWellNamed := by
    intro inner hMember
    simp only [hostile, preorder, preorderAll, List.append_nil,
      List.mem_cons, List.not_mem_nil, or_false] at hMember
    rcases hMember with rfl | rfl
    · exact ⟨by decide, by decide⟩
    · exact ⟨by decide, by decide⟩
  exact ⟨hNames, html_tells_elements_apart hNames⟩

end SiteSearch.Element
