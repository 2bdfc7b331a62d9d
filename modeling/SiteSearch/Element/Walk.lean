import SiteSearch.Element

/-
  Walking through an element.

  Key definitions include:
    * `SiteSearch.Element.size`
    * `SiteSearch.Element.walk`
    * `SiteSearch.Element.descendants`
    * `SiteSearch.Element.anchors`
    * `SiteSearch.Element.preorder`

  The walk keeps a stack of elements to visit.  It takes the
  top one and puts its children in its place, the first child
  on top.  The elements on the stack grow fewer in total,
  whatever their number, so the walk ends.  What it visits is
  the preorder: each element before what is inside it, and
  siblings from left to right.
-/

------------------------------------------------------------
-- Sizes
------------------------------------------------------------

namespace SiteSearch.Element

mutual

/- The number of elements in an element, itself included. -/
def size :
    Element → Nat
  | ⟨_, _, _, _, _, children⟩ => 1 + totalSize children

/- The number of elements in some elements. -/
def totalSize :
    List Element → Nat
  | [] => 0
  | element :: elements => size element + totalSize elements

end

/- Sizes of lists that stand behind each other add up. -/
theorem totalSize_append
    (front back : List Element) :
    totalSize (front ++ back) = totalSize front + totalSize back := by
  induction front with
  | nil => simp [totalSize]
  | cons element elements ih =>
      simp only [List.cons_append, totalSize, ih]
      omega

/- An element is one more than its children. -/
theorem size_eq
    (element : Element) :
    element.size = 1 + totalSize element.children := by
  cases element
  rfl

end SiteSearch.Element

------------------------------------------------------------
-- The Walk
------------------------------------------------------------

namespace SiteSearch.Element

/- Visit the elements on a stack and all that is inside them. -/
def walk
    (stack : List Element) :
    List Element :=
  match stack with
  | [] => []
  | element :: stack => element :: walk (element.children ++ stack)
termination_by totalSize stack
decreasing_by
  rw [totalSize_append, totalSize, size_eq]
  omega

/- Everything inside an element, in document order. -/
def descendants
    (element : Element) :
    List Element :=
  walk element.children

/- The links inside an element, in document order. -/
def anchors
    (element : Element) :
    List Element :=
  element.descendants.filter fun inner => inner.tag == "a"

end SiteSearch.Element

------------------------------------------------------------
-- Preorder
------------------------------------------------------------

namespace SiteSearch.Element

mutual

/- An element before what is inside it. -/
def preorder :
    Element → List Element
  | ⟨tag, id, classes, attributes, text, children⟩ =>
      ⟨tag, id, classes, attributes, text, children⟩ ::
        preorderAll children

/- Siblings from left to right, each with what is inside it. -/
def preorderAll :
    List Element → List Element
  | [] => []
  | element :: elements => preorder element ++ preorderAll elements

end

end SiteSearch.Element
