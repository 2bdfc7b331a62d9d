import SiteSearch.Element.Html
import SiteSearch.Proofs.Walk
import Mathlib.Logic.Function.Iterate

/-
  Document order.

  Where an element stands inside another is told by a path: at
  each level the number of the child to go to.  In the order
  of paths an element comes before what is inside it, and
  siblings come one after the other, each with all that is
  inside it.  A walk visits what is inside an element in that
  order, each place once, and it is the order in which HTML
  opens the elements.

  Main declarations:
    * `SiteSearch.Element.visit`
    * `SiteSearch.Element.iterate_visit`
    * `SiteSearch.Element.inside?`
    * `SiteSearch.Element.StandAtPaths`
    * `SiteSearch.Element.OpenInOrder`
    * `SiteSearch.Element.descendants_in_document_order`
-/

------------------------------------------------------------
-- The Turns of a Walk
------------------------------------------------------------

namespace SiteSearch.Element

/-
  One turn of a walk, which has put out some elements and has
  others on its stack: the top one is put out, and its
  children take its place.
-/
def visit :
    List Element × List Element → List Element × List Element
  | (out, []) => (out, [])
  | (out, element :: stack) =>
      (out ++ [element], element.children ++ stack)

/- A turn puts out what the walk of the stack visits next. -/
theorem append_walk_visit
    (state : List Element × List Element) :
    (visit state).1 ++ walk (visit state).2 =
      state.1 ++ walk state.2 := by
  rcases state with ⟨out, stack⟩
  cases stack with
  | nil => rfl
  | cons element stack =>
      rw [visit, walk, List.append_assoc, List.singleton_append]

/-
  It leaves one element less to visit, those inside others
  included.
-/
theorem totalSize_visit
    (state : List Element × List Element) :
    totalSize (visit state).2 = totalSize state.2 - 1 := by
  rcases state with ⟨out, stack⟩
  cases stack with
  | nil => rfl
  | cons element stack =>
      rw [visit, totalSize_append, totalSize, size_eq]
      omega

/-
  What a number of turns put out and left is the walk of the
  stack.
-/
theorem append_walk_iterate_visit
    (turns : Nat)
    (state : List Element × List Element) :
    (visit^[turns] state).1 ++ walk (visit^[turns] state).2 =
      state.1 ++ walk state.2 := by
  induction turns with
  | zero => rfl
  | succ turns ih =>
      rw [Function.iterate_succ_apply', append_walk_visit, ih]

theorem totalSize_iterate_visit
    (turns : Nat)
    (state : List Element × List Element) :
    totalSize (visit^[turns] state).2 = totalSize state.2 - turns := by
  induction turns with
  | zero => rfl
  | succ turns ih =>
      rw [Function.iterate_succ_apply', totalSize_visit, ih,
        Nat.sub_sub]

/- Nothing is left to visit if the stack is empty. -/
theorem totalSize_eq_zero_iff
    (stack : List Element) :
    totalSize stack = 0 ↔ stack = [] := by
  cases stack with
  | nil => simp [totalSize]
  | cons element stack =>
      rw [totalSize, size_eq]
      simp

/-
  So the stack is empty after as many turns as there are
  elements.
-/
theorem iterate_visit_eq_nil_iff
    (turns : Nat)
    (state : List Element × List Element) :
    (visit^[turns] state).2 = [] ↔ totalSize state.2 ≤ turns := by
  rw [← totalSize_eq_zero_iff, totalSize_iterate_visit]
  exact Nat.sub_eq_zero_iff_le

/-
  By then they have all been put out, in the order of the
  walk.
-/
theorem iterate_visit
    (stack : List Element)
    {turns : Nat}
    (hTurns : totalSize stack ≤ turns) :
    visit^[turns] ([], stack) = (walk stack, []) := by
  have hStack := (iterate_visit_eq_nil_iff turns ([], stack)).mpr hTurns
  have hOut := append_walk_iterate_visit turns ([], stack)
  rw [hStack, walk, List.append_nil, List.nil_append] at hOut
  exact Prod.ext hOut hStack

/- A walk visits as many elements as there are. -/
theorem length_preorderAll
    (elements : List Element) :
    (preorderAll elements).length = totalSize elements := by
  rw [← walk_eq_preorderAll]
  induction elements using walk.induct with
  | case1 => rw [walk, totalSize, List.length_nil]
  | case2 element stack ih =>
      rw [walk, List.length_cons, ih, totalSize_append, totalSize,
        size_eq]
      omega

end SiteSearch.Element

------------------------------------------------------------
-- Paths
------------------------------------------------------------

namespace SiteSearch.Element

/-
  The element at the end of a path, if the path leads
  anywhere.
-/
def inside?
    (element : Element) :
    List Nat → Option Element
  | [] => some element
  | place :: path =>
      element.children[place]?.bind fun child => child.inside? path

/-
  Elements stand in the order of their paths: there is one for
  each path that leads inside an element, and a path comes
  before those that go on from it and before those that turn
  off to a later sibling.
-/
def StandAtPaths
    (visited : List Element)
    (element : Element) :
    Prop :=
  ∃ paths : List (List Nat),
    paths.Pairwise (· < ·) ∧
      (∀ path, path ∈ paths ↔
        path ≠ [] ∧ (element.inside? path).isSome = true) ∧
      visited.map some = paths.map element.inside?

mutual

/- The paths in an element, itself included. -/
def paths :
    Element → List (List Nat)
  | ⟨_, _, _, _, _, children⟩ => [] :: pathsAll 0 children

/-
  The paths in siblings that are numbered from the first one
  on.
-/
def pathsAll
    (first : Nat) :
    List Element → List (List Nat)
  | [] => []
  | element :: elements =>
      (paths element).map (first :: ·) ++ pathsAll (first + 1) elements

end

/-
  The paths in an element are its own and those in its
  children.
-/
theorem paths_eq
    (element : Element) :
    element.paths = [] :: pathsAll 0 element.children := by
  cases element
  rw [paths]

/- A path in siblings goes to one of them and stays in it. -/
theorem mem_pathsAll_iff
    (first : Nat)
    (elements : List Element)
    (path : List Nat) :
    path ∈ pathsAll first elements ↔
      ∃ place rest element, path = (first + place) :: rest ∧
        elements[place]? = some element ∧ rest ∈ element.paths := by
  induction elements generalizing first with
  | nil => simp [pathsAll]
  | cons element elements ih =>
      rw [pathsAll, List.mem_append, List.mem_map, ih]
      constructor
      · rintro (⟨rest, hRest, rfl⟩ |
          ⟨place, rest, other, rfl, hOther, hRest⟩)
        · exact ⟨0, rest, element, rfl, rfl, hRest⟩
        · refine ⟨place + 1, rest, other, ?_, hOther, hRest⟩
          rw [Nat.add_right_comm, Nat.add_assoc]
      · rintro ⟨place, rest, other, rfl, hOther, hRest⟩
        cases place with
        | zero =>
            rw [List.getElem?_cons_zero, Option.some.injEq] at hOther
            subst hOther
            exact Or.inl ⟨rest, hRest, rfl⟩
        | succ place =>
            refine Or.inr ⟨place, rest, other, ?_, hOther, hRest⟩
            rw [Nat.add_right_comm, Nat.add_assoc]

/- The paths in an element are those that lead somewhere. -/
theorem mem_paths_iff
    (element : Element)
    (path : List Nat) :
    path ∈ element.paths ↔ (element.inside? path).isSome = true := by
  induction path generalizing element with
  | nil => simp [paths_eq, inside?]
  | cons place path ih =>
      have hNotOwn : place :: path ≠ [] := List.cons_ne_nil place path
      rw [paths_eq, List.mem_cons, or_iff_right hNotOwn,
        mem_pathsAll_iff, inside?]
      constructor
      · rintro ⟨other, rest, child, hPath, hChild, hRest⟩
        rw [Nat.zero_add, List.cons.injEq] at hPath
        rcases hPath with ⟨rfl, rfl⟩
        rw [hChild]
        exact (ih child).mp hRest
      · intro hSome
        cases hChild : element.children[place]? with
        | none =>
            rw [hChild] at hSome
            cases hSome
        | some child =>
            rw [hChild] at hSome
            exact ⟨place, path, child, by rw [Nat.zero_add], hChild,
              (ih child).mpr hSome⟩

mutual

/-
  Paths ascend, an element being in front of what is inside
  it.
-/
theorem pairwise_paths :
    (element : Element) → element.paths.Pairwise (· < ·)
  | ⟨tag, id, classes, attributes, text, children⟩ => by
      rw [paths, List.pairwise_cons]
      refine ⟨?_, pairwise_pathsAll 0 children⟩
      intro path hPath
      rcases (mem_pathsAll_iff ..).mp hPath with
        ⟨place, rest, child, rfl, -, -⟩
      exact List.nil_lt_cons _ rest

/- So do those in siblings, from left to right. -/
theorem pairwise_pathsAll
    (first : Nat) :
    (elements : List Element) →
      (pathsAll first elements).Pairwise (· < ·)
  | [] => List.Pairwise.nil
  | element :: elements => by
      rw [pathsAll, List.pairwise_append, List.pairwise_map]
      refine ⟨?_, pairwise_pathsAll (first + 1) elements, ?_⟩
      · exact (pairwise_paths element).imp fun hLess =>
          List.cons_lt_cons_iff.mpr (Or.inr ⟨rfl, hLess⟩)
      · intro before hBefore behind hBehind
        rcases List.mem_map.mp hBefore with ⟨path, -, rfl⟩
        rcases (mem_pathsAll_iff ..).mp hBehind with
          ⟨place, rest, other, rfl, -, -⟩
        exact List.cons_lt_cons_iff.mpr (Or.inl (by omega))

end

mutual

/- Preorder lists the elements at the paths. -/
theorem map_some_preorder :
    (element : Element) →
      element.preorder.map some = element.paths.map element.inside?
  | ⟨tag, id, classes, attributes, text, children⟩ => by
      rw [preorder, paths, List.map_cons, List.map_cons, inside?]
      exact congrArg _ (map_some_preorderAll _ [] children rfl)

/-
  So do siblings, wherever they stand among the children of
  a parent.
-/
theorem map_some_preorderAll
    (parent : Element)
    (front : List Element) :
    (elements : List Element) → parent.children = front ++ elements →
      (preorderAll elements).map some =
        (pathsAll front.length elements).map parent.inside?
  | [], _ => rfl
  | element :: elements, hChildren => by
      -- The siblings in front are as many as the place of the first
      -- one here.
      have hOwn : parent.children[front.length]? = some element := by
        rw [hChildren, List.getElem?_append_right (Nat.le_refl _),
          Nat.sub_self]
        rfl
      have hOthers :
          parent.children = (front ++ [element]) ++ elements := by
        rw [hChildren, List.append_assoc]
        rfl
      have hBehind := map_some_preorderAll parent _ elements hOthers
      rw [List.length_append, List.length_singleton] at hBehind
      rw [preorderAll, pathsAll, List.map_append, List.map_append,
        hBehind, map_some_preorder element, List.map_map]
      congr 1
      apply List.map_congr_left
      intro path _
      rw [Function.comp_apply, inside?, hOwn, Option.bind_some]

end

/- What is inside an element stands in preorder at its paths. -/
theorem standAtPaths_preorderAll
    (element : Element) :
    StandAtPaths (preorderAll element.children) element := by
  refine ⟨pathsAll 0 element.children,
    pairwise_pathsAll 0 element.children, ?_, ?_⟩
  · intro path
    rw [← mem_paths_iff, paths_eq, List.mem_cons]
    constructor
    · intro hPath
      refine ⟨?_, Or.inr hPath⟩
      rcases (mem_pathsAll_iff ..).mp hPath with
        ⟨place, rest, child, rfl, -, -⟩
      exact List.cons_ne_nil _ rest
    · rintro ⟨hInside, hOwn | hPath⟩
      · exact absurd hOwn hInside
      · exact hPath
  · exact map_some_preorderAll element [] element.children rfl

end SiteSearch.Element

------------------------------------------------------------
-- HTML
------------------------------------------------------------

namespace SiteSearch.Element

/- A place in HTML where an element begins or ends. -/
inductive Boundary where
  | opening (element : Element)
  | closing (element : Element)

namespace Boundary

/-
  What is written there: the start tag of the element and its
  text, or its end tag.
-/
def chars :
    Boundary → List Char
  | opening element => startTag element ++ escape (element.text.getD "")
  | closing element => endTag element

/- The element that begins there, if any. -/
def opened? :
    Boundary → Option Element
  | opening element => some element
  | closing _ => none

/- The element that ends there, if any. -/
def closed? :
    Boundary → Option Element
  | opening _ => none
  | closing element => some element

end Boundary

/-
  HTML opens some elements one after the other: it consists of
  their start tags in this order, each with the text of the
  element behind it, and of one end tag for each of them.
-/
def OpenInOrder
    (elements : List Element)
    (html : List Char) :
    Prop :=
  ∃ boundaries : List Boundary,
    html = boundaries.flatMap Boundary.chars ∧
      boundaries.filterMap Boundary.opened? = elements ∧
      (boundaries.filterMap Boundary.closed?).Perm elements

/-
  Where one text follows another, so do the elements that it
  opens.
-/
theorem OpenInOrder.append
    {first second : List Element}
    {html behind : List Char}
    (hFirst : OpenInOrder first html)
    (hSecond : OpenInOrder second behind) :
    OpenInOrder (first ++ second) (html ++ behind) := by
  rcases hFirst with ⟨boundaries, rfl, rfl, hClosed⟩
  rcases hSecond with ⟨others, rfl, rfl, hOthers⟩
  refine ⟨boundaries ++ others, ?_, ?_, ?_⟩
  · rw [List.flatMap_append]
  · rw [List.filterMap_append]
  · rw [List.filterMap_append]
    exact hClosed.append hOthers

/- An element is opened before what stands between its tags. -/
theorem OpenInOrder.between
    {elements : List Element}
    {html : List Char}
    (hInside : OpenInOrder elements html)
    (element : Element) :
    OpenInOrder (element :: elements)
      (startTag element ++ escape (element.text.getD "") ++ html
        ++ endTag element) := by
  rcases hInside with ⟨boundaries, rfl, rfl, hClosed⟩
  -- The end tag comes last, yet closes the element that was opened
  -- first.
  refine ⟨.opening element :: (boundaries ++ [.closing element]),
    ?_, ?_, ?_⟩
  · simp [Boundary.chars]
  · simp [Boundary.opened?]
  · simp only [List.filterMap_cons, List.filterMap_append,
      List.filterMap_nil, Boundary.closed?]
    exact (List.perm_append_singleton element _).trans
      (hClosed.cons element)

mutual

/- HTML opens an element and what is inside it in preorder. -/
theorem openInOrder_preorder :
    (element : Element) →
      OpenInOrder element.preorder (htmlChars element)
  | ⟨tag, id, classes, attributes, text, children⟩ => by
      rw [preorder, htmlChars]
      exact (openInOrder_preorderAll children).between
        ⟨tag, id, classes, attributes, text, children⟩

/- And siblings from left to right. -/
theorem openInOrder_preorderAll :
    (elements : List Element) →
      OpenInOrder (preorderAll elements) (htmlAll elements)
  | [] => ⟨[], rfl, rfl, List.Perm.nil⟩
  | element :: elements => by
      rw [preorderAll, htmlAll]
      exact (openInOrder_preorder element).append
        (openInOrder_preorderAll elements)

end

end SiteSearch.Element

------------------------------------------------------------
-- The Walk
------------------------------------------------------------

namespace SiteSearch.Element

/-
  Walking through an element ends: its stack is empty after
  one turn for each element inside, and not before.  What has
  been put out by then is the preorder, each element once, in
  front of what is inside it and behind its earlier siblings
  with what is inside those.  HTML opens the elements in the
  same order, and the links are those with the tag of a link.
-/
theorem descendants_in_document_order
    (element : Element) :
    (∀ turns,
        (visit^[turns] ([], element.children)).2 = [] ↔
          element.size ≤ turns + 1) ∧
      visit^[element.size - 1] ([], element.children) =
        (element.descendants, []) ∧
      element.descendants = preorderAll element.children ∧
      element.descendants.length + 1 = element.size ∧
      StandAtPaths element.descendants element ∧
      OpenInOrder (element :: element.descendants) element.toHtml.toList ∧
      element.anchors =
        (preorderAll element.children).filter fun inner =>
          inner.tag == "a" := by
  have hWalk : element.descendants = preorderAll element.children :=
    walk_eq_preorderAll element.children
  refine ⟨?_, ?_, hWalk, ?_, ?_, ?_, element.anchors_eq_filter⟩
  · intro turns
    rw [iterate_visit_eq_nil_iff, size_eq, Nat.add_comm,
      Nat.add_le_add_iff_right]
  · exact iterate_visit element.children (by rw [size_eq]; omega)
  · rw [hWalk, length_preorderAll, size_eq, Nat.add_comm]
  · rw [hWalk]
    exact standAtPaths_preorderAll element
  · rw [hWalk, ← preorder_eq, toHtml, String.toList_ofList]
    exact openInOrder_preorder element

end SiteSearch.Element
