import SiteSearch.Element.Walk

/-
  Walking in document order.

  The elements on the stack of a walk stand in the order in
  which they are going to be visited.  As the children of the
  top element take its place on the stack, they come before
  whatever was below it.

  Main declarations:
    * `SiteSearch.Element.preorderAll_append`
    * `SiteSearch.Element.walk_eq_preorderAll`
    * `SiteSearch.Element.anchors_eq_filter`
-/

namespace SiteSearch.Element

/- An element comes before what is inside it. -/
theorem preorder_eq
    (element : Element) :
    element.preorder = element :: preorderAll element.children := by
  cases element
  rw [preorder]

/- Siblings in front come before those behind. -/
theorem preorderAll_append
    (front back : List Element) :
    preorderAll (front ++ back) =
      preorderAll front ++ preorderAll back := by
  induction front with
  | nil => rw [List.nil_append, preorderAll, List.nil_append]
  | cons element elements ih =>
      rw [List.cons_append, preorderAll, preorderAll, ih,
        List.append_assoc]

/-
  A walk visits the elements on its stack in order, each
  with its inside.
-/
theorem walk_eq_preorderAll
    (stack : List Element) :
    walk stack = preorderAll stack := by
  induction stack using walk.induct with
  | case1 => rw [walk, preorderAll]
  | case2 element stack ih =>
      rw [walk, ih, preorderAll_append, preorderAll, preorder_eq,
        List.cons_append]

/- So the links inside an element are found in document order. -/
theorem anchors_eq_filter
    (element : Element) :
    element.anchors =
      (preorderAll element.children).filter
        fun inner => inner.tag == "a" := by
  rw [anchors, descendants, walk_eq_preorderAll]

end SiteSearch.Element
