import SiteSearch.Text.Runs

/-
  Runs of lists that are put together or cut.

  An item outside the class separates the runs before it from
  those behind it.  Cutting a list anywhere cuts its runs: the
  runs before the cut stay, and the run at the cut becomes the
  beginning of what it was.

  Main declarations:
    * `SiteSearch.Text.closeRun_reverse`
    * `SiteSearch.Text.runs_append_cons`
    * `SiteSearch.Text.runs_intercalate_runs`
    * `SiteSearch.Text.flatten_runsFrom`
    * `SiteSearch.Text.runs_of_inside`
    * `SiteSearch.Text.IsCut`
    * `SiteSearch.Text.IsCut.exists_split`
    * `SiteSearch.Text.isCut_runs_append`
-/

------------------------------------------------------------
-- What Was Collected
------------------------------------------------------------

namespace SiteSearch.Text

variable {α : Type}

/- What was collected in reverse is a run if it is anything. -/
theorem closeRun_reverse
    {items : List α}
    (hSome : items ≠ []) :
    closeRun items.reverse = [items] := by
  cases hReversed : items.reverse with
  | nil => exact absurd (List.reverse_eq_nil_iff.mp hReversed) hSome
  | cons a before =>
      change [(a :: before).reverse] = [items]
      rw [← hReversed, List.reverse_reverse]

/- So it is not an empty one. -/
theorem nil_not_mem_closeRun
    (collected : List α) :
    [] ∉ closeRun collected := by
  cases collected with
  | nil => exact List.not_mem_nil
  | cons a collected => simp [closeRun]

/- Its pieces are those of the run, if nothing has none. -/
theorem flatMap_closeRun
    {β : Type}
    {pieces : List α → List β}
    (hNil : pieces [] = [])
    (collected : List α) :
    (closeRun collected).flatMap pieces = pieces collected.reverse := by
  cases collected with
  | nil => exact hNil.symm
  | cons a collected => exact List.flatMap_singleton pieces _

theorem flatten_closeRun
    (collected : List α) :
    (closeRun collected).flatten = collected.reverse := by
  rw [← List.flatMap_id, flatMap_closeRun rfl, id]

end SiteSearch.Text

------------------------------------------------------------
-- Separators
------------------------------------------------------------

namespace SiteSearch.Text

variable {α : Type}

/- A separator closes the run before it. -/
theorem runsFrom_append_cons
    (inside : α → Bool)
    (collected before : List α)
    {separator : α}
    (hSeparator : inside separator = false)
    (rest : List α) :
    runsFrom inside collected (before ++ separator :: rest) =
      runsFrom inside collected before ++ runs inside rest := by
  induction before generalizing collected with
  | nil => simp [runsFrom, runs, hSeparator]
  | cons a before ih =>
      rw [List.cons_append, runsFrom, runsFrom]
      split
      · exact ih (a :: collected)
      · rw [ih, List.append_assoc]

/- A separator stands between the runs of both sides. -/
theorem runs_append_cons
    (inside : α → Bool)
    (before : List α)
    {separator : α}
    (hSeparator : inside separator = false)
    (rest : List α) :
    runs inside (before ++ separator :: rest) =
      runs inside before ++ runs inside rest :=
  runsFrom_append_cons inside [] before hSeparator rest

/- Lists with a separator between them have the runs of each. -/
theorem runs_intercalate
    (inside : α → Bool)
    {separator : α}
    (hSeparator : inside separator = false)
    (lists : List (List α)) :
    runs inside ([separator].intercalate lists) =
      lists.flatMap (runs inside) := by
  induction lists with
  | nil => rfl
  | cons first lists ih =>
      cases lists with
      | nil => simp [List.intercalate]
      | cons second lists =>
          have hJoined :
              [separator].intercalate (first :: second :: lists) =
                first ++ separator ::
                  [separator].intercalate (second :: lists) := by
            simp [List.intercalate]
          rw [hJoined, runs_append_cons inside first hSeparator, ih,
            List.flatMap_cons (x := first)]

/- Runs inside a larger class have the runs of the whole list. -/
theorem flatMap_runs_runsFrom
    {inside larger : α → Bool}
    (hLarger : ∀ a, larger a = false → inside a = false)
    (collected items : List α) :
    (runsFrom larger collected items).flatMap (runs inside) =
      runs inside (collected.reverse ++ items) := by
  induction items generalizing collected with
  | nil =>
      rw [List.append_nil]
      exact flatMap_closeRun rfl collected
  | cons a items ih =>
      rw [runsFrom]
      split
      · rw [ih, List.reverse_cons, List.append_assoc]
        rfl
      · rename_i hOutside
        rw [List.flatMap_append, flatMap_closeRun rfl, ih,
          runs_append_cons inside collected.reverse
            (hLarger a (by simpa using hOutside))]
        rfl

/-
  Joining the runs of a larger class by a separator keeps
  the runs.
-/
theorem runs_intercalate_runs
    {inside larger : α → Bool}
    (hLarger : ∀ a, larger a = false → inside a = false)
    {separator : α}
    (hSeparator : inside separator = false)
    (items : List α) :
    runs inside ([separator].intercalate (runs larger items)) =
      runs inside items := by
  rw [runs_intercalate inside hSeparator]
  exact flatMap_runs_runsFrom hLarger [] items

end SiteSearch.Text

------------------------------------------------------------
-- Members
------------------------------------------------------------

namespace SiteSearch.Text

variable {α : Type}

/- Runs hold what was collected and the items inside the class. -/
theorem flatten_runsFrom
    (inside : α → Bool)
    (collected items : List α) :
    (runsFrom inside collected items).flatten =
      collected.reverse ++ items.filter inside := by
  induction items generalizing collected with
  | nil =>
      rw [runsFrom, flatten_closeRun, List.filter_nil, List.append_nil]
  | cons a items ih =>
      rw [runsFrom]
      split
      · rename_i hInside
        rw [ih, List.reverse_cons, List.append_assoc,
          List.filter_cons_of_pos hInside]
        rfl
      · rename_i hOutside
        rw [List.flatten_append, flatten_closeRun, ih,
          List.filter_cons_of_neg hOutside]
        rfl

/-
  So a run holds items of the list, all of them inside the
  class.
-/
theorem mem_and_inside_of_mem_runs
    {inside : α → Bool}
    {items run : List α}
    (hRun : run ∈ runs inside items)
    {a : α}
    (hMember : a ∈ run) :
    a ∈ items ∧ inside a = true := by
  have hFlat := List.mem_flatten.mpr ⟨run, hRun, hMember⟩
  rw [runs, flatten_runsFrom] at hFlat
  exact List.mem_filter.mp hFlat

/- No run is empty. -/
theorem nil_not_mem_runsFrom
    (inside : α → Bool)
    (collected items : List α) :
    [] ∉ runsFrom inside collected items := by
  induction items generalizing collected with
  | nil => exact nil_not_mem_closeRun collected
  | cons a items ih =>
      rw [runsFrom]
      split
      · exact ih (a :: collected)
      · rw [List.mem_append, not_or]
        exact ⟨nil_not_mem_closeRun collected, ih []⟩

/- A list inside the class is collected as a whole. -/
theorem runsFrom_of_inside
    {inside : α → Bool}
    {items : List α}
    (hInside : ∀ a ∈ items, inside a = true)
    (collected : List α) :
    runsFrom inside collected items =
      closeRun (items.reverse ++ collected) := by
  induction items generalizing collected with
  | nil => rfl
  | cons a items ih =>
      rw [runsFrom, if_pos (hInside a List.mem_cons_self),
        ih fun b hB => hInside b (List.mem_cons_of_mem a hB),
        List.reverse_cons, List.append_assoc]
      rfl

/- So it is its only run. -/
theorem runs_of_inside
    {inside : α → Bool}
    {items : List α}
    (hSome : items ≠ [])
    (hInside : ∀ a ∈ items, inside a = true) :
    runs inside items = [items] := by
  rw [runs, runsFrom_of_inside hInside, List.append_nil,
    closeRun_reverse hSome]

end SiteSearch.Text

------------------------------------------------------------
-- Cuts
------------------------------------------------------------

namespace SiteSearch.Text

variable {α : Type}

/-
  Runs that are left of others when the list is cut: the same
  ones, but for the last, which may be a beginning only.
-/
def IsCut :
    List (List α) → List (List α) → Prop
  | [], _ => True
  | _ :: _, [] => False
  | [run], longer :: _ => run <+: longer
  | run :: next :: runs, longer :: others =>
      run = longer ∧ IsCut (next :: runs) others

/- Whatever is left of a run is the beginning of one. -/
theorem IsCut.exists_beginning
    {runs others : List (List α)}
    (hCut : IsCut runs others)
    {run : List α}
    (hRun : run ∈ runs) :
    ∃ other ∈ others, run <+: other := by
  induction runs generalizing others with
  | nil => simp at hRun
  | cons first runs ih =>
      cases others with
      | nil => exact hCut.elim
      | cons longer others =>
          cases runs with
          | nil =>
              rw [List.mem_singleton.mp hRun]
              exact ⟨longer, List.mem_cons_self, hCut⟩
          | cons next runs =>
              rcases List.mem_cons.mp hRun with rfl | hBehind
              · exact ⟨longer, List.mem_cons_self,
                  hCut.1 ▸ List.prefix_rfl⟩
              · rcases ih hCut.2 hBehind with ⟨other, hOther, hPrefix⟩
                exact ⟨other, List.mem_cons_of_mem longer hOther,
                  hPrefix⟩

/-
  Runs that are left of others stand in front as they were,
  up to the one at the cut, which was as long or longer.
-/
theorem IsCut.exists_split
    {runs others : List (List α)}
    (hCut : IsCut runs others)
    (hSome : runs ≠ []) :
    ∃ front run longer behind,
      runs = front ++ [run] ∧ others = front ++ longer :: behind ∧
        run <+: longer := by
  induction runs generalizing others with
  | nil => exact absurd rfl hSome
  | cons first runs ih =>
      cases others with
      | nil => exact hCut.elim
      | cons longer others =>
          cases runs with
          | nil => exact ⟨[], first, longer, others, rfl, rfl, hCut⟩
          | cons next runs =>
              rcases hCut with ⟨rfl, hRest⟩
              rcases ih hRest (List.cons_ne_nil next runs) with
                ⟨front, run, word, behind, hRuns, hOthers, hPrefix⟩
              refine ⟨first :: front, run, word, behind, ?_, ?_,
                hPrefix⟩
              · rw [hRuns, List.cons_append]
              · rw [hOthers, List.cons_append]

/- The same run in front keeps a cut. -/
theorem IsCut.cons
    (run : List α)
    {runs others : List (List α)}
    (hCut : IsCut runs others) :
    IsCut (run :: runs) (run :: others) := by
  cases runs with
  | nil => exact List.prefix_rfl
  | cons next runs => exact ⟨rfl, hCut⟩

/- A run that was begun is continued by the items that follow. -/
theorem exists_run_of_collected
    (inside : α → Bool)
    {collected : List α}
    (hCollected : collected ≠ [])
    (items : List α) :
    ∃ run others, runsFrom inside collected items = run :: others ∧
      collected.reverse <+: run := by
  induction items generalizing collected with
  | nil =>
      cases collected with
      | nil => exact absurd rfl hCollected
      | cons a collected => exact ⟨_, _, rfl, List.prefix_rfl⟩
  | cons b items ih =>
      rw [runsFrom]
      split
      · rcases ih (List.cons_ne_nil b collected) with
          ⟨run, others, hRuns, hPrefix⟩
        refine ⟨run, others, hRuns, ?_⟩
        rw [List.reverse_cons] at hPrefix
        exact (List.prefix_append _ [b]).trans hPrefix
      · cases collected with
        | nil => exact absurd rfl hCollected
        | cons a collected => exact ⟨_, _, rfl, List.prefix_rfl⟩

/-
  Cutting a list cuts the runs that continue what was
  collected.
-/
theorem isCut_runsFrom_append
    (inside : α → Bool)
    (collected items rest : List α) :
    IsCut (runsFrom inside collected items)
      (runsFrom inside collected (items ++ rest)) := by
  induction items generalizing collected with
  | nil =>
      cases collected with
      | nil => trivial
      | cons a collected =>
          rcases exists_run_of_collected inside
              (List.cons_ne_nil a collected) rest with
            ⟨run, others, hRuns, hPrefix⟩
          rw [List.nil_append, hRuns]
          exact hPrefix
  | cons b items ih =>
      rw [List.cons_append, runsFrom, runsFrom]
      split
      · exact ih (b :: collected)
      · cases collected with
        | nil => exact ih []
        | cons a collected => exact (ih []).cons _

/- Cutting a list cuts its runs. -/
theorem isCut_runs_append
    (inside : α → Bool)
    (items rest : List α) :
    IsCut (runs inside items) (runs inside (items ++ rest)) :=
  isCut_runsFrom_append inside [] items rest

end SiteSearch.Text
