import SiteSearch.Score

/-
  Ranking.

  Key definitions include:
    * `SiteSearch.Candidate`
    * `SiteSearch.Candidate.compare`
    * `SiteSearch.rank`

  Candidates of higher score come first, and of equal score
  those of the earlier slot.  The sort takes each candidate in
  turn and moves it forward past those that it ranks before,
  so that equally ranked ones keep their order.
-/

------------------------------------------------------------
-- Candidates
------------------------------------------------------------

namespace SiteSearch

/- A stored record, by its slot, and its score. -/
structure Candidate (σ : Type) where
  slot : Nat
  score : σ
deriving DecidableEq, Repr

namespace Candidate

variable {σ : Type}
variable [Score σ]
variable [DecidableLT σ]

/- Which of two candidates ranks first: the lesser one. -/
def compare
    (a b : Candidate σ) :
    Ordering :=
  if b.score < a.score then .lt
  else if a.score < b.score then .gt
  else Ord.compare a.slot b.slot

end Candidate

end SiteSearch

------------------------------------------------------------
-- Sorting
------------------------------------------------------------

namespace SiteSearch

variable {σ : Type}
variable [Score σ]
variable [DecidableLT σ]

/-
  Put a candidate into a list that is ranked from last to
  first.
-/
def moveForward
    (candidate : Candidate σ) :
    List (Candidate σ) → List (Candidate σ)
  | [] => [candidate]
  | last :: others =>
      match candidate.compare last with
      | .lt => last :: moveForward candidate others
      | _ => candidate :: last :: others

/- The candidates from last to first. -/
def rankedBackward
    (candidates : List (Candidate σ)) :
    List (Candidate σ) :=
  candidates.foldl
    (fun ranked candidate => moveForward candidate ranked) []

/- The best candidates in order, at most `limit` of them. -/
def rank
    (candidates : List (Candidate σ))
    (limit : Nat) :
    List (Candidate σ) :=
  (rankedBackward candidates).reverse.take limit

end SiteSearch
