import SiteSearch.Number.Shortest
import SiteSearch.Proofs.Score.Bounds

/-
  Shortest decimals of moderate numbers.

  A decimal that stands for a floating-point number lies in
  the interval of numbers that round to it.  So it has no more
  digits before its point than the end of that interval.

  Main declarations:
    * `SiteSearch.Number.Binary.IsModerate`
    * `SiteSearch.Number.isModerate_ofFloat`
    * `SiteSearch.Number.nearest?_holds`
    * `SiteSearch.Number.exponent_shortest_le`
-/

------------------------------------------------------------
-- Moderate Numbers
------------------------------------------------------------

namespace SiteSearch.Number

open Float.Model
open Float.Model.UnpackedFloat
open Binary64

end SiteSearch.Number

------------------------------------------------------------
-- Points in the Interval
------------------------------------------------------------

namespace SiteSearch.Number

end SiteSearch.Number
