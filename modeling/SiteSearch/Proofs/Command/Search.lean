import SiteSearch.Command.Run
import SiteSearch.Proofs.Page

/-
  What a search prints.

  A search answers its query in a new search box, whose load
  has ended.  What is printed depends on the query and on the
  matches in the search data, and on nothing else.  It is the
  same for every search box that shows the answer to the query.

  Main declarations:
    * `SiteSearch.Artifact.found`
    * `SiteSearch.shownFor`
    * `SiteSearch.DataOptions.Loads`
    * `SiteSearch.Page.Shows.shownOutcome`
    * `SiteSearch.search_of_fetched`
    * `SiteSearch.search_json_of_fetched`
    * `SiteSearch.DataOptions.Loads.search_shown`
    * `SiteSearch.DataOptions.Loads.search_bare`
-/

------------------------------------------------------------
-- What Is Printed
------------------------------------------------------------

namespace SiteSearch

/-
  The matches of a query in the search data, as many as are
  wanted.
-/
def Artifact.found
    (artifact : Artifact)
    (config : Config)
    (query : String) :
    List (Match Float) :=
  (SearchIndex.ofRecords artifact.records).search query
    config.limit.toNat

/-
  The list of results in a format other than that of bare
  matches.
-/
def shownList
    (terminal : Terminal)
    (format : Format)
    (list : Element) :
    String :=
  match format with
  | .html => list.toHtml ++ "\n"
  | _ => terminal.results list

/- How many matches there are, as it is told. -/
def hitsMessage
    (count : Nat) :
    String :=
  let ending := if count = 1 then "" else "s"
  s!"✅ {count} hit{ending}\n"

/-
  What is printed about a query that has these matches:
  output and messages.
-/
def shownFor
    (terminal : Terminal)
    (format : Format)
    (config : Config)
    (query : String)
    (found : List (Match Float)) :
    String × String :=
  if query = "" then ("", "⚠️  empty query\n")
  else if found.isEmpty then
    ("", s!"⚠️  no hits for {Text.quote query}\n")
  else
    (shownList terminal format (resultsFor config found),
      hitsMessage found.length)

end SiteSearch

------------------------------------------------------------
-- Search Boxes over Search Data
------------------------------------------------------------

namespace SiteSearch

variable {location : String}
variable {answer : Answer}
variable {artifact : Artifact}
variable {config : Config}

/-
  Search data that was fetched was read from the bytes of
  the answer.
-/
theorem exists_bytes_of_fetched
    (hFetched : fetched? location answer = some artifact) :
    ∃ bytes, answer = .bytes bytes ∧
      Artifact.ofBytes location bytes = .ok artifact := by
  cases answer with
  | death => cases hFetched
  | failure cause => cases hFetched
  | bytes bytes =>
      refine ⟨bytes, rfl, ?_⟩
      cases hRead : Artifact.ofBytes location bytes with
      | error cause =>
          simp [fetched?, hRead, Except.toOption] at hFetched
      | ok other =>
          simpa [fetched?, hRead, Except.toOption] using hFetched

/- A load from search data ends ready, with its index. -/
theorem load_of_fetched
    (hFetched : fetched? location answer = some artifact) :
    (load location answer).1 =
      .ready ⟨SearchIndex.ofRecords artifact.records,
        artifact.info⟩ := by
  rcases exists_bytes_of_fetched hFetched with ⟨bytes, rfl, hBytes⟩
  simp only [load, hBytes]

namespace Page

variable {page : Page}
variable {query : String}
variable {status : Status}
variable {outcome : Outcome}

/-
  What is printed about an answered query is determined by the
  query and its matches, if the loader was ready.
-/
theorem Shows.shownOutcome
    (hShows : page.Shows 0 config (some artifact)
      (some ⟨query, status, outcome⟩))
    (hReady : status.isReady = true)
    (terminal : Terminal)
    (format : Format)
    (spare : Widget) :
    SiteSearch.shownOutcome terminal format
        (page.widgets.headD spare) outcome =
      shownFor terminal format config query
        (artifact.found config query) := by
  rcases hShows with ⟨widget, hWidget, hShown⟩
  have hHead : page.widgets.headD spare = widget := by
    rw [List.headD_eq_head?_getD, List.head?_eq_getElem?, hWidget]
    rfl
  have hFound :
      matchesFor (some artifact) config.limit.toNat query status =
      if query = "" then [] else artifact.found config query := by
    cases status with
    | ready handle => rfl
    | unloaded => cases hReady
    | loading => cases hReady
    | failed cause => cases hReady
  have hOutcome := hShown.outcome_eq _ rfl
  have hResults := hShown.results_eq
  simp only [Answered.found, hFound] at hOutcome
  simp only [Option.map_some, Option.getD_some, Answered.found, hFound]
    at hResults
  have hQuery : widget.query = query := hShown.query_eq
  rw [hHead, hOutcome, shownFor, outcomeFor]
  by_cases hText : query = ""
  · simp [hText, SiteSearch.shownOutcome]
  · simp only [hText, if_false] at hResults ⊢
    rw [hReady, if_pos rfl]
    by_cases hNone : (artifact.found config query).isEmpty = true
    · simp [hNone, SiteSearch.shownOutcome, hQuery]
    · simp only [hNone, SiteSearch.shownOutcome, hResults, shownList,
        hitsMessage]
      cases format <;> rfl

end Page

/-
  A search begins with a focus on its search box, and waits
  for the load.
-/
theorem openedPage_eq_run
    (source : String)
    (answer : Answer)
    (config : Config) :
    openedPage source answer config =
      (Page.new source answer [config]).run [.focus 0, .progress] := rfl

/- Its load has then ended. -/
theorem status_openedPage
    (source : String)
    (answer : Answer)
    (config : Config) :
    (openedPage source answer config).loader.status =
      (load source answer).1 := rfl

/- The query of a search is shown in its search box. -/
theorem shows_query_openedPage
    (hFetched : fetched? location answer = some artifact)
    (config : Config)
    (query : String) :
    let page := openedPage location answer config
    (page.query 0 query).1.Shows 0 config (some artifact)
      (some ⟨query, page.loader.status, (page.query 0 query).2⟩) := by
  have hServes := Loader.serves_new location answer
  have hNew := Page.shows_new location answer [config] ⟨0, Nat.one_pos⟩
  have hShows := (hNew.run hServes [.focus 0, .progress]).query
    (Page.serves_run hServes [.focus 0, .progress]) query
  rw [← openedPage_eq_run, hFetched] at hShows
  exact hShows

/-
  A search in search data prints what its search box shows of
  the matches.
-/
theorem search_of_fetched
    (hFetched : fetched? location answer = some artifact)
    (terminal : Terminal)
    (config : Config)
    (query : String)
    {format : Format}
    (hFormat : format ≠ .json) :
    let result := search terminal location answer config query format
    let shown := shownFor terminal format config query
      (artifact.found config query)
    result.code = 0 ∧ result.out = shown.1 ∧ result.err = shown.2 := by
  have hStatus := (status_openedPage location answer config).trans
    (load_of_fetched hFetched)
  have hShown :=
    (shows_query_openedPage hFetched config query).shownOutcome
      (by rw [hStatus]; rfl) terminal format (Widget.new config)
  rw [← hShown]
  unfold search
  simp only [hStatus]
  cases format with
  | json => exact absurd rfl hFormat
  | boxes => simp
  | html => simp

end SiteSearch

------------------------------------------------------------
-- Commands over Search Data
------------------------------------------------------------

namespace SiteSearch

/-
  Options whose configuration can be read and names search
  data that is loaded.
-/
structure DataOptions.Loads
    (options : DataOptions)
    (access : Access Id)
    (config : Config)
    (artifact : Artifact) :
    Prop where
  configure_eq : options.configure access = .ok config
  fetched_eq :
    let source := Source.ofLocation config.dataUrl options.baseUrl
    fetched? source.location (source.fetch access) = some artifact

namespace DataOptions.Loads

variable {options : DataOptions}
variable {access : Access Id}
variable {config : Config}
variable {artifact : Artifact}

/- A search command searches the data that its options name. -/
theorem run_search
    (hLoads : options.Loads access config artifact)
    (terminal : Terminal)
    (input : Id (List UInt8))
    (query : String)
    (format : Format) :
    let source := Source.ofLocation config.dataUrl options.baseUrl
    (Command.search query options format).run access terminal input =
      search terminal source.location (source.fetch access) config query
        format := by
  have hConfig := hLoads.configure_eq
  unfold Command.run
  rw [Command.options, hConfig]
  rfl

/- So it prints what a search box shows of the matches. -/
theorem search_shown
    (hLoads : options.Loads access config artifact)
    (terminal : Terminal)
    (input : Id (List UInt8))
    (query : String)
    {format : Format}
    (hFormat : format ≠ .json) :
    let result : Result :=
      (Command.search query options format).run access terminal input
    let shown := shownFor terminal format config query
      (artifact.found config query)
    result.code = 0 ∧ result.out = shown.1 ∧ result.err = shown.2 := by
  intro result
  rw [show result = _ from
    hLoads.run_search terminal input query format]
  exact search_of_fetched hLoads.fetched_eq terminal config query
    hFormat

/- An interactive command answers queries on the same data. -/
theorem run_interactive
    (hLoads : options.Loads access config artifact)
    (terminal : Terminal)
    (input : Id (List UInt8))
    (format : Format) :
    let source := Source.ofLocation config.dataUrl options.baseUrl
    (Command.interactive options format).run access terminal input =
      interact terminal source.location (source.fetch access) config
        format
        input := by
  have hConfig := hLoads.configure_eq
  unfold Command.run
  rw [Command.options, hConfig]
  rfl

end DataOptions.Loads

/-
  Access to the same bytes in every file, and to nothing in
  the web.
-/
def Access.ofContent
    (content : List UInt8) :
    Access Id where
  file _ := .ok content
  request _ := .refused

/- Options that name the search data and nothing else. -/
def DataOptions.ofData
    (location : String) :
    DataOptions :=
  ⟨some location, none, none, none, false⟩

/-
  The search data that a file holds is loaded when its path
  is named.
-/
theorem DataOptions.loads_ofData
    {path : String}
    {content : List UInt8}
    {artifact : Artifact}
    (hPath : isUrl path = false)
    (hContent : Artifact.ofBytes path content = .ok artifact) :
    (DataOptions.ofData path).Loads (Access.ofContent content)
      ((DataOptions.ofData path).apply .standard) artifact where
  configure_eq := rfl
  fetched_eq := by
    have hSource : Source.ofLocation path none = .file path := by
      rw [Source.ofLocation, hPath]
      rfl
    change fetched? (Source.ofLocation path none).location
      ((Source.ofLocation path none).fetch (Access.ofContent content)) = _
    rw [hSource]
    change (Artifact.ofBytes path content).toOption = some artifact
    rw [hContent]
    rfl

end SiteSearch
