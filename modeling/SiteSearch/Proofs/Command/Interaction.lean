import SiteSearch.Proofs.Artifact.Concatenation
import SiteSearch.Proofs.Command.Lines
import SiteSearch.Proofs.Command.Search

/-
  Interactive runs.

  An interactive run keeps one search box from line to line.
  As a search box shows the answer to its latest query and
  nothing of those before, each line prints what a search of
  its own would print, and the run prints these one after the
  other.

  Main declarations:
    * `SiteSearch.Page.Opened`
    * `SiteSearch.Page.Opened.queryWhenReady`
    * `SiteSearch.Page.Opened.interactLines`
    * `SiteSearch.DataOptions.Loads.interactive_eq_searches`
-/

------------------------------------------------------------
-- The Search Box of a Run
------------------------------------------------------------

namespace SiteSearch.Page

/-
  A page whose first search box shows the answer to some
  query, or nothing, and whose loader loads this search data.
-/
structure Opened
    (page : Page)
    (config : Config)
    (location : String)
    (answer : Answer) :
    Prop where
  shows : ∃ latest,
    page.Shows 0 config (fetched? location answer) latest
  serves : page.loader.Serves location answer
  loads : page.loader.Loads location answer

variable {location : String}
variable {answer : Answer}
variable {artifact : Artifact}
variable {config : Config}
variable {page : Page}

/-
  The run begins with a focus on a search box that nobody
  has used.
-/
theorem opened_new
    (location : String)
    (answer : Answer)
    (config : Config) :
    ((Page.new location answer [config]).focus 0).1.Opened config
      location answer := by
  have hServes :
      (Page.new location answer [config]).loader.Serves location
      answer := Loader.serves_new location answer
  have hLoads :
      (Page.new location answer [config]).loader.Loads location
      answer := Loader.loads_new location answer
  have hShows := shows_new location answer [config] ⟨0, Nat.one_pos⟩
  exact ⟨⟨none, hShows.focus⟩, serves_step hServes (.focus 0),
    loads_run hLoads [.focus 0]⟩

/-
  A query that waits for the load is answered in the search
  box.
-/
theorem Opened.queryWhenReady
    (hOpened : page.Opened config location answer)
    (text : String) :
    (page.queryWhenReady 0 text).1.Opened config location answer := by
  rcases hOpened.shows with ⟨latest, hShows⟩
  exact ⟨⟨_, hShows.queryWhenReady hOpened.serves text⟩,
    serves_step hOpened.serves (.queryWhenReady 0 text),
    loads_run hOpened.loads [.queryWhenReady 0 text]⟩

/- If there is search data, the query finds the loader ready. -/
theorem Opened.isReady_ensure
    (hOpened : page.Opened config location answer)
    (hFetched : fetched? location answer = some artifact) :
    page.ensure.loader.status.isReady = true := by
  have hStatus : page.ensure.loader.status = (load location answer).1 :=
    hOpened.loads.settlesAs_ensure.eq_load
  rw [hStatus, load_of_fetched hFetched]
  rfl

/- What is then printed depends on the query and its matches. -/
theorem Opened.shownOutcome
    (hOpened : page.Opened config location answer)
    (hFetched : fetched? location answer = some artifact)
    (text : String)
    (terminal : Terminal)
    (format : Format)
    (spare : Widget) :
    let answered := page.queryWhenReady 0 text
    SiteSearch.shownOutcome terminal format
        (answered.1.widgets.headD spare) answered.2 =
      shownFor terminal format config text
        (artifact.found config text) := by
  rcases hOpened.shows with ⟨latest, hShows⟩
  have hAnswered := hShows.queryWhenReady hOpened.serves text
  rw [hFetched] at hAnswered
  exact hAnswered.shownOutcome (hOpened.isReady_ensure hFetched)
    terminal
    format spare

/- And it is an answer of the index. -/
theorem Opened.outcome_ne_notReady
    (hOpened : page.Opened config location answer)
    (hFetched : fetched? location answer = some artifact)
    (text status : String) :
    (page.queryWhenReady 0 text).2 ≠ .notReady status := by
  rcases hOpened.shows with ⟨latest, hShows⟩
  rcases hShows.queryWhenReady hOpened.serves text with
    ⟨widget, -, hShown⟩
  have hOutcome := hShown.outcome_eq _ rfl
  simp only at hOutcome
  rw [hOutcome, outcomeFor, hOpened.isReady_ensure hFetched, if_pos rfl]
  split_ifs <;> simp

end SiteSearch.Page

------------------------------------------------------------
-- Lines
------------------------------------------------------------

namespace SiteSearch

variable {location : String}
variable {answer : Answer}
variable {artifact : Artifact}
variable {config : Config}
variable {page : Page}

/-
  A line of text that is answered is printed in front of the
  rest.
-/
theorem interactLines_cons
    (line : String)
    (hReady : ∀ status,
      (page.queryWhenReady 0 (trimEnd line)).2 ≠ .notReady status)
    (terminal : Terminal)
    (format : Format)
    (lines : List (List UInt8)) :
    let answered := page.queryWhenReady 0 (trimEnd line)
    interactLines terminal format page (Bytes.ofText line :: lines) =
      (interactLines terminal format answered.1 lines).after
        (shownOutcome terminal format
          (answered.1.widgets.headD (Widget.new .standard))
            answered.2) := by
  have hText : Bytes.decode (Bytes.ofText line) = .ok line := by
    rw [Bytes.decode, Bytes.text?_ofText]
  simp only [interactLines, hText]

/-
  Whatever the search box shows at first, lines of text are
  answered one after the other, each as if it were alone.
-/
theorem Page.Opened.interactLines
    (hOpened : page.Opened config location answer)
    (hFetched : fetched? location answer = some artifact)
    (terminal : Terminal)
    (format : Format)
    (lines : List String) :
    let shown line := shownFor terminal format config (trimEnd line)
      (artifact.found config (trimEnd line))
    let result := SiteSearch.interactLines terminal format page
      (lines.map Bytes.ofText)
    result.code = 0 ∧
      result.out = String.join (lines.map fun line => (shown line).1) ∧
      result.err =
        String.join (lines.map fun line => (shown line).2) := by
  induction lines generalizing page with
  | nil => exact ⟨rfl, rfl, rfl⟩
  | cons line lines ih =>
      have hShown :=
        hOpened.shownOutcome hFetched (trimEnd line) terminal
        format (Widget.new .standard)
      have hReady := hOpened.outcome_ne_notReady hFetched (trimEnd line)
      rcases ih (hOpened.queryWhenReady (trimEnd line)) with
        ⟨hCode, hOut, hErr⟩
      simp only [List.map_cons, interactLines_cons line hReady,
        hShown, Result.after, String.join_cons]
      exact ⟨hCode, congrArg _ hOut, congrArg _ hErr⟩

end SiteSearch

------------------------------------------------------------
-- Runs
------------------------------------------------------------

namespace SiteSearch.DataOptions.Loads

variable {options : DataOptions}
variable {access : Access Id}
variable {config : Config}
variable {artifact : Artifact}

/-
  If the configuration can be read and the search data is
  loaded, an interactive run on a text succeeds.  It prints
  what searches for its lines print, one after the other, each
  of which succeeds as well.
-/
theorem interactive_eq_searches
    (hLoads : options.Loads access config artifact)
    {format : Format}
    (hFormat : format ≠ .json)
    (terminal : Terminal)
    (text : String) :
    let searched (line : String) : Result :=
      (Command.search (trimEnd line) options format).run access terminal
        (pure [])
    let result : Result :=
      (Command.interactive options format).run access terminal
        (pure (Bytes.ofText text))
    result.code = 0 ∧
      (∀ line, (searched line).code = 0) ∧
      result.out =
        String.join ((Text.lines text).map fun line =>
          (searched line).out) ∧
      result.err =
        String.join ((Text.lines text).map fun line =>
          (searched line).err)
    := by
  intro searched result
  let source := Source.ofLocation config.dataUrl options.baseUrl
  have hFetched : fetched? source.location (source.fetch access) =
      some artifact := hLoads.fetched_eq
  have hSearched : ∀ line, (searched line).code = 0 ∧
      (searched line).out = (shownFor terminal format config (trimEnd line)
        (artifact.found config (trimEnd line))).1 ∧
      (searched line).err = (shownFor terminal format config (trimEnd line)
        (artifact.found config (trimEnd line))).2 :=
    fun line =>
      hLoads.search_shown terminal (pure []) (trimEnd line) hFormat
  have hResult : result = interactLines terminal format
      ((Page.new source.location (source.fetch access)
        [config]).focus 0).1
      ((Text.lines text).map Bytes.ofText) := by
    rw [← linesOf_ofText]
    exact hLoads.run_interactive terminal (pure (Bytes.ofText text))
      format
  rw [hResult]
  rcases (Page.opened_new source.location (source.fetch access)
    config).interactLines hFetched terminal format
    (Text.lines text) with
    ⟨hCode, hOut, hErr⟩
  refine ⟨hCode, fun line => (hSearched line).1, ?_, ?_⟩
  · rw [hOut]
    simp only [(hSearched _).2.1]
  · rw [hErr]
    simp only [(hSearched _).2.2]

/- A run over three lines, of which one is empty. -/
theorem interactive_eq_searches_of_home :
    let options := DataOptions.ofData "home.json"
    let access := Access.ofContent (Artifact.only Record.homeText)
    let terminal : Terminal := ⟨false, false⟩
    let searched (line : String) : Result :=
      (Command.search (trimEnd line) options .boxes).run access terminal
        (pure [])
    let result : Result :=
      (Command.interactive options .boxes).run access terminal
        (pure (Bytes.ofText "home \r\n\ntea"))
    result.code = 0 ∧
      (∀ line, (searched line).code = 0) ∧
      result.out =
        String.join ((Text.lines "home \r\n\ntea").map fun line =>
          (searched line).out) ∧
      result.err =
        String.join ((Text.lines "home \r\n\ntea").map fun line =>
          (searched line).err) := by
  rcases Artifact.exists_artifact_of_length "home.json"
      (show (Artifact.values (Artifact.only Record.homeText)).toOption.map
        List.length = some 1 by decide +kernel) with
    ⟨artifact, hContent, -⟩
  have hPath : isUrl "home.json" = false := by decide +kernel
  have hLoads := DataOptions.loads_ofData hPath hContent
  exact hLoads.interactive_eq_searches (by decide) ⟨false, false⟩
    "home \r\n\ntea"

end SiteSearch.DataOptions.Loads
