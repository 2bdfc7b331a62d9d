import SiteSearch.Page
import SiteSearch.Proofs.Element
import SiteSearch.Proofs.Loader

/-
  What the search boxes of a page show.

  A search box shows the answer to its latest query, and
  nothing of those before.  The answer depends on the text of
  the query and on the status of the loader when it was
  answered.  What is done in other search boxes matters only
  in so far as it moves the loader.

  Main declarations:
    * `SiteSearch.Answered`
    * `SiteSearch.Widget.Shows`
    * `SiteSearch.Widget.Shows.answer`
    * `SiteSearch.Page.answered?`
    * `SiteSearch.Page.latest?`
    * `SiteSearch.Page.Shows.step`
    * `SiteSearch.Page.Shows.reply`
    * `SiteSearch.Page.Shows.run`
    * `SiteSearch.Page.shows_latest_after_run`
-/

------------------------------------------------------------
-- Answers to Queries
------------------------------------------------------------

namespace SiteSearch

/-
  A query that was answered: its text, the status of the
  loader at that moment, and the outcome.
-/
structure Answered where
  text : String
  status : Status
  outcome : Outcome

/-
  The matches that answer a query: none unless it has a text
  and the loader is ready, and then those of the search data.
-/
def matchesFor
    (fetched : Option Artifact)
    (limit : Nat)
    (text : String)
    (status : Status) :
    List (Match Float) :=
  match status, fetched with
  | .ready _, some artifact =>
      if text = "" then []
      else (SearchIndex.ofRecords artifact.records).search text limit
  | _, _ => []

/- The outcome of a query that has these matches. -/
def outcomeFor
    (text : String)
    (status : Status)
    (found : List (Match Float)) :
    Outcome :=
  if text = "" then .empty
  else if status.isReady then
    if found.isEmpty then .noHits else .hits found.length
  else .notReady status.name

/-
  The list of results that shows some matches: without any it
  is bare, and else it carries one class and the sections.
-/
def resultsFor
    (config : Config)
    (found : List (Match Float)) :
    Element where
  tag := "ul"
  id := some config.resultsId
  classes := if found.isEmpty then [] else [hasHitsClass]
  attributes := []
  text := none
  children :=
    if found.isEmpty then []
    else (ResultView.ofMatches found config.showParent).sections

namespace Answered

/- The matches of a query that was answered. -/
def found
    (answered : Answered)
    (fetched : Option Artifact)
    (limit : Nat) :
    List (Match Float) :=
  matchesFor fetched limit answered.text answered.status

end Answered

end SiteSearch

------------------------------------------------------------
-- What a Search Box Shows
------------------------------------------------------------

namespace SiteSearch.Widget

/-
  A search box that shows the latest query answered in it, or
  nothing if there was none.
-/
structure Shows
    (widget : Widget)
    (config : Config)
    (fetched : Option Artifact)
    (latest : Option Answered) :
    Prop where
  config_eq : widget.config = config
  query_eq : widget.query = (latest.map Answered.text).getD ""
  results_eq :
    widget.results =
      resultsFor config
        ((latest.map fun answered =>
          answered.found fetched config.limit.toNat).getD [])
  outcome_eq : ∀ answered, latest = some answered →
    answered.outcome =
      outcomeFor answered.text answered.status
        (answered.found fetched config.limit.toNat)

/- A search box that nobody has used shows nothing. -/
theorem shows_new
    (config : Config)
    (fetched : Option Artifact) :
    (Widget.new config).Shows config fetched none where
  config_eq := rfl
  query_eq := rfl
  results_eq := rfl
  outcome_eq := by simp

variable {widget : Widget}
variable {config : Config}
variable {fetched : Option Artifact}
variable {latest : Option Answered}

/- A focus changes nothing that is shown. -/
theorem Shows.disarm
    (hShows : widget.Shows config fetched latest) :
    widget.disarm.Shows config fetched latest :=
  ⟨hShows.config_eq, hShows.query_eq, hShows.results_eq,
    hShows.outcome_eq⟩

/- A query that is entered is the query in the input. -/
theorem query_enter
    (widget : Widget)
    (text : String) :
    (widget.enter text).query = text := by
  rw [query, enter, Element.attribute?_setAttribute, if_pos rfl]
  rfl

/- Without results the list is bare, whatever was shown before. -/
theorem Shows.results_unmark
    (hShows : widget.Shows config fetched latest)
    (text : String) :
    (widget.enter text).unmark.results = resultsFor config [] := by
  rw [unmark, enter, hShows.results_eq]
  generalize (latest.map fun answered =>
    answered.found fetched config.limit.toNat).getD [] = found
  cases found with
  | nil => rfl
  | cons first others =>
      simp [resultsFor, Element.clearChildren, Element.removeClass]

/- Results replace whatever was shown before. -/
theorem Shows.results_present
    (hShows : widget.Shows config fetched latest)
    (text : String)
    {found : List (Match Float)}
    (hFound : found ≠ []) :
    ((widget.enter text).present found).results =
      resultsFor config found := by
  have hSome : found.isEmpty = false :=
    List.isEmpty_eq_false_iff.mpr hFound
  rw [present, ResultView.render_eq, enter, hShows.results_eq,
    hShows.config_eq]
  generalize (latest.map fun answered =>
    answered.found fetched config.limit.toNat).getD [] = before
  cases before with
  | nil =>
      simp [resultsFor, Element.clearChildren, Element.addClass,
        Element.hasClass, hSome]
  | cons first others =>
      simp [resultsFor, Element.clearChildren, Element.addClass,
        Element.hasClass, hSome]

/- Without matches the search box shows that there are none. -/
theorem Shows.unmark
    (hShows : widget.Shows config fetched latest)
    {text : String}
    {status : Status}
    {outcome : Outcome}
    (hFound : matchesFor fetched config.limit.toNat text status = [])
    (hOutcome : outcome = outcomeFor text status []) :
    (widget.enter text).unmark.Shows config fetched
      (some ⟨text, status, outcome⟩) where
  config_eq := hShows.config_eq
  query_eq := query_enter widget text
  results_eq := by
    rw [hShows.results_unmark, Option.map_some, Option.getD_some,
      Answered.found, hFound]
  outcome_eq := by
    rintro _ ⟨⟩
    rw [Answered.found, hFound]
    exact hOutcome

/- With matches the search box shows them. -/
theorem Shows.present
    (hShows : widget.Shows config fetched latest)
    {text : String}
    {status : Status}
    {outcome : Outcome}
    {found : List (Match Float)}
    (hFound : matchesFor fetched config.limit.toNat text status = found)
    (hSome : found ≠ [])
    (hOutcome : outcome = outcomeFor text status found) :
    ((widget.enter text).present found).Shows config fetched
      (some ⟨text, status, outcome⟩) where
  config_eq := hShows.config_eq
  query_eq := query_enter widget text
  results_eq := by
    rw [hShows.results_present text hSome, Option.map_some,
      Option.getD_some, Answered.found, hFound]
  outcome_eq := by
    rintro _ ⟨⟩
    rw [Answered.found, hFound]
    exact hOutcome

/- The answer to a query is what the search box shows. -/
theorem Shows.answer
    (hShows : widget.Shows config fetched latest)
    {status : Status}
    (hReady : ∀ handle, status = .ready handle →
      ∃ artifact, fetched = some artifact ∧
        handle.index = SearchIndex.ofRecords artifact.records)
    (text : String) :
    (widget.answer status text).1.Shows config fetched
      (some ⟨text, status, (widget.answer status text).2.1⟩) := by
  unfold Widget.answer
  by_cases hText : text = ""
  · simp only [hText, if_true]
    apply hShows.unmark
    · cases status <;> cases fetched <;> rfl
    · rfl
  · simp only [hText, if_false]
    cases status with
    | unloaded =>
        refine hShows.unmark rfl ?_
        simp [outcomeFor, hText, Status.isReady]
    | loading =>
        refine hShows.unmark rfl ?_
        simp [outcomeFor, hText, Status.isReady]
    | failed cause =>
        refine hShows.unmark rfl ?_
        simp [outcomeFor, hText, Status.isReady]
    | ready handle =>
        rcases hReady handle rfl with ⟨artifact, rfl, hIndex⟩
        have hFound :
            matchesFor (some artifact) config.limit.toNat text
                (.ready handle) =
              widget.found handle text := by
          rw [Widget.found, hIndex, hShows.config_eq, matchesFor,
            if_neg hText]
        cases hMatches : widget.found handle text with
        | nil =>
            simp only [hMatches]
            refine hShows.unmark (hFound.trans hMatches) ?_
            simp [outcomeFor, hText, Status.isReady]
        | cons first others =>
            simp only [hMatches]
            refine hShows.present (hFound.trans hMatches)
              (List.cons_ne_nil first others) ?_
            simp [outcomeFor, hText, Status.isReady]

end SiteSearch.Widget

------------------------------------------------------------
-- Steps
------------------------------------------------------------

namespace SiteSearch

/- The search box that a step is done in, if it is done in one. -/
def Step.widget? :
    Step → Option Nat
  | .focus number => some number
  | .query number _ => some number
  | .queryWhenReady number _ => some number
  | .start => none
  | .wait => none
  | .ensure => none
  | .progress => none

namespace Page

/-
  The query that a step enters in a search box, if it does,
  with the status that it is answered with.  A query that
  waits is answered when the load has ended.
-/
def answered?
    (page : Page)
    (number : Nat) :
    Step → Option Answered
  | .query other text =>
      if other = number then
        some ⟨text, page.loader.status,
          (page.query number text).2⟩
      else none
  | .queryWhenReady other text =>
      if other = number then
        some ⟨text, page.ensure.loader.status,
          (page.queryWhenReady number text).2⟩
      else none
  | .focus _ => none
  | .start => none
  | .wait => none
  | .ensure => none
  | .progress => none

/-
  The latest query entered in a search box, before or in a
  run.
-/
def latestFrom
    (page : Page)
    (number : Nat)
    (latest : Option Answered) :
    List Step → Option Answered
  | [] => latest
  | step :: steps =>
      (page.step step).1.latestFrom number
        ((page.answered? number step).or latest) steps

/- The latest query entered in a search box in a run. -/
def latest?
    (page : Page)
    (number : Nat)
    (steps : List Step) :
    Option Answered :=
  page.latestFrom number none steps

end Page

end SiteSearch

------------------------------------------------------------
-- One Step
------------------------------------------------------------

namespace SiteSearch.Page

/-
  The search box with a number shows the latest query
  answered in it.
-/
def Shows
    (page : Page)
    (number : Nat)
    (config : Config)
    (fetched : Option Artifact)
    (latest : Option Answered) :
    Prop :=
  ∃ widget, page.widgets[number]? = some widget ∧
    widget.Shows config fetched latest

/- A search box that is put into its place is found there. -/
theorem getElem?_setWidget
    (page : Page)
    (number other : Nat)
    (widget : Widget) :
    (page.setWidget number widget).widgets[other]? =
      if number = other then page.widgets[other]?.map fun _ => widget
      else page.widgets[other]? := by
  rw [setWidget, List.getElem?_set']
  rfl

@[simp] theorem widgets_start
    (page : Page) :
    page.start.1.widgets = page.widgets := rfl

@[simp] theorem widgets_finish
    (page : Page) :
    page.finish.widgets = page.widgets := rfl

@[simp] theorem widgets_ensure
    (page : Page) :
    page.ensure.widgets = page.widgets := rfl

/- A focus concerns one search box. -/
theorem getElem?_focus
    (page : Page)
    {number other : Nat}
    (hOther : number ≠ other) :
    (page.focus number).1.widgets[other]? = page.widgets[other]? := by
  unfold focus
  split
  · rfl
  · split
    · rw [widgets_start, getElem?_setWidget, if_neg hOther]
    · rfl

/- A query concerns one search box. -/
theorem getElem?_query
    (page : Page)
    {number other : Nat}
    (hOther : number ≠ other)
    (text : String) :
    (page.query number text).1.widgets[other]? =
      page.widgets[other]? := by
  unfold query
  split
  · rfl
  · exact (getElem?_setWidget page number other _).trans (if_neg hOther)

/- A query that waits concerns one search box. -/
theorem getElem?_queryWhenReady
    (page : Page)
    {number other : Nat}
    (hOther : number ≠ other)
    (text : String) :
    (page.queryWhenReady number text).1.widgets[other]? =
      page.widgets[other]? := by
  unfold queryWhenReady
  split
  · rfl
  · rw [getElem?_query _ hOther, widgets_ensure, getElem?_setWidget,
      if_neg hOther]

/- A step in one search box leaves all others as they are. -/
theorem getElem?_step
    (page : Page)
    {step : Step}
    {number : Nat}
    (hOther : step.widget? ≠ some number) :
    (page.step step).1.widgets[number]? = page.widgets[number]? := by
  cases step with
  | focus other =>
      exact page.getElem?_focus fun hSame =>
        hOther (congrArg some hSame)
  | query other text =>
      exact page.getElem?_query
        (fun hSame => hOther (congrArg some hSame)) text
  | queryWhenReady other text =>
      exact page.getElem?_queryWhenReady
        (fun hSame => hOther (congrArg some hSame)) text
  | start => rfl
  | wait => rfl
  | ensure => rfl
  | progress => rfl

end SiteSearch.Page

------------------------------------------------------------
-- Steps and What Is Shown
------------------------------------------------------------

namespace SiteSearch.Page

variable {page : Page}
variable {location : String}
variable {answer : Answer}

/-
  A step does nothing to the loader but start its load and let
  it end.
-/
theorem loader_step
    (kept : Loader → Prop)
    (hClaim : ∀ loader, kept loader → kept loader.claim.1)
    (hFinish : ∀ loader, kept loader → kept loader.finish.1)
    (hKept : kept page.loader)
    (step : Step) :
    kept (page.step step).1.loader := by
  cases step with
  | focus number =>
      change kept (page.focus number).1.loader
      unfold focus
      split
      · exact hKept
      · split
        · exact hClaim _ hKept
        · exact hKept
  | start => exact hClaim _ hKept
  | query number text =>
      change kept (page.query number text).1.loader
      unfold query
      split <;> exact hKept
  | queryWhenReady number text =>
      change kept (page.queryWhenReady number text).1.loader
      unfold queryWhenReady query
      split
      · exact hKept
      · split <;> exact hFinish _ (hClaim _ hKept)
  | wait => exact hFinish _ hKept
  | ensure => exact hFinish _ (hClaim _ hKept)
  | progress => exact hFinish _ hKept

/- What starting and ending a load keep, every run keeps. -/
theorem loader_run
    (kept : Loader → Prop)
    (hClaim : ∀ loader, kept loader → kept loader.claim.1)
    (hFinish : ∀ loader, kept loader → kept loader.finish.1)
    (hKept : kept page.loader)
    (steps : List Step) :
    kept (page.run steps).loader := by
  induction steps generalizing page with
  | nil => exact hKept
  | cons step steps ih =>
      exact ih (loader_step kept hClaim hFinish hKept step)

/- Every step leaves the loader with its source. -/
theorem serves_step
    (hServes : page.loader.Serves location answer)
    (step : Step) :
    (page.step step).1.loader.Serves location answer :=
  loader_step (·.Serves location answer) (fun _ hKept => hKept.claim)
    (fun _ hKept => hKept.finish) hServes step

/- So does every run. -/
theorem serves_run
    (hServes : page.loader.Serves location answer)
    (steps : List Step) :
    (page.run steps).loader.Serves location answer :=
  loader_run (·.Serves location answer) (fun _ hKept => hKept.claim)
    (fun _ hKept => hKept.finish) hServes steps

/- After every run the loader is settled only as its load ends. -/
theorem loads_run
    (hLoads : page.loader.Loads location answer)
    (steps : List Step) :
    (page.run steps).loader.Loads location answer :=
  loader_run (·.Loads location answer) (fun _ hKept => hKept.claim)
    (fun _ hKept => hKept.finish) hLoads steps

variable {number : Nat}
variable {config : Config}
variable {latest : Option Answered}

/- A step in no search box answers no query. -/
theorem answered?_eq_none
    {step : Step}
    (hOther : step.widget? ≠ some number) :
    page.answered? number step = none := by
  cases step with
  | query other text =>
      have hNumber : other ≠ number := fun hSame =>
        hOther (congrArg some hSame)
      exact if_neg hNumber
  | queryWhenReady other text =>
      have hNumber : other ≠ number := fun hSame =>
        hOther (congrArg some hSame)
      exact if_neg hNumber
  | focus other => rfl
  | start => rfl
  | wait => rfl
  | ensure => rfl
  | progress => rfl

/- What is answered in a search box is what the step replies. -/
theorem reply_of_answered?
    {step : Step}
    {answered : Answered}
    (hAnswered : page.answered? number step = some answered) :
    (page.step step).2 = .outcome answered.outcome := by
  cases step with
  | query other text =>
      rcases Option.ite_none_right_eq_some.mp hAnswered with
        ⟨rfl, hEntered⟩
      rcases Option.some.inj hEntered with rfl
      rfl
  | queryWhenReady other text =>
      rcases Option.ite_none_right_eq_some.mp hAnswered with
        ⟨rfl, hEntered⟩
      rcases Option.some.inj hEntered with rfl
      rfl
  | focus other => cases hAnswered
  | start => cases hAnswered
  | wait => cases hAnswered
  | ensure => cases hAnswered
  | progress => cases hAnswered

/- A focus changes nothing that is shown. -/
theorem Shows.focus
    (hShows :
      page.Shows number config (fetched? location answer) latest) :
    (page.focus number).1.Shows number config
      (fetched? location answer) latest := by
  rcases hShows with ⟨widget, hWidget, hShown⟩
  unfold Page.focus
  rw [hWidget]
  by_cases hArmed : widget.armed = true
  · refine ⟨widget.disarm, ?_, hShown.disarm⟩
    simp only [hArmed, if_true]
    rw [widgets_start, getElem?_setWidget, if_pos rfl, hWidget]
    rfl
  · refine ⟨widget, ?_, hShown⟩
    simp only [hArmed]
    exact hWidget

/- The answer to a query is what its search box shows. -/
theorem Shows.query
    (hShows :
      page.Shows number config (fetched? location answer) latest)
    (hServes : page.loader.Serves location answer)
    (text : String) :
    (page.query number text).1.Shows number config
      (fetched? location answer)
      (some ⟨text, page.loader.status, (page.query number text).2⟩) := by
  rcases hShows with ⟨widget, hWidget, hShown⟩
  have hAnswer := hShown.answer (fun handle hReady => by
    rcases hServes.ready handle hReady with
      ⟨artifact, hFetched, hIndex, -⟩
    exact ⟨artifact, hFetched, hIndex⟩) text
  unfold Page.query
  rw [hWidget]
  refine ⟨_, ?_, hAnswer⟩
  change (page.setWidget number _).widgets[number]? = _
  rw [getElem?_setWidget, if_pos rfl, hWidget]
  rfl

/- So is the answer to a query that waited for the load. -/
theorem Shows.queryWhenReady
    (hShows :
      page.Shows number config (fetched? location answer) latest)
    (hServes : page.loader.Serves location answer)
    (text : String) :
    (page.queryWhenReady number text).1.Shows number config
      (fetched? location answer)
      (some ⟨text, page.ensure.loader.status,
        (page.queryWhenReady number text).2⟩) := by
  rcases hShows with ⟨widget, hWidget, hShown⟩
  have hDisarmed :
      (page.setWidget number widget.disarm).ensure.Shows number config
        (fetched? location answer) latest := by
    refine ⟨widget.disarm, ?_, hShown.disarm⟩
    rw [widgets_ensure, getElem?_setWidget, if_pos rfl, hWidget]
    rfl
  have hAnswer :=
    hDisarmed.query hServes.claim.finish text
  unfold Page.queryWhenReady
  rw [hWidget]
  exact hAnswer

/- After each step a search box shows the latest query. -/
theorem Shows.step
    (hShows :
      page.Shows number config (fetched? location answer) latest)
    (hServes : page.loader.Serves location answer)
    (step : Step) :
    (page.step step).1.Shows number config (fetched? location answer)
      ((page.answered? number step).or latest) := by
  by_cases hHere : step.widget? = some number
  · cases step with
    | focus other =>
        rcases Option.some.inj hHere with rfl
        exact hShows.focus
    | query other text =>
        rcases Option.some.inj hHere with rfl
        have hAnswered :
            page.answered? other (.query other text) =
              some ⟨text, page.loader.status,
                (page.query other text).2⟩ := if_pos rfl
        rw [hAnswered]
        exact hShows.query hServes text
    | queryWhenReady other text =>
        rcases Option.some.inj hHere with rfl
        have hAnswered :
            page.answered? other (.queryWhenReady other text) =
              some ⟨text, page.ensure.loader.status,
                (page.queryWhenReady other text).2⟩ := if_pos rfl
        rw [hAnswered]
        exact hShows.queryWhenReady hServes text
    | start => cases hHere
    | wait => cases hHere
    | ensure => cases hHere
    | progress => cases hHere
  · rcases hShows with ⟨widget, hWidget, hShown⟩
    rw [answered?_eq_none hHere, Option.none_or]
    exact ⟨widget, (page.getElem?_step hHere).trans hWidget, hShown⟩

/-
  A query is replied to with the outcome that its text, the
  status of the loader and the search data have.
-/
theorem Shows.reply
    (hShows :
      page.Shows number config (fetched? location answer) latest)
    (hServes : page.loader.Serves location answer)
    {step : Step}
    {answered : Answered}
    (hAnswered : page.answered? number step = some answered) :
    (page.step step).2 =
      .outcome (outcomeFor answered.text answered.status
        (answered.found (fetched? location answer)
          config.limit.toNat)) := by
  have hAfter := hShows.step hServes step
  rw [hAnswered, Option.some_or] at hAfter
  rcases hAfter with ⟨widget, -, hShown⟩
  rw [reply_of_answered? hAnswered, hShown.outcome_eq answered rfl]

/- After every run a search box shows the latest query. -/
theorem Shows.run
    (hShows :
      page.Shows number config (fetched? location answer) latest)
    (hServes : page.loader.Serves location answer)
    (steps : List Step) :
    (page.run steps).Shows number config (fetched? location answer)
      (page.latestFrom number latest steps) := by
  induction steps generalizing page latest with
  | nil => exact hShows
  | cons step steps ih =>
      exact ih (hShows.step hServes step) (serves_step hServes step)

/- The search boxes of a new page show nothing. -/
theorem shows_new
    (location : String)
    (answer : Answer)
    (configs : List Config)
    (number : Fin configs.length) :
    (Page.new location answer configs).Shows number configs[number]
      (fetched? location answer) none := by
  refine ⟨Widget.new configs[number], ?_, Widget.shows_new _ _⟩
  simp [Page.new]

/-
  Whatever is done on a page, in whatever order, each search
  box shows its latest query: the input holds its text, and
  the list holds the results that the search data had for it,
  or is bare.  Every query is replied to with the outcome that
  goes with what is shown.  Who waits for the load is answered
  with how it ends.  And no step changes a search box other
  than its own.
-/
theorem shows_latest_after_run
    (location : String)
    (answer : Answer)
    (configs : List Config)
    (steps : List Step)
    (number : Fin configs.length) :
    let page := Page.new location answer configs
    (page.run steps).Shows number configs[number]
        (fetched? location answer) (page.latest? number steps) ∧
      (∀ step answered,
        (page.run steps).answered? number step = some answered →
          ((page.run steps).step step).2 =
            .outcome (outcomeFor answered.text answered.status
              (answered.found (fetched? location answer)
                configs[number].limit.toNat))) ∧
      SettlesAs location answer
        (page.run steps).ensure.loader.status ∧
      ∀ step, step.widget? ≠ some number.val →
        ((page.run steps).step step).1.widgets[number.val]? =
          (page.run steps).widgets[number.val]? := by
  have hServes := Loader.serves_new location answer
  have hShows :=
    (shows_new location answer configs number).run hServes steps
  have hLoads :
      ((Page.new location answer configs).run steps).loader.Loads
        location answer :=
    loads_run (Loader.loads_new location answer) steps
  refine ⟨hShows, ?_, hLoads.settlesAs_ensure, ?_⟩
  · intro step answered hAnswered
    exact hShows.reply (serves_run hServes steps) hAnswered
  · intro step hOther
    exact getElem?_step _ hOther

/-
  What a visitor sees: the query, the marks and how many
  sections.
-/
def seen
    (page : Page)
    (number : Nat) :
    Option (String × List String × Nat) :=
  page.widgets[number]?.map fun widget =>
    (widget.query, widget.results.classes,
      widget.results.children.length)

/- What a visitor sees is the latest query and its results. -/
theorem Shows.seen
    {fetched : Option Artifact}
    (hShows : page.Shows number config fetched latest) :
    let results :=
      resultsFor config
        ((latest.map fun answered =>
          answered.found fetched config.limit.toNat).getD [])
    page.seen number =
      some ((latest.map Answered.text).getD "", results.classes,
        results.children.length) := by
  rcases hShows with ⟨widget, hWidget, hShown⟩
  simp only [Page.seen, hWidget, Option.map_some, hShown.query_eq,
    hShown.results_eq]

/- Search data of two records, one of them without a parent. -/
def twoRecords : List UInt8 :=
  Bytes.ofText ("[\x7b\"id\":1,\"title\":\"Gate\",\"href\":\"/a\"\x7d,"
    ++ "\x7b\"id\":2,\"title\":\"Garden\",\"href\":\"/b\","
    ++ "\"parent\":\"Guide\"\x7d]")

/-
  One search box shows its results by parent, one in a
  single list.
-/
def twoBoxes : List Config :=
  [.standard, { Config.standard with showParent := false }]

/- Both are asked before there is anything to search. -/
def early : List Step :=
  [.query 0 "ga", .focus 0, .query 1 "ga"]

/- Then both get their results. -/
def served : List Step :=
  early ++ [.queryWhenReady 0 "ga", .query 1 "ga"]

/- A query without results and an empty one clear them again. -/
def cleared : List Step :=
  served ++ [.query 0 "rose", .query 1 ""]

/-
  Two search boxes over this data, from the first query on to
  the last: what is seen in them, what the queries are replied
  to with, and that the one does not disturb the other.
-/
theorem shows_latest_of_two_boxes :
    let page := Page.new "index.json" (.bytes twoRecords) twoBoxes
    (page.step (.query 0 "ga")).2 = .outcome (.notReady "unloaded") ∧
      (page.run early).seen 0 = some ("ga", [], 0) ∧
      (page.run early).seen 1 = some ("ga", [], 0) ∧
      ((page.run early).step (.queryWhenReady 0 "ga")).2 =
        .outcome (.hits 2) ∧
      (page.run served).seen 0 = some ("ga", [hasHitsClass], 2) ∧
      (page.run served).seen 1 = some ("ga", [hasHitsClass], 1) ∧
      ((page.run served).step (.query 0 "rose")).2 =
        .outcome .noHits ∧
      ((page.run served).step (.query 0 "rose")).1.widgets[1]? =
        (page.run served).widgets[1]? ∧
      (page.run cleared).seen 0 = some ("rose", [], 0) ∧
      (page.run cleared).seen 1 = some ("", [], 0) := by
  intro page
  let first : Fin twoBoxes.length := ⟨0, by decide⟩
  let second : Fin twoBoxes.length := ⟨1, by decide⟩
  have hLaw :=
    shows_latest_after_run "index.json" (.bytes twoRecords) twoBoxes
  refine ⟨?_, ?_, ?_, ?_, ?_, ?_, ?_, ?_, ?_, ?_⟩
  · refine ((hLaw [] first).2.1 (.query 0 "ga") _ rfl).trans ?_
    exact congrArg Reply.outcome (by decide +kernel)
  · exact (hLaw early first).1.seen.trans (by decide +kernel)
  · exact (hLaw early second).1.seen.trans (by decide +kernel)
  · refine
      ((hLaw early first).2.1 (.queryWhenReady 0 "ga") _ rfl).trans ?_
    exact congrArg Reply.outcome (by decide +kernel)
  · exact (hLaw served first).1.seen.trans (by decide +kernel)
  · exact (hLaw served second).1.seen.trans (by decide +kernel)
  · refine ((hLaw served first).2.1 (.query 0 "rose") _ rfl).trans ?_
    exact congrArg Reply.outcome (by decide +kernel)
  · apply (hLaw served second).2.2.2
    decide
  · exact (hLaw cleared first).1.seen.trans (by decide +kernel)
  · exact (hLaw cleared second).1.seen.trans (by decide +kernel)

end SiteSearch.Page
