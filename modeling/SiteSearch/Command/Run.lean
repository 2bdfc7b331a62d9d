import SiteSearch.Command.Arguments
import SiteSearch.Element.Html
import SiteSearch.Page
import SiteSearch.Terminal

/-
  Running commands.

  Key definitions include:
    * `SiteSearch.Result`
    * `SiteSearch.search`
    * `SiteSearch.inspect`
    * `SiteSearch.interact`
    * `SiteSearch.Command.run`
    * `SiteSearch.runArguments`

  A search answers one query as the search box would and
  prints what it shows.  An inspection tells what is in the
  search data.  An interactive run answers one query after the
  other, a line each, in one search box.
-/

------------------------------------------------------------
-- Results
------------------------------------------------------------

namespace SiteSearch

/- What a run of the program leaves behind. -/
structure Result where
  code : Nat
  out : String
  err : String
  log : List Event

namespace Result

/- A run that could not do what was asked. -/
def failure
    (message : String)
    (log : List Event) :
    Result :=
  ⟨1, "", s!"❌ {message}\n", log⟩

/- A result behind some output. -/
def after
    (output : String × String)
    (result : Result) :
    Result :=
  { result with
    out := output.1 ++ result.out
    err := output.2 ++ result.err }

end Result

end SiteSearch

------------------------------------------------------------
-- Settings
------------------------------------------------------------

namespace SiteSearch.DataOptions

/- A configuration with what the options say about it. -/
def apply
    (options : DataOptions)
    (config : Config) :
    Config where
  dataUrl := options.data.getD config.dataUrl
  inputId := config.inputId
  resultsId := config.resultsId
  limit := options.limit.getD config.limit
  showParent := config.showParent && !options.flat

/- The configuration that the options ask for. -/
def configure
    {m : Type → Type}
    [Monad m]
    (access : Access m)
    (options : DataOptions) :
    m (Except ConfigError Config) := do
  match options.config with
  | none => return .ok (options.apply .standard)
  | some path =>
      let content ← access.file path
      return (Config.ofContent path content).map options.apply

end SiteSearch.DataOptions

------------------------------------------------------------
-- Search
------------------------------------------------------------

namespace SiteSearch

/-
  What is printed about an answered query: output and
  messages.
-/
def shownOutcome
    (terminal : Terminal)
    (format : Format)
    (widget : Widget) :
    Outcome → String × String
  | .hits count =>
      let shown :=
        match format with
        | .html => widget.results.toHtml ++ "\n"
        | _ => terminal.results widget.results
      let ending := if count = 1 then "" else "s"
      (shown, s!"✅ {count} hit{ending}\n")
  | .noHits => ("", s!"⚠️  no hits for {Text.quote widget.query}\n")
  | .empty => ("", "⚠️  empty query\n")
  | .notReady status => ("", s!"⚠️  search index {status}\n")

/- Some matches as they are printed. -/
def shownMatches
    (found : List (Match Float)) :
    String :=
  Json.pretty (.array (found.map Match.toJson)) ++ "\n"

/- What is said when there is no index to search. -/
def unavailable
    (location : String) :
    Status → String
  | .failed cause => s!"search data unavailable: {cause.message}"
  | status => s!"search data at {location} is {status.name}"

/-
  The page of a single search box after its first focus,
  when the load has ended.
-/
def openedPage
    (source : String)
    (answer : Answer)
    (config : Config) :
    Page :=
  ((Page.new source answer [config]).focus 0).1.finish

/- Answer one query. -/
def search
    (terminal : Terminal)
    (source : String)
    (answer : Answer)
    (config : Config)
    (query : String)
    (format : Format) :
    Result :=
  let page := openedPage source answer config
  match page.loader.status with
  | .ready handle =>
      match format with
      | .json =>
          let found := handle.index.search query config.limit.toNat
          ⟨0, shownMatches found, "", page.log⟩
      | format =>
          let (page, outcome) := page.query 0 query
          let widget := page.widgets.headD (Widget.new config)
          let (out, err) :=
            shownOutcome terminal format widget outcome
          ⟨0, out, err, page.log⟩
  | status => .failure (unavailable source status) page.log

end SiteSearch

------------------------------------------------------------
-- Inspection
------------------------------------------------------------

namespace SiteSearch

/- A checksum as eight hexadecimal digits. -/
def checksumText
    (checksum : UInt32) :
    String :=
  let digits := Nat.toDigits 16 checksum.toNat
  String.ofList (List.replicate (8 - digits.length) '0' ++ digits)

/- What an inspection prints. -/
def inspection
    (terminal : Terminal)
    (handle : Handle) :
    String :=
  let info := handle.artifact
  let index := handle.index
  let status := terminal.status "ready"
  String.join
    [terminal.top "Search data",
     terminal.row s!"  location   {info.location}",
     terminal.row s!"  status     {status}",
     terminal.row s!"  size       {sizeText info.size.toUInt64}",
     terminal.row s!"  crc32      {checksumText info.checksum}",
     terminal.row
      s!"  records    {info.records} ({index.size} unique ids, {info.skipped} skipped)",
     terminal.row s!"  sections   {index.parentCount}",
     terminal.row s!"  terms      {index.termCount}",
     terminal.bottom]

/- Tell what is in the search data. -/
def inspect
    (terminal : Terminal)
    (source : String)
    (answer : Answer) :
    Result :=
  let page := (Page.new source answer []).ensure
  match page.loader.status with
  | .ready handle => ⟨0, inspection terminal handle, "", page.log⟩
  | status => .failure (unavailable source status) page.log

end SiteSearch

------------------------------------------------------------
-- Interaction
------------------------------------------------------------

namespace SiteSearch

/-
  A line read in reverse without the carriage return it ends
  in.
-/
def withoutReturn :
    List UInt8 → List UInt8
  | [] => []
  | b :: before => if b = 13 then before else b :: before

/-
  The lines of some bytes, without their ends, behind one
  begun in reverse.
-/
def linesFrom
    (begun : List UInt8) :
    List UInt8 → List (List UInt8)
  | [] => Text.closeRun begun
  | b :: rest =>
      if b = 10 then
        (withoutReturn begun).reverse :: linesFrom [] rest
      else linesFrom (b :: begun) rest

/-
  The lines of some bytes.  A line ends at a line feed, with
  a carriage return in front of it or without; the last one
  may have no end.
-/
def linesOf
    (bytes : List UInt8) :
    List (List UInt8) :=
  linesFrom [] bytes

/- A text without the white space it ends in. -/
def trimEnd
    (text : String) :
    String :=
  String.ofList
    (text.toList.reverse.dropWhile Unicode.isWhiteSpace).reverse

/-
  Answer the queries on some lines.  The run ends at a line
  that is no text and when there is no index to search.
-/
def interactLines
    (terminal : Terminal)
    (format : Format)
    (page : Page) :
    List (List UInt8) → Result
  | [] => ⟨0, "", "", page.log⟩
  | line :: lines =>
      match Bytes.decode line with
      | .error fault => .failure fault.message page.log
      | .ok text =>
          let (page, outcome) := page.queryWhenReady 0 (trimEnd text)
          match outcome with
          | .notReady status =>
              .failure s!"search index {status}" page.log
          | outcome =>
              let widget := page.widgets.headD (Widget.new .standard)
              (interactLines terminal format page lines).after
                (shownOutcome terminal format widget outcome)

/- Answer one query after the other. -/
def interact
    (terminal : Terminal)
    (source : String)
    (answer : Answer)
    (config : Config)
    (format : Format)
    (input : List UInt8) :
    Result :=
  let page := ((Page.new source answer [config]).focus 0).1
  interactLines terminal format page (linesOf input)

end SiteSearch

------------------------------------------------------------
-- Commands
------------------------------------------------------------

namespace SiteSearch

/- Where the search data lies and how results are shaped. -/
def Command.options :
    Command → DataOptions
  | search _ options _ => options
  | inspect options => options
  | interactive options _ => options

/- Do what a command asks for. -/
def Command.run
    {m : Type → Type}
    [Monad m]
    (access : Access m)
    (terminal : Terminal)
    (input : m (List UInt8))
    (command : Command) :
    m Result := do
  match ← command.options.configure access with
  | .error cause => return .failure cause.message []
  | .ok config =>
      let source :=
        Source.ofLocation config.dataUrl command.options.baseUrl
      let answer ← source.fetch access
      match command with
      | .search query _ format =>
          return SiteSearch.search terminal source.location answer
            config query format
      | .inspect _ =>
          return SiteSearch.inspect terminal source.location answer
      | .interactive _ format =>
          return SiteSearch.interact terminal source.location answer
            config format (← input)

/- The name and the version of the program. -/
def versionText : String := "gdoc-search 0.3.2\n"

/- What the program can be asked to do. -/
def helpText : String :=
  "Incremental documentation search over a site's search data\n\n" ++
  "Usage: gdoc-search [OPTIONS] <COMMAND>\n\n" ++
  "Commands:\n" ++
  "  search       Run one query and print the rendered results\n" ++
  "  inspect      Summarize a search data artifact\n" ++
  "  interactive  Read queries from stdin, one per line, and render each\n" ++
  "  help         Print this message or the help of the given subcommand(s)\n\n" ++
  "Options:\n" ++
  "  -v, --verbose...  Increase log verbosity (-v debug, -vv trace)\n" ++
  "  -h, --help        Print help\n" ++
  "  -V, --version     Print version\n"

/- What is said about arguments that ask for nothing. -/
def usageText : String :=
  "error: invalid arguments\n\nFor more information, try '--help'.\n"

/-
  Do what some arguments ask for.  Only the events of the
  chosen levels are left.
-/
def runArguments
    {m : Type → Type}
    [Monad m]
    (access : Access m)
    (environment : Environment)
    (input : m (List UInt8))
    (arguments : List String) :
    m Result := do
  match Invocation.parse arguments with
  | .error .usage => return ⟨2, "", usageText, []⟩
  | .error .help => return ⟨0, helpText, "", []⟩
  | .error .version => return ⟨0, versionText, "", []⟩
  | .ok invocation =>
      let terminal := Terminal.ofEnvironment environment
      let result ← invocation.command.run access terminal input
      return { result with
        log := shownEvents invocation.verbosity result.log }

end SiteSearch
