/-
  Arguments of the command line.

  Key definitions include:
    * `SiteSearch.Command`
    * `SiteSearch.Invocation`
    * `SiteSearch.Halt`
    * `SiteSearch.Invocation.parse`

  There are three commands.  Options may stand before and
  behind the query, have a long name and some a short one of
  a letter, and letters may be joined.  What is wrong with the
  arguments is not told apart.
-/

------------------------------------------------------------
-- Commands
------------------------------------------------------------

namespace SiteSearch

/- Where the search data lies and how results are shaped. -/
structure DataOptions where
  data : Option String
  baseUrl : Option String
  config : Option String
  limit : Option UInt64
  flat : Bool
deriving DecidableEq, Repr

/- How results are printed. -/
inductive Format where
  | boxes
  | html
  | json
deriving DecidableEq, Repr

/- What the program is asked to do. -/
inductive Command where
  | search (query : String) (options : DataOptions) (format : Format)
  | inspect (options : DataOptions)
  | interactive (options : DataOptions) (format : Format)
deriving DecidableEq, Repr

/- A command and how much is to be logged. -/
structure Invocation where
  verbosity : Nat
  command : Command
deriving DecidableEq, Repr

/- Why arguments give no command. -/
inductive Halt where
  | usage
  | help
  | version
deriving DecidableEq, Repr

end SiteSearch

------------------------------------------------------------
-- Options
------------------------------------------------------------

namespace SiteSearch

/- The options of the commands. -/
inductive OptionName where
  | verbose
  | data
  | baseUrl
  | config
  | limit
  | flat
  | html
  | json
  | help
deriving DecidableEq, Repr

/-
  An option's long name, its letter, and whether a value
  follows.
-/
structure OptionForm where
  name : OptionName
  long : String
  letter : Option Char
  hasValue : Bool

/- The options that every command has. -/
def commonOptions : List OptionForm :=
  [⟨.verbose, "verbose", some 'v', false⟩,
   ⟨.help, "help", some 'h', false⟩,
   ⟨.data, "data", some 'd', true⟩,
   ⟨.baseUrl, "base-url", none, true⟩,
   ⟨.config, "config", some 'c', true⟩,
   ⟨.limit, "limit", some 'l', true⟩,
   ⟨.flat, "flat", none, false⟩]

/- The option that asks for HTML. -/
def htmlOption : OptionForm :=
  ⟨.html, "html", none, false⟩

/- The option that asks for the matches themselves. -/
def jsonOption : OptionForm :=
  ⟨.json, "json", none, false⟩

/- What was given so far. -/
structure Given where
  verbosity : Option Nat
  options : DataOptions
  html : Bool
  json : Bool
  queries : List String

/- Nothing was given. -/
def Given.nothing : Given :=
  ⟨none, ⟨none, none, none, none, false⟩, false, false, []⟩

/-
  A number of at most 64 bits, with or without a plus in
  front.
-/
def largeNumber?
    (text : String) :
    Option UInt64 :=
  let digits :=
    match text.toList with
    | '+' :: digits => digits
    | digits => digits
  if digits.isEmpty || !digits.all Char.isDigit then none
  else
    let number : Nat :=
      digits.foldl (fun n c => 10 * n + (c.toNat - 48)) 0
    if number < UInt64.size then some number.toUInt64 else none

/-
  Take an option with its value.  Only verbosity may be
  given twice.
-/
def Given.take
    (given : Given)
    (name : OptionName)
    (value : String) :
    Except Halt Given :=
  let options := given.options
  match name with
  | .help => .error .help
  | .verbose =>
      .ok { given with
        verbosity := some (given.verbosity.getD 0 + 1) }
  | .data =>
      if options.data.isSome then .error .usage
      else
        .ok { given with
          options := { options with data := some value } }
  | .baseUrl =>
      if options.baseUrl.isSome then .error .usage
      else
        .ok { given with
          options := { options with baseUrl := some value } }
  | .config =>
      if options.config.isSome ∨ value = "" then .error .usage
      else
        .ok { given with
          options := { options with config := some value } }
  | .limit =>
      match options.limit, largeNumber? value with
      | none, some limit =>
          .ok { given with
            options := { options with limit := some limit } }
      | _, _ => .error .usage
  | .flat =>
      if options.flat then .error .usage
      else .ok { given with options := { options with flat := true } }
  | .html =>
      if given.html then .error .usage
      else .ok { given with html := true }
  | .json =>
      if given.json then .error .usage
      else .ok { given with json := true }

end SiteSearch

------------------------------------------------------------
-- Reading
------------------------------------------------------------

namespace SiteSearch

/-
  Read letters behind a dash.  The option that comes back is
  still without its value.
-/
def readLetters
    (forms : List OptionForm)
    (given : Given) :
    List Char → Except Halt (Given × Option OptionName)
  | [] => .ok (given, none)
  | letter :: rest =>
      match forms.find? fun form => form.letter == some letter with
      | none => .error .usage
      | some form =>
          if form.hasValue then
            match rest with
            | [] => .ok (given, some form.name)
            | '=' :: value =>
                (given.take form.name (String.ofList value)).map
                  fun given => (given, none)
            | value =>
                (given.take form.name (String.ofList value)).map
                  fun given => (given, none)
          else
            match given.take form.name "" with
            | .error halt => .error halt
            | .ok given => readLetters forms given rest

/-
  Read a long name, behind its dashes, and a value behind an
  equals sign.
-/
def readLong
    (forms : List OptionForm)
    (given : Given)
    (text : List Char) :
    Except Halt (Given × Option OptionName) :=
  let name := text.takeWhile (· != '=')
  match forms.find? fun form => form.long.toList == name with
  | none => .error .usage
  | some form =>
      match text.drop name.length, form.hasValue with
      | [], true => .ok (given, some form.name)
      | [], false =>
          (given.take form.name "").map fun given => (given, none)
      | _ :: value, true =>
          (given.take form.name (String.ofList value)).map
            fun given => (given, none)
      | _ :: _, false => .error .usage

/-
  Read the arguments of a command.  An option that waits for
  its value takes the next argument, which must not look like
  an option.  Behind two dashes nothing is an option.
-/
def readArguments
    (forms : List OptionForm)
    (queries : Nat)
    (waiting : Option OptionName)
    (isLiteral : Bool)
    (given : Given) :
    List String → Except Halt Given
  | [] =>
      match waiting with
      | some _ => .error .usage
      | none => .ok given
  | argument :: rest =>
      let isOption :=
        !isLiteral && argument.toList.head? == some '-' &&
          argument != "-"
      match waiting with
      | some name =>
          if isOption then .error .usage
          else
            match given.take name argument with
            | .error halt => .error halt
            | .ok given =>
                readArguments forms queries none isLiteral given rest
      | none =>
          if !isOption then
            if given.queries.length < queries then
              readArguments forms queries none isLiteral
                { given with queries := given.queries ++ [argument] }
                rest
            else .error .usage
          else
            match argument.toList.drop 1 with
            | ['-'] =>
                readArguments forms queries none true given rest
            | '-' :: long =>
                match readLong forms given long with
                | .error halt => .error halt
                | .ok (given, waiting) =>
                    readArguments forms queries waiting isLiteral
                      given rest
            | letters =>
                match readLetters forms given letters with
                | .error halt => .error halt
                | .ok (given, waiting) =>
                    readArguments forms queries waiting isLiteral
                      given rest

end SiteSearch

------------------------------------------------------------
-- Invocations
------------------------------------------------------------

namespace SiteSearch

/- How the arguments given want results to be printed. -/
def Given.format
    (given : Given) :
    Except Halt Format :=
  match given.html, given.json with
  | true, true => .error .usage
  | true, false => .ok .html
  | false, true => .ok .json
  | false, false => .ok .boxes

/-
  The command of a name with some arguments, if there is
  such a command.
-/
def command?
    (name : String)
    (arguments : List String) :
    Option (Except Halt (Option Nat × Command)) :=
  if name = "search" then some do
    let forms := commonOptions ++ [htmlOption, jsonOption]
    let given ← readArguments forms 1 none false .nothing arguments
    let format ← given.format
    match given.queries with
    | [] => .error .usage
    | query :: _ =>
        .ok (given.verbosity, .search query given.options format)
  else if name = "inspect" then some do
    let given ←
      readArguments commonOptions 0 none false .nothing arguments
    .ok (given.verbosity, .inspect given.options)
  else if name = "interactive" then some do
    let forms := commonOptions ++ [htmlOption]
    let given ← readArguments forms 0 none false .nothing arguments
    let format ← given.format
    .ok (given.verbosity, .interactive given.options format)
  else none

/- Whether help about these topics can be given. -/
def isHelpTopic :
    List String → Bool
  | [] => true
  | [name] =>
      name == "search" || name == "inspect" ||
        name == "interactive" || name == "help"
  | _ => false

/-
  Read letters in front of a command: how often more is to
  be logged.
-/
def countLetters
    (count : Nat) :
    List Char → Except Halt Nat
  | [] => .ok count
  | 'v' :: letters => countLetters (count + 1) letters
  | 'V' :: _ => .error .version
  | 'h' :: _ => .error .help
  | _ :: _ => .error .usage

/-
  Read the arguments up to the command and those of the
  command.  The verbosity that the command is given replaces
  the one in front of it.
-/
def Invocation.parseFrom
    (count : Nat) :
    List String → Except Halt Invocation
  | [] => .error .usage
  | argument :: rest =>
      match command? argument rest with
      | some (.error halt) => .error halt
      | some (.ok (verbosity, command)) =>
          .ok ⟨verbosity.getD count, command⟩
      | none =>
          if argument = "help" then
            .error (if isHelpTopic rest then .help else .usage)
          else if argument = "--verbose" then
            parseFrom (count + 1) rest
          else if argument = "--version" then .error .version
          else if argument = "--help" then .error .help
          else
            match argument.toList with
            | ['-'] => .error .usage
            | '-' :: letters =>
                match countLetters count letters with
                | .error halt => .error halt
                | .ok count => parseFrom count rest
            | _ => .error .usage

/- The invocation that some arguments ask for. -/
def Invocation.parse
    (arguments : List String) :
    Except Halt Invocation :=
  Invocation.parseFrom 0 arguments

end SiteSearch
