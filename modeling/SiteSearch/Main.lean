import SiteSearch.Command.Run

/-
  The program.

  Key definitions include:
    * `main`

  Arguments, variables, files and standard input are read
  here, and what the command leaves behind is printed.  There
  are no connections to web servers.
-/

------------------------------------------------------------
-- Files
------------------------------------------------------------

namespace SiteSearch

/- Why the system could not read a file. -/
def fileError :
    IO.Error → FileError
  | .noFileOrDirectory .. => .notFound
  | .inappropriateType .. => .isDirectory
  | e => .other (toString e)

/- The files of the system, and no web servers. -/
def systemAccess : Access IO where
  file path := do
    try
      let content ← IO.FS.readBinFile path
      return .ok content.data.toList
    catch e => return .error (fileError e)
  request _ := return .refused

/- The surroundings of the program. -/
def systemEnvironment : IO Environment := do
  return {
    noColor := ← IO.getEnv "NO_COLOR"
    theme := ← IO.getEnv "GDOC_THEME"
    colors := ← IO.getEnv "COLORFGBG"
    isTerminal := ← (← IO.getStdout).isTty
  }

end SiteSearch

------------------------------------------------------------
-- Main
------------------------------------------------------------

/- Run the program. -/
def main
    (arguments : List String) :
    IO UInt32 := do
  let environment ← SiteSearch.systemEnvironment
  let input := do
    let content ← (← IO.getStdin).readBinToEnd
    return content.data.toList
  let result ←
    SiteSearch.runArguments SiteSearch.systemAccess environment input
      arguments
  (← IO.getStdout).putStr result.out
  let errors ← IO.getStderr
  for event in result.log do
    errors.putStrLn event.line
  errors.putStr result.err
  return result.code.toUInt32
