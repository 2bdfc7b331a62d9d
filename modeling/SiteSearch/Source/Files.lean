import SiteSearch.Bytes.Utf8

/-
  Files.

  Key definitions include:
    * `SiteSearch.FileError`
    * `SiteSearch.Files`
    * `SiteSearch.Files.read`

  A working directory with files and directories in it, and
  what reading a path in it gives.  The parents of what is
  listed exist as directories.  Of what lies outside only the
  directories on the way to the root are known.
-/

------------------------------------------------------------
-- Errors
------------------------------------------------------------

namespace SiteSearch

/- Why a file cannot be read. -/
inductive FileError where
  | notFound
  | notDirectory
  | isDirectory
  | nameTooLong
  | nulInName
  | notText
  | other (message : String)
deriving DecidableEq, Repr

/- What is said about a file that cannot be read. -/
def FileError.message :
    FileError → String
  | notFound => "No such file or directory (os error 2)"
  | notDirectory => "Not a directory (os error 20)"
  | isDirectory => "Is a directory (os error 21)"
  | nameTooLong => "File name too long (os error 36)"
  | nulInName => "file name contained an unexpected NUL byte"
  | notText => "stream did not contain valid UTF-8"
  | other message => message

end SiteSearch

------------------------------------------------------------
-- Paths
------------------------------------------------------------

namespace SiteSearch

/- The parts of a path between slashes. -/
def pathParts
    (path : String) :
    List String :=
  (path.toList.splitOn '/').map String.ofList

/-
  The longest name of a file and the least length of a path
  that is too long.
-/
def longestName : Nat := 255
def tooLongPath : Nat := 4096

/- What stands at a path. -/
inductive FileNode where
  | directory
  | file (content : List UInt8)
deriving DecidableEq, Repr

/-
  The files and directories of a working directory, by their
  parts.
-/
structure Files where
  nodes : List (List String × FileNode)

namespace Files

/-
  The working directory itself is a directory, and so are
  parents of nodes.
-/
def node?
    (files : Files)
    (parts : List String) :
    Option FileNode :=
  match files.nodes.lookup parts with
  | some node => some node
  | none =>
      if parts.isEmpty ∨
          files.nodes.any (fun entry => parts.isPrefixOf entry.1) then
        some .directory
      else none

/-
  A place on the way along a path: inside the working
  directory, or so many levels above it.
-/
inductive Place where
  | inside (parts : List String)
  | above (levels : Nat)

/- What stands at a place. -/
def nodeAt?
    (files : Files) :
    Place → Option FileNode
  | .inside parts => files.node? parts
  | .above _ => some .directory

/- Go one part further along a path. -/
def enter
    (files : Files)
    (place : Place)
    (part : String) :
    Except FileError Place :=
  match files.nodeAt? place with
  | none => .error .notFound
  | some (.file _) => .error .notDirectory
  | some .directory =>
      if part.utf8ByteSize > longestName then .error .nameTooLong
      else if part = "" ∨ part = "." then .ok place
      else
        match place, part == ".." with
        | .inside parts, true =>
            .ok
              (if parts.isEmpty then .above 1
              else .inside parts.dropLast)
        | .above levels, true => .ok (.above (levels + 1))
        | .inside parts, false => .ok (.inside (parts ++ [part]))
        | .above _, false => .error .notFound

/- What a path leads to. -/
def follow
    (files : Files) :
    Place → List String → Except FileError Place
  | place, [] => .ok place
  | place, part :: parts =>
      match files.enter place part with
      | .error e => .error e
      | .ok place => follow files place parts

/- Read the file at a path. -/
def read
    (files : Files)
    (path : String) :
    Except FileError (List UInt8) :=
  if path.toList.contains '\x00' then .error .nulInName
  else if path = "" then .error .notFound
  else if path.utf8ByteSize ≥ tooLongPath then .error .nameTooLong
  else
    let start :=
      if path.toList.head? = some '/' then Place.above 1 else .inside []
    match files.follow start (pathParts path) with
    | .error e => .error e
    | .ok place =>
        match files.nodeAt? place with
        | none => .error .notFound
        | some .directory => .error .isDirectory
        | some (.file content) => .ok content

end Files

end SiteSearch
