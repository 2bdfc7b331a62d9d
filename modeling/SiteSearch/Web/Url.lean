import SiteSearch.Web.Host
import SiteSearch.Web.Path

/-
  Addresses in the web.

  Key definitions include:
    * `SiteSearch.Authority`
    * `SiteSearch.Url`
    * `SiteSearch.Url.display`
    * `SiteSearch.Url.parse?`
    * `SiteSearch.Url.isRequestable`

  An address names a scheme, who serves it, a path, a query
  and a fragment.  It is put into normal form when it is read:
  letters of the scheme are small, the host has its normal
  form, the usual number is left out, dots in the path are
  resolved, and characters that may not stand in an address
  are written by their bytes.
-/

------------------------------------------------------------
-- Addresses
------------------------------------------------------------

namespace SiteSearch

/-
  Who serves an address: a host, for a user with a password,
  under a number.  An empty user or password is none.
-/
structure Authority where
  user : List Char
  password : List Char
  host : Host
  number : Option Nat
deriving DecidableEq, Repr

/- A host without anything else. -/
def Authority.ofHost
    (host : Host) :
    Authority :=
  ⟨[], [], host, none⟩

/- An address in normal form. -/
structure Url where
  scheme : List Char
  authority : Option Authority
  path : List Char
  query : Option (List Char)
  fragment : Option (List Char)
deriving DecidableEq, Repr

/- An authority as shown. -/
def Authority.display
    (authority : Authority) :
    List Char :=
  let password :=
    if authority.password.isEmpty then []
    else ':' :: authority.password
  let credentials := authority.user ++ password
  let number :=
    match authority.number with
    | none => []
    | some number => ':' :: (toString number).toList
  (if credentials.isEmpty then [] else credentials ++ ['@']) ++
    authority.host.display ++ number

namespace Url

/-
  An address as shown.  A path without an authority must not
  look like one.
-/
def display
    (url : Url) :
    String :=
  let front :=
    match url.authority with
    | some authority => '/' :: '/' :: authority.display
    | none =>
        if "//".toList.isPrefixOf url.path then ['/', '.'] else []
  let part := fun (mark : Char) (text : Option (List Char)) =>
    match text with
    | none => []
    | some text => mark :: text
  String.ofList
    (url.scheme ++ ':' ::
      (front ++ url.path ++ part '?' url.query ++
        part '#' url.fragment))

end Url

end SiteSearch

------------------------------------------------------------
-- Schemes
------------------------------------------------------------

namespace SiteSearch.Url

/- The number that a scheme uses when none is given. -/
def usualNumber?
    (scheme : List Char) :
    Option Nat :=
  if scheme = "http".toList ∨ scheme = "ws".toList then some 80
  else if scheme = "https".toList ∨ scheme = "wss".toList then
    some 443
  else if scheme = "ftp".toList then some 21
  else none

/- Whether a scheme is that of files. -/
def isFile
    (scheme : List Char) :
    Bool :=
  scheme == "file".toList

/-
  Whether a scheme is one of those of the web or that of
  files.
-/
def isWeb
    (scheme : List Char) :
    Bool :=
  (usualNumber? scheme).isSome || isFile scheme

/-
  A scheme in front of a colon and what follows, in small
  letters.
-/
def scheme?
    (text : List Char) :
    Option (List Char × List Char) :=
  let name :=
    text.takeWhile fun c =>
      c.isAlphanum || c == '+' || c == '-' || c == '.'
  match text.drop name.length, name with
  | ':' :: rest, first :: _ =>
      if first.isAlpha then some (name.map Char.toLower, rest) else none
  | _, _ => none

end SiteSearch.Url

------------------------------------------------------------
-- Authorities
------------------------------------------------------------

namespace SiteSearch.Url

/- A slash, or what the web takes for one. -/
def isSlash
    (isWeb : Bool)
    (c : Char) :
    Bool :=
  c == '/' || (isWeb && c == '\\')

/- Whether a character ends an authority. -/
def endsAuthority
    (isWeb : Bool)
    (c : Char) :
    Bool :=
  isSlash isWeb c || c == '?' || c == '#'

/-
  What stands in front of the last at sign, if there is one,
  and what does not.
-/
def splitCredentials
    (text : List Char) :
    Option (List Char) × List Char :=
  let behind := (text.reverse.takeWhile (· != '@')).reverse
  if behind.length < text.length then
    (some (text.take (text.length - behind.length - 1)), behind)
  else (none, text)

/-
  A host and what follows from the first colon outside
  brackets on.
-/
def splitHost
    (inBrackets : Bool) :
    List Char → List Char × List Char
  | [] => ([], [])
  | c :: rest =>
      if c = ':' ∧ inBrackets = false then ([], c :: rest)
      else
        let inBrackets :=
          if c = '[' then true
          else if c = ']' then false
          else inBrackets
        let (host, behind) := splitHost inBrackets rest
        (c :: host, behind)

/- The greatest number of a service. -/
def greatestNumber : Nat := 65535

/-
  The number that digits give to a service, if any, without
  the usual one; it fails at one that is too great.
-/
def serviceNumber?
    (scheme : List Char)
    (digits : List Char) :
    Option (Option Nat) :=
  let number := digits.foldl (fun n c => 10 * n + (c.toNat - 48)) 0
  if greatestNumber < number then none
  else if digits.isEmpty || usualNumber? scheme == some number then
    some none
  else some (some number)

/- The authority at the beginning of a text, and the rest. -/
def authority?
    (scheme : List Char)
    (text : List Char) :
    Option (Authority × List Char) := do
  let (place, rest) :=
    text.span fun c => !endsAuthority (isWeb scheme) c
  let (credentials, place) := splitCredentials place
  if credentials = some [] ∧ place = [] ∧ rest ≠ [] then none
  else
    let credentials := credentials.getD []
    let user := credentials.takeWhile (· != ':')
    let password := (credentials.dropWhile (· != ':')).drop 1
    let (host, behind) := splitHost false place
    let host ←
      if isWeb scheme then Host.ofText? host
      else Host.ofPlainText? host
    let (digits, after) := (behind.drop 1).span Char.isDigit
    let number ← serviceNumber? scheme digits
    if host.isEmpty ∧
        (behind ≠ [] ∨ user ≠ [] ∨ password ≠ []) then none
    else if after.head?.any (· != '\\') then none
    else
      let user := Percent.encode Percent.userSet user
      let password := Percent.encode Percent.userSet password
      return (⟨user, password, host, number⟩, after ++ rest)

end SiteSearch.Url

------------------------------------------------------------
-- Paths
------------------------------------------------------------

namespace SiteSearch.Url

/-
  The resolved segments that a text gives to a path, behind
  its first slash.
-/
def segmentsOf
    (scheme : List Char)
    (text : List Char) :
    List (List Char) :=
  let segments :=
    UrlPath.segments (isWeb scheme)
      (Percent.encode Percent.pathSet text)
  UrlPath.resolve (isFile scheme) segments

/- A text without the slash that it begins with. -/
def withoutSlash
    (isWeb : Bool) :
    List Char → List Char
  | [] => []
  | c :: rest => if isSlash isWeb c then rest else c :: rest

/-
  The path of an address with an authority; only the web
  needs one.
-/
def pathOf
    (scheme : List Char)
    (text : List Char) :
    List Char :=
  if text.isEmpty && !isWeb scheme then []
  else
    UrlPath.join
      (segmentsOf scheme (withoutSlash (isWeb scheme) text))

/- A path with a single slash in front. -/
def withOneSlash
    (path : List Char) :
    List Char :=
  '/' :: path.dropWhile (· == '/')

/-
  The host and the path of a file.  Its own host is not named,
  and none is in front of a drive.
-/
def file?
    (text : List Char) :
    Option (Authority × List Char) :=
  let own := Authority.ofHost (.name [])
  let inside := fun (segments : List (List Char)) =>
    (own, withOneSlash (UrlPath.join segments))
  let scheme := "file".toList
  match text with
  | a :: b :: rest =>
      if isSlash true a && isSlash true b then
        let (name, path) := rest.span fun c => !isSlash true c
        if name.isEmpty || UrlPath.isDrive name then
          some (inside (segmentsOf scheme rest))
        else
          match Host.ofText? name with
          | none => none
          | some host =>
              if host = .name "localhost".toList then
                some (inside (segmentsOf scheme path))
              else
                let segments :=
                  segmentsOf scheme (withoutSlash true path)
                if segments.head?.any UrlPath.isDrive then
                  some (inside segments)
                else
                  some
                    (Authority.ofHost host,
                      withOneSlash (UrlPath.join segments))
      else
        some (inside (segmentsOf scheme (withoutSlash true text)))
  | text =>
      some (inside (segmentsOf scheme (withoutSlash true text)))

end SiteSearch.Url

------------------------------------------------------------
-- Reading
------------------------------------------------------------

namespace SiteSearch.Url

/-
  The query behind a question mark and the fragment behind a
  hash sign.
-/
def ending
    (scheme : List Char)
    (text : List Char) :
    Option (List Char) × Option (List Char) :=
  let (front, back) := text.span (· != '#')
  let querySet :=
    if isWeb scheme then Percent.querySet ++ "\x27"
    else Percent.querySet
  let query :=
    match front with
    | [] => none
    | _ :: query => some (Percent.encode querySet query)
  let fragment :=
    match back with
    | [] => none
    | _ :: fragment =>
        some (Percent.encode Percent.fragmentSet fragment)
  (query, fragment)

/-
  The authority and the path of an address without its query
  and its fragment, and what is left of it.  A scheme of the
  web always has an authority; another one has it behind two
  slashes, or else a path that is resolved behind one slash
  and taken as it is behind none.
-/
def hierarchy?
    (scheme : List Char)
    (text : List Char) :
    Option (Option Authority × List Char × List Char) :=
  let isEnd := fun (c : Char) => c == '?' || c == '#'
  if isFile scheme then
    let (front, back) := text.span (!isEnd ·)
    (file? front).map fun (authority, path) =>
      (some authority, path, back)
  else if isWeb scheme || "//".toList.isPrefixOf text then do
    let text :=
      if isWeb scheme then text.dropWhile (isSlash true)
      else text.drop 2
    let (authority, rest) ← authority? scheme text
    let (path, back) := rest.span (!isEnd ·)
    return (some authority, pathOf scheme path, back)
  else
    let (front, back) := text.span (!isEnd ·)
    if "/".toList.isPrefixOf front then
      some (none, pathOf scheme front, back)
    else some (none, Percent.encode "" front, back)

/-
  A text without controls and spaces around it and without
  line breaks and tabs in it.
-/
def cleaned
    (text : List Char) :
    List Char :=
  let isOuter := fun (c : Char) => decide (c.toNat ≤ 0x20)
  let trimmed :=
    ((text.dropWhile isOuter).reverse.dropWhile isOuter).reverse
  trimmed.filter fun c => c != '\t' && c != '\n' && c != '\r'

/- The address that a text writes, if it is one. -/
def parse?
    (text : String) :
    Option Url := do
  let (scheme, rest) ← scheme? (cleaned text.toList)
  let (authority, path, back) ← hierarchy? scheme rest
  let (query, fragment) := ending scheme back
  return ⟨scheme, authority, path, query, fragment⟩

end SiteSearch.Url

------------------------------------------------------------
-- Requests
------------------------------------------------------------

namespace SiteSearch.Url

/- Whether an encoded text is the encoding of a text. -/
def isReadable
    (encoded : List Char) :
    Bool :=
  (Bytes.text? (Percent.decode encoded)).isSome

/-
  An address without the user and the password, which are told
  apart from it in a request.  They stay if they are no text.
-/
def withoutCredentials
    (url : Url) :
    Url :=
  match url.authority with
  | none => url
  | some a =>
      if isReadable a.user &&
          (!a.user.isEmpty || isReadable a.password) then
        { url with
          authority := some { a with user := [], password := [] } }
      else url

/- The longest address that can be requested. -/
def longestRequest : Nat := 65534

/- Whether a request can name a host. -/
def canBeNamed
    (authority : Authority) :
    Bool :=
  authority.host.display.all fun c =>
    !"\"\x60\x7b\x7d".toList.contains c

/- Whether a request can be made to an address. -/
def isRequestable
    (url : Url) :
    Bool :=
  (url.scheme == "http".toList || url.scheme == "https".toList) &&
    url.authority.all canBeNamed &&
    url.display.utf8ByteSize ≤ longestRequest

end SiteSearch.Url
