import SiteSearch.Bytes.Utf8
import SiteSearch.Web.Domain
import SiteSearch.Web.Percent

/-
  Hosts in the web.

  Key definitions include:
    * `SiteSearch.Host`
    * `SiteSearch.Host.display`
    * `SiteSearch.Host.ofText?`
    * `SiteSearch.Host.ofPlainText?`

  A host has a name, an address of four bytes or one of eight
  groups of sixteen bits.  The schemes of the web put names
  into normal form; others take them as they are.
-/

------------------------------------------------------------
-- Hosts
------------------------------------------------------------

namespace SiteSearch

/- A host. -/
inductive Host where
  | name (text : List Char)
  | bytes (values : List Nat)
  | groups (values : List Nat)
deriving DecidableEq, Repr

/- Whether nothing is given as a host. -/
def Host.isEmpty
    (host : Host) :
    Bool :=
  host == .name []

end SiteSearch

------------------------------------------------------------
-- Addresses of Four Bytes
------------------------------------------------------------

namespace SiteSearch.Host

/-
  A number in an address of four bytes: decimal, octal or
  hexadecimal.
-/
def number?
    (text : List Char) :
    Option Nat :=
  let read := fun (base : Nat) (digits : List Char) =>
    digits.foldl (fun n c =>
      match n, hexValue? c with
      | some n, some d =>
          if d < base then some (base * n + d) else none
      | _, _ => none) (some 0)
  match text with
  | [] => none
  | '0' :: 'x' :: rest => read 16 rest
  | '0' :: rest => read 8 rest
  | _ => read 10 text

/-
  The labels of a name; an empty one at the end does not
  count.
-/
def labels
    (name : List Char) :
    List (List Char) :=
  let labels := name.splitOn '.'
  if labels.getLast? = some [] ∧ 1 < labels.length then labels.dropLast
  else labels

/- Whether a name has to be an address of four bytes. -/
def endsInNumber
    (name : List Char) :
    Bool :=
  match (labels name).getLast? with
  | none => false
  | some label =>
      !label.isEmpty &&
        (label.all Char.isDigit || (number? label).isSome)

/-
  The four bytes of an address of up to four numbers, the
  last filling the rest.
-/
def bytes?
    (name : List Char) :
    Option (List Nat) :=
  let numbers := (labels name).map number?
  if numbers.length > 4 ∨ numbers.any Option.isNone then none
  else
    let values := numbers.map (·.getD 0)
    let front := values.dropLast
    let last := values.getLast?.getD 0
    if front.any (255 < ·) ∨
        Nat.pow 256 (4 - front.length) ≤ last then none
    else
      let filled :=
        (List.range (4 - front.length)).reverse.map fun i =>
          last / Nat.pow 256 i % 256
      some (front ++ filled)

end SiteSearch.Host

------------------------------------------------------------
-- Addresses of Eight Groups
------------------------------------------------------------

namespace SiteSearch.Host

/- A group of one to four hexadecimal digits. -/
def group?
    (text : List Char) :
    Option Nat :=
  if text.isEmpty || 4 < text.length then none
  else
    text.foldl (fun n c =>
      match n, hexValue? c with
      | some n, some d => some (16 * n + d)
      | _, _ => none) (some 0)

/- A byte in decimal digits without leading zeros. -/
def byte?
    (text : List Char) :
    Option Nat :=
  let n := text.foldl (fun n c => 10 * n + (c.toNat - 48)) 0
  if text.isEmpty || !text.all Char.isDigit || 3 < text.length ||
      255 < n then none
  else if 1 < text.length && text.head? == some '0' then none
  else some n

/- Two groups given by their four bytes. -/
def byteGroups?
    (text : List Char) :
    Option (List Nat) :=
  match (text.splitOn '.').mapM byte? with
  | some [a, b, c, d] => some [256 * a + b, 256 * c + d]
  | _ => none

/- Groups of which the last two may be given by their bytes. -/
def groupsOf? :
    List (List Char) → Option (List Nat)
  | [] => some []
  | [part] =>
      if part.contains '.' then byteGroups? part
      else (group? part).map ([·])
  | part :: parts => do
      let group ← group? part
      let groups ← groupsOf? parts
      return group :: groups

/-
  The parts between colons without the empty one that a gap at
  the beginning leaves in front of itself.
-/
def withoutFirst? :
    List (List Char) → Option (List (List Char))
  | [] :: [] :: parts => some ([] :: parts)
  | [] :: _ => none
  | parts => some parts

/-
  The eight groups of an address.  A gap between two colons
  stands for zeros.
-/
def groups?
    (text : List Char) :
    Option (List Nat) := do
  let parts ← withoutFirst? (text.splitOn ':')
  let parts ← (withoutFirst? parts.reverse).map List.reverse
  let front := parts.takeWhile (!·.isEmpty)
  if front.length = parts.length then
    let groups ← groupsOf? parts
    if groups.length = 8 then some groups else none
  else
    let before ← front.mapM group?
    let behind ← groupsOf? (parts.drop (front.length + 1))
    if 8 ≤ before.length + behind.length then none
    else
      some
        (before ++
          List.replicate (8 - before.length - behind.length) 0 ++
          behind)

/-
  The first of the longest runs of zeros, given by its place
  and its length.
-/
def zeroRun
    (groups : List Nat) :
    Nat × Nat :=
  (List.range groups.length).foldl (fun longest place =>
    let length := ((groups.drop place).takeWhile (· == 0)).length
    if longest.2 < length then (place, length) else longest) (0, 0)

/- Groups in hexadecimal digits with colons between them. -/
def groupsText
    (groups : List Nat) :
    List Char :=
  [':'].intercalate (groups.map (Nat.toDigits 16))

/- Groups with the longest run of at least two zeros left out. -/
def shortGroupsText
    (groups : List Nat) :
    List Char :=
  let (place, length) := zeroRun groups
  if length < 2 then groupsText groups
  else
    groupsText (groups.take place) ++
      ':' :: ':' :: groupsText (groups.drop (place + length))

/- A host as shown. -/
def display :
    Host → List Char
  | name text => text
  | bytes values =>
      ['.'].intercalate (values.map fun n => (toString n).toList)
  | groups values => '[' :: (shortGroupsText values ++ [']'])

end SiteSearch.Host

------------------------------------------------------------
-- Reading
------------------------------------------------------------

namespace SiteSearch.Host

/- The host between square brackets, behind the first one. -/
def bracketed?
    (rest : List Char) :
    Option Host :=
  if rest.getLast? = some ']' then (groups? rest.dropLast).map groups
  else none

/- The host that a text gives to a scheme of the web. -/
def ofText? :
    List Char → Option Host
  | '[' :: rest => bracketed? rest
  | text => do
      let decoded ← Bytes.text? (Percent.decode text)
      let ascii ← Domain.ascii? decoded.toList
      if ascii.isEmpty then none
      else if endsInNumber ascii then (bytes? ascii).map bytes
      else some (name ascii)

/- The characters that no host may hold, of whatever scheme. -/
def isForbidden
    (c : Char) :
    Bool :=
  "\x00\t\n\r #/:<>?@[\\]^|".toList.contains c

/-
  The host that a text gives to another scheme; it may be
  empty.
-/
def ofPlainText? :
    List Char → Option Host
  | '[' :: rest => bracketed? rest
  | text =>
      if text.any isForbidden then none
      else some (name (Percent.encode "" text))

end SiteSearch.Host
