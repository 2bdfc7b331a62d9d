/-
  Values of the data format.

  Key definitions include:
    * `SiteSearch.Json`
    * `SiteSearch.Json.get?`
    * `SiteSearch.Json.insertMember`

  A value is one of the six kinds of the format.  Whole
  numbers of 64 bits keep their exact value, with a type of
  their own for the negative ones; every other number is a
  floating-point number.  The members of an object are kept in
  ascending order of their keys, each key once.
-/

------------------------------------------------------------
-- Values
------------------------------------------------------------

namespace SiteSearch

/- A number: whole, negative and whole, or neither. -/
inductive Json.Number where
  | whole (value : UInt64)
  | negative (value : Int64)
  | float (value : Float)
deriving BEq

/- A value of the data format. -/
inductive Json where
  | null
  | bool (value : Bool)
  | number (value : Json.Number)
  | string (value : String)
  | array (items : List Json)
  | object (members : List (String × Json))
deriving BEq, Inhabited

end SiteSearch

------------------------------------------------------------
-- Objects
------------------------------------------------------------

namespace SiteSearch.Json

/- Set a member among members in ascending order of keys. -/
def insertMember
    (key : String)
    (value : Json) :
    List (String × Json) → List (String × Json)
  | [] => [(key, value)]
  | (key', value') :: members =>
      if key < key' then (key, value) :: (key', value') :: members
      else if key = key' then (key, value) :: members
      else (key', value') :: insertMember key value members

/- The members of an object that names them in this order. -/
def membersOf
    (named : List (String × Json)) :
    List (String × Json) :=
  named.foldl
    (fun members member => insertMember member.1 member.2 members) []

/- A member of an object. -/
def get?
    (value : Json)
    (key : String) :
    Option Json :=
  match value with
  | object members => members.lookup key
  | _ => none

end SiteSearch.Json
