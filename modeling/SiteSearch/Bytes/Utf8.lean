/-
  Texts as bytes.

  Key definitions include:
    * `SiteSearch.Bytes.ofText`
    * `SiteSearch.Bytes.text?`
    * `SiteSearch.Bytes.Fault`
    * `SiteSearch.Bytes.decode`

  A text is written in UTF-8.  Bytes that are no UTF-8 are
  refused with the place where they stop being one: the
  index of the first byte of the bad sequence and, unless the
  bytes end inside it, the number of bytes that could have
  begun a character.
-/

------------------------------------------------------------
-- Texts and Their Bytes
------------------------------------------------------------

namespace SiteSearch.Bytes

/- The bytes of a text. -/
def ofText
    (text : String) :
    List UInt8 :=
  text.toByteArray.data.toList

/- The text with these bytes, if they are UTF-8. -/
def text?
    (bytes : List UInt8) :
    Option String :=
  String.fromUTF8? ⟨bytes.toArray⟩

/- The bytes of a text are read back as that text. -/
theorem text?_ofText
    (text : String) :
    text? (ofText text) = some text := by
  have hBytes :
      (⟨(ofText text).toArray⟩ : ByteArray) = text.toByteArray := by
    simp [ofText]
  rw [text?, hBytes, String.fromUTF8?, dif_pos text.isValidUTF8]
  rfl

end SiteSearch.Bytes

------------------------------------------------------------
-- Faults
------------------------------------------------------------

namespace SiteSearch.Bytes

/-
  A place where bytes are no UTF-8.  No length is given when
  the bytes end inside a character.
-/
structure Fault where
  index : Nat
  length : Option Nat
deriving DecidableEq, Repr

/- The ranges that the bytes after a leading byte lie in. -/
def continuations
    (lead : UInt8) :
    Option (List (UInt8 × UInt8)) :=
  if lead < 0x80 then some []
  else if lead < 0xC2 then none
  else if lead < 0xE0 then some [(0x80, 0xBF)]
  else if lead = 0xE0 then some [(0xA0, 0xBF), (0x80, 0xBF)]
  else if lead = 0xED then some [(0x80, 0x9F), (0x80, 0xBF)]
  else if lead < 0xF0 then some [(0x80, 0xBF), (0x80, 0xBF)]
  else if lead = 0xF0 then
    some [(0x90, 0xBF), (0x80, 0xBF), (0x80, 0xBF)]
  else if lead < 0xF4 then
    some [(0x80, 0xBF), (0x80, 0xBF), (0x80, 0xBF)]
  else if lead = 0xF4 then
    some [(0x80, 0x8F), (0x80, 0xBF), (0x80, 0xBF)]
  else none

/-
  The first fault of bytes that continue a character begun at
  `start`, of which `length` bytes were read and `expected`
  are to come.  The end of the bytes counts as one.
-/
def faultFrom
    (start length : Nat)
    (expected : List (UInt8 × UInt8)) :
    List UInt8 → Fault
  | [] => ⟨start, none⟩
  | byte :: rest =>
      match expected with
      | [] =>
          match continuations byte with
          | none => ⟨start + length, some 1⟩
          | some ranges => faultFrom (start + length) 1 ranges rest
      | (low, high) :: ranges =>
          if low ≤ byte ∧ byte ≤ high then
            faultFrom start (length + 1) ranges rest
          else ⟨start, some length⟩

/- The first fault of bytes that are no UTF-8. -/
def fault
    (bytes : List UInt8) :
    Fault :=
  faultFrom 0 0 [] bytes

/- The text of these bytes, or where they stop being one. -/
def decode
    (bytes : List UInt8) :
    Except Fault String :=
  match text? bytes with
  | some text => .ok text
  | none => .error (fault bytes)

/- What is said about bytes that are no text. -/
def Fault.message
    (fault : Fault) :
    String :=
  match fault.length with
  | some length =>
      s!"invalid utf-8 sequence of {length} bytes from index {fault.index}"
  | none => s!"incomplete utf-8 byte sequence from index {fault.index}"

end SiteSearch.Bytes
