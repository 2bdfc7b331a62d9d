import SiteSearch.Json.Reader

/-
  Strings in texts.

  Key definitions include:
    * `SiteSearch.Json.literal`
    * `SiteSearch.Json.text`
    * `SiteSearch.Json.skipText`

  A string stands between quotes.  Its bytes are taken as they
  are, except that a backslash begins an escape and controls
  are refused.  Characters outside the basic plane are escaped
  as two surrogates.  Whether the bytes are UTF-8 is asked at
  the closing quote, and not at all for a string that nobody
  needs.
-/

------------------------------------------------------------
-- Escapes
------------------------------------------------------------

namespace SiteSearch.Json

/- The character that a letter behind a backslash stands for. -/
def escaped?
    (letter : UInt8) :
    Option Char :=
  if letter = byte '"' then some '"'
  else if letter = byte '\\' then some '\\'
  else if letter = byte '/' then some '/'
  else if letter = byte 'b' then some '\x08'
  else if letter = byte 'f' then some '\x0C'
  else if letter = byte 'n' then some '\n'
  else if letter = byte 'r' then some '\r'
  else if letter = byte 't' then some '\t'
  else none

/- The value of a hexadecimal digit. -/
def hexDigit?
    (b : UInt8) :
    Option Nat :=
  if isDigit b then some (b.toNat - 48)
  else if byte 'a' ≤ b ∧ b ≤ byte 'f' then some (b.toNat - 87)
  else if byte 'A' ≤ b ∧ b ≤ byte 'F' then some (b.toNat - 55)
  else none

/- Four hexadecimal digits. -/
def hexEscape : Reader Nat := fun bytes =>
  match bytes with
  | a :: b :: c :: d :: rest =>
      match hexDigit? a, hexDigit? b, hexDigit? c, hexDigit? d with
      | some a, some b, some c, some d =>
          .ok (4096 * a + 256 * b + 16 * c + d, rest)
      | _, _, _, _ => .error .invalidEscape
  | _ => .error .endInString

/- The bytes of the character with a code point. -/
def codePoint
    (code : Nat) :
    List UInt8 :=
  String.utf8EncodeChar (Char.ofNat code)

/- The second half of a pair of surrogates. -/
def lowSurrogate
    (high : Nat) :
    Reader (List UInt8) := fun bytes =>
  match bytes with
  | [] => .error .endInString
  | b :: rest =>
      if b ≠ byte '\\' then .error .endOfHexEscape
      else
        match rest with
        | [] => .error .endInString
        | c :: rest =>
            if c ≠ byte 'u' then .error .endOfHexEscape
            else do
              let (low, rest) ← hexEscape rest
              if 0xDC00 ≤ low ∧ low ≤ 0xDFFF then
                return (codePoint (0x10000 + 1024 * (high - 0xD800) +
                  (low - 0xDC00)), rest)
              else .error .loneSurrogate

/- The character behind a backslash and the letter u. -/
def unicodeEscape : Reader (List UInt8) := fun bytes => do
  let (code, rest) ← hexEscape bytes
  if 0xDC00 ≤ code ∧ code ≤ 0xDFFF then .error .loneSurrogate
  else if 0xD800 ≤ code ∧ code ≤ 0xDBFF then lowSurrogate code rest
  else return (codePoint code, rest)

/-
  An escape behind its backslash, given what follows the
  letter u.
-/
def escapeWith
    (hex : Reader (List UInt8)) :
    Reader (List UInt8) := fun bytes =>
  match bytes with
  | [] => .error .endInString
  | b :: rest =>
      if b = byte 'u' then hex rest
      else
        match escaped? b with
        | some c => .ok (String.utf8EncodeChar c, rest)
        | none => .error .invalidEscape

/- An escape of a string that is kept. -/
def escape : Reader (List UInt8) :=
  escapeWith unicodeEscape

/-
  An escape of a string that nobody needs: surrogates may be
  single.
-/
def looseEscape : Reader (List UInt8) :=
  escapeWith fun bytes => do
    let (_, rest) ← hexEscape bytes
    return ([], rest)

end SiteSearch.Json

------------------------------------------------------------
-- Strings
------------------------------------------------------------

namespace SiteSearch.Json

/-
  The bytes up to the closing quote, behind those collected
  in reverse.
-/
def literalFrom
    (escape : Reader (List UInt8))
    (collected : List UInt8)
    (clock : List UInt8) :
    Reader (List UInt8) := fun bytes =>
  match clock, bytes with
  | _, [] => .error .endInString
  | [], _ :: _ => .error .endInString
  | _ :: clock, b :: rest =>
      if b = byte '"' then .ok (collected.reverse, rest)
      else if b = byte '\\' then
        match escape rest with
        | .error e => .error e
        | .ok (piece, rest) =>
            literalFrom escape (piece.reverse ++ collected) clock rest
      else if b < 0x20 then .error .controlCharacter
      else literalFrom escape (b :: collected) clock rest

/-
  The bytes that a string stands for, behind its opening
  quote.
-/
def literal
    (escape : Reader (List UInt8)) :
    Reader (List UInt8) := fun bytes =>
  literalFrom escape [] bytes bytes

/- A string behind its opening quote. -/
def text : Reader String := fun bytes =>
  match literal escape bytes with
  | .error e => .error e
  | .ok (content, rest) =>
      match Bytes.text? content with
      | some text => .ok (text, rest)
      | none => .error .invalidCodePoint

/- A string that nobody needs, behind its opening quote. -/
def skipText : Reader Unit := fun bytes =>
  match literal looseEscape bytes with
  | .error e => .error e
  | .ok (_, rest) => .ok ((), rest)

end SiteSearch.Json
