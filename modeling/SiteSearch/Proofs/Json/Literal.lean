import SiteSearch.Proofs.Json.Frame

/-
  How strings are spelled.

  A string is spelled by its bytes and escapes up to the
  closing quote.  The readers of strings say the same, with a
  clock that never runs out.

  Main declarations:
    * `SiteSearch.Json.Spelled`
    * `SiteSearch.Json.literal_eq_ok_iff`
    * `SiteSearch.Json.text_eq_ok_iff`
    * `SiteSearch.Json.framed_text`
    * `SiteSearch.Json.skipText_of_text`
-/

------------------------------------------------------------
-- Escapes
------------------------------------------------------------

namespace SiteSearch.Json

theorem framed_hexEscape : hexEscape.Framed := by
  intro bytes code rest hRead
  unfold hexEscape at hRead
  split at hRead
  · rename_i a b c d left
    split at hRead
    · rename_i ha hb hc hd
      cases hRead
      refine ⟨[a, b, c, d], rfl, ?_⟩
      intro other _
      simp [hexEscape, ha, hb, hc, hd]
    · cases hRead
  · cases hRead

/- The character that two surrogates stand for. -/
def pairOf
    (high low : Nat) :
    Reader (List UInt8) := fun rest =>
  if 0xDC00 ≤ low ∧ low ≤ 0xDFFF then
    .ok
      (codePoint (0x10000 + 1024 * (high - 0xD800) + (low - 0xDC00)),
        rest)
  else .error .loneSurrogate

/- A second surrogate is an escape of its own. -/
theorem lowSurrogate_eq_ok_iff
    {high : Nat}
    {bytes rest piece : List UInt8} :
    lowSurrogate high bytes = .ok (piece, rest) ↔
      ∃ front, bytes = byte '\\' :: byte 'u' :: front ∧
        hexEscape.andThen (pairOf high) front = .ok (piece, rest) := by
  constructor
  · intro hRead
    unfold lowSurrogate at hRead
    split at hRead
    · cases hRead
    · rename_i b bytes
      split_ifs at hRead with hSlash
      split at hRead
      · cases hRead
      · rename_i c bytes
        split_ifs at hRead with hLetter
        rw [not_not] at hSlash hLetter
        exact ⟨bytes, by rw [hSlash, hLetter], hRead⟩
  · rintro ⟨front, rfl, hPair⟩
    exact hPair

theorem framed_pairOf
    (high low : Nat) :
    (pairOf high low).Framed := by
  unfold pairOf
  split_ifs
  · exact Reader.framed_pure _
  · exact Reader.framed_fail _

theorem framed_lowSurrogate
    (high : Nat) :
    (lowSurrogate high).Framed := by
  intro bytes piece rest hRead
  rcases lowSurrogate_eq_ok_iff.mp hRead with ⟨front, rfl, hPair⟩
  rcases (framed_hexEscape.andThen (framed_pairOf high)) hPair with
    ⟨taken, rfl, hFrame⟩
  refine ⟨byte '\\' :: byte 'u' :: taken, rfl, ?_⟩
  intro other hOther
  exact lowSurrogate_eq_ok_iff.mpr
    ⟨taken ++ other, rfl, hFrame other hOther⟩

/- What four digits behind the letter u stand for. -/
def unicodeOf
    (code : Nat) :
    Reader (List UInt8) := fun rest =>
  if 0xDC00 ≤ code ∧ code ≤ 0xDFFF then .error .loneSurrogate
  else if 0xD800 ≤ code ∧ code ≤ 0xDBFF then lowSurrogate code rest
  else .ok (codePoint code, rest)

theorem unicodeEscape_eq :
    unicodeEscape = hexEscape.andThen unicodeOf := rfl

theorem framed_unicodeEscape : unicodeEscape.Framed := by
  rw [unicodeEscape_eq]
  refine framed_hexEscape.andThen fun code => ?_
  unfold unicodeOf
  split_ifs
  · exact Reader.framed_fail _
  · exact framed_lowSurrogate code
  · exact Reader.framed_pure _

/-
  A letter escape stands for one character, a longer one for
  its own.
-/
theorem escapeWith_eq_ok_iff
    {hex : Reader (List UInt8)}
    {bytes rest piece : List UInt8} :
    escapeWith hex bytes = .ok (piece, rest) ↔
      ∃ b front, bytes = b :: front ∧
        ((b = byte 'u' ∧ hex front = .ok (piece, rest)) ∨
          (b ≠ byte 'u' ∧ front = rest ∧
            ∃ c, escaped? b = some c ∧
              String.utf8EncodeChar c = piece)) := by
  constructor
  · intro hRead
    cases bytes with
    | nil => cases hRead
    | cons b front =>
        rw [escapeWith] at hRead
        refine ⟨b, front, rfl, ?_⟩
        by_cases hLetter : b = byte 'u'
        · rw [if_pos hLetter] at hRead
          exact Or.inl ⟨hLetter, hRead⟩
        · rw [if_neg hLetter] at hRead
          cases hEscaped : escaped? b with
          | none => simp [hEscaped] at hRead
          | some c =>
              simp only [hEscaped, Except.ok.injEq,
                Prod.mk.injEq] at hRead
              exact Or.inr ⟨hLetter, hRead.2, c, rfl, hRead.1⟩
  · rintro ⟨b, front, rfl,
      ⟨rfl, hHex⟩ | ⟨hLetter, rfl, c, hEscaped, rfl⟩⟩
    · exact hHex
    · rw [escapeWith, if_neg hLetter, hEscaped]

theorem framed_escapeWith
    {hex : Reader (List UInt8)}
    (hHex : hex.Framed) :
    (escapeWith hex).Framed := by
  intro bytes piece rest hRead
  rcases escapeWith_eq_ok_iff.mp hRead with
    ⟨b, front, rfl, ⟨rfl, hUnicode⟩ | ⟨hLetter, rfl, hSimple⟩⟩
  · rcases hHex hUnicode with ⟨taken, rfl, hFrame⟩
    refine ⟨byte 'u' :: taken, rfl, ?_⟩
    intro other hOther
    exact escapeWith_eq_ok_iff.mpr
      ⟨_, _, rfl, Or.inl ⟨rfl, hFrame other hOther⟩⟩
  · refine ⟨[b], rfl, ?_⟩
    intro other _
    exact escapeWith_eq_ok_iff.mpr
      ⟨_, _, rfl, Or.inr ⟨hLetter, rfl, hSimple⟩⟩

theorem framed_escape : escape.Framed :=
  framed_escapeWith framed_unicodeEscape

/- Four digits that nobody needs. -/
def skipHex : Reader (List UInt8) :=
  hexEscape.andThen fun _ rest => .ok ([], rest)

theorem looseEscape_eq : looseEscape = escapeWith skipHex := rfl

theorem framed_looseEscape : looseEscape.Framed := by
  rw [looseEscape_eq]
  exact framed_escapeWith
    (framed_hexEscape.andThen fun _ => Reader.framed_pure _)

end SiteSearch.Json

------------------------------------------------------------
-- Spelling
------------------------------------------------------------

namespace SiteSearch.Json

/-
  A string behind its opening quote: how it is spelled, the
  bytes it stands for, and what stands behind the closing
  quote.
-/
inductive Spelled
    (escape : Reader (List UInt8)) :
    List UInt8 → List UInt8 → List UInt8 → Prop where
  | quote
      (rest : List UInt8) :
      Spelled escape (byte '"' :: rest) [] rest
  | escaped
      {bytes piece after content rest : List UInt8}
      (hEscape : escape bytes = .ok (piece, after))
      (hMore : Spelled escape after content rest) :
      Spelled escape (byte '\\' :: bytes) (piece ++ content) rest
  | plain
      {b : UInt8}
      {bytes content rest : List UInt8}
      (hQuote : b ≠ byte '"')
      (hSlash : b ≠ byte '\\')
      (hControl : ¬ b < 0x20)
      (hMore : Spelled escape bytes content rest) :
      Spelled escape (b :: bytes) (b :: content) rest

variable {escape : Reader (List UInt8)}

/- What was read up to the closing quote is spelled there. -/
theorem exists_spelled_of_literalFrom
    {collected clock bytes out rest : List UInt8}
    (hRead :
      literalFrom escape collected clock bytes = .ok (out, rest)) :
    ∃ content, out = collected.reverse ++ content ∧
      Spelled escape bytes content rest := by
  induction clock generalizing collected bytes with
  | nil => cases bytes <;> simp [literalFrom] at hRead
  | cons tick clock ih =>
      cases bytes with
      | nil => simp [literalFrom] at hRead
      | cons b bytes =>
          rw [literalFrom] at hRead
          by_cases hQuote : b = byte '"'
          · rw [if_pos hQuote] at hRead
            cases hRead
            exact ⟨[], by simp, hQuote ▸ .quote _⟩
          by_cases hSlash : b = byte '\\'
          · rw [if_neg hQuote, if_pos hSlash] at hRead
            cases hEscape : escape bytes with
            | error e => simp [hEscape] at hRead
            | ok result =>
                rcases result with ⟨piece, after⟩
                rw [hEscape] at hRead
                rcases ih hRead with ⟨content, rfl, hMore⟩
                exact ⟨piece ++ content, by simp,
                  hSlash ▸ .escaped hEscape hMore⟩
          by_cases hControl : b < 0x20
          · rw [if_neg hQuote, if_neg hSlash, if_pos hControl] at hRead
            cases hRead
          · rw [if_neg hQuote, if_neg hSlash, if_neg hControl] at hRead
            rcases ih hRead with ⟨content, rfl, hMore⟩
            exact ⟨b :: content, by simp,
              .plain hQuote hSlash hControl hMore⟩

/- What is spelled is read, as long as the clock runs. -/
theorem Spelled.literalFrom
    (hEscape : escape.Framed)
    {bytes content rest : List UInt8}
    (hSpelled : Spelled escape bytes content rest)
    (collected : List UInt8)
    {clock : List UInt8}
    (hClock : bytes.length ≤ clock.length) :
    literalFrom escape collected clock bytes =
      .ok (collected.reverse ++ content, rest) := by
  induction hSpelled generalizing collected clock with
  | quote rest =>
      cases clock with
      | nil => simp at hClock
      | cons tick clock => simp [Json.literalFrom]
  | @escaped bytes piece after content rest hPiece hMore ih =>
      cases clock with
      | nil => simp at hClock
      | cons tick clock =>
          have hAfter := hEscape.shrinking hPiece
          rw [List.length_cons, List.length_cons] at hClock
          rw [Json.literalFrom, if_neg (by decide), if_pos rfl, hPiece]
          simp only
          rw [ih (piece.reverse ++ collected) (by omega)]
          simp
  | @plain b bytes content rest hQuote hSlash hControl hMore ih =>
      cases clock with
      | nil => simp at hClock
      | cons tick clock =>
          rw [List.length_cons, List.length_cons] at hClock
          rw [Json.literalFrom, if_neg hQuote, if_neg hSlash,
            if_neg hControl, ih (b :: collected) (by omega)]
          simp

/- Reading a string is taking what is spelled. -/
theorem literal_eq_ok_iff
    (hEscape : escape.Framed)
    {bytes content rest : List UInt8} :
    literal escape bytes = .ok (content, rest) ↔
      Spelled escape bytes content rest := by
  constructor
  · intro hRead
    rcases exists_spelled_of_literalFrom hRead with
      ⟨_, rfl, hSpelled⟩
    exact hSpelled
  · intro hSpelled
    exact hSpelled.literalFrom hEscape [] le_rfl

/- A spelling ends at its quote, whatever stands behind it. -/
theorem Spelled.exists_taken
    (hEscape : escape.Framed)
    {bytes content rest : List UInt8}
    (hSpelled : Spelled escape bytes content rest) :
    ∃ taken, taken ≠ [] ∧ bytes = taken ++ rest ∧
      ∀ other, Spelled escape (taken ++ other) content other := by
  induction hSpelled with
  | quote rest =>
      exact ⟨[byte '"'], by simp, rfl, fun other => .quote other⟩
  | @escaped bytes piece after content rest hPiece hMore ih =>
      rcases ih with ⟨taken, hTaken, rfl, hAgain⟩
      rcases hEscape hPiece with ⟨letters, rfl, hFrame⟩
      refine ⟨byte '\\' :: (letters ++ taken), by simp, by simp, ?_⟩
      intro other
      have hLetters :=
        hFrame _ (mayReplace_append_of_ne_nil hTaken rest other)
      rw [List.cons_append, List.append_assoc]
      exact .escaped hLetters (hAgain other)
  | @plain b bytes content rest hQuote hSlash hControl hMore ih =>
      rcases ih with ⟨taken, -, rfl, hAgain⟩
      exact ⟨b :: taken, by simp, rfl, fun other =>
        .plain hQuote hSlash hControl (hAgain other)⟩

end SiteSearch.Json

------------------------------------------------------------
-- Strings
------------------------------------------------------------

namespace SiteSearch.Json

/- A string is the text that its spelling stands for. -/
theorem text_eq_ok_iff
    {bytes rest : List UInt8}
    {read : String} :
    text bytes = .ok (read, rest) ↔
      ∃ content, Spelled escape bytes content rest ∧
        Bytes.text? content = some read := by
  unfold text
  cases hRead : literal escape bytes with
  | error e =>
      have hNone : ∀ content, ¬ Spelled escape bytes content rest := by
        intro content hSpelled
        rw [(literal_eq_ok_iff framed_escape).mpr hSpelled] at hRead
        cases hRead
      simp [hNone]
  | ok result =>
      rcases result with ⟨content, left⟩
      constructor
      · intro hText
        cases hContent : Bytes.text? content with
        | none => simp [hContent] at hText
        | some t =>
            simp only [hContent, Except.ok.injEq,
              Prod.mk.injEq] at hText
            rcases hText with ⟨rfl, rfl⟩
            exact ⟨content, (literal_eq_ok_iff framed_escape).mp hRead,
              hContent⟩
      · rintro ⟨other, hSpelled, hContent⟩
        rw [(literal_eq_ok_iff framed_escape).mpr hSpelled] at hRead
        cases hRead
        simp [hContent]

theorem framed_text : text.Framed := by
  intro bytes read rest hRead
  rcases text_eq_ok_iff.mp hRead with ⟨content, hSpelled, hContent⟩
  rcases hSpelled.exists_taken framed_escape with
    ⟨taken, -, rfl, hAgain⟩
  exact ⟨taken, rfl, fun other _ =>
    text_eq_ok_iff.mpr ⟨content, hAgain other, hContent⟩⟩

/- A string that nobody needs is spelled more loosely. -/
theorem skipText_eq_ok_iff
    {bytes rest : List UInt8}
    {done : Unit} :
    skipText bytes = .ok (done, rest) ↔
      ∃ content, Spelled looseEscape bytes content rest := by
  unfold skipText
  cases hRead : literal looseEscape bytes with
  | error e =>
      have hNone :
          ∀ content, ¬ Spelled looseEscape bytes content rest := by
        intro content hSpelled
        rw [(literal_eq_ok_iff framed_looseEscape).mpr hSpelled] at hRead
        cases hRead
      simp [hNone]
  | ok result =>
      rcases result with ⟨content, left⟩
      constructor
      · intro hDone
        cases hDone
        exact ⟨content, (literal_eq_ok_iff framed_looseEscape).mp hRead⟩
      · rintro ⟨other, hSpelled⟩
        rw [(literal_eq_ok_iff framed_looseEscape).mpr hSpelled] at hRead
        cases hRead
        rfl

/-
  What is spelled is spelled loosely, too.  Two surrogates are
  one escape of the first kind and two of the second.
-/
theorem Spelled.loose
    {bytes content rest : List UInt8}
    (hSpelled : Spelled escape bytes content rest) :
    ∃ loose, Spelled looseEscape bytes loose rest := by
  have hHex : ∀ {front after : List UInt8} {code : Nat},
      hexEscape front = .ok (code, after) →
        looseEscape (byte 'u' :: front) = .ok ([], after) := by
    intro front after code hCode
    rw [looseEscape_eq]
    refine escapeWith_eq_ok_iff.mpr
      ⟨_, front, rfl, Or.inl ⟨rfl, ?_⟩⟩
    exact Reader.andThen_eq_ok_iff.mpr ⟨code, after, hCode, rfl⟩
  induction hSpelled with
  | quote rest => exact ⟨[], .quote rest⟩
  | @plain b bytes content rest hQuote hSlash hControl hMore ih =>
      rcases ih with ⟨loose, hLoose⟩
      exact ⟨b :: loose, .plain hQuote hSlash hControl hLoose⟩
  | @escaped bytes piece after content rest hPiece hMore ih =>
      rcases ih with ⟨loose, hLoose⟩
      rcases escapeWith_eq_ok_iff.mp hPiece with
        ⟨b, front, rfl, ⟨rfl, hUnicode⟩ | ⟨hLetter, rfl, hSimple⟩⟩
      · rw [unicodeEscape_eq] at hUnicode
        rcases Reader.andThen_eq_ok_iff.mp hUnicode with
          ⟨code, between, hCode, hChar⟩
        unfold unicodeOf at hChar
        split_ifs at hChar with hLow hHigh
        · rcases lowSurrogate_eq_ok_iff.mp hChar with
            ⟨second, rfl, hPair⟩
          rcases Reader.andThen_eq_ok_iff.mp hPair with
            ⟨low, behind, hLowCode, hPairOf⟩
          unfold pairOf at hPairOf
          split_ifs at hPairOf
          simp only [Except.ok.injEq, Prod.mk.injEq] at hPairOf
          rcases hPairOf with ⟨-, rfl⟩
          have hSecond := Spelled.escaped (hHex hLowCode) hLoose
          exact ⟨_, .escaped (hHex hCode) hSecond⟩
        · cases hChar
          exact ⟨_, .escaped (hHex hCode) hLoose⟩
      · have hSame : looseEscape (b :: front) = .ok (piece, front) :=
          escapeWith_eq_ok_iff.mpr
            ⟨b, front, rfl, Or.inr ⟨hLetter, rfl, hSimple⟩⟩
        exact ⟨_, .escaped hSame hLoose⟩

/- Where a string can be read, it can be skipped. -/
theorem skipText_of_text
    {bytes rest : List UInt8}
    {read : String}
    (hRead : text bytes = .ok (read, rest)) :
    skipText bytes = .ok ((), rest) := by
  rcases text_eq_ok_iff.mp hRead with ⟨content, hSpelled, -⟩
  exact skipText_eq_ok_iff.mpr hSpelled.loose

theorem framed_skipText : skipText.Framed := by
  intro bytes done rest hRead
  rcases skipText_eq_ok_iff.mp hRead with ⟨content, hSpelled⟩
  rcases hSpelled.exists_taken framed_looseEscape with
    ⟨taken, -, rfl, hAgain⟩
  exact ⟨taken, rfl, fun other _ =>
    skipText_eq_ok_iff.mpr ⟨content, hAgain other⟩⟩

end SiteSearch.Json
