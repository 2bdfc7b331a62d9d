import SiteSearch.Proofs.Json.Written

/-
  Strings in quotes.

  Between its quotes a string has characters that need no
  escape, and escapes of one letter or four digits.  It stands
  for a text unless it has half a pair of surrogates.  What is
  read of a string is the text that it stands for, and every
  string can be skipped.

  Main declarations:
    * `SiteSearch.Json.IsBody`
    * `SiteSearch.Json.Spells`
    * `SiteSearch.Json.text_iff_spells`
    * `SiteSearch.Json.skipText_of_isBody`
-/

------------------------------------------------------------
-- What Stands Between Quotes
------------------------------------------------------------

namespace SiteSearch.Json

/-
  The letters behind a backslash, and the characters that
  they stand for.
-/
def letters : List (Char × Char) :=
  [('"', '"'), ('\\', '\\'), ('/', '/'), ('b', '\x08'), ('f', '\x0C'),
   ('n', '\n'), ('r', '\r'), ('t', '\t')]

/- The value of a hexadecimal digit. -/
def hexValue?
    (c : Char) :
    Option Nat :=
  if '0' ≤ c ∧ c ≤ '9' then some (c.toNat - 48)
  else if 'a' ≤ c ∧ c ≤ 'f' then some (c.toNat - 87)
  else if 'A' ≤ c ∧ c ≤ 'F' then some (c.toNat - 55)
  else none

/- Four hexadecimal digits, and the number that they write. -/
inductive IsCode :
    List Char → Nat → Prop
  | mk
      {a b c d : Char}
      {m n p q : Nat}
      (hA : hexValue? a = some m)
      (hB : hexValue? b = some n)
      (hC : hexValue? c = some p)
      (hD : hexValue? d = some q) :
      IsCode [a, b, c, d] (4096 * m + 256 * n + 16 * p + q)

/-
  What may stand between quotes: characters other than quotes,
  backslashes and controls, and escapes.
-/
inductive IsBody :
    List Char → Prop
  | nil : IsBody []
  | plain
      {c : Char}
      {chars : List Char}
      (hQuote : c ≠ '"')
      (hSlash : c ≠ '\\')
      (hControl : ¬ c < ' ')
      (hMore : IsBody chars) :
      IsBody (c :: chars)
  | letter
      {letter c : Char}
      {chars : List Char}
      (hLetter : (letter, c) ∈ letters)
      (hMore : IsBody chars) :
      IsBody ('\\' :: letter :: chars)
  | code
      {digits chars : List Char}
      {n : Nat}
      (hCode : IsCode digits n)
      (hMore : IsBody chars) :
      IsBody ('\\' :: 'u' :: (digits ++ chars))

/-
  The text that is spelled between quotes.  Two surrogates
  stand for one character, and one alone for none.
-/
inductive Spells :
    List Char → List Char → Prop
  | nil : Spells [] []
  | plain
      {c : Char}
      {chars text : List Char}
      (hQuote : c ≠ '"')
      (hSlash : c ≠ '\\')
      (hControl : ¬ c < ' ')
      (hMore : Spells chars text) :
      Spells (c :: chars) (c :: text)
  | letter
      {letter c : Char}
      {chars text : List Char}
      (hLetter : (letter, c) ∈ letters)
      (hMore : Spells chars text) :
      Spells ('\\' :: letter :: chars) (c :: text)
  | code
      {digits chars text : List Char}
      {n : Nat}
      (hCode : IsCode digits n)
      (hSingle : n < 0xD800 ∨ 0xDFFF < n)
      (hMore : Spells chars text) :
      Spells ('\\' :: 'u' :: (digits ++ chars)) (Char.ofNat n :: text)
  | pair
      {digits digits' chars text : List Char}
      {high low : Nat}
      (hCode : IsCode digits high)
      (hHigh : 0xD800 ≤ high ∧ high ≤ 0xDBFF)
      (hCode' : IsCode digits' low)
      (hLow : 0xDC00 ≤ low ∧ low ≤ 0xDFFF)
      (hMore : Spells chars text) :
      Spells
        ('\\' :: 'u' :: (digits ++ '\\' :: 'u' :: (digits' ++ chars)))
        (Char.ofNat
          (0x10000 + 1024 * (high - 0xD800) + (low - 0xDC00)) :: text)

/- A string, whether or not it stands for a text. -/
def IsQuoted
    (chars : List Char) :
    Prop :=
  ∃ body, chars = '"' :: (body ++ ['"']) ∧ IsBody body

/- A string that stands for a text. -/
def IsText
    (chars : List Char)
    (text : String) :
    Prop :=
  ∃ body, chars = '"' :: (body ++ ['"']) ∧ Spells body text.toList

/- What spells a text may stand between quotes. -/
theorem Spells.isBody
    {chars text : List Char}
    (hSpells : Spells chars text) :
    IsBody chars := by
  induction hSpells with
  | nil => exact .nil
  | plain hQuote hSlash hControl _ ih =>
      exact .plain hQuote hSlash hControl ih
  | letter hLetter _ ih => exact .letter hLetter ih
  | code hCode _ _ ih => exact .code hCode ih
  | pair hCode _ hCode' _ _ ih => exact .code hCode (.code hCode' ih)

/- Characters that need no escape spell themselves. -/
theorem spells_of_plain
    {chars : List Char}
    (hPlain : ∀ c ∈ chars, c ≠ '"' ∧ c ≠ '\\' ∧ ¬ c < ' ') :
    Spells chars chars := by
  induction chars with
  | nil => exact .nil
  | cons c chars ih =>
      rw [List.forall_mem_cons] at hPlain
      rcases hPlain with ⟨⟨hQuote, hSlash, hControl⟩, hMore⟩
      exact .plain hQuote hSlash hControl (ih hMore)

end SiteSearch.Json

------------------------------------------------------------
-- Escapes
------------------------------------------------------------

namespace SiteSearch.Json

/-
  A letter behind a backslash is one byte, and its escape is
  known.
-/
theorem escaped?_of_mem_letters
    {letter c : Char}
    (hLetter : (letter, c) ∈ letters) :
    String.utf8EncodeChar letter = [byte letter] ∧
      byte letter ≠ byte 'u' ∧ escaped? (byte letter) = some c := by
  have hAll : ∀ pair ∈ letters,
      String.utf8EncodeChar pair.1 = [byte pair.1] ∧
        byte pair.1 ≠ byte 'u' ∧
          escaped? (byte pair.1) = some pair.2 := by
    decide
  exact hAll _ hLetter

/- A hexadecimal digit is one byte, and its value is known. -/
theorem hexDigit?_of_hexValue?
    {c : Char}
    {n : Nat}
    (hValue : hexValue? c = some n) :
    String.utf8EncodeChar c = [byte c] ∧
      hexDigit? (byte c) = some n := by
  have hAscii : c.toNat < 128 := by
    unfold hexValue? at hValue
    simp only [Char.le_def, UInt32.le_iff_toNat_le] at hValue
    split_ifs at hValue with hDigit hLower hUpper
    · exact lt_of_le_of_lt hDigit.2 (by decide)
    · exact lt_of_le_of_lt hLower.2 (by decide)
    · exact lt_of_le_of_lt hUpper.2 (by decide)
  have hAll : ∀ k : Fin 128,
      String.utf8EncodeChar (Char.ofNat k.val) =
        [byte (Char.ofNat k.val)] ∧
        hexDigit? (byte (Char.ofNat k.val)) =
          hexValue? (Char.ofNat k.val) := by
    decide
  have hSame := hAll ⟨c.toNat, hAscii⟩
  rw [Char.ofNat_toNat, hValue] at hSame
  exact hSame

/- Four digits are read as the number that they write. -/
theorem IsCode.hexEscape
    {digits : List Char}
    {n : Nat}
    (hCode : IsCode digits n)
    (rest : List UInt8) :
    Json.hexEscape (charBytes digits ++ rest) = .ok (n, rest) := by
  cases hCode with
  | @mk a b c d m n p q hA hB hC hD =>
      rcases hexDigit?_of_hexValue? hA with ⟨hByteA, hValueA⟩
      rcases hexDigit?_of_hexValue? hB with ⟨hByteB, hValueB⟩
      rcases hexDigit?_of_hexValue? hC with ⟨hByteC, hValueC⟩
      rcases hexDigit?_of_hexValue? hD with ⟨hByteD, hValueD⟩
      have hBytes : charBytes [a, b, c, d] ++ rest =
          byte a :: byte b :: byte c :: byte d :: rest := by
        simp only [charBytes_cons, charBytes_nil, hByteA, hByteB,
          hByteC, hByteD]
        rfl
      rw [hBytes]
      simp only [Json.hexEscape, hValueA, hValueB, hValueC, hValueD]

end SiteSearch.Json

------------------------------------------------------------
-- Strings That Are Read
------------------------------------------------------------

namespace SiteSearch.Json

/- An escape of one letter is read. -/
theorem escapeWith_letter
    (hex : Reader (List UInt8))
    {letter c : Char}
    (hLetter : (letter, c) ∈ letters)
    (rest : List UInt8) :
    escapeWith hex (byte letter :: rest) =
      .ok (String.utf8EncodeChar c, rest) := by
  rcases escaped?_of_mem_letters hLetter with ⟨-, hOther, hEscaped⟩
  exact escapeWith_eq_ok_iff.mpr
    ⟨_, rest, rfl, Or.inr ⟨hOther, rfl, c, hEscaped, rfl⟩⟩

/- An escape of four digits is read as what these stand for. -/
theorem escape_code
    {digits : List Char}
    {n : Nat}
    (hCode : IsCode digits n)
    (rest : List UInt8) :
    escape (byte 'u' :: (charBytes digits ++ rest)) =
      unicodeOf n rest := by
  change unicodeEscape (charBytes digits ++ rest) = _
  rw [unicodeEscape_eq, Reader.andThen_of_eq_ok (hCode.hexEscape rest)]

/- Two surrogates are read as one character. -/
theorem lowSurrogate_code
    {digits : List Char}
    {low : Nat}
    (hCode : IsCode digits low)
    (high : Nat)
    (rest : List UInt8) :
    lowSurrogate high
        (byte '\\' :: byte 'u' :: (charBytes digits ++ rest)) =
      pairOf high low rest := by
  change (hexEscape (charBytes digits ++ rest) >>= _) = _
  rw [hCode.hexEscape rest]
  rfl

theorem charBytes_letter
    {letter c : Char}
    (hLetter : (letter, c) ∈ letters)
    (chars : List Char) :
    charBytes ('\\' :: letter :: chars) =
      byte '\\' :: byte letter :: charBytes chars := by
  rw [charBytes_cons, charBytes_cons,
    (escaped?_of_mem_letters hLetter).1]
  rfl

theorem charBytes_code
    (digits chars : List Char) :
    charBytes ('\\' :: 'u' :: (digits ++ chars)) =
      byte '\\' :: byte 'u' ::
        (charBytes digits ++ charBytes chars) := by
  rw [charBytes_cons, charBytes_cons, charBytes_append]
  rfl

/- What spells a text is read as that text. -/
theorem Spells.spelled
    {chars text : List Char}
    (hSpells : Spells chars text)
    (rest : List UInt8) :
    Spelled escape (charBytes chars ++ byte '"' :: rest) (charBytes text)
      rest := by
  induction hSpells with
  | nil => exact .quote rest
  | plain hQuote hSlash hControl hMore ih =>
      rw [charBytes_cons, charBytes_cons, List.append_assoc]
      exact (spelled_append_iff fun b =>
        plain_of_mem_utf8EncodeChar hQuote hSlash hControl).mpr
          ⟨_, rfl, ih⟩
  | letter hLetter hMore ih =>
      rw [charBytes_letter hLetter, charBytes_cons]
      exact .escaped (escapeWith_letter _ hLetter _) ih
  | @code digits chars text n hCode hSingle hMore ih =>
      have hEscape :=
        escape_code hCode (charBytes chars ++ byte '"' :: rest)
      rw [unicodeOf, if_neg (by omega), if_neg (by omega)] at hEscape
      rw [charBytes_code, charBytes_cons, List.cons_append,
        List.cons_append, List.append_assoc]
      exact .escaped hEscape ih
  | @pair digits digits' chars text high low hCode hHigh hCode' hLow
    hMore ih =>
      have hEscape := escape_code hCode
        (byte '\\' :: byte 'u' ::
          (charBytes digits' ++ (charBytes chars ++ byte '"' :: rest)))
      rw [unicodeOf, if_neg (by omega), if_pos hHigh,
        lowSurrogate_code hCode', pairOf, if_pos hLow] at hEscape
      rw [charBytes_code, charBytes_code, charBytes_cons]
      simp only [List.cons_append, List.append_assoc]
      exact .escaped hEscape ih

/- Whatever stands between quotes can be skipped. -/
theorem IsBody.exists_spelled
    {chars : List Char}
    (hBody : IsBody chars)
    (rest : List UInt8) :
    ∃ content, Spelled looseEscape (charBytes chars ++ byte '"' :: rest)
      content rest := by
  induction hBody with
  | nil => exact ⟨[], .quote rest⟩
  | plain hQuote hSlash hControl hMore ih =>
      rcases ih with ⟨content, hSpelled⟩
      rw [charBytes_cons, List.append_assoc]
      exact ⟨_, (spelled_append_iff fun b =>
        plain_of_mem_utf8EncodeChar hQuote hSlash hControl).mpr
          ⟨content, rfl, hSpelled⟩⟩
  | letter hLetter hMore ih =>
      rcases ih with ⟨content, hSpelled⟩
      rw [charBytes_letter hLetter]
      exact ⟨_, .escaped (escapeWith_letter _ hLetter _) hSpelled⟩
  | @code digits chars n hCode hMore ih =>
      rcases ih with ⟨content, hSpelled⟩
      have hEscape : looseEscape
          (byte 'u' :: (charBytes digits ++ (charBytes chars ++
            byte '"' :: rest))) =
          .ok ([], charBytes chars ++ byte '"' :: rest) := by
        change (hexEscape (charBytes digits ++ _) >>= _) = _
        rw [hCode.hexEscape]
        rfl
      rw [charBytes_code, List.cons_append, List.cons_append,
        List.append_assoc]
      exact ⟨_, .escaped hEscape hSpelled⟩

/-
  An escape of four digits, where one is read behind a
  backslash.
-/
theorem IsBody.exists_code_of_escape
    {chars : List Char}
    (hBody : IsBody chars)
    {front rest : List UInt8}
    (hBytes : charBytes chars ++ byte '"' :: rest =
      byte '\\' :: byte 'u' :: front) :
    ∃ digits n more, IsCode digits n ∧ IsBody more ∧
      chars = '\\' :: 'u' :: (digits ++ more) ∧
      front = charBytes digits ++ (charBytes more ++ byte '"' :: rest) := by
  cases hBody with
  | nil =>
      rw [charBytes_nil, List.nil_append, List.cons.injEq] at hBytes
      exact absurd hBytes.1 (by decide)
  | @plain c chars hQuote hSlash hControl hMore =>
      have hPlain :=
        fun b => @plain_of_mem_utf8EncodeChar c hQuote hSlash
        hControl b
      rw [charBytes_cons] at hBytes
      cases hFirst : String.utf8EncodeChar c with
      | nil => exact absurd hFirst String.utf8EncodeChar_ne_nil
      | cons b tail =>
          rw [hFirst] at hBytes hPlain
          rw [List.cons_append, List.cons_append,
            List.cons.injEq] at hBytes
          exact absurd hBytes.1 (hPlain b List.mem_cons_self).2.1
  | @letter letter c chars hLetter hMore =>
      rw [charBytes_letter hLetter, List.cons_append, List.cons_append,
        List.cons.injEq, List.cons.injEq] at hBytes
      exact absurd hBytes.2.1 (escaped?_of_mem_letters hLetter).2.1
  | @code digits more n hCode hMore =>
      rw [charBytes_code, List.cons_append, List.cons_append,
        List.append_assoc, List.cons.injEq, List.cons.injEq] at hBytes
      exact ⟨digits, n, more, hCode, hMore, rfl, hBytes.2.2.symm⟩

/-
  What is read between quotes is spelled there.  By induction
  on the length, since two surrogates are read at once.
-/
theorem IsBody.exists_spells
    {chars : List Char}
    (hBody : IsBody chars)
    {rest out left : List UInt8}
    (hSpelled :
      Spelled escape (charBytes chars ++ byte '"' :: rest) out left) :
    ∃ text, Spells chars text ∧ out = charBytes text ∧ left = rest := by
  generalize hLength : chars.length = length
  induction length using Nat.strong_induction_on
    generalizing chars out with
  | _ length ih =>
      subst hLength
      cases hBody with
      | nil =>
          cases hSpelled with
          | quote => exact ⟨[], .nil, rfl, rfl⟩
          | plain hQuote => exact absurd rfl hQuote
      | @plain c chars hQuote hSlash hControl hMore =>
          rw [charBytes_cons, List.append_assoc] at hSpelled
          rcases (spelled_append_iff fun b =>
            plain_of_mem_utf8EncodeChar hQuote hSlash
              hControl).mp hSpelled with
            ⟨content, rfl, hTail⟩
          rcases ih _ (Nat.lt_succ_self _) hMore hTail rfl with
            ⟨text, hSpells, rfl, hLeft⟩
          exact ⟨c :: text, .plain hQuote hSlash hControl hSpells,
            rfl, hLeft⟩
      | @letter letter c chars hLetter hMore =>
          rw [charBytes_letter hLetter, List.cons_append,
            List.cons_append]
            at hSpelled
          cases hSpelled with
          | plain _ hSlash => exact absurd rfl hSlash
          | escaped hEscape hTail =>
              rw [escape, escapeWith_letter _ hLetter] at hEscape
              cases hEscape
              rcases ih _ (by simp only [List.length_cons]; omega)
                hMore hTail rfl with
                ⟨text, hSpells, rfl, hLeft⟩
              exact ⟨c :: text, .letter hLetter hSpells, rfl, hLeft⟩
      | @code digits chars n hCode hMore =>
          rw [charBytes_code, List.cons_append, List.cons_append,
            List.append_assoc] at hSpelled
          cases hSpelled with
          | plain _ hSlash => exact absurd rfl hSlash
          | escaped hEscape hTail =>
              rw [escape_code hCode, unicodeOf] at hEscape
              split_ifs at hEscape with hSecond hHigh
              · rcases lowSurrogate_eq_ok_iff.mp hEscape with
                  ⟨front, hFront, hPair⟩
                rcases hMore.exists_code_of_escape hFront with
                  ⟨digits', low, more, hCode', hRest, rfl, rfl⟩
                rw [Reader.andThen_of_eq_ok (hCode'.hexEscape _),
                  pairOf]
                  at hPair
                split_ifs at hPair with hLow
                simp only [Except.ok.injEq, Prod.mk.injEq] at hPair
                rcases hPair with ⟨rfl, rfl⟩
                rcases ih _ (by simp; omega) hRest hTail rfl with
                  ⟨text, hSpells, rfl, hLeft⟩
                exact ⟨_, .pair hCode hHigh hCode' hLow hSpells,
                  rfl, hLeft⟩
              · cases hEscape
                rcases ih _ (by simp; omega) hMore hTail rfl with
                  ⟨text, hSpells, rfl, hLeft⟩
                exact ⟨_, .code hCode (by omega) hSpells, rfl, hLeft⟩

/- What is read of a string is the text that it stands for. -/
theorem text_iff_spells
    {chars : List Char}
    (hBody : IsBody chars)
    {read : String}
    {rest left : List UInt8} :
    text (charBytes chars ++ byte '"' :: rest) = .ok (read, left) ↔
      Spells chars read.toList ∧ left = rest := by
  rw [text_eq_ok_iff]
  constructor
  · rintro ⟨content, hSpelled, hText⟩
    rcases hBody.exists_spells hSpelled with ⟨text, hSpells, rfl, rfl⟩
    rw [← ofText_ofList, Bytes.text?_ofText, Option.some.injEq] at hText
    rw [← hText, String.toList_ofList]
    exact ⟨hSpells, rfl⟩
  · rintro ⟨hSpells, rfl⟩
    refine ⟨_, hSpells.spelled left, ?_⟩
    rw [← ofText_eq_charBytes]
    exact Bytes.text?_ofText read

/- A string can be skipped whatever it stands for. -/
theorem skipText_of_isBody
    {chars : List Char}
    (hBody : IsBody chars)
    (rest : List UInt8) :
    skipText (charBytes chars ++ byte '"' :: rest) = .ok ((), rest) :=
  skipText_eq_ok_iff.mpr (hBody.exists_spelled rest)

end SiteSearch.Json
