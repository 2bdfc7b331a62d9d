import SiteSearch.Json.Printer
import SiteSearch.Proofs.Json.Values

/-
  What is written is read back.

  Strings with arbitrary characters and whole numbers of 64
  bits are read back from what is written of them, and so are
  arrays and objects if their items are.

  Main declarations:
    * `SiteSearch.Json.charBytes`
    * `SiteSearch.Json.Reader.Takes`
    * `SiteSearch.Json.text_writeString`
    * `SiteSearch.Json.takes_string`
    * `SiteSearch.Json.takes_whole`
    * `SiteSearch.Json.takes_negative`
    * `SiteSearch.Json.takes_object`
-/

------------------------------------------------------------
-- Bytes of Characters
------------------------------------------------------------

namespace SiteSearch.Json

/- The bytes that some characters are written with. -/
def charBytes
    (chars : List Char) :
    List UInt8 :=
  chars.flatMap String.utf8EncodeChar

@[simp] theorem charBytes_nil : charBytes [] = [] := rfl

@[simp] theorem charBytes_cons
    (c : Char)
    (chars : List Char) :
    charBytes (c :: chars) =
      String.utf8EncodeChar c ++ charBytes chars := rfl

@[simp] theorem charBytes_append
    (chars others : List Char) :
    charBytes (chars ++ others) = charBytes chars ++ charBytes others :=
  List.flatMap_append

/- A text is written with the bytes of its characters. -/
theorem ofText_ofList
    (chars : List Char) :
    Bytes.ofText (String.ofList chars) = charBytes chars := by
  rw [Bytes.ofText, String.toByteArray_ofList, List.utf8Encode,
    charBytes]
  simp

theorem ofText_eq_charBytes
    (text : String) :
    Bytes.ofText text = charBytes text.toList := by
  rw [← ofText_ofList, String.ofList_toList]

/-
  Between two ASCII characters the bytes are those of what
  stands there.
-/
theorem charBytes_between
    {opening closing : Char}
    (hOpening : String.utf8EncodeChar opening = [byte opening])
    (hClosing : String.utf8EncodeChar closing = [byte closing])
    (chars : List Char)
    (rest : List UInt8) :
    charBytes (opening :: (chars ++ [closing])) ++ rest =
      byte opening :: (charBytes chars ++ byte closing :: rest) := by
  simp only [charBytes_cons, charBytes_append, charBytes_nil, hOpening,
    hClosing, List.append_nil, List.append_assoc, List.cons_append,
    List.nil_append]

/-
  The bytes of a character are its own code, or lie above
  the ASCII range.
-/
theorem eq_or_le_of_mem_utf8EncodeChar
    {c : Char}
    {b : UInt8}
    (hMember : b ∈ String.utf8EncodeChar c) :
    b.toNat = c.toNat ∨ 0x80 ≤ b.toNat := by
  have hCode : c.toNat = c.val.toNat := rfl
  unfold String.utf8EncodeChar at hMember
  dsimp only at hMember
  split_ifs at hMember <;>
    simp only [List.mem_cons, List.not_mem_nil, or_false] at hMember
  · left
    rw [hMember, UInt8.toNat_ofNat']
    omega
  · right
    rcases hMember with rfl | rfl <;> rw [UInt8.toNat_ofNat'] <;> omega
  · right
    rcases hMember with rfl | rfl | rfl <;>
      rw [UInt8.toNat_ofNat'] <;> omega
  · right
    rcases hMember with rfl | rfl | rfl | rfl <;>
      rw [UInt8.toNat_ofNat'] <;> omega

end SiteSearch.Json

------------------------------------------------------------
-- Readers and What They Take
------------------------------------------------------------

namespace SiteSearch.Json

/-
  A reader takes these bytes as they stand, and makes this of
  them, unless a number is continued behind them.
-/
def Reader.Takes
    {α : Type}
    (reader : Reader α)
    (taken : List UInt8)
    (a : α) :
    Prop :=
  ∀ rest : List UInt8, (∀ b ∈ rest.head?, isNumeric b = false) →
    reader (taken ++ rest) = .ok (a, rest)

end SiteSearch.Json

------------------------------------------------------------
-- Strings
------------------------------------------------------------

namespace SiteSearch.Json

/- A digit is written as one byte, and read as its value. -/
theorem exists_hexDigit
    {n : Nat}
    (hDigit : n < 16) :
    ∃ b, String.utf8EncodeChar (Nat.digitChar n) = [b] ∧
      hexDigit? b = some n := by
  have hAll : ∀ n : Fin 16,
      (String.utf8EncodeChar (Nat.digitChar n)).map hexDigit? =
        [some n.val] := by
    decide
  rcases List.map_eq_singleton_iff.mp (hAll ⟨n, hDigit⟩) with
    ⟨b, hb, hValue⟩
  exact ⟨b, hb, hValue⟩

/- A control is written with the digits of its code. -/
theorem escape_hexControl
    {c : Char}
    (hControl : c < ' ')
    (rest : List UInt8) :
    escape (charBytes (hexControl c).tail ++ rest) =
      .ok (String.utf8EncodeChar c, rest) := by
  have hCode : c.toNat < 32 := hControl
  rcases exists_hexDigit (show c.toNat / 16 < 16 by omega) with
    ⟨high, hHigh, hHighValue⟩
  rcases exists_hexDigit (show c.toNat % 16 < 16 by omega) with
    ⟨low, hLow, hLowValue⟩
  have hBytes : charBytes (hexControl c).tail ++ rest =
      byte 'u' :: byte '0' :: byte '0' :: high :: low :: rest := by
    simp only [hexControl, List.tail_cons, charBytes_cons,
      charBytes_nil, hHigh, hLow]
    rfl
  have hZero : hexDigit? (byte '0') = some 0 := by decide
  have hHex : hexEscape (byte '0' :: byte '0' :: high :: low :: rest) =
      .ok (c.toNat, rest) := by
    simp only [hexEscape, hZero, hHighValue, hLowValue, Except.ok.injEq,
      Prod.mk.injEq, and_true]
    omega
  rw [hBytes]
  refine escapeWith_eq_ok_iff.mpr ⟨_, _, rfl, Or.inl ⟨rfl, ?_⟩⟩
  rw [unicodeEscape_eq, Reader.andThen_of_eq_ok hHex, unicodeOf,
    if_neg (by omega), if_neg (by omega), codePoint, Char.ofNat_toNat]

/- Plain bytes are spelled as they are. -/
theorem spelled_append_iff
    {escape : Reader (List UInt8)}
    {plain : List UInt8}
    (hPlain : ∀ b ∈ plain, b ≠ byte '"' ∧ b ≠ byte '\\' ∧ ¬ b < 0x20)
    {bytes out rest : List UInt8} :
    Spelled escape (plain ++ bytes) out rest ↔
      ∃ content, out = plain ++ content ∧
        Spelled escape bytes content rest := by
  induction plain generalizing out with
  | nil => simp
  | cons b plain ih =>
      have hRest :=
        fun c hMember => hPlain c (List.mem_cons_of_mem b hMember)
      rcases hPlain b List.mem_cons_self with ⟨hQuote, hSlash, hControl⟩
      constructor
      · intro hSpelled
        cases hSpelled with
        | quote rest => exact absurd rfl hQuote
        | escaped hEscape hMore => exact absurd rfl hSlash
        | plain _ _ _ hMore =>
            rcases (ih hRest).mp hMore with ⟨content, rfl, hSpelled⟩
            exact ⟨content, rfl, hSpelled⟩
      · rintro ⟨content, rfl, hSpelled⟩
        exact .plain hQuote hSlash hControl
          ((ih hRest).mpr ⟨content, rfl, hSpelled⟩)

/- The bytes of a character that needs no escape are plain. -/
theorem plain_of_mem_utf8EncodeChar
    {c : Char}
    (hQuote : c ≠ '"')
    (hSlash : c ≠ '\\')
    (hControl : ¬ c < ' ')
    {b : UInt8}
    (hMember : b ∈ String.utf8EncodeChar c) :
    b ≠ byte '"' ∧ b ≠ byte '\\' ∧ ¬ b < 0x20 := by
  have hCode : 32 ≤ c.toNat := not_lt.mp hControl
  have hCases := eq_or_le_of_mem_utf8EncodeChar hMember
  refine ⟨?_, ?_, ?_⟩
  · rintro rfl
    rcases hCases with hSame | hLarge
    · exact hQuote (Char.toNat_inj.mp hSame.symm)
    · exact absurd hLarge (by decide)
  · rintro rfl
    rcases hCases with hSame | hLarge
    · exact hSlash (Char.toNat_inj.mp hSame.symm)
    · exact absurd hLarge (by decide)
  · intro hLess
    have hSmall : b.toNat < 32 := hLess
    omega

/- A character is written as its own bytes, or escaped. -/
theorem spelled_writeChar
    (c : Char)
    {bytes content rest : List UInt8}
    (hMore : Spelled escape bytes content rest) :
    Spelled escape (charBytes (writeChar c) ++ bytes)
      (String.utf8EncodeChar c ++ content) rest := by
  unfold writeChar
  split_ifs with hQuote hSlash hBack hFeed hLine hReturn hTab hControl
  · subst hQuote
    exact .escaped (by rfl) hMore
  · subst hSlash
    exact .escaped (by rfl) hMore
  · subst hBack
    exact .escaped (by rfl) hMore
  · subst hFeed
    exact .escaped (by rfl) hMore
  · subst hLine
    exact .escaped (by rfl) hMore
  · subst hReturn
    exact .escaped (by rfl) hMore
  · subst hTab
    exact .escaped (by rfl) hMore
  · exact .escaped (escape_hexControl hControl bytes) hMore
  · rw [charBytes_cons, charBytes_nil, List.append_nil]
    exact (spelled_append_iff fun b =>
      plain_of_mem_utf8EncodeChar hQuote hSlash hControl).mpr
        ⟨_, rfl, hMore⟩

/- A string is read back from what is written of it. -/
theorem text_writeString
    (written : String)
    (rest : List UInt8) :
    text (charBytes (writeString written).tail ++ rest) =
      .ok (written, rest) := by
  have hSpelled : ∀ chars : List Char,
      Spelled escape
        (charBytes (chars.flatMap writeChar) ++ byte '"' :: rest)
        (charBytes chars) rest := by
    intro chars
    induction chars with
    | nil => exact .quote rest
    | cons c chars ih =>
        rw [List.flatMap_cons, charBytes_append, List.append_assoc]
        exact spelled_writeChar c ih
  have hBytes : charBytes (writeString written).tail ++ rest =
      charBytes (written.toList.flatMap writeChar) ++ byte '"' :: rest := by
    rw [writeString, List.tail_cons, charBytes_append,
      List.append_assoc]
    rfl
  rw [hBytes]
  refine text_eq_ok_iff.mpr ⟨_, hSpelled written.toList, ?_⟩
  rw [← ofText_eq_charBytes]
  exact Bytes.text?_ofText written

end SiteSearch.Json

------------------------------------------------------------
-- Numbers
------------------------------------------------------------

namespace SiteSearch.Json

/- A reader takes what it takes without anything behind it. -/
theorem Reader.Framed.takes
    {α : Type}
    {reader : Reader α}
    (hFramed : reader.Framed)
    {taken : List UInt8}
    {a : α}
    (hRead : reader taken = .ok (a, [])) :
    reader.Takes taken a := by
  intro rest hRest
  rcases hFramed hRead with ⟨_, hTaken, hFrame⟩
  rw [List.append_nil] at hTaken
  rw [hTaken]
  exact hFrame rest (Or.inr hRest)

/- The digits of a number, as they are written. -/
def decimal
    (n : Nat) :
    List UInt8 :=
  (Nat.toDigits 10 n).map fun c => byte c

/- A decimal digit has the code of its byte. -/
theorem toNat_byte_of_isDigit
    {c : Char}
    (hDigit : c.isDigit = true) :
    (byte c).toNat = c.toNat ∧ 48 ≤ c.toNat ∧ c.toNat ≤ 57 := by
  have hBounds : 48 ≤ c.toNat ∧ c.toNat ≤ 57 := by
    simpa [Char.isDigit, UInt32.le_iff_toNat_le] using hDigit
  refine ⟨?_, hBounds⟩
  change (UInt8.ofNat c.toNat).toNat = c.toNat
  rw [UInt8.toNat_ofNat']
  omega

/- A decimal digit is written as one byte. -/
theorem charBytes_digits
    {chars : List Char}
    (hDigits : ∀ c ∈ chars, c.isDigit = true) :
    charBytes chars = chars.map fun c => byte c := by
  induction chars with
  | nil => rfl
  | cons c chars ih =>
      have hBounds :=
        toNat_byte_of_isDigit (hDigits c List.mem_cons_self)
      have hOne : String.utf8EncodeChar c = [byte c] := by
        have hAscii : c.val.toNat ≤ 127 := by
          change c.toNat ≤ 127
          omega
        rw [String.utf8EncodeChar]
        exact if_pos hAscii
      rw [charBytes_cons, hOne, List.map_cons,
        ih fun d hMember => hDigits d (List.mem_cons_of_mem _ hMember)]
      rfl

theorem isDigit_of_mem_toDigits
    {n : Nat}
    {c : Char}
    (hMember : c ∈ Nat.toDigits 10 n) :
    c.isDigit = true :=
  Nat.isDigit_of_mem_toDigits (by decide) (by decide) hMember

/- A number is written with its decimal digits. -/
theorem charBytes_toString
    (n : Nat) :
    charBytes (toString n).toList = decimal n := by
  rw [Nat.toString_eq_ofList_toDigits, String.toList_ofList,
    charBytes_digits fun c => isDigit_of_mem_toDigits, decimal]

theorem isDigit_of_mem_decimal
    {n : Nat}
    {b : UInt8}
    (hMember : b ∈ decimal n) :
    isDigit b = true := by
  rcases List.mem_map.mp hMember with ⟨c, hc, rfl⟩
  have hBounds := toNat_byte_of_isDigit (isDigit_of_mem_toDigits hc)
  simp only [isDigit, Bool.and_eq_true, decide_eq_true_eq,
    UInt8.le_iff_toNat_le, hBounds.1]
  exact hBounds.2

/- Only zero begins with a zero. -/
theorem exists_decimal_of_ne_zero
    {n : Nat}
    (hPositive : n ≠ 0) :
    ∃ b ds, decimal n = b :: ds ∧ b ≠ byte '0' := by
  induction n using Nat.strong_induction_on with
  | _ n ih =>
      rw [decimal, Nat.toDigits_eq_if (by decide)]
      by_cases hDigit : n < 10
      · rw [if_pos hDigit]
        have hAll : ∀ k : Fin 10, k.val ≠ 0 →
            byte (Nat.digitChar k.val) ≠ byte '0' := by
          decide
        exact ⟨_, [], rfl, hAll ⟨n, hDigit⟩ hPositive⟩
      · rw [if_neg hDigit]
        rcases ih (n / 10) (by omega) (by omega) with ⟨b, ds, hMore, hb⟩
        rw [decimal] at hMore
        refine ⟨b, ds ++ [byte (n % 10).digitChar], ?_, hb⟩
        rw [List.map_append, hMore]
        rfl

/- Digits are absorbed as long as their number fits. -/
theorem absorb_of_lt
    {ds : List UInt8}
    {start : Nat}
    (hFits : ds.foldl (fun n d => 10 * n + (d.toNat - 48)) start <
      UInt64.size) :
    absorb start ds =
      (ds.foldl (fun n d => 10 * n + (d.toNat - 48)) start, []) := by
  have hGrows : ∀ (ds : List UInt8) (start : Nat),
      start ≤ ds.foldl (fun n d => 10 * n + (d.toNat - 48)) start := by
    intro ds
    induction ds with
    | nil => exact fun start => le_rfl
    | cons d ds ih =>
        intro start
        have hNext := ih (10 * start + (d.toNat - 48))
        rw [List.foldl_cons]
        omega
  induction ds generalizing start with
  | nil => rfl
  | cons d ds ih =>
      rw [List.foldl_cons] at hFits ⊢
      have hNext := hGrows ds (10 * start + (d.toNat - 48))
      rw [absorb, if_pos (by omega), ih hFits]

/- The digits of a number write the number. -/
theorem natOfDigits_decimal
    (n : Nat) :
    natOfDigits (decimal n) = n := by
  rw [natOfDigits, decimal, List.foldl_map]
  refine Eq.trans ?_ Nat.ofDigitChars_ten_toDigits
  apply List.foldl_ext
  intro sofar c hMember
  rw [(toNat_byte_of_isDigit (isDigit_of_mem_toDigits hMember)).1]
  rfl

/-
  The digits of a number that fits are absorbed up to the
  number.
-/
theorem absorb_decimal
    {n : Nat}
    (hFits : n < UInt64.size) :
    absorb 0 (decimal n) = (n, []) := by
  have hValue :
      (decimal n).foldl (fun n d => 10 * n + (d.toNat - 48)) 0 = n :=
    natOfDigits_decimal n
  rw [absorb_of_lt (by rw [hValue]; exact hFits), hValue]

/- The digits of a number are whole digits. -/
theorem wholeDigits_decimal
    (atEnd : Error)
    (n : Nat) :
    wholeDigits atEnd (decimal n) = .ok (decimal n, []) := by
  by_cases hZero : n = 0
  · subst hZero
    rfl
  · have hAll := fun b => @isDigit_of_mem_decimal n b
    rcases exists_decimal_of_ne_zero hZero with ⟨b, ds, hDecimal, hb⟩
    rw [hDecimal] at hAll ⊢
    unfold wholeDigits
    dsimp only
    rw [if_neg hb, digits, if_pos (hAll b List.mem_cons_self),
      List.takeWhile_eq_self_iff.mpr hAll,
      List.dropWhile_eq_nil_iff.mpr hAll]

/-
  What the digits of a number are read as, with a minus or
  without.
-/
def wholeNumeral
    (negative : Bool)
    (n : Nat) :
    Numeral where
  negative := negative
  whole := decimal n
  fraction := []
  power := 0
  isWhole := true

theorem unsignedNumeral_decimal
    (atEnd : Error)
    (negative : Bool)
    (n : Nat) :
    unsignedNumeral atEnd negative (decimal n) =
      .ok (wholeNumeral negative n, []) := by
  rw [unsignedNumeral,
    Reader.andThen_of_eq_ok (wholeDigits_decimal atEnd n)]
  rfl

/- A number that fits is the value of its digits. -/
theorem value_wholeNumeral
    {n : Nat}
    (hFits : n < UInt64.size) :
    (wholeNumeral false n).value = .ok (.whole n.toUInt64) := by
  unfold Numeral.value wholeNumeral
  rw [absorb_decimal hFits]
  rfl

/- With a minus it is negative. -/
theorem value_wholeNumeral_negative
    {n : Nat}
    (hPositive : 0 < n)
    (hFits : n ≤ UInt64.size / 2) :
    (wholeNumeral true n).value =
      .ok (.negative (Int64.ofInt (-n))) := by
  unfold Numeral.value wholeNumeral
  rw [absorb_decimal (by omega)]
  simp [hPositive, hFits]

/- A whole number is written with its digits. -/
theorem charBytes_whole
    (value : UInt64) :
    charBytes (writeNumber (.whole value)) = decimal value.toNat :=
  charBytes_toString value.toNat

/- A negative one is written with a minus and its digits. -/
theorem charBytes_negative
    {value : Int64}
    (hNegative : value < 0) :
    charBytes (writeNumber (.negative value)) =
      byte '-' :: decimal value.toInt.natAbs := by
  have hInt : value.toInt < 0 := Int64.lt_iff_toInt_lt.mp hNegative
  have hText : (toString value).toList =
      '-' :: (toString value.toInt.natAbs).toList := by
    change (toString value.toInt).toList = _
    cases hValue : value.toInt with
    | ofNat n =>
        rw [hValue] at hInt
        exact absurd hInt (Int.not_lt.mpr (Int.natCast_nonneg n))
    | negSucc n =>
        change ("-" ++ (n + 1).repr).toList = '-' :: (n + 1).repr.toList
        rw [String.toList_append]
        rfl
  rw [writeNumber, hText, charBytes_cons, charBytes_toString]
  rfl

/- A whole number is read back from its digits. -/
theorem readNumber_decimal
    (value : UInt64) :
    readNumber (decimal value.toNat) = .ok (.whole value, []) := by
  have hMinus : minus (decimal value.toNat) =
      .ok (false, decimal value.toNat) := by
    have hAll := fun b => @isDigit_of_mem_decimal value.toNat b
    cases hDecimal : decimal value.toNat with
    | nil => rfl
    | cons b ds =>
        rw [hDecimal] at hAll
        have hDigit := hAll b List.mem_cons_self
        rw [minus, if_neg]
        rintro rfl
        exact absurd hDigit (by decide)
  have hNumeral : numeral .endInValue (decimal value.toNat) =
      .ok (wholeNumeral false value.toNat, []) := by
    rw [numeral_eq, Reader.andThen_of_eq_ok hMinus,
      unsignedNumeral_decimal]
  rw [readNumber_eq, Reader.andThen_of_eq_ok hNumeral, valued,
    value_wholeNumeral value.toNat_lt]
  change Except.ok (Number.whole (UInt64.ofNat value.toNat), _) = _
  rw [UInt64.ofNat_toNat]

/- A negative one is read back from its minus and its digits. -/
theorem readNumber_minus_decimal
    {value : Int64}
    (hNegative : value < 0) :
    readNumber (byte '-' :: decimal value.toInt.natAbs) =
      .ok (.negative value, []) := by
  have hInt : value.toInt < 0 := Int64.lt_iff_toInt_lt.mp hNegative
  have hLeast := value.le_toInt
  have hMinus : minus (byte '-' :: decimal value.toInt.natAbs) =
      .ok (true, decimal value.toInt.natAbs) := rfl
  have hNumeral :
      numeral .endInValue (byte '-' :: decimal value.toInt.natAbs) =
        .ok (wholeNumeral true value.toInt.natAbs, []) := by
    rw [numeral_eq, Reader.andThen_of_eq_ok hMinus,
      unsignedNumeral_decimal]
  rw [readNumber_eq, Reader.andThen_of_eq_ok hNumeral, valued,
    value_wholeNumeral_negative (by omega)
      (by simp [UInt64.size]; omega)]
  have hSame : (-(value.toInt.natAbs : Int)) = value.toInt := by omega
  rw [hSame, Int64.ofInt_toInt]
  rfl

end SiteSearch.Json

------------------------------------------------------------
-- Leaves
------------------------------------------------------------

namespace SiteSearch.Json

/- A value begins with its first byte if that is no space. -/
theorem value_eq_behind
    (depth : Nat)
    {b : UInt8}
    (hSpace : isSpace b = false)
    (front : List UInt8) :
    value depth (b :: front) = (formsAt depth).behind b front := by
  rw [value_eq, anyForm_cons _ hSpace]

/- The word for null is read back. -/
theorem takes_null
    (depth : Nat) :
    (value depth).Takes (charBytes (compactChars .null)) .null := by
  intro rest _
  change value depth
    (byte 'n' :: byte 'u' :: byte 'l' :: byte 'l' :: rest) = _
  rw [value_eq_behind depth (by decide)]
  cases depth <;> rfl

/- A string is read back from what is written of it. -/
theorem takes_string
    (depth : Nat)
    (written : String) :
    (value depth).Takes (charBytes (compactChars (.string written)))
      (.string written) := by
  intro rest _
  have hText := text_writeString written rest
  change value depth
    (byte '"' :: (charBytes (writeString written).tail ++ rest)) = _
  rw [value_eq_behind depth (by decide)]
  have hString : (formsAt depth).string = Reader.map .string text := by
    cases depth <;> rfl
  change (formsAt depth).string
    (charBytes (writeString written).tail ++ rest) = _
  rw [hString]
  exact Reader.map_eq_ok_iff.mpr ⟨written, hText, rfl⟩

/- A number is a value if it begins with a digit or a minus. -/
theorem takes_number
    (depth : Nat)
    {n : Json.Number}
    {b : UInt8}
    {front : List UInt8}
    (hFirst : b = byte '-' ∨ isDigit b = true)
    (hRead : readNumber (b :: front) = .ok (n, [])) :
    (value depth).Takes (b :: front) (.number n) := by
  intro rest hRest
  rcases (formsAt depth).behind_of_number hFirst (front ++ rest) with
    ⟨hSpace, hBehind⟩
  have hNumber :
      (formsAt depth).number = Reader.map .number readNumber := by
    cases depth <;> rfl
  rw [List.cons_append, value_eq_behind depth hSpace, hBehind, hNumber]
  exact Reader.map_eq_ok_iff.mpr
    ⟨n, framed_readNumber.takes hRead rest hRest, rfl⟩

/- A whole number is read back from what is written of it. -/
theorem takes_whole
    (depth : Nat)
    (n : UInt64) :
    (value depth).Takes (charBytes (compactChars (.number (.whole n))))
      (.number (.whole n)) := by
  have hRead := readNumber_decimal n
  have hAll := fun b => @isDigit_of_mem_decimal n.toNat b
  rw [compactChars, charBytes_whole]
  cases hDecimal : decimal n.toNat with
  | nil =>
      rw [hDecimal] at hRead
      cases hRead
  | cons b ds =>
      rw [hDecimal] at hRead hAll
      exact takes_number depth (Or.inr (hAll b List.mem_cons_self))
        hRead

/- So is a negative one. -/
theorem takes_negative
    (depth : Nat)
    {n : Int64}
    (hNegative : n < 0) :
    (value depth).Takes
      (charBytes (compactChars (.number (.negative n))))
      (.number (.negative n)) := by
  rw [compactChars, charBytes_negative hNegative]
  exact takes_number depth (Or.inl rfl)
    (readNumber_minus_decimal hNegative)

end SiteSearch.Json

------------------------------------------------------------
-- Arrays and Objects
------------------------------------------------------------

namespace SiteSearch.Json

/-
  What is written of an item: a reader takes it, and it begins
  with a byte that neither is space nor closes the list.
-/
structure IsItem
    {α : Type}
    (close : UInt8)
    (item : Reader α)
    (piece : List Char)
    (a : α) :
    Prop where
  takes : item.Takes (charBytes piece) a
  begins : ∃ b tail, charBytes piece = b :: tail ∧
    isSpace b = false ∧ b ≠ close

/- Characters that are nothing but space. -/
def IsGap
    (gap : List Char) :
    Prop :=
  ∀ b ∈ charBytes gap, isSpace b = true

theorem isGap_nil : IsGap [] := nofun

/- Space continues no number. -/
theorem isNumeric_of_isSpace
    {b : UInt8}
    (hSpace : isSpace b = true) :
    isNumeric b = false := by
  simp only [isSpace, Bool.or_eq_true, beq_iff_eq] at hSpace
  rcases hSpace with ((rfl | rfl) | rfl) | rfl <;> decide

/- Space in front of a byte does not matter. -/
theorem IsGap.skipSpace
    {gap : List Char}
    (hGap : IsGap gap)
    {b : UInt8}
    (hFirst : isSpace b = false)
    (rest : List UInt8) :
    Json.skipSpace (charBytes gap ++ b :: rest) = b :: rest := by
  rw [skipSpace_behind_space hGap, skipSpace_cons hFirst]

/-
  Space in front does not keep a reader of values from its
  value.
-/
theorem anyForm_takes_behind_gap
    {α : Type}
    {forms : Forms α}
    {gap chars : List Char}
    (hGap : IsGap gap)
    {a : α}
    (hTakes : (anyForm forms).Takes (charBytes chars) a) :
    (anyForm forms).Takes (charBytes (gap ++ chars)) a := by
  intro rest hRest
  rw [charBytes_append, List.append_assoc, ← anyForm_skipSpace,
    skipSpace_behind_space hGap, anyForm_skipSpace]
  exact hTakes rest hRest

/- So it is with generic values. -/
theorem value_takes_behind_gap
    {depth : Nat}
    {gap chars : List Char}
    (hGap : IsGap gap)
    {v : Json}
    (hTakes : (value depth).Takes (charBytes chars) v) :
    (value depth).Takes (charBytes (gap ++ chars)) v := by
  rw [value_eq] at hTakes ⊢
  exact anyForm_takes_behind_gap hGap hTakes

/-
  Behind the first piece each further one stands behind a
  separator.
-/
theorem intercalate_cons
    (separator piece : List Char)
    (pieces : List (List Char)) :
    separator.intercalate (piece :: pieces) =
      piece ++ pieces.flatMap (separator ++ ·) := by
  induction pieces generalizing piece with
  | nil => simp
  | cons next pieces ih =>
      rw [List.intercalate_cons_cons, ih, List.flatMap_cons]
      simp

/-
  Pieces with commas between them, and space around and
  between them.
-/
def spaced
    (gap last : List Char)
    (pieces : List (List Char)) :
    List Char :=
  gap ++ (',' :: gap).intercalate pieces ++ last

/- Without space only the commas are left. -/
theorem spaced_nil_nil
    (pieces : List (List Char)) :
    spaced [] [] pieces = [','].intercalate pieces :=
  List.append_nil _

/- An item with the space around it. -/
structure Padded where
  before : List Char
  chars : List Char
  after : List Char

/- An item as it stands between commas. -/
def Padded.all
    (padded : Padded) :
    List Char :=
  padded.before ++ (padded.chars ++ padded.after)

/- Items with commas between them, and space behind the last. -/
def joined
    (last : List Char) :
    List Padded → List Char
  | [] => last
  | first :: others =>
      first.all ++ (others.flatMap (',' :: ·.all) ++ last)

/-
  What is written of an item, with nothing but space around
  it.
-/
structure IsPadded
    {α : Type}
    (close : UInt8)
    (item : Reader α)
    (padded : Padded)
    (a : α) :
    Prop where
  before : IsGap padded.before
  item : IsItem close item padded.chars a
  after : IsGap padded.after

/- Space in front of what continues no number continues none. -/
theorem IsGap.head
    {gap : List Char}
    (hGap : IsGap gap)
    {rest : List UInt8}
    (hRest : ∀ b ∈ rest.head?, isNumeric b = false) :
    ∀ b ∈ (charBytes gap ++ rest).head?, isNumeric b = false := by
  cases hBytes : charBytes gap with
  | nil => exact hRest
  | cons c more =>
      rintro b ⟨⟩
      exact isNumeric_of_isSpace (hGap _ (hBytes ▸ List.mem_cons_self))

section

variable {α : Type}
variable {close : UInt8}
variable {item : Reader α}
variable {gap last : List Char}
variable {pieces : List (List Char)}
variable {all : List Padded}
variable {items : List α}

/-
  Behind an item, each further one is listed behind its comma,
  and what comes next continues no number.
-/
theorem listed_behind_comma
    (hLast : IsGap last)
    (hSpace : isSpace close = false)
    (hNumeric : isNumeric close = false)
    (hItems : List.Forall₂ (IsPadded close item) all items)
    (rest : List UInt8) :
    Listed close item false
        (charBytes (all.flatMap (',' :: ·.all)) ++
          (charBytes last ++ close :: rest)) items rest ∧
      ∀ b ∈ (charBytes (all.flatMap (',' :: ·.all)) ++
          (charBytes last ++ close :: rest)).head?,
        isNumeric b = false := by
  induction hItems with
  | nil =>
      refine ⟨.close (hLast.skipSpace hSpace rest), hLast.head ?_⟩
      rintro b ⟨⟩
      exact hNumeric
  | @cons padded a all items hItem hRest ih =>
      rcases hItem.item.begins with ⟨b, tail, hPiece, hFirst, hClose⟩
      have hBytes :
          charBytes ((padded :: all).flatMap (',' :: ·.all)) ++
              (charBytes last ++ close :: rest) =
            byte ',' ::
              (charBytes padded.before ++ (charBytes padded.chars ++
              (charBytes padded.after ++
                (charBytes (all.flatMap (',' :: ·.all)) ++
                  (charBytes last ++ close :: rest))))) := by
        rw [List.flatMap_cons, Padded.all]
        simp only [charBytes_append, charBytes_cons, List.append_assoc]
        rfl
      have hRead := hItem.item.takes _ (hItem.after.head ih.2)
      rw [hPiece] at hRead hBytes
      rw [hBytes]
      refine ⟨.item (.next (skipSpace_cons (by decide) _)
        (hItem.before.skipSpace hFirst _) hClose) hRead
          (ih.1.behind_space hItem.after), ?_⟩
      rintro b ⟨⟩
      decide

/-
  Items with commas between them are listed as they were
  written.
-/
theorem listed_joined
    (hLast : IsGap last)
    (hSpace : isSpace close = false)
    (hNumeric : isNumeric close = false)
    (hItems : List.Forall₂ (IsPadded close item) all items)
    (rest : List UInt8) :
    Listed close item true
      (charBytes (joined last all) ++ close :: rest) items rest := by
  cases hItems with
  | nil => exact .close (hLast.skipSpace hSpace rest)
  | @cons padded a all items hItem hRest =>
      rcases hItem.item.begins with ⟨b, tail, hPiece, hFirst, hClose⟩
      rcases listed_behind_comma hLast hSpace hNumeric hRest rest with
        ⟨hMore, hNext⟩
      have hBytes :
          charBytes (joined last (padded :: all)) ++ close :: rest =
            charBytes padded.before ++ (charBytes padded.chars ++
              (charBytes padded.after ++
                (charBytes (all.flatMap (',' :: ·.all)) ++
                  (charBytes last ++ close :: rest)))) := by
        rw [joined, Padded.all]
        simp only [charBytes_append, List.append_assoc]
      have hRead := hItem.item.takes _ (hItem.after.head hNext)
      rw [hPiece] at hRead hBytes
      rw [hBytes]
      exact .item (.first (hItem.before.skipSpace hFirst _) hClose)
        hRead
        (hMore.behind_space hItem.after)

/- So they are if the space is the same in front of each. -/
theorem listed_spaced
    (hGap : IsGap gap)
    (hLast : IsGap last)
    (hSpace : isSpace close = false)
    (hNumeric : isNumeric close = false)
    (hItems : List.Forall₂ (IsItem close item) pieces items)
    (rest : List UInt8) :
    Listed close item true
      (charBytes (spaced gap last pieces) ++ close :: rest) items
        rest := by
  cases hItems with
  | nil =>
      rw [spaced, List.intercalate_nil, List.append_nil,
        charBytes_append, List.append_assoc]
      exact Listed.behind_space hGap
        (.close (hLast.skipSpace hSpace rest))
  | @cons piece a pieces items hItem hRest =>
      have hAll : List.Forall₂ (IsPadded close item)
          ((piece :: pieces).map fun piece => ⟨gap, piece, []⟩)
          (a :: items) := by
        rw [List.forall₂_map_left_iff]
        exact (List.Forall₂.cons hItem hRest).imp fun _ _ hEach =>
          ⟨hGap, hEach, isGap_nil⟩
      have hSame : spaced gap last (piece :: pieces) =
          joined last ((piece :: pieces).map fun piece =>
            ⟨gap, piece, []⟩) := by
        rw [spaced, intercalate_cons, List.map_cons, joined,
          List.flatMap_map]
        simp [Padded.all]
      rw [hSame]
      exact listed_joined hLast hSpace hNumeric hAll rest

/- So they are without space. -/
theorem listed_of_isItem
    (hSpace : isSpace close = false)
    (hNumeric : isNumeric close = false)
    (hItems : List.Forall₂ (IsItem close item) pieces items)
    (rest : List UInt8) :
    Listed close item true
      (charBytes ([','].intercalate pieces) ++ close :: rest) items
        rest := by
  rw [← spaced_nil_nil]
  exact listed_spaced isGap_nil isGap_nil hSpace hNumeric hItems rest

end

/- A member as it is written. -/
def memberChars
    (key : String)
    (chars : List Char) :
    List Char :=
  writeString key ++ ':' :: chars

/- A member is read back if its value is. -/
theorem isItem_member
    {depth : Nat}
    {chars : List Char}
    {v : Json}
    (hTakes : (value depth).Takes (charBytes chars) v)
    (key : String) :
    IsItem (byte '}') (quoted (keyed (value depth)))
      (memberChars key chars)
      (key, v) where
  takes := by
    intro rest hRest
    have hBytes : charBytes (memberChars key chars) ++ rest =
        byte '"' :: (charBytes (writeString key).tail ++
          (byte ':' :: (charBytes chars ++ rest))) := by
      rw [memberChars, charBytes_append, charBytes_cons,
        List.append_assoc, List.append_assoc]
      rfl
    have hColon : colon (byte ':' :: (charBytes chars ++ rest)) =
        .ok ((), charBytes chars ++ rest) := rfl
    rw [hBytes]
    exact quoted_eq_ok_iff.mpr ⟨_, rfl, keyed_eq_ok_iff.mpr
      ⟨_, _, text_writeString key _, hColon, hTakes rest hRest⟩⟩
  begins := ⟨byte '"', _, rfl, by decide, by decide⟩

/- An object is read back if its members are. -/
theorem takes_spaced_object
    {depth : Nat}
    {gap last : List Char}
    (hGap : IsGap gap)
    (hLast : IsGap last)
    {pieces : List (List Char)}
    {named : List (String × Json)}
    (hNamed : List.Forall₂
      (IsItem (byte '}') (quoted (keyed (value depth)))) pieces named) :
    (value (depth + 1)).Takes
      (charBytes ('{' :: (spaced gap last pieces ++ ['}'])))
      (.object (membersOf named)) := by
  intro rest _
  have hListed :=
    listed_spaced hGap hLast (by decide) (by decide) hNamed rest
  rw [charBytes_between (by rfl) (by rfl),
    value_eq_behind _ (by decide)]
  exact (objectOf_eq_ok_iff (framed_value depth)).mpr
    ⟨named, hListed, rfl⟩

/- So it is without space. -/
theorem takes_object
    {depth : Nat}
    {pieces : List (List Char)}
    {named : List (String × Json)}
    (hNamed : List.Forall₂
      (IsItem (byte '}') (quoted (keyed (value depth)))) pieces named) :
    (value (depth + 1)).Takes
      (charBytes ('{' :: ([','].intercalate pieces ++ ['}'])))
      (.object (membersOf named)) := by
  rw [← spaced_nil_nil]
  exact takes_spaced_object isGap_nil isGap_nil hNamed

/- Elements are written one by one. -/
theorem compactItems_eq_map
    (items : List Json) :
    compactItems items = items.map compactChars := by
  induction items with
  | nil => rfl
  | cons item items ih => rw [compactItems, ih, List.map_cons]

/- So are members. -/
theorem compactMembers_eq_map
    (members : List (String × Json)) :
    compactMembers members =
      members.map fun member =>
        memberChars member.1 (compactChars member.2) := by
  induction members with
  | nil => rfl
  | cons member members ih =>
      rcases member with ⟨key, v⟩
      rw [compactMembers, ih, List.map_cons, memberChars]

end SiteSearch.Json
