import SiteSearch.Proofs.Json.Given
import SiteSearch.Proofs.Json.Grammar

/-
  What stands in for a value.

  Of a value by the grammar a field sees what can be read
  without brackets: a word, a number or a string.  In place of
  what cannot be read there is an empty array, which no such
  field accepts.  A text, a size and a flag are accepted by
  the characters that write them.

  Main declarations:
    * `SiteSearch.Json.skim`
    * `SiteSearch.Json.standIn`
    * `SiteSearch.Json.standsFor_skim`
    * `SiteSearch.Json.skim_takes`
    * `SiteSearch.Json.ofJson_text_standIn_iff`
    * `SiteSearch.Json.ofJson_size_standIn_iff`
    * `SiteSearch.Json.ofJson_flag_standIn_iff`
-/

------------------------------------------------------------
-- Values Without Brackets
------------------------------------------------------------

namespace SiteSearch.Json

/- Read a value without brackets, and skip any other. -/
def skim : Reader Json := fun bytes =>
  match value 0 bytes with
  | .ok result => .ok result
  | .error _ => skip.map (fun _ => .array []) bytes

/- What was read, or an empty array in its place. -/
def orBrackets :
    Except Error (Json × List UInt8) → Json
  | .ok (v, _) => v
  | .error _ => .array []

@[simp] theorem orBrackets_ok
    (v : Json)
    (rest : List UInt8) :
    orBrackets (.ok (v, rest)) = v := rfl

@[simp] theorem orBrackets_error
    (e : Error) :
    orBrackets (.error e) = .array [] := rfl

/- What stands in for the value that some characters write. -/
def standIn
    (chars : List Char) :
    Json :=
  orBrackets (value 0 (charBytes chars))

/- Fields that are read as scalars see what is skimmed. -/
theorem standsFor_skim
    {fields : List Field}
    (hKinds : ∀ field ∈ fields, field.kind ≠ .id)
    (depth : Nat) :
    skim.StandsFor depth fields where
  read := by
    intro field hField front v after hSkim x rest
    rw [Kind.read_eq_scalar (hKinds field hField)]
    unfold skim at hSkim
    cases hValue : value 0 front with
    | ok result =>
        rw [hValue] at hSkim
        cases hSkim
        exact scalar_eq_ok_iff field.kind.isLeaf_of_ofJson hValue
    | error e =>
        rw [hValue] at hSkim
        rcases Reader.map_eq_ok_iff.mp hSkim with ⟨done, -, rfl⟩
        constructor
        · intro hRead
          rcases exists_value_of_scalar field.kind.isLeaf_of_ofJson
            0 hRead with
            ⟨w, hOther, -⟩
          rw [hValue] at hOther
          cases hOther
        · rintro ⟨-, hKind⟩
          cases field.kind.isLeaf_of_ofJson _ _ hKind
  skip := by
    intro front v after hSkim
    unfold skim at hSkim
    cases hValue : value 0 front with
    | ok result =>
        rw [hValue] at hSkim
        cases hSkim
        exact skip_of_value hValue
    | error e =>
        rw [hValue] at hSkim
        rcases Reader.map_eq_ok_iff.mp hSkim with ⟨done, hSkip, -⟩
        exact hSkip

/- A value is skimmed as what stands in for it. -/
theorem skim_takes
    {gap chars : List Char}
    (hGap : IsGap gap)
    (hValue : IsValue chars) :
    skim.Takes (charBytes (gap ++ chars)) (standIn chars) := by
  intro rest hRest
  have hSkip := skip_takes hGap hValue rest hRest
  unfold skim standIn
  cases hAlone : value 0 (charBytes chars) with
  | ok result =>
      rcases result with ⟨v, left⟩
      -- Nothing is left of the characters alone.
      have hNone := skip_takes isGap_nil hValue [] nofun
      rw [List.nil_append, List.append_nil,
        skip_of_value hAlone] at hNone
      cases hNone
      have hRead := value_takes_behind_gap hGap
        ((framed_value 0).takes hAlone) rest hRest
      simp only [hRead, orBrackets_ok]
  | error e =>
      cases hRead : value 0 (charBytes (gap ++ chars) ++ rest) with
      | error e' => exact Reader.map_eq_ok_iff.mpr ⟨(), hSkip, rfl⟩
      | ok result =>
          -- What is read with something behind it is read without.
          rcases result with ⟨v, left⟩
          have hLeft := skip_of_value hRead
          rw [hSkip, Except.ok.injEq, Prod.mk.injEq] at hLeft
          rw [← hLeft.2] at hRead
          rcases framed_value 0 hRead with ⟨taken, hTaken, hFrame⟩
          have hShort := hFrame [] (mayReplace_nil rest)
          rw [← List.append_cancel_right hTaken, List.append_nil,
            charBytes_append, value_eq, ← anyForm_skipSpace,
            skipSpace_behind_space hGap, anyForm_skipSpace, ← value_eq,
            hAlone] at hShort
          cases hShort

end SiteSearch.Json

------------------------------------------------------------
-- Whole Numbers
------------------------------------------------------------

namespace SiteSearch.Json

/- The characters of a whole number that fits into 64 bits. -/
structure IsInteger
    (chars : List Char)
    (n : UInt64) :
    Prop where
  digits : AreWhole chars
  value : Nat.ofDigitChars 10 chars 0 = n.toNat

/-
  Digits that are all absorbed make their number, and that
  fits.
-/
theorem absorb_eq_nil_iff
    {ds : List UInt8}
    {start n : Nat}
    (hStart : start < UInt64.size) :
    absorb start ds = (n, []) ↔
      ds.foldl (fun n d => 10 * n + (d.toNat - 48)) start = n ∧
        n < UInt64.size := by
  constructor
  · intro hAll
    induction ds generalizing start with
    | nil =>
        cases hAll
        exact ⟨rfl, hStart⟩
    | cons d ds ih =>
        rw [absorb] at hAll
        split_ifs at hAll with hFits
        · exact ih hFits hAll
        · cases hAll
  · rintro ⟨rfl, hFits⟩
    exact absorb_of_lt hFits

/- A numeral is whole if its digits fit, without a minus. -/
theorem value_eq_whole_iff
    {n : Numeral}
    {m : UInt64} :
    n.value = .ok (.whole m) ↔
      (n.isWhole = true ∧ n.negative = false) ∧
        natOfDigits n.whole = m.toNat := by
  have hFits : absorb 0 n.whole = (m.toNat, []) ↔
      natOfDigits n.whole = m.toNat := by
    rw [absorb_eq_nil_iff (by decide), natOfDigits,
      and_iff_left m.toNat_lt]
  rw [← hFits]
  unfold Numeral.value
  rcases hStart : absorb 0 n.whole with ⟨start, left⟩
  dsimp only
  by_cases hAll : (n.isWhole && left.isEmpty && !n.negative) = true
  · rw [if_pos hAll]
    simp only [Bool.and_eq_true, List.isEmpty_iff,
      Bool.not_eq_true'] at hAll
    rcases hAll with ⟨⟨hIsWhole, rfl⟩, hPlain⟩
    have hSmall := ((absorb_eq_nil_iff (by decide)).mp hStart).2
    simp [hIsWhole, hPlain, ← UInt64.toNat_inj, Nat.mod_eq_of_lt hSmall]
  · rw [if_neg hAll]
    constructor
    · intro hRead
      split at hRead
      · cases hRead
      · split at hRead <;> cases hRead
    · rintro ⟨⟨hIsWhole, hPlain⟩, hSame⟩
      cases hSame
      exact absurd (by simp [hIsWhole, hPlain]) hAll

/- The digits of a number as characters and as bytes. -/
theorem natOfDigits_charBytes
    {chars : List Char}
    (hDigits : ∀ c ∈ chars, c.isDigit = true) :
    natOfDigits (charBytes chars) = Nat.ofDigitChars 10 chars 0 := by
  rw [charBytes_digits hDigits, natOfDigits, List.foldl_map]
  apply List.foldl_ext
  intro sofar c hMember
  rw [(toNat_byte_of_isDigit (hDigits c hMember)).1]
  rfl

/- A number is read as a whole one if it is written as one. -/
theorem IsNumber.readNumber_whole_iff
    {chars : List Char}
    (hNumber : IsNumber chars)
    {m : UInt64}
    {left : List UInt8} :
    readNumber (charBytes chars) = .ok (.whole m, left) ↔
      left = [] ∧ IsInteger chars m := by
  rcases hNumber.exists_numeral .endInValue with
    ⟨n, hNumeral, hWhole, hDigits⟩
  have hValued : readNumber (charBytes chars) = .ok (.whole m, left) ↔
      left = [] ∧ n.value = .ok (.whole m) := by
    rw [readNumber_eq, Reader.andThen_of_eq_ok hNumeral, valued,
      bind_eq_ok_iff]
    simp [pure, Except.pure, and_comm, eq_comm]
  rw [hValued, value_eq_whole_iff, hWhole]
  refine and_congr_right fun _ => ?_
  constructor
  · rintro ⟨hAll, hSame⟩
    rw [hDigits hAll, natOfDigits_charBytes hAll.isDigit] at hSame
    exact ⟨hAll, hSame⟩
  · rintro ⟨hAll, hSame⟩
    rw [hDigits hAll, natOfDigits_charBytes hAll.isDigit]
    exact ⟨hAll, hSame⟩

end SiteSearch.Json

------------------------------------------------------------
-- Texts, Sizes and Flags
------------------------------------------------------------

namespace SiteSearch.Json

/-
  What is accepted as a text, a size or a flag is written as
  one.
-/
structure Agrees
    (chars : List Char)
    (v : Json) :
    Prop where
  text : ∀ s, v = .string s ↔ IsText chars s
  size : ∀ n, v = .number (.whole n) ↔ IsInteger chars n
  flag : ∀ flag, v = .bool flag ↔ chars = flagChars flag

section

variable {chars : List Char}
variable {v : Json}
variable {b : UInt8}

/- A text begins with a quote. -/
theorem text_iff_of_head?
    (hHead : (charBytes chars).head? = some b)
    (hOther : b ≠ byte '"')
    (hNone : ∀ s, v ≠ .string s)
    (s : String) :
    v = .string s ↔ IsText chars s := by
  refine iff_of_false (hNone s) ?_
  rintro ⟨body, rfl, -⟩
  exact hOther (Option.some.inj hHead).symm

/- A whole number begins with a digit. -/
theorem size_iff_of_head?
    (hHead : (charBytes chars).head? = some b)
    (hOther : isDigit b = false)
    (hNone : ∀ n, v ≠ .number (.whole n))
    (n : UInt64) :
    v = .number (.whole n) ↔ IsInteger chars n := by
  refine iff_of_false (hNone n) fun hInteger => ?_
  rcases hInteger.digits.fraction.exists_first with
    ⟨c, tail, hBytes, hDigit⟩
  rw [hBytes] at hHead
  rw [← Option.some.inj hHead, hDigit] at hOther
  cases hOther

/- A flag begins with a letter of its own. -/
theorem flag_iff_of_head?
    (hHead : (charBytes chars).head? = some b)
    (hFalse : b ≠ byte 'f')
    (hTrue : b ≠ byte 't')
    (hNone : ∀ flag, v ≠ .bool flag)
    (flag : Bool) :
    v = .bool flag ↔ chars = flagChars flag := by
  refine iff_of_false (hNone flag) ?_
  rintro rfl
  cases flag with
  | false => exact hFalse (Option.some.inj hHead).symm
  | true => exact hTrue (Option.some.inj hHead).symm

/- Brackets and nulls are none of the three. -/
theorem agrees_of_head?
    (hHead : (charBytes chars).head? = some b)
    (hFirst : b = byte 'n' ∨ b = byte '[' ∨ b = byte '{')
    (hNone : v = .null ∨ v = .array []) :
    Agrees chars v where
  text := by
    refine text_iff_of_head? hHead ?_ ?_
    · rcases hFirst with rfl | rfl | rfl <;> decide
    · rcases hNone with rfl | rfl <;> nofun
  size := by
    refine size_iff_of_head? hHead ?_ ?_
    · rcases hFirst with rfl | rfl | rfl <;> decide
    · rcases hNone with rfl | rfl <;> nofun
  flag := by
    refine flag_iff_of_head? hHead ?_ ?_ ?_
    · rcases hFirst with rfl | rfl | rfl <;> decide
    · rcases hFirst with rfl | rfl | rfl <;> decide
    · rcases hNone with rfl | rfl <;> nofun

end

/- The word for a flag agrees with the flag. -/
theorem agrees_flag
    (flag : Bool) :
    Agrees (flagChars flag) (.bool flag) := by
  cases flag with
  | false =>
      refine ⟨text_iff_of_head? rfl (by decide) nofun,
        size_iff_of_head? rfl (by decide) nofun, ?_⟩
      intro other
      cases other <;> simp [flagChars]
  | true =>
      refine ⟨text_iff_of_head? rfl (by decide) nofun,
        size_iff_of_head? rfl (by decide) nofun, ?_⟩
      intro other
      cases other <;> simp [flagChars]

/-
  What stands in for a value is what is read behind its
  first byte.
-/
theorem standIn_eq
    {chars : List Char}
    {b : UInt8}
    {front : List UInt8}
    (hBytes : charBytes chars = b :: front)
    (hSpace : isSpace b = false) :
    standIn chars = orBrackets ((formsAt 0).behind b front) := by
  rw [standIn, hBytes, value_eq_behind 0 hSpace]

/- What stands in for a number agrees with its digits. -/
theorem IsNumber.agrees
    {chars : List Char}
    (hNumber : IsNumber chars) :
    Agrees chars (standIn chars) := by
  rcases hNumber.exists_first with ⟨b, tail, hBytes, hFirst⟩
  rcases (formsAt 0).behind_of_number hFirst tail with ⟨hSpace, hBehind⟩
  have hHead : (charBytes chars).head? = some b := by
    rw [hBytes]
    rfl
  have hQuote : b ≠ byte '"' ∧ b ≠ byte 'f' ∧ b ≠ byte 't' := by
    refine ⟨?_, ?_, ?_⟩
    · rintro rfl
      exact absurd hFirst (by decide)
    · rintro rfl
      exact absurd hFirst (by decide)
    · rintro rfl
      exact absurd hFirst (by decide)
  have hStand : standIn chars =
      orBrackets
        (Reader.map Json.number readNumber (charBytes chars)) := by
    rw [standIn_eq hBytes hSpace, hBehind, hBytes]
    rfl
  rw [hStand, Reader.map]
  cases hRead : readNumber (charBytes chars) with
  | error e =>
      refine ⟨text_iff_of_head? hHead hQuote.1 (by simp), ?_,
        flag_iff_of_head? hHead hQuote.2.1 hQuote.2.2 (by simp)⟩
      refine fun m => iff_of_false (by simp) fun hInteger => ?_
      rw [hNumber.readNumber_whole_iff.mpr ⟨rfl, hInteger⟩] at hRead
      cases hRead
  | ok result =>
      rcases result with ⟨n, left⟩
      refine ⟨text_iff_of_head? hHead hQuote.1 (by simp), ?_,
        flag_iff_of_head? hHead hQuote.2.1 hQuote.2.2 (by simp)⟩
      intro m
      constructor
      · intro hSame
        cases hSame
        exact (hNumber.readNumber_whole_iff.mp hRead).2
      · intro hInteger
        rw [hNumber.readNumber_whole_iff.mpr ⟨rfl, hInteger⟩] at hRead
        cases hRead
        rfl

/-
  What stands in for a string agrees with the text that it
  spells.
-/
theorem IsQuoted.agrees
    {chars : List Char}
    (hQuoted : IsQuoted chars) :
    Agrees chars (standIn chars) := by
  rcases hQuoted with ⟨body, rfl, hBody⟩
  have hBytes := charBytes_between
    (show String.utf8EncodeChar '"' = [byte '"'] from rfl)
    (show String.utf8EncodeChar '"' = [byte '"'] from rfl) body []
  rw [List.append_nil] at hBytes
  have hHead : (charBytes ('"' :: (body ++ ['"']))).head? =
      some (byte '"') := rfl
  have hIs : ∀ s, IsText ('"' :: (body ++ ['"'])) s ↔
      text (charBytes body ++ [byte '"']) = .ok (s, []) := by
    intro s
    rw [text_iff_spells hBody]
    constructor
    · rintro ⟨other, hSame, hSpells⟩
      rw [List.cons.injEq, List.append_left_inj] at hSame
      rw [hSame.2]
      exact ⟨hSpells, rfl⟩
    · rintro ⟨hSpells, -⟩
      exact ⟨body, rfl, hSpells⟩
  have hStand : standIn ('"' :: (body ++ ['"'])) =
      orBrackets
        (Reader.map Json.string text (charBytes body ++ [byte '"'])) := by
    rw [standIn_eq hBytes (by decide)]
    rfl
  rw [hStand, Reader.map]
  cases hRead : text (charBytes body ++ [byte '"']) with
  | error e =>
      refine ⟨?_, size_iff_of_head? hHead (by decide) (by simp),
        flag_iff_of_head? hHead (by decide) (by decide) (by simp)⟩
      refine fun s => iff_of_false (by simp) fun hText => ?_
      rw [(hIs s).mp hText] at hRead
      cases hRead
  | ok result =>
      rcases result with ⟨read, left⟩
      refine ⟨?_, size_iff_of_head? hHead (by decide) (by simp),
        flag_iff_of_head? hHead (by decide) (by decide) (by simp)⟩
      have hLeft := ((text_iff_spells hBody).mp hRead).2
      intro s
      rw [hIs, hRead]
      simp [hLeft]

/- What stands in for a value agrees with its characters. -/
theorem IsValue.agrees
    {chars : List Char}
    (hValue : IsValue chars) :
    Agrees chars (standIn chars) := by
  cases hValue with
  | null => exact agrees_of_head? rfl (Or.inl rfl) (Or.inl rfl)
  | bool flag =>
      have hStand : standIn (flagChars flag) = .bool flag := by
        cases flag <;> rfl
      rw [hStand]
      exact agrees_flag flag
  | number hNumber => exact hNumber.agrees
  | string hQuoted => exact hQuoted.agrees
  | array hLast hSpaced hItems =>
      exact agrees_of_head? rfl (Or.inr (Or.inl rfl)) (Or.inr rfl)
  | object hLast hSpaced hNames hValues =>
      exact agrees_of_head? rfl (Or.inr (Or.inr rfl)) (Or.inr rfl)

variable {chars : List Char}

/- Only a string is a text. -/
theorem ofJson_text_standIn_iff
    (hValue : IsValue chars)
    {s : String} :
    Kind.ofJson .text (standIn chars) = .ok s ↔ IsText chars s := by
  rw [← hValue.agrees.text]
  cases standIn chars <;> simp [Kind.ofJson, mistyped]

/- Only a whole number is a size. -/
theorem ofJson_size_standIn_iff
    (hValue : IsValue chars)
    {n : UInt64} :
    Kind.ofJson .size (standIn chars) = .ok n ↔ IsInteger chars n := by
  rw [← hValue.agrees.size]
  cases standIn chars with
  | number m => cases m <;> simp [Kind.ofJson, mistyped]
  | _ => simp [Kind.ofJson, mistyped]

/- Only a word for a flag is a flag. -/
theorem ofJson_flag_standIn_iff
    (hValue : IsValue chars)
    {flag : Bool} :
    Kind.ofJson .flag (standIn chars) = .ok flag ↔
      chars = flagChars flag := by
  rw [← hValue.agrees.flag]
  cases standIn chars <;> simp [Kind.ofJson, mistyped]

end SiteSearch.Json
