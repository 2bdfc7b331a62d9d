import SiteSearch.Proofs.Json.Frame

/-
  Where numbers end.

  A numeral ends at the first byte that cannot continue it, so
  it is read alike whatever stands behind it, unless that
  continues a number.

  Main declarations:
    * `SiteSearch.Json.framed_numeral`
    * `SiteSearch.Json.framed_readNumber`
-/

------------------------------------------------------------
-- Numbers
------------------------------------------------------------

namespace SiteSearch.Json

theorem isNumeric_of_isDigit
    (b : UInt8)
    (hDigit : isDigit b = true) :
    isNumeric b = true := by
  simp [isNumeric, hDigit]

/- Digits are all those in front, of which there is one. -/
theorem digits_eq_ok_iff
    {atEnd : Error}
    {bytes ds rest : List UInt8} :
    digits atEnd bytes = .ok (ds, rest) ↔
      (∃ b tail, bytes = b :: tail ∧ isDigit b = true) ∧
        ds = bytes.takeWhile isDigit ∧
          rest = bytes.dropWhile isDigit := by
  cases bytes with
  | nil => simp [digits]
  | cons b tail =>
      by_cases hDigit : isDigit b = true
      · rw [digits, if_pos hDigit, Except.ok.injEq, Prod.mk.injEq]
        constructor
        · rintro ⟨rfl, rfl⟩
          exact ⟨⟨b, tail, rfl, hDigit⟩, rfl, rfl⟩
        · rintro ⟨-, rfl, rfl⟩
          exact ⟨rfl, rfl⟩
      · simp [digits, hDigit]

/- They end where no digit stands. -/
theorem framed_digits
    (atEnd : Error) :
    (digits atEnd).Framed := by
  intro bytes ds rest hRead
  rcases digits_eq_ok_iff.mp hRead with
    ⟨⟨b, tail, hBytes, hDigit⟩, rfl, rfl⟩
  refine ⟨bytes.takeWhile isDigit,
    List.takeWhile_append_dropWhile.symm, ?_⟩
  intro other hOther
  have hHead : ∀ c ∈ other.head?, isDigit c = false := by
    refine hOther.fails isNumeric_of_isDigit ?_
    intro c hc
    have hNot := List.head?_dropWhile_not isDigit bytes
    rw [Option.mem_def.mp hc] at hNot
    simpa using hNot
  have hAll : ∀ c ∈ bytes.takeWhile isDigit, isDigit c = true :=
    fun c hc => List.mem_takeWhile_imp hc
  have hBehind : other.takeWhile isDigit = [] ∧
      other.dropWhile isDigit = other := by
    cases other with
    | nil => exact ⟨rfl, rfl⟩
    | cons c other => simp [hHead c rfl]
  have hFirst : bytes.takeWhile isDigit ++ other =
      b :: (tail.takeWhile isDigit ++ other) := by
    rw [hBytes, List.takeWhile_cons_of_pos hDigit, List.cons_append]
  refine digits_eq_ok_iff.mpr ⟨⟨b, _, hFirst, hDigit⟩, ?_, ?_⟩
  · rw [List.takeWhile_append_of_pos hAll, hBehind.1, List.append_nil]
  · rw [List.dropWhile_append_of_pos hAll, hBehind.2]

theorem consuming_digits
    (atEnd : Error) :
    (digits atEnd).Consuming := by
  intro bytes ds rest hRead
  rcases digits_eq_ok_iff.mp hRead with
    ⟨⟨b, tail, rfl, hDigit⟩, rfl, rfl⟩
  rw [List.dropWhile_cons_of_pos hDigit]
  exact Nat.lt_succ_of_le (List.dropWhile_suffix isDigit).length_le

/- A zero in front stands alone. -/
theorem framed_wholeDigits
    (atEnd : Error) :
    (wholeDigits atEnd).Framed := by
  intro bytes ds rest hRead
  cases bytes with
  | nil => cases hRead
  | cons b bytes =>
      by_cases hZero : b = byte '0'
      · have hRest : rest = bytes ∧ ds = [b] ∧
            ∀ c ∈ rest.head?, isDigit c = false := by
          cases bytes with
          | nil =>
              simp only [wholeDigits, hZero, if_true, Except.ok.injEq,
                Prod.mk.injEq] at hRead
              simp [← hRead.1, ← hRead.2, hZero]
          | cons c bytes =>
              by_cases hDigit : isDigit c = true
              · simp [wholeDigits, hZero, hDigit] at hRead
              · simp only [wholeDigits, hZero, if_true, hDigit,
                  Bool.false_eq_true, if_false, Except.ok.injEq,
                  Prod.mk.injEq] at hRead
                simp [← hRead.1, ← hRead.2, hZero, hDigit]
        rcases hRest with ⟨rfl, rfl, hHead⟩
        refine ⟨[b], rfl, ?_⟩
        intro other hOther
        have hOtherHead := hOther.fails isNumeric_of_isDigit hHead
        cases other with
        | nil => simp [wholeDigits, hZero]
        | cons c other => simp [wholeDigits, hZero, hOtherHead c rfl]
      · have hDigits : ∀ bytes, wholeDigits atEnd (b :: bytes) =
            digits atEnd (b :: bytes) := fun bytes => by
          simp only [wholeDigits, hZero, if_false]
        rw [hDigits] at hRead
        rcases (framed_digits atEnd).of_cons
          (consuming_digits atEnd) b hRead with
          ⟨taken, rfl, hFrame⟩
        refine ⟨b :: taken, rfl, ?_⟩
        intro other hOther
        rw [List.cons_append, hDigits]
        exact hFrame other hOther

theorem consuming_wholeDigits
    (atEnd : Error) :
    (wholeDigits atEnd).Consuming := by
  intro bytes ds rest hRead
  cases bytes with
  | nil => cases hRead
  | cons b bytes =>
      unfold wholeDigits at hRead
      by_cases hZero : b = byte '0'
      · simp only [hZero, if_true] at hRead
        cases bytes with
        | nil =>
            cases hRead
            simp
        | cons c bytes =>
            by_cases hDigit : isDigit c = true
            · simp [hDigit] at hRead
            · simp only [hDigit, Bool.false_eq_true, if_false] at hRead
              cases hRead
              simp
      · simp only [hZero, if_false] at hRead
        exact consuming_digits atEnd hRead

/-
  Bytes that do not fail a test in front have a first byte
  that passes.
-/
theorem exists_head_of_not
    {mark : UInt8 → Bool}
    {bytes : List UInt8}
    (hHead : ¬ ∀ b ∈ bytes.head?, mark b = false) :
    ∃ b rest, bytes = b :: rest ∧ mark b = true := by
  cases bytes with
  | nil => simp at hHead
  | cons b rest => exact ⟨b, rest, rfl, by simpa using hHead⟩

/- A part of a number that is not there takes nothing. -/
theorem exists_taken_of_absent
    {α : Type}
    {reader : Reader α}
    {a : α}
    {mark : UInt8 → Bool}
    (hNumeric : ∀ b, mark b = true → isNumeric b = true)
    (hAbsent : ∀ bytes : List UInt8,
      (∀ b ∈ bytes.head?, mark b = false) →
        reader bytes = .ok (a, bytes))
    {bytes : List UInt8}
    (hHead : ∀ b ∈ bytes.head?, mark b = false) :
    ∃ taken, bytes = taken ++ bytes ∧
      ∀ other, MayReplace bytes other →
        reader (taken ++ other) = .ok (a, other) := by
  refine ⟨[], rfl, ?_⟩
  intro other hOther
  exact hAbsent other (hOther.fails hNumeric hHead)

/- Without a point there is no fraction. -/
theorem fractionDigits_of_absent
    (atEnd : Error)
    (bytes : List UInt8)
    (hHead : ∀ b ∈ bytes.head?, (b == byte '.') = false) :
    fractionDigits atEnd bytes = .ok (none, bytes) := by
  cases bytes with
  | nil => rfl
  | cons b bytes =>
      rw [fractionDigits, if_neg (beq_eq_false_iff_ne.mp (hHead b rfl))]

theorem framed_fractionDigits
    (atEnd : Error) :
    (fractionDigits atEnd).Framed := by
  intro bytes fraction rest hRead
  by_cases hHead : ∀ b ∈ bytes.head?, (b == byte '.') = false
  · rw [fractionDigits_of_absent atEnd bytes hHead] at hRead
    cases hRead
    exact exists_taken_of_absent (by simp +contextual [isNumeric])
      (fractionDigits_of_absent atEnd) hHead
  · rcases exists_head_of_not hHead with ⟨b, bytes, rfl, hPoint⟩
    have hSome : ∀ bytes, fractionDigits atEnd (b :: bytes) =
        (digits atEnd).map some bytes := fun bytes => by
      rw [fractionDigits, if_pos (eq_of_beq hPoint), Reader.map]
      rcases digits atEnd bytes with e | ⟨ds, rest⟩ <;> rfl
    rw [hSome] at hRead
    rcases (framed_digits atEnd).map some hRead with
      ⟨taken, rfl, hFrame⟩
    refine ⟨b :: taken, rfl, ?_⟩
    intro other hOther
    rw [List.cons_append, hSome]
    exact hFrame other hOther

/- A sign, as a reader. -/
def signOf : Reader Bool := fun bytes =>
  .ok (sign bytes)

theorem framed_signOf : signOf.Framed := by
  intro bytes negative rest hRead
  have hNone : ∀ bytes : List UInt8,
      (∀ b ∈ bytes.head?, (b == byte '+' || b == byte '-') = false) →
        signOf bytes = .ok (false, bytes) := by
    intro bytes hHead
    cases bytes with
    | nil => rfl
    | cons b bytes =>
        have hNot := hHead b rfl
        rw [Bool.or_eq_false_iff, beq_eq_false_iff_ne,
          beq_eq_false_iff_ne] at hNot
        rw [signOf, sign, if_neg hNot.1, if_neg hNot.2]
  by_cases hHead :
      ∀ b ∈ bytes.head?, (b == byte '+' || b == byte '-') = false
  · rw [hNone bytes hHead] at hRead
    cases hRead
    exact exists_taken_of_absent
      (by intro b hb; simp only [isNumeric]; grind) hNone hHead
  · rcases exists_head_of_not hHead with ⟨b, bytes, rfl, hSign⟩
    rw [Bool.or_eq_true, beq_iff_eq, beq_iff_eq] at hSign
    rcases hSign with rfl | rfl
    · cases hRead
      exact ⟨[byte '+'], rfl, fun other _ => rfl⟩
    · cases hRead
      exact ⟨[byte '-'], rfl, fun other _ => rfl⟩

/- Behind its mark a power of ten is a sign and digits. -/
def markedPower
    (atEnd : Error) :
    Reader (Option Int) :=
  signOf.andThen fun negative =>
    (digits atEnd).map fun ds =>
      some (if negative then -(natOfDigits ds : Int) else natOfDigits ds)

/- Without its mark there is no power of ten. -/
theorem powerOfTen_of_absent
    (atEnd : Error)
    (bytes : List UInt8)
    (hHead : ∀ b ∈ bytes.head?, (b == byte 'e' || b == byte 'E') =
      false) :
    powerOfTen atEnd bytes = .ok (none, bytes) := by
  cases bytes with
  | nil => rfl
  | cons b bytes =>
      have hNot := hHead b rfl
      rw [Bool.or_eq_false_iff, beq_eq_false_iff_ne,
        beq_eq_false_iff_ne, ← not_or] at hNot
      rw [powerOfTen, if_neg hNot]

theorem powerOfTen_of_marked
    (atEnd : Error)
    {b : UInt8}
    (hMark : b = byte 'e' ∨ b = byte 'E')
    (bytes : List UInt8) :
    powerOfTen atEnd (b :: bytes) = markedPower atEnd bytes := by
  rw [powerOfTen, if_pos hMark]
  simp only [markedPower, Reader.andThen, signOf, bind, Except.bind,
    Reader.map]
  rcases digits atEnd (sign bytes).2 with e | ⟨ds, rest⟩ <;> rfl

theorem framed_powerOfTen
    (atEnd : Error) :
    (powerOfTen atEnd).Framed := by
  intro bytes power rest hRead
  by_cases hHead :
      ∀ b ∈ bytes.head?, (b == byte 'e' || b == byte 'E') = false
  · rw [powerOfTen_of_absent atEnd bytes hHead] at hRead
    cases hRead
    exact exists_taken_of_absent
      (by intro b hb; simp only [isNumeric]; grind)
      (powerOfTen_of_absent atEnd) hHead
  · rcases exists_head_of_not hHead with ⟨b, bytes, rfl, hMark⟩
    rw [Bool.or_eq_true, beq_iff_eq, beq_iff_eq] at hMark
    rw [powerOfTen_of_marked atEnd hMark] at hRead
    have hFramed : (markedPower atEnd).Framed :=
      framed_signOf.andThen fun negative =>
        (framed_digits atEnd).map _
    rcases hFramed hRead with ⟨taken, rfl, hFrame⟩
    refine ⟨b :: taken, rfl, ?_⟩
    intro other hOther
    rw [List.cons_append, powerOfTen_of_marked atEnd hMark]
    exact hFrame other hOther

end SiteSearch.Json

------------------------------------------------------------
-- Numerals
------------------------------------------------------------

namespace SiteSearch.Json

/- A minus in front, if there is one. -/
def minus : Reader Bool := fun bytes =>
  match bytes with
  | b :: rest =>
      .ok (if b = byte '-' then (true, rest) else (false, b :: rest))
  | [] => .ok (false, [])

/- What is read of a numeral behind its minus. -/
def unsignedNumeral
    (atEnd : Error)
    (negative : Bool) :
    Reader Numeral :=
  (wholeDigits atEnd).andThen fun whole =>
    (fractionDigits atEnd).andThen fun fraction =>
      (powerOfTen atEnd).andThen fun power bytes =>
        .ok ({
          negative := negative
          whole := whole
          fraction := fraction.getD []
          power := power.getD 0
          isWhole := fraction.isNone && power.isNone
        }, bytes)

/- A numeral is a minus and what stands behind it. -/
theorem numeral_eq
    (atEnd : Error) :
    numeral atEnd = minus.andThen (unsignedNumeral atEnd) := by
  funext bytes
  cases bytes with
  | nil => rfl
  | cons b bytes => rfl

theorem framed_minus : minus.Framed := by
  intro bytes negative rest hRead
  have hNone : ∀ bytes : List UInt8,
      (∀ b ∈ bytes.head?, (b == byte '-') = false) →
        minus bytes = .ok (false, bytes) := by
    intro bytes hHead
    cases bytes with
    | nil => rfl
    | cons b bytes =>
        rw [minus, if_neg (beq_eq_false_iff_ne.mp (hHead b rfl))]
  by_cases hHead : ∀ b ∈ bytes.head?, (b == byte '-') = false
  · rw [hNone bytes hHead] at hRead
    cases hRead
    exact exists_taken_of_absent (by simp +contextual [isNumeric])
      hNone hHead
  · rcases exists_head_of_not hHead with ⟨b, bytes, rfl, hMinus⟩
    rcases eq_of_beq hMinus with rfl
    cases hRead
    exact ⟨[byte '-'], rfl, fun other _ => rfl⟩

theorem framed_unsignedNumeral
    (atEnd : Error)
    (negative : Bool) :
    (unsignedNumeral atEnd negative).Framed :=
  (framed_wholeDigits atEnd).andThen fun _ =>
    (framed_fractionDigits atEnd).andThen fun _ =>
      (framed_powerOfTen atEnd).andThen fun _ =>
        Reader.framed_pure _

theorem framed_numeral
    (atEnd : Error) :
    (numeral atEnd).Framed := by
  rw [numeral_eq]
  exact framed_minus.andThen (framed_unsignedNumeral atEnd)

/- A numeral has at least one digit. -/
theorem consuming_numeral
    (atEnd : Error) :
    (numeral atEnd).Consuming := by
  rw [numeral_eq]
  intro bytes n rest hRead
  rcases Reader.andThen_eq_ok_iff.mp hRead with
    ⟨negative, between, hMinus, hUnsigned⟩
  have hDigits : (unsignedNumeral atEnd negative).Consuming :=
    (consuming_wholeDigits atEnd).andThen fun _ =>
      ((framed_fractionDigits atEnd).andThen fun _ =>
        (framed_powerOfTen atEnd).andThen fun _ =>
          Reader.framed_pure _).shrinking
  exact lt_of_lt_of_le (hDigits hUnsigned)
    (framed_minus.shrinking hMinus)

/- The value of a numeral that was read, if it has one. -/
def valued
    (n : Numeral) :
    Reader Json.Number := fun bytes => do
  return (← n.value, bytes)

theorem framed_valued
    (n : Numeral) :
    (valued n).Framed := by
  intro bytes number rest hRead
  rcases bind_eq_ok_iff.mp hRead with ⟨value, hValue, hPure⟩
  cases hPure
  refine ⟨[], rfl, ?_⟩
  intro other _
  exact bind_eq_ok_iff.mpr ⟨_, hValue, rfl⟩

theorem readNumber_eq :
    readNumber = (numeral .endInValue).andThen valued := rfl

theorem framed_readNumber : readNumber.Framed := by
  rw [readNumber_eq]
  exact (framed_numeral _).andThen framed_valued

theorem consuming_readNumber : readNumber.Consuming := by
  rw [readNumber_eq]
  exact (consuming_numeral _).andThen fun n =>
    (framed_valued n).shrinking

end SiteSearch.Json

------------------------------------------------------------
-- Missing Digits
------------------------------------------------------------

namespace SiteSearch.Json

/-
  What is reported of a missing digit at the end does not
  matter to a numeral that is there.
-/
theorem digits_atEnd
    {atEnd : Error}
    {bytes rest ds : List UInt8}
    (hRead : digits atEnd bytes = .ok (ds, rest))
    (other : Error) :
    digits other bytes = .ok (ds, rest) :=
  digits_eq_ok_iff.mpr (digits_eq_ok_iff.mp hRead)

theorem wholeDigits_atEnd
    {atEnd : Error}
    {bytes rest ds : List UInt8}
    (hRead : wholeDigits atEnd bytes = .ok (ds, rest))
    (other : Error) :
    wholeDigits other bytes = .ok (ds, rest) := by
  cases bytes with
  | nil => cases hRead
  | cons b bytes =>
      unfold wholeDigits at hRead ⊢
      dsimp only at hRead ⊢
      split_ifs at hRead ⊢ with hZero
      · exact hRead
      · exact digits_atEnd hRead other

theorem fractionDigits_atEnd
    {atEnd : Error}
    {bytes rest : List UInt8}
    {fraction : Option (List UInt8)}
    (hRead : fractionDigits atEnd bytes = .ok (fraction, rest))
    (other : Error) :
    fractionDigits other bytes = .ok (fraction, rest) := by
  cases bytes with
  | nil => exact hRead
  | cons b bytes =>
      unfold fractionDigits at hRead ⊢
      dsimp only at hRead ⊢
      split_ifs at hRead ⊢ with hPoint
      · cases hDigits : digits atEnd bytes with
        | error e => simp [hDigits] at hRead
        | ok result =>
            rw [hDigits] at hRead
            rw [digits_atEnd hDigits other]
            exact hRead
      · exact hRead

theorem powerOfTen_atEnd
    {atEnd : Error}
    {bytes rest : List UInt8}
    {power : Option Int}
    (hRead : powerOfTen atEnd bytes = .ok (power, rest))
    (other : Error) :
    powerOfTen other bytes = .ok (power, rest) := by
  cases bytes with
  | nil => exact hRead
  | cons b bytes =>
      by_cases hMark : b = byte 'e' ∨ b = byte 'E'
      · rw [powerOfTen_of_marked _ hMark] at hRead ⊢
        rcases Reader.andThen_eq_ok_iff.mp hRead with
          ⟨negative, between, hSign, hDigits⟩
        rcases Reader.map_eq_ok_iff.mp hDigits with ⟨ds, hRead', rfl⟩
        exact Reader.andThen_eq_ok_iff.mpr
          ⟨negative, between, hSign, Reader.map_eq_ok_iff.mpr
            ⟨ds, digits_atEnd hRead' other, rfl⟩⟩
      · rw [powerOfTen, if_neg hMark] at hRead ⊢
        exact hRead

theorem numeral_atEnd
    {atEnd : Error}
    {bytes rest : List UInt8}
    {n : Numeral}
    (hRead : numeral atEnd bytes = .ok (n, rest))
    (other : Error) :
    numeral other bytes = .ok (n, rest) := by
  rw [numeral_eq] at hRead ⊢
  rcases Reader.andThen_eq_ok_iff.mp hRead with
    ⟨negative, first, hMinus, hUnsigned⟩
  rcases Reader.andThen_eq_ok_iff.mp hUnsigned with
    ⟨whole, second, hWhole, hParts⟩
  rcases Reader.andThen_eq_ok_iff.mp hParts with
    ⟨fraction, third, hFraction, hPower⟩
  rcases Reader.andThen_eq_ok_iff.mp hPower with
    ⟨power, fourth, hPowerOfTen, hNumeral⟩
  refine Reader.andThen_eq_ok_iff.mpr ⟨negative, first, hMinus, ?_⟩
  refine Reader.andThen_eq_ok_iff.mpr
    ⟨whole, second, wholeDigits_atEnd hWhole other, ?_⟩
  refine Reader.andThen_eq_ok_iff.mpr
    ⟨fraction, third, fractionDigits_atEnd hFraction other, ?_⟩
  exact Reader.andThen_eq_ok_iff.mpr
    ⟨power, fourth, powerOfTen_atEnd hPowerOfTen other, hNumeral⟩

end SiteSearch.Json

------------------------------------------------------------
-- Negative Numbers
------------------------------------------------------------

namespace SiteSearch.Json

/- A numeral is negative only below zero. -/
theorem neg_of_value_eq_negative
    {n : Numeral}
    {i : Int64}
    (hValue : n.value = .ok (.negative i)) :
    i < 0 := by
  unfold Numeral.value at hValue
  generalize absorb 0 n.whole = absorbed at hValue
  rcases absorbed with ⟨start, left⟩
  dsimp only at hValue
  split_ifs at hValue with hWhole hBelow hSign
  · cases hValue
  · simp only [Except.ok.injEq, Number.negative.injEq] at hValue
    simp only [Bool.and_eq_true, decide_eq_true_eq] at hBelow
    rcases hBelow with ⟨⟨-, hPositive⟩, hFits⟩
    have hHalf : UInt64.size / 2 = 2 ^ 63 := rfl
    have hInt : (Int64.ofInt (-start)).toInt = -start :=
      Int64.toInt_ofInt_of_le (by omega) (by omega)
    rw [← hValue, Int64.lt_iff_toInt_lt, hInt, Int64.toInt_zero]
    omega
  · split at hValue <;> cases hValue
  · split at hValue <;> cases hValue

end SiteSearch.Json
