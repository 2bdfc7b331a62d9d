import SiteSearch.Proofs.Json.Decimal
import SiteSearch.Proofs.Json.Quoted

/-
  The grammar of values.

  A value is a word, a number, a string, an array or an
  object, nested to any depth, with space around its items.
  What is a value by this grammar can be skipped, even where
  it cannot be read: where it is nested too deep, is a number
  out of range, or has a string that stands for no text.

  Main declarations:
    * `SiteSearch.Json.IsNumber`
    * `SiteSearch.Json.IsValue`
    * `SiteSearch.Json.IsNumber.exists_numeral`
    * `SiteSearch.Json.skipForms_takes`
    * `SiteSearch.Json.skip_takes`
-/

------------------------------------------------------------
-- Numbers
------------------------------------------------------------

namespace SiteSearch.Json

/- The digits behind a point, if there is one. -/
inductive IsFraction :
    List Char → Prop
  | absent : IsFraction []
  | digits
      {ds : List Char}
      (hDigits : AreFraction ds) :
      IsFraction ('.' :: ds)

/- A power of ten behind its mark, if there is one. -/
inductive IsPower :
    List Char → Prop
  | absent : IsPower []
  | digits
      {mark : Char}
      {sign ds : List Char}
      (hMark : mark = 'e' ∨ mark = 'E')
      (hSign : sign = [] ∨ sign = ['+'] ∨ sign = ['-'])
      (hDigits : AreFraction ds) :
      IsPower (mark :: (sign ++ ds))

/-
  A number: a minus, whole digits, a fraction and a power of
  ten.
-/
inductive IsNumber :
    List Char → Prop
  | mk
      {minus whole fraction power : List Char}
      (hMinus : minus = [] ∨ minus = ['-'])
      (hWhole : AreWhole whole)
      (hFraction : IsFraction fraction)
      (hPower : IsPower power) :
      IsNumber (minus ++ (whole ++ (fraction ++ power)))

/- Digits begin with a digit. -/
theorem AreFraction.exists_first
    {ds : List Char}
    (hDigits : AreFraction ds) :
    ∃ b tail, charBytes ds = b :: tail ∧ Json.isDigit b = true := by
  have hBytes := charBytes_digits hDigits.isDigit
  cases hFirst : charBytes ds with
  | nil => exact absurd (hBytes.symm.trans hFirst) hDigits.map.ne_nil
  | cons b tail =>
      refine ⟨b, tail, rfl, hDigits.map.isDigit b ?_⟩
      rw [← hBytes, hFirst]
      exact List.mem_cons_self

/- A digit is no sign. -/
theorem ne_of_isDigit
    {b : UInt8}
    (hDigit : isDigit b = true) :
    b ≠ byte '+' ∧ b ≠ byte '-' := by
  constructor
  · rintro rfl
    exact absurd hDigit (by decide)
  · rintro rfl
    exact absurd hDigit (by decide)

/- No digit and no point is in front of a power. -/
theorem IsPower.head
    {power : List Char}
    (hPower : IsPower power) :
    ∀ b ∈ (charBytes power).head?, isDigit b = false ∧
      b ≠ byte '.' := by
  cases hPower with
  | absent => exact nofun
  | digits hMark hSign hDigits =>
      rcases hMark with rfl | rfl
      · rintro b ⟨⟩
        decide
      · rintro b ⟨⟩
        decide

/- No digit is in front of a fraction, nor where there is none. -/
theorem IsFraction.head
    {fraction : List Char}
    (hFraction : IsFraction fraction)
    {rest : List UInt8}
    (hRest : ∀ b ∈ rest.head?, isDigit b = false) :
    ∀ b ∈ (charBytes fraction ++ rest).head?, isDigit b = false := by
  cases hFraction with
  | absent => exact hRest
  | digits hDigits =>
      rintro b ⟨⟩
      decide

/-
  A fraction is read, and is absent only if nothing is
  written.
-/
theorem IsFraction.exists_fractionDigits
    {fraction : List Char}
    (hFraction : IsFraction fraction)
    (atEnd : Error)
    {rest : List UInt8}
    (hRest : ∀ b ∈ rest.head?, isDigit b = false ∧ b ≠ byte '.') :
    ∃ read, fractionDigits atEnd (charBytes fraction ++ rest) =
        .ok (read, rest) ∧ (read = none ↔ fraction = []) := by
  cases hFraction with
  | absent =>
      refine ⟨none, fractionDigits_of_absent atEnd _ ?_, by simp⟩
      exact fun b hHead => beq_eq_false_iff_ne.mpr (hRest b hHead).2
  | @digits ds hDigits =>
      have hRead := digits_append atEnd hDigits.map
        fun b hHead => (hRest b hHead).1
      rw [← charBytes_digits hDigits.isDigit] at hRead
      refine ⟨some (charBytes ds), ?_, by simp⟩
      change fractionDigits atEnd
        (byte '.' :: (charBytes ds ++ rest)) = _
      rw [fractionDigits, if_pos rfl, hRead]

/- The sign of a power is read in front of its digits. -/
theorem exists_signOf
    {sign ds : List Char}
    (hSign : sign = [] ∨ sign = ['+'] ∨ sign = ['-'])
    (hDigits : AreFraction ds) :
    ∃ negative, signOf (charBytes (sign ++ ds)) =
      .ok (negative, charBytes ds) := by
  rcases hSign with rfl | rfl | rfl
  · rcases hDigits.exists_first with ⟨b, tail, hBytes, hDigit⟩
    refine ⟨false, ?_⟩
    rw [List.nil_append, hBytes, signOf, Json.sign,
      if_neg (ne_of_isDigit hDigit).1, if_neg (ne_of_isDigit hDigit).2]
  · exact ⟨false, rfl⟩
  · exact ⟨true, rfl⟩

/-
  A power of ten is read, and is absent only if nothing is
  written.
-/
theorem IsPower.exists_powerOfTen
    {power : List Char}
    (hPower : IsPower power)
    (atEnd : Error) :
    ∃ read, powerOfTen atEnd (charBytes power) = .ok (read, []) ∧
      (read = none ↔ power = []) := by
  cases hPower with
  | absent => exact ⟨none, rfl, by simp⟩
  | @digits mark sign ds hMark hSign hDigits =>
      have hBytes : ∃ b, (b = byte 'e' ∨ b = byte 'E') ∧
          charBytes (mark :: (sign ++ ds)) =
            b :: charBytes (sign ++ ds) := by
        rcases hMark with rfl | rfl
        · exact ⟨byte 'e', Or.inl rfl, rfl⟩
        · exact ⟨byte 'E', Or.inr rfl, rfl⟩
      rcases hBytes with ⟨b, hByte, hBytes⟩
      rcases exists_signOf hSign hDigits with ⟨negative, hNegative⟩
      have hRead := digits_append atEnd hDigits.map
        (show ∀ b ∈ ([] : List UInt8).head?, isDigit b = false from nofun)
      rw [List.append_nil, ← charBytes_digits hDigits.isDigit] at hRead
      let n : Int := natOfDigits (charBytes ds)
      refine ⟨some (if negative then -n else n), ?_, by simp⟩
      rw [hBytes, powerOfTen_of_marked atEnd hByte, markedPower,
        Reader.andThen_of_eq_ok hNegative, Reader.map, hRead]

/- Among whole digits there is nothing but digits. -/
theorem AreWhole.not_mem
    {chars : List Char}
    (hWhole : AreWhole chars)
    {c : Char}
    (hOther : c.isDigit = false) :
    c ∉ chars := by
  intro hMember
  cases hOther.symm.trans (hWhole.isDigit c hMember)

/-
  Where there is nothing but whole digits, nothing stands
  around them.
-/
theorem eq_nil_of_areWhole
    {minus whole fraction power : List Char}
    (hMinus : minus = [] ∨ minus = ['-'])
    (hFraction : IsFraction fraction)
    (hPower : IsPower power)
    (hAll : AreWhole (minus ++ (whole ++ (fraction ++ power)))) :
    minus = [] ∧ fraction = [] ∧ power = [] := by
  refine ⟨?_, ?_, ?_⟩
  · rcases hMinus with rfl | rfl
    · rfl
    · exact absurd (by simp)
        (hAll.not_mem (show '-'.isDigit = false from rfl))
  · cases hFraction with
    | absent => rfl
    | digits hDigits =>
        exact absurd (by simp)
          (hAll.not_mem (show '.'.isDigit = false from rfl))
  · cases hPower with
    | absent => rfl
    | @digits mark sign ds hMark hSign hDigits =>
        have hOther : mark.isDigit = false := by
          rcases hMark with rfl | rfl <;> rfl
        exact absurd (by simp) (hAll.not_mem hOther)

/- A minus is read in front of whole digits, if there is one. -/
theorem exists_minus
    {minus whole : List Char}
    (hMinus : minus = [] ∨ minus = ['-'])
    (hWhole : AreWhole whole)
    (rest : List Char) :
    ∃ negative,
      Json.minus (charBytes (minus ++ (whole ++ rest))) =
        .ok (negative, charBytes (whole ++ rest)) ∧
      (negative = false ↔ minus = []) := by
  rcases hMinus with rfl | rfl
  · rcases hWhole.fraction.exists_first with ⟨b, tail, hBytes, hDigit⟩
    refine ⟨false, ?_, by simp⟩
    rw [List.nil_append, charBytes_append, hBytes, List.cons_append,
      Json.minus, if_neg (ne_of_isDigit hDigit).2]
  · exact ⟨true, rfl, by simp⟩

/- Whole digits are read in front of what begins with no digit. -/
theorem AreWhole.wholeDigits
    {whole : List Char}
    (hWhole : AreWhole whole)
    (atEnd : Error)
    {rest : List UInt8}
    (hRest : ∀ b ∈ rest.head?, Json.isDigit b = false) :
    Json.wholeDigits atEnd (charBytes whole ++ rest) =
      .ok (charBytes whole, rest) := by
  have hBytes := charBytes_digits hWhole.isDigit
  have hDigits : AreDigits (charBytes whole) := by
    rw [hBytes]
    exact hWhole.fraction.map
  refine wholeDigits_append atEnd hDigits ?_ hRest
  intro hHead
  rcases hWhole.zero with rfl | ⟨c, cs, rfl, hFirst⟩
  · rfl
  · rw [hBytes] at hHead
    exact absurd (Option.some.inj hHead) hFirst

/-
  A number is read as a numeral, and that is whole and not
  negative if nothing but whole digits is written.
-/
theorem IsNumber.exists_numeral
    {chars : List Char}
    (hNumber : IsNumber chars)
    (atEnd : Error) :
    ∃ n, numeral atEnd (charBytes chars) = .ok (n, []) ∧
      (n.isWhole = true ∧ n.negative = false ↔ AreWhole chars) ∧
      (AreWhole chars → n.whole = charBytes chars) := by
  cases hNumber with
  | @mk minus whole fraction power hMinus hWhole hFraction hPower =>
      rcases exists_minus hMinus hWhole (fraction ++ power) with
        ⟨negative, hMinusRead, hNoMinus⟩
      have hRead := hWhole.wholeDigits atEnd
        (hFraction.head fun b hHead => (hPower.head b hHead).1)
      rcases hFraction.exists_fractionDigits atEnd hPower.head with
        ⟨fraction?, hFractionRead, hNoFraction⟩
      rcases hPower.exists_powerOfTen atEnd with
        ⟨power?, hPowerRead, hNoPower⟩
      refine ⟨{
        negative := negative
        whole := charBytes whole
        fraction := fraction?.getD []
        power := power?.getD 0
        isWhole := fraction?.isNone && power?.isNone
      }, ?_, ⟨?_, ?_⟩, ?_⟩
      · rw [numeral_eq, Reader.andThen_of_eq_ok hMinusRead,
          unsignedNumeral, charBytes_append, charBytes_append,
          Reader.andThen_of_eq_ok hRead,
          Reader.andThen_of_eq_ok hFractionRead,
          Reader.andThen_of_eq_ok hPowerRead]
      · rintro ⟨hIsWhole, hNegative⟩
        rw [Bool.and_eq_true, Option.isNone_iff_eq_none,
          Option.isNone_iff_eq_none, hNoFraction, hNoPower] at hIsWhole
        rw [hNoMinus.mp hNegative, hIsWhole.1, hIsWhole.2,
          List.nil_append, List.append_nil, List.append_nil]
        exact hWhole
      · intro hAll
        rcases eq_nil_of_areWhole hMinus hFraction hPower hAll with
          ⟨hNone, hNothing⟩
        rw [Bool.and_eq_true, Option.isNone_iff_eq_none,
          Option.isNone_iff_eq_none, hNoFraction, hNoPower]
        exact ⟨hNothing, hNoMinus.mpr hNone⟩
      · intro hAll
        rcases eq_nil_of_areWhole hMinus hFraction hPower hAll with
          ⟨rfl, rfl, rfl⟩
        rw [List.nil_append, List.append_nil, List.append_nil]

/- A number begins with a minus or a digit. -/
theorem IsNumber.exists_first
    {chars : List Char}
    (hNumber : IsNumber chars) :
    ∃ b tail, charBytes chars = b :: tail ∧
      (b = byte '-' ∨ isDigit b = true) := by
  cases hNumber with
  | @mk minus whole fraction power hMinus hWhole hFraction hPower =>
      rcases hMinus with rfl | rfl
      · rcases hWhole.fraction.exists_first with
          ⟨b, tail, hBytes, hDigit⟩
        refine ⟨b, tail ++ charBytes (fraction ++ power), ?_,
          Or.inr hDigit⟩
        rw [List.nil_append, charBytes_append, hBytes]
        rfl
      · exact ⟨byte '-', _, rfl, Or.inl rfl⟩

end SiteSearch.Json

------------------------------------------------------------
-- Values
------------------------------------------------------------

namespace SiteSearch.Json

/- Nothing but space stands around an item. -/
structure Padded.IsSpaced
    (padded : Padded) :
    Prop where
  before : IsGap padded.before
  after : IsGap padded.after

/-
  A member of an object: its name and its value, with space
  around both.
-/
structure Member where
  name : Padded
  value : Padded

/- A member as an item of its object. -/
def Member.padded
    (member : Member) :
    Padded where
  before := member.name.before
  chars := member.name.chars ++
    (member.name.after ++
      ':' :: (member.value.before ++ member.value.chars))
  after := member.value.after

/- Nothing but space stands around a name and a value. -/
structure Member.IsSpaced
    (member : Member) :
    Prop where
  name : member.name.IsSpaced
  value : member.value.IsSpaced

/- The word for a flag. -/
def flagChars :
    Bool → List Char
  | true => ['t', 'r', 'u', 'e']
  | false => ['f', 'a', 'l', 's', 'e']

/- The characters of a value, of any depth. -/
inductive IsValue :
    List Char → Prop
  | null : IsValue ['n', 'u', 'l', 'l']
  | bool (flag : Bool) : IsValue (flagChars flag)
  | number
      {chars : List Char}
      (hNumber : IsNumber chars) :
      IsValue chars
  | string
      {chars : List Char}
      (hQuoted : IsQuoted chars) :
      IsValue chars
  | array
      {items : List Padded}
      {last : List Char}
      (hLast : IsGap last)
      (hSpaced : ∀ item ∈ items, item.IsSpaced)
      (hItems : ∀ item ∈ items, IsValue item.chars) :
      IsValue ('[' :: (joined last items ++ [']']))
  | object
      {members : List Member}
      {last : List Char}
      (hLast : IsGap last)
      (hSpaced : ∀ member ∈ members, member.IsSpaced)
      (hNames : ∀ member ∈ members, IsQuoted member.name.chars)
      (hValues : ∀ member ∈ members, IsValue member.value.chars) :
      IsValue ('{' :: (joined last (members.map Member.padded) ++ ['}']))

/-
  A value begins with a byte that is no space and no closing
  bracket.
-/
theorem IsValue.exists_first
    {chars : List Char}
    (hValue : IsValue chars) :
    ∃ b tail, charBytes chars = b :: tail ∧
      isSpace b = false ∧ b ≠ byte ']' ∧ b ≠ byte '}' := by
  cases hValue with
  | null => exact ⟨_, _, rfl, by decide⟩
  | bool flag => cases flag <;> exact ⟨_, _, rfl, by decide⟩
  | array hLast hSpaced hItems => exact ⟨_, _, rfl, by decide⟩
  | object hLast hSpaced hNames hValues => exact ⟨_, _, rfl, by decide⟩
  | string hQuoted =>
      rcases hQuoted with ⟨body, rfl, -⟩
      exact ⟨_, _, rfl, by decide⟩
  | number hNumber =>
      rcases hNumber.exists_first with ⟨b, tail, hBytes, hFirst⟩
      have hSpace := (skipForms []).behind_of_number hFirst tail
      refine ⟨b, tail, hBytes, hSpace.1, ?_, ?_⟩
      · rintro rfl
        exact absurd hFirst (by decide)
      · rintro rfl
        exact absurd hFirst (by decide)

end SiteSearch.Json

------------------------------------------------------------
-- Values That Are Skipped
------------------------------------------------------------

namespace SiteSearch.Json

variable {α : Type}

/-
  A colon is read with the space around it, and then what is
  next.
-/
theorem colon_takes
    {gap chars : List Char}
    (hGap : IsGap gap)
    {next : Reader α}
    {a : α}
    (hNext : next.Takes (charBytes chars) a) :
    (colon.andThen fun _ => next).Takes
      (charBytes (gap ++ ':' :: chars))
      a := by
  intro rest hRest
  have hColon : colon (charBytes (gap ++ ':' :: chars) ++ rest) =
      .ok ((), charBytes chars ++ rest) := by
    have hBytes : charBytes (gap ++ ':' :: chars) ++ rest =
        charBytes gap ++ byte ':' :: (charBytes chars ++ rest) := by
      rw [charBytes_append, charBytes_cons, List.append_assoc]
      rfl
    rw [hBytes, colon, hGap.skipSpace (by decide)]
    exact if_pos rfl
  rw [Reader.andThen_of_eq_ok hColon]
  exact hNext rest hRest

/-
  The characters of an item are no more than those of all
  items.
-/
theorem length_le_joined
    {last : List Char}
    {all : List Padded}
    {padded : Padded}
    (hMember : padded ∈ all) :
    (charBytes padded.chars).length ≤
      (charBytes (joined last all)).length := by
  have hOthers : ∀ {others : List Padded}, padded ∈ others →
      (charBytes padded.chars).length ≤
        (charBytes (others.flatMap (',' :: ·.all))).length := by
    intro others hOther
    induction others with
    | nil => cases hOther
    | cons other others ih =>
        rw [List.flatMap_cons, charBytes_append, List.length_append]
        rcases List.mem_cons.mp hOther with rfl | hLater
        · simp only [Padded.all, charBytes_cons, charBytes_append,
            List.length_append]
          omega
        · exact (ih hLater).trans (Nat.le_add_left _ _)
  cases all with
  | nil => cases hMember
  | cons first others =>
      rw [joined, charBytes_append, charBytes_append,
        List.length_append, List.length_append]
      rcases List.mem_cons.mp hMember with rfl | hLater
      · simp only [Padded.all, charBytes_append, List.length_append]
        omega
      · have hLength := hOthers hLater
        omega

/-
  A member is an item of its object if its name is read between
  the quotes and its value behind the colon.
-/
theorem isPadded_member
    {κ : Type}
    {member : Member}
    (hSpaced : member.IsSpaced)
    {body : List Char}
    (hChars : member.name.chars = '"' :: (body ++ ['"']))
    {name : Reader κ}
    {key : κ}
    (hName : ∀ rest,
      name (charBytes body ++ byte '"' :: rest) = .ok (key, rest))
    (next : κ → Reader α)
    {a : α}
    (hNext : (next key).Takes
      (charBytes (member.value.before ++ member.value.chars)) a) :
    IsPadded (byte '}')
      (quoted (name.andThen fun key => colon.andThen fun _ => next key))
      member.padded a := by
  have hColon := colon_takes hSpaced.name.after hNext
  have hBytes : ∀ rest, charBytes member.padded.chars ++ rest =
      byte '"' :: (charBytes body ++ byte '"' ::
        (charBytes (member.name.after ++
          ':' :: (member.value.before ++ member.value.chars)) ++
            rest)) := by
    intro rest
    rw [Member.padded, hChars, charBytes_append, charBytes_cons,
      charBytes_append]
    simp only [List.append_assoc]
    rfl
  have hFirst := hBytes []
  rw [List.append_nil] at hFirst
  refine ⟨hSpaced.name.before,
    ⟨?_, byte '"', _, hFirst, by decide, by decide⟩,
    hSpaced.value.after⟩
  intro rest hRest
  rw [hBytes]
  exact quoted_eq_ok_iff.mpr ⟨_, rfl,
    Reader.andThen_eq_ok_iff.mpr ⟨key, _, hName _, hColon rest hRest⟩⟩

/- Nor is the value of a member longer than all members. -/
theorem length_value_le_joined
    {last : List Char}
    {members : List Member}
    {member : Member}
    (hMember : member ∈ members) :
    (charBytes member.value.chars).length ≤
      (charBytes (joined last (members.map Member.padded))).length := by
  apply Nat.le_trans _ (length_le_joined (List.mem_map_of_mem hMember))
  simp only [Member.padded, charBytes_append, charBytes_cons,
    List.length_append]
  omega

/- Brackets are two bytes more. -/
theorem length_between
    {opening closing : Char}
    (hOpening : String.utf8EncodeChar opening = [byte opening])
    (hClosing : String.utf8EncodeChar closing = [byte closing])
    (chars : List Char) :
    (charBytes (opening :: (chars ++ [closing]))).length =
      (charBytes chars).length + 2 := by
  have hBytes := charBytes_between hOpening hClosing chars []
  rw [List.append_nil] at hBytes
  rw [hBytes]
  simp

/-
  A clock for the bytes of a value has a tick for its first
  one.
-/
theorem IsValue.skipFrom_takes_of
    {chars : List Char}
    (hValue : IsValue chars)
    {clock : List UInt8}
    (hClock : (charBytes chars).length ≤ clock.length)
    (hTakes : ∀ ticks : List UInt8,
      (charBytes chars).length ≤ ticks.length + 1 →
        (anyForm (skipForms ticks)).Takes (charBytes chars) ()) :
    (skipFrom clock).Takes (charBytes chars) () := by
  cases clock with
  | nil =>
      rcases hValue.exists_first with ⟨b, tail, hBytes, -⟩
      rw [hBytes] at hClock
      exact absurd hClock (by simp)
  | cons tick ticks => exact hTakes ticks hClock

theorem skipFrom_takes_behind_gap
    {clock : List UInt8}
    {gap chars : List Char}
    (hGap : IsGap gap)
    (hTakes : (skipFrom clock).Takes (charBytes chars) ()) :
    (skipFrom clock).Takes (charBytes (gap ++ chars)) () := by
  cases clock with
  | nil => cases hTakes [] nofun
  | cons tick ticks => exact anyForm_takes_behind_gap hGap hTakes

/- A number can be skipped, in range or not. -/
theorem IsNumber.skipForms_takes
    {chars : List Char}
    (hNumber : IsNumber chars)
    (ticks : List UInt8) :
    (anyForm (skipForms ticks)).Takes (charBytes chars) () := by
  intro rest hRest
  rcases hNumber.exists_first with ⟨b, tail, hBytes, hFirst⟩
  rcases hNumber.exists_numeral .invalidNumber with ⟨n, hRead, -⟩
  rcases (skipForms ticks).behind_of_number hFirst (tail ++ rest) with
    ⟨hSpace, hBehind⟩
  have hTaken := (framed_numeral _).takes hRead rest hRest
  rw [hBytes, List.cons_append] at hTaken
  rw [hBytes, List.cons_append, anyForm_cons _ hSpace, hBehind]
  exact Reader.map_eq_ok_iff.mpr ⟨n, hTaken, rfl⟩

variable {clock : List UInt8}

/- A value that can be skipped can be an item of an array. -/
theorem isPadded_skipped
    {item : Padded}
    (hSpaced : item.IsSpaced)
    (hValue : IsValue item.chars)
    (hTakes : (skipFrom clock).Takes (charBytes item.chars) ()) :
    IsPadded (byte ']') (skipFrom clock) item () := by
  rcases hValue.exists_first with
    ⟨b, tail, hBytes, hFirst, hClose, -⟩
  exact ⟨hSpaced.before, ⟨hTakes, b, tail, hBytes, hFirst, hClose⟩,
    hSpaced.after⟩

/- And it can be the value of a member of an object. -/
theorem isPadded_skipped_member
    {member : Member}
    (hSpaced : member.IsSpaced)
    (hName : IsQuoted member.name.chars)
    (hTakes : (skipFrom clock).Takes
      (charBytes member.value.chars) ()) :
    IsPadded (byte '}') (quoted (skipMember (skipFrom clock) ()))
      member.padded () := by
  rcases hName with ⟨body, hChars, hBody⟩
  exact isPadded_member hSpaced hChars (skipText_of_isBody hBody)
    (fun _ => skipFrom clock)
    (skipFrom_takes_behind_gap hSpaced.value.before hTakes)

/- An array can be skipped if its items can. -/
theorem skipForms_takes_array
    {items : List Padded}
    {last : List Char}
    (hLast : IsGap last)
    (hEach : ∀ item ∈ items,
      IsPadded (byte ']') (skipFrom clock) item ()) :
    (anyForm (skipForms clock)).Takes
      (charBytes ('[' :: (joined last items ++ [']']))) () := by
  intro rest _
  have hAll : List.Forall₂ (IsPadded (byte ']') (skipFrom clock))
      items (items.map fun _ => ()) := by
    rw [List.forall₂_map_right_iff, List.forall₂_same]
    exact hEach
  rw [charBytes_between (by rfl) (by rfl), anyForm_cons _ (by decide)]
  exact (skipElements_iff (framed_skipFrom clock).2).mpr
    ⟨_, listed_joined hLast (by decide) (by decide) hAll rest⟩

/- So can an object if its members can. -/
theorem skipForms_takes_object
    {members : List Member}
    {last : List Char}
    (hLast : IsGap last)
    (hEach : ∀ member ∈ members,
      IsPadded (byte '}') (quoted (skipMember (skipFrom clock) ()))
        member.padded ()) :
    (anyForm (skipForms clock)).Takes
      (charBytes
        ('{' :: (joined last (members.map Member.padded) ++ ['}'])))
      () := by
  intro rest _
  have hAll : List.Forall₂
      (IsPadded (byte '}') (quoted (skipMember (skipFrom clock) ())))
      (members.map Member.padded) (members.map fun _ => ()) := by
    rw [List.forall₂_map_left_iff, List.forall₂_map_right_iff,
      List.forall₂_same]
    exact hEach
  rw [charBytes_between (by rfl) (by rfl), anyForm_cons _ (by decide)]
  exact (skipMembers_iff (framed_skipFrom clock).1).mpr
    ⟨_, listed_joined hLast (by decide) (by decide) hAll rest⟩

/-
  A value can be skipped whatever is in it, if the clock allows
  for its length.  By induction on the grammar: each level of
  nesting takes a bracket and a tick of the clock.
-/
theorem skipForms_takes
    {chars : List Char}
    (hValue : IsValue chars)
    {ticks : List UInt8}
    (hTicks : (charBytes chars).length ≤ ticks.length + 1) :
    (anyForm (skipForms ticks)).Takes (charBytes chars) () := by
  induction hValue generalizing ticks with
  | null =>
      intro rest _
      change anyForm _
        (byte 'n' :: byte 'u' :: byte 'l' :: byte 'l' :: rest) = _
      rw [anyForm_cons _ (by decide)]
      rfl
  | bool flag =>
      intro rest _
      cases flag with
      | false =>
          change anyForm _ (byte 'f' :: byte 'a' :: byte 'l' ::
            byte 's' :: byte 'e' :: rest) = _
          rw [anyForm_cons _ (by decide)]
          rfl
      | true =>
          change anyForm _
            (byte 't' :: byte 'r' :: byte 'u' :: byte 'e' :: rest) = _
          rw [anyForm_cons _ (by decide)]
          rfl
  | number hNumber => exact hNumber.skipForms_takes ticks
  | string hQuoted =>
      intro rest _
      rcases hQuoted with ⟨body, rfl, hBody⟩
      have hSkip := skipText_of_isBody hBody rest
      rw [charBytes_between (by rfl) (by rfl),
        anyForm_cons _ (by decide)]
      exact hSkip
  | @array items last hLast hSpaced hItems ih =>
      rw [length_between (by rfl) (by rfl)] at hTicks
      apply skipForms_takes_array hLast
      intro item hMember
      have hLength := @length_le_joined last items item hMember
      apply isPadded_skipped (hSpaced item hMember)
        (hItems item hMember)
      apply (hItems item hMember).skipFrom_takes_of (by omega)
      exact fun ticks => @ih item hMember ticks
  | @object members last hLast hSpaced hNames hValues ih =>
      rw [length_between (by rfl) (by rfl)] at hTicks
      apply skipForms_takes_object hLast
      intro member hMember
      have hLength :=
        @length_value_le_joined last members member hMember
      apply isPadded_skipped_member (hSpaced member hMember)
        (hNames member hMember)
      apply (hValues member hMember).skipFrom_takes_of (by omega)
      exact fun ticks => @ih member hMember ticks

/- A value can be skipped, and space in front of it as well. -/
theorem skip_takes
    {gap chars : List Char}
    (hGap : IsGap gap)
    (hValue : IsValue chars) :
    skip.Takes (charBytes (gap ++ chars)) () := by
  intro rest hRest
  have hClock : (charBytes chars).length ≤
      (charBytes (gap ++ chars) ++ rest).length := by
    rw [charBytes_append, List.length_append, List.length_append]
    omega
  exact skipFrom_takes_behind_gap hGap
    (hValue.skipFrom_takes_of hClock fun _ =>
      skipForms_takes hValue) rest hRest

end SiteSearch.Json
